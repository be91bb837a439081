import PassportKit.Types
import PassportKit.Eip712

/-! `ClaimIssuer.sol`: the authority on whether a signed claim still counts,
asked at write time by the identity and at read time by the gate. Both levers,
the per-user latch and the signer set, are read at the moment of the question. -/
namespace PassportKit
open Evm OpenZeppelin Eip712

/-- The EIP-712 struct an issuer signs:
`Claim(address identity,uint256 topic,bytes32 dataHash,uint64 expiresAt,bytes32 nonce)`. -/
structure SignedClaim where
  identity : Address
  topic : Uint256
  dataHash : Bytes32
  expiresAt : Uint64
  nonce : Bytes32
  deriving DecidableEq

structure ClaimIssuer where
  accessControl : AccessControlBase Error
  access : AccessControl
  /-- The global lever. -/
  isAuthorizedSigner : Address → Bool
  /-- identity => topic => revoked: the per-user latch. -/
  revoked : Address → Uint256 → Bool

namespace ClaimIssuer

def deploy (accessControl : AccessControlBase Error) (admin signer : Address) : Result ClaimIssuer := do
  revertIf (admin = 0) (.custom .ZeroAdmin)
  return {
    accessControl := accessControl
    access := accessControl._grantRole (accessControl._grantRole .vacant AccessControl.DEFAULT_ADMIN_ROLE admin)
      AGENT_ROLE admin
    isAuthorizedSigner := fun account => signer ≠ 0 ∧ account = signer
    revoked := fun _ _ => false }

def setSigner (self : ClaimIssuer) (msgSender signer : Address) (ok : Bool) : Result ClaimIssuer := do
  self.accessControl.onlyRole self.access AccessControl.DEFAULT_ADMIN_ROLE msgSender
  revertIf (ok = true ∧ signer = 0) (.custom .ZeroSigner)
  return { self with isAuthorizedSigner := Function.update self.isAuthorizedSigner signer ok }

def setRevoked (self : ClaimIssuer) (msgSender identity : Address) (topic : Uint256) (value : Bool) :
    Result ClaimIssuer := do
  self.accessControl.onlyRole self.access AGENT_ROLE msgSender
  return { self with revoked := store self.revoked identity topic value }

/-- `abi.decode(data, (bytes32, uint64, bytes32))`: the decoder itself reverts on
a second word that does not fit its type. -/
def decodeClaimData (data : Bytes) : Result (Bytes32 × Uint64 × Bytes32) := do
  revertIf (data.length < 96) .undecodable
  revertIf (uint64Modulus ≤ (wordAt data 1).toNat) .undecodable
  return (wordAt data 0, (wordAt data 1).setWidth 64, wordAt data 2)

section Digest
variable {Hash : Type} [Crypto Hash]

def CLAIM_TYPEHASH : Hash :=
  hashText "Claim(address identity,uint256 topic,bytes32 dataHash,uint64 expiresAt,bytes32 nonce)"

/-- The domain fixed by `EIP712("PassportKitClaim", "1")` at `address(this)`. -/
def claimDomain (chainId : Uint256) (this : Address) : Domain where
  name := "PassportKitClaim"
  version := "1"
  chainId := chainId
  verifyingContract := this

def structHash (claim : SignedClaim) : Hash :=
  keccak256 (digest CLAIM_TYPEHASH ++ packed (word (addressWord claim.identity)) ++
    packed (word claim.topic) ++ packed (word claim.dataHash) ++
    packed (word (uint64Word claim.expiresAt)) ++ packed (word claim.nonce))

/-- `_digest`: what the signer signs for a claim under one issuer on one chain. -/
def claimDigest (chainId : Uint256) (this : Address) (claim : SignedClaim) : Hash :=
  hashTypedDataV4 (claimDomain chainId this) (structHash claim)

end Digest

/-- `isClaimValid`, at `address(this)` in a block. -/
def isClaimValid (Hash : Type) [Crypto Hash] (self : ClaimIssuer) (block : Block) (this : Address)
    (identity : Address) (topic : Uint256) (sig data : Bytes) : Result Bool :=
  if self.revoked identity topic then return false
  else if data.length ≠ 96 then return false
  else do
    let (dataHash, expiresAt, nonce) ← decodeClaimData data
    if dataHash = 0 then return false
    else if expiresAt ≠ 0 ∧ block.timestamp > expiresAt.toNat then return false
    else
      let claim : SignedClaim := { identity, topic, dataHash, expiresAt, nonce }
      match tryRecover (claimDigest block.chainId this claim : Hash) sig with
      | none => return false
      | some signer => return self.isAuthorizedSigner signer

inductive Call where
  | setSigner (signer : Address) (ok : Bool)
  | setRevoked (identity : Address) (topic : Uint256) (value : Bool)
  | roles (call : AccessControl.Call)
  deriving DecidableEq

def call (self : ClaimIssuer) (msgSender : Address) : Call → Result ClaimIssuer
  | .setSigner signer ok => self.setSigner msgSender signer ok
  | .setRevoked identity topic value => self.setRevoked msgSender identity topic value
  | .roles request => do
    let access ← self.accessControl.call self.access msgSender request
    return { self with access }

section Binding
variable {Hash : Type} [Crypto Hash]

theorem structHash_inj (free : CollisionFree Hash) {first second : SignedClaim}
    (same : (structHash first : Hash) = structHash second) : first = second := by
  have strings := free same
  simp only [List.append_assoc, digest_append, word_append, word_last, true_and] at strings
  obtain ⟨identity, topic, dataHash, expiresAt, nonce⟩ := strings
  cases first
  cases second
  simp only [SignedClaim.mk.injEq]
  exact ⟨addressWord_injective identity, topic, dataHash, uint64Word_injective expiresAt, nonce⟩

/-- **Binding.** One digest is signed for one chain, one issuer and one claim. -/
theorem claimDigest_inj (free : CollisionFree Hash) {chainId chainId' : Uint256}
    {this this' : Address} {first second : SignedClaim}
    (same : (claimDigest chainId this first : Hash) = claimDigest chainId' this' second) :
    chainId = chainId' ∧ this = this' ∧ first = second := by
  obtain ⟨chain, contract, structs⟩ := hashTypedDataV4_inj free same
  exact ⟨chain, contract, structHash_inj free structs⟩

end Binding

variable {Hash : Type} [Crypto Hash] {self next : ClaimIssuer} {block : Block} {this : Address}
  {identity : Address} {topic : Uint256} {sig data : Bytes}

/-- The latch answers before anything is decoded. -/
theorem isClaimValid_of_revoked (latched : self.revoked identity topic = true) :
    self.isClaimValid Hash block this identity topic sig data = .ok false := by
  simp [isClaimValid, latched]

/-- A latch opens only by `setRevoked` with `false`. -/
theorem call_keeps_latch {request : Call} {msgSender : Address}
    (done : self.call msgSender request = .ok next) (latched : self.revoked identity topic = true)
    (kept : request ≠ .setRevoked identity topic false) : next.revoked identity topic = true := by
  cases request with
  | setSigner signer ok =>
    simp only [call, setSigner, bind_eq_ok, pure_outcome, Except.ok.injEq] at done
    obtain ⟨-, -, -, -, rfl⟩ := done
    exact latched
  | setRevoked account subject value =>
    simp only [call, setRevoked, bind_eq_ok, pure_outcome, Except.ok.injEq] at done
    obtain ⟨-, -, rfl⟩ := done
    simp only [store_apply]
    split
    · rename_i same
      obtain ⟨rfl, rfl⟩ := same
      cases value with
      | true => rfl
      | false => exact absurd rfl kept
    · exact latched
  | roles request =>
    simp only [call, bind_eq_ok, pure_outcome, Except.ok.injEq] at done
    obtain ⟨access, -, rfl⟩ := done
    exact latched

/-- The claim carried by 96 bytes of stored data. -/
def claimOf (identity : Address) (topic : Uint256) (data : Bytes) : SignedClaim where
  identity := identity
  topic := topic
  dataHash := wordAt data 0
  expiresAt := (wordAt data 1).setWidth 64
  nonce := wordAt data 2

theorem decodeClaimData_eq_ok {fields : Bytes32 × Uint64 × Bytes32} :
    decodeClaimData data = .ok fields ↔
      96 ≤ data.length ∧ (wordAt data 1).toNat < uint64Modulus ∧
        fields = (wordAt data 0, (wordAt data 1).setWidth 64, wordAt data 2) := by
  simp only [decodeClaimData, bind_eq_ok, revertIf_eq_ok, pure_outcome, Except.ok.injEq, not_lt,
    not_le, exists_and_left, exists_const]
  exact and_congr_right fun _ => and_congr_right fun _ => eq_comm

/-- **Acceptance.** A claim is accepted exactly when the latch is open, the data
decodes to a nonzero hash that has not expired, and an authorised signer signed
the digest of that claim. -/
theorem isClaimValid_eq_true :
    self.isClaimValid Hash block this identity topic sig data = .ok true ↔
      self.revoked identity topic = false ∧ data.length = 96 ∧
      (wordAt data 1).toNat < uint64Modulus ∧ wordAt data 0 ≠ 0 ∧
      ((claimOf identity topic data).expiresAt = 0 ∨
        block.timestamp ≤ (claimOf identity topic data).expiresAt.toNat) ∧
      ∃ signer, tryRecover (claimDigest block.chainId this (claimOf identity topic data) : Hash) sig =
          some signer ∧ self.isAuthorizedSigner signer = true := by
  unfold isClaimValid
  split
  · rename_i latched
    simp [latched]
  rename_i unlatched
  split
  · rename_i missized
    simp [missized]
  rename_i sized
  simp only [bind_eq_ok, decodeClaimData_eq_ok]
  constructor
  · rintro ⟨fields, ⟨-, fits, rfl⟩, accepted⟩
    dsimp only at accepted
    split at accepted
    · simp at accepted
    rename_i hashed
    split at accepted
    · simp at accepted
    rename_i unexpired
    refine ⟨by simpa using unlatched, by simpa using sized, fits, hashed, ?_, ?_⟩
    · by_contra neither
      push Not at neither
      exact unexpired neither
    · split at accepted
      · simp at accepted
      · rename_i signer recovered
        exact ⟨signer, recovered, by simpa using accepted⟩
  · rintro ⟨-, exact, fits, hashed, inTime, signer, recovered, authorised⟩
    refine ⟨_, ⟨exact.ge, fits, rfl⟩, ?_⟩
    have unexpired : ¬ ((wordAt data 1).setWidth 64 ≠ 0 ∧
        block.timestamp > ((wordAt data 1).setWidth 64).toNat) := by
      rintro ⟨dated, late⟩
      exact inTime.elim dated (Nat.not_le.mpr late)
    dsimp only
    rw [if_neg hashed, if_neg unexpired]
    change (match tryRecover (claimDigest block.chainId this
        (claimOf identity topic data) : Hash) sig with
      | none => pure false
      | some signer => pure (self.isAuthorizedSigner signer) : Result Bool) = .ok true
    rw [recovered]
    exact congrArg Except.ok authorised

end ClaimIssuer

end PassportKit
