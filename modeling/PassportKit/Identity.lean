import PassportKit.IssuerRegistry
import PassportKit.Eip712

/-! `Identity.sol`: one contract per user, holding the user's keys and claims.
Only a key holder writes; a claim lands only if its issuer is trusted and calls
it valid at that moment. -/
namespace PassportKit
open Evm OpenZeppelin Eip712

/-- An ERC-735 claim; `present` is the source's `exists`. -/
structure Claim where
  topic : Uint256
  issuer : Address
  signature : Bytes
  data : Bytes
  present : Bool
  deriving DecidableEq

/-- An unwritten storage slot. -/
def Claim.none : Claim := ⟨0, 0, [], [], false⟩

structure Identity (Hash : Type) where
  /-- key => purposes held -/
  keyPurposes : Hash → List ℕ
  /-- topic => issuer => claim -/
  claims : Uint256 → Address → Claim
  countByTopic : Uint256 → ℕ
  issuerRegistry : Address

namespace Identity

def MAX_CLAIMS_PER_TOPIC : ℕ := 16

variable {Hash : Type} [Crypto Hash]

def keyForAddress (account : Address) : Hash := keccak256 (packed (word (addressWord account)))

/-- The key table the constructor leaves: the owner under `MANAGEMENT`. -/
def ownerKeys [DecidableEq Hash] (ownerWallet : Address) : Hash → List ℕ :=
  Function.update (fun _ => []) (keyForAddress ownerWallet) [KeyPurpose.MANAGEMENT]

def deploy [DecidableEq Hash] (ownerWallet issuerRegistry : Address) : Result (Identity Hash) := do
  revertIf (ownerWallet = 0) (.custom .ZeroOwner)
  revertIf (issuerRegistry = 0) (.custom .ZeroIssuerRegistry)
  return {
    keyPurposes := ownerKeys ownerWallet
    claims := fun _ _ => Claim.none
    countByTopic := fun _ => 0
    issuerRegistry := issuerRegistry }

/-- `MANAGEMENT` satisfies any purpose. -/
def keyHasPurpose (self : Identity Hash) (key : Hash) (purpose : ℕ) : Bool :=
  (self.keyPurposes key).any fun held => held = purpose || held = KeyPurpose.MANAGEMENT

/-- The guard shared by `submitClaim` and `revokeClaim`. -/
def onlyClaimKey (self : Identity Hash) (msgSender : Address) : Result Unit :=
  revertIf (self.keyHasPurpose (keyForAddress msgSender) KeyPurpose.CLAIM = false)
    (.custom .NoClaimKey)

/-- The slot accounting of `submitClaim`: a new pair takes one of the capped
slots of its topic, an existing pair is overwritten in place. -/
def takeSlot (self : Identity Hash) (topic : Uint256) (issuer : Address) : Result (Uint256 → ℕ) :=
  if (self.claims topic issuer).present then return self.countByTopic
  else do
    revertIf (MAX_CLAIMS_PER_TOPIC ≤ self.countByTopic topic) (.custom .TopicCap)
    let count ← checkedAdd (self.countByTopic topic) 1
    return Function.update self.countByTopic topic count

/-- `submitClaim` at `address(this)`, with the registry and the issuers it asks.
Returns the claim id beside the new state. -/
def submitClaim (self : Identity Hash) (this : Address) (registry : IssuerRegistry)
    (issuerAt : Address → IClaimIssuer) (msgSender : Address) (topic : Uint256) (issuer : Address)
    (sig data : Bytes) : Result (Identity Hash × Hash) := do
  self.onlyClaimKey msgSender
  revertIf (registry.isTrusted issuer topic = false) (.custom .UntrustedIssuer)
  let valid ← callBool (issuerAt issuer this topic sig data)
  revertIf (valid = false) (.custom .BadSignature)
  let countByTopic ← self.takeSlot topic issuer
  let claim : Claim := { topic, issuer, signature := sig, data, present := true }
  return ({ self with claims := store self.claims topic issuer claim, countByTopic },
    keccak256 (packed (word (addressWord issuer)) ++ packed (word topic)))

def revokeClaim (self : Identity Hash) (msgSender : Address) (topic : Uint256) (issuer : Address) :
    Result (Identity Hash) := do
  self.onlyClaimKey msgSender
  revertIf ((self.claims topic issuer).present = false) (.custom .NoClaimToRevoke)
  let count ← checkedSub (self.countByTopic topic) 1
  return { self with
    claims := store self.claims topic issuer Claim.none
    countByTopic := Function.update self.countByTopic topic count }

def getClaim (self : Identity Hash) (topic : Uint256) (issuer : Address) : Bool × Bytes × Bytes :=
  let claim := self.claims topic issuer
  if claim.present then (true, claim.signature, claim.data) else (false, [], [])

inductive Call where
  | submitClaim (topic : Uint256) (issuer : Address) (sig data : Bytes)
  | revokeClaim (topic : Uint256) (issuer : Address)
  deriving DecidableEq

def call (self : Identity Hash) (this : Address) (registry : IssuerRegistry)
    (issuerAt : Address → IClaimIssuer) (msgSender : Address) : Call → Result (Identity Hash)
  | .submitClaim topic issuer sig data => do
    let (self, _) ← self.submitClaim this registry issuerAt msgSender topic issuer sig data
    return self
  | .revokeClaim topic issuer => self.revokeClaim msgSender topic issuer

variable {self next : Identity Hash} {this msgSender issuer : Address} {registry : IssuerRegistry}
  {issuerAt : Address → IClaimIssuer} {topic : Uint256} {sig data : Bytes}

/-- Distinct accounts have distinct keys. -/
def KeysDistinct (Hash : Type) [Crypto Hash] : Prop :=
  Function.Injective (keyForAddress : Address → Hash)

theorem keysDistinct_of_collisionFree (free : CollisionFree Hash) : KeysDistinct Hash := by
  intro first second same
  exact addressWord_injective (word_last.mp (free same))

theorem deploy_keys [DecidableEq Hash] {owner registryAddress : Address}
    (deployed : deploy owner registryAddress = .ok self) :
    self.keyPurposes = ownerKeys owner := by
  simp only [deploy, bind_eq_ok, revertIf_eq_ok, pure_outcome, Except.ok.injEq] at deployed
  obtain ⟨-, -, -, -, rfl⟩ := deployed
  rfl

/-- A fresh identity holds no claim. -/
theorem deploy_claims [DecidableEq Hash] {owner registryAddress : Address}
    (deployed : deploy owner registryAddress = .ok self) (topic : Uint256) (issuer : Address) :
    self.claims topic issuer = Claim.none := by
  simp only [deploy, bind_eq_ok, revertIf_eq_ok, pure_outcome, Except.ok.injEq] at deployed
  obtain ⟨-, -, -, -, rfl⟩ := deployed
  rfl

/-- On a table holding only its owner, the owner is the only key holder. -/
theorem keyHasPurpose_iff_owner [DecidableEq Hash] (distinct : KeysDistinct Hash) {owner account : Address}
    (keys : self.keyPurposes = ownerKeys owner) (purpose : ℕ) :
    self.keyHasPurpose (keyForAddress account) purpose = true ↔ account = owner := by
  unfold keyHasPurpose
  rw [keys, ownerKeys]
  by_cases same : account = owner
  · subst same
    simp
  · have other : (keyForAddress account : Hash) ≠ keyForAddress owner :=
      fun equal => same (distinct equal)
    simp [Function.update_of_ne other, same]

@[simp] theorem onlyClaimKey_eq_ok {result : Unit} :
    self.onlyClaimKey msgSender = .ok result ↔
      self.keyHasPurpose (keyForAddress msgSender) KeyPurpose.CLAIM = true := by
  simp [onlyClaimKey]

omit [Crypto Hash] in
theorem takeSlot_eq_ok {counts : Uint256 → ℕ} (taken : self.takeSlot topic issuer = .ok counts) :
    (self.claims topic issuer).present = true ∧ counts = self.countByTopic ∨
    (self.claims topic issuer).present = false ∧
      self.countByTopic topic < MAX_CLAIMS_PER_TOPIC ∧
      counts = Function.update self.countByTopic topic (self.countByTopic topic + 1) := by
  unfold takeSlot at taken
  split at taken
  · rename_i present
    exact .inl ⟨present, by simpa using taken.symm⟩
  · rename_i fresh
    simp only [bind_eq_ok, revertIf_eq_ok, checkedAdd_eq_ok, pure_outcome, Except.ok.injEq,
      not_le] at taken
    obtain ⟨-, room, count, ⟨-, rfl⟩, rfl⟩ := taken
    exact .inr ⟨by simpa using fresh, room, rfl⟩

/-- The claim a successful submission stores. -/
def submitted (topic : Uint256) (issuer : Address) (sig data : Bytes) : Claim where
  topic := topic
  issuer := issuer
  signature := sig
  data := data
  present := true

/-- **Submission.** It takes a key holder, a trusted issuer and that issuer's
well-formed yes; it writes exactly one slot. -/
theorem submitClaim_changes {claimId : Hash}
    (done : self.submitClaim this registry issuerAt msgSender topic issuer sig data =
      .ok (next, claimId)) :
    self.keyHasPurpose (keyForAddress msgSender) KeyPurpose.CLAIM = true ∧
      registry.isTrusted issuer topic = true ∧
      (callBool (issuerAt issuer this topic sig data) : Result Bool) = .ok true ∧
      ∃ counts, self.takeSlot topic issuer = .ok counts ∧
        next = { self with
          claims := store self.claims topic issuer (submitted topic issuer sig data)
          countByTopic := counts } := by
  simp only [submitClaim, bind_eq_ok, onlyClaimKey_eq_ok, revertIf_eq_ok, pure_outcome,
    Except.ok.injEq, Prod.mk.injEq] at done
  obtain ⟨-, holder, -, trusted, valid, asked, -, yes, counts, taken, rfl, -⟩ := done
  have accepted : valid = true := by simpa using yes
  subst accepted
  exact ⟨holder, by simpa using trusted, asked, counts, taken, rfl⟩

/-- **Removal.** It takes a key holder and an existing claim; it clears exactly
that slot. -/
theorem revokeClaim_changes (done : self.revokeClaim msgSender topic issuer = .ok next) :
    self.keyHasPurpose (keyForAddress msgSender) KeyPurpose.CLAIM = true ∧
      (self.claims topic issuer).present = true ∧ 1 ≤ self.countByTopic topic ∧
      next = { self with
        claims := store self.claims topic issuer Claim.none
        countByTopic := Function.update self.countByTopic topic (self.countByTopic topic - 1) } := by
  simp only [revokeClaim, bind_eq_ok, onlyClaimKey_eq_ok, revertIf_eq_ok, checkedSub_eq_ok,
    pure_outcome, Except.ok.injEq] at done
  obtain ⟨-, holder, -, present, count, ⟨enough, rfl⟩, rfl⟩ := done
  exact ⟨holder, by simpa using present, enough, rfl⟩

/-- Every write is by a key holder and leaves the key table alone. -/
theorem call_by_key_holder {request : Call}
    (done : self.call this registry issuerAt msgSender request = .ok next) :
    self.keyHasPurpose (keyForAddress msgSender) KeyPurpose.CLAIM = true ∧
      next.keyPurposes = self.keyPurposes := by
  cases request with
  | submitClaim topic issuer sig data =>
    simp only [call, bind_eq_ok, pure_outcome, Except.ok.injEq] at done
    obtain ⟨⟨reached, claimId⟩, submission, rfl⟩ := done
    obtain ⟨holder, -, -, counts, -, rfl⟩ := submitClaim_changes submission
    exact ⟨holder, rfl⟩
  | revokeClaim topic issuer =>
    obtain ⟨holder, -, -, rfl⟩ := revokeClaim_changes done
    exact ⟨holder, rfl⟩

/-- **One slot.** A write leaves it, clears it, or stores the submission it is. -/
theorem call_slot {request : Call} (done : self.call this registry issuerAt msgSender request = .ok next)
    (topic : Uint256) (issuer : Address) :
    next.claims topic issuer = self.claims topic issuer ∨ next.claims topic issuer = Claim.none ∨
      ∃ sig data, request = .submitClaim topic issuer sig data ∧
        next.claims topic issuer = submitted topic issuer sig data ∧
        self.keyHasPurpose (keyForAddress msgSender) KeyPurpose.CLAIM = true ∧
        registry.isTrusted issuer topic = true ∧
        (callBool (issuerAt issuer this topic sig data) : Result Bool) = .ok true := by
  cases request with
  | submitClaim otherTopic otherIssuer sig data =>
    simp only [call, bind_eq_ok, pure_outcome, Except.ok.injEq] at done
    obtain ⟨⟨reached, claimId⟩, submission, rfl⟩ := done
    obtain ⟨holder, trusted, valid, counts, -, rfl⟩ := submitClaim_changes submission
    by_cases slot : topic = otherTopic ∧ issuer = otherIssuer
    · obtain ⟨rfl, rfl⟩ := slot
      exact .inr (.inr ⟨sig, data, rfl, store_same .., holder, trusted, valid⟩)
    · exact .inl (store_of_ne slot)
  | revokeClaim otherTopic otherIssuer =>
    obtain ⟨-, -, -, rfl⟩ := revokeClaim_changes done
    by_cases slot : topic = otherTopic ∧ issuer = otherIssuer
    · obtain ⟨rfl, rfl⟩ := slot
      exact .inr (.inl (store_same ..))
    · exact .inl (store_of_ne slot)

omit [Crypto Hash] in
/-- A read of the slot: present claims come back as stored. -/
theorem getClaim_eq_present {sig data : Bytes} :
    self.getClaim topic issuer = (true, sig, data) ↔
      (self.claims topic issuer).present = true ∧ (self.claims topic issuer).signature = sig ∧
        (self.claims topic issuer).data = data := by
  unfold getClaim
  by_cases present : (self.claims topic issuer).present = true <;> simp [present]

end Identity

end PassportKit
