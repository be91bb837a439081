import PassportKit.ClaimValidity
import PassportKit.TypedData

/-! The two signers off the chain, against the validator on it. The API's
`IssuerSigningService` and the web demo each write the claim format out for
themselves; what they sign is the digest `ClaimIssuer` recovers from, field by
field, and the data they send is what it decodes. -/
namespace PassportKit
open Evm OpenZeppelin Eip712 TypedData

/-- `bigint` fields are integers; their widths are the encoder's to check. -/
structure SignClaimParams where
  identity : Address
  topic : ℤ
  dataHash : Bytes32
  expiresAt : ℤ
  nonce : Bytes32
  deriving DecidableEq

structure IssuerSigningService (viem : Viem) where
  /-- Absent until `ISSUER_SIGNER_PRIVATE_KEY` is configured. -/
  account : Option viem.PrivateKeyAccount
  chainId : ℤ
  claimIssuer : Address

namespace IssuerSigningService

/-- What the holder submits. -/
structure Signed where
  topic : ℤ
  issuer : Address
  signature : Bytes
  data : Bytes
  deriving DecidableEq

def TYPES : List (String × List TypedField) :=
  [("Claim", [⟨"identity", .address⟩, ⟨"topic", .uint 256⟩, ⟨"dataHash", .bytes32⟩,
    ⟨"expiresAt", .uint 64⟩, ⟨"nonce", .bytes32⟩])]

variable {viem : Viem}

def domain (self : IssuerSigningService viem) : TypedDataDomain where
  name := "PassportKitClaim"
  version := "1"
  chainId := self.chainId
  verifyingContract := self.claimIssuer

/-- `signClaim`; `none` where the source throws. -/
def signClaim (self : IssuerSigningService viem) (p : SignClaimParams) : Option Signed := do
  let account ← self.account
  let signature ← viem.signTypedData account {
    domain := self.domain
    types := TYPES
    primaryType := "Claim"
    message := [("identity", .address p.identity), ("topic", .integer p.topic),
      ("dataHash", .bytes32 p.dataHash), ("expiresAt", .integer p.expiresAt),
      ("nonce", .bytes32 p.nonce)] }
  let data ← viem.encodeAbiParameters [.bytes32, .uint 64, .bytes32]
    [.bytes32 p.dataHash, .integer p.expiresAt, .bytes32 p.nonce]
  return { topic := p.topic, issuer := self.claimIssuer, signature, data }

end IssuerSigningService

namespace Demo

/-- The entries of `demo-addresses.json` the signer reads. -/
structure Addresses where
  chainId : ℤ
  claimIssuer : Address
  deriving DecidableEq

def CLAIM_DATA_ABI : List AbiType := [.bytes32, .uint 64, .bytes32]

/-- `keccak256(toHex(...))` of the label, the clock and the counter. -/
def stamped (viem : Viem) (label : String) (now nonceCounter : ℕ) : Bytes32 :=
  viem.keccak256 (ascii (label ++ toString now ++ "-" ++ toString nonceCounter))

/-- `signClaim`, with the two readings of the clock and the module's counter;
returns the signature, the data and the counter left behind. -/
def signClaim (viem : Viem) (issuerSigner : viem.PrivateKeyAccount) (addresses : Addresses)
    (now later nonceCounter : ℕ) (identity : Address) (topic expiresAt : ℤ) :
    Option (Bytes × Bytes × ℕ) := do
  let dataHash := stamped viem "demo-attest-" now nonceCounter
  let nonce := stamped viem "demo-session-" later (nonceCounter + 1)
  let signature ← viem.signTypedData issuerSigner {
    domain := {
      name := "PassportKitClaim"
      version := "1"
      chainId := addresses.chainId
      verifyingContract := addresses.claimIssuer }
    types := [("Claim", [⟨"identity", .address⟩, ⟨"topic", .uint 256⟩, ⟨"dataHash", .bytes32⟩,
      ⟨"expiresAt", .uint 64⟩, ⟨"nonce", .bytes32⟩])]
    primaryType := "Claim"
    message := [("identity", .address identity), ("topic", .integer topic),
      ("dataHash", .bytes32 dataHash), ("expiresAt", .integer expiresAt), ("nonce", .bytes32 nonce)] }
  let data ← viem.encodeAbiParameters CLAIM_DATA_ABI
    [.bytes32 dataHash, .integer expiresAt, .bytes32 nonce]
  return (signature, data, nonceCounter + 2)

end Demo

namespace ClaimIssuer

/-- The fields of the struct, as both signers list them. -/
def claimFields : List TypedField :=
  [⟨"identity", .address⟩, ⟨"topic", .uint 256⟩, ⟨"dataHash", .bytes32⟩, ⟨"expiresAt", .uint 64⟩,
    ⟨"nonce", .bytes32⟩]

/-- The message both signers sign for a claim. -/
def claimMessage (claim : SignedClaim) : List (String × AbiValue) :=
  [("identity", .address claim.identity), ("topic", .integer claim.topic.toNat),
    ("dataHash", .bytes32 claim.dataHash), ("expiresAt", .integer claim.expiresAt.toNat),
    ("nonce", .bytes32 claim.nonce)]

/-- The typed data both signers sign for a claim. -/
def claimTypedData (chainId : Uint256) (this : Address) (claim : SignedClaim) :
    TypedDataDefinition where
  domain := ⟨"PassportKitClaim", "1", chainId.toNat, this⟩
  types := [("Claim", claimFields)]
  primaryType := "Claim"
  message := claimMessage claim

section Format
variable {Hash : Type} [Crypto Hash] {claim : SignedClaim} {chainId : Uint256} {this : Address}

theorem encodeType_claim : encodeType "Claim" claimFields =
    "Claim(address identity,uint256 topic,bytes32 dataHash,uint64 expiresAt,bytes32 nonce)" := by
  decide +kernel

/-- The expiry as the encoder receives it fits the type it is declared with. -/
theorem encodeWord_expiresAt (expiresAt : Uint64) :
    encodeWord (.uint 64) (.integer expiresAt.toNat) = some (uint64Word expiresAt) := by
  have same : (expiresAt.toNat : ℤ) = (uint64Word expiresAt).toNat := by rw [toNat_uint64Word]
  exact encodeWord_uint same (uint64Word_lt expiresAt)

theorem encodeFields_claim : encodeFields (claimMessage claim) claimFields =
    some (packed (word (addressWord claim.identity)) ++ (packed (word claim.topic) ++
      (packed (word claim.dataHash) ++ (packed (word (uint64Word claim.expiresAt)) ++
        (packed (word claim.nonce) ++ [])))) : Preimage Hash) := by
  have topicWord : encodeField (.uint 256) (.integer claim.topic.toNat) =
      some (packed (word claim.topic) : Preimage Hash) :=
    encodeField_word (encodeWord_uint rfl claim.topic.isLt)
  have expiryWord : encodeField (.uint 64) (.integer claim.expiresAt.toNat) =
      some (packed (word (uint64Word claim.expiresAt)) : Preimage Hash) :=
    encodeField_word (encodeWord_expiresAt claim.expiresAt)
  exact encodeFields_cons rfl rfl <| encodeFields_cons rfl topicWord <|
    encodeFields_cons rfl rfl <| encodeFields_cons rfl expiryWord <| encodeFields_cons rfl rfl rfl

theorem hashStruct_claim :
    hashStruct "Claim" claimFields (claimMessage claim) = some (structHash claim : Hash) := by
  rw [hashStruct, encodeFields_claim, encodeType_claim]
  simp only [structHash, CLAIM_TYPEHASH, List.append_assoc, List.append_nil]
  rfl

theorem hashStruct_claimDomain : hashStruct "EIP712Domain" domainFields
    (domainMessage ⟨"PassportKitClaim", "1", chainId.toNat, this⟩) =
      some (domainSeparator (claimDomain chainId this) : Hash) := by
  rw [hashStruct_domain rfl]
  rfl

/-- **One digest.** The typed data of the signers hashes to the digest the contract
recovers the signer from. -/
theorem hashTypedData_claim :
    hashTypedData (claimTypedData chainId this claim) = some (claimDigest chainId this claim : Hash) := by
  have named : (claimTypedData chainId this claim).types.lookup
      (claimTypedData chainId this claim).primaryType = some claimFields := rfl
  exact hashTypedData_eq hashStruct_claimDomain named hashStruct_claim

/-- **One encoding.** The parameters of the signers encode to the data the contract
decodes. -/
theorem encodeParameters_claim :
    encodeParameters [.bytes32, .uint 64, .bytes32]
      [.bytes32 claim.dataHash, .integer claim.expiresAt.toNat, .bytes32 claim.nonce] =
      some (encodeClaimData claim.dataHash claim.expiresAt claim.nonce) := by
  have hashWord : encodeWord .bytes32 (.bytes32 claim.dataHash) = some claim.dataHash := rfl
  have nonceWord : encodeWord .bytes32 (.bytes32 claim.nonce) = some claim.nonce := rfl
  simp only [encodeParameters, hashWord, encodeWord_expiresAt, nonceWord, Option.bind_eq_bind,
    Option.bind_some, Option.pure_def, List.append_nil, encodeClaimData]

end Format

/-! ## Agreement -/

/-- What a signer's pair is worth for a claim: its issuer accepts it while the latch
is open, it decodes to exactly what was signed, and it is refused about anyone and
anything else, and by every other issuer on any chain. -/
structure PairFor (Hash : Type) [Crypto Hash] (signers : Set Address) (issuer : ClaimIssuer)
    (block : Block) (this : Address) (claim : SignedClaim) (sig data : Bytes) : Prop where
  accepted : issuer.revoked claim.identity claim.topic = false →
    issuer.isClaimValid Hash block this claim.identity claim.topic sig data = .ok true
  decodes : decodeClaimData data = .ok (claim.dataHash, claim.expiresAt, claim.nonce)
  refusedElsewhere : ∀ (other : ClaimIssuer) (later : Block) (there identity : Address)
    (topic : Uint256), (∀ signer, other.isAuthorizedSigner signer = true → signer ∈ signers) →
    ¬ (later.chainId = block.chainId ∧ there = this ∧ identity = claim.identity ∧
      topic = claim.topic) →
    other.isClaimValid Hash later there identity topic sig data = .ok false

section Pairs
variable {Hash : Type} [Crypto Hash] {viem : Viem} {signers : Set Address} {issuer : ClaimIssuer}
  {block : Block} {this : Address} {claim : SignedClaim} {sig : Bytes}

/-- A yes or no that is not yes. -/
theorem isClaimValid_false {later : Block} {there identity : Address} {topic : Uint256} {data : Bytes}
    (answers : ∃ verdict, issuer.isClaimValid Hash later there identity topic sig data = .ok verdict)
    (never : issuer.isClaimValid Hash later there identity topic sig data ≠ .ok true) :
    issuer.isClaimValid Hash later there identity topic sig data = .ok false := by
  obtain ⟨verdict, answered⟩ := answers
  cases verdict with
  | false => exact answered
  | true => exact absurd answered never

/-- A pair whose signature recovers an authorised signer for the claim's digest,
and for no other digest any signer of an issuer. -/
theorem pairFor_of_signature (free : CollisionFree Hash) {signer : Address}
    (hashed : claim.dataHash ≠ 0)
    (inTime : claim.expiresAt = 0 ∨ block.timestamp ≤ claim.expiresAt.toNat)
    (recovers : tryRecover (claimDigest block.chainId this claim : Hash) sig = some signer)
    (authorised : issuer.isAuthorizedSigner signer = true)
    (binds : ∀ (other : Hash) account, tryRecover other sig = some account → account ∈ signers →
      other = claimDigest block.chainId this claim) :
    PairFor Hash signers issuer block this claim sig
      (encodeClaimData claim.dataHash claim.expiresAt claim.nonce) := by
  refine ⟨?_, decodeClaimData_encode, ?_⟩
  · intro unlatched
    exact isClaimValid_iff_vouched.mpr ⟨unlatched, claim.dataHash, claim.expiresAt, claim.nonce, rfl,
      hashed, inTime, signer, recovers, authorised⟩
  · intro other later there identity topic known elsewhere
    refine isClaimValid_false (isClaimValid_answers_iff.mpr fun _ _ => ?_) fun accepted => ?_
    · rw [wordAt_encodeClaimData.2.1]
      exact uint64Word_lt _
    · obtain ⟨-, dataHash, expiresAt, nonce, encoded, -, -, account, recovered, vouched⟩ :=
        isClaimValid_iff_vouched.mp accepted
      have same := binds _ account recovered (known account vouched)
      obtain ⟨chain, contract, fields⟩ := claimDigest_inj free same
      exact elsewhere ⟨chain, contract, congrArg SignedClaim.identity fields,
        congrArg SignedClaim.topic fields⟩

/-- What both signers do: sign the claim's typed data, encode its parameters. -/
theorem pairFor_of_viem (free : CollisionFree Hash) (standards : viem.FollowsStandards Hash signers)
    {account : viem.PrivateKeyAccount} (authorised : issuer.isAuthorizedSigner (viem.address account) = true)
    (hashed : claim.dataHash ≠ 0)
    (inTime : claim.expiresAt = 0 ∨ block.timestamp ≤ claim.expiresAt.toNat) :
    ∃ sig, viem.signTypedData account (claimTypedData block.chainId this claim) = some sig ∧
      PairFor Hash signers issuer block this claim sig
        (encodeClaimData claim.dataHash claim.expiresAt claim.nonce) := by
  have digest : hashTypedData (claimTypedData block.chainId this claim) =
      some (claimDigest block.chainId this claim : Hash) := hashTypedData_claim
  obtain ⟨sig, signed, recovers⟩ := standards.signs account _ _ digest
  refine ⟨sig, signed, pairFor_of_signature free hashed inTime recovers authorised ?_⟩
  intro other signer recovered known
  exact standards.binds account _ _ sig digest signed other signer recovered known

/-- The API's service signs every claim it is asked for. -/
theorem signClaim_returns (standards : viem.FollowsStandards Hash signers)
    (account : viem.PrivateKeyAccount) (chainId : Uint256) (this : Address) (claim : SignedClaim) :
    ∃ sig, viem.signTypedData account (claimTypedData chainId this claim) = some sig ∧
      IssuerSigningService.signClaim ⟨some account, chainId.toNat, this⟩
          ⟨claim.identity, claim.topic.toNat, claim.dataHash, claim.expiresAt.toNat, claim.nonce⟩ =
        some ⟨claim.topic.toNat, this, sig,
          encodeClaimData claim.dataHash claim.expiresAt claim.nonce⟩ := by
  have digest : hashTypedData (claimTypedData chainId this claim) =
      some (claimDigest chainId this claim : Hash) := hashTypedData_claim
  obtain ⟨sig, signed, -⟩ := standards.signs account _ _ digest
  have encoded := standards.encodes _ _ _ (@encodeParameters_claim claim)
  have signing : IssuerSigningService.signClaim ⟨some account, chainId.toNat, this⟩
      ⟨claim.identity, claim.topic.toNat, claim.dataHash, claim.expiresAt.toNat, claim.nonce⟩ =
        (viem.signTypedData account (claimTypedData chainId this claim)).bind fun signature =>
          (viem.encodeAbiParameters [.bytes32, .uint 64, .bytes32]
            [.bytes32 claim.dataHash, .integer claim.expiresAt.toNat, .bytes32 claim.nonce]).bind
            fun data => some ⟨claim.topic.toNat, this, signature, data⟩ := rfl
  rw [signing, signed, Option.bind_some, encoded, Option.bind_some]
  exact ⟨sig, rfl, rfl⟩

/-- **Off the chain and on it.** For every claim with a nonzero hash that has not
expired: the API's service and the demo's signer, configured with the issuer's
chain and address and an authorised key, each produce a pair for exactly that
claim. -/
theorem off_chain_signers_agree (free : CollisionFree Hash)
    (standards : viem.FollowsStandards Hash signers) {account : viem.PrivateKeyAccount}
    (authorised : issuer.isAuthorizedSigner (viem.address account) = true)
    (identity : Address) (topic : Uint256) (expiresAt : Uint64)
    (inTime : expiresAt = 0 ∨ block.timestamp ≤ expiresAt.toNat) :
    (∀ dataHash nonce : Bytes32, dataHash ≠ 0 →
      ∃ signed, IssuerSigningService.signClaim ⟨some account, block.chainId.toNat, this⟩
          ⟨identity, topic.toNat, dataHash, expiresAt.toNat, nonce⟩ = some signed ∧
        signed.topic = topic.toNat ∧ signed.issuer = this ∧
        PairFor Hash signers issuer block this ⟨identity, topic, dataHash, expiresAt, nonce⟩
          signed.signature signed.data) ∧
    ∀ now later nonceCounter : ℕ, Demo.stamped viem "demo-attest-" now nonceCounter ≠ 0 →
      ∃ sig data, Demo.signClaim viem account ⟨block.chainId.toNat, this⟩ now later nonceCounter
          identity topic.toNat expiresAt.toNat = some (sig, data, nonceCounter + 2) ∧
        PairFor Hash signers issuer block this
          ⟨identity, topic, Demo.stamped viem "demo-attest-" now nonceCounter, expiresAt,
            Demo.stamped viem "demo-session-" later (nonceCounter + 1)⟩ sig data := by
  constructor
  · intro dataHash nonce hashed
    let claim : SignedClaim := ⟨identity, topic, dataHash, expiresAt, nonce⟩
    obtain ⟨sig, signed, returned⟩ := signClaim_returns standards account block.chainId this claim
    obtain ⟨sig', signed', pair⟩ := @pairFor_of_viem Hash _ viem signers issuer block this claim free
      standards account authorised hashed inTime
    obtain rfl : sig = sig' := Option.some.inj (signed.symm.trans signed')
    exact ⟨_, returned, rfl, rfl, pair⟩
  · intro now later nonceCounter hashed
    let claim : SignedClaim := ⟨identity, topic, Demo.stamped viem "demo-attest-" now nonceCounter,
      expiresAt, Demo.stamped viem "demo-session-" later (nonceCounter + 1)⟩
    obtain ⟨sig, signed, pair⟩ : ∃ sig, viem.signTypedData account
        (claimTypedData block.chainId this claim) = some sig ∧
        PairFor Hash signers issuer block this claim sig
          (encodeClaimData claim.dataHash expiresAt claim.nonce) :=
      pairFor_of_viem free standards authorised hashed inTime
    have encoded := standards.encodes _ _ _ (@encodeParameters_claim claim)
    have signing : Demo.signClaim viem account ⟨block.chainId.toNat, this⟩ now later nonceCounter
        identity topic.toNat expiresAt.toNat =
          (viem.signTypedData account (claimTypedData block.chainId this claim)).bind fun signature =>
            (viem.encodeAbiParameters [.bytes32, .uint 64, .bytes32]
              [.bytes32 claim.dataHash, .integer expiresAt.toNat, .bytes32 claim.nonce]).bind
              fun data => some (signature, data, nonceCounter + 2) := rfl
    rw [signing, signed, Option.bind_some, encoded, Option.bind_some]
    exact ⟨sig, _, rfl, pair⟩

/-- Accounts sign with symbolic signatures; the two labels of one signing hash to
their real digests. -/
def demoViem : Viem where
  PrivateKeyAccount := Address
  address account := account
  signTypedData account data := (hashTypedData data).map (Symbolic.sign account)
  encodeAbiParameters := encodeParameters
  keccak256 text :=
    if text = ascii "demo-attest-1000-0" then 0x84255cd2a01107c00e6f3c2ea53680c8c6993728e72a4d4966e19d5a379314a1
    else if text = ascii "demo-session-1001-1" then 0x28055fd10ee3944eb61ec308e4d08317a07c99294b8eaa1bf05c17672c1206cd
    else 0

theorem demoViem_followsStandards (signers : Set Address) :
    demoViem.FollowsStandards Symbolic signers where
  signs account data hash hashed := by
    refine ⟨Symbolic.sign account hash, ?_, ?_⟩
    · simp only [demoViem, hashed, Option.map_some]
    · exact Symbolic.recover_sign.trans (if_pos rfl)
  binds account data hash sig hashed signed other signer recovered _ := by
    simp only [demoViem, hashed, Option.map_some, Option.some.injEq] at signed
    subst signed
    have meaning : (if other = hash then some account else none) = some signer :=
      Symbolic.recover_sign.symm.trans recovered
    by_contra differs
    rw [if_neg differs] at meaning
    cases meaning
  encodes types values encoded same := same

/-- The service of the issuer at 20 on chain 1, with the key of account 14. -/
def demoService : IssuerSigningService demoViem where
  account := some (14 : Address)
  chainId := 1
  claimIssuer := 20

/-- An issuer with signer 14, and what its two signing paths make of one claim. -/
theorem off_chain_signers_agree_demo :
    ∃ issuer, deploy .standard 10 14 = .ok issuer ∧
      (∃ signed, demoService.signClaim ⟨30, 5, 7, 2000, 9⟩ = some signed ∧
        issuer.isClaimValid Symbolic ⟨1, 1000⟩ 20 30 5 signed.signature signed.data = .ok true ∧
        issuer.isClaimValid Symbolic ⟨1, 1000⟩ 20 31 5 signed.signature signed.data = .ok false) ∧
      ∃ sig data, Demo.signClaim demoViem (14 : Address) ⟨1, 20⟩ 1000 1001 0 30 5 2000 =
          some (sig, data, 2) ∧
        issuer.isClaimValid Symbolic ⟨1, 1000⟩ 20 30 5 sig data = .ok true := by
  obtain ⟨issuer, deployed⟩ : ∃ issuer, deploy .standard 10 14 = .ok issuer := ⟨_, rfl⟩
  have signers : issuer.isAuthorizedSigner = fun account => decide ((14 : Address) ≠ 0 ∧ account = 14) := by
    cases deployed
    rfl
  have latches : issuer.revoked = fun _ _ => false := by
    cases deployed
    rfl
  have authorised : issuer.isAuthorizedSigner (demoViem.address (14 : Address)) = true := by
    rw [signers]
    decide
  have standards := demoViem_followsStandards Set.univ
  have inTime : (2000 : Uint64) = 0 ∨ (⟨1, 1000⟩ : Block).timestamp ≤ (2000 : Uint64).toNat := by decide
  obtain ⟨api, web⟩ := @off_chain_signers_agree Symbolic _ demoViem Set.univ issuer ⟨1, 1000⟩ 20
    Symbolic.collisionFree standards (14 : Address) authorised 30 5 2000 inTime
  obtain ⟨signed, signing, -, -, pair⟩ := api 7 9 (by decide)
  obtain ⟨sig, data, signing', pair'⟩ := web 1000 1001 0 (by decide +kernel)
  refine ⟨issuer, deployed, ⟨signed, signing, ?_, ?_⟩, sig, data, signing', ?_⟩
  · exact pair.accepted (by rw [latches])
  · exact pair.refusedElsewhere issuer ⟨1, 1000⟩ 20 31 5 (fun _ _ => trivial) (by decide)
  · exact pair'.accepted (by rw [latches])

end Pairs

end ClaimIssuer

end PassportKit
