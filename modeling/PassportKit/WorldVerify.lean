import PassportKit.ClaimSigning

/-! Personhood claims from World proofs, `world.service.ts` and `world.controller.ts`. The
API takes the nullifier out of a proof, hashes it into the claim and signs; it keeps no
record of the nullifiers it has seen. A sequence of requests thus yields one identity per
nullifier exactly when the requests themselves never bring one nullifier for two
identities. -/
namespace PassportKit
open Evm OpenZeppelin Eip712 TypedData

inductive WorldKind where
  | selfie
  | document
  deriving DecidableEq, Repr

def WorldKind.text : WorldKind → String
  | .selfie => "selfie"
  | .document => "document"

/-- One credential response; an absent field is `none`. -/
structure WorldResponseItem where
  identifier : Option String
  nullifier : Option String
  session_nullifier : Option (List String)
  deriving DecidableEq, Repr

structure WorldResult where
  responses : Option (List WorldResponseItem)
  identity_attested : Option Bool
  deriving DecidableEq, Repr

structure WorldVerifyResult where
  ok : Bool
  nullifierHash : String
  credential : String
  mock : Bool
  deriving DecidableEq, Repr

structure WorldService where
  appId : String
  rpId : String
  signingKeyHex : String
  deriving DecidableEq, Repr

namespace WorldService

def EXPECTED_CREDENTIALS : WorldKind → List String
  | .selfie => ["face", "selfie", "proof_of_human"]
  | .document => ["passport", "mnc", "eid", "secure_document", "document"]

/-- All three are needed to sign a real request. -/
def isConfigured (self : WorldService) : Bool :=
  self.appId.startsWith "app_" && self.rpId ≠ "" && self.signingKeyHex ≠ ""

/-- The nullifier of one response: `nullifier`, unless it is missing or empty, else the
first of `session_nullifier`. -/
def responseNullifier (r : WorldResponseItem) : Option String :=
  match r.nullifier.filter (· ≠ "") with
  | some nullifier => some nullifier
  | none => r.session_nullifier.bind List.head?

/-- The loop over the responses. -/
def extractNullifier (responses : List WorldResponseItem) : Option String :=
  responses.findSome? responseNullifier

/-- `r.identifier && expected.includes(r.identifier)` -/
def carries (expected : List String) (r : WorldResponseItem) : Bool :=
  r.identifier.any fun identifier => identifier ≠ "" && expected.contains identifier

def missingCredential (kind : WorldKind) (responses : List WorldResponseItem) : String :=
  let got := ",".intercalate (responses.map fun r => r.identifier.getD "")
  "World proof for '" ++ kind.text ++ "' did not carry the required credential " ++
    "(expected " ++ "|".intercalate (EXPECTED_CREDENTIALS kind) ++
    (if kind = .document then " or identity_attested" else "") ++ "; got " ++
    (if got = "" then "none" else got) ++ ")"

def verifyResult (self : WorldService) (DEMO_MODE : Option String) (kind : WorldKind)
    (result : WorldResult) : Except String WorldVerifyResult :=
  let responses := result.responses.getD []
  if ¬ self.isConfigured then
    if DEMO_MODE ≠ some "true" then
      .error "World app / RP signing key not configured"
    else
      let nullifier := (extractNullifier responses).getD ("0xdemo-" ++ kind.text)
      .ok { ok := true, nullifierHash := nullifier, credential := "demo", mock := true }
  else if responses.length = 0 then
    .error "World result has no credential responses"
  else
    let found := responses.find? (carries (EXPECTED_CREDENTIALS kind))
    let attested := kind = .document ∧ result.identity_attested = some true
    if found = none ∧ ¬ attested then
      .error (missingCredential kind responses)
    else
      let chosen := found.or responses.head?
      match (extractNullifier chosen.toList).filter (· ≠ "") with
      | none => .error "World result missing nullifier"
      | some nullifier => .ok {
          ok := true
          nullifierHash := nullifier
          credential := (chosen.bind (·.identifier)).getD "unknown"
          mock := false }

end WorldService

inductive ClaimTopicName where
  | KYC_VERIFIED
  | PROOF_OF_PERSONHOOD
  | ACCREDITED_INVESTOR
  deriving DecidableEq, Repr

def ClaimTopicName.text : ClaimTopicName → String
  | .KYC_VERIFIED => "KYC_VERIFIED"
  | .PROOF_OF_PERSONHOOD => "PROOF_OF_PERSONHOOD"
  | .ACCREDITED_INVESTOR => "ACCREDITED_INVESTOR"

/-- `BigInt(keccak256(toHex(name)))`, before it is made a number. -/
def topicId (viem : Viem) (name : ClaimTopicName) : Uint256 := viem.keccak256 (ascii name.text)

def TOPIC_FOR_KIND : WorldKind → ClaimTopicName
  | .selfie => .PROOF_OF_PERSONHOOD
  | .document => .KYC_VERIFIED

structure WorldVerifyDto where
  identity : Address
  kind : WorldKind
  result : WorldResult
  topicName : Option ClaimTopicName
  deriving DecidableEq, Repr

/-- What `Date.now()` can return. -/
abbrev TimeValue := {milliseconds : ℕ // milliseconds ≤ 8640000000000000}

/-- A request with what the handler reads at that moment: the clock and thirty-two
random bytes. -/
structure VerifyRequest where
  dto : WorldVerifyDto
  now : TimeValue
  randomBytes : Bytes32
  deriving DecidableEq, Repr

/-- What the frontend submits. -/
structure VerifyResponse where
  world : Bool
  mock : Bool
  kind : WorldKind
  credential : String
  topicName : ClaimTopicName
  topic : ℤ
  issuer : Address
  signature : Bytes
  data : Bytes
  deriving DecidableEq

/-- Why a request failed. -/
inductive WorldError where
  | message (text : String)
  /-- The chain library threw. -/
  | viem
  deriving DecidableEq, Repr

structure WorldController (viem : Viem) where
  world : WorldService
  signing : IssuerSigningService viem

namespace WorldController
variable {viem : Viem}

/-- One character of a JSON string. -/
def jsonCharacter (c : Char) : String :=
  if c.toNat = 34 then "\\\""
  else if c.toNat = 92 then "\\\\"
  else if c.toNat = 8 then "\\b"
  else if c.toNat = 12 then "\\f"
  else if c.toNat = 10 then "\\n"
  else if c.toNat = 13 then "\\r"
  else if c.toNat = 9 then "\\t"
  else if c.toNat < 32 then
    "\\u00" ++ String.ofList [Nat.digitChar (c.toNat / 16), Nat.digitChar (c.toNat % 16)]
  else String.singleton c

def jsonString (text : String) : String :=
  "\"" ++ String.join (text.toList.map jsonCharacter) ++ "\""

/-- `JSON.stringify` of the flow, the kind and the nullifier. -/
def evidence (kind : WorldKind) (nullifier : String) : String :=
  "\x7b\"world\":true,\"kind\":" ++ jsonString kind.text ++ ",\"nullifier\":" ++ jsonString nullifier ++
    "\x7d"

/-- The claim a verified proof is signed as. -/
def claimOf (viem : Viem) (request : VerifyRequest) (topicName : ClaimTopicName) (nullifier : String) :
    SignClaimParams where
  identity := request.dto.identity
  topic := (topicId viem topicName).toNat
  dataHash := viem.keccak256 (evidence request.dto.kind nullifier).toUTF8.toList
  expiresAt := (request.now.val / 1000 + 365 * 86400 : ℕ)
  nonce := request.randomBytes

/-- The topic a request is signed for; the demo may choose another. -/
def topicNameFor (DEMO_MODE : Option String) (dto : WorldVerifyDto) : ClaimTopicName :=
  let demoOverride := if DEMO_MODE = some "true" then dto.topicName else none
  demoOverride.getD (TOPIC_FOR_KIND dto.kind)

/-- `POST /world/verify` -/
def verify (self : WorldController viem) (DEMO_MODE : Option String) (request : VerifyRequest) :
    Except WorldError VerifyResponse := do
  let verified ←
    (self.world.verifyResult DEMO_MODE request.dto.kind request.dto.result).mapError .message
  let topicName := topicNameFor DEMO_MODE request.dto
  match self.signing.signClaim (claimOf viem request topicName verified.nullifierHash) with
  | none =>
    if self.signing.account.isNone then
      .error (.message "ISSUER_SIGNER_PRIVATE_KEY not configured")
    else
      .error .viem
  | some signed => .ok {
      world := true
      mock := verified.mock
      kind := request.dto.kind
      credential := verified.credential
      topicName
      topic := signed.topic
      issuer := signed.issuer
      signature := signed.signature
      data := signed.data }

end WorldController

/-! ## Claims and the humans behind them -/

/-- A signed claim, whom it is about and the nullifier it was signed for. -/
structure Issued where
  identity : Address
  nullifier : String
  response : VerifyResponse
  deriving DecidableEq

namespace WorldController
variable {viem : Viem}

def issue (self : WorldController viem) (DEMO_MODE : Option String) (request : VerifyRequest) :
    Option Issued := do
  let verified ← (self.world.verifyResult DEMO_MODE request.dto.kind request.dto.result).toOption
  let response ← (self.verify DEMO_MODE request).toOption
  return ⟨request.dto.identity, verified.nullifierHash, response⟩

/-- The claims a sequence of requests has been signed. -/
def issued (self : WorldController viem) (DEMO_MODE : Option String) (requests : List VerifyRequest) :
    List Issued :=
  requests.filterMap (self.issue DEMO_MODE)

end WorldController

/-- All personhood claims signed for one nullifier are about one identity. -/
def OneIdentityEach (claims : List Issued) : Prop :=
  ∀ first ∈ claims, ∀ second ∈ claims, first.response.topicName = .PROOF_OF_PERSONHOOD →
    second.response.topicName = .PROOF_OF_PERSONHOOD → first.nullifier = second.nullifier →
    first.identity = second.identity

/-- The nullifier a result carries in its first personhood credential. -/
def WorldResult.personhoodNullifier (result : WorldResult) : Option String :=
  ((result.responses.getD []).find?
    (WorldService.carries (WorldService.EXPECTED_CREDENTIALS .selfie))).bind
      fun r => (WorldService.responseNullifier r).filter (· ≠ "")

/-- No two personhood requests bring one nullifier for different identities. -/
def NoReuse (requests : List VerifyRequest) : Prop :=
  ∀ first ∈ requests, ∀ second ∈ requests, first.dto.kind = .selfie → second.dto.kind = .selfie →
    ∀ nullifier, first.dto.result.personhoodNullifier = some nullifier →
      second.dto.result.personhoodNullifier = some nullifier →
      first.dto.identity = second.dto.identity

section Reuse
variable {Hash : Type} [Crypto Hash] {viem : Viem} {signers : Set Address}
  {self : WorldController viem} {DEMO_MODE : Option String} {request : VerifyRequest}
  {account : viem.PrivateKeyAccount} {chainId : Uint256} {this : Address}

/-- What a configured service makes of a personhood proof. -/
theorem verifyResult_selfie {service : WorldService} (configured : service.isConfigured = true)
    (result : WorldResult) :
    (service.verifyResult DEMO_MODE .selfie result).toOption.map (·.nullifierHash) =
      result.personhoodNullifier := by
  rw [WorldService.verifyResult, WorldResult.personhoodNullifier, if_neg (not_not.mpr configured)]
  generalize result.responses.getD [] = responses
  by_cases none : responses.length = 0
  · rw [if_pos none, List.length_eq_zero_iff.mp none]
    rfl
  rw [if_neg none]
  cases found : responses.find? (WorldService.carries (WorldService.EXPECTED_CREDENTIALS .selfie)) with
  | none => rfl
  | some r =>
    have chosen : WorldService.extractNullifier [r] = WorldService.responseNullifier r := by
      rw [WorldService.extractNullifier, List.findSome?_cons]
      cases WorldService.responseNullifier r <;> rfl
    simp only [reduceCtorEq, false_and, if_false, Option.some_or, Option.toList_some, chosen,
      Option.bind_some]
    cases (WorldService.responseNullifier r).filter (· ≠ "") with
    | none => rfl
    | some nullifier => rfl

/-- The on-chain claim a request is signed as. -/
def signedClaimOf (viem : Viem) (request : VerifyRequest) (topicName : ClaimTopicName)
    (nullifier : String) : SignedClaim where
  identity := request.dto.identity
  topic := topicId viem topicName
  dataHash := viem.keccak256 (WorldController.evidence request.dto.kind nullifier).toUTF8.toList
  expiresAt := BitVec.ofNat 64 (request.now.val / 1000 + 365 * 86400)
  nonce := request.randomBytes

/-- A year from any time the clock can show fits a `uint64`. -/
theorem expiresAt_signedClaimOf (request : VerifyRequest) (topicName : ClaimTopicName)
    (nullifier : String) :
    (signedClaimOf viem request topicName nullifier).expiresAt.toNat =
      request.now.val / 1000 + 365 * 86400 := by
  have bound := request.now.property
  rw [signedClaimOf, BitVec.toNat_ofNat]
  omega

/-- A configured signer signs the claim of any request. -/
theorem signClaim_claimOf (standards : viem.FollowsStandards Hash signers)
    (ready : self.signing = ⟨some account, chainId.toNat, this⟩) (topicName : ClaimTopicName)
    (nullifier : String) :
    ∃ sig, viem.signTypedData account
        (ClaimIssuer.claimTypedData chainId this (signedClaimOf viem request topicName nullifier)) =
          some sig ∧
      self.signing.signClaim (WorldController.claimOf viem request topicName nullifier) =
        some ⟨(topicId viem topicName).toNat, this, sig,
          ClaimIssuer.encodeClaimData (signedClaimOf viem request topicName nullifier).dataHash
            (signedClaimOf viem request topicName nullifier).expiresAt request.randomBytes⟩ := by
  obtain ⟨sig, signed, returned⟩ := ClaimIssuer.signClaim_returns standards account chainId this
    (signedClaimOf viem request topicName nullifier)
  rw [expiresAt_signedClaimOf] at returned
  refine ⟨sig, signed, ?_⟩
  rw [ready]
  exact returned

/-- The pair the claim of a request is submitted with. -/
def SignedAs (viem : Viem) (account : viem.PrivateKeyAccount) (chainId : Uint256) (this : Address)
    (claim : SignedClaim) (response : VerifyResponse) : Prop :=
  viem.signTypedData account (ClaimIssuer.claimTypedData chainId this claim) =
      some response.signature ∧
    response.data = ClaimIssuer.encodeClaimData claim.dataHash claim.expiresAt claim.nonce

/-- A personhood request with a nullifier is signed for it and its identity. -/
theorem issue_selfie (standards : viem.FollowsStandards Hash signers)
    (configured : self.world.isConfigured = true) (live : DEMO_MODE ≠ some "true")
    (ready : self.signing = ⟨some account, chainId.toNat, this⟩) (kind : request.dto.kind = .selfie)
    {nullifier : String} (carried : request.dto.result.personhoodNullifier = some nullifier) :
    ∃ claim, self.issue DEMO_MODE request = some claim ∧
      claim.identity = request.dto.identity ∧ claim.nullifier = nullifier ∧
      claim.response.topicName = .PROOF_OF_PERSONHOOD ∧
      SignedAs viem account chainId this (signedClaimOf viem request .PROOF_OF_PERSONHOOD nullifier)
        claim.response := by
  have verified := @verifyResult_selfie DEMO_MODE _ configured request.dto.result
  rw [carried] at verified
  cases outcome : self.world.verifyResult DEMO_MODE .selfie request.dto.result with
  | error message =>
    rw [outcome] at verified
    cases verified
  | ok result =>
    rw [outcome] at verified
    obtain rfl : result.nullifierHash = nullifier := Option.some.inj verified
    obtain ⟨sig, signed, returned⟩ := @signClaim_claimOf Hash _ viem signers self request account chainId this
      standards ready .PROOF_OF_PERSONHOOD result.nullifierHash
    have topic : WorldController.topicNameFor DEMO_MODE request.dto = .PROOF_OF_PERSONHOOD := by
      rw [WorldController.topicNameFor, if_neg live, kind]
      rfl
    let response : VerifyResponse := {
      world := true
      mock := result.mock
      kind := .selfie
      credential := result.credential
      topicName := .PROOF_OF_PERSONHOOD
      topic := (topicId viem .PROOF_OF_PERSONHOOD).toNat
      issuer := this
      signature := sig
      data := ClaimIssuer.encodeClaimData
        (signedClaimOf viem request .PROOF_OF_PERSONHOOD result.nullifierHash).dataHash
        (signedClaimOf viem request .PROOF_OF_PERSONHOOD result.nullifierHash).expiresAt
        request.randomBytes }
    refine ⟨⟨request.dto.identity, result.nullifierHash, response⟩, ?_, rfl, rfl, rfl, signed, rfl⟩
    simp [WorldController.issue, WorldController.verify, kind, outcome, topic, returned, response,
      Except.toOption, Except.mapError, bind, Except.bind, pure]

/-- What a signed claim says about its request. -/
theorem issue_eq_some {claim : Issued} (issued : self.issue DEMO_MODE request = some claim) :
    ∃ verified, self.world.verifyResult DEMO_MODE request.dto.kind request.dto.result = .ok verified ∧
      claim.identity = request.dto.identity ∧ claim.nullifier = verified.nullifierHash ∧
      claim.response.topicName = WorldController.topicNameFor DEMO_MODE request.dto := by
  cases outcome : self.world.verifyResult DEMO_MODE request.dto.kind request.dto.result with
  | error message => simp [WorldController.issue, outcome, Except.toOption] at issued
  | ok verified =>
    cases signing : self.signing.signClaim (WorldController.claimOf viem request
        (WorldController.topicNameFor DEMO_MODE request.dto) verified.nullifierHash) with
    | none =>
      cases unsigned : self.signing.account.isNone <;>
        simp [WorldController.issue, WorldController.verify, outcome, signing, unsigned,
          Except.toOption, Except.mapError, bind, Except.bind] at issued
    | some signed =>
      simp only [WorldController.issue, WorldController.verify, outcome, signing, Except.toOption,
        Except.mapError, bind, Except.bind, pure, Option.bind_some, Option.some.injEq] at issued
      subst issued
      exact ⟨verified, rfl, rfl, rfl, rfl⟩

/-- A personhood claim comes from a personhood request that carried its nullifier. -/
theorem of_issue (configured : self.world.isConfigured = true) (live : DEMO_MODE ≠ some "true")
    {claim : Issued} (issued : self.issue DEMO_MODE request = some claim)
    (personhood : claim.response.topicName = .PROOF_OF_PERSONHOOD) :
    request.dto.kind = .selfie ∧
      request.dto.result.personhoodNullifier = some claim.nullifier ∧
      claim.identity = request.dto.identity := by
  obtain ⟨verified, outcome, identity, nullifier, topic⟩ := issue_eq_some issued
  have asked : WorldController.topicNameFor DEMO_MODE request.dto = TOPIC_FOR_KIND request.dto.kind := by
    rw [WorldController.topicNameFor, if_neg live]
    rfl
  cases kind : request.dto.kind with
  | document =>
    rw [topic, asked, kind] at personhood
    cases personhood
  | selfie =>
    rw [kind] at outcome
    have carried := @verifyResult_selfie DEMO_MODE _ configured request.dto.result
    rw [outcome] at carried
    exact ⟨rfl, by rw [nullifier]; exact carried.symm, identity⟩

/-- **One human, one identity.** Whatever requests a configured API answers outside
the demo, its personhood claims are about one identity for each nullifier exactly
when no two personhood requests bring one nullifier for different identities. -/
theorem one_identity_each_iff_no_reuse (standards : viem.FollowsStandards Hash signers)
    (configured : self.world.isConfigured = true) (live : DEMO_MODE ≠ some "true")
    (ready : self.signing = ⟨some account, chainId.toNat, this⟩) (requests : List VerifyRequest) :
    OneIdentityEach (self.issued DEMO_MODE requests) ↔ NoReuse requests := by
  constructor
  · intro oneEach first firstAsked second secondAsked firstKind secondKind nullifier carried carriedToo
    obtain ⟨claim, issued, identity, named, topic, -⟩ :=
      issue_selfie standards configured live ready firstKind carried
    obtain ⟨claim', issued', identity', named', topic', -⟩ :=
      issue_selfie standards configured live ready secondKind carriedToo
    have same := oneEach claim (List.mem_filterMap.mpr ⟨first, firstAsked, issued⟩) claim'
      (List.mem_filterMap.mpr ⟨second, secondAsked, issued'⟩) topic topic' (named.trans named'.symm)
    rw [← identity, ← identity', same]
  · intro noReuse claim member claim' member' topic topic' same
    obtain ⟨first, firstAsked, issued⟩ := List.mem_filterMap.mp member
    obtain ⟨second, secondAsked, issued'⟩ := List.mem_filterMap.mp member'
    obtain ⟨kind, carried, identity⟩ := of_issue configured live issued topic
    obtain ⟨kind', carried', identity'⟩ := of_issue configured live issued' topic'
    rw [identity, identity']
    exact noReuse first firstAsked second secondAsked kind kind' claim.nullifier carried (same ▸ carried')

end Reuse

/-- Symbolic signatures, as in the signing demo; the evidence and the two topics
hash to their real digests. -/
def worldViem : Viem :=
  { ClaimIssuer.demoViem with
    keccak256 := fun text =>
      if text = (WorldController.evidence .selfie "0xnull").toUTF8.toList then
        0x0bd0908c65e49c392f6ed15f1526cb9f740bce85fda5f8975298282ac2fa6e97
      else if text = ascii "PROOF_OF_PERSONHOOD" then ClaimTopics.PROOF_OF_PERSONHOOD
      else if text = ascii "KYC_VERIFIED" then ClaimTopics.KYC_VERIFIED
      else 0 }

theorem worldViem_followsStandards (signers : Set Address) :
    worldViem.FollowsStandards Symbolic signers :=
  have demo := ClaimIssuer.demoViem_followsStandards signers
  ⟨demo.signs, demo.binds, demo.encodes⟩

/-- The API of the issuer at 20 on chain 1, with the key of account 14. -/
def worldApi : WorldController worldViem where
  world := ⟨"app_demo", "rp_demo", "0x11"⟩
  signing := ⟨some (14 : Address), 1, 20⟩

theorem worldApi_isConfigured : worldApi.world.isConfigured = true := by decide +kernel

/-- A Selfie Check with the nullifier `0xnull`, filed for an identity. -/
def selfieFor (identity : Address) : VerifyRequest where
  dto := {
    identity
    kind := .selfie
    result := ⟨some [⟨some "face", some "0xnull", none⟩], none⟩
    topicName := none }
  now := ⟨1000000, by decide⟩
  randomBytes := 9

theorem personhoodNullifier_selfieFor (identity : Address) :
    (selfieFor identity).dto.result.personhoodNullifier = some "0xnull" := by
  show (⟨some [⟨some "face", some "0xnull", none⟩], none⟩ : WorldResult).personhoodNullifier = _
  decide +kernel

/-- Asking twice for one identity is no reuse. -/
theorem one_identity_each_iff_no_reuse_demo :
    OneIdentityEach (worldApi.issued none [selfieFor 30, selfieFor 30]) := by
  refine (@one_identity_each_iff_no_reuse Symbolic _ worldViem Set.univ worldApi none (14 : Address) 1 20
    (worldViem_followsStandards Set.univ) worldApi_isConfigured (by decide) rfl _).mpr ?_
  intro first firstAsked second secondAsked firstKind secondKind nullifier carried carriedToo
  simp only [List.mem_cons, List.not_mem_nil, or_false, or_self] at firstAsked secondAsked
  rw [firstAsked, secondAsked]

/-- The API signs a Selfie Check for any identity, and the claim holds there on chain. -/
theorem selfieFor_is_accepted {issuer : ClaimIssuer} (deployed : ClaimIssuer.deploy .standard 10 14 = .ok issuer)
    (identity : Address) :
    ∃ claim, worldApi.issue none (selfieFor identity) = some claim ∧ claim.identity = identity ∧
      claim.nullifier = "0xnull" ∧ claim.response.topicName = .PROOF_OF_PERSONHOOD ∧
      issuer.isClaimValid Symbolic ⟨1, 1000⟩ 20 identity ClaimTopics.PROOF_OF_PERSONHOOD
        claim.response.signature claim.response.data = .ok true := by
  obtain ⟨claim, issued, about, nullifier, topic, signed, encoded⟩ :=
    @issue_selfie Symbolic _ worldViem Set.univ worldApi none (selfieFor identity) (14 : Address) 1 20
      (worldViem_followsStandards Set.univ) worldApi_isConfigured (by decide) rfl rfl "0xnull"
      (personhoodNullifier_selfieFor identity)
  have authorised : issuer.isAuthorizedSigner (worldViem.address (14 : Address)) = true := by
    cases deployed
    decide
  have latches : issuer.revoked = fun _ _ => false := by
    cases deployed
    rfl
  let onChain := signedClaimOf worldViem (selfieFor identity) .PROOF_OF_PERSONHOOD "0xnull"
  have onTopic : onChain.topic = ClaimTopics.PROOF_OF_PERSONHOOD := by
    show worldViem.keccak256 (ascii "PROOF_OF_PERSONHOOD") = _
    decide +kernel
  have hashed : onChain.dataHash ≠ 0 := by
    show worldViem.keccak256 (WorldController.evidence .selfie "0xnull").toUTF8.toList ≠ 0
    decide +kernel
  have inTime : onChain.expiresAt = 0 ∨ (⟨1, 1000⟩ : Block).timestamp ≤ onChain.expiresAt.toNat := by
    have clock : (selfieFor identity).now.val = 1000000 := rfl
    right
    rw [expiresAt_signedClaimOf, clock]
    exact (by decide : (1000 : ℕ) ≤ 1000000 / 1000 + 365 * 86400)
  obtain ⟨sig, signed', pair⟩ := @ClaimIssuer.pairFor_of_viem Symbolic _ worldViem Set.univ issuer
    ⟨1, 1000⟩ 20 onChain Symbolic.collisionFree (worldViem_followsStandards Set.univ) (14 : Address)
    authorised hashed inTime
  have same : claim.response.signature = sig := Option.some.inj (signed.symm.trans signed')
  refine ⟨claim, issued, about, nullifier, topic, ?_⟩
  rw [same, encoded, ← onTopic]
  exact pair.accepted (by rw [latches])

/-- Two requests with one World proof: both identities get a claim the issuer
contract vouches for. -/
theorem one_proof_two_identities :
    ∃ issuer, ClaimIssuer.deploy .standard 10 14 = .ok issuer ∧
      ∃ mine ∈ worldApi.issued none [selfieFor 30, selfieFor 31],
        ∃ yours ∈ worldApi.issued none [selfieFor 30, selfieFor 31],
          (mine.identity = 30 ∧ yours.identity = 31 ∧ mine.nullifier = yours.nullifier) ∧
          issuer.isClaimValid Symbolic ⟨1, 1000⟩ 20 30 ClaimTopics.PROOF_OF_PERSONHOOD
            mine.response.signature mine.response.data = .ok true ∧
          issuer.isClaimValid Symbolic ⟨1, 1000⟩ 20 31 ClaimTopics.PROOF_OF_PERSONHOOD
            yours.response.signature yours.response.data = .ok true ∧
          ¬ OneIdentityEach (worldApi.issued none [selfieFor 30, selfieFor 31]) := by
  obtain ⟨issuer, deployed⟩ : ∃ issuer, ClaimIssuer.deploy .standard 10 14 = .ok issuer := ⟨_, rfl⟩
  obtain ⟨mine, issued, about, nullifier, topic, accepted⟩ := selfieFor_is_accepted deployed 30
  obtain ⟨yours, issued', about', nullifier', topic', accepted'⟩ := selfieFor_is_accepted deployed 31
  have member : mine ∈ worldApi.issued none [selfieFor 30, selfieFor 31] :=
    List.mem_filterMap.mpr ⟨_, List.mem_cons_self, issued⟩
  have member' : yours ∈ worldApi.issued none [selfieFor 30, selfieFor 31] :=
    List.mem_filterMap.mpr ⟨_, List.mem_cons_of_mem _ List.mem_cons_self, issued'⟩
  have shared : mine.nullifier = yours.nullifier := nullifier.trans nullifier'.symm
  refine ⟨issuer, deployed, mine, member, yours, member', ⟨about, about', shared⟩, accepted, accepted', ?_⟩
  intro oneEach
  have same := oneEach mine member yours member' topic topic' shared
  rw [about, about'] at same
  exact absurd same (by decide)

end PassportKit
