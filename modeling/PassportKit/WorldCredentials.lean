import PassportKit.WorldVerify

/-! Which credential stands behind a World claim. The flow picks a response that
carries a credential of its kind, and takes the nullifier from that response; but a
result that calls itself attested is a document without one, and then the first
response is taken, whatever it carries. -/
namespace PassportKit
open Evm OpenZeppelin Eip712 TypedData

namespace WorldService

/-- The response a configured service goes by. -/
def Chooses (kind : WorldKind) (result : WorldResult) (chosen : WorldResponseItem) : Prop :=
  (result.responses.getD []).find? (carries (EXPECTED_CREDENTIALS kind)) = some chosen ∨
    (result.responses.getD []).find? (carries (EXPECTED_CREDENTIALS kind)) = none ∧ kind = .document ∧
      result.identity_attested = some true ∧ (result.responses.getD []).head? = some chosen

section Configured
variable {self : WorldService} {DEMO_MODE : Option String} {kind : WorldKind} {result : WorldResult}
  {verified : WorldVerifyResult}

theorem extractNullifier_singleton (r : WorldResponseItem) : extractNullifier [r] = responseNullifier r := by
  rw [extractNullifier, List.findSome?_cons]
  cases responseNullifier r <;> rfl

/-- What is left once a response is chosen. -/
def verifiedBy (chosen : WorldResponseItem) : Except String WorldVerifyResult :=
  match (responseNullifier chosen).filter (· ≠ "") with
  | none => .error "World result missing nullifier"
  | some nullifier => .ok ⟨true, nullifier, chosen.identifier.getD "unknown", false⟩

theorem verifyResult_of_chooses (configured : self.isConfigured = true) {chosen : WorldResponseItem}
    (chooses : Chooses kind result chosen) : self.verifyResult DEMO_MODE kind result = verifiedBy chosen := by
  have present : ¬ (result.responses.getD []).length = 0 := by
    intro none
    rw [Chooses, List.length_eq_zero_iff.mp none] at chooses
    rcases chooses with found | ⟨-, -, -, first⟩
    · cases found
    · cases first
  rw [verifyResult, if_neg (not_not.mpr configured), if_neg present]
  rcases chooses with found | ⟨found, isDocument, attested, first⟩
  · simp only [found, reduceCtorEq, false_and, if_false, Option.some_or, Option.toList_some,
      extractNullifier_singleton, Option.bind_some]
    rfl
  · have attests : ¬ (True ∧ ¬ (kind = .document ∧ result.identity_attested = some true)) := by
      rintro ⟨-, unattested⟩
      exact unattested ⟨isDocument, attested⟩
    simp only [found, Option.none_or, first, Option.toList_some, extractNullifier_singleton, Option.bind_some]
    rw [if_neg attests]
    rfl

/-- A configured service accepts by a response it chooses, and takes its nullifier. -/
theorem verifyResult_eq_ok (configured : self.isConfigured = true) :
    self.verifyResult DEMO_MODE kind result = .ok verified ↔
      ∃ chosen, Chooses kind result chosen ∧ verifiedBy chosen = .ok verified := by
  constructor
  · intro accepted
    by_cases chooses : ∃ chosen, Chooses kind result chosen
    · obtain ⟨chosen, chooses⟩ := chooses
      rw [verifyResult_of_chooses configured chooses] at accepted
      exact ⟨chosen, chooses, accepted⟩
    · exfalso
      rw [verifyResult, if_neg (not_not.mpr configured)] at accepted
      cases found : (result.responses.getD []).find? (carries (EXPECTED_CREDENTIALS kind)) with
      | some chosen => exact chooses ⟨chosen, .inl found⟩
      | none =>
        cases first : (result.responses.getD []).head? with
        | none =>
          rw [if_pos (List.length_eq_zero_iff.mpr (List.head?_eq_none_iff.mp first))] at accepted
          cases accepted
        | some chosen =>
          have unattested : ¬ (kind = .document ∧ result.identity_attested = some true) := by
            rintro ⟨isDocument, attested⟩
            exact chooses ⟨chosen, .inr ⟨found, isDocument, attested, first⟩⟩
          have some : ¬ (result.responses.getD []).length = 0 := by
            intro none
            rw [List.length_eq_zero_iff.mp none] at first
            cases first
          rw [if_neg some] at accepted
          simp only [found, if_pos (And.intro trivial unattested), reduceCtorEq] at accepted
  · rintro ⟨chosen, chooses, accepted⟩
    exact (verifyResult_of_chooses configured chooses).trans accepted

theorem verifiedBy_eq_ok {chosen : WorldResponseItem} :
    verifiedBy chosen = .ok verified ↔ responseNullifier chosen = some verified.nullifierHash ∧
      verified.nullifierHash ≠ "" ∧
        verified = ⟨true, verified.nullifierHash, chosen.identifier.getD "unknown", false⟩ := by
  rw [verifiedBy]
  constructor
  · intro accepted
    cases carried : (responseNullifier chosen).filter (· ≠ "") with
    | none =>
      rw [carried] at accepted
      cases accepted
    | some nullifier =>
      rw [carried] at accepted
      cases accepted
      obtain ⟨there, real⟩ := Option.filter_eq_some_iff.mp carried
      exact ⟨there, by simpa using real, rfl⟩
  · rintro ⟨carried, real, same⟩
    have kept : (responseNullifier chosen).filter (· ≠ "") = some verified.nullifierHash := by
      rw [carried, Option.filter_some, if_pos (by simpa using real)]
    rw [kept]
    exact congrArg Except.ok same.symm

end Configured
end WorldService

/-- A response that carries one of the credentials of a flow, with this nullifier. -/
def WorldResult.Carries (result : WorldResult) (kind : WorldKind) (nullifier : String) : Prop :=
  ∃ r ∈ result.responses.getD [],
    WorldService.carries (WorldService.EXPECTED_CREDENTIALS kind) r = true ∧
      WorldService.responseNullifier r = some nullifier

namespace WorldController
variable {viem : Viem}

/-- The pair that answers a request was signed for a claim on this topic that is anchored
in this nullifier. -/
def AnchoredIn (self : WorldController viem) (request : VerifyRequest) (response : VerifyResponse)
    (nullifier : String) : Prop :=
  ∃ signed, self.signing.signClaim (claimOf viem request response.topicName nullifier) = some signed ∧
    response.signature = signed.signature ∧ response.data = signed.data

/-- Whatever is signed for a request is on the topic of its kind, and anchored in the
nullifier of a response that carries a credential of that kind. -/
def ByItsCredential (self : WorldController viem) (DEMO_MODE : Option String) (request : VerifyRequest) : Prop :=
  ∀ response, self.verify DEMO_MODE request = .ok response →
    response.topicName = TOPIC_FOR_KIND request.dto.kind ∧
      ∃ nullifier, request.dto.result.Carries request.dto.kind nullifier ∧
        self.AnchoredIn request response nullifier

/-- A document that only calls itself attested has no nullifier to anchor a claim in. -/
def AttestedByCredential (dto : WorldVerifyDto) : Prop :=
  dto.kind = .document → dto.result.identity_attested = some true →
    (∃ r ∈ dto.result.responses.getD [],
        WorldService.carries (WorldService.EXPECTED_CREDENTIALS .document) r = true) ∨
      ∀ r, (dto.result.responses.getD []).head? = some r →
        (WorldService.responseNullifier r).filter (· ≠ "") = none

section Credentials
variable {Hash : Type} [Crypto Hash] {signers : Set Address} {self : WorldController viem}
  {DEMO_MODE : Option String} {request : VerifyRequest} {response : VerifyResponse}
  {account : viem.PrivateKeyAccount} {chainId : Uint256} {this : Address}

/-- What a signed claim was made of. -/
theorem verify_eq_ok : self.verify DEMO_MODE request = .ok response ↔ ∃ verified signed,
    self.world.verifyResult DEMO_MODE request.dto.kind request.dto.result = .ok verified ∧
      self.signing.signClaim (claimOf viem request (topicNameFor DEMO_MODE request.dto) verified.nullifierHash) =
        some signed ∧
      response = ⟨true, verified.mock, request.dto.kind, verified.credential, topicNameFor DEMO_MODE request.dto,
        signed.topic, signed.issuer, signed.signature, signed.data⟩ := by
  rw [verify]
  cases outcome : self.world.verifyResult DEMO_MODE request.dto.kind request.dto.result with
  | error message =>
    constructor
    · intro answered
      cases answered
    · rintro ⟨verified, signed, same, -⟩
      cases same
  | ok verified =>
    simp only [Except.mapError, bind, Except.bind]
    cases signing : self.signing.signClaim (claimOf viem request (topicNameFor DEMO_MODE request.dto)
        verified.nullifierHash) with
    | none =>
      constructor
      · intro answered
        cases unsigned : self.signing.account.isNone <;> simp [unsigned] at answered
      · rintro ⟨verified', signed, same, signs, -⟩
        cases same
        rw [signing] at signs
        cases signs
    | some signed =>
      constructor
      · intro answered
        cases answered
        exact ⟨verified, signed, rfl, signing, rfl⟩
      · rintro ⟨verified', signed', same, signs, rfl⟩
        cases same
        rw [signing] at signs
        cases signs
        rfl

theorem topicNameFor_live (live : DEMO_MODE ≠ some "true") (dto : WorldVerifyDto) :
    topicNameFor DEMO_MODE dto = TOPIC_FOR_KIND dto.kind := by
  rw [topicNameFor, if_neg live]
  rfl

/-- A chosen response carries the flow's credential, but for one that is attested. -/
theorem byItsCredential_of_attested (configured : self.world.isConfigured = true) (live : DEMO_MODE ≠ some "true")
    (attested : AttestedByCredential request.dto) : self.ByItsCredential DEMO_MODE request := by
  intro response answered
  obtain ⟨verified, signed, outcome, signs, rfl⟩ := verify_eq_ok.mp answered
  obtain ⟨chosen, chooses, accepted⟩ := (WorldService.verifyResult_eq_ok configured).mp outcome
  obtain ⟨carried, real, -⟩ := WorldService.verifiedBy_eq_ok.mp accepted
  refine ⟨topicNameFor_live live _, verified.nullifierHash, ?_, signed, signs, rfl, rfl⟩
  rcases chooses with found | ⟨found, isDocument, claimed, first⟩
  · exact ⟨chosen, List.mem_of_find?_eq_some found, List.find?_some found, carried⟩
  · exfalso
    rcases attested isDocument claimed with ⟨r, member, carries⟩ | none
    · rw [isDocument] at found
      exact List.find?_eq_none.mp found r member carries
    · have kept : (WorldService.responseNullifier chosen).filter (· ≠ "") = some verified.nullifierHash := by
        rw [carried, Option.filter_some, if_pos (by simpa using real)]
      rw [none chosen first] at kept
      cases kept

/-- A document that is merely called attested is signed as KYC. -/
theorem attested_of_byItsCredential (standards : viem.FollowsStandards Hash signers)
    (configured : self.world.isConfigured = true)
    (ready : self.signing = ⟨some account, chainId.toNat, this⟩)
    (kept : self.ByItsCredential DEMO_MODE request) : AttestedByCredential request.dto := by
  intro isDocument claimed
  by_cases carried : ∃ r ∈ request.dto.result.responses.getD [],
      WorldService.carries (WorldService.EXPECTED_CREDENTIALS .document) r = true
  · exact .inl carried
  refine .inr fun first here => ?_
  cases named : (WorldService.responseNullifier first).filter (· ≠ "") with
  | none => rfl
  | some nullifier =>
    exfalso
    obtain ⟨there, real⟩ := Option.filter_eq_some_iff.mp named
    have chooses : WorldService.Chooses request.dto.kind request.dto.result first := by
      refine .inr ⟨?_, isDocument, claimed, here⟩
      rw [isDocument]
      exact List.find?_eq_none.mpr fun r member carries => carried ⟨r, member, carries⟩
    have outcome : self.world.verifyResult DEMO_MODE request.dto.kind request.dto.result =
        .ok ⟨true, nullifier, first.identifier.getD "unknown", false⟩ :=
      (WorldService.verifyResult_eq_ok configured).mpr
        ⟨first, chooses, WorldService.verifiedBy_eq_ok.mpr ⟨there, by simpa using real, rfl⟩⟩
    obtain ⟨sig, -, signs⟩ :=
      @signClaim_claimOf Hash _ viem signers self request account chainId this standards ready
        (topicNameFor DEMO_MODE request.dto) nullifier
    obtain ⟨-, _, ⟨r, member, carries, -⟩, -⟩ := kept _ (verify_eq_ok.mpr ⟨_, _, outcome, signs, rfl⟩)
    rw [isDocument] at carries
    exact carried ⟨r, member, carries⟩

end Credentials

/-- **The credential behind a claim.** Whatever a client sends to a configured API
outside the demo, what is signed is on the topic of the flow and anchored in the
nullifier of a response that carries a credential of the flow, if and only if a document
that calls itself attested carries one, or has no nullifier first. -/
theorem signed_by_its_credential_iff {Hash : Type} [Crypto Hash] {viem : Viem} {signers : Set Address}
    (standards : viem.FollowsStandards Hash signers) {self : WorldController viem}
    (configured : self.world.isConfigured = true) {DEMO_MODE : Option String} (live : DEMO_MODE ≠ some "true")
    {account : viem.PrivateKeyAccount} {chainId : Uint256} {this : Address}
    (ready : self.signing = ⟨some account, chainId.toNat, this⟩) (request : VerifyRequest) :
    self.ByItsCredential DEMO_MODE request ↔ AttestedByCredential request.dto :=
  ⟨attested_of_byItsCredential standards configured ready, byItsCredential_of_attested configured live⟩

end WorldController

/-- As before, with the evidence of a document flow. -/
def documentViem : Viem :=
  { worldViem with
    keccak256 := fun text =>
      if text = (WorldController.evidence .document "0xnull").toUTF8.toList then
        0x4b4c5376a473984b327e6e4daeb7cc048181f491f8b2985b0c104a5d998ea84f
      else worldViem.keccak256 text }

theorem documentViem_followsStandards (signers : Set Address) : documentViem.FollowsStandards Symbolic signers :=
  have demo := worldViem_followsStandards signers
  ⟨demo.signs, demo.binds, demo.encodes⟩

def documentApi : WorldController documentViem where
  world := ⟨"app_demo", "rp_demo", "0x11"⟩
  signing := ⟨some (14 : Address), 1, 20⟩

/-- One response with the nullifier `0xnull`, filed as a document that is attested. -/
def documentWith (identifier : String) : VerifyRequest :=
  { selfieFor 30 with
    dto := {
      identity := 30
      kind := .document
      result := ⟨some [⟨some identifier, some "0xnull", none⟩], some true⟩
      topicName := none } }

/-- A passport stands behind its claim. -/
theorem signed_by_its_credential_passport :
    documentApi.ByItsCredential none (documentWith "passport") :=
  (@WorldController.signed_by_its_credential_iff Symbolic _ documentViem Set.univ
    (documentViem_followsStandards Set.univ) documentApi (by decide +kernel) none (by decide) (14 : Address) 1 20 rfl
    (documentWith "passport")).mpr fun _ _ => .inl ⟨_, List.mem_cons_self, by decide +kernel⟩

/-- A face, called attested, is signed as KYC. -/
theorem attested_selfie_becomes_kyc :
    ∃ response, documentApi.verify none (documentWith "face") = .ok response ∧
      response.topicName = .KYC_VERIFIED ∧ response.credential = "face" ∧
      documentApi.AnchoredIn (documentWith "face") response "0xnull" ∧
      ¬ documentApi.ByItsCredential none (documentWith "face") := by
  have outcome : documentApi.world.verifyResult none (documentWith "face").dto.kind (documentWith "face").dto.result =
      .ok ⟨true, "0xnull", "face", false⟩ := by
    decide +kernel
  obtain ⟨sig, -, signs⟩ := @signClaim_claimOf Symbolic _ documentViem Set.univ documentApi
    (documentWith "face") (14 : Address) 1 20 (documentViem_followsStandards Set.univ) rfl .KYC_VERIFIED "0xnull"
  have answered := WorldController.verify_eq_ok.mpr ⟨_, _, outcome, signs, rfl⟩
  refine ⟨_, answered, rfl, rfl, ⟨_, signs, rfl, rfl⟩, fun kept => ?_⟩
  obtain ⟨-, nullifier, ⟨r, member, carries, -⟩, -⟩ := kept _ answered
  obtain rfl := List.mem_singleton.mp member
  exact absurd carries (by decide +kernel)

end PassportKit
