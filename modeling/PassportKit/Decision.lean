import PassportKit.StackInvariant

/-! The decision core against what it is for: an identity passes a policy when
every required topic is backed by a trusted issuer, and otherwise the answer
names the first topic that is not. The registry's list is only a way to
enumerate the trusted issuers, so its order cannot show. -/
namespace PassportKit
open Evm OpenZeppelin Eip712 Runs

namespace EligibilityGate

variable {reads : Reads} {identity : Address} {policyId : Uint256} {required : List Uint256}

open Classical in
/-- What a policy decides, given which topics are backed. -/
noncomputable def verdict (Backed : Uint256 → Prop) (required : List Uint256) : Bool × Bytes32 :=
  match required.find? fun topic => ¬ Backed topic with
  | some topic => (false, reasonFor topic)
  | none => (true, Reason.OK)

theorem verdict_nil (Backed : Uint256 → Prop) : verdict Backed [] = (true, Reason.OK) := rfl

theorem verdict_cons (Backed : Uint256 → Prop) (topic : Uint256) (rest : List Uint256) :
    (Backed topic → verdict Backed (topic :: rest) = verdict Backed rest) ∧
      (¬ Backed topic → verdict Backed (topic :: rest) = (false, reasonFor topic)) := by
  constructor
  · intro backed
    simp [verdict, backed]
  · intro unbacked
    simp [verdict, unbacked]

theorem verdict_eq_true {Backed : Uint256 → Prop} :
    verdict Backed required = (true, Reason.OK) ↔ ∀ topic ∈ required, Backed topic := by
  induction required with
  | nil => simp [verdict_nil]
  | cons topic rest ih =>
    obtain ⟨passes, fails⟩ := verdict_cons Backed topic rest
    by_cases backed : Backed topic
    · rw [passes backed, ih]
      simp [backed]
    · simp [fails backed, backed]

/-- The refusal names the first unbacked topic. -/
theorem verdict_first {Backed : Uint256 → Prop} {before after : List Uint256} {topic : Uint256}
    (backed : ∀ earlier ∈ before, Backed earlier) (unbacked : ¬ Backed topic) :
    verdict Backed (before ++ topic :: after) = (false, reasonFor topic) := by
  induction before with
  | nil => exact (verdict_cons Backed topic after).2 unbacked
  | cons first rest ih =>
    have here := backed first List.mem_cons_self
    rw [List.cons_append, (verdict_cons Backed first _).1 here]
    exact ih fun earlier member => backed earlier (List.mem_cons_of_mem _ member)

theorem verdict_congr {First Second : Uint256 → Prop}
    (same : ∀ topic ∈ required, First topic ↔ Second topic) :
    verdict First required = verdict Second required := by
  induction required with
  | nil => rfl
  | cons topic rest ih =>
    have later := ih fun other member => same other (List.mem_cons_of_mem _ member)
    have here := same topic List.mem_cons_self
    by_cases backed : First topic
    · rw [(verdict_cons First topic rest).1 backed,
        (verdict_cons Second topic rest).1 (here.mp backed), later]
    · rw [(verdict_cons First topic rest).2 backed,
        (verdict_cons Second topic rest).2 (fun other => backed (here.mpr other))]

/-- Every required topic's trusted issuers can be asked without a revert. -/
def Answering (reads : Reads) (identity : Address) (required : List Uint256) : Prop :=
  ∀ topic ∈ required, ∀ issuer ∈ reads.issuersForTopic topic,
    ∃ valid, askIssuer reads identity topic issuer = .ok valid

/-- When every issuer answers, the nested loops compute the verdict. -/
theorem checkTopics_of_answering (answering : Answering reads identity required) :
    checkTopics reads identity required =
      .ok (verdict (fun topic => Covered reads identity (reads.issuersForTopic topic) topic) required) := by
  induction required with
  | nil => rfl
  | cons topic rest ih =>
    obtain ⟨valid, scanned, meaning⟩ := hasValidClaim_of_answering (answering topic List.mem_cons_self)
    have later := ih fun other member => answering other (List.mem_cons_of_mem _ member)
    obtain ⟨passes, fails⟩ := verdict_cons
      (fun topic => Covered reads identity (reads.issuersForTopic topic) topic) topic rest
    cases valid with
    | true =>
      rw [passes (meaning.mp rfl), ← later]
      simp [checkTopics, scanned]
    | false =>
      rw [fails fun covered => Bool.false_ne_true (meaning.mpr covered)]
      simp [checkTopics, scanned]

/-- On a real contract with a policy, the gate is its loop. -/
theorem isEligible_of_code {self : EligibilityGate} (real : identity ≠ 0)
    (code : reads.hasCode identity = true) (policy : self.policyTopics policyId ≠ []) :
    self.isEligible reads identity policyId =
      checkTopics reads identity (self.policyTopics policyId) := by
  have present : ¬ (identity = 0 ∨ reads.hasCode identity = false) := by simp [real, code]
  have required : ¬ (self.policyTopics policyId).length = 0 := by simpa using policy
  rw [isEligible, if_neg present]
  exact if_neg required

end EligibilityGate

namespace Stack

variable {Hash : Type} [Crypto Hash] {s : Stack Hash} {identity issuer : Address}
  {topic policyId : Uint256}

/-- Every trusted issuer is a claim issuer. -/
def IssuersAreOurs (s : Stack Hash) : Prop :=
  ∀ issuer topic, s.registry.isTrusted issuer topic = true →
    ∃ contract, s.code issuer = .claimIssuer contract

/-- A claim for a topic by an issuer is stored on an identity and accepted by
that issuer now. -/
def Accepts (s : Stack Hash) (identity : Address) (topic : Uint256) (issuer : Address) : Prop :=
  ∃ holder contract, s.code identity = .identity holder ∧ s.code issuer = .claimIssuer contract ∧
    (holder.claims topic issuer).present = true ∧
    contract.isClaimValid Hash s.block issuer identity topic (holder.claims topic issuer).signature
      (holder.claims topic issuer).data = .ok true

/-- Some trusted issuer's stored claim is accepted now. -/
def Backed (s : Stack Hash) (identity : Address) (topic : Uint256) : Prop :=
  ∃ issuer, s.registry.isTrusted issuer topic = true ∧ s.Accepts identity topic issuer

open Classical in
/-- What the decision core is for. -/
noncomputable def decision (s : Stack Hash) (identity : Address) (policyId : Uint256) :
    Bool × Bytes32 :=
  if s.isEmpty identity then (false, Reason.NO_IDENTITY)
  else if s.gate.policyTopics policyId = [] then (false, Reason.NO_POLICY)
  else EligibilityGate.verdict (s.Backed identity) (s.gate.policyTopics policyId)

/-- An identity answers the gate with its stored claim. -/
theorem reads_getClaim {holder : Identity Hash} (code : s.code identity = .identity holder) :
    s.reads.getClaim identity topic issuer = .ok (holder.getClaim topic issuer) := by
  simp [reads, getClaim, code]

/-- A claim issuer's verdict as the gate hears it: its reverts are caught. -/
theorem reads_issuerAt {contract : ClaimIssuer} (code : s.code issuer = .claimIssuer contract)
    (sig data : Bytes) :
    s.reads.issuerAt issuer identity topic sig data =
      replyOf (contract.isClaimValid Hash s.block issuer identity topic sig data) := by
  simp only [reads, issuerAt, code]

theorem vouches_iff_accepts {contract : ClaimIssuer} {holder : Identity Hash}
    (identityCode : s.code identity = .identity holder)
    (issuerCode : s.code issuer = .claimIssuer contract) :
    EligibilityGate.Vouches s.reads identity topic issuer ↔ s.Accepts identity topic issuer := by
  unfold EligibilityGate.Vouches Accepts
  simp only [reads_getClaim identityCode, reads_issuerAt issuerCode, Except.ok.injEq,
    Identity.getClaim_eq_present]
  constructor
  · rintro ⟨sig, data, returnData, ⟨present, rfl, rfl⟩, replied, decoded⟩
    refine ⟨holder, contract, identityCode, issuerCode, present, ?_⟩
    cases asked : contract.isClaimValid Hash s.block issuer identity topic
        (holder.claims topic issuer).signature (holder.claims topic issuer).data with
    | error error => simp [asked] at replied
    | ok valid =>
      simp only [asked, replyOf_ok, CallReply.returned.injEq] at replied
      subst replied
      simpa using decoded
  · rintro ⟨other, called, otherCode, calledCode, present, accepted⟩
    obtain rfl : holder = other := by simpa [identityCode] using otherCode
    obtain rfl : contract = called := by simpa [issuerCode] using calledCode
    exact ⟨_, _, encodeBool true, ⟨present, rfl, rfl⟩, by simp [accepted], by simp⟩

/-- Identities and claim issuers always let the gate go on. -/
theorem askIssuer_answers {contract : ClaimIssuer} {holder : Identity Hash}
    (identityCode : s.code identity = .identity holder)
    (issuerCode : s.code issuer = .claimIssuer contract) :
    ∃ valid, EligibilityGate.askIssuer s.reads identity topic issuer = .ok valid := by
  unfold EligibilityGate.askIssuer
  rw [reads_getClaim identityCode, ok_bind]
  rcases holder.getClaim topic issuer with ⟨present, sig, data⟩
  dsimp only
  split
  · exact ⟨false, rfl⟩
  · rw [reads_issuerAt issuerCode]
    cases contract.isClaimValid Hash s.block issuer identity topic sig data with
    | error error => exact ⟨false, rfl⟩
    | ok valid => exact ⟨valid, by simp⟩

theorem answering_of_ours (ours : s.IssuersAreOurs) (registry : s.registry.WellIndexed)
    {holder : Identity Hash} (code : s.code identity = .identity holder) (required : List Uint256) :
    EligibilityGate.Answering s.reads identity required := by
  intro topic _ issuer listed
  obtain ⟨contract, issuerCode⟩ := ours issuer topic (registry.mem_iff.mp listed)
  exact askIssuer_answers code issuerCode

/-- The scan of the registry's list finds exactly what trust and acceptance say. -/
theorem covered_iff_backed (ours : s.IssuersAreOurs) (registry : s.registry.WellIndexed)
    {holder : Identity Hash} (code : s.code identity = .identity holder) :
    EligibilityGate.Covered s.reads identity (s.reads.issuersForTopic topic) topic ↔
      s.Backed identity topic := by
  constructor
  · rintro ⟨issuer, listed, vouches⟩
    have trusted := registry.mem_iff.mp listed
    obtain ⟨contract, issuerCode⟩ := ours issuer topic trusted
    exact ⟨issuer, trusted, (vouches_iff_accepts code issuerCode).mp vouches⟩
  · rintro ⟨issuer, trusted, accepts⟩
    obtain ⟨contract, issuerCode⟩ := ours issuer topic trusted
    exact ⟨issuer, registry.mem_iff.mpr trusted, (vouches_iff_accepts code issuerCode).mpr accepts⟩

/-- The gate computes the decision on identities and on addresses without code. -/
theorem isEligible_eq_decision (registry : s.registry.WellIndexed) (zero : s.code 0 = .empty)
    (ours : s.IssuersAreOurs)
    (known : s.code identity = .empty ∨ ∃ holder, s.code identity = .identity holder)
    (policyId : Uint256) :
    s.isEligible identity policyId = .ok (s.decision identity policyId) := by
  unfold decision
  rcases known with code | ⟨holder, code⟩
  · have empty : s.isEmpty identity = true := isEmpty_iff.mpr code
    simp [Stack.isEligible, EligibilityGate.isEligible, reads, empty]
  · have occupied : s.isEmpty identity = false := by simp [isEmpty, code]
    have real : identity ≠ 0 := by
      rintro rfl
      simp [zero] at code
    rw [if_neg (by simp [occupied])]
    by_cases policy : s.gate.policyTopics policyId = []
    · rw [if_pos policy]
      simp [Stack.isEligible, EligibilityGate.isEligible, reads, occupied, real, policy]
    · rw [if_neg policy, Stack.isEligible,
        EligibilityGate.isEligible_of_code real (by simp [reads, occupied]) policy,
        EligibilityGate.checkTopics_of_answering
          (answering_of_ours ours registry code _)]
      congr 1
      exact EligibilityGate.verdict_congr fun topic _ => covered_iff_backed ours registry code

theorem decision_eq_true :
    s.decision identity policyId = (true, Reason.OK) ↔
      s.code identity ≠ .empty ∧ s.gate.policyTopics policyId ≠ [] ∧
        ∀ topic ∈ s.gate.policyTopics policyId, s.Backed identity topic := by
  unfold decision
  by_cases empty : s.code identity = .empty
  · simp [isEmpty_iff.mpr empty, empty]
  rw [if_neg (by rwa [isEmpty_iff])]
  by_cases policy : s.gate.policyTopics policyId = []
  · simp [policy]
  · rw [if_neg policy, EligibilityGate.verdict_eq_true]
    simp [empty, policy]

/-- The decision depends on the trust map, never on how the registry lists it. -/
theorem decision_congr {other : Stack Hash} (block : other.block = s.block)
    (code : other.code = s.code) (policies : other.gate.policyTopics = s.gate.policyTopics)
    (trust : other.registry.trusted = s.registry.trusted) :
    other.decision identity policyId = s.decision identity policyId := by
  have backed : other.Backed identity = s.Backed identity := by
    funext topic
    simp only [Backed, Accepts, IssuerRegistry.isTrusted, block, code, trust]
  simp only [decision, isEmpty, code, policies, backed]
  rfl

omit [Crypto Hash] in
theorem IssuersAreOurs.apart (ours : s.IssuersAreOurs) {holder : Identity Hash}
    (code : s.code identity = .identity holder) (trusted : s.registry.isTrusted issuer topic = true) :
    issuer ≠ identity := by
  rintro rfl
  obtain ⟨contract, issuerCode⟩ := ours issuer topic trusted
  simp [code] at issuerCode

omit [Crypto Hash] in
/-- What an identity stores is nothing to the issuers. -/
theorem IssuersAreOurs.setCode (ours : s.IssuersAreOurs) {holder altered : Identity Hash}
    (code : s.code identity = .identity holder) : (s.setCode identity (.identity altered)).IssuersAreOurs := by
  intro issuer topic trusted
  obtain ⟨contract, issuerCode⟩ := ours issuer topic trusted
  exact ⟨contract, (setCode_of_ne (ours.apart code trusted) _).trans issuerCode⟩

/-- Claims of issuers that are not trusted for their topic do not show. -/
theorem decision_setCode {holder altered : Identity Hash} (code : s.code identity = .identity holder)
    (ours : s.IssuersAreOurs)
    (kept : ∀ topic issuer, s.registry.isTrusted issuer topic = true →
      altered.claims topic issuer = holder.claims topic issuer) :
    (s.setCode identity (.identity altered)).decision identity policyId =
      s.decision identity policyId := by
  have accepts : ∀ topic issuer, s.registry.isTrusted issuer topic = true →
      ((s.setCode identity (.identity altered)).Accepts identity topic issuer ↔
        s.Accepts identity topic issuer) := by
    intro topic issuer trusted
    obtain ⟨contract, issuerCode⟩ := ours issuer topic trusted
    have apart : issuer ≠ identity := ours.apart code trusted
    simp only [Accepts, setCode_self, setCode_of_ne apart, code, issuerCode, Code.identity.injEq,
      Code.claimIssuer.injEq, exists_and_left, exists_eq_left', kept topic issuer trusted]
    exact Iff.rfl
  have backed : (s.setCode identity (.identity altered)).Backed identity = s.Backed identity := by
    funext topic
    exact propext (exists_congr fun issuer => and_congr_right (accepts topic issuer))
  have occupied : (s.setCode identity (.identity altered)).isEmpty identity = s.isEmpty identity := by
    simp [isEmpty, code]
  simp only [decision, occupied, backed, setCode_gate]

/-- What the gate can be asked about: a minted identity, zero, or no code. -/
def Known (s : Stack Hash) (identity : Address) : Prop :=
  identity = 0 ∨ s.code identity = .empty ∨ s.factory.isIdentity identity = true

variable [DecidableEq Hash]

theorem Known.code (known : s.Known identity) (valid : Valid s) :
    s.code identity = .empty ∨ ∃ holder, s.code identity = .identity holder := by
  rcases known with rfl | empty | minted
  · exact .inl valid.zero
  · exact .inl empty
  · exact .inr (isSome_keysAt.mp ((valid.minted_iff identity).mp minted))

/-- **The decision core, exactly.** With every trusted issuer a claim issuer,
the gate answers the decision: acceptance is every topic of a nonempty policy
backed, a refusal carries the code of the first obstacle, the pair is one
answer, and neither the registry's order nor an untrusted issuer's claim shows. -/
theorem isEligible_decides (reachable : Reachable s) (ours : s.IssuersAreOurs)
    (known : s.Known identity) (policyId : Uint256) :
    s.isEligible identity policyId = .ok (s.decision identity policyId) ∧
    (s.isEligible identity policyId = .ok (true, Reason.OK) ↔
      s.code identity ≠ .empty ∧ s.gate.policyTopics policyId ≠ [] ∧
        ∀ topic ∈ s.gate.policyTopics policyId, s.Backed identity topic) ∧
    (s.code identity = .empty →
      s.isEligible identity policyId = .ok (false, Reason.NO_IDENTITY)) ∧
    (s.code identity ≠ .empty → s.gate.policyTopics policyId = [] →
      s.isEligible identity policyId = .ok (false, Reason.NO_POLICY)) ∧
    (∀ before topic after, s.code identity ≠ .empty →
      s.gate.policyTopics policyId = before ++ topic :: after →
      (∀ earlier ∈ before, s.Backed identity earlier) → ¬ s.Backed identity topic →
      s.isEligible identity policyId = .ok (false, EligibilityGate.reasonFor topic)) ∧
    (∀ ok reason, s.isEligible identity policyId = .ok (ok, reason) →
      (ok = true ↔ reason = Reason.OK)) ∧
    (∀ other : Stack Hash, Reachable other → other.block = s.block → other.code = s.code →
      other.gate.policyTopics = s.gate.policyTopics →
      other.registry.trusted = s.registry.trusted →
      other.isEligible identity policyId = s.isEligible identity policyId) ∧
    (∀ holder altered : Identity Hash, s.code identity = .identity holder →
      (∀ topic issuer, s.registry.isTrusted issuer topic = true →
        altered.claims topic issuer = holder.claims topic issuer) →
      (s.setCode identity (.identity altered)).isEligible identity policyId =
        s.isEligible identity policyId) := by
  have valid := reachable.valid
  have answer : s.isEligible identity policyId = .ok (s.decision identity policyId) :=
    isEligible_eq_decision valid.registry valid.zero ours (known.code valid) policyId
  refine ⟨answer, ?_, ?_, ?_, ?_, ?_, ?_, ?_⟩
  · rw [answer, Except.ok.injEq]
    exact decision_eq_true
  · intro empty
    rw [answer, decision, if_pos (isEmpty_iff.mpr empty)]
  · intro occupied policy
    rw [answer, decision, if_neg (by rwa [isEmpty_iff]), if_pos policy]
  · intro before topic after occupied policy backed unbacked
    rw [answer, decision, if_neg (by rwa [isEmpty_iff]), policy, if_neg (by simp),
      EligibilityGate.verdict_first backed unbacked]
  · intro ok reason answered
    exact EligibilityGate.isEligible_ok_iff_reason answered
  · intro other otherReachable block code policies trust
    have otherOurs : other.IssuersAreOurs := by
      intro issuer topic trusted
      rw [code]
      exact ours issuer topic (by simpa [IssuerRegistry.isTrusted, trust] using trusted)
    have otherCode := known.code valid
    rw [← code] at otherCode
    rw [isEligible_eq_decision otherReachable.valid.registry otherReachable.valid.zero otherOurs
      otherCode, answer, decision_congr block code policies trust]
  · intro holder altered code kept
    have real : identity ≠ 0 := valid.occupied (by simp [code])
    have alteredOurs : (s.setCode identity (.identity altered)).IssuersAreOurs := ours.setCode code
    have zero : (s.setCode identity (.identity altered)).code 0 = .empty :=
      (setCode_of_ne real.symm _).trans valid.zero
    have registry : (s.setCode identity (.identity altered)).registry.WellIndexed := valid.registry
    rw [isEligible_eq_decision registry zero alteredOurs (.inr ⟨altered, setCode_self ..⟩), answer,
      decision_setCode code ours kept]

/-- One administrator's fresh deployment. -/
def freshStack (admin : Address) : Stack Symbolic where
  accessControl := .standard
  block := { chainId := 1, timestamp := 100 }
  registry := {
    accessControl := .standard
    access := AccessControl.vacant.grant AccessControl.DEFAULT_ADMIN_ROLE admin
    trusted := fun _ _ => false
    issuers := fun _ => []
    idx1 := fun _ _ => 0 }
  factory := {
    accessControl := .standard
    access := (AccessControl.vacant.grant AccessControl.DEFAULT_ADMIN_ROLE admin).grant AGENT_ROLE admin
    issuerRegistry := 1
    identityOfWallet := fun _ => 0
    isIdentity := fun _ => false
    isAgent := fun _ => false }
  gate := {
    accessControl := .standard
    access := AccessControl.vacant.grant AccessControl.DEFAULT_ADMIN_ROLE admin
    issuers := 1
    policyTopics := fun _ => [] }
  code := fun _ => .empty

theorem freshStack_genesis : Genesis (freshStack 10) where
  registry := ⟨10, rfl⟩
  wired := ⟨1, 10, 10, rfl, rfl⟩
  zero := rfl
  foreign := fun _ => .inl rfl

def admin : Caller := ⟨10, by decide⟩
def holder : Caller := ⟨11, by decide⟩

def kycData : Bytes := word 7 ++ word 0 ++ word 9

/-- Signed by account 21 for the issuer at 20 and the identity at 30. -/
def kycSig : Bytes :=
  Symbolic.sign 21 (ClaimIssuer.claimDigest 1 20
    (ClaimIssuer.claimOf 30 ClaimTopics.KYC_VERIFIED kycData))

/-- The deal room's policy, one issuer for it, and one person with one agent. -/
def setUp : List Input := [
  ⟨admin, .deployClaimIssuer 20 10 21⟩,
  ⟨admin, .registry (.setTrusted 20 ClaimTopics.KYC_VERIFIED true)⟩,
  ⟨admin, .gate (.setPolicy 1 [ClaimTopics.KYC_VERIFIED])⟩,
  ⟨admin, .createIdentity 11 30⟩,
  ⟨admin, .factory (.linkAgent 12 30)⟩]

/-- The person submits the signed claim. -/
def onboarded : List Input :=
  setUp ++ [⟨holder, .identity 30 (.submitClaim ClaimTopics.KYC_VERIFIED 20 kycSig kycData)⟩]

theorem onboarded_reachable : Reachable (exec step (freshStack 10) onboarded) :=
  ⟨_, _, freshStack_genesis, rfl⟩

theorem onboarded_facts :
    (exec step (freshStack 10) onboarded).factory.isAgent 11 = false ∧
    (exec step (freshStack 10) onboarded).factory.identityOfWallet 11 = 30 ∧
    (exec step (freshStack 10) onboarded).factory.isIdentity 30 = true ∧
    (exec step (freshStack 10) onboarded).gate.policyTopics 1 = [ClaimTopics.KYC_VERIFIED] ∧
    (exec step (freshStack 10) onboarded).registry.issuersForTopic ClaimTopics.KYC_VERIFIED = [20] ∧
    (exec step (freshStack 10) onboarded).isEligible 30 1 = .ok (true, Reason.OK) := by
  decide +kernel

set_option maxRecDepth 20000 in
theorem setUp_issuersAreOurs : (exec step (freshStack 10) setUp).IssuersAreOurs := by
  have trust : (exec step (freshStack 10) setUp).registry.trusted =
      store (fun _ _ => false) 20 ClaimTopics.KYC_VERIFIED true := by rfl
  intro issuer topic trusted
  rw [IssuerRegistry.isTrusted, trust, store_apply] at trusted
  have named : issuer = 20 := by
    by_contra other
    simp [other] at trusted
  subst named
  exact ⟨_, rfl⟩

theorem onboarded_issuersAreOurs : (exec step (freshStack 10) onboarded).IssuersAreOurs := by
  rw [onboarded, exec_append, exec_cons, exec_nil]
  refine settle_preserves (fun next done => ?_) setUp_issuersAreOurs
  cases step_change done with
  | identity action code called => exact setUp_issuersAreOurs.setCode code
  | registry action => cases action
  | factory action => cases action
  | gate action => cases action
  | elapsed action => cases action
  | issuer action => cases action
  | minted action => cases action
  | deployed action => cases action
  | foreign _ _ action => cases action

theorem isEligible_decides_onboarded :
    (exec step (freshStack 10) onboarded).decision 30 1 = (true, Reason.OK) := by
  obtain ⟨-, -, minted, -, -, eligible⟩ := onboarded_facts
  have known : (exec step (freshStack 10) onboarded).Known 30 := .inr (.inr minted)
  have decides := (isEligible_decides onboarded_reachable onboarded_issuersAreOurs known 1).1
  rw [eligible, Except.ok.injEq] at decides
  exact decides.symm

end Stack

end PassportKit
