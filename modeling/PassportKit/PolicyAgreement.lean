import PassportKit.VerificationOperations

/-! The transfer policy against the claims. The workflow node's result blocks a wallet
that fails, but upgrades only a policy that was never changed, so that a block outlives
the next success; and the fallback changes no policy at all. -/
namespace PassportKit.Verification
open Interaction Runs Evm Eip712

/-- What a verification came to. -/
structure Outcome where
  walletAddress : String
  claimType : ClaimType
  approved : Bool
  deriving DecidableEq, Repr

/-- The outcome an operation delivers, if it does. -/
def Operation.outcome (lib : DemoLibrary) (db : Db) : Operation → Option Outcome
  | .receiveWorkflowResult body =>
    (lib.getAddress body.walletAddress).map fun walletAddress => ⟨walletAddress, body.claimType, body.approved⟩
  | .syncOnchain verificationId =>
    (db.session verificationId).map fun session =>
      ⟨session.walletAddress, session.claimType, session.approved.getD false⟩
  | _ => none

def Db.policyStatus (db : Db) (walletAddress : String) : Option String :=
  (db.policies walletAddress).map (·.policyStatus)

/-- The policy of a wallet is the one its claims call for. -/
structure Db.PolicyFollows (db : Db) (walletAddress : String) : Prop where
  blocked : db.policyStatus walletAddress = some BLOCKED ↔
    calculatePassportStatus (db.claimsOf walletAddress) = .RED ∨
      calculatePassportStatus (db.claimsOf walletAddress) = .REVOKED
  configurable : db.view.claim walletAddress .KYC_AML_VERIFIED = some .VERIFIED →
    calculatePassportStatus (db.claimsOf walletAddress) = .LIMITED ∨
      calculatePassportStatus (db.claimsOf walletAddress) = .GREEN →
    db.policyStatus walletAddress = some KYC_USER_CONFIGURABLE

/-- The claims as the outcome leaves them. The workflow node's result only updates a
claim that is there. -/
def Operation.claims (operation : Operation) (db : Db) (outcome : Outcome) : View :=
  db.view.setClaim outcome.walletAddress outcome.claimType
    (match operation with
    | .syncOnchain _ => some (verdictStatus outcome.approved)
    | _ => (db.view.claim outcome.walletAddress outcome.claimType).map fun _ => verdictStatus outcome.approved)

/-- The policy the fallback must find: the one it should leave. -/
def SuitsFallback (policy : Option String) : PassportStatus → Prop
  | .RED => policy = some BLOCKED
  | .REVOKED => policy = some BLOCKED
  | .LIMITED => policy = some KYC_USER_CONFIGURABLE
  | .GREEN => policy = some KYC_USER_CONFIGURABLE
  | _ => policy ≠ some BLOCKED

/-- The policy the workflow node's result must find: none that is blocked, unless the
wallet fails again, and one that was upgraded already, unless it is the first upgrade. -/
def SuitsWorkflow (policy : Option String) (outcome : Outcome) : PassportStatus → Prop
  | .RED => True
  | .REVOKED => True
  | .LIMITED => policy = some KYC_USER_CONFIGURABLE ∨
    policy = some NO_KYC_DAILY_50 ∧ outcome.claimType = .KYC_AML_VERIFIED ∧ outcome.approved = true
  | .GREEN => policy = some KYC_USER_CONFIGURABLE ∨
    policy = some NO_KYC_DAILY_50 ∧ outcome.claimType = .KYC_AML_VERIFIED ∧ outcome.approved = true
  | _ => policy ≠ some BLOCKED

def Operation.Suits (operation : Operation) (db : Db) (outcome : Outcome) : Prop :=
  let recalculated := (operation.claims db outcome).recalculated outcome.walletAddress
  match operation with
  | .syncOnchain _ => SuitsFallback (db.policyStatus outcome.walletAddress) recalculated
  | _ => SuitsWorkflow (db.policyStatus outcome.walletAddress) outcome recalculated

/-- After an outcome for the wallet, its policy is the one its claims call for. -/
def FollowsOutcome {σ : Type} (lib : DemoLibrary) (walletAddress : String) (entry : Entry (Store σ) Operation) :
    Prop :=
  ∀ outcome, entry.event.outcome lib entry.before.db = some outcome → outcome.walletAddress = walletAddress →
    entry.after.db.PolicyFollows walletAddress

/-- An outcome for the wallet finds a policy it suits. -/
def SuitsOutcome {σ : Type} (lib : DemoLibrary) (walletAddress : String) (entry : Entry (Store σ) Operation) : Prop :=
  ∀ outcome, entry.event.outcome lib entry.before.db = some outcome → outcome.walletAddress = walletAddress →
    entry.event.Suits entry.before.db outcome

section Policies
variable {view : View} {db : Db} {walletAddress : String} {policy : Option String} {status : PassportStatus}

/-- A policy that goes with a passport. -/
def GoesWith (policy : Option String) (status : PassportStatus) : Prop :=
  (policy = some BLOCKED ↔ status = .RED ∨ status = .REVOKED) ∧
    (status = .LIMITED ∨ status = .GREEN → policy = some KYC_USER_CONFIGURABLE)

theorem verified_of_passportOf {kycAml accredited : Option ClaimStatus}
    (granted : passportOf kycAml accredited = .LIMITED ∨ passportOf kycAml accredited = .GREEN) :
    kycAml = some .VERIFIED := by
  revert granted
  unfold passportOf
  split
  · simp
  split
  · simp
  split
  · simp
  split
  · rename_i both
    exact fun _ => both.1
  split
  · rename_i verified
    exact fun _ => verified
  · simp

theorem policyFollows_iff (regular : db.Regular) :
    db.PolicyFollows walletAddress ↔
      GoesWith (db.view.policy walletAddress) (db.view.recalculated walletAddress) := by
  rw [← calculatePassportStatus_claimsOf regular]
  constructor
  · rintro ⟨blocked, configurable⟩
    refine ⟨blocked, fun granted => configurable ?_ granted⟩
    rw [calculatePassportStatus_claimsOf regular] at granted
    exact verified_of_passportOf granted
  · rintro ⟨blocked, configurable⟩
    exact ⟨blocked, fun _ => configurable⟩

theorem goesWith_iff_suitsFallback : GoesWith policy status ↔ SuitsFallback policy status := by
  have apart : KYC_USER_CONFIGURABLE ≠ BLOCKED := by decide
  cases status <;> simp [GoesWith, SuitsFallback] <;> rintro rfl <;> simp [apart]

/-- What the workflow node's result makes of a policy. -/
theorem policy_updatePolicy {claimType : ClaimType} {approved : Bool} :
    (view.updatePolicy walletAddress claimType approved status).policy walletAddress =
      if status = .RED ∨ status = .REVOKED then some BLOCKED
      else if claimType = .KYC_AML_VERIFIED ∧ approved ∧ view.policy walletAddress = some NO_KYC_DAILY_50 then
        some KYC_USER_CONFIGURABLE
      else view.policy walletAddress := by
  rw [View.updatePolicy]
  split
  · simp [View.setPolicy]
  split
  · simp [View.setPolicy]
  · rfl

theorem goesWith_iff_suitsWorkflow {outcome : Outcome} :
    GoesWith
        ((view.updatePolicy walletAddress outcome.claimType outcome.approved status).policy walletAddress) status ↔
      SuitsWorkflow (view.policy walletAddress) outcome status := by
  have apart : KYC_USER_CONFIGURABLE ≠ BLOCKED := by decide
  have basic : NO_KYC_DAILY_50 ≠ BLOCKED := by decide
  rw [policy_updatePolicy]
  generalize view.policy walletAddress = policy
  by_cases upgrades :
      outcome.claimType = .KYC_AML_VERIFIED ∧ outcome.approved = true ∧ policy = some NO_KYC_DAILY_50
  · rw [if_pos upgrades]
    obtain ⟨kyc, approved, rfl⟩ := upgrades
    cases status <;> simp [GoesWith, SuitsWorkflow, kyc, approved, apart, basic]
  · rw [if_neg upgrades]
    have later :
        ¬ (policy = some NO_KYC_DAILY_50 ∧ outcome.claimType = .KYC_AML_VERIFIED ∧ outcome.approved = true) :=
      fun first => upgrades ⟨first.2.1, first.2.2, first.1⟩
    cases status <;> simp [GoesWith, SuitsWorkflow, later] <;> rintro rfl <;> simp [apart]

end Policies

/-! ## Each outcome -/

section Outcomes
variable {σ : Type} [Crypto Bytes32] {lib : DemoLibrary} {adapter : ContractAdapter σ} {before after : Store σ}
  {operation : Operation} {outcome : Outcome}

/-- **One outcome.** -/
theorem policyFollows_iff_suits (regular : before.db.Regular) (performs : Performs lib adapter before operation after)
    (delivers : operation.outcome lib before.db = some outcome) :
    after.db.PolicyFollows outcome.walletAddress ↔ operation.Suits before.db outcome := by
  rw [policyFollows_iff (performs_regular regular performs)]
  cases performs_leaves regular performs with
  | started | handled | injected | read => cases delivers
  | @received body walletAddress claimed address contracts claims view =>
    rw [Operation.outcome, address] at delivers
    cases delivers
    have recalculated : after.db.view.recalculated walletAddress = claimed.recalculated walletAddress := by
      rw [view, View.recalculated, View.claim_updatePolicy]
      rfl
    have suits : SuitsWorkflow (before.db.view.policy walletAddress) ⟨walletAddress, body.claimType, body.approved⟩
        (claimed.recalculated walletAddress) ↔ (Operation.receiveWorkflowResult body).Suits before.db
          ⟨walletAddress, body.claimType, body.approved⟩ := by
      rw [claims]
      rfl
    have unchanged : claimed.policy walletAddress = before.db.view.policy walletAddress := by
      rw [claims, View.policy_setClaim]
    have both := @goesWith_iff_suitsWorkflow (claimed.setPassport walletAddress (claimed.recalculated walletAddress))
      walletAddress (claimed.recalculated walletAddress) ⟨walletAddress, body.claimType, body.approved⟩
    rw [View.policy_setPassport, unchanged] at both
    rw [recalculated, view, ← suits]
    exact both
  | synced session params contracts passport found attested wallet hash submitted passes view =>
    rw [Operation.outcome, found] at delivers
    cases delivers
    rw [view]
    exact goesWith_iff_suitsFallback

/-- **The policy follows the passport**, after every outcome of a run, if and only if
every outcome finds a policy it suits. -/
theorem policy_follows_iff_suits {start last : Store σ} {log : List (Entry (Store σ) Operation)}
    (regular : start.db.Regular) (trace : Trace (Performs lib adapter) start log last) (walletAddress : String) :
    (∀ entry ∈ log, FollowsOutcome lib walletAddress entry) ↔
      ∀ entry ∈ log, SuitsOutcome lib walletAddress entry := by
  have each (entry) (member : entry ∈ log) :
      FollowsOutcome lib walletAddress entry ↔ SuitsOutcome lib walletAddress entry := by
    have kept (before : Store σ) (operation : Operation) (after : Store σ) (held : before.db.Regular)
        (performs : Performs lib adapter before operation after) := performs_regular held performs
    obtain ⟨held, performs⟩ := @Trace.of_mem _ _ _ _ _ _ (fun store => store.db.Regular) kept trace regular _ member
    constructor
    · rintro follows outcome delivers rfl
      exact (policyFollows_iff_suits held performs delivers).mp (follows outcome delivers rfl)
    · rintro suits outcome delivers rfl
      exact (policyFollows_iff_suits held performs delivers).mpr (suits outcome delivers rfl)
  exact forall₂_congr each

end Outcomes

def retryWallet : String := "0x8617E340B3D01FA5F11F306F4090FD50E238070D"

abbrev retryHashes : Crypto Bytes32 where
  keccak256 := fun _ => 0
  tryRecover := fun _ _ => none

/-- The library, as far as the workflow node's results use it. -/
def retryLibrary : DemoLibrary where
  getAddress raw := if raw = retryWallet then some retryWallet else none
  parseJson := fun _ => none
  parseDate := fun _ => none
  addDays date days := date + days * 86400000
  buildAttestationHash := fun _ => "0x"
  hashMock := fun _ _ _ _ => "0x"
  hashOutcome := fun _ _ _ _ => "0x"
  buildVerificationIdHash := fun _ => "0x"

/-- Refused once, and started again. -/
def refusedOnce : List (String × Operation) :=
  [("clz1first", .startVerification retryWallet "KYC_AML_VERIFIED"),
    ("", .getPolicy retryWallet),
    ("", .receiveWorkflowResult ⟨"clz1first", retryWallet, .KYC_AML_VERIFIED, false, none, none⟩),
    ("clz2second", .startVerification retryWallet "KYC_AML_VERIFIED")]

def approvedNow : Operation :=
  .receiveWorkflowResult ⟨"clz2second", retryWallet, .KYC_AML_VERIFIED, true, none, none⟩

/-- The second time the passport is granted, and the wallet stays blocked. -/
theorem approvedNow_ends :
    ((@demoRun retryHashes retryLibrary newDemo refusedOnce).bind fun before =>
      ((@Operation.program retryHashes retryLibrary approvedNow).carryOut (mockAnswer "") before).map fun after =>
        (after.2.db.policyStatus retryWallet, calculatePassportStatus (after.2.db.claimsOf retryWallet))) =
          some (some BLOCKED, .LIMITED) := by
  decide +kernel

/-- A run that ends with an outcome its wallet's policy does not follow. -/
theorem retry_stays_blocked :
    ∃ log, ∃ last : Store MockContracts,
      Trace (@Performs _ retryHashes retryLibrary MockContractAdapter) newDemo log last ∧
        ¬ ∀ entry ∈ log, FollowsOutcome retryLibrary retryWallet entry := by
  obtain ⟨before, ran, later⟩ := Option.bind_eq_some_iff.mp approvedNow_ends
  obtain ⟨⟨_, after⟩, completes, ends⟩ := Option.map_eq_some_iff.mp later
  obtain ⟨log, trace⟩ := @trace_of_demoRun _ retryHashes _ _ _ ran
  have performs : @Performs _ retryHashes retryLibrary MockContractAdapter before approvedNow after :=
    Program.completes_of_carryOut (fun _ _ _ _ => serves_mockAnswer) completes
  obtain ⟨blocked, granted⟩ := Prod.mk.inj ends
  refine ⟨_, after, trace.append (.cons performs (.nil _)), fun follows => ?_⟩
  have delivers : approvedNow.outcome retryLibrary before.db = some ⟨retryWallet, .KYC_AML_VERIFIED, true⟩ := rfl
  have right := follows ⟨before, approvedNow, after⟩ (by simp) _ delivers rfl
  have refused := right.blocked.mp blocked
  rw [granted] at refused
  rcases refused with ⟨⟨⟩⟩ | ⟨⟨⟩⟩

/-- A success after a failure does not unblock. -/
theorem block_outlives_success :
    ¬ ∀ (walletAddress : String) (last : Store MockContracts) (log : List (Entry (Store MockContracts) Operation)),
      Trace (@Performs _ retryHashes retryLibrary MockContractAdapter) newDemo log last →
        ∀ entry ∈ log, FollowsOutcome retryLibrary walletAddress entry := by
  intro claimed
  obtain ⟨log, last, trace, lags⟩ := retry_stays_blocked
  exact lags (claimed retryWallet last log trace)

/-- The run has an outcome that finds a policy it does not suit. -/
theorem retry_finds_a_block :
    ∃ log, ∃ last : Store MockContracts,
      Trace (@Performs _ retryHashes retryLibrary MockContractAdapter) newDemo log last ∧
        ¬ ∀ entry ∈ log, SuitsOutcome retryLibrary retryWallet entry := by
  obtain ⟨log, last, trace, lags⟩ := retry_stays_blocked
  have regular : newDemo.db.Regular := ⟨by rintro wallet type claim ⟨⟩, by rintro session ⟨⟩⟩
  exact ⟨log, last, trace, fun suits =>
    lags ((@policy_follows_iff_suits _ retryHashes _ _ _ _ _ regular trace retryWallet).mpr suits)⟩

end PassportKit.Verification
