import PassportKit.AttestedResults
import PassportKit.PassportAgreement

/-! What the verification system never does, whatever runs beside what: settle a claim,
open the Deal Room or raise a limit without an attested verdict, settle a claim ahead of
the chain, or mark a transaction as simulated. -/
namespace PassportKit.Verification
open Interaction Runs Evm Eip712 Js

/-- Pools of the system, and what happens in them. -/
abbrev SystemPool (σ : Type) := Pool (System σ) Request SystemCall SystemAnswer Failure Unit
abbrev SystemLog (σ : Type) := List (Entry (SystemPool σ) (Move Request SystemCall SystemAnswer))

section Shown
variable {settings : Settings} {σ : Type} {log : SystemLog σ}

theorem shows_recorded {system : System σ} {request : Request} {exchange : Program.Exchange SystemCall SystemAnswer}
    {id walletAddress : String} {claimType : ClaimType} {approved : Bool}
    (shown : Fact.recorded id walletAddress claimType approved ∈ system.shows settings request exchange) :
    ∃ data session, exchange = ⟨.api (.statement (.updateSession id data)), ()⟩ ∧
      request.Attests settings claimType approved ∧ data.approved = some approved ∧
      system.api.db.session id = some session ∧ session.walletAddress = walletAddress ∧
      session.claimType = claimType := by
  obtain ⟨call, reply⟩ := exchange
  cases call with
  | api call =>
    cases call with
    | statement statement =>
      cases statement with
      | updateSession other data =>
        obtain ⟨session, verdict, found, sets, attests, ⟨⟩⟩ := shown
        exact ⟨data, session, rfl, attests, sets, found, rfl, rfl⟩
      | _ => cases shown
    | _ => cases shown
  | node call => cases call <;> cases shown
  | _ => cases shown

theorem shows_submitted {system : System σ} {request : Request}
    {exchange : Program.Exchange SystemCall SystemAnswer} {params : SubmitClaimParams} {transactionHash : String}
    (shown : Fact.submitted params transactionHash ∈ system.shows settings request exchange) :
    exchange = ⟨.api (.submitClaim params), transactionHash⟩ ∨
      ∃ hash, exchange = ⟨.node (.writeClaim params), hash⟩ ∧ transactionHash = digestText hash := by
  obtain ⟨call, reply⟩ := exchange
  cases call with
  | api call =>
    cases call with
    | statement statement =>
      cases statement with
      | updateSession other data => obtain ⟨_, _, _, _, _, ⟨⟩⟩ := shown
      | _ => cases shown
    | submitClaim params =>
      cases shown
      exact .inl rfl
    | _ => cases shown
  | node call =>
    cases call with
    | writeClaim params =>
      cases shown
      exact .inr ⟨_, rfl, rfl⟩
    | _ => cases shown
  | _ => cases shown

/-- In this transition a verdict for the session, one of the wallet and type, is recorded
by a request that brings it. -/
def RecordsFor (settings : Settings) (id walletAddress : String) (claimType : ClaimType) (approved : Bool)
    (entry : Entry (SystemPool σ) (Move Request SystemCall SystemAnswer)) : Prop :=
  ∃ request data session, entry.event = .serves request ⟨.api (.statement (.updateSession id data)), ()⟩ ∧
    request.Attests settings claimType approved ∧ data.approved = some approved ∧
    entry.before.store.api.db.session id = some session ∧ session.walletAddress = walletAddress ∧
    session.claimType = claimType

/-- The same, for some session. -/
def Records (settings : Settings) (walletAddress : String) (claimType : ClaimType) (approved : Bool)
    (entry : Entry (SystemPool σ) (Move Request SystemCall SystemAnswer)) : Prop :=
  ∃ id, RecordsFor settings id walletAddress claimType approved entry

theorem recordedFor_shown {id walletAddress : String} {claimType : ClaimType} {approved : Bool}
    (recorded : Fact.recorded id walletAddress claimType approved ∈
      learnt (Machine.shows (System.shows settings)) log) :
    ∃ entry ∈ log, RecordsFor settings id walletAddress claimType approved entry := by
  obtain ⟨⟨before, move, after⟩, member, shown⟩ := recorded
  refine ⟨_, member, ?_⟩
  cases move with
  | serves request exchange =>
    obtain ⟨data, session, rfl, attests, sets, found, same⟩ := shows_recorded shown
    exact ⟨request, data, session, rfl, attests, sets, found, same⟩
  | starts request => cases shown
  | stops request => cases shown

theorem recorded_shown {walletAddress : String} {claimType : ClaimType} {approved : Bool}
    (recorded : Recorded (learnt (Machine.shows (System.shows settings)) log) walletAddress claimType approved) :
    ∃ entry ∈ log, Records settings walletAddress claimType approved entry := by
  obtain ⟨id, shown⟩ := recorded
  obtain ⟨entry, member, records⟩ := recordedFor_shown shown
  exact ⟨entry, member, id, records⟩

theorem regular_system {adapter : ContractAdapter σ} {system after : System σ}
    {exchange : Program.Exchange SystemCall SystemAnswer} (regular : system.api.db.Regular)
    (served : system.Serves adapter exchange after) : after.api.db.Regular := by
  cases served with
  | api served => exact regular_serves regular served
  | @profileCreated walletAddress absent =>
    refine ⟨regular.keyed, fun session member => ?_⟩
    have owned := regular.owned session member
    by_cases own : session.walletAddress = walletAddress
    · simp [Db.view, Db.setProfile, own]
    · simpa [Db.view, Db.setProfile, Function.update_of_ne own] using owned
  | fetched handled => exact regular_completes regular (completes_api.mpr handled)
  | _ => exact regular

end Shown

section Runs
variable {settings : Settings} [Crypto Bytes32] {σ : Type} {adapter : ContractAdapter σ} {prisma : Prisma}
  {contracts : σ}

def SystemPool.fresh (prisma : Prisma) (contracts : σ) : SystemPool σ := ⟨System.fresh prisma contracts, []⟩

theorem fresh_sound (prisma : Prisma) (contracts : σ) : (System.fresh prisma contracts).Sound settings ∅ where
  sessions := ⟨fun _ member => absurd member List.not_mem_nil, nofun, nofun⟩
  claims := fun _ _ _ found => by cases found
  policies := fun _ _ found => by cases found
  transactions := fun _ member => absurd member List.not_mem_nil
  posted := fun _ member => absurd member List.not_mem_nil

variable {last : SystemPool σ} {log : SystemLog σ}

/-- Along every run, every row is warranted by what the run has shown. -/
theorem sound_run (normal : settings.Normal)
    (trace : Trace (verificationSystem settings adapter).Atom (SystemPool.fresh prisma contracts) log last) :
    last.store.Sound settings (learnt (Machine.shows (System.shows settings)) log) := by
  have start : (SystemPool.fresh prisma contracts).Kept (fun known system => system.Sound settings known)
      (fun request known call => call.May settings request known)
      (fun _ known exchange => Vouched settings known exchange) ∅ :=
    ⟨fresh_sound prisma contracts, fun _ member => absurd member List.not_mem_nil⟩
  have kept := (sound_system normal adapter).run start trace
  rw [Set.empty_union] at kept
  exact kept.base

theorem regular_run
    (trace : Trace (verificationSystem settings adapter).Atom (SystemPool.fresh prisma contracts) log last) :
    last.store.api.db.Regular := by
  have start : (System.fresh prisma contracts).api.db.Regular :=
    ⟨fun _ _ _ found => (by cases found), fun _ member => absurd member List.not_mem_nil⟩
  have kept : ∀ (before : SystemPool σ) move (after : SystemPool σ), before.store.api.db.Regular →
      (verificationSystem settings adapter).Atom before move after → after.store.api.db.Regular := by
    intro before move after regular atom
    cases atom with
    | starts may => exact regular
    | serves there served => exact regular_system regular served
    | stops there => exact regular
  exact @Trace.preserves _ _ _ _ _ _ (fun pool => pool.store.api.db.Regular) kept trace start

/-- A verified claim was approved. -/
theorem verified_attested (normal : settings.Normal)
    (trace : Trace (verificationSystem settings adapter).Atom (SystemPool.fresh prisma contracts) log last)
    {walletAddress : String} {claimType : ClaimType}
    (verified : last.store.api.db.view.claim walletAddress claimType = some .VERIFIED) :
    ∃ entry ∈ log, Records settings walletAddress claimType true entry := by
  obtain ⟨claim, found, status⟩ := Option.map_eq_some_iff.mp verified
  rcases (sound_run normal trace).claims _ _ _ found with pending | processing | ⟨verdict, _, same, -, recorded, -⟩
  · rw [status] at pending
    cases pending
  · rw [status] at processing
    cases processing
  · rw [status] at same
    cases verdict with
    | true => exact recorded_shown recorded
    | false => cases same

/-- In this transition a call that writes the verdict is answered with the hash. Nobody
looks whether the transaction went through. -/
def AnswersWrite (walletAddress : String) (claimType : ClaimType) (approved : Bool) (transactionHash : String)
    (entry : Entry (SystemPool σ) (Move Request SystemCall SystemAnswer)) : Prop :=
  ∃ request params, params.walletAddress = walletAddress ∧ params.claimTypeHash = CLAIM_TYPE_HASHES claimType ∧
    params.approved = approved ∧ (entry.event = .serves request ⟨.api (.submitClaim params), transactionHash⟩ ∨
      ∃ hash, entry.event = .serves request ⟨.node (.writeClaim params), hash⟩ ∧
        transactionHash = digestText hash)

theorem submitted_shown {walletAddress : String} {claimType : ClaimType} {approved : Bool} {hash : String}
    (real : settings.DEMO_MODE = false)
    (submitted : Submitted settings (learnt (Machine.shows (System.shows settings)) log) walletAddress claimType
      approved hash) :
    ∃ entry ∈ log, AnswersWrite walletAddress claimType approved hash entry := by
  rcases submitted with demo | ⟨params, ⟨⟨before, move, after⟩, member, shown⟩, same⟩
  · rw [real] at demo
    cases demo
  refine ⟨_, member, ?_⟩
  cases move with
  | serves request exchange =>
    rcases shows_submitted shown with rfl | ⟨digest, rfl, named⟩
    · exact ⟨request, params, same.1, same.2.1, same.2.2, .inl rfl⟩
    · exact ⟨request, params, same.1, same.2.1, same.2.2, .inr ⟨digest, rfl, named⟩⟩
  | starts request => cases shown
  | stops request => cases shown

end Runs

/-! ## A wallet that is verified -/

section Demo

/-- What each call of a run is answered, a node's writes with the hash zero. -/
def systemAnswer (fresh : String) (system : System MockContracts) :
    (request : SystemCall) → Option (System MockContracts × SystemAnswer request)
  | .api request => (mockAnswer fresh system.api request).map fun (api, reply) => ({ system with api }, reply)
  | .setupProfile _ => none
  | .findPassport _ => none
  | .node (.fetchVerificationResult verificationId) =>
    (system.api.db.session verificationId).map fun session => (system, verificationResult session)
  | .node .nowSeconds => some (system, 0)
  | .node .randomDigits => some (system, List.Vector.replicate 64 0)
  | .node (.writeClaim _) => some (system, 0)
  | .node (.simulateSync _) => some (system, (1, 2))
  | .node (.writeSync _) => some (system, 0)
  | .node (.readAccessSummary _) => some (system, ⟨true, false, false, .LIMITED⟩)
  | .node (.sendWorkflowResult result) => some ({ system with posted := result :: system.posted }, ())

theorem serves_systemAnswer {fresh : String} {system next : System MockContracts} {request : SystemCall}
    {reply : SystemAnswer request} (answered : systemAnswer fresh system request = some (next, reply)) :
    system.Serves MockContractAdapter ⟨request, reply⟩ next := by
  cases request with
  | api request =>
    obtain ⟨⟨api, _⟩, mocked, same⟩ := Option.map_eq_some_iff.mp answered
    cases same
    exact .api (serves_mockAnswer mocked)
  | node request =>
    cases request with
    | fetchVerificationResult verificationId =>
      obtain ⟨session, found, same⟩ := Option.map_eq_some_iff.mp answered
      cases same
      have finds : system.api.prisma.execute system.api.db "" (.findSession verificationId) =
          .ok (system.api.db, some session) := by
        rw [system.api.prisma.findSession, found]
      exact .fetched (completes_perform_bind.mpr ⟨some session, system.api, .statement finds, .done _ _⟩)
    | nowSeconds => cases answered; exact .now _
    | randomDigits => cases answered; exact .random _
    | writeClaim params => cases answered; exact .claimWritten _ _
    | simulateSync walletAddress => cases answered; exact .syncSimulated _ _
    | writeSync walletAddress => cases answered; exact .syncWritten _ _
    | readAccessSummary walletAddress => cases answered; exact .summaryRead _ _
    | sendWorkflowResult result => cases answered; exact .posted _
  | _ => cases answered

instance {σ : Type} (system : System σ) : (request : Request) → Decidable (request.Comes system)
  | .workflowResult body =>
    inferInstanceAs (Decidable (∃ result ∈ system.posted, result.toCREWorkflowResult = body))
  | .start _ _ | .submitDocument _ _ | .aiAttesterWebhook _ _ _ _ | .mockAiResult _ _ _ | .syncOnchain _
  | .setupPrivyWallet _ | .getPolicy _ | .updateTransferLimit _ _ | .transferIntent _ _ _ | .checkAccess _ _
  | .getPassport _ | .trigger _ => .isTrue trivial

variable [Crypto Bytes32] (settings : Settings)

/-- Requests one after another, each with the id of a session it may create. -/
def systemRun : System MockContracts → List (String × Request) → Option (System MockContracts)
  | system, [] => some system
  | system, (fresh, request) :: rest =>
    if request.Comes system then
      ((request.program settings).carryOut (systemAnswer fresh) system).bind fun (_, next) => systemRun next rest
    else none

theorem trace_of_systemRun {settings : Settings} {requests : List (String × Request)}
    {system last : System MockContracts}
    (ran : systemRun settings system requests = some last) :
    ∃ log, Trace (verificationSystem settings MockContractAdapter).Atom ⟨system, []⟩ log ⟨last, []⟩ := by
  induction requests generalizing system with
  | nil =>
    cases ran
    exact ⟨[], .nil _⟩
  | cons first rest ih =>
    rw [systemRun] at ran
    split at ran
    · rename_i comes
      obtain ⟨⟨_, next⟩, completes, later⟩ := Option.bind_eq_some_iff.mp ran
      obtain ⟨log, trace⟩ := ih later
      have alone := Program.completes_of_carryOut (fun _ _ _ _ => serves_systemAnswer) completes
      obtain ⟨before, first⟩ := (verificationSystem settings MockContractAdapter).runs_alone comes alone
      exact ⟨_, first.append trace⟩
    · cases ran

end Demo

def nodeSettings : Settings where
  lib := fallbackLibrary
  webhookSecret := "whsec"
  DEMO_MODE := false

theorem nodeSettings_normal : nodeSettings.Normal := by
  intro raw address named
  simp only [nodeSettings, fallbackLibrary] at named ⊢
  split at named <;> cases named
  rfl

/-- Started, approved by the attester, submitted by the node and reported. -/
def attestedRun : List (String × Request) :=
  [("clz2session", .start demoWallet "KYC_AML_VERIFIED"),
    ("", .getPolicy demoWallet),
    ("", .aiAttesterWebhook 0 (some "whsec") (some "clz2session") {
      input := none
      output := none
      payload := {
        claimType := some "KYC_AML_VERIFIED"
        approved := some true
        confidence := some 1
        attestationHash := some "0x118c44e7dd29a6415d792a5add91c6890c5acd3b0ccdb218dcb0cc05e02bffcb" } }),
    ("", .trigger "clz2session"),
    ("", .workflowResult {
      verificationId := "clz2session"
      walletAddress := demoWallet
      claimType := .KYC_AML_VERIFIED
      approved := true
      claimRegistryTxHash := some (digestText 0)
      passportTxHash := some (digestText 0) })]

/-- The wallet is let into the Deal Room, and may choose its limit. -/
theorem attestedRun_ends :
    (@systemRun demoHashes nodeSettings (System.fresh .standard .fresh) attestedRun).map (fun last =>
      ((last.api.db.claims demoWallet .KYC_AML_VERIFIED).map (·.status),
        (last.api.db.policies demoWallet).map (·.policyStatus), last.api.db.transactions.map (·.contractName),
        last.api.db.view.recalculated demoWallet)) =
      some (some .VERIFIED, some KYC_USER_CONFIGURABLE, [.CompliancePassport, .ClaimRegistry], .LIMITED) := by
  decide +kernel

/-- Runs of the demo's system, from where it is first put up. -/
abbrev DemoTrace (log : SystemLog MockContracts) (last : SystemPool MockContracts) : Prop :=
  Trace (@verificationSystem nodeSettings demoHashes _ MockContractAdapter).Atom (SystemPool.fresh .standard .fresh)
    log last

/-- What the run leaves. -/
structure DemoEnds (last : SystemPool MockContracts) : Prop where
  verified : ∃ claim, last.store.api.db.claims demoWallet .KYC_AML_VERIFIED = some claim ∧
    claim.status = verdictStatus true
  configurable : ∃ policy, last.store.api.db.policies demoWallet = some policy ∧
    policy.policyStatus = KYC_USER_CONFIGURABLE
  recorded : ∃ record ∈ last.store.api.db.transactions, record.contractName = .ClaimRegistry
  limited : last.store.api.db.view.recalculated demoWallet = .LIMITED

theorem attestedRun_trace : ∃ log last, DemoTrace log last ∧ DemoEnds last := by
  obtain ⟨last, ran, ends⟩ := Option.map_eq_some_iff.mp attestedRun_ends
  obtain ⟨log, trace⟩ := @trace_of_systemRun demoHashes _ _ _ _ ran
  simp only [Prod.mk.injEq] at ends
  obtain ⟨verified, configurable, names, limited⟩ := ends
  refine ⟨log, _, trace, ?_, ?_, ?_, limited⟩
  · exact Option.map_eq_some_iff.mp verified
  · exact Option.map_eq_some_iff.mp configurable
  · exact List.mem_map.mp (names ▸
      (by decide : ContractName.ClaimRegistry ∈ [ContractName.CompliancePassport, .ClaimRegistry]))

end PassportKit.Verification
