import PassportKit.VerificationView

/-! The operations of the API on a wallet's verifications, each run to its end before
the next. What a completed operation leaves is said of the view of the database, and of
the contracts for the one that writes on chain. -/
namespace PassportKit.Verification
open Interaction Runs Evm Eip712

inductive Operation where
  | startVerification (rawAddress claimType : String)
  | handleAiAttesterWebhook (now : Date) (body : WebhookBody) (verificationIdFromUrl : Option String)
  | injectMockAiResult (now : Date) (verificationId : String) (approved : Bool)
  | receiveWorkflowResult (body : CREWorkflowResult)
  | syncOnchain (verificationId : String)
  | getPolicy (walletAddress : String)

section Performing
variable {σ : Type} [Crypto Bytes32] (lib : DemoLibrary) (adapter : ContractAdapter σ)

def Operation.program : Operation → ApiHandler Unit
  | .startVerification rawAddress claimType => do
    let _ ← Api (Verification.startVerification lib.toLibrary rawAddress claimType)
  | .handleAiAttesterWebhook now body verificationIdFromUrl => do
    let _ ← Api (Verification.handleAiAttesterWebhook lib.toLibrary now body verificationIdFromUrl)
  | .injectMockAiResult now verificationId approved => do
    let _ ← Verification.injectMockAiResult lib now verificationId approved
  | .receiveWorkflowResult body => do
    let _ ← Api (Verification.receiveWorkflowResult lib.toLibrary body)
  | .syncOnchain verificationId => do
    let _ ← Verification.syncOnchain lib verificationId
  | .getPolicy walletAddress => do
    let _ ← Verification.getPolicy walletAddress

/-- The operation completes: its handler returns. -/
def Performs (before : Store σ) (operation : Operation) (after : Store σ) : Prop :=
  (operation.program lib).Completes (Serves adapter) before () after

end Performing

section Answering
variable {σ : Type} {adapter : ContractAdapter σ} {before after : Store σ} {α : Type}

def Answers (adapter : ContractAdapter σ) (store : Store σ) (exchange : Program.Exchange Statement Reply)
    (next : Store σ) : Prop :=
  Serves adapter store ⟨.statement exchange.1, exchange.2⟩ next

theorem completes_api {handler : Program Statement Reply HttpError α} {result : α} :
    (Api handler).Completes (Serves adapter) before result after ↔
      handler.Completes (Answers adapter) before result after := by
  have same : (fun store (exchange : Program.Exchange Statement Reply) next => ∃ reply, reply = exchange.2 ∧
      Serves adapter store ⟨.statement exchange.1, reply⟩ next) = Answers adapter := by
    funext store exchange next
    simp [Answers]
  rw [Api, Program.completes_through, same]

theorem completes_perform {statement : Statement} {reply : Reply statement} :
    (perform statement).Completes (Answers adapter) before reply after ↔
      Serves adapter before ⟨.statement statement, reply⟩ after := by
  rw [perform, Program.perform, Program.completes_call]
  constructor
  · rintro ⟨answer, middle, served, done⟩
    obtain ⟨rfl, rfl⟩ := Program.completes_done.mp done
    exact served
  · exact fun served => ⟨reply, after, served, .done _ _⟩

theorem completes_perform_bind {β : Type} {statement : Statement}
    {rest : Reply statement → Program Statement Reply HttpError β} {result : β} :
    (perform statement >>= rest).Completes (Answers adapter) before result after ↔ ∃ reply middle,
      Serves adapter before ⟨.statement statement, reply⟩ middle ∧
        (rest reply).Completes (Answers adapter) middle result after :=
  Program.completes_call

theorem completes_ask_bind {β : Type} {request : ApiCall} {rest : ApiReply request → ApiHandler β} {result : β} :
    (ask request >>= rest).Completes (Serves adapter) before result after ↔ ∃ reply middle,
      Serves adapter before ⟨request, reply⟩ middle ∧
        (rest reply).Completes (Serves adapter) middle result after :=
  Program.completes_call

variable {statement : Statement} {reply : Reply statement}

/-- The calls that write on chain. -/
def ApiCall.OnChain : ApiCall → Prop
  | .submitClaim _ => True
  | .syncPassport _ => True
  | _ => False

theorem contracts_serves {request : ApiCall} {reply : ApiReply request} (off : ¬ request.OnChain)
    (served : Serves adapter before ⟨request, reply⟩ after) : after.contracts = before.contracts := by
  cases served with
  | submitted done | synced done => exact absurd trivial off
  | _ => rfl

theorem contracts_statement (served : Serves adapter before ⟨.statement statement, reply⟩ after) :
    after.contracts = before.contracts :=
  contracts_serves (by rintro ⟨⟩) served

theorem served_submitClaim {params : SubmitClaimParams} {transactionHash : String}
    (served : Serves adapter before ⟨.submitClaim params, transactionHash⟩ after) :
    adapter.submitClaim before.contracts params transactionHash after.contracts := by
  cases served with
  | submitted done => exact done

theorem served_syncPassport {walletAddress : String} {result : SyncPassportResult}
    (served : Serves adapter before ⟨.syncPassport walletAddress, result⟩ after) :
    adapter.syncPassport before.contracts walletAddress result after.contracts := by
  cases served with
  | synced done => exact done

theorem found_session {id : String} {found : Option VerificationSession}
    (served : Serves adapter before ⟨.statement (.findSession id), found⟩ after) :
    found = before.db.session id ∧ after = before := by
  cases served with
  | statement done =>
    rw [before.prisma.findSession] at done
    cases done
    exact ⟨rfl, rfl⟩

theorem found_firstSession {walletAddress : String} {claimType : ClaimType} {statuses : List VerificationStatus}
    {found : Option VerificationSession}
    (served : Serves adapter before
      ⟨.statement (.findFirstSession walletAddress claimType statuses), found⟩ after) :
    (found = before.db.sessions.find? fun session => session.walletAddress = walletAddress &&
      session.claimType = claimType && statuses.contains session.status) ∧ after = before := by
  cases served with
  | statement done =>
    rw [before.prisma.findFirstSession] at done
    cases done
    exact ⟨rfl, rfl⟩

theorem found_policy {walletAddress : String} {found : Option WalletTransferPolicy}
    (served : Serves adapter before ⟨.statement (.findPolicy walletAddress), found⟩ after) :
    found = before.db.policies walletAddress ∧ after = before := by
  cases served with
  | statement done =>
    rw [before.prisma.findPolicy] at done
    cases done
    exact ⟨rfl, rfl⟩

theorem found_claims {walletAddress : String} {found : List ComplianceClaim}
    (served : Serves adapter before ⟨.statement (.findManyClaims walletAddress), found⟩ after) :
    found = before.db.claimsOf walletAddress ∧ after = before := by
  cases served with
  | statement done =>
    rw [before.prisma.findManyClaims] at done
    cases done
    exact ⟨rfl, rfl⟩

theorem regular_completes {program : ApiHandler α} {result : α} (regular : before.db.Regular)
    (completes : program.Completes (Serves adapter) before result after) : after.db.Regular :=
  completes.preserves (fun _ _ _ => regular_serves) regular

end Answering

/-! ## What each operation leaves -/

section Leaving
variable {σ : Type} {adapter : ContractAdapter σ} {before after : Store σ} {lib : Library}

theorem contracts_api {α : Type} {handler : Program Statement Reply HttpError α} {result : α}
    (completes : handler.Completes (Answers adapter) before result after) : after.contracts = before.contracts :=
  completes.preserves (fun _ _ _ same served => (contracts_statement served).trans same) rfl

theorem openSession_leaves {walletAddress id : String} {claimType : ClaimType}
    (opens : (openSession walletAddress claimType).Completes (Answers adapter) before id after) :
    after.db.view =
      (before.db.view.setPassport walletAddress .IN_PROGRESS).setClaim walletAddress claimType (some .PENDING) := by
  obtain ⟨_, profiled, upserts, creating⟩ := Program.completes_call.mp opens
  obtain ⟨session, opened, creates, claiming⟩ := Program.completes_call.mp creating
  obtain ⟨_, claimed, claims, done⟩ := Program.completes_call.mp claiming
  obtain ⟨rfl, rfl⟩ := Program.completes_done.mp done
  have first : profiled.db.view = before.db.view.setPassport walletAddress .IN_PROGRESS := view_serves upserts
  have second : opened.db.view = profiled.db.view := view_serves creates
  have third : after.db.view = opened.db.view.setClaim walletAddress claimType (some .PENDING) := view_serves claims
  rw [third, second, first]

theorem startVerification_leaves {rawAddress claimType : String} {response : Response}
    (starts : (startVerification lib rawAddress claimType).Completes (Answers adapter) before response after) :
    ∃ wallet type, after.db.view =
      (before.db.view.setPassport wallet .IN_PROGRESS).setClaim wallet type (some .PENDING) := by
  obtain ⟨type, _, supported, normalizing⟩ := Program.completes_bind.mp starts
  obtain ⟨-, rfl⟩ := Program.completes_ofExcept.mp supported
  obtain ⟨wallet, _, valid, opening⟩ := Program.completes_bind.mp normalizing
  obtain ⟨-, rfl⟩ := Program.completes_ofExcept.mp valid
  obtain ⟨id, opened, opens, done⟩ := Program.completes_bind.mp opening
  obtain ⟨-, rfl⟩ := Program.completes_done.mp done
  exact ⟨wallet, type, openSession_leaves opens⟩

/-- The session a webhook is for. -/
def webhookSession (lib : Library) (db : Db) (rawPayload : AIAttesterWebhookPayload) (claimType : ClaimType)
    (verificationIdFromUrl : Option String) : Option VerificationSession :=
  match (verificationIdFromUrl.or rawPayload.verificationId).filter (· ≠ "") with
  | some resolvedVerificationId => db.session resolvedVerificationId
  | none => do
    let raw ← rawPayload.walletAddress.filter (· ≠ "")
    let walletAddress ← lib.getAddress raw
    db.sessions.find? fun session => session.walletAddress = walletAddress &&
      session.claimType = claimType && [VerificationStatus.PENDING, .PROCESSING].contains session.status

theorem resolveSession_finds {rawPayload : AIAttesterWebhookPayload} {claimType : ClaimType}
    {verificationIdFromUrl : Option String} {session : VerificationSession}
    (resolves : (resolveSession lib rawPayload claimType verificationIdFromUrl).Completes (Answers adapter) before
      session after) :
    webhookSession lib before.db rawPayload claimType verificationIdFromUrl = some session ∧ after = before := by
  revert resolves
  rw [resolveSession, webhookSession]
  cases (verificationIdFromUrl.or rawPayload.verificationId).filter (· ≠ "") with
  | some id =>
    intro looks
    obtain ⟨found, middle, finds, returns⟩ := Program.completes_call.mp looks
    obtain ⟨there, rfl⟩ := found_session finds
    cases found with
    | none => exact absurd returns Program.not_completes_fail
    | some other =>
      obtain ⟨rfl, rfl⟩ := Program.completes_done.mp returns
      exact ⟨there.symm, rfl⟩
  | none =>
    cases rawPayload.walletAddress.filter (· ≠ "") with
    | none => exact fun fails => absurd fails Program.not_completes_fail
    | some raw =>
      intro normalizes
      obtain ⟨wallet, _, valid, looks⟩ := Program.completes_bind.mp normalizes
      obtain ⟨named, rfl⟩ := Program.completes_ofExcept.mp valid
      obtain ⟨found, middle, finds, returns⟩ := Program.completes_call.mp looks
      obtain ⟨there, rfl⟩ := found_firstSession finds
      have address : lib.getAddress raw = some wallet := by
        rw [normalizeAddress] at named
        split at named <;> cases named
        assumption
      cases found with
      | none => exact absurd returns Program.not_completes_fail
      | some other =>
        obtain ⟨rfl, rfl⟩ := Program.completes_done.mp returns
        exact ⟨by simpa [address] using there.symm, rfl⟩

/-- The session a webhook is for, if its payload can be read. -/
def webhookTarget (lib : Library) (db : Db) (body : WebhookBody) (verificationIdFromUrl : Option String) :
    Option VerificationSession := do
  let rawPayload ← (unwrap lib body).toOption
  let verdict ← (readVerdict rawPayload).toOption
  webhookSession lib db rawPayload verdict.claimType verificationIdFromUrl

theorem recordResult_leaves {rawPayload : AIAttesterWebhookPayload} {verdict : Verdict} {expiresAt : Date}
    {session : VerificationSession} {response : Response}
    (records : (recordResult lib rawPayload verdict expiresAt session).Completes (Answers adapter) before response
      after) :
    after.db.view = before.db.view.setClaim session.walletAddress verdict.claimType (some .PROCESSING) := by
  obtain ⟨_, logged, logs, recording⟩ := Program.completes_call.mp records
  obtain ⟨_, noted, notes, processing⟩ := Program.completes_call.mp recording
  obtain ⟨_, processed, processes, claiming⟩ := Program.completes_call.mp processing
  obtain ⟨_, claimed, claims, triggering⟩ := Program.completes_call.mp claiming
  obtain ⟨_, triggered, triggers, finishing⟩ := Program.completes_call.mp triggering
  obtain ⟨_, finished, finishes, done⟩ := Program.completes_call.mp finishing
  obtain ⟨-, rfl⟩ := Program.completes_done.mp done
  have first : logged.db.view = before.db.view := view_serves logs
  have second : noted.db.view = logged.db.view := view_serves notes
  have third : processed.db.view = noted.db.view := view_serves processes
  have fourth : claimed.db.view =
      processed.db.view.setClaim session.walletAddress verdict.claimType (some .PROCESSING) := view_serves claims
  have fifth : triggered.db.view = claimed.db.view := view_serves triggers
  have last : after.db.view = triggered.db.view := view_serves finishes
  rw [last, fifth, fourth, third, second, first]

theorem handleAiAttesterWebhook_leaves {now : Date} {body : WebhookBody} {verificationIdFromUrl : Option String}
    {response : Response}
    (handles : (handleAiAttesterWebhook lib now body verificationIdFromUrl).Completes (Answers adapter) before response
      after) :
    ∃ session, webhookTarget lib before.db body verificationIdFromUrl = some session ∧
      after.db.view = before.db.view.setClaim session.walletAddress session.claimType (some .PROCESSING) := by
  obtain ⟨rawPayload, _, unwraps, reading⟩ := Program.completes_bind.mp handles
  obtain ⟨unwrapped, rfl⟩ := Program.completes_ofExcept.mp unwraps
  obtain ⟨verdict, _, reads, resolving⟩ := Program.completes_bind.mp reading
  obtain ⟨read, rfl⟩ := Program.completes_ofExcept.mp reads
  obtain ⟨session, _, resolves, checking⟩ := Program.completes_bind.mp resolving
  obtain ⟨resolved, rfl⟩ := resolveSession_finds resolves
  obtain ⟨_, _, checks, records⟩ := Program.completes_bind.mp checking
  obtain ⟨checked, rfl⟩ := Program.completes_ofExcept.mp checks
  refine ⟨session, ?_, ?_⟩
  · rw [webhookTarget, unwrapped]
    change (readVerdict rawPayload).toOption.bind _ = _
    rw [read]
    exact resolved
  · rw [recordResult_leaves records, checkSession_ok checked]

theorem saveSync_leaves {walletAddress : String} {body : CREWorkflowResult} {txStatus : TransactionStatus}
    (saves : (saveSync walletAddress body txStatus).Completes (Answers adapter) before () after) :
    after.db.view = before.db.view := by
  revert saves
  rw [saveSync]
  cases body.passportTxHash.filter (· ≠ "") with
  | none =>
    intro saves
    obtain ⟨-, rfl⟩ := Program.completes_done.mp saves
    rfl
  | some passportTxHash => exact fun saves => view_serves (completes_perform.mp saves)

/-- The status a result gives a claim. -/
def verdictStatus (approved : Bool) : ClaimStatus := if approved then .VERIFIED else .FAILED

/-- `updateTransferPolicy` -/
def View.updatePolicy (view : View) (walletAddress : String) (claimType : ClaimType) (approved : Bool)
    (recalculated : PassportStatus) : View :=
  if recalculated = .RED ∨ recalculated = .REVOKED then view.setPolicy walletAddress BLOCKED
  else if claimType = .KYC_AML_VERIFIED ∧ approved ∧ view.policy walletAddress = some NO_KYC_DAILY_50 then
    view.setPolicy walletAddress KYC_USER_CONFIGURABLE
  else view

theorem View.claim_updatePolicy (view : View) (walletAddress : String) (claimType : ClaimType) (approved : Bool)
    (recalculated : PassportStatus) :
    (view.updatePolicy walletAddress claimType approved recalculated).claim = view.claim := by
  rw [View.updatePolicy]
  split
  · rfl
  split <;> rfl

theorem View.passport_updatePolicy (view : View) (walletAddress : String) (claimType : ClaimType) (approved : Bool)
    (recalculated : PassportStatus) :
    (view.updatePolicy walletAddress claimType approved recalculated).passport = view.passport := by
  rw [View.updatePolicy]
  split
  · rfl
  split <;> rfl

theorem setPolicy_setPolicy (view : View) (walletAddress first second : String) :
    (view.setPolicy walletAddress first).setPolicy walletAddress second = view.setPolicy walletAddress second := by
  simp [View.setPolicy]

theorem upgradeAfterKyc_leaves {walletAddress : String}
    (upgrades : (upgradeAfterKyc walletAddress).Completes (Answers adapter) before () after) :
    after.db.view = if before.db.view.policy walletAddress = some NO_KYC_DAILY_50 then
      before.db.view.setPolicy walletAddress KYC_USER_CONFIGURABLE else before.db.view := by
  obtain ⟨found, middle, finds, updating⟩ := Program.completes_call.mp upgrades
  obtain ⟨there, rfl⟩ := found_policy finds
  have status : middle.db.view.policy walletAddress = found.map (·.policyStatus) :=
    (congrArg (Option.map WalletTransferPolicy.policyStatus) there).symm
  rw [status]
  cases found with
  | none =>
    obtain ⟨-, rfl⟩ := Program.completes_done.mp updating
    rw [if_neg (by rintro ⟨⟩)]
  | some policy =>
    replace updating : (if policy.policyStatus = NO_KYC_DAILY_50 then
        perform (.updatePolicy walletAddress KYC_USER_CONFIGURABLE)
      else pure ()).Completes (Answers adapter) middle () after := updating
    rw [Option.map_some]
    by_cases basic : policy.policyStatus = NO_KYC_DAILY_50
    · rw [if_pos basic] at updating
      rw [if_pos (congrArg some basic)]
      exact view_serves (completes_perform.mp updating)
    · rw [if_neg basic] at updating
      obtain ⟨-, rfl⟩ := Program.completes_done.mp updating
      rw [if_neg fun same => basic (Option.some.inj same)]

theorem updateTransferPolicy_leaves {walletAddress : String} {claimType : ClaimType} {approved : Bool}
    {recalculated : PassportStatus}
    (updates : (updateTransferPolicy walletAddress claimType approved recalculated).Completes (Answers adapter) before
      () after) :
    after.db.view = before.db.view.updatePolicy walletAddress claimType approved recalculated := by
  obtain ⟨_, middle, upgrades, blocks⟩ := Program.completes_bind.mp updates
  have blocked : after.db.view = if recalculated = .RED ∨ recalculated = .REVOKED then
      middle.db.view.setPolicy walletAddress BLOCKED else middle.db.view := by
    by_cases red : recalculated = .RED ∨ recalculated = .REVOKED
    · rw [if_pos red] at blocks ⊢
      exact view_serves (completes_perform.mp blocks)
    · rw [if_neg red] at blocks ⊢
      obtain ⟨-, rfl⟩ := Program.completes_done.mp blocks
      rfl
  have upgraded : middle.db.view =
      if claimType = .KYC_AML_VERIFIED ∧ approved = true ∧ recalculated ≠ .RED ∧
          before.db.view.policy walletAddress = some NO_KYC_DAILY_50 then
        before.db.view.setPolicy walletAddress KYC_USER_CONFIGURABLE else before.db.view := by
    by_cases may : claimType = .KYC_AML_VERIFIED ∧ approved = true ∧ recalculated ≠ .RED
    · rw [if_pos may] at upgrades
      rw [upgradeAfterKyc_leaves upgrades]
      simp [may]
    · rw [if_neg may] at upgrades
      obtain ⟨-, rfl⟩ := Program.completes_done.mp upgrades
      rw [if_neg fun all => may ⟨all.1, all.2.1, all.2.2.1⟩]
  rw [blocked, upgraded, View.updatePolicy]
  by_cases red : recalculated = .RED ∨ recalculated = .REVOKED
  · rw [if_pos red, if_pos red]
    split
    · exact setPolicy_setPolicy _ _ _ _
    · rfl
  · rw [if_neg red, if_neg red]
    have other : recalculated ≠ .RED := fun same => red (.inl same)
    simp [other]

theorem receiveWorkflowResult_leaves {body : CREWorkflowResult} {response : Response} (regular : before.db.Regular)
    (receives : (receiveWorkflowResult lib body).Completes (Answers adapter) before response after) :
    ∃ walletAddress claimed, lib.getAddress body.walletAddress = some walletAddress ∧
      claimed = before.db.view.setClaim walletAddress body.claimType
        ((before.db.view.claim walletAddress body.claimType).map fun _ => verdictStatus body.approved) ∧
      after.db.view = (claimed.setPassport walletAddress (claimed.recalculated walletAddress)).updatePolicy
        walletAddress body.claimType body.approved (claimed.recalculated walletAddress) := by
  obtain ⟨walletAddress, start, valid, claiming⟩ := Program.completes_bind.mp receives
  obtain ⟨named, rfl⟩ := Program.completes_ofExcept.mp valid
  have address : lib.getAddress body.walletAddress = some walletAddress := by
    rw [normalizeAddress] at named
    split at named <;> cases named
    assumption
  obtain ⟨_, claimed, claims, recording⟩ := completes_perform_bind.mp claiming
  obtain ⟨_, recorded, records, syncing⟩ := completes_perform_bind.mp recording
  obtain ⟨_, synced, saves, listing⟩ := Program.completes_bind.mp syncing
  obtain ⟨allClaims, listed, lists, profiling⟩ := completes_perform_bind.mp listing
  obtain ⟨all, rfl⟩ := found_claims lists
  obtain ⟨profile, profiled, profiles, updating⟩ := completes_perform_bind.mp profiling
  obtain ⟨_, updated, updates, policing⟩ := completes_perform_bind.mp updating
  obtain ⟨_, policed, polices, finishing⟩ := Program.completes_bind.mp policing
  obtain ⟨_, finished, finishes, done⟩ := completes_perform_bind.mp finishing
  obtain ⟨-, rfl⟩ := Program.completes_done.mp done
  have first : claimed.db.view = start.db.view.setClaim walletAddress body.claimType
      ((start.db.view.claim walletAddress body.claimType).map fun _ => verdictStatus body.approved) :=
        view_serves claims
  have second : listed.db.view = claimed.db.view := (saveSync_leaves saves).trans (view_serves records)
  have listedRegular : listed.db.Regular :=
    saves.preserves (fun _ _ _ => regular_serves) (regular_serves (regular_serves regular claims) records)
  have recalculated : calculatePassportStatus allClaims = claimed.db.view.recalculated walletAddress := by
    rw [all, calculatePassportStatus_claimsOf listedRegular, second]
  have third : profiled.db.view = listed.db.view := view_serves profiles
  have fourth : updated.db.view = profiled.db.view.setPassport walletAddress (calculatePassportStatus allClaims) :=
    view_serves updates
  have fifth := updateTransferPolicy_leaves polices
  have last : after.db.view = policed.db.view := view_serves finishes
  refine ⟨walletAddress, claimed.db.view, address, first, ?_⟩
  rw [last, fifth, fourth, third, second, recalculated]

end Leaving

section Fallbacks
variable {σ : Type} {adapter : ContractAdapter σ} {before after : Store σ} {lib : DemoLibrary}

theorem injectMockAiResult_leaves {now : Date} {verificationId : String} {approved : Bool} {injected : Injected}
    (injects : (injectMockAiResult lib now verificationId approved).Completes (Serves adapter) before injected after) :
    after.contracts = before.contracts ∧ ∃ session, before.db.session verificationId = some session ∧
      after.db.view = before.db.view.setClaim session.walletAddress session.claimType (some .PROCESSING) := by
  obtain ⟨found, _, finds, records⟩ := Program.completes_call.mp injects
  obtain ⟨there, rfl⟩ := found_session finds
  cases found with
  | none => exact absurd records Program.not_completes_fail
  | some session =>
    obtain ⟨_, processed, processes, claiming⟩ := Program.completes_call.mp records
    obtain ⟨_, claimed, claims, triggering⟩ := Program.completes_call.mp claiming
    obtain ⟨_, triggered, triggers, finishing⟩ := Program.completes_call.mp triggering
    obtain ⟨_, finished, finishes, done⟩ := Program.completes_call.mp finishing
    obtain ⟨-, rfl⟩ := Program.completes_done.mp done
    have first : processed.db.view = _ := view_serves processes
    have second : claimed.db.view =
        processed.db.view.setClaim session.walletAddress session.claimType (some .PROCESSING) := view_serves claims
    have third : triggered.db.view = claimed.db.view := view_serves triggers
    have last : after.db.view = triggered.db.view := view_serves finishes
    refine ⟨?_, session, there.symm, by rw [last, third, second, first]; rfl⟩
    rw [contracts_statement finishes, contracts_statement triggers, contracts_statement claims,
      contracts_statement processes]

/-- What `syncOnchain` writes, on chain and in the database. -/
theorem syncOnchain_leaves [Crypto Bytes32] {verificationId : String} {result : Synced}
    (syncs : (syncOnchain lib verificationId).Completes (Serves adapter) before result after) :
    ∃ session params transactionHash contracts passport, before.db.session verificationId = some session ∧
      session.status ≠ .PENDING ∧ params.walletAddress = session.walletAddress ∧
      params.claimTypeHash = CLAIM_TYPE_HASHES session.claimType ∧
      adapter.submitClaim before.contracts params transactionHash contracts ∧
      adapter.syncPassport contracts session.walletAddress passport after.contracts ∧
      after.db.view = (before.db.view.setClaim session.walletAddress session.claimType
        (some (verdictStatus (session.approved.getD false)))).setPassport session.walletAddress passport.status := by
  obtain ⟨found, middle, finds, branching⟩ := Program.completes_call.mp syncs
  obtain ⟨there, rfl⟩ := found_session finds
  cases found with
  | none => exact absurd branching Program.not_completes_fail
  | some session =>
    replace branching : (if session.status = .PENDING then
        .fail (.badRequest "AI Attester result not yet received for this verification")
      else writeOnchain lib verificationId session).Completes (Serves adapter) middle result after := branching
    by_cases pending : session.status = .PENDING
    · rw [if_pos pending] at branching
      exact absurd branching Program.not_completes_fail
    rw [if_neg pending] at branching
    obtain ⟨transactionHash, submitted, submits, saving⟩ := completes_ask_bind.mp branching
    obtain ⟨_, saved, saves, claiming⟩ := completes_ask_bind.mp saving
    obtain ⟨_, claimed, claims, syncing⟩ := completes_ask_bind.mp claiming
    obtain ⟨passport, synced, passes, noting⟩ := completes_ask_bind.mp syncing
    obtain ⟨_, noted, notes, updating⟩ := completes_ask_bind.mp noting
    obtain ⟨_, updated, updates, finishing⟩ := completes_ask_bind.mp updating
    obtain ⟨_, finished, finishes, done⟩ := completes_ask_bind.mp finishing
    obtain ⟨-, rfl⟩ := Program.completes_done.mp done
    have first : submitted.db.view = middle.db.view := view_serves submits
    have second : saved.db.view = submitted.db.view := view_serves saves
    have third : claimed.db.view = saved.db.view.setClaim session.walletAddress session.claimType
        (some (verdictStatus (session.approved.getD false))) := by
      rw [view_serves claims, View.after]
      cases saved.db.view.claim session.walletAddress session.claimType <;> rfl
    have fourth : synced.db.view = claimed.db.view := view_serves passes
    have fifth : noted.db.view = synced.db.view := view_serves notes
    have sixth : updated.db.view = noted.db.view.setPassport session.walletAddress passport.status :=
      view_serves updates
    have last : after.db.view = updated.db.view := view_serves finishes
    have between : claimed.contracts = submitted.contracts :=
      (contracts_serves (by rintro ⟨⟩) claims).trans (contracts_statement saves)
    have behind : after.contracts = synced.contracts :=
      (contracts_statement finishes).trans ((contracts_statement updates).trans (contracts_statement notes))
    refine ⟨session, _, transactionHash, submitted.contracts, passport, there.symm, pending, rfl, rfl,
      served_submitClaim submits, ?_, ?_⟩
    · rw [behind, ← between]
      exact served_syncPassport passes
    · rw [last, sixth, fifth, fourth, third, second, first]

/-- The calls of a policy read. -/
def ApiCall.OfPolicy : ApiCall → Prop
  | .ensurePolicy _ => True
  | .statement (.findPolicy _) => True
  | .statement (.updatePolicy _ _) => True
  | .findFirstClaim _ _ _ => True
  | _ => False

theorem getPolicy_calls (walletAddress : String) : (getPolicy walletAddress).Calls ApiCall.OfPolicy := by
  have ensures : (ensurePolicy walletAddress).Calls ApiCall.OfPolicy := by
    refine ⟨trivial, fun upserted => ?_⟩
    cases upserted <;> trivial
  have refreshes (policy : Option WalletTransferPolicy) : (refresh walletAddress policy).Calls ApiCall.OfPolicy := by
    rw [refresh]
    split
    · refine ⟨trivial, fun claim => ?_⟩
      cases claim with
      | none => trivial
      | some claim => exact ⟨trivial, fun _ => ⟨trivial, fun _ => trivial⟩⟩
    · trivial
  have shows (policy : Option WalletTransferPolicy) :
      (policyPresent policy >>= fun present => pure (viewOf present)).Calls ApiCall.OfPolicy := by
    cases policy <;> trivial
  exact ensures.bind fun _ => ⟨trivial, fun found => (refreshes found).bind shows⟩

/-- A read leaves the claims and the passports, and every policy that is there. -/
structure PolicyOnly (before after : Store σ) : Prop where
  contracts : after.contracts = before.contracts
  claim : after.db.view.claim = before.db.view.claim
  passport : after.db.view.passport = before.db.view.passport
  policy : ∀ wallet, (before.db.view.policy wallet).isSome = true → (after.db.view.policy wallet).isSome = true

theorem PolicyOnly.trans {middle : Store σ} (first : PolicyOnly before middle) (second : PolicyOnly middle after) :
    PolicyOnly before after where
  contracts := second.contracts.trans first.contracts
  claim := second.claim.trans first.claim
  passport := second.passport.trans first.passport
  policy := fun wallet there => second.policy wallet (first.policy wallet there)

theorem isSome_setPolicy {view : View} {walletAddress policyStatus wallet : String}
    (there : (view.policy wallet).isSome = true) :
    ((view.setPolicy walletAddress policyStatus).policy wallet).isSome = true := by
  by_cases same : wallet = walletAddress
  · simp [View.setPolicy, same]
  · simpa [View.setPolicy, Function.update_of_ne same] using there

theorem policyOnly_of_view (contracts : after.contracts = before.contracts)
    (view : after.db.view = before.db.view ∨
      ∃ wallet status, after.db.view = before.db.view.setPolicy wallet status) : PolicyOnly before after := by
  rcases view with same | ⟨wallet, status, set⟩
  · exact ⟨contracts, by rw [same], by rw [same], fun _ there => by rwa [same]⟩
  · refine ⟨contracts, by rw [set, View.claim_setPolicy], by rw [set, View.passport_setPolicy], fun _ there => ?_⟩
    rw [set]
    exact isSome_setPolicy there

theorem policyOnly_serves {request : ApiCall} {reply : ApiReply request} (may : request.OfPolicy)
    (served : Serves adapter before ⟨request, reply⟩ after) : PolicyOnly before after := by
  have view := view_serves served
  cases request with
  | ensurePolicy walletAddress =>
    exact policyOnly_of_view (contracts_serves (by rintro ⟨⟩) served) (.inr ⟨_, _, view⟩)
  | findFirstClaim walletAddress claimType status =>
    exact policyOnly_of_view (contracts_serves (by rintro ⟨⟩) served) (.inl view)
  | statement statement =>
    cases statement with
    | findPolicy walletAddress => exact policyOnly_of_view (contracts_statement served) (.inl view)
    | updatePolicy walletAddress policyStatus =>
      exact policyOnly_of_view (contracts_statement served) (.inr ⟨_, _, view⟩)
    | _ => exact may.elim
  | _ => exact may.elim

theorem getPolicy_leaves {walletAddress : String} {shown : PolicyView}
    (reads : (getPolicy walletAddress).Completes (Serves adapter) before shown after) : PolicyOnly before after := by
  apply (getPolicy_calls walletAddress).preserves reads _ (⟨rfl, rfl, rfl, fun _ => id⟩ : PolicyOnly before before)
  rintro store ⟨request, reply⟩ next may kept served
  exact kept.trans (policyOnly_serves may served)

end Fallbacks

/-! ## Every operation -/

section Operations
variable {σ : Type} [Crypto Bytes32]

/-- What a completed operation leaves. -/
inductive Leaves (lib : DemoLibrary) (adapter : ContractAdapter σ) (before after : Store σ) : Operation → Prop where
  | started {rawAddress claimType : String} (wallet : String) (type : ClaimType)
      (contracts : after.contracts = before.contracts)
      (view : after.db.view =
        (before.db.view.setPassport wallet .IN_PROGRESS).setClaim wallet type (some .PENDING)) :
      Leaves lib adapter before after (.startVerification rawAddress claimType)
  | handled {now : Date} {body : WebhookBody} {verificationIdFromUrl : Option String} (session : VerificationSession)
      (target : webhookTarget lib.toLibrary before.db body verificationIdFromUrl = some session)
      (contracts : after.contracts = before.contracts)
      (view : after.db.view = before.db.view.setClaim session.walletAddress session.claimType (some .PROCESSING)) :
      Leaves lib adapter before after (.handleAiAttesterWebhook now body verificationIdFromUrl)
  | injected {now : Date} {verificationId : String} {approved : Bool} (session : VerificationSession)
      (found : before.db.session verificationId = some session)
      (contracts : after.contracts = before.contracts)
      (view : after.db.view = before.db.view.setClaim session.walletAddress session.claimType (some .PROCESSING)) :
      Leaves lib adapter before after (.injectMockAiResult now verificationId approved)
  | received {body : CREWorkflowResult} (walletAddress : String) (claimed : View)
      (address : lib.getAddress body.walletAddress = some walletAddress)
      (contracts : after.contracts = before.contracts)
      (claims : claimed = before.db.view.setClaim walletAddress body.claimType
        ((before.db.view.claim walletAddress body.claimType).map fun _ => verdictStatus body.approved))
      (view : after.db.view = (claimed.setPassport walletAddress (claimed.recalculated walletAddress)).updatePolicy
        walletAddress body.claimType body.approved (claimed.recalculated walletAddress)) :
      Leaves lib adapter before after (.receiveWorkflowResult body)
  | synced {verificationId transactionHash : String} (session : VerificationSession) (params : SubmitClaimParams)
      (contracts : σ) (passport : SyncPassportResult) (found : before.db.session verificationId = some session)
      (attested : session.status ≠ .PENDING) (wallet : params.walletAddress = session.walletAddress)
      (hash : params.claimTypeHash = CLAIM_TYPE_HASHES session.claimType)
      (submitted : adapter.submitClaim before.contracts params transactionHash contracts)
      (passes : adapter.syncPassport contracts session.walletAddress passport after.contracts)
      (view : after.db.view = (before.db.view.setClaim session.walletAddress session.claimType
        (some (verdictStatus (session.approved.getD false)))).setPassport session.walletAddress passport.status) :
      Leaves lib adapter before after (.syncOnchain verificationId)
  | read {walletAddress : String} (only : PolicyOnly before after) :
      Leaves lib adapter before after (.getPolicy walletAddress)

variable {lib : DemoLibrary} {adapter : ContractAdapter σ} {before after : Store σ} {operation : Operation}

omit [Crypto Bytes32] in
/-- A handler whose answer is not looked at. -/
theorem completes_discard {α : Type} {program : ApiHandler α}
    (completes : (program >>= fun _ => pure ()).Completes (Serves adapter) before () after) :
    ∃ result, program.Completes (Serves adapter) before result after := by
  obtain ⟨result, middle, inside, done⟩ := Program.completes_bind.mp completes
  obtain ⟨-, rfl⟩ := Program.completes_done.mp done
  exact ⟨result, inside⟩

theorem performs_leaves (regular : before.db.Regular) (performs : Performs lib adapter before operation after) :
    Leaves lib adapter before after operation := by
  cases operation with
  | startVerification rawAddress claimType =>
    obtain ⟨response, completes⟩ := completes_discard performs
    have answers := completes_api.mp completes
    obtain ⟨wallet, type, view⟩ := startVerification_leaves answers
    exact .started wallet type (contracts_api answers) view
  | handleAiAttesterWebhook now body verificationIdFromUrl =>
    obtain ⟨response, completes⟩ := completes_discard performs
    have answers := completes_api.mp completes
    obtain ⟨session, target, view⟩ := handleAiAttesterWebhook_leaves answers
    exact .handled session target (contracts_api answers) view
  | injectMockAiResult now verificationId approved =>
    obtain ⟨response, completes⟩ := completes_discard performs
    obtain ⟨contracts, session, found, view⟩ := injectMockAiResult_leaves completes
    exact .injected session found contracts view
  | receiveWorkflowResult body =>
    obtain ⟨response, completes⟩ := completes_discard performs
    have answers := completes_api.mp completes
    obtain ⟨walletAddress, claimed, address, claims, view⟩ := receiveWorkflowResult_leaves regular answers
    exact .received walletAddress claimed address (contracts_api answers) claims view
  | syncOnchain verificationId =>
    obtain ⟨response, completes⟩ := completes_discard performs
    obtain ⟨session, params, hash, contracts, passport, found, attested, wallet, named, submitted, passes, view⟩ :=
      syncOnchain_leaves completes
    exact .synced session params contracts passport found attested wallet named submitted passes view
  | getPolicy walletAddress =>
    obtain ⟨response, completes⟩ := completes_discard performs
    exact .read (getPolicy_leaves completes)

theorem performs_regular (regular : before.db.Regular) (performs : Performs lib adapter before operation after) :
    after.db.Regular :=
  regular_completes regular performs

end Operations

section Demo
variable {store next : Store MockContracts}

/-- The first answer there is, at one time and with one fresh id. -/
def mockAnswer (fresh : String) (store : Store MockContracts) :
    (request : ApiCall) → Option (Store MockContracts × ApiReply request)
  | .statement statement =>
    match store.prisma.execute store.db fresh statement with
    | .ok (db, reply) => some ({ store with db }, reply)
    | .error _ => none
  | .upsertClaim walletAddress claimType create update =>
    match store.db.claims walletAddress claimType with
    | some claim => some ({ store with db := store.db.setClaim walletAddress claimType (claim.write update) }, ())
    | none =>
      if (store.db.profiles walletAddress).isSome then
        some ({ store with
          db := store.db.setClaim walletAddress claimType
            (({ walletAddress, claimType } : ComplianceClaim).write create) }, ())
      else none
  | .ensurePolicy walletAddress =>
    if (store.db.policies walletAddress).isSome then some (store, .stored)
    else if (store.db.profiles walletAddress).isSome then
      some ({ store with db := store.db.setPolicy walletAddress ⟨NO_KYC_DAILY_50, NO_KYC_CAP⟩ }, .stored)
    else none
  | .findFirstClaim walletAddress claimType status =>
    some (store, (store.db.claims walletAddress claimType).filter (·.status = status))
  | .submitClaim params =>
    some ({ store with contracts := store.contracts.submitClaim params }, "0xMOCK_CLAIM_" ++ stamp 0)
  | .syncPassport walletAddress =>
    let (tokenId, status, contracts) := store.contracts.syncPassport walletAddress
    some ({ store with contracts }, ⟨"0xMOCK_PASSPORT_" ++ stamp 0, tokenId, status⟩)
  | _ => none

theorem serves_mockAnswer {fresh : String} {request : ApiCall} {reply : ApiReply request}
    (answered : mockAnswer fresh store request = some (next, reply)) :
    Serves MockContractAdapter store ⟨request, reply⟩ next := by
  cases request with
  | statement statement =>
    simp only [mockAnswer] at answered
    split at answered <;> cases answered
    rename_i done
    exact .statement done
  | upsertClaim walletAddress claimType create update =>
    simp only [mockAnswer] at answered
    split at answered
    · rename_i there
      cases answered
      exact .claimUpdated create there
    · rename_i absent
      split at answered <;> cases answered
      rename_i profile
      exact .claimCreated update absent profile
  | ensurePolicy walletAddress =>
    simp only [mockAnswer] at answered
    split at answered
    · rename_i there
      cases answered
      obtain ⟨policy, found⟩ := Option.isSome_iff_exists.mp there
      exact .policyThere found .stored
    · rename_i absent
      split at answered <;> cases answered
      rename_i profile
      exact .policyCreated (by simpa using absent) profile
  | findFirstClaim walletAddress claimType status =>
    cases answered
    exact .firstClaim walletAddress claimType status
  | submitClaim params =>
    cases answered
    exact .submitted ⟨rfl, 0, rfl⟩
  | syncPassport walletAddress =>
    cases answered
    exact .synced ⟨rfl, 0, rfl⟩
  | _ => cases answered

variable [Crypto Bytes32] {lib : DemoLibrary}

/-- Operations one after another, each with the id of a session it may create. -/
def demoRun (lib : DemoLibrary) : Store MockContracts → List (String × Operation) → Option (Store MockContracts)
  | store, [] => some store
  | store, (fresh, operation) :: rest =>
    ((operation.program lib).carryOut (mockAnswer fresh) store).bind fun (_, next) => demoRun lib next rest

theorem trace_of_demoRun {operations : List (String × Operation)} {last : Store MockContracts}
    (ran : demoRun lib store operations = some last) :
    ∃ log, Trace (Performs lib MockContractAdapter) store log last := by
  induction operations generalizing store with
  | nil =>
    cases ran
    exact ⟨[], .nil _⟩
  | cons first rest ih =>
    obtain ⟨⟨_, next⟩, completes, later⟩ := Option.bind_eq_some_iff.mp ran
    obtain ⟨log, trace⟩ := ih later
    exact ⟨_, .cons (Program.completes_of_carryOut (fun _ _ _ _ => serves_mockAnswer) completes) trace⟩

/-- The API as it is first started. -/
def newDemo : Store MockContracts where
  prisma := .standard
  db := {
    profiles := fun _ => none
    sessions := []
    claims := fun _ _ => none
    policies := fun _ => none
    events := []
    transactions := [] }
  decisions := []
  contracts := .fresh

end Demo

end PassportKit.Verification
