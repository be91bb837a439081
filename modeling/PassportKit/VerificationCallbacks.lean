import PassportKit.VerificationService
import PassportKit.Runs

/-! Late and repeated callbacks of the verification flow. Any number of handlers are
under way at once, and each goes on by one database statement at a time. Neither
callback looks at how far its session has come, or whether it is still the last one
started for its wallet and claim type, so an earlier session can write over the result
of a later one. What keeps the results in order is that no callback is taken up for
such a session, and that none is overtaken on its way. -/
namespace PassportKit.Verification
open Interaction Runs

/-- How far a handler has come: a start, a webhook before its checks have passed, or a
callback for a session and the row it writes. -/
inductive Stage where
  | starting
  | resolving
  | applying (verificationId walletAddress : String) (claimType : ClaimType)
  deriving DecidableEq, Repr

/-- A webhook's session is known once its checks have passed. -/
def Stage.after : Stage → Statement → Stage
  | .resolving, .log session _ => .applying session.id session.walletAddress session.claimType
  | stage, _ => stage

structure Work where
  stage : Stage
  program : Handler

structure State where
  prisma : Prisma
  db : Db
  work : List Work

inductive Event where
  | starts (rawAddress claimType : String)
  | startsWithDocument (rawAddress claimType : String)
  /-- The attester calls back, now or once more. -/
  | delivers (now : Date) (secret verificationIdFromUrl : Option String) (body : WebhookBody)
  /-- The workflow node calls back, now or once more. -/
  | reports (body : CREWorkflowResult)
  /-- The handler in this place runs its next statement. -/
  | runs (place : ℕ) (fresh : String)
  /-- The database or the attester fails, and the handler throws. -/
  | fails (place : ℕ)
  deriving DecidableEq, Repr

/-- A handler that has just been called. -/
def State.accept (state : State) (work : Work) : Except HttpError State :=
  match work.program with
  | .fail error => .error error
  | _ => .ok { state with work := state.work ++ [work] }

/-- A handler after a statement; one that has returned or thrown is gone. -/
def State.put (state : State) (place : ℕ) (work : Work) : State :=
  match work.program with
  | .call _ _ => { state with work := state.work.set place work }
  | _ => { state with work := state.work.eraseIdx place }

section Transitions
variable (lib : Library) (webhookSecret : String)

def step (state : State) : Event → Except HttpError State
  | .starts rawAddress claimType => state.accept ⟨.starting, startVerification lib rawAddress claimType⟩
  | .startsWithDocument rawAddress claimType =>
    state.accept ⟨.starting, startWithDocument lib rawAddress claimType⟩
  | .delivers now secret verificationIdFromUrl body =>
    state.accept ⟨.resolving, aiAttesterWebhook lib webhookSecret now secret verificationIdFromUrl body⟩
  | .reports body => do
    let walletAddress ← normalizeAddress lib body.walletAddress
    state.accept ⟨.applying body.verificationId walletAddress body.claimType, receiveWorkflowResult lib body⟩
  | .runs place fresh =>
    match state.work[place]? with
    | some ⟨stage, .call statement resume⟩ =>
      match state.prisma.execute state.db fresh statement with
      | .ok (db, reply) => .ok (State.put { state with db } place ⟨stage.after statement, resume reply⟩)
      | .error _ => .ok { state with work := state.work.eraseIdx place }
    | _ => .error (.notFound "")
  | .fails place =>
    if place < state.work.length then .ok { state with work := state.work.eraseIdx place }
    else .error (.notFound "")

/-- The session most recently started for a wallet and a type. -/
def Db.latest (db : Db) (walletAddress : String) (claimType : ClaimType) : Option String :=
  (db.sessions.find? fun session =>
    session.walletAddress = walletAddress && session.claimType = claimType).map (·.id)

def Db.statusOf (db : Db) (id : String) : Option VerificationStatus := (db.session id).map (·.status)

/-- Status, approval, attestation hash and session of a claim. -/
def Db.verdict (db : Db) (walletAddress : String) (claimType : ClaimType) :
    Option (ClaimStatus × Bool × Option String × Option String) :=
  (db.claims walletAddress claimType).map fun claim =>
    (claim.status, claim.approved, claim.attestationHash, claim.verificationId)

def Db.passportStatus (db : Db) (walletAddress : String) : Option PassportStatus :=
  (db.profiles walletAddress).map (·.passportStatus)

/-- A callback for this session. -/
def Stage.IsFor (stage : Stage) (session : Option String) : Prop :=
  ∃ id walletAddress claimType, stage = .applying id walletAddress claimType ∧ session = some id

/-- Every row whose last started session is another is as it was, and so is the passport
of every wallet none of whose last started sessions is the callback's. -/
def Unaltered (stage : Stage) (db next : Db) : Prop :=
  (∀ walletAddress claimType, ¬ stage.IsFor (db.latest walletAddress claimType) →
      next.verdict walletAddress claimType = db.verdict walletAddress claimType) ∧
    ∀ walletAddress, (∀ claimType, ¬ stage.IsFor (db.latest walletAddress claimType)) →
      next.passportStatus walletAddress = db.passportStatus walletAddress

/-- What a callback does to the results of sessions that are not its own. -/
def Inert (state : State) : Event → Prop
  | .runs place fresh => ∀ work, state.work[place]? = some work → work.stage ≠ .starting →
      Unaltered work.stage state.db (settle (step lib webhookSecret) state (.runs place fresh)).db
  | event => (settle (step lib webhookSecret) state event).db = state.db

/-- A session that has reached COMPLETED never returns to PROCESSING or PENDING. -/
def NeverReturns (start : State) (run : List Event) : Prop :=
  ∀ before middle after, run = before ++ (middle ++ after) → ∀ id,
    (exec (step lib webhookSecret) start before).db.statusOf id = some .COMPLETED →
    (exec (step lib webhookSecret) start (before ++ middle)).db.statusOf id ≠ some .PROCESSING ∧
      (exec (step lib webhookSecret) start (before ++ middle)).db.statusOf id ≠ some .PENDING

/-- No callback changes the result of a session that is not its own. -/
def KeepsLaterResults (start : State) (run : List Event) : Prop :=
  Along (step lib webhookSecret) (Inert lib webhookSecret) start run

/-- The next statement is a webhook's, about to mark a completed session as processing. -/
def MarksCompleted (state : State) : Event → Bool
  | .runs place _ =>
    match state.work[place]? with
    | some ⟨_, .call (.updateSession id data) _⟩ =>
      data.status = some .PROCESSING ∧ state.db.statusOf id = some .COMPLETED
    | _ => false
  | _ => false

def Stage.row : Stage → Option (String × ClaimType)
  | .applying _ walletAddress claimType => some (walletAddress, claimType)
  | _ => none

/-- A webhook whose checks have passed is for the last session started for its row, and
no session is started for a row while a callback for it is under way. -/
def State.Undisturbed (state : State) : Statement → Bool
  | .log session _ => state.db.latest session.walletAddress session.claimType = some session.id
  | .createSession walletAddress claimType =>
    state.work.all fun work => work.stage.row ≠ some (walletAddress, claimType)
  | _ => true

/-- The next statement is undisturbed, and a result that comes in is for the last
session started for its row. -/
def InOrder (state : State) : Event → Bool
  | .reports body =>
    match lib.getAddress body.walletAddress with
    | some walletAddress => state.db.latest walletAddress body.claimType = some body.verificationId
    | none => true
  | .runs place _ =>
    match state.work[place]? with
    | some ⟨_, .call statement _⟩ => state.Undisturbed statement
    | _ => true
  | _ => true

end Transitions

/-! ## What a statement touches -/

section Statements
variable {db next : Db} {fresh : String} {statement : Statement} {reply : Reply statement}

/-- The rows of the claim table a statement writes. -/
def Statement.WritesClaim (walletAddress : String) (claimType : ClaimType) : Statement → Prop
  | .upsertClaim wallet type _ => wallet = walletAddress ∧ type = claimType
  | .updateManyClaims wallet type _ => wallet = walletAddress ∧ type = claimType
  | _ => False

def Statement.WritesProfile (walletAddress : String) : Statement → Prop
  | .upsertProfile wallet _ => wallet = walletAddress
  | .updateProfile wallet _ => wallet = walletAddress
  | _ => False

theorem claims_setClaim {walletAddress wallet : String} {claimType type : ClaimType}
    {claim : ComplianceClaim} (elsewhere : ¬ (wallet = walletAddress ∧ type = claimType)) :
    (db.setClaim wallet type claim).claims walletAddress claimType = db.claims walletAddress claimType := by
  simp only [Db.setClaim]
  by_cases same : walletAddress = wallet
  · subst same
    have differs : claimType ≠ type := fun equal => elsewhere ⟨rfl, equal.symm⟩
    rw [Function.update_self, Function.update_of_ne differs]
  · rw [Function.update_of_ne same]

/-- A statement changes the claims it writes and no others. -/
theorem claims_execute (done : db.execute fresh statement = .ok (next, reply)) {walletAddress : String}
    {claimType : ClaimType} (elsewhere : ¬ statement.WritesClaim walletAddress claimType) :
    next.claims walletAddress claimType = db.claims walletAddress claimType := by
  cases statement with
  | upsertClaim wallet type data =>
    simp only [Db.execute] at done
    (repeat' split at done) <;> cases done <;> exact claims_setClaim elsewhere
  | updateManyClaims wallet type data =>
    simp only [Db.execute] at done
    split at done <;> cases done
    · exact claims_setClaim elsewhere
    · rfl
  | _ =>
    simp only [Db.execute] at done
    (repeat' split at done) <;> cases done <;> rfl

/-- A statement changes the profiles it writes and no others. -/
theorem profiles_execute (done : db.execute fresh statement = .ok (next, reply)) {walletAddress : String}
    (elsewhere : ¬ statement.WritesProfile walletAddress) :
    next.profiles walletAddress = db.profiles walletAddress := by
  cases statement with
  | upsertProfile wallet status =>
    simp only [Db.execute] at done
    cases done
    exact Function.update_of_ne (Ne.symm elsewhere) _ _
  | updateProfile wallet data =>
    simp only [Db.execute] at done
    split at done <;> cases done
    exact Function.update_of_ne (Ne.symm elsewhere) _ _
  | _ =>
    simp only [Db.execute] at done
    (repeat' split at done) <;> cases done <;> rfl

/-- What a statement does to the sessions: nothing, one more, or an update of one. -/
theorem sessions_execute (done : db.execute fresh statement = .ok (next, reply)) :
    next.sessions = db.sessions ∨
      (∃ walletAddress claimType, statement = .createSession walletAddress claimType ∧
        db.session fresh = none ∧
        next.sessions = { id := fresh, walletAddress, claimType } :: db.sessions) ∨
      ∃ id data, statement = .updateSession id data ∧
        next.sessions = db.sessions.map fun session =>
          if session.id = id then session.write data else session := by
  cases statement with
  | createSession wallet type =>
    simp only [Db.execute] at done
    split at done
    · cases done
    · rename_i unused
      split at done <;> cases done
      refine .inr (.inl ⟨wallet, type, rfl, ?_, rfl⟩)
      simpa using unused
  | updateSession id data =>
    simp only [Db.execute] at done
    split at done <;> cases done
    exact .inr (.inr ⟨id, data, rfl, rfl⟩)
  | _ =>
    simp only [Db.execute] at done
    (repeat' split at done) <;> cases done <;> exact .inl rfl

/-- An update leaves a session its id, wallet and type. -/
theorem write_keeps (session : VerificationSession) (id : String) (data : SessionData) :
    (if session.id = id then session.write data else session).id = session.id ∧
      (if session.id = id then session.write data else session).walletAddress = session.walletAddress ∧
      (if session.id = id then session.write data else session).claimType = session.claimType := by
  split <;> exact ⟨rfl, rfl, rfl⟩

/-- Only a new session is another one's successor. -/
theorem latest_execute (done : db.execute fresh statement = .ok (next, reply)) {walletAddress : String}
    {claimType : ClaimType} (started : statement ≠ .createSession walletAddress claimType) :
    next.latest walletAddress claimType = db.latest walletAddress claimType := by
  rcases sessions_execute done with same | ⟨wallet, type, rfl, -, added⟩ | ⟨id, data, rfl, updated⟩
  · rw [Db.latest, same, Db.latest]
  · have other : (decide (wallet = walletAddress) && decide (type = claimType)) = false := by
      by_contra both
      simp only [Bool.not_eq_false, Bool.and_eq_true, decide_eq_true_eq] at both
      obtain ⟨rfl, rfl⟩ := both
      exact started rfl
    rw [Db.latest, added, List.find?_cons, other, Db.latest]
  · rw [Db.latest, updated, List.find?_map, Option.map_map, Db.latest]
    simp only [Function.comp_def, write_keeps]

/-- An update sets the status of its own session, if it sets one. -/
theorem statusOf_updateSession {updated id : String} {data : SessionData} {reply : Unit}
    (done : db.execute fresh (.updateSession updated data) = .ok (next, reply))
    {status : VerificationStatus} (before : db.statusOf id = some status) :
    next.statusOf id = some (if id = updated then data.status.getD status else status) := by
  obtain ⟨session, found, rfl⟩ := Option.map_eq_some_iff.mp before
  have named : session.id = id := by simpa using List.find?_some found
  simp only [Db.execute] at done
  split at done <;> cases done
  simp only [Db.statusOf, Db.session, List.find?_map, Function.comp_def, write_keeps]
  rw [show (db.sessions.find? fun session => session.id = id) = some session from found]
  by_cases own : id = updated
  · simp only [Option.map_some, named, own, if_true, VerificationSession.write]
  · simp only [Option.map_some, named, own, if_false]

/-- A completed session stays so unless its status is set. -/
theorem completed_execute (done : db.execute fresh statement = .ok (next, reply)) {id : String}
    (completed : db.statusOf id = some .COMPLETED)
    (kept : ∀ data, statement = .updateSession id data → data.status.getD .COMPLETED = .COMPLETED) :
    next.statusOf id = some .COMPLETED := by
  rcases sessions_execute done with same | ⟨wallet, type, -, unused, added⟩ | ⟨updated, data, rfl, -⟩
  · rw [Db.statusOf, Db.session, same]
    exact completed
  · have other : fresh ≠ id := by
      rintro rfl
      rw [Db.statusOf, unused] at completed
      cases completed
    rw [Db.statusOf, Db.session, added, List.find?_cons_of_neg (by simpa using other)]
    exact completed
  · rw [statusOf_updateSession done completed]
    split
    · rename_i own
      rw [kept data (by rw [own])]
    · rfl

end Statements

/-- The statements of each stage. A start writes no result; a webhook only reads until
its session is known; a callback writes the row and the profile it is for, and sets
its session to nothing but PROCESSING and COMPLETED. -/
def May : Stage → Statement → Prop
  | .starting, .upsertProfile _ _ => True
  | .starting, .createSession _ _ => True
  | .starting, .upsertClaim _ _ _ => True
  | .starting, .submitInference _ _ _ => True
  | .starting, .updateSession _ data => data.status = none
  | .resolving, .findSession _ => True
  | .resolving, .findFirstSession _ _ _ => True
  | .resolving, .log _ _ => True
  | .applying _ walletAddress claimType, .upsertClaim wallet type _ =>
    wallet = walletAddress ∧ type = claimType
  | .applying _ walletAddress claimType, .updateManyClaims wallet type _ =>
    wallet = walletAddress ∧ type = claimType
  | .applying _ walletAddress _, .updateProfile wallet _ => wallet = walletAddress
  | .applying _ _ _, .updateSession _ data =>
    data.status = none ∨ data.status = some .PROCESSING ∨ data.status = some .COMPLETED
  | .applying _ _ _, .findProfile _ => True
  | .applying _ _ _, .findManyClaims _ => True
  | .applying _ _ _, .findPolicy _ => True
  | .applying _ _ _, .updatePolicy _ _ => True
  | .applying _ _ _, .upsertPolicy _ _ => True
  | .applying _ _ _, .createWebhookEvent _ => True
  | .applying _ _ _, .createTransaction _ => True
  | .applying _ _ _, .triggerWorkflow _ => True
  | _, _ => False

def Advance (stage : Stage) (statement : Statement) (next : Stage) : Prop :=
  May stage statement ∧ next = stage.after statement

/-- From a stage on, a handler keeps to what each stage allows. -/
abbrev Keeps (stage : Stage) (handler : Handler) : Prop :=
  handler.Obeys Advance (fun _ _ => True) stage

section Disciplines
variable {lib : Library} {now : Date} {webhookSecret : String} {secret verificationIdFromUrl : Option String}

theorem openSession_obeys (walletAddress : String) (claimType : ClaimType) :
    (openSession walletAddress claimType).Obeys Advance (fun last _ => last = .starting) .starting := by
  simp [openSession, perform, Program.Obeys, Advance, May, Stage.after]

theorem startVerification_keeps (rawAddress claimType : String) :
    Keeps .starting (startVerification lib rawAddress claimType) := by
  apply Program.obeys_ofExcept_bind
  intro type supported
  apply Program.obeys_ofExcept_bind
  intro walletAddress valid
  apply Program.Obeys.andThen (openSession_obeys walletAddress type)
  intro id
  trivial

theorem startWithDocument_keeps (rawAddress claimType : String) :
    Keeps .starting (startWithDocument lib rawAddress claimType) := by
  apply Program.obeys_ofExcept_bind
  intro type supported
  apply Program.obeys_ofExcept_bind
  intro walletAddress valid
  apply Program.Obeys.andThen (openSession_obeys walletAddress type)
  intro id
  simp [perform, Program.Obeys, Advance, May, Stage.after]

theorem resolveSession_obeys (rawPayload : AIAttesterWebhookPayload) (claimType : ClaimType) :
    (resolveSession lib rawPayload claimType verificationIdFromUrl).Obeys Advance
      (fun last _ => last = .resolving) .resolving := by
  rw [resolveSession]
  cases (verificationIdFromUrl.or rawPayload.verificationId).filter (· ≠ "") with
  | some resolvedVerificationId =>
    refine ⟨.resolving, ⟨trivial, rfl⟩, fun answer => ?_⟩
    cases answer with
    | none => trivial
    | some session => rfl
  | none =>
    cases rawPayload.walletAddress.filter (· ≠ "") with
    | none => trivial
    | some raw =>
      apply Program.obeys_ofExcept_bind
      intro walletAddress valid
      refine ⟨.resolving, ⟨trivial, rfl⟩, fun answer => ?_⟩
      cases answer with
      | none => trivial
      | some session => rfl

/-- A payload that passes is about a claim of the session's type. -/
theorem checkSession_ok {rawPayload : AIAttesterWebhookPayload} {claimType : ClaimType}
    {session : VerificationSession} (passed : checkSession lib rawPayload claimType session = .ok ()) :
    session.claimType = claimType := by
  by_contra differs
  rw [checkSession, if_pos differs] at passed
  cases wallet : checkWallet lib rawPayload session with
  | error error =>
    rw [wallet] at passed
    cases passed
  | ok _ =>
    rw [wallet] at passed
    cases passed

theorem recordResult_keeps (rawPayload : AIAttesterWebhookPayload) (verdict : Verdict) (expiresAt : Date)
    (session : VerificationSession) (checked : session.claimType = verdict.claimType) :
    Keeps .resolving (recordResult lib rawPayload verdict expiresAt session) := by
  simp [recordResult, perform, Keeps, Program.Obeys, Advance, May, Stage.after, checked]

theorem aiAttesterWebhook_keeps (body : WebhookBody) :
    Keeps .resolving
      (aiAttesterWebhook lib webhookSecret now secret verificationIdFromUrl body) := by
  apply Program.obeys_ofExcept_bind
  intro _ authorised
  apply Program.obeys_ofExcept_bind
  intro rawPayload unwrapped
  apply Program.obeys_ofExcept_bind
  intro verdict read
  apply Program.Obeys.andThen (resolveSession_obeys rawPayload verdict.claimType)
  intro session
  apply Program.obeys_ofExcept_bind
  intro _ passed
  exact recordResult_keeps rawPayload verdict _ session (checkSession_ok passed)

section Completing
variable {verificationId wallet : String} {claimType : ClaimType}

theorem upgradeAfterKyc_obeys (walletAddress : String) :
    (upgradeAfterKyc walletAddress).Obeys Advance
      (fun last _ => last = .applying verificationId wallet claimType)
      (.applying verificationId wallet claimType) := by
  rw [upgradeAfterKyc, perform, Program.perform_bind]
  refine ⟨.applying verificationId wallet claimType, ⟨trivial, rfl⟩, fun answer => ?_⟩
  cases answer with
  | none => rfl
  | some policy =>
    by_cases limited : policy.policyStatus = NO_KYC_DAILY_50
    · simp only [limited, if_true]
      exact ⟨.applying verificationId wallet claimType, ⟨trivial, rfl⟩, fun _ => rfl⟩
    · simp only [limited, if_false]
      rfl

theorem blockWallet_obeys (walletAddress : String) :
    (blockWallet walletAddress).Obeys Advance
      (fun last _ => last = .applying verificationId wallet claimType)
      (.applying verificationId wallet claimType) :=
  ⟨.applying verificationId wallet claimType, ⟨trivial, rfl⟩, fun _ => rfl⟩

theorem updateTransferPolicy_obeys (walletAddress : String) (type : ClaimType) (approved : Bool)
    (recalculated : PassportStatus) :
    (updateTransferPolicy walletAddress type approved recalculated).Obeys Advance
      (fun last _ => last = .applying verificationId wallet claimType)
      (.applying verificationId wallet claimType) := by
  rw [updateTransferPolicy]
  apply Program.Obeys.andThen
  · by_cases upgrade : type = .KYC_AML_VERIFIED ∧ approved ∧ recalculated ≠ .RED
    · rw [if_pos upgrade]
      exact upgradeAfterKyc_obeys walletAddress
    · rw [if_neg upgrade]
      rfl
  · intro _
    by_cases block : recalculated = .RED ∨ recalculated = .REVOKED
    · rw [if_pos block]
      exact blockWallet_obeys walletAddress
    · rw [if_neg block]
      rfl

theorem saveSync_obeys (walletAddress : String) (body : CREWorkflowResult) (txStatus : TransactionStatus) :
    (saveSync walletAddress body txStatus).Obeys Advance
      (fun last _ => last = .applying verificationId wallet claimType)
      (.applying verificationId wallet claimType) := by
  rw [saveSync]
  cases body.passportTxHash.filter (· ≠ "") with
  | none => rfl
  | some passportTxHash => exact ⟨.applying verificationId wallet claimType, ⟨trivial, rfl⟩, fun _ => rfl⟩

end Completing

theorem receiveWorkflowResult_keeps (body : CREWorkflowResult) {walletAddress : String}
    (named : normalizeAddress lib body.walletAddress = .ok walletAddress) :
    Keeps (.applying body.verificationId walletAddress body.claimType) (receiveWorkflowResult lib body) := by
  rw [receiveWorkflowResult, named]
  refine ⟨_, ⟨⟨rfl, rfl⟩, rfl⟩, fun _ => ⟨_, ⟨trivial, rfl⟩, fun _ => ?_⟩⟩
  apply Program.Obeys.andThen (saveSync_obeys walletAddress body _)
  intro _
  refine ⟨_, ⟨trivial, rfl⟩, fun allClaims => ⟨_, ⟨trivial, rfl⟩, fun profile => ?_⟩⟩
  refine ⟨_, ⟨rfl, rfl⟩, fun _ => ?_⟩
  apply Program.Obeys.andThen (updateTransferPolicy_obeys walletAddress body.claimType body.approved _)
  intro _
  exact ⟨_, ⟨.inr (.inr rfl), rfl⟩, fun _ => trivial⟩

end Disciplines

/-! ## Runs -/

section Histories
variable {lib : Library} {webhookSecret : String} {state : State} {event : Event}

/-- Every handler under way keeps to its stage. -/
def State.Disciplined (state : State) : Prop :=
  ∀ work ∈ state.work, Keeps work.stage work.program

/-- Every callback under way is for the last session started for its row. -/
def State.Current (state : State) : Prop :=
  ∀ work ∈ state.work, ∀ id walletAddress claimType,
    work.stage = .applying id walletAddress claimType →
    state.db.latest walletAddress claimType = some id

/-- What an event may add to the work: a handler that keeps to its stage, a callback only
if it is the one that came in. -/
structure Admitted (lib : Library) (event : Event) (work : Work) : Prop where
  keeps : Keeps work.stage work.program
  reported : ∀ id walletAddress claimType, work.stage = .applying id walletAddress claimType →
    ∃ body, event = .reports body ∧ lib.getAddress body.walletAddress = some walletAddress ∧
      id = body.verificationId ∧ claimType = body.claimType

/-- An event after which the database is as it was. -/
def Idle (lib : Library) (state : State) (event : Event) (next : State) : Prop :=
  next.db = state.db ∧ ∀ work ∈ next.work, work ∈ state.work ∨ Admitted lib event work

theorem Idle.refl : Idle lib state event state := ⟨rfl, fun _ member => .inl member⟩

theorem Idle.erase (place : ℕ) :
    Idle lib state event { state with work := state.work.eraseIdx place } :=
  ⟨rfl, fun _ member => .inl (List.mem_of_mem_eraseIdx member)⟩

/-- A handler that is called waits in line or throws at once. -/
theorem idle_accept {work : Work} (admitted : Admitted lib event work)
    (calls : step lib webhookSecret state event = state.accept work) :
    Idle lib state event (settle (step lib webhookSecret) state event) := by
  cases shape : work.program with
  | fail error =>
    rw [settle_error (calls.trans (by rw [State.accept, shape]))]
    exact Idle.refl
  | done value | call request resume =>
    rw [settle_ok (calls.trans (by rw [State.accept, shape]))]
    refine ⟨rfl, fun other member => ?_⟩
    rcases List.mem_append.mp member with old | new
    · exact .inl old
    · exact .inr (List.mem_singleton.mp new ▸ admitted)

theorem mem_put {place : ℕ} {work other : Work} (member : other ∈ (state.put place work).work) :
    other = work ∨ other ∈ state.work := by
  rw [State.put] at member
  split at member
  · exact (List.mem_or_eq_of_mem_set member).symm
  · exact .inr (List.mem_of_mem_eraseIdx member)

theorem db_put (state : State) (place : ℕ) (work : Work) : (state.put place work).db = state.db := by
  rw [State.put]
  split <;> rfl

/-- The next statement of a handler and the state it leaves. -/
def RunsStatement (state : State) (event : Event) (next : State) : Prop :=
  ∃ place fresh stage statement resume reply, event = .runs place fresh ∧
    state.work[place]? = some ⟨stage, .call statement resume⟩ ∧
    state.db.execute fresh statement = .ok (next.db, reply) ∧
    ∀ work ∈ next.work, work = ⟨stage.after statement, resume reply⟩ ∨ work ∈ state.work

/-- A result for a valid address starts a callback for its session and row. -/
theorem idle_reports (lib : Library) (webhookSecret : String) (state : State) (body : CREWorkflowResult) :
    Idle lib state (.reports body) (settle (step lib webhookSecret) state (.reports body)) := by
  cases named : lib.getAddress body.walletAddress with
  | none =>
    have refused : normalizeAddress lib body.walletAddress =
        .error (.badRequest ("Invalid Ethereum address: " ++ body.walletAddress)) := by
      rw [normalizeAddress, named]
    rw [settle_error (by rw [step, refused]; rfl)]
    exact Idle.refl
  | some walletAddress =>
    have valid : normalizeAddress lib body.walletAddress = .ok walletAddress := by
      rw [normalizeAddress, named]
    have admitted : Admitted lib (.reports body)
        ⟨.applying body.verificationId walletAddress body.claimType, receiveWorkflowResult lib body⟩ := by
      refine ⟨receiveWorkflowResult_keeps body valid, ?_⟩
      rintro id wallet type ⟨⟩
      exact ⟨body, rfl, named, rfl, rfl⟩
    apply idle_accept admitted
    rw [step, valid]
    rfl

/-- The handler in a place runs its next statement, unless there is none or it throws. -/
theorem settle_runs (lib : Library) (webhookSecret : String) (state : State) (place : ℕ)
    (fresh : String) :
    Idle lib state (.runs place fresh) (settle (step lib webhookSecret) state (.runs place fresh)) ∨
      RunsStatement state (.runs place fresh)
        (settle (step lib webhookSecret) state (.runs place fresh)) := by
  cases found : state.work[place]? with
  | none =>
    have refused : step lib webhookSecret state (.runs place fresh) = .error (.notFound "") := by
      simp only [step, found]
    rw [settle_error refused]
    exact .inl Idle.refl
  | some work =>
    obtain ⟨stage, program⟩ := work
    cases program with
    | done value | fail error =>
      have refused : step lib webhookSecret state (.runs place fresh) = .error (.notFound "") := by
        simp only [step, found]
      rw [settle_error refused]
      exact .inl Idle.refl
    | call statement resume =>
      cases executed : state.db.execute fresh statement with
      | error error =>
        have dropped : step lib webhookSecret state (.runs place fresh) =
            .ok { state with work := state.work.eraseIdx place } := by
          simp only [step, found, Prisma.execute_eq, executed]
        rw [settle_ok dropped]
        exact .inl (Idle.erase place)
      | ok result =>
        obtain ⟨db, reply⟩ := result
        have gone : step lib webhookSecret state (.runs place fresh) =
            .ok (State.put { state with db } place ⟨stage.after statement, resume reply⟩) := by
          simp only [step, found, Prisma.execute_eq, executed]
        rw [settle_ok gone]
        refine .inr ⟨place, fresh, stage, statement, resume, reply, rfl, found, ?_, fun work => mem_put⟩
        rw [db_put]
        exact executed

/-- What an event does: nothing to the database, or one statement. -/
theorem settle_cases (lib : Library) (webhookSecret : String) (state : State) (event : Event) :
    Idle lib state event (settle (step lib webhookSecret) state event) ∨
      RunsStatement state event (settle (step lib webhookSecret) state event) := by
  cases event with
  | starts rawAddress claimType =>
    exact .inl (idle_accept ⟨startVerification_keeps rawAddress claimType, by simp⟩ rfl)
  | startsWithDocument rawAddress claimType =>
    exact .inl (idle_accept ⟨startWithDocument_keeps rawAddress claimType, by simp⟩ rfl)
  | delivers now secret verificationIdFromUrl body =>
    exact .inl (idle_accept ⟨aiAttesterWebhook_keeps body, by simp⟩ rfl)
  | reports body => exact .inl (idle_reports lib webhookSecret state body)
  | fails place =>
    by_cases inside : place < state.work.length
    · rw [settle_ok (by rw [step, if_pos inside])]
      exact .inl (Idle.erase place)
    · rw [settle_error (by rw [step, if_neg inside])]
      exact .inl Idle.refl
  | runs place fresh => exact settle_runs lib webhookSecret state place fresh

/-- A handler becomes a callback for a session when its log line says so. -/
theorem after_eq_applying {stage : Stage} {statement : Statement} {id walletAddress : String}
    {claimType : ClaimType} (applying : stage.after statement = .applying id walletAddress claimType) :
    stage = .applying id walletAddress claimType ∨
      ∃ session approved, statement = .log session approved ∧ session.id = id ∧
        session.walletAddress = walletAddress ∧ session.claimType = claimType := by
  cases stage with
  | starting | applying => exact .inl applying
  | resolving =>
    cases statement with
    | log session approved =>
      obtain ⟨rfl, rfl, rfl⟩ := Stage.applying.inj applying
      exact .inr ⟨session, approved, rfl, rfl, rfl, rfl⟩
    | _ => exact .inl applying

/-- What a handler that goes on is allowed to do, and what it may do next. -/
theorem State.Disciplined.next {place : ℕ} {stage : Stage} {statement : Statement}
    {resume : Reply statement → Handler} (disciplined : state.Disciplined)
    (found : state.work[place]? = some ⟨stage, .call statement resume⟩) :
    May stage statement ∧ ∀ reply, Keeps (stage.after statement) (resume reply) := by
  obtain ⟨_, ⟨allowed, rfl⟩, later⟩ := disciplined _ (List.mem_of_getElem? found)
  exact ⟨allowed, later⟩

theorem disciplined_settle (disciplined : state.Disciplined) :
    (settle (step lib webhookSecret) state event).Disciplined := by
  rcases settle_cases lib webhookSecret state event with ⟨-, grown⟩ | ran
  · intro work member
    rcases grown work member with old | new
    · exact disciplined work old
    · exact new.keeps
  · obtain ⟨place, fresh, stage, statement, resume, reply, rfl, found, -, members⟩ := ran
    intro work member
    rcases members work member with rfl | old
    · exact (disciplined.next found).2 reply
    · exact disciplined work old

/-- **One step.** In order, callbacks stay with sessions that have not been superseded. -/
theorem current_settle (current : state.Current) (inOrder : InOrder lib state event = true) :
    (settle (step lib webhookSecret) state event).Current := by
  rcases settle_cases lib webhookSecret state event with ⟨unchanged, grown⟩ | ran
  · intro work member id walletAddress claimType applying
    rw [unchanged]
    rcases grown work member with old | new
    · exact current work old id walletAddress claimType applying
    · obtain ⟨body, rfl, named, rfl, rfl⟩ := new.reported id walletAddress claimType applying
      simpa [InOrder, named] using inOrder
  · obtain ⟨place, fresh, stage, statement, resume, reply, rfl, found, executed, members⟩ := ran
    have undisturbed : state.Undisturbed statement = true := by
      simpa only [InOrder, found] using inOrder
    -- Only a start adds a session, and then no callback for its row is under way.
    have stays : ∀ work ∈ state.work, ∀ id walletAddress claimType,
        work.stage = .applying id walletAddress claimType →
        (settle (step lib webhookSecret) state (.runs place fresh)).db.latest walletAddress claimType =
          some id := by
      intro work member id walletAddress claimType applying
      rw [latest_execute executed]
      · exact current work member id walletAddress claimType applying
      · rintro rfl
        have elsewhere := List.all_eq_true.mp undisturbed work member
        rw [applying] at elsewhere
        simp [Stage.row] at elsewhere
    intro work member id walletAddress claimType applying
    rcases members work member with rfl | old
    · rcases after_eq_applying applying with already | ⟨session, approved, rfl, rfl, rfl, rfl⟩
      · exact stays _ (List.mem_of_getElem? found) id walletAddress claimType already
      · rw [latest_execute executed (by simp)]
        simpa [State.Undisturbed] using undisturbed
    · exact stays work old id walletAddress claimType applying

/-- **Completed.** No event takes a session back from COMPLETED but a webhook that marks it. -/
theorem completed_settle (disciplined : state.Disciplined) (unmarked : MarksCompleted state event = false)
    {id : String} (completed : state.db.statusOf id = some .COMPLETED) :
    (settle (step lib webhookSecret) state event).db.statusOf id = some .COMPLETED := by
  rcases settle_cases lib webhookSecret state event with ⟨unchanged, -⟩ | ran
  · rw [unchanged]
    exact completed
  · obtain ⟨place, fresh, stage, statement, resume, reply, rfl, found, executed, -⟩ := ran
    obtain ⟨allowed, -⟩ := disciplined.next found
    apply completed_execute executed completed
    rintro data rfl
    simp only [MarksCompleted, found, decide_eq_false_iff_not] at unmarked
    cases stage with
    | starting => rw [show data.status = none from allowed]; rfl
    | resolving => exact absurd allowed not_false
    | applying verificationId walletAddress claimType =>
      rcases allowed with silent | marked | finished
      · rw [silent]; rfl
      · exact absurd ⟨marked, completed⟩ unmarked
      · rw [finished]; rfl

/-- What a marking webhook does to the completed session. -/
theorem marked_settle (marks : MarksCompleted state event = true) :
    ∃ id, state.db.statusOf id = some .COMPLETED ∧
      (settle (step lib webhookSecret) state event).db.statusOf id = some .PROCESSING := by
  rw [MarksCompleted.eq_def] at marks
  split at marks
  · rename_i place fresh
    split at marks
    · rename_i stage id data resume found
      obtain ⟨marked, completed⟩ := of_decide_eq_true marks
      refine ⟨id, completed, ?_⟩
      cases executed : state.db.execute fresh (.updateSession id data) with
      | error error =>
        obtain ⟨session, present, -⟩ := Option.map_eq_some_iff.mp completed
        simp [Db.execute, present] at executed
      | ok result =>
        obtain ⟨db, reply⟩ := result
        have gone : step lib webhookSecret state (.runs place fresh) =
            .ok (State.put { state with db } place
              ⟨stage.after (.updateSession id data), resume reply⟩) := by
          simp only [step, found, Prisma.execute_eq, executed]
        rw [settle_ok gone, db_put, statusOf_updateSession executed completed, if_pos rfl, marked]
        rfl
    · cases marks
  · cases marks

/-- A callback writes the row it is for and no other. -/
theorem writesClaim_of_may {stage : Stage} {statement : Statement} {walletAddress : String}
    {claimType : ClaimType} (callback : stage ≠ .starting) (allowed : May stage statement)
    (writes : statement.WritesClaim walletAddress claimType) :
    stage.row = some (walletAddress, claimType) := by
  cases stage with
  | starting => exact absurd rfl callback
  | resolving => cases statement <;> first | exact absurd allowed not_false | exact absurd writes not_false
  | applying id wallet type =>
    cases statement with
    | upsertClaim | updateManyClaims =>
      obtain ⟨rfl, rfl⟩ := allowed
      obtain ⟨rfl, rfl⟩ := writes
      rfl
    | _ => exact absurd writes not_false

/-- A callback writes the profile of the wallet it is for and no other. -/
theorem writesProfile_of_may {stage : Stage} {statement : Statement} {walletAddress : String}
    (callback : stage ≠ .starting) (allowed : May stage statement)
    (writes : statement.WritesProfile walletAddress) :
    ∃ claimType, stage.row = some (walletAddress, claimType) := by
  cases stage with
  | starting => exact absurd rfl callback
  | resolving => cases statement <;> first | exact absurd allowed not_false | exact absurd writes not_false
  | applying id wallet type =>
    cases statement with
    | updateProfile =>
      obtain rfl := allowed
      obtain rfl := writes
      exact ⟨type, rfl⟩
    | upsertProfile => exact absurd allowed not_false
    | _ => exact absurd writes not_false

/-- A callback under way is for the last session started for its row. -/
theorem State.Current.isFor (current : state.Current) {work : Work} (member : work ∈ state.work)
    {walletAddress : String} {claimType : ClaimType}
    (row : work.stage.row = some (walletAddress, claimType)) :
    work.stage.IsFor (state.db.latest walletAddress claimType) := by
  cases stage : work.stage with
  | starting | resolving =>
    rw [stage] at row
    cases row
  | applying id wallet type =>
    rw [stage] at row
    cases row
    exact ⟨id, walletAddress, claimType, rfl, current work member id walletAddress claimType stage⟩

/-- **Inert.** A callback for a session that has not been superseded leaves the results
of the others alone. -/
theorem inert_settle (disciplined : state.Disciplined) (current : state.Current) (event : Event) :
    Inert lib webhookSecret state event := by
  rcases settle_cases lib webhookSecret state event with ⟨unchanged, -⟩ | ran
  · cases event with
    | runs place fresh =>
      intro work found callback
      rw [unchanged]
      exact ⟨fun _ _ _ => rfl, fun _ _ => rfl⟩
    | _ => exact unchanged
  · obtain ⟨place, fresh, stage, statement, resume, reply, rfl, found, executed, -⟩ := ran
    rintro work found' callback
    obtain rfl := Option.some.inj (found.symm.trans found')
    have member := List.mem_of_getElem? found
    obtain ⟨allowed, -⟩ := disciplined.next found
    constructor
    · intro walletAddress claimType others
      have elsewhere : ¬ statement.WritesClaim walletAddress claimType := fun writes =>
        others (current.isFor member (writesClaim_of_may callback allowed writes))
      rw [Db.verdict, claims_execute executed elsewhere, Db.verdict]
    · intro walletAddress others
      have elsewhere : ¬ statement.WritesProfile walletAddress := by
        intro writes
        obtain ⟨claimType, row⟩ := writesProfile_of_may callback allowed writes
        exact others claimType (current.isFor member row)
      rw [Db.passportStatus, profiles_execute executed elsewhere, Db.passportStatus]

theorem disciplined_exec {start : State} (disciplined : start.Disciplined) (run : List Event) :
    (exec (step lib webhookSecret) start run).Disciplined := by
  apply exec_preserves (fun state event next disciplined committed => ?_) disciplined run
  rw [← settle_ok committed]
  exact disciplined_settle disciplined

theorem current_exec {start : State} {run : List Event} (current : start.Current)
    (inOrder : Along (step lib webhookSecret) (fun state event => InOrder lib state event = true) start
      run) : (exec (step lib webhookSecret) start run).Current := by
  apply exec_preserves_along (fun state event next current inOrder committed => ?_) current inOrder
  rw [← settle_ok committed]
  exact current_settle current inOrder

theorem completed_exec {start : State} {run : List Event} (disciplined : start.Disciplined)
    (unmarked : Along (step lib webhookSecret) (fun state event => MarksCompleted state event = false)
      start run) {id : String} (completed : start.db.statusOf id = some .COMPLETED) :
    (exec (step lib webhookSecret) start run).db.statusOf id = some .COMPLETED := by
  induction run generalizing start with
  | nil => exact completed
  | cons event rest ih =>
    obtain ⟨here, later⟩ := unmarked
    exact ih (disciplined_settle disciplined) later (completed_settle disciplined here completed)

/-- A run in which no completed session returns is one in which no webhook marks one. -/
theorem neverReturns_iff {start : State} (disciplined : start.Disciplined) (run : List Event) :
    NeverReturns lib webhookSecret start run ↔
      Along (step lib webhookSecret) (fun state event => MarksCompleted state event = false) start
        run := by
  constructor
  · intro never
    apply along_iff_forall_split.mpr
    intro before event after split
    cases marks : MarksCompleted (exec (step lib webhookSecret) start before) event with
    | false => rfl
    | true =>
      obtain ⟨id, completed, processing⟩ := @marked_settle lib webhookSecret _ _ marks
      have returned := (never before [event] after split id completed).1
      rw [exec_append] at returned
      exact absurd processing returned
  · rintro unmarked before middle after rfl id completed
    obtain ⟨-, later⟩ := along_append.mp unmarked
    have stays := completed_exec (disciplined_exec disciplined before) (along_append.mp later).1 completed
    rw [exec_append, stays]
    exact ⟨by simp, by simp⟩

/-- **Later results stand.** Whatever handlers are under way at once and however often
the callbacks come: a completed session never returns to PROCESSING or PENDING exactly
in the runs in which no webhook marks one, and in the runs whose callbacks come in
order none of them changes a claim or a passport of sessions that are not its own. -/
theorem later_results_stand (lib : Library) (webhookSecret : String) (prisma : Prisma) (db : Db) (run : List Event) :
    (NeverReturns lib webhookSecret ⟨prisma, db, []⟩ run ↔
      Along (step lib webhookSecret) (fun state event => MarksCompleted state event = false) ⟨prisma, db, []⟩
        run) ∧
    (Along (step lib webhookSecret) (fun state event => InOrder lib state event = true) ⟨prisma, db, []⟩ run →
      KeepsLaterResults lib webhookSecret ⟨prisma, db, []⟩ run) := by
  have disciplined : State.Disciplined ⟨prisma, db, []⟩ := fun work member => absurd member List.not_mem_nil
  have current : State.Current ⟨prisma, db, []⟩ := fun work member => absurd member List.not_mem_nil
  refine ⟨neverReturns_iff disciplined run, fun inOrder => ?_⟩
  apply along_iff_forall_split.mpr
  rintro before event after rfl
  exact inert_settle (disciplined_exec disciplined before)
    (current_exec current (along_append.mp inOrder).1) event

end Histories

def wallet : String := "0x1111111111111111111111111111111111111111"

/-- The libraries on the values below: an address that is its own checksum form, one
date, and a host that keeps universal time. -/
def demoLibrary : Library where
  getAddress raw := if raw = wallet then some raw else none
  parseJson _ := none
  parseDate text := if text = "2027-01-01T00:00:00.000Z" then some 1798761600000 else none
  addDays date days := date + 86400000 * days
  buildAttestationHash _ := "0x"

def emptyDb : Db := ⟨fun _ => none, [], fun _ _ => none, fun _ => none, [], []⟩

/-- A call whose handler runs so many statements with nothing in between. -/
def handled (call : Event) (statements : ℕ) (fresh : String) : List Event :=
  call :: List.replicate statements (.runs 0 fresh)

def started (id : String) : List Event := handled (.starts wallet "KYC_AML_VERIFIED") 3 id

def webhookFor (id : String) (approved : Bool) (attestationHash : String) : Event :=
  .delivers 0 none (some id) {
    input := none
    output := none
    payload := {
      claimType := some "KYC_AML_VERIFIED"
      approved := some approved
      confidence := some 1
      attestationHash := some attestationHash
      expiresAt := some "2027-01-01T00:00:00.000Z" } }

def resultFor (id : String) (approved : Bool) : Event :=
  .reports { verificationId := id, walletAddress := wallet, claimType := .KYC_AML_VERIFIED, approved }

/-- A second session is started before the first has an answer, and it is completed. -/
def secondCompleted : List Event :=
  started "first" ++ started "second" ++ handled (webhookFor "second" true "0x02") 7 "" ++
    handled (resultFor "second" true) 7 ""

/-- The first session's webhook and result, at last. -/
def firstAtLast : List Event :=
  handled (webhookFor "first" false "0x01") 7 "" ++ handled (resultFor "first" false) 7 ""

/-- The result overtakes the webhook's last statement, and comes once more. -/
def overlapping : List Event :=
  started "first" ++ handled (webhookFor "first" true "0x01") 6 "" ++ [resultFor "first" true] ++
    List.replicate 7 (.runs 1 "") ++ [.runs 0 ""] ++ handled (resultFor "first" true) 7 "" ++
    started "second" ++ handled (webhookFor "second" false "0x02") 7 ""

theorem later_results_stand_demo :
    NeverReturns demoLibrary "" ⟨.standard, emptyDb, []⟩ overlapping ∧
      KeepsLaterResults demoLibrary "" ⟨.standard, emptyDb, []⟩ overlapping := by
  obtain ⟨returns, keeps⟩ := later_results_stand demoLibrary "" .standard emptyDb overlapping
  exact ⟨returns.mpr (by decide +kernel), keeps (by decide +kernel)⟩

/-- A repeated webhook takes a completed session back, and callbacks of the first session
replace the result of the second: the passport it left LIMITED turns RED. -/
theorem late_callbacks_undo_results :
    ¬ NeverReturns demoLibrary "" ⟨.standard, emptyDb, []⟩
        (secondCompleted ++ handled (webhookFor "second" true "0x02") 7 "") ∧
      ¬ KeepsLaterResults demoLibrary "" ⟨.standard, emptyDb, []⟩ (secondCompleted ++ firstAtLast) ∧
      (exec (step demoLibrary "") ⟨.standard, emptyDb, []⟩ secondCompleted).db.passportStatus wallet =
        some .LIMITED ∧
      (exec (step demoLibrary "") ⟨.standard, emptyDb, []⟩ (secondCompleted ++ firstAtLast)).db.passportStatus
        wallet = some .RED := by
  refine ⟨?_, ?_, by decide +kernel, by decide +kernel⟩
  · intro never
    obtain ⟨processing, -⟩ := never secondCompleted (handled (webhookFor "second" true "0x02") 7 "") []
      rfl "second" (by decide +kernel)
    exact processing (by decide +kernel)
  · intro keeps
    -- The first session's webhook is about to write its claim.
    let before := secondCompleted ++ handled (webhookFor "first" false "0x01") 4 ""
    let state := exec (step demoLibrary "") ⟨.standard, emptyDb, []⟩ before
    have inert := along_iff_forall_split.mp keeps before (.runs 0 "")
      (List.replicate 2 (.runs 0 "") ++ handled (resultFor "first" false) 7 "") rfl
    have stage : (state.work[0]?).map (·.stage) = some (.applying "first" wallet .KYC_AML_VERIFIED) := by
      decide +kernel
    obtain ⟨work, found, applying⟩ := Option.map_eq_some_iff.mp stage
    have latest : state.db.latest wallet .KYC_AML_VERIFIED = some "second" := by decide +kernel
    have another : ¬ work.stage.IsFor (state.db.latest wallet .KYC_AML_VERIFIED) := by
      rintro ⟨id, walletAddress, claimType, own, named⟩
      rw [applying] at own
      rw [latest] at named
      cases own
      exact absurd named (by decide)
    have same := (inert work found (by rw [applying]; exact Stage.noConfusion)).1 wallet .KYC_AML_VERIFIED
      another
    exact absurd same (by decide +kernel)

end PassportKit.Verification
