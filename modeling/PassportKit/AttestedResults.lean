import PassportKit.VerificationSystem

/-! Where verdicts come from. Claims are settled by two paths that trust what they are
handed, a report of the node and the fallback that submits the claim itself, and a policy
is raised by three. Whatever runs beside what, each of them goes back to a verdict that
the attester or the demo has recorded for a session of the same wallet and type: nothing
is settled, opened or raised on the strength of a request alone. -/
namespace PassportKit.Verification
open Interaction Runs Evm Eip712 Js

inductive Fact where
  /-- A session was created for this wallet and type. -/
  | opened (verificationId walletAddress : String) (claimType : ClaimType)
  /-- A verdict for a session was recorded. -/
  | recorded (verificationId walletAddress : String) (claimType : ClaimType) (approved : Bool)
  /-- A call that writes a claim was answered with this hash. -/
  | submitted (params : SubmitClaimParams) (transactionHash : String)

/-- The request brings a verdict: the attester's callback, with the secret where one is
configured, or a saved result of the demo. -/
def Request.Attests (settings : Settings) (claimType : ClaimType) (approved : Bool) : Request → Prop
  | .aiAttesterWebhook _ secret _ body => validateSecret settings.webhookSecret secret = .ok () ∧
      ∃ payload confidence, unwrap settings.lib.toLibrary body = .ok payload ∧
        readVerdict payload = .ok ⟨claimType, approved, confidence⟩
  | .mockAiResult _ _ choice => choice.getD true = approved
  | _ => False

section Facts
variable (settings : Settings) {σ : Type}

/-- An update of a session shows the verdict it sets, if its request brings it. -/
def updateFacts (request : Request) (db : Db) (id : String) (data : SessionData) : Set Fact :=
  {fact | ∃ session approved, db.session id = some session ∧ data.approved = some approved ∧
    request.Attests settings session.claimType approved ∧
    fact = .recorded id session.walletAddress session.claimType approved}

def System.shows (system : System σ) (request : Request) : Program.Exchange SystemCall SystemAnswer → Set Fact
  | ⟨.api (.statement (.createSession walletAddress claimType)), id⟩ => {.opened id walletAddress claimType}
  | ⟨.api (.statement (.updateSession id data)), _⟩ => updateFacts settings request system.api.db id data
  | ⟨.api (.submitClaim params), transactionHash⟩ => {.submitted params transactionHash}
  | ⟨.node (.writeClaim params), hash⟩ => {.submitted params (digestText hash)}
  | _ => ∅

end Facts

section Rows
variable (settings : Settings) (known : Set Fact)

/-- A verdict for the wallet and type was recorded, for some session. -/
def Recorded (walletAddress : String) (claimType : ClaimType) (approved : Bool) : Prop :=
  ∃ id, Fact.recorded id walletAddress claimType approved ∈ known

/-- A call that writes this verdict was answered with the hash, unless the node only
makes believe. -/
def Submitted [Crypto Bytes32] (walletAddress : String) (claimType : ClaimType) (approved : Bool)
    (transactionHash : String) : Prop :=
  settings.DEMO_MODE = true ∨ ∃ params, Fact.submitted params transactionHash ∈ known ∧
    params.walletAddress = walletAddress ∧ params.claimTypeHash = CLAIM_TYPE_HASHES claimType ∧
    params.approved = approved

/-- A claim is on its way, or it is settled as a verdict was recorded and submitted. -/
def Warranted [Crypto Bytes32] (walletAddress : String) (claimType : ClaimType) (status : ClaimStatus)
    (transactionHash : Option String) : Prop :=
  status = .PENDING ∨ status = .PROCESSING ∨ ∃ approved hash, status = verdictStatus approved ∧
    transactionHash = some hash ∧ Recorded known walletAddress claimType approved ∧
    Submitted settings known walletAddress claimType approved hash

/-- A policy is one of the two that need no KYC, or there has been a KYC. -/
def WalletTransferPolicy.Earned (walletAddress : String) (policy : WalletTransferPolicy) : Prop :=
  policy = ⟨NO_KYC_DAILY_50, NO_KYC_CAP⟩ ∨ policy = ⟨BLOCKED, 0⟩ ∨
    Recorded known walletAddress .KYC_AML_VERIFIED true

/-- A transaction record is marked confirmed, and a claim's says the verdict that was
recorded for its session. -/
def TransactionRecord.Faithful [Crypto Bytes32] (record : TransactionRecord) : Prop :=
  record.status = .CONFIRMED ∧ (record.contractName = .ClaimRegistry → ∃ id claimType approved hash,
    record.verificationId = some id ∧ record.claimType = some claimType ∧ record.transactionHash = some hash ∧
    record.action = claimType.text ++ " = " ++ (verdictStatus approved).text ∧
    Fact.recorded id record.walletAddress claimType approved ∈ known ∧
    Submitted settings known record.walletAddress claimType approved hash)

structure VerificationSession.Known (session : VerificationSession) : Prop where
  opened : Fact.opened session.id session.walletAddress session.claimType ∈ known
  normal : settings.lib.getAddress session.walletAddress = some session.walletAddress
  recorded : ∀ approved, session.approved = some approved →
    Fact.recorded session.id session.walletAddress session.claimType approved ∈ known
  answered : session.status ≠ .PENDING ∨ session.attestationHash.isSome = true → session.approved.isSome = true

/-- A report carries a verdict that was recorded, and the hash it was submitted with. -/
structure Truthful [Crypto Bytes32] (result : CREWorkflowResult) : Prop where
  normal : settings.lib.getAddress result.walletAddress = some result.walletAddress
  recorded : Fact.recorded result.verificationId result.walletAddress result.claimType result.approved ∈ known
  submitted : ∃ hash, result.claimRegistryTxHash = some hash ∧ isRealTx (some hash) = true ∧
    Submitted settings known result.walletAddress result.claimType result.approved hash

/-- The sessions are as the facts have it. -/
structure Db.SessionsKnown (db : Db) : Prop where
  sessions : ∀ session ∈ db.sessions, session.Known settings known
  opened : ∀ id walletAddress claimType, Fact.opened id walletAddress claimType ∈ known →
    ∃ session, db.session id = some session ∧ session.walletAddress = walletAddress ∧
      session.claimType = claimType
  recorded : ∀ id walletAddress claimType approved, Fact.recorded id walletAddress claimType approved ∈ known →
    (db.session id).isSome = true ∧ ∀ session ∈ db.sessions, session.id = id → session.approved.isSome = true

structure System.Sound {σ : Type} [Crypto Bytes32] (system : System σ) : Prop where
  sessions : system.api.db.SessionsKnown settings known
  claims : ∀ walletAddress claimType claim, system.api.db.claims walletAddress claimType = some claim →
    Warranted settings known walletAddress claimType claim.status claim.transactionHash
  policies : ∀ walletAddress policy, system.api.db.policies walletAddress = some policy →
    policy.Earned known walletAddress
  transactions : ∀ record ∈ system.api.db.transactions, record.Faithful settings known
  posted : ∀ result ∈ system.posted, Truthful settings known result.toCREWorkflowResult

end Rows

section Growth
variable {settings : Settings} {known later : Set Fact} {walletAddress : String} {claimType : ClaimType}
  {approved : Bool}

theorem Recorded.mono (recorded : Recorded known walletAddress claimType approved) (more : known ⊆ later) :
    Recorded later walletAddress claimType approved := by
  obtain ⟨id, shown⟩ := recorded
  exact ⟨id, more shown⟩

theorem WalletTransferPolicy.Earned.mono {policy : WalletTransferPolicy} (earned : policy.Earned known walletAddress)
    (more : known ⊆ later) : policy.Earned later walletAddress := by
  rcases earned with basic | blocked | recorded
  · exact .inl basic
  · exact .inr (.inl blocked)
  · exact .inr (.inr (recorded.mono more))

theorem VerificationSession.Known.mono {session : VerificationSession} (shown : session.Known settings known)
    (more : known ⊆ later) : session.Known settings later where
  opened := more shown.opened
  normal := shown.normal
  recorded := fun approved verdict => more (shown.recorded approved verdict)
  answered := shown.answered

variable [Crypto Bytes32]

theorem Submitted.mono {hash : String} (submitted : Submitted settings known walletAddress claimType approved hash)
    (more : known ⊆ later) : Submitted settings later walletAddress claimType approved hash := by
  rcases submitted with demo | ⟨params, shown, same⟩
  · exact .inl demo
  · exact .inr ⟨params, more shown, same⟩

theorem Warranted.mono {status : ClaimStatus} {transactionHash : Option String}
    (warranted : Warranted settings known walletAddress claimType status transactionHash) (more : known ⊆ later) :
    Warranted settings later walletAddress claimType status transactionHash := by
  rcases warranted with pending | processing | ⟨approved, hash, settled, named, recorded, submitted⟩
  · exact .inl pending
  · exact .inr (.inl processing)
  · exact .inr (.inr ⟨approved, hash, settled, named, recorded.mono more, submitted.mono more⟩)

theorem TransactionRecord.Faithful.mono {record : TransactionRecord} (faithful : record.Faithful settings known)
    (more : known ⊆ later) : record.Faithful settings later := by
  refine ⟨faithful.1, fun claims => ?_⟩
  obtain ⟨id, claimType, approved, hash, named, typed, hashed, action, recorded, submitted⟩ := faithful.2 claims
  exact ⟨id, claimType, approved, hash, named, typed, hashed, action, more recorded, submitted.mono more⟩

theorem Truthful.mono {result : CREWorkflowResult} (truthful : Truthful settings known result)
    (more : known ⊆ later) :
    Truthful settings later result where
  normal := truthful.normal
  recorded := more truthful.recorded
  submitted := by
    obtain ⟨hash, named, real, submitted⟩ := truthful.submitted
    exact ⟨hash, named, real, submitted.mono more⟩

end Growth

section Discipline
variable (settings : Settings) [Crypto Bytes32] (request : Request) (known : Set Fact)

/-- A session's update: it records what its request attests, or what it sets was
recorded before. -/
def MayUpdate (id : String) (data : SessionData) : Prop :=
  (∃ walletAddress claimType approved, data.approved = some approved ∧
    Fact.opened id walletAddress claimType ∈ known ∧ request.Attests settings claimType approved) ∨
  data.approved = none ∧ data.attestationHash = none ∧ (data.status = none ∨ ∃ walletAddress claimType approved,
    Fact.recorded id walletAddress claimType approved ∈ known)

/-- What a claim is given is warranted, and given whole. -/
def MayGive (walletAddress : String) (claimType : ClaimType) (data : ClaimData) : Prop :=
  ∃ status, data.status = some status ∧ (status = .PENDING ∨ status = .PROCESSING ∨
    ∃ approved hash, status = verdictStatus approved ∧ data.transactionHash = some (some hash) ∧
      Recorded known walletAddress claimType approved ∧
        Submitted settings known walletAddress claimType approved hash)

def Statement.May : Statement → Prop
  | .createSession walletAddress _ => settings.lib.getAddress walletAddress = some walletAddress
  | .updateSession id data => MayUpdate settings request known id data
  | .upsertClaim walletAddress claimType data => MayGive settings known walletAddress claimType data
  | .updateManyClaims walletAddress claimType data => MayGive settings known walletAddress claimType data
  | .updatePolicy walletAddress _ => Recorded known walletAddress .KYC_AML_VERIFIED true
  | .upsertPolicy _ policy => policy = ⟨BLOCKED, 0⟩
  | .createTransaction record => record.Faithful settings known
  | _ => True

def ApiCall.May : ApiCall → Prop
  | .statement inner => inner.May settings request known
  | .updateLimit walletAddress _ => Recorded known walletAddress .KYC_AML_VERIFIED true
  | .upsertClaim walletAddress claimType create update =>
    MayGive settings known walletAddress claimType create ∧ MayGive settings known walletAddress claimType update
  | _ => True

def SystemCall.May : SystemCall → Prop
  | .api call => call.May settings request known
  | .node (.sendWorkflowResult result) => Truthful settings known result.toCREWorkflowResult
  | _ => True

def VouchedStatement : Program.Exchange Statement Reply → Prop
  | ⟨.createSession walletAddress claimType, id⟩ => Fact.opened id walletAddress claimType ∈ known
  | ⟨.findSession id, found⟩ =>
    ∀ session, found = some session → session.id = id ∧ session.Known settings known
  | ⟨.findFirstSession _ _ _, found⟩ => ∀ session, found = some session → session.Known settings known
  | ⟨.findPolicy walletAddress, found⟩ => ∀ policy, found = some policy → policy.Earned known walletAddress
  | _ => True

def VouchedApi : Program.Exchange ApiCall ApiReply → Prop
  | ⟨.statement statement, reply⟩ => VouchedStatement settings known ⟨statement, reply⟩
  | ⟨.findFirstClaim walletAddress claimType status, found⟩ => ∀ claim, found = some claim →
      Warranted settings known walletAddress claimType status claim.transactionHash
  | ⟨.submitClaim params, transactionHash⟩ => Fact.submitted params transactionHash ∈ known
  | _ => True

def Vouched : Program.Exchange SystemCall SystemAnswer → Prop
  | ⟨.api call, reply⟩ => VouchedApi settings known ⟨call, reply⟩
  | ⟨.node (.fetchVerificationResult _), result⟩ => ∃ session : VerificationSession,
      session.Known settings known ∧ result = verificationResult session
  | ⟨.node (.writeClaim params), hash⟩ => Fact.submitted params (digestText hash) ∈ known
  | _ => True

variable {settings request known}

theorem lasting_may : Program.Lasting (fun known (call : SystemCall) => call.May settings request known) := by
  intro known later call more may
  have update {id : String} {data : SessionData} (may : MayUpdate settings request known id data) :
      MayUpdate settings request later id data := by
    rcases may with ⟨wallet, type, approved, sets, opened, attests⟩ | ⟨keeps, leaves, rest⟩
    · exact .inl ⟨wallet, type, approved, sets, more opened, attests⟩
    · exact .inr ⟨keeps, leaves, rest.imp_right fun ⟨wallet, type, approved, shown⟩ =>
        ⟨wallet, type, approved, more shown⟩⟩
  have give {wallet : String} {type : ClaimType} {data : ClaimData} (may : MayGive settings known wallet type data) :
      MayGive settings later wallet type data := by
    obtain ⟨status, sets, pending | processing | ⟨approved, hash, settled, named, recorded, submitted⟩⟩ := may
    · exact ⟨status, sets, .inl pending⟩
    · exact ⟨status, sets, .inr (.inl processing)⟩
    · exact ⟨status, sets,
        .inr (.inr ⟨approved, hash, settled, named, recorded.mono more, submitted.mono more⟩)⟩
  cases call with
  | api call =>
    cases call with
    | statement statement =>
      cases statement with
      | createSession wallet type => exact may
      | updateSession id data => exact update may
      | upsertClaim wallet type data => exact give may
      | updateManyClaims wallet type data => exact give may
      | updatePolicy wallet status => exact Recorded.mono may more
      | upsertPolicy wallet policy => exact may
      | createTransaction record => exact TransactionRecord.Faithful.mono may more
      | _ => trivial
    | updateLimit wallet limit => exact Recorded.mono may more
    | upsertClaim wallet type create change => exact ⟨give may.1, give may.2⟩
    | _ => trivial
  | node call =>
    cases call with
    | sendWorkflowResult result => exact Truthful.mono may more
    | _ => trivial
  | _ => trivial

end Discipline

/-! ## The handlers -/

/-- `getAddress` leaves an address it has spelt. -/
def Settings.Normal (settings : Settings) : Prop :=
  ∀ raw address, settings.lib.getAddress raw = some address → settings.lib.getAddress address = some address

theorem normalizeAddress_ok {lib : Library} {raw address : String} (valid : normalizeAddress lib raw = .ok address) :
    lib.getAddress raw = some address := by
  rw [normalizeAddress] at valid
  split at valid <;> cases valid
  assumption

section Handlers
variable {settings : Settings} [Crypto Bytes32] {request : Request} {known : Set Fact}

section Statements
variable (settings request known) in
/-- A handler of the callbacks upholds the discipline. -/
abbrev HandlerUpholds {α : Type} (Ends : Set Fact → α → Prop) (program : Program Statement Reply HttpError α) :
    Prop :=
  program.Upholds (Statement.May settings request) (VouchedStatement settings) Ends known

theorem openSession_upholds {walletAddress : String} (claimType : ClaimType)
    (normal : settings.lib.getAddress walletAddress = some walletAddress) :
    HandlerUpholds settings request known (fun _ _ => True) (openSession walletAddress claimType) :=
  ⟨trivial, fun _ _ _ _ => ⟨normal, fun _ _ _ _ => ⟨⟨.PENDING, rfl, .inl rfl⟩, fun _ _ _ _ => trivial⟩⟩⟩

theorem startVerification_upholds (normal : settings.Normal) (rawAddress claimType : String) :
    HandlerUpholds settings request known (fun _ _ => True)
      (startVerification settings.lib.toLibrary rawAddress claimType) := by
  refine Program.Upholds.ofExcept_bind fun type _ => Program.Upholds.ofExcept_bind fun walletAddress valid => ?_
  have named := normal _ _ (normalizeAddress_ok valid)
  exact (openSession_upholds type named).bind fun _ _ _ _ => trivial

theorem startWithDocument_upholds (normal : settings.Normal) (rawAddress claimType : String) :
    HandlerUpholds settings request known (fun _ _ => True)
      (startWithDocument settings.lib.toLibrary rawAddress claimType) := by
  refine Program.Upholds.ofExcept_bind fun type _ => Program.Upholds.ofExcept_bind fun walletAddress valid => ?_
  have named := normal _ _ (normalizeAddress_ok valid)
  refine (openSession_upholds type named).bind fun _ id _ _ => ⟨trivial, fun _ _ inferenceId _ => ?_⟩
  exact ⟨.inr ⟨rfl, rfl, .inl rfl⟩, fun _ _ _ _ => trivial⟩

theorem resolveSession_upholds (rawPayload : AIAttesterWebhookPayload) (claimType : ClaimType)
    (verificationIdFromUrl : Option String) :
    HandlerUpholds settings request known (fun later session => session.Known settings later)
      (resolveSession settings.lib.toLibrary rawPayload claimType verificationIdFromUrl) := by
  rw [resolveSession]
  cases (verificationIdFromUrl.or rawPayload.verificationId).filter (· ≠ "") with
  | some id =>
    refine ⟨trivial, fun later _ found vouched => ?_⟩
    cases found with
    | none => trivial
    | some session => exact (vouched session rfl).2
  | none =>
    cases rawPayload.walletAddress.filter (· ≠ "") with
    | none => trivial
    | some raw =>
      refine Program.Upholds.ofExcept_bind fun walletAddress _ => ⟨trivial, fun later _ found vouched => ?_⟩
      cases found with
      | none => trivial
      | some session => exact vouched session rfl

theorem recordResult_upholds {rawPayload : AIAttesterWebhookPayload} {verdict : Verdict} {expiresAt : Date}
    {session : VerificationSession} (shown : session.Known settings known)
    (typed : session.claimType = verdict.claimType)
    (attests : request.Attests settings verdict.claimType verdict.approved) :
    HandlerUpholds settings request known (fun _ _ => True)
      (recordResult settings.lib.toLibrary rawPayload verdict expiresAt session) := by
  refine ⟨trivial, fun _ logged _ _ => ⟨trivial, fun _ noted _ _ => ⟨?_, fun _ _ _ _ => ?_⟩⟩⟩
  · refine .inl ⟨session.walletAddress, session.claimType, verdict.approved, rfl, noted (logged shown.opened), ?_⟩
    rw [typed]
    exact attests
  · refine ⟨⟨.PROCESSING, rfl, .inr (.inl rfl)⟩, fun _ _ _ _ => ⟨trivial, fun _ _ _ _ => ?_⟩⟩
    exact ⟨.inr ⟨rfl, rfl, .inl rfl⟩, fun _ _ _ _ => trivial⟩

theorem aiAttesterWebhook_upholds (now : Date) (secret verificationId : Option String) (body : WebhookBody) :
    HandlerUpholds settings (.aiAttesterWebhook now secret verificationId body) known (fun _ _ => True)
      (aiAttesterWebhook settings.lib.toLibrary settings.webhookSecret now secret verificationId body) := by
  refine Program.Upholds.ofExcept_bind fun _ authorized => Program.Upholds.ofExcept_bind fun rawPayload unwrapped => ?_
  refine Program.Upholds.ofExcept_bind fun verdict read => ?_
  refine (resolveSession_upholds rawPayload verdict.claimType verificationId).bind fun later session _ shown => ?_
  refine Program.Upholds.ofExcept_bind fun _ checked => ?_
  exact recordResult_upholds shown (checkSession_ok checked)
    ⟨authorized, rawPayload, verdict.confidence, unwrapped, read⟩

theorem upgradeAfterKyc_upholds {walletAddress : String}
    (earned : Recorded known walletAddress .KYC_AML_VERIFIED true) :
    HandlerUpholds settings request known (fun _ _ => True) (upgradeAfterKyc walletAddress) := by
  refine ⟨trivial, fun later more found _ => ?_⟩
  cases found with
  | none => trivial
  | some policy =>
    change HandlerUpholds settings request later (fun _ _ => True) (if policy.policyStatus = NO_KYC_DAILY_50 then
      perform (.updatePolicy walletAddress KYC_USER_CONFIGURABLE) else pure ())
    split
    · exact ⟨earned.mono more, fun _ _ _ _ => trivial⟩
    · trivial

theorem updateTransferPolicy_upholds {walletAddress : String} {claimType : ClaimType} {approved : Bool}
    (recorded : Recorded known walletAddress claimType approved) (recalculated : PassportStatus) :
    HandlerUpholds settings request known (fun _ _ => True)
      (updateTransferPolicy walletAddress claimType approved recalculated) := by
  have upgrades : HandlerUpholds settings request known (fun _ _ => True)
      (if claimType = .KYC_AML_VERIFIED ∧ approved ∧ recalculated ≠ .RED then upgradeAfterKyc walletAddress
      else return ()) := by
    split
    · rename_i upgrade
      obtain ⟨rfl, passed, -⟩ := upgrade
      rw [passed] at recorded
      exact upgradeAfterKyc_upholds recorded
    · trivial
  refine upgrades.bind fun later _ _ _ => ?_
  split
  · exact ⟨rfl, fun _ _ _ _ => trivial⟩
  · trivial

theorem saveSync_upholds {walletAddress : String} {body : CREWorkflowResult} :
    HandlerUpholds settings request known (fun _ _ => True) (saveSync walletAddress body .CONFIRMED) := by
  rw [saveSync]
  cases body.passportTxHash.filter (· ≠ "") with
  | none => trivial
  | some hash => exact ⟨⟨rfl, fun named => by cases named⟩, fun _ _ _ _ => trivial⟩

theorem receiveWorkflowResult_upholds {body : CREWorkflowResult} (truthful : Truthful settings known body) :
    HandlerUpholds settings request known (fun _ _ => True)
      (receiveWorkflowResult settings.lib.toLibrary body) := by
  refine Program.Upholds.ofExcept_bind fun walletAddress valid => ?_
  obtain rfl : body.walletAddress = walletAddress :=
    Option.some.inj (truthful.normal.symm.trans (normalizeAddress_ok valid))
  obtain ⟨hash, named, real, submitted⟩ := truthful.submitted
  have recorded : Recorded known body.walletAddress body.claimType body.approved := ⟨_, truthful.recorded⟩
  have confirmed : (if isRealTx body.claimRegistryTxHash then .CONFIRMED else .SIMULATED : TransactionStatus) =
      .CONFIRMED := by
    rw [named, if_pos real]
  refine ⟨⟨verdictStatus body.approved, rfl,
    .inr (.inr ⟨body.approved, hash, rfl, congrArg some named, recorded, submitted⟩)⟩,
    fun _ first _ _ => ⟨?_, fun _ second _ _ => ?_⟩⟩
  · exact ⟨confirmed, fun _ => ⟨body.verificationId, body.claimType, body.approved, hash, rfl, rfl, named, rfl,
      first truthful.recorded, submitted.mono first⟩⟩
  have more := first.trans second
  rw [confirmed]
  refine saveSync_upholds.bind fun later _ third _ => ?_
  refine ⟨trivial, fun _ fourth allClaims _ =>
    ⟨trivial, fun _ fifth profile _ => ⟨trivial, fun _ sixth _ _ => ?_⟩⟩⟩
  have further := ((more.trans third).trans fourth).trans (fifth.trans sixth)
  refine (updateTransferPolicy_upholds (recorded.mono further) _).bind fun _ _ last _ =>
    ⟨?_, fun _ _ _ _ => trivial⟩
  exact .inr ⟨rfl, rfl, .inr ⟨_, _, _, last (further truthful.recorded)⟩⟩

end Statements

section Calls
variable (settings request known) in
/-- A handler of the API upholds the discipline. -/
abbrev ApiUpholds {α : Type} (Ends : Set Fact → α → Prop) (program : ApiHandler α) : Prop :=
  program.Upholds (ApiCall.May settings request) (VouchedApi settings) Ends known

theorem HandlerUpholds.api {α : Type} {Ends : Set Fact → α → Prop}
    {program : Program Statement Reply HttpError α}
    (upholds : HandlerUpholds settings request known Ends program) :
    ApiUpholds settings request known Ends (Api program) :=
  Program.Upholds.through upholds (fun _ _ allowed => allowed) fun _ _ _ vouched => vouched

theorem injectMockAiResult_upholds (now : Date) (verificationId : String) (choice : Option Bool) :
    ApiUpholds settings (.mockAiResult now verificationId choice) known (fun _ _ => True)
      (injectMockAiResult settings.lib now verificationId (choice.getD true)) := by
  refine ⟨trivial, fun found _ reply vouched => ?_⟩
  cases reply with
  | none => trivial
  | some session =>
    obtain ⟨rfl, shown⟩ := vouched session rfl
    have mock : (MOCK_AI_RESULTS session.claimType (choice.getD true)).approved = choice.getD true := by
      cases session.claimType <;> cases choice.getD true <;> rfl
    refine ⟨.inl ⟨session.walletAddress, session.claimType, _, rfl, shown.opened, mock.symm⟩, fun _ _ _ _ => ?_⟩
    refine ⟨⟨.PROCESSING, rfl, .inr (.inl rfl)⟩, fun _ _ _ _ => ⟨trivial, fun _ _ _ _ => ?_⟩⟩
    exact ⟨.inr ⟨rfl, rfl, .inl rfl⟩, fun _ _ _ _ => trivial⟩

theorem writeOnchain_upholds {session : VerificationSession} {approved : Bool}
    (shown : session.Known settings known) (verdict : session.approved = some approved) :
    ApiUpholds settings request known (fun _ _ => True) (writeOnchain settings.lib session.id session) := by
  have recorded := shown.recorded approved verdict
  obtain rfl : session.approved.getD false = approved := by rw [verdict]; rfl
  rw [writeOnchain]
  refine ⟨trivial, fun first grown hash submitted => ?_⟩
  -- the row, the record and the claim name the transaction the adapter has answered
  have answers {later : Set Fact} (more : first ⊆ later) :
      Submitted settings later session.walletAddress session.claimType (session.approved.getD false) hash :=
    .inr ⟨_, more submitted, rfl, rfl, rfl⟩
  refine ⟨⟨rfl, fun _ => ?_⟩, fun second saved _ _ => ?_⟩
  · exact ⟨session.id, session.claimType, _, hash, rfl, rfl, rfl, rfl, grown recorded, answers subset_rfl⟩
  have gives {data : ClaimData} (settles : data.status = some (verdictStatus (session.approved.getD false)))
      (names : data.transactionHash = some (some hash)) :
      MayGive settings second session.walletAddress session.claimType data :=
    ⟨_, settles,
      .inr (.inr ⟨_, hash, rfl, names, ⟨session.id, saved (grown recorded)⟩, answers saved⟩)⟩
  refine ⟨⟨gives rfl rfl, gives rfl rfl⟩, fun third claimed _ _ =>
    ⟨trivial, fun fourth synced passport _ => ?_⟩⟩
  refine ⟨⟨rfl, nofun⟩, fun _ fifth _ _ => ⟨trivial, fun _ sixth _ _ => ⟨?_, fun _ _ _ _ => trivial⟩⟩⟩
  have more := ((grown.trans saved).trans (claimed.trans synced)).trans (fifth.trans sixth)
  exact .inr ⟨rfl, rfl, .inr ⟨_, _, _, more recorded⟩⟩

theorem syncOnchain_upholds (verificationId : String) :
    ApiUpholds settings request known (fun _ _ => True) (syncOnchain settings.lib verificationId) := by
  refine ⟨trivial, fun later _ found vouched => ?_⟩
  cases found with
  | none => trivial
  | some session =>
    obtain ⟨rfl, shown⟩ := vouched session rfl
    change ApiUpholds settings request later (fun _ _ => True) (if session.status = .PENDING then
      .fail (.badRequest "AI Attester result not yet received for this verification")
      else writeOnchain settings.lib session.id session)
    split
    · trivial
    · rename_i received
      obtain ⟨approved, verdict⟩ := Option.isSome_iff_exists.mp (shown.answered (.inl received))
      exact writeOnchain_upholds shown verdict

theorem ensurePolicy_upholds (walletAddress : String) :
    ApiUpholds settings request known (fun _ _ => True) (ensurePolicy walletAddress) := by
  refine ⟨trivial, fun _ _ upserted _ => ?_⟩
  cases upserted <;> trivial

theorem refresh_upholds (walletAddress : String) (policy : Option WalletTransferPolicy) :
    ApiUpholds settings request known (fun _ _ => True) (refresh walletAddress policy) := by
  rw [refresh]
  split
  · refine ⟨trivial, fun later _ claim vouched => ?_⟩
    cases claim with
    | none => trivial
    | some claim =>
      have earned : Recorded later walletAddress .KYC_AML_VERIFIED true := by
        rcases vouched claim rfl with pending | processing | ⟨approved, hash, settled, -, recorded, -⟩
        · cases pending
        · cases processing
        cases approved with
        | true => exact recorded
        | false => cases settled
      exact ⟨earned, fun _ _ _ _ => ⟨trivial, fun _ _ _ _ => trivial⟩⟩
  · trivial

theorem getPolicy_upholds (walletAddress : String) :
    ApiUpholds settings request known (fun _ _ => True) (getPolicy walletAddress) := by
  refine (ensurePolicy_upholds walletAddress).bind fun _ _ _ _ => ⟨trivial, fun _ _ found _ => ?_⟩
  refine (refresh_upholds walletAddress found).bind fun _ policy _ _ => ?_
  cases policy <;> trivial

theorem updateTransferLimit_upholds (walletAddress : String) (dailyLimitUsd : ℚ) :
    ApiUpholds settings request known (fun _ _ => True) (updateTransferLimit walletAddress dailyLimitUsd) := by
  refine ⟨trivial, fun later _ policy vouched => ?_⟩
  change ApiUpholds settings request later (fun _ _ => True)
    (if policy.map (·.policyStatus) ≠ some KYC_USER_CONFIGURABLE then
      .fail (.badRequest "Transfer limit can only be set after KYC/AML verification")
    else ask (.updateLimit walletAddress dailyLimitUsd))
  split
  · trivial
  · rename_i configurable
    obtain ⟨found, rfl, status⟩ := Option.map_eq_some_iff.mp (not_not.mp configurable)
    refine ⟨?_, fun _ _ _ _ => trivial⟩
    rcases vouched found rfl with rfl | rfl | recorded
    · exact absurd status (by decide)
    · exact absurd status (by decide)
    · exact recorded

theorem checkTransferIntent_upholds (now : Date) (walletAddress : String) (amountUsd : Double) :
    ApiUpholds settings request known (fun _ _ => True) (checkTransferIntent now walletAddress amountUsd) := by
  refine (ensurePolicy_upholds walletAddress).bind fun _ _ _ _ => ⟨trivial, fun later _ policy _ => ?_⟩
  cases policy with
  | none => trivial
  | some policy =>
    change ApiUpholds settings request later (fun _ _ => True) (checkAgainst now walletAddress amountUsd policy)
    rw [checkAgainst]
    split
    · exact ⟨trivial, fun _ _ _ _ => trivial⟩
    · refine ⟨trivial, fun further _ decisions _ => ?_⟩
      change ApiUpholds settings request further (fun _ _ => True)
        (compareWithLimit walletAddress amountUsd policy (totalOf decisions))
      rw [compareWithLimit]
      split <;> exact ⟨trivial, fun _ _ _ _ => trivial⟩

theorem ofWallet_upholds {α : Type} {rawAddress : String} {route : String → ApiHandler α}
    (upholds : ∀ walletAddress, ApiUpholds settings request known (fun _ _ => True) (route walletAddress)) :
    ApiUpholds settings request known (fun _ _ => True) (ofWallet settings rawAddress route) :=
  Program.Upholds.ofExcept_bind fun walletAddress _ => upholds walletAddress

theorem checkAccess_upholds (rawAddress : String) (resourceId : Option String) :
    HandlerUpholds settings request known (fun _ _ => True)
      (checkAccess settings.lib.toLibrary rawAddress resourceId) :=
  Program.Upholds.ofExcept_bind fun _ _ => ⟨trivial, fun _ _ _ _ => trivial⟩

end Calls

section Node

variable (settings request known) in
/-- A program of the system upholds the discipline. -/
abbrev SystemUpholds {ε α : Type} (Ends : Set Fact → α → Prop)
    (program : Program SystemCall SystemAnswer ε α) : Prop :=
  program.Upholds (SystemCall.May settings request) (Vouched settings) Ends known

theorem ApiUpholds.system {α : Type} {Ends : Set Fact → α → Prop} {program : ApiHandler α}
    (upholds : ApiUpholds settings request known Ends program) :
    SystemUpholds settings request known Ends (handler program) :=
  Program.Upholds.through upholds (fun _ _ allowed => allowed) fun _ _ _ vouched => vouched

variable (settings request known) in
abbrev NodeUpholds {α : Type} (Ends : Set Fact → α → Prop) (program : Workflow α) : Prop :=
  program.Upholds (fun later call => (SystemCall.node call).May settings request later)
    (fun later exchange => Vouched settings later ⟨.node exchange.1, exchange.2⟩) Ends known

theorem mockTxHash_upholds :
    NodeUpholds settings request known (fun _ hash => isRealTx (some hash) = true) mockTxHash :=
  ⟨trivial, fun _ _ digits _ => isRealTx_mockTxHash digits⟩

theorem submitClaim_upholds (valid : ValidResult) :
    NodeUpholds settings request known (fun later claimTx => isRealTx (some claimTx.transactionHash) = true ∧
        Submitted settings later valid.walletAddress valid.claimType valid.approved claimTx.transactionHash)
      (submitClaim settings.DEMO_MODE (claimParams valid)) := by
  rw [submitClaim]
  cases mode : settings.DEMO_MODE with
  | true => exact mockTxHash_upholds.bind fun _ _ _ real => ⟨real, .inl mode⟩
  | false =>
    refine ⟨trivial, fun _ _ hash submitted =>
      ⟨isRealTx_digestText hash, .inr ⟨_, submitted, rfl, ?_, rfl⟩⟩⟩
    exact claimTypeToBytes32_eq valid.claimType

theorem syncPassport_upholds (walletAddress : String) :
    NodeUpholds settings request known (fun _ _ => True) (syncPassport settings.DEMO_MODE walletAddress) := by
  rw [syncPassport]
  split
  · exact mockTxHash_upholds.bind fun _ _ _ _ => trivial
  · exact ⟨trivial, fun _ _ _ _ => ⟨trivial, fun _ _ _ _ => trivial⟩⟩

theorem getAccessSummary_upholds (walletAddress : String) :
    NodeUpholds settings request known (fun _ _ => True) (getAccessSummary settings.DEMO_MODE walletAddress) := by
  rw [getAccessSummary]
  split
  · trivial
  · exact ⟨trivial, fun _ _ _ _ => trivial⟩

/-- **The node reports what it has fetched.** A verdict that passes its checks is one that
was recorded, since only then has the session an attestation. -/
theorem runPassportCredsWorkflow_upholds (verificationId : String) :
    NodeUpholds settings request known (fun _ _ => True)
      (runPassportCredsWorkflow settings.DEMO_MODE verificationId) := by
  rw [runPassportCredsWorkflow]
  split
  · trivial
  refine ⟨trivial, fun first _ result fetched => ⟨trivial, fun second later nowSeconds _ => ?_⟩⟩
  obtain ⟨session, shown, rfl⟩ := fetched
  refine Program.Upholds.ofExcept_bind fun valid passes => ?_
  have checked := validate_verificationResult passes
  have attested : session.approved.isSome = true :=
    shown.answered (.inr (by rw [checked.attestationHash]; rfl))
  obtain ⟨approved, verdict⟩ := Option.isSome_iff_exists.mp attested
  have same : valid.approved = approved := by rw [checked.approved, verdict]; rfl
  have recorded : Fact.recorded valid.verificationId valid.walletAddress valid.claimType valid.approved ∈ second := by
    rw [checked.verificationId, checked.walletAddress, checked.claimType, same]
    exact later (shown.recorded approved verdict)
  have normal : settings.lib.getAddress valid.walletAddress = some valid.walletAddress := by
    rw [checked.walletAddress]
    exact shown.normal
  refine (submitClaim_upholds valid).bind fun third claimTx more ⟨real, submitted⟩ => ?_
  refine (syncPassport_upholds valid.walletAddress).bind fun fourth passportTx further _ => ?_
  refine (getAccessSummary_upholds valid.walletAddress).bind fun fifth accessSummary beyond _ => ?_
  refine ⟨?_, fun _ _ _ _ => trivial⟩
  exact {
    normal
    recorded := beyond (further (more recorded))
    submitted := ⟨claimTx.transactionHash, rfl, real, submitted.mono (further.trans beyond)⟩ }

theorem setupPrivyWallet_upholds (rawAddress : String) :
    SystemUpholds settings request known (fun _ _ => True) (setupPrivyWallet settings rawAddress) := by
  refine Program.Upholds.ofExcept_bind fun walletAddress _ => ⟨trivial, fun _ _ _ _ => ?_⟩
  exact (ensurePolicy_upholds walletAddress).system.bind fun _ _ _ _ => (getPolicy_upholds walletAddress).system

theorem getPassportState_upholds (rawAddress : String) :
    SystemUpholds settings request known (fun _ _ => True) (getPassportState settings rawAddress) :=
  Program.Upholds.ofExcept_bind fun _ _ => ⟨trivial, fun _ _ _ _ => trivial⟩

end Node

/-- Every program, as it is started, upholds the discipline. -/
theorem program_upholds {σ : Type} {system : System σ} (normal : settings.Normal)
    (sound : system.Sound settings known) (comes : request.Comes system) :
    SystemUpholds settings request known (fun _ _ => True) (request.program settings) := by
  cases request with
  | start rawAddress claimType => exact (startVerification_upholds normal rawAddress claimType).api.system.ignoring
  | submitDocument rawAddress claimType =>
    exact (startWithDocument_upholds normal rawAddress claimType).api.system.ignoring
  | aiAttesterWebhook now secret verificationId body =>
    exact (aiAttesterWebhook_upholds now secret verificationId body).api.system.ignoring
  | mockAiResult now verificationId approved =>
    exact (injectMockAiResult_upholds now verificationId approved).system.ignoring
  | syncOnchain verificationId => exact (syncOnchain_upholds verificationId).system.ignoring
  | workflowResult body =>
    obtain ⟨result, posted, rfl⟩ := comes
    exact (receiveWorkflowResult_upholds (sound.posted result posted)).api.system.ignoring
  | setupPrivyWallet rawAddress => exact (setupPrivyWallet_upholds rawAddress).ignoring
  | getPolicy rawAddress => exact (ofWallet_upholds getPolicy_upholds).system.ignoring
  | updateTransferLimit rawAddress dailyLimitUsd =>
    exact (ofWallet_upholds (updateTransferLimit_upholds · dailyLimitUsd)).system.ignoring
  | transferIntent now rawAddress amountUsd =>
    exact (ofWallet_upholds (checkTransferIntent_upholds now · amountUsd)).system.ignoring
  | checkAccess rawAddress resourceId => exact (checkAccess_upholds rawAddress resourceId).api.system.ignoring
  | getPassport rawAddress => exact (getPassportState_upholds rawAddress).ignoring
  | trigger verificationId =>
    have lifted : SystemUpholds settings (.trigger verificationId) known (fun _ _ => True)
        ((runPassportCredsWorkflow settings.DEMO_MODE verificationId).through SystemCall.node fun _ answer => answer) :=
      (runPassportCredsWorkflow_upholds verificationId).through (fun _ _ allowed => allowed)
        fun _ _ _ vouched => vouched
    exact lifted.ignoring

end Handlers

/-! ## The rows after a call -/

section Rows
variable {settings : Settings} {known later : Set Fact} {db next : Db}

theorem session_congr (same : next.sessions = db.sessions) (id : String) : next.session id = db.session id := by
  rw [Db.session, same, Db.session]

/-- Facts about the chain say nothing about the sessions. -/
theorem Db.SessionsKnown.of_same (shown : db.SessionsKnown settings known) (same : next.sessions = db.sessions)
    {facts : Set Fact} (chain : ∀ fact ∈ facts, ∃ params hash, fact = .submitted params hash) :
    next.SessionsKnown settings (known ∪ facts) where
  sessions := fun session member => (shown.sessions session (same ▸ member)).mono Set.subset_union_left
  opened := fun id walletAddress claimType opened => by
    rw [session_congr same]
    rcases opened with before | new
    · exact shown.opened id walletAddress claimType before
    · obtain ⟨_, _, ⟨⟩⟩ := chain _ new
  recorded := fun id walletAddress claimType approved recorded => by
    rw [session_congr same, same]
    rcases recorded with before | new
    · exact shown.recorded id walletAddress claimType approved before
    · obtain ⟨_, _, ⟨⟩⟩ := chain _ new

theorem sessionsKnown_createSession {id walletAddress : String} {claimType : ClaimType}
    (shown : db.SessionsKnown settings known) (normal : settings.lib.getAddress walletAddress = some walletAddress)
    (unused : db.session id = none) (added : next.sessions = { id, walletAddress, claimType } :: db.sessions) :
    next.SessionsKnown settings (known ∪ {.opened id walletAddress claimType}) := by
  have there {other : String} {session : VerificationSession} (found : db.session other = some session) :
      next.session other = some session := by
    have differs : id ≠ other := by
      rintro rfl
      rw [unused] at found
      cases found
    rw [Db.session, added, List.find?_cons_of_neg (by simpa using differs)]
    exact found
  refine ⟨fun session member => ?_, fun other wallet type opened => ?_,
    fun other wallet type approved recorded => ?_⟩
  · rw [added] at member
    rcases List.mem_cons.mp member with rfl | earlier
    · exact ⟨Set.mem_union_right _ rfl, normal, fun _ verdict => (by cases verdict),
        by rintro (started | attested) <;> contradiction⟩
    · exact (shown.sessions session earlier).mono Set.subset_union_left
  · rcases opened with before | new
    · obtain ⟨session, found, same⟩ := shown.opened other wallet type before
      exact ⟨session, there found, same⟩
    · cases Set.mem_singleton_iff.mp new
      refine ⟨{ id, walletAddress, claimType }, ?_, rfl, rfl⟩
      rw [Db.session, added, List.find?_cons_of_pos (by simp)]
  · rcases recorded with before | new
    · obtain ⟨present, answered⟩ := shown.recorded other wallet type approved before
      obtain ⟨session, found⟩ := Option.isSome_iff_exists.mp present
      refine ⟨by rw [there found]; rfl, fun session member named => ?_⟩
      rw [added] at member
      rcases List.mem_cons.mp member with rfl | earlier
      · obtain rfl : id = other := named
        rw [unused] at found
        cases found
      · exact answered session earlier named
    · cases new

variable {id : String} {data : SessionData}

theorem session_updated (updated : next.sessions = db.sessions.map fun session =>
      if session.id = id then session.write data else session) (other : String) :
    next.session other = (db.session other).map fun session =>
      if session.id = id then session.write data else session := by
  rw [Db.session, updated, List.find?_map, Db.session]
  simp only [Function.comp_def, write_keeps]

/-- An update leaves what it does not set, and what it sets it records, or it was there. -/
theorem answered_write {session : VerificationSession} (shown : session.Known settings known)
    (may : data.approved.isSome = true ∨ data.attestationHash = none ∧
      (data.status = none ∨ session.approved.isSome = true))
    (come : (session.write data).status ≠ .PENDING ∨ (session.write data).attestationHash.isSome = true) :
    (session.write data).approved.isSome = true := by
  simp only [VerificationSession.write] at come ⊢
  rw [Option.isSome_or, Bool.or_eq_true]
  rcases may with sets | ⟨leaves, stays | answered⟩
  · exact .inl sets
  · rw [leaves, stays, Option.getD_none, Option.none_or] at come
    exact .inr (shown.answered come)
  · exact .inr answered

theorem sessionsKnown_updateSession {request : Request} (shown : db.SessionsKnown settings known)
    (may : MayUpdate settings request known id data) (there : (db.session id).isSome = true)
    (updated : next.sessions = db.sessions.map fun session =>
      if session.id = id then session.write data else session) :
    next.SessionsKnown settings (known ∪ updateFacts settings request db id data) := by
  have recordedOwn {session : VerificationSession} (member : session ∈ db.sessions) (own : session.id = id) :
      (session.write data).Known settings (known ∪ updateFacts settings request db id data) := by
    have before := shown.sessions session member
    subst own
    refine ⟨Set.mem_union_left _ before.opened, before.normal, fun approved verdict => ?_, answered_write before ?_⟩
    · rcases may with ⟨wallet, type, attested, sets, opened, attests⟩ | ⟨keeps, -, -⟩
      · obtain ⟨first, found, wallets, types⟩ := shown.opened _ _ _ before.opened
        obtain ⟨other, foundOther, -, rfl⟩ := shown.opened _ _ _ opened
        obtain rfl := Option.some.inj (found.symm.trans foundOther)
        obtain rfl : attested = approved := by simpa [VerificationSession.write, sets] using verdict
        refine .inr ⟨first, attested, found, sets, attests, ?_⟩
        rw [wallets, types]
        rfl
      · refine .inl (before.recorded approved ?_)
        simpa [VerificationSession.write, keeps] using verdict
    · rcases may with ⟨_, _, attested, sets, -, -⟩ | ⟨-, leaves, stays | ⟨_, _, _, recorded⟩⟩
      · exact .inl (by rw [sets]; rfl)
      · exact .inr ⟨leaves, .inl stays⟩
      · exact .inr ⟨leaves, .inr ((shown.recorded _ _ _ _ recorded).2 session member rfl)⟩
  refine ⟨fun session member => ?_, fun other wallet type opened => ?_,
    fun other wallet type approved recorded => ?_⟩
  · rw [updated] at member
    obtain ⟨earlier, there, rfl⟩ := List.mem_map.mp member
    by_cases own : earlier.id = id
    · rw [if_pos own]
      exact recordedOwn there own
    · rw [if_neg own]
      exact (shown.sessions earlier there).mono Set.subset_union_left
  · rcases opened with before | ⟨_, _, _, _, _, ⟨⟩⟩
    obtain ⟨session, found, rfl, rfl⟩ := shown.opened other wallet type before
    refine ⟨_, by rw [session_updated updated, found]; rfl, ?_, ?_⟩ <;> simp only [write_keeps]
  · rw [session_updated updated, Option.isSome_map]
    constructor
    · rcases recorded with before | ⟨_, _, _, _, _, ⟨⟩⟩
      · exact (shown.recorded other wallet type approved before).1
      · exact there
    · intro session member named
      rw [updated] at member
      obtain ⟨earlier, inside, rfl⟩ := List.mem_map.mp member
      rw [(write_keeps earlier id data).1] at named
      by_cases own : earlier.id = id
      · rw [if_pos own, VerificationSession.write, Option.isSome_or, Bool.or_eq_true]
        rcases recorded with before | ⟨_, _, _, sets, _, ⟨⟩⟩
        · exact .inr ((shown.recorded other wallet type approved before).2 earlier inside named)
        · exact .inl (by rw [sets]; rfl)
      · rw [if_neg own]
        rcases recorded with before | ⟨_, _, _, _, _, ⟨⟩⟩
        · exact (shown.recorded other wallet type approved before).2 earlier inside named
        · exact absurd named own

/-- Every row was there before, or is warranted by what is known. -/
structure RowsFrom [Crypto Bytes32] (settings : Settings) (known : Set Fact) (db next : Db) : Prop where
  claims : ∀ walletAddress claimType claim, next.claims walletAddress claimType = some claim →
    db.claims walletAddress claimType = some claim ∨
      Warranted settings known walletAddress claimType claim.status claim.transactionHash
  policies : ∀ walletAddress policy, next.policies walletAddress = some policy →
    db.policies walletAddress = some policy ∨ policy.Earned known walletAddress
  transactions : ∀ record ∈ next.transactions, record ∈ db.transactions ∨ record.Faithful settings known

section Written
variable [Crypto Bytes32]

theorem RowsFrom.of_same (claims : next.claims = db.claims) (policies : next.policies = db.policies)
    (transactions : next.transactions = db.transactions) : RowsFrom settings known db next where
  claims := fun _ _ _ found => .inl (claims ▸ found)
  policies := fun _ _ found => .inl (policies ▸ found)
  transactions := fun _ member => .inl (transactions ▸ member)

theorem rowsFrom_setClaim {walletAddress : String} {claimType : ClaimType} {claim : ComplianceClaim}
    (warranted : Warranted settings known walletAddress claimType claim.status claim.transactionHash) :
    RowsFrom settings known db (db.setClaim walletAddress claimType claim) where
  claims := fun wallet type other found => by
    by_cases own : walletAddress = wallet ∧ claimType = type
    · obtain ⟨rfl, rfl⟩ := own
      simp only [Db.setClaim, Function.update_self, Option.some.injEq] at found
      exact .inr (found ▸ warranted)
    · exact .inl (by rwa [claims_setClaim own] at found)
  policies := fun _ _ found => .inl found
  transactions := fun _ member => .inl member

theorem rowsFrom_setPolicy {walletAddress : String} {policy : WalletTransferPolicy}
    (earned : policy.Earned known walletAddress) : RowsFrom settings known db (db.setPolicy walletAddress policy) where
  claims := fun _ _ _ found => .inl found
  policies := fun wallet other found => by
    by_cases own : wallet = walletAddress
    · subst own
      simp only [Db.setPolicy, Function.update_self, Option.some.injEq] at found
      exact .inr (found ▸ earned)
    · exact .inl (by simpa [Db.setPolicy, Function.update_of_ne own] using found)
  transactions := fun _ member => .inl member

/-- A claim given what may be given is warranted. -/
theorem warranted_write {walletAddress : String} {claimType : ClaimType} {claim : ComplianceClaim} {data : ClaimData}
    (may : MayGive settings known walletAddress claimType data) :
    Warranted settings known walletAddress claimType (claim.write data).status (claim.write data).transactionHash := by
  obtain ⟨status, sets, rest⟩ := may
  simp only [ComplianceClaim.write, sets, Option.getD_some]
  rcases rest with pending | processing | ⟨approved, hash, settled, named, recorded, submitted⟩
  · exact .inl pending
  · exact .inr (.inl processing)
  · exact .inr (.inr ⟨approved, hash, settled, by rw [named]; rfl, recorded, submitted⟩)

theorem rowsFrom_execute {request : Request} {fresh : String} {statement : Statement} {reply : Reply statement}
    (may : statement.May settings request known) (done : db.execute fresh statement = .ok (next, reply)) :
    RowsFrom settings known db next := by
  cases statement with
  | upsertClaim walletAddress claimType data =>
    simp only [Db.execute] at done
    (repeat' split at done) <;> cases done <;> exact rowsFrom_setClaim (warranted_write may)
  | updateManyClaims walletAddress claimType data =>
    simp only [Db.execute] at done
    split at done <;> cases done
    · exact rowsFrom_setClaim (warranted_write may)
    · exact .of_same rfl rfl rfl
  | updatePolicy walletAddress policyStatus =>
    simp only [Db.execute] at done
    split at done <;> cases done
    exact rowsFrom_setPolicy (.inr (.inr may))
  | upsertPolicy walletAddress policy =>
    simp only [Db.execute] at done
    split at done <;> cases done
    exact rowsFrom_setPolicy (.inr (.inl may))
  | createTransaction record =>
    simp only [Db.execute] at done
    split at done <;> cases done
    refine ⟨fun _ _ _ found => .inl found, fun _ _ found => .inl found, fun other member => ?_⟩
    rcases List.mem_cons.mp member with rfl | earlier
    · exact .inr may
    · exact .inl earlier
  | _ =>
    simp only [Db.execute] at done
    (repeat' split at done) <;> cases done <;> exact .of_same rfl rfl rfl

/-- The rows after a call of the API. -/
theorem rowsFrom_serves {σ : Type} {adapter : ContractAdapter σ} {store after : Store σ} {request : Request}
    {call : ApiCall} {reply : ApiReply call} (may : call.May settings request known)
    (served : Serves adapter store ⟨call, reply⟩ after) : RowsFrom settings known store.db after.db := by
  cases served with
  | statement done => exact rowsFrom_execute may (store.prisma.execute_eq .. ▸ done)
  | policyCreated absent profile => exact rowsFrom_setPolicy (.inl rfl)
  | limitUpdated there dailyLimitUsd => exact rowsFrom_setPolicy (.inr (.inr may))
  | claimUpdated create there => exact rowsFrom_setClaim (warranted_write may.2)
  | claimCreated update absent profile => exact rowsFrom_setClaim (warranted_write may.1)
  | policyThere | firstClaim | decisions | decided | submitted | synced => exact .of_same rfl rfl rfl

theorem RowsFrom.sound {σ : Type} {system after : System σ} {more : Set Fact} (sound : system.Sound settings known)
    (rows : RowsFrom settings known system.api.db after.api.db)
    (sessions : after.api.db.SessionsKnown settings (known ∪ more)) (posted : after.posted = system.posted) :
    after.Sound settings (known ∪ more) where
  sessions := sessions
  claims := fun walletAddress claimType claim found => by
    rcases rows.claims _ _ _ found with before | warranted
    · exact (sound.claims _ _ _ before).mono Set.subset_union_left
    · exact warranted.mono Set.subset_union_left
  policies := fun walletAddress policy found => by
    rcases rows.policies _ _ found with before | earned
    · exact (sound.policies _ _ before).mono Set.subset_union_left
    · exact earned.mono Set.subset_union_left
  transactions := fun record member => by
    rcases rows.transactions record member with before | faithful
    · exact (sound.transactions record before).mono Set.subset_union_left
    · exact faithful.mono Set.subset_union_left
  posted := fun result member => (sound.posted result (posted ▸ member)).mono Set.subset_union_left

end Written

end Rows

section Serving
variable {settings : Settings} [Crypto Bytes32] {σ : Type} {adapter : ContractAdapter σ} {system after : System σ}
  {request : Request} {known : Set Fact}

/-- The sessions after a call of the API. -/
theorem sessionsKnown_serves {call : ApiCall} {reply : ApiReply call} {api : Store σ}
    (shown : system.api.db.SessionsKnown settings known) (may : call.May settings request known)
    (served : Serves adapter system.api ⟨call, reply⟩ api) :
    api.db.SessionsKnown settings (known ∪ system.shows settings request ⟨.api call, reply⟩) := by
  have still {facts : Set Fact} (same : api.db.sessions = system.api.db.sessions)
      (chain : ∀ fact ∈ facts, ∃ params hash, fact = .submitted params hash) :
      api.db.SessionsKnown settings (known ∪ facts) := shown.of_same same chain
  cases served with
  | @statement fresh statement db reply done =>
    rw [Prisma.execute_eq] at done
    rcases sessions_execute done with
      same | ⟨walletAddress, claimType, rfl, unused, added⟩ | ⟨id, data, rfl, updated⟩
    · cases statement with
      | createSession walletAddress claimType =>
        simp only [Db.execute] at done
        (repeat' split at done) <;> cases done
        exact absurd same (by simp)
      | updateSession id data =>
        refine sessionsKnown_updateSession shown may ?_ ?_
        · simp only [Db.execute] at done
          split at done <;> cases done
          rename_i there
          simpa [Option.isSome_iff_ne_none] using there
        · simp only [Db.execute] at done
          split at done <;> cases done
          rfl
      | _ => exact still same (by rintro fact ⟨⟩)
    · have named : reply = fresh := by
        simp only [Db.execute] at done
        (repeat' split at done) <;> cases done
        rfl
      subst named
      exact sessionsKnown_createSession shown may unused added
    · refine sessionsKnown_updateSession shown may ?_ updated
      simp only [Db.execute] at done
      split at done <;> cases done
      rename_i there
      simpa [Option.isSome_iff_ne_none] using there
  | submitted done =>
    refine still rfl ?_
    rintro fact ⟨⟩
    exact ⟨_, _, rfl⟩
  | _ => exact still rfl (by rintro fact ⟨⟩)

/-- What a call of the API is answered is vouched for. -/
theorem vouched_serves {call : ApiCall} {reply : ApiReply call} {api : Store σ} (sound : system.Sound settings known)
    (served : Serves adapter system.api ⟨call, reply⟩ api) :
    VouchedApi settings (known ∪ system.shows settings request ⟨.api call, reply⟩) ⟨call, reply⟩ := by
  have known_of_found {later : Set Fact} {id : String} {session : VerificationSession}
      (found : system.api.db.session id = some session) : session.Known settings (known ∪ later) :=
    (sound.sessions.sessions session (List.mem_of_find?_eq_some found)).mono Set.subset_union_left
  cases served with
  | @statement fresh statement db reply done =>
    rw [Prisma.execute_eq] at done
    cases statement with
    | createSession walletAddress claimType => exact .inr rfl
    | findSession id =>
      cases done
      exact fun session found => ⟨by simpa using List.find?_some found, known_of_found found⟩
    | findFirstSession walletAddress claimType statuses =>
      cases done
      exact fun session found =>
        (sound.sessions.sessions session (List.mem_of_find?_eq_some found)).mono Set.subset_union_left
    | findPolicy walletAddress =>
      cases done
      exact fun policy found => (sound.policies _ _ found).mono Set.subset_union_left
    | _ => trivial
  | firstClaim walletAddress claimType status =>
    intro claim found
    obtain ⟨there, same⟩ := Option.filter_eq_some_iff.mp found
    obtain rfl : claim.status = status := by simpa using same
    exact (sound.claims _ _ _ there).mono Set.subset_union_left
  | submitted done => exact .inr rfl
  | _ => trivial

/-- **One call.** Whatever is called, as far as it may be, leaves every row warranted,
and what it is answered is vouched for. -/
theorem sound_serves {exchange : Program.Exchange SystemCall SystemAnswer} (sound : system.Sound settings known)
    (may : exchange.1.May settings request known) (served : system.Serves adapter exchange after) :
    after.Sound settings (known ∪ system.shows settings request exchange) ∧
      Vouched settings (known ∪ system.shows settings request exchange) exchange := by
  -- a call that leaves the database, and shows no more than a write on chain
  have still {facts : Set Fact} (chain : ∀ fact ∈ facts, ∃ params hash, fact = .submitted params hash) :
      system.Sound settings (known ∪ facts) :=
    (RowsFrom.of_same rfl rfl rfl).sound sound (sound.sessions.of_same rfl chain) rfl
  have nowhere : ∀ fact ∈ (∅ : Set Fact), ∃ params hash, fact = .submitted params hash := by rintro fact ⟨⟩
  have nothing : system.Sound settings (known ∪ ∅) := still nowhere
  cases served with
  | api served =>
    have rows : RowsFrom settings known system.api.db _ := rowsFrom_serves may served
    exact ⟨rows.sound sound (sessionsKnown_serves sound.sessions may served) rfl, vouched_serves sound served⟩
  | profileThere there => exact ⟨nothing, trivial⟩
  | profileCreated absent =>
    refine ⟨RowsFrom.sound sound ?_ ?_ rfl, trivial⟩
    · exact .of_same rfl rfl rfl
    · refine sound.sessions.of_same ?_ nowhere
      rfl
  | passport finds => exact ⟨nothing, trivial⟩
  | fetched handled =>
    obtain ⟨found, middle, finds, returns⟩ := completes_perform_bind.mp handled
    obtain ⟨there, rfl⟩ := found_session finds
    cases found with
    | none => exact absurd returns Program.not_completes_fail
    | some session =>
      obtain ⟨rfl, rfl⟩ := Program.completes_done.mp returns
      refine ⟨nothing, session, ?_, rfl⟩
      exact (sound.sessions.sessions session (List.mem_of_find?_eq_some there.symm)).mono Set.subset_union_left
  | posted result =>
    refine ⟨⟨nothing.sessions, nothing.claims, nothing.policies, nothing.transactions, fun other member => ?_⟩,
      trivial⟩
    rcases List.mem_cons.mp member with rfl | earlier
    · exact Truthful.mono may Set.subset_union_left
    · exact nothing.posted other earlier
  | claimWritten params hash =>
    refine ⟨still ?_, .inr rfl⟩
    rintro fact ⟨⟩
    exact ⟨_, _, rfl⟩
  | now | random | syncSimulated | syncWritten | summaryRead => exact ⟨nothing, trivial⟩

/-- The discipline is one that every interleaving upholds. -/
theorem sound_system (normal : settings.Normal) (adapter : ContractAdapter σ) :
    (verificationSystem settings adapter).Sound (System.shows settings)
    (fun known system => system.Sound settings known)
      (fun request known call => call.May settings request known)
      (fun _ known exchange => Vouched settings known exchange) where
  lasting := fun _ => lasting_may
  started := fun _ _ _ sound comes => program_upholds normal sound comes
  served := fun _ _ _ _ _ sound may served => sound_serves sound may served

end Serving

end PassportKit.Verification
