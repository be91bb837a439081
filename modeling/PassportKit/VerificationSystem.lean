import PassportKit.AccessControl
import PassportKit.Interleaving
import PassportKit.WorkflowNode

/-! The whole of the verification system: every route of the API that touches a wallet's
rows, and the workflow node, each handler and each workflow a program under way beside
the others. Anyone may send any request at any time, and start a workflow for any
session. What cannot be sent by anyone is the report of a workflow: the route for it is
the node's alone, so it comes only with what some workflow has posted, though late and
perhaps more than once. -/
namespace PassportKit.Verification
open Interaction Evm Eip712 Js

inductive SystemCall where
  | api (request : ApiCall)
  /-- `setupPrivyWallet`'s `upsert` of the profile, whose update leaves the passport. -/
  | setupProfile (walletAddress : String)
  | findPassport (walletAddress : String)
  | node (request : NodeCall)

abbrev SystemAnswer : SystemCall → Type
  | .api request => ApiReply request
  | .setupProfile _ => WalletProfile
  | .findPassport _ => Option PassportRow
  | .node request => NodeAnswer request

inductive Failure where
  | http (error : HttpError)
  | node (message : String)
  deriving DecidableEq, Repr

abbrev SystemProgram := Program SystemCall SystemAnswer Failure Unit

/-- The API, and the reports that workflows have posted. -/
structure System (σ : Type) where
  api : Store σ
  posted : List WorkflowResult

/-- What a call of the system may be answered, and what it leaves. The node's requests to
the chain and the clock may be answered anything. -/
inductive System.Serves {σ : Type} (adapter : ContractAdapter σ) (system : System σ) :
    Program.Exchange SystemCall SystemAnswer → System σ → Prop where
  | api {request : ApiCall} {reply : ApiReply request} {api : Store σ}
      (served : Verification.Serves adapter system.api ⟨request, reply⟩ api) :
      Serves adapter system ⟨.api request, reply⟩ { system with api }
  | profileThere {walletAddress : String} {profile : WalletProfile}
      (there : system.api.db.profiles walletAddress = some profile) :
      Serves adapter system ⟨.setupProfile walletAddress, profile⟩ system
  | profileCreated {walletAddress : String} (absent : system.api.db.profiles walletAddress = none) :
      Serves adapter system ⟨.setupProfile walletAddress, { passportStatus := .NONE }⟩
        { system with api := { system.api with
            db := system.api.db.setProfile walletAddress { passportStatus := .NONE } } }
  | passport {walletAddress : String} {row : Option PassportRow}
      (finds : system.api.db.FindsPassport walletAddress row) :
      Serves adapter system ⟨.findPassport walletAddress, row⟩ system
  | fetched {verificationId : String} {result : CREVerificationResult} {api : Store σ}
      (handled : (getVerificationResult verificationId).Completes (Answers adapter) system.api result api) :
      Serves adapter system ⟨.node (.fetchVerificationResult verificationId), result⟩ { system with api }
  | posted (result : WorkflowResult) :
      Serves adapter system ⟨.node (.sendWorkflowResult result), ()⟩
        { system with posted := result :: system.posted }
  | now (nowSeconds : ℤ) : Serves adapter system ⟨.node .nowSeconds, nowSeconds⟩ system
  | random (digits : List.Vector (Fin 16) 64) : Serves adapter system ⟨.node .randomDigits, digits⟩ system
  | claimWritten (params : SubmitClaimParams) (hash : Bytes32) :
      Serves adapter system ⟨.node (.writeClaim params), hash⟩ system
  | syncSimulated (walletAddress : String) (result : ℕ × ℕ) :
      Serves adapter system ⟨.node (.simulateSync walletAddress), result⟩ system
  | syncWritten (walletAddress : String) (hash : Bytes32) :
      Serves adapter system ⟨.node (.writeSync walletAddress), hash⟩ system
  | summaryRead (walletAddress : String) (summary : AccessSummary) :
      Serves adapter system ⟨.node (.readAccessSummary walletAddress), summary⟩ system

inductive Request where
  /-- `POST /verification/start` -/
  | start (rawAddress claimType : String)
  /-- `POST /verification/submit-document` -/
  | submitDocument (rawAddress claimType : String)
  /-- `POST /webhooks/ai-attester` -/
  | aiAttesterWebhook (now : Date) (secret verificationId : Option String) (body : WebhookBody)
  /-- `POST /verification/:verificationId/mock-ai-result` -/
  | mockAiResult (now : Date) (verificationId : String) (approved : Option Bool)
  /-- `POST /verification/:verificationId/sync-onchain` -/
  | syncOnchain (verificationId : String)
  /-- `POST /cre/workflow-result` -/
  | workflowResult (body : CREWorkflowResult)
  /-- `POST /wallets/privy/setup` -/
  | setupPrivyWallet (rawAddress : String)
  /-- `GET /wallets/:walletAddress/policy` -/
  | getPolicy (rawAddress : String)
  /-- `PATCH /wallets/:walletAddress/policy/transfer-limit` -/
  | updateTransferLimit (rawAddress : String) (dailyLimitUsd : ℚ)
  /-- `POST /wallets/:walletAddress/transfer-intent` -/
  | transferIntent (now : Date) (rawAddress : String) (amountUsd : Double)
  /-- `GET /access/check` -/
  | checkAccess (rawAddress : String) (resourceId : Option String)
  /-- `GET /passport/:walletAddress` -/
  | getPassport (rawAddress : String)
  /-- The node's `POST /trigger`, and its command line. -/
  | trigger (verificationId : String)

/-- What the system is set up with. -/
structure Settings where
  lib : DemoLibrary
  /-- Empty when none is configured. -/
  webhookSecret : String
  /-- The node's `DEMO_MODE`. -/
  DEMO_MODE : Bool

section Programs
variable (settings : Settings)

/-- A handler of the API. -/
def handler {α : Type} (program : ApiHandler α) : Program SystemCall SystemAnswer HttpError α :=
  program.through .api fun _ reply => reply

/-- A route that takes the wallet from its path. -/
def ofWallet {α : Type} (rawAddress : String) (route : String → ApiHandler α) : ApiHandler α := do
  let walletAddress ← Program.ofExcept (normalizeAddress settings.lib.toLibrary rawAddress)
  route walletAddress

def setupPrivyWallet (rawAddress : String) : Program SystemCall SystemAnswer HttpError PolicyView := do
  let walletAddress ← Program.ofExcept (normalizeAddress settings.lib.toLibrary rawAddress)
  let _ ← Program.perform (.setupProfile walletAddress)
  handler (ensurePolicy walletAddress)
  handler (getPolicy walletAddress)

def getPassportState (rawAddress : String) : Program SystemCall SystemAnswer HttpError PassportState := do
  let walletAddress ← Program.ofExcept (normalizeAddress settings.lib.toLibrary rawAddress)
  let row ← Program.perform (.findPassport walletAddress)
  return passportState walletAddress row

variable [Crypto Bytes32]

def Request.program : Request → SystemProgram
  | .start rawAddress claimType =>
    (handler (Api (startVerification settings.lib.toLibrary rawAddress claimType))).ignoring .http
  | .submitDocument rawAddress claimType =>
    (handler (Api (startWithDocument settings.lib.toLibrary rawAddress claimType))).ignoring .http
  | .aiAttesterWebhook now secret verificationId body =>
    (handler (Api (Verification.aiAttesterWebhook settings.lib.toLibrary settings.webhookSecret now secret
      verificationId body))).ignoring .http
  | .mockAiResult now verificationId approved =>
    (handler (injectMockAiResult settings.lib now verificationId (approved.getD true))).ignoring .http
  | .syncOnchain verificationId => (handler (Verification.syncOnchain settings.lib verificationId)).ignoring .http
  | .workflowResult body => (handler (Api (receiveWorkflowResult settings.lib.toLibrary body))).ignoring .http
  | .setupPrivyWallet rawAddress => (Verification.setupPrivyWallet settings rawAddress).ignoring .http
  | .getPolicy rawAddress => (handler (ofWallet settings rawAddress Verification.getPolicy)).ignoring .http
  | .updateTransferLimit rawAddress dailyLimitUsd =>
    (handler (ofWallet settings rawAddress (Verification.updateTransferLimit · dailyLimitUsd))).ignoring .http
  | .transferIntent now rawAddress amountUsd =>
    (handler (ofWallet settings rawAddress (checkTransferIntent now · amountUsd))).ignoring .http
  | .checkAccess rawAddress resourceId =>
    (handler (Api (Verification.checkAccess settings.lib.toLibrary rawAddress resourceId))).ignoring .http
  | .getPassport rawAddress => (getPassportState settings rawAddress).ignoring .http
  | .trigger verificationId =>
    ((runPassportCredsWorkflow settings.DEMO_MODE verificationId).through
      SystemCall.node fun _ answer => answer).ignoring .node

/-- A report comes from a workflow that has posted it. -/
def Request.Comes {σ : Type} (system : System σ) : Request → Prop
  | .workflowResult body => ∃ result ∈ system.posted, result.toCREWorkflowResult = body
  | _ => True

/-- The system, as a machine whose programs run side by side. -/
def verificationSystem {σ : Type} (adapter : ContractAdapter σ) :
    Machine (System σ) Request SystemCall SystemAnswer Failure Unit where
  Starts := fun system request => request.Comes system
  body := Request.program settings
  Serves := fun system _ exchange next => system.Serves adapter exchange next

end Programs

/-- As it is first put up: no rows, nothing under way. -/
def System.fresh {σ : Type} (prisma : Prisma) (contracts : σ) : System σ where
  api := ⟨prisma, ⟨fun _ => none, [], fun _ _ => none, fun _ => none, [], []⟩, [], contracts⟩
  posted := []

end PassportKit.Verification
