import PassportKit.JsNumber
import PassportKit.VerificationService

/-! `wallet-policy.service.ts`, and the paths of the verification service that go
around the workflow node. They are programs over more of the database, and over the
contract adapter, than the callbacks are. -/
namespace PassportKit.Verification
open Interaction Js

/-- One answer to a transfer intent. -/
structure WalletTransferPolicyDecision where
  walletAddress : String
  allowed : Bool
  reason : JsString
  requestedAmountUsd : Double
  dailySpentUsd : WithTop ℚ
  dailyLimitUsd : ℚ
  policyStatus : String
  createdAt : Date

structure SubmitClaimParams where
  walletAddress : String
  claimTypeHash : String
  approved : Bool
  verificationIdHash : String
  attestationHash : String
  expiresAt : ℤ
  deriving DecidableEq, Repr

structure SyncPassportResult where
  transactionHash : String
  tokenId : ℕ
  status : PassportStatus
  deriving DecidableEq, Repr

/-- What a handler of the API asks for: a statement of the callbacks, or one of these. -/
inductive ApiCall where
  | statement (statement : Statement)
  /-- An `upsert` of the policy whose update sets nothing. -/
  | ensurePolicy (walletAddress : String)
  | updateLimit (walletAddress : String) (dailyLimitUsd : ℚ)
  | findFirstClaim (walletAddress : String) (claimType : ClaimType) (status : ClaimStatus)
  | findDecisions (walletAddress : String) (since : Date)
  /-- The database sets `createdAt`. -/
  | createDecision (decision : Date → WalletTransferPolicyDecision)
  /-- An `upsert` whose branches set different fields. -/
  | upsertClaim (walletAddress : String) (claimType : ClaimType) (create update : ClaimData)
  | submitClaim (params : SubmitClaimParams)
  | syncPassport (walletAddress : String)

/-- How the `upsert` of a policy ends, when it ends well enough: a concurrent one may
have taken the wallet first. -/
inductive Upserted where
  | stored
  | P2002

abbrev ApiReply : ApiCall → Type
  | .statement statement => Reply statement
  | .ensurePolicy _ => Upserted
  | .findFirstClaim _ _ _ => Option ComplianceClaim
  | .findDecisions _ _ => List WalletTransferPolicyDecision
  | .submitClaim _ => String
  | .syncPassport _ => SyncPassportResult
  | _ => Unit

abbrev ApiHandler := Program ApiCall ApiReply HttpError

def ask (request : ApiCall) : ApiHandler (ApiReply request) := Program.perform request

/-- A handler of the callbacks. -/
def Api {α : Type} (handler : Program Statement Reply HttpError α) : ApiHandler α :=
  handler.through .statement fun _ reply => reply

/-- Who writes claims and passports on chain, or seems to. -/
structure ContractAdapter (σ : Type) where
  submitClaim : σ → SubmitClaimParams → String → σ → Prop
  syncPassport : σ → String → SyncPassportResult → σ → Prop

structure Store (σ : Type) where
  prisma : Prisma
  db : Db
  decisions : List WalletTransferPolicyDecision
  contracts : σ

def NO_KYC_CAP : ℚ := 50

/-- The rows `findMany` is asked for. -/
def Store.allowances {σ : Type} (store : Store σ) (walletAddress : String) (since : Date) :
    List WalletTransferPolicyDecision :=
  store.decisions.filter fun decision =>
    decision.walletAddress = walletAddress && decision.allowed && since ≤ decision.createdAt

/-- What a call may be answered, and what it leaves. A statement takes its fresh ids from
outside, and rows that are not ordered come in any order. -/
inductive Serves {σ : Type} (adapter : ContractAdapter σ) (store : Store σ) :
    Program.Exchange ApiCall ApiReply → Store σ → Prop where
  | statement {fresh : String} {statement : Statement} {db : Db} {reply : Reply statement}
      (done : store.prisma.execute store.db fresh statement = .ok (db, reply)) :
      Serves adapter store ⟨.statement statement, reply⟩ { store with db }
  | policyThere {walletAddress : String} {policy : WalletTransferPolicy}
      (there : store.db.policies walletAddress = some policy) (upserted : Upserted) :
      Serves adapter store ⟨.ensurePolicy walletAddress, upserted⟩ store
  | policyCreated {walletAddress : String} (absent : store.db.policies walletAddress = none)
      (profile : (store.db.profiles walletAddress).isSome = true) :
      Serves adapter store ⟨.ensurePolicy walletAddress, .stored⟩
        { store with db := store.db.setPolicy walletAddress ⟨NO_KYC_DAILY_50, NO_KYC_CAP⟩ }
  | limitUpdated {walletAddress : String} {policy : WalletTransferPolicy}
      (there : store.db.policies walletAddress = some policy) (dailyLimitUsd : ℚ) :
      Serves adapter store ⟨.updateLimit walletAddress dailyLimitUsd, ()⟩
        { store with db := store.db.setPolicy walletAddress { policy with dailyLimitUsd } }
  | firstClaim (walletAddress : String) (claimType : ClaimType) (status : ClaimStatus) :
      Serves adapter store ⟨.findFirstClaim walletAddress claimType status,
        (store.db.claims walletAddress claimType).filter (·.status = status)⟩ store
  | decisions (walletAddress : String) (since : Date) {rows : List WalletTransferPolicyDecision}
      (found : rows.Perm (store.allowances walletAddress since)) :
      Serves adapter store ⟨.findDecisions walletAddress since, rows⟩ store
  | decided (decision : Date → WalletTransferPolicyDecision) (createdAt : Date)
      (policy : (store.db.policies (decision createdAt).walletAddress).isSome = true) :
      Serves adapter store ⟨.createDecision decision, ()⟩
        { store with decisions := store.decisions ++ [decision createdAt] }
  | claimUpdated {walletAddress : String} {claimType : ClaimType} (create : ClaimData) {update : ClaimData}
      {claim : ComplianceClaim} (there : store.db.claims walletAddress claimType = some claim) :
      Serves adapter store ⟨.upsertClaim walletAddress claimType create update, ()⟩
        { store with db := store.db.setClaim walletAddress claimType (claim.write update) }
  | claimCreated {walletAddress : String} {claimType : ClaimType} {create : ClaimData} (update : ClaimData)
      (absent : store.db.claims walletAddress claimType = none)
      (profile : (store.db.profiles walletAddress).isSome = true) :
      Serves adapter store ⟨.upsertClaim walletAddress claimType create update, ()⟩
        { store with
          db := store.db.setClaim walletAddress claimType
            (({ walletAddress, claimType } : ComplianceClaim).write create) }
  | submitted {params : SubmitClaimParams} {transactionHash : String} {contracts : σ}
      (done : adapter.submitClaim store.contracts params transactionHash contracts) :
      Serves adapter store ⟨.submitClaim params, transactionHash⟩ { store with contracts }
  | synced {walletAddress : String} {result : SyncPassportResult} {contracts : σ}
      (done : adapter.syncPassport store.contracts walletAddress result contracts) :
      Serves adapter store ⟨.syncPassport walletAddress, result⟩ { store with contracts }

/-! ## `wallet-policy.service.ts` -/

/-- Another request may create the policy first. -/
def ensurePolicy (walletAddress : String) : ApiHandler Unit := do
  match ← ask (.ensurePolicy walletAddress) with
  | .stored => return ()
  | .P2002 => return ()

structure PolicyView where
  policyStatus : String
  dailyLimitUsd : ℚ
  canModifyLimit : Bool
  deriving DecidableEq, Repr

def viewOf (policy : WalletTransferPolicy) : PolicyView where
  policyStatus := policy.policyStatus
  dailyLimitUsd := policy.dailyLimitUsd
  canModifyLimit := policy.policyStatus = KYC_USER_CONFIGURABLE

/-- `policy!`: a missing policy would throw. -/
def policyPresent (policy : Option WalletTransferPolicy) : ApiHandler WalletTransferPolicy :=
  .ofExcept (policy.elim (.error (.notFound "")) .ok)

def upgradeStale (walletAddress : String) (policy : Option WalletTransferPolicy) :
    Option ComplianceClaim → ApiHandler (Option WalletTransferPolicy)
  | some _ => do
    ask (.statement (.updatePolicy walletAddress KYC_USER_CONFIGURABLE))
    ask (.statement (.findPolicy walletAddress))
  | none => return policy

/-- Policies of wallets that have their KYC already are upgraded as they are read. -/
def refresh (walletAddress : String) (policy : Option WalletTransferPolicy) :
    ApiHandler (Option WalletTransferPolicy) :=
  if policy.map (·.policyStatus) = some NO_KYC_DAILY_50 then do
    let kycClaim ← ask (.findFirstClaim walletAddress .KYC_AML_VERIFIED .VERIFIED)
    upgradeStale walletAddress policy kycClaim
  else return policy

def getPolicy (walletAddress : String) : ApiHandler PolicyView := do
  ensurePolicy walletAddress
  let found ← ask (.statement (.findPolicy walletAddress))
  let policy ← refresh walletAddress found
  let present ← policyPresent policy
  return viewOf present

def updateTransferLimit (walletAddress : String) (dailyLimitUsd : ℚ) : ApiHandler Unit := do
  let policy ← ask (.statement (.findPolicy walletAddress))
  if policy.map (·.policyStatus) ≠ some KYC_USER_CONFIGURABLE then
    .fail (.badRequest "Transfer limit can only be set after KYC/AML verification")
  else ask (.updateLimit walletAddress dailyLimitUsd)

/-- `setUTCHours(0, 0, 0, 0)` -/
def windowStart (now : Date) : Date := now - now % 86400000

/-- The amounts that were allowed today, added up in the order they came. -/
def totalOf (decisions : List WalletTransferPolicyDecision) : WithTop ℚ :=
  decisions.foldl (fun sum decision => plus sum decision.requestedAmountUsd.value) 0

def getDailySpent (now : Date) (walletAddress : String) : ApiHandler (WithTop ℚ) := do
  let decisions ← ask (.findDecisions walletAddress (windowStart now))
  return totalOf decisions

def logDecision (walletAddress : String) (allowed : Bool) (reason : JsString) (requestedAmountUsd : Double)
    (dailySpentUsd : WithTop ℚ) (policy : WalletTransferPolicy) : ApiHandler Unit :=
  ask (.createDecision fun createdAt => {
    walletAddress
    allowed
    reason
    requestedAmountUsd
    dailySpentUsd
    dailyLimitUsd := policy.dailyLimitUsd
    policyStatus := policy.policyStatus
    createdAt })

structure TransferDecision where
  allowed : Bool
  reason : JsString
  policyStatus : String
  dailyLimitUsd : ℚ

def effectiveLimit (policy : WalletTransferPolicy) : ℚ :=
  if policy.policyStatus = NO_KYC_DAILY_50 then NO_KYC_CAP else policy.dailyLimitUsd

def blockedReason : JsString := text "Wallet is blocked due to compliance status"

def exceedsReason (policy : WalletTransferPolicy) (dailySpent : WithTop ℚ) : JsString :=
  if policy.policyStatus = NO_KYC_DAILY_50 then
    text "No KYC/AML — daily limit is " ++ numberText NO_KYC_CAP ++
      text " USDC. Complete verification to increase your limit."
  else
    text "Daily limit of " ++ numberText (effectiveLimit policy) ++ text " USDC would be exceeded (" ++
      toFixed2 dailySpent ++ text " USDC spent today)"

/-- What a request makes of the total it read. -/
def compareWithLimit (walletAddress : String) (amountUsd : Double) (policy : WalletTransferPolicy)
    (dailySpent : WithTop ℚ) :
    ApiHandler TransferDecision :=
  if (effectiveLimit policy : WithTop ℚ) < plus dailySpent amountUsd.value then do
    logDecision walletAddress false (exceedsReason policy dailySpent) amountUsd dailySpent policy
    return ⟨false, exceedsReason policy dailySpent, policy.policyStatus, effectiveLimit policy⟩
  else do
    logDecision walletAddress true (text "Transfer approved") amountUsd dailySpent policy
    return ⟨true, text "Transfer approved", policy.policyStatus, effectiveLimit policy⟩

def checkAgainst (now : Date) (walletAddress : String) (amountUsd : Double) (policy : WalletTransferPolicy) :
    ApiHandler TransferDecision :=
  if policy.policyStatus = BLOCKED then do
    logDecision walletAddress false blockedReason amountUsd 0 policy
    return ⟨false, blockedReason, BLOCKED, 0⟩
  else do
    let dailySpent ← getDailySpent now walletAddress
    compareWithLimit walletAddress amountUsd policy dailySpent

def answerUnder (now : Date) (walletAddress : String) (amountUsd : Double) :
    Option WalletTransferPolicy → ApiHandler TransferDecision
  | none => return ⟨false, text "No transfer policy found", NO_KYC_DAILY_50, NO_KYC_CAP⟩
  | some policy => checkAgainst now walletAddress amountUsd policy

def checkTransferIntent (now : Date) (walletAddress : String) (amountUsd : Double) :
    ApiHandler TransferDecision := do
  ensurePolicy walletAddress
  let policy ← ask (.statement (.findPolicy walletAddress))
  answerUnder now walletAddress amountUsd policy

end PassportKit.Verification
