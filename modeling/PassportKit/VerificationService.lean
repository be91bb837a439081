import PassportKit.Interaction
import Mathlib.Data.Rat.Defs
import Mathlib.Logic.Function.Basic

/-! The verification flow of the API, over the tables of `schema.prisma`: a session is
started for a wallet and a claim type (`verification.service.ts`), the AI attester calls
back with a result, and the workflow node calls back when it has written it on chain
(`webhooks.service.ts`, `cre.controller.ts`). All three handlers share one claim row per
wallet and type. Each is written as a program of its database statements, since others
may run between any two of them. -/
namespace PassportKit.Verification
open Interaction

inductive ClaimType where
  | KYC_AML_VERIFIED
  | ACCREDITED_INVESTOR
  deriving DecidableEq, Repr

def ClaimType.text : ClaimType → String
  | .KYC_AML_VERIFIED => "KYC_AML_VERIFIED"
  | .ACCREDITED_INVESTOR => "ACCREDITED_INVESTOR"

def SUPPORTED_CLAIM_TYPES : List ClaimType := [.KYC_AML_VERIFIED, .ACCREDITED_INVESTOR]

inductive ClaimStatus where
  | UNVERIFIED
  | PENDING
  | PROCESSING
  | VERIFIED
  | FAILED
  | EXPIRED
  | REVOKED
  deriving DecidableEq, Repr

def ClaimStatus.text : ClaimStatus → String
  | .UNVERIFIED => "UNVERIFIED"
  | .PENDING => "PENDING"
  | .PROCESSING => "PROCESSING"
  | .VERIFIED => "VERIFIED"
  | .FAILED => "FAILED"
  | .EXPIRED => "EXPIRED"
  | .REVOKED => "REVOKED"

inductive PassportStatus where
  | NONE
  | IN_PROGRESS
  | LIMITED
  | GREEN
  | RED
  | REVOKED
  | EXPIRED
  deriving DecidableEq, Repr

inductive VerificationStatus where
  | PENDING
  | PROCESSING
  | COMPLETED
  | FAILED
  | CANCELLED
  deriving DecidableEq, Repr

inductive CREStatus where
  | NOT_STARTED
  | TRIGGERED
  | RUNNING
  | COMPLETED
  | FAILED
  deriving DecidableEq, Repr

inductive TransactionStatus where
  | PENDING
  | CONFIRMED
  | FAILED
  | SIMULATED
  deriving DecidableEq, Repr

inductive ContractName where
  | ClaimRegistry
  | CompliancePassport
  | AccessGate
  deriving DecidableEq, Repr

/-- Milliseconds since the epoch. -/
abbrev Date := ℤ

structure WalletProfile where
  passportStatus : PassportStatus
  passportTokenId : Option String := none
  passportTxHash : Option String := none
  deriving DecidableEq, Repr

structure WalletTransferPolicy where
  policyStatus : String
  dailyLimitUsd : ℚ
  deriving DecidableEq, Repr

structure ComplianceClaim where
  walletAddress : String
  claimType : ClaimType
  status : ClaimStatus := .UNVERIFIED
  approved : Bool := false
  confidence : Option ℚ := none
  reasonCode : Option String := none
  summary : Option String := none
  attestationId : Option String := none
  attestationHash : Option String := none
  verificationId : Option String := none
  transactionHash : Option String := none
  expiresAt : Option Date := none
  deriving DecidableEq, Repr

structure VerificationSession where
  id : String
  walletAddress : String
  claimType : ClaimType
  status : VerificationStatus := .PENDING
  creStatus : CREStatus := .NOT_STARTED
  approved : Option Bool := none
  confidence : Option ℚ := none
  reasonCode : Option String := none
  summary : Option String := none
  attestationId : Option String := none
  attestationHash : Option String := none
  expiresAt : Option Date := none
  inferenceId : Option String := none
  transactionHash : Option String := none
  deriving DecidableEq, Repr

structure AIAttesterWebhookEvent where
  verificationId : String
  walletAddress : String
  claimType : ClaimType
  approved : Bool
  confidence : ℚ
  reasonCode : Option String
  summary : Option String
  attestationId : Option String
  attestationHash : String
  deriving DecidableEq, Repr

structure TransactionRecord where
  walletAddress : String
  verificationId : Option String
  claimType : Option ClaimType
  contractName : ContractName
  action : String
  transactionHash : Option String
  status : TransactionStatus
  deriving DecidableEq, Repr

/-! ## What an update may set

A field that is `none` is left out of the update; a nullable column is set to `null`
by `some none`. -/

structure ClaimData where
  status : Option ClaimStatus := none
  approved : Option Bool := none
  confidence : Option ℚ := none
  reasonCode : Option (Option String) := none
  summary : Option (Option String) := none
  attestationId : Option (Option String) := none
  attestationHash : Option String := none
  verificationId : Option String := none
  transactionHash : Option (Option String) := none
  expiresAt : Option Date := none

def ComplianceClaim.write (claim : ComplianceClaim) (data : ClaimData) : ComplianceClaim :=
  { claim with
    status := data.status.getD claim.status
    approved := data.approved.getD claim.approved
    confidence := data.confidence.or claim.confidence
    reasonCode := data.reasonCode.getD claim.reasonCode
    summary := data.summary.getD claim.summary
    attestationId := data.attestationId.getD claim.attestationId
    attestationHash := data.attestationHash.or claim.attestationHash
    verificationId := data.verificationId.or claim.verificationId
    transactionHash := data.transactionHash.getD claim.transactionHash
    expiresAt := data.expiresAt.or claim.expiresAt }

structure SessionData where
  status : Option VerificationStatus := none
  creStatus : Option CREStatus := none
  approved : Option Bool := none
  confidence : Option ℚ := none
  reasonCode : Option (Option String) := none
  summary : Option (Option String) := none
  attestationId : Option (Option String) := none
  attestationHash : Option String := none
  expiresAt : Option Date := none
  inferenceId : Option String := none
  transactionHash : Option (Option String) := none

def VerificationSession.write (session : VerificationSession) (data : SessionData) :
    VerificationSession :=
  { session with
    status := data.status.getD session.status
    creStatus := data.creStatus.getD session.creStatus
    approved := data.approved.or session.approved
    confidence := data.confidence.or session.confidence
    reasonCode := data.reasonCode.getD session.reasonCode
    summary := data.summary.getD session.summary
    attestationId := data.attestationId.getD session.attestationId
    attestationHash := data.attestationHash.or session.attestationHash
    expiresAt := data.expiresAt.or session.expiresAt
    inferenceId := data.inferenceId.or session.inferenceId
    transactionHash := data.transactionHash.getD session.transactionHash }

structure ProfileData where
  passportStatus : PassportStatus
  passportTxHash : Option String
  passportTokenId : Option String

def WalletProfile.write (profile : WalletProfile) (data : ProfileData) : WalletProfile where
  passportStatus := data.passportStatus
  passportTxHash := data.passportTxHash
  passportTokenId := data.passportTokenId.or profile.passportTokenId

inductive Statement where
  | upsertProfile (walletAddress : String) (passportStatus : PassportStatus)
  | findProfile (walletAddress : String)
  | updateProfile (walletAddress : String) (data : ProfileData)
  | createSession (walletAddress : String) (claimType : ClaimType)
  | findSession (id : String)
  /-- `findFirst`, newest first. -/
  | findFirstSession (walletAddress : String) (claimType : ClaimType) (statuses : List VerificationStatus)
  | updateSession (id : String) (data : SessionData)
  /-- Both branches of the `upsert` set the same fields. -/
  | upsertClaim (walletAddress : String) (claimType : ClaimType) (data : ClaimData)
  | updateManyClaims (walletAddress : String) (claimType : ClaimType) (data : ClaimData)
  | findManyClaims (walletAddress : String)
  | findPolicy (walletAddress : String)
  | updatePolicy (walletAddress : String) (policyStatus : String)
  | upsertPolicy (walletAddress : String) (policy : WalletTransferPolicy)
  | createWebhookEvent (event : AIAttesterWebhookEvent)
  | createTransaction (record : TransactionRecord)
  /-- The log line of a webhook whose checks have passed. -/
  | log (session : VerificationSession) (approved : Bool)
  /-- `triggerWorkflow`, which logs what it cannot deliver. -/
  | triggerWorkflow (verificationId : String)
  | submitInference (verificationId walletAddress : String) (claimType : ClaimType)

/-- What a statement returns. -/
abbrev Reply : Statement → Type
  | .findProfile _ => Option WalletProfile
  | .createSession _ _ => String
  | .findSession _ => Option VerificationSession
  | .findFirstSession _ _ _ => Option VerificationSession
  | .findManyClaims _ => List ComplianceClaim
  | .findPolicy _ => Option WalletTransferPolicy
  | .submitInference _ _ _ => String
  | _ => Unit

structure Db where
  profiles : String → Option WalletProfile
  /-- Newest first. -/
  sessions : List VerificationSession
  claims : String → ClaimType → Option ComplianceClaim
  policies : String → Option WalletTransferPolicy
  events : List AIAttesterWebhookEvent
  transactions : List TransactionRecord

inductive PrismaError where
  /-- A unique value is taken. -/
  | P2002
  /-- The record a foreign key names is missing. -/
  | P2003
  /-- The record to update is missing. -/
  | P2025
  deriving DecidableEq, Repr

namespace Db

def session (db : Db) (id : String) : Option VerificationSession :=
  db.sessions.find? fun session => session.id = id

/-- The rows of a wallet. -/
def claimsOf (db : Db) (walletAddress : String) : List ComplianceClaim :=
  SUPPORTED_CLAIM_TYPES.filterMap (db.claims walletAddress)

def setProfile (db : Db) (walletAddress : String) (profile : WalletProfile) : Db :=
  { db with profiles := Function.update db.profiles walletAddress (some profile) }

def setClaim (db : Db) (walletAddress : String) (claimType : ClaimType) (claim : ComplianceClaim) : Db :=
  { db with
    claims := Function.update db.claims walletAddress
      (Function.update (db.claims walletAddress) claimType (some claim)) }

def setPolicy (db : Db) (walletAddress : String) (policy : WalletTransferPolicy) : Db :=
  { db with policies := Function.update db.policies walletAddress (some policy) }

/-- One statement, as the standard client has it run. The database takes a new
session's id, and the attester its inference id, from the outside: `fresh`. -/
def execute (db : Db) (fresh : String) :
    (statement : Statement) → Except PrismaError (Db × Reply statement)
  | .upsertProfile walletAddress passportStatus =>
    let profile := match db.profiles walletAddress with
      | some profile => { profile with passportStatus }
      | none => { passportStatus }
    .ok (db.setProfile walletAddress profile, ())
  | .findProfile walletAddress => .ok (db, db.profiles walletAddress)
  | .updateProfile walletAddress data =>
    match db.profiles walletAddress with
    | some profile => .ok (db.setProfile walletAddress (profile.write data), ())
    | none => .error .P2025
  | .createSession walletAddress claimType =>
    if (db.session fresh).isSome then .error .P2002
    else if (db.profiles walletAddress).isNone then .error .P2003
    else .ok ({ db with sessions := { id := fresh, walletAddress, claimType } :: db.sessions }, fresh)
  | .findSession id => .ok (db, db.session id)
  | .findFirstSession walletAddress claimType statuses =>
    .ok (db, db.sessions.find? fun session => session.walletAddress = walletAddress &&
      session.claimType = claimType && statuses.contains session.status)
  | .updateSession id data =>
    if (db.session id).isNone then .error .P2025
    else
      let sessions := db.sessions.map fun session => if session.id = id then session.write data else session
      .ok ({ db with sessions }, ())
  | .upsertClaim walletAddress claimType data =>
    match db.claims walletAddress claimType with
    | some claim => .ok (db.setClaim walletAddress claimType (claim.write data), ())
    | none =>
      if (db.profiles walletAddress).isNone then .error .P2003
      else
        let claim : ComplianceClaim := { walletAddress, claimType }
        .ok (db.setClaim walletAddress claimType (claim.write data), ())
  | .updateManyClaims walletAddress claimType data =>
    match db.claims walletAddress claimType with
    | some claim => .ok (db.setClaim walletAddress claimType (claim.write data), ())
    | none => .ok (db, ())
  | .findManyClaims walletAddress => .ok (db, db.claimsOf walletAddress)
  | .findPolicy walletAddress => .ok (db, db.policies walletAddress)
  | .updatePolicy walletAddress policyStatus =>
    match db.policies walletAddress with
    | some policy => .ok (db.setPolicy walletAddress { policy with policyStatus }, ())
    | none => .error .P2025
  | .upsertPolicy walletAddress policy =>
    if (db.policies walletAddress).isNone ∧ (db.profiles walletAddress).isNone then .error .P2003
    else .ok (db.setPolicy walletAddress policy, ())
  | .createWebhookEvent event =>
    if (db.session event.verificationId).isNone then .error .P2003
    else .ok ({ db with events := event :: db.events }, ())
  | .createTransaction record =>
    if (db.profiles record.walletAddress).isNone then .error .P2003
    else .ok ({ db with transactions := record :: db.transactions }, ())
  | .log _ _ => .ok (db, ())
  | .triggerWorkflow _ => .ok (db, ())
  | .submitInference _ _ _ => .ok (db, fresh)

theorem execute_updateProfile (db : Db) (fresh walletAddress : String) (data : ProfileData) :
    db.execute fresh (.updateProfile walletAddress data) =
      (db.profiles walletAddress).elim (.error .P2025) fun profile =>
        .ok (db.setProfile walletAddress (profile.write data), ()) := by
  rw [execute]
  cases db.profiles walletAddress <;> rfl

theorem execute_updatePolicy (db : Db) (fresh walletAddress policyStatus : String) :
    db.execute fresh (.updatePolicy walletAddress policyStatus) =
      (db.policies walletAddress).elim (.error .P2025) fun policy =>
        .ok (db.setPolicy walletAddress { policy with policyStatus }, ()) := by
  rw [execute]
  cases db.policies walletAddress <;> rfl

theorem execute_updateManyClaims (db : Db) (fresh walletAddress : String) (claimType : ClaimType) (data : ClaimData) :
    db.execute fresh (.updateManyClaims walletAddress claimType data) =
      .ok ((db.claims walletAddress claimType).elim db fun claim =>
        db.setClaim walletAddress claimType (claim.write data), ()) := by
  rw [execute]
  cases db.claims walletAddress claimType <;> rfl

theorem execute_upsertProfile (db : Db) (fresh walletAddress : String) (passportStatus : PassportStatus) :
    db.execute fresh (.upsertProfile walletAddress passportStatus) =
      .ok (db.setProfile walletAddress ((db.profiles walletAddress).elim { passportStatus } fun profile =>
        { profile with passportStatus }), ()) := by
  rw [execute]
  cases db.profiles walletAddress <;> rfl

theorem execute_upsertClaim (db : Db) (fresh walletAddress : String) (claimType : ClaimType) (data : ClaimData) :
    db.execute fresh (.upsertClaim walletAddress claimType data) =
      if (db.claims walletAddress claimType).isNone ∧ (db.profiles walletAddress).isNone then .error .P2003
      else .ok (db.setClaim walletAddress claimType
        (((db.claims walletAddress claimType).getD { walletAddress, claimType }).write data), ()) := by
  rw [execute]
  cases db.claims walletAddress claimType <;> simp

end Db

/-- Prisma's client on these tables and the attester's on its own, by their
documentation: a find changes nothing, an update needs its row and an `upsert` does not,
`create` respects the keys, and what is not of the database leaves it alone. -/
structure Prisma where
  execute : Db → String → (statement : Statement) → Except PrismaError (Db × Reply statement)
  findProfile (db : Db) (fresh walletAddress : String) :
    execute db fresh (.findProfile walletAddress) = .ok (db, db.profiles walletAddress)
  findSession (db : Db) (fresh id : String) : execute db fresh (.findSession id) = .ok (db, db.session id)
  findFirstSession (db : Db) (fresh walletAddress : String) (claimType : ClaimType)
    (statuses : List VerificationStatus) :
    execute db fresh (.findFirstSession walletAddress claimType statuses) =
      .ok (db, db.sessions.find? fun session => session.walletAddress = walletAddress &&
        session.claimType = claimType && statuses.contains session.status)
  findManyClaims (db : Db) (fresh walletAddress : String) :
    execute db fresh (.findManyClaims walletAddress) = .ok (db, db.claimsOf walletAddress)
  findPolicy (db : Db) (fresh walletAddress : String) :
    execute db fresh (.findPolicy walletAddress) = .ok (db, db.policies walletAddress)
  updateProfile (db : Db) (fresh walletAddress : String) (data : ProfileData) :
    execute db fresh (.updateProfile walletAddress data) =
      (db.profiles walletAddress).elim (.error .P2025) fun profile =>
        .ok (db.setProfile walletAddress (profile.write data), ())
  updatePolicy (db : Db) (fresh walletAddress policyStatus : String) :
    execute db fresh (.updatePolicy walletAddress policyStatus) =
      (db.policies walletAddress).elim (.error .P2025) fun policy =>
        .ok (db.setPolicy walletAddress { policy with policyStatus }, ())
  updateSession (db : Db) (fresh id : String) (data : SessionData) :
    execute db fresh (.updateSession id data) =
      if (db.session id).isNone then .error .P2025
      else .ok ({ db with
        sessions := db.sessions.map fun session => if session.id = id then session.write data else session }, ())
  updateManyClaims (db : Db) (fresh walletAddress : String) (claimType : ClaimType) (data : ClaimData) :
    execute db fresh (.updateManyClaims walletAddress claimType data) =
      .ok ((db.claims walletAddress claimType).elim db fun claim =>
        db.setClaim walletAddress claimType (claim.write data), ())
  upsertProfile (db : Db) (fresh walletAddress : String) (passportStatus : PassportStatus) :
    execute db fresh (.upsertProfile walletAddress passportStatus) =
      .ok (db.setProfile walletAddress ((db.profiles walletAddress).elim { passportStatus } fun profile =>
        { profile with passportStatus }), ())
  upsertPolicy (db : Db) (fresh walletAddress : String) (policy : WalletTransferPolicy) :
    execute db fresh (.upsertPolicy walletAddress policy) =
      if (db.policies walletAddress).isNone ∧ (db.profiles walletAddress).isNone then .error .P2003
      else .ok (db.setPolicy walletAddress policy, ())
  upsertClaim (db : Db) (fresh walletAddress : String) (claimType : ClaimType) (data : ClaimData) :
    execute db fresh (.upsertClaim walletAddress claimType data) =
      if (db.claims walletAddress claimType).isNone ∧ (db.profiles walletAddress).isNone then .error .P2003
      else .ok (db.setClaim walletAddress claimType
        (((db.claims walletAddress claimType).getD { walletAddress, claimType }).write data), ())
  createSession (db : Db) (fresh walletAddress : String) (claimType : ClaimType) :
    execute db fresh (.createSession walletAddress claimType) =
      if (db.session fresh).isSome then .error .P2002
      else if (db.profiles walletAddress).isNone then .error .P2003
      else .ok ({ db with sessions := { id := fresh, walletAddress, claimType } :: db.sessions }, fresh)
  createWebhookEvent (db : Db) (fresh : String) (event : AIAttesterWebhookEvent) :
    execute db fresh (.createWebhookEvent event) =
      if (db.session event.verificationId).isNone then .error .P2003
      else .ok ({ db with events := event :: db.events }, ())
  createTransaction (db : Db) (fresh : String) (record : TransactionRecord) :
    execute db fresh (.createTransaction record) =
      if (db.profiles record.walletAddress).isNone then .error .P2003
      else .ok ({ db with transactions := record :: db.transactions }, ())
  log (db : Db) (fresh : String) (session : VerificationSession) (approved : Bool) :
    execute db fresh (.log session approved) = .ok (db, ())
  triggerWorkflow (db : Db) (fresh verificationId : String) :
    execute db fresh (.triggerWorkflow verificationId) = .ok (db, ())
  submitInference (db : Db) (fresh verificationId walletAddress : String) (claimType : ClaimType) :
    execute db fresh (.submitInference verificationId walletAddress claimType) = .ok (db, fresh)

namespace Prisma

/-- A client that does what is written above, and nothing else. -/
def standard : Prisma where
  execute := Db.execute
  findProfile _ _ _ := rfl
  findSession _ _ _ := rfl
  findFirstSession _ _ _ _ _ := rfl
  findManyClaims _ _ _ := rfl
  findPolicy _ _ _ := rfl
  updateProfile := Db.execute_updateProfile
  updatePolicy := Db.execute_updatePolicy
  updateSession _ _ _ _ := rfl
  updateManyClaims := Db.execute_updateManyClaims
  upsertProfile := Db.execute_upsertProfile
  upsertPolicy _ _ _ _ := rfl
  upsertClaim := Db.execute_upsertClaim
  createSession _ _ _ _ := rfl
  createWebhookEvent _ _ _ := rfl
  createTransaction _ _ _ := rfl
  log _ _ _ _ := rfl
  triggerWorkflow _ _ _ := rfl
  submitInference _ _ _ _ _ := rfl

/-- The documentation leaves nothing of a statement open. -/
theorem execute_eq (self : Prisma) (db : Db) (fresh : String) (statement : Statement) :
    self.execute db fresh statement = db.execute fresh statement := by
  cases statement with
  | findProfile walletAddress => exact self.findProfile ..
  | findSession id => exact self.findSession ..
  | findFirstSession walletAddress claimType statuses => exact self.findFirstSession ..
  | findManyClaims walletAddress => exact self.findManyClaims ..
  | findPolicy walletAddress => exact self.findPolicy ..
  | updateProfile walletAddress data => rw [self.updateProfile, Db.execute_updateProfile]
  | updatePolicy walletAddress policyStatus => rw [self.updatePolicy, Db.execute_updatePolicy]
  | updateSession id data => exact self.updateSession ..
  | updateManyClaims walletAddress claimType data => rw [self.updateManyClaims, Db.execute_updateManyClaims]
  | upsertProfile walletAddress passportStatus => rw [self.upsertProfile, Db.execute_upsertProfile]
  | upsertPolicy walletAddress policy => exact self.upsertPolicy ..
  | upsertClaim walletAddress claimType data => rw [self.upsertClaim, Db.execute_upsertClaim]
  | createSession walletAddress claimType => exact self.createSession ..
  | createWebhookEvent event => exact self.createWebhookEvent ..
  | createTransaction record => exact self.createTransaction ..
  | log session approved => exact self.log ..
  | triggerWorkflow verificationId => exact self.triggerWorkflow ..
  | submitInference verificationId walletAddress claimType => exact self.submitInference ..

end Prisma

inductive HttpError where
  | badRequest (message : String)
  | notFound (message : String)
  | unauthorized (message : String)
  deriving DecidableEq, Repr

/-- The fields of an attester result; absent or of another type is `none`. -/
structure AIAttesterWebhookPayload where
  verificationId : Option String := none
  walletAddress : Option String := none
  claimType : Option String := none
  approved : Option Bool := none
  confidence : Option ℚ := none
  reasonCode : Option String := none
  summary : Option String := none
  attestationId : Option String := none
  attestationHash : Option String := none
  expiresAt : Option String := none
  deriving DecidableEq, Repr

/-- What `buildAttestationHash` hashes. -/
structure AttestationInput where
  verificationId : String
  walletAddress : String
  claimType : ClaimType
  approved : Bool
  confidence : ℚ
  reasonCode : Option String
  deriving DecidableEq, Repr

/-- What the handlers use of viem, of Node's hashes and of the JavaScript library. -/
structure Library where
  /-- `getAddress`, where `isAddress` accepts the text. -/
  getAddress : String → Option String
  /-- `JSON.parse`, and the fields of what it returns. -/
  parseJson : String → Option AIAttesterWebhookPayload
  /-- `new Date(text)`, unless it is invalid. -/
  parseDate : String → Option Date
  /-- `setDate(getDate() + days)` -/
  addDays : Date → ℕ → Date
  buildAttestationHash : AttestationInput → String

def normalizeAddress (lib : Library) (raw : String) : Except HttpError String :=
  match lib.getAddress raw with
  | some address => .ok address
  | none => .error (.badRequest ("Invalid Ethereum address: " ++ raw))

def DEFAULT_CLAIM_EXPIRY_DAYS : ℕ := 365

def resolveExpiresAt (lib : Library) (now : Date) (expiresAtIso : Option String) : Date :=
  ((expiresAtIso.filter (· ≠ "")).bind lib.parseDate).getD (lib.addDays now DEFAULT_CLAIM_EXPIRY_DAYS)

def isPending (status : Option ClaimStatus) : Bool :=
  status = some .PENDING || status = some .PROCESSING

/-- Calculates the passport status from the current set of compliance claims. -/
def calculatePassportStatus (claims : List ComplianceClaim) : PassportStatus :=
  let kycAml := (claims.find? (·.claimType = .KYC_AML_VERIFIED)).map (·.status)
  let accredited := (claims.find? (·.claimType = .ACCREDITED_INVESTOR)).map (·.status)
  if kycAml = none ∧ accredited = none then .NONE
  else if isPending kycAml || isPending accredited then .IN_PROGRESS
  else if kycAml = some .FAILED ∨ kycAml = some .REVOKED then .RED
  else if kycAml = some .VERIFIED ∧ accredited = some .VERIFIED then .GREEN
  else if kycAml = some .VERIFIED then .LIMITED
  else .NONE

/-! ## `verification.service.ts` -/

/-- What the handlers return. -/
inductive Response where
  | started (verificationId walletAddress : String) (claimType : ClaimType) (status : String)
  | submitted (verificationId inferenceId : String) (claimType : ClaimType) (status : String)
  | received (verificationId : String) (claimType : ClaimType) (creTriggered : Bool)
  | completed (verificationId : String) (passportStatus : PassportStatus)
  deriving DecidableEq, Repr

abbrev Handler := Program Statement Reply HttpError Response

/-- One statement of a handler. -/
def perform (statement : Statement) : Program Statement Reply HttpError (Reply statement) :=
  Program.perform statement

def supportedClaimType (claimType : Option String) : Except HttpError ClaimType :=
  match SUPPORTED_CLAIM_TYPES.find? fun supported => claimType = some supported.text with
  | some supported => .ok supported
  | none => .error (.badRequest ("Unsupported claimType: " ++ claimType.getD "undefined"))

/-- The three writes both ways of starting begin with. -/
def openSession (walletAddress : String) (claimType : ClaimType) :
    Program Statement Reply HttpError String := do
  perform (.upsertProfile walletAddress .IN_PROGRESS)
  let id ← perform (.createSession walletAddress claimType)
  perform (.upsertClaim walletAddress claimType { status := some .PENDING, verificationId := some id })
  return id

def startVerification (lib : Library) (rawAddress claimType : String) : Handler := do
  let claimType ← Program.ofExcept (supportedClaimType (some claimType))
  let walletAddress ← Program.ofExcept (normalizeAddress lib rawAddress)
  let id ← openSession walletAddress claimType
  return .started id walletAddress claimType "PENDING"

def startWithDocument (lib : Library) (rawAddress claimType : String) : Handler := do
  let claimType ← Program.ofExcept (supportedClaimType (some claimType))
  let walletAddress ← Program.ofExcept (normalizeAddress lib rawAddress)
  let id ← openSession walletAddress claimType
  let inferenceId ← perform (.submitInference id walletAddress claimType)
  perform (.updateSession id { inferenceId := some inferenceId })
  return .submitted id inferenceId claimType "queued"

/-! ## `webhooks.service.ts` -/

/-- The body of a webhook: the fields of a bare payload, and the `output` beside them
or inside `input`. -/
structure WebhookBody where
  input : Option (Option String)
  output : Option String
  payload : AIAttesterWebhookPayload
  deriving DecidableEq, Repr

def validateSecret (webhookSecret : String) (secret : Option String) : Except HttpError Unit :=
  if webhookSecret ≠ "" ∧ secret ≠ some webhookSecret then
    .error (.unauthorized "Invalid webhook secret")
  else .ok ()

/-- The payload, out of its envelope. -/
def unwrap (lib : Library) (body : WebhookBody) : Except HttpError AIAttesterWebhookPayload :=
  match body.input.getD body.output with
  | none => .ok body.payload
  | some output =>
    match lib.parseJson output with
    | some parsed => .ok parsed
    | none => .error (.badRequest "Failed to parse Chainlink output field as JSON")

/-- The fields of a payload that must be there. -/
structure Verdict where
  claimType : ClaimType
  approved : Bool
  confidence : ℚ
  deriving DecidableEq, Repr

def readVerdict (rawPayload : AIAttesterWebhookPayload) : Except HttpError Verdict := do
  let claimType ← supportedClaimType rawPayload.claimType
  match rawPayload.approved, rawPayload.confidence with
  | none, _ => .error (.badRequest "approved must be boolean")
  | some _, none => .error (.badRequest "confidence must be number")
  | some approved, some confidence => .ok ⟨claimType, approved, confidence⟩

/-- By the id in the callback's address or in the payload, else by wallet and type. -/
def resolveSession (lib : Library) (rawPayload : AIAttesterWebhookPayload) (claimType : ClaimType)
    (verificationIdFromUrl : Option String) :
    Program Statement Reply HttpError VerificationSession := do
  match (verificationIdFromUrl.or rawPayload.verificationId).filter (· ≠ "") with
  | some resolvedVerificationId =>
    match ← perform (.findSession resolvedVerificationId) with
    | some session => return session
    | none => .fail (.notFound ("Verification session not found: " ++ resolvedVerificationId))
  | none =>
    match rawPayload.walletAddress.filter (· ≠ "") with
    | some raw =>
      let walletAddress ← Program.ofExcept (normalizeAddress lib raw)
      match ← perform (.findFirstSession walletAddress claimType [.PENDING, .PROCESSING]) with
      | some session => return session
      | none => .fail (.notFound ("No pending session found for walletAddress=" ++ raw ++
          " claimType=" ++ claimType.text))
    | none => .fail (.badRequest
        "Missing verificationId and walletAddress — cannot resolve verification session")

/-- A payload that names a wallet names the session's. -/
def checkWallet (lib : Library) (rawPayload : AIAttesterWebhookPayload) (session : VerificationSession) :
    Except HttpError Unit :=
  match rawPayload.walletAddress.filter (· ≠ "") with
  | some raw => do
    let walletAddress ← normalizeAddress lib raw
    if walletAddress ≠ session.walletAddress then
      .error (.badRequest "walletAddress does not match verification session")
  | none => .ok ()

/-- Whether the payload is about the session. -/
def checkSession (lib : Library) (rawPayload : AIAttesterWebhookPayload) (claimType : ClaimType)
    (session : VerificationSession) : Except HttpError Unit := do
  checkWallet lib rawPayload session
  if session.claimType ≠ claimType then
    .error (.badRequest "claimType does not match verification session")

/-- What follows the checks: the event, the session, the claim, the trigger. What the
last two throw is logged, and nothing comes after it. -/
def recordResult (lib : Library) (rawPayload : AIAttesterWebhookPayload) (verdict : Verdict)
    (expiresAt : Date) (session : VerificationSession) : Handler := do
  let ⟨claimType, approved, confidence⟩ := verdict
  let verificationId := session.id
  let walletAddress := session.walletAddress
  perform (.log session approved)
  let reasonCode := rawPayload.reasonCode
  let summary := rawPayload.summary
  let attestationId := rawPayload.attestationId
  let attestationHash := rawPayload.attestationHash.getD (lib.buildAttestationHash
    { verificationId, walletAddress, claimType, approved, confidence, reasonCode })
  perform (.createWebhookEvent ⟨verificationId, walletAddress, claimType, approved, confidence,
    reasonCode, summary, attestationId, attestationHash⟩)
  perform (.updateSession verificationId {
    status := some .PROCESSING
    creStatus := some .NOT_STARTED
    approved := some approved
    confidence := some confidence
    reasonCode := some reasonCode
    summary := some summary
    attestationId := some attestationId
    attestationHash := some attestationHash
    expiresAt := some expiresAt })
  perform (.upsertClaim walletAddress claimType {
    status := some .PROCESSING
    approved := some approved
    confidence := some confidence
    reasonCode := some reasonCode
    summary := some summary
    attestationId := some attestationId
    attestationHash := some attestationHash
    verificationId := some verificationId
    expiresAt := some expiresAt })
  perform (.triggerWorkflow verificationId)
  perform (.updateSession verificationId { creStatus := some .TRIGGERED })
  return .received verificationId claimType true

def handleAiAttesterWebhook (lib : Library) (now : Date) (body : WebhookBody)
    (verificationIdFromUrl : Option String) : Handler := do
  let rawPayload ← Program.ofExcept (unwrap lib body)
  let verdict ← Program.ofExcept (readVerdict rawPayload)
  let expiresAt := resolveExpiresAt lib now rawPayload.expiresAt
  let session ← resolveSession lib rawPayload verdict.claimType verificationIdFromUrl
  Program.ofExcept (checkSession lib rawPayload verdict.claimType session)
  recordResult lib rawPayload verdict expiresAt session

/-- `POST /webhooks/ai-attester` -/
def aiAttesterWebhook (lib : Library) (webhookSecret : String) (now : Date) (secret : Option String)
    (verificationId : Option String) (body : WebhookBody) : Handler := do
  Program.ofExcept (validateSecret webhookSecret secret)
  handleAiAttesterWebhook lib now body verificationId

structure CREWorkflowResult where
  verificationId : String
  walletAddress : String
  claimType : ClaimType
  approved : Bool
  claimRegistryTxHash : Option String := none
  passportTxHash : Option String := none
  deriving DecidableEq, Repr

/-- `/^0x[a-fA-F0-9]{64}$/` -/
def isRealTx (hash : Option String) : Bool :=
  match (hash.getD "").toList with
  | '0' :: 'x' :: digits => digits.length = 64 && digits.all fun c =>
      c.isDigit || 'a' ≤ c && c ≤ 'f' || 'A' ≤ c && c ≤ 'F'
  | _ => false

def NO_KYC_DAILY_50 : String := "NO_KYC_DAILY_50"
def KYC_USER_CONFIGURABLE : String := "KYC_USER_CONFIGURABLE"
def BLOCKED : String := "BLOCKED"

def upgradeAfterKyc (walletAddress : String) : Program Statement Reply HttpError Unit := do
  match ← perform (.findPolicy walletAddress) with
  | some policy =>
    if policy.policyStatus = NO_KYC_DAILY_50 then
      perform (.updatePolicy walletAddress KYC_USER_CONFIGURABLE)
    else return ()
  | none => return ()

def blockWallet (walletAddress : String) : Program Statement Reply HttpError Unit :=
  perform (.upsertPolicy walletAddress ⟨BLOCKED, 0⟩)

/-- The transfer policy that goes with a new passport status. -/
def updateTransferPolicy (walletAddress : String) (claimType : ClaimType) (approved : Bool)
    (recalculated : PassportStatus) : Program Statement Reply HttpError Unit := do
  let upgrade := claimType = .KYC_AML_VERIFIED ∧ approved ∧ recalculated ≠ .RED
  let block := recalculated = .RED ∨ recalculated = .REVOKED
  (if upgrade then upgradeAfterKyc walletAddress else return ())
  (if block then blockWallet walletAddress else return ())

def saveSync (walletAddress : String) (body : CREWorkflowResult) (txStatus : TransactionStatus) :
    Program Statement Reply HttpError Unit :=
  match body.passportTxHash.filter (· ≠ "") with
  | some passportTxHash => perform (.createTransaction {
      walletAddress
      verificationId := some body.verificationId
      claimType := some body.claimType
      contractName := .CompliancePassport
      action := "syncPassport"
      transactionHash := some passportTxHash
      status := txStatus })
  | none => return ()

/-- `POST /cre/workflow-result` -/
def receiveWorkflowResult (lib : Library) (body : CREWorkflowResult) : Handler := do
  let walletAddress ← Program.ofExcept (normalizeAddress lib body.walletAddress)
  let ⟨verificationId, _, claimType, approved, claimRegistryTxHash, passportTxHash⟩ := body
  let claimStatus : ClaimStatus := if approved then .VERIFIED else .FAILED
  let txStatus : TransactionStatus := if isRealTx claimRegistryTxHash then .CONFIRMED else .SIMULATED
  perform (.updateManyClaims walletAddress claimType {
    status := some claimStatus
    transactionHash := some claimRegistryTxHash
    approved := some approved })
  perform (.createTransaction {
    walletAddress
    verificationId := some verificationId
    claimType := some claimType
    contractName := .ClaimRegistry
    action := claimType.text ++ " = " ++ claimStatus.text
    transactionHash := claimRegistryTxHash
    status := txStatus })
  saveSync walletAddress body txStatus
  let allClaims ← perform (.findManyClaims walletAddress)
  let recalculated := calculatePassportStatus allClaims
  let profile ← perform (.findProfile walletAddress)
  let minted := (profile.bind (·.passportTokenId)).filter (· ≠ "")
  let shouldSetTokenId := minted = none ∧ (recalculated = .LIMITED ∨ recalculated = .GREEN)
  perform (.updateProfile walletAddress {
    passportStatus := recalculated
    passportTxHash := passportTxHash.or claimRegistryTxHash
    passportTokenId := if shouldSetTokenId then some "1" else none })
  updateTransferPolicy walletAddress claimType approved recalculated
  perform (.updateSession verificationId {
    status := some .COMPLETED
    creStatus := some .COMPLETED
    transactionHash := some claimRegistryTxHash })
  return .completed verificationId recalculated

end PassportKit.Verification
