import PassportKit.DemoFallbacks
import PassportKit.TextEncoder

/-! The workflow node: `main.ts`, with `validation.ts`, `claims.ts`, `status.ts` and
`contracts-client.ts`. It fetches the verdict of a session, checks it, writes the claim
and the passport on chain, and posts what it has done to the API. In `DEMO_MODE` it
writes nothing and makes up the hashes. Between any two of its calls it may crash. -/
namespace PassportKit.Verification
open Interaction Evm Eip712 Js

/-- A verification result as it arrives; a field that is absent, `null` or of another
type is `none`. -/
structure CREVerificationResult where
  verificationId : Option String
  walletAddress : Option String
  claimType : Option String
  approved : Option Bool
  claimStatus : Option String
  attestationHash : Option String
  expiresAt : Option ℤ
  deriving DecidableEq, Repr

def verificationResult (session : VerificationSession) : CREVerificationResult :=
  let claimStatus : ClaimStatus := if session.approved = some true then .VERIFIED else .FAILED
  { verificationId := some session.id
    walletAddress := some session.walletAddress
    claimType := some session.claimType.text
    approved := some (session.approved.getD false)
    claimStatus := some claimStatus.text
    attestationHash := session.attestationHash
    expiresAt := session.expiresAt.map dateToSeconds }

/-- `GET /cre/verification-result/:verificationId` -/
def getVerificationResult (verificationId : String) :
    Program Statement Reply HttpError CREVerificationResult := do
  match ← perform (.findSession verificationId) with
  | none => .fail (.notFound ("Verification not found: " ++ verificationId))
  | some session => return verificationResult session

/-- `text` is `0x` and this many hexadecimal digits, in either case. -/
def isHexText (width : ℕ) (text : String) : Bool :=
  match text.toList with
  | '0' :: 'x' :: digits => digits.length = width && digits.all fun c =>
      c.isDigit || 'a' ≤ c && c ≤ 'f' || 'A' ≤ c && c ≤ 'F'
  | _ => false

/-- A result whose fields have the types its checks establish. -/
structure ValidResult where
  verificationId : String
  walletAddress : String
  claimType : ClaimType
  approved : Bool
  attestationHash : String
  expiresAt : ℤ
  deriving DecidableEq, Repr

def required {α : Type} (field : Option α) (message : String) : Except String α :=
  field.elim (.error ("Validation failed: " ++ message)) .ok

def validateVerificationResult (nowSeconds : ℤ) (result : CREVerificationResult) : Except String ValidResult := do
  let verificationId ← required (result.verificationId.filter (· ≠ "")) "verificationId is missing"
  let walletAddress ← required (result.walletAddress.filter (isHexText 40))
    ("invalid walletAddress \"" ++ result.walletAddress.getD "undefined" ++ "\"")
  let claimType ← required (SUPPORTED_CLAIM_TYPES.find? fun supported => result.claimType = some supported.text)
    ("unsupported claimType \"" ++ result.claimType.getD "undefined" ++ "\"")
  let approved ← required result.approved "approved must be a boolean"
  let attestationHash ← required (result.attestationHash.filter (· ≠ "")) "attestationHash is missing"
  let expiresAt ← required (result.expiresAt.filter (· ≠ 0)) "expiresAt is missing or not a number"
  let _ ← required (if expiresAt ≤ nowSeconds then none else some ())
    ("expiresAt " ++ toString expiresAt ++ " is in the past (now: " ++ toString nowSeconds ++ ")")
  let expectedStatus : ClaimStatus := if approved then .VERIFIED else .FAILED
  let _ ← required (if result.claimStatus ≠ some expectedStatus.text then none else some ())
    ("claimStatus \"" ++ result.claimStatus.getD "undefined" ++ "\" does not match approved=" ++
      toString approved ++ " (expected \"" ++ expectedStatus.text ++ "\")")
  return ⟨verificationId, walletAddress, claimType, approved, attestationHash, expiresAt⟩

/-- The code units of a text. -/
def units (text : String) : JsString := text.toList.flatMap utf16

/-- `toHex`, of bytes. -/
def bytesToHex (bytes : Bytes) : String :=
  "0x" ++ String.ofList (bytes.flatMap fun byte => Hex.digits 2 byte.toNat)

section Hashing
variable [Crypto Bytes32]

/-- `keccak256(toBytes(text))` -/
def hashUtf8 (text : String) : String := digestText (keccak256 (packed (utf8 (units text))))

def claimTypeToBytes32 (claimType : ClaimType) : String := hashUtf8 claimType.text

def hashVerificationId (verificationId : String) : String := hashUtf8 verificationId

/-- The node and the API call claim types the same on chain. -/
theorem claimTypeToBytes32_eq (claimType : ClaimType) : claimTypeToBytes32 claimType = CLAIM_TYPE_HASHES claimType := by
  cases claimType <;> rfl

end Hashing

/-- A text that is no hash is cut, or padded with NULs, to the 32 characters a
`bytes32` has room for. -/
def hashAttestationString (attestationHash : String) : String :=
  let characters := units attestationHash
  if "0x".toList <+: attestationHash.toList ∧ characters.length = 66 then attestationHash
  else bytesToHex (utf8 ((characters ++ List.replicate (32 - characters.length) 0).take 32))

def PASSPORT_STATUS_MAP : List PassportStatus :=
  [.NONE, .IN_PROGRESS, .LIMITED, .GREEN, .RED, .REVOKED, .EXPIRED]

def onchainStatusToString (statusIndex : ℕ) : PassportStatus := PASSPORT_STATUS_MAP[statusIndex]?.getD .NONE

structure AccessSummary where
  canAccessDealRoom : Bool
  canAccessInvestorArea : Bool
  canInvest : Bool
  passportStatus : PassportStatus
  deriving DecidableEq, Repr

/-- What the node posts, with the fields the API does not read. -/
structure WorkflowResult extends CREWorkflowResult where
  success : Bool
  passportStatus : PassportStatus
  accessSummary : Bool × Bool × Bool
  deriving DecidableEq, Repr

inductive NodeCall where
  | fetchVerificationResult (verificationId : String)
  /-- `Math.floor(Date.now() / 1000)` -/
  | nowSeconds
  /-- `Math.floor(Math.random() * 16)`, 64 times. -/
  | randomDigits
  /-- A write, and its receipt. -/
  | writeClaim (params : SubmitClaimParams)
  | simulateSync (walletAddress : String)
  | writeSync (walletAddress : String)
  | readAccessSummary (walletAddress : String)
  | sendWorkflowResult (result : WorkflowResult)

abbrev NodeAnswer : NodeCall → Type
  | .fetchVerificationResult _ => CREVerificationResult
  | .nowSeconds => ℤ
  | .randomDigits => List.Vector (Fin 16) 64
  | .writeClaim _ => Bytes32
  | .simulateSync _ => ℕ × ℕ
  | .writeSync _ => Bytes32
  | .readAccessSummary _ => AccessSummary
  | .sendWorkflowResult _ => Unit

abbrev Workflow := Program NodeCall NodeAnswer String

def node (request : NodeCall) : Workflow (NodeAnswer request) := Program.perform request

/-! ## `contracts-client.ts` -/

def mockTxHash : Workflow String := do
  let digits ← node .randomDigits
  return "0x" ++ String.ofList (digits.toList.map fun digit => Nat.digitChar digit.val)

section Client
variable (DEMO_MODE : Bool)

structure ClaimTx where
  transactionHash : String
  simulated : Bool
  deriving DecidableEq, Repr

def submitClaim (params : SubmitClaimParams) : Workflow ClaimTx :=
  if DEMO_MODE then do
    let transactionHash ← mockTxHash
    return { transactionHash, simulated := true }
  else do
    let hash ← node (.writeClaim params)
    return { transactionHash := digestText hash, simulated := false }

structure PassportTx where
  transactionHash : String
  tokenId : String
  passportStatus : PassportStatus
  simulated : Bool
  deriving DecidableEq, Repr

def syncPassport (walletAddress : String) : Workflow PassportTx :=
  if DEMO_MODE then do
    let transactionHash ← mockTxHash
    return { transactionHash, tokenId := "1", passportStatus := .LIMITED, simulated := true }
  else do
    let (tokenId, status) ← node (.simulateSync walletAddress)
    let hash ← node (.writeSync walletAddress)
    return {
      transactionHash := digestText hash
      tokenId := toString tokenId
      passportStatus := onchainStatusToString status
      simulated := false }

def getAccessSummary (walletAddress : String) : Workflow AccessSummary :=
  if DEMO_MODE then
    return { canAccessDealRoom := false, canAccessInvestorArea := false, canInvest := false, passportStatus := .NONE }
  else node (.readAccessSummary walletAddress)

variable [Crypto Bytes32]

def claimParams (result : ValidResult) : SubmitClaimParams where
  walletAddress := result.walletAddress
  claimTypeHash := claimTypeToBytes32 result.claimType
  approved := result.approved
  verificationIdHash := hashVerificationId result.verificationId
  attestationHash := hashAttestationString result.attestationHash
  expiresAt := result.expiresAt

def workflowResult (result : ValidResult) (claimTx : ClaimTx) (passportTx : PassportTx)
    (accessSummary : AccessSummary) : WorkflowResult where
  success := true
  verificationId := result.verificationId
  walletAddress := result.walletAddress
  claimType := result.claimType
  approved := result.approved
  claimRegistryTxHash := some claimTx.transactionHash
  passportTxHash := some passportTx.transactionHash
  passportStatus := passportTx.passportStatus
  accessSummary := (accessSummary.canAccessDealRoom, accessSummary.canAccessInvestorArea, accessSummary.canInvest)

/-- The writes, and the report of them. -/
def settleOnchain (result : ValidResult) : Workflow WorkflowResult := do
  let claimTx ← submitClaim DEMO_MODE (claimParams result)
  let passportTx ← syncPassport DEMO_MODE result.walletAddress
  let accessSummary ← getAccessSummary DEMO_MODE result.walletAddress
  let report := workflowResult result claimTx passportTx accessSummary
  node (.sendWorkflowResult report)
  return report

def runPassportCredsWorkflow (verificationId : String) : Workflow WorkflowResult :=
  if verificationId = "" then .fail "Missing verificationId"
  else do
    let result ← node (.fetchVerificationResult verificationId)
    let nowSeconds ← node .nowSeconds
    let valid ← Program.ofExcept (validateVerificationResult nowSeconds result)
    settleOnchain DEMO_MODE valid

end Client

/-! ## What the checks let through -/

theorem required_ok {α : Type} {field : Option α} {message : String} {value : α} :
    required field message = .ok value ↔ field = some value := by
  cases field <;> simp [required]

theorem bind_ok {ε α β : Type} {first : Except ε α} {rest : α → Except ε β} {result : β} :
    (first >>= rest) = .ok result ↔ ∃ value, first = .ok value ∧ rest value = .ok result := by
  cases first with
  | ok value =>
    constructor
    · exact fun done => ⟨value, rfl, done⟩
    · rintro ⟨_, ⟨⟩, done⟩
      exact done
  | error error =>
    constructor
    · exact nofun
    · rintro ⟨_, ⟨⟩, -⟩

/-- A session whose verdict passes the node's checks: it has an attestation, and its
expiry is ahead. -/
structure ValidFor (nowSeconds : ℤ) (session : VerificationSession) (valid : ValidResult) : Prop where
  verificationId : valid.verificationId = session.id
  walletAddress : valid.walletAddress = session.walletAddress
  claimType : valid.claimType = session.claimType
  approved : valid.approved = session.approved.getD false
  attestationHash : session.attestationHash = some valid.attestationHash
  attested : valid.attestationHash ≠ ""
  expiresAt : session.expiresAt.map dateToSeconds = some valid.expiresAt
  unexpired : nowSeconds < valid.expiresAt

theorem supported_text {claimType supported : ClaimType}
    (found : (SUPPORTED_CLAIM_TYPES.find? fun other => some claimType.text = some other.text) = some supported) :
    supported = claimType := by
  revert found
  cases claimType <;> cases supported <;> decide

theorem validate_verificationResult {nowSeconds : ℤ} {session : VerificationSession} {valid : ValidResult}
    (passes : validateVerificationResult nowSeconds (verificationResult session) = .ok valid) :
    ValidFor nowSeconds session valid := by
  obtain ⟨verificationId, named, passes⟩ := bind_ok.mp passes
  obtain ⟨walletAddress, address, passes⟩ := bind_ok.mp passes
  obtain ⟨claimType, supported, passes⟩ := bind_ok.mp passes
  obtain ⟨approved, decided, passes⟩ := bind_ok.mp passes
  obtain ⟨attestationHash, attested, passes⟩ := bind_ok.mp passes
  obtain ⟨expiresAt, expires, passes⟩ := bind_ok.mp passes
  obtain ⟨_, ahead, passes⟩ := bind_ok.mp passes
  obtain ⟨_, -, passes⟩ := bind_ok.mp passes
  cases passes
  have ahead' := required_ok.mp ahead
  obtain ⟨there, present⟩ := Option.filter_eq_some_iff.mp (required_ok.mp attested)
  exact {
    verificationId := (Option.some.inj (Option.filter_eq_some_iff.mp (required_ok.mp named)).1).symm
    walletAddress := (Option.some.inj (Option.filter_eq_some_iff.mp (required_ok.mp address)).1).symm
    claimType := supported_text (required_ok.mp supported)
    approved := (Option.some.inj (required_ok.mp decided)).symm
    attestationHash := there
    attested := by simpa using present
    expiresAt := (Option.filter_eq_some_iff.mp (required_ok.mp expires)).1
    unexpired := by
      by_contra late
      rw [if_pos (not_lt.mp late)] at ahead'
      cases ahead' }

theorem isRealTx_hex {digits : List Char} (width : digits.length = 64)
    (each : ∀ digit ∈ digits, ∃ small < 16, Nat.digitChar small = digit) :
    isRealTx (some ("0x" ++ String.ofList digits)) = true := by
  have digit : ∀ small < 16, ((Nat.digitChar small).isDigit ||
      (decide ('a' ≤ Nat.digitChar small) && decide (Nat.digitChar small ≤ 'f')) ||
      (decide ('A' ≤ Nat.digitChar small) && decide (Nat.digitChar small ≤ 'F'))) = true := by decide
  have split : ("0x" ++ String.ofList digits).toList = '0' :: 'x' :: digits := by
    simp
  rw [isRealTx, Option.getD_some, split]
  simp only [width, decide_true, Bool.true_and, List.all_eq_true]
  intro c member
  obtain ⟨small, bound, rfl⟩ := each c member
  exact digit small bound

theorem isRealTx_digestText (digest : Bytes32) : isRealTx (some (digestText digest)) = true :=
  isRealTx_hex (Hex.length_digits 64 _) fun _ member => by
    obtain ⟨small, bound, same⟩ := Hex.mem_digits member
    exact ⟨small, bound, same.symm⟩

/-- A hash that `mockTxHash` makes up has the form of a real one. -/
theorem isRealTx_mockTxHash (digits : List.Vector (Fin 16) 64) :
    isRealTx (some ("0x" ++ String.ofList (digits.toList.map fun digit => Nat.digitChar digit.val))) = true := by
  refine isRealTx_hex (by simp) fun c member => ?_
  obtain ⟨digit, -, rfl⟩ := List.mem_map.mp member
  exact ⟨digit.val, digit.isLt, rfl⟩

end PassportKit.Verification
