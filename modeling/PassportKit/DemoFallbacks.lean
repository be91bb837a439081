import PassportKit.Eip712
import PassportKit.Hex
import PassportKit.WalletPolicy

/-! The fallbacks of the demo in `verification.service.ts`: a saved result in place of the
attester's, and the API writing on chain itself in place of the workflow node. In
`DEMO_MODE` the chain is a map in memory, `mock-contract-adapter.ts`. -/
namespace PassportKit.Verification
open Interaction Evm Eip712

def PassportStatus.text : PassportStatus → String
  | .NONE => "NONE"
  | .IN_PROGRESS => "IN_PROGRESS"
  | .LIMITED => "LIMITED"
  | .GREEN => "GREEN"
  | .RED => "RED"
  | .REVOKED => "REVOKED"
  | .EXPIRED => "EXPIRED"

/-- A digest, as viem writes it. -/
def digestText (digest : Bytes32) : String := "0x" ++ String.ofList (Hex.digits 64 digest.toNat)

def CLAIM_TYPE_HASHES [Crypto Bytes32] (claimType : ClaimType) : String :=
  digestText (keccak256 (packed (ascii claimType.text)))

/-- A result the demo has saved. -/
structure MockAiResult where
  approved : Bool
  confidence : ℚ
  reasonCode : String
  summary : String
  deriving DecidableEq, Repr

def MOCK_AI_RESULTS : ClaimType → Bool → MockAiResult
  | .KYC_AML_VERIFIED, true =>
    ⟨true, 0.95, "KYC_AND_AML_CLEAR", "The applicant passed identity verification and AML screening."⟩
  | .KYC_AML_VERIFIED, false =>
    ⟨false, 0.93, "AML_RISK_DETECTED",
      "The applicant did not pass KYC / AML requirements due to risk indicators."⟩
  | .ACCREDITED_INVESTOR, true =>
    ⟨true, 0.94, "ACCREDITATION_CONFIRMED",
      "The applicant meets the accredited investor criteria based on the provided evidence."⟩
  | .ACCREDITED_INVESTOR, false =>
    ⟨false, 0.90, "ACCREDITATION_NOT_CONFIRMED",
      "The provided evidence does not confirm accredited investor status."⟩

structure DemoLibrary extends Library where
  /-- `buildAttestationHash` of a saved result. -/
  hashMock : (verificationId walletAddress : String) → ClaimType → MockAiResult → String
  /-- `buildAttestationHash` where the session has none. -/
  hashOutcome : (verificationId walletAddress : String) → ClaimType → (approved : Bool) → String
  buildVerificationIdHash : String → String

def dateToSeconds (date : Date) : ℤ := date / 1000

structure Injected where
  verificationId : String
  claimType : ClaimType
  approved : Bool
  deriving DecidableEq, Repr

structure Synced where
  verificationId : String
  transactionHash : String
  deriving DecidableEq, Repr

/-- The webhook's writes, of a saved result. -/
def recordMock (lib : DemoLibrary) (now : Date) (verificationId : String) (session : VerificationSession)
    (mock : MockAiResult) : ApiHandler Injected := do
  let walletAddress := session.walletAddress
  let claimType := session.claimType
  let attestationHash := lib.hashMock verificationId walletAddress claimType mock
  let expiresAt := resolveExpiresAt lib.toLibrary now none
  ask (.statement (.updateSession verificationId {
    status := some .PROCESSING
    creStatus := some .NOT_STARTED
    approved := some mock.approved
    confidence := some mock.confidence
    reasonCode := some (some mock.reasonCode)
    summary := some (some mock.summary)
    attestationHash := some attestationHash
    expiresAt := some expiresAt }))
  ask (.statement (.upsertClaim walletAddress claimType {
    status := some .PROCESSING
    approved := some mock.approved
    confidence := some mock.confidence
    reasonCode := some (some mock.reasonCode)
    summary := some (some mock.summary)
    attestationHash := some attestationHash
    verificationId := some verificationId
    expiresAt := some expiresAt }))
  ask (.statement (.triggerWorkflow verificationId))
  ask (.statement (.updateSession verificationId { creStatus := some .TRIGGERED }))
  return ⟨verificationId, claimType, mock.approved⟩

def injectMockAiResult (lib : DemoLibrary) (now : Date) (verificationId : String) (approved : Bool) :
    ApiHandler Injected := do
  match ← ask (.statement (.findSession verificationId)) with
  | none => .fail (.notFound ("Verification session not found: " ++ verificationId))
  | some session => recordMock lib now verificationId session (MOCK_AI_RESULTS session.claimType approved)

/-- The claim on chain and in the database, then the passport on chain and in the database. -/
def writeOnchain [Crypto Bytes32] (lib : DemoLibrary) (verificationId : String) (session : VerificationSession) :
    ApiHandler Synced := do
  let walletAddress := session.walletAddress
  let claimType := session.claimType
  let approved := session.approved.getD false
  let attestationHash :=
    session.attestationHash.getD (lib.hashOutcome verificationId walletAddress claimType approved)
  let transactionHash ← ask (.submitClaim {
    walletAddress
    claimTypeHash := CLAIM_TYPE_HASHES claimType
    approved
    verificationIdHash := lib.buildVerificationIdHash verificationId
    attestationHash
    expiresAt := (session.expiresAt.map dateToSeconds).getD 0 })
  let claimStatus : ClaimStatus := if approved then .VERIFIED else .FAILED
  ask (.statement (.createTransaction {
    walletAddress
    verificationId := some verificationId
    claimType := some claimType
    contractName := .ClaimRegistry
    action := claimType.text ++ " = " ++ claimStatus.text
    transactionHash := some transactionHash
    status := .CONFIRMED }))
  ask (.upsertClaim walletAddress claimType
    { status := some claimStatus
      approved := some approved
      verificationId := some verificationId
      transactionHash := some (some transactionHash)
      attestationHash := some attestationHash }
    { status := some claimStatus
      approved := some approved
      transactionHash := some (some transactionHash)
      attestationHash := some attestationHash })
  let passport ← ask (.syncPassport walletAddress)
  ask (.statement (.createTransaction {
    walletAddress
    verificationId := some verificationId
    claimType := none
    contractName := .CompliancePassport
    action := "Passport status updated to " ++ passport.status.text
    transactionHash := some passport.transactionHash
    status := .CONFIRMED }))
  ask (.statement (.updateProfile walletAddress {
    passportStatus := passport.status
    passportTokenId := some (toString passport.tokenId)
    passportTxHash := some passport.transactionHash }))
  ask (.statement (.updateSession verificationId {
    status := some .COMPLETED
    creStatus := some .COMPLETED
    transactionHash := some (some transactionHash) }))
  return ⟨verificationId, transactionHash⟩

def syncOnchain [Crypto Bytes32] (lib : DemoLibrary) (verificationId : String) : ApiHandler Synced := do
  match ← ask (.statement (.findSession verificationId)) with
  | none => .fail (.notFound ("Verification not found: " ++ verificationId))
  | some session =>
    if session.status = .PENDING then
      .fail (.badRequest "AI Attester result not yet received for this verification")
    else writeOnchain lib verificationId session

structure MockClaim where
  approved : Bool
  claimTypeHash : String
  deriving DecidableEq, Repr

structure MockPassport where
  tokenId : ℕ
  status : PassportStatus
  deriving DecidableEq, Repr

structure MockContracts where
  claims : String → List MockClaim
  passports : String → Option MockPassport
  tokenIdCounter : ℕ

namespace MockContracts

/-- As the API starts. -/
def fresh : MockContracts := ⟨fun _ => [], fun _ => none, 1⟩

def submitClaim (self : MockContracts) (params : SubmitClaimParams) : MockContracts :=
  { self with
    claims := Function.update self.claims params.walletAddress
      (self.claims params.walletAddress ++ [⟨params.approved, params.claimTypeHash⟩]) }

/-- `text.includes(part)` -/
def includes (text part : String) : Bool := part.toList <:+: text.toList

def computeMockStatus (self : MockContracts) (walletAddress : String) : PassportStatus :=
  let claims := self.claims walletAddress
  let kyc := claims.find? fun claim => includes claim.claimTypeHash "KYC"
  let acc := claims.find? fun claim => includes claim.claimTypeHash "ACC"
  match kyc with
  | none => .NONE
  | some kyc =>
    if kyc.approved = false then .RED
    else if acc.map (·.approved) = some true then .GREEN
    else .LIMITED

def syncPassport (self : MockContracts) (walletAddress : String) : ℕ × PassportStatus × MockContracts :=
  let status := self.computeMockStatus walletAddress
  match self.passports walletAddress with
  | some passport =>
    (passport.tokenId, status,
      { self with passports := Function.update self.passports walletAddress (some ⟨passport.tokenId, status⟩) })
  | none =>
    (self.tokenIdCounter, status,
      { self with
        passports := Function.update self.passports walletAddress (some ⟨self.tokenIdCounter, status⟩)
        tokenIdCounter := self.tokenIdCounter + 1 })

end MockContracts

/-- `Date.now().toString(16)` -/
def stamp (now : ℕ) : String := String.ofList (Nat.toDigits 16 now)

def MockContractAdapter : ContractAdapter MockContracts where
  submitClaim := fun self params transactionHash next =>
    next = self.submitClaim params ∧ ∃ now, transactionHash = "0xMOCK_CLAIM_" ++ stamp now
  syncPassport := fun self walletAddress result next =>
    (result.tokenId, result.status, next) = self.syncPassport walletAddress ∧
      ∃ now, result.transactionHash = "0xMOCK_PASSPORT_" ++ stamp now

end PassportKit.Verification
