import PassportKit.VerificationOperations

/-! What the API tells a page about a wallet: the passport it shows
(`passport.service.ts`), and whether a resource is open to it (`access.controller.ts`).
Both recalculate the passport from the claim rows, and neither
reads the status the profile has stored. -/
namespace PassportKit.Verification
open Interaction

structure Access where
  canAccessDealRoom : Bool
  canAccessInvestorArea : Bool
  canInvest : Bool
  deriving DecidableEq, Repr

def calculateAccess (status : PassportStatus) : Access where
  canAccessDealRoom := status = .LIMITED ∨ status = .GREEN
  canAccessInvestorArea := status = .GREEN
  canInvest := status = .GREEN

structure AccessResult extends Access where
  allowed : Bool
  passportStatus : PassportStatus
  reason : String
  deriving DecidableEq, Repr

def accessReason : PassportStatus → String
  | .GREEN => "All required claims are verified."
  | .LIMITED => "Deal Room access granted. Accredited Investor badge is missing."
  | .RED => "Critical compliance claim failed."
  | .IN_PROGRESS => "Verification is in progress. Access not yet determined."
  | _ => "No verified compliance claims found."

def accessResult (passportStatus : PassportStatus) (resourceId : Option String) : AccessResult :=
  let access := calculateAccess passportStatus
  -- both branches of the source are the Deal Room's
  let allowed := if resourceId = some "node-oklahoma-deal-room" then access.canAccessDealRoom
    else access.canAccessDealRoom
  { access with allowed, passportStatus, reason := accessReason passportStatus }

/-- `GET /access/check` -/
def checkAccess (lib : Library) (walletAddress : String) (resourceId : Option String) :
    Program Statement Reply HttpError AccessResult := do
  let address ← Program.ofExcept (normalizeAddress lib walletAddress)
  let claims ← perform (.findManyClaims address)
  return accessResult (calculatePassportStatus claims) resourceId

def CLAIM_LABELS : ClaimType → String
  | .KYC_AML_VERIFIED => "KYC / AML Verified"
  | .ACCREDITED_INVESTOR => "Accredited Investor"

structure PassportBadge where
  label : String
  claimType : ClaimType
  status : ClaimStatus
  deriving DecidableEq, Repr

structure PassportState extends Access where
  walletAddress : String
  status : PassportStatus
  passportTokenId : Option String
  passportTxHash : Option String
  claims : List ComplianceClaim
  badges : List PassportBadge
  transactions : List TransactionRecord
  deriving DecidableEq, Repr

def badgesOf (claims : List ComplianceClaim) : List PassportBadge :=
  SUPPORTED_CLAIM_TYPES.map fun claimType =>
    { label := CLAIM_LABELS claimType
      claimType
      status := ((claims.find? (·.claimType = claimType)).map (·.status)).getD .UNVERIFIED }

def emptyState (walletAddress : String) : PassportState where
  walletAddress
  status := .NONE
  passportTokenId := none
  passportTxHash := none
  claims := []
  badges := SUPPORTED_CLAIM_TYPES.map fun claimType =>
    { label := CLAIM_LABELS claimType, claimType, status := .UNVERIFIED }
  transactions := []
  canAccessDealRoom := false
  canAccessInvestorArea := false
  canInvest := false

/-- A profile with the rows that belong to it. -/
structure PassportRow where
  profile : WalletProfile
  claims : List ComplianceClaim
  transactions : List TransactionRecord

/-- `getPassportState`, of the row it has found. -/
def passportState (walletAddress : String) : Option PassportRow → PassportState
  | none => emptyState walletAddress
  | some row =>
    let passportStatus := calculatePassportStatus row.claims
    { calculateAccess passportStatus with
      walletAddress
      status := passportStatus
      passportTokenId := row.profile.passportTokenId
      passportTxHash := row.profile.passportTxHash
      claims := row.claims
      badges := badgesOf row.claims
      transactions := row.transactions }

/-- What the database may answer: the rows of the wallet, in whichever order. -/
inductive Db.FindsPassport (db : Db) (walletAddress : String) : Option PassportRow → Prop where
  | absent (absent : db.profiles walletAddress = none) : FindsPassport db walletAddress none
  | found {row : PassportRow} (profile : db.profiles walletAddress = some row.profile)
      (claims : row.claims.Perm (db.claimsOf walletAddress))
      (transactions : row.transactions.Perm (db.transactions.filter (·.walletAddress = walletAddress))) :
      FindsPassport db walletAddress (some row)

theorem canAccessDealRoom_iff {kycAml accredited : Option ClaimStatus} :
    (calculateAccess (passportOf kycAml accredited)).canAccessDealRoom = true ↔
      kycAml = some .VERIFIED ∧ isPending accredited = false := by
  rcases kycAml with - | kycAml <;> rcases accredited with - | accredited
  · decide
  · cases accredited <;> decide
  · cases kycAml <;> decide
  · cases kycAml <;> cases accredited <;> decide

theorem canInvest_iff {kycAml accredited : Option ClaimStatus} :
    (calculateAccess (passportOf kycAml accredited)).canInvest = true ↔
      kycAml = some .VERIFIED ∧ accredited = some .VERIFIED := by
  rcases kycAml with - | kycAml <;> rcases accredited with - | accredited
  · decide
  · cases accredited <;> decide
  · cases kycAml <;> decide
  · cases kycAml <;> cases accredited <;> decide

/-- Rows of different types can come in any order. -/
theorem calculatePassportStatus_perm {first second : List ComplianceClaim} (same : first.Perm second)
    (keyed : (second.map (·.claimType)).Nodup) : calculatePassportStatus first = calculatePassportStatus second := by
  have found (claimType : ClaimType) :
      first.find? (·.claimType = claimType) = second.find? (·.claimType = claimType) := by
    induction same with
    | nil => rfl
    | cons claim _ ih =>
      rw [List.map_cons, List.nodup_cons] at keyed
      rw [List.find?_cons, List.find?_cons, ih keyed.2]
    | swap one other rest =>
      have differs : one.claimType ≠ other.claimType := by
        rw [List.map_cons, List.nodup_cons, List.map_cons] at keyed
        exact fun equal => keyed.1 (equal ▸ List.mem_cons_self)
      simp only [List.find?_cons]
      by_cases here : one.claimType = claimType <;> by_cases there : other.claimType = claimType
      · exact absurd (here.trans there.symm) differs
      all_goals simp [here, there]
    | trans _ further ih ih' => exact (ih ((further.map _).nodup_iff.mpr keyed)).trans (ih' keyed)
  rw [calculatePassportStatus, found, found, calculatePassportStatus]

/-- The rows of a wallet, each of its own type. -/
theorem nodup_claimsOf {db : Db} (regular : db.Regular) (walletAddress : String) :
    ((db.claimsOf walletAddress).map (·.claimType)).Nodup := by
  have keyed := regular.keyed walletAddress
  simp only [Db.claimsOf, SUPPORTED_CLAIM_TYPES]
  cases kyc : db.claims walletAddress .KYC_AML_VERIFIED with
  | none => cases accredited : db.claims walletAddress .ACCREDITED_INVESTOR <;> simp [kyc, accredited]
  | some claim =>
    cases accredited : db.claims walletAddress .ACCREDITED_INVESTOR with
    | none => simp [kyc, accredited]
    | some other => simp [kyc, accredited, keyed _ _ kyc, keyed _ _ accredited]

section Answers
variable {σ : Type} {adapter : ContractAdapter σ} {before after : Store σ} {lib : Library}

/-- **One answer.** The page and the access check go by the same two claim statuses, read
afresh: not by the stored status, and not by any expiry. -/
theorem checkAccess_completes (regular : before.db.Regular) {raw : String} {resourceId : Option String}
    {result : AccessResult} :
    (checkAccess lib raw resourceId).Completes (Answers adapter) before result after ↔
      ∃ address, lib.getAddress raw = some address ∧ after = before ∧
        result = accessResult (before.db.view.recalculated address) resourceId := by
  constructor
  · intro checks
    obtain ⟨address, _, valid, looking⟩ := Program.completes_bind.mp checks
    obtain ⟨named, rfl⟩ := Program.completes_ofExcept.mp valid
    obtain ⟨claims, found, finds, done⟩ := completes_perform_bind.mp looking
    obtain ⟨rfl, rfl⟩ := found_claims finds
    obtain ⟨rfl, rfl⟩ := Program.completes_done.mp done
    refine ⟨address, ?_, rfl, by rw [calculatePassportStatus_claimsOf regular]⟩
    rw [normalizeAddress] at named
    split at named <;> cases named
    assumption
  · rintro ⟨address, named, rfl, rfl⟩
    refine Program.completes_bind.mpr ⟨address, after, Program.completes_ofExcept.mpr ⟨?_, rfl⟩, ?_⟩
    · rw [normalizeAddress, named]
    · refine completes_perform_bind.mpr
        ⟨after.db.claimsOf address, after, .statement (after.prisma.findManyClaims after.db "" address), ?_⟩
      rw [← calculatePassportStatus_claimsOf regular]
      exact .done _ _

end Answers

/-- The page agrees with the access check about a wallet that has a profile. -/
theorem passportState_recalculated {db : Db} (regular : db.Regular) {walletAddress : String} {row : PassportRow}
    (finds : db.FindsPassport walletAddress (some row)) :
    (passportState walletAddress (some row)).status = db.view.recalculated walletAddress ∧
      (passportState walletAddress (some row)).toAccess =
        (accessResult (db.view.recalculated walletAddress) none).toAccess := by
  cases finds with
  | found _ claims _ =>
    have same : calculatePassportStatus row.claims = db.view.recalculated walletAddress :=
      (calculatePassportStatus_perm claims (nodup_claimsOf regular walletAddress)).trans
        (calculatePassportStatus_claimsOf regular walletAddress)
    exact ⟨same, congrArg calculateAccess same⟩

end PassportKit.Verification
