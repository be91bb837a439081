import PassportKit.DemoFallbacks
import PassportKit.VerificationCallbacks

/-! What a wallet's passport and transfer policy are worked out from: the status of each
of its claims, and what was last stored of the two. Every write of every handler does to
this view of the database what the statement says, whatever the database answers. -/
namespace PassportKit.Verification
open Interaction Runs

structure View where
  claim : String → ClaimType → Option ClaimStatus
  passport : String → Option PassportStatus
  policy : String → Option String

namespace View

def setClaim (view : View) (walletAddress : String) (claimType : ClaimType) (status : Option ClaimStatus) : View :=
  { view with
    claim := Function.update view.claim walletAddress
      (Function.update (view.claim walletAddress) claimType status) }

def setPassport (view : View) (walletAddress : String) (status : PassportStatus) : View :=
  { view with passport := Function.update view.passport walletAddress (some status) }

def setPolicy (view : View) (walletAddress policyStatus : String) : View :=
  { view with policy := Function.update view.policy walletAddress (some policyStatus) }

section Fields
variable (view : View) (walletAddress policyStatus : String) (claimType : ClaimType) (status : Option ClaimStatus)
  (passport : PassportStatus)

@[simp] theorem passport_setClaim : (view.setClaim walletAddress claimType status).passport = view.passport := rfl
@[simp] theorem policy_setClaim : (view.setClaim walletAddress claimType status).policy = view.policy := rfl
@[simp] theorem claim_setPassport : (view.setPassport walletAddress passport).claim = view.claim := rfl
@[simp] theorem policy_setPassport : (view.setPassport walletAddress passport).policy = view.policy := rfl
@[simp] theorem claim_setPolicy : (view.setPolicy walletAddress policyStatus).claim = view.claim := rfl
@[simp] theorem passport_setPolicy : (view.setPolicy walletAddress policyStatus).passport = view.passport := rfl

@[simp] theorem claim_setClaim_self :
    (view.setClaim walletAddress claimType status).claim walletAddress claimType = status := by
  simp [setClaim]

theorem claim_setClaim_of_type {other : ClaimType} (differs : other ≠ claimType) :
    (view.setClaim walletAddress claimType status).claim walletAddress other = view.claim walletAddress other := by
  simp [setClaim, Function.update_of_ne differs]

theorem claim_setClaim_of_wallet {other : String} (differs : other ≠ walletAddress) :
    (view.setClaim walletAddress claimType status).claim other = view.claim other := by
  simp [setClaim, Function.update_of_ne differs]

end Fields

/-- What a call does to the view. -/
def after (view : View) : ApiCall → View
  | .statement (.upsertProfile walletAddress passportStatus) => view.setPassport walletAddress passportStatus
  | .statement (.updateProfile walletAddress data) => view.setPassport walletAddress data.passportStatus
  | .statement (.upsertClaim walletAddress claimType data) =>
    view.setClaim walletAddress claimType
      (some (data.status.getD ((view.claim walletAddress claimType).getD .UNVERIFIED)))
  | .statement (.updateManyClaims walletAddress claimType data) =>
    view.setClaim walletAddress claimType ((view.claim walletAddress claimType).map data.status.getD)
  | .statement (.updatePolicy walletAddress policyStatus) => view.setPolicy walletAddress policyStatus
  | .statement (.upsertPolicy walletAddress policy) => view.setPolicy walletAddress policy.policyStatus
  | .ensurePolicy walletAddress =>
    view.setPolicy walletAddress ((view.policy walletAddress).getD NO_KYC_DAILY_50)
  | .upsertClaim walletAddress claimType create update =>
    view.setClaim walletAddress claimType (some ((view.claim walletAddress claimType).elim
      (create.status.getD .UNVERIFIED) update.status.getD))
  | _ => view

end View

def Db.view (db : Db) : View where
  claim walletAddress claimType := (db.claims walletAddress claimType).map (·.status)
  passport walletAddress := (db.profiles walletAddress).map (·.passportStatus)
  policy walletAddress := (db.policies walletAddress).map (·.policyStatus)

section Writes
variable (db : Db) (walletAddress : String)

theorem map_update {ι α β : Type} [DecidableEq ι] (f : α → β) (g : ι → α) (i : ι) (a : α) :
    (fun j => f (Function.update g i a j)) = Function.update (fun j => f (g j)) i (f a) := by
  funext j
  exact Function.apply_update (fun _ => f) g i a j

theorem view_setProfile (profile : WalletProfile) :
    (db.setProfile walletAddress profile).view = db.view.setPassport walletAddress profile.passportStatus := by
  simp [Db.setProfile, Db.view, View.setPassport, map_update (Option.map WalletProfile.passportStatus)]

theorem view_setPolicy (policy : WalletTransferPolicy) :
    (db.setPolicy walletAddress policy).view = db.view.setPolicy walletAddress policy.policyStatus := by
  simp [Db.setPolicy, Db.view, View.setPolicy, map_update (Option.map WalletTransferPolicy.policyStatus)]

theorem view_setClaim (claimType : ClaimType) (claim : ComplianceClaim) :
    (db.setClaim walletAddress claimType claim).view =
      db.view.setClaim walletAddress claimType (some claim.status) := by
  simp only [Db.setClaim, Db.view, View.setClaim]
  congr 1
  funext wallet type
  by_cases same : wallet = walletAddress
  · subst same
    by_cases also : type = claimType
    · subst also
      simp
    · simp [Function.update_of_ne also]
  · simp [Function.update_of_ne same]

/-- A write that changes nothing of the view. -/
theorem setPolicy_self {view : View} {policyStatus : String} (there : view.policy walletAddress = some policyStatus) :
    view.setPolicy walletAddress policyStatus = view := by
  rw [View.setPolicy, ← there, Function.update_eq_self]

theorem setClaim_self {view : View} {claimType : ClaimType} {status : Option ClaimStatus}
    (there : view.claim walletAddress claimType = status) : view.setClaim walletAddress claimType status = view := by
  rw [View.setClaim, ← there, Function.update_eq_self, Function.update_eq_self]

end Writes

section Serving
variable {σ : Type} {adapter : ContractAdapter σ} {store next : Store σ} {db later : Db} {fresh : String}

theorem view_execute {statement : Statement} {reply : Reply statement}
    (done : db.execute fresh statement = .ok (later, reply)) : later.view = db.view.after (.statement statement) := by
  cases statement with
  | upsertProfile walletAddress passportStatus =>
    simp only [Db.execute] at done
    cases done
    rw [view_setProfile, View.after]
    cases db.profiles walletAddress <;> rfl
  | updateProfile walletAddress data =>
    simp only [Db.execute] at done
    split at done <;> cases done
    exact view_setProfile _ _ _
  | upsertClaim walletAddress claimType data =>
    simp only [Db.execute] at done
    split at done
    · rename_i claim found
      cases done
      rw [view_setClaim, View.after]
      simp [Db.view, found, ComplianceClaim.write]
    · rename_i absent
      split at done <;> cases done
      rw [view_setClaim, View.after]
      simp [Db.view, absent, ComplianceClaim.write]
  | updateManyClaims walletAddress claimType data =>
    simp only [Db.execute] at done
    split at done <;> cases done
    · rename_i claim found
      rw [view_setClaim, View.after]
      simp [Db.view, found, ComplianceClaim.write]
    · rename_i absent
      exact (setClaim_self _ (by simp [Db.view, absent])).symm
  | updatePolicy walletAddress policyStatus =>
    simp only [Db.execute] at done
    split at done <;> cases done
    exact view_setPolicy _ _ _
  | upsertPolicy walletAddress policy =>
    simp only [Db.execute] at done
    split at done <;> cases done
    exact view_setPolicy _ _ _
  | _ =>
    simp only [Db.execute] at done
    (repeat' split at done) <;> cases done
    rfl

/-- **One call.** What it does to the view is in the call. -/
theorem view_serves {request : ApiCall} {reply : ApiReply request}
    (served : Serves adapter store ⟨request, reply⟩ next) : next.db.view = store.db.view.after request := by
  cases served with
  | statement done => exact view_execute (store.prisma.execute_eq .. ▸ done)
  | policyThere there upserted => exact (setPolicy_self _ (by simp [Db.view, there])).symm
  | policyCreated absent profile =>
    rw [view_setPolicy, View.after]
    simp [Db.view, absent]
  | limitUpdated there dailyLimitUsd =>
    rw [view_setPolicy]
    exact setPolicy_self _ (by simp [Db.view, there])
  | claimUpdated create there =>
    rw [view_setClaim, View.after]
    simp [Db.view, there, ComplianceClaim.write]
  | claimCreated update absent profile =>
    rw [view_setClaim, View.after]
    simp [Db.view, absent, ComplianceClaim.write]
  | firstClaim | decisions | decided | submitted | synced => rfl

end Serving

/-- `calculatePassportStatus`, of the two statuses it looks at. -/
def passportOf (kycAml accredited : Option ClaimStatus) : PassportStatus :=
  if kycAml = none ∧ accredited = none then .NONE
  else if isPending kycAml || isPending accredited then .IN_PROGRESS
  else if kycAml = some .FAILED ∨ kycAml = some .REVOKED then .RED
  else if kycAml = some .VERIFIED ∧ accredited = some .VERIFIED then .GREEN
  else if kycAml = some .VERIFIED then .LIMITED
  else .NONE

def View.recalculated (view : View) (walletAddress : String) : PassportStatus :=
  passportOf (view.claim walletAddress .KYC_AML_VERIFIED) (view.claim walletAddress .ACCREDITED_INVESTOR)

/-- Claims are stored under their types, and sessions belong to profiles. -/
structure Db.Regular (db : Db) : Prop where
  keyed : ∀ walletAddress claimType claim, db.claims walletAddress claimType = some claim →
    claim.claimType = claimType
  owned : ∀ session ∈ db.sessions, (db.view.passport session.walletAddress).isSome = true

theorem calculatePassportStatus_claimsOf {db : Db} (regular : db.Regular) (walletAddress : String) :
    calculatePassportStatus (db.claimsOf walletAddress) = db.view.recalculated walletAddress := by
  have found (claimType : ClaimType) : ((db.claimsOf walletAddress).find? (·.claimType = claimType)).map (·.status) =
      db.view.claim walletAddress claimType := by
    have keyed := regular.keyed walletAddress
    simp only [Db.claimsOf, SUPPORTED_CLAIM_TYPES, Db.view]
    cases kyc : db.claims walletAddress .KYC_AML_VERIFIED with
    | none =>
      cases accredited : db.claims walletAddress .ACCREDITED_INVESTOR with
      | none => cases claimType <;> simp [kyc, accredited]
      | some other =>
        have named := keyed _ _ accredited
        cases claimType <;> simp [kyc, accredited, named]
    | some claim =>
      have named := keyed _ _ kyc
      cases accredited : db.claims walletAddress .ACCREDITED_INVESTOR with
      | none => cases claimType <;> simp [kyc, accredited, named]
      | some other =>
        have named' := keyed _ _ accredited
        cases claimType <;> simp [kyc, accredited, named, named']
  rw [View.recalculated, ← found, ← found]
  rfl

section Regularity
variable {σ : Type} {adapter : ContractAdapter σ} {store next : Store σ} {db later : Db} {fresh : String}

/-- A profile, once there, stays. -/
theorem isSome_passport_after {view : View} {walletAddress : String} (request : ApiCall)
    (there : (view.passport walletAddress).isSome = true) :
    ((view.after request).passport walletAddress).isSome = true := by
  have set (wallet : String) (status : PassportStatus) :
      ((view.setPassport wallet status).passport walletAddress).isSome = true := by
    by_cases same : walletAddress = wallet
    · simp [View.setPassport, same]
    · simpa [View.setPassport, Function.update_of_ne same] using there
  cases request with
  | statement statement => cases statement <;> first | exact there | exact set _ _
  | _ => exact there

theorem keyed_setClaim {walletAddress : String} {claimType : ClaimType} {claim : ComplianceClaim}
    (regular : db.Regular) (named : claim.claimType = claimType) :
    ∀ wallet type other, (db.setClaim walletAddress claimType claim).claims wallet type = some other →
      other.claimType = type := by
  intro wallet type other found
  by_cases own : walletAddress = wallet ∧ claimType = type
  · obtain ⟨rfl, rfl⟩ := own
    simp only [Db.setClaim, Function.update_self, Option.some.injEq] at found
    rw [← found, named]
  · rw [claims_setClaim own] at found
    exact regular.keyed _ _ _ found

theorem keyed_execute {statement : Statement} {reply : Reply statement} (regular : db.Regular)
    (done : db.execute fresh statement = .ok (later, reply)) :
    ∀ wallet type claim, later.claims wallet type = some claim → claim.claimType = type := by
  cases statement with
  | upsertClaim walletAddress claimType data =>
    simp only [Db.execute] at done
    split at done
    · rename_i claim found
      cases done
      have named := regular.keyed _ _ _ found
      exact keyed_setClaim regular named
    · split at done <;> cases done
      exact keyed_setClaim regular rfl
  | updateManyClaims walletAddress claimType data =>
    simp only [Db.execute] at done
    split at done <;> cases done
    · rename_i claim found
      have named := regular.keyed _ _ _ found
      exact keyed_setClaim regular named
    · exact regular.keyed
  | _ =>
    simp only [Db.execute] at done
    (repeat' split at done) <;> cases done <;> exact regular.keyed

theorem owned_execute {statement : Statement} {reply : Reply statement} (regular : db.Regular)
    (done : db.execute fresh statement = .ok (later, reply)) :
    ∀ session ∈ later.sessions, (db.view.passport session.walletAddress).isSome = true := by
  intro session member
  rcases sessions_execute done with same | ⟨walletAddress, claimType, rfl, -, added⟩ | ⟨id, data, rfl, updated⟩
  · exact regular.owned session (same ▸ member)
  · rw [added] at member
    rcases List.mem_cons.mp member with rfl | earlier
    · simp only [Db.execute] at done
      split at done
      · cases done
      · split at done
        · cases done
        · rename_i there
          simpa [Db.view, Option.isNone_iff_eq_none, Option.isSome_iff_ne_none] using there
    · exact regular.owned session earlier
  · rw [updated] at member
    obtain ⟨earlier, there, rfl⟩ := List.mem_map.mp member
    rw [(write_keeps earlier id data).2.1]
    exact regular.owned earlier there

theorem regular_serves {exchange : Program.Exchange ApiCall ApiReply} (regular : store.db.Regular)
    (served : Serves adapter store exchange next) : next.db.Regular := by
  obtain ⟨request, reply⟩ := exchange
  have stays (session : VerificationSession) (owned : (store.db.view.passport session.walletAddress).isSome = true) :
      (next.db.view.passport session.walletAddress).isSome = true := by
    rw [view_serves served]
    exact isSome_passport_after request owned
  cases served with
  | statement done =>
    rw [Prisma.execute_eq] at done
    exact ⟨keyed_execute regular done, fun session member =>
      stays session (owned_execute regular done session member)⟩
  | claimUpdated create there =>
    have named := regular.keyed _ _ _ there
    exact ⟨keyed_setClaim regular named, fun session member => stays session (regular.owned session member)⟩
  | claimCreated update absent profile =>
    exact ⟨keyed_setClaim regular rfl, fun session member => stays session (regular.owned session member)⟩
  | _ => exact ⟨regular.keyed, fun session member => stays session (regular.owned session member)⟩

end Regularity

end PassportKit.Verification
