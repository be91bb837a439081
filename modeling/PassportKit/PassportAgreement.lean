import PassportKit.VerificationOperations

/-! The stored passport against the stored claims, in `DEMO_MODE`. A start and a result of
the workflow node leave the two in agreement. The fallback asks the mock contracts
instead, which look for the name of a claim type in its hash and never find it, so that
it stores no passport but `NONE`; and a result of the attester that comes when nothing
is pending changes a claim and no passport. -/
namespace PassportKit.Verification
open Interaction Runs Evm Eip712

/-- Every stored passport is the one its wallet's claims call for. -/
def Db.PassportsAgree (db : Db) : Prop :=
  ∀ walletAddress profile, db.profiles walletAddress = some profile →
    profile.passportStatus = calculatePassportStatus (db.claimsOf walletAddress)

def Db.claimStatus (db : Db) (walletAddress : String) (claimType : ClaimType) : Option ClaimStatus :=
  (db.claims walletAddress claimType).map (·.status)

/-- Some claim of the wallet is being verified. -/
def Db.InProgress (db : Db) (walletAddress : String) : Prop :=
  isPending (db.claimStatus walletAddress .KYC_AML_VERIFIED) = true ∨
    isPending (db.claimStatus walletAddress .ACCREDITED_INVESTOR) = true

/-- A result of the attester comes while one is awaited, and the fallback is used for
nothing but accreditation, of a wallet whose identity was never verified. -/
def Operation.InTime (lib : DemoLibrary) (db : Db) : Operation → Prop
  | .handleAiAttesterWebhook _ body verificationIdFromUrl =>
    ∀ session, webhookTarget lib.toLibrary db body verificationIdFromUrl = some session →
      db.InProgress session.walletAddress
  | .injectMockAiResult _ verificationId _ =>
    ∀ session, db.session verificationId = some session → db.InProgress session.walletAddress
  | .syncOnchain verificationId =>
    ∀ session, db.session verificationId = some session → session.claimType = .ACCREDITED_INVESTOR ∧
      db.claimStatus session.walletAddress .KYC_AML_VERIFIED ∈ [none, some .UNVERIFIED, some .EXPIRED]
  | _ => True

/-- The mock contracts were told of claims by their hashes. -/
def MockContracts.Hashed [Crypto Bytes32] (contracts : MockContracts) : Prop :=
  ∀ walletAddress, ∀ claim ∈ contracts.claims walletAddress, ∃ claimType,
    claim.claimTypeHash = CLAIM_TYPE_HASHES claimType

/-- No hash has a `K` in it. -/
theorem not_includes_kyc (digest : Bytes32) : MockContracts.includes (digestText digest) "KYC" = false := by
  have lower : ∀ small < 16, Nat.digitChar small ≠ 'K' := by decide
  have absent : 'K' ∉ (digestText digest).toList := by
    rw [digestText, String.toList_append, List.mem_append, not_or]
    refine ⟨by simp, fun member => ?_⟩
    rw [String.toList_ofList] at member
    obtain ⟨small, bound, same⟩ := Hex.mem_digits member
    exact lower small bound same.symm
  rw [MockContracts.includes, decide_eq_false_iff_not]
  intro inside
  exact absent (inside.subset (by simp))

section Mock
variable [Crypto Bytes32] {contracts : MockContracts}

theorem computeMockStatus_hashed (hashed : contracts.Hashed) (walletAddress : String) :
    contracts.computeMockStatus walletAddress = .NONE := by
  have nothing : ((contracts.claims walletAddress).find? fun claim =>
      MockContracts.includes claim.claimTypeHash "KYC") = none := by
    rw [List.find?_eq_none]
    intro claim member
    obtain ⟨claimType, named⟩ := hashed walletAddress claim member
    rw [named, CLAIM_TYPE_HASHES, not_includes_kyc]
    exact Bool.false_ne_true
  rw [MockContracts.computeMockStatus, nothing]

theorem hashed_submitClaim (hashed : contracts.Hashed) {params : SubmitClaimParams} {claimType : ClaimType}
    (named : params.claimTypeHash = CLAIM_TYPE_HASHES claimType) : (contracts.submitClaim params).Hashed := by
  intro walletAddress claim member
  by_cases same : walletAddress = params.walletAddress
  · subst same
    simp only [MockContracts.submitClaim, Function.update_self] at member
    rcases List.mem_append.mp member with earlier | new
    · exact hashed _ claim earlier
    · obtain rfl := List.mem_singleton.mp new
      exact ⟨claimType, named⟩
  · simp only [MockContracts.submitClaim, Function.update_of_ne same] at member
    exact hashed _ claim member

/-- The mock contracts answer `NONE`, whatever they were told. -/
theorem syncPassport_hashed (hashed : contracts.Hashed) {walletAddress : String} {result : SyncPassportResult}
    {next : MockContracts} (done : MockContractAdapter.syncPassport contracts walletAddress result next) :
    result.status = .NONE ∧ next.Hashed := by
  obtain ⟨same, -⟩ := done
  rw [MockContracts.syncPassport] at same
  split at same <;>
  · obtain ⟨-, status, rfl⟩ : _ ∧ result.status = contracts.computeMockStatus walletAddress ∧ next = _ := by
      simpa using same
    exact ⟨status.trans (computeMockStatus_hashed hashed walletAddress), hashed⟩

end Mock

def View.Agrees (view : View) : Prop :=
  ∀ walletAddress status, view.passport walletAddress = some status → status = view.recalculated walletAddress

section Agreement
variable {view next : View} {db : Db} {walletAddress : String} {claimType : ClaimType}

theorem passportsAgree_iff (regular : db.Regular) : db.PassportsAgree ↔ db.view.Agrees := by
  simp only [Db.PassportsAgree, View.Agrees, calculatePassportStatus_claimsOf regular]
  constructor
  · intro agree wallet status stored
    obtain ⟨profile, there, rfl⟩ := Option.map_eq_some_iff.mp stored
    exact agree wallet profile there
  · intro agrees wallet profile there
    exact agrees wallet profile.passportStatus (congrArg (Option.map WalletProfile.passportStatus) there)

/-- Where one wallet was written to, the rest agrees as before. -/
theorem agrees_iff_at (agrees : view.Agrees) (claims : ∀ other ≠ walletAddress, next.claim other = view.claim other)
    (passports : ∀ other ≠ walletAddress, next.passport other = view.passport other) :
    next.Agrees ↔ ∀ status, next.passport walletAddress = some status →
      status = next.recalculated walletAddress := by
  constructor
  · exact fun all => all walletAddress
  · intro here other status stored
    by_cases same : other = walletAddress
    · subst same
      exact here status stored
    · rw [View.recalculated, claims other same]
      exact agrees other status (passports other same ▸ stored)

theorem passportOf_eq_inProgress {kycAml accredited : Option ClaimStatus} :
    passportOf kycAml accredited = .IN_PROGRESS ↔ isPending kycAml = true ∨ isPending accredited = true := by
  unfold passportOf
  split
  · rename_i none
    simp [none, isPending]
  split
  · rename_i pending
    simpa using pending
  · rename_i quiet
    have calm : ¬ (isPending kycAml = true ∨ isPending accredited = true) := by simpa using quiet
    refine iff_of_false ?_ calm
    split
    · simp
    split
    · simp
    split <;> simp

/-- A claim of which the identity is verified or refused calls for a passport. -/
theorem passportOf_verdict {approved : Bool} {accredited : Option ClaimStatus} :
    passportOf (some (verdictStatus approved)) accredited ≠ .NONE := by
  rcases accredited with _ | status <;> cases approved <;> try cases status
  all_goals decide

theorem passportOf_accreditation {approved : Bool} {kycAml : Option ClaimStatus} :
    passportOf kycAml (some (verdictStatus approved)) = .NONE ↔
      kycAml ∈ [none, some .UNVERIFIED, some .EXPIRED] := by
  cases approved <;> rcases kycAml with _ | status <;> try cases status
  all_goals decide

/-- A claim that is being verified calls for `IN_PROGRESS`. -/
theorem recalculated_setClaim_pending {status : ClaimStatus} (pending : isPending (some status) = true) :
    (view.setClaim walletAddress claimType (some status)).recalculated walletAddress = .IN_PROGRESS := by
  rw [View.recalculated, passportOf_eq_inProgress]
  cases claimType with
  | KYC_AML_VERIFIED => exact .inl (by rwa [View.claim_setClaim_self])
  | ACCREDITED_INVESTOR => exact .inr (by rwa [View.claim_setClaim_self])

/-- A passport that is left while its wallet's claim is being verified. -/
theorem agrees_pending {status : ClaimStatus} (agrees : view.Agrees) (pending : isPending (some status) = true)
    (there : (view.passport walletAddress).isSome = true) :
    (view.setClaim walletAddress claimType (some status)).Agrees ↔
      view.recalculated walletAddress = .IN_PROGRESS := by
  rw [@agrees_iff_at view _ walletAddress agrees
    (fun other differs => View.claim_setClaim_of_wallet _ _ _ _ differs) fun other _ => rfl,
    recalculated_setClaim_pending pending, View.passport_setClaim]
  obtain ⟨stored, passport⟩ := Option.isSome_iff_exists.mp there
  have right := agrees walletAddress stored passport
  rw [passport, ← right]
  simp

/-- A passport that is written with its wallet's claim. -/
theorem agrees_written {status : Option ClaimStatus} {passport : PassportStatus} (agrees : view.Agrees) :
    ((view.setClaim walletAddress claimType status).setPassport walletAddress passport).Agrees ↔
      passport = (view.setClaim walletAddress claimType status).recalculated walletAddress := by
  have elsewhere := @agrees_iff_at view ((view.setClaim walletAddress claimType status).setPassport walletAddress
    passport) walletAddress agrees (fun other differs => View.claim_setClaim_of_wallet _ _ _ _ differs)
    fun other differs => Function.update_of_ne differs _ _
  rw [elsewhere]
  simp [View.setPassport, View.recalculated]

/-- What the policies are does not matter. -/
theorem agrees_congr (claims : next.claim = view.claim) (passports : next.passport = view.passport) :
    next.Agrees ↔ view.Agrees := by
  simp only [View.Agrees, View.recalculated, claims, passports]

end Agreement

/-! ## Each operation -/

section Sessions
variable {σ : Type} {before after : Store σ} {db : Db} {session : VerificationSession} {lib : Library}

theorem mem_of_session {id : String} (found : db.session id = some session) : session ∈ db.sessions :=
  List.mem_of_find?_eq_some found

theorem mem_of_webhookTarget {body : WebhookBody} {verificationIdFromUrl : Option String}
    (found : webhookTarget lib db body verificationIdFromUrl = some session) : session ∈ db.sessions := by
  obtain ⟨rawPayload, -, reading⟩ := Option.bind_eq_some_iff.mp found
  obtain ⟨verdict, -, looking⟩ := Option.bind_eq_some_iff.mp reading
  revert looking
  rw [webhookSession]
  cases (verificationIdFromUrl.or rawPayload.verificationId).filter (· ≠ "") with
  | some id => exact mem_of_session
  | none =>
    intro looking
    obtain ⟨raw, -, naming⟩ := Option.bind_eq_some_iff.mp looking
    obtain ⟨wallet, -, first⟩ := Option.bind_eq_some_iff.mp naming
    exact List.mem_of_find?_eq_some first

/-- A result of the attester, for a session that is there. -/
theorem attested_agrees (regular : before.db.Regular) (agrees : before.db.view.Agrees)
    (member : session ∈ before.db.sessions)
    (leaves : after.db.view = before.db.view.setClaim session.walletAddress session.claimType (some .PROCESSING)) :
    after.db.view.Agrees ↔ before.db.InProgress session.walletAddress := by
  rw [leaves, agrees_pending agrees rfl (regular.owned session member)]
  exact passportOf_eq_inProgress

/-- The fallback stores `NONE`. -/
theorem synced_agrees (agrees : before.db.view.Agrees)
    (leaves : after.db.view = (before.db.view.setClaim session.walletAddress session.claimType
      (some (verdictStatus (session.approved.getD false)))).setPassport session.walletAddress .NONE) :
    after.db.view.Agrees ↔ session.claimType = .ACCREDITED_INVESTOR ∧
      before.db.claimStatus session.walletAddress .KYC_AML_VERIFIED ∈ [none, some .UNVERIFIED, some .EXPIRED] := by
  rw [leaves, agrees_written agrees, View.recalculated, eq_comm]
  cases type : session.claimType with
  | KYC_AML_VERIFIED =>
    rw [View.claim_setClaim_self]
    exact iff_of_false passportOf_verdict (by rintro ⟨⟨⟩, -⟩)
  | ACCREDITED_INVESTOR =>
    rw [View.claim_setClaim_self, View.claim_setClaim_of_type _ _ _ _ (by decide), passportOf_accreditation]
    exact (and_iff_right rfl).symm

/-- What holds of the one session an operation is for. -/
theorem forall_found {found : Option VerificationSession} {session : VerificationSession}
    (there : found = some session) {P : VerificationSession → Prop} :
    (∀ other, found = some other → P other) ↔ P session := by
  subst there
  simp

end Sessions

section Operations
variable [Crypto Bytes32] {lib : DemoLibrary} {before after : Store MockContracts} {operation : Operation}

/-- What every operation keeps: the database is in order, and the mock contracts know
claims by their hashes. -/
structure Kept (store : Store MockContracts) : Prop where
  regular : store.db.Regular
  hashed : store.contracts.Hashed

/-- **One operation.** -/
theorem performs_agrees (kept : Kept before) (agree : before.db.PassportsAgree)
    (performs : Performs lib MockContractAdapter before operation after) :
    Kept after ∧ (after.db.PassportsAgree ↔ operation.InTime lib before.db) := by
  have regular := performs_regular kept.regular performs
  have agrees := (passportsAgree_iff kept.regular).mp agree
  rw [passportsAgree_iff regular]
  have hashed (same : after.contracts = before.contracts) : Kept after := ⟨regular, same ▸ kept.hashed⟩
  cases performs_leaves kept.regular performs with
  | started wallet type contracts view =>
    refine ⟨hashed contracts, iff_of_true ?_ trivial⟩
    have written : after.db.view =
        (before.db.view.setClaim wallet type (some .PENDING)).setPassport wallet .IN_PROGRESS :=
      view
    rw [written, agrees_written agrees, recalculated_setClaim_pending rfl]
  | handled session target contracts view =>
    refine ⟨hashed contracts, ?_⟩
    rw [attested_agrees kept.regular agrees (mem_of_webhookTarget target) view, Operation.InTime, forall_found target]
  | injected session found contracts view =>
    refine ⟨hashed contracts, ?_⟩
    rw [attested_agrees kept.regular agrees (mem_of_session found) view, Operation.InTime, forall_found found]
  | received walletAddress claimed address contracts claims view =>
    refine ⟨hashed contracts, iff_of_true ?_ trivial⟩
    rw [view, agrees_congr (View.claim_updatePolicy _ _ _ _ _) (View.passport_updatePolicy _ _ _ _ _), claims,
      agrees_written agrees]
  | synced session params contracts passport found attested wallet hash submitted passes view =>
    obtain ⟨rfl, -⟩ := submitted
    obtain ⟨status, next⟩ := syncPassport_hashed (hashed_submitClaim kept.hashed hash) passes
    rw [status] at view
    refine ⟨⟨regular, next⟩, ?_⟩
    rw [synced_agrees agrees view, Operation.InTime, forall_found found]
  | read only =>
    exact ⟨hashed only.contracts, iff_of_true ((agrees_congr only.claim only.passport).mpr agrees) trivial⟩

/-- **The stored passport follows the stored claims**, after every operation of a run,
if and only if every operation of the run is in time. -/
theorem passports_agree_iff_in_time {start last : Store MockContracts}
    {log : List (Entry (Store MockContracts) Operation)}
    (regular : start.db.Regular) (agree : start.db.PassportsAgree) (hashed : start.contracts.Hashed)
    (trace : Trace (Performs lib MockContractAdapter) start log last) :
    (∀ entry ∈ log, entry.after.db.PassportsAgree) ↔
      ∀ entry ∈ log, entry.event.InTime lib entry.before.db := by
  have step (before : Store MockContracts) (operation : Operation) (after : Store MockContracts) (kept : Kept before)
      (good : before.db.PassportsAgree) (performs : Performs lib MockContractAdapter before operation after) :=
    performs_agrees kept good performs
  exact @Trace.good_iff _ _ _ _ _ _ Kept (fun store => store.db.PassportsAgree)
    (fun entry => entry.event.InTime lib entry.before.db) step trace ⟨regular, hashed⟩ agree

end Operations

def demoWallet : String := "0x52908400098527886E0F7030069857D2E4169EE7"

abbrev demoHashes : Crypto Bytes32 where
  keccak256 preimage :=
    if preimage = packed (ascii "KYC_AML_VERIFIED") then
      0x18be04bd8d115b448043fa0b06bdadd1fadc4027c7123595b5671541dbaae317
    else 0xc6490bca666653d9c895eb35db9ee67a1b062680313a2a94196d3251d008a11b
  tryRecover := fun _ _ => none

/-- The library, for one session. -/
def fallbackLibrary : DemoLibrary where
  getAddress raw := if raw = demoWallet then some demoWallet else none
  parseJson := fun _ => none
  parseDate := fun _ => none
  addDays date days := date + days * 86400000
  buildAttestationHash := fun _ => "0x"
  hashMock := fun _ _ _ _ => "0x118c44e7dd29a6415d792a5add91c6890c5acd3b0ccdb218dcb0cc05e02bffcb"
  hashOutcome := fun _ _ _ _ => "0x6d48b5c3d594d0024f824a37d801633e87c3d3682f2cd6b8e5384fed95586dae"
  buildVerificationIdHash := fun _ => "0xcccdd47e2effcc70f626f88a59e4a99c541b733c8aa6a93949485360af31843d"

theorem newDemo_regular : newDemo.db.Regular where
  keyed := by rintro wallet type claim ⟨⟩
  owned := by rintro session ⟨⟩

/-- Started, approved by a saved result, and submitted by the fallback. -/
def fallbackRun : List (String × Operation) :=
  [("clz1session", .startVerification demoWallet "KYC_AML_VERIFIED"),
    ("", .injectMockAiResult 0 "clz1session" true),
    ("", .syncOnchain "clz1session")]

/-- The claim is verified, and the passport says that there is none. -/
theorem fallbackRun_ends :
    (@demoRun demoHashes fallbackLibrary newDemo fallbackRun).map (fun last =>
      ((last.db.profiles demoWallet).map (·.passportStatus), calculatePassportStatus (last.db.claimsOf demoWallet))) =
        some (some .NONE, .LIMITED) := by
  decide +kernel

/-- A wallet whose identity was verified has no passport. -/
theorem fallback_forgets_the_passport :
    ¬ ∀ (last : Store MockContracts) (log : List (Entry (Store MockContracts) Operation)),
      Trace (@Performs _ demoHashes fallbackLibrary MockContractAdapter) newDemo log last →
        last.db.PassportsAgree := by
  intro claimed
  obtain ⟨last, ran, ends⟩ := Option.map_eq_some_iff.mp fallbackRun_ends
  obtain ⟨log, trace⟩ := @trace_of_demoRun _ demoHashes _ _ _ ran
  obtain ⟨stored, calledFor⟩ := Prod.mk.inj ends
  obtain ⟨profile, there, status⟩ := Option.map_eq_some_iff.mp stored
  have agrees := claimed last log trace demoWallet profile there
  rw [status, calledFor] at agrees
  cases agrees

/-- Some operation of the run is not in time. -/
theorem fallback_is_not_in_time :
    ∃ log, ∃ last : Store MockContracts,
      Trace (@Performs _ demoHashes fallbackLibrary MockContractAdapter) newDemo log last ∧
        ¬ ∀ entry ∈ log, entry.event.InTime fallbackLibrary entry.before.db := by
  obtain ⟨last, ran, ends⟩ := Option.map_eq_some_iff.mp fallbackRun_ends
  obtain ⟨log, trace⟩ := @trace_of_demoRun _ demoHashes _ _ _ ran
  refine ⟨log, last, trace, fun inTime => ?_⟩
  have start : newDemo.db.PassportsAgree := by rintro wallet profile ⟨⟩
  have agrees : last.db.PassportsAgree :=
    @Trace.ends _ _ _ _ _ _ (fun store => store.db.PassportsAgree) trace
      ((@passports_agree_iff_in_time demoHashes _ _ _ _ newDemo_regular start (by rintro wallet claim ⟨⟩) trace).mpr
        inTime) start
  obtain ⟨stored, calledFor⟩ := Prod.mk.inj ends
  obtain ⟨profile, there, status⟩ := Option.map_eq_some_iff.mp stored
  have same := agrees demoWallet profile there
  rw [status, calledFor] at same
  cases same

end PassportKit.Verification
