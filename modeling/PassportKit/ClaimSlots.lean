import PassportKit.Runs
import PassportKit.Identity
import Mathlib.Data.Set.Card

/-! The claim slots of one identity over any run of its two writes, with the
registry and every issuer answering as they please at each call. The counter a
write maintains is the number of issuers with a stored claim, so the cap is the
bound it is meant to be and a removal always makes room. -/
namespace PassportKit.Identity
open Evm OpenZeppelin Eip712 Runs

/-- One call, with what the registry and the issuers answer at that moment. -/
structure Asked where
  sender : Address
  registry : IssuerRegistry
  issuerAt : Address → IClaimIssuer
  call : Call

variable {Hash : Type} [Crypto Hash]

/-- One transaction on the identity at an address. -/
def step (this : Address) (self : Identity Hash) (input : Asked) : Result (Identity Hash) :=
  self.call this input.registry input.issuerAt input.sender input.call

/-- The issuers with a stored claim for a topic. -/
def issuersOf (self : Identity Hash) (topic : Uint256) : Set Address :=
  {issuer | (self.claims topic issuer).present = true}

/-- Each counter is the number of issuers it stands for, within the cap. -/
structure SlotsCounted (identity : Identity Hash) : Prop where
  counted : ∀ topic, identity.countByTopic topic = (identity.issuersOf topic).ncard
  capped : ∀ topic, identity.countByTopic topic ≤ MAX_CLAIMS_PER_TOPIC

/-- A key holder submits what a trusted issuer calls valid. -/
structure Admissible (identity : Identity Hash) (this : Address) (registry : IssuerRegistry)
    (issuerAt : Address → IClaimIssuer) (msgSender : Address) (topic : Uint256) (issuer : Address)
    (sig data : Bytes) : Prop where
  keyed : identity.keyHasPurpose (keyForAddress msgSender) KeyPurpose.CLAIM = true
  trusted : registry.isTrusted issuer topic = true
  valid : (callBool (issuerAt issuer this topic sig data) : Result Bool) = .ok true

/-- A call of the run stored this claim, its issuer trusted and calling it valid
at that moment. -/
def StoredWhenValid (this : Address) (start : Identity Hash) (inputs : List Asked) (topic : Uint256)
    (issuer : Address) (claim : Claim) : Prop :=
  ∃ before input after next, inputs = before ++ input :: after ∧
    step this (exec (step this) start before) input = .ok next ∧
    input.call = .submitClaim topic issuer claim.signature claim.data ∧
    (exec (step this) start before).Admissible this input.registry input.issuerAt input.sender topic
      issuer claim.signature claim.data ∧
    next.claims topic issuer = claim

/-- What holds of the identity reached by a run. -/
structure SlotLaws (this : Address) (start : Identity Hash) (inputs : List Asked)
    (identity : Identity Hash) : Prop where
  counted : ∀ topic, identity.countByTopic topic = (identity.issuersOf topic).ncard
  capped : ∀ topic, identity.countByTopic topic ≤ MAX_CLAIMS_PER_TOPIC
  stored : ∀ topic issuer, issuer ∈ identity.issuersOf topic →
    (identity.claims topic issuer).topic = topic ∧ (identity.claims topic issuer).issuer = issuer ∧
      StoredWhenValid this start inputs topic issuer (identity.claims topic issuer)
  neverUnderflows : ∀ msgSender topic issuer,
    identity.revokeClaim msgSender topic issuer ≠ .error (.panic 0x11)
  cappedOnlyWhenFull : ∀ registry issuerAt msgSender topic issuer sig data,
    identity.Admissible this registry issuerAt msgSender topic issuer sig data →
    (identity.submitClaim this registry issuerAt msgSender topic issuer sig data =
        .error (.custom .TopicCap) ↔
      issuer ∉ identity.issuersOf topic ∧ identity.countByTopic topic = MAX_CLAIMS_PER_TOPIC)
  overwritesInPlace : ∀ registry issuerAt msgSender topic issuer sig data,
    identity.Admissible this registry issuerAt msgSender topic issuer sig data →
    issuer ∈ identity.issuersOf topic →
    ∃ next claimId,
      identity.submitClaim this registry issuerAt msgSender topic issuer sig data =
        .ok (next, claimId) ∧
      next.claims = store identity.claims topic issuer (submitted topic issuer sig data) ∧
      next.countByTopic = identity.countByTopic
  failureChangesNothing : ∀ input error, step this identity input = .error error →
    settle (step this) identity input = identity
  removalMakesRoom : ∀ topic old msgSender, identity.countByTopic topic = MAX_CLAIMS_PER_TOPIC →
    old ∈ identity.issuersOf topic →
    identity.keyHasPurpose (keyForAddress msgSender) KeyPurpose.CLAIM = true →
    ∃ freed, identity.revokeClaim msgSender topic old = .ok freed ∧
      ∀ registry issuerAt later issuer sig data,
        identity.Admissible this registry issuerAt later topic issuer sig data →
        ∃ next claimId,
          freed.submitClaim this registry issuerAt later topic issuer sig data =
            .ok (next, claimId) ∧
          issuer ∈ next.issuersOf topic

section Counter
variable {self next : Identity Hash} {this msgSender issuer other : Address}
  {registry : IssuerRegistry} {issuerAt : Address → IClaimIssuer} {topic subject : Uint256}
  {sig data : Bytes} {claim : Claim}

omit [Crypto Hash] in
/-- A present claim adds its issuer to its topic and touches no other topic. -/
theorem issuersOf_store_present (present : claim.present = true)
    (claims : next.claims = store self.claims topic issuer claim) (subject : Uint256) :
    next.issuersOf subject =
      if subject = topic then insert issuer (self.issuersOf subject) else self.issuersOf subject := by
  ext other
  simp only [issuersOf, claims, store_apply, Set.mem_ofPred_eq]
  by_cases sameTopic : subject = topic <;> by_cases sameIssuer : other = issuer <;>
    simp [sameTopic, sameIssuer, present]

omit [Crypto Hash] in
/-- A cleared slot removes its issuer from its topic and touches no other topic. -/
theorem issuersOf_store_none (claims : next.claims = store self.claims topic issuer Claim.none)
    (subject : Uint256) :
    next.issuersOf subject =
      if subject = topic then self.issuersOf subject \ {issuer} else self.issuersOf subject := by
  ext other
  simp only [issuersOf, claims, store_apply, Set.mem_ofPred_eq]
  by_cases sameTopic : subject = topic <;> by_cases sameIssuer : other = issuer <;>
    simp [sameTopic, sameIssuer, Claim.none]

theorem deploy_slotsCounted [DecidableEq Hash] {owner registryAddress : Address}
    (deployed : deploy owner registryAddress = .ok self) : SlotsCounted self := by
  have empty (topic : Uint256) : self.issuersOf topic = ∅ := by
    ext issuer
    simp [issuersOf, deploy_claims deployed, Claim.none]
  simp only [deploy, bind_eq_ok, revertIf_eq_ok, pure_outcome, Except.ok.injEq] at deployed
  obtain ⟨-, -, -, -, fresh⟩ := deployed
  have zero (topic : Uint256) : self.countByTopic topic = 0 := by rw [← fresh]
  refine ⟨fun topic => ?_, fun topic => ?_⟩
  · rw [zero, empty, Set.ncard_empty]
  · rw [zero]
    exact Nat.zero_le _

omit [Crypto Hash] in
/-- A submission keeps the counter: a new pair adds one to both sides. -/
theorem SlotsCounted.submit (slots : SlotsCounted self) {counts : Uint256 → ℕ}
    (taken : self.takeSlot topic issuer = .ok counts) (present : claim.present = true) :
    SlotsCounted { self with
      claims := store self.claims topic issuer claim, countByTopic := counts } := by
  let submission : Identity Hash := { self with
    claims := store self.claims topic issuer claim, countByTopic := counts }
  have issuers (subject : Uint256) : submission.issuersOf subject =
      if subject = topic then insert issuer (self.issuersOf subject) else self.issuersOf subject :=
    issuersOf_store_present present rfl subject
  rcases takeSlot_eq_ok taken with ⟨existing, rfl⟩ | ⟨fresh, room, rfl⟩
  · -- an existing pair: neither side moves
    have member : issuer ∈ self.issuersOf topic := existing
    refine ⟨fun subject => ?_, slots.capped⟩
    rw [issuers subject]
    split
    · rename_i same
      subst same
      rw [Set.insert_eq_of_mem member]
      exact slots.counted subject
    · exact slots.counted subject
  · -- a new pair
    have missing : issuer ∉ self.issuersOf topic := by simpa [issuersOf] using fresh
    refine ⟨fun subject => ?_, fun subject => ?_⟩
    · rw [issuers subject]
      split
      · rename_i same
        subst same
        rw [Set.ncard_insert_of_notMem missing, ← slots.counted subject]
        exact Function.update_self ..
      · rename_i apart
        exact (Function.update_of_ne apart ..).trans (slots.counted subject)
    · by_cases same : subject = topic
      · subst same
        simp only [Function.update_self]
        exact room
      · simp only [Function.update_of_ne same]
        exact slots.capped subject

omit [Crypto Hash] in
/-- A removal keeps the counter: an existing pair is taken off both sides. -/
theorem SlotsCounted.revoke (slots : SlotsCounted self)
    (existing : (self.claims topic issuer).present = true) :
    SlotsCounted { self with
      claims := store self.claims topic issuer Claim.none
      countByTopic := Function.update self.countByTopic topic (self.countByTopic topic - 1) } := by
  let removal : Identity Hash := { self with
    claims := store self.claims topic issuer Claim.none
    countByTopic := Function.update self.countByTopic topic (self.countByTopic topic - 1) }
  have issuers (subject : Uint256) : removal.issuersOf subject =
      if subject = topic then self.issuersOf subject \ {issuer} else self.issuersOf subject :=
    issuersOf_store_none rfl subject
  have member : issuer ∈ self.issuersOf topic := existing
  refine ⟨fun subject => ?_, fun subject => ?_⟩
  · rw [issuers subject]
    split
    · rename_i same
      subst same
      rw [Set.ncard_sdiff_singleton_of_mem member, ← slots.counted subject]
      exact Function.update_self ..
    · rename_i apart
      exact (Function.update_of_ne apart ..).trans (slots.counted subject)
  · have bound := slots.capped topic
    by_cases same : subject = topic
    · subst same
      simp only [Function.update_self]
      omega
    · simp only [Function.update_of_ne same]
      exact slots.capped subject

/-- **Step lemma.** Every committed call keeps the counters. -/
theorem step_slotsCounted {input : Asked} (slots : SlotsCounted self)
    (done : step this self input = .ok next) : SlotsCounted next := by
  obtain ⟨sender, registry, issuerAt, request⟩ := input
  cases request with
  | submitClaim topic issuer sig data =>
    simp only [step, call, bind_eq_ok, pure_outcome, Except.ok.injEq] at done
    obtain ⟨⟨reached, claimId⟩, submission, rfl⟩ := done
    obtain ⟨-, -, -, counts, taken, rfl⟩ := submitClaim_changes submission
    exact slots.submit taken rfl
  | revokeClaim topic issuer =>
    obtain ⟨-, existing, -, rfl⟩ := revokeClaim_changes done
    exact slots.revoke existing

omit [Crypto Hash] in
/-- A slot with a claim has been counted. -/
theorem SlotsCounted.positive (slots : SlotsCounted self)
    (existing : (self.claims topic issuer).present = true) : 1 ≤ self.countByTopic topic := by
  have member : issuer ∈ self.issuersOf topic := existing
  rw [slots.counted topic]
  exact (Set.ncard_pos).mpr ⟨issuer, member⟩

/-- An admissible submission is its slot accounting. -/
theorem submitClaim_of_admissible
    (admissible : self.Admissible this registry issuerAt msgSender topic issuer sig data) :
    self.submitClaim this registry issuerAt msgSender topic issuer sig data = (do
      let counts ← self.takeSlot topic issuer
      return ({ self with
        claims := store self.claims topic issuer (submitted topic issuer sig data)
        countByTopic := counts },
        keccak256 (packed (word (addressWord issuer)) ++ packed (word topic)))) := by
  obtain ⟨holder, trusted, valid⟩ := admissible
  have keyed : self.onlyClaimKey msgSender = .ok () := onlyClaimKey_eq_ok.mpr holder
  rw [submitClaim, keyed, ok_bind, revertIf_false _ (by simp [trusted]), ok_bind, valid, ok_bind,
    revertIf_false _ (by simp), ok_bind]
  rfl

omit [Crypto Hash] in
theorem takeSlot_existing (existing : (self.claims topic issuer).present = true) :
    self.takeSlot topic issuer = .ok self.countByTopic := by
  rw [takeSlot, if_pos existing]
  rfl

omit [Crypto Hash] in
theorem takeSlot_of_room (room : self.countByTopic topic < MAX_CLAIMS_PER_TOPIC) :
    ∃ counts, self.takeSlot topic issuer = .ok counts := by
  by_cases existing : (self.claims topic issuer).present = true
  · exact ⟨_, takeSlot_existing existing⟩
  · have fits : self.countByTopic topic + 1 < uint256Modulus := lt_of_le_of_lt room (by decide)
    rw [takeSlot, if_neg existing, revertIf_false _ (Nat.not_le.mpr room), ok_bind, checkedAdd,
      if_pos fits]
    exact ⟨_, rfl⟩

omit [Crypto Hash] in
/-- A new pair is refused exactly at the cap; everything else gets its slot. -/
theorem takeSlot_eq_cap (slots : SlotsCounted self) :
    self.takeSlot topic issuer = .error (.custom .TopicCap) ↔
      issuer ∉ self.issuersOf topic ∧ self.countByTopic topic = MAX_CLAIMS_PER_TOPIC := by
  have bound := slots.capped topic
  constructor
  · intro refused
    constructor
    · intro existing
      rw [takeSlot_existing existing] at refused
      cases refused
    · by_contra notFull
      obtain ⟨counts, taken⟩ : ∃ counts, self.takeSlot topic issuer = .ok counts :=
        takeSlot_of_room (lt_of_le_of_ne bound notFull)
      rw [taken] at refused
      cases refused
  · rintro ⟨missing, full⟩
    have fresh : ¬ (self.claims topic issuer).present = true := missing
    rw [takeSlot, if_neg fresh, revertIf_true _ full.ge]
    rfl

/-- A key holder removes an existing claim. -/
theorem revokeClaim_of_existing (slots : SlotsCounted self)
    (holder : self.keyHasPurpose (keyForAddress msgSender) KeyPurpose.CLAIM = true)
    (existing : (self.claims topic issuer).present = true) :
    self.revokeClaim msgSender topic issuer = .ok { self with
      claims := store self.claims topic issuer Claim.none
      countByTopic := Function.update self.countByTopic topic (self.countByTopic topic - 1) } := by
  have keyed : self.onlyClaimKey msgSender = .ok () := onlyClaimKey_eq_ok.mpr holder
  have enough : ¬ self.countByTopic topic < 1 := Nat.not_lt.mpr (slots.positive existing)
  rw [revokeClaim, keyed, ok_bind, revertIf_false _ (by simp [existing]), ok_bind, checkedSub,
    if_neg enough]
  rfl

theorem revokeClaim_never_underflows (slots : SlotsCounted self) :
    self.revokeClaim msgSender topic issuer ≠ .error (.panic 0x11) := by
  by_cases holder : self.keyHasPurpose (keyForAddress msgSender) KeyPurpose.CLAIM = true
  · have keyed : self.onlyClaimKey msgSender = .ok () := onlyClaimKey_eq_ok.mpr holder
    by_cases existing : (self.claims topic issuer).present = true
    · rw [revokeClaim_of_existing slots holder existing]
      simp
    · rw [revokeClaim, keyed, ok_bind, revertIf_true _ (by simpa using existing)]
      simp
  · have refused : self.onlyClaimKey msgSender = .error (.custom .NoClaimKey) :=
      revertIf_true _ (by simpa using holder)
    rw [revokeClaim, refused]
    simp

/-- A removal at the cap leaves room for whatever its key holders submit next. -/
theorem lands_after_removal {later old : Address}
    (full : self.countByTopic topic = MAX_CLAIMS_PER_TOPIC)
    (admissible : self.Admissible this registry issuerAt later topic issuer sig data) :
    ∃ next claimId, ({ self with
        claims := store self.claims topic old Claim.none
        countByTopic := Function.update self.countByTopic topic
          (self.countByTopic topic - 1) } : Identity Hash).submitClaim this registry issuerAt later
        topic issuer sig data = .ok (next, claimId) ∧ issuer ∈ next.issuersOf topic := by
  generalize freed : ({ self with
    claims := store self.claims topic old Claim.none
    countByTopic := Function.update self.countByTopic topic
      (self.countByTopic topic - 1) } : Identity Hash) = reached
  have keys : reached.keyPurposes = self.keyPurposes := by rw [← freed]
  have room : reached.countByTopic topic < MAX_CLAIMS_PER_TOPIC := by
    simp [← freed, full, MAX_CLAIMS_PER_TOPIC]
  have still : reached.Admissible this registry issuerAt later topic issuer sig data := by
    refine ⟨?_, admissible.trusted, admissible.valid⟩
    rw [keyHasPurpose, keys]
    exact admissible.keyed
  obtain ⟨counts, taken⟩ : ∃ counts, reached.takeSlot topic issuer = .ok counts :=
    takeSlot_of_room room
  rw [submitClaim_of_admissible still, taken]
  refine ⟨_, _, rfl, ?_⟩
  simp [issuersOf, submitted]

/-! ## Where a stored claim comes from -/

/-- The only call that makes a slot hold a claim is its submission. -/
theorem step_stores {input : Asked} (done : step this self input = .ok next)
    (before : self.claims topic issuer ≠ claim) (after : next.claims topic issuer = claim)
    (present : claim.present = true) :
    claim = submitted topic issuer claim.signature claim.data ∧
      input.call = .submitClaim topic issuer claim.signature claim.data ∧
      self.Admissible this input.registry input.issuerAt input.sender topic issuer claim.signature
        claim.data := by
  rcases call_slot done topic issuer with left | cleared | submission
  · exact absurd (left.symm.trans after) before
  · obtain rfl : Claim.none = claim := cleared.symm.trans after
    cases present
  · obtain ⟨sig, data, request, held, holder, trusted, valid⟩ := submission
    obtain rfl : submitted topic issuer sig data = claim := held.symm.trans after
    exact ⟨rfl, request, holder, trusted, valid⟩

theorem stored_when_valid [DecidableEq Hash] {start : Identity Hash} {owner registryAddress : Address}
    (deployed : deploy owner registryAddress = .ok start) {inputs : List Asked}
    (member : issuer ∈ (exec (step this) start inputs).issuersOf topic) :
    ((exec (step this) start inputs).claims topic issuer).topic = topic ∧
      ((exec (step this) start inputs).claims topic issuer).issuer = issuer ∧
      StoredWhenValid this start inputs topic issuer
        ((exec (step this) start inputs).claims topic issuer) := by
  have present : ((exec (step this) start inputs).claims topic issuer).present = true := member
  generalize held : (exec (step this) start inputs).claims topic issuer = claim at present ⊢
  have absent : start.claims topic issuer ≠ claim := by
    rw [deploy_claims deployed]
    rintro rfl
    simp [Claim.none] at present
  obtain ⟨before, input, after, next, split, missing, committed, holds⟩ :=
    exec_turning_point (fun later : Identity Hash => later.claims topic issuer = claim) absent held
  obtain ⟨fields, request, admissible⟩ := step_stores committed missing holds present
  refine ⟨?_, ?_, before, input, after, next, split, committed, request, admissible, holds⟩
  · rw [fields]
    rfl
  · rw [fields]
    rfl

end Counter

/-- **Claim slots.** After any run of submissions and removals by any callers,
whatever the registry and the issuers answer, the slot laws hold. -/
theorem claim_slots [DecidableEq Hash] {owner registryAddress this : Address} {start : Identity Hash}
    (deployed : deploy owner registryAddress = .ok start) (inputs : List Asked) :
    SlotLaws this start inputs (exec (step this) start inputs) := by
  have slots : SlotsCounted (exec (step this) start inputs) :=
    exec_preserves (fun _ _ _ held done => step_slotsCounted held done) (deploy_slotsCounted deployed)
      inputs
  generalize reached : exec (step this) start inputs = self at slots ⊢
  refine ⟨slots.counted, slots.capped, ?_, ?_, ?_, ?_, ?_, ?_⟩
  · intro topic issuer member
    subst reached
    exact stored_when_valid deployed member
  · intro msgSender topic issuer
    exact revokeClaim_never_underflows slots
  · intro registry issuerAt msgSender topic issuer sig data admissible
    rw [submitClaim_of_admissible admissible, ← takeSlot_eq_cap slots]
    cases self.takeSlot topic issuer <;> simp
  · intro registry issuerAt msgSender topic issuer sig data admissible existing
    rw [submitClaim_of_admissible admissible, takeSlot_existing existing]
    exact ⟨_, _, rfl, rfl, rfl⟩
  · intro input error rejected
    exact settle_error rejected
  · intro topic old msgSender full existing holder
    refine ⟨_, revokeClaim_of_existing slots holder existing, ?_⟩
    intro registry issuerAt later issuer sig data admissible
    exact lands_after_removal full admissible

/-- An issuer that calls everything valid, trusted for everything. -/
def anyClaim : Address → IClaimIssuer := fun _ _ _ _ _ => .returned (encodeBool true)

def openRegistry : IssuerRegistry where
  accessControl := .standard
  access := AccessControl.vacant
  trusted _ _ := true
  issuers _ := []
  idx1 _ _ := 0

/-- A holder submits, submits again, and removes: one slot, then none. -/
def slotRun : List Asked :=
  [⟨11, openRegistry, anyClaim, .submitClaim 5 20 [1] [2]⟩,
    ⟨11, openRegistry, anyClaim, .submitClaim 5 20 [1] [3]⟩,
    ⟨12, openRegistry, anyClaim, .revokeClaim 5 20⟩,
    ⟨11, openRegistry, anyClaim, .submitClaim 5 21 [1] [2]⟩,
    ⟨11, openRegistry, anyClaim, .revokeClaim 5 21⟩]

/-- The identity of wallet 11 under the registry at 1. -/
def ownIdentity : Identity Symbolic where
  keyPurposes := ownerKeys 11
  claims _ _ := Claim.none
  countByTopic _ := 0
  issuerRegistry := 1

/-- The one issuer left is the one whose removal a stranger tried. -/
theorem claim_slots_of_slotRun :
    ((exec (step 30) ownIdentity slotRun).issuersOf 5).ncard = 1 ∧
      ((exec (step 30) ownIdentity slotRun).claims 5 20).issuer = 20 := by
  have deployed : deploy 11 1 = .ok ownIdentity := rfl
  have laws : SlotLaws 30 ownIdentity slotRun (exec (step 30) ownIdentity slotRun) :=
    claim_slots deployed slotRun
  have one : (exec (step 30) ownIdentity slotRun).countByTopic 5 = 1 := by decide +kernel
  have left : ((exec (step 30) ownIdentity slotRun).claims 5 20).present = true := by decide +kernel
  exact ⟨(laws.counted 5).symm.trans one, (laws.stored 5 20 left).2.1⟩

end PassportKit.Identity
