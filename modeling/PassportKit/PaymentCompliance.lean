import PassportKit.PaymentSafety

/-! Whether the house pays only while enough of its approvers are compliant. The
approvals are counted when they are given and never asked about again, so an
approver's eligibility can lapse between its approval and the execution, which
anyone may trigger. The condition below is what the code leaves to chance: no
change of the chain strands a fully approved payment below its quorum, and no
approval completes a quorum that has already lapsed. -/
namespace PassportKit
open Evm OpenZeppelin Runs

namespace HouseTreasury

/-- The owners counted for a payment. -/
def approvers (self : HouseTreasury) (id : ℕ) : List Address := self.owners.filter (self.approvedBy id)

/-- Those of them the gate accepts now. -/
def eligibleApprovals (self : HouseTreasury) (env : Env) (id : ℕ) : ℕ :=
  (self.approvers id).countP fun owner => self.Eligible env owner

/-- `executePayment(id)` would pass its checks. -/
structure Executable (treasury : HouseTreasury) (id : ℕ) : Prop where
  known : (treasury.payments id).vendor ≠ 0
  pending : (treasury.payments id).executed = false
  enough : treasury.APPROVAL_THRESHOLD ≤ (treasury.payments id).approvals

variable {self next : HouseTreasury} {env : Env} {msgSender : Address} {id : ℕ}

theorem executePayment_succeeds_iff :
    (∃ result, self.executePayment id = .ok result) ↔ self.Executable id := by
  constructor
  · rintro ⟨⟨next, request⟩, done⟩
    obtain ⟨known, pending, enough, -, -⟩ := executePayment_changes done
    exact ⟨known, pending, enough⟩
  · rintro ⟨known, pending, enough⟩
    have reached : ¬ (self.payments id).approvals < self.APPROVAL_THRESHOLD := not_lt.mpr enough
    exact ⟨_, by simp [executePayment, revertIf, known, pending, reached]; rfl⟩

theorem Counted.approvals_eq (counted : self.Counted) :
    (self.payments id).approvals = (self.approvers id).length := by
  rw [counted.count, List.countP_eq_length_filter, approvers]

/-- With every counted approver eligible, the eligible ones are all of them. -/
theorem Counted.eligibleApprovals_of_all (counted : self.Counted)
    (all : ∀ owner, self.approvedBy id owner = true → self.Eligible env owner) :
    self.eligibleApprovals env id = (self.payments id).approvals := by
  rw [counted.approvals_eq, eligibleApprovals, List.countP_eq_length]
  intro owner member
  exact decide_eq_true (all owner (List.mem_filter.mp member).2)

/-- One counted approver that is not eligible makes them fewer. -/
theorem Counted.eligibleApprovals_lt (counted : self.Counted) {owner : Address}
    (approved : self.approvedBy id owner = true) (lapsed : ¬ self.Eligible env owner) :
    self.eligibleApprovals env id < (self.payments id).approvals := by
  rw [counted.approvals_eq, eligibleApprovals, List.countP_lt_length_iff]
  exact ⟨owner, List.mem_filter.mpr ⟨counted.counted id owner approved, approved⟩,
    decide_eq_false lapsed⟩

/-- Approving only adds to the eligible approvals. -/
theorem Approved.eligibleApprovals_le (approved : Approved self next env msgSender id) (other : ℕ) :
    self.eligibleApprovals env other ≤ next.eligibleApprovals env other := by
  simp only [eligibleApprovals, approvers, List.countP_filter]
  rw [approved.changed]
  refine List.countP_mono_left fun owner _ counted => ?_
  obtain ⟨eligible, voted⟩ := Bool.and_eq_true_iff.mp counted
  refine Bool.and_eq_true_iff.mpr ⟨eligible, ?_⟩
  simp only [store_apply]
  split
  · rfl
  · exact voted

end HouseTreasury

namespace House

variable {s t start last : House} {event : Event} {log : List (Entry House Event)} {id : ℕ}

/-- The condition on one transition: a change of the chain leaves every fully
approved, unexecuted payment with enough eligible approvers, and an approval
reaches the threshold only while the earlier approvers are still eligible. -/
def KeepsQuorum (entry : Entry House Event) : Prop :=
  match entry.event with
  | .environment env => ∀ id, entry.before.treasury.Executable id →
      entry.before.treasury.APPROVAL_THRESHOLD ≤ entry.before.treasury.eligibleApprovals env id
  | .call _ (.approvePayment id) =>
      (entry.before.treasury.payments id).approvals + 1 = entry.before.treasury.APPROVAL_THRESHOLD →
      ∀ owner, entry.before.treasury.approvedBy id owner = true →
        entry.before.treasury.Eligible entry.before.env owner
  | _ => True

/-- Every payment that could be executed now has enough eligible approvers. -/
def Quorate (house : House) : Prop :=
  ∀ id, house.treasury.Executable id →
    house.treasury.APPROVAL_THRESHOLD ≤ house.treasury.eligibleApprovals house.env id

theorem Quorate.of_call (sound : Sound s) (quorate : Quorate s) {sender : Address}
    {request : HouseTreasury.Call} {treasury : HouseTreasury} {scrip : HouseToken}
    (done : s.treasury.call s.address s.env s.scrip sender request = .ok (treasury, scrip))
    (kept : KeepsQuorum ⟨s, .call sender request, { s with treasury, scrip }⟩) :
    Quorate { s with treasury, scrip } := by
  intro id executable
  rcases HouseTreasury.call_changes done with
    ⟨mandate, rfl, -⟩ | ⟨_, _, _, rfl, proposed⟩ | ⟨voted, rfl, approved⟩
  · exact quorate id ⟨executable.known, executable.pending, executable.enough⟩
  · -- the new payment has no approvals yet; the others are as they were
    obtain ⟨-, -, rfl⟩ := proposed
    obtain ⟨known, pending, enough⟩ := executable
    by_cases same : id = s.treasury.nextPaymentId
    · subst same
      simp only [Function.update_self, nonpos_iff_eq_zero] at enough
      simp [enough]
    · simp only [Function.update_of_ne same] at known pending enough
      exact quorate id ⟨known, pending, enough⟩
  · have before := quorate id
    by_cases same : id = voted
    · subst same
      by_cases already : s.treasury.APPROVAL_THRESHOLD ≤ (s.treasury.payments id).approvals
      · have was := before ⟨approved.known, approved.pending, already⟩
        have grows := approved.eligibleApprovals_le id
        rw [approved.changed] at grows ⊢
        exact was.trans grows
      · -- this approval completes the quorum: everyone counted is eligible
        have counted := sound.books.approved approved
        have enough := executable.enough
        rw [approved.changed] at enough
        simp only [Function.update_self] at enough
        have exactly : (s.treasury.payments id).approvals + 1 = s.treasury.APPROVAL_THRESHOLD := by omega
        have all : ∀ owner, treasury.approvedBy id owner = true → treasury.Eligible s.env owner := by
          intro owner counts
          rw [approved.changed] at counts ⊢
          simp only [store_apply] at counts
          split at counts
          · rename_i here
            exact here.2 ▸ approved.eligible
          · exact kept exactly owner counts
        rw [counted.eligibleApprovals_of_all all]
        exact executable.enough
    · have grows := approved.eligibleApprovals_le id
      obtain ⟨known, pending, enough⟩ := executable
      rw [approved.changed] at known pending enough grows ⊢
      simp only [Function.update_of_ne same] at known pending enough
      exact (before ⟨known, pending, enough⟩).trans grows

/-- **Step lemma.** A transition meeting the condition keeps every quorum. -/
theorem Atom.quorate (sound : Sound s) (quorate : Quorate s) (kept : KeepsQuorum ⟨s, event, t⟩)
    (atom : Atom s event t) : Quorate t := by
  cases atom with
  | call _ done => exact quorate.of_call sound done kept
  | @begins sender began _ _ _ done =>
    obtain ⟨-, -, -, -, rfl⟩ := HouseTreasury.executePayment_changes done
    rintro id ⟨known, pending, enough⟩
    by_cases same : id = began
    · subst same
      simp at pending
    · simp only [Function.update_of_ne same] at known pending enough
      exact quorate id ⟨known, pending, enough⟩
  | pays _ => exact quorate
  | pulls _ _ => exact quorate
  | token _ _ => exact quorate
  | scrip _ _ => exact quorate
  | environment env => exact kept

theorem Built.quorate (built : Built start) : Quorate start := by
  obtain ⟨⟨_, _, _, _, _, _, _, deployed⟩, -⟩ := built
  obtain ⟨-, blank, -, -, -⟩ := HouseTreasury.deploy_counted deployed
  intro id executable
  exact absurd (by simp [blank, PendingPayment.none]) executable.known

/-- A payment that begins could be executed. -/
theorem Atom.executable {sender : Address} {request : TokenRequest}
    (atom : Atom s (.begins sender id request) t) : s.treasury.Executable id := by
  cases atom with
  | begins _ done => exact HouseTreasury.executePayment_succeeds_iff.mp ⟨_, done⟩

/-- A committed transition that misses the condition leaves a payment anyone can
execute with too few eligible approvers. -/
theorem Atom.strands (sound : Sound s) (atom : Atom s event t) (lapses : ¬ KeepsQuorum ⟨s, event, t⟩) :
    ∃ id, t.treasury.Executable id ∧
      t.treasury.eligibleApprovals t.env id < t.treasury.APPROVAL_THRESHOLD := by
  cases atom with
  | begins _ _ => exact absurd trivial lapses
  | pays _ => exact absurd trivial lapses
  | pulls _ _ => exact absurd trivial lapses
  | token _ _ => exact absurd trivial lapses
  | scrip _ _ => exact absurd trivial lapses
  | environment env =>
    simp only [KeepsQuorum, not_forall, not_le] at lapses
    obtain ⟨id, executable, few⟩ := lapses
    exact ⟨id, executable, few⟩
  | @call sender request treasury scrip _ done =>
    rcases HouseTreasury.call_changes done with
      ⟨mandate, -, other⟩ | ⟨_, _, _, rfl, proposed⟩ | ⟨voted, rfl, approved⟩
    · cases request with
      | approvePayment voted => exact absurd rfl (other voted)
      | grantMandate _ _ _ => exact absurd trivial lapses
      | revokeMandate => exact absurd trivial lapses
      | fundConcierge _ => exact absurd trivial lapses
      | reclaimBudget _ => exact absurd trivial lapses
      | proposePayment _ _ _ => exact absurd trivial lapses
    · exact absurd trivial lapses
    · simp only [KeepsQuorum, not_forall] at lapses
      obtain ⟨completes, owner, counts, lapsed⟩ := lapses
      have counted := sound.books.approved approved
      refine ⟨voted, ⟨?_, ?_, ?_⟩, ?_⟩
      · simpa [approved.changed] using approved.known
      · simpa [approved.changed] using approved.pending
      · simp [approved.changed, completes]
      · have still : treasury.approvedBy voted owner = true := by
          rw [approved.changed]
          simp only [store_apply]
          split
          · rfl
          · exact counts
        have ineligible : ¬ treasury.Eligible s.env owner := by rwa [approved.changed]
        have less := counted.eligibleApprovals_lt still ineligible
        refine less.trans_le ?_
        simp [approved.changed, completes]

/-- What the house promises of an executed payment: enough of the owners counted
for it are eligible at that moment. -/
def PaysWithQuorum (entry : Entry House Event) : Prop :=
  ∀ sender id request, entry.event = .begins sender id request →
    entry.before.treasury.APPROVAL_THRESHOLD ≤
      entry.before.treasury.eligibleApprovals entry.before.env id

/-- **Compliance at execution.** In every run whose transitions all meet the
condition, every executed payment has enough eligible approvers; and a committed
transition that misses it leaves a payment whose execution goes through without
them. -/
theorem pays_with_quorum (built : Built start) (run : Run start log last) :
    ((∀ entry ∈ log, KeepsQuorum entry) → ∀ entry ∈ log, PaysWithQuorum entry) ∧
    (∀ entry ∈ log, ¬ KeepsQuorum entry → ∃ id result,
      entry.after.treasury.executePayment id = .ok result ∧
      entry.after.treasury.eligibleApprovals entry.after.env id <
        entry.after.treasury.APPROVAL_THRESHOLD) := by
  have passed : ∀ entry ∈ log, Sound entry.before ∧ Atom entry.before entry.event entry.after :=
    fun entry member => run.trace.of_mem (fun _ _ _ held atom => atom.sound held) built.sound member
  constructor
  · intro kept entry member
    have step : ∀ before event after, Sound before ∧ Quorate before →
        KeepsQuorum ⟨before, event, after⟩ → Atom before event after → Sound after ∧ Quorate after :=
      fun _ _ _ held allowed atom => ⟨atom.sound held.1, atom.quorate held.1 held.2 allowed⟩
    have quorate := (run.trace.preserves_along step ⟨built.sound, built.quorate⟩ kept).2
    intro sender id request begins
    have atom := (passed entry member).2
    rw [begins] at atom
    exact (quorate entry member).2 id atom.executable
  · intro entry member lapses
    obtain ⟨sound, atom⟩ := passed entry member
    obtain ⟨id, executable, few⟩ := atom.strands sound lapses
    obtain ⟨result, done⟩ := HouseTreasury.executePayment_succeeds_iff.mpr executable
    exact ⟨id, result, done, few⟩

/-- With nobody revoked, the small house pays with its quorum. -/
theorem pays_with_quorum_twoOwners : ∃ log last, Run twoOwners log last ∧ paidIds log = [1] ∧
    ∀ entry ∈ log, PaysWithQuorum entry := by
  have pays := run_served (s := approved) (by decide) (by decide) (by decide) (by decide)
  have run := run_toApproved pays
  have last : (⟨halfApproved, .call 2 (.approvePayment 1), approved⟩ : Entry House Event) ∈
      toApproved := by simp [toApproved]
  have sound : Sound halfApproved :=
    (run.trace.of_mem (fun _ _ _ held atom => atom.sound held) twoOwners_built.sound
      (List.mem_append_left _ last)).1
  refine ⟨_, _, run, rfl, (pays_with_quorum twoOwners_built run).1 fun entry member => ?_⟩
  simp only [toApproved, List.cons_append, List.nil_append, List.mem_cons, List.not_mem_nil,
    or_false] at member
  rcases member with rfl | rfl | rfl | rfl | rfl | rfl
  · trivial
  · trivial
  · intro completes
    exact absurd completes (by decide)
  · -- only owner 1 was counted before, and it is still eligible
    intro _ owner counts
    have listed : owner ∈ [1, 2] := sound.books.counted 1 owner counts
    rcases List.mem_cons.mp listed with rfl | last
    · exact (by decide : halfApproved.treasury.Eligible halfApproved.env 1)
    · obtain rfl := List.mem_singleton.mp last
      exact absurd counts (by decide)
  · trivial
  · trivial

/-- After both approvals owner 2 is revoked, and anyone pushes the payment out. -/
theorem revoked_approver_still_pays :
    ¬ (∀ start last log, Built start → Run start log last → ∀ entry ∈ log, PaysWithQuorum entry) ∧
    ∃ log last, Run twoOwners log last ∧ paidIds log = [1] ∧ last.cash.balances 9 = 30 ∧
      last.treasury.eligibleApprovals last.env 1 < last.treasury.APPROVAL_THRESHOLD := by
  let revoked : House := { approved with env := gateRefusing [102] }
  have change : Atom approved (.environment (gateRefusing [102])) revoked := .environment _
  have plain : (Event.environment (gateRefusing [102])).Plain := trivial
  have pays : Run revoked _ revoked.served := run_served (by decide) (by decide) (by decide) (by decide)
  have run := run_toApproved (.plain plain change pays)
  have few : revoked.treasury.eligibleApprovals revoked.env 1 < revoked.treasury.APPROVAL_THRESHOLD := by
    decide
  refine ⟨fun compliant => ?_, _, _, run, rfl, by decide, by decide⟩
  have quorum := compliant _ _ _ twoOwners_built run
    ⟨revoked, .begins 7 1 (.safeTransfer 9 30), revoked.begun⟩ (by simp) 7 1 _ rfl
  exact absurd quorum (not_le.mpr few)

end House

end PassportKit
