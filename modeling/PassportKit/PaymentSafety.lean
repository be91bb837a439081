import PassportKit.TreasuryRuns

/-! Payment safety: what a treasury's books and its money say after any run,
re-entrant ones included. Each fact about the books is kept by every atom; that
nothing is paid twice comes from the flag being set before the token runs. -/
namespace PassportKit
open Evm OpenZeppelin Runs

namespace House

variable {s t start : House} {event : Event} {log past future : List (Entry House Event)} {id : ℕ}

/-- The books count, and nobody may spend the treasury's money. -/
structure Sound (house : House) : Prop where
  books : house.treasury.Counted
  unspent : ∀ spender, house.cash.allowances house.address spender = 0

theorem Atom.address (atom : Atom s event t) : t.address = s.address := by
  cases atom <;> rfl

/-- Only a call or the start of a payment touches the books. -/
theorem Atom.treasury_changes (atom : Atom s event t) :
    t.treasury = s.treasury ∨
      (∃ sender request scrip, event = .call sender request ∧
        s.treasury.call s.address s.env s.scrip sender request = .ok (t.treasury, scrip)) ∨
      ∃ sender id request, event = .begins sender id request ∧
        s.treasury.executePayment id = .ok (t.treasury, request) := by
  cases atom with
  | call _ done => exact .inr (.inl ⟨_, _, _, rfl, done⟩)
  | begins _ done => exact .inr (.inr ⟨_, _, _, rfl, done⟩)
  | pays _ => exact .inl rfl
  | pulls _ _ => exact .inl rfl
  | token _ _ => exact .inl rfl
  | scrip _ _ => exact .inl rfl
  | environment _ => exact .inl rfl

theorem Atom.counted (counted : s.treasury.Counted) (atom : Atom s event t) : t.treasury.Counted := by
  rcases atom.treasury_changes with same | ⟨_, _, _, -, done⟩ | ⟨_, _, _, -, done⟩
  · exact same ▸ counted
  · exact counted.called done
  · exact counted.executed done

/-- The treasury never approves a spender. -/
theorem Atom.unspent (unspent : ∀ spender, s.cash.allowances s.address spender = 0)
    (atom : Atom s event t) : ∀ spender, t.cash.allowances t.address spender = 0 := by
  intro spender
  cases atom with
  | call _ _ => exact unspent spender
  | begins _ _ => exact unspent spender
  | scrip _ _ => exact unspent spender
  | environment _ => exact unspent spender
  | pays served =>
    have same := congrFun (congrFun served.allowances s.address) spender
    exact same.trans (unspent spender)
  | pulls _ served =>
    have bound := served.allowances s.address spender
    rw [unspent spender] at bound
    exact Nat.le_zero.mp bound
  | token other ordinary =>
    by_contra raised
    have above : s.cash.allowances s.address spender < _ :=
      (unspent spender).symm ▸ Nat.pos_of_ne_zero raised
    exact other (ordinary.allowances s.address spender above).symm

/-- **Step lemma.** -/
theorem Atom.sound (sound : Sound s) (atom : Atom s event t) : Sound t :=
  ⟨atom.counted sound.books, atom.unspent sound.unspent⟩

/-- Money leaves the treasury only when the token serves a payment. -/
theorem Atom.outflow (sound : Sound s) (atom : Atom s event t)
    (leaves : t.cash.balances s.address < s.cash.balances s.address) :
    ∃ id request, event = .pays id request := by
  cases atom with
  | pays _ => exact ⟨_, _, rfl⟩
  | call _ _ => exact absurd leaves (lt_irrefl _)
  | begins _ _ => exact absurd leaves (lt_irrefl _)
  | scrip _ _ => exact absurd leaves (lt_irrefl _)
  | environment _ => exact absurd leaves (lt_irrefl _)
  | pulls other served =>
    have moved := congrFun served.balances s.address
    rw [moved] at leaves
    obtain ⟨same, -⟩ := Erc20.loses_of_moved leaves
    exact absurd same.symm other
  | token other ordinary =>
    rcases ordinary.balances s.address leaves with same | allowed
    · exact absurd same.symm other
    · rw [sound.unspent] at allowed
      exact absurd allowed (lt_irrefl 0)

/-- What a payment is for, and that it was executed, is never rewritten. -/
structure KeepsRecord (before after : HouseTreasury) (id : ℕ) : Prop where
  vendor : (after.payments id).vendor = (before.payments id).vendor
  amount : (after.payments id).amount = (before.payments id).amount
  evidenceHash : (after.payments id).evidenceHash = (before.payments id).evidenceHash
  executed : (before.payments id).executed = true → (after.payments id).executed = true

theorem Atom.keepsRecord (atom : Atom s event t) (handedOut : id < s.treasury.nextPaymentId) :
    KeepsRecord s.treasury t.treasury id := by
  rcases atom.treasury_changes with same | ⟨sender, request, scrip, -, done⟩ | ⟨_, other, _, -, done⟩
  · rw [same]
    exact ⟨rfl, rfl, rfl, fun executed => executed⟩
  · rcases HouseTreasury.call_changes done with
      ⟨mandate, next, -⟩ | ⟨_, _, _, -, -, -, next⟩ | ⟨other, -, -, -, -, -, -, next⟩
    · rw [next]
      exact ⟨rfl, rfl, rfl, fun executed => executed⟩
    · have apart : id ≠ s.treasury.nextPaymentId := handedOut.ne
      constructor <;> simp [next, apart]
    · by_cases same : id = other
      · subst same
        constructor <;> simp [next]
      · constructor <;> simp [next, same]
  · obtain ⟨-, -, -, -, next⟩ := HouseTreasury.executePayment_changes done
    by_cases same : id = other
    · subst same
      constructor <;> simp [next]
    · constructor <;> simp [next, same]

theorem KeepsRecord.refl (treasury : HouseTreasury) (id : ℕ) : KeepsRecord treasury treasury id :=
  ⟨rfl, rfl, rfl, fun executed => executed⟩

theorem KeepsRecord.trans {first second third : HouseTreasury}
    (earlier : KeepsRecord first second id) (later : KeepsRecord second third id) :
    KeepsRecord first third id where
  vendor := later.vendor.trans earlier.vendor
  amount := later.amount.trans earlier.amount
  evidenceHash := later.evidenceHash.trans earlier.evidenceHash
  executed := fun executed => later.executed (earlier.executed executed)

/-- Ids handed out stay handed out. -/
theorem Atom.nextPaymentId_le (atom : Atom s event t) :
    s.treasury.nextPaymentId ≤ t.treasury.nextPaymentId := by
  rcases atom.treasury_changes with same | ⟨sender, request, scrip, -, done⟩ | ⟨_, _, _, -, done⟩
  · rw [same]
  · rcases HouseTreasury.call_changes done with
      ⟨mandate, next, -⟩ | ⟨_, _, _, -, -, -, next⟩ | ⟨_, -, -, -, -, -, -, next⟩ <;> simp [next]
  · obtain ⟨-, -, -, -, next⟩ := HouseTreasury.executePayment_changes done
    rw [next]

/-- **Records are final.** -/
theorem trace_keepsRecord (trace : Trace Atom s log t) (handedOut : id < s.treasury.nextPaymentId) :
    KeepsRecord s.treasury t.treasury id := by
  induction trace with
  | nil state => exact .refl state.treasury id
  | cons atom _ ih =>
    exact (atom.keepsRecord handedOut).trans (ih (handedOut.trans_le atom.nextPaymentId_le))

theorem trace_sound (trace : Trace Atom s log t) (sound : Sound s) : Sound t :=
  trace.preserves (fun _ _ _ held atom => atom.sound held) sound

/-- A counted approval appears only when that owner, eligible, approves. -/
theorem Atom.approval {owner : Address} (atom : Atom s event t)
    (before : s.treasury.approvedBy id owner ≠ true) (after : t.treasury.approvedBy id owner = true) :
    event = .call owner (.approvePayment id) ∧ s.treasury.isOwner owner = true ∧
      s.treasury.Eligible s.env owner := by
  rcases atom.treasury_changes with same | ⟨sender, request, scrip, rfl, done⟩ | ⟨_, other, _, -, done⟩
  · rw [same] at after
    exact absurd after before
  · rcases HouseTreasury.call_changes done with
      ⟨mandate, next, -⟩ | ⟨_, _, _, -, -, -, next⟩ | ⟨other, rfl, approved⟩
    · rw [next] at after
      exact absurd after before
    · rw [next] at after
      exact absurd after before
    · rw [approved.changed] at after
      simp only [store_apply] at after
      split at after
      · rename_i here
        obtain ⟨rfl, rfl⟩ := here
        exact ⟨rfl, approved.owner, approved.eligible⟩
      · exact absurd after before
  · obtain ⟨-, -, -, -, next⟩ := HouseTreasury.executePayment_changes done
    rw [next] at after
    exact absurd after before

/-- A payment appears only when the agent, in good standing, proposes it. -/
theorem Atom.proposal (atom : Atom s event t) (before : ¬ (s.treasury.payments id).vendor ≠ 0)
    (after : (t.treasury.payments id).vendor ≠ 0) :
    ∃ agent vendor amount evidenceHash, event = .call agent (.proposePayment vendor amount evidenceHash) ∧
      id = s.treasury.nextPaymentId ∧ s.treasury.InGoodStanding s.env agent ∧
      t.treasury.payments id = ⟨vendor, amount, evidenceHash, 0, false⟩ := by
  rcases atom.treasury_changes with same | ⟨sender, request, scrip, rfl, done⟩ | ⟨_, other, _, -, done⟩
  · rw [same] at after
    exact absurd after before
  · rcases HouseTreasury.call_changes done with
      ⟨mandate, next, -⟩ | ⟨vendor, amount, evidenceHash, rfl, proposed⟩ | ⟨other, -, approved⟩
    · rw [next] at after
      exact absurd after before
    · have next := proposed.changed
      by_cases same : id = s.treasury.nextPaymentId
      · refine ⟨sender, vendor, amount, evidenceHash, rfl, same, proposed.standing, ?_⟩
        simp [next, same]
      · simp only [next, Function.update_of_ne same] at after
        exact absurd after before
    · rw [approved.changed] at after
      by_cases same : id = other
      · exact absurd approved.known (same ▸ before)
      · simp only [Function.update_of_ne same] at after
        exact absurd after before
  · obtain ⟨known, -, -, -, next⟩ := HouseTreasury.executePayment_changes done
    rw [next] at after
    by_cases same : id = other
    · exact absurd known (same ▸ before)
    · simp only [Function.update_of_ne same] at after
      exact absurd after before

/-! ## Nothing is paid twice -/

/-- The payment ids the token served, in order. -/
def paidIds (log : List (Entry House Event)) : List ℕ :=
  log.filterMap fun entry =>
    match entry.event with
    | .pays id _ => some id
    | _ => none

@[simp] theorem paidIds_nil : paidIds [] = [] := rfl

@[simp] theorem paidIds_append (first second : List (Entry House Event)) :
    paidIds (first ++ second) = paidIds first ++ paidIds second :=
  List.filterMap_append

@[simp] theorem paidIds_pays (s t : House) (id : ℕ) (request : TokenRequest)
    (log : List (Entry House Event)) : paidIds (⟨s, .pays id request, t⟩ :: log) = id :: paidIds log := rfl

@[simp] theorem paidIds_pulls (s t : House) (request : TokenRequest) (log : List (Entry House Event)) :
    paidIds (⟨s, .pulls request, t⟩ :: log) = paidIds log := rfl

@[simp] theorem paidIds_begins (s t : House) (sender : Address) (id : ℕ) (request : TokenRequest)
    (log : List (Entry House Event)) : paidIds (⟨s, .begins sender id request, t⟩ :: log) = paidIds log := rfl

theorem paidIds_plain (s t : House) {event : Event} (plain : event.Plain)
    (log : List (Entry House Event)) : paidIds (⟨s, event, t⟩ :: log) = paidIds log := by
  cases event <;> first | rfl | exact absurd plain id

/-- Between two states some payments were executed, each once and for good. -/
structure Executes (s t : House) (ids : List ℕ) : Prop where
  once : ids.Nodup
  pending : ∀ id ∈ ids, (s.treasury.payments id).executed ≠ true
  executed : ∀ id ∈ ids, (t.treasury.payments id).executed = true

/-- Executions add up along a run. -/
theorem Executes.append {middle : House} {first second : List ℕ} (earlier : Executes s middle first)
    (later : Executes middle t second)
    (stays : ∀ id, (s.treasury.payments id).executed = true →
      (middle.treasury.payments id).executed = true)
    (stays' : ∀ id, (middle.treasury.payments id).executed = true →
      (t.treasury.payments id).executed = true) : Executes s t (first ++ second) := by
  refine ⟨?_, ?_, ?_⟩
  · rw [List.nodup_append]
    refine ⟨earlier.once, later.once, ?_⟩
    rintro id inFirst other inSecond rfl
    exact later.pending id inSecond (earlier.executed id inFirst)
  · intro id member
    rcases List.mem_append.mp member with inFirst | inSecond
    · exact earlier.pending id inFirst
    · exact fun executed => later.pending id inSecond (stays id executed)
  · intro id member
    rcases List.mem_append.mp member with inFirst | inSecond
    · exact stays' id (earlier.executed id inFirst)
    · exact later.executed id inSecond

theorem Executes.nil (s : House) : Executes s s [] :=
  ⟨List.nodup_nil, by simp, by simp⟩

theorem Executes.perm {first second : List ℕ} (same : first.Perm second) (executes : Executes s t first) :
    Executes s t second :=
  ⟨same.nodup_iff.mp executes.once, fun id member => executes.pending id (same.mem_iff.mpr member),
    fun id member => executes.executed id (same.mem_iff.mpr member)⟩

/-- The start of a payment executes exactly that payment. -/
theorem Atom.executes {sender : Address} {request : TokenRequest}
    (atom : Atom s (.begins sender id request) t) : Executes s t [id] := by
  cases atom with
  | begins _ done =>
    obtain ⟨-, pending, -, -, next⟩ := HouseTreasury.executePayment_changes done
    refine ⟨List.nodup_singleton id, ?_, ?_⟩
    · simp [pending]
    · simp [next]

/-- A transition of the token alone leaves the books alone. -/
theorem Atom.token_keeps {request : TokenRequest} (atom : Atom s event t)
    (served : (∃ id, event = .pays id request) ∨ event = .pulls request) :
    t.treasury = s.treasury := by
  rcases served with ⟨id, rfl⟩ | rfl
  · cases atom
    rfl
  · cases atom
    rfl

/-- **Paid once.** The payments served in a run are distinct, were pending at its
start and are executed at its end. -/
theorem Run.executes (run : Run s log t) (sound : Sound s) : Executes s t (paidIds log) := by
  have stays : ∀ {s t : House} {log : List (Entry House Event)}, Run s log t → Sound s →
      ∀ id, (s.treasury.payments id).executed = true → (t.treasury.payments id).executed = true :=
    fun run sound id executed =>
      (trace_keepsRecord run.trace (sound.books.handed_out_of_executed executed)).executed executed
  have onward : ∀ {s t u : House} {ids : List ℕ}, t.treasury = s.treasury → Executes t u ids →
      Executes s u ids := fun same executes => ⟨executes.once, same ▸ executes.pending, executes.executed⟩
  induction run with
  | done s => exact .nil s
  | @plain s t u event log plain atom rest ih =>
    have later := ih (atom.sound sound)
    rw [paidIds_plain s t plain]
    refine ⟨later.once, fun id member executed => later.pending id member ?_, later.executed⟩
    have handedOut := sound.books.handed_out_of_executed executed
    exact (atom.keepsRecord handedOut).executed executed
  | @executePayment s begun middle paid after u sender id request inner inner' log begins first pays
      second rest ihFirst ihSecond ihRest =>
    have begunSound := begins.sound sound
    have middleSound := trace_sound first.trace begunSound
    have paidSound := pays.sound middleSound
    have afterSound := trace_sound second.trace paidSound
    have served := pays.token_keeps (.inl ⟨id, rfl⟩)
    have tail : Executes middle u (paidIds inner' ++ paidIds log) :=
      onward served ((ihSecond paidSound).append (ihRest afterSound) (stays second paidSound)
        (stays rest afterSound))
    have inside : Executes begun u (paidIds inner ++ (paidIds inner' ++ paidIds log)) := by
      refine (ihFirst begunSound).append tail (stays first begunSound) fun other executed => ?_
      rw [← served] at executed
      exact stays rest afterSound other (stays second paidSound other executed)
    have start : ∀ other, (s.treasury.payments other).executed = true →
        (begun.treasury.payments other).executed = true := fun other executed =>
      (begins.keepsRecord (sound.books.handed_out_of_executed executed)).executed executed
    have whole := begins.executes.append inside start fun other executed => by
      have there := stays first begunSound other executed
      rw [← served] at there
      exact stays rest afterSound other (stays second paidSound other there)
    simp only [paidIds_begins, paidIds_append, paidIds_pays]
    exact whole.perm List.perm_middle.symm
  | @deposit s middle pulled after u sender amount inner inner' log first pulls second rest ihFirst
      ihSecond ihRest =>
    have middleSound := trace_sound first.trace sound
    have pulledSound := pulls.sound middleSound
    have afterSound := trace_sound second.trace pulledSound
    have served := pulls.token_keeps (.inr rfl)
    have tail : Executes middle u (paidIds inner' ++ paidIds log) :=
      onward served ((ihSecond pulledSound).append (ihRest afterSound) (stays second pulledSound)
        (stays rest afterSound))
    simp only [paidIds_append, paidIds_pulls]
    refine (ihFirst sound).append tail (stays first sound) fun other executed => ?_
    rw [← served] at executed
    exact stays rest afterSound other (stays second pulledSound other executed)

/-- A served payment asks for exactly what its record says, is executed, and is
inside a call that began it. -/
structure Recorded (log : List (Entry House Event)) (house : House) (id : ℕ) (request : TokenRequest) :
    Prop where
  executed : (house.treasury.payments id).executed = true
  asks : request = .safeTransfer (house.treasury.payments id).vendor (house.treasury.payments id).amount
  opened : ∃ entry ∈ log, ∃ sender, entry.event = .begins sender id request

theorem Recorded.mono {house : House} {request : TokenRequest} {more : List (Entry House Event)}
    (recorded : Recorded log house id request) (within : ∀ entry ∈ log, entry ∈ more) :
    Recorded more house id request := by
  obtain ⟨entry, member, began⟩ := recorded.opened
  exact ⟨recorded.executed, recorded.asks, entry, within entry member, began⟩

/-- **Paid as recorded.** -/
theorem Run.recorded (run : Run s log t) (sound : Sound s) :
    ∀ entry ∈ log, ∀ id request, entry.event = .pays id request →
      Recorded log entry.before id request := by
  induction run with
  | done s => simp
  | plain plain atom rest ih =>
    intro entry member id request pays
    rcases List.mem_cons.mp member with rfl | later
    · dsimp only at pays
      subst pays
      exact plain.elim
    · refine (ih (atom.sound sound) entry later id request pays).mono fun _ inside => ?_
      exact List.mem_cons_of_mem _ inside
  | @executePayment s begun middle paid after u sender began asked inner inner' log begins first serves
      second rest ihFirst ihSecond ihRest =>
    have begunSound := begins.sound sound
    have middleSound := trace_sound first.trace begunSound
    have paidSound := serves.sound middleSound
    intro entry member id request pays
    simp only [List.mem_cons, List.mem_append] at member
    rcases member with rfl | inInner | rfl | inInner' | inLog
    · cases pays
    · refine (ihFirst begunSound entry inInner id request pays).mono fun _ inside => ?_
      simp [inside]
    · obtain ⟨rfl, rfl⟩ := Event.pays.inj pays
      cases begins with
      | begins _ done =>
        obtain ⟨known, -, -, asks, next⟩ := HouseTreasury.executePayment_changes done
        have handedOut : began < ({ s with treasury := _ } : House).treasury.nextPaymentId :=
          begunSound.books.handed_out (by simpa [next] using known)
        have kept := trace_keepsRecord first.trace handedOut
        refine ⟨kept.executed (by simp [next]), ?_, _, List.mem_cons_self, sender, rfl⟩
        rw [kept.vendor, kept.amount, asks]
        simp [next]
    · refine (ihSecond paidSound entry inInner' id request pays).mono fun _ inside => ?_
      simp [inside]
    · refine (ihRest (trace_sound second.trace paidSound) entry inLog id request pays).mono
        fun _ inside => ?_
      simp [inside]
  | @deposit s middle pulled after u sender amount inner inner' log first pulls second rest ihFirst
      ihSecond ihRest =>
    have middleSound := trace_sound first.trace sound
    have pulledSound := pulls.sound middleSound
    intro entry member id request pays
    simp only [List.mem_cons, List.mem_append] at member
    rcases member with inInner | rfl | inInner' | inLog
    · refine (ihFirst sound entry inInner id request pays).mono fun _ inside => ?_
      simp [inside]
    · cases pays
    · refine (ihSecond pulledSound entry inInner' id request pays).mono fun _ inside => ?_
      simp [inside]
    · refine (ihRest (trace_sound second.trace pulledSound) entry inLog id request pays).mono
        fun _ inside => ?_
      simp [inside]

/-- Each wallet's identity is 100 above it, and the gate refuses some of them. -/
def gateRefusing (refused : List Address) : Env where
  block := { chainId := 1, timestamp := 100 }
  hasCode := fun _ => true
  gateAt := fun _ => ⟨fun identity _ =>
    .ok (if identity ∈ refused then (false, Reason.MISSING_KYC) else (true, Reason.OK))⟩
  resolverAt := fun _ => ⟨fun wallet => .ok ⟨wallet.bits + 100⟩⟩
  scoresAt := fun _ => ⟨fun _ => .ok 0⟩

/-- Owners 1 and 2 must both approve; the house at 50 holds 80. -/
def twoOwners : House where
  address := 50
  treasury := {
    SPEND_TOKEN := 60
    ELIGIBILITY_GATE := 61
    IDENTITY_RESOLVER := 62
    POLICY_ID := 1
    HOUSE_TOKEN := 63
    owners := [1, 2]
    isOwner := Function.update (Function.update (fun _ => false) 1 true) 2 true
    APPROVAL_THRESHOLD := 2
    mandate := ⟨0, 0, 0, false⟩
    nextPaymentId := 1
    payments := fun _ => PendingPayment.none
    approvedBy := fun _ _ => false }
  scrip := HouseToken.deploy .standard 50
  cash := { balances := Function.update (fun _ => 0) 50 80, allowances := fun _ _ => 0 }
  env := gateRefusing []

/-- A call, or nothing when it reverts. -/
def afterCall (s : House) (sender : Address) (request : HouseTreasury.Call) : House :=
  match s.treasury.call s.address s.env s.scrip sender request with
  | .ok (treasury, scrip) => { s with treasury, scrip }
  | .error _ => s

theorem Atom.of_call {sender : Address} {request : HouseTreasury.Call} (other : sender ≠ s.address)
    (commits : (s.treasury.call s.address s.env s.scrip sender request).isOk = true) :
    Atom s (.call sender request) (s.afterCall sender request) := by
  unfold afterCall
  cases done : s.treasury.call s.address s.env s.scrip sender request with
  | ok result => exact .call other done
  | error error => simp [done, Except.isOk, Except.toBool] at commits

/-- The agent 3 is mandated and proposes to pay 30 to the vendor 9. -/
def proposed : House :=
  (twoOwners.afterCall 1 (.grantMandate 3 100 0)).afterCall 3 (.proposePayment 9 30 7)

/-- One owner approves, then both. -/
def halfApproved : House := proposed.afterCall 1 (.approvePayment 1)
def approved : House := halfApproved.afterCall 2 (.approvePayment 1)

/-- The transitions up to both approvals. -/
def toApproved : List (Entry House Event) := [
  ⟨twoOwners, .call 1 (.grantMandate 3 100 0), twoOwners.afterCall 1 (.grantMandate 3 100 0)⟩,
  ⟨twoOwners.afterCall 1 (.grantMandate 3 100 0), .call 3 (.proposePayment 9 30 7), proposed⟩,
  ⟨proposed, .call 1 (.approvePayment 1), halfApproved⟩,
  ⟨halfApproved, .call 2 (.approvePayment 1), approved⟩]

theorem Run.after_call {sender : Address} {request : HouseTreasury.Call} (other : sender ≠ s.address)
    (commits : (s.treasury.call s.address s.env s.scrip sender request).isOk = true)
    (rest : Run (s.afterCall sender request) log t) :
    Run s (⟨s, .call sender request, s.afterCall sender request⟩ :: log) t :=
  .plain trivial (.of_call other commits) rest

/-- Any run from there is the tail of a run of the built house. -/
theorem run_toApproved (rest : Run approved log t) : Run twoOwners (toApproved ++ log) t := by
  have second := Run.after_call (s := halfApproved) (by decide) (by decide) rest
  have first := Run.after_call (s := proposed) (by decide) (by decide) second
  have proposal := Run.after_call (by decide) (by decide) first
  exact Run.after_call (by decide) (by decide) proposal

/-- The payment's flag is set. -/
def begun (s : House) : House :=
  { s with treasury := { s.treasury with
      payments := Function.update s.treasury.payments 1 { s.treasury.payments 1 with executed := true } } }

/-- The payment is served, with nothing in between. -/
def served (s : House) : House :=
  { s.begun with cash := { s.cash with
      balances := Erc20.credit (Erc20.debit s.cash.balances s.address 30) 9 30 } }

theorem run_served (other : 7 ≠ s.address) (funds : 30 ≤ s.cash.balances s.address)
    (payment : s.treasury.payments 1 = ⟨9, 30, 7, 2, false⟩) (threshold : s.treasury.APPROVAL_THRESHOLD = 2) :
    Run s [⟨s, .begins 7 1 (.safeTransfer 9 30), s.begun⟩,
      ⟨s.begun, .pays 1 (.safeTransfer 9 30), s.served⟩] s.served := by
  have begins : Atom s (.begins 7 1 (.safeTransfer 9 30)) s.begun := by
    refine .begins other ?_
    simp only [HouseTreasury.executePayment, payment, threshold]
    rfl
  have pays : Atom s.begun (.pays 1 (.safeTransfer 9 30)) s.served := .pays ⟨funds, rfl, rfl⟩
  exact .executePayment begins (.done _) pays (.done _) (.done _)

/-! ## Payment safety -/

/-- A treasury from its constructor, at a fresh address: nobody has an allowance
of its money. -/
structure Built (house : House) : Prop where
  constructed : ∃ owners_ approvalThreshold_ spendToken gate resolver houseToken policyId,
    HouseTreasury.deploy owners_ approvalThreshold_ spendToken gate resolver houseToken policyId =
      .ok house.treasury
  unspent : ∀ spender, house.cash.allowances house.address spender = 0

theorem Built.sound (built : Built start) : Sound start := by
  obtain ⟨⟨_, _, _, _, _, _, _, deployed⟩, unspent⟩ := built
  exact ⟨(HouseTreasury.deploy_counted deployed).1, unspent⟩

theorem twoOwners_built : Built twoOwners :=
  ⟨⟨[1, 2], 2, 60, 61, 62, 63, 1, rfl⟩, fun _ => rfl⟩

/-- Everything promised about a state, given the transitions that led to it. -/
structure PaymentSafe (past : List (Entry House Event)) (house : House) : Prop where
  /-- No payment was served twice. -/
  once : (paidIds past).Nodup
  /-- `approvals` counts the distinct approving owners. -/
  owners : house.treasury.owners.Nodup
  approvals : ∀ id, (house.treasury.payments id).approvals =
    house.treasury.owners.countP (house.treasury.approvedBy id)
  bounded : ∀ id, (house.treasury.payments id).approvals ≤ house.treasury.owners.length
  ofOwners : ∀ id owner, house.treasury.approvedBy id owner = true → owner ∈ house.treasury.owners
  /-- An executed payment had enough of them. -/
  enough : ∀ id, (house.treasury.payments id).executed = true →
    house.treasury.APPROVAL_THRESHOLD ≤ (house.treasury.payments id).approvals
  /-- Each was an eligible owner when it approved. -/
  eligible : ∀ id owner, house.treasury.approvedBy id owner = true → ∃ entry ∈ past,
    entry.event = .call owner (.approvePayment id) ∧ entry.before.treasury.isOwner owner = true ∧
      entry.before.treasury.Eligible entry.before.env owner
  /-- Each payment was entered by the agent, in good standing at that moment. -/
  proposed : ∀ id, (house.treasury.payments id).vendor ≠ 0 → ∃ entry ∈ past,
    ∃ agent vendor amount evidenceHash,
      entry.event = .call agent (.proposePayment vendor amount evidenceHash) ∧
      id = entry.before.treasury.nextPaymentId ∧
      entry.before.treasury.InGoodStanding entry.before.env agent ∧
      entry.after.treasury.payments id = ⟨vendor, amount, evidenceHash, 0, false⟩

/-- The books and their history at the end of any trace. -/
theorem paymentSafe (built : Built start) (trace : Trace Atom start past t)
    (once : (paidIds past).Nodup) : PaymentSafe past t := by
  have sound := trace_sound trace built.sound
  obtain ⟨⟨_, _, _, _, _, _, _, deployed⟩, -⟩ := built
  obtain ⟨-, blank, unapproved, -, -⟩ := HouseTreasury.deploy_counted deployed
  refine ⟨once, sound.books.distinct, sound.books.count, ?_, sound.books.counted, sound.books.enough,
    ?_, ?_⟩
  · intro id
    rw [sound.books.count]
    exact List.countP_le_length
  · intro id owner approved
    have absent : ¬ start.treasury.approvedBy id owner = true := by simp [unapproved]
    obtain ⟨entry, member, before, after, atom⟩ :=
      trace.turning_point (fun house => house.treasury.approvedBy id owner = true) absent approved
    exact ⟨entry, member, atom.approval before after⟩
  · intro id known
    have absent : ¬ (start.treasury.payments id).vendor ≠ 0 := by simp [blank, PendingPayment.none]
    obtain ⟨entry, member, before, after, atom⟩ :=
      trace.turning_point (fun house => (house.treasury.payments id).vendor ≠ 0) absent known
    exact ⟨entry, member, atom.proposal before after⟩

/-- **Payment safety.** In every run of a constructed treasury among any callers,
token calls re-entering at will: money leaves only when the token serves a
payment, each such service is its record's vendor and amount, records are final,
and every state passed is safe. -/
theorem payment_safety (built : Built start) (run : Run start log t) :
    (∀ entry ∈ log,
      entry.after.cash.balances start.address < entry.before.cash.balances start.address →
      ∃ id request, entry.event = .pays id request) ∧
    (∀ entry ∈ log, ∀ id request, entry.event = .pays id request →
      Recorded log entry.before id request ∧
      entry.before.cash.Serves start.address entry.after.cash request) ∧
    (∀ entry ∈ log, ∀ id, (entry.before.treasury.payments id).vendor ≠ 0 →
      KeepsRecord entry.before.treasury entry.after.treasury id ∧
      KeepsRecord entry.before.treasury t.treasury id) ∧
    (∀ past middle future, log = past ++ future → Trace Atom start past middle →
      PaymentSafe past middle) := by
  have sound := built.sound
  have trace := run.trace
  have passed : ∀ entry ∈ log, Sound entry.before ∧ Atom entry.before entry.event entry.after :=
    fun entry member => trace.of_mem (fun _ _ _ held atom => atom.sound held) sound member
  have place : ∀ entry ∈ log, entry.before.address = start.address := by
    have kept : ∀ before event after, before.address = start.address → Atom before event after →
        after.address = start.address := fun _ _ _ held atom => atom.address.trans held
    exact fun entry member => (trace.of_mem kept rfl member).1
  refine ⟨?_, ?_, ?_, ?_⟩
  · intro entry member leaves
    obtain ⟨here, atom⟩ := passed entry member
    rw [← place entry member] at leaves
    exact atom.outflow here leaves
  · intro entry member id request pays
    refine ⟨run.recorded sound entry member id request pays, ?_⟩
    have atom := (passed entry member).2
    rw [← place entry member]
    obtain ⟨before, event, after⟩ := entry
    dsimp only at pays atom ⊢
    subst pays
    cases atom with
    | pays served => exact served
  · intro entry member id known
    obtain ⟨here, atom⟩ := passed entry member
    have handedOut := here.books.handed_out known
    have now := atom.keepsRecord handedOut
    obtain ⟨rest, later⟩ := trace.rest_of_mem member
    exact ⟨now, now.trans (trace_keepsRecord later (handedOut.trans_le atom.nextPaymentId_le))⟩
  · rintro past middle future rfl soFar
    have once := (run.executes sound).once
    rw [paidIds_append] at once
    exact paymentSafe built soFar (List.Nodup.of_append_left once)

/-- The built house pays its vendor once. -/
theorem payment_safety_twoOwners : ∃ log last, Run twoOwners log last ∧ PaymentSafe log last ∧
    paidIds log = [1] ∧ last.cash.balances 9 = 30 := by
  have pays := run_served (s := approved) (by decide) (by decide) (by decide) (by decide)
  have run := run_toApproved pays
  have safe := (payment_safety twoOwners_built run).2.2.2 _ _ [] (List.append_nil _).symm run.trace
  exact ⟨_, _, run, safe, rfl, by decide⟩

end House

end PassportKit
