import Mathlib.Data.List.Basic
import Mathlib.Data.List.Induction

/-! Runs of a transactional machine. A step either commits a next state or is
rejected, and a rejected step leaves the state it started from; a run folds a
list of attempted steps. Nothing here knows what the machine is: the contracts
instantiate `step` with one call, and every invariant over whole histories is
an instance of one induction below. -/
namespace PassportKit.Runs

variable {σ ι ε : Type*} {step : σ → ι → Except ε σ}

/-- What an attempted step leaves behind: the committed state, or the state it
started from when it was rejected. -/
def settle (step : σ → ι → Except ε σ) (state : σ) (input : ι) : σ :=
  match step state input with
  | .ok next => next
  | .error _ => state

/-- The state after a whole list of attempted steps. -/
def exec (step : σ → ι → Except ε σ) (state : σ) (inputs : List ι) : σ :=
  inputs.foldl (settle step) state

theorem settle_ok {state next : σ} {input : ι} (committed : step state input = .ok next) :
    settle step state input = next := by
  simp [settle, committed]

theorem settle_error {state : σ} {input : ι} {error : ε}
    (rejected : step state input = .error error) : settle step state input = state := by
  simp [settle, rejected]

@[simp] theorem exec_nil (state : σ) : exec step state [] = state := rfl

@[simp] theorem exec_cons (state : σ) (input : ι) (rest : List ι) :
    exec step state (input :: rest) = exec step (settle step state input) rest := rfl

theorem exec_append (state : σ) (first second : List ι) :
    exec step state (first ++ second) = exec step (exec step state first) second :=
  List.foldl_append

/-- Whatever a settled state holds is held before the step or committed by it. -/
theorem settle_preserves {Holds : σ → Prop} {state : σ} {input : ι}
    (kept : ∀ next, step state input = .ok next → Holds next) (held : Holds state) :
    Holds (settle step state input) := by
  cases outcome : step state input with
  | ok next => rw [settle_ok outcome]; exact kept next outcome
  | error error => rw [settle_error outcome]; exact held

/-- **Invariants.** What every committed step preserves, every run preserves. -/
theorem exec_preserves {Holds : σ → Prop}
    (kept : ∀ state input next, Holds state → step state input = .ok next → Holds next)
    {state : σ} (held : Holds state) (inputs : List ι) : Holds (exec step state inputs) := by
  induction inputs generalizing state with
  | nil => exact held
  | cons input rest ih => exact ih (settle_preserves (fun next => kept state input next held) held)

/-- A condition on the state before a step and the step attempted there, met
at every step of a run. -/
def Along (step : σ → ι → Except ε σ) (Allowed : σ → ι → Prop) : σ → List ι → Prop
  | _, [] => True
  | state, input :: rest => Allowed state input ∧ Along step Allowed (settle step state input) rest

instance decidableAlong {Allowed : σ → ι → Prop} [allowed : ∀ state input, Decidable (Allowed state input)] :
    ∀ state inputs, Decidable (Along step Allowed state inputs)
  | _, [] => .isTrue trivial
  | state, input :: rest =>
    @instDecidableAnd _ _ (allowed state input) (decidableAlong (settle step state input) rest)

/-- Invariants of the runs whose every step meets a condition. -/
theorem exec_preserves_along {Holds : σ → Prop} {Allowed : σ → ι → Prop}
    (kept : ∀ state input next, Holds state → Allowed state input →
      step state input = .ok next → Holds next)
    {state : σ} {inputs : List ι} (held : Holds state) (allowed : Along step Allowed state inputs) :
    Holds (exec step state inputs) := by
  induction inputs generalizing state with
  | nil => exact held
  | cons input rest ih =>
    obtain ⟨here, later⟩ := allowed
    exact ih (settle_preserves (fun next => kept state input next held here) held) later

/-- A step that is a step of a part settles as the part does. -/
theorem settle_through {τ κ : Type*} {inner : τ → κ → Except ε τ} {put : τ → σ} {state : σ} {input : ι}
    {part : τ}
    {request : κ} (same : step state input = (inner part request).map put) (here : put part = state) :
    settle step state input = put (settle inner part request) := by
  cases outcome : inner part request with
  | ok next =>
    rw [outcome] at same
    rw [settle_ok outcome, settle_ok (show _ = Except.ok (put next) from same)]
  | error error =>
    rw [outcome] at same
    rw [settle_error outcome, settle_error (show _ = Except.error error from same), here]

/-- A step that changes nothing the second time is the same twice. -/
theorem settle_settle {state : σ} {input : ι}
    (again : ∀ next later, step state input = .ok next → step next input = .ok later → later = next) :
    settle step (settle step state input) input = settle step state input := by
  cases outcome : step state input with
  | error error => rw [settle_error outcome, settle_error outcome]
  | ok next =>
    rw [settle_ok outcome]
    cases repeated : step next input with
    | error error => exact settle_error repeated
    | ok later => rw [settle_ok repeated, again next later outcome repeated]

/-- Invariants of the runs all of whose inputs are of one kind. -/
theorem exec_preserves_of_forall {Holds : σ → Prop} {Allowed : ι → Prop}
    (kept : ∀ state input next, Holds state → Allowed input → step state input = .ok next → Holds next)
    {state : σ} {inputs : List ι} (held : Holds state) (allowed : ∀ input ∈ inputs, Allowed input) :
    Holds (exec step state inputs) := by
  induction inputs generalizing state with
  | nil => exact held
  | cons input rest ih =>
    obtain ⟨here, later⟩ := List.forall_mem_cons.mp allowed
    exact ih (settle_preserves (fun next => kept state input next held here) held) later

/-- Two conditions that agree at every step agree along every run. -/
theorem along_congr {First Second : σ → ι → Prop}
    (same : ∀ state input, First state input ↔ Second state input) (state : σ) (inputs : List ι) :
    Along step First state inputs ↔ Along step Second state inputs := by
  induction inputs generalizing state with
  | nil => exact Iff.rfl
  | cons input rest ih => exact and_congr (same state input) (ih _)

theorem along_and {First Second : σ → ι → Prop} {state : σ} {inputs : List ι} :
    Along step (fun state input => First state input ∧ Second state input) state inputs ↔
      Along step First state inputs ∧ Along step Second state inputs := by
  induction inputs generalizing state with
  | nil => simp [Along]
  | cons input rest ih => simp only [Along, ih, and_and_and_comm]

theorem along_append {Allowed : σ → ι → Prop} {state : σ} {first second : List ι} :
    Along step Allowed state (first ++ second) ↔
      Along step Allowed state first ∧ Along step Allowed (exec step state first) second := by
  induction first generalizing state with
  | nil => simp [Along]
  | cons input rest ih => simp only [List.cons_append, Along, ih, exec_cons, and_assoc]

/-- **Provenance.** What holds at the end of a run and not at its start was
brought about by a committed step of the run. -/
theorem exec_turning_point (Holds : σ → Prop) {state : σ} {inputs : List ι}
    (absent : ¬ Holds state) (present : Holds (exec step state inputs)) :
    ∃ before input after next, inputs = before ++ input :: after ∧
      ¬ Holds (exec step state before) ∧
      step (exec step state before) input = .ok next ∧ Holds next := by
  induction inputs generalizing state with
  | nil => exact absurd present absent
  | cons input rest ih =>
    cases outcome : step state input with
    | error error =>
      rw [exec_cons, settle_error outcome] at present
      obtain ⟨before, turn, after, next, split, missing, committed, holds⟩ := ih absent present
      refine ⟨input :: before, turn, after, next, by rw [split]; rfl, ?_, ?_, holds⟩ <;>
        rw [exec_cons, settle_error outcome] <;> assumption
    | ok reached =>
      rw [exec_cons, settle_ok outcome] at present
      by_cases already : Holds reached
      · exact ⟨[], input, rest, reached, rfl, absent, outcome, already⟩
      · obtain ⟨before, turn, after, next, split, missing, committed, holds⟩ := ih already present
        refine ⟨input :: before, turn, after, next, by rw [split]; rfl, ?_, ?_, holds⟩ <;>
          rw [exec_cons, settle_ok outcome] <;> assumption

theorem along_mono {First Second : σ → ι → Prop}
    (weaker : ∀ state input, First state input → Second state input) {state : σ} {inputs : List ι}
    (along : Along step First state inputs) : Along step Second state inputs := by
  induction inputs generalizing state with
  | nil => trivial
  | cons input rest ih => exact ⟨weaker state input along.1, ih along.2⟩

/-- A condition met along a run is met wherever the run is cut. -/
theorem along_iff_forall_split {Allowed : σ → ι → Prop} {state : σ} {inputs : List ι} :
    Along step Allowed state inputs ↔
      ∀ before input after, inputs = before ++ input :: after →
        Allowed (exec step state before) input := by
  induction inputs generalizing state with
  | nil => simp [Along]
  | cons first rest ih =>
    constructor
    · rintro ⟨here, later⟩ before input after split
      cases before with
      | nil =>
        obtain ⟨rfl, -⟩ := List.cons.inj split
        exact here
      | cons head before =>
        obtain ⟨rfl, others⟩ := List.cons.inj split
        exact ih.mp later before input after others
    · intro everywhere
      refine ⟨everywhere [] first rest rfl, ih.mpr fun before input after split => ?_⟩
      exact everywhere (first :: before) input after (by rw [split, List.cons_append])

/-- Where an invariant holds, two conditions that agree under it agree along the run,
if meeting one of them keeps the invariant. -/
theorem along_congr_of_invariant {Holds : σ → Prop} {First Second : σ → ι → Prop}
    (same : ∀ state input, Holds state → (First state input ↔ Second state input))
    (kept : ∀ state input, Holds state → Second state input → Holds (settle step state input))
    {state : σ} (held : Holds state) (inputs : List ι) :
    Along step First state inputs ↔ Along step Second state inputs := by
  induction inputs generalizing state with
  | nil => exact Iff.rfl
  | cons input rest ih =>
    constructor
    · rintro ⟨here, later⟩
      have second := (same state input held).mp here
      exact ⟨second, (ih (kept state input held second)).mp later⟩
    · rintro ⟨here, later⟩
      exact ⟨(same state input held).mpr here, (ih (kept state input held here)).mpr later⟩

/-- **Since when.** What holds at the end of a run and not at its start was
brought about by a committed step after which no step undid it. -/
theorem exec_held_since (Holds : σ → Prop) {state : σ} {inputs : List ι}
    (absent : ¬ Holds state) (present : Holds (exec step state inputs)) :
    ∃ before input after next, inputs = before ++ input :: after ∧
      ¬ Holds (exec step state before) ∧
      step (exec step state before) input = .ok next ∧ Holds next ∧
      Along step (fun state input => ∀ later, step state input = .ok later → Holds later) next
        after := by
  induction inputs using List.reverseRecOn with
  | nil => exact absurd present absent
  | append_singleton rest last ih =>
    rw [exec_append, exec_cons, exec_nil] at present
    by_cases already : Holds (exec step state rest)
    · obtain ⟨before, input, after, next, rfl, missing, committed, holds, kept⟩ := ih already
      refine ⟨before, input, after ++ [last], next, by simp, missing, committed, holds,
        along_append.mpr ⟨kept, fun later done => ?_, trivial⟩⟩
      rwa [exec_append, exec_cons, settle_ok committed, settle_ok done] at present
    · cases outcome : step (exec step state rest) last with
      | error error =>
        rw [settle_error outcome] at present
        exact absurd present already
      | ok next =>
        rw [settle_ok outcome] at present
        exact ⟨rest, last, [], next, rfl, already, outcome, present, trivial⟩

/-! ## Traces of a relation -/

/-- One transition of a trace, with the states around it. -/
structure Entry (σ ε : Type*) where
  before : σ
  event : ε
  after : σ

/-- A path through a labelled relation, with everything it passed. -/
inductive Trace {σ ε : Type*} (Atom : σ → ε → σ → Prop) : σ → List (Entry σ ε) → σ → Prop where
  | nil (state : σ) : Trace Atom state [] state
  | cons {before after last : σ} {event : ε} {log : List (Entry σ ε)} :
      Atom before event after → Trace Atom after log last →
      Trace Atom before (⟨before, event, after⟩ :: log) last

namespace Trace

variable {Atom : σ → ε → σ → Prop} {start last middle : σ} {log first second : List (Entry σ ε)}

theorem append (earlier : Trace Atom start first middle) (later : Trace Atom middle second last) :
    Trace Atom start (first ++ second) last := by
  induction earlier with
  | nil => exact later
  | cons atom _ ih => exact .cons atom (ih later)

/-- What no transition of a trace changes is the same at its end. -/
theorem ends_eq {π : Type*} {view : σ → π} (trace : Trace Atom start log last)
    (each : ∀ entry ∈ log, view entry.after = view entry.before) : view last = view start := by
  induction trace with
  | nil => rfl
  | cons _ _ ih =>
    obtain ⟨here, later⟩ := List.forall_mem_cons.mp each
    exact (ih later).trans here

/-- A trace can be cut anywhere. -/
theorem split (trace : Trace Atom start (first ++ second) last) :
    ∃ middle, Trace Atom start first middle ∧ Trace Atom middle second last := by
  induction first generalizing start with
  | nil => exact ⟨start, .nil _, trace⟩
  | cons entry rest ih =>
    cases trace with
    | cons atom later =>
      obtain ⟨middle, inside, outside⟩ := ih later
      exact ⟨middle, .cons atom inside, outside⟩

/-- A transition of a trace has a trace before it and one behind it. -/
theorem around {entry : Entry σ ε} (trace : Trace Atom start log last) (member : entry ∈ log) :
    ∃ earlier later, log = earlier ++ entry :: later ∧ Trace Atom start earlier entry.before ∧
      Atom entry.before entry.event entry.after ∧ Trace Atom entry.after later last := by
  obtain ⟨earlier, later, rfl⟩ := List.append_of_mem member
  obtain ⟨middle, before, after⟩ := trace.split
  cases after with
  | cons atom rest => exact ⟨earlier, later, rfl, before, atom, rest⟩

/-- An effect that is the same the second time, had at some transition of a trace and at
no other but as it is, is had once. -/
theorem settles {π : Type*} {view : σ → π} {effect : π → π}
    (again : ∀ part, effect (effect part) = effect part)
    (trace : Trace Atom start log last)
    (each : ∀ entry ∈ log, view entry.after = view entry.before ∨ view entry.after = effect (view entry.before))
    (once : ∃ entry ∈ log, view entry.after = effect (view entry.before)) : view last = effect (view start) := by
  induction trace with
  | nil =>
    obtain ⟨entry, member, -⟩ := once
    cases member
  | @cons before after last event log atom rest ih =>
    obtain ⟨here, later⟩ := List.forall_mem_cons.mp each
    by_cases more : ∃ entry ∈ log, view entry.after = effect (view entry.before)
    · rw [ih later more]
      rcases here with same | had
      · exact congrArg effect same
      · exact (congrArg effect had).trans (again _)
    · have first : view after = effect (view before) := by
        obtain ⟨entry, member, had⟩ := once
        rcases List.mem_cons.mp member with rfl | deeper
        · exact had
        · exact absurd ⟨entry, deeper, had⟩ more
      have still : view last = view after := by
        refine rest.ends_eq fun entry member => ?_
        exact (later entry member).resolve_right fun had => more ⟨entry, member, had⟩
      exact still.trans first

/-- What holds after every transition of a trace, and at its start, holds at its end. -/
theorem ends {Holds : σ → Prop} (trace : Trace Atom start log last)
    (entered : ∀ entry ∈ log, Holds entry.after) (held : Holds start) : Holds last := by
  induction trace with
  | nil => exact held
  | cons _ _ ih =>
    exact ih (fun entry member => entered entry (List.mem_cons_of_mem _ member)) (entered _ List.mem_cons_self)

theorem preserves {Holds : σ → Prop}
    (kept : ∀ before event after, Holds before → Atom before event after → Holds after)
    (trace : Trace Atom start log last) (held : Holds start) : Holds last := by
  induction trace with
  | nil => exact held
  | cons atom _ ih => exact ih (kept _ _ _ held atom)

/-- Every transition of a trace starts where an invariant holds. -/
theorem of_mem {Holds : σ → Prop}
    (kept : ∀ before event after, Holds before → Atom before event after → Holds after)
    (trace : Trace Atom start log last) (held : Holds start) {entry : Entry σ ε}
    (member : entry ∈ log) : Holds entry.before ∧ Atom entry.before entry.event entry.after := by
  induction trace with
  | nil => simp at member
  | cons atom _ ih =>
    rcases List.mem_cons.mp member with rfl | later
    · exact ⟨held, atom⟩
    · exact ih (kept _ _ _ held atom) later

/-- A trace goes on from every transition it contains. -/
theorem rest_of_mem (trace : Trace Atom start log last) {entry : Entry σ ε} (member : entry ∈ log) :
    ∃ rest, Trace Atom entry.after rest last := by
  induction trace with
  | nil => simp at member
  | cons _ rest ih =>
    rcases List.mem_cons.mp member with rfl | later
    · exact ⟨_, rest⟩
    · exact ih later

/-- Invariants of the traces whose every transition meets a condition. -/
theorem preserves_along {Holds : σ → Prop} {Allowed : Entry σ ε → Prop}
    (kept : ∀ before event after, Holds before → Allowed ⟨before, event, after⟩ →
      Atom before event after → Holds after)
    (trace : Trace Atom start log last) (held : Holds start)
    (allowed : ∀ entry ∈ log, Allowed entry) : Holds last ∧ ∀ entry ∈ log, Holds entry.before := by
  induction trace with
  | nil => exact ⟨held, by simp⟩
  | cons atom _ ih =>
    have here := kept _ _ _ held (allowed _ List.mem_cons_self) atom
    obtain ⟨ended, later⟩ := ih here fun entry member => allowed entry (List.mem_cons_of_mem _ member)
    refine ⟨ended, fun entry member => ?_⟩
    rcases List.mem_cons.mp member with rfl | further
    · exact held
    · exact later entry further

/-- What is good stays good along a trace if and only if every transition is such that
it does, where an invariant makes that a condition on the transition. -/
theorem good_iff {Base Good : σ → Prop} {Allowed : Entry σ ε → Prop}
    (step : ∀ before event after, Base before → Good before → Atom before event after →
      Base after ∧ (Good after ↔ Allowed ⟨before, event, after⟩))
    (trace : Trace Atom start log last) (base : Base start) (good : Good start) :
    (∀ entry ∈ log, Good entry.after) ↔ ∀ entry ∈ log, Allowed entry := by
  induction trace with
  | nil => simp
  | cons atom _ ih =>
    obtain ⟨kept, same⟩ := step _ _ _ base good atom
    rw [List.forall_mem_cons, List.forall_mem_cons]
    constructor
    · rintro ⟨here, later⟩
      exact ⟨same.mp here, (ih kept here).mp later⟩
    · rintro ⟨here, later⟩
      exact ⟨same.mpr here, (ih kept (same.mpr here)).mpr later⟩

/-- What holds at the end and not at the start was brought about by a transition. -/
theorem turning_point (Holds : σ → Prop) (trace : Trace Atom start log last)
    (absent : ¬ Holds start) (present : Holds last) :
    ∃ entry ∈ log, ¬ Holds entry.before ∧ Holds entry.after ∧
      Atom entry.before entry.event entry.after := by
  induction trace with
  | nil => exact absurd present absent
  | @cons before after last event log atom _ ih =>
    by_cases already : Holds after
    · exact ⟨_, List.mem_cons_self, absent, already, atom⟩
    · obtain ⟨entry, member, turn⟩ := ih already present
      exact ⟨entry, List.mem_cons_of_mem _ member, turn⟩

end Trace

/-- A state with the states it may still be rolled back to, the latest first. -/
structure Revertible (σ : Type*) where
  current : σ
  saved : List σ

inductive Undoable (ε : Type*) where
  | step (event : ε)
  | save
  | commit
  | rollBack

namespace Revertible

variable {σ ε : Type*} {Step : σ → ε → σ → Prop}

/-- Between the steps of a relation, states are saved and then forgotten or gone back to. -/
inductive Atom (Step : σ → ε → σ → Prop) : Revertible σ → Undoable ε → Revertible σ → Prop where
  | step {before after : σ} {event : ε} (saved : List σ) (step : Step before event after) :
      Atom Step ⟨before, saved⟩ (.step event) ⟨after, saved⟩
  | save (current : σ) (saved : List σ) : Atom Step ⟨current, saved⟩ .save ⟨current, current :: saved⟩
  | commit (current last : σ) (saved : List σ) :
      Atom Step ⟨current, last :: saved⟩ .commit ⟨current, saved⟩
  | rollBack (current last : σ) (saved : List σ) :
      Atom Step ⟨current, last :: saved⟩ .rollBack ⟨last, saved⟩

/-- The state and every state it can go back to. -/
def All (Holds : σ → Prop) (state : Revertible σ) : Prop :=
  Holds state.current ∧ ∀ earlier ∈ state.saved, Holds earlier

/-- What every step preserves, every undone step preserves as well. -/
theorem Atom.preserves {Holds : σ → Prop} {before after : Revertible σ} {event : Undoable ε}
    (kept : ∀ before event after, Holds before → Step before event after → Holds after)
    (held : before.All Holds) (atom : Atom Step before event after) : after.All Holds := by
  obtain ⟨now, earlier⟩ := held
  cases atom with
  | step saved step => exact ⟨kept _ _ _ now step, earlier⟩
  | save current saved =>
    refine ⟨now, fun state member => ?_⟩
    rcases List.mem_cons.mp member with rfl | older
    · exact now
    · exact earlier state older
  | commit current last saved =>
    exact ⟨now, fun state member => earlier state (List.mem_cons_of_mem _ member)⟩
  | rollBack current last saved =>
    exact ⟨earlier last List.mem_cons_self,
      fun state member => earlier state (List.mem_cons_of_mem _ member)⟩

end Revertible

end PassportKit.Runs
