import Mathlib.Data.List.Nodup
import Mathlib.Data.Set.Lattice
import PassportKit.Interaction

/-! Programs under way side by side over one store. Each goes on by one call at a time
and may stop anywhere. What one of them may call depends on what the run has shown so
far, and what it may be answered does as well; facts are only ever added. So a program
is judged at a set of facts: it upholds a discipline when its next call is allowed
there and, for every answer that a larger set vouches for, its rest upholds the
discipline at that larger set. -/
namespace PassportKit.Interaction
open Runs

section Facts
variable {σ ε F : Type} {Atom : σ → ε → σ → Prop} {start last : σ} {log : List (Entry σ ε)}

/-- The facts the transitions of a run have shown. -/
def learnt (shows : Entry σ ε → Set F) (log : List (Entry σ ε)) : Set F :=
  {fact | ∃ entry ∈ log, fact ∈ shows entry}

theorem learnt_cons (shows : Entry σ ε → Set F) (entry : Entry σ ε) (log : List (Entry σ ε)) :
    learnt shows (entry :: log) = shows entry ∪ learnt shows log := by
  ext fact
  simp [learnt]

/-- What every transition preserves, for what has been shown up to then, a run does. -/
theorem trace_informs {shows : Entry σ ε → Set F} {Holds : Set F → σ → Prop}
    (kept : ∀ known before event after, Holds known before → Atom before event after →
      Holds (known ∪ shows ⟨before, event, after⟩) after)
    (trace : Trace Atom start log last) {known : Set F} (held : Holds known start) :
    Holds (known ∪ learnt shows log) last := by
  induction trace generalizing known with
  | nil =>
    rw [show learnt shows [] = ∅ by simp [learnt], Set.union_empty]
    exact held
  | cons atom _ ih =>
    rw [learnt_cons, ← Set.union_assoc]
    exact ih (kept _ _ _ _ held atom)

end Facts

namespace Program
variable {Call : Type} {Answer : Call → Type} {ε α β F : Type}

/-- What the program calls is allowed when it calls it, and it ends as it should, if what
it was answered was vouched for when it was answered. -/
def Upholds (May : Set F → Call → Prop) (Vouched : Set F → Exchange Call Answer → Prop)
    (Ends : Set F → α → Prop) :
    Set F → Program Call Answer ε α → Prop
  | known, .done value => Ends known value
  | _, .fail _ => True
  | known, .call request resume => May known request ∧ ∀ later, known ⊆ later → ∀ answer,
      Vouched later ⟨request, answer⟩ → (resume answer).Upholds May Vouched Ends later

section Upholds
variable {May : Set F → Call → Prop} {Vouched : Set F → Exchange Call Answer → Prop}
  {Ends : Set F → α → Prop}
  {known later : Set F}

/-- What holds of a value stays so as more becomes known. -/
def Lasting (Holds : Set F → α → Prop) : Prop :=
  ∀ ⦃known later : Set F⦄ ⦃value : α⦄, known ⊆ later → Holds known value → Holds later value

theorem Upholds.mono {program : Program Call Answer ε α} (lasting : Lasting May) (ends : Lasting Ends)
    (upholds : program.Upholds May Vouched Ends known) (more : known ⊆ later) :
    program.Upholds May Vouched Ends later := by
  cases program with
  | done value => exact ends more upholds
  | fail error => trivial
  | call request resume =>
    obtain ⟨allowed, rest⟩ := upholds
    exact ⟨lasting more allowed, fun further beyond => rest further (more.trans beyond)⟩

/-- **Sequencing.** The second half starts where the first ends, knowing at least as much. -/
theorem Upholds.bind {Middle : Set F → α → Prop} {Last : Set F → β → Prop} {first : Program Call Answer ε α}
    {rest : α → Program Call Answer ε β} (upholds : first.Upholds May Vouched Middle known)
    (further : ∀ later value, known ⊆ later → Middle later value →
      (rest value).Upholds May Vouched Last later) :
    (first >>= rest).Upholds May Vouched Last known := by
  induction first generalizing known with
  | done value => exact further known value subset_rfl upholds
  | fail error => trivial
  | call request resume ih =>
    obtain ⟨allowed, inner⟩ := upholds
    refine ⟨allowed, fun later more answer vouched => ?_⟩
    exact ih answer (inner later more answer vouched) fun beyond value past => further beyond value (more.trans past)

theorem Upholds.ofExcept_bind {Last : Set F → β → Prop} {outcome : Except ε α}
    {rest : α → Program Call Answer ε β}
    (further : ∀ value, outcome = .ok value → (rest value).Upholds May Vouched Last known) :
    (ofExcept outcome >>= rest).Upholds May Vouched Last known := by
  cases outcome with
  | ok value => exact further value rfl
  | error error => trivial

/-- A program over a smaller signature, judged as one over the larger. -/
theorem Upholds.through {Call' : Type} {Answer' : Call' → Type} {send : Call → Call'}
    {read : ∀ request, Answer' (send request) → Answer request} {May' : Set F → Call' → Prop}
    {Vouched' : Set F → Exchange Call' Answer' → Prop} {program : Program Call Answer ε α}
    (upholds : program.Upholds May Vouched Ends known)
    (allowed : ∀ later request, May later request → May' later (send request))
    (vouched : ∀ later request answer, Vouched' later ⟨send request, answer⟩ →
      Vouched later ⟨request, read request answer⟩) :
    (program.through send read).Upholds May' Vouched' Ends known := by
  induction program generalizing known with
  | done value => exact upholds
  | fail error => trivial
  | call request resume ih =>
    refine ⟨allowed known request upholds.1, fun further more answer given => ?_⟩
    exact ih _ (upholds.2 further more _ (vouched further request answer given))

end Upholds
end Program

namespace Program
variable {Call : Type} {Answer : Call → Type} {ε ε' α β F : Type}

/-- The same program, under other names for what it throws, its result dropped. -/
def ignoring (name : ε → ε') : Program Call Answer ε α → Program Call Answer ε' Unit
  | .done _ => .done ()
  | .fail error => .fail (name error)
  | .call request resume => .call request fun answer => (resume answer).ignoring name

theorem Upholds.ignoring {May : Set F → Call → Prop} {Vouched : Set F → Exchange Call Answer → Prop}
    {known : Set F}
    {Ends : Set F → α → Prop} {name : ε → ε'} {program : Program Call Answer ε α}
    (upholds : program.Upholds May Vouched Ends known) :
    (program.ignoring name).Upholds May Vouched (fun _ _ => True) known := by
  induction program generalizing known with
  | done value => trivial
  | fail error => trivial
  | call request resume ih =>
    exact ⟨upholds.1, fun later more answer vouched => ih answer (upholds.2 later more answer vouched)⟩

end Program

/-! ## Pools -/

section Pools
variable {σ ι F : Type} {Call : Type} {Answer : Call → Type} {ε α : Type}

/-- A program under way, and what it was started as. -/
structure Task (ι Call : Type) (Answer : Call → Type) (ε α : Type) where
  label : ι
  program : Program Call Answer ε α

structure Pool (σ ι Call : Type) (Answer : Call → Type) (ε α : Type) where
  store : σ
  tasks : List (Task ι Call Answer ε α)

inductive Move (ι Call : Type) (Answer : Call → Type) where
  | starts (label : ι)
  /-- The next call of a program that was started as this is answered. -/
  | serves (label : ι) (exchange : Program.Exchange Call Answer)
  | stops (label : ι)

/-- What may be started, as what program, and how calls are served. -/
structure Machine (σ ι Call : Type) (Answer : Call → Type) (ε α : Type) where
  Starts : σ → ι → Prop
  body : ι → Program Call Answer ε α
  Serves : σ → ι → Program.Exchange Call Answer → σ → Prop

inductive Machine.Atom (machine : Machine σ ι Call Answer ε α) :
    Pool σ ι Call Answer ε α → Move ι Call Answer → Pool σ ι Call Answer ε α → Prop where
  | starts {store : σ} {tasks : List (Task ι Call Answer ε α)} {label : ι} (may : machine.Starts store label) :
      Atom machine ⟨store, tasks⟩ (.starts label) ⟨store, tasks ++ [⟨label, machine.body label⟩]⟩
  | serves {store next : σ} {tasks : List (Task ι Call Answer ε α)} {place : ℕ} {label : ι} {request : Call}
      {resume : Answer request → Program Call Answer ε α} {answer : Answer request}
      (there : tasks[place]? = some ⟨label, .call request resume⟩)
      (served : machine.Serves store label ⟨request, answer⟩ next) :
      Atom machine ⟨store, tasks⟩ (.serves label ⟨request, answer⟩)
        ⟨next, tasks.set place ⟨label, resume answer⟩⟩
  | stops {store : σ} {tasks : List (Task ι Call Answer ε α)} {place : ℕ} {task : Task ι Call Answer ε α}
      (there : tasks[place]? = some task) :
      Atom machine ⟨store, tasks⟩ (.stops task.label) ⟨store, tasks.eraseIdx place⟩

/-- What a served call shows; starting and stopping show nothing. -/
def Machine.shows (Shows : σ → ι → Program.Exchange Call Answer → Set F)
    (entry : Entry (Pool σ ι Call Answer ε α) (Move ι Call Answer)) : Set F :=
  match entry.event with
  | .serves label exchange => Shows entry.before.store label exchange
  | .starts _ => ∅
  | .stops _ => ∅

section Rule
variable {machine : Machine σ ι Call Answer ε α} {Shows : σ → ι → Program.Exchange Call Answer → Set F}
  {Base : Set F → σ → Prop} {May : ι → Set F → Call → Prop}
  {Vouched : ι → Set F → Program.Exchange Call Answer → Prop}

/-- What a discipline has to meet to be upheld by every interleaving. -/
structure Machine.Sound (machine : Machine σ ι Call Answer ε α)
    (Shows : σ → ι → Program.Exchange Call Answer → Set F) (Base : Set F → σ → Prop)
    (May : ι → Set F → Call → Prop)
    (Vouched : ι → Set F → Program.Exchange Call Answer → Prop) : Prop where
  lasting : ∀ label, Program.Lasting (May label)
  started : ∀ known store label, Base known store → machine.Starts store label →
    (machine.body label).Upholds (May label) (Vouched label) (fun _ _ => True) known
  served : ∀ known store label exchange next, Base known store → May label known exchange.1 →
    machine.Serves store label exchange next →
      Base (known ∪ Shows store label exchange) next ∧ Vouched label (known ∪ Shows store label exchange) exchange

/-- The store is as it should be, and every program under way upholds its discipline. -/
structure Pool.Kept (Base : Set F → σ → Prop) (May : ι → Set F → Call → Prop)
    (Vouched : ι → Set F → Program.Exchange Call Answer → Prop) (known : Set F)
    (pool : Pool σ ι Call Answer ε α) : Prop where
  base : Base known pool.store
  tasks : ∀ task ∈ pool.tasks, task.program.Upholds (May task.label) (Vouched task.label) (fun _ _ => True) known

theorem Machine.Sound.step {known : Set F} {before after : Pool σ ι Call Answer ε α} {move : Move ι Call Answer}
    (sound : machine.Sound Shows Base May Vouched) (kept : before.Kept Base May Vouched known)
    (atom : machine.Atom before move after) :
    after.Kept Base May Vouched (known ∪ Machine.shows Shows ⟨before, move, after⟩) := by
  cases atom with
  | starts may =>
    rw [Machine.shows, Set.union_empty]
    refine ⟨kept.base, fun task member => ?_⟩
    rcases List.mem_append.mp member with earlier | here
    · exact kept.tasks task earlier
    · obtain rfl := List.mem_singleton.mp here
      exact sound.started known _ _ kept.base may
  | @serves store next tasks place label request resume answer there served =>
    have own := kept.tasks _ (List.mem_of_getElem? there)
    obtain ⟨base, vouched⟩ := sound.served known _ _ _ _ kept.base own.1 served
    refine ⟨base, fun task member => ?_⟩
    rcases List.mem_or_eq_of_mem_set member with other | rfl
    · exact (kept.tasks task other).mono (sound.lasting _) (fun _ _ _ _ ends => ends) Set.subset_union_left
    · exact own.2 _ Set.subset_union_left answer vouched
  | stops there =>
    rw [Machine.shows, Set.union_empty]
    exact ⟨kept.base, fun task member => kept.tasks task (List.mem_of_mem_eraseIdx member)⟩

/-- **Interleavings.** Along every run of the machine the store is as it should be for
what the run has shown. -/
theorem Machine.Sound.run {known : Set F} {start last : Pool σ ι Call Answer ε α}
    {log : List (Entry (Pool σ ι Call Answer ε α) (Move ι Call Answer))}
    (sound : machine.Sound Shows Base May Vouched) (kept : start.Kept Base May Vouched known)
    (trace : Trace machine.Atom start log last) :
    last.Kept Base May Vouched (known ∪ learnt (Machine.shows Shows) log) :=
  trace_informs (fun _ _ _ _ held atom => sound.step held atom) trace kept

end Rule

section Alone
variable {machine : Machine σ ι Call Answer ε α} {store next : σ} {label : ι} {value : α}

theorem Machine.finishes {program : Program Call Answer ε α}
    (completes : program.Completes
      (fun store exchange next => machine.Serves store label exchange next) store value next) :
    ∃ log, Trace machine.Atom ⟨store, [⟨label, program⟩]⟩ log ⟨next, []⟩ := by
  induction completes with
  | done value state =>
    have there : [(⟨label, .done value⟩ : Task ι Call Answer ε α)][0]? = some ⟨label, .done value⟩ := rfl
    exact ⟨_, .cons (.stops there) (.nil _)⟩
  | @call request resume answer before middle after value served _ ih =>
    obtain ⟨log, trace⟩ := ih
    have there : [(⟨label, .call request resume⟩ : Task ι Call Answer ε α)][0]? =
        some ⟨label, .call request resume⟩ := rfl
    exact ⟨_, .cons (.serves there served) trace⟩

/-- One program run to its end, with no other under way, is a run of the machine. -/
theorem Machine.runs_alone (may : machine.Starts store label)
    (completes : (machine.body label).Completes (fun store exchange next => machine.Serves store label exchange next)
      store value next) :
    ∃ log, Trace machine.Atom ⟨store, []⟩ log ⟨next, []⟩ := by
  obtain ⟨log, trace⟩ := Machine.finishes completes
  exact ⟨_, .cons (.starts may) trace⟩

end Alone

/-! ## One program among the others

What was answered to a program that is started once is a run of that program alone, so
whatever is known of its runs is known of it among the others. -/

section Projection
variable {machine : Machine σ ι Call Answer ε α} {start last : Pool σ ι Call Answer ε α}
  {log earlier rest : List (Entry (Pool σ ι Call Answer ε α) (Move ι Call Answer))}
  {entry : Entry (Pool σ ι Call Answer ε α) (Move ι Call Answer)} {label : ι}
  {exchange : Program.Exchange Call Answer}

/-- What was started, as often as it was. -/
def startedIn (log : List (Entry (Pool σ ι Call Answer ε α) (Move ι Call Answer))) : List ι :=
  log.filterMap fun entry =>
    match entry.event with
    | .starts label => some label
    | .serves _ _ => none
    | .stops _ => none

@[simp] theorem startedIn_append : startedIn (earlier ++ rest) = startedIn earlier ++ startedIn rest :=
  List.filterMap_append

/-- What serves a call leaves is what the machine may leave. -/
theorem Machine.served_of_mem (trace : Trace machine.Atom start log last) (member : entry ∈ log)
    (event : entry.event = .serves label exchange) :
    machine.Serves entry.before.store label exchange entry.after.store := by
  obtain ⟨-, -, -, -, atom, -⟩ := trace.around member
  obtain ⟨before, happened, after⟩ := entry
  cases atom with
  | serves _ served =>
    cases event
    exact served
  | starts => cases event
  | stops => cases event

/-- What every answer preserves in the store, a run preserves. -/
theorem Machine.preserves {Holds : σ → Prop} (trace : Trace machine.Atom start log last)
    (kept : ∀ store label exchange next, Holds store → machine.Serves store label exchange next → Holds next)
    (held : Holds start.store) : Holds last.store := by
  induction trace with
  | nil => exact held
  | cons atom _ ih =>
    refine ih ?_
    cases atom with
    | starts => exact held
    | serves _ served => exact kept _ _ _ _ held served
    | stops => exact held

/-- A place in the pool cuts it in two. -/
theorem cut_at {tasks : List (Task ι Call Answer ε α)} {place : ℕ} {task : Task ι Call Answer ε α}
    (there : tasks[place]? = some task) (next : Task ι Call Answer ε α) :
    ∃ first second, tasks = first ++ task :: second ∧
      tasks.set place next = first ++ next :: second ∧ tasks.eraseIdx place = first ++ second := by
  obtain ⟨inside, same⟩ := List.getElem?_eq_some_iff.mp there
  obtain ⟨first, second, cut, length, set⟩ := @List.exists_of_set _ place next tasks inside
  rw [same] at cut
  subst cut length
  exact ⟨first, second, rfl, set, by
    rw [List.eraseIdx_append_of_length_le le_rfl, Nat.sub_self, List.eraseIdx_cons_zero]⟩

variable [DecidableEq ι]

/-- What the program of this label was answered. -/
def answeredTo (label : ι) (log : List (Entry (Pool σ ι Call Answer ε α) (Move ι Call Answer))) :
    List (Program.Exchange Call Answer) :=
  log.filterMap fun entry =>
    match entry.event with
    | .serves other exchange => if other = label then some exchange else none
    | .starts _ => none
    | .stops _ => none

@[simp] theorem answeredTo_append :
    answeredTo label (earlier ++ rest) = answeredTo label earlier ++ answeredTo label rest :=
  List.filterMap_append

theorem answeredTo_singleton (event : entry.event = .serves label exchange) :
    answeredTo label [entry] = [exchange] := by
  simp [answeredTo, event]

theorem mem_answeredTo : exchange ∈ answeredTo label log ↔
      ∃ entry ∈ log, entry.event = .serves label exchange := by
  unfold answeredTo
  rw [List.mem_filterMap]
  refine exists_congr fun entry => and_congr_right fun _ => ?_
  cases entry.event with
  | serves other answered =>
    by_cases same : other = label
    · simp [same]
    · simp [same]
  | starts => simp
  | stops => simp

/-- The programs under way that were started as this. -/
def own (label : ι) (tasks : List (Task ι Call Answer ε α)) : List (Task ι Call Answer ε α) :=
  tasks.filter fun task => task.label = label

section Own
variable {tasks : List (Task ι Call Answer ε α)} {place : ℕ} {task next later : Task ι Call Answer ε α}

theorem own_cons_self (named : task.label = label) : own label (task :: tasks) = task :: own label tasks :=
  List.filter_cons_of_pos (by simpa using named)

theorem own_cons_other (named : task.label ≠ label) : own label (task :: tasks) = own label tasks :=
  List.filter_cons_of_neg (by simpa using named)

theorem own_append (first second : List (Task ι Call Answer ε α)) :
    own label (first ++ second) = own label first ++ own label second :=
  List.filter_append _ _

theorem own_set_self (there : tasks[place]? = some task) (named : task.label = label) (named' : next.label = label)
    (alone : own label tasks = [later]) : task = later ∧ own label (tasks.set place next) = [next] := by
  obtain ⟨first, second, rfl, set, -⟩ := cut_at there next
  rw [own_append, own_cons_self named, List.append_eq_singleton_iff] at alone
  rw [set, own_append, own_cons_self named']
  rcases alone with ⟨none, only⟩ | ⟨-, only⟩
  · obtain ⟨rfl, none'⟩ := List.cons.inj only
    exact ⟨rfl, by rw [none, none', List.nil_append]⟩
  · cases only

theorem own_set_other (there : tasks[place]? = some task) (named : task.label ≠ label)
    (named' : next.label ≠ label) :
    own label (tasks.set place next) = own label tasks := by
  obtain ⟨first, second, rfl, set, -⟩ := cut_at there next
  rw [set, own_append, own_append, own_cons_other named, own_cons_other named']

theorem own_eraseIdx (there : tasks[place]? = some task) :
    own label (tasks.eraseIdx place) = own label tasks ∨
      ∀ later, own label tasks = [later] → own label (tasks.eraseIdx place) = [] := by
  obtain ⟨first, second, rfl, -, erased⟩ := cut_at there task
  rw [erased, own_append, own_append]
  by_cases named : task.label = label
  · right
    intro later alone
    rw [own_cons_self named, List.append_eq_singleton_iff] at alone
    rcases alone with ⟨none, only⟩ | ⟨-, only⟩
    · rw [none, (List.cons.inj only).2, List.nil_append]
    · cases only
  · left
    rw [own_cons_other named]

end Own

/-- Where a program is that is started once: nowhere before, and past what it was
answered since, unless it was stopped. -/
structure Machine.Tracks (machine : Machine σ ι Call Answer ε α) (label : ι)
    (log : List (Entry (Pool σ ι Call Answer ε α) (Move ι Call Answer))) (pool : Pool σ ι Call Answer ε α) :
    Prop where
  before : (startedIn log).count label = 0 → answeredTo label log = [] ∧ own label pool.tasks = []
  since : (startedIn log).count label = 1 → ∃ later, (machine.body label).Reaches (answeredTo label log) later ∧
    (own label pool.tasks = [] ∨ own label pool.tasks = [⟨label, later⟩])

theorem Machine.Tracks.quiet {before after : Pool σ ι Call Answer ε α} (tracks : machine.Tracks label log before)
    {event : Move ι Call Answer} (started : startedIn [⟨before, event, after⟩] = [])
    (answered : answeredTo label [⟨before, event, after⟩] = [])
    (kept : own label after.tasks = own label before.tasks ∨
      ∀ later, own label before.tasks = [later] → own label after.tasks = [])
    (never : own label before.tasks = [] → own label after.tasks = []) :
    machine.Tracks label (log ++ [⟨before, event, after⟩]) after := by
  constructor
  · intro absent
    rw [startedIn_append, started, List.append_nil] at absent
    rw [answeredTo_append, answered, List.append_nil]
    obtain ⟨silent, nothing⟩ := tracks.before absent
    exact ⟨silent, never nothing⟩
  · intro once
    rw [startedIn_append, started, List.append_nil] at once
    rw [answeredTo_append, answered, List.append_nil]
    obtain ⟨later, reaches, stopped | alone⟩ := tracks.since once
    · exact ⟨later, reaches, .inl (never stopped)⟩
    · rcases kept with same | erased
      · exact ⟨later, reaches, .inr (same.trans alone)⟩
      · exact ⟨later, reaches, .inl (erased _ alone)⟩

/-- One transition. -/
theorem Machine.Tracks.step {before after : Pool σ ι Call Answer ε α} {move : Move ι Call Answer}
    (tracks : machine.Tracks label log before) (atom : machine.Atom before move after) :
    machine.Tracks label (log ++ [⟨before, move, after⟩]) after := by
  cases atom with
  | @starts store tasks other may =>
    by_cases named : other = label
    · subst named
      have started : startedIn (log ++
          [⟨⟨store, tasks⟩, .starts other, ⟨store, tasks ++ [⟨other, machine.body other⟩]⟩⟩]) =
          startedIn log ++ [other] := startedIn_append
      constructor
      · intro absent
        rw [started, List.count_append, List.count_singleton_self] at absent
        exact absurd absent (Nat.succ_ne_zero _)
      · intro once
        rw [started, List.count_append, List.count_singleton_self, Nat.add_eq_right] at once
        obtain ⟨silent, nothing⟩ := tracks.before once
        refine ⟨machine.body other, ?_, .inr ?_⟩
        · rw [answeredTo_append, silent]
          exact .refl _
        · rw [own_append, nothing]
          exact own_cons_self rfl
    · have others : own label (tasks ++ [⟨other, machine.body other⟩]) = own label tasks := by
        rw [own_append, own_cons_other named]
        exact List.append_nil _
      have started : startedIn (log ++
          [⟨⟨store, tasks⟩, .starts other, ⟨store, tasks ++ [⟨other, machine.body other⟩]⟩⟩]) =
          startedIn log ++ [other] := startedIn_append
      have counted : (startedIn log ++ [other]).count label = (startedIn log).count label := by
        rw [List.count_append, List.count_singleton, if_neg (mt beq_iff_eq.mp named), Nat.add_zero]
      have answered : answeredTo label
          (log ++ [⟨⟨store, tasks⟩, .starts other, ⟨store, tasks ++ [⟨other, machine.body other⟩]⟩⟩]) =
          answeredTo label log := answeredTo_append.trans (List.append_nil _)
      constructor
      · intro absent
        rw [started, counted] at absent
        rw [answered, others]
        exact tracks.before absent
      · intro once
        rw [started, counted] at once
        rw [answered, others]
        exact tracks.since once
  | @serves store next tasks place other request resume answer there served =>
    by_cases named : other = label
    · subst named
      have answered : answeredTo other (log ++ [⟨⟨store, tasks⟩, .serves other ⟨request, answer⟩,
          ⟨next, tasks.set place ⟨other, resume answer⟩⟩⟩]) =
            answeredTo other log ++ [⟨request, answer⟩] := by
        rw [answeredTo_append, answeredTo_singleton rfl]
      have started : startedIn (log ++ [⟨⟨store, tasks⟩, .serves other ⟨request, answer⟩,
          ⟨next, tasks.set place ⟨other, resume answer⟩⟩⟩]) = startedIn log :=
        startedIn_append.trans (List.append_nil _)
      have here : own other tasks ≠ [] := by
        intro nothing
        have member : ⟨other, .call request resume⟩ ∈ own other tasks :=
          List.mem_filter.mpr ⟨List.mem_of_getElem? there, by simp⟩
        rw [nothing] at member
        cases member
      constructor
      · intro absent
        rw [started] at absent
        exact absurd (tracks.before absent).2 here
      · intro once
        rw [started] at once
        obtain ⟨later, reaches, stopped | alone⟩ := tracks.since once
        · exact absurd stopped here
        · obtain ⟨same, moved⟩ := own_set_self there rfl
            (show Task.label ⟨other, resume answer⟩ = other from rfl) alone
          rw [Task.mk.injEq] at same
          obtain ⟨-, rfl⟩ := same
          rw [answered]
          exact ⟨resume answer, reaches.trans (.call (.refl _)), .inr moved⟩
    · have others : own label (tasks.set place ⟨other, resume answer⟩) = own label tasks :=
        own_set_other there named named
      refine tracks.quiet rfl ?_ (.inl others) fun nothing => others.trans nothing
      simp [answeredTo, named]
  | @stops store tasks place task there =>
    refine tracks.quiet rfl rfl (own_eraseIdx there) fun nothing => ?_
    exact List.filter_eq_nil_iff.mpr fun task member =>
      List.filter_eq_nil_iff.mp nothing task (List.mem_of_mem_eraseIdx member)

theorem Machine.Tracks.run {more : List (Entry (Pool σ ι Call Answer ε α) (Move ι Call Answer))}
    (trace : Trace machine.Atom start more last) (tracks : machine.Tracks label log start) :
    machine.Tracks label (log ++ more) last := by
  induction trace generalizing log with
  | nil => rwa [List.append_nil]
  | cons atom _ ih =>
    have later := ih (tracks.step atom)
    rwa [List.append_assoc] at later

/-- **Projection.** What was answered to a program that is started at most once is a run
of it. -/
theorem Machine.reaches_answered (trace : Trace machine.Atom start log last) (idle : start.tasks = [])
    (once : (startedIn log).Nodup) (label : ι) :
    ∃ later, (machine.body label).Reaches (answeredTo label log) later := by
  have nowhere : machine.Tracks label [] start :=
    ⟨fun _ => ⟨rfl, by rw [idle]; rfl⟩, fun started => by cases started⟩
  have tracks := nowhere.run trace
  rw [List.nil_append] at tracks
  rcases (List.nodup_iff_count_le_one.mp once label).lt_or_eq with absent | started
  · rw [(tracks.before (Nat.lt_one_iff.mp absent)).1]
    exact ⟨_, .refl _⟩
  · obtain ⟨later, reaches, -⟩ := tracks.since started
    exact ⟨later, reaches⟩

/-- Nothing is answered to a program that was not started. -/
theorem Machine.unanswered (trace : Trace machine.Atom start log last) (idle : start.tasks = [])
    (absent : label ∉ startedIn log) : answeredTo label log = [] := by
  have nowhere : machine.Tracks label [] start :=
    ⟨fun _ => ⟨rfl, by rw [idle]; rfl⟩, fun started => by cases started⟩
  have tracks := nowhere.run trace
  rw [List.nil_append] at tracks
  exact (tracks.before (List.count_eq_zero.mpr absent)).1

/-- What is served is what the program calls next in its own run. -/
theorem Machine.makes_served (trace : Trace machine.Atom start (earlier ++ entry :: rest) last)
    (idle : start.tasks = [])
    (once : (startedIn (earlier ++ entry :: rest)).Nodup) (event : entry.event = .serves label exchange) :
    (machine.body label).Makes (answeredTo label earlier) exchange.1 := by
  have cut : earlier ++ entry :: rest = (earlier ++ [entry]) ++ rest := by simp
  rw [cut] at trace once
  obtain ⟨middle, first, -⟩ := trace.split
  rw [startedIn_append] at once
  obtain ⟨later, reaches⟩ := Machine.reaches_answered first idle (List.nodup_append.mp once).1 label
  rw [answeredTo_append, answeredTo_singleton event] at reaches
  obtain ⟨resume, before, -⟩ := reaches.last
  exact ⟨resume, before⟩

/-- The calls of one program, answered in order, with other programs started and run to
their end between them. -/
inductive Machine.Plays (machine : Machine σ ι Call Answer ε α) (label : ι) :
    σ → List (Program.Exchange Call Answer) → List ι → σ → Prop where
  | nil (store : σ) : Plays machine label store [] [] store
  | serves {store next last : σ} {exchange : Program.Exchange Call Answer}
      {exchanges : List (Program.Exchange Call Answer)} {others : List ι}
      (served : machine.Serves store label exchange next)
      (rest : Plays machine label next exchanges others last) :
      Plays machine label store (exchange :: exchanges) others last
  | other {store next last : σ} {exchanges : List (Program.Exchange Call Answer)} {others : List ι} {other : ι}
      {value : α}
      (may : machine.Starts store other) (apart : other ≠ label)
      (completes : (machine.body other).Completes (fun store exchange next => machine.Serves store other exchange next)
        store value next)
      (rest : Plays machine label next exchanges others last) :
      Plays machine label store exchanges (other :: others) last

/-- A program that is run to its end behind the others shows in the log, and leaves them
where they were. -/
theorem Machine.finishes_behind {tasks : List (Task ι Call Answer ε α)} {other : ι}
    {program : Program Call Answer ε α}
    {store next : σ} {value : α} (apart : other ≠ label)
    (completes : program.Completes
      (fun store exchange next => machine.Serves store other exchange next) store value next) :
    ∃ log, Trace machine.Atom ⟨store, tasks ++ [⟨other, program⟩]⟩ log ⟨next, tasks⟩ ∧
      startedIn log = [] ∧ answeredTo label log = [] := by
  induction completes with
  | done value state =>
    have there : (tasks ++ [⟨other, .done value⟩])[tasks.length]? =
        some (⟨other, .done value⟩ : Task ι Call Answer ε α) :=
      List.getElem?_concat_length
    have erased : (tasks ++ [(⟨other, .done value⟩ : Task ι Call Answer ε α)]).eraseIdx tasks.length =
        tasks := by
      rw [List.eraseIdx_append_of_length_le le_rfl, Nat.sub_self, List.eraseIdx_cons_zero, List.append_nil]
    have stops : machine.Atom ⟨state, tasks ++ [⟨other, .done value⟩]⟩ (.stops other) ⟨state, _⟩ :=
      .stops there
    rw [erased] at stops
    exact ⟨_, .cons stops (.nil _), rfl, rfl⟩
  | @call request resume answer before middle after value served _ ih =>
    obtain ⟨log, trace, started, answered⟩ := ih
    have there : (tasks ++ [⟨other, .call request resume⟩])[tasks.length]? =
        some (⟨other, .call request resume⟩ : Task ι Call Answer ε α) := List.getElem?_concat_length
    have moved : (tasks ++ [(⟨other, .call request resume⟩ : Task ι Call Answer ε α)]).set tasks.length
        ⟨other, resume answer⟩ = tasks ++ [⟨other, resume answer⟩] := by
      rw [List.set_append_right _ _ le_rfl, Nat.sub_self, List.set_cons_zero]
    have serves : machine.Atom ⟨before, tasks ++ [⟨other, .call request resume⟩]⟩
        (.serves other ⟨request, answer⟩) ⟨middle, _⟩ :=
      .serves there served
    rw [moved] at serves
    refine ⟨_, .cons serves trace, ?_, ?_⟩
    · exact started
    · simpa [answeredTo, apart] using answered

/-- What is played is a run of the machine. -/
theorem Machine.Plays.run {store next : σ} {exchanges : List (Program.Exchange Call Answer)} {others : List ι}
    {program later : Program Call Answer ε α} (plays : machine.Plays label store exchanges others next)
    (reaches : program.Reaches exchanges later) :
    ∃ log, Trace machine.Atom ⟨store, [⟨label, program⟩]⟩ log ⟨next, [⟨label, later⟩]⟩ ∧
      startedIn log = others ∧ answeredTo label log = exchanges := by
  induction plays generalizing program with
  | nil store =>
    cases reaches
    exact ⟨[], .nil _, rfl, rfl⟩
  | @serves store next last exchange exchanges others served _ ih =>
    cases reaches with
    | @call request resume answer _ _ inner =>
      obtain ⟨log, trace, started, answered⟩ := ih inner
      have there : [(⟨label, .call request resume⟩ : Task ι Call Answer ε α)][0]? =
          some ⟨label, .call request resume⟩ := rfl
      refine ⟨_, .cons (.serves there served) trace, started, ?_⟩
      rw [← answered]
      simp [answeredTo]
  | @other store next last exchanges others other value may apart completes _ ih =>
    obtain ⟨log, trace, started, answered⟩ := ih reaches
    obtain ⟨before, finished, started', answered'⟩ : ∃ log, Trace machine.Atom
        ⟨store, [⟨label, program⟩] ++ [⟨other, machine.body other⟩]⟩ log
          ⟨next, [⟨label, program⟩]⟩ ∧ startedIn log = [] ∧
          answeredTo label log = [] := Machine.finishes_behind apart completes
    refine ⟨_, .cons (.starts may) (finished.append trace), ?_, ?_⟩
    · change other :: startedIn (before ++ log) = other :: others
      rw [startedIn_append, started', started, List.nil_append]
    · change answeredTo label (before ++ log) = exchanges
      rw [answeredTo_append, answered', answered, List.nil_append]

end Projection

/-! ## A machine that refines another

One machine refines another through a view of its store when the programs are the same
and every answer of the first is one of the second, as far as the view goes. Its runs are
then runs of the other. -/

section Refinement
variable {τ : Type} {outer : Machine τ ι Call Answer ε α} {view : τ → σ}
  {inner : Machine σ ι Call Answer ε α}
  {start last : Pool τ ι Call Answer ε α} {log : List (Entry (Pool τ ι Call Answer ε α) (Move ι Call Answer))}

def Pool.seen (view : τ → σ) (pool : Pool τ ι Call Answer ε α) : Pool σ ι Call Answer ε α :=
  ⟨view pool.store, pool.tasks⟩

def entrySeen (view : τ → σ) (entry : Entry (Pool τ ι Call Answer ε α) (Move ι Call Answer)) :
    Entry (Pool σ ι Call Answer ε α) (Move ι Call Answer) :=
  ⟨entry.before.seen view, entry.event, entry.after.seen view⟩

structure Machine.Refines (outer : Machine τ ι Call Answer ε α) (view : τ → σ)
    (inner : Machine σ ι Call Answer ε α) :
    Prop where
  body : outer.body = inner.body
  starts : ∀ store label, outer.Starts store label → inner.Starts (view store) label
  serves : ∀ store label exchange next, outer.Serves store label exchange next →
    inner.Serves (view store) label exchange (view next)

theorem Machine.Refines.atom (refines : outer.Refines view inner) {before after : Pool τ ι Call Answer ε α}
    {event : Move ι Call Answer} (atom : outer.Atom before event after) :
    inner.Atom (before.seen view) event (after.seen view) := by
  cases atom with
  | starts may =>
    rw [refines.body]
    exact .starts (refines.starts _ _ may)
  | serves there served => exact .serves there (refines.serves _ _ _ _ served)
  | stops there => exact .stops there

theorem Machine.Refines.run (refines : outer.Refines view inner) (trace : Trace outer.Atom start log last) :
    Trace inner.Atom (start.seen view) (log.map (entrySeen view)) (last.seen view) := by
  induction trace with
  | nil => exact .nil _
  | cons atom _ ih => exact .cons (refines.atom atom) ih

@[simp] theorem startedIn_seen : startedIn (log.map (entrySeen view)) = startedIn log := by
  rw [startedIn, List.filterMap_map]
  rfl

@[simp] theorem answeredTo_seen [DecidableEq ι] (label : ι) :
    answeredTo label (log.map (entrySeen view)) = answeredTo label log := by
  rw [answeredTo, List.filterMap_map]
  rfl

end Refinement
end Pools
end PassportKit.Interaction
