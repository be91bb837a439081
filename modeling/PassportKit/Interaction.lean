import Mathlib.Logic.Basic
import Mathlib.Data.Set.Defs
import PassportKit.Runs

/-! Programs that call out. Between two of its own calls such a program is
suspended, and whatever answers it may run anything in the meantime, so nothing
is known of an answer but its type. What can be said of the program is which
calls it makes and in which order, and that is a discipline: a relation that
takes a phase through every call to the next phase. -/
namespace PassportKit.Interaction

/-- A program that calls out and goes on with whatever it is answered. -/
inductive Program (Call : Type) (Answer : Call → Type) (ε α : Type) where
  | done (value : α)
  | fail (error : ε)
  | call (request : Call) (resume : Answer request → Program Call Answer ε α)

variable {Call : Type} {Answer : Call → Type} {ε α β φ : Type}

namespace Program

def bind : Program Call Answer ε α → (α → Program Call Answer ε β) → Program Call Answer ε β
  | .done value, rest => rest value
  | .fail error, _ => .fail error
  | .call request resume, rest => .call request fun answer => (resume answer).bind rest

instance : Monad (Program Call Answer ε) where
  pure := .done
  bind := bind

/-- One call and its answer. -/
def perform (request : Call) : Program Call Answer ε (Answer request) := .call request .done

/-- A computation that calls nobody. -/
def ofExcept : Except ε α → Program Call Answer ε α
  | .ok value => .done value
  | .error error => .fail error

@[simp] theorem pure_eq (value : α) : (pure value : Program Call Answer ε α) = .done value := rfl

@[simp] theorem done_bind (value : α) (rest : α → Program Call Answer ε β) :
    (Program.done value >>= rest) = rest value := rfl

@[simp] theorem fail_bind (error : ε) (rest : α → Program Call Answer ε β) :
    (Program.fail error >>= rest) = Program.fail error := rfl

@[simp] theorem call_bind (request : Call) (resume : Answer request → Program Call Answer ε α)
    (rest : α → Program Call Answer ε β) :
    (Program.call request resume >>= rest) = .call request fun answer => resume answer >>= rest := rfl

@[simp] theorem perform_bind (request : Call) (rest : Answer request → Program Call Answer ε β) :
    (perform request >>= rest) = .call request rest := rfl

/-- The same program over a larger signature. -/
def through {Call' : Type} {Answer' : Call' → Type} (send : Call → Call')
    (read : ∀ request, Answer' (send request) → Answer request) :
    Program Call Answer ε α → Program Call' Answer' ε α
  | .done value => .done value
  | .fail error => .fail error
  | .call request resume => .call (send request) fun answer => (resume (read request answer)).through send read

/-- The result of a program whose calls are answered by a fixed table. -/
def run (answers : ∀ request, Answer request) : Program Call Answer ε α → Except ε α
  | .done value => .ok value
  | .fail error => .error error
  | .call request resume => (resume (answers request)).run answers

/-! ## Disciplines -/

/-- Every call the program makes, whatever it is answered, is one of these. -/
def Calls (May : Call → Prop) : Program Call Answer ε α → Prop
  | .done _ => True
  | .fail _ => True
  | .call request resume => May request ∧ ∀ answer, (resume answer).Calls May

/-- From a phase on, every call the program makes is one the phase it is in
allows, and a program that ends does so as it should in its last phase. -/
def Obeys (Advance : φ → Call → φ → Prop) (Ends : φ → α → Prop) :
    φ → Program Call Answer ε α → Prop
  | phase, .done value => Ends phase value
  | _, .fail _ => True
  | phase, .call request resume =>
    ∃ next, Advance phase request next ∧ ∀ answer, (resume answer).Obeys Advance Ends next

variable {Advance : φ → Call → φ → Prop}

theorem Obeys.mono {First Second : φ → α → Prop} {phase : φ} {program : Program Call Answer ε α}
    (obeys : program.Obeys Advance First phase)
    (weaker : ∀ phase value, First phase value → Second phase value) :
    program.Obeys Advance Second phase := by
  induction program generalizing phase with
  | done value => exact weaker phase value obeys
  | fail error => trivial
  | call request resume ih =>
    obtain ⟨next, allowed, later⟩ := obeys
    exact ⟨next, allowed, fun answer => ih answer (later answer)⟩

/-- **Sequencing.** A program obeys when its first half does, up to a phase from
which the second half does. -/
theorem Obeys.bind {Ends : φ → β → Prop} {phase : φ} {first : Program Call Answer ε α}
    {rest : α → Program Call Answer ε β}
    (obeys : first.Obeys Advance (fun phase value => (rest value).Obeys Advance Ends phase) phase) :
    (first >>= rest).Obeys Advance Ends phase := by
  induction first generalizing phase with
  | done value => exact obeys
  | fail error => trivial
  | call request resume ih =>
    obtain ⟨next, allowed, later⟩ := obeys
    exact ⟨next, allowed, fun answer => ih answer (later answer)⟩

/-- A first half that stays in its phase leaves the rest where it was. -/
theorem Obeys.andThen {Ends : φ → β → Prop} {phase : φ} {first : Program Call Answer ε α}
    {rest : α → Program Call Answer ε β}
    (stays : first.Obeys Advance (fun last _ => last = phase) phase)
    (later : ∀ value, (rest value).Obeys Advance Ends phase) :
    (first >>= rest).Obeys Advance Ends phase := by
  apply Obeys.bind
  apply stays.mono
  rintro last value rfl
  exact later value

theorem Calls.bind {May : Call → Prop} {first : Program Call Answer ε α} {rest : α → Program Call Answer ε β}
    (calls : first.Calls May) (later : ∀ value, (rest value).Calls May) : (first >>= rest).Calls May := by
  induction first with
  | done value => exact later value
  | fail error => trivial
  | call request resume ih => exact ⟨calls.1, fun answer => ih answer (calls.2 answer)⟩

/-- Calls that leave a phase where it is may be made there in any order. -/
theorem Calls.obeys {May : Call → Prop} {phase : φ} {program : Program Call Answer ε α}
    (calls : program.Calls May) (still : ∀ request, May request → Advance phase request phase) :
    program.Obeys Advance (fun last _ => last = phase) phase := by
  induction program with
  | done value => rfl
  | fail error => trivial
  | call request resume ih =>
    obtain ⟨here, later⟩ := calls
    exact ⟨phase, still request here, fun answer => ih answer (later answer)⟩

/-- After a check that calls nobody, the rest starts in the same phase. -/
theorem obeys_ofExcept_bind {Ends : φ → β → Prop} {phase : φ} {outcome : Except ε α}
    {rest : α → Program Call Answer ε β}
    (later : ∀ value, outcome = .ok value → (rest value).Obeys Advance Ends phase) :
    (ofExcept outcome >>= rest).Obeys Advance Ends phase := by
  cases outcome with
  | ok value => exact later value rfl
  | error error => trivial

/-! ## Runs -/

/-- `try first catch`: what was called stays called. -/
def catching : Program Call Answer ε α → (ε → Program Call Answer ε α) → Program Call Answer ε α
  | .done value, _ => .done value
  | .fail error, handler => handler error
  | .call request resume, handler => .call request fun answer => (resume answer).catching handler

@[simp] theorem done_catching (value : α) (handler : ε → Program Call Answer ε α) :
    (Program.done value).catching handler = .done value := rfl

@[simp] theorem fail_catching (error : ε) (handler : ε → Program Call Answer ε α) :
    (Program.fail error : Program Call Answer ε α).catching handler = handler error := rfl

@[simp] theorem call_catching (request : Call) (resume : Answer request → Program Call Answer ε α)
    (handler : ε → Program Call Answer ε α) :
    (Program.call request resume).catching handler =
      .call request fun answer => (resume answer).catching handler := rfl

/-- `try`, where what the handler makes of an error is kept apart. -/
def attempt (first : Program Call Answer ε α) (handler : ε → Program Call Answer ε β) :
    Program Call Answer ε (Except β α) :=
  (Except.ok <$> first).catching fun error => Except.error <$> handler error

theorem Calls.catching {May : Call → Prop} {first : Program Call Answer ε α}
    {handler : ε → Program Call Answer ε α}
    (calls : first.Calls May) (handled : ∀ error, (handler error).Calls May) :
    (first.catching handler).Calls May := by
  induction first with
  | done value => trivial
  | fail error => exact handled error
  | call request resume ih => exact ⟨calls.1, fun answer => ih answer (calls.2 answer)⟩

theorem calls_ofExcept {May : Call → Prop} (outcome : Except ε α) :
    (ofExcept outcome : Program Call Answer ε α).Calls May := by
  cases outcome <;> trivial

theorem Calls.ofExcept_bind {May : Call → Prop} {outcome : Except ε α} {rest : α → Program Call Answer ε β}
    (later : ∀ value, outcome = .ok value → (rest value).Calls May) : (ofExcept outcome >>= rest).Calls May := by
  cases outcome with
  | ok value => exact later value rfl
  | error error => trivial

@[simp] theorem run_ofExcept (answers : ∀ request, Answer request) (outcome : Except ε α) :
    (ofExcept outcome : Program Call Answer ε α).run answers = outcome := by
  cases outcome <;> rfl

theorem run_bind (answers : ∀ request, Answer request) (first : Program Call Answer ε α)
    (rest : α → Program Call Answer ε β) :
    (first >>= rest).run answers = first.run answers >>= fun value => (rest value).run answers := by
  induction first with
  | done value => rfl
  | fail error => rfl
  | call request resume ih => exact ih (answers request)

theorem run_catching (answers : ∀ request, Answer request) (first : Program Call Answer ε α)
    (handler : ε → Program Call Answer ε α) :
    (first.catching handler).run answers = tryCatch (first.run answers) fun error => (handler error).run answers := by
  induction first with
  | done value => rfl
  | fail error => rfl
  | call request resume ih => exact ih (answers request)

/-- Whatever it is answered, the program does not throw. -/
def Total : Program Call Answer ε α → Prop
  | .done _ => True
  | .fail _ => False
  | .call _ resume => ∀ answer, (resume answer).Total

theorem Total.bind {first : Program Call Answer ε α} {rest : α → Program Call Answer ε β} (total : first.Total)
    (later : ∀ value, (rest value).Total) : (first >>= rest).Total := by
  induction first with
  | done value => exact later value
  | fail error => exact total.elim
  | call request resume ih => exact fun answer => ih answer (total answer)

theorem Total.catching (first : Program Call Answer ε α) {handler : ε → Program Call Answer ε α}
    (handled : ∀ error, (handler error).Total) : (first.catching handler).Total := by
  induction first with
  | done value => trivial
  | fail error => exact handled error
  | call request resume ih => exact ih

theorem Total.attempt (first : Program Call Answer ε α) {handler : ε → Program Call Answer ε β}
    (handled : ∀ error, (handler error).Total) : (first.attempt handler).Total :=
  Total.catching _ fun error => (handled error).bind fun _ => trivial

/-- One call and what it was answered. -/
abbrev Exchange (Call : Type) (Answer : Call → Type) := (request : Call) × Answer request

/-- What is left of a program once these calls were made and answered. -/
inductive Reaches :
    Program Call Answer ε α → List (Exchange Call Answer) → Program Call Answer ε α → Prop where
  | refl (program : Program Call Answer ε α) : Reaches program [] program
  | call {request : Call} {resume : Answer request → Program Call Answer ε α} {answer : Answer request}
      {trace : List (Exchange Call Answer)} {later : Program Call Answer ε α}
      (rest : Reaches (resume answer) trace later) :
      Reaches (.call request resume) (⟨request, answer⟩ :: trace) later

/-- After these exchanges the program makes a call. -/
def Makes (program : Program Call Answer ε α) (trace : List (Exchange Call Answer)) (request : Call) : Prop :=
  ∃ resume, program.Reaches trace (.call request resume)

def Returns (program : Program Call Answer ε α) (trace : List (Exchange Call Answer)) (value : α) : Prop :=
  program.Reaches trace (.done value)

def Throws (program : Program Call Answer ε α) (trace : List (Exchange Call Answer)) (error : ε) : Prop :=
  program.Reaches trace (.fail error)

/-- Where a program stands. -/
inductive Stage (Call : Type) (ε α : Type) where
  | asks (request : Call)
  | returned (value : α)
  | threw (error : ε)

namespace Stage

def map (f : α → β) : Stage Call ε α → Stage Call ε β
  | .asks request => .asks request
  | .returned value => .returned (f value)
  | .threw error => .threw error

variable {stage : Stage Call ε α} {f : α → β}

@[simp] theorem map_eq_asks {request : Call} : stage.map f = .asks request ↔ stage = .asks request := by
  cases stage <;> simp [map]

@[simp] theorem map_eq_threw {error : ε} : stage.map f = .threw error ↔ stage = .threw error := by
  cases stage <;> simp [map]

@[simp] theorem map_eq_returned {result : β} :
    stage.map f = .returned result ↔ ∃ value, stage = .returned value ∧ f value = result := by
  cases stage <;> simp [map]

end Stage

def stage : Program Call Answer ε α → Stage Call ε α
  | .done value => .returned value
  | .fail error => .threw error
  | .call request _ => .asks request

@[simp] theorem stage_done (value : α) :
    (Program.done value : Program Call Answer ε α).stage = .returned value := rfl

@[simp] theorem stage_fail (error : ε) : (Program.fail error : Program Call Answer ε α).stage = .threw error := rfl

@[simp] theorem stage_call (request : Call) (resume : Answer request → Program Call Answer ε α) :
    (Program.call request resume).stage = .asks request := rfl

theorem stage_map (program : Program Call Answer ε α) (f : α → β) :
    (program >>= fun value => pure (f value)).stage = program.stage.map f := by
  cases program <;> rfl

section Runs
variable {trace : List (Exchange Call Answer)}

@[simp] theorem reaches_done {value : α} {later : Program Call Answer ε α} :
    (Program.done value).Reaches trace later ↔ trace = [] ∧ later = .done value := by
  constructor
  · intro reaches
    cases reaches
    exact ⟨rfl, rfl⟩
  · rintro ⟨rfl, rfl⟩
    exact .refl _

@[simp] theorem reaches_fail {error : ε} {later : Program Call Answer ε α} :
    (Program.fail error).Reaches trace later ↔ trace = [] ∧ later = .fail error := by
  constructor
  · intro reaches
    cases reaches
    exact ⟨rfl, rfl⟩
  · rintro ⟨rfl, rfl⟩
    exact .refl _

@[simp] theorem reaches_call {request : Call} {resume : Answer request → Program Call Answer ε α}
    {later : Program Call Answer ε α} :
    (Program.call request resume).Reaches trace later ↔ trace = [] ∧ later = .call request resume ∨
      ∃ answer rest, trace = ⟨request, answer⟩ :: rest ∧ (resume answer).Reaches rest later := by
  constructor
  · intro reaches
    cases reaches with
    | refl => exact .inl ⟨rfl, rfl⟩
    | call rest => exact .inr ⟨_, _, rfl, rest⟩
  · rintro (⟨rfl, rfl⟩ | ⟨answer, rest, rfl, reaches⟩)
    · exact .refl _
    · exact .call reaches

theorem reaches_once {request : Call} {resume : Answer request → Program Call Answer ε α}
    {exchange : Exchange Call Answer} {later : Program Call Answer ε α} :
    (Program.call request resume).Reaches [exchange] later ↔
      ∃ answer, exchange = ⟨request, answer⟩ ∧ later = resume answer := by
  constructor
  · intro reaches
    cases reaches with
    | @call _ _ answer _ _ rest =>
      generalize same : resume answer = reached at rest
      cases rest
      exact ⟨answer, rfl, same.symm⟩
  · rintro ⟨answer, rfl, rfl⟩
    exact .call (.refl _)

/-- A program goes on from where it stands. -/
theorem Reaches.trans {program middle later : Program Call Answer ε α} {more : List (Exchange Call Answer)}
    (first : program.Reaches trace middle) (second : middle.Reaches more later) :
    program.Reaches (trace ++ more) later := by
  induction first with
  | refl => exact second
  | call _ ih => exact .call (ih second)

/-- Before its last exchange a program made the call of it. -/
theorem Reaches.last {program later : Program Call Answer ε α} {exchange : Exchange Call Answer}
    (reaches : program.Reaches (trace ++ [exchange]) later) :
    ∃ resume, program.Reaches trace (.call exchange.1 resume) ∧ later = resume exchange.2 := by
  induction trace generalizing program with
  | nil =>
    cases program with
    | done => cases reaches
    | fail => cases reaches
    | call request resume =>
      obtain ⟨answer, rfl, rfl⟩ := reaches_once.mp reaches
      exact ⟨resume, .refl _, rfl⟩
  | cons first trace ih =>
    cases reaches with
    | call rest =>
      obtain ⟨resume, before, same⟩ := ih rest
      exact ⟨resume, .call before, same⟩

/-- What a program calls in a run is what it may call. -/
theorem Calls.of_reaches {May : Call → Prop} {program later : Program Call Answer ε α}
    (calls : program.Calls May) (reaches : program.Reaches trace later) :
    ∀ exchange ∈ trace, May exchange.1 := by
  induction reaches with
  | refl => exact nofun
  | @call request resume answer rest later inner ih =>
    intro exchange member
    rcases List.mem_cons.mp member with rfl | deeper
    · exact calls.1
    · exact ih (calls.2 answer) exchange deeper

theorem Total.not_throws {program : Program Call Answer ε α} {error : ε} (total : program.Total) :
    ¬ program.Throws trace error := by
  intro thrown
  induction program generalizing trace with
  | done value => cases thrown
  | fail error => exact total
  | call request resume ih =>
    cases thrown with
    | call inner => exact ih _ (total _) inner

theorem makes_next (request : Call) (resume : Answer request → Program Call Answer ε α) :
    (Program.call request resume).Makes [] request := ⟨resume, .refl _⟩

theorem makes_later {request later : Call} {resume : Answer request → Program Call Answer ε α}
    (answer : Answer request) (makes : (resume answer).Makes trace later) :
    (Program.call request resume).Makes (⟨request, answer⟩ :: trace) later := by
  obtain ⟨rest, reaches⟩ := makes
  exact ⟨rest, .call reaches⟩

/-- **Sequencing.** A run of two programs is a run of the first, and past its
return one of the second. -/
theorem reaches_bind {first : Program Call Answer ε α} {rest : α → Program Call Answer ε β}
    {later : Program Call Answer ε β} :
    (first >>= rest).Reaches trace later ↔ (∃ middle, first.Reaches trace middle ∧ later = (middle >>= rest)) ∨
      ∃ before after value, trace = before ++ after ∧ first.Returns before value ∧
        (rest value).Reaches after later := by
  constructor
  · intro reaches
    induction first generalizing trace with
    | done value => exact .inr ⟨[], trace, value, rfl, .refl _, reaches⟩
    | fail error =>
      obtain ⟨rfl, rfl⟩ := reaches_fail.mp reaches
      exact .inl ⟨.fail error, .refl _, rfl⟩
    | call request resume ih =>
      rcases reaches_call.mp reaches with ⟨rfl, rfl⟩ | ⟨answer, tail, rfl, inner⟩
      · exact .inl ⟨.call request resume, .refl _, rfl⟩
      · rcases ih answer inner with ⟨middle, inside, same⟩ | ⟨before, after, value, rfl, inside, outside⟩
        · exact .inl ⟨middle, .call inside, same⟩
        · exact .inr ⟨_ :: before, after, value, rfl, .call inside, outside⟩
  · rintro (⟨middle, inside, rfl⟩ | ⟨before, after, value, rfl, inside, outside⟩)
    · induction inside with
      | refl program => exact .refl _
      | call _ ih => exact .call ih
    · induction before generalizing first with
      | nil =>
        cases inside
        exact outside
      | cons exchange before ih =>
        cases inside with
        | call inner => exact .call (ih inner)

/-- A result that is only converted is converted at the end of the same run. -/
theorem reaches_map {program : Program Call Answer ε α} {f : α → β} {later : Program Call Answer ε β} :
    (program >>= fun value => pure (f value)).Reaches trace later ↔
      ∃ middle, program.Reaches trace middle ∧ later = (middle >>= fun value => pure (f value)) := by
  rw [reaches_bind]
  constructor
  · rintro (inside | ⟨before, after, value, rfl, inside, outside⟩)
    · exact inside
    · obtain ⟨rfl, rfl⟩ := reaches_done.mp outside
      rw [List.append_nil]
      exact ⟨.done value, inside, rfl⟩
  · exact .inl

theorem returns_bind {first : Program Call Answer ε α} {rest : α → Program Call Answer ε β} {value : β} :
    (first >>= rest).Returns trace value ↔ ∃ before after middle, trace = before ++ after ∧
      first.Returns before middle ∧ (rest middle).Returns after value := by
  rw [Returns, reaches_bind]
  constructor
  · rintro (⟨middle, inside, same⟩ | whole)
    · cases middle with
      | done middle =>
        rw [done_bind] at same
        exact ⟨trace, [], middle, (List.append_nil trace).symm, inside, same ▸ .refl _⟩
      | fail error => cases same
      | call request resume => cases same
    · exact whole
  · exact .inr

theorem throws_bind {first : Program Call Answer ε α} {rest : α → Program Call Answer ε β} {error : ε} :
    (first >>= rest).Throws trace error ↔ first.Throws trace error ∨ ∃ before after middle,
      trace = before ++ after ∧ first.Returns before middle ∧ (rest middle).Throws after error := by
  rw [Throws, reaches_bind]
  constructor
  · rintro (⟨middle, inside, same⟩ | whole)
    · cases middle with
      | done middle =>
        rw [done_bind] at same
        exact .inr ⟨trace, [], middle, (List.append_nil trace).symm, inside, same ▸ .refl _⟩
      | fail middle =>
        cases same
        exact .inl inside
      | call request resume => cases same
    · exact .inr whole
  · rintro (thrown | whole)
    · exact .inl ⟨.fail error, thrown, rfl⟩
    · exact .inr whole

theorem returns_map {program : Program Call Answer ε α} {f : α → β} {result : β} :
    (f <$> program).Returns trace result ↔ ∃ value, program.Returns trace value ∧ f value = result := by
  constructor
  · intro returned
    obtain ⟨middle, inside, same⟩ := reaches_map.mp returned
    cases middle with
    | done value =>
      cases same
      exact ⟨value, inside, rfl⟩
    | fail error => cases same
    | call request resume => cases same
  · rintro ⟨value, returned, rfl⟩
    exact reaches_map.mpr ⟨.done value, returned, rfl⟩

theorem throws_map {program : Program Call Answer ε α} {f : α → β} {error : ε} :
    (f <$> program).Throws trace error ↔ program.Throws trace error := by
  constructor
  · intro thrown
    obtain ⟨middle, inside, same⟩ := reaches_map.mp thrown
    cases middle with
    | done value => cases same
    | fail other =>
      cases same
      exact inside
    | call request resume => cases same
  · exact fun thrown => reaches_map.mpr ⟨.fail error, thrown, rfl⟩

theorem returns_ofExcept {outcome : Except ε α} {value : α} :
    (ofExcept outcome : Program Call Answer ε α).Returns trace value ↔ outcome = .ok value ∧ trace = [] := by
  cases outcome with
  | ok other =>
    rw [Except.ok.injEq, and_comm, eq_comm (a := other)]
    exact reaches_done.trans (by rw [Program.done.injEq])
  | error error =>
    constructor
    · exact nofun
    · rintro ⟨same, -⟩
      cases same

theorem returns_ofExcept_bind {outcome : Except ε α} {rest : α → Program Call Answer ε β} {value : β} :
    (ofExcept outcome >>= rest).Returns trace value ↔
      ∃ result, outcome = .ok result ∧ (rest result).Returns trace value := by
  cases outcome with
  | ok result =>
    constructor
    · exact fun returned => ⟨result, rfl, returned⟩
    · rintro ⟨other, same, returned⟩
      cases same
      exact returned
  | error error =>
    constructor
    · exact nofun
    · rintro ⟨result, same, -⟩
      cases same

theorem throws_ofExcept_bind {outcome : Except ε α} {rest : α → Program Call Answer ε β} {error : ε} :
    (ofExcept outcome >>= rest).Throws trace error ↔ outcome = .error error ∧ trace = [] ∨
      ∃ result, outcome = .ok result ∧ (rest result).Throws trace error := by
  cases outcome with
  | ok result =>
    constructor
    · exact fun thrown => .inr ⟨result, rfl, thrown⟩
    · rintro (⟨same, -⟩ | ⟨other, same, thrown⟩)
      · cases same
      · cases same
        exact thrown
  | error other =>
    constructor
    · intro thrown
      obtain ⟨rfl, same⟩ := reaches_fail.mp thrown
      cases same
      exact .inl ⟨rfl, rfl⟩
    · rintro (⟨same, rfl⟩ | ⟨result, same, -⟩)
      · cases same
        exact .refl _
      · cases same

/-- **Catching.** What was called up to the error stays called. -/
theorem returns_catching {first : Program Call Answer ε α} {handler : ε → Program Call Answer ε α} {value : α} :
    (first.catching handler).Returns trace value ↔ first.Returns trace value ∨ ∃ before after error,
      trace = before ++ after ∧ first.Throws before error ∧ (handler error).Returns after value := by
  induction first generalizing trace with
  | done value' =>
    rw [done_catching]
    constructor
    · exact .inl
    · rintro (returned | ⟨before, after, error, -, thrown, -⟩)
      · exact returned
      · cases thrown
  | fail error =>
    rw [fail_catching]
    constructor
    · exact fun returned => .inr ⟨[], trace, error, rfl, .refl _, returned⟩
    · rintro (returned | ⟨before, after, error', rfl, thrown, returned⟩)
      · cases returned
      · cases thrown
        exact returned
  | call request resume ih =>
    rw [call_catching]
    constructor
    · intro returned
      cases returned with
      | call inner =>
        rcases (ih _).mp inner with whole | ⟨before, after, error, rfl, thrown, handled⟩
        · exact .inl (.call whole)
        · exact .inr ⟨_ :: before, after, error, rfl, .call thrown, handled⟩
    · rintro (returned | ⟨before, after, error, rfl, thrown, handled⟩)
      · cases returned with
        | call inner => exact .call ((ih _).mpr (.inl inner))
      · cases thrown with
        | call inner => exact .call ((ih _).mpr (.inr ⟨_, after, error, rfl, inner, handled⟩))

/-- A program that is caught stands where it stands inside, or past what it threw. -/
theorem reaches_catching {first : Program Call Answer ε α} {handler : ε → Program Call Answer ε α}
    {later : Program Call Answer ε α} :
    (first.catching handler).Reaches trace later ↔
      (∃ middle, first.Reaches trace middle ∧ later = middle.catching handler) ∨ ∃ before after error,
        trace = before ++ after ∧ first.Throws before error ∧ (handler error).Reaches after later := by
  induction first generalizing trace with
  | done value =>
    rw [done_catching, reaches_done]
    constructor
    · rintro ⟨rfl, rfl⟩
      exact .inl ⟨.done value, .refl _, rfl⟩
    · rintro (⟨middle, inside, rfl⟩ | ⟨before, after, error, -, thrown, -⟩)
      · obtain ⟨rfl, rfl⟩ := reaches_done.mp inside
        exact ⟨rfl, rfl⟩
      · cases thrown
  | fail error =>
    rw [fail_catching]
    constructor
    · exact fun reaches => .inr ⟨[], trace, error, rfl, .refl _, reaches⟩
    · rintro (⟨middle, inside, rfl⟩ | ⟨before, after, error', rfl, thrown, reaches⟩)
      · obtain ⟨rfl, rfl⟩ := reaches_fail.mp inside
        exact .refl _
      · obtain ⟨rfl, same⟩ := reaches_fail.mp thrown
        cases same
        exact reaches
  | call request resume ih =>
    rw [call_catching]
    constructor
    · intro reaches
      rcases reaches_call.mp reaches with ⟨rfl, rfl⟩ | ⟨answer, rest, rfl, inner⟩
      · exact .inl ⟨.call request resume, .refl _, rfl⟩
      · rcases (ih answer).mp inner with ⟨middle, inside, same⟩ | ⟨before, after, error, rfl, thrown, handled⟩
        · exact .inl ⟨middle, .call inside, same⟩
        · exact .inr ⟨_ :: before, after, error, rfl, .call thrown, handled⟩
    · rintro (⟨middle, inside, rfl⟩ | ⟨before, after, error, rfl, thrown, handled⟩)
      · cases inside with
        | refl => exact .refl _
        | call rest => exact .call ((ih _).mpr (.inl ⟨middle, rest, rfl⟩))
      · cases thrown with
        | call inner => exact .call ((ih _).mpr (.inr ⟨_, after, error, rfl, inner, handled⟩))

/-- **Sequencing**, of a program about to call. -/
theorem makes_bind {first : Program Call Answer ε α} {rest : α → Program Call Answer ε β} {request : Call}
    (makes : (first >>= rest).Makes trace request) :
    first.Makes trace request ∨ ∃ before after value, trace = before ++ after ∧ first.Returns before value ∧
      (rest value).Makes after request := by
  obtain ⟨resume, reaches⟩ := makes
  rcases reaches_bind.mp reaches with ⟨middle, inside, same⟩ | ⟨before, after, value, rfl, inside, outside⟩
  · cases middle with
    | done value => exact .inr ⟨trace, [], value, (List.append_nil _).symm, inside, resume, same ▸ .refl _⟩
    | fail error => cases same
    | call asked further =>
      cases same
      exact .inl ⟨further, inside⟩
  · exact .inr ⟨before, after, value, rfl, inside, resume, outside⟩

theorem makes_ofExcept_bind {outcome : Except ε α} {rest : α → Program Call Answer ε β} {request : Call}
    (makes : (ofExcept outcome >>= rest).Makes trace request) :
    ∃ value, outcome = .ok value ∧ (rest value).Makes trace request := by
  cases outcome with
  | ok value => exact ⟨value, rfl, makes⟩
  | error error =>
    obtain ⟨resume, reaches⟩ := makes
    cases (reaches_fail.mp reaches).2

theorem makes_catching {first : Program Call Answer ε α} {handler : ε → Program Call Answer ε α} {request : Call}
    (makes : (first.catching handler).Makes trace request) :
    first.Makes trace request ∨ ∃ before after error, trace = before ++ after ∧ first.Throws before error ∧
      (handler error).Makes after request := by
  obtain ⟨resume, reaches⟩ := makes
  rcases reaches_catching.mp reaches with ⟨middle, inside, same⟩ | ⟨before, after, error, rfl, thrown, handled⟩
  · cases middle with
    | done value => cases same
    | fail error => exact .inr ⟨trace, [], error, (List.append_nil _).symm, inside, resume, same ▸ .refl _⟩
    | call asked further =>
      cases same
      exact .inl ⟨further, inside⟩
  · exact .inr ⟨before, after, error, rfl, thrown, resume, handled⟩

theorem makes_map {program : Program Call Answer ε α} {f : α → β} {request : Call}
    (makes : (f <$> program).Makes trace request) : program.Makes trace request := by
  have sequenced : (program >>= fun value => pure (f value)).Makes trace request := makes
  rcases makes_bind sequenced with inside | ⟨before, after, value, rfl, -, resume, ended⟩
  · exact inside
  · cases (reaches_done.mp ended).2

theorem makes_attempt {first : Program Call Answer ε α} {handler : ε → Program Call Answer ε β} {request : Call}
    (makes : (first.attempt handler).Makes trace request) :
    first.Makes trace request ∨ ∃ before after error, trace = before ++ after ∧ first.Throws before error ∧
      (handler error).Makes after request := by
  rcases makes_catching makes with tried | ⟨before, after, error, rfl, thrown, handled⟩
  · exact .inl (makes_map tried)
  · exact .inr ⟨before, after, error, rfl, throws_map.mp thrown, makes_map handled⟩

theorem Calls.of_makes {May : Call → Prop} {program : Program Call Answer ε α} {request : Call}
    (calls : program.Calls May)
    (makes : program.Makes trace request) : May request := by
  obtain ⟨resume, reaches⟩ := makes
  induction trace generalizing program with
  | nil =>
    cases reaches
    exact calls.1
  | cons exchange rest ih =>
    cases reaches with
    | call inner => exact ih (calls.2 _) inner

/-- A run over the larger signature is one over the smaller, answer by answer. -/
theorem reaches_through {Call' : Type} {Answer' : Call' → Type} {send : Call → Call'}
    {read : ∀ request, Answer' (send request) → Answer request} {program : Program Call Answer ε α}
    {outer : List (Exchange Call' Answer')} {later : Program Call' Answer' ε α}
    (reaches : (program.through send read).Reaches outer later) :
    ∃ inner middle, program.Reaches inner middle ∧ later = middle.through send read ∧
      List.Forall₂ (fun exchange exchange' => ∃ answer, exchange = ⟨send exchange'.1, answer⟩ ∧
        read exchange'.1 answer = exchange'.2) outer inner := by
  induction program generalizing outer with
  | done value =>
    obtain ⟨rfl, rfl⟩ := reaches_done.mp reaches
    exact ⟨[], .done value, .refl _, rfl, .nil⟩
  | fail error =>
    obtain ⟨rfl, rfl⟩ := reaches_fail.mp reaches
    exact ⟨[], .fail error, .refl _, rfl, .nil⟩
  | call request resume ih =>
    rcases reaches_call.mp reaches with ⟨rfl, rfl⟩ | ⟨answer, rest, rfl, deeper⟩
    · exact ⟨[], .call request resume, .refl _, rfl, .nil⟩
    · obtain ⟨inner, middle, inside, same, answers⟩ := ih _ deeper
      exact ⟨⟨request, read request answer⟩ :: inner, middle, .call inside, same,
        .cons ⟨answer, rfl, rfl⟩ answers⟩

theorem returns_attempt {first : Program Call Answer ε α} {handler : ε → Program Call Answer ε β}
    {result : Except β α} :
    (first.attempt handler).Returns trace result ↔
      (∃ value, first.Returns trace value ∧ result = .ok value) ∨
        ∃ before after error made, trace = before ++ after ∧ first.Throws before error ∧
          (handler error).Returns after made ∧ result = .error made := by
  simp only [attempt, returns_catching, returns_map, throws_map, eq_comm (b := result)]
  constructor
  · rintro (tried | ⟨before, after, error, rfl, thrown, made, handled, same⟩)
    · exact .inl tried
    · exact .inr ⟨before, after, error, made, rfl, thrown, handled, same⟩
  · rintro (tried | ⟨before, after, error, made, rfl, thrown, handled, same⟩)
    · exact .inl tried
    · exact .inr ⟨before, after, error, rfl, thrown, made, handled, same⟩

end Runs

/-! ## Runs in an environment -/

section Environments
variable {σ : Type*} {Serves : σ → Exchange Call Answer → σ → Prop} {before after : σ}

/-- The program returns, each of its calls being answered where the calls before it
left the environment. -/
inductive Completes (Serves : σ → Exchange Call Answer → σ → Prop) :
    Program Call Answer ε α → σ → α → σ → Prop where
  | done (value : α) (state : σ) : Completes Serves (.done value) state value state
  | call {request : Call} {resume : Answer request → Program Call Answer ε α} {answer : Answer request}
      {before middle after : σ} {value : α} (served : Serves before ⟨request, answer⟩ middle)
      (rest : Completes Serves (resume answer) middle value after) :
      Completes Serves (.call request resume) before value after

@[simp] theorem completes_done {value result : α} :
    (Program.done value : Program Call Answer ε α).Completes Serves before result after ↔
      result = value ∧ after = before := by
  constructor
  · intro completes
    cases completes
    exact ⟨rfl, rfl⟩
  · rintro ⟨rfl, rfl⟩
    exact .done _ _

@[simp] theorem not_completes_fail {error : ε} {result : α} :
    ¬ (Program.fail error : Program Call Answer ε α).Completes Serves before result after := nofun

theorem completes_call {request : Call} {resume : Answer request → Program Call Answer ε α} {result : α} :
    (Program.call request resume).Completes Serves before result after ↔ ∃ answer middle,
      Serves before ⟨request, answer⟩ middle ∧ (resume answer).Completes Serves middle result after := by
  constructor
  · intro completes
    cases completes with
    | call served rest => exact ⟨_, _, served, rest⟩
  · rintro ⟨answer, middle, served, rest⟩
    exact .call served rest

/-- **Sequencing.** The second half starts where the first left the environment. -/
theorem completes_bind {first : Program Call Answer ε α} {rest : α → Program Call Answer ε β} {result : β} :
    (first >>= rest).Completes Serves before result after ↔ ∃ value middle,
      first.Completes Serves before value middle ∧ (rest value).Completes Serves middle result after := by
  induction first generalizing before with
  | done value =>
    constructor
    · exact fun completes => ⟨value, before, .done _ _, completes⟩
    · rintro ⟨other, middle, inside, outside⟩
      obtain ⟨rfl, rfl⟩ := completes_done.mp inside
      exact outside
  | fail error =>
    constructor
    · exact nofun
    · rintro ⟨value, middle, inside, -⟩
      cases inside
  | call request resume ih =>
    constructor
    · intro completes
      cases completes with
      | call served rest =>
        obtain ⟨value, middle, inside, outside⟩ := (ih _).mp rest
        exact ⟨value, middle, .call served inside, outside⟩
    · rintro ⟨value, middle, inside, outside⟩
      cases inside with
      | call served rest => exact .call served ((ih _).mpr ⟨value, middle, rest, outside⟩)

theorem completes_ofExcept {outcome : Except ε α} {result : α} :
    (ofExcept outcome : Program Call Answer ε α).Completes Serves before result after ↔
      outcome = .ok result ∧ after = before := by
  cases outcome with
  | ok value =>
    constructor
    · intro completes
      obtain ⟨rfl, rfl⟩ := completes_done.mp completes
      exact ⟨rfl, rfl⟩
    · rintro ⟨same, rfl⟩
      cases same
      exact .done _ _
  | error error =>
    constructor
    · exact nofun
    · rintro ⟨same, -⟩
      cases same

/-- What completes over the larger signature completes over the smaller, where its calls
are served there as what they stand for. -/
theorem completes_through {Call' : Type} {Answer' : Call' → Type} {send : Call → Call'}
    {read : ∀ request, Answer' (send request) → Answer request}
    {Larger : σ → Exchange Call' Answer' → σ → Prop}
    {program : Program Call Answer ε α} {result : α} :
    (program.through send read).Completes Larger before result after ↔
      program.Completes (fun state exchange next => ∃ answer, read exchange.1 answer = exchange.2 ∧
        Larger state ⟨send exchange.1, answer⟩ next) before result after := by
  induction program generalizing before with
  | done value => exact completes_done.trans completes_done.symm
  | fail error => exact iff_of_false not_completes_fail not_completes_fail
  | call request resume ih =>
    rw [through, completes_call, completes_call]
    constructor
    · rintro ⟨answer, middle, served, rest⟩
      exact ⟨_, middle, ⟨answer, rfl, served⟩, (ih _).mp rest⟩
    · rintro ⟨answer, middle, served, rest⟩
      obtain ⟨larger, rfl, served⟩ : ∃ larger : Answer' (send request),
        read request larger = answer ∧ Larger before ⟨send request, larger⟩ middle := served
      exact ⟨larger, middle, served, (ih _).mpr rest⟩

/-- What every answer preserves, every program preserves. -/
theorem Completes.preserves {Holds : σ → Prop} {program : Program Call Answer ε α} {result : α}
    (completes : program.Completes Serves before result after)
    (kept : ∀ state exchange next, Holds state → Serves state exchange next → Holds next) (held : Holds before) :
    Holds after := by
  induction completes with
  | done => exact held
  | call served _ ih => exact ih (kept _ _ _ held served)

/-- What the answers to its own calls preserve, a program preserves. -/
theorem Calls.preserves {Holds : σ → Prop} {May : Call → Prop} {program : Program Call Answer ε α} {result : α}
    (calls : program.Calls May) (completes : program.Completes Serves before result after)
    (kept : ∀ state exchange next, May exchange.1 → Holds state → Serves state exchange next → Holds next)
    (held : Holds before) : Holds after := by
  induction completes with
  | done => exact held
  | call served _ ih => exact ih (calls.2 _) (kept _ _ _ calls.1 held served)

/-- The program, run where each call has one answer. -/
def carryOut (answer : σ → (request : Call) → Option (σ × Answer request)) :
    σ → Program Call Answer ε α → Option (α × σ)
  | state, .done value => some (value, state)
  | _, .fail _ => none
  | state, .call request resume =>
    (answer state request).bind fun (next, reply) => (resume reply).carryOut answer next

theorem completes_of_carryOut {answer : σ → (request : Call) → Option (σ × Answer request)}
    (served : ∀ state request next reply, answer state request = some (next, reply) →
      Serves state ⟨request, reply⟩ next)
    {program : Program Call Answer ε α} {result : α} (ran : program.carryOut answer before = some (result, after)) :
    program.Completes Serves before result after := by
  induction program generalizing before with
  | done value =>
    cases ran
    exact .done _ _
  | fail error => cases ran
  | call request resume ih =>
    obtain ⟨⟨next, reply⟩, answered, rest⟩ := Option.bind_eq_some_iff.mp ran
    exact .call (served _ _ _ _ answered) (ih reply rest)

end Environments

section Passes
variable {σ : Type*} {Serves : σ → Exchange Call Answer → σ → Prop} {before after : σ}
  {log : List (Runs.Entry σ (Exchange Call Answer))}

/-- A run in an environment, as far as it got, with the states it passed. -/
def Passes (Serves : σ → Exchange Call Answer → σ → Prop) (program : Program Call Answer ε α) (before : σ)
    (log : List (Runs.Entry σ (Exchange Call Answer))) (later : Program Call Answer ε α) (after : σ) : Prop :=
  Runs.Trace Serves before log after ∧ program.Reaches (log.map (·.event)) later

theorem passes_done {value : α} {later : Program Call Answer ε α} :
    (Program.done value).Passes Serves before log later after ↔
      log = [] ∧ later = .done value ∧ after = before := by
  constructor
  · rintro ⟨trace, reaches⟩
    obtain ⟨none, rfl⟩ := reaches_done.mp reaches
    obtain rfl := List.map_eq_nil_iff.mp none
    cases trace
    exact ⟨rfl, rfl, rfl⟩
  · rintro ⟨rfl, rfl, rfl⟩
    exact ⟨.nil _, .refl _⟩

theorem passes_call {request : Call} {resume : Answer request → Program Call Answer ε α} {result : α} :
    (Program.call request resume).Passes Serves before log (.done result) after ↔ ∃ answer middle rest,
      log = ⟨before, ⟨request, answer⟩, middle⟩ :: rest ∧ Serves before ⟨request, answer⟩ middle ∧
        (resume answer).Passes Serves middle rest (.done result) after := by
  constructor
  · rintro ⟨trace, reaches⟩
    cases trace with
    | nil => cases reaches
    | cons served trace =>
      rcases reaches_call.mp reaches with ⟨none, -⟩ | ⟨answer, rest, same, inner⟩
      · cases none
      · obtain ⟨rfl, rfl⟩ := List.cons.inj same
        exact ⟨answer, _, _, rfl, served, trace, inner⟩
  · rintro ⟨answer, middle, rest, rfl, served, trace, inner⟩
    exact ⟨.cons served trace, .call inner⟩

theorem passes_bind {first : Program Call Answer ε α} {rest : α → Program Call Answer ε β}
    {later : Program Call Answer ε β} :
    (first >>= rest).Passes Serves before log later after ↔
      (∃ middle, first.Passes Serves before log middle after ∧ later = (middle >>= rest)) ∨
        ∃ one two value middle, log = one ++ two ∧ first.Passes Serves before one (.done value) middle ∧
          (rest value).Passes Serves middle two later after := by
  constructor
  · rintro ⟨trace, reaches⟩
    rcases reaches_bind.mp reaches with ⟨middle, inside, rfl⟩ | ⟨earlier, further, value, cut, inside, outside⟩
    · exact .inl ⟨middle, ⟨trace, inside⟩, rfl⟩
    · obtain ⟨one, two, rfl, rfl, rfl⟩ := List.map_eq_append_iff.mp cut
      obtain ⟨middle, first, second⟩ := trace.split
      exact .inr ⟨one, two, value, middle, rfl, ⟨first, inside⟩, ⟨second, outside⟩⟩
  · rintro (⟨middle, ⟨trace, inside⟩, rfl⟩ |
      ⟨one, two, value, middle, rfl, ⟨first, inside⟩, second, outside⟩)
    · exact ⟨trace, reaches_bind.mpr (.inl ⟨middle, inside, rfl⟩)⟩
    · refine ⟨first.append second, ?_⟩
      rw [List.map_append]
      exact reaches_bind.mpr (.inr ⟨_, _, value, rfl, inside, outside⟩)

/-- **Sequencing**, of runs that return. -/
theorem passes_bind_done {first : Program Call Answer ε α} {rest : α → Program Call Answer ε β} {result : β} :
    (first >>= rest).Passes Serves before log (.done result) after ↔ ∃ one two value middle, log = one ++ two ∧
      first.Passes Serves before one (.done value) middle ∧
        (rest value).Passes Serves middle two (.done result) after := by
  constructor
  · rintro ⟨trace, returns⟩
    obtain ⟨earlier, further, value, cut, inside, outside⟩ := returns_bind.mp returns
    obtain ⟨one, two, rfl, rfl, rfl⟩ := List.map_eq_append_iff.mp cut
    obtain ⟨middle, first, second⟩ := trace.split
    exact ⟨one, two, value, middle, rfl, ⟨first, inside⟩, ⟨second, outside⟩⟩
  · exact fun both => passes_bind.mpr (.inr both)

theorem passes_ofExcept {outcome : Except ε α} {result : α} :
    (ofExcept outcome : Program Call Answer ε α).Passes Serves before log (.done result) after ↔
      outcome = .ok result ∧ log = [] ∧ after = before := by
  cases outcome with
  | ok value =>
    rw [Except.ok.injEq]
    refine passes_done.trans ⟨?_, ?_⟩
    · rintro ⟨rfl, same, rfl⟩
      cases same
      exact ⟨rfl, rfl, rfl⟩
    · rintro ⟨rfl, rfl, rfl⟩
      exact ⟨rfl, rfl, rfl⟩
  | error error =>
    constructor
    · rintro ⟨-, returns⟩
      cases (reaches_fail.mp returns).2
    · rintro ⟨same, -⟩
      cases same

theorem passes_ofExcept_bind {outcome : Except ε α} {rest : α → Program Call Answer ε β}
    {later : Program Call Answer ε β}
    (passes : (ofExcept outcome >>= rest).Passes Serves before log later after) :
    log = [] ∨ ∃ value, outcome = .ok value ∧ (rest value).Passes Serves before log later after := by
  cases outcome with
  | ok value => exact .inr ⟨value, rfl, passes⟩
  | error error => exact .inl (List.map_eq_nil_iff.mp (reaches_fail.mp passes.2).1)

/-- A program that is caught stands where it stands inside, or past what it threw. -/
theorem passes_catching {first : Program Call Answer ε α} {handler : ε → Program Call Answer ε α} {result : α}
    (passes : (first.catching handler).Passes Serves before log (.done result) after) :
    first.Passes Serves before log (.done result) after ∨ ∃ one two error middle, log = one ++ two ∧
      first.Passes Serves before one (.fail error) middle ∧
        (handler error).Passes Serves middle two (.done result) after := by
  obtain ⟨trace, returns⟩ := passes
  rcases returns_catching.mp returns with inside | ⟨earlier, further, error, cut, thrown, handled⟩
  · exact .inl ⟨trace, inside⟩
  · obtain ⟨one, two, rfl, rfl, rfl⟩ := List.map_eq_append_iff.mp cut
    obtain ⟨middle, first, second⟩ := trace.split
    exact .inr ⟨one, two, error, middle, rfl, ⟨first, thrown⟩, ⟨second, handled⟩⟩

/-- Every run that returns passed something. -/
theorem Completes.passes {program : Program Call Answer ε α} {result : α}
    (completes : program.Completes Serves before result after) :
    ∃ log, program.Passes Serves before log (.done result) after := by
  induction completes with
  | done value state => exact ⟨[], .nil _, .refl _⟩
  | call served _ ih =>
    obtain ⟨log, trace, returns⟩ := ih
    exact ⟨_, .cons served trace, .call returns⟩

/-- What is called on the way is what may be called. -/
theorem Calls.of_passes {May : Call → Prop} {program later : Program Call Answer ε α} (calls : program.Calls May)
    (passes : program.Passes Serves before log later after) : ∀ entry ∈ log, May entry.event.1 :=
  fun _ member => calls.of_reaches passes.2 _ (List.mem_map_of_mem member)

end Passes

end Program

end PassportKit.Interaction
