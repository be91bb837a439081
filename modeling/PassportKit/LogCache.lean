import PassportKit.Positions

/-! The demo's incremental log cache. A refresh reads how far the cache goes, asks
for the newer logs, and appends the answer; between the two it waits, and another
refresh may have appended the same blocks by then. The cache stays the list of the
chain's logs exactly in the runs in which no answer is stored behind the back of
another. -/
namespace PassportKit.LogCache
open Runs Positions

structure Cache where
  nextBlock : ℕ
  logs : List RawLog
  deriving DecidableEq, Repr

/-- `state.logCache ??= { nextBlock: BigInt(A.deployBlock ?? 0), logs: [] }` -/
def opened (deployBlock : Option ℕ) (logCache : Option Cache) : Cache :=
  logCache.getD ⟨deployBlock.getD 0, []⟩

/-- After the first await: the first block to ask for, if any is new. -/
def Cache.wanted (cache : Cache) (latest : ℕ) : Option ℕ :=
  if cache.nextBlock ≤ latest then some cache.nextBlock else none

/-- After the second await. -/
def Cache.store (cache : Cache) (latest : ℕ) (fresh : List RawLog) : Cache where
  logs := cache.logs ++ fresh
  nextBlock := latest + 1

/-- What a call is waiting for. -/
inductive Waiting where
  | blockNumber
  | logs (fromBlock latest : ℕ)
  deriving DecidableEq, Repr

structure State where
  /-- The last block of the chain. -/
  latest : ℕ
  logCache : Option Cache
  calls : List Waiting
  deriving DecidableEq, Repr

inductive Event where
  | mines
  | begins
  /-- `getBlockNumber` is answered to the call in this place. -/
  | answersBlockNumber (call : ℕ)
  /-- `eth_getLogs` is answered. -/
  | answersLogs (call : ℕ)
  /-- A request is refused, and the call throws. -/
  | fails (call : ℕ)
  deriving DecidableEq, Repr

section Transitions
variable (deployBlock : Option ℕ) (blockLogs : ℕ → List RawLog)

/-- `eth_getLogs`: the manager's logs from one block to before another, in order. -/
def logsBetween (fromBlock next : ℕ) : List RawLog :=
  (List.range' fromBlock (next - fromBlock)).flatMap blockLogs

def step (state : State) : Event → Except Unit State
  | .mines => .ok { state with latest := state.latest + 1 }
  | .begins => .ok { state with
      logCache := some (opened deployBlock state.logCache)
      calls := state.calls ++ [.blockNumber] }
  | .answersBlockNumber call =>
    match state.logCache, state.calls[call]? with
    | some cache, some .blockNumber =>
      match cache.wanted state.latest with
      | some fromBlock => .ok { state with calls := state.calls.set call (.logs fromBlock state.latest) }
      | none => .ok { state with calls := state.calls.eraseIdx call }
    | _, _ => .error ()
  | .answersLogs call =>
    match state.logCache, state.calls[call]? with
    | some cache, some (.logs fromBlock latest) => .ok { state with
        logCache := some (cache.store latest (logsBetween blockLogs fromBlock (latest + 1)))
        calls := state.calls.eraseIdx call }
    | _, _ => .error ()
  | .fails call =>
    if call < state.calls.length then .ok { state with calls := state.calls.eraseIdx call }
    else .error ()

/-- A server that has not been asked for logs yet. -/
def idle (latest : ℕ) : State := ⟨latest, none, []⟩

/-- How far the cache goes. -/
def State.nextBlock (state : State) : ℕ := (opened deployBlock state.logCache).nextBlock

/-- The cache holds the logs of its blocks, each once and in chain order. -/
def Exact (state : State) : Prop :=
  (opened deployBlock state.logCache).logs =
    logsBetween blockLogs (deployBlock.getD 0) (state.nextBlock deployBlock)

/-- When an answer is stored, the cache has gone no further than the answer does, and
what it has gone since the request has no logs. -/
def Unraced (state : State) : Event → Prop
  | .answersLogs call => ∀ fromBlock latest, state.calls[call]? = some (.logs fromBlock latest) →
      state.nextBlock deployBlock ≤ latest + 1 ∧
        logsBetween blockLogs fromBlock (state.nextBlock deployBlock) = []
  | _ => True

/-- The step leaves the cache exact, and no shorter. -/
def Faithful (state : State) (event : Event) : Prop :=
  Exact deployBlock blockLogs (settle (step deployBlock blockLogs) state event) ∧
    state.nextBlock deployBlock ≤ (settle (step deployBlock blockLogs) state event).nextBlock deployBlock

end Transitions

section Ranges
variable {blockLogs : ℕ → List RawLog} {first middle next : ℕ}

/-- Adjacent ranges join. -/
theorem logsBetween_append (low : first ≤ middle) (high : middle ≤ next) :
    logsBetween blockLogs first middle ++ logsBetween blockLogs middle next =
      logsBetween blockLogs first next := by
  have count : middle - first + (next - middle) = next - first := by omega
  have start : first + (middle - first) = middle := by omega
  have joined := @List.range'_append_1 first (middle - first) (next - middle)
  rw [start, count] at joined
  rw [logsBetween, logsBetween, logsBetween, ← joined, List.flatMap_append]

theorem logsBetween_self (block : ℕ) : logsBetween blockLogs block block = [] := by
  rw [logsBetween, Nat.sub_self]
  rfl

end Ranges

/-! ## The cache and the chain -/

section Races
variable {deployBlock : Option ℕ} {blockLogs : ℕ → List RawLog} {state : State} {event : Event}

/-- The cache is exact, and every request in flight starts inside it. -/
structure Sound (deployBlock : Option ℕ) (blockLogs : ℕ → List RawLog) (state : State) : Prop where
  exact : Exact deployBlock blockLogs state
  started : deployBlock.getD 0 ≤ state.nextBlock deployBlock
  cached : ∀ call ∈ state.calls, ∃ cache, state.logCache = some cache
  requested : ∀ fromBlock latest, .logs fromBlock latest ∈ state.calls →
    deployBlock.getD 0 ≤ fromBlock ∧ fromBlock ≤ state.nextBlock deployBlock

/-- Storing an answer that starts inside an exact cache leaves it exact and no
shorter just when it adds no log twice. -/
theorem exact_store_iff {deployed fromBlock latest next : ℕ} (inside : deployed ≤ fromBlock)
    (requested : fromBlock ≤ next) :
    (logsBetween blockLogs deployed next ++ logsBetween blockLogs fromBlock (latest + 1) =
        logsBetween blockLogs deployed (latest + 1) ∧ next ≤ latest + 1) ↔
      (next ≤ latest + 1 ∧ logsBetween blockLogs fromBlock next = []) := by
  constructor
  · rintro ⟨same, longer⟩
    refine ⟨longer, ?_⟩
    rw [← logsBetween_append (le_trans inside requested) longer] at same
    have twice := List.append_cancel_left same
    rw [← logsBetween_append requested longer] at twice
    exact List.append_left_eq_self.mp twice
  · rintro ⟨longer, empty⟩
    refine ⟨?_, longer⟩
    rw [← logsBetween_append requested longer, empty, List.nil_append,
      logsBetween_append (le_trans inside requested) longer]

/-- What a step does that stores no answer. -/
structure Quiet (deployBlock : Option ℕ) (state next : State) : Prop where
  same : opened deployBlock next.logCache = opened deployBlock state.logCache
  cached : ∀ call ∈ next.calls, ∃ cache, next.logCache = some cache
  requested : ∀ fromBlock latest, .logs fromBlock latest ∈ next.calls →
    .logs fromBlock latest ∈ state.calls ∨
      fromBlock = state.nextBlock deployBlock ∧ fromBlock ≤ latest

theorem Sound.quiet_erase (sound : Sound deployBlock blockLogs state) (call : ℕ) :
    Quiet deployBlock state { state with calls := state.calls.eraseIdx call } := by
  refine ⟨rfl, ?_, ?_⟩
  · intro waiting member
    exact sound.cached waiting (List.mem_of_mem_eraseIdx member)
  · intro fromBlock latest member
    exact .inl (List.mem_of_mem_eraseIdx member)

theorem Sound.quiet_refl (sound : Sound deployBlock blockLogs state) : Quiet deployBlock state state :=
  ⟨rfl, sound.cached, fun _ _ member => .inl member⟩

/-- The block number is answered: the call asks for the newer logs, or returns. -/
theorem Sound.quiet_answersBlockNumber (sound : Sound deployBlock blockLogs state) (call : ℕ) :
    Quiet deployBlock state (settle (step deployBlock blockLogs) state (.answersBlockNumber call)) := by
  cases cached : state.logCache with
  | none => simpa [settle, step, cached] using sound.quiet_refl
  | some cache =>
    cases found : state.calls[call]? with
    | none => simpa [settle, step, cached, found] using sound.quiet_refl
    | some waiting =>
      cases waiting with
      | logs => simpa [settle, step, cached, found] using sound.quiet_refl
      | blockNumber =>
        by_cases new : cache.nextBlock ≤ state.latest
        · have asks : settle (step deployBlock blockLogs) state (.answersBlockNumber call) =
              { state with calls := state.calls.set call (.logs cache.nextBlock state.latest) } := by
            simp [settle, step, cached, found, Cache.wanted, new]
          rw [asks]
          refine ⟨rfl, fun _ _ => ⟨cache, cached⟩, fun fromBlock latest member => ?_⟩
          rcases List.mem_or_eq_of_mem_set member with earlier | asked
          · exact .inl earlier
          · cases asked
            exact .inr ⟨by simp [State.nextBlock, opened, cached], new⟩
        · have returns : settle (step deployBlock blockLogs) state (.answersBlockNumber call) =
              { state with calls := state.calls.eraseIdx call } := by
            simp [settle, step, cached, found, Cache.wanted, new]
          rw [returns]
          exact sound.quiet_erase call

/-- Logs for a call that waits for none are not stored. -/
theorem Sound.quiet_answersLogs (sound : Sound deployBlock blockLogs state) {call : ℕ}
    (other : ∀ fromBlock latest, state.calls[call]? ≠ some (.logs fromBlock latest)) :
    Unraced deployBlock blockLogs state (.answersLogs call) ∧
      Quiet deployBlock state (settle (step deployBlock blockLogs) state (.answersLogs call)) := by
  refine ⟨fun fromBlock latest request => absurd request (other fromBlock latest), ?_⟩
  cases found : state.calls[call]? with
  | none => simpa [settle, step, found] using sound.quiet_refl
  | some waiting =>
    cases waiting with
    | blockNumber => simpa [settle, step, found] using sound.quiet_refl
    | logs fromBlock latest => exact absurd found (other fromBlock latest)

/-- **Inversion.** An answer with logs is stored; every other step is quiet. -/
theorem settle_cases (sound : Sound deployBlock blockLogs state) (event : Event) :
    (∃ call fromBlock latest cache, event = .answersLogs call ∧
      state.calls[call]? = some (.logs fromBlock latest) ∧ state.logCache = some cache ∧
      settle (step deployBlock blockLogs) state event = { state with
        logCache := some (cache.store latest (logsBetween blockLogs fromBlock (latest + 1)))
        calls := state.calls.eraseIdx call }) ∨
    (Unraced deployBlock blockLogs state event ∧
      Quiet deployBlock state (settle (step deployBlock blockLogs) state event)) := by
  cases event with
  | mines =>
    exact .inr ⟨trivial, ⟨rfl, sound.cached, fun _ _ member => .inl member⟩⟩
  | begins =>
    refine .inr ⟨trivial, ⟨rfl, fun _ _ => ⟨_, rfl⟩, fun fromBlock latest member => .inl ?_⟩⟩
    rcases List.mem_append.mp member with earlier | new
    · exact earlier
    · simp at new
  | answersBlockNumber call => exact .inr ⟨trivial, sound.quiet_answersBlockNumber call⟩
  | answersLogs call =>
    by_cases waits : ∃ fromBlock latest, state.calls[call]? = some (.logs fromBlock latest)
    · obtain ⟨fromBlock, latest, found⟩ := waits
      obtain ⟨cache, cached⟩ := sound.cached _ (List.mem_of_getElem? found)
      refine .inl ⟨call, fromBlock, latest, cache, rfl, found, cached, ?_⟩
      simp [settle, step, found, cached]
    · exact .inr (sound.quiet_answersLogs fun fromBlock latest found => waits ⟨fromBlock, latest, found⟩)
  | fails call =>
    refine .inr ⟨trivial, ?_⟩
    by_cases inside : call < state.calls.length
    · simpa [settle, step, inside] using sound.quiet_erase call
    · simpa [settle, step, inside] using sound.quiet_refl

/-- **One step.** From a sound state, a step is faithful exactly when it is not raced. -/
theorem faithful_iff_unraced (sound : Sound deployBlock blockLogs state) (event : Event) :
    Faithful deployBlock blockLogs state event ↔ Unraced deployBlock blockLogs state event := by
  rcases settle_cases sound event with ⟨call, fromBlock, latest, cache, rfl, found, cached, stored⟩ | quiet
  · obtain ⟨inside, requested⟩ := sound.requested _ _ (List.mem_of_getElem? found)
    have logs : cache.logs =
        logsBetween blockLogs (deployBlock.getD 0) (state.nextBlock deployBlock) := by
      have exact := sound.exact
      rwa [Exact, cached] at exact
    have meets : Faithful deployBlock blockLogs state (.answersLogs call) ↔
        (logsBetween blockLogs (deployBlock.getD 0) (state.nextBlock deployBlock) ++
            logsBetween blockLogs fromBlock (latest + 1) =
          logsBetween blockLogs (deployBlock.getD 0) (latest + 1) ∧
        state.nextBlock deployBlock ≤ latest + 1) := by
      rw [Faithful, stored, ← logs]
      rfl
    rw [meets, exact_store_iff inside requested]
    constructor
    · intro clear fromBlock' latest' found'
      rw [found] at found'
      cases found'
      exact clear
    · intro unraced
      exact unraced fromBlock latest found
  · obtain ⟨unraced, same, -, -⟩ := quiet
    refine iff_of_true ⟨?_, ?_⟩ unraced
    · rw [Exact, State.nextBlock, same]
      exact sound.exact
    · rw [State.nextBlock, State.nextBlock, same]

/-- A step that is not raced keeps the cache sound. -/
theorem sound_settle (sound : Sound deployBlock blockLogs state)
    (unraced : Unraced deployBlock blockLogs state event) :
    Sound deployBlock blockLogs (settle (step deployBlock blockLogs) state event) := by
  obtain ⟨exact, longer⟩ := (faithful_iff_unraced sound event).mpr unraced
  rcases settle_cases sound event with ⟨call, fromBlock, latest, cache, rfl, found, cached, stored⟩ | quiet
  · rw [stored] at exact longer ⊢
    refine ⟨exact, le_trans sound.started longer, fun _ _ => ⟨_, rfl⟩, ?_⟩
    intro fromBlock' latest' member
    obtain ⟨inside, requested⟩ := sound.requested _ _ (List.mem_of_mem_eraseIdx member)
    exact ⟨inside, le_trans requested longer⟩
  · obtain ⟨-, same, cached, requested⟩ := quiet
    refine ⟨exact, le_trans sound.started longer, cached, fun fromBlock latest member => ?_⟩
    rcases requested fromBlock latest member with earlier | ⟨rfl, -⟩
    · obtain ⟨inside, within⟩ := sound.requested _ _ earlier
      exact ⟨inside, le_trans within longer⟩
    · exact ⟨sound.started, longer⟩

theorem sound_idle (latest : ℕ) : Sound deployBlock blockLogs (idle latest) := by
  refine ⟨?_, le_rfl, ?_, ?_⟩
  · exact (logsBetween_self (deployBlock.getD 0)).symm
  · intro call member
    cases member
  · intro fromBlock latest member
    cases member

/-- **The cache is the chain's.** A run keeps the cache exactly the logs of its blocks,
each once and in chain order, and never shortens it, if and only if no answer of
the run is stored behind the back of another. -/
theorem exact_iff_unraced (deployBlock : Option ℕ) (blockLogs : ℕ → List RawLog) (latest : ℕ)
    (events : List Event) :
    (∀ before event after, events = before ++ event :: after →
      Exact deployBlock blockLogs (exec (step deployBlock blockLogs) (idle latest) (before ++ [event])) ∧
      (exec (step deployBlock blockLogs) (idle latest) before).nextBlock deployBlock ≤
        (exec (step deployBlock blockLogs) (idle latest) (before ++ [event])).nextBlock deployBlock) ↔
    Along (step deployBlock blockLogs) (Unraced deployBlock blockLogs) (idle latest) events := by
  have agree : ∀ state event, Sound deployBlock blockLogs state →
      (Faithful deployBlock blockLogs state event ↔ Unraced deployBlock blockLogs state event) :=
    fun _ event sound => faithful_iff_unraced sound event
  have kept : ∀ state event, Sound deployBlock blockLogs state →
      Unraced deployBlock blockLogs state event →
      Sound deployBlock blockLogs (settle (step deployBlock blockLogs) state event) :=
    fun _ _ sound unraced => sound_settle sound unraced
  rw [← along_congr_of_invariant agree kept (sound_idle latest) events, along_iff_forall_split]
  simp only [exec_append, exec_cons, exec_nil, Faithful]

/-- At most one call waits for logs. -/
def Alone (state : State) : Prop :=
  ∀ first second fromBlock latest fromBlock' latest' : ℕ,
    state.calls[first]? = some (Waiting.logs fromBlock latest) →
    state.calls[second]? = some (Waiting.logs fromBlock' latest') → first = second

/-- A request alone in flight starts where the cache ends. -/
def Current (deployBlock : Option ℕ) (state : State) : Prop :=
  ∀ fromBlock latest, .logs fromBlock latest ∈ state.calls →
    fromBlock = state.nextBlock deployBlock ∧ fromBlock ≤ latest

theorem current_unraced (current : Current deployBlock state) (event : Event) :
    Unraced deployBlock blockLogs state event := by
  cases event with
  | answersLogs call =>
    intro fromBlock latest found
    obtain ⟨rfl, asked⟩ := current fromBlock latest (List.mem_of_getElem? found)
    exact ⟨Nat.le_succ_of_le asked, logsBetween_self _⟩
  | _ => trivial

theorem current_settle (sound : Sound deployBlock blockLogs state) (current : Current deployBlock state)
    (alone : Alone state) (event : Event) :
    Current deployBlock (settle (step deployBlock blockLogs) state event) := by
  rcases settle_cases sound event with ⟨call, fromBlock, latest, cache, rfl, found, cached, stored⟩ | quiet
  · rw [stored]
    intro fromBlock' latest' member
    obtain ⟨place, here⟩ := List.mem_iff_getElem?.mp member
    -- whatever is left waiting for logs stood elsewhere in the list
    rw [List.getElem?_eraseIdx] at here
    split at here
    · have second := alone _ _ _ _ _ _ found here
      omega
    · have second := alone _ _ _ _ _ _ found here
      omega
  · obtain ⟨-, same, -, requested⟩ := quiet
    intro fromBlock latest member
    rw [State.nextBlock, same]
    rcases requested fromBlock latest member with earlier | new
    · exact current fromBlock latest earlier
    · exact new

/-- **No overlap.** A run in which no two calls wait for logs at once is not raced. -/
theorem unraced_of_alone {latest : ℕ} {events : List Event}
    (alone : Along (step deployBlock blockLogs) (fun state _ => Alone state) (idle latest) events) :
    Along (step deployBlock blockLogs) (Unraced deployBlock blockLogs) (idle latest) events := by
  have agree : ∀ state event, Sound deployBlock blockLogs state ∧ Current deployBlock state →
      (Alone state ↔ Alone state ∧ Unraced deployBlock blockLogs state event) := by
    rintro state event ⟨-, current⟩
    exact (and_iff_left (current_unraced current event)).symm
  have kept : ∀ state event, Sound deployBlock blockLogs state ∧ Current deployBlock state →
      Alone state ∧ Unraced deployBlock blockLogs state event →
      Sound deployBlock blockLogs (settle (step deployBlock blockLogs) state event) ∧
        Current deployBlock (settle (step deployBlock blockLogs) state event) := by
    rintro state event ⟨sound, current⟩ ⟨alone, unraced⟩
    exact ⟨sound_settle sound unraced, current_settle sound current alone event⟩
  have start : Sound deployBlock blockLogs (idle latest) ∧ Current deployBlock (idle latest) := by
    refine ⟨sound_idle latest, fun fromBlock latest member => ?_⟩
    cases member
  rw [along_congr_of_invariant agree kept start events] at alone
  exact (along_and.mp alone).2

end Races

/-- Block 0 has one log. -/
def oneLog : ℕ → List RawLog
  | 0 => [⟨['0', 'x'], []⟩]
  | _ => []

/-- Two refreshes of an empty cache ask for the same block, and both are answered. -/
def doubled : List Event :=
  [.begins, .begins, .answersBlockNumber 0, .answersBlockNumber 1, .answersLogs 0, .answersLogs 0]

/-- The same two, but the second reads a newer block and is answered first. -/
def shortened : List Event :=
  [.begins, .begins, .answersBlockNumber 0, .mines, .answersBlockNumber 1, .answersLogs 1, .answersLogs 0]

/-- Once neither is in flight, the cache has the log twice, or has been shortened. -/
theorem races_spoil_the_cache :
    (exec (step none oneLog) (idle 0) doubled).calls = [] ∧
    (exec (step none oneLog) (idle 0) doubled).nextBlock none = 1 ∧
    (opened none (exec (step none oneLog) (idle 0) doubled).logCache).logs = oneLog 0 ++ oneLog 0 ∧
    ¬ Exact none oneLog (exec (step none oneLog) (idle 0) doubled) ∧
    (exec (step none oneLog) (idle 0) (shortened.take 6)).nextBlock none = 2 ∧
    (exec (step none oneLog) (idle 0) shortened).nextBlock none = 1 := by
  refine ⟨rfl, rfl, rfl, ?_, rfl, rfl⟩
  intro exact
  have lengths := congrArg List.length exact
  exact absurd lengths (by decide)

end PassportKit.LogCache
