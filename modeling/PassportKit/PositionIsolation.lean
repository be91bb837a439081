import PassportKit.DemoPositionRouter
import PassportKit.Runs

/-! Whose position a call of the router can touch. The manager keeps liquidity
under the account that asked for it, the ticks and a salt, lets one account at a
time unlock it, and calls back that account alone. Around the router's own steps
anybody may call anything: other contracts modify positions of their own, enter
the router again, or try its callback directly, and any part of it may be undone. -/
namespace PassportKit.DemoPositionRouter
open Evm Interaction Runs

/-- What the manager keys liquidity by, inside one pool. -/
structure Position where
  owner : Address
  tickLower : Int24
  tickUpper : Int24
  salt : Bytes32
  deriving DecidableEq, Repr

/-- The liquidity of every position of every pool. -/
abbrev Liquidity := Bytes32 → Position → ℕ

/-- Where liquidity is: a pool and a tick range. -/
structure Range where
  pool : Bytes32
  tickLower : Int24
  tickUpper : Int24
  deriving DecidableEq, Repr

/-- How far a call has come that has the manager unlocked. -/
inductive Stage where
  /-- The manager has yet to call back, with this data. -/
  | opened (data : Bytes)
  /-- The callback has this much left to do, the modification made or not. -/
  | calledBack (modified : Bool) (program : Code Bytes)

/-- A call of the router that has the manager unlocked. -/
structure Session where
  request : Request
  /-- What the call does with the result of the callback. -/
  resume : Bytes → Code BalanceDelta
  stage : Stage

inductive Lock where
  | locked
  /-- Another contract has the manager unlocked. -/
  | other (account : Address)
  | router (session : Session)

structure Chain where
  liquidity : Liquidity
  lock : Lock
  /-- Callbacks that some account other than the manager has started. -/
  strays : List (Code Bytes)
  /-- The calls of the router that have returned, the latest first. -/
  ledger : List Request

inductive Event where
  /-- Somebody calls the router, which unlocks the manager. -/
  | enters (request : Request)
  /-- The manager calls back the router that unlocked it. -/
  | callsBack
  /-- The callback makes its next call, and is answered. -/
  | acts (call : Call)
  /-- The callback is done, the manager locks and the call returns. -/
  | returns
  /-- Some account calls the router's callback by itself. -/
  | strays (account : Address) (rawData : Bytes)
  /-- A callback started so makes its next call. -/
  | strayActs (call : Call)
  /-- Another contract unlocks the manager. -/
  | unlocks (account : Address)
  | locks
  /-- Another contract modifies a position of its own. -/
  | modifies (account : Address) (key : PoolKey) (params : ModifyLiquidityParams)

/-- The call the router makes in an event. -/
def Event.call : Event → Option Call
  | .acts call => some call
  | .strayActs call => some call
  | _ => none

section Transitions
variable (core : V4Core) (self : DemoPositionRouter) (this : Address) (toId : PoolKey → Bytes32)

/-- `manager.modifyLiquidity` for an account: the delta is added to the liquidity
of its own position, and the call reverts where that would be negative. -/
def Modifies (owner : Address) (key : PoolKey) (params : ModifyLiquidityParams)
    (before after : Liquidity) : Prop :=
  ∃ result : ℕ,
    (result : ℤ) = before (toId key) ⟨owner, params.tickLower, params.tickUpper, params.salt⟩ +
      params.liquidityDelta.toInt ∧
    after = store before (toId key) ⟨owner, params.tickLower, params.tickUpper, params.salt⟩ result

/-- What a call of the router does to the liquidity of the manager. -/
def Effect (call : Call) (before after : Liquidity) : Prop :=
  match call with
  | .modifyLiquidity key params _ => Modifies toId this key params before after
  | _ => after = before

def Call.modification : Call → Bool
  | .modifyLiquidity _ _ _ => true
  | _ => false

inductive Step : Chain → Event → Chain → Prop where
  | enters {chain : Chain} {request : Request} {data : Bytes} {resume : Bytes → Code BalanceDelta}
      (free : chain.lock = .locked)
      (opened : modifyLiquidity request.caller request.key request.tickLower request.tickUpper
        request.liquidityDelta request.hookData = .call (.unlock data) resume) :
      Step chain (.enters request) { chain with lock := .router ⟨request, resume, .opened data⟩ }
  | callsBack {chain : Chain} {request : Request} {data : Bytes} {resume : Bytes → Code BalanceDelta}
      (held : chain.lock = .router ⟨request, resume, .opened data⟩) :
      Step chain .callsBack { chain with lock := .router ⟨request, resume,
        .calledBack false (unlockCallback core self this self.manager data)⟩ }
  | acts {chain : Chain} {request : Request} {resume : Bytes → Code BalanceDelta} {modified : Bool}
      {call : Call} {next : call.Answer → Code Bytes} {after : Liquidity} (answer : call.Answer)
      (held : chain.lock = .router ⟨request, resume, .calledBack modified (.call call next)⟩)
      (effect : Effect this toId call chain.liquidity after) :
      Step chain (.acts call) { chain with
        liquidity := after
        lock := .router ⟨request, resume,
          .calledBack (modified || call.modification) (next answer)⟩ }
  | returns {chain : Chain} {request : Request} {resume : Bytes → Code BalanceDelta}
      {modified : Bool} {result : Bytes} {delta : BalanceDelta}
      (held : chain.lock = .router ⟨request, resume, .calledBack modified (.done result)⟩)
      (decoded : resume result = .done delta) :
      Step chain .returns { chain with lock := .locked, ledger := request :: chain.ledger }
  | strays {chain : Chain} {account : Address} (stranger : account ≠ self.manager) (rawData : Bytes) :
      Step chain (.strays account rawData)
        { chain with strays := unlockCallback core self this account rawData :: chain.strays }
  | strayActs {chain : Chain} {earlier later : List (Code Bytes)} {call : Call}
      {next : call.Answer → Code Bytes} {after : Liquidity} (answer : call.Answer)
      (started : chain.strays = earlier ++ .call call next :: later)
      (effect : Effect this toId call chain.liquidity after) :
      Step chain (.strayActs call)
        { chain with liquidity := after, strays := earlier ++ next answer :: later }
  | unlocks {chain : Chain} {account : Address} (stranger : account ≠ this)
      (free : chain.lock = .locked) :
      Step chain (.unlocks account) { chain with lock := .other account }
  | locks {chain : Chain} {account : Address} (held : chain.lock = .other account) :
      Step chain .locks { chain with lock := .locked }
  | modifies {chain : Chain} {account : Address} {key : PoolKey} {params : ModifyLiquidityParams}
      {after : Liquidity} (stranger : account ≠ this) (unlocked : chain.lock ≠ .locked)
      (effect : Modifies toId account key params chain.liquidity after) :
      Step chain (.modifies account key params) { chain with liquidity := after }

end Transitions

/-- The liquidity of the router's position under a salt. -/
def Chain.held (this : Address) (chain : Chain) (range : Range) (salt : Bytes32) : ℕ :=
  chain.liquidity range.pool ⟨this, range.tickLower, range.tickUpper, salt⟩

def Request.range (toId : PoolKey → Bytes32) (request : Request) : Range :=
  ⟨toId request.key, request.tickLower, request.tickUpper⟩

/-- What a call adds to a wallet's position in a range. -/
def Request.share (toId : PoolKey → Bytes32) (range : Range) (wallet : Address) (request : Request) :
    ℤ :=
  if request.caller = wallet ∧ request.range toId = range then request.liquidityDelta.toInt else 0

/-- The sum of the deltas of the calls of a wallet in a range that have returned. -/
def Chain.returned (toId : PoolKey → Bytes32) (chain : Chain) (range : Range) (wallet : Address) : ℤ :=
  (chain.ledger.map (Request.share toId range wallet)).sum

/-- What the call in progress has added already. -/
def Lock.pending (toId : PoolKey → Bytes32) (range : Range) (wallet : Address) : Lock → ℤ
  | .router ⟨request, _, .calledBack true _⟩ => request.share toId range wallet
  | _ => 0

/-! ## The invariant -/

section Invariant
variable {core : V4Core} {self : DemoPositionRouter} {this : Address} {toId : PoolKey → Bytes32}

/-- A call waits for its own note, or follows its own discipline. -/
inductive Session.Sound (self : DemoPositionRouter) (this : Address) : Session → Prop where
  | opened {request : Request} (resume : Bytes → Code BalanceDelta)
      (short : request.hookData.length < uint64Modulus) :
      Sound self this ⟨request, resume, .opened (encodeCallbackData request.note)⟩
  | calledBack {request : Request} (resume : Bytes → Code BalanceDelta) {modified : Bool}
      {program : Code Bytes}
      (obeys : program.Obeys (Allowed this self.manager request) (fun modified _ => modified = true)
        modified) :
      Sound self this ⟨request, resume, .calledBack modified program⟩

structure Chain.Sound (contract : DemoPositionRouter) (this : Address) (toId : PoolKey → Bytes32)
    (chain : Chain) : Prop where
  session : ∀ session, chain.lock = .router session → session.Sound contract this
  /-- A callback nobody but a stranger started has been refused. -/
  refused : ∀ program ∈ chain.strays, program = .fail (.custom .NotPoolManager)
  /-- Every wallet's position is what its own calls have made it. -/
  accounted : ∀ range wallet, (chain.held this range (addressWord wallet) : ℤ) =
    chain.returned toId range wallet + chain.lock.pending toId range wallet

/-- A call of the router other than a modification leaves the liquidity alone. -/
theorem Effect.eq_of_not_modification {call : Call} {before after : Liquidity}
    (effect : Effect this toId call before after) (other : call.modification = false) :
    after = before := by
  cases call with
  | modifyLiquidity key params hookData => cases other
  | _ => exact effect

/-- A modification under an account moves the one position it names. -/
theorem Modifies.held {owner : Address} {key : PoolKey} {params : ModifyLiquidityParams}
    {before after : Liquidity} (effect : Modifies toId owner key params before after)
    (pool : Bytes32) (position : Position) :
    (after pool position : ℤ) = before pool position +
      if pool = toId key ∧ position = ⟨owner, params.tickLower, params.tickUpper, params.salt⟩ then
        params.liquidityDelta.toInt else 0 := by
  obtain ⟨result, sum, rfl⟩ := effect
  rw [store_apply]
  split
  · rename_i here
    rw [sum, here.1, here.2]
  · rw [Int.add_zero]

/-- What the modification of a call does to the positions of the router. -/
theorem Modifies.held_request {chain : Chain} {after : Liquidity} {request : Request}
    (effect : Modifies toId this request.key request.params chain.liquidity after) (range : Range)
    (salt : Bytes32) :
    (({ chain with liquidity := after } : Chain).held this range salt : ℤ) =
      chain.held this range salt +
        if addressWord request.caller = salt ∧ request.range toId = range then
          request.liquidityDelta.toInt else 0 := by
  have moved := effect.held range.pool ⟨this, range.tickLower, range.tickUpper, salt⟩
  have same : (range.pool = toId request.key ∧
      (⟨this, range.tickLower, range.tickUpper, salt⟩ : Position) =
        ⟨this, request.params.tickLower, request.params.tickUpper, request.params.salt⟩) ↔
      (addressWord request.caller = salt ∧ request.range toId = range) := by
    obtain ⟨pool, tickLower, tickUpper⟩ := range
    simp only [Position.mk.injEq, Request.params, Request.range, Range.mk.injEq, true_and]
    constructor
    · rintro ⟨rfl, rfl, rfl, rfl⟩
      exact ⟨rfl, rfl, rfl, rfl⟩
    · rintro ⟨rfl, rfl, rfl, rfl⟩
      exact ⟨rfl, rfl, rfl, rfl⟩
  simp only [same] at moved
  exact moved

/-- A modification by another account moves no position of the router. -/
theorem Modifies.held_stranger {chain : Chain} {after : Liquidity} {owner : Address} {key : PoolKey}
    {params : ModifyLiquidityParams} (stranger : owner ≠ this)
    (effect : Modifies toId owner key params chain.liquidity after) (range : Range) (salt : Bytes32) :
    ({ chain with liquidity := after } : Chain).held this range salt = chain.held this range salt := by
  have moved := effect.held range.pool ⟨this, range.tickLower, range.tickUpper, salt⟩
  rw [if_neg (fun here => stranger (congrArg Position.owner here.2).symm), Int.add_zero] at moved
  exact Int.ofNat_inj.mp moved

theorem Call.Bookkeeping.move_eq_none {call : Call} (books : call.Bookkeeping) (this manager : Address) :
    call.move this manager = none := by
  cases call <;> first | rfl | cases books

theorem Call.Bookkeeping.modification_eq_false {call : Call} (books : call.Bookkeeping) :
    call.modification = false := by
  cases call <;> first | rfl | cases books

variable {chain next : Chain} {event : Event}

/-- What a call may do in a phase, and the phase it leaves. -/
theorem Allowed.phase {request : Request} {modified later : Bool} {call : Call}
    (allowed : Allowed this self.manager request modified call later) :
    later = (modified || call.modification) ∧ (call.modification = true →
      modified = false ∧ call = .modifyLiquidity request.key request.params request.hookData) := by
  cases allowed with
  | modifies => exact ⟨rfl, fun _ => ⟨rfl, rfl⟩⟩
  | keepsBooks _ books => simp [books.modification_eq_false]
  | moves _ moves _ =>
    cases call with
    | modifyLiquidity => cases moves
    | _ => simp [Call.modification]

/-- What the callback's next call is allowed to be, and where it takes the call. -/
theorem Chain.Sound.next_call {request : Request} {resume : Bytes → Code BalanceDelta}
    {modified : Bool} {call : Call} {rest : call.Answer → Code Bytes} (sound : chain.Sound self this toId)
    (held : chain.lock = .router ⟨request, resume, .calledBack modified (.call call rest)⟩) :
    Allowed this self.manager request modified call (modified || call.modification) ∧
      ∀ answer, (rest answer).Obeys (Allowed this self.manager request)
        (fun modified _ => modified = true) (modified || call.modification) := by
  cases sound.session _ held with
  | calledBack _ obeys =>
    obtain ⟨later, allowed, rest⟩ := obeys
    obtain ⟨rfl, -⟩ := allowed.phase
    exact ⟨allowed, rest⟩

/-- No callback a stranger started ever makes a call. -/
theorem Chain.Sound.no_stray_call {earlier later : List (Code Bytes)} {call : Call}
    {rest : call.Answer → Code Bytes} (sound : chain.Sound self this toId) :
    chain.strays ≠ earlier ++ .call call rest :: later := by
  intro started
  have refused := sound.refused (.call call rest) (by rw [started]; simp)
  cases refused

/-- **One step.** The router's position under a salt changes in one kind of step
only: the modification of a call whose caller the salt is, by the requested delta. -/
theorem Step.held (sound : chain.Sound self this toId) (step : Step core self this toId chain event next)
    (range : Range) (salt : Bytes32) (changed : next.held this range salt ≠ chain.held this range salt) :
    ∃ session, chain.lock = .router session ∧
      event = .acts (.modifyLiquidity session.request.key session.request.params
        session.request.hookData) ∧
      addressWord session.request.caller = salt ∧ session.request.range toId = range ∧
      (next.held this range salt : ℤ) =
        chain.held this range salt + session.request.liquidityDelta.toInt := by
  cases step with
  | @acts request resume modified call rest after answer held effect =>
    obtain ⟨allowed, -⟩ := sound.next_call held
    cases kind : call.modification with
    | false =>
      rw [effect.eq_of_not_modification kind] at changed
      exact absurd rfl changed
    | true =>
      obtain ⟨-, rfl⟩ := allowed.phase.2 kind
      have moved := Modifies.held_request effect range salt
      split at moved
      · rename_i own
        exact ⟨_, held, rfl, own.1, own.2, moved⟩
      · rw [Int.add_zero] at moved
        exact absurd (Int.ofNat_inj.mp moved) changed
  | strayActs answer started effect => exact absurd started sound.no_stray_call
  | modifies stranger unlocked effect => exact absurd (effect.held_stranger stranger range salt) changed
  | _ => exact absurd rfl changed

/-- Every token the router moves, it moves between the caller of the call in
progress and the manager. -/
theorem Step.moves (sound : chain.Sound self this toId) (step : Step core self this toId chain event next)
    {call : Call} {move : Move} (calls : event.call = some call)
    (moves : call.move this self.manager = some move) :
    ∃ session, chain.lock = .router session ∧ session.request.Confines self.manager move := by
  cases step with
  | @acts request resume modified acted rest after answer held effect =>
    obtain rfl : acted = call := by simpa [Event.call] using calls
    obtain ⟨allowed, -⟩ := sound.next_call held
    refine ⟨_, held, ?_⟩
    generalize (modified || acted.modification) = later at allowed
    cases allowed with
    | modifies => cases moves
    | keepsBooks _ books =>
      rw [books.move_eq_none] at moves
      cases moves
    | moves _ known confined =>
      rw [known] at moves
      cases moves
      exact confined
  | strayActs answer started effect => exact absurd started sound.no_stray_call
  | _ => cases calls

theorem Chain.returned_cons (toId : PoolKey → Bytes32) (chain : Chain) (lock : Lock) (request : Request)
    (range : Range) (wallet : Address) :
    ({ chain with lock := lock, ledger := request :: chain.ledger } : Chain).returned toId range wallet =
      request.share toId range wallet + chain.returned toId range wallet := by
  rw [Chain.returned, List.map_cons, List.sum_cons, Chain.returned]

/-- Handing the lock on keeps the accounts when no modification is pending either way. -/
theorem Chain.Sound.relock (sound : chain.Sound self this toId) {lock : Lock}
    (session : ∀ session, lock = .router session → session.Sound self this)
    (still : ∀ range wallet, lock.pending toId range wallet = 0)
    (before : ∀ range wallet, chain.lock.pending toId range wallet = 0) :
    ({ chain with lock := lock } : Chain).Sound self this toId := by
  refine ⟨session, sound.refused, fun range wallet => ?_⟩
  have accounted := sound.accounted range wallet
  rw [before range wallet] at accounted
  exact accounted.trans (by rw [still range wallet]; rfl)

theorem Step.sound (documented : core.Documented) (sound : chain.Sound self this toId)
    (step : Step core self this toId chain event next) : next.Sound self this toId := by
  cases step with
  | enters free opened =>
    obtain ⟨short, rfl⟩ := modifyLiquidity_eq_call opened
    refine sound.relock ?_ (fun _ _ => rfl) (fun _ _ => by rw [free]; rfl)
    rintro _ ⟨⟩
    exact .opened _ short
  | callsBack held =>
    refine sound.relock ?_ (fun _ _ => rfl) (fun _ _ => by rw [held]; rfl)
    rintro _ ⟨⟩
    cases sound.session _ held with
    | opened _ short => exact .calledBack _ (unlockCallback_obeys documented short)
  | @acts request resume modified call rest after answer held effect =>
    obtain ⟨allowed, obeys⟩ := sound.next_call held
    refine ⟨?_, sound.refused, fun range wallet => ?_⟩
    · rintro _ ⟨⟩
      exact .calledBack _ (obeys answer)
    · have before := sound.accounted range wallet
      rw [held] at before
      cases kind : call.modification with
      | false =>
        rw [effect.eq_of_not_modification kind, Bool.or_false]
        cases modified <;> exact before
      | true =>
        obtain ⟨rfl, rfl⟩ := allowed.phase.2 kind
        have moved := Modifies.held_request effect range (addressWord wallet)
        rw [before] at moved
        simp only [Lock.pending, Int.add_zero, addressWord_injective.eq_iff] at moved
        exact moved
  | @returns request resume modified result delta held decoded =>
    refine ⟨by rintro _ ⟨⟩, sound.refused, fun range wallet => ?_⟩
    have before := sound.accounted range wallet
    rw [held] at before
    cases sound.session _ held with
    | calledBack _ obeys =>
      -- a callback that is done has made its modification
      obtain rfl : modified = true := obeys
      rw [Chain.returned_cons, Int.add_comm (request.share toId range wallet)]
      exact before.trans (Int.add_zero _).symm
  | strays stranger rawData =>
    refine ⟨sound.session, ?_, sound.accounted⟩
    rintro program member
    rcases List.mem_cons.mp member with rfl | older
    · exact unlockCallback_refused stranger rawData
    · exact sound.refused program older
  | strayActs answer started effect => exact absurd started sound.no_stray_call
  | unlocks stranger free =>
    exact sound.relock (by rintro _ ⟨⟩) (fun _ _ => rfl) (fun _ _ => by rw [free]; rfl)
  | locks held =>
    exact sound.relock (by rintro _ ⟨⟩) (fun _ _ => rfl) (fun _ _ => by rw [held]; rfl)
  | modifies stranger unlocked effect =>
    refine ⟨sound.session, sound.refused, fun range wallet => ?_⟩
    rw [effect.held_stranger stranger range (addressWord wallet)]
    exact sound.accounted range wallet

/-- Once the modification is made, answers to the remaining calls bring the callback to its end. -/
theorem trace_of_run {request : Request} {resume : Bytes → Code BalanceDelta} {program : Code Bytes}
    {result : Bytes} {answers : ∀ call : Call, call.Answer} {chain : Chain} {saved : List Chain}
    (held : chain.lock = .router ⟨request, resume, .calledBack true program⟩)
    (obeys : program.Obeys (Allowed this self.manager request) (fun modified _ => modified = true) true)
    (ends : program.run answers = .ok result) :
    ∃ log, Trace (Revertible.Atom (Step core self this toId)) ⟨chain, saved⟩ log
      ⟨{ chain with lock := .router ⟨request, resume, .calledBack true (.done result)⟩ }, saved⟩ := by
  induction program generalizing chain with
  | done value =>
    obtain rfl : value = result := Except.ok.inj ends
    refine ⟨[], ?_⟩
    rw [← held]
    exact .nil _
  | fail error => cases ends
  | call call rest ih =>
    obtain ⟨later, allowed, obeys⟩ := obeys
    obtain ⟨rfl, once⟩ := allowed.phase
    have still : call.modification = false := by
      cases kind : call.modification with
      | false => rfl
      | true => cases (once kind).1
    have quiet : Effect this toId call chain.liquidity chain.liquidity := by
      cases call with
      | modifyLiquidity => cases still
      | _ => rfl
    have step : Step core self this toId chain (.acts call) { chain with
        lock := .router ⟨request, resume,
          .calledBack (true || call.modification) (rest (answers call))⟩ } :=
      .acts (answers call) held quiet
    have held : ({ chain with
        lock := .router ⟨request, resume, .calledBack true (rest (answers call))⟩ } : Chain).lock =
          .router ⟨request, resume, .calledBack true (rest (answers call))⟩ := rfl
    obtain ⟨log, trace⟩ := ih (answers call) held (obeys (answers call)) ends
    exact ⟨_, .cons (.step saved step) trace⟩

/-- **Calls go through.** From any state in which the manager is locked, a call it
accepts and whose accounts can be closed returns, and is then in the ledger. -/
theorem call_goes_through (documented : core.Documented) {request : Request} {after : Liquidity}
    {delta : BalanceDelta} {answers : ∀ call : Call, call.Answer} {chain : Chain} {saved : List Chain}
    (free : chain.lock = .locked) (short : request.hookData.length < uint64Modulus)
    (accepted : Modifies toId this request.key request.params chain.liquidity after)
    (closed : (closeAccounts core self this request.note delta).run answers = .ok (word delta)) :
    ∃ log, Trace (Revertible.Atom (Step core self this toId)) ⟨chain, saved⟩ log
      ⟨{ chain with liquidity := after, ledger := request :: chain.ledger }, saved⟩ := by
  let resume : Bytes → Code BalanceDelta := fun result => .ofExcept (decodeBalanceDelta result)
  let stages (liquidity : Liquidity) (stage : Stage) : Chain :=
    { chain with liquidity := liquidity, lock := .router ⟨request, resume, stage⟩ }
  have opened : modifyLiquidity request.caller request.key request.tickLower request.tickUpper
      request.liquidityDelta request.hookData =
        .call (.unlock (encodeCallbackData request.note)) resume := by
    rw [modifyLiquidity, if_neg (Nat.not_le.mpr short)]
    rfl
  have enters : Step core self this toId chain (.enters request)
      (stages chain.liquidity (.opened (encodeCallbackData request.note))) := .enters free opened
  have callsBack : Step core self this toId
      (stages chain.liquidity (.opened (encodeCallbackData request.note))) .callsBack
      (stages chain.liquidity (.calledBack false
        (unlockCallback core self this self.manager (encodeCallbackData request.note)))) :=
    .callsBack rfl
  have modifies : Step core self this toId
      (stages chain.liquidity (.calledBack false
        (unlockCallback core self this self.manager (encodeCallbackData request.note))))
      (.acts (.modifyLiquidity request.key request.params request.hookData))
      (stages after (.calledBack true (closeAccounts core self this request.note delta))) := by
    rw [unlockCallback_note short]
    let answer : (Call.modifyLiquidity request.key request.params request.hookData).Answer := (delta, 0)
    have held : (stages chain.liquidity (.calledBack false (.call
        (.modifyLiquidity request.key request.params request.hookData)
        fun answer => closeAccounts core self this request.note answer.1))).lock = .router _ := rfl
    exact .acts answer held accepted
  obtain ⟨log, trace⟩ := @trace_of_run core self this toId request resume _ _ answers
    (stages after (.calledBack true (closeAccounts core self this request.note delta))) saved rfl
    (closeAccounts_obeys documented delta) closed
  have decoded : resume (word delta) = .done delta := by
    rw [show resume (word delta) = .ofExcept (decodeBalanceDelta (word delta)) from rfl,
      decodeBalanceDelta_word]
    rfl
  have returns : Step core self this toId (stages after (.calledBack true (.done (word delta)))) .returns
      { chain with liquidity := after, lock := .locked, ledger := request :: chain.ledger } :=
    .returns rfl decoded
  have whole := Trace.append
    (.cons (.step saved enters) (.cons (.step saved callsBack) (.cons (.step saved modifies) trace)))
    (.cons (.step saved returns) (.nil _))
  rw [← free] at whole
  exact ⟨_, whole⟩

/-- A router before its first call: nothing of it runs, and it has no position. -/
structure Chain.Fresh (this : Address) (chain : Chain) : Prop where
  locked : chain.lock = .locked
  quiet : chain.strays = []
  unused : chain.ledger = []
  empty : ∀ range salt, chain.held this range salt = 0

theorem Chain.Fresh.sound (fresh : chain.Fresh this) : chain.Sound self this toId := by
  refine ⟨?_, ?_, fun range wallet => ?_⟩
  · intro session held
    rw [fresh.locked] at held
    cases held
  · intro program member
    rw [fresh.quiet] at member
    cases member
  · rw [fresh.empty, fresh.locked, Chain.returned, fresh.unused]
    rfl

/-- A position of the router changes when a step is undone, or by its own wallet's call. -/
theorem held_of_atom {before after : Revertible Chain} {event : Undoable Event}
    (sound : before.current.Sound self this toId)
    (atom : Revertible.Atom (Step core self this toId) before event after) {range : Range} {salt : Bytes32}
    (changed : after.current.held this range salt ≠ before.current.held this range salt) :
    (event = .rollBack ∧ before.saved.head? = some after.current) ∨
      ∃ session, before.current.lock = .router session ∧
        event = .step (.acts (.modifyLiquidity session.request.key session.request.params
          session.request.hookData)) ∧
        addressWord session.request.caller = salt ∧ session.request.range toId = range ∧
        (after.current.held this range salt : ℤ) =
          before.current.held this range salt + session.request.liquidityDelta.toInt := by
  cases atom with
  | step saved step =>
    obtain ⟨session, ongoing, rfl, rest⟩ := step.held sound range salt changed
    exact .inr ⟨session, ongoing, rfl, rest⟩
  | save => exact absurd rfl changed
  | commit => exact absurd rfl changed
  | rollBack => exact .inl ⟨rfl, rfl⟩

/-- **Position isolation.** Over every run of calls of the router, stray callbacks
and other contracts, any part of it undone: a position of the router changes only
when its own wallet's call makes its modification, by the delta asked for; tokens
move only between the manager and the caller of the call in progress; nothing but
a wallet's own call or the undoing of one moves its position; and every position
is the sum of what its wallet's calls have added. -/
theorem position_isolation (documented : core.Documented) {start last : Revertible Chain}
    {log : List (Entry (Revertible Chain) (Undoable Event))} (fresh : start.current.Fresh this)
    (first : start.saved = [])
    (trace : Trace (Revertible.Atom (Step core self this toId)) start log last) :
    (∀ entry ∈ log, ∀ range salt,
      entry.after.current.held this range salt ≠ entry.before.current.held this range salt →
      (entry.event = .rollBack ∧ entry.before.saved.head? = some entry.after.current) ∨
      ∃ session, entry.before.current.lock = .router session ∧
        entry.event = .step (.acts (.modifyLiquidity session.request.key session.request.params
          session.request.hookData)) ∧
        addressWord session.request.caller = salt ∧ session.request.range toId = range ∧
        (entry.after.current.held this range salt : ℤ) =
          entry.before.current.held this range salt + session.request.liquidityDelta.toInt) ∧
    (∀ entry ∈ log, ∀ event call move, entry.event = .step event → event.call = some call →
      call.move this self.manager = some move →
      ∃ session, entry.before.current.lock = .router session ∧
        session.request.Confines self.manager move) ∧
    (∀ entry ∈ log, ∀ wallet, entry.event ≠ .rollBack →
      (∀ session, entry.before.current.lock = .router session → session.request.caller ≠ wallet) →
      ∀ range, entry.after.current.held this range (addressWord wallet) =
        entry.before.current.held this range (addressWord wallet)) ∧
    (∀ range wallet, (last.current.held this range (addressWord wallet) : ℤ) =
      last.current.returned toId range wallet + last.current.lock.pending toId range wallet) := by
  have kept : ∀ before event after, Revertible.All (Chain.Sound self this toId) before →
      Revertible.Atom (Step core self this toId) before event after →
      Revertible.All (Chain.Sound self this toId) after :=
    fun before event after sound atom =>
      atom.preserves (fun _ _ _ sound step => step.sound documented sound) sound
  have begun : Revertible.All (Chain.Sound self this toId) start := by
    refine ⟨fresh.sound, ?_⟩
    rw [first]
    simp
  refine ⟨?_, ?_, ?_, (trace.preserves kept begun).1.accounted⟩
  · intro entry member range salt changed
    obtain ⟨⟨sound, -⟩, atom⟩ := trace.of_mem kept begun member
    exact held_of_atom sound atom changed
  · rintro ⟨before, event, after⟩ member event call move rfl calls moves
    obtain ⟨⟨sound, -⟩, atom⟩ := trace.of_mem kept begun member
    cases atom with
    | step saved step => exact step.moves sound calls moves
  · intro entry member wallet forward idle range
    by_contra changed
    obtain ⟨⟨sound, -⟩, atom⟩ := trace.of_mem kept begun member
    rcases held_of_atom sound atom changed with ⟨undone, -⟩ | made
    · exact forward undone
    · obtain ⟨session, ongoing, -, own, -⟩ := made
      exact idle session ongoing (addressWord_injective own)

end Invariant

/-- Account 20 asks for ten units of liquidity in a pool of the tokens 30 and 31. -/
def adds : Request := ⟨20, ⟨30, 31, 3000, 60, 0⟩, -120, 120, 10, []⟩

/-- The manager finds the router owing seven units of the first token. -/
def owing : ∀ call : Call, call.Answer
  | .unlock _ => []
  | .modifyLiquidity _ _ _ => ((0, 0) : BalanceDelta × BalanceDelta)
  | .currencyDelta _ currency => (if currency = 30 then -7 else 0 : Int256)
  | .sync _ => ()
  | .settle _ => (7 : Uint256)
  | .take _ _ _ => ()
  | .burn _ _ _ => ()
  | .mint _ _ _ => ()
  | .balanceOf _ _ => (100 : Uint256)
  | .transfer _ _ _ => true
  | .transferFrom _ _ _ _ => true

/-- A run in which that call returns: the position is the ten units it asked for. -/
theorem position_isolation_of_adds :
    ∃ log last, Trace (Revertible.Atom (Step v4Core ⟨10⟩ 11 fun _ => 1))
        ⟨⟨fun _ _ => 0, .locked, [], []⟩, []⟩ log last ∧
      last.current.held 11 ⟨1, -120, 120⟩ (addressWord 20) = 10 ∧
      (last.current.held 11 ⟨1, -120, 120⟩ (addressWord 20) : ℤ) =
        last.current.returned (fun _ => 1) ⟨1, -120, 120⟩ 20 +
          last.current.lock.pending (fun _ => 1) ⟨1, -120, 120⟩ 20 := by
  have fresh : Chain.Fresh 11 ⟨fun _ _ => 0, .locked, [], []⟩ := ⟨rfl, rfl, rfl, fun _ _ => rfl⟩
  have accepted : Modifies (fun _ => 1) 11 adds.key adds.params (fun _ _ => 0)
      (store (fun _ _ => 0) 1 ⟨11, -120, 120, addressWord 20⟩ 10) := ⟨10, by decide, rfl⟩
  have closed : (closeAccounts v4Core ⟨10⟩ 11 adds.note 5).run owing = .ok (word 5) := rfl
  obtain ⟨log, trace⟩ := @call_goes_through v4Core ⟨10⟩ 11 (fun _ => 1) v4Core_documented adds _ 5 owing
    ⟨fun _ _ => 0, .locked, [], []⟩ [] rfl (by decide) accepted closed
  refine ⟨log, _, trace, ?_, (position_isolation v4Core_documented fresh rfl trace).2.2.2 _ _⟩
  exact store_same (fun _ _ => 0) 1 (⟨11, -120, 120, addressWord 20⟩ : Position) 10

end PassportKit.DemoPositionRouter
