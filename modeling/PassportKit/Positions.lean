import Mathlib.Algebra.Order.BigOperators.Group.Finset
import Mathlib.Data.Fintype.Prod
import Mathlib.Data.Fintype.Sets
import PassportKit.Hex
import PassportKit.JsMap
import PassportKit.PositionIsolation

/-! Positions as the demo shows them. The page sums the liquidity events of the
pool manager under a text made of the pool id and the salt, and the wallet's salt
is public. The manager also tells positions apart by the account that asked for
them, so what is shown is the router's position together with whatever other
accounts hold under the same salt. -/
namespace PassportKit.Positions
open Evm Runs DemoPositionRouter

abbrev Text := List Char

def toLowerCase (text : Text) : Text := text.map Char.toLower

structure RawLog where
  data : Text
  topics : List Text
  deriving DecidableEq, Repr

/-- What a `ModifyLiquidity` log decodes to. -/
structure EventArgs where
  id : Text
  sender : Text
  tickLower : ℤ
  tickUpper : ℤ
  liquidityDelta : ℤ
  salt : Text
  deriving DecidableEq, Repr

/-- What the page takes from its chain library: the two event selectors, the
decoder, which throws (`none`) at a log that does not fit the event, and
`pad(hex, { size: 32 })`. -/
structure Viem where
  modifyLiquidityTopic : Text
  decodeEventLog : Text → List Text → Option EventArgs
  pad : Text → Text

structure Aggregate where
  totals : JsMap Text ℤ
  positions : JsMap Text ℤ

/-- The key of a position: the text `id|salt`. -/
def positionKey (id salt : Text) : Text := id ++ '|' :: salt

section Source
variable (viem : Viem)

/-- One turn of the loop over the logs. -/
def aggregateLog (sums : Aggregate) (log : RawLog) : Option Aggregate :=
  if log.topics.head? ≠ some viem.modifyLiquidityTopic then
    some sums
  else do
    let args ← viem.decodeEventLog log.data log.topics
    let id := toLowerCase args.id
    let salt := toLowerCase args.salt
    some {
      totals := sums.totals.accumulate id args.liquidityDelta
      positions := sums.positions.accumulate (positionKey id salt) args.liquidityDelta }

def aggregateLiquidity (logs : List RawLog) : Option Aggregate :=
  logs.foldlM (aggregateLog viem) ⟨∅, ∅⟩

def saltOf (wallet : Text) : Text := toLowerCase (viem.pad wallet)

end Source

/-- `ModifyLiquidity(id, sender, tickLower, tickUpper, liquidityDelta, salt)` -/
structure Change where
  id : Bytes32
  sender : Address
  tickLower : Int24
  tickUpper : Int24
  liquidityDelta : Int256
  salt : Bytes32
  deriving DecidableEq, Repr

def Change.position (change : Change) : Position :=
  ⟨change.sender, change.tickLower, change.tickUpper, change.salt⟩

inductive Event where
  | modifyLiquidity (change : Change)
  /-- A swap, or any other event. -/
  | other (topics : List Text) (data : Text)
  deriving DecidableEq, Repr

/-- A word as a node writes it. -/
def wordHex (word : Uint256) : Text := '0' :: 'x' :: Hex.digits 64 word.toNat

section Logs
variable (viem : Viem)

def Change.log (change : Change) : RawLog where
  topics := [viem.modifyLiquidityTopic, wordHex change.id, wordHex (addressWord change.sender)]
  data := '0' :: 'x' :: (Hex.digits 64 (change.tickLower.signExtend 256).toNat ++
    (Hex.digits 64 (change.tickUpper.signExtend 256).toNat ++
      (Hex.digits 64 change.liquidityDelta.toNat ++ Hex.digits 64 change.salt.toNat)))

def Event.log : Event → RawLog
  | .modifyLiquidity change => change.log viem
  | .other topics data => { topics, data }

/-- What the library documents: a log of the event decodes to what was emitted, the
hexadecimal of `bytes32` fields in some case, and padding puts zeros in front. -/
structure Viem.Documented : Prop where
  decodes : ∀ change : Change, ∃ args,
    viem.decodeEventLog (change.log viem).data (change.log viem).topics = some args ∧
      toLowerCase args.id = wordHex change.id ∧ toLowerCase args.salt = wordHex change.salt ∧
      args.liquidityDelta = change.liquidityDelta.toInt
  pads : ∀ digits : Text, digits.length ≤ 64 →
    viem.pad ('0' :: 'x' :: digits) = '0' :: 'x' :: digits.leftpad 64 '0'

structure PoolManager where
  liquidity : Liquidity
  events : List Event

/-- An operation of any account through any contract, and the event it emits: the
liquidity of the sender's own position moves by the delta, never below zero. -/
def PoolManager.perform (self : PoolManager) : Event → Except Unit PoolManager
  | .modifyLiquidity change =>
    let after : ℤ := self.liquidity change.id change.position + change.liquidityDelta.toInt
    if after < 0 then .error ()
    else .ok {
      liquidity := store self.liquidity change.id change.position after.toNat
      events := self.events ++ [.modifyLiquidity change] }
  | .other topics data =>
    -- no other event has this selector
    if topics.head? = some viem.modifyLiquidityTopic then .error ()
    else .ok { self with events := self.events ++ [.other topics data] }

/-- The manager after a sequence of attempted operations. -/
def PoolManager.after (operations : List Event) : PoolManager :=
  exec (PoolManager.perform viem) ⟨fun _ _ => 0, []⟩ operations

def PoolManager.logs (manager : PoolManager) : List RawLog := manager.events.map (Event.log viem)

end Logs

/-- What a wallet can withdraw through the router: all it has there, over all tick ranges. -/
def PoolManager.exitable (manager : PoolManager) (router : Address) (id : Bytes32) (w : Address) : ℤ :=
  ∑ ticks : Int24 × Int24, (manager.liquidity id ⟨router, ticks.1, ticks.2, addressWord w⟩ : ℤ)

/-- A text of a wallet: its forty digits, each in either case. -/
def Spells (wallet : Text) (w : Address) : Prop :=
  ∃ digits, wallet = '0' :: 'x' :: digits ∧ toLowerCase digits = Hex.digits 40 w.bits.toNat

section Texts

theorem length_wordHex (word : Uint256) : (wordHex word).length = 66 := by
  rw [wordHex, List.length_cons, List.length_cons, Hex.length_digits]

theorem wordHex_injective : Function.Injective wordHex := by
  intro first second same
  have digits : Hex.digits 64 first.toNat = Hex.digits 64 second.toNat := by
    simpa only [wordHex, List.cons.injEq, true_and] using same
  have width : (16 : ℕ) ^ 64 = 2 ^ 256 := by norm_num
  exact BitVec.eq_of_toNat_eq
    (Hex.digits_injective (width ▸ first.isLt) (width ▸ second.isLt) digits)

/-- A key says which pool and which salt it is for. -/
theorem positionKey_wordHex_inj {id id' salt salt' : Bytes32} :
    positionKey (wordHex id) (wordHex salt) = positionKey (wordHex id') (wordHex salt') ↔
      id = id' ∧ salt = salt' := by
  constructor
  · intro same
    obtain ⟨ids, rest⟩ := List.append_inj same (by rw [length_wordHex, length_wordHex])
    exact ⟨wordHex_injective ids, wordHex_injective (List.cons.inj rest).2⟩
  · rintro ⟨rfl, rfl⟩
    rfl

/-- The keys that start with a pool's id are the keys of that pool. -/
theorem isPrefix_positionKey {id id' : Bytes32} {salt : Text} :
    wordHex id ++ ['|'] <+: positionKey (wordHex id') salt ↔ id' = id := by
  constructor
  · rintro ⟨rest, same⟩
    rw [positionKey, List.append_assoc] at same
    obtain ⟨ids, -⟩ := List.append_inj same (by rw [length_wordHex, length_wordHex])
    exact (wordHex_injective ids).symm
  · rintro rfl
    exact ⟨salt, by rw [positionKey, List.append_assoc]; rfl⟩

variable {viem : Viem}

/-- The salt computed for a wallet is the salt its calls of the router carry. -/
theorem saltOf_spelled (documented : viem.Documented) {wallet : Text} {w : Address}
    (spelled : Spells wallet w) : saltOf viem wallet = wordHex (addressWord w) := by
  obtain ⟨digits, rfl, lower⟩ := spelled
  have length : digits.length = 40 := by
    have mapped := congrArg List.length lower
    rwa [toLowerCase, List.length_map, Hex.length_digits] at mapped
  have fits : w.bits.toNat < 16 ^ 40 := lt_of_lt_of_le w.bits.isLt (by norm_num)
  have value : (addressWord w).toNat = w.bits.toNat := by
    rw [addressWord, BitVec.toNat_setWidth, Nat.mod_eq_of_lt (lt_trans w.bits.isLt (by norm_num))]
  rw [saltOf, documented.pads digits (by omega), wordHex, value, Hex.digits_add 24 40 fits, ← lower,
    List.leftpad, length]
  simp [toLowerCase]

end Texts

/-- What one log adds: the amount, under a pool and a salt. -/
structure Shown where
  id : Text
  salt : Text
  amount : ℤ

def shownOf (viem : Viem) (log : RawLog) : Option Shown :=
  if log.topics.head? ≠ some viem.modifyLiquidityTopic then none
  else (viem.decodeEventLog log.data log.topics).map fun args =>
    ⟨toLowerCase args.id, toLowerCase args.salt, args.liquidityDelta⟩

/-- A log of the event that decodes, or a log of another event. -/
def Readable (viem : Viem) (log : RawLog) : Prop :=
  log.topics.head? = some viem.modifyLiquidityTopic →
    ∃ args, viem.decodeEventLog log.data log.topics = some args

def totalAmounts (shown : List Shown) : List (Text × ℤ) :=
  shown.map fun entry => (entry.id, entry.amount)

def positionAmounts (shown : List Shown) : List (Text × ℤ) :=
  shown.map fun entry => (positionKey entry.id entry.salt, entry.amount)

section Sums
variable {viem : Viem}

theorem tally_totalAmounts_concat (shown : List Shown) (entry : Shown) :
    JsMap.tally (totalAmounts (shown ++ [entry])) =
      (JsMap.tally (totalAmounts shown)).accumulate entry.id entry.amount := by
  rw [totalAmounts, List.map_append, List.map_singleton, JsMap.tally_append, totalAmounts]

theorem tally_positionAmounts_concat (shown : List Shown) (entry : Shown) :
    JsMap.tally (positionAmounts (shown ++ [entry])) =
      (JsMap.tally (positionAmounts shown)).accumulate (positionKey entry.id entry.salt) entry.amount := by
  rw [positionAmounts, List.map_append, List.map_singleton, JsMap.tally_append, positionAmounts]

/-- **The loop.** Over readable logs it adds up what each of them shows. -/
theorem aggregateLiquidity_eq {logs : List RawLog} (readable : ∀ log ∈ logs, Readable viem log) :
    aggregateLiquidity viem logs = some
      ⟨.tally (totalAmounts (logs.filterMap (shownOf viem))),
        .tally (positionAmounts (logs.filterMap (shownOf viem)))⟩ := by
  induction logs using List.reverseRecOn with
  | nil => rfl
  | append_singleton logs log ih =>
    have earlier := ih fun log member => readable log (List.mem_append_left _ member)
    rw [aggregateLiquidity] at earlier
    rw [aggregateLiquidity, List.foldlM_append, earlier, List.filterMap_append]
    by_cases kind : log.topics.head? = some viem.modifyLiquidityTopic
    · obtain ⟨args, decoded⟩ := readable log (List.mem_append_right _ List.mem_cons_self) kind
      have shown : [log].filterMap (shownOf viem) =
          [⟨toLowerCase args.id, toLowerCase args.salt, args.liquidityDelta⟩] := by
        simp [shownOf, kind, decoded]
      rw [shown, tally_totalAmounts_concat, tally_positionAmounts_concat]
      simp [aggregateLog, kind, decoded]
    · have shown : [log].filterMap (shownOf viem) = [] := by simp [shownOf, kind]
      rw [shown, List.append_nil]
      simp [aggregateLog, kind]

/-! ## The manager behind the logs -/

def changes (events : List Event) : List Change :=
  events.filterMap fun event =>
    match event with
    | .modifyLiquidity change => some change
    | .other _ _ => none

/-- The deltas of the changes, under the position each of them moves. -/
def amounts (events : List Event) : List ((Bytes32 × Position) × ℤ) :=
  (changes events).map fun change => ((change.id, change.position), change.liquidityDelta.toInt)

/-- Every position is the sum of the deltas emitted for it, and no other event is
taken for a change of liquidity. -/
structure PoolManager.Balanced (viem : Viem) (manager : PoolManager) : Prop where
  held : ∀ id position,
    (manager.liquidity id position : ℤ) = JsMap.amountsWhere (· = (id, position)) (amounts manager.events)
  others : ∀ topics data, Event.other topics data ∈ manager.events →
    topics.head? ≠ some viem.modifyLiquidityTopic

theorem PoolManager.perform_balanced {manager next : PoolManager} {event : Event}
    (balanced : manager.Balanced viem) (performed : manager.perform viem event = .ok next) :
    next.Balanced viem := by
  obtain ⟨held, others⟩ := balanced
  cases event with
  | modifyLiquidity change =>
    simp only [PoolManager.perform] at performed
    split at performed
    · cases performed
    rename_i enough
    cases performed
    refine ⟨fun id position => ?_, fun topics data member => ?_⟩
    · have split : amounts (manager.events ++ [.modifyLiquidity change]) = amounts manager.events ++
          [((change.id, change.position), change.liquidityDelta.toInt)] := by
        simp [amounts, changes, List.filterMap_append]
      dsimp only
      rw [split, JsMap.amountsWhere_append, JsMap.amountsWhere_singleton, ← held, store_apply]
      by_cases here : id = change.id ∧ position = change.position
      · obtain ⟨rfl, rfl⟩ := here
        simp only [and_self, if_true]
        omega
      · have elsewhere : ¬ (change.id, change.position) = (id, position) := by
          rintro ⟨⟩
          exact here ⟨rfl, rfl⟩
        rw [if_neg here, if_neg elsewhere, add_zero]
    · rcases List.mem_append.mp member with earlier | new
      · exact others topics data earlier
      · simp at new
  | other topics data =>
    simp only [PoolManager.perform] at performed
    split at performed
    · cases performed
    rename_i differs
    cases performed
    refine ⟨fun id position => ?_, fun topics' data' member => ?_⟩
    · have same : amounts (manager.events ++ [.other topics data]) = amounts manager.events := by
        simp [amounts, changes, List.filterMap_append]
      rw [same]
      exact held id position
    · rcases List.mem_append.mp member with earlier | new
      · exact others topics' data' earlier
      · obtain ⟨rfl, rfl⟩ : topics' = topics ∧ data' = data := by simpa using new
        exact differs

/-- **Run.** The manager balances after any sequence of operations. -/
theorem PoolManager.after_balanced (operations : List Event) :
    (PoolManager.after viem operations).Balanced viem := by
  apply exec_preserves
  · intro manager event next balanced performed
    exact PoolManager.perform_balanced balanced performed
  · exact ⟨fun _ _ => rfl, by simp⟩

/-- What the logs of the manager show is what it emitted. -/
theorem filterMap_shownOf_logs (documented : viem.Documented) {manager : PoolManager}
    (balanced : manager.Balanced viem) :
    (manager.logs viem).filterMap (shownOf viem) = (changes manager.events).map fun change =>
      ⟨wordHex change.id, wordHex change.salt, change.liquidityDelta.toInt⟩ := by
  have others := balanced.others
  rw [PoolManager.logs]
  generalize manager.events = events at others
  induction events with
  | nil => rfl
  | cons event rest ih =>
    have later := ih fun topics data member => others topics data (List.mem_cons_of_mem _ member)
    cases event with
    | modifyLiquidity change =>
      obtain ⟨args, decoded, id, salt, delta⟩ := documented.decodes change
      have shown : shownOf viem (change.log viem) =
          some ⟨wordHex change.id, wordHex change.salt, change.liquidityDelta.toInt⟩ := by
        rw [shownOf, if_neg (by simp [Change.log]), decoded, ← id, ← salt, ← delta]
        rfl
      rw [List.map_cons, Event.log, List.filterMap_cons, shown]
      simp only [later]
      rfl
    | other topics data =>
      have shown : shownOf viem (Event.log viem (.other topics data)) = none :=
        if_pos (others topics data List.mem_cons_self)
      rw [List.map_cons, List.filterMap_cons, shown]
      exact later

theorem readable_logs (documented : viem.Documented) {manager : PoolManager}
    (balanced : manager.Balanced viem) : ∀ log ∈ manager.logs viem, Readable viem log := by
  intro log member kind
  obtain ⟨event, emitted, rfl⟩ := List.mem_map.mp member
  cases event with
  | modifyLiquidity change =>
    obtain ⟨args, decoded, -⟩ := documented.decodes change
    exact ⟨args, decoded⟩
  | other topics data => exact absurd kind (balanced.others topics data emitted)

end Sums

/-! ## What is shown and what can be withdrawn -/

/-- The liquidity accounts other than the router hold under a wallet's salt. -/
noncomputable def PoolManager.foreign (manager : PoolManager) (router : Address) (id : Bytes32)
    (w : Address) : ℤ :=
  ∑ holder : {owner : Address // owner ≠ router} × Int24 × Int24,
    (manager.liquidity id ⟨holder.1, holder.2.1, holder.2.2, addressWord w⟩ : ℤ)

/-- No account but the router has liquidity in the pool under the wallet's salt. -/
def PoolManager.Unshared (manager : PoolManager) (router : Address) (id : Bytes32) (w : Address) : Prop :=
  ∀ position : Position, position.owner ≠ router → position.salt = addressWord w →
    manager.liquidity id position = 0

/-- The page shows the position the wallet can withdraw, its total for the pool is
the total of the pool's positions, and the order of the logs does not matter. -/
def Shows (viem : Viem) (router : Address) (manager : PoolManager) (id : Bytes32) (w : Address)
    (wallet : Text) : Prop :=
  ∃ sums, aggregateLiquidity viem (manager.logs viem) = some sums ∧
    (sums.positions.get (positionKey (wordHex id) (saltOf viem wallet))).getD 0 =
      manager.exitable router id w ∧
    (sums.totals.get (wordHex id)).getD 0 =
      sums.positions.sumWhere (fun key => wordHex id ++ ['|'] <+: key) ∧
    ∀ reordered : List RawLog, reordered.Perm (manager.logs viem) →
      ∃ other, aggregateLiquidity viem reordered = some other ∧
        ∀ key, other.totals.get key = sums.totals.get key ∧
          other.positions.get key = sums.positions.get key

section Display
variable {viem : Viem} {manager : PoolManager} {router w : Address} {id : Bytes32} {wallet : Text}

/-- What is shown under a salt: the router's position and everybody else's. -/
theorem amountsWhere_salt (balanced : manager.Balanced viem) (router w : Address) (id : Bytes32) :
    JsMap.amountsWhere (fun key : Bytes32 × Position => key.1 = id ∧ key.2.salt = addressWord w)
        (amounts manager.events) =
      manager.exitable router id w + manager.foreign router id w := by
  have own : manager.exitable router id w =
      JsMap.amountsWhere (fun key : Bytes32 × Position =>
        (key.1 = id ∧ key.2.salt = addressWord w) ∧ key.2.owner = router) (amounts manager.events) := by
    simp only [PoolManager.exitable, balanced.held]
    apply JsMap.sum_amountsWhere
    · rintro ⟨lower, upper⟩ ⟨lower', upper'⟩ same
      cases same
      rfl
    · rintro ⟨pool, owner, lower, upper, salt⟩
      constructor
      · rintro ⟨⟨rfl, rfl⟩, rfl⟩
        exact ⟨(lower, upper), rfl⟩
      · rintro ⟨ticks, same⟩
        cases same
        exact ⟨⟨rfl, rfl⟩, rfl⟩
  have others : manager.foreign router id w =
      JsMap.amountsWhere (fun key : Bytes32 × Position =>
        (key.1 = id ∧ key.2.salt = addressWord w) ∧ ¬ key.2.owner = router) (amounts manager.events) := by
    simp only [PoolManager.foreign, balanced.held]
    apply JsMap.sum_amountsWhere
    · rintro ⟨⟨owner, _⟩, lower, upper⟩ ⟨⟨owner', _⟩, lower', upper'⟩ same
      cases same
      rfl
    · rintro ⟨pool, owner, lower, upper, salt⟩
      constructor
      · rintro ⟨⟨rfl, rfl⟩, stranger⟩
        exact ⟨(⟨owner, stranger⟩, lower, upper), rfl⟩
      · rintro ⟨⟨⟨owner', stranger⟩, ticks⟩, same⟩
        cases same
        exact ⟨⟨rfl, rfl⟩, stranger⟩
  rw [own, others]
  exact JsMap.amountsWhere_split _ (fun key : Bytes32 × Position => key.2.owner = router) _

/-- Positions are never negative, so strangers' liquidity adds up to nothing only
when there is none. -/
theorem foreign_eq_zero_iff : manager.foreign router id w = 0 ↔ manager.Unshared router id w := by
  rw [PoolManager.foreign, Finset.sum_eq_zero_iff_of_nonneg fun _ _ => Int.natCast_nonneg _]
  constructor
  · rintro none ⟨owner, lower, upper, salt⟩ stranger rfl
    exact Int.natCast_eq_zero.mp (none (⟨owner, stranger⟩, lower, upper) (Finset.mem_univ _))
  · rintro unshared ⟨⟨owner, stranger⟩, lower, upper⟩ -
    exact Int.natCast_eq_zero.mpr (unshared ⟨owner, lower, upper, addressWord w⟩ stranger rfl)

/-- **The page against the chain.** The sums exist, what they hold for the wallet is
its position at the router and what strangers hold under its salt, and totals and
orders come out as they should. -/
theorem aggregateLiquidity_logs (documented : viem.Documented) (balanced : manager.Balanced viem)
    (router : Address) (id : Bytes32) (spelled : Spells wallet w) :
    ∃ sums, aggregateLiquidity viem (manager.logs viem) = some sums ∧
      (sums.positions.get (positionKey (wordHex id) (saltOf viem wallet))).getD 0 =
        manager.exitable router id w + manager.foreign router id w ∧
      (sums.totals.get (wordHex id)).getD 0 =
        sums.positions.sumWhere (fun key => wordHex id ++ ['|'] <+: key) ∧
      ∀ reordered : List RawLog, reordered.Perm (manager.logs viem) →
        ∃ other, aggregateLiquidity viem reordered = some other ∧
          ∀ key, other.totals.get key = sums.totals.get key ∧
            other.positions.get key = sums.positions.get key := by
  have readable := readable_logs documented balanced
  refine ⟨_, aggregateLiquidity_eq readable, ?_, ?_, ?_⟩
  · rw [JsMap.getD_get_tally, filterMap_shownOf_logs documented balanced, positionAmounts, List.map_map,
      saltOf_spelled documented spelled, ← amountsWhere_salt balanced]
    exact JsMap.amountsWhere_map_congr _ _ fun change => positionKey_wordHex_inj
  · rw [JsMap.getD_get_tally, JsMap.sumWhere_tally, filterMap_shownOf_logs documented balanced,
      totalAmounts, positionAmounts, List.map_map, List.map_map]
    exact JsMap.amountsWhere_map_congr _ _ fun change =>
      wordHex_injective.eq_iff.trans isPrefix_positionKey.symm
  · intro reordered same
    have shown := same.filterMap (shownOf viem)
    refine ⟨_, aggregateLiquidity_eq fun log member => readable log (same.mem_iff.mp member),
      fun key => ⟨?_, ?_⟩⟩
    · exact JsMap.get_tally_perm (shown.map _) key
    · exact JsMap.get_tally_perm (shown.map _) key

/-- **The displayed position.** After any operations of any accounts, the page shows
what the wallet can withdraw exactly when no account but the router has liquidity
in the pool under the wallet's salt. -/
theorem shows_iff_unshared (documented : viem.Documented) (operations : List Event) (router : Address)
    (id : Bytes32) (spelled : Spells wallet w) :
    Shows viem router (PoolManager.after viem operations) id w wallet ↔
      (PoolManager.after viem operations).Unshared router id w := by
  obtain ⟨sums, summed, position, total, orders⟩ :=
    aggregateLiquidity_logs documented (PoolManager.after_balanced operations) router id spelled
  rw [← foreign_eq_zero_iff]
  constructor
  · rintro ⟨again, summedAgain, shown, -⟩
    obtain rfl : sums = again := Option.some.inj (summed.symm.trans summedAgain)
    rw [position] at shown
    omega
  · intro none
    rw [none, add_zero] at position
    exact ⟨sums, summed, position, total, orders⟩

end Display

/-- A decoder that reads the fields where the event puts them. -/
def viem : Viem where
  modifyLiquidityTopic := ['0', 'x', 'f']
  decodeEventLog data topics :=
    match topics with
    | [_, id, sender] =>
      let field (slot : ℕ) : Uint256 := BitVec.ofNat 256 (Hex.value ((data.drop (2 + 64 * slot)).take 64))
      some {
        id
        sender
        tickLower := (field 0).toInt
        tickUpper := (field 1).toInt
        liquidityDelta := (field 2).toInt
        salt := wordHex (field 3) }
    | _ => none
  pad hex := '0' :: 'x' :: (hex.drop 2).leftpad 64 '0'

theorem toLowerCase_wordHex (word : Uint256) : toLowerCase (wordHex word) = wordHex word := by
  rw [toLowerCase, wordHex, List.map_cons, List.map_cons, Hex.toLower_digits]
  rfl

theorem ofNat_value_digits (word : Uint256) :
    BitVec.ofNat 256 (Hex.value (Hex.digits 64 word.toNat)) = word := by
  have width : (16 : ℕ) ^ 64 = 2 ^ 256 := by norm_num
  rw [Hex.value_digits, width, Nat.mod_eq_of_lt word.isLt, BitVec.ofNat_toNat, BitVec.setWidth_eq]

/-- A field of digits, read where it stands. -/
theorem field_digits (lead : Text) (word : Uint256) (rest : Text) :
    BitVec.ofNat 256 (Hex.value
      (((lead ++ (Hex.digits 64 word.toNat ++ rest)).drop lead.length).take 64)) = word := by
  rw [List.drop_left, List.take_left' (Hex.length_digits ..), ofNat_value_digits]

theorem viem_documented : viem.Documented where
  decodes change := by
    have delta := field_digits ('0' :: 'x' :: (Hex.digits 64 (change.tickLower.signExtend 256).toNat ++
      Hex.digits 64 (change.tickUpper.signExtend 256).toNat)) change.liquidityDelta
      (Hex.digits 64 change.salt.toNat)
    have salt := field_digits ('0' :: 'x' :: (Hex.digits 64 (change.tickLower.signExtend 256).toNat ++
      (Hex.digits 64 (change.tickUpper.signExtend 256).toNat ++
        Hex.digits 64 change.liquidityDelta.toNat))) change.salt []
    simp only [List.cons_append, List.append_assoc, List.append_nil, List.length_cons,
      List.length_append, Hex.length_digits] at delta salt
    refine ⟨_, rfl, toLowerCase_wordHex _, ?_, ?_⟩
    · dsimp only [Change.log]
      rw [toLowerCase_wordHex, salt]
    · dsimp only [Change.log]
      rw [delta]
  pads digits short := rfl

/-- The address of account 20, as it is written. -/
def wallet20 : Text := '0' :: 'x' :: Hex.digits 40 20

theorem spells_wallet20 : Spells wallet20 20 := ⟨_, rfl, Hex.toLower_digits 40 20⟩

/-- The router adds seven units to pool 1 for account 20. -/
def settles : Event := .modifyLiquidity ⟨1, 50, -120, 120, 7, addressWord 20⟩

/-- As long as it is alone under that salt, the page shows what it can withdraw. -/
theorem settled_position_is_shown : Shows viem 50 (PoolManager.after viem [settles]) 1 20 wallet20 := by
  apply (shows_iff_unshared viem_documented [settles] 50 1 spells_wallet20).mpr
  intro position stranger _
  have added : (PoolManager.after viem [settles]).liquidity =
      store (fun _ _ => 0) 1 ⟨50, -120, 120, addressWord 20⟩ 7 := rfl
  rw [added]
  apply store_of_ne
  rintro ⟨-, rfl⟩
  exact stranger rfl

/-- Account 60 adds five units to pool 1 under the salt of account 20. -/
def squats : Event := .modifyLiquidity ⟨1, 60, -120, 120, 5, addressWord 20⟩

/-- The page shows them to account 20, which can withdraw none of them. -/
theorem squatted_position_is_shown :
    viem.Documented ∧ Spells wallet20 20 ∧
      ((PoolManager.after viem [squats]).liquidity 1 ⟨60, -120, 120, addressWord 20⟩ = 5) ∧
      (PoolManager.after viem [squats]).exitable 50 1 20 = 0 ∧
      ((aggregateLiquidity viem ((PoolManager.after viem [squats]).logs viem)).map fun sums =>
        sums.positions.get (positionKey (wordHex 1) (saltOf viem wallet20))) = some (some 5) ∧
      ¬ Shows viem 50 (PoolManager.after viem [squats]) 1 20 wallet20 := by
  have empty : (PoolManager.after viem [squats]).exitable 50 1 20 = 0 := by
    apply Finset.sum_eq_zero
    rintro ticks -
    have elsewhere : ¬ ((1 : Bytes32) = 1 ∧ (⟨50, ticks.1, ticks.2, addressWord 20⟩ : Position) =
        ⟨60, -120, 120, addressWord 20⟩) := by
      rintro ⟨-, same⟩
      exact absurd (congrArg Position.owner same) (show (50 : Address) ≠ 60 by decide)
    have added : (PoolManager.after viem [squats]).liquidity =
        store (fun _ _ => 0) 1 ⟨60, -120, 120, addressWord 20⟩ 5 := rfl
    rw [added]
    exact Int.natCast_eq_zero.mpr (store_of_ne elsewhere)
  have shown : ((aggregateLiquidity viem ((PoolManager.after viem [squats]).logs viem)).map fun sums =>
      sums.positions.get (positionKey (wordHex 1) (saltOf viem wallet20))) = some (some 5) := by
    decide +kernel
  refine ⟨viem_documented, spells_wallet20, by decide +kernel, empty, shown, ?_⟩
  rintro ⟨sums, summed, position, -⟩
  rw [summed] at shown
  have five : sums.positions.get (positionKey (wordHex 1) (saltOf viem wallet20)) = some 5 :=
    Option.some.inj shown
  rw [five, empty] at position
  exact absurd position (by decide)

end PassportKit.Positions
