import PassportKit.Evm
import PassportKit.Interaction

/-! The demo's liquidity router. A call goes out to the pool manager with an
encoded note of who is calling, and the manager calls back with that note; only
what the note says decides whose position is touched and who is charged. The
router is written as a program that calls out, since between two of its calls
hooks and tokens may do anything. -/
namespace PassportKit
open Evm Interaction

abbrev Int24 := BitVec 24
abbrev BalanceDelta := BitVec 256

structure PoolKey where
  currency0 : Address
  currency1 : Address
  fee : BitVec 24
  tickSpacing : Int24
  hooks : Address
  deriving DecidableEq, Repr

structure ModifyLiquidityParams where
  tickLower : Int24
  tickUpper : Int24
  liquidityDelta : Int256
  salt : Bytes32
  deriving DecidableEq, Repr

/-- Its own address is `this` of each function below; the manager is immutable. -/
structure DemoPositionRouter where
  manager : Address
  deriving DecidableEq, Repr

namespace DemoPositionRouter

structure CallbackData where
  sender : Address
  key : PoolKey
  params : ModifyLiquidityParams
  hookData : Bytes
  deriving DecidableEq, Repr

inductive RouterError where
  | NotPoolManager
  deriving DecidableEq, Repr

abbrev Result (α : Type) := Outcome RouterError α

/-- `abi.encode` of values of one word each. -/
def words (values : List Uint256) : Bytes := values.flatMap word

/-- The head of the struct: its static fields and, last, where `hookData` starts. -/
def structHead (data : CallbackData) : List Uint256 :=
  [addressWord data.sender, addressWord data.key.currency0, addressWord data.key.currency1,
    data.key.fee.setWidth 256, data.key.tickSpacing.signExtend 256, addressWord data.key.hooks,
    data.params.tickLower.signExtend 256, data.params.tickUpper.signExtend 256,
    data.params.liquidityDelta, data.params.salt, 352]

/-- The tail of the struct: the length of `hookData` and its bytes, padded to whole words. -/
def structTail (data : CallbackData) : Bytes :=
  word (BitVec.ofNat 256 data.hookData.length) ++
    (data.hookData ++ List.replicate ((32 - data.hookData.length % 32) % 32) 0)

/-- `abi.encode(CallbackData(...))`: where the struct starts, and the struct. -/
def encodeCallbackData (data : CallbackData) : Bytes :=
  word 32 ++ (words (structHead data) ++ structTail data)

/-- A value narrower than its slot: the decoder refuses bits the type has no room for. -/
def decodeNarrow {α : Type} (narrow : Uint256 → α) (widen : α → Uint256) (slot : Uint256) :
    Result α :=
  if widen (narrow slot) = slot then .ok (narrow slot) else .error .undecodable

def decodeAddress : Uint256 → Result Address :=
  decodeNarrow (fun slot => ⟨slot.setWidth 160⟩) addressWord

def decodeUint24 : Uint256 → Result (BitVec 24) :=
  decodeNarrow (·.setWidth 24) (·.setWidth 256)

def decodeInt24 : Uint256 → Result Int24 :=
  decodeNarrow (·.setWidth 24) (·.signExtend 256)

/-- `bytes`, from the word that holds its length on. -/
def decodeBytes (tail : Bytes) : Result Bytes := do
  revertIf (tail.length < 32) .undecodable
  let length := (wordAt tail 0).toNat
  -- memory for more than `type(uint64).max` bytes is never allocated
  revertIf (uint64Modulus ≤ length) (.panic 0x41)
  revertIf (tail.length < 32 + length) .undecodable
  pure ((tail.drop 32).take length)

/-- The struct, from its first word on. -/
def decodeStruct (body : Bytes) : Result CallbackData := do
  revertIf (body.length < 352) .undecodable
  let sender ← decodeAddress (wordAt body 0)
  let currency0 ← decodeAddress (wordAt body 1)
  let currency1 ← decodeAddress (wordAt body 2)
  let fee ← decodeUint24 (wordAt body 3)
  let tickSpacing ← decodeInt24 (wordAt body 4)
  let hooks ← decodeAddress (wordAt body 5)
  let tickLower ← decodeInt24 (wordAt body 6)
  let tickUpper ← decodeInt24 (wordAt body 7)
  let offset := (wordAt body 10).toNat
  revertIf (uint64Modulus ≤ offset) .undecodable
  let hookData ← decodeBytes (body.drop offset)
  pure {
    sender
    key := { currency0, currency1, fee, tickSpacing, hooks }
    params := { tickLower, tickUpper, liquidityDelta := wordAt body 8, salt := wordAt body 9 }
    hookData }

/-- `abi.decode(rawData, (CallbackData))` -/
def decodeCallbackData (rawData : Bytes) : Result CallbackData := do
  revertIf (rawData.length < 32) .undecodable
  let offset := (wordAt rawData 0).toNat
  revertIf (uint64Modulus ≤ offset) .undecodable
  decodeStruct (rawData.drop offset)

/-- `abi.decode(data, (BalanceDelta))` -/
def decodeBalanceDelta (data : Bytes) : Result BalanceDelta :=
  if data.length < 32 then .error .undecodable else .ok (wordAt data 0)

section Codec

@[simp] theorem length_words (values : List Uint256) : (words values).length = 32 * values.length := by
  induction values with
  | nil => rfl
  | cons value rest ih =>
    rw [words, List.flatMap_cons, List.length_append, ← words, ih, length_word, List.length_cons]
    omega

/-- The slots of encoded words hold the words. -/
theorem wordAt_words {values : List Uint256} {rest : Bytes} {slot : ℕ} {value : Uint256}
    (found : values[slot]? = some value) : wordAt (words values ++ rest) slot = value := by
  induction values generalizing slot with
  | nil => simp at found
  | cons head tail ih =>
    have split : words (head :: tail) ++ rest = word head ++ (words tail ++ rest) :=
      List.append_assoc ..
    rw [split]
    cases slot with
    | zero =>
      obtain rfl : head = value := by simpa using found
      exact wordAt_append ..
    | succ slot =>
      rw [wordAt_append_succ]
      exact ih (by simpa using found)

variable {α : Type} {narrow : Uint256 → α} {widen : α → Uint256}

theorem decodeNarrow_widen (inverse : Function.LeftInverse narrow widen) (value : α) :
    decodeNarrow narrow widen (widen value) = .ok value := by
  rw [decodeNarrow, inverse value, if_pos rfl]

@[simp] theorem decodeAddress_addressWord (account : Address) :
    decodeAddress (addressWord account) = .ok account := by
  apply decodeNarrow_widen
  intro account
  apply Address.bits_injective
  exact BitVec.setWidth_setWidth_of_le account.bits (show 160 ≤ 256 by decide)

@[simp] theorem decodeUint24_setWidth (value : BitVec 24) :
    decodeUint24 (value.setWidth 256) = .ok value := by
  apply decodeNarrow_widen
  intro value
  exact BitVec.setWidth_setWidth_of_le value (show 24 ≤ 256 by decide)

@[simp] theorem decodeInt24_signExtend (value : Int24) :
    decodeInt24 (value.signExtend 256) = .ok value := by
  apply decodeNarrow_widen
  intro value
  ext index bound
  have inside : index < 256 := by omega
  rw [BitVec.getElem_setWidth, BitVec.getLsbD_signExtend, if_pos bound, BitVec.getLsbD_eq_getElem bound,
    decide_eq_true inside, Bool.true_and]

theorem decodeBytes_encoded {bytes rest : Bytes} (short : bytes.length < uint64Modulus) :
    decodeBytes (word (BitVec.ofNat 256 bytes.length) ++ (bytes ++ rest)) = .ok bytes := by
  have wide : bytes.length < 2 ^ 256 := lt_trans short (by decide)
  have length : (BitVec.ofNat 256 bytes.length).toNat = bytes.length := by
    rw [BitVec.toNat_ofNat, Nat.mod_eq_of_lt wide]
  have tail : (word (BitVec.ofNat 256 bytes.length) ++ (bytes ++ rest)).drop 32 = bytes ++ rest :=
    List.drop_left' (length_word _)
  have taken : (bytes ++ rest).take bytes.length = bytes := List.take_left' rfl
  rw [decodeBytes]
  simp only [wordAt_append, length, tail, taken, List.length_append, length_word]
  rw [revertIf_false _ (by omega), ok_bind, revertIf_false _ (by omega), ok_bind,
    revertIf_false _ (by omega), ok_bind, pure_outcome]

theorem decodeStruct_encoded {data : CallbackData} (short : data.hookData.length < uint64Modulus) :
    decodeStruct (words (structHead data) ++ structTail data) = .ok data := by
  have slot : ∀ {i value}, (structHead data)[i]? = some value →
      wordAt (words (structHead data) ++ structTail data) i = value :=
    fun found => wordAt_words found
  have size : (words (structHead data)).length = 352 := length_words _
  have long : ¬ (words (structHead data) ++ structTail data).length < 352 := by
    rw [List.length_append, size]
    omega
  have tail : (words (structHead data) ++ structTail data).drop 352 = structTail data :=
    List.drop_left' size
  have hookData : decodeBytes (structTail data) = .ok data.hookData := decodeBytes_encoded short
  have offset : ((352 : Uint256)).toNat = 352 := rfl
  rw [decodeStruct, revertIf_false _ long, ok_bind,
    @slot 0 _ rfl, @slot 1 _ rfl, @slot 2 _ rfl, @slot 3 _ rfl, @slot 4 _ rfl, @slot 5 _ rfl,
    @slot 6 _ rfl, @slot 7 _ rfl, @slot 8 _ rfl, @slot 9 _ rfl, @slot 10 _ rfl]
  simp only [decodeAddress_addressWord, decodeUint24_setWidth, decodeInt24_signExtend, ok_bind, offset,
    tail, hookData, revertIf_false _ (show ¬ uint64Modulus ≤ 352 by decide), pure_outcome]

/-- **Round trip.** The manager hands back the note the call went out with. -/
theorem decodeCallbackData_encode {data : CallbackData}
    (short : data.hookData.length < uint64Modulus) :
    decodeCallbackData (encodeCallbackData data) = .ok data := by
  have long : ¬ (encodeCallbackData data).length < 32 := by
    rw [encodeCallbackData, List.length_append, length_word]
    omega
  have start : (wordAt (encodeCallbackData data) 0).toNat = 32 := by
    rw [encodeCallbackData, wordAt_append]
    rfl
  have body : (encodeCallbackData data).drop 32 = words (structHead data) ++ structTail data :=
    List.drop_left' (length_word _)
  rw [decodeCallbackData, revertIf_false _ long, ok_bind, start]
  show (revertIf (uint64Modulus ≤ 32) .undecodable >>= fun _ =>
    decodeStruct ((encodeCallbackData data).drop 32)) = .ok data
  rw [revertIf_false _ (by decide), ok_bind, body]
  exact decodeStruct_encoded short

theorem decodeBalanceDelta_word (delta : BalanceDelta) : decodeBalanceDelta (word delta) = .ok delta := by
  simp [decodeBalanceDelta, wordAt_zero_word]

end Codec

/-! ## The calls of the router -/

/-- What the router and the library code it inlines call. -/
inductive Call where
  -- the pool manager
  | unlock (data : Bytes)
  | modifyLiquidity (key : PoolKey) (params : ModifyLiquidityParams) (hookData : Bytes)
  | currencyDelta (holder currency : Address)
  | sync (currency : Address)
  | settle (value : Uint256)
  | take (currency recipient : Address) (amount : Uint256)
  | burn (holder : Address) (id amount : Uint256)
  | mint (holder : Address) (id amount : Uint256)
  -- a currency
  | balanceOf (currency holder : Address)
  | transfer (currency recipient : Address) (amount : Uint256)
  | transferFrom (currency payer recipient : Address) (amount : Uint256)
  deriving DecidableEq, Repr

/-- What each call returns, decoded. -/
def Call.Answer : Call → Type
  | .unlock _ => Bytes
  | .modifyLiquidity _ _ _ => BalanceDelta × BalanceDelta
  | .currencyDelta _ _ => Int256
  | .sync _ => Unit
  | .settle _ => Uint256
  | .take _ _ _ => Unit
  | .burn _ _ _ => Unit
  | .mint _ _ _ => Unit
  | .balanceOf _ _ => Uint256
  | .transfer _ _ _ => Bool
  | .transferFrom _ _ _ _ => Bool

abbrev Code (α : Type) := Program Call Call.Answer (Revert RouterError) α

/-- A movement of an ERC-20 token. -/
structure Move where
  currency : Address
  payer : Address
  recipient : Address
  amount : Uint256
  deriving DecidableEq, Repr

/-- The token movement a call of the router asks for. -/
def Call.move (this manager : Address) : Call → Option Move
  | .transfer currency recipient amount => some ⟨currency, this, recipient, amount⟩
  | .transferFrom currency payer recipient amount => some ⟨currency, payer, recipient, amount⟩
  | .take currency recipient amount => some ⟨currency, manager, recipient, amount⟩
  | _ => none

/-- Calls that read, or that only close the router's account with the manager. -/
def Call.Bookkeeping : Call → Prop
  | .currencyDelta _ _ => True
  | .sync _ => True
  | .settle _ => True
  | .balanceOf _ _ => True
  | _ => False

/-- The code the router takes over from the pool's own repository: the balance
helper of its base contract and the two settlement helpers. -/
structure V4Core where
  fetchBalances (this manager currency user deltaHolder : Address) : Code (Uint256 × Uint256 × Int256)
  settle (this manager currency payer : Address) (amount : Uint256) (burn : Bool) : Code Unit
  take (this manager currency recipient : Address) (amount : Uint256) (claims : Bool) : Code Unit

/-- What that code documents: balances are only read; settling pays the amount
from the payer to the manager, taking pays it from the manager to the recipient,
and neither does anything else but the accounting. -/
structure V4Core.Documented (core : V4Core) : Prop where
  fetches : ∀ this manager currency user deltaHolder,
    (core.fetchBalances this manager currency user deltaHolder).Calls Call.Bookkeeping
  settles : ∀ this manager currency payer amount,
    (core.settle this manager currency payer amount false).Calls fun call =>
      call.Bookkeeping ∨ call.move this manager = some ⟨currency, payer, manager, amount⟩
  takes : ∀ this manager currency recipient amount,
    (core.take this manager currency recipient amount false).Calls fun call =>
      call.Bookkeeping ∨ call.move this manager = some ⟨currency, manager, recipient, amount⟩

/-- The documented behaviour, written out. -/
def v4Core : V4Core where
  fetchBalances _ manager currency user deltaHolder := do
    let userBalance ← .perform (Call.balanceOf currency user)
    let poolBalance ← .perform (Call.balanceOf currency manager)
    let delta ← .perform (Call.currencyDelta deltaHolder currency)
    pure (userBalance, poolBalance, delta)
  settle this manager currency payer amount burn := do
    if burn then
      .perform (Call.burn payer (addressWord currency) amount)
    else if currency = 0 then
      let _ ← .perform (Call.settle amount)
    else
      .perform (Call.sync currency)
      if payer ≠ this then
        let _ ← .perform (Call.transferFrom currency payer manager amount)
      else
        let _ ← .perform (Call.transfer currency manager amount)
      let _ ← .perform (Call.settle 0)
  take _ _ currency recipient amount claims :=
    if claims then
      .perform (Call.mint recipient (addressWord currency) amount)
    else
      .perform (Call.take currency recipient amount)

theorem v4Core_documented : v4Core.Documented where
  fetches this manager currency user deltaHolder := by
    refine ⟨trivial, fun _ => ⟨trivial, fun _ => ⟨trivial, fun _ => trivial⟩⟩⟩
  settles this manager currency payer amount := by
    by_cases native : currency = 0
    · simp only [v4Core, native, if_true]
      exact ⟨.inl trivial, fun _ => trivial⟩
    simp only [v4Core, native, if_false]
    refine ⟨.inl trivial, fun _ => ?_⟩
    dsimp only [Program.bind]
    split
    · exact ⟨.inr rfl, fun _ => ⟨.inl trivial, fun _ => trivial⟩⟩
    · rename_i own
      obtain rfl : payer = this := not_not.mp own
      exact ⟨.inr rfl, fun _ => ⟨.inl trivial, fun _ => trivial⟩⟩
  takes this manager currency recipient amount := ⟨.inr rfl, fun _ => trivial⟩

section Contract
variable (core : V4Core) (self : DemoPositionRouter) (this msgSender : Address)

def modifyLiquidity (key : PoolKey) (tickLower tickUpper : Int24) (liquidityDelta : Int256)
    (hookData : Bytes) : Code BalanceDelta := do
  -- `hookData` is copied to memory
  if uint64Modulus ≤ hookData.length then
    .fail (.panic 0x41)
  else
    let params : ModifyLiquidityParams :=
      { tickLower, tickUpper, liquidityDelta, salt := addressWord msgSender }
    let result : Bytes ← .perform (Call.unlock (encodeCallbackData ⟨msgSender, key, params, hookData⟩))
    .ofExcept (decodeBalanceDelta result)

/-- `if (delta < 0) currency.settle(manager, sender, uint256(-delta), false);` -/
def settleDebt (currency sender : Address) (delta : Int256) : Code Unit :=
  if delta.toInt < 0 then do
    let amount ← .ofExcept (negate delta)
    core.settle this self.manager currency sender amount false
  else
    pure ()

/-- `if (delta > 0) currency.take(manager, sender, uint256(delta), false);` -/
def takeCredit (currency sender : Address) (delta : Int256) : Code Unit :=
  if 0 < delta.toInt then
    core.take this self.manager currency sender delta false
  else
    pure ()

/-- The rest of the callback, once the modification has been made. -/
def closeAccounts (data : CallbackData) (delta : BalanceDelta) : Code Bytes := do
  let (_, _, delta0) ← core.fetchBalances this self.manager data.key.currency0 data.sender this
  let (_, _, delta1) ← core.fetchBalances this self.manager data.key.currency1 data.sender this
  settleDebt core self this data.key.currency0 data.sender delta0
  settleDebt core self this data.key.currency1 data.sender delta1
  takeCredit core self this data.key.currency0 data.sender delta0
  takeCredit core self this data.key.currency1 data.sender delta1
  pure (word delta)

def unlockCallback (rawData : Bytes) : Code Bytes := do
  if msgSender ≠ self.manager then
    .fail (.custom .NotPoolManager)
  else
    let data ← .ofExcept (decodeCallbackData rawData)
    let (delta, _) ← .perform (Call.modifyLiquidity data.key data.params data.hookData)
    closeAccounts core self this data delta

end Contract

/-- A call of `modifyLiquidity`: who calls, with which arguments. -/
structure Request where
  caller : Address
  key : PoolKey
  tickLower : Int24
  tickUpper : Int24
  liquidityDelta : Int256
  hookData : Bytes
  deriving DecidableEq, Repr

/-- The modification a call asks the manager for, under its caller's salt. -/
def Request.params (request : Request) : ModifyLiquidityParams where
  tickLower := request.tickLower
  tickUpper := request.tickUpper
  liquidityDelta := request.liquidityDelta
  salt := addressWord request.caller

/-- The note the call goes out with. -/
def Request.note (request : Request) : CallbackData :=
  ⟨request.caller, request.key, request.params, request.hookData⟩

/-- A movement between the caller and the manager, in a currency of the pool. -/
def Request.Confines (manager : Address) (request : Request) (move : Move) : Prop :=
  (move.currency = request.key.currency0 ∨ move.currency = request.key.currency1) ∧
    (move.payer = request.caller ∧ move.recipient = manager ∨
      move.payer = manager ∧ move.recipient = request.caller)

/-- **The discipline of a call.** The phase says whether the modification has been
made; it is made once and as requested, and tokens move only as confined. -/
inductive Allowed (this manager : Address) (request : Request) : Bool → Call → Bool → Prop where
  | modifies :
      Allowed this manager request false
        (.modifyLiquidity request.key request.params request.hookData) true
  | keepsBooks {call : Call} (modified : Bool) (books : call.Bookkeeping) :
      Allowed this manager request modified call modified
  | moves {call : Call} {move : Move} (modified : Bool)
      (moves : call.move this manager = some move) (confined : request.Confines manager move) :
      Allowed this manager request modified call modified

section Discipline
variable {core : V4Core} {self : DemoPositionRouter} {this : Address} {request : Request}

/-- The callback is refused to everyone but the manager. -/
theorem unlockCallback_refused {msgSender : Address} (stranger : msgSender ≠ self.manager)
    (rawData : Bytes) :
    unlockCallback core self this msgSender rawData = .fail (.custom .NotPoolManager) := by
  rw [unlockCallback, if_pos stranger]

/-- What `modifyLiquidity` does when it gets as far as the manager. -/
theorem modifyLiquidity_eq_call {request : Request} {data : Bytes}
    {resume : Bytes → Code BalanceDelta}
    (opened : modifyLiquidity request.caller request.key request.tickLower request.tickUpper
      request.liquidityDelta request.hookData = .call (.unlock data) resume) :
    request.hookData.length < uint64Modulus ∧ data = encodeCallbackData request.note := by
  unfold modifyLiquidity at opened
  split at opened
  · cases opened
  · rename_i short
    cases opened
    exact ⟨Nat.lt_of_not_le short, rfl⟩

theorem fetchBalances_obeys (documented : core.Documented) (modified : Bool)
    (currency user deltaHolder : Address) :
    (core.fetchBalances this self.manager currency user deltaHolder).Obeys
      (Allowed this self.manager request) (fun last _ => last = modified) modified := by
  apply (documented.fetches ..).obeys
  intro call books
  exact .keepsBooks modified books

theorem settleDebt_obeys (documented : core.Documented) (modified : Bool) {currency : Address}
    (listed : currency = request.key.currency0 ∨ currency = request.key.currency1) (delta : Int256) :
    (settleDebt core self this currency request.caller delta).Obeys
      (Allowed this self.manager request) (fun last _ => last = modified) modified := by
  unfold settleDebt
  split
  · apply Program.obeys_ofExcept_bind
    intro amount _
    apply (documented.settles ..).obeys
    rintro call (books | moves)
    · exact .keepsBooks modified books
    · exact .moves modified moves ⟨listed, .inl ⟨rfl, rfl⟩⟩
  · rfl

theorem takeCredit_obeys (documented : core.Documented) (modified : Bool) {currency : Address}
    (listed : currency = request.key.currency0 ∨ currency = request.key.currency1) (delta : Int256) :
    (takeCredit core self this currency request.caller delta).Obeys
      (Allowed this self.manager request) (fun last _ => last = modified) modified := by
  unfold takeCredit
  split
  · apply (documented.takes ..).obeys
    rintro call (books | moves)
    · exact .keepsBooks modified books
    · exact .moves modified moves ⟨listed, .inr ⟨rfl, rfl⟩⟩
  · rfl

/-- Called back with the note of a call, the router first asks for the modification. -/
theorem unlockCallback_note (short : request.hookData.length < uint64Modulus) :
    unlockCallback core self this self.manager (encodeCallbackData request.note) =
      .call (.modifyLiquidity request.key request.params request.hookData)
        fun answer => closeAccounts core self this request.note answer.1 := by
  have noted : decodeCallbackData (encodeCallbackData request.note) = .ok request.note :=
    decodeCallbackData_encode short
  rw [unlockCallback, if_neg (not_not.mpr rfl), noted]
  rfl

theorem closeAccounts_obeys (documented : core.Documented) (delta : BalanceDelta) :
    (closeAccounts core self this request.note delta).Obeys (Allowed this self.manager request)
      (fun modified _ => modified = true) true := by
  apply (fetchBalances_obeys documented true ..).andThen
  rintro ⟨_, _, delta0⟩
  apply (fetchBalances_obeys documented true ..).andThen
  rintro ⟨_, _, delta1⟩
  apply (settleDebt_obeys documented true (.inl rfl) delta0).andThen
  intro _
  apply (settleDebt_obeys documented true (.inr rfl) delta1).andThen
  intro _
  apply (takeCredit_obeys documented true (.inl rfl) delta0).andThen
  intro _
  apply (takeCredit_obeys documented true (.inr rfl) delta1).andThen
  intro _
  rfl

/-- **One call.** Called back with the note of a call, the router keeps to the
discipline of that call, and when it is done the modification has been made. -/
theorem unlockCallback_obeys (documented : core.Documented)
    (short : request.hookData.length < uint64Modulus) :
    (unlockCallback core self this self.manager (encodeCallbackData request.note)).Obeys
      (Allowed this self.manager request) (fun modified _ => modified = true) false := by
  rw [unlockCallback_note short]
  refine ⟨true, .modifies, ?_⟩
  rintro ⟨delta, fees⟩
  exact closeAccounts_obeys documented delta

end Discipline

end DemoPositionRouter

end PassportKit
