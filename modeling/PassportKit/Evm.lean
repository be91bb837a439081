import Mathlib.Data.BitVec
import Mathlib.Data.FinEnum
import Mathlib.Data.List.Induction
import Mathlib.Data.Fintype.EquivFin
import Mathlib.Logic.Function.Basic
import Mathlib.Tactic.Ring

/-! What every contract of a Solidity program stands on: machine words and
their big-endian bytes, mapping writes, revert-or-commit outcomes, and the
reply of one contract to another before the caller has decoded it. -/
namespace PassportKit.Evm

abbrev Bytes := List UInt8
abbrev Uint64 := BitVec 64
abbrev Uint256 := BitVec 256
abbrev Int256 := BitVec 256
abbrev Bytes32 := BitVec 256

/-- The 160 bits of an account. -/
structure Address where
  bits : BitVec 160
  deriving DecidableEq, Repr

instance (n : ℕ) : OfNat Address n := ⟨⟨BitVec.ofNat 160 n⟩⟩

theorem Address.bits_injective : Function.Injective Address.bits := by
  rintro ⟨first⟩ ⟨second⟩ rfl
  rfl

instance : Finite Address := Finite.of_injective Address.bits Address.bits_injective

/-- Sums over all accounts are statements, never computations. -/
noncomputable instance : Fintype Address := Fintype.ofFinite Address

/-- An account that can be `msg.sender`: no transaction and no contract ever
acts from the zero address. -/
abbrev Caller := {account : Address // account ≠ 0}

/-- The first value past `type(uint256).max`. -/
def uint256Modulus : ℕ := 2 ^ 256

/-- The first value past `type(uint64).max`. -/
def uint64Modulus : ℕ := 2 ^ 64

/-- The bytes of an ASCII string literal. -/
def ascii (text : String) : Bytes := text.toList.map fun character => UInt8.ofNat character.toNat

/-- The `width` low base-256 digits of a value, most significant first. -/
def bigEndian : ℕ → ℕ → Bytes
  | 0, _ => []
  | width + 1, value => bigEndian width (value / 256) ++ [UInt8.ofNat value]

def ofBigEndian (bytes : Bytes) : ℕ :=
  bytes.foldl (fun value byte => value * 256 + byte.toNat) 0

@[simp] theorem length_bigEndian (width value : ℕ) : (bigEndian width value).length = width := by
  induction width generalizing value with
  | zero => rfl
  | succ width ih => simp [bigEndian, ih]

theorem ofBigEndian_concat (bytes : Bytes) (byte : UInt8) :
    ofBigEndian (bytes ++ [byte]) = ofBigEndian bytes * 256 + byte.toNat := by
  simp [ofBigEndian, List.foldl_append]

/-- Reading back the digits of a value gives the value, cut to the width. -/
theorem ofBigEndian_bigEndian (width value : ℕ) :
    ofBigEndian (bigEndian width value) = value % 256 ^ width := by
  induction width generalizing value with
  | zero => simp [bigEndian, ofBigEndian, Nat.mod_one]
  | succ width ih =>
    have lowest : (UInt8.ofNat value).toNat = value % 256 := UInt8.toNat_ofNat'
    rw [bigEndian, ofBigEndian_concat, ih, lowest, pow_succ', Nat.mod_mul]
    ring

/-- `abi.encode` of one 32-byte value. -/
def word (value : Uint256) : Bytes := bigEndian 32 value.toNat

/-- The 32-byte value in a slot of ABI-encoded data. -/
def wordAt (data : Bytes) (slot : ℕ) : Uint256 :=
  BitVec.ofNat 256 (ofBigEndian ((data.drop (32 * slot)).take 32))

@[simp] theorem length_word (value : Uint256) : (word value).length = 32 :=
  length_bigEndian 32 _

theorem ofBigEndian_word (value : Uint256) : ofBigEndian (word value) = value.toNat := by
  have bound : value.toNat < 256 ^ 32 := lt_of_lt_of_le value.isLt (by norm_num)
  rw [word, ofBigEndian_bigEndian, Nat.mod_eq_of_lt bound]

theorem word_injective : Function.Injective word := by
  intro first second same
  apply BitVec.eq_of_toNat_eq
  rw [← ofBigEndian_word first, ← ofBigEndian_word second, same]

/-- An address widened to a full word, as `abi.encode` does. -/
def addressWord (account : Address) : Uint256 := account.bits.setWidth 256

theorem addressWord_injective : Function.Injective addressWord := by
  intro first second same
  have values := congrArg BitVec.toNat same
  simp only [addressWord, BitVec.toNat_setWidth] at values
  rw [Nat.mod_eq_of_lt (by omega), Nat.mod_eq_of_lt (by omega)] at values
  exact Address.bits_injective (BitVec.eq_of_toNat_eq values)

/-- A `uint64` widened to a full word. -/
def uint64Word (value : Uint64) : Uint256 := value.setWidth 256

theorem uint64Word_injective : Function.Injective uint64Word := by
  intro first second same
  have values := congrArg BitVec.toNat same
  simp only [uint64Word, BitVec.toNat_setWidth] at values
  rw [Nat.mod_eq_of_lt (by omega), Nat.mod_eq_of_lt (by omega)] at values
  exact BitVec.eq_of_toNat_eq values

/-- Every byte string is the digits of the number it reads as. -/
theorem bigEndian_ofBigEndian (bytes : Bytes) :
    bigEndian bytes.length (ofBigEndian bytes) = bytes := by
  induction bytes using List.reverseRecOn with
  | nil => rfl
  | append_singleton bytes byte ih =>
    have bound := byte.toNat_lt
    have high : (ofBigEndian bytes * 256 + byte.toNat) / 256 = ofBigEndian bytes := by omega
    have low : UInt8.ofNat (ofBigEndian bytes * 256 + byte.toNat) = byte := by
      apply UInt8.toNat_inj.mp
      rw [UInt8.toNat_ofNat']
      omega
    rw [List.length_append, List.length_singleton, bigEndian, ofBigEndian_concat, high, low, ih]

theorem ofBigEndian_lt (bytes : Bytes) : ofBigEndian bytes < 256 ^ bytes.length := by
  induction bytes using List.reverseRecOn with
  | nil => simp [ofBigEndian]
  | append_singleton bytes byte ih =>
    have bound := byte.toNat_lt
    rw [ofBigEndian_concat, List.length_append, List.length_singleton, pow_succ]
    omega

/-- A slot of the data, encoded again, is the slot. -/
theorem word_wordAt {data : Bytes} {slot : ℕ} (inside : 32 * slot + 32 ≤ data.length) :
    word (wordAt data slot) = (data.drop (32 * slot)).take 32 := by
  have size : ((data.drop (32 * slot)).take 32).length = 32 := by
    rw [List.length_take, List.length_drop]
    omega
  have bound := ofBigEndian_lt ((data.drop (32 * slot)).take 32)
  have digits := bigEndian_ofBigEndian ((data.drop (32 * slot)).take 32)
  rw [size] at bound digits
  rw [word, wordAt, BitVec.toNat_ofNat, Nat.mod_eq_of_lt (lt_of_lt_of_le bound (by norm_num)), digits]

/-- A word in the first slot is read back. -/
theorem wordAt_append (value : Uint256) (rest : Bytes) : wordAt (word value ++ rest) 0 = value := by
  have whole : (word value ++ rest).take 32 = word value := List.take_left' (length_word value)
  simp [wordAt, whole, ofBigEndian_word]

/-- A word in front moves every slot by one. -/
theorem wordAt_append_succ (value : Uint256) (rest : Bytes) (slot : ℕ) :
    wordAt (word value ++ rest) (slot + 1) = wordAt rest slot := by
  have shifted : (word value ++ rest).drop (32 * (slot + 1)) = rest.drop (32 * slot) := by
    rw [List.drop_append, length_word, List.drop_eq_nil_of_le (by rw [length_word]; omega),
      List.nil_append]
    congr 1
  rw [wordAt, shifted, wordAt]

@[simp] theorem toNat_uint64Word (value : Uint64) : (uint64Word value).toNat = value.toNat := by
  have bound := value.isLt
  rw [uint64Word, BitVec.toNat_setWidth, Nat.mod_eq_of_lt (by omega)]

/-- A `uint64` fits the slot it was widened into. -/
theorem uint64Word_lt (value : Uint64) : (uint64Word value).toNat < uint64Modulus := by
  rw [toNat_uint64Word]
  exact value.isLt

theorem setWidth_uint64Word (value : Uint64) : (uint64Word value).setWidth 64 = value := by
  apply BitVec.eq_of_toNat_eq
  rw [BitVec.toNat_setWidth, toNat_uint64Word, Nat.mod_eq_of_lt value.isLt]

/-- And what fits is such a widening. -/
theorem uint64Word_setWidth {value : Uint256} (fits : value.toNat < uint64Modulus) :
    uint64Word (value.setWidth 64) = value := by
  apply BitVec.eq_of_toNat_eq
  rw [uint64Modulus] at fits
  rw [uint64Word, BitVec.toNat_setWidth, BitVec.toNat_setWidth, Nat.mod_eq_of_lt fits,
    Nat.mod_eq_of_lt (by omega)]

/-- A `bytes32` string literal: the characters, padded with zeros on the right. -/
def shortString (text : String) : Bytes32 :=
  BitVec.ofNat 256 (ofBigEndian (ascii text ++ List.replicate (32 - text.length) 0))

section Mappings
variable {α β γ : Type*} [DecidableEq α] [DecidableEq β]

/-- A write to a nested mapping. -/
def store (mapping : α → β → γ) (a : α) (b : β) (value : γ) : α → β → γ :=
  Function.update mapping a (Function.update (mapping a) b value)

theorem store_apply (mapping : α → β → γ) (a x : α) (b y : β) (value : γ) :
    store mapping a b value x y = if x = a ∧ y = b then value else mapping x y := by
  by_cases outer : x = a
  · subst outer
    by_cases inner : y = b <;> simp [store, inner]
  · simp [store, outer]

@[simp] theorem store_same (mapping : α → β → γ) (a : α) (b : β) (value : γ) :
    store mapping a b value a b = value := by
  simp [store]

theorem store_of_ne {mapping : α → β → γ} {a x : α} {b y : β} {value : γ}
    (elsewhere : ¬ (x = a ∧ y = b)) : store mapping a b value x y = mapping x y := by
  rw [store_apply, if_neg elsewhere]

end Mappings

/-! ## Outcomes of a call -/

/-- The errors of the token base contract. -/
inductive Erc20Error where
  | ERC20InsufficientBalance (sender : Address) (balance needed : ℕ)
  | ERC20InvalidSender (sender : Address)
  | ERC20InvalidReceiver (receiver : Address)
  | ERC20InsufficientAllowance (spender : Address) (allowance needed : ℕ)
  | ERC20InvalidApprover (approver : Address)
  | ERC20InvalidSpender (spender : Address)
  deriving DecidableEq, Repr

/-- Why a call reverted. `ε` is the program's own custom errors. -/
inductive Revert (ε : Type) where
  /-- A custom error of the program. -/
  | custom (error : ε)
  /-- `Panic(code)`: `0x11` checked arithmetic, `0x32` an index out of bounds. -/
  | panic (code : ℕ)
  /-- The ABI decoder refused its input, in the frame that was decoding. -/
  | undecodable
  /-- A callee's revert data, raised again by the caller. -/
  | bubbled (data : Bytes)
  | AccessControlUnauthorizedAccount (account : Address) (neededRole : Bytes32)
  | AccessControlBadConfirmation
  | erc20 (error : Erc20Error)
  deriving DecidableEq, Repr

abbrev Outcome (ε α : Type) := Except (Revert ε) α

instance instDecidableEqExcept {ε α : Type*} [DecidableEq ε] [DecidableEq α] :
    DecidableEq (Except ε α)
  | .ok first, .ok second => decidable_of_iff (first = second) (by simp)
  | .error first, .error second => decidable_of_iff (first = second) (by simp)
  | .ok _, .error _ => isFalse (by simp)
  | .error _, .ok _ => isFalse (by simp)

variable {ε α β : Type}

/-- `if (condition) revert error;` -/
def revertIf (condition : Prop) [Decidable condition] (error : Revert ε) : Outcome ε Unit :=
  if condition then .error error else .ok ()

/-- `if (condition) check();` -/
def checkIf (condition : Prop) [Decidable condition] (check : Outcome ε Unit) : Outcome ε Unit :=
  if condition then check else .ok ()

/-- A checked subtraction. -/
def checkedSub (a b : ℕ) : Outcome ε ℕ :=
  if a < b then .error (.panic 0x11) else .ok (a - b)

/-- A checked addition. -/
def checkedAdd (a b : ℕ) : Outcome ε ℕ :=
  if a + b < uint256Modulus then .ok (a + b) else .error (.panic 0x11)

/-- A checked `-value` of an `int256`. -/
def negate (value : Int256) : Outcome ε Int256 :=
  if value = BitVec.intMin 256 then .error (.panic 0x11) else .ok (-value)

/-- A bounds-checked read of a dynamic array. -/
def readAt (array : List α) (index : ℕ) : Outcome ε α :=
  match array[index]? with
  | some value => .ok value
  | none => .error (.panic 0x32)

/-- A bounds-checked write to a dynamic array. -/
def writeAt (array : List α) (index : ℕ) (value : α) : Outcome ε (List α) :=
  if index < array.length then .ok (array.set index value) else .error (.panic 0x32)

/-- `array.pop()`. -/
def popLast (array : List α) : Outcome ε (List α) :=
  if array.isEmpty then .error (.panic 0x31) else .ok array.dropLast

/-- The call reverts. -/
def Reverts (outcome : Outcome ε α) : Prop := ∃ error, outcome = .error error

theorem reverts_of_not_ok {outcome : Outcome ε α} (never : ∀ value, outcome ≠ .ok value) :
    Reverts outcome := by
  cases outcome with
  | error error => exact ⟨error, rfl⟩
  | ok value => exact absurd rfl (never value)

@[simp] theorem pure_outcome (value : α) : (pure value : Outcome ε α) = .ok value := rfl

@[simp] theorem bind_eq_ok {first : Outcome ε α} {rest : α → Outcome ε β} {result : β} :
    (first >>= rest) = .ok result ↔ ∃ value, first = .ok value ∧ rest value = .ok result := by
  cases first with
  | error error => simp [bind, Except.bind]
  | ok value => simp [bind, Except.bind]

@[simp] theorem ok_bind (value : α) (rest : α → Outcome ε β) :
    ((Except.ok value : Outcome ε α) >>= rest) = rest value := rfl

@[simp] theorem error_bind (error : Revert ε) (rest : α → Outcome ε β) :
    ((Except.error error : Outcome ε α) >>= rest) = .error error := rfl

@[simp] theorem revertIf_eq_ok {condition : Prop} [Decidable condition] {error : Revert ε}
    {result : Unit} : revertIf condition error = .ok result ↔ ¬ condition := by
  unfold revertIf
  split <;> simp [*]

@[simp] theorem checkIf_eq_ok {condition : Prop} [Decidable condition] {check : Outcome ε Unit}
    {result : Unit} : checkIf condition check = .ok result ↔ (condition → check = .ok ()) := by
  unfold checkIf
  split <;> simp [*]

theorem revertIf_true {condition : Prop} [Decidable condition] (error : Revert ε)
    (met : condition) : revertIf condition error = .error error := if_pos met

theorem revertIf_false {condition : Prop} [Decidable condition] (error : Revert ε)
    (unmet : ¬ condition) : revertIf condition error = .ok () := if_neg unmet

@[simp] theorem checkedSub_eq_ok {a b result : ℕ} :
    (checkedSub a b : Outcome ε ℕ) = .ok result ↔ b ≤ a ∧ result = a - b := by
  unfold checkedSub
  split
  · simp only [reduceCtorEq, false_iff, not_and]
    omega
  · simp only [Except.ok.injEq]
    omega

@[simp] theorem checkedAdd_eq_ok {a b result : ℕ} :
    (checkedAdd a b : Outcome ε ℕ) = .ok result ↔ a + b < uint256Modulus ∧ result = a + b := by
  unfold checkedAdd
  split
  · rename_i fits
    simp only [Except.ok.injEq, fits, true_and]
    exact eq_comm
  · rename_i overflow
    simp [overflow]

@[simp] theorem readAt_eq_ok {array : List α} {index : ℕ} {value : α} :
    (readAt array index : Outcome ε α) = .ok value ↔ array[index]? = some value := by
  unfold readAt
  split <;> simp [*]

/-- What a low-level call brings back, before any decoding. An address without
code answers every call with empty return data. -/
inductive CallReply where
  | returned (data : Bytes)
  | reverted (data : Bytes)
  deriving DecidableEq, Repr

def encodeBool (value : Bool) : Bytes := word (if value then 1 else 0)

/-- The ABI decoder for one `bool`: at least one word, and that word 0 or 1. -/
def decodeBool (data : Bytes) : Option Bool :=
  if data.length < 32 then none
  else if wordAt data 0 = 0 then some false
  else if wordAt data 0 = 1 then some true
  else none

theorem wordAt_zero_word (value : Uint256) : wordAt (word value) 0 = value := by
  have whole : (word value).take 32 = word value := List.take_of_length_le (by simp)
  simp [wordAt, whole, ofBigEndian_word]

@[simp] theorem decodeBool_encodeBool (value : Bool) : decodeBool (encodeBool value) = some value := by
  cases value <;> simp [decodeBool, encodeBool, wordAt_zero_word]

/-- A high-level call of a function returning `bool`, outside any `try`. -/
def callBool (reply : CallReply) : Outcome ε Bool :=
  match reply with
  | .reverted data => .error (.bubbled data)
  | .returned data =>
    match decodeBool data with
    | some value => .ok value
    | none => .error .undecodable

@[simp] theorem callBool_encoded (value : Bool) :
    (callBool (.returned (encodeBool value)) : Outcome ε Bool) = .ok value := by
  simp [callBool]

end PassportKit.Evm
