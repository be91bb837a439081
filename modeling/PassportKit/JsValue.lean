import Mathlib.Data.List.DropRight
import PassportKit.JsNumber

/-! Values of ECMAScript without code in them: what `JSON.parse` answers, and
bigints. An object is its own properties in the order they are enumerated. Over
the values, the coercions a program applies to data it did not choose: to a
string, and to a bigint. -/
namespace PassportKit.Js

/-- `undefined` is no value here: it is where a property is missing. -/
inductive JsValue where
  | null
  | bool (value : Bool)
  | number (value : Double)
  | infinite (negative : Bool)
  | bigint (value : ℤ)
  | string (value : JsString)
  | array (elements : List JsValue)
  | object (properties : List (JsString × JsValue))

abbrev Properties := List (JsString × JsValue)

theorem mem_of_lookup {κ β : Type} [BEq κ] [LawfulBEq κ] {entries : List (κ × β)} {key : κ} {value : β}
    (found : entries.lookup key = some value) : (key, value) ∈ entries := by
  obtain ⟨before, after, shape, -⟩ := List.lookup_eq_some_iff.mp found
  rw [shape]
  exact List.mem_append_right _ List.mem_cons_self

namespace JsValue

/-- `value.key`, for a key that no prototype, array or string has. -/
def get (key : JsString) : JsValue → Option JsValue
  | .object properties => properties.lookup key
  | _ => none

/-- `Array.isArray(value) ? value[0] : null`, with `null` for a missing element. -/
def firstElement : JsValue → JsValue
  | .array (first :: _) => first
  | _ => .null

end JsValue

/-- `BigInt::toString` -/
def bigintText (n : ℤ) : JsString := if n < 0 then text "-" ++ decimalDigits n.natAbs else decimalDigits n.natAbs

/-- WhiteSpace and LineTerminator. -/
def IsSpace (c : UInt16) : Prop :=
  c.toNat ∈ [9, 10, 11, 12, 13, 32, 160, 0x1680, 0x2028, 0x2029, 0x202f, 0x205f, 0x3000, 0xfeff] ∨
    0x2000 ≤ c.toNat ∧ c.toNat ≤ 0x200a

instance (c : UInt16) : Decidable (IsSpace c) := inferInstanceAs (Decidable (_ ∨ _))

def trim (s : JsString) : JsString := (s.dropWhile fun c => IsSpace c).rdropWhile fun c => IsSpace c

/-- What a digit of some radix is worth, in either case. -/
def digitWorth (c : UInt16) : Option ℕ :=
  if 48 ≤ c.toNat ∧ c.toNat ≤ 57 then some (c.toNat - 48)
  else if 97 ≤ c.toNat ∧ c.toNat ≤ 122 then some (c.toNat - 87)
  else if 65 ≤ c.toNat ∧ c.toNat ≤ 90 then some (c.toNat - 55)
  else none

/-- The number that digits of a radix, any number of them, continue. -/
def readDigits (radix : ℕ) : ℕ → JsString → Option ℕ
  | total, [] => some total
  | total, c :: rest =>
    (digitWorth c).bind fun digit => if digit < radix then readDigits radix (total * radix + digit) rest else none

/-- At least one digit. -/
def readInteger (radix : ℕ) (s : JsString) : Option ℕ := if s = [] then none else readDigits radix 0 s

/-- `StringToBigInt` -/
def stringToBigInt (s : JsString) : Option ℤ :=
  match trim s with
  | [] => some 0
  | 43 :: rest => (readInteger 10 rest).map Int.ofNat
  | 45 :: rest => (readInteger 10 rest).map fun n => -Int.ofNat n
  | 48 :: mark :: rest =>
    if mark = 98 ∨ mark = 66 then (readInteger 2 rest).map Int.ofNat
    else if mark = 111 ∨ mark = 79 then (readInteger 8 rest).map Int.ofNat
    else if mark = 120 ∨ mark = 88 then (readInteger 16 rest).map Int.ofNat
    else (readInteger 10 (48 :: mark :: rest)).map Int.ofNat
  | digits => (readInteger 10 digits).map Int.ofNat

theorem IsDigit.worth {c : UInt16} (digit : IsDigit c) : digitWorth c = some (c.toNat - 48) := if_pos digit

theorem readDigits_ten {s : JsString} (digits : ∀ c ∈ s, IsDigit c) (total : ℕ) :
    readDigits 10 total s = some (total * 10 ^ s.length + readDecimal s) := by
  induction s generalizing total with
  | nil => simp [readDigits, readDecimal]
  | cons c rest ih =>
    have here := digits c List.mem_cons_self
    have small : c.toNat - 48 < 10 := by
      have range := here.2
      omega
    have split : readDecimal (c :: rest) = (c.toNat - 48) * 10 ^ rest.length + readDecimal rest := by
      have parts := readDecimal_append [c] rest
      simpa [readDecimal] using parts
    rw [readDigits, here.worth, Option.bind_some, if_pos small,
      ih fun other member => digits other (List.mem_cons_of_mem _ member), split, List.length_cons, pow_succ]
    congr 1
    ring

theorem IsDigit.not_space {c : UInt16} (digit : IsDigit c) : ¬ IsSpace c := by
  obtain ⟨low, high⟩ := digit
  rintro (listed | wide)
  · simp only [List.mem_cons, List.not_mem_nil, or_false] at listed
    omega
  · omega

theorem trim_eq_self {s : JsString} (plain : ∀ c ∈ s, ¬ IsSpace c) : trim s = s := by
  have front : s.dropWhile (fun c => IsSpace c) = s := by
    cases s with
    | nil => rfl
    | cons c rest =>
      have here := plain c List.mem_cons_self
      exact List.dropWhile_cons_of_neg (by simpa using here)
  rw [trim, front, List.rdropWhile_eq_self_iff]
  intro some
  simpa using plain _ (List.getLast_mem some)

/-- **Round trip** of a nonnegative bigint. -/
theorem stringToBigInt_decimalDigits (n : ℕ) : stringToBigInt (decimalDigits n) = some (n : ℤ) := by
  have digits : ∀ c ∈ decimalDigits n, IsDigit c := fun c => isDigit_of_mem_decimalDigits
  have number : readInteger 10 (decimalDigits n) = some n := by
    rw [readInteger, if_neg (decimalDigits_ne_nil n), readDigits_ten digits, zero_mul, zero_add,
      readDecimal_decimalDigits]
  unfold stringToBigInt
  rw [trim_eq_self fun c member => (digits c member).not_space]
  generalize decimalDigits n = s at *
  split
  · cases number
  · exact absurd (digits 43 List.mem_cons_self) (by decide)
  · exact absurd (digits 45 List.mem_cons_self) (by decide)
  · rename_i mark rest
    have digit := digits mark (by simp)
    have plain : ∀ letter : UInt16, ¬ IsDigit letter → mark ≠ letter := fun letter other => digit.ne_of other
    rw [if_neg (not_or.mpr ⟨plain 98 (by decide), plain 66 (by decide)⟩),
      if_neg (not_or.mpr ⟨plain 111 (by decide), plain 79 (by decide)⟩),
      if_neg (not_or.mpr ⟨plain 120 (by decide), plain 88 (by decide)⟩), number]
    rfl
  · rw [number]
    rfl

theorem bigintText_natCast (n : ℕ) : bigintText n = decimalDigits n := by
  rw [bigintText, if_neg (by omega), Int.natAbs_natCast]

/-- **Round trip** of any bigint. -/
theorem stringToBigInt_bigintText (n : ℤ) : stringToBigInt (bigintText n) = some n := by
  by_cases negative : n < 0
  · have digits : ∀ c ∈ decimalDigits n.natAbs, IsDigit c := fun c => isDigit_of_mem_decimalDigits
    have plain : ∀ c ∈ 45 :: decimalDigits n.natAbs, ¬ IsSpace c := by
      intro c member
      rcases List.mem_cons.mp member with rfl | digit
      · decide
      · exact (digits c digit).not_space
    have shape : bigintText n = 45 :: decimalDigits n.natAbs := if_pos negative
    unfold stringToBigInt
    rw [shape, trim_eq_self plain]
    simp only [readInteger, if_neg (decimalDigits_ne_nil _), readDigits_ten digits, readDecimal_decimalDigits,
      Option.map_some, Option.some.injEq, zero_mul, zero_add, Int.ofNat_eq_natCast]
    omega
  · obtain ⟨magnitude, rfl⟩ := Int.eq_ofNat_of_zero_le (not_lt.mp negative)
    rw [bigintText_natCast, stringToBigInt_decimalDigits]

theorem decimalDigits_head_ne {n : ℕ} {mark : UInt16} (other : ¬ IsDigit mark) (rest : JsString) :
    decimalDigits n ≠ mark :: rest := by
  intro shape
  exact other (isDigit_of_mem_decimalDigits (n := n) (by rw [shape]; exact List.mem_cons_self))

theorem bigintText_injective : Function.Injective bigintText := by
  intro first second same
  have minus (digits : JsString) : text "-" ++ digits = 45 :: digits := rfl
  have unsigned : ¬ IsDigit 45 := by decide
  unfold bigintText at same
  split at same <;> split at same
  · have digits := decimalDigits_injective (List.append_cancel_left same)
    omega
  · rw [minus] at same
    exact absurd same.symm (decimalDigits_head_ne unsigned _)
  · rw [minus] at same
    exact absurd same (decimalDigits_head_ne unsigned _)
  · have digits := decimalDigits_injective same
    omega

mutual

/-- `String(value)`. An object has no callable `toString` of its own, so a
property under that name makes it throw. -/
def JsValue.toText : JsValue → Option JsString
  | .null => some (text "null")
  | .bool value => some (text (if value then "true" else "false"))
  | .number value => some value.toString
  | .infinite negative => some (text (if negative then "-Infinity" else "Infinity"))
  | .bigint value => some (bigintText value)
  | .string value => some value
  | .array elements => (elementTexts elements).map fun texts => (text ",").intercalate texts
  | .object properties =>
    if (properties.lookup (text "toString")).isSome then none else some (text "[object Object]")
termination_by structural value => value

/-- `Array.prototype.join`: a null element is written as nothing. -/
def elementTexts : List JsValue → Option (List JsString)
  | [] => some []
  | .null :: rest => (elementTexts rest).map fun texts => [] :: texts
  | value :: rest => value.toText.bind fun first => (elementTexts rest).map fun texts => first :: texts
termination_by structural elements => elements

end

/-- `BigInt(value)`, nothing where it throws. -/
def toBigInt : Option JsValue → Option ℤ
  | none => none
  | some .null => none
  | some (.infinite _) => none
  | some (.bool value) => some (if value then 1 else 0)
  | some (.number value) => if value.value.den = 1 then some value.value.num else none
  | some (.bigint value) => some value
  | some value => value.toText.bind stringToBigInt

end PassportKit.Js
