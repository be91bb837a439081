import Mathlib.Data.List.Basic
import Mathlib.Data.Nat.Digits.Defs
import Mathlib.Tactic.Ring

/-! Numbers written in lower-case hexadecimal at a fixed width: what the digits
say, that a number within the width can be read back, and what padding does. -/
namespace PassportKit.Hex

/-- The `width` low hexadecimal digits of a value, most significant first. -/
def digits : ℕ → ℕ → List Char
  | 0, _ => []
  | width + 1, value => digits width (value / 16) ++ [Nat.digitChar (value % 16)]

/-- What one digit, in either case, is worth. -/
def digitValue (digit : Char) : ℕ :=
  if digit.isDigit then digit.toNat - '0'.toNat else digit.toLower.toNat - 'a'.toNat + 10

/-- The number a text of digits stands for. -/
def value (text : List Char) : ℕ := text.foldl (fun total digit => total * 16 + digitValue digit) 0

@[simp] theorem length_digits (width number : ℕ) : (digits width number).length = width := by
  induction width generalizing number with
  | zero => rfl
  | succ width ih => simp [digits, ih]

theorem digitValue_digitChar {digit : ℕ} (small : digit < 16) :
    digitValue (Nat.digitChar digit) = digit := by
  have each : ∀ digit < 16, digitValue (Nat.digitChar digit) = digit := by decide
  exact each digit small

/-- **Round trip.** The digits of a number read as the number, cut to the width. -/
theorem value_digits (width number : ℕ) : value (digits width number) = number % 16 ^ width := by
  induction width generalizing number with
  | zero => simp [digits, value, Nat.mod_one]
  | succ width ih =>
    have last := digitValue_digitChar (Nat.mod_lt number (show 0 < 16 by decide))
    rw [digits, value, List.foldl_append, ← value, ih, List.foldl_cons, List.foldl_nil, last, pow_succ',
      Nat.mod_mul]
    ring

theorem digits_injective {width first second : ℕ} (firstFits : first < 16 ^ width)
    (secondFits : second < 16 ^ width) (same : digits width first = digits width second) :
    first = second := by
  have read := congrArg value same
  rwa [value_digits, value_digits, Nat.mod_eq_of_lt firstFits, Nat.mod_eq_of_lt secondFits] at read

theorem toLower_digitChar {digit : ℕ} (small : digit < 16) :
    (Nat.digitChar digit).toLower = Nat.digitChar digit := by
  have each : ∀ digit < 16, (Nat.digitChar digit).toLower = Nat.digitChar digit := by decide
  exact each digit small

/-- The digits are lower case already. -/
theorem toLower_digits (width number : ℕ) :
    (digits width number).map Char.toLower = digits width number := by
  induction width generalizing number with
  | zero => rfl
  | succ width ih =>
    rw [digits, List.map_append, ih, List.map_singleton,
      toLower_digitChar (Nat.mod_lt number (show 0 < 16 by decide))]

theorem mem_digits {width number : ℕ} {digit : Char} (member : digit ∈ digits width number) :
    ∃ small < 16, digit = Nat.digitChar small := by
  induction width generalizing number with
  | zero => cases member
  | succ width ih =>
    rcases List.mem_append.mp member with early | last
    · exact ih early
    · exact ⟨_, Nat.mod_lt number (by decide), List.mem_singleton.mp last⟩

theorem digits_zero (width : ℕ) : digits width 0 = List.replicate width '0' := by
  induction width with
  | zero => rfl
  | succ width ih =>
    rw [digits, Nat.zero_div, ih, List.replicate_succ']
    rfl

/-- **Padding.** A number that fits its width is only padded with zeros in a wider one. -/
theorem digits_add (more width : ℕ) {number : ℕ} (fits : number < 16 ^ width) :
    digits (more + width) number = List.replicate more '0' ++ digits width number := by
  induction width generalizing number with
  | zero =>
    obtain rfl : number = 0 := by simpa using fits
    rw [Nat.add_zero, digits_zero, digits, List.append_nil]
  | succ width ih =>
    have high : number / 16 < 16 ^ width := by
      rw [Nat.div_lt_iff_lt_mul (by decide), ← pow_succ]
      exact fits
    rw [← Nat.add_assoc, digits, ih high, digits, List.append_assoc]

end PassportKit.Hex
