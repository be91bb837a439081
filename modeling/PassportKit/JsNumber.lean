import PassportKit.Numeral
import Mathlib.Algebra.Order.Field.Power
import Mathlib.Data.Int.Log
import Mathlib.Data.List.MinMax
import Mathlib.Data.Nat.Digits.Lemmas
import Mathlib.Data.Rat.Floor
import Mathlib.Order.WithBot
import Mathlib.Tactic.FieldSimp
import Mathlib.Tactic.Linarith
import Mathlib.Tactic.Positivity
import Mathlib.Tactic.Ring

/-! Strings and numbers of ECMAScript. A string is a list of UTF-16 code units,
paired or not. A finite number is a rational that binary64 represents, with the
two zeros taken as one; `Number::toString` writes the shortest decimal that
rounds to it, and since that decimal can be read back, different numbers are
written differently. -/
namespace PassportKit.Js

/-- A string, by its code units. -/
abbrev JsString := List UInt16

/-- A string literal of the basic plane. -/
def text (literal : String) : JsString := literal.toList.map fun character => UInt16.ofNat character.toNat

/-- A test of every unit of a string. -/
theorem forall_units {P : UInt16 → Prop} [DecidablePred P] {s : JsString}
    (every : (s.all fun c => P c) = true) : ∀ c ∈ s, P c := by
  simpa using every

def digitUnit (digit : ℕ) : UInt16 := UInt16.ofNat (48 + digit)

/-- A natural number in decimal. -/
def decimalDigits (n : ℕ) : JsString :=
  if n = 0 then [48] else (Nat.digits 10 n).reverse.map digitUnit

/-- What a string of digits reads as. -/
def readDecimal (s : JsString) : ℕ := s.foldl (fun value c => value * 10 + (c.toNat - 48)) 0

def IsDigit (c : UInt16) : Prop := 48 ≤ c.toNat ∧ c.toNat ≤ 57

instance (c : UInt16) : Decidable (IsDigit c) := inferInstanceAs (Decidable (_ ∧ _))

theorem toNat_digitUnit {digit : ℕ} (small : digit < 10) : (digitUnit digit).toNat = 48 + digit := by
  rw [digitUnit, UInt16.toNat_ofNat']
  omega

/-- The decimal digits as code units. -/
def decimalFigures : Numeral.Figures UInt16 :=
  .decimal digitUnit (fun c => c.toNat - 48) fun small => by rw [toNat_digitUnit small, Nat.add_sub_cancel_left]

theorem readDecimal_append (s t : JsString) :
    readDecimal (s ++ t) = readDecimal s * 10 ^ t.length + readDecimal t :=
  decimalFigures.value_append s t

theorem readDecimal_zeros (count : ℕ) : readDecimal (List.replicate count 48) = 0 :=
  decimalFigures.value_zeros count

/-- **Round trip** of a natural number. -/
theorem readDecimal_decimalDigits (n : ℕ) : readDecimal (decimalDigits n) = n :=
  decimalFigures.value_numeral n

theorem decimalDigits_ne_nil (n : ℕ) : decimalDigits n ≠ [] :=
  decimalFigures.numeral_ne_nil n

theorem isDigit_of_mem_decimalDigits {n : ℕ} {c : UInt16} (member : c ∈ decimalDigits n) :
    IsDigit c := by
  obtain ⟨digit, small, rfl⟩ := decimalFigures.isFigure_of_mem_numeral member
  have small : digit < 10 := small
  rw [IsDigit, show decimalFigures.figure digit = digitUnit digit from rfl, toNat_digitUnit small]
  omega

theorem decimalDigits_injective : Function.Injective decimalDigits :=
  decimalFigures.numeral_injective

/-- Round to the nearest integer, to the even one from halfway. -/
def roundHalfEven (q : ℚ) : ℤ :=
  let low := ⌊q⌋
  if q - low < 1 / 2 then low else if 1 / 2 < q - low then low + 1 else low + low % 2

/-- The exponent of the last binary place of a number around `v`: 53 significant
bits, and none below the least subnormal. -/
def lastPlace (v : ℚ) : ℤ := max (Int.log 2 v - 52) (-1074)

/-- The Number value for a nonnegative real, unless it overflows. -/
def toDouble (v : ℚ) : Option ℚ :=
  let rounded : ℚ := roundHalfEven (v / 2 ^ lastPlace v) * 2 ^ lastPlace v
  if rounded < 2 ^ 1024 then some rounded else none

/-- A finite Number, by its mathematical value. -/
structure Double where
  value : ℚ
  representable : toDouble |value| = some |value|

theorem Double.ext {x y : Double} (same : x.value = y.value) : x = y := by
  obtain ⟨value, representable⟩ := x
  obtain ⟨other, representable'⟩ := y
  cases same
  rfl

/-- `significand * 10 ^ exponent` -/
structure Decimal where
  significand : ℕ
  exponent : ℤ
  deriving DecidableEq

def Decimal.value (d : Decimal) : ℚ := d.significand * 10 ^ d.exponent

/-- The decimals of exactly `k` digits next to `x` that round to it. -/
def candidates (x : ℚ) (k : ℕ) : List Decimal :=
  ([Int.log 10 x + 1, Int.log 10 x + 2].flatMap fun n : ℤ =>
    let s := ⌊x / 10 ^ (n - k)⌋₊
    [⟨s, n - k⟩, ⟨s + 1, n - k⟩]).filter fun d =>
      10 ^ (k - 1) ≤ d.significand ∧ d.significand < 10 ^ k ∧ toDouble d.value = some x

/-- All the digits of `x`. -/
def exactDecimal (x : ℚ) : Decimal :=
  let exponent := min (lastPlace x) 0
  ⟨⌊x / 10 ^ exponent⌋₊, exponent⟩

/-- The closest to `x` among the shortest decimals that round to it; seventeen
digits always suffice. -/
def shortest (x : ℚ) : Decimal :=
  ((List.range 17).findSome? fun i =>
    (candidates x (i + 1)).argmin fun d => |d.value - x|).getD (exactDecimal x)

/-- Steps 6 to 12: positional notation for the moderate exponents, and
scientific notation for the others. -/
def Decimal.render (d : Decimal) : JsString :=
  let digits := decimalDigits d.significand
  let k := digits.length
  let n : ℤ := k + d.exponent
  if k ≤ n ∧ n ≤ 21 then digits ++ List.replicate (n - k).toNat 48
  else if 0 < n ∧ n ≤ 21 then digits.take n.toNat ++ text "." ++ digits.drop n.toNat
  else if -6 < n ∧ n ≤ 0 then text "0." ++ List.replicate (-n).toNat 48 ++ digits
  else
    let power := text "e" ++ text (if 0 ≤ n - 1 then "+" else "-") ++ decimalDigits (n - 1).natAbs
    if k = 1 then digits ++ power else digits.take 1 ++ text "." ++ digits.drop 1 ++ power

def Double.toString (x : Double) : JsString :=
  if x.value = 0 then text "0"
  else if x.value < 0 then text "-" ++ (shortest |x.value|).render
  else (shortest |x.value|).render

/-- The sum of two nonnegative Numbers, which overflows to infinity. -/
def plus (x y : WithTop ℚ) : WithTop ℚ :=
  (x + y).recTopCoe ⊤ fun value => (toDouble value).elim ⊤ fun sum => sum

/-- `String(x)` of a nonnegative Number. -/
def numberText (x : WithTop ℚ) : JsString :=
  x.recTopCoe (text "Infinity") fun value => if value = 0 then text "0" else (shortest value).render

/-- `x.toFixed(2)` of a nonnegative Number: the nearest hundredth, the larger of two. -/
def toFixed2 (x : WithTop ℚ) : JsString :=
  x.recTopCoe (text "Infinity") fun value =>
    if 10 ^ 21 ≤ value then numberText value
    else
      let n := ⌊value * 100 + 1 / 2⌋₊
      decimalDigits (n / 100) ++ text "." ++ [digitUnit (n % 100 / 10), digitUnit (n % 10)]

/-- A positive Number is a whole multiple of its last binary place. -/
theorem exists_multiple {x : ℚ} (positive : 0 < x) (representable : toDouble x = some x) :
    ∃ m : ℕ, x = m * 2 ^ lastPlace x := by
  unfold toDouble at representable
  dsimp only at representable
  split at representable
  · rename_i bound
    have same := Option.some.inj representable
    have place : (0 : ℚ) < 2 ^ lastPlace x := by positivity
    have nonneg : 0 ≤ roundHalfEven (x / 2 ^ lastPlace x) := by
      by_contra negative
      have below : (roundHalfEven (x / 2 ^ lastPlace x) : ℚ) < 0 := by
        exact_mod_cast not_le.mp negative
      have product := mul_neg_of_neg_of_pos below place
      rw [same] at product
      exact absurd product (not_lt.mpr positive.le)
    refine ⟨(roundHalfEven (x / 2 ^ lastPlace x)).toNat, ?_⟩
    rw [← Int.cast_natCast, Int.toNat_of_nonneg nonneg, same]
  · cases representable

/-- A binary fraction is a decimal one of the same length. -/
theorem exists_decimal (m : ℕ) (e : ℤ) : ∃ N : ℕ, (m * 2 ^ e : ℚ) / 10 ^ min e 0 = N := by
  rcases le_total e 0 with below | above
  · obtain ⟨j, rfl⟩ := Int.exists_eq_neg_ofNat below
    refine ⟨m * 5 ^ j, ?_⟩
    have ten : (10 : ℚ) ^ j = 2 ^ j * 5 ^ j := by rw [← mul_pow]; norm_num
    rw [min_eq_left below, zpow_neg, zpow_neg, zpow_natCast, zpow_natCast, ten]
    push_cast
    field_simp
  · obtain ⟨j, rfl⟩ := Int.eq_ofNat_of_zero_le above
    refine ⟨m * 2 ^ j, ?_⟩
    rw [min_eq_right above, zpow_zero, div_one, zpow_natCast]
    push_cast
    rfl

theorem exactDecimal_value {x : ℚ} (positive : 0 < x) (representable : toDouble x = some x) :
    (exactDecimal x).value = x := by
  obtain ⟨m, multiple⟩ := exists_multiple positive representable
  obtain ⟨N, quotient⟩ := exists_decimal m (lastPlace x)
  rw [← multiple] at quotient
  have scale : (10 : ℚ) ^ min (lastPlace x) 0 ≠ 0 := by positivity
  rw [exactDecimal, Decimal.value]
  dsimp only
  rw [quotient, Nat.floor_natCast, ← quotient, div_mul_cancel₀ _ scale]

/-- Whatever decimal is written, it rounds to the number. -/
theorem toDouble_shortest {x : ℚ} (positive : 0 < x) (representable : toDouble x = some x) :
    toDouble (shortest x).value = some x := by
  unfold shortest
  cases found : (List.range 17).findSome? fun i =>
      (candidates x (i + 1)).argmin fun d => |d.value - x| with
  | none => rw [Option.getD_none, exactDecimal_value positive representable, representable]
  | some d =>
    obtain ⟨i, -, best⟩ := List.exists_of_findSome?_eq_some found
    have member := List.argmin_mem best
    simp only [candidates, List.mem_filter, decide_eq_true_eq] at member
    exact member.2.2.2

/-! ## Reading a decimal back -/

/-- What follows a separator, or the empty string where there is none. -/
def readSigned : JsString → ℤ
  | 43 :: rest => readDecimal rest
  | 45 :: rest => -readDecimal rest
  | s => readDecimal s

/-- A decimal literal: digits, perhaps a point and more digits, perhaps a power
of ten. -/
def readLiteral (s : JsString) : ℚ :=
  let mantissa := s.takeWhile fun c => c ≠ 101
  let power := (s.dropWhile fun c => c ≠ 101).drop 1
  let whole := mantissa.takeWhile fun c => c ≠ 46
  let fraction := (mantissa.dropWhile fun c => c ≠ 46).drop 1
  readDecimal (whole ++ fraction) * 10 ^ (readSigned power - fraction.length)

/-- A string cut at the first separator. -/
theorem cut_at {c : UInt16} {first tail : JsString} (clean : c ∉ first)
    (separated : tail = [] ∨ ∃ rest, tail = c :: rest) :
    (first ++ tail).takeWhile (fun u => u ≠ c) = first ∧
      (first ++ tail).dropWhile (fun u => u ≠ c) = tail := by
  induction first with
  | nil =>
    rcases separated with rfl | ⟨rest, rfl⟩
    · exact ⟨rfl, rfl⟩
    · simp
  | cons u first ih =>
    have other : u ≠ c := fun same => clean (same ▸ List.mem_cons_self)
    obtain ⟨taken, dropped⟩ := ih fun member => clean (List.mem_cons_of_mem _ member)
    rw [List.cons_append, List.takeWhile_cons_of_pos (by simpa using other), taken,
      List.dropWhile_cons_of_pos (by simpa using other), dropped]
    exact ⟨rfl, rfl⟩

/-- A literal by its three parts. -/
theorem readLiteral_parts {whole point power : JsString} (digits : 46 ∉ whole)
    (mantissa : 101 ∉ whole ++ point) (pointed : point = [] ∨ ∃ fraction, point = 46 :: fraction)
    (powered : power = [] ∨ ∃ rest, power = 101 :: rest) :
    readLiteral (whole ++ point ++ power) =
      readDecimal (whole ++ point.drop 1) *
        10 ^ (readSigned (power.drop 1) - (point.drop 1).length) := by
  obtain ⟨front, back⟩ := cut_at mantissa powered
  obtain ⟨left, right⟩ := cut_at digits pointed
  simp only [readLiteral, front, back, left, right]

theorem IsDigit.ne_of {c separator : UInt16} (digit : IsDigit c) (other : ¬ IsDigit separator) :
    c ≠ separator := by
  rintro rfl
  exact other digit

theorem not_mem_of_digits {s : JsString} {separator : UInt16} (digits : ∀ c ∈ s, IsDigit c)
    (other : ¬ IsDigit separator) : separator ∉ s :=
  fun member => other (digits separator member)

theorem isDigit_of_mem_zeros {count : ℕ} {c : UInt16} (member : c ∈ List.replicate count 48) :
    IsDigit c := by
  obtain rfl := List.eq_of_mem_replicate member
  decide

theorem readSigned_power (e : ℤ) :
    readSigned (text (if 0 ≤ e then "+" else "-") ++ decimalDigits e.natAbs) = e := by
  split
  · have plus : text "+" ++ decimalDigits e.natAbs = 43 :: decimalDigits e.natAbs := rfl
    rw [plus, readSigned, readDecimal_decimalDigits]
    omega
  · have minus : text "-" ++ decimalDigits e.natAbs = 45 :: decimalDigits e.natAbs := rfl
    rw [minus, readSigned, readDecimal_decimalDigits]
    omega

section Notations
variable {whole fraction : JsString} (digits : ∀ c ∈ whole, IsDigit c)
  (more : ∀ c ∈ fraction, IsDigit c)

include digits in
theorem readLiteral_whole : readLiteral whole = readDecimal whole := by
  have unmarked : 101 ∉ whole := not_mem_of_digits digits (by decide)
  have parts := @readLiteral_parts whole [] [] (not_mem_of_digits digits (by decide))
    (by simpa using unmarked) (.inl rfl) (.inl rfl)
  simpa [readSigned, readDecimal] using parts

include digits more in
/-- With a point, and perhaps a power of ten behind it. -/
theorem readLiteral_point (power : JsString) (powered : power = [] ∨ ∃ rest, power = 101 :: rest) :
    readLiteral (whole ++ text "." ++ fraction ++ power) =
      readDecimal (whole ++ fraction) * 10 ^ (readSigned (power.drop 1) - fraction.length) := by
  have mantissa : 101 ∉ whole ++ (46 :: fraction) := by
    rw [List.mem_append, List.mem_cons, not_or, not_or]
    exact ⟨not_mem_of_digits digits (by decide), by decide, not_mem_of_digits more (by decide)⟩
  have parts := @readLiteral_parts whole (46 :: fraction) power (not_mem_of_digits digits (by decide))
    mantissa (.inr ⟨fraction, rfl⟩) powered
  have shape : whole ++ text "." ++ fraction = whole ++ (46 :: fraction) := List.append_assoc ..
  rw [shape, parts]
  rfl

include digits in
theorem readLiteral_power (rest : JsString) :
    readLiteral (whole ++ 101 :: rest) = readDecimal whole * 10 ^ readSigned rest := by
  have unmarked : 101 ∉ whole := not_mem_of_digits digits (by decide)
  have parts := @readLiteral_parts whole [] (101 :: rest) (not_mem_of_digits digits (by decide))
    (by simpa using unmarked) (.inl rfl) (.inr ⟨rest, rfl⟩)
  simpa using parts

end Notations

/-- **Round trip** of a decimal, in whichever notation it is written. -/
theorem readLiteral_render (d : Decimal) : readLiteral d.render = d.value := by
  obtain ⟨s, exponent⟩ := d
  have digits : ∀ c ∈ decimalDigits s, IsDigit c := fun c => isDigit_of_mem_decimalDigits
  have reads := readDecimal_decimalDigits s
  have some : 0 < (decimalDigits s).length := List.length_pos_of_ne_nil (decimalDigits_ne_nil s)
  unfold Decimal.render Decimal.value
  dsimp only
  generalize decimalDigits s = ds at *
  generalize place : (ds.length : ℤ) + exponent = n
  have front (count : ℕ) : ∀ c ∈ ds.take count, IsDigit c := fun c member =>
    digits c (List.mem_of_mem_take member)
  have back (count : ℕ) : ∀ c ∈ ds.drop count, IsDigit c := fun c member =>
    digits c (List.mem_of_mem_drop member)
  split
  · -- an integer, padded with zeros
    rename_i range
    obtain ⟨zeros, padded⟩ := Int.eq_ofNat_of_zero_le (sub_nonneg.mpr range.1)
    have power : exponent = zeros := by omega
    have clean : ∀ c ∈ ds ++ List.replicate zeros 48, IsDigit c := by
      intro c member
      rcases List.mem_append.mp member with inside | zero
      · exact digits c inside
      · exact isDigit_of_mem_zeros zero
    rw [padded, Int.toNat_natCast, readLiteral_whole clean, readDecimal_append, readDecimal_zeros, reads,
      List.length_replicate, power, zpow_natCast]
    push_cast
    ring
  split
  · -- the point falls among the digits
    rename_i range
    have rest : ((ds.drop n.toNat).length : ℤ) = -exponent := by
      rw [List.length_drop]
      omega
    have parts := readLiteral_point (front n.toNat) (back n.toNat) [] (.inl rfl)
    rw [List.append_nil, List.take_append_drop, reads, rest] at parts
    rw [parts]
    simp [readSigned, readDecimal]
  split
  · -- the point falls in front of the digits
    rename_i range
    have clean : ∀ c ∈ List.replicate (-n).toNat 48 ++ ds, IsDigit c := by
      intro c member
      rcases List.mem_append.mp member with zero | inside
      · exact isDigit_of_mem_zeros zero
      · exact digits c inside
    have zero : ∀ c ∈ [(48 : UInt16)], IsDigit c := by
      intro c member
      obtain rfl := List.mem_singleton.mp member
      decide
    have rest : (((List.replicate (-n).toNat (48 : UInt16) ++ ds).length : ℕ) : ℤ) = -exponent := by
      rw [List.length_append, List.length_replicate]
      omega
    have value : readDecimal ([48] ++ (List.replicate (-n).toNat 48 ++ ds)) = s := by
      rw [readDecimal_append, readDecimal_append, readDecimal_zeros, reads]
      simp [readDecimal]
    have parts := readLiteral_point zero clean [] (.inl rfl)
    rw [List.append_nil, value, rest] at parts
    have shape : text "0." ++ List.replicate (-n).toNat 48 ++ ds =
        [48] ++ text "." ++ (List.replicate (-n).toNat 48 ++ ds) := by
      rw [List.append_assoc]
      rfl
    rw [shape, parts]
    simp [readSigned, readDecimal]
  split
  · -- scientific, one digit
    rename_i single
    have power : n - 1 = exponent := by omega
    have parts := readLiteral_power digits
      (text (if 0 ≤ n - 1 then "+" else "-") ++ decimalDigits (n - 1).natAbs)
    rw [readSigned_power, reads, power] at parts
    rw [power]
    exact parts
  · -- scientific, more digits
    rename_i several
    have rest : n - 1 - ((ds.drop 1).length : ℤ) = exponent := by
      rw [List.length_drop]
      omega
    have parts := readLiteral_point (front 1) (back 1)
      (101 :: (text (if 0 ≤ n - 1 then "+" else "-") ++ decimalDigits (n - 1).natAbs)) (.inr ⟨_, rfl⟩)
    rw [List.take_append_drop, reads, List.drop_succ_cons, List.drop_zero, readSigned_power, rest] at parts
    exact parts

/-- What a written number reads as. -/
def Double.read : JsString → Option ℚ
  | 45 :: rest => (toDouble (readLiteral rest)).map fun value => -value
  | s => toDouble (readLiteral s)

/-- A written decimal starts with a digit. -/
theorem render_starts (d : Decimal) : ∃ c rest, d.render = c :: rest ∧ IsDigit c := by
  obtain ⟨c, more, shape⟩ := List.exists_cons_of_ne_nil (decimalDigits_ne_nil d.significand)
  have digit : IsDigit c := isDigit_of_mem_decimalDigits (n := d.significand) (by simp [shape])
  unfold Decimal.render
  dsimp only
  rw [shape]
  generalize (((c :: more).length : ℕ) : ℤ) + d.exponent = n
  split
  · exact ⟨c, _, rfl, digit⟩
  split
  · rename_i range
    obtain ⟨before, count⟩ : ∃ before, n.toNat = before + 1 := ⟨n.toNat - 1, by omega⟩
    rw [count]
    exact ⟨c, _, rfl, digit⟩
  split
  · exact ⟨48, _, rfl, by decide⟩
  split <;> exact ⟨c, _, rfl, digit⟩

/-- **Round trip** of a Number: the text it is written as reads back as it. -/
theorem read_toString (x : Double) : Double.read x.toString = some x.value := by
  have representable := x.representable
  unfold Double.toString
  by_cases zero : x.value = 0
  · rw [if_pos zero, zero]
    have nothing : readLiteral (text "0") = 0 := by
      have whole := @readLiteral_whole (text "0") fun c member => by
        obtain rfl := List.mem_singleton.mp member
        decide
      rw [whole]
      rfl
    have read : Double.read (text "0") = toDouble (readLiteral (text "0")) := rfl
    rw [read, nothing]
    rw [zero, abs_zero] at representable
    exact representable
  · rw [if_neg zero]
    have positive : 0 < |x.value| := abs_pos.mpr zero
    have back := toDouble_shortest positive representable
    rw [← readLiteral_render] at back
    by_cases negative : x.value < 0
    · have read : Double.read (text "-" ++ (shortest |x.value|).render) =
          (toDouble (readLiteral (shortest |x.value|).render)).map fun value => -value := rfl
      rw [if_pos negative, read, back, Option.map_some, abs_of_neg negative, neg_neg]
    · obtain ⟨c, rest, shape, digit⟩ := render_starts (shortest |x.value|)
      have plain : Double.read (shortest |x.value|).render =
          toDouble (readLiteral (shortest |x.value|).render) := by
        rw [shape]
        have other : c ≠ 45 := digit.ne_of (by decide)
        simp [Double.read, other]
      rw [if_neg negative, plain, back, abs_of_nonneg (not_lt.mp negative)]

theorem toString_injective : Function.Injective Double.toString := by
  intro x y same
  apply Double.ext
  have read := read_toString x
  rw [same, read_toString, Option.some.injEq] at read
  exact read.symm

/-- Every unit of a written number: digits, and the four marks. -/
def IsNumberUnit (c : UInt16) : Prop := IsDigit c ∨ c = 46 ∨ c = 101 ∨ c = 43 ∨ c = 45

instance (c : UInt16) : Decidable (IsNumberUnit c) := inferInstanceAs (Decidable (_ ∨ _))

theorem isNumberUnit_of_mem_render {d : Decimal} {c : UInt16} (member : c ∈ d.render) :
    IsNumberUnit c := by
  have digits : ∀ c ∈ decimalDigits d.significand, IsNumberUnit c := fun c inside =>
    .inl (isDigit_of_mem_decimalDigits inside)
  have front (count : ℕ) : ∀ c ∈ (decimalDigits d.significand).take count, IsNumberUnit c :=
    fun c inside => digits c (List.mem_of_mem_take inside)
  have back (count : ℕ) : ∀ c ∈ (decimalDigits d.significand).drop count, IsNumberUnit c :=
    fun c inside => digits c (List.mem_of_mem_drop inside)
  have zeros (count : ℕ) : ∀ c ∈ List.replicate count (48 : UInt16), IsNumberUnit c :=
    fun c inside => .inl (isDigit_of_mem_zeros inside)
  have marks : ∀ literal ∈ [".", "0.", "e", "+", "-"], ∀ c ∈ text literal, IsNumberUnit c := by
    intro literal listed
    have each : ∀ literal ∈ [".", "0.", "e", "+", "-"], ((text literal).all fun c => IsNumberUnit c) = true := by
      decide
    exact forall_units (each literal listed)
  have power (e : ℤ) : ∀ c ∈ text "e" ++ text (if 0 ≤ e then "+" else "-") ++ decimalDigits e.natAbs,
      IsNumberUnit c := by
    intro c inside
    rcases List.mem_append.mp inside with early | late
    · rcases List.mem_append.mp early with first | sign
      · exact marks "e" (by simp) c first
      · split at sign
        · exact marks "+" (by simp) c sign
        · exact marks "-" (by simp) c sign
    · exact .inl (isDigit_of_mem_decimalDigits late)
  unfold Decimal.render at member
  dsimp only at member
  split at member
  · exact (List.mem_append.mp member).elim (digits c) (zeros _ c)
  split at member
  · rcases List.mem_append.mp member with early | late
    · exact (List.mem_append.mp early).elim (front _ c) (marks "." (by simp) c)
    · exact back _ c late
  split at member
  · rcases List.mem_append.mp member with early | late
    · exact (List.mem_append.mp early).elim (marks "0." (by simp) c) (zeros _ c)
    · exact digits c late
  split at member
  · exact (List.mem_append.mp member).elim (digits c) (power _ c)
  · rcases List.mem_append.mp member with early | late
    · rcases List.mem_append.mp early with first | rest
      · exact (List.mem_append.mp first).elim (front _ c) (marks "." (by simp) c)
      · exact back _ c rest
    · exact power _ c late

theorem isNumberUnit_of_mem_toString {x : Double} {c : UInt16} (member : c ∈ x.toString) :
    IsNumberUnit c := by
  have zero : ∀ c ∈ text "0", IsNumberUnit c := forall_units (by decide)
  have minus : ∀ c ∈ text "-", IsNumberUnit c := forall_units (by decide)
  unfold Double.toString at member
  split at member
  · exact zero c member
  split at member
  · exact (List.mem_append.mp member).elim (minus c) isNumberUnit_of_mem_render
  · exact isNumberUnit_of_mem_render member

/-! ## Rounding keeps the order -/

theorem floor_le_roundHalfEven (q : ℚ) : ⌊q⌋ ≤ roundHalfEven q := by
  unfold roundHalfEven
  dsimp only
  split
  · exact le_rfl
  split <;> omega

theorem roundHalfEven_le_succ (q : ℚ) : roundHalfEven q ≤ ⌊q⌋ + 1 := by
  unfold roundHalfEven
  dsimp only
  split
  · omega
  split <;> omega

@[simp] theorem roundHalfEven_intCast (n : ℤ) : roundHalfEven n = n := by
  simp [roundHalfEven]

theorem roundHalfEven_mono {q r : ℚ} (le : q ≤ r) : roundHalfEven q ≤ roundHalfEven r := by
  rcases (Int.floor_mono le).lt_or_eq with below | same
  · calc roundHalfEven q ≤ ⌊q⌋ + 1 := roundHalfEven_le_succ q
      _ ≤ ⌊r⌋ := below
      _ ≤ roundHalfEven r := floor_le_roundHalfEven r
  · have step := roundHalfEven_le_succ q
    unfold roundHalfEven at step ⊢
    dsimp only at step ⊢
    rw [same] at step ⊢
    by_cases low : r - ⌊r⌋ < 1 / 2
    · rw [if_pos low, if_pos (by linarith)]
    rw [if_neg low]
    by_cases high : 1 / 2 < r - ⌊r⌋
    · rw [if_pos high]
      exact step
    rw [if_neg high]
    by_cases low' : q - ⌊r⌋ < 1 / 2
    · rw [if_pos low']
      omega
    · rw [if_neg low', if_neg (by linarith)]

/-- A nonnegative number, rounded to its last binary place. -/
def rounded (v : ℚ) : ℚ := roundHalfEven (v / 2 ^ lastPlace v) * 2 ^ lastPlace v

theorem lastPlace_mono {v w : ℚ} (positive : 0 < v) (le : v ≤ w) : lastPlace v ≤ lastPlace w := by
  have log := Int.log_mono_right (b := 2) positive le
  unfold lastPlace
  omega

theorem rounded_nonneg {v : ℚ} (nonneg : 0 ≤ v) : 0 ≤ rounded v := by
  have place : (0 : ℚ) < 2 ^ lastPlace v := by positivity
  have zero : roundHalfEven ((0 : ℤ) : ℚ) ≤ roundHalfEven (v / 2 ^ lastPlace v) :=
    roundHalfEven_mono (by push_cast; positivity)
  rw [roundHalfEven_intCast] at zero
  have cast : (0 : ℚ) ≤ roundHalfEven (v / 2 ^ lastPlace v) := by exact_mod_cast zero
  exact mul_nonneg cast place.le

/-- A power of two on the grid is not passed by what is rounded to the grid. -/
theorem rounded_le_power {v : ℚ} {p : ℤ} (fits : lastPlace v ≤ p) (le : v ≤ 2 ^ p) : rounded v ≤ 2 ^ p := by
  obtain ⟨k, rfl⟩ := Int.le.dest fits
  have place : (0 : ℚ) < 2 ^ lastPlace v := by positivity
  have power : (2 : ℚ) ^ (lastPlace v + k) = ((2 ^ k : ℤ) : ℚ) * 2 ^ lastPlace v := by
    rw [zpow_add₀ two_ne_zero, zpow_natCast]
    push_cast
    ring
  rw [power] at le ⊢
  have order := roundHalfEven_mono ((div_le_iff₀ place).mpr le)
  rw [roundHalfEven_intCast] at order
  exact mul_le_mul_of_nonneg_right (by exact_mod_cast order) place.le

theorem power_le_rounded {v : ℚ} {p : ℤ} (fits : lastPlace v ≤ p) (le : 2 ^ p ≤ v) : 2 ^ p ≤ rounded v := by
  obtain ⟨k, rfl⟩ := Int.le.dest fits
  have place : (0 : ℚ) < 2 ^ lastPlace v := by positivity
  have power : (2 : ℚ) ^ (lastPlace v + k) = ((2 ^ k : ℤ) : ℚ) * 2 ^ lastPlace v := by
    rw [zpow_add₀ two_ne_zero, zpow_natCast]
    push_cast
    ring
  rw [power] at le ⊢
  have order := roundHalfEven_mono ((le_div_iff₀ place).mpr le)
  rw [roundHalfEven_intCast] at order
  exact mul_le_mul_of_nonneg_right (by exact_mod_cast order) place.le

theorem rounded_mono {v w : ℚ} (nonneg : 0 ≤ v) (le : v ≤ w) : rounded v ≤ rounded w := by
  rcases nonneg.eq_or_lt with rfl | positive
  · have zero : rounded 0 = 0 := by simp [rounded, roundHalfEven]
    rw [zero]
    exact rounded_nonneg le
  rcases (lastPlace_mono positive le).eq_or_lt with same | coarser
  · unfold rounded
    rw [same]
    have place : (0 : ℚ) < 2 ^ lastPlace w := by positivity
    have order := roundHalfEven_mono (div_le_div_of_nonneg_right le place.le)
    exact mul_le_mul_of_nonneg_right (by exact_mod_cast order) place.le
  · -- Between the two lies a power of two, which neither passes.
    have log : Int.log 2 v < Int.log 2 w ∧ lastPlace w = Int.log 2 w - 52 ∧ lastPlace v ≤ Int.log 2 w := by
      unfold lastPlace at coarser ⊢
      omega
    obtain ⟨below, place, fits⟩ := log
    have above : (2 : ℚ) ^ Int.log 2 w ≤ w := Int.zpow_log_le_self one_lt_two (positive.trans_le le)
    have under : v < (2 : ℚ) ^ (Int.log 2 v + 1) := Int.lt_zpow_succ_log_self one_lt_two v
    have under' : v ≤ (2 : ℚ) ^ Int.log 2 w := under.le.trans (zpow_le_zpow_right₀ one_le_two below)
    calc rounded v ≤ 2 ^ Int.log 2 w := rounded_le_power fits under'
      _ ≤ rounded w := power_le_rounded (by omega) above

/-- What lies on the grid of its own last binary place is a Number. -/
theorem rounded_of_multiple {v : ℚ} (m : ℤ) (multiple : v = m * 2 ^ lastPlace v) : rounded v = v := by
  have place : (2 : ℚ) ^ lastPlace v ≠ 0 := by positivity
  have quotient : v / 2 ^ lastPlace v = m := by
    rw [div_eq_iff place]
    exact multiple
  rw [rounded, quotient, roundHalfEven_intCast]
  exact multiple.symm

/-- A coarser grid lies inside a finer one. -/
theorem exists_multiple_of_le {p q : ℤ} (le : q ≤ p) (m : ℤ) : ∃ n : ℤ, (m * 2 ^ p : ℚ) = n * 2 ^ q := by
  obtain ⟨k, rfl⟩ := Int.le.dest le
  refine ⟨m * 2 ^ k, ?_⟩
  rw [zpow_add₀ two_ne_zero, zpow_natCast]
  push_cast
  ring

/-- **Rounding once** is enough: what it gives is on its own grid. -/
theorem rounded_rounded {v : ℚ} (nonneg : 0 ≤ v) : rounded (rounded v) = rounded v := by
  rcases (rounded_nonneg nonneg).eq_or_lt with zero | positive
  · rw [← zero]
    simp [rounded, roundHalfEven]
  have above : 0 < v := by
    rcases nonneg.eq_or_lt with rfl | above
    · exact absurd positive (by simp [rounded, roundHalfEven])
    · exact above
  by_cases finer : lastPlace (rounded v) ≤ lastPlace v
  · obtain ⟨n, multiple⟩ := exists_multiple_of_le finer (roundHalfEven (v / 2 ^ lastPlace v))
    exact rounded_of_multiple n multiple
  · -- What is rounded up to the next power of two is that power.
    have low : (2 : ℚ) ^ Int.log 2 (rounded v) ≤ rounded v := Int.zpow_log_le_self one_lt_two positive
    have under : v ≤ (2 : ℚ) ^ max (Int.log 2 v + 1) (lastPlace v) :=
      (Int.lt_zpow_succ_log_self one_lt_two v).le.trans (zpow_le_zpow_right₀ one_le_two (le_max_left _ _))
    have high : rounded v ≤ (2 : ℚ) ^ max (Int.log 2 v + 1) (lastPlace v) :=
      rounded_le_power (le_max_right _ _) under
    have bound : Int.log 2 (rounded v) ≤ max (Int.log 2 v + 1) (lastPlace v) :=
      (zpow_le_zpow_iff_right₀ one_lt_two).mp (low.trans high)
    have logs : Int.log 2 (rounded v) = max (Int.log 2 v + 1) (lastPlace v) ∧
        lastPlace (rounded v) ≤ Int.log 2 (rounded v) := by
      unfold lastPlace at finer bound ⊢
      omega
    have power : rounded v = ((1 : ℤ) : ℚ) * 2 ^ Int.log 2 (rounded v) := by
      rw [Int.cast_one, one_mul]
      exact le_antisymm (logs.1 ▸ high) low
    obtain ⟨n, multiple⟩ := exists_multiple_of_le logs.2 1
    exact rounded_of_multiple n (power.trans multiple)

theorem toDouble_toDouble {v r : ℚ} (nonneg : 0 ≤ v) (rounds : toDouble v = some r) : toDouble r = some r := by
  have shape (w : ℚ) : toDouble w = if rounded w < 2 ^ 1024 then some (rounded w) else none := rfl
  rw [shape] at rounds ⊢
  split at rounds
  · rename_i fits
    cases rounds
    rw [rounded_rounded nonneg, if_pos fits]
  · cases rounds

theorem toDouble_nonneg {v r : ℚ} (nonneg : 0 ≤ v) (rounds : toDouble v = some r) : 0 ≤ r := by
  have shape : toDouble v = if rounded v < 2 ^ 1024 then some (rounded v) else none := rfl
  rw [shape] at rounds
  split at rounds
  · cases rounds
    exact rounded_nonneg nonneg
  · cases rounds

theorem readLiteral_nonneg (s : JsString) : 0 ≤ readLiteral s := by
  unfold readLiteral
  positivity

/-- What a text reads as is a Number. -/
theorem representable_of_read {s : JsString} {value : ℚ} (read : Double.read s = some value) :
    toDouble |value| = some |value| := by
  have plain {rest : JsString} {r : ℚ} (rounds : toDouble (readLiteral rest) = some r) : toDouble |r| = some |r| := by
    rw [abs_of_nonneg (toDouble_nonneg (readLiteral_nonneg rest) rounds)]
    exact toDouble_toDouble (readLiteral_nonneg rest) rounds
  unfold Double.read at read
  split at read
  · obtain ⟨r, rounds, rfl⟩ := Option.map_eq_some_iff.mp read
    rw [abs_neg]
    exact plain rounds
  · exact plain read

/-- `Number(n)`, which overflows to infinity. -/
def numberOf (n : ℕ) : WithTop ℚ := (toDouble n).elim ⊤ fun value => value

theorem numberOf_eq (n : ℕ) : numberOf n = if rounded n < 2 ^ 1024 then (rounded n : WithTop ℚ) else ⊤ := by
  have rounding : toDouble n = if rounded n < 2 ^ 1024 then some (rounded n) else none := rfl
  rw [numberOf, rounding]
  split <;> rfl

theorem numberOf_mono {m n : ℕ} (le : m ≤ n) : numberOf m ≤ numberOf n := by
  have order : rounded m ≤ rounded n := rounded_mono (by positivity) (by exact_mod_cast le)
  rw [numberOf_eq, numberOf_eq]
  by_cases finite : rounded n < 2 ^ 1024
  · rw [if_pos finite, if_pos (order.trans_lt finite)]
    exact WithTop.coe_le_coe.mpr order
  · rw [if_neg finite]
    exact le_top

end PassportKit.Js
