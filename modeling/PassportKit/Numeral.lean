import Mathlib.Data.Nat.Digits.Lemmas
import Mathlib.Tactic.Ring

/-! Numerals: strings that stand for natural numbers in a base, over an alphabet
with a figure for each digit, the most significant figure first. A number has one
numeral that starts with no needless zero, and it can be read back. -/
namespace PassportKit.Numeral

/-- An alphabet with a figure for each digit of a base. -/
structure Figures (α : Type) where
  base : ℕ
  one_lt_base : 1 < base
  figure : ℕ → α
  worth : α → ℕ
  worth_figure : ∀ {digit : ℕ}, digit < base → worth (figure digit) = digit

namespace Figures

/-- The figures of base ten. -/
def decimal {α : Type} (figure : ℕ → α) (worth : α → ℕ)
    (worth_figure : ∀ {digit : ℕ}, digit < 10 → worth (figure digit) = digit) : Figures α where
  base := 10
  one_lt_base := by decide
  figure
  worth
  worth_figure

variable {α : Type} (figures : Figures α) {s : List α} {n : ℕ}

def IsFigure (c : α) : Prop := ∃ digit < figures.base, c = figures.figure digit

/-- The number that a string of figures stands for. -/
def value (s : List α) : ℕ := s.foldl (fun total c => total * figures.base + figures.worth c) 0

/-- The numeral of a number. -/
def numeral (n : ℕ) : List α :=
  if n = 0 then [figures.figure 0] else (Nat.digits figures.base n).reverse.map figures.figure

/-- Figures, at least one; the first is a zero only in the numeral of zero. -/
structure IsNumeral (s : List α) : Prop where
  nonempty : s ≠ []
  written : ∀ c ∈ s, figures.IsFigure c
  canonical : s.head? = some (figures.figure 0) → s = [figures.figure 0]

theorem base_pos : 0 < figures.base := lt_trans Nat.zero_lt_one figures.one_lt_base

theorem value_concat (s : List α) (c : α) :
    figures.value (s ++ [c]) = figures.value s * figures.base + figures.worth c := by
  rw [value, value, List.foldl_append, List.foldl_cons, List.foldl_nil]

theorem value_append (s t : List α) :
    figures.value (s ++ t) = figures.value s * figures.base ^ t.length + figures.value t := by
  induction t using List.reverseRecOn with
  | nil => simp [value]
  | append_singleton t c ih =>
    rw [← List.append_assoc, value_concat, ih, value_concat, List.length_append, List.length_singleton, pow_succ]
    ring

theorem value_figures {digits : List ℕ} (small : ∀ digit ∈ digits, digit < figures.base) :
    figures.value (digits.reverse.map figures.figure) = Nat.ofDigits figures.base digits := by
  induction digits with
  | nil => rfl
  | cons digit rest ih =>
    have here := figures.worth_figure (small digit List.mem_cons_self)
    rw [List.reverse_cons, List.map_append, List.map_singleton, value_concat,
      ih fun other member => small other (List.mem_cons_of_mem _ member), here, Nat.ofDigits_cons]
    ring

theorem value_zeros (count : ℕ) : figures.value (List.replicate count (figures.figure 0)) = 0 := by
  induction count with
  | zero => rfl
  | succ count ih =>
    rw [List.replicate_succ', value_concat, ih, figures.worth_figure figures.base_pos, Nat.zero_mul]

theorem numeral_zero : figures.numeral 0 = [figures.figure 0] := if_pos rfl

theorem numeral_of_ne_zero (nonzero : n ≠ 0) :
    figures.numeral n = (Nat.digits figures.base n).reverse.map figures.figure :=
  if_neg nonzero

/-- **Round trip.** The numeral of a number stands for it. -/
theorem value_numeral (n : ℕ) : figures.value (figures.numeral n) = n := by
  by_cases zero : n = 0
  · rw [zero, numeral_zero]
    exact figures.value_zeros 1
  · rw [numeral_of_ne_zero _ zero, value_figures _ fun digit member => Nat.digits_lt_base figures.one_lt_base member,
      Nat.ofDigits_digits]

theorem numeral_injective : Function.Injective figures.numeral := by
  intro first second same
  rw [← figures.value_numeral first, same, figures.value_numeral]

theorem numeral_ne_nil (n : ℕ) : figures.numeral n ≠ [] := by
  by_cases zero : n = 0
  · rw [zero, numeral_zero]
    exact List.cons_ne_nil _ _
  · rw [numeral_of_ne_zero _ zero]
    simpa [Nat.digits_eq_nil_iff_eq_zero] using zero

theorem isFigure_of_mem_numeral {c : α} (member : c ∈ figures.numeral n) : figures.IsFigure c := by
  by_cases zero : n = 0
  · rw [zero, numeral_zero] at member
    exact ⟨0, figures.base_pos, List.mem_singleton.mp member⟩
  · rw [numeral_of_ne_zero _ zero] at member
    obtain ⟨digit, inside, rfl⟩ := List.mem_map.mp member
    exact ⟨digit, Nat.digits_lt_base figures.one_lt_base (List.mem_reverse.mp inside), rfl⟩

/-- The first figure of a number other than zero is no zero. -/
theorem head?_numeral (nonzero : n ≠ 0) : (figures.numeral n).head? ≠ some (figures.figure 0) := by
  have digits : Nat.digits figures.base n ≠ [] := Nat.digits_ne_nil_iff_ne_zero.mpr nonzero
  have small := Nat.digits_lt_base figures.one_lt_base (List.getLast_mem digits)
  rw [numeral_of_ne_zero _ nonzero, List.head?_map, List.head?_reverse, List.getLast?_eq_getLast_of_ne_nil digits]
  intro same
  have worth := congrArg figures.worth (Option.some.inj same)
  rw [figures.worth_figure small, figures.worth_figure figures.base_pos] at worth
  exact Nat.getLast_digit_ne_zero figures.base nonzero worth

theorem isNumeral_numeral (n : ℕ) : figures.IsNumeral (figures.numeral n) where
  nonempty := figures.numeral_ne_nil n
  written _ := figures.isFigure_of_mem_numeral
  canonical leads := by
    by_cases zero : n = 0
    · rw [zero, numeral_zero]
    · exact absurd leads (figures.head?_numeral zero)

theorem length_numeral_le {width : ℕ} (wide : 0 < width) (fits : n < figures.base ^ width) :
    (figures.numeral n).length ≤ width := by
  by_cases zero : n = 0
  · rw [zero, numeral_zero]
    exact wide
  · rw [numeral_of_ne_zero _ zero, List.length_map, List.length_reverse,
      Nat.digits_length_le_iff figures.one_lt_base]
    exact fits

/-- A string of figures writes down some digits. -/
theorem exists_digits (written : ∀ c ∈ s, figures.IsFigure c) :
    ∃ digits : List ℕ, (∀ digit ∈ digits, digit < figures.base) ∧ digits.reverse.map figures.figure = s := by
  induction s with
  | nil => exact ⟨[], fun _ member => absurd member List.not_mem_nil, rfl⟩
  | cons c rest ih =>
    obtain ⟨first, fits, rfl⟩ := written c List.mem_cons_self
    obtain ⟨digits, small, rfl⟩ := ih fun other member => written other (List.mem_cons_of_mem _ member)
    refine ⟨digits ++ [first], fun digit member => ?_, by simp⟩
    rcases List.mem_append.mp member with lower | highest
    · exact small digit lower
    · rwa [List.mem_singleton.mp highest]

/-- **Uniqueness.** A numeral is the numeral of what it stands for. -/
theorem numeral_value (isNumeral : figures.IsNumeral s) : figures.numeral (figures.value s) = s := by
  by_cases leads : s.head? = some (figures.figure 0)
  · have zero : figures.value [figures.figure 0] = 0 := figures.value_zeros 1
    rw [isNumeral.canonical leads, zero, numeral_zero]
  · obtain ⟨digits, small, rfl⟩ := figures.exists_digits isNumeral.written
    have long : digits ≠ [] := by simpa using isNumeral.nonempty
    have highest : ∀ more : digits ≠ [], digits.getLast more ≠ 0 := by
      intro more zero
      rw [List.head?_map, List.head?_reverse, List.getLast?_eq_getLast_of_ne_nil more, zero] at leads
      exact leads rfl
    have read := Nat.digits_ofDigits figures.base figures.one_lt_base digits small highest
    have nonzero : Nat.ofDigits figures.base digits ≠ 0 := by
      rw [← Nat.digits_ne_nil_iff_ne_zero, read]
      exact long
    rw [value_figures _ small, numeral_of_ne_zero _ nonzero, read]

end Figures

end PassportKit.Numeral
