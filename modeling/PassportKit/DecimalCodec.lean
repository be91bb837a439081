import PassportKit.KeyGrammar

/-! Scores as the resolver writes them. The decimal of a score is the one string of
digits, without a needless zero in front, that stands for it, so that a reputation
record says which score is stored. -/
namespace PassportKit
open Evm Eip712 Runs

namespace ResolverText
variable {v : Uint256} {s shown : Bytes} {c : UInt8}

def IsDigit (c : UInt8) : Prop := 48 ≤ c ∧ c ≤ 57

/-- The number that a string of digits stands for in base ten. -/
def decimalValue (s : Bytes) : ℕ := s.foldl (fun total c => total * 10 + (c.toNat - 48)) 0

/-- Digits, at least one; the first is a zero only in `0` itself. -/
structure IsDecimal (s : Bytes) : Prop where
  nonempty : s ≠ []
  digits : ∀ c ∈ s, IsDigit c
  canonical : s.head? = some 48 → s = ascii "0"

theorem isDigit_iff : IsDigit c ↔ asciiFigures.IsFigure c := by
  constructor
  · rintro ⟨low, high⟩
    have low : 48 ≤ c.toNat := low
    have high : c.toNat ≤ 57 := high
    refine ⟨c.toNat - 48, show c.toNat - 48 < 10 by omega, ?_⟩
    show c = UInt8.ofNat (48 + (c.toNat - 48))
    rw [Nat.add_sub_cancel' low, UInt8.ofNat_toNat]
  · rintro ⟨digit, small, rfl⟩
    have each : ∀ digit < 10, 48 ≤ UInt8.ofNat (48 + digit) ∧ UInt8.ofNat (48 + digit) ≤ 57 := by decide
    exact each digit small

theorem isDecimal_iff : IsDecimal s ↔ asciiFigures.IsNumeral s :=
  ⟨fun isDecimal =>
      ⟨isDecimal.nonempty, fun c member => isDigit_iff.mp (isDecimal.digits c member), isDecimal.canonical⟩,
    fun isNumeral =>
      ⟨isNumeral.nonempty, fun c member => isDigit_iff.mpr (isNumeral.written c member), isNumeral.canonical⟩⟩

/-- **What is written.** A string is the decimal of a number exactly when it is a
decimal that stands for the number. -/
theorem toDecimal_eq_ok : toDecimal v = .ok shown ↔ IsDecimal shown ∧ decimalValue shown = v.toNat := by
  rw [toDecimal_eq, Except.ok.injEq, decimal_eq_numeral, isDecimal_iff]
  constructor
  · rintro rfl
    exact ⟨asciiFigures.isNumeral_numeral _, asciiFigures.value_numeral _⟩
  · rintro ⟨numeral, value⟩
    rw [← value]
    exact asciiFigures.numeral_value numeral

theorem toDecimal_injective : Function.Injective toDecimal := by
  intro first second same
  rw [toDecimal_eq, toDecimal_eq, Except.ok.injEq] at same
  exact BitVec.eq_of_toNat_eq (asciiFigures.numeral_injective same)

/-- The counting loop counts the digits that the filling loop writes. -/
theorem digitCount_eq (n : ℕ) : digitCount n = (Nat.digits 10 n).length := by
  induction n using Nat.strong_induction_on with
  | _ n ih =>
    rw [digitCount]
    split
    · rename_i zero
      rw [zero, Nat.digits_zero, List.length_nil]
    · rename_i nonzero
      have positive : 0 < n := Nat.pos_of_ne_zero nonzero
      rw [ih (n / 10) (Nat.div_lt_self positive (by decide)), Nat.digits_def' (by decide) positive, List.length_cons]

theorem length_decimal {n : ℕ} (nonzero : n ≠ 0) : (decimal n).length = digitCount n := by
  rw [decimal, if_neg nonzero, List.length_map, List.length_reverse, digitCount_eq]

theorem length_decimal_le (v : Uint256) : (decimal v.toNat).length ≤ 78 :=
  asciiFigures.length_numeral_le (by decide) (lt_of_lt_of_le v.isLt (by show _ ≤ 10 ^ 78; norm_num))

/-- What a reader takes from a record: nothing, or a number. -/
def readScore (shown : Bytes) : Option ℕ := if shown = [] then none else some (decimalValue shown)

theorem readScore_of_toDecimal (written : toDecimal v = .ok shown) : readScore shown = some v.toNat := by
  obtain ⟨isDecimal, value⟩ := toDecimal_eq_ok.mp written
  rw [readScore, if_neg isDecimal.nonempty, value]

end ResolverText

variable {Hash : Type} [Crypto Hash] [DecidableEq Hash]

open ResolverText

namespace PassportResolver
variable {self : PassportResolver} {env : Env} {node : Bytes32} {agent : Address} {shown : Bytes}

/-- A reputation record with something in it is the decimal of the score that the
registry answers with. -/
theorem score_of_reputation (free : CollisionFree Hash)
    (shows : self.text Hash env node (agentReputationKey agent) = .ok shown) (visible : shown ≠ []) :
    ∃ score, (env.scoresAt self.scoreRegistry).scoreOf agent = .ok score ∧ toDecimal score = .ok shown := by
  obtain ⟨rest, key⟩ : ∃ rest, agentReputationKey agent = 97 :: rest := ⟨_, rfl⟩
  have status : agentReputationKey agent ≠ ascii "compliance.status" := by
    rw [key]
    exact fun same => absurd (List.cons.inj same).1 (by decide)
  have identity : agentReputationKey agent ≠ ascii "compliance.identity" := by
    rw [key]
    exact fun same => absurd (List.cons.inj same).1 (by decide)
  rcases (text_eq_ok_of_agentKey free status identity visible).mp shows with registration | reputation
  · obtain ⟨other, same, -⟩ := (agentRegistrationValue_eq_ok visible).mp registration
    exact (registrationKey_apart same rfl).elim
  · obtain ⟨other, score, -, same, -, scored, rfl⟩ := (agentReputationValue_eq_ok visible).mp reputation
    obtain rfl : agent = other := keyOf_unique short_reputation rfl same
    exact ⟨score, scored, toDecimal_eq score⟩

end PassportResolver

namespace AgentNames
variable {names : AgentNames Hash} {node : Bytes32} {wallet : Address}

/-- In a deployment the record is read as the stored score of a wallet that leads to
the name's identity, and as nothing for any other. -/
theorem readScore_reputation (free : CollisionFree Hash) :
    ∃ shown, names.text node (PassportResolver.agentReputationKey wallet) = .ok shown ∧
      readScore shown = if names.resolver.scoreRegistry ≠ 0 ∧
          names.resolver.Leads node (names.stack.factory.identityOfWallet wallet) then
        some (names.scores.scoreOf wallet).toNat else none := by
  rw [text, PassportResolver.text_agentReputationKey free resolved scored]
  split
  · exact ⟨_, toDecimal_eq _, readScore_of_toDecimal (toDecimal_eq _)⟩
  · exact ⟨[], rfl, rfl⟩

/-- **Scores.** Every score is rendered, as the one decimal that stands for it: neither
loop leaves the buffer or counts below zero, and they run equally often. Different
scores are rendered differently, and a reputation record that shows anything shows the
score that is stored, whatever contracts stand behind it. -/
theorem scores_are_rendered_exactly (free : CollisionFree Hash) :
    (∀ v, ∃ shown, toDecimal v = .ok shown ∧ IsDecimal shown ∧ decimalValue shown = v.toNat ∧
      shown.length ≤ 78 ∧ (v ≠ 0 → shown.length = digitCount v.toNat)) ∧
    (∀ v w, toDecimal v = toDecimal w → v = w) ∧
    (∀ (self : PassportResolver) env node agent shown,
      self.text Hash env node (PassportResolver.agentReputationKey agent) = .ok shown → shown ≠ [] →
      ∃ score, (env.scoresAt self.scoreRegistry).scoreOf agent = .ok score ∧ IsDecimal shown ∧
        decimalValue shown = score.toNat) ∧
    ∀ (names : AgentNames Hash) node wallet, ∃ shown,
      names.text node (PassportResolver.agentReputationKey wallet) = .ok shown ∧
      readScore shown = if names.resolver.scoreRegistry ≠ 0 ∧
          names.resolver.Leads node (names.stack.factory.identityOfWallet wallet) then
        some (names.scores.scoreOf wallet).toNat else none := by
  refine ⟨fun v => ?_, fun v w same => toDecimal_injective same, ?_, fun names node wallet =>
    readScore_reputation free⟩
  · obtain ⟨isDecimal, value⟩ := toDecimal_eq_ok.mp (toDecimal_eq v)
    refine ⟨decimal v.toNat, toDecimal_eq v, isDecimal, value, length_decimal_le v, fun nonzero => ?_⟩
    exact length_decimal fun zero => nonzero (BitVec.eq_of_toNat_eq zero)
  · intro self env node agent shown shows visible
    obtain ⟨score, scored, written⟩ := PassportResolver.score_of_reputation free shows visible
    exact ⟨score, scored, toDecimal_eq_ok.mp written⟩

/-- The score of one is read back from the name of its agent. -/
theorem score_of_one_is_read_back :
    ∃ shown, (exec step freshNames scoring).text 500 (PassportResolver.agentReputationKey 12) = .ok shown ∧
      readScore shown = some 1 := by
  obtain ⟨registry, bound, leads, score⟩ := scoring_facts
  obtain ⟨-, -, -, reads⟩ := scores_are_rendered_exactly Symbolic.collisionFree
  obtain ⟨shown, shows, read⟩ := reads (exec step freshNames scoring) 500 12
  have leading : (exec step freshNames scoring).resolver.Leads 500
      ((exec step freshNames scoring).stack.factory.identityOfWallet 12) := by
    rw [leads]
    exact ⟨by rw [bound]; decide, bound.symm⟩
  rw [if_pos ⟨by rw [registry]; decide, leading⟩, score] at read
  exact ⟨shown, shows, read⟩

end AgentNames

end PassportKit
