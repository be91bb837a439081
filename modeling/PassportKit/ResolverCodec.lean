import PassportKit.Numeral
import PassportKit.PassportResolver

/-! The key builder and the key parser of the resolver are one codec: a built
key has exactly the shape the parser insists on, and parses to the address it
was built from. -/
namespace PassportKit.ResolverText
open Evm

/-- A hex digit of an address, the most significant first. -/
def nibble (a : Address) (i : ℕ) : UInt8 := UInt8.ofNat (a.bits.toNat >>> (4 * (39 - i))) &&& 0x0f

theorem toNat_nibble (a : Address) (i : ℕ) :
    (nibble a i).toNat = a.bits.toNat / 16 ^ (39 - i) % 16 := by
  have shift : a.bits.toNat >>> (4 * (39 - i)) = a.bits.toNat / 16 ^ (39 - i) := by
    rw [Nat.shiftRight_eq_div_pow, pow_mul]
    norm_num
  have mask : (0x0f : UInt8).toNat = 2 ^ 4 - 1 := rfl
  rw [nibble, UInt8.toNat_and, UInt8.toNat_ofNat', shift, mask, Nat.and_two_pow_sub_one_eq_mod]
  omega

/-- Pairs of a loop over bytes are one loop over digits. -/
theorem flatMap_pairs (f : ℕ → UInt8) (n : ℕ) :
    (List.range n).flatMap (fun i => [f (2 * i), f (2 * i + 1)]) = (List.range (2 * n)).map f := by
  induction n with
  | zero => rfl
  | succ n ih =>
    have twice : 2 * (n + 1) = 2 * n + 1 + 1 := by omega
    rw [List.range_succ, List.flatMap_append, ih, twice, List.range_succ, List.range_succ]
    simp

/-- The forty digits `toHex` writes. -/
def hexDigits (a : Address) : Bytes := (List.range 40).map fun i => hexDigit (nibble a i)

theorem toHex_eq (a : Address) : toHex a = 48 :: 120 :: hexDigits a := by
  have digits : hexDigits a = (List.range 20).flatMap fun i =>
      [hexDigit (nibble a (2 * i)), hexDigit (nibble a (2 * i + 1))] := by
    rw [flatMap_pairs (fun i => hexDigit (nibble a i)) 20, hexDigits]
  have loop : hexDigits a = (List.range 20).flatMap fun i =>
      [hexDigit (UInt8.ofNat (a.bits.toNat >>> (8 * (19 - i) + 4)) &&& 0x0f),
        hexDigit (UInt8.ofNat (a.bits.toNat >>> (8 * (19 - i))) &&& 0x0f)] := by
    rw [digits]
    refine List.flatMap_congr fun i inside => ?_
    have bound : i < 20 := List.mem_range.mp inside
    have high : 8 * (19 - i) + 4 = 4 * (39 - 2 * i) := by omega
    have low : 8 * (19 - i) = 4 * (39 - (2 * i + 1)) := by omega
    rw [nibble, nibble, high, low]
  have mark : ascii "0x" = [48, 120] := rfl
  rw [loop, toHex, mark, List.cons_append, List.cons_append, List.nil_append]

@[simp] theorem length_hexDigits (a : Address) : (hexDigits a).length = 40 := by
  simp [hexDigits]

@[simp] theorem length_toHex (a : Address) : (toHex a).length = 42 := by
  simp [toHex_eq]

/-- Each of the sixteen digits reads back as its own value. -/
theorem hexVal_hexDigit {value : UInt8} (small : value.toNat < 16) :
    hexVal (hexDigit value) = (value.toNat, true) := by
  have each : ∀ n < 16, hexVal (hexDigit (UInt8.ofNat n)) = (n, true) := by decide
  have here := each value.toNat small
  rwa [UInt8.ofNat_toNat] at here

/-- A digit of the address, where it stands in a key. -/
theorem readAt_hexDigit {lead rest : Bytes} {a : Address} {i : ℕ} (inside : i < 40) :
    readAt (lead ++ (toHex a ++ rest)) (lead.length + 2 + i) =
      (.ok (hexDigit (nibble a i)) : Result UInt8) := by
  have position : lead.length + 2 + i - lead.length = i + 1 + 1 := by omega
  have found : (hexDigits a ++ rest)[i]? = some (hexDigit (nibble a i)) := by
    rw [List.getElem?_append_left (by simpa using inside)]
    simp [hexDigits, inside]
  rw [readAt_eq_ok, List.getElem?_append_right (by omega), position, toHex_eq]
  exact found

/-- The digits still to read complete the address. -/
theorem parseDigits_toHex {lead rest : Bytes} {a : Address} {left : ℕ} (inside : left ≤ 40) :
    parseDigits (lead ++ (toHex a ++ rest)) (lead.length + 2 + (40 - left)) (a.bits.toNat / 16 ^ left)
      left = .ok (a, true) := by
  induction left with
  | zero => simp [parseDigits]
  | succ left ih =>
    have position : 40 - (left + 1) + 1 = 40 - left := by omega
    have exponent : 39 - (40 - (left + 1)) = left := by omega
    have value : (nibble a (40 - (left + 1))).toNat = a.bits.toNat / 16 ^ left % 16 := by
      rw [toNat_nibble, exponent]
    have small : (nibble a (40 - (left + 1))).toNat < 16 := by
      rw [value]
      exact Nat.mod_lt _ (by decide)
    have carried : a.bits.toNat / 16 ^ (left + 1) * 16 + a.bits.toNat / 16 ^ left % 16 =
        a.bits.toNat / 16 ^ left := by
      rw [pow_succ, ← Nat.div_div_eq_div_mul]
      omega
    have fits : a.bits.toNat / 16 ^ left < 2 ^ 160 :=
      lt_of_le_of_lt (Nat.div_le_self ..) a.bits.isLt
    rw [parseDigits, readAt_hexDigit (by omega), ok_bind, hexVal_hexDigit small]
    simp only [Bool.true_eq_false, if_false, pushNibble, value, carried, if_pos fits, pure_outcome,
      ok_bind, Nat.add_assoc, position] at ih ⊢
    exact ih (by omega)

/-- **Round trip.** An address written into a key parses back. -/
theorem parseAddrAt_toHex {lead rest : Bytes} {a : Address}
    (short : lead.length + 42 < uint256Modulus) :
    parseAddrAt (lead ++ (toHex a ++ rest)) lead.length = .ok (a, true) := by
  have long : ¬ (lead ++ (toHex a ++ rest)).length < lead.length + 42 := by
    simp only [List.length_append, length_toHex]
    omega
  have zero : (readAt (lead ++ (toHex a ++ rest)) lead.length : Result UInt8) = .ok 48 := by
    rw [readAt_eq_ok, List.getElem?_append_right le_rfl, Nat.sub_self, toHex_eq]
    rfl
  have mark : (readAt (lead ++ (toHex a ++ rest)) (lead.length + 1) : Result UInt8) = .ok 120 := by
    rw [readAt_eq_ok, List.getElem?_append_right (by omega), Nat.add_sub_cancel_left, toHex_eq]
    rfl
  have start : a.bits.toNat / 16 ^ 40 = 0 := Nat.div_eq_of_lt (lt_of_lt_of_le a.bits.isLt (by norm_num))
  have digits := @parseDigits_toHex lead rest a 40 le_rfl
  rw [start, Nat.sub_self, Nat.add_zero] at digits
  simp only [parseAddrAt, checkedAdd, if_pos short, ok_bind, if_neg long, zero, mark]
  simpa using digits

theorem matchesFrom_append {lead rest : Bytes} {i left : ℕ} (inside : i + left ≤ lead.length) :
    matchesFrom (lead ++ rest) lead i left = .ok true := by
  induction left generalizing i with
  | zero => rfl
  | succ left ih =>
    have bound : i < lead.length := by omega
    have first : (readAt (lead ++ rest) i : Result UInt8) = .ok lead[i] := by
      rw [readAt_eq_ok, List.getElem?_append_left bound, List.getElem?_eq_getElem bound]
    have second : (readAt lead i : Result UInt8) = .ok lead[i] := by
      rw [readAt_eq_ok, List.getElem?_eq_getElem bound]
    rw [matchesFrom, first, ok_bind, second, ok_bind, if_neg (not_not.mpr rfl)]
    exact ih (by omega)

theorem startsWith_append (lead rest : Bytes) : startsWith (lead ++ rest) lead = .ok true := by
  have long : ¬ (lead ++ rest).length < lead.length := by simp
  rw [startsWith, if_neg long]
  exact matchesFrom_append (by omega)

/-- The decimal digits of a number in ASCII, most significant first. -/
def decimal (n : ℕ) : Bytes :=
  if n = 0 then [48] else (Nat.digits 10 n).reverse.map fun digit => UInt8.ofNat (48 + digit)

/-- The decimal digits in ASCII. -/
def asciiFigures : Numeral.Figures UInt8 :=
  .decimal (fun digit => UInt8.ofNat (48 + digit)) (fun c => c.toNat - 48) fun small => by
    rw [UInt8.toNat_ofNat']
    omega

theorem decimal_eq_numeral (n : ℕ) : decimal n = asciiFigures.numeral n := rfl

/-- The digits are written from the last back, in front of what stood there. -/
theorem fillDecimal_eq (n : ℕ) (out : Bytes) (room : digitCount n ≤ out.length) :
    fillDecimal n (digitCount n) out =
      .ok ((Nat.digits 10 n).reverse.map (fun digit => UInt8.ofNat (48 + digit)) ++
        out.drop (digitCount n)) := by
  induction n using Nat.strong_induction_on generalizing out with
  | _ n ih =>
    by_cases zero : n = 0
    · subst zero
      rw [fillDecimal, if_pos rfl, digitCount, if_pos rfl]
      rfl
    · have positive : 0 < n := Nat.pos_of_ne_zero zero
      have count : digitCount n = digitCount (n / 10) + 1 := by rw [digitCount, if_neg zero]
      rw [fillDecimal, if_neg zero, count, checkedSub, if_neg (by omega), ok_bind, Nat.add_sub_cancel,
        writeAt, if_pos (by omega), ok_bind,
        ih (n / 10) (Nat.div_lt_self positive (by decide)) _ (by rw [List.length_set]; omega),
        Nat.digits_def' (by decide) positive, List.drop_set, if_neg (lt_irrefl _), Nat.sub_self,
        List.drop_eq_getElem_cons (show digitCount (n / 10) < out.length by omega), List.set_cons_zero]
      simp

theorem toDecimal_eq (v : Uint256) : toDecimal v = .ok (decimal v.toNat) := by
  unfold toDecimal decimal
  by_cases zero : v = 0
  · subst zero
    rfl
  · have nonzero : v.toNat ≠ 0 := fun same => zero (BitVec.eq_of_toNat_eq same)
    rw [if_neg zero, if_neg nonzero, fillDecimal_eq _ _ (List.length_replicate ..).ge]
    simp

/-- A score always shows. -/
theorem toDecimal_nonempty (v : Uint256) : ∃ shown, toDecimal v = .ok shown ∧ shown ≠ [] :=
  ⟨_, toDecimal_eq v, asciiFigures.numeral_ne_nil v.toNat⟩

/-- Bytes as the figures of base 256. -/
def byteFigures : Numeral.Figures UInt8 where
  base := 256
  one_lt_base := by decide
  figure := UInt8.ofNat
  worth := UInt8.toNat
  worth_figure := UInt8.toNat_ofNat_of_lt'

/-- The bytes the fill loop writes, the last first. -/
theorem fill_eq_digits (n : ℕ) :
    ((List.range (byteCount n)).map fun i => UInt8.ofNat (n >>> (8 * i))) = (Nat.digits 256 n).map UInt8.ofNat := by
  induction n using Nat.strong_induction_on with
  | _ n ih =>
    by_cases zero : n = 0
    · subst zero
      rw [byteCount, if_pos rfl, Nat.digits_zero]
      rfl
    · have positive : 0 < n := Nat.pos_of_ne_zero zero
      have shift : n >>> 8 = n / 256 := Nat.shiftRight_eq_div_pow n 8
      have shifted (i : ℕ) : n >>> (8 * (i + 1)) = (n / 256) >>> (8 * i) := by
        rw [Nat.mul_succ, Nat.add_comm, Nat.shiftRight_add, shift]
      have lowest : UInt8.ofNat (n % 256) = UInt8.ofNat n := by
        apply UInt8.toNat_inj.mp
        rw [UInt8.toNat_ofNat', UInt8.toNat_ofNat']
        omega
      have rest := ih (n / 256) (Nat.div_lt_self positive (by decide))
      rw [byteCount, if_neg zero, shift, List.range_succ_eq_map, List.map_cons, List.map_map,
        Nat.digits_def' (by decide) positive, List.map_cons, ← rest, lowest]
      simp only [Function.comp_def, Nat.succ_eq_add_one, shifted, Nat.mul_zero, Nat.shiftRight_zero]

theorem minimalChainRef_eq (id : Uint256) : minimalChainRef id = byteFigures.numeral id.toNat := by
  by_cases zero : id = 0
  · subst zero
    rfl
  · have nonzero : id.toNat ≠ 0 := fun same => zero (BitVec.eq_of_toNat_eq same)
    rw [minimalChainRef, if_neg zero, fill_eq_digits, ← List.map_reverse]
    exact (byteFigures.numeral_of_ne_zero nonzero).symm

theorem length_minimalChainRef_le (id : Uint256) : (minimalChainRef id).length ≤ 32 := by
  rw [minimalChainRef_eq]
  exact byteFigures.length_numeral_le (by decide) (lt_of_lt_of_le id.isLt (by show _ ≤ 256 ^ 32; norm_num))

theorem length_bytesToHex (raw : Bytes) : (bytesToHex raw).length = 2 + 2 * raw.length := by
  have pairs : (raw.flatMap fun byte : UInt8 =>
      [hexDigit (byte >>> 4), hexDigit (byte &&& 0x0f)]).length = 2 * raw.length := by
    induction raw with
    | nil => rfl
    | cons byte rest ih =>
      rw [List.flatMap_cons, List.length_append, ih, List.length_cons]
      simp only [List.length_cons, List.length_nil]
      omega
  have mark : (ascii "0x").length = 2 := rfl
  rw [bytesToHex, List.length_append, pairs, mark]

end PassportKit.ResolverText
