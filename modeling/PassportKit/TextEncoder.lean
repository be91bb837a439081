import PassportKit.Evm
import PassportKit.JsonText

/-! The bytes of a string. `TextEncoder` writes UTF-8 and puts U+FFFD where a
surrogate is unpaired, so strings without unpaired surrogates, which is what
`JSON.stringify` writes, have different bytes when they differ. -/
namespace PassportKit.Js
open Evm

/-- The Unicode scalar value of a code point. -/
def CodePoint.scalar : CodePoint → Char
  | .unit c => if IsSurrogate c then Char.ofNat 0xfffd else Char.ofNat c.toNat
  | .pair leading trailing _ =>
    Char.ofNat (0x10000 + (leading.toNat - 0xd800) * 0x400 + (trailing.toNat - 0xdc00))

/-- `TextEncoder.encode` -/
def utf8 (s : JsString) : Bytes := ((codePoints s).map CodePoint.scalar).flatMap String.utf8EncodeChar

/-- A string whose surrogates are all paired. -/
inductive WellFormed : JsString → Prop where
  | nil : WellFormed []
  | unit {c : UInt16} {rest : JsString} (plain : ¬ IsSurrogate c) (formed : WellFormed rest) :
      WellFormed (c :: rest)
  | pair {leading trailing : UInt16} {rest : JsString} (high : IsLeading leading) (low : IsTrailing trailing)
      (formed : WellFormed rest) : WellFormed (leading :: trailing :: rest)

theorem WellFormed.append {s t : JsString} (first : WellFormed s) (second : WellFormed t) :
    WellFormed (s ++ t) := by
  induction first with
  | nil => exact second
  | unit plain _ ih => exact .unit plain ih
  | pair high low _ ih => exact .pair high low ih

theorem not_surrogate_of_lt {c : UInt16} (small : c.toNat < 0xd800) : ¬ IsSurrogate c :=
  fun surrogate => absurd surrogate.1 (not_le.mpr small)

theorem wellFormed_of_small {s : JsString} (small : ∀ c ∈ s, c.toNat < 0xd800) : WellFormed s := by
  induction s with
  | nil => exact .nil
  | cons c rest ih =>
    exact .unit (not_surrogate_of_lt (small c List.mem_cons_self))
      (ih fun other member => small other (List.mem_cons_of_mem _ member))

theorem WellFormed.flatten {parts : List JsString} (formed : ∀ part ∈ parts, WellFormed part) :
    WellFormed parts.flatten := by
  induction parts with
  | nil => exact .nil
  | cons part rest ih =>
    exact (formed part List.mem_cons_self).append (ih fun other member => formed other (List.mem_cons_of_mem _ member))

/-- The code units of a scalar value. -/
def utf16 (scalar : Char) : JsString :=
  if scalar.toNat < 0x10000 then [UInt16.ofNat scalar.toNat]
  else [UInt16.ofNat (0xd800 + (scalar.toNat - 0x10000) / 0x400),
    UInt16.ofNat (0xdc00 + (scalar.toNat - 0x10000) % 0x400)]

theorem toNat_charOfNat {n : ℕ} (valid : n.isValidChar) : (Char.ofNat n).toNat = n := by
  rw [Char.ofNat, dif_pos valid]
  rfl

theorem utf16_unit {c : UInt16} (plain : ¬ IsSurrogate c) : utf16 (CodePoint.unit c).scalar = [c] := by
  have bound := c.toNat_lt
  have valid : c.toNat.isValidChar := by
    rw [IsSurrogate, not_and_or, not_le, not_le] at plain
    rcases plain with below | above
    · exact .inl below
    · exact .inr ⟨above, by omega⟩
  have scalar : (CodePoint.unit c).scalar = Char.ofNat c.toNat := if_neg plain
  rw [scalar, utf16, toNat_charOfNat valid, if_pos bound, UInt16.ofNat_toNat]

theorem utf16_pair {leading trailing : UInt16} (surrogates : IsLeading leading ∧ IsTrailing trailing) :
    utf16 (CodePoint.pair leading trailing surrogates).scalar = [leading, trailing] := by
  obtain ⟨⟨high, high'⟩, low, low'⟩ := surrogates
  have valid : (0x10000 + (leading.toNat - 0xd800) * 0x400 + (trailing.toNat - 0xdc00)).isValidChar :=
    .inr ⟨by omega, by omega⟩
  have first : 0xd800 + (0x10000 + (leading.toNat - 0xd800) * 0x400 + (trailing.toNat - 0xdc00) - 0x10000) / 0x400 =
      leading.toNat := by omega
  have second : 0xdc00 + (0x10000 + (leading.toNat - 0xd800) * 0x400 + (trailing.toNat - 0xdc00) - 0x10000) % 0x400 =
      trailing.toNat := by omega
  rw [CodePoint.scalar, utf16, toNat_charOfNat valid, if_neg (by omega), first, second, UInt16.ofNat_toNat,
    UInt16.ofNat_toNat]

theorem codePoints_unit {c : UInt16} (plain : ¬ IsSurrogate c) (rest : JsString) :
    codePoints (c :: rest) = .unit c :: codePoints rest := by
  cases rest with
  | nil => rfl
  | cons d rest =>
    have unpaired : ¬ (IsLeading c ∧ IsTrailing d) := by
      rintro ⟨⟨low, high⟩, -⟩
      exact plain ⟨low, high.trans (by decide)⟩
    rw [codePoints, dif_neg unpaired]

/-- **Round trip** of a string without unpaired surrogates. -/
theorem utf16_scalars {s : JsString} (formed : WellFormed s) :
    ((codePoints s).map CodePoint.scalar).flatMap utf16 = s := by
  induction formed with
  | nil => rfl
  | unit plain _ ih => rw [codePoints_unit plain, List.map_cons, List.flatMap_cons, utf16_unit plain, ih]; rfl
  | pair high low _ ih =>
    rw [codePoints, dif_pos ⟨high, low⟩, List.map_cons, List.flatMap_cons, utf16_pair, ih]
    rfl

theorem utf8_injective {s t : JsString} (first : WellFormed s) (second : WellFormed t)
    (same : utf8 s = utf8 t) : s = t := by
  have bytes : ((codePoints s).map CodePoint.scalar).utf8Encode =
      ((codePoints t).map CodePoint.scalar).utf8Encode := congrArg List.toByteArray same
  have strings : String.ofList ((codePoints s).map CodePoint.scalar) =
      String.ofList ((codePoints t).map CodePoint.scalar) := by
    rw [← String.toByteArray_inj, String.toByteArray_ofList, String.toByteArray_ofList, bytes]
  rw [← utf16_scalars first, String.ofList_injective strings, utf16_scalars second]

theorem wellFormed_toString (x : Double) : WellFormed x.toString := by
  apply wellFormed_of_small
  intro c member
  rcases isNumberUnit_of_mem_toString member with ⟨-, high⟩ | rfl | rfl | rfl | rfl
  · omega
  all_goals decide

theorem wellFormed_unicodeEscape (c : UInt16) : WellFormed (unicodeEscape c) := by
  have mark : ∀ u ∈ text "\\u", u.toNat < 0xd800 := forall_units (by decide)
  have each : ∀ small < 16, (charUnit (Nat.digitChar small)).toNat < 0xd800 := by decide +kernel
  apply (wellFormed_of_small mark).append
  apply wellFormed_of_small
  intro u member
  obtain ⟨digit, inside, rfl⟩ := List.mem_map.mp member
  obtain ⟨small, bound, rfl⟩ := Hex.mem_digits inside
  exact each small bound

theorem wellFormed_quoted (point : CodePoint) : WellFormed point.quoted := by
  cases point with
  | unit c =>
    cases escape : escapes.lookup c with
    | some letter =>
      have quoted : (CodePoint.unit c).quoted = [92, letter] := by rw [CodePoint.quoted, escape]
      have letters : (escapes.all fun entry => [92, entry.2].all fun u => u.toNat < 0xd800) = true := by decide
      rw [quoted]
      exact wellFormed_of_small (forall_units (List.all_eq_true.mp letters _ (mem_of_lookup escape)))
    | none =>
      by_cases coded : c.toNat < 32 ∨ IsSurrogate c
      · have quoted : (CodePoint.unit c).quoted = unicodeEscape c := by
          rw [CodePoint.quoted, escape]
          exact if_pos coded
        rw [quoted]
        exact wellFormed_unicodeEscape c
      · have quoted : (CodePoint.unit c).quoted = [c] := by
          rw [CodePoint.quoted, escape]
          exact if_neg coded
        rw [quoted]
        exact .unit (not_or.mp coded).2 .nil
  | pair leading trailing surrogates => exact .pair surrogates.1 surrogates.2 .nil

theorem wellFormed_quote (s : JsString) : WellFormed (quote s) := by
  have mark : WellFormed (text "\"") := wellFormed_of_small (forall_units (by decide))
  apply (mark.append _).append mark
  rw [List.flatMap_def]
  apply WellFormed.flatten
  intro part member
  obtain ⟨point, -, rfl⟩ := List.mem_map.mp member
  exact wellFormed_quoted point

theorem wellFormed_closed {α : Type} {Written : α → JsString → Prop} {items : List α}
    {texts : List JsString} {mark : UInt16} (plain : ¬ IsSurrogate mark)
    (written : List.Forall₂ Written items texts)
    (formed : ∀ item ∈ items, ∀ whole, Written item whole → WellFormed whole) :
    WellFormed (closed mark texts []) := by
  have comma : ¬ IsSurrogate 44 := by decide +kernel
  induction written with
  | nil => exact .unit plain .nil
  | cons here _ ih =>
    rw [closed_cons]
    apply (formed _ List.mem_cons_self _ here).append
    unfold behind
    split
    · exact .unit plain .nil
    · exact .unit comma (ih fun other member => formed other (List.mem_cons_of_mem _ member))

/-- **Well-formed `JSON.stringify`.** -/
theorem wellFormed_write {value : JsValue} {written : JsString} (here : value.write = some written) :
    WellFormed written := by
  induction value generalizing written with
  | null | infinite =>
    obtain rfl := Option.some.inj here
    exact wellFormed_of_small (forall_units (by decide))
  | bool value =>
    obtain rfl := Option.some.inj here
    cases value <;> exact wellFormed_of_small (forall_units (by decide))
  | number x =>
    obtain rfl := Option.some.inj here
    exact wellFormed_toString x
  | bigint n => cases here
  | string s =>
    obtain rfl := Option.some.inj here
    exact wellFormed_quote s
  | array elements ih =>
    obtain ⟨texts, inside, rfl⟩ := Option.map_eq_some_iff.mp here
    have whole := array_append texts []
    rw [List.append_nil] at whole
    rw [whole]
    refine .unit (by decide +kernel) (wellFormed_closed (by decide +kernel) (writeElements_eq_some.mp inside) ?_)
    exact fun element member whole => ih element member
  | object properties ih =>
    obtain ⟨texts, inside, rfl⟩ := Option.map_eq_some_iff.mp here
    have whole := object_append texts []
    rw [List.append_nil] at whole
    rw [whole]
    refine .unit (by decide +kernel)
      (wellFormed_closed (by decide +kernel) (writeProperties_eq_some.mp inside) ?_)
    rintro property member whole ⟨written, value, rfl⟩
    exact (wellFormed_quote property.1).append (.unit (by decide +kernel) (ih property member value))

end PassportKit.Js
