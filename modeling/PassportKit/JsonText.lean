import PassportKit.Hex
import PassportKit.JsValue

/-! `JSON.stringify`, and the UTF-8 bytes of what it writes. The text of a value
can be told apart from whatever follows it, so equal texts are texts of equal
data; it has no unpaired surrogates, so equal bytes are bytes of equal texts. -/
namespace PassportKit.Js

def IsLeading (c : UInt16) : Prop := 0xd800 ≤ c.toNat ∧ c.toNat ≤ 0xdbff
def IsTrailing (c : UInt16) : Prop := 0xdc00 ≤ c.toNat ∧ c.toNat ≤ 0xdfff
def IsSurrogate (c : UInt16) : Prop := 0xd800 ≤ c.toNat ∧ c.toNat ≤ 0xdfff

instance (c : UInt16) : Decidable (IsLeading c) := inferInstanceAs (Decidable (_ ∧ _))
instance (c : UInt16) : Decidable (IsTrailing c) := inferInstanceAs (Decidable (_ ∧ _))
instance (c : UInt16) : Decidable (IsSurrogate c) := inferInstanceAs (Decidable (_ ∧ _))

/-- A code point by its one or two code units. -/
inductive CodePoint where
  | unit (c : UInt16)
  | pair (leading trailing : UInt16) (surrogates : IsLeading leading ∧ IsTrailing trailing)

def CodePoint.units : CodePoint → JsString
  | .unit c => [c]
  | .pair leading trailing _ => [leading, trailing]

/-- `StringToCodePoints`: an unpaired surrogate is a code point of its own. -/
def codePoints : JsString → List CodePoint
  | [] => []
  | [c] => [.unit c]
  | c :: d :: rest =>
    if surrogates : IsLeading c ∧ IsTrailing d then .pair c d surrogates :: codePoints rest
    else .unit c :: codePoints (d :: rest)

theorem flatMap_units_codePoints (s : JsString) : (codePoints s).flatMap CodePoint.units = s := by
  induction s using codePoints.induct with
  | case1 => rfl
  | case2 c => rfl
  | case3 c d rest surrogates ih =>
    rw [codePoints, dif_pos surrogates, List.flatMap_cons, ih]
    rfl
  | case4 c d rest unpaired ih =>
    rw [codePoints, dif_neg unpaired, List.flatMap_cons, ih]
    rfl

/-- Code units, and the letters that stand for them after a backslash. -/
def escapes : List (UInt16 × UInt16) :=
  [(8, 98), (9, 116), (10, 110), (12, 102), (13, 114), (34, 34), (92, 92)]

/-- A hexadecimal digit as a code unit. -/
def charUnit (digit : Char) : UInt16 := UInt16.ofNat digit.toNat

/-- `UnicodeEscape` -/
def unicodeEscape (c : UInt16) : JsString := text "\\u" ++ (Hex.digits 4 c.toNat).map charUnit

def CodePoint.quoted : CodePoint → JsString
  | .unit c =>
    match escapes.lookup c with
    | some letter => [92, letter]
    | none => if c.toNat < 32 ∨ IsSurrogate c then unicodeEscape c else [c]
  | .pair leading trailing _ => [leading, trailing]

/-- `QuoteJSONString` -/
def quote (s : JsString) : JsString := text "\"" ++ (codePoints s).flatMap CodePoint.quoted ++ text "\""

/-- What a letter after a backslash stands for. -/
def unescapeLetter (letter : UInt16) : UInt16 :=
  ([(98, 8), (116, 9), (110, 10), (102, 12), (114, 13)].lookup letter).getD letter

/-- The contents of a quoted string from its second unit on, and what follows it. -/
def readQuoted : JsString → JsString × JsString
  | [] => ([], [])
  | 34 :: rest => ([], rest)
  | 92 :: 117 :: a :: b :: c :: d :: rest =>
    let value := Hex.value ([a, b, c, d].map fun digit => Char.ofNat digit.toNat)
    (UInt16.ofNat value :: (readQuoted rest).1, (readQuoted rest).2)
  | 92 :: letter :: rest => (unescapeLetter letter :: (readQuoted rest).1, (readQuoted rest).2)
  | c :: rest => (c :: (readQuoted rest).1, (readQuoted rest).2)

theorem charUnit_digitChar {digit : ℕ} (small : digit < 16) :
    Char.ofNat (charUnit (Nat.digitChar digit)).toNat = Nat.digitChar digit := by
  have each : ∀ digit < 16, Char.ofNat (charUnit (Nat.digitChar digit)).toNat = Nat.digitChar digit := by
    decide
  exact each digit small

theorem map_charUnit_digits (width number : ℕ) :
    ((Hex.digits width number).map charUnit).map (fun digit => Char.ofNat digit.toNat) =
      Hex.digits width number := by
  induction width generalizing number with
  | zero => rfl
  | succ width ih =>
    rw [Hex.digits, List.map_append, List.map_append, ih, List.map_singleton, List.map_singleton,
      charUnit_digitChar (Nat.mod_lt number (show 0 < 16 by decide))]

theorem readQuoted_unicodeEscape (c : UInt16) (rest : JsString) :
    readQuoted (unicodeEscape c ++ rest) = (c :: (readQuoted rest).1, (readQuoted rest).2) := by
  have back := map_charUnit_digits 4 c.toNat
  have value := Hex.value_digits 4 c.toNat
  have small : c.toNat % 16 ^ 4 = c.toNat := Nat.mod_eq_of_lt c.toNat_lt
  obtain ⟨first, second, third, fourth, shape⟩ : ∃ first second third fourth,
      (Hex.digits 4 c.toNat).map charUnit = [first, second, third, fourth] := ⟨_, _, _, _, rfl⟩
  rw [shape] at back
  have string : unicodeEscape c ++ rest = 92 :: 117 :: first :: second :: third :: fourth :: rest := by
    rw [unicodeEscape, shape]
    rfl
  rw [string, readQuoted, back, value, small, UInt16.ofNat_toNat]

theorem readQuoted_plain {c : UInt16} (quotation : c ≠ 34) (backslash : c ≠ 92) (rest : JsString) :
    readQuoted (c :: rest) = (c :: (readQuoted rest).1, (readQuoted rest).2) := by
  rw [readQuoted]
  · rintro rfl
    exact quotation rfl
  · rintro _ _ _ _ _ rfl _
    exact backslash rfl
  · rintro _ _ rfl _
    exact backslash rfl

theorem readQuoted_escape {c letter : UInt16} (entry : (c, letter) ∈ escapes) (rest : JsString) :
    readQuoted (92 :: letter :: rest) = (c :: (readQuoted rest).1, (readQuoted rest).2) := by
  simp only [escapes, List.mem_cons, Prod.mk.injEq, List.not_mem_nil, or_false] at entry
  rcases entry with ⟨rfl, rfl⟩ | ⟨rfl, rfl⟩ | ⟨rfl, rfl⟩ | ⟨rfl, rfl⟩ | ⟨rfl, rfl⟩ |
    ⟨rfl, rfl⟩ | ⟨rfl, rfl⟩ <;>
    rfl

theorem readQuoted_quoted (point : CodePoint) (rest : JsString) :
    readQuoted (point.quoted ++ rest) = (point.units ++ (readQuoted rest).1, (readQuoted rest).2) := by
  cases point with
  | unit c =>
    cases escape : escapes.lookup c with
    | some letter =>
      have quoted : (CodePoint.unit c).quoted = [92, letter] := by rw [CodePoint.quoted, escape]
      rw [quoted]
      exact readQuoted_escape (mem_of_lookup escape) rest
    | none =>
      by_cases coded : c.toNat < 32 ∨ IsSurrogate c
      · have quoted : (CodePoint.unit c).quoted = unicodeEscape c := by
          rw [CodePoint.quoted, escape]
          exact if_pos coded
        rw [quoted, readQuoted_unicodeEscape]
        rfl
      · have quoted : (CodePoint.unit c).quoted = [c] := by
          rw [CodePoint.quoted, escape]
          exact if_neg coded
        rw [quoted]
        apply readQuoted_plain
        · rintro rfl
          cases escape
        · rintro rfl
          cases escape
  | pair leading trailing surrogates =>
    obtain ⟨high, low⟩ := surrogates
    have clear (c mark : UInt16) (above : 0xd800 ≤ c.toNat) (below : mark.toNat < 0xd800) : c ≠ mark := by
      rintro rfl
      omega
    have first := readQuoted_plain (clear leading 34 high.1 (by decide)) (clear leading 92 high.1 (by decide))
      (trailing :: rest)
    have trail : 0xd800 ≤ trailing.toNat := le_trans (by decide) low.1
    rw [readQuoted_plain (clear trailing 34 trail (by decide)) (clear trailing 92 trail (by decide))] at first
    exact first

theorem readQuoted_flatMap (points : List CodePoint) (rest : JsString) :
    readQuoted (points.flatMap CodePoint.quoted ++ text "\"" ++ rest) =
      (points.flatMap CodePoint.units, rest) := by
  induction points with
  | nil => rfl
  | cons point points ih =>
    rw [List.flatMap_cons, List.flatMap_cons, List.append_assoc, List.append_assoc, readQuoted_quoted,
      ← List.append_assoc, ih]

/-- **A quoted string** can be told apart from whatever follows it. -/
theorem quote_append_inj {s t rest rest' : JsString} (same : quote s ++ rest = quote t ++ rest') :
    s = t ∧ rest = rest' := by
  have shape (s rest : JsString) : quote s ++ rest =
      34 :: ((codePoints s).flatMap CodePoint.quoted ++ text "\"" ++ rest) := by
    rw [quote, List.append_assoc _ _ (text "\""), List.append_assoc]
    rfl
  rw [shape, shape] at same
  have read := congrArg readQuoted (List.cons.inj same).2
  rw [readQuoted_flatMap, readQuoted_flatMap, flatMap_units_codePoints, flatMap_units_codePoints] at read
  exact Prod.ext_iff.mp read

/-! ## `JSON.stringify` -/

mutual

/-- The value once a replacer has been through it that leaves arrays and objects
as they are. -/
def JsValue.replaced (replacer : JsValue → JsValue) : JsValue → JsValue
  | .array elements => .array (replacedElements replacer elements)
  | .object properties => .object (replacedProperties replacer properties)
  | .null => replacer .null
  | .bool value => replacer (.bool value)
  | .number value => replacer (.number value)
  | .infinite negative => replacer (.infinite negative)
  | .bigint value => replacer (.bigint value)
  | .string value => replacer (.string value)
termination_by structural value => value

def replacedElements (replacer : JsValue → JsValue) : List JsValue → List JsValue
  | [] => []
  | value :: rest => value.replaced replacer :: replacedElements replacer rest
termination_by structural elements => elements

def replacedProperty (replacer : JsValue → JsValue) : JsString × JsValue → JsString × JsValue
  | (key, value) => (key, value.replaced replacer)
termination_by structural property => property

def replacedProperties (replacer : JsValue → JsValue) :
    List (JsString × JsValue) → List (JsString × JsValue)
  | [] => []
  | property :: rest => replacedProperty replacer property :: replacedProperties replacer rest
termination_by structural properties => properties

end

mutual

/-- `SerializeJSONProperty`, nothing where it throws: a bigint has no text. -/
def JsValue.write : JsValue → Option JsString
  | .null => some (text "null")
  | .bool value => some (text (if value then "true" else "false"))
  | .number value => some value.toString
  | .infinite _ => some (text "null")
  | .bigint _ => none
  | .string value => some (quote value)
  | .array elements => (writeElements elements).map fun texts =>
      text "[" ++ (text ",").intercalate texts ++ text "]"
  | .object properties => (writeProperties properties).map fun texts =>
      text "\x7b" ++ (text ",").intercalate texts ++ text "\x7d"
termination_by structural value => value

def writeElements : List JsValue → Option (List JsString)
  | [] => some []
  | value :: rest => value.write.bind fun first => (writeElements rest).map fun texts => first :: texts
termination_by structural elements => elements

def writeProperty : JsString × JsValue → Option JsString
  | (key, value) => value.write.map fun written => quote key ++ text ":" ++ written
termination_by structural property => property

def writeProperties : List (JsString × JsValue) → Option (List JsString)
  | [] => some []
  | property :: rest =>
    (writeProperty property).bind fun first => (writeProperties rest).map fun texts => first :: texts
termination_by structural properties => properties

end

/-- `JSON.stringify(value, replacer)` -/
def stringify (replacer : JsValue → JsValue) (value : JsValue) : Option JsString :=
  (value.replaced replacer).write

/-- Induction over a value: an array by its elements, an object by its properties. -/
@[elab_as_elim, induction_eliminator]
theorem JsValue.induction {motive : JsValue → Prop} (null : motive .null)
    (bool : ∀ value, motive (.bool value)) (number : ∀ value, motive (.number value))
    (infinite : ∀ negative, motive (.infinite negative)) (bigint : ∀ value, motive (.bigint value))
    (string : ∀ value, motive (.string value))
    (array : ∀ elements, (∀ element ∈ elements, motive element) → motive (.array elements))
    (object : ∀ properties, (∀ property ∈ properties, motive property.2) → motive (.object properties))
    (value : JsValue) : motive value := by
  refine @JsValue.rec motive (fun elements => ∀ element ∈ elements, motive element)
    (fun properties => ∀ property ∈ properties, motive property.2) (fun property => motive property.2)
    null bool number infinite bigint string array object ?_ ?_ ?_ ?_ ?_ value
  · exact fun element member => absurd member List.not_mem_nil
  · exact fun element rest first others => List.forall_mem_cons.mpr ⟨first, others⟩
  · exact fun property member => absurd member List.not_mem_nil
  · exact fun property rest first others => List.forall_mem_cons.mpr ⟨first, others⟩
  · exact fun key value holds => holds

@[simp] theorem replacedElements_eq_map (replacer : JsValue → JsValue) (elements : List JsValue) :
    replacedElements replacer elements = elements.map (JsValue.replaced replacer) := by
  induction elements with
  | nil => rfl
  | cons value rest ih => rw [replacedElements, ih, List.map_cons]

@[simp] theorem replacedProperties_eq_map (replacer : JsValue → JsValue) (properties : Properties) :
    replacedProperties replacer properties =
      properties.map fun property => (property.1, property.2.replaced replacer) := by
  induction properties with
  | nil => rfl
  | cons property rest ih => rw [replacedProperties, ih, List.map_cons, replacedProperty]

/-- What a text of elements is made of. -/
theorem writeElements_eq_some {elements : List JsValue} {texts : List JsString} :
    writeElements elements = some texts ↔
      List.Forall₂ (fun value written => value.write = some written) elements texts := by
  induction elements generalizing texts with
  | nil =>
    rw [writeElements, List.forall₂_nil_left_iff, Option.some.injEq]
    exact eq_comm
  | cons value rest ih =>
    simp only [writeElements, Option.bind_eq_some_iff, Option.map_eq_some_iff, List.forall₂_cons_left_iff, ih]
    constructor
    · rintro ⟨first, here, others, later, rfl⟩
      exact ⟨first, others, here, later, rfl⟩
    · rintro ⟨first, others, here, later, rfl⟩
      exact ⟨first, here, others, later, rfl⟩

/-- A property is written as its quoted key and its value. -/
def PropertyText (property : JsString × JsValue) (whole : JsString) : Prop :=
  ∃ written, property.2.write = some written ∧ whole = quote property.1 ++ 58 :: written

theorem writeProperty_eq_some {property : JsString × JsValue} {whole : JsString} :
    writeProperty property = some whole ↔ PropertyText property whole := by
  obtain ⟨key, value⟩ := property
  simp only [writeProperty, Option.map_eq_some_iff, PropertyText, List.append_assoc]
  constructor
  · rintro ⟨written, here, rfl⟩
    exact ⟨written, here, rfl⟩
  · rintro ⟨written, here, rfl⟩
    exact ⟨written, here, rfl⟩

theorem writeProperties_eq_some {properties : Properties} {texts : List JsString} :
    writeProperties properties = some texts ↔ List.Forall₂ PropertyText properties texts := by
  induction properties generalizing texts with
  | nil =>
    rw [writeProperties, List.forall₂_nil_left_iff, Option.some.injEq]
    exact eq_comm
  | cons property rest ih =>
    simp only [writeProperties, Option.bind_eq_some_iff, Option.map_eq_some_iff, List.forall₂_cons_left_iff,
      writeProperty_eq_some, ih]
    constructor
    · rintro ⟨first, here, others, later, rfl⟩
      exact ⟨first, others, here, later, rfl⟩
    · rintro ⟨first, others, here, later, rfl⟩
      exact ⟨first, here, others, later, rfl⟩

/-! ## Unique readability -/

/-- What can follow a number without becoming part of it. -/
def Stops (rest : JsString) : Prop := ∀ c ∈ rest.head?, ¬ IsNumberUnit c

theorem takeWhile_run {run rest : JsString} (inside : ∀ c ∈ run, IsNumberUnit c) (stops : Stops rest) :
    (run ++ rest).takeWhile (fun c => IsNumberUnit c) = run := by
  induction run with
  | nil =>
    cases rest with
    | nil => rfl
    | cons c rest => exact List.takeWhile_cons_of_neg (by simpa using stops c rfl)
  | cons c run ih =>
    rw [List.cons_append, List.takeWhile_cons_of_pos (by simpa using inside c List.mem_cons_self),
      ih fun other member => inside other (List.mem_cons_of_mem _ member)]

theorem number_append_inj {x y : Double} {rest rest' : JsString} (stops : Stops rest) (stops' : Stops rest')
    (same : x.toString ++ rest = y.toString ++ rest') : x = y ∧ rest = rest' := by
  have runs := congrArg (List.takeWhile fun c => IsNumberUnit c) same
  rw [takeWhile_run (fun c => isNumberUnit_of_mem_toString) stops,
    takeWhile_run (fun c => isNumberUnit_of_mem_toString) stops'] at runs
  rw [runs] at same
  exact ⟨toString_injective runs, List.append_cancel_left same⟩

section Sequences
variable {α δ : Type} {Written : α → JsString → Prop} {data : α → δ} {mark : UInt16}

/-- Texts of items, separated by commas and closed by a mark. -/
def closed (mark : UInt16) (texts : List JsString) (rest : JsString) : JsString :=
  (text ",").intercalate texts ++ mark :: rest

/-- What stands behind the first of the items. -/
def behind (mark : UInt16) (texts : List JsString) (rest : JsString) : JsString :=
  if texts = [] then mark :: rest else 44 :: closed mark texts rest

theorem closed_cons (first : JsString) (texts : List JsString) (rest : JsString) :
    closed mark (first :: texts) rest = first ++ behind mark texts rest := by
  cases texts with
  | nil => simp [closed, behind]
  | cons second texts =>
    rw [closed, List.intercalate_cons_cons, behind, if_neg (List.cons_ne_nil _ _), closed]
    simp [text]

theorem stops_behind (stops : ¬ IsNumberUnit mark) (texts : List JsString) (rest : JsString) :
    Stops (behind mark texts rest) := by
  intro c head
  unfold behind at head
  split at head
  · obtain rfl := Option.some.inj head
    exact stops
  · obtain rfl := Option.some.inj head
    decide

/-- **Sequences.** Items that can each be told apart from what follows them
can be read off a closed sequence one by one. -/
theorem sequence_append_inj {first second : List α} {texts texts' : List JsString} {rest rest' : JsString}
    (marked : ¬ IsNumberUnit mark ∧ mark ≠ 44)
    (starts : ∀ item whole, Written item whole → ∃ c more, whole = c :: more ∧ c ≠ mark)
    (readable : ∀ item ∈ first, ∀ other whole whole' rest rest', Written item whole → Written other whole' →
      Stops rest → Stops rest' → whole ++ rest = whole' ++ rest' → data item = data other ∧ rest = rest')
    (here : List.Forall₂ Written first texts) (there : List.Forall₂ Written second texts')
    (same : closed mark texts rest = closed mark texts' rest') :
    first.map data = second.map data ∧ rest = rest' := by
  induction here generalizing second texts' with
  | nil =>
    cases there with
    | nil => exact ⟨rfl, (List.cons.inj same).2⟩
    | cons written others =>
      obtain ⟨c, more, rfl, other⟩ := starts _ _ written
      rw [closed_cons] at same
      exact absurd (List.cons.inj same).1.symm other
  | cons written others ih =>
    rw [closed_cons] at same
    cases there with
    | nil =>
      obtain ⟨c, more, rfl, other⟩ := starts _ _ written
      exact absurd (List.cons.inj same).1 other
    | cons written' others' =>
      rw [closed_cons] at same
      obtain ⟨value, tails⟩ := readable _ List.mem_cons_self _ _ _ _ _ written written'
        (stops_behind marked.1 _ _) (stops_behind marked.1 _ _) same
      have later := fun item member => readable item (List.mem_cons_of_mem _ member)
      -- either both sequences end here, or both go on behind a comma
      cases others with
      | nil =>
        cases others' with
        | nil => exact ⟨by rw [List.map_singleton, List.map_singleton, value], (List.cons.inj tails).2⟩
        | cons _ _ => exact absurd (List.cons.inj tails).1 marked.2
      | cons next more =>
        cases others' with
        | nil => exact absurd (List.cons.inj tails).1.symm marked.2
        | cons next' more' =>
          obtain ⟨values, ends⟩ := ih later (.cons next' more') (List.cons.inj tails).2
          exact ⟨congrArg₂ List.cons value values, ends⟩

end Sequences

/-- The kinds of data that a text tells apart by its first unit. -/
inductive Shape where
  | nothing
  | truth (value : Bool)
  | number
  | string
  | array
  | object
  deriving DecidableEq

def JsValue.shape : JsValue → Shape
  | .null => .nothing
  | .bool value => .truth value
  | .number _ => .number
  | .infinite _ => .nothing
  | .bigint _ => .nothing
  | .string _ => .string
  | .array _ => .array
  | .object _ => .object

def shapeOfUnit (c : UInt16) : Option Shape :=
  if IsNumberUnit c then some .number
  else [(110, .nothing), (116, .truth true), (102, .truth false), (34, .string), (91, .array),
    (123, .object)].lookup c

theorem toString_ne_nil (x : Double) : x.toString ≠ [] := by
  obtain ⟨c, rest, shape, -⟩ := render_starts (shortest |x.value|)
  unfold Double.toString
  split
  · exact List.cons_ne_nil _ _
  split
  · exact List.cons_ne_nil _ _
  · rw [shape]
    exact List.cons_ne_nil _ _

/-- The first unit of a text tells the kind of its value. -/
theorem write_starts {value : JsValue} {written : JsString} (text : value.write = some written) :
    ∃ c more, written = c :: more ∧ shapeOfUnit c = some value.shape := by
  cases value with
  | null | infinite =>
    obtain rfl := Option.some.inj text
    exact ⟨_, _, rfl, rfl⟩
  | bool value =>
    obtain rfl := Option.some.inj text
    cases value <;> exact ⟨_, _, rfl, rfl⟩
  | number x =>
    obtain rfl := Option.some.inj text
    obtain ⟨c, more, shape⟩ := List.exists_cons_of_ne_nil (toString_ne_nil x)
    exact ⟨c, more, shape, if_pos (isNumberUnit_of_mem_toString (x := x) (by simp [shape]))⟩
  | bigint value => cases text
  | string s =>
    obtain rfl := Option.some.inj text
    exact ⟨_, _, rfl, rfl⟩
  | array elements =>
    obtain ⟨texts, -, rfl⟩ := Option.map_eq_some_iff.mp text
    exact ⟨_, _, rfl, rfl⟩
  | object properties =>
    obtain ⟨texts, -, rfl⟩ := Option.map_eq_some_iff.mp text
    exact ⟨_, _, rfl, rfl⟩

/-- No text of a value starts with a closing bracket. -/
theorem write_ne_mark {value : JsValue} {written : JsString} (text : value.write = some written) :
    ∃ c more, written = c :: more ∧ c ≠ 93 := by
  obtain ⟨c, more, shape, kind⟩ := write_starts text
  refine ⟨c, more, shape, ?_⟩
  rintro rfl
  cases kind

theorem array_append (texts : List JsString) (rest : JsString) :
    text "[" ++ (text ",").intercalate texts ++ text "]" ++ rest = 91 :: closed 93 texts rest := by
  rw [List.append_assoc, List.append_assoc]
  rfl

theorem object_append (texts : List JsString) (rest : JsString) :
    text "\x7b" ++ (text ",").intercalate texts ++ text "\x7d" ++ rest = 123 :: closed 125 texts rest := by
  rw [List.append_assoc, List.append_assoc]
  rfl

/-- What the text of a value says of it: an infinite number is written as null. -/
def finiteOrNull : JsValue → JsValue
  | .infinite _ => .null
  | value => value

def JsValue.data (value : JsValue) : JsValue := value.replaced finiteOrNull

theorem data_array (elements : List JsValue) :
    (JsValue.array elements).data = .array (elements.map JsValue.data) := by
  rw [JsValue.data, JsValue.replaced, replacedElements_eq_map]
  rfl

theorem data_object (properties : Properties) :
    (JsValue.object properties).data =
      .object (properties.map fun property => (property.1, property.2.data)) := by
  rw [JsValue.data, JsValue.replaced, replacedProperties_eq_map]
  rfl

/-- A property starts with the quotation mark of its key. -/
theorem propertyText_starts {property : JsString × JsValue} {whole : JsString}
    (text : PropertyText property whole) : ∃ c more, whole = c :: more ∧ c ≠ 125 := by
  obtain ⟨written, -, rfl⟩ := text
  exact ⟨34, _, rfl, by decide⟩

theorem propertyText_append_inj {property other : JsString × JsValue} {whole whole' rest rest' : JsString}
    (readable : ∀ {value : JsValue} {written written' rest rest' : JsString},
      property.2.write = some written → value.write = some written' → Stops rest → Stops rest' →
        written ++ rest = written' ++ rest' → property.2.data = value.data ∧ rest = rest')
    (here : PropertyText property whole) (there : PropertyText other whole') (stops : Stops rest)
    (stops' : Stops rest') (same : whole ++ rest = whole' ++ rest') :
    (property.1, property.2.data) = (other.1, other.2.data) ∧ rest = rest' := by
  obtain ⟨written, first, rfl⟩ := here
  obtain ⟨written', second, rfl⟩ := there
  rw [List.append_assoc, List.append_assoc] at same
  obtain ⟨keys, values⟩ := quote_append_inj same
  obtain ⟨contents, tails⟩ := readable first second stops stops' (List.cons.inj values).2
  exact ⟨Prod.ext keys contents, tails⟩

/-- Texts that agree start the same, so they are of values of one kind. -/
theorem shape_eq {value other : JsValue} {written written' rest rest' : JsString}
    (here : value.write = some written) (there : other.write = some written')
    (same : written ++ rest = written' ++ rest') : value.shape = other.shape := by
  obtain ⟨c, more, rfl, first⟩ := write_starts here
  obtain ⟨c', more', rfl, second⟩ := write_starts there
  rw [← Option.some_inj, ← first, ← second, (List.cons.inj same).1]

/-- **Unique readability.** Texts that agree, with whatever follows them, are
texts of the same data. -/
theorem write_append_inj {value other : JsValue} {written written' rest rest' : JsString}
    (here : value.write = some written) (there : other.write = some written') (stops : Stops rest)
    (stops' : Stops rest') (same : written ++ rest = written' ++ rest') :
    value.data = other.data ∧ rest = rest' := by
  have shapes := shape_eq here there same
  induction value generalizing other written written' rest rest' with
  | null | infinite =>
    obtain rfl := Option.some.inj here
    cases other with
    | null | infinite =>
      obtain rfl := Option.some.inj there
      exact ⟨rfl, List.append_cancel_left same⟩
    | bigint => cases there
    | bool | number | string | array | object => cases shapes
  | bool value =>
    obtain rfl := Option.some.inj here
    cases other with
    | bool value' =>
      obtain rfl := Option.some.inj there
      cases shapes
      exact ⟨rfl, List.append_cancel_left same⟩
    | null | infinite | bigint | number | string | array | object => cases shapes
  | number x =>
    obtain rfl := Option.some.inj here
    cases other with
    | number y =>
      obtain rfl := Option.some.inj there
      obtain ⟨rfl, tails⟩ := number_append_inj stops stops' same
      exact ⟨rfl, tails⟩
    | null | infinite | bigint | bool | string | array | object => cases shapes
  | bigint value => cases here
  | string s =>
    obtain rfl := Option.some.inj here
    cases other with
    | string t =>
      obtain rfl := Option.some.inj there
      obtain ⟨rfl, tails⟩ := quote_append_inj same
      exact ⟨rfl, tails⟩
    | null | infinite | bigint | bool | number | array | object => cases shapes
  | array elements ih =>
    obtain ⟨texts, inside, rfl⟩ := Option.map_eq_some_iff.mp here
    cases other with
    | array elements' =>
      obtain ⟨texts', inside', rfl⟩ := Option.map_eq_some_iff.mp there
      rw [array_append, array_append] at same
      obtain ⟨elementwise, tails⟩ := sequence_append_inj (by decide) (fun _ _ => write_ne_mark)
        (fun element member other whole whole' rest rest' here there stops stops' same =>
          ih element member here there stops stops' same (shape_eq here there same))
        (writeElements_eq_some.mp inside) (writeElements_eq_some.mp inside') (List.cons.inj same).2
      exact ⟨by rw [data_array, data_array, elementwise], tails⟩
    | null | infinite | bigint | bool | number | string | object => cases shapes
  | object properties ih =>
    obtain ⟨texts, inside, rfl⟩ := Option.map_eq_some_iff.mp here
    cases other with
    | object properties' =>
      obtain ⟨texts', inside', rfl⟩ := Option.map_eq_some_iff.mp there
      rw [object_append, object_append] at same
      obtain ⟨propertywise, tails⟩ := sequence_append_inj (by decide) (fun _ _ => propertyText_starts)
        (fun property member other whole whole' rest rest' here there stops stops' same =>
          propertyText_append_inj (fun here there stops stops' same =>
            ih property member here there stops stops' same (shape_eq here there same)) here there stops stops' same)
        (writeProperties_eq_some.mp inside) (writeProperties_eq_some.mp inside') (List.cons.inj same).2
      exact ⟨by rw [data_object, data_object, propertywise], tails⟩
    | null | infinite | bigint | bool | number | string | array => cases shapes

/-- What is written of one value is written of no other data. -/
theorem data_eq_of_write {value other : JsValue} {written : JsString} (here : value.write = some written)
    (there : other.write = some written) : value.data = other.data := by
  have ends : Stops [] := fun c member => by cases member
  exact (write_append_inj here there ends ends rfl).1

/-- A replacer that leaves no bigint makes everything writable. -/
theorem exists_stringify {replacer : JsValue → JsValue}
    (writable : ∀ value : JsValue, value.shape ≠ .array → value.shape ≠ .object →
      ∃ written, (replacer value).write = some written) (value : JsValue) :
    ∃ written, stringify replacer value = some written := by
  unfold stringify
  induction value with
  | null => exact writable .null (by decide) (by decide)
  | bool value => exact writable (.bool value) (fun same => by cases same) (fun same => by cases same)
  | number x => exact writable (.number x) (fun same => by cases same) (fun same => by cases same)
  | infinite negative => exact writable (.infinite negative) (fun same => by cases same) (fun same => by cases same)
  | bigint n => exact writable (.bigint n) (fun same => by cases same) (fun same => by cases same)
  | string s => exact writable (.string s) (fun same => by cases same) (fun same => by cases same)
  | array elements ih =>
    obtain ⟨texts, written⟩ : ∃ texts, writeElements (elements.map (JsValue.replaced replacer)) = some texts := by
      induction elements with
      | nil => exact ⟨[], rfl⟩
      | cons value rest later =>
        obtain ⟨first, here⟩ := ih value List.mem_cons_self
        obtain ⟨texts, others⟩ := later fun other member => ih other (List.mem_cons_of_mem _ member)
        exact ⟨first :: texts, by rw [List.map_cons, writeElements, here, others]; rfl⟩
    exact ⟨_, by rw [JsValue.replaced, replacedElements_eq_map, JsValue.write, written]; rfl⟩
  | object properties ih =>
    obtain ⟨texts, written⟩ : ∃ texts, writeProperties
        (properties.map fun property => (property.1, property.2.replaced replacer)) = some texts := by
      induction properties with
      | nil => exact ⟨[], rfl⟩
      | cons property rest later =>
        obtain ⟨first, here⟩ := ih property List.mem_cons_self
        obtain ⟨texts, others⟩ := later fun other member => ih other (List.mem_cons_of_mem _ member)
        exact ⟨_ :: texts, by rw [List.map_cons, writeProperties, writeProperty, here, others]; rfl⟩
    exact ⟨_, by rw [JsValue.replaced, replacedProperties_eq_map, JsValue.write, written]; rfl⟩

end PassportKit.Js
