import PassportKit.JsObject

/-! `JSON.parse`, over the code units of a text. Whatever a value is written as by
`JSON.stringify` is read back as the data it holds: numbers to the last bit, strings
unit by unit, and properties in the order an object enumerates them. -/
namespace PassportKit.Js

/-- What may stand between two tokens. -/
def IsBlank (c : UInt16) : Prop := c ∈ ([9, 10, 13, 32] : List UInt16)

instance (c : UInt16) : Decidable (IsBlank c) := inferInstanceAs (Decidable (c ∈ _))

def skipBlanks (s : JsString) : JsString := s.dropWhile fun c => IsBlank c

/-- What a letter after a backslash stands for, if it may stand there. -/
def unescape (letter : UInt16) : Option UInt16 :=
  ([(34, 34), (92, 92), (47, 47), (98, 8), (102, 12), (110, 10), (114, 13), (116, 9)] : List (UInt16 × UInt16)).lookup
    letter

/-- One more unit of the string that is being read. -/
def andUnit (unit : UInt16) (read : Option (JsString × JsString)) : Option (JsString × JsString) :=
  read.map fun (s, after) => (unit :: s, after)

/-- `JSONString` from behind its first quotation mark on, and what follows it. -/
def parseString : JsString → Option (JsString × JsString)
  | [] => none
  | 34 :: rest => some ([], rest)
  | 92 :: 117 :: a :: b :: c :: d :: rest =>
    (readInteger 16 [a, b, c, d]).bind fun unit => andUnit (UInt16.ofNat unit) (parseString rest)
  | 92 :: letter :: rest => (unescape letter).bind fun unit => andUnit unit (parseString rest)
  | c :: rest => if c.toNat < 32 then none else andUnit c (parseString rest)

/-- Digits, at least one, and what follows them. -/
def dropDigits (s : JsString) : Option JsString :=
  match s with
  | [] => none
  | c :: rest => if IsDigit c then some (rest.dropWhile fun c => IsDigit c) else none

/-- No digit follows a leading zero. -/
def dropInteger : JsString → Option JsString
  | 48 :: rest => some rest
  | s => dropDigits s

def dropFraction : JsString → Option JsString
  | 46 :: rest => dropDigits rest
  | s => some s

def dropSign : JsString → JsString
  | 43 :: rest => rest
  | 45 :: rest => rest
  | s => s

def dropExponent : JsString → Option JsString
  | 101 :: rest => dropDigits (dropSign rest)
  | 69 :: rest => dropDigits (dropSign rest)
  | s => some s

def dropMinus : JsString → JsString
  | 45 :: rest => rest
  | s => s

/-- `JSONNumber`, the whole of it. -/
def IsJsonNumber (s : JsString) : Prop :=
  ((dropInteger (dropMinus s)).bind fun rest => (dropFraction rest).bind dropExponent) = some []

instance (s : JsString) : Decidable (IsJsonNumber s) := inferInstanceAs (Decidable (_ = _))

/-- Every unit a `JSONNumber` may have. None of them can follow a value, so a number
ends with the last of them. -/
def IsLiteralUnit (c : UInt16) : Prop := IsNumberUnit c ∨ c = 69

instance (c : UInt16) : Decidable (IsLiteralUnit c) := inferInstanceAs (Decidable (_ ∨ _))

/-- The Number value of a literal, which may be too large for a finite one. -/
def literalValue (s : JsString) : JsValue :=
  match read : Double.read (s.map fun c => if c = 69 then 101 else c) with
  | some value => .number ⟨value, representable_of_read read⟩
  | none => .infinite (s.head? = some 45)

def parseNumber (s : JsString) : Option (JsValue × JsString) :=
  let literal := s.takeWhile fun c => IsLiteralUnit c
  if IsJsonNumber literal then some (literalValue literal, s.dropWhile fun c => IsLiteralUnit c) else none

/-- The values that are written as a word. -/
def words : List (JsString × JsValue) :=
  [(text "null", .null), (text "true", .bool true), (text "false", .bool false)]

/-- One of the words, or else a number. -/
def parseLiteral (s : JsString) : Option (JsValue × JsString) :=
  match words.find? fun word => word.1.isPrefixOf s with
  | some (word, value) => some (value, s.drop word.length)
  | none => parseNumber s

/-- `CreateDataProperty`: also under the name of the accessor of the prototype. -/
def defineProperty (key : JsString) (value : JsValue) (properties : Properties) : Properties :=
  if ∃ property ∈ properties, property.1 = key then
    properties.map fun property => if property.1 = key then (key, value) else property
  else properties.orderedInsert (fun first second => EnumeratedBefore first.1 second.1) (key, value)

mutual

/-- `JSONValue`, and what follows it. The fuel bounds the tokens, and the length of
the text is enough of it. -/
def parseValue : ℕ → JsString → Option (JsValue × JsString)
  | 0, _ => none
  | fuel + 1, s =>
    match skipBlanks s with
    | 34 :: rest => (parseString rest).map fun (value, after) => (.string value, after)
    | 91 :: rest =>
      match skipBlanks rest with
      | 93 :: after => some (.array [], after)
      | first => (parseElements fuel first).map fun (elements, after) => (.array elements, after)
    | 123 :: rest =>
      match skipBlanks rest with
      | 125 :: after => some (.object [], after)
      | first => (parseMembers fuel [] first).map fun (properties, after) => (.object properties, after)
    | first => parseLiteral first

/-- `JSONElementList` and its closing bracket. -/
def parseElements : ℕ → JsString → Option (List JsValue × JsString)
  | 0, _ => none
  | fuel + 1, s =>
    (parseValue fuel s).bind fun (value, after) =>
      match skipBlanks after with
      | 44 :: rest => (parseElements fuel rest).map fun (elements, after) => (value :: elements, after)
      | 93 :: rest => some ([value], rest)
      | _ => none

/-- `JSONMemberList` and its closing brace; of two members under one key the later counts. -/
def parseMembers : ℕ → Properties → JsString → Option (Properties × JsString)
  | 0, _, _ => none
  | fuel + 1, properties, s =>
    match skipBlanks s with
    | 34 :: rest =>
      (parseString rest).bind fun (key, after) =>
        match skipBlanks after with
        | 58 :: rest =>
          (parseValue fuel rest).bind fun (value, after) =>
            match skipBlanks after with
            | 44 :: rest => parseMembers fuel (defineProperty key value properties) rest
            | 125 :: rest => some (defineProperty key value properties, rest)
            | _ => none
        | _ => none
    | _ => none

end

/-- `JSON.parse`, nothing where it throws. -/
def parse (s : JsString) : Option JsValue :=
  (parseValue (s.length + 1) s).bind fun (value, after) => if skipBlanks after = [] then some value else none

example : (parse (text " [1, \"\\u0041b\", \x7b\"b\":true, \"1\":null, \"b\": -2.5E1\x7d] ")).bind (stringify id) =
    some (text "[1,\"Ab\",\x7b\"1\":null,\"b\":-25\x7d]") := by
  decide +kernel

/-! ## Strings -/

theorem digitWorth_charUnit {digit : ℕ} (small : digit < 16) :
    digitWorth (charUnit (Nat.digitChar digit)) = some digit := by
  have each : ∀ digit < 16, digitWorth (charUnit (Nat.digitChar digit)) = some digit := by decide
  exact each digit small

theorem readDigits_append (radix total : ℕ) (s t : JsString) :
    readDigits radix total (s ++ t) = (readDigits radix total s).bind fun middle => readDigits radix middle t := by
  induction s generalizing total with
  | nil => rfl
  | cons c s ih =>
    rw [List.cons_append, readDigits, readDigits]
    cases digitWorth c with
    | none => rfl
    | some digit =>
      rw [Option.bind_some, Option.bind_some]
      split
      · exact ih _
      · rfl

theorem readDigits_hex (width number total : ℕ) : readDigits 16 total ((Hex.digits width number).map charUnit) =
    some (total * 16 ^ width + number % 16 ^ width) := by
  induction width generalizing number with
  | zero => simp [Hex.digits, readDigits, Nat.mod_one]
  | succ width ih =>
    have small : number % 16 < 16 := Nat.mod_lt number (by decide)
    rw [Hex.digits, List.map_append, readDigits_append, ih, Option.bind_some, List.map_singleton, readDigits,
      digitWorth_charUnit small, Option.bind_some, if_pos small, readDigits, Nat.pow_succ', Nat.mod_mul]
    congr 1
    ring

theorem readInteger_hex (number : ℕ) :
    readInteger 16 ((Hex.digits 4 number).map charUnit) = some (number % 16 ^ 4) := by
  have some : (Hex.digits 4 number).map charUnit ≠ [] := by simp [Hex.digits]
  rw [readInteger, if_neg some, readDigits_hex, zero_mul, zero_add]

theorem parseString_unicodeEscape (c : UInt16) (rest : JsString) :
    parseString (unicodeEscape c ++ rest) = andUnit c (parseString rest) := by
  have value := readInteger_hex c.toNat
  have small : c.toNat % 16 ^ 4 = c.toNat := Nat.mod_eq_of_lt c.toNat_lt
  obtain ⟨first, second, third, fourth, shape⟩ : ∃ first second third fourth,
      (Hex.digits 4 c.toNat).map charUnit = [first, second, third, fourth] := ⟨_, _, _, _, rfl⟩
  rw [shape, small] at value
  have string : unicodeEscape c ++ rest = 92 :: 117 :: first :: second :: third :: fourth :: rest := by
    rw [unicodeEscape, shape]
    rfl
  rw [string, parseString, value, Option.bind_some, UInt16.ofNat_toNat]

theorem parseString_plain {c : UInt16} (quotation : c ≠ 34) (backslash : c ≠ 92) (printable : ¬ c.toNat < 32)
    (rest : JsString) : parseString (c :: rest) = andUnit c (parseString rest) := by
  rw [parseString, if_neg printable]
  · rintro rfl
    exact quotation rfl
  · rintro _ _ _ _ _ rfl _
    exact backslash rfl
  · rintro _ _ rfl _
    exact backslash rfl

theorem parseString_escape {c letter : UInt16} (entry : (c, letter) ∈ escapes) (rest : JsString) :
    parseString (92 :: letter :: rest) = andUnit c (parseString rest) := by
  simp only [escapes, List.mem_cons, Prod.mk.injEq, List.not_mem_nil, or_false] at entry
  rcases entry with ⟨rfl, rfl⟩ | ⟨rfl, rfl⟩ | ⟨rfl, rfl⟩ | ⟨rfl, rfl⟩ | ⟨rfl, rfl⟩ |
    ⟨rfl, rfl⟩ | ⟨rfl, rfl⟩ <;>
    rfl

/-- Some more units of the string that is being read. -/
def andUnits (units : JsString) (read : Option (JsString × JsString)) : Option (JsString × JsString) :=
  read.map fun (s, after) => (units ++ s, after)

theorem andUnit_eq (unit : UInt16) (read : Option (JsString × JsString)) :
    andUnit unit read = andUnits [unit] read := rfl

theorem andUnits_andUnits (first second : JsString) (read : Option (JsString × JsString)) :
    andUnits first (andUnits second read) = andUnits (first ++ second) read := by
  cases read with
  | none => rfl
  | some read => simp [andUnits]

theorem parseString_quoted (point : CodePoint) (rest : JsString) :
    parseString (point.quoted ++ rest) = andUnits point.units (parseString rest) := by
  cases point with
  | unit c =>
    cases escape : escapes.lookup c with
    | some letter =>
      have quoted : (CodePoint.unit c).quoted = [92, letter] := by rw [CodePoint.quoted, escape]
      rw [quoted]
      exact parseString_escape (mem_of_lookup escape) rest
    | none =>
      by_cases coded : c.toNat < 32 ∨ IsSurrogate c
      · have quoted : (CodePoint.unit c).quoted = unicodeEscape c := by
          rw [CodePoint.quoted, escape]
          exact if_pos coded
        rw [quoted, parseString_unicodeEscape]
        rfl
      · have quoted : (CodePoint.unit c).quoted = [c] := by
          rw [CodePoint.quoted, escape]
          exact if_neg coded
        rw [quoted]
        apply parseString_plain
        · rintro rfl
          cases escape
        · rintro rfl
          cases escape
        · exact (not_or.mp coded).1
  | pair leading trailing surrogates =>
    obtain ⟨high, low⟩ := surrogates
    have clear (c : UInt16) (above : 0xd800 ≤ c.toNat) (rest : JsString) :
        parseString (c :: rest) = andUnit c (parseString rest) := by
      apply parseString_plain
      · rintro rfl
        exact absurd above (by decide)
      · rintro rfl
        exact absurd above (by decide)
      · omega
    change parseString (leading :: trailing :: rest) = _
    rw [clear leading high.1, clear trailing (le_trans (by decide) low.1), andUnit_eq, andUnit_eq, andUnits_andUnits]
    rfl

/-- **Round trip** of a string. -/
theorem parseString_quote (s rest : JsString) :
    parseString ((codePoints s).flatMap CodePoint.quoted ++ 34 :: rest) = some (s, rest) := by
  have points (points : List CodePoint) : parseString (points.flatMap CodePoint.quoted ++ 34 :: rest) =
      some (points.flatMap CodePoint.units, rest) := by
    induction points with
    | nil => rfl
    | cons point points ih =>
      rw [List.flatMap_cons, List.append_assoc, parseString_quoted, ih, List.flatMap_cons]
      rfl
  rw [points, flatMap_units_codePoints]

theorem quote_append (s rest : JsString) :
    quote s ++ rest = 34 :: ((codePoints s).flatMap CodePoint.quoted ++ 34 :: rest) := by
  rw [quote, List.append_assoc, List.append_assoc]
  rfl

theorem dropDigits_append {digits rest : JsString} (figures : ∀ c ∈ digits, IsDigit c) (nonempty : digits ≠ [])
    (ends : ∀ c ∈ rest.head?, ¬ IsDigit c) : dropDigits (digits ++ rest) = some rest := by
  obtain ⟨c, more, rfl⟩ := List.exists_cons_of_ne_nil nonempty
  have inside : ∀ c ∈ more, decide (IsDigit c) = true := fun c member =>
    decide_eq_true (figures c (List.mem_cons_of_mem _ member))
  rw [List.cons_append, dropDigits, if_pos (figures c List.mem_cons_self), List.dropWhile_append_of_pos inside]
  cases rest with
  | nil => rfl
  | cons next rest => rw [List.dropWhile_cons_of_neg (by simpa using ends next rfl)]

theorem dropInteger_append {digits rest : JsString} (figures : ∀ c ∈ digits, IsDigit c) (nonempty : digits ≠ [])
    (canonical : digits.head? = some 48 → digits = [48]) (ends : ∀ c ∈ rest.head?, ¬ IsDigit c) :
    dropInteger (digits ++ rest) = some rest := by
  obtain ⟨c, more, rfl⟩ := List.exists_cons_of_ne_nil nonempty
  by_cases zero : c = 48
  · obtain ⟨-, rfl⟩ := List.cons.inj (canonical (congrArg some zero))
    subst zero
    rfl
  · have plain : dropInteger (c :: (more ++ rest)) = dropDigits (c :: (more ++ rest)) := by
      rw [dropInteger]
      exact fun _ same => zero (List.cons.inj same).1
    rw [List.cons_append, plain, ← List.cons_append, dropDigits_append figures nonempty ends]

theorem decimalDigits_head {n : ℕ} (nonzero : n ≠ 0) : (decimalDigits n).head? ≠ some 48 :=
  decimalFigures.head?_numeral nonzero

theorem dropExponent_power (e : ℤ) :
    dropExponent (text "e" ++ text (if 0 ≤ e then "+" else "-") ++ decimalDigits e.natAbs) = some [] := by
  have digits := @dropDigits_append (decimalDigits e.natAbs) [] (fun c => isDigit_of_mem_decimalDigits)
    (decimalDigits_ne_nil _) (by simp)
  rw [List.append_nil] at digits
  split
  · exact digits
  · exact digits

/-- A decimal in any notation, without its sign. -/
theorem isNumber_render {d : Decimal} (nonzero : d.significand ≠ 0) :
    ((dropInteger d.render).bind fun rest => (dropFraction rest).bind dropExponent) = some [] := by
  have digits : ∀ c ∈ decimalDigits d.significand, IsDigit c := fun c => isDigit_of_mem_decimalDigits
  have head := decimalDigits_head nonzero
  have nonempty := decimalDigits_ne_nil d.significand
  have power := dropExponent_power
  unfold Decimal.render
  dsimp only
  generalize decimalDigits d.significand = ds at *
  generalize (ds.length : ℤ) + d.exponent = n
  have front {count : ℕ} (some : ds.take count ≠ []) {rest : JsString} (ends : ∀ c ∈ rest.head?, ¬ IsDigit c) :
      dropInteger (ds.take count ++ rest) = .some rest := by
    refine dropInteger_append (fun c member => digits c (List.mem_of_mem_take member)) some (fun leads => ?_) ends
    obtain ⟨c, more, shape⟩ := List.exists_cons_of_ne_nil nonempty
    rw [shape] at leads some head
    cases count with
    | zero => exact absurd rfl some
    | succ count => exact absurd leads head
  have fraction {count : ℕ} (some : ds.drop count ≠ []) {rest : JsString}
      (ends : ∀ c ∈ rest.head?, ¬ IsDigit c) : dropFraction (46 :: (ds.drop count ++ rest)) = .some rest :=
    dropDigits_append (fun c member => digits c (List.mem_of_mem_drop member)) some ends
  have ended : ∀ c ∈ ([] : JsString).head?, ¬ IsDigit c := by simp
  split
  · -- an integer, padded with zeros
    rename_i range
    have clean : ∀ c ∈ ds ++ List.replicate (n - ds.length).toNat 48, IsDigit c := by
      intro c member
      rcases List.mem_append.mp member with inside | zero
      · exact digits c inside
      · exact isDigit_of_mem_zeros zero
    have whole := @dropInteger_append _ [] clean (by simp [nonempty])
      (fun leads => absurd (by rwa [List.head?_append_of_ne_nil _ nonempty] at leads) head) ended
    rw [List.append_nil] at whole
    rw [whole]
    rfl
  split
  · -- the point falls among the digits
    rename_i outside range
    have before : ds.take n.toNat ≠ [] := by
      rw [Ne, List.take_eq_nil_iff]
      exact not_or.mpr ⟨by omega, nonempty⟩
    have behind : ds.drop n.toNat ≠ [] := by
      rw [Ne, List.drop_eq_nil_iff]
      omega
    have rest := @fraction n.toNat behind [] ended
    rw [List.append_nil] at rest
    rw [List.append_assoc, front before (by simp [text, IsDigit])]
    change (dropFraction (46 :: ds.drop n.toNat)).bind dropExponent = some []
    rw [rest]
    rfl
  split
  · -- the point falls in front of the digits
    have clean : ∀ c ∈ List.replicate (-n).toNat 48 ++ ds, IsDigit c := by
      intro c member
      rcases List.mem_append.mp member with zero | inside
      · exact isDigit_of_mem_zeros zero
      · exact digits c inside
    have rest := @dropDigits_append _ [] clean (by simp [nonempty]) ended
    rw [List.append_nil] at rest
    rw [List.append_assoc]
    change (dropDigits (List.replicate (-n).toNat 48 ++ ds)).bind dropExponent = some []
    rw [rest]
    rfl
  split
  · -- scientific, one digit
    have whole : ds.take ds.length = ds := List.take_length
    rw [← whole, front (by rwa [whole]) (by simp [text, IsDigit])]
    exact power (n - 1)
  · -- scientific, more digits
    rename_i several
    have before : ds.take 1 ≠ [] := by
      rw [Ne, List.take_eq_nil_iff]
      exact not_or.mpr ⟨one_ne_zero, nonempty⟩
    have behind : ds.drop 1 ≠ [] := by
      have some : 0 < ds.length := List.length_pos_of_ne_nil nonempty
      rw [Ne, List.drop_eq_nil_iff]
      omega
    rw [List.append_assoc, List.append_assoc, front before (by simp [text, IsDigit])]
    change (dropFraction (46 :: (ds.drop 1 ++ _))).bind dropExponent = some []
    rw [fraction behind (by simp [text, IsDigit])]
    exact power (n - 1)

theorem shortest_significand {x : ℚ} (positive : 0 < x) (representable : toDouble x = some x) :
    (shortest x).significand ≠ 0 := by
  intro zero
  have back := toDouble_shortest positive representable
  have nothing : (shortest x).value = 0 := by simp [Decimal.value, zero]
  have rounds : toDouble 0 = some 0 := by simp [toDouble, roundHalfEven]
  rw [nothing, rounds, Option.some.injEq] at back
  exact positive.ne back

/-- What a Number is written as is a `JSONNumber`. -/
theorem isJsonNumber_toString (x : Double) : IsJsonNumber x.toString := by
  unfold Double.toString
  by_cases zero : x.value = 0
  · rw [if_pos zero]
    decide
  · have number := isNumber_render (shortest_significand (abs_pos.mpr zero) x.representable)
    rw [if_neg zero]
    split
    · exact number
    · obtain ⟨c, rest, shape, digit⟩ := render_starts (shortest |x.value|)
      have unsigned : dropMinus (shortest |x.value|).render = (shortest |x.value|).render := by
        rw [shape, dropMinus]
        exact fun _ same => digit.ne_of (by decide) (List.cons.inj same).1
      rw [IsJsonNumber, unsigned]
      exact number

/-- **Round trip** of a number, as a literal. -/
theorem literalValue_toString (x : Double) : literalValue x.toString = .number x := by
  have lower : (x.toString.map fun c => if c = 69 then 101 else c) = x.toString := by
    apply (List.map_congr_left fun c member => ?_).trans (List.map_id _)
    have unit := isNumberUnit_of_mem_toString member
    have other : c ≠ 69 := by
      rintro rfl
      exact absurd unit (by decide)
    exact if_neg other
  have read := read_toString x
  rw [← lower] at read
  unfold literalValue
  split
  · rename_i value found
    rw [read, Option.some.injEq] at found
    subst found
    rfl
  · rename_i found
    rw [read] at found
    cases found

/-- What can follow a value: it ends any number before it. -/
def Ends (rest : JsString) : Prop := ∀ c ∈ rest.head?, ¬ IsLiteralUnit c

theorem parseNumber_append (x : Double) {rest : JsString} (ends : Ends rest) :
    parseNumber (x.toString ++ rest) = some (.number x, rest) := by
  have inside : ∀ c ∈ x.toString, decide (IsLiteralUnit c) = true := fun c member =>
    decide_eq_true (.inl (isNumberUnit_of_mem_toString member))
  have tail : rest.takeWhile (fun c => IsLiteralUnit c) = [] ∧ rest.dropWhile (fun c => IsLiteralUnit c) = rest := by
    cases rest with
    | nil => exact ⟨rfl, rfl⟩
    | cons c rest =>
      have mark : ¬ decide (IsLiteralUnit c) = true := by simpa using ends c rfl
      exact ⟨List.takeWhile_cons_of_neg mark, List.dropWhile_cons_of_neg mark⟩
  have literal : (x.toString ++ rest).takeWhile (fun c => IsLiteralUnit c) = x.toString := by
    rw [List.takeWhile_append_of_pos inside, tail.1, List.append_nil]
  have after : (x.toString ++ rest).dropWhile (fun c => IsLiteralUnit c) = rest := by
    rw [List.dropWhile_append_of_pos inside, tail.2]
  rw [parseNumber, literal, after, if_pos (isJsonNumber_toString x), literalValue_toString]

/-- Properties as an object enumerates them. -/
def InOrder (properties : Properties) : Prop :=
  properties.Pairwise fun first second => first.1 ≠ second.1 ∧ ¬ EnumeratedBefore second.1 first.1

/-- The order is one of the keys. -/
theorem inOrder_of_keys {properties : Properties} {keys : List JsString} (named : properties.map Prod.fst = keys)
    (ordered : keys.Pairwise fun first second => first ≠ second ∧ ¬ EnumeratedBefore second first) :
    InOrder properties := by
  subst named
  exact List.pairwise_map.mp ordered

theorem defineProperty_last {key : JsString} {properties : Properties}
    (later : ∀ property ∈ properties, property.1 ≠ key ∧ ¬ EnumeratedBefore key property.1) (value : JsValue) :
    defineProperty key value properties = properties ++ [(key, value)] := by
  have fresh : ¬ ∃ property ∈ properties, property.1 = key := by
    rintro ⟨property, member, same⟩
    exact (later property member).1 same
  rw [defineProperty, if_neg fresh]
  clear fresh
  induction properties with
  | nil => rfl
  | cons property rest ih =>
    rw [List.orderedInsert, if_neg (later property List.mem_cons_self).2,
      ih fun other member => later other (List.mem_cons_of_mem _ member)]
    rfl

/-- Defining properties in the order they are enumerated puts each behind the ones before. -/
theorem foldl_defineProperty {before properties : Properties} (inOrder : InOrder (before ++ properties)) :
    properties.foldl (fun held property => defineProperty property.1 property.2 held) before =
      before ++ properties := by
  induction properties generalizing before with
  | nil => rw [List.foldl_nil, List.append_nil]
  | cons property rest ih =>
    have later := fun other member => (List.pairwise_append.mp inOrder).2.2 other member property List.mem_cons_self
    rw [List.foldl_cons, defineProperty_last later, ih (by rwa [List.append_assoc]), List.append_assoc]
    rfl

theorem InOrder.map {properties : Properties} (inOrder : InOrder properties) (f : JsValue → JsValue) :
    InOrder (properties.map fun property => (property.1, f property.2)) := by
  rw [InOrder, List.pairwise_map]
  exact inOrder

/-- Every object in the value has its properties in order. -/
inductive JsValue.Enumerated : JsValue → Prop where
  | null : Enumerated .null
  | bool (value : Bool) : Enumerated (.bool value)
  | number (value : Double) : Enumerated (.number value)
  | infinite (negative : Bool) : Enumerated (.infinite negative)
  | bigint (value : ℤ) : Enumerated (.bigint value)
  | string (value : JsString) : Enumerated (.string value)
  | array {elements : List JsValue} (each : ∀ element ∈ elements, element.Enumerated) : Enumerated (.array elements)
  | object {properties : Properties} (inOrder : InOrder properties)
      (each : ∀ property ∈ properties, property.2.Enumerated) : Enumerated (.object properties)

/-! ## One level of a value -/

theorem skipBlanks_cons {c : UInt16} (mark : ¬ IsBlank c) (rest : JsString) : skipBlanks (c :: rest) = c :: rest :=
  List.dropWhile_cons_of_neg (by simpa using mark)

theorem not_isBlank_of_shape {c : UInt16} {shape : Shape} (kind : shapeOfUnit c = some shape) : ¬ IsBlank c := by
  intro blank
  simp only [IsBlank, List.mem_cons, List.not_mem_nil, or_false] at blank
  rcases blank with rfl | rfl | rfl | rfl <;> cases kind

theorem parseLiteral_number (x : Double) {rest : JsString} (ends : Ends rest) :
    parseLiteral (x.toString ++ rest) = some (.number x, rest) := by
  have plain : (words.find? fun word => word.1.isPrefixOf (x.toString ++ rest)) = none := by
    obtain ⟨c, more, shape⟩ := List.exists_cons_of_ne_nil (toString_ne_nil x)
    have unit : IsNumberUnit c := isNumberUnit_of_mem_toString (x := x) (by simp [shape])
    have other (letter : UInt16) (plain : ¬ IsNumberUnit letter) : (letter == c) = false := by
      rw [beq_eq_false_iff_ne]
      rintro rfl
      exact plain unit
    rw [shape, List.find?_eq_none]
    intro word member
    simp only [words, List.mem_cons, List.not_mem_nil, or_false] at member
    rcases member with rfl | rfl | rfl
    · simp [text, List.isPrefixOf, other 110 (by decide)]
    · simp [text, List.isPrefixOf, other 116 (by decide)]
    · simp [text, List.isPrefixOf, other 102 (by decide)]
  rw [parseLiteral, plain]
  exact parseNumber_append x ends

/-- What starts like a literal is read as one. -/
theorem parseValue_literal {c : UInt16} (mark : ¬ IsBlank c) (plain : c ≠ 34 ∧ c ≠ 91 ∧ c ≠ 123) (fuel : ℕ)
    (rest : JsString) : parseValue (fuel + 1) (c :: rest) = parseLiteral (c :: rest) := by
  rw [parseValue, skipBlanks_cons mark]
  split
  · rename_i same
    exact absurd (List.cons.inj same).1 plain.1
  · rename_i same
    exact absurd (List.cons.inj same).1 plain.2.1
  · rename_i same
    exact absurd (List.cons.inj same).1 plain.2.2
  · rfl

theorem ends_behind {mark : UInt16} (marked : ¬ IsLiteralUnit mark) (texts : List JsString) (rest : JsString) :
    Ends (behind mark texts rest) := by
  intro c head
  unfold behind at head
  split at head
  · obtain rfl := Option.some.inj head
    exact marked
  · obtain rfl := Option.some.inj head
    decide

theorem length_behind (mark : UInt16) (texts : List JsString) (rest : JsString) :
    rest.length < (behind mark texts rest).length := by
  unfold behind
  split
  · simp
  · simp only [List.length_cons, closed, List.length_append]
    omega

theorem parseValue_elements {s rest : JsString} (start : skipBlanks s = 91 :: rest)
    (nonempty : ∀ after, skipBlanks rest ≠ 93 :: after) (fuel : ℕ) : parseValue (fuel + 1) s =
      (parseElements fuel (skipBlanks rest)).map fun (elements, after) => (.array elements, after) := by
  rw [parseValue, start]
  change (match skipBlanks rest with
    | 93 :: after => some (JsValue.array [], after)
    | first => (parseElements fuel first).map fun (elements, after) => (JsValue.array elements, after)) = _
  split
  · rename_i closing
    exact absurd closing (nonempty _)
  · rfl

theorem parseValue_members {s rest : JsString} (start : skipBlanks s = 123 :: rest)
    (nonempty : ∀ after, skipBlanks rest ≠ 125 :: after) (fuel : ℕ) : parseValue (fuel + 1) s =
      (parseMembers fuel [] (skipBlanks rest)).map fun (properties, after) => (.object properties, after) := by
  rw [parseValue, start]
  change (match skipBlanks rest with
    | 125 :: after => some (JsValue.object [], after)
    | first => (parseMembers fuel [] first).map fun (properties, after) => (JsValue.object properties, after)) = _
  split
  · rename_i closing
    exact absurd closing (nonempty _)
  · rfl

theorem length_skipBlanks (s : JsString) : (skipBlanks s).length ≤ s.length :=
  (List.dropWhile_suffix _).length_le

theorem andUnit_eq_some {unit : UInt16} {read : Option (JsString × JsString)} {value after : JsString}
    (whole : andUnit unit read = some (value, after)) : ∃ rest, read = some (rest, after) := by
  obtain ⟨⟨rest, later⟩, inside, same⟩ := Option.map_eq_some_iff.mp whole
  cases same
  exact ⟨rest, inside⟩

theorem parseString_shorter {s value after : JsString} (read : parseString s = some (value, after)) :
    after.length < s.length := by
  induction s using parseString.induct generalizing value with
  | case1 => cases read
  | case2 rest =>
    cases read
    exact Nat.lt_succ_self _
  | case3 a b c d rest ih =>
    rw [parseString] at read
    obtain ⟨unit, -, inside⟩ := Option.bind_eq_some_iff.mp read
    obtain ⟨units, tail⟩ := andUnit_eq_some inside
    have shorter := ih tail
    simp only [List.length_cons]
    omega
  | case4 letter rest apart ih =>
    rw [parseString] at read
    · obtain ⟨unit, -, inside⟩ := Option.bind_eq_some_iff.mp read
      obtain ⟨units, tail⟩ := andUnit_eq_some inside
      have shorter := ih tail
      simp only [List.length_cons]
      omega
    · exact apart
  | case5 c rest quotation escaped other control =>
    rw [parseString, if_pos control] at read
    · cases read
    all_goals assumption
  | case6 c rest quotation escaped other printable ih =>
    rw [parseString, if_neg printable] at read
    · obtain ⟨units, tail⟩ := andUnit_eq_some read
      exact (ih tail).trans (Nat.lt_succ_self _)
    all_goals assumption

theorem parseLiteral_shorter {s after : JsString} {value : JsValue} (read : parseLiteral s = some (value, after)) :
    after.length < s.length := by
  unfold parseLiteral at read
  split at read
  · rename_i word _ found
    cases read
    have member := List.mem_of_find?_eq_some found
    have inside := List.find?_some found
    have fits : word.length ≤ s.length := (List.isPrefixOf_iff_prefix.mp inside).length_le
    have each : ∀ word ∈ words.map Prod.fst, 0 < word.length := by decide
    have some := each word (List.mem_map_of_mem member)
    rw [List.length_drop]
    omega
  · unfold parseNumber at read
    dsimp only at read
    split at read
    · rename_i number
      cases read
      have some : s.takeWhile (fun c => IsLiteralUnit c) ≠ [] := by
        intro nothing
        rw [nothing] at number
        exact absurd number (by decide)
      have parts := congrArg List.length
          (List.takeWhile_append_dropWhile (p := fun c => decide (IsLiteralUnit c)) (l := s))
      have positive := List.length_pos_of_ne_nil some
      rw [List.length_append] at parts
      omega
    · cases read

/-- What is read is shorter than what it is read from, and as much fuel as is read is
enough of it. -/
def Spends {α : Type} (parser : ℕ → JsString → Option (α × JsString)) (fuel : ℕ) : Prop :=
  ∀ ⦃s : JsString⦄ ⦃value : α⦄ ⦃after : JsString⦄, parser fuel s = some (value, after) →
    after.length < s.length ∧ ∀ other, s.length < other + after.length → parser other s = some (value, after)

section Fuel
variable {fuel : ℕ} (elements : Spends parseElements fuel)
  (members : ∀ properties, Spends (fun fuel s => parseMembers fuel properties s) fuel)

include elements members in
theorem parseValue_spends : Spends parseValue (fuel + 1) := by
  intro s value after read
  have blanks := length_skipBlanks s
  -- whatever fuel there is, some of it is left
  suffices spent : after.length < s.length ∧
      ∀ other, s.length < other + 1 + after.length → parseValue (other + 1) s = some (value, after) by
    refine ⟨spent.1, fun other enough => ?_⟩
    obtain ⟨other, rfl⟩ : ∃ more, other = more + 1 := ⟨other - 1, by omega⟩
    exact spent.2 other enough
  rw [parseValue] at read
  split at read
  · rename_i rest start
    obtain ⟨⟨text, later⟩, inside, same⟩ := Option.map_eq_some_iff.mp read
    cases same
    have shorter := parseString_shorter inside
    rw [start, List.length_cons] at blanks
    refine ⟨by omega, fun other _ => ?_⟩
    rw [parseValue, start]
    exact read
  · rename_i rest start
    have inner := length_skipBlanks rest
    rw [start, List.length_cons] at blanks
    split at read
    · rename_i closing
      cases read
      rw [closing, List.length_cons] at inner
      refine ⟨by omega, fun other _ => ?_⟩
      rw [parseValue, start]
      simp only [closing]
    · rename_i nonempty
      obtain ⟨⟨listed, later⟩, inside, same⟩ := Option.map_eq_some_iff.mp read
      cases same
      obtain ⟨shorter, further⟩ := elements inside
      refine ⟨by omega, fun other enough => ?_⟩
      rw [parseValue_elements start nonempty, further other (by omega)]
      rfl
  · rename_i rest start
    have inner := length_skipBlanks rest
    rw [start, List.length_cons] at blanks
    split at read
    · rename_i closing
      cases read
      rw [closing, List.length_cons] at inner
      refine ⟨by omega, fun other _ => ?_⟩
      rw [parseValue, start]
      simp only [closing]
    · rename_i nonempty
      obtain ⟨⟨listed, later⟩, inside, same⟩ := Option.map_eq_some_iff.mp read
      cases same
      obtain ⟨shorter, further⟩ := members [] inside
      refine ⟨by omega, fun other enough => ?_⟩
      have whole : parseMembers other [] (skipBlanks rest) = some (listed, after) := further other (by omega)
      rw [parseValue_members start nonempty, whole]
      rfl
  · rename_i string array object
    have shorter := parseLiteral_shorter read
    refine ⟨by omega, fun other _ => ?_⟩
    rw [parseValue]
    split
    · rename_i start
      exact absurd start (string _)
    · rename_i start
      exact absurd start (array _)
    · rename_i start
      exact absurd start (object _)
    · exact read

variable (values : Spends parseValue fuel)

include elements values in
theorem parseElements_spends : Spends parseElements (fuel + 1) := by
  intro s value after read
  rw [parseElements] at read
  obtain ⟨⟨first, middle⟩, inside, rest⟩ := Option.bind_eq_some_iff.mp read
  obtain ⟨shorter, further⟩ := values inside
  have blanks := length_skipBlanks middle
  dsimp only at rest
  split at rest
  · rename_i more start
    obtain ⟨⟨others, later⟩, tail, same⟩ := Option.map_eq_some_iff.mp rest
    dsimp only at same
    cases same
    obtain ⟨shorter', further'⟩ := elements tail
    rw [start, List.length_cons] at blanks
    refine ⟨by omega, fun other enough => ?_⟩
    obtain ⟨other, rfl⟩ : ∃ more, other = more + 1 := ⟨other - 1, by omega⟩
    rw [parseElements, further other (by omega), Option.bind_some]
    simp only [start, further' other (by omega), Option.map_some]
  · rename_i more start
    cases rest
    rw [start, List.length_cons] at blanks
    refine ⟨by omega, fun other enough => ?_⟩
    obtain ⟨other, rfl⟩ : ∃ more, other = more + 1 := ⟨other - 1, by omega⟩
    rw [parseElements, further other (by omega), Option.bind_some]
    simp only [start]
  · cases rest

include members values in
theorem parseMembers_spends (properties : Properties) :
    Spends (fun fuel s => parseMembers fuel properties s) (fuel + 1) := by
  intro s value after read
  have blanks := length_skipBlanks s
  dsimp only at read ⊢
  rw [parseMembers] at read
  split at read
  · rename_i rest start
    rw [start, List.length_cons] at blanks
    obtain ⟨⟨key, middle⟩, named, valued⟩ := Option.bind_eq_some_iff.mp read
    have shorter := parseString_shorter named
    have colon := length_skipBlanks middle
    dsimp only at valued
    split at valued
    · rename_i more mark
      rw [mark, List.length_cons] at colon
      obtain ⟨⟨first, later⟩, inside, tail⟩ := Option.bind_eq_some_iff.mp valued
      obtain ⟨shorter', further⟩ := values inside
      have last := length_skipBlanks later
      dsimp only at tail
      split at tail
      · rename_i others comma
        rw [comma, List.length_cons] at last
        obtain ⟨shorter'', further'⟩ := members _ tail
        refine ⟨by omega, fun other enough => ?_⟩
        obtain ⟨other, rfl⟩ : ∃ more, other = more + 1 := ⟨other - 1, by omega⟩
        rw [parseMembers, start]
        simp only [named, Option.bind_some, mark, further other (by omega), comma]
        exact further' other (by omega)
      · rename_i others closing
        cases tail
        rw [closing, List.length_cons] at last
        refine ⟨by omega, fun other enough => ?_⟩
        obtain ⟨other, rfl⟩ : ∃ more, other = more + 1 := ⟨other - 1, by omega⟩
        rw [parseMembers, start]
        simp only [named, Option.bind_some, mark, further other (by omega), closing]
      · cases tail
    · cases valued
  · cases read

end Fuel

theorem parse_spends (fuel : ℕ) :
    Spends parseValue fuel ∧ Spends parseElements fuel ∧
      ∀ properties, Spends (fun fuel s => parseMembers fuel properties s) fuel := by
  induction fuel with
  | zero =>
    refine ⟨?_, ?_, ?_⟩
    · intro s value after read
      cases read
    · intro s value after read
      cases read
    · intro properties s value after read
      cases read
  | succ fuel ih =>
    obtain ⟨values, elements, members⟩ := ih
    exact ⟨parseValue_spends elements members, parseElements_spends elements values,
      parseMembers_spends members values⟩

/-- **Fuel.** More of it than `parse` takes reads nothing more. -/
theorem parse_eq_some_iff {s : JsString} {value : JsValue} :
    parse s = some value ↔ ∃ fuel after, parseValue fuel s = some (value, after) ∧ skipBlanks after = [] := by
  unfold parse
  constructor
  · intro read
    obtain ⟨⟨found, after⟩, inside, rest⟩ := Option.bind_eq_some_iff.mp read
    dsimp only at rest
    split at rest
    · rename_i blank
      cases rest
      exact ⟨_, after, inside, blank⟩
    · cases rest
  · rintro ⟨fuel, after, inside, blank⟩
    rw [((parse_spends fuel).1 inside).2 (s.length + 1) (by omega), Option.bind_some]
    exact if_pos blank

/-! ## The round trip -/

/-- The text of one value, whatever follows it, is read as its data. -/
def Readable (value : JsValue) : Prop :=
  ∀ ⦃written rest : JsString⦄ ⦃fuel : ℕ⦄, value.write = some written → written.length < fuel →
    Ends rest → parseValue fuel (written ++ rest) = some (value.data, rest)

/-- A sequence is read element by element, with a unit of fuel for each. -/
theorem parseElements_closed {elements : List JsValue} {texts : List JsString}
    (readable : ∀ element ∈ elements, Readable element)
    (written : List.Forall₂ (fun value written => value.write = some written) elements texts)
    (nonempty : texts ≠ [])
    {fuel : ℕ} {rest : JsString} (enough : (closed 93 texts rest).length < fuel + rest.length) :
    parseElements fuel (closed 93 texts rest) = some (elements.map JsValue.data, rest) := by
  induction written generalizing fuel with
  | nil => exact absurd rfl nonempty
  | @cons value first elements texts here others ih =>
    rw [closed_cons, List.length_append] at enough
    have beyond := length_behind 93 texts rest
    cases fuel with
    | zero => omega
    | succ fuel =>
      have fits : first.length < fuel := by omega
      rw [closed_cons, parseElements, readable _ List.mem_cons_self here fits (ends_behind (by decide) texts rest),
        Option.bind_some]
      by_cases last : texts = []
      · subst last
        cases others
        rw [behind, if_pos rfl]
        simp only [skipBlanks_cons (show ¬ IsBlank 93 by decide)]
        rfl
      · rw [behind, if_neg last] at enough ⊢
        simp only [skipBlanks_cons (show ¬ IsBlank 44 by decide)]
        rw [List.length_cons] at enough
        have less : (closed 93 texts rest).length < fuel + rest.length := by omega
        have tail := ih (fun element member => readable element (List.mem_cons_of_mem _ member)) last less
        simp only [tail, Option.map_some, List.map_cons]

theorem parseMembers_closed {properties : Properties} {texts : List JsString}
    (readable : ∀ property ∈ properties, Readable property.2)
    (written : List.Forall₂ PropertyText properties texts)
    (nonempty : texts ≠ []) {fuel : ℕ} {before : Properties} {rest : JsString}
    (enough : (closed 125 texts rest).length < fuel + rest.length) :
    parseMembers fuel before (closed 125 texts rest) =
      some ((properties.map fun property => (property.1, property.2.data)).foldl
        (fun held property => defineProperty property.1 property.2 held) before, rest) := by
  induction written generalizing fuel before with
  | nil => exact absurd rfl nonempty
  | @cons property first properties texts here others ih =>
    rw [closed_cons, List.length_append] at enough
    obtain ⟨contents, value, rfl⟩ := here
    have split : quote property.1 ++ 58 :: contents ++ behind 125 texts rest =
        34 :: ((codePoints property.1).flatMap CodePoint.quoted ++
          34 :: (58 :: (contents ++ behind 125 texts rest))) := by
      rw [List.append_assoc, quote_append]
      rfl
    have inside : contents.length + 1 ≤ (quote property.1 ++ 58 :: contents).length := by simp
    have beyond := length_behind 125 texts rest
    cases fuel with
    | zero => omega
    | succ fuel =>
      have fits : contents.length < fuel := by omega
      have value_read := readable _ List.mem_cons_self value fits
        (ends_behind (show ¬ IsLiteralUnit 125 by decide) texts rest)
      rw [closed_cons, split, parseMembers, skipBlanks_cons (by decide)]
      simp only [parseString_quote, Option.bind_some, skipBlanks_cons (show ¬ IsBlank 58 by decide), value_read]
      by_cases last : texts = []
      · subst last
        cases others
        rw [behind, if_pos rfl, skipBlanks_cons (by decide)]
        rfl
      · rw [behind, if_neg last] at enough ⊢
        rw [skipBlanks_cons (by decide)]
        rw [List.length_cons] at enough
        have less : (closed 125 texts rest).length < fuel + rest.length := by omega
        exact ih (fun other member => readable other (List.mem_cons_of_mem _ member)) last less

/-- **Values.** By induction on the value, with the length of its text as fuel. -/
theorem readable_of_enumerated {value : JsValue} (enumerated : value.Enumerated) : Readable value := by
  induction enumerated with
  | null | infinite =>
    intro written rest fuel here enough ends
    obtain rfl := Option.some.inj here
    obtain ⟨fuel, rfl⟩ := Nat.exists_eq_succ_of_ne_zero (Nat.ne_zero_of_lt enough)
    exact parseValue_literal (by decide) (by decide) fuel _
  | bool value =>
    intro written rest fuel here enough ends
    obtain rfl := Option.some.inj here
    obtain ⟨fuel, rfl⟩ := Nat.exists_eq_succ_of_ne_zero (Nat.ne_zero_of_lt enough)
    cases value
    · exact parseValue_literal (by decide) (by decide) fuel _
    · exact parseValue_literal (by decide) (by decide) fuel _
  | number x =>
    intro written rest fuel here enough ends
    obtain rfl := Option.some.inj here
    obtain ⟨fuel, rfl⟩ := Nat.exists_eq_succ_of_ne_zero (Nat.ne_zero_of_lt enough)
    have read := parseLiteral_number x ends
    obtain ⟨c, more, shape⟩ := List.exists_cons_of_ne_nil (toString_ne_nil x)
    have unit : IsNumberUnit c := isNumberUnit_of_mem_toString (x := x) (by simp [shape])
    have other (mark : UInt16) (plain : ¬ IsNumberUnit mark) : c ≠ mark := by
      rintro rfl
      exact plain unit
    have kind : shapeOfUnit c = some .number := if_pos unit
    rw [shape] at read ⊢
    rw [List.cons_append, parseValue_literal (not_isBlank_of_shape kind)
      ⟨other 34 (by decide), other 91 (by decide), other 123 (by decide)⟩]
    exact read
  | bigint value =>
    intro written rest fuel here
    cases here
  | string s =>
    intro written rest fuel here enough ends
    obtain rfl := Option.some.inj here
    obtain ⟨fuel, rfl⟩ := Nat.exists_eq_succ_of_ne_zero (Nat.ne_zero_of_lt enough)
    rw [quote_append, parseValue, skipBlanks_cons (by decide)]
    simp only [parseString_quote, Option.map_some]
    rfl
  | @array elements each ih =>
    intro written rest fuel here enough ends
    obtain ⟨texts, listed, rfl⟩ := Option.map_eq_some_iff.mp here
    obtain ⟨fuel, rfl⟩ := Nat.exists_eq_succ_of_ne_zero (Nat.ne_zero_of_lt enough)
    have elements_written := writeElements_eq_some.mp listed
    have length := congrArg List.length (array_append texts rest)
    rw [List.length_append, List.length_cons] at length
    rw [array_append, data_array]
    by_cases empty : texts = []
    · subst empty
      cases elements_written
      rfl
    · have less : (closed 93 texts rest).length < fuel + rest.length := by omega
      have read := parseElements_closed ih elements_written empty less
      have first : ∃ c more, closed 93 texts rest = c :: more ∧ ¬ IsBlank c ∧ c ≠ 93 := by
        cases elements_written with
        | nil => exact absurd rfl empty
        | cons value others =>
          obtain ⟨c, more, rfl, kind⟩ := write_starts value
          obtain ⟨_, _, same, other⟩ := write_ne_mark value
          refine ⟨c, _, by rw [closed_cons]; rfl, not_isBlank_of_shape kind, ?_⟩
          rwa [← (List.cons.inj same).1] at other
      obtain ⟨c, more, shape, mark, other⟩ := first
      rw [shape] at read ⊢
      have start := skipBlanks_cons (show ¬ IsBlank 91 by decide) (c :: more)
      rw [parseValue_elements start (by simp [skipBlanks_cons mark, other]), skipBlanks_cons mark, read]
      rfl
  | @object properties inOrder each ih =>
    intro written rest fuel here enough ends
    obtain ⟨texts, listed, rfl⟩ := Option.map_eq_some_iff.mp here
    obtain ⟨fuel, rfl⟩ := Nat.exists_eq_succ_of_ne_zero (Nat.ne_zero_of_lt enough)
    have properties_written := writeProperties_eq_some.mp listed
    have length := congrArg List.length (object_append texts rest)
    rw [List.length_append, List.length_cons] at length
    rw [object_append, data_object]
    by_cases empty : texts = []
    · subst empty
      cases properties_written
      rfl
    · have less : (closed 125 texts rest).length < fuel + rest.length := by omega
      have read := @parseMembers_closed _ _ ih properties_written empty fuel [] rest less
      rw [@foldl_defineProperty [] _ (inOrder.map JsValue.data), List.nil_append] at read
      have first : ∃ more, closed 125 texts rest = 34 :: more := by
        cases properties_written with
        | nil => exact absurd rfl empty
        | cons member others =>
          obtain ⟨contents, -, rfl⟩ := member
          exact ⟨_, by rw [closed_cons, List.append_assoc, quote_append]⟩
      obtain ⟨more, shape⟩ := first
      rw [shape] at read ⊢
      have start := skipBlanks_cons (show ¬ IsBlank 123 by decide) (34 :: more)
      have quotation := skipBlanks_cons (show ¬ IsBlank 34 by decide) more
      rw [parseValue_members start (by simp [quotation]), quotation, read]
      rfl

/-- **Round trip.** What `JSON.stringify` writes of a value, `JSON.parse` reads as the
data it holds. -/
theorem parse_write {value : JsValue} (enumerated : value.Enumerated) {written : JsString}
    (here : value.write = some written) : parse written = some value.data := by
  have ended : Ends [] := by simp [Ends]
  have read := readable_of_enumerated enumerated here (Nat.lt_succ_self _) ended
  rw [List.append_nil] at read
  exact parse_eq_some_iff.mpr ⟨_, [], read, rfl⟩

end PassportKit.Js
