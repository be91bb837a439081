import Mathlib.Data.List.Lex
import Mathlib.Data.List.Sort
import PassportKit.JsonText

/-! Objects of ECMAScript. How an object comes to enumerate its keys in some
order when they are set one after the other, and when two values hold the same
content, whatever their keys were set in. -/
namespace PassportKit.Js

/-- The array index a key is, if it is one. -/
def arrayIndex (key : JsString) : Option ℕ :=
  if key = decimalDigits (readDecimal key) ∧ readDecimal key < 2 ^ 32 - 1 then some (readDecimal key) else none

/-- Array indices are enumerated first, in ascending order, and every other key
where it was set. -/
def EnumeratedBefore (key other : JsString) : Prop :=
  ∃ index ∈ arrayIndex key, ∀ later ∈ arrayIndex other, index < later

instance : DecidableRel EnumeratedBefore := fun key other =>
  match here : arrayIndex key with
  | none => .isFalse fun ⟨index, member, _⟩ => by simp [here] at member
  | some index =>
    if before : ∀ later ∈ arrayIndex other, index < later then .isTrue ⟨index, here, before⟩
    else .isFalse fun ⟨index', member, holds⟩ => before (by cases here.symm.trans member; exact holds)

/-- The name under which every object inherits an accessor of its prototype. -/
def proto : JsString := text "__proto__"

/-- `object[key] = value`. Without a property of its own under `__proto__`, an
object gets none there. -/
def setProperty (key : JsString) (value : JsValue) (properties : Properties) : Properties :=
  if key ∈ properties.map Prod.fst then
    properties.map fun property => if property.1 = key then (key, value) else property
  else if key = proto then properties
  else properties.orderedInsert (fun first second => EnumeratedBefore first.1 second.1) (key, value)

/-- The enumerated keys once one more is set. -/
def addKey (keys : List JsString) (key : JsString) : List JsString :=
  if key ∈ keys then keys else if key = proto then keys else keys.orderedInsert EnumeratedBefore key

/-- The order in which an object enumerates keys that were set in this order. -/
def enumeration (keys : List JsString) : List JsString := keys.foldl addKey []

theorem enumeration_concat (keys : List JsString) (key : JsString) :
    enumeration (keys ++ [key]) = addKey (enumeration keys) key := by
  rw [enumeration, List.foldl_append]
  rfl

theorem setProperty_map (value : JsString → JsValue) (key : JsString) (keys : List JsString) :
    setProperty key (value key) (keys.map fun name => (name, value name)) =
      (addKey keys key).map fun name => (name, value name) := by
  have names : (keys.map fun name => (name, value name)).map Prod.fst = keys := by
    rw [List.map_map]
    exact List.map_id keys
  rw [setProperty, names, addKey]
  split
  · -- a property that is there already has the same value
    rw [List.map_map]
    apply List.map_congr_left
    intro name member
    by_cases same : name = key
    · simp [same]
    · simp [same]
  split
  · rfl
  · symm
    apply List.map_orderedInsert
    · exact fun _ _ => Iff.rfl
    · exact fun _ _ => Iff.rfl

/-- **Building.** Which values are set does not matter to the order of the keys. -/
theorem foldl_setProperty (value : JsString → JsValue) (keys : List JsString) :
    keys.foldl (fun properties key => setProperty key (value key) properties) [] =
      (enumeration keys).map fun key => (key, value key) := by
  induction keys using List.reverseRecOn with
  | nil => rfl
  | append_singleton keys key ih =>
    rw [List.foldl_append, ih, enumeration_concat]
    exact setProperty_map value key _

theorem mem_enumeration {keys : List JsString} {key : JsString} :
    key ∈ enumeration keys ↔ key ∈ keys ∧ key ≠ proto := by
  induction keys using List.reverseRecOn with
  | nil => simp [enumeration]
  | append_singleton keys last ih =>
    rw [enumeration_concat, addKey, List.mem_append, List.mem_singleton]
    split
    · rename_i held
      rw [ih]
      constructor
      · exact fun ⟨member, other⟩ => ⟨.inl member, other⟩
      · rintro ⟨member | rfl, other⟩
        · exact ⟨member, other⟩
        · exact ih.mp held
    split
    · rename_i _ accessor
      rw [ih]
      constructor
      · exact fun ⟨member, other⟩ => ⟨.inl member, other⟩
      · rintro ⟨member | rfl, other⟩
        · exact ⟨member, other⟩
        · exact absurd accessor other
    · rename_i _ ordinary
      rw [List.mem_orderedInsert, ih]
      constructor
      · rintro (rfl | ⟨member, other⟩)
        · exact ⟨.inr rfl, ordinary⟩
        · exact ⟨.inl member, other⟩
      · rintro ⟨member | rfl, other⟩
        · exact .inr ⟨member, other⟩
        · exact .inl rfl

/-- The order of strings by their code units. -/
def KeyLE (key other : JsString) : Prop := key.map UInt16.toNat ≤ other.map UInt16.toNat

instance : DecidableRel KeyLE := fun key other =>
  inferInstanceAs (Decidable (key.map UInt16.toNat ≤ other.map UInt16.toNat))

instance : Std.Total KeyLE := ⟨fun _ _ => le_total _ _⟩

instance : IsTrans JsString KeyLE := ⟨fun _ _ _ => le_trans⟩

instance : Std.Antisymm KeyLE :=
  ⟨fun _ _ first second => List.map_injective_iff.mpr (fun _ _ => UInt16.toNat_inj.mp) (le_antisymm first second)⟩

/-- `keys.sort()` -/
def sortKeys (keys : List JsString) : List JsString := keys.insertionSort KeyLE

theorem mem_sortKeys {keys : List JsString} {key : JsString} : key ∈ sortKeys keys ↔ key ∈ keys :=
  List.mem_insertionSort _

/-- The order the keys came in does not show. -/
theorem sortKeys_eq_of_perm {keys others : List JsString} (same : keys.Perm others) :
    sortKeys keys = sortKeys others := by
  apply List.Perm.eq_of_pairwise' (List.pairwise_insertionSort KeyLE _) (List.pairwise_insertionSort KeyLE _)
  exact ((List.perm_insertionSort KeyLE keys).trans same).trans (List.perm_insertionSort KeyLE others).symm

mutual

/-- No object has two properties under one key, at any depth. -/
def JsValue.WellKeyed : JsValue → Prop
  | .array elements => ElementsWellKeyed elements
  | .object properties => (properties.map Prod.fst).Nodup ∧ PropertiesWellKeyed properties
  | .null | .bool _ | .number _ | .infinite _ | .bigint _ | .string _ => True
termination_by structural value => value

def ElementsWellKeyed : List JsValue → Prop
  | [] => True
  | value :: rest => value.WellKeyed ∧ ElementsWellKeyed rest
termination_by structural elements => elements

def PropertyWellKeyed : JsString × JsValue → Prop
  | (_, value) => value.WellKeyed
termination_by structural property => property

def PropertiesWellKeyed : List (JsString × JsValue) → Prop
  | [] => True
  | property :: rest => PropertyWellKeyed property ∧ PropertiesWellKeyed rest
termination_by structural properties => properties

end

theorem elementsWellKeyed_iff {elements : List JsValue} :
    ElementsWellKeyed elements ↔ ∀ value ∈ elements, value.WellKeyed := by
  induction elements with
  | nil => exact iff_of_true trivial fun _ member => absurd member List.not_mem_nil
  | cons value rest ih => rw [ElementsWellKeyed, ih, List.forall_mem_cons]

theorem propertiesWellKeyed_iff {properties : Properties} :
    PropertiesWellKeyed properties ↔ ∀ property ∈ properties, property.2.WellKeyed := by
  induction properties with
  | nil => exact iff_of_true trivial fun _ member => absurd member List.not_mem_nil
  | cons property rest ih => rw [PropertiesWellKeyed, ih, List.forall_mem_cons, PropertyWellKeyed]

/-- The value of a property is well keyed with its object. -/
theorem JsValue.WellKeyed.value {properties : Properties} (keyed : (JsValue.object properties).WellKeyed)
    {key : JsString} {value : JsValue} (found : properties.lookup key = some value) : value.WellKeyed := by
  rw [JsValue.WellKeyed, propertiesWellKeyed_iff] at keyed
  exact keyed.2 _ (mem_of_lookup found)

theorem lookup_of_mem {properties : Properties} {key : JsString} {value : JsValue}
    (distinct : (properties.map Prod.fst).Nodup) (member : (key, value) ∈ properties) :
    properties.lookup key = some value := by
  obtain ⟨before, after, rfl⟩ := List.append_of_mem member
  rw [List.lookup_eq_some_iff]
  refine ⟨before, after, rfl, ?_⟩
  rw [List.map_append, List.map_cons] at distinct
  intro entry inside
  have fresh := (List.nodup_append.mp distinct).2.2 entry.1 (List.mem_map_of_mem inside) key List.mem_cons_self
  simpa using fun same => fresh same.symm

/-- Two values that differ at most in the order of keys, at any depth. -/
inductive SameContent : JsValue → JsValue → Prop where
  | same (value : JsValue) : SameContent value value
  | array {first second : List JsValue} (length : first.length = second.length)
      (each : ∀ (i : ℕ) value other, first[i]? = some value → second[i]? = some other →
        SameContent value other) :
      SameContent (.array first) (.array second)
  | object {first second : Properties}
      (keys : ∀ key, key ∈ first.map Prod.fst ↔ key ∈ second.map Prod.fst)
      (each : ∀ key value other, first.lookup key = some value → second.lookup key = some other →
        SameContent value other) :
      SameContent (.object first) (.object second)

/-- Setting the same properties in another order does not change the content. -/
theorem sameContent_of_perm {first second : Properties} (distinct : (first.map Prod.fst).Nodup)
    (reordered : first.Perm second) : SameContent (.object first) (.object second) := by
  apply SameContent.object
  · exact fun key => (reordered.map Prod.fst).mem_iff
  · intro key value other here there
    have distinct' := (reordered.map Prod.fst).nodup_iff.mp distinct
    have found := lookup_of_mem distinct' (reordered.mem_iff.mp (mem_of_lookup here))
    rw [there, Option.some.injEq] at found
    exact found ▸ .same _

/-- What is left of a value when only its keys are, and the order they are
enumerated in. -/
def JsValue.skeleton (value : JsValue) : JsValue := value.replaced fun _ => .null

/-- Two values enumerate their keys in the same order at every depth. -/
def SameOrder (value other : JsValue) : Prop := value.skeleton = other.skeleton

/-- A replacer that makes no array or object of anything else. -/
def KeepsAtoms (replacer : JsValue → JsValue) : Prop :=
  ∀ value : JsValue, value.shape ≠ .array → value.shape ≠ .object →
    (replacer value).shape ≠ .array ∧ (replacer value).shape ≠ .object

theorem replaced_atom (replacer : JsValue → JsValue) {value : JsValue} (unlisted : value.shape ≠ .array)
    (plain : value.shape ≠ .object) : value.replaced replacer = replacer value := by
  cases value with
  | array => exact absurd rfl unlisted
  | object => exact absurd rfl plain
  | null | bool | number | infinite | bigint | string => rfl

theorem replaced_replaced_atom {first : JsValue → JsValue} (keeps : KeepsAtoms first)
    (second : JsValue → JsValue) {value : JsValue} (unlisted : value.shape ≠ .array)
    (plain : value.shape ≠ .object) :
    (value.replaced first).replaced second = value.replaced fun atom => second (first atom) := by
  obtain ⟨unlisted', plain'⟩ := keeps value unlisted plain
  rw [replaced_atom first unlisted plain, replaced_atom second unlisted' plain', replaced_atom _ unlisted plain]

/-- Replacing in a replacement is one replacement. -/
theorem replaced_replaced {first : JsValue → JsValue} (keeps : KeepsAtoms first) (second : JsValue → JsValue)
    (value : JsValue) :
    (value.replaced first).replaced second = value.replaced fun atom => second (first atom) := by
  induction value with
  | array elements ih =>
    simp only [JsValue.replaced, replacedElements_eq_map, List.map_map]
    exact congrArg _ (List.map_congr_left ih)
  | object properties ih =>
    simp only [JsValue.replaced, replacedProperties_eq_map, List.map_map]
    exact congrArg _ (List.map_congr_left fun property member => Prod.ext rfl (ih property member))
  | null | bool | number | infinite | bigint | string =>
    exact replaced_replaced_atom keeps second (by rintro ⟨⟩) (by rintro ⟨⟩)

/-- A replacement keeps the keys, and their order. -/
theorem skeleton_replaced {replacer : JsValue → JsValue} (keeps : KeepsAtoms replacer) (value : JsValue) :
    (value.replaced replacer).skeleton = value.skeleton :=
  replaced_replaced keeps _ value

theorem skeleton_array (elements : List JsValue) :
    (JsValue.array elements).skeleton = .array (elements.map JsValue.skeleton) := by
  rw [JsValue.skeleton, JsValue.replaced, replacedElements_eq_map]
  rfl

theorem skeleton_object (properties : Properties) :
    (JsValue.object properties).skeleton =
      .object (properties.map fun property => (property.1, property.2.skeleton)) := by
  rw [JsValue.skeleton, JsValue.replaced, replacedProperties_eq_map]
  rfl

/-- **Content and order.** Values of one content that enumerate their keys in
the same order are one value. -/
theorem SameContent.eq_of_sameOrder {value other : JsValue} (same : SameContent value other)
    (keyed : value.WellKeyed) (keyed' : other.WellKeyed) (order : SameOrder value other) :
    value = other := by
  induction same with
  | same value => rfl
  | array length each ih =>
    rw [SameOrder, skeleton_array, skeleton_array, JsValue.array.injEq] at order
    rw [JsValue.WellKeyed, elementsWellKeyed_iff] at keyed keyed'
    apply congrArg
    apply List.ext_getElem length
    intro i here there
    have skeletons := congrArg (fun list => list[i]?) order
    simp only [List.getElem?_map, List.getElem?_eq_getElem here, List.getElem?_eq_getElem there,
      Option.map_some, Option.some.injEq] at skeletons
    exact ih i _ _ (List.getElem?_eq_getElem here) (List.getElem?_eq_getElem there)
      (keyed _ (List.getElem_mem here)) (keyed' _ (List.getElem_mem there)) skeletons
  | @object first second keys each ih =>
    rw [SameOrder, skeleton_object, skeleton_object, JsValue.object.injEq] at order
    rw [JsValue.WellKeyed, propertiesWellKeyed_iff] at keyed keyed'
    have length : first.length = second.length := by simpa using congrArg List.length order
    apply congrArg
    apply List.ext_getElem length
    intro i here there
    have entries := congrArg (fun list => list[i]?) order
    simp only [List.getElem?_map, List.getElem?_eq_getElem here, List.getElem?_eq_getElem there,
      Option.map_some, Option.some.injEq, Prod.mk.injEq] at entries
    obtain ⟨name, skeletons⟩ := entries
    have found : first.lookup first[i].1 = some first[i].2 := lookup_of_mem keyed.1 (List.getElem_mem here)
    have found' : second.lookup first[i].1 = some second[i].2 := by
      rw [name]
      exact lookup_of_mem keyed'.1 (List.getElem_mem there)
    exact Prod.ext name (ih _ _ _ found found' (keyed.2 _ (List.getElem_mem here))
      (keyed'.2 _ (List.getElem_mem there)) skeletons)

end PassportKit.Js
