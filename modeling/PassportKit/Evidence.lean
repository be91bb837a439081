import PassportKit.Eip712
import PassportKit.JsObject
import PassportKit.TextEncoder

/-! `evidence.js`: the string a decision is hashed as. Its top-level keys are
sorted, so the order they were set in does not show; the order in which an object
below the top was built does. Whatever was hashed can be read off the string, so
an anchored hash stands for one request. -/
namespace PassportKit.Evidence
open Evm Eip712 Js

/-- `toJsonSafe`: a bigint by its decimal string. -/
def toJsonSafe : JsValue → JsValue
  | .bigint value => .string (bigintText value)
  | value => value

/-- The properties of `sorted` once the loop is through. -/
def sortedProperties (decision : Properties) : Properties :=
  (sortKeys (decision.map Prod.fst)).foldl (fun sorted key =>
    (decision.lookup key).elim sorted fun value => setProperty key value sorted) []

/-- `canonicalEvidence`, nothing if it throws. -/
def canonicalEvidence (decision : Properties) : Option JsString :=
  stringify toJsonSafe (.object (sortedProperties decision))

/-- `evidenceHash`: `toHex` writes the bytes of the string, `keccak256` reads them. -/
def evidenceHash {Hash : Type} [Crypto Hash] (decision : Properties) : Option Hash :=
  (canonicalEvidence decision).map fun canonical => keccak256 (packed (utf8 canonical))

theorem keepsAtoms_toJsonSafe : KeepsAtoms toJsonSafe := by
  intro value unlisted plain
  cases value with
  | bigint => exact ⟨nofun, nofun⟩
  | null | bool | number | infinite | string | array | object => exact ⟨unlisted, plain⟩

theorem keepsAtoms_finiteOrNull : KeepsAtoms finiteOrNull := by
  intro value unlisted plain
  cases value with
  | infinite => exact ⟨nofun, nofun⟩
  | null | bool | number | bigint | string | array | object => exact ⟨unlisted, plain⟩

/-- `JSON.stringify` never throws here. -/
theorem exists_canonical (decision : Properties) : ∃ canonical, canonicalEvidence decision = some canonical := by
  apply exists_stringify
  intro value unlisted plain
  cases value with
  | array => exact absurd rfl unlisted
  | object => exact absurd rfl plain
  | null | bool | number | infinite | bigint | string => exact ⟨_, rfl⟩

section Order
variable {decision first second : Properties}

/-- The value under a key that is there. -/
def valueAt (decision : Properties) (key : JsString) : JsValue := (decision.lookup key).getD .null

theorem lookup_eq_valueAt {key : JsString} (member : key ∈ decision.map Prod.fst) :
    decision.lookup key = some (valueAt decision key) := by
  obtain ⟨property, inside, rfl⟩ := List.mem_map.mp member
  cases found : decision.lookup property.1 with
  | some value => rw [valueAt, found, Option.getD_some]
  | none =>
    have absent := List.lookup_eq_none_iff.mp found property inside
    simp at absent

/-- The keys of the evidence, as `sorted` enumerates them. -/
def evidenceKeys (decision : Properties) : List JsString := enumeration (sortKeys (decision.map Prod.fst))

theorem mem_evidenceKeys {key : JsString} :
    key ∈ evidenceKeys decision ↔ key ∈ decision.map Prod.fst ∧ key ≠ proto := by
  rw [evidenceKeys, mem_enumeration, mem_sortKeys]

theorem sortedProperties_eq (decision : Properties) :
    sortedProperties decision = (evidenceKeys decision).map fun key => (key, valueAt decision key) := by
  rw [sortedProperties, evidenceKeys, ← foldl_setProperty]
  apply List.foldl_ext
  intro sorted key member
  rw [lookup_eq_valueAt (mem_sortKeys.mp member)]
  rfl

/-- Objects of one content have their sorted keys in common. -/
theorem evidenceKeys_eq (keyed : (JsValue.object first).WellKeyed) (keyed' : (JsValue.object second).WellKeyed)
    (keys : ∀ key, key ∈ first.map Prod.fst ↔ key ∈ second.map Prod.fst) :
    evidenceKeys first = evidenceKeys second := by
  rw [JsValue.WellKeyed] at keyed keyed'
  rw [evidenceKeys, evidenceKeys, sortKeys_eq_of_perm ((List.perm_ext_iff_of_nodup keyed.1 keyed'.1).mpr keys)]

theorem object_keys (same : SameContent (.object first) (.object second)) :
    ∀ key, key ∈ first.map Prod.fst ↔ key ∈ second.map Prod.fst := by
  cases same with
  | same => exact fun _ => Iff.rfl
  | object keys _ => exact keys

theorem object_values (same : SameContent (.object first) (.object second)) {key : JsString}
    {value other : JsValue} (here : first.lookup key = some value) (there : second.lookup key = some other) :
    SameContent value other := by
  cases same with
  | same =>
    rw [here, Option.some.injEq] at there
    exact there ▸ .same value
  | object _ each => exact each key value other here there

/-- Equal strings enumerate the keys under each property in the same order. -/
theorem sameOrder_of_canonical (keys : evidenceKeys first = evidenceKeys second)
    (same : canonicalEvidence first = canonicalEvidence second) {key : JsString}
    (member : key ∈ evidenceKeys first) : SameOrder (valueAt first key) (valueAt second key) := by
  obtain ⟨canonical, written⟩ := exists_canonical first
  have data := data_eq_of_write written (same ▸ written)
  have skeletons := congrArg JsValue.skeleton data
  rw [JsValue.data, JsValue.data, skeleton_replaced keepsAtoms_finiteOrNull,
    skeleton_replaced keepsAtoms_finiteOrNull, skeleton_replaced keepsAtoms_toJsonSafe,
    skeleton_replaced keepsAtoms_toJsonSafe, skeleton_object, skeleton_object, sortedProperties_eq,
    sortedProperties_eq, ← keys, List.map_map, List.map_map, JsValue.object.injEq] at skeletons
  exact (Prod.mk.inj (List.map_inj_left.mp skeletons key member)).2

/-- The values under every key but the accessor enumerate their own keys alike. -/
def NestedInOrder (first second : Properties) : Prop :=
  ∀ key value other, key ≠ proto → first.lookup key = some value → second.lookup key = some other →
    SameOrder value other

/-- **Construction order.** Two decisions of one content have the same string and
the same hash exactly when the objects below the top were built in the same order. -/
theorem canonical_iff_nested_in_order {Hash : Type} [Crypto Hash]
    (keyed : (JsValue.object first).WellKeyed) (keyed' : (JsValue.object second).WellKeyed)
    (same : SameContent (.object first) (.object second)) :
    (canonicalEvidence first = canonicalEvidence second ∧
      (evidenceHash first : Option Hash) = evidenceHash second) ↔ NestedInOrder first second := by
  have keys := evidenceKeys_eq keyed keyed' (object_keys same)
  constructor
  · rintro ⟨strings, -⟩ key value other ordinary here there
    have member : key ∈ first.map Prod.fst := List.mem_map_of_mem (mem_of_lookup here)
    have order := sameOrder_of_canonical keys strings (mem_evidenceKeys.mpr ⟨member, ordinary⟩)
    rwa [valueAt, valueAt, here, there] at order
  · intro nested
    have strings : canonicalEvidence first = canonicalEvidence second := by
      rw [canonicalEvidence, canonicalEvidence, sortedProperties_eq, sortedProperties_eq, ← keys]
      congr 2
      apply List.map_congr_left
      intro key member
      obtain ⟨inside, ordinary⟩ := mem_evidenceKeys.mp member
      have here := lookup_eq_valueAt inside
      have there := lookup_eq_valueAt ((object_keys same key).mp inside)
      have order := nested key _ _ ordinary here there
      rw [(object_values same here there).eq_of_sameOrder (keyed.value here) (keyed'.value there) order]
    exact ⟨strings, by rw [evidenceHash, evidenceHash, strings]⟩

/-- Reordering a decision moves none of the values. -/
theorem nestedInOrder_of_perm (distinct : (first.map Prod.fst).Nodup) (reordered : first.Perm second) :
    NestedInOrder first second := by
  intro key value other _ here there
  have found := lookup_of_mem ((reordered.map Prod.fst).nodup_iff.mp distinct)
    (reordered.mem_iff.mp (mem_of_lookup here))
  rw [there, Option.some.injEq] at found
  exact congrArg _ found.symm

/-- The two orders of keys in which the same verdict may be put together. -/
def verdict : Properties := [(text "action", .string (text "pay")), (text "amount", .bigint 120)]

theorem flat_decisions_have_one_string :
    (JsValue.object verdict).WellKeyed ∧ verdict ≠ verdict.reverse ∧
      canonicalEvidence verdict = canonicalEvidence verdict.reverse ∧
        (evidenceHash verdict : Option Symbolic) = evidenceHash verdict.reverse := by
  have distinct : (verdict.map Prod.fst).Nodup := by decide
  have reordered : verdict.Perm verdict.reverse := (List.reverse_perm verdict).symm
  have keyed : (JsValue.object verdict).WellKeyed := ⟨distinct, trivial, trivial, trivial⟩
  have keyed' : (JsValue.object verdict.reverse).WellKeyed := ⟨by decide, trivial, trivial, trivial⟩
  refine ⟨keyed, ?_, ?_⟩
  · intro same
    exact absurd (congrArg (List.map Prod.fst) same) (by decide)
  · exact (canonical_iff_nested_in_order keyed keyed' (sameContent_of_perm distinct reordered)).mpr
      (nestedInOrder_of_perm distinct reordered)

/-- A ticket with its keys set in the order they come in. -/
def withTicket (ticket : Properties) : Properties :=
  [(text "action", .string (text "pay")), (text "ticket", .object ticket)]

theorem ticket_keys_show :
    ∃ ticket : Properties, (JsValue.object (withTicket ticket)).WellKeyed ∧
      SameContent (.object (withTicket ticket)) (.object (withTicket ticket.reverse)) ∧
        canonicalEvidence (withTicket ticket) ≠ canonicalEvidence (withTicket ticket.reverse) := by
  refine ⟨[(text "id", .string (text "1")), (text "vendor", .string (text "plumber"))], ?_, ?_, by decide⟩
  · exact ⟨by decide, trivial, ⟨by decide, trivial, trivial, trivial⟩, trivial⟩
  · apply SameContent.object
    · exact fun key => Iff.rfl
    · intro key value other here there
      by_cases ticketed : key = text "ticket"
      · subst ticketed
        obtain rfl := Option.some.inj here
        obtain rfl := Option.some.inj there
        exact sameContent_of_perm (by decide) (List.reverse_perm _).symm
      · -- under every other key the two objects hold the same value
        have agrees (contents : Properties) : (withTicket contents).lookup key =
            [(text "action", JsValue.string (text "pay"))].lookup key := by
          have elsewhere : (key == text "ticket") = false := beq_eq_false_iff_ne.mpr ticketed
          simp only [withTicket, List.lookup_cons, List.lookup_nil, elsewhere]
        rw [agrees] at here there
        rw [here, Option.some.injEq] at there
        exact there ▸ .same value

end Order

structure Decision where
  action : JsString
  rationale : JsString
  confidence : Double

structure Ticket where
  id : Double
  description : JsString
  vendor : JsString
  amount : ℤ
  category : JsString

def Decision.properties (decision : Decision) : Properties :=
  [(text "action", .string decision.action), (text "rationale", .string decision.rationale),
    (text "confidence", .number decision.confidence)]

def Ticket.properties (ticket : Ticket) : Properties :=
  [(text "id", .number ticket.id), (text "description", .string ticket.description),
    (text "vendor", .string ticket.vendor), (text "amount", .bigint ticket.amount),
    (text "category", .string ticket.category)]

/-- `{ ...decision, ticket: { ...ticket, amount: amountWei.toString() } }` -/
def request (decision : Decision) (ticket : Ticket) : Properties :=
  setProperty (text "ticket")
    (.object (setProperty (text "amount") (.string (bigintText ticket.amount)) ticket.properties))
    decision.properties

section Commitment
variable {decision decision' : Decision} {ticket ticket' : Ticket}

theorem sortedProperties_request (decision : Decision) (ticket : Ticket) :
    sortedProperties (request decision ticket) =
      [(text "action", .string decision.action), (text "confidence", .number decision.confidence),
        (text "rationale", .string decision.rationale),
        (text "ticket", .object [(text "id", .number ticket.id), (text "description", .string ticket.description),
          (text "vendor", .string ticket.vendor), (text "amount", .string (bigintText ticket.amount)),
          (text "category", .string ticket.category)])] := by
  rfl

theorem request_injective
    (same : canonicalEvidence (request decision ticket) = canonicalEvidence (request decision' ticket')) :
    decision = decision' ∧ ticket = ticket' := by
  obtain ⟨canonical, written⟩ := exists_canonical (request decision ticket)
  have data := data_eq_of_write written (same ▸ written)
  rw [sortedProperties_request, sortedProperties_request] at data
  obtain ⟨action, rationale, confidence⟩ := decision
  obtain ⟨id, description, vendor, amount, category⟩ := ticket
  simp only [JsValue.data, JsValue.replaced, replacedProperties, replacedProperty, toJsonSafe, finiteOrNull,
    JsValue.object.injEq, List.cons.injEq, Prod.mk.injEq, JsValue.string.injEq,
    JsValue.number.injEq, true_and, and_true] at data
  obtain ⟨rfl, rfl, rfl, rfl, rfl, rfl, amounts, rfl⟩ := data
  cases bigintText_injective amounts
  exact ⟨rfl, rfl⟩

theorem canonical_eq_of_utf8 {decision decision' : Properties} {canonical canonical' : JsString}
    (here : canonicalEvidence decision = some canonical) (there : canonicalEvidence decision' = some canonical')
    (bytes : utf8 canonical = utf8 canonical') : canonical = canonical' :=
  utf8_injective (wellFormed_write here) (wellFormed_write there) bytes

/-- Equal hashes are hashes of one string, if the hash function has no collisions. -/
theorem canonical_eq_of_hash {Hash : Type} [Crypto Hash] (free : CollisionFree Hash)
    {decision decision' : Properties} (same : (evidenceHash decision : Option Hash) = evidenceHash decision') :
    canonicalEvidence decision = canonicalEvidence decision' := by
  obtain ⟨canonical, here⟩ := exists_canonical decision
  obtain ⟨canonical', there⟩ := exists_canonical decision'
  rw [evidenceHash, evidenceHash, here, there, Option.map_some, Option.map_some, Option.some.injEq] at same
  rw [here, there, canonical_eq_of_utf8 here there (packed_injective (free same))]

/-- **Commitment.** The string of a request stands for every field of it, its
bytes stand for the string, and without collisions its hash stands for the request. -/
theorem evidence_commits_to_the_request {Hash : Type} [Crypto Hash] (free : CollisionFree Hash) :
    (canonicalEvidence (request decision ticket) = canonicalEvidence (request decision' ticket') →
      decision = decision' ∧ ticket = ticket') ∧
    (∀ canonical canonical', canonicalEvidence (request decision ticket) = some canonical →
      canonicalEvidence (request decision' ticket') = some canonical' →
        (canonical = canonical' ↔ utf8 canonical = utf8 canonical')) ∧
    ((evidenceHash (request decision ticket) : Option Hash) = evidenceHash (request decision' ticket') →
      decision = decision' ∧ ticket = ticket') :=
  ⟨request_injective, fun _ _ here there => ⟨congrArg utf8, canonical_eq_of_utf8 here there⟩,
    fun same => request_injective (canonical_eq_of_hash free same)⟩

theorem a_description_cannot_forge_a_field : ∃ first second : Ticket, CollisionFree Symbolic ∧
    first.category = second.category ∧ ∀ decision : Decision,
      (evidenceHash (request decision first) : Option Symbolic) ≠ evidenceHash (request decision second) := by
  have id : Double := ⟨1, by decide +kernel⟩
  refine ⟨⟨id, text "leak", text "plumber", 120, text "plumbing"⟩,
    ⟨id, text "leak\",\"vendor\":\"plumber", text "", 120, text "plumbing"⟩, Symbolic.collisionFree, rfl, ?_⟩
  intro decision same
  obtain ⟨-, tickets⟩ := (evidence_commits_to_the_request Symbolic.collisionFree).2.2 same
  have vendors : text "plumber" = text "" := congrArg Ticket.vendor tickets
  cases vendors

end Commitment

end PassportKit.Evidence
