import Mathlib.Algebra.BigOperators.Group.Finset.Basic
import Mathlib.Algebra.BigOperators.Group.List.Basic
import Mathlib.Data.List.Induction
import Mathlib.Data.List.Nodup

/-! The `Map` of ECMAScript: entries in the order their keys were first set, one
entry for each key. Over it, running sums: a map that a fold adds amounts to
holds, under each key, the sum of what was added there, in whatever order. -/
namespace PassportKit

structure JsMap (κ β : Type*) where
  entries : List (κ × β)
  distinct : (entries.map Prod.fst).Nodup

namespace JsMap

variable {κ β : Type*} [DecidableEq κ]

/-- The entries once a key has its value: in its old place, or last when it is new. -/
def setEntry (key : κ) (value : β) : List (κ × β) → List (κ × β)
  | [] => [(key, value)]
  | entry :: rest => if entry.1 = key then (key, value) :: rest else entry :: setEntry key value rest

theorem keys_setEntry (key : κ) (value : β) (entries : List (κ × β)) :
    (setEntry key value entries).map Prod.fst =
      if key ∈ entries.map Prod.fst then entries.map Prod.fst else entries.map Prod.fst ++ [key] := by
  induction entries with
  | nil => rfl
  | cons entry rest ih =>
    by_cases here : entry.1 = key
    · simp [setEntry, here]
    · have other : key ≠ entry.1 := fun same => here same.symm
      rw [setEntry, if_neg here, List.map_cons, ih]
      simp only [List.map_cons, List.mem_cons, other, false_or]
      split <;> rfl

instance : EmptyCollection (JsMap κ β) := ⟨⟨[], List.nodup_nil⟩⟩

def get (map : JsMap κ β) (key : κ) : Option β := map.entries.lookup key

def set (map : JsMap κ β) (key : κ) (value : β) : JsMap κ β where
  entries := setEntry key value map.entries
  distinct := by
    rw [keys_setEntry]
    split
    · exact map.distinct
    · rename_i fresh
      exact List.nodup_append.mpr ⟨map.distinct, List.nodup_singleton key, by
        rintro first member last new rfl
        exact fresh (List.mem_singleton.mp new ▸ member)⟩

@[simp] theorem get_empty (key : κ) : (∅ : JsMap κ β).get key = none := rfl

theorem lookup_cons_eq_ite (name other : κ) (held : β) (rest : List (κ × β)) :
    ((name, held) :: rest).lookup other = if other = name then some held else rest.lookup other := by
  rw [List.lookup_cons]
  by_cases same : other = name
  · simp [same]
  · rw [if_neg same, beq_eq_false_iff_ne.mpr same]

theorem lookup_setEntry (key other : κ) (value : β) (entries : List (κ × β)) :
    (setEntry key value entries).lookup other =
      if other = key then some value else entries.lookup other := by
  induction entries with
  | nil => exact lookup_cons_eq_ite key other value []
  | cons entry rest ih =>
    obtain ⟨name, held⟩ := entry
    by_cases here : name = key
    · subst here
      rw [setEntry, if_pos rfl, lookup_cons_eq_ite, lookup_cons_eq_ite]
      split <;> rfl
    · rw [setEntry, if_neg here, lookup_cons_eq_ite, lookup_cons_eq_ite, ih]
      by_cases first : other = name
      · subst first
        simp [here]
      · simp [first]

theorem get_set (map : JsMap κ β) (key other : κ) (value : β) :
    (map.set key value).get other = if other = key then some value else map.get other :=
  lookup_setEntry key other value map.entries

section Sums
variable [AddCommMonoid β]

/-- `map.set(key, (map.get(key) ?? 0n) + amount)` -/
def accumulate (map : JsMap κ β) (key : κ) (amount : β) : JsMap κ β :=
  map.set key ((map.get key).getD 0 + amount)

/-- The map a list of amounts is added up in. -/
def tally (amounts : List (κ × β)) : JsMap κ β :=
  amounts.foldl (fun map entry => map.accumulate entry.1 entry.2) ∅

theorem tally_append (amounts : List (κ × β)) (key : κ) (amount : β) :
    tally (amounts ++ [(key, amount)]) = (tally amounts).accumulate key amount := by
  rw [tally, List.foldl_append]
  rfl

/-- The amounts under the keys of a kind. -/
def amountsWhere (Kind : κ → Prop) [DecidablePred Kind] (amounts : List (κ × β)) : β :=
  ((amounts.filter fun entry => Kind entry.1).map Prod.snd).sum

/-- The sum of the values under the keys of a kind. -/
def sumWhere (Kind : κ → Prop) [DecidablePred Kind] (map : JsMap κ β) : β :=
  amountsWhere Kind map.entries

omit [DecidableEq κ] in
theorem amountsWhere_cons (Kind : κ → Prop) [DecidablePred Kind] (key : κ) (amount : β)
    (rest : List (κ × β)) :
    amountsWhere Kind ((key, amount) :: rest) =
      (if Kind key then amount else 0) + amountsWhere Kind rest := by
  by_cases kind : Kind key <;> simp [amountsWhere, kind]

omit [DecidableEq κ] in
theorem amountsWhere_singleton (Kind : κ → Prop) [DecidablePred Kind] (key : κ) (amount : β) :
    amountsWhere Kind [(key, amount)] = if Kind key then amount else 0 := by
  rw [amountsWhere_cons]
  exact add_zero _

omit [DecidableEq κ] in
theorem amountsWhere_append (Kind : κ → Prop) [DecidablePred Kind] (first second : List (κ × β)) :
    amountsWhere Kind (first ++ second) = amountsWhere Kind first + amountsWhere Kind second := by
  simp [amountsWhere]

omit [DecidableEq κ] in
theorem amountsWhere_perm (Kind : κ → Prop) [DecidablePred Kind] {first second : List (κ × β)}
    (same : first.Perm second) : amountsWhere Kind first = amountsWhere Kind second :=
  ((same.filter _).map _).sum_eq

omit [DecidableEq κ] in
/-- Amounts under no key of a kind add up to nothing. -/
theorem amountsWhere_absent (Kind : κ → Prop) [DecidablePred Kind] {amounts : List (κ × β)}
    (absent : ∀ entry ∈ amounts, ¬ Kind entry.1) : amountsWhere Kind amounts = 0 := by
  have none : (amounts.filter fun entry => Kind entry.1) = [] := by
    simpa [List.filter_eq_nil_iff] using absent
  rw [amountsWhere, none]
  rfl

omit [DecidableEq κ] in
/-- Two ways to name the same amounts pick out the same ones. -/
theorem amountsWhere_map_congr {ι : Type*} {κ' : Type*} (Kind : κ → Prop) [DecidablePred Kind]
    (Kind' : κ' → Prop) [DecidablePred Kind'] {items : List ι} {name : ι → κ} {name' : ι → κ'}
    {amount : ι → β} (same : ∀ item, Kind (name item) ↔ Kind' (name' item)) :
    amountsWhere Kind (items.map fun item => (name item, amount item)) =
      amountsWhere Kind' (items.map fun item => (name' item, amount item)) := by
  induction items with
  | nil => rfl
  | cons item rest ih =>
    rw [List.map_cons, List.map_cons, amountsWhere_cons, amountsWhere_cons, ih]
    simp only [same item]

/-- Amounts of a kind are the amounts under its keys, one by one. -/
theorem sum_amountsWhere {ι : Type*} [Fintype ι] (Kind : κ → Prop) [DecidablePred Kind] {key : ι → κ}
    (distinct : Function.Injective key) (covered : ∀ name, Kind name ↔ ∃ index, key index = name)
    (amounts : List (κ × β)) :
    ∑ index, amountsWhere (· = key index) amounts = amountsWhere Kind amounts := by
  induction amounts with
  | nil => exact Finset.sum_const_zero
  | cons entry rest ih =>
    obtain ⟨name, amount⟩ := entry
    simp only [amountsWhere_cons, Finset.sum_add_distrib, ih]
    congr 1
    by_cases kind : Kind name
    · obtain ⟨index, rfl⟩ := (covered name).mp kind
      rw [if_pos kind, Finset.sum_eq_single index]
      · exact if_pos rfl
      · intro other _ differs
        exact if_neg fun same => differs (distinct same).symm
      · intro missing
        exact absurd (Finset.mem_univ index) missing
    · rw [if_neg kind]
      apply Finset.sum_eq_zero
      rintro index _
      exact if_neg fun same => kind ((covered name).mpr ⟨index, same.symm⟩)

omit [DecidableEq κ] in
/-- Amounts of a kind split along any second condition. -/
theorem amountsWhere_split (Kind Second : κ → Prop) [DecidablePred Kind] [DecidablePred Second]
    (amounts : List (κ × β)) :
    amountsWhere Kind amounts = amountsWhere (fun key => Kind key ∧ Second key) amounts +
      amountsWhere (fun key => Kind key ∧ ¬ Second key) amounts := by
  induction amounts with
  | nil => exact (add_zero _).symm
  | cons entry rest ih =>
    obtain ⟨name, amount⟩ := entry
    rw [amountsWhere_cons, amountsWhere_cons, amountsWhere_cons, ih]
    by_cases kind : Kind name
    · by_cases second : Second name
      · simp [kind, second, add_assoc]
      · simp [kind, second, add_left_comm]
    · simp [kind]

theorem amountsWhere_absent_key {key : κ} {amounts : List (κ × β)}
    (missing : key ∉ amounts.map Prod.fst) : amountsWhere (· = key) amounts = 0 := by
  apply amountsWhere_absent
  rintro entry member rfl
  exact missing (List.mem_map_of_mem member)

/-- **Get.** A key is in the map once something was added under it, with the sum of that. -/
theorem get_tally (amounts : List (κ × β)) (key : κ) :
    (tally amounts).get key =
      if key ∈ amounts.map Prod.fst then some (amountsWhere (· = key) amounts) else none := by
  induction amounts using List.reverseRecOn with
  | nil => rfl
  | append_singleton amounts last ih =>
    obtain ⟨name, amount⟩ := last
    rw [tally_append, accumulate, get_set, amountsWhere_append, amountsWhere_singleton, List.map_append]
    by_cases same : key = name
    · subst same
      have held : ((tally amounts).get key).getD 0 = amountsWhere (· = key) amounts := by
        rw [ih]
        split
        · rfl
        · rename_i missing
          exact (amountsWhere_absent_key missing).symm
      simp [held]
    · have other : ¬ name = key := fun equal => same equal.symm
      have named : key ∈ amounts.map Prod.fst ++ [(name, amount)].map Prod.fst ↔
          key ∈ amounts.map Prod.fst := by simp [same]
      rw [if_neg same, ih, if_neg other, add_zero]
      simp only [named]

theorem getD_get_tally (amounts : List (κ × β)) (key : κ) :
    ((tally amounts).get key).getD 0 = amountsWhere (· = key) amounts := by
  rw [get_tally]
  split
  · rfl
  · rename_i missing
    exact (amountsWhere_absent_key missing).symm

theorem sumWhere_accumulate (Kind : κ → Prop) [DecidablePred Kind] (map : JsMap κ β) (key : κ)
    (amount : β) :
    (map.accumulate key amount).sumWhere Kind =
      map.sumWhere Kind + if Kind key then amount else 0 := by
  obtain ⟨entries, distinct⟩ := map
  simp only [accumulate, set, get, sumWhere]
  clear distinct
  induction entries with
  | nil =>
    show amountsWhere Kind [(key, 0 + amount)] = amountsWhere Kind [] + if Kind key then amount else 0
    rw [amountsWhere_singleton, zero_add]
    exact (zero_add _).symm
  | cons entry rest ih =>
    obtain ⟨name, held⟩ := entry
    by_cases here : name = key
    · subst here
      rw [setEntry, if_pos rfl, amountsWhere_cons, amountsWhere_cons]
      by_cases kind : Kind name
      · simp [kind, add_right_comm]
      · simp [kind]
    · have other : ¬ key = name := fun equal => here equal.symm
      rw [setEntry, if_neg here, amountsWhere_cons, amountsWhere_cons, lookup_cons_eq_ite, if_neg other,
        add_assoc]
      exact congrArg _ ih

/-- **Totals.** The values under a kind of keys are the amounts added under it. -/
theorem sumWhere_tally (Kind : κ → Prop) [DecidablePred Kind] (amounts : List (κ × β)) :
    (tally amounts).sumWhere Kind = amountsWhere Kind amounts := by
  induction amounts using List.reverseRecOn with
  | nil => rfl
  | append_singleton amounts last ih =>
    obtain ⟨name, amount⟩ := last
    rw [tally_append, sumWhere_accumulate, ih, amountsWhere_append, amountsWhere_singleton]

/-- The order of the amounts does not show under any key. -/
theorem get_tally_perm {first second : List (κ × β)} (same : first.Perm second) (key : κ) :
    (tally first).get key = (tally second).get key := by
  have members : key ∈ first.map Prod.fst ↔ key ∈ second.map Prod.fst := (same.map _).mem_iff
  rw [get_tally, get_tally, amountsWhere_perm _ same]
  simp only [members]

end Sums

end JsMap

end PassportKit
