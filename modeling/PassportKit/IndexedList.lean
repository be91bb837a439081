import Mathlib.Data.List.Basic
import Mathlib.Data.List.Nodup
import Mathlib.Logic.Function.Basic

/-! An enumerable set kept as a list together with the position of each
member, offset by one so that `0` can mean "not a member". Members are appended
at the end and removed by moving the last member into the vacated slot. -/
namespace PassportKit.IndexedList

variable {α : Type*} {members : List α} {position : α → ℕ} {a b : α} {i : ℕ}

/-- The position map is exactly the inverse of the list. -/
def Indexes (members : List α) (position : α → ℕ) : Prop :=
  ∀ a i, position a = i + 1 ↔ members[i]? = some a

theorem Indexes.empty : Indexes ([] : List α) (fun _ => 0) := by
  intro a i
  simp

theorem Indexes.mem_iff (indexed : Indexes members position) : a ∈ members ↔ position a ≠ 0 := by
  rw [List.mem_iff_getElem?]
  constructor
  · rintro ⟨i, found⟩
    rw [(indexed a i).mpr found]
    exact Nat.succ_ne_zero i
  · intro placed
    obtain ⟨i, place⟩ := Nat.exists_eq_succ_of_ne_zero placed
    exact ⟨i, (indexed a i).mp place⟩

/-- One position per member leaves no room for duplicates. -/
theorem Indexes.nodup (indexed : Indexes members position) : members.Nodup := by
  rw [List.nodup_iff_getElem?_ne_getElem?]
  intro i j less bound same
  have here : members[i]? = some members[i] := List.getElem?_eq_getElem (by omega)
  have first := (indexed _ i).mpr here
  have second := (indexed _ j).mpr (same ▸ here)
  omega

theorem Indexes.lt_length (indexed : Indexes members position) (place : position a = i + 1) :
    i < members.length :=
  (List.getElem?_eq_some_iff.mp ((indexed a i).mp place)).1

section Updates
variable [DecidableEq α]

/-- Appending a new member records the new length as its position. -/
theorem Indexes.push (indexed : Indexes members position) (fresh : position a = 0) :
    Indexes (members ++ [a]) (Function.update position a (members.length + 1)) := by
  intro x i
  have missing : a ∉ members := fun member => indexed.mem_iff.mp member fresh
  by_cases same : x = a
  · subst x
    rw [Function.update_self, List.getElem?_append]
    split
    · rename_i inside
      have elsewhere : members[i]? ≠ some a := fun found => missing (List.mem_of_getElem? found)
      simp only [elsewhere, iff_false]
      omega
    · rename_i outside
      rw [List.getElem?_singleton]
      split
      · simp only [iff_true]
        omega
      · simp only [reduceCtorEq, iff_false]
        omega
  · rw [Function.update_of_ne same, indexed x i, List.getElem?_append]
    split
    · exact Iff.rfl
    · rename_i outside
      rw [List.getElem?_eq_none (by omega), List.getElem?_singleton]
      split <;> simp [Ne.symm same]

/-- Removing the member in the last slot. -/
theorem Indexes.pop (indexed : Indexes members position)
    (last : position a = members.length - 1 + 1) :
    Indexes members.dropLast (Function.update position a 0) := by
  intro x i
  have bound := indexed.lt_length last
  rw [List.getElem?_dropLast]
  by_cases same : x = a
  · subst x
    rw [Function.update_self]
    split
    · rename_i inside
      rw [← indexed a i, last]
      omega
    · simp
  · rw [Function.update_of_ne same, indexed x i]
    split
    · exact Iff.rfl
    · simp only [reduceCtorEq, iff_false]
      intro found
      have place := (indexed x i).mpr found
      have inside := indexed.lt_length place
      have atLast : i = members.length - 1 := by omega
      have other := (indexed a (members.length - 1)).mp last
      rw [← atLast, found] at other
      exact same (Option.some.inj other)

/-- Removing a member from the middle: the last member takes its slot, and
exactly the removed and the moved positions change. -/
theorem Indexes.swapPop (indexed : Indexes members position) (place : position a = i + 1)
    (middle : i ≠ members.length - 1) (moved : members[members.length - 1]? = some b) :
    Indexes (members.set i b).dropLast
      (Function.update (Function.update position b (i + 1)) a 0) := by
  intro x j
  have inside := indexed.lt_length place
  have movedPlace := (indexed b (members.length - 1)).mpr moved
  have distinct : b ≠ a := by
    rintro rfl
    omega
  rw [List.getElem?_dropLast, List.length_set]
  by_cases removed : x = a
  · subst x
    rw [Function.update_self]
    split
    · by_cases slot : j = i
      · subst j
        rw [List.getElem?_set_self inside]
        simp [distinct]
      · rw [List.getElem?_set_ne (Ne.symm slot), ← indexed a j, place]
        omega
    · simp
  · rw [Function.update_of_ne removed]
    by_cases carried : x = b
    · subst x
      rw [Function.update_self]
      by_cases slot : j = i
      · subst j
        rw [if_pos (by omega), List.getElem?_set_self inside]
        simp
      · rw [List.getElem?_set_ne (Ne.symm slot)]
        split
        · rw [← indexed b j, movedPlace]
          omega
        · simp only [reduceCtorEq, iff_false]
          omega
    · rw [Function.update_of_ne carried, indexed x j]
      by_cases slot : j = i
      · subst j
        rw [if_pos (by omega), List.getElem?_set_self inside, (indexed a i).mp place]
        simp [Ne.symm removed, Ne.symm carried]
      · rw [List.getElem?_set_ne (Ne.symm slot)]
        split
        · exact Iff.rfl
        · simp only [reduceCtorEq, iff_false]
          intro found
          have bound := indexed.lt_length ((indexed x j).mpr found)
          have atLast : j = members.length - 1 := by omega
          rw [atLast, moved] at found
          exact carried (Option.some.inj found).symm

/-- The members left after a middle removal are the old ones but for the
removed one. -/
theorem Indexes.mem_swapPop (indexed : Indexes members position) (place : position a = i + 1)
    (middle : i ≠ members.length - 1) (moved : members[members.length - 1]? = some b) (x : α) :
    x ∈ (members.set i b).dropLast ↔ x ≠ a ∧ x ∈ members := by
  have movedPlace := (indexed b (members.length - 1)).mpr moved
  rw [(indexed.swapPop place middle moved).mem_iff, indexed.mem_iff]
  by_cases removed : x = a
  · simp [removed]
  · by_cases carried : x = b
    · subst x
      simp [removed, movedPlace]
    · simp [removed, carried]

theorem Indexes.mem_pop (indexed : Indexes members position)
    (last : position a = members.length - 1 + 1) (x : α) :
    x ∈ members.dropLast ↔ x ≠ a ∧ x ∈ members := by
  rw [(indexed.pop last).mem_iff, indexed.mem_iff]
  by_cases removed : x = a <;> simp [removed]

end Updates

end PassportKit.IndexedList
