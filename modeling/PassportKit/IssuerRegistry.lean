import PassportKit.Types
import PassportKit.IndexedList
import PassportKit.Runs

/-! `IssuerRegistry.sol`: which issuers are trusted for which topics. The trust
map answers the identities at write time and the list answers the gate at read
time; the swap-and-pop index is what keeps the two the same set. -/
namespace PassportKit
open Evm OpenZeppelin IndexedList Runs

structure IssuerRegistry where
  accessControl : AccessControlBase Error
  access : AccessControl
  /-- issuer => topic => trusted -/
  trusted : Address → Uint256 → Bool
  /-- topic => issuer list -/
  issuers : Uint256 → List Address
  /-- topic => issuer => index + 1 -/
  idx1 : Uint256 → Address → ℕ

namespace IssuerRegistry

def deploy (accessControl : AccessControlBase Error) (admin : Address) : Result IssuerRegistry := do
  revertIf (admin = 0) (.custom .ZeroAdmin)
  return {
    accessControl := accessControl
    access := accessControl._grantRole .vacant AccessControl.DEFAULT_ADMIN_ROLE admin
    trusted := fun _ _ => false
    issuers := fun _ => []
    idx1 := fun _ _ => 0 }

def isTrusted (self : IssuerRegistry) (issuer : Address) (topic : Uint256) : Bool :=
  self.trusted issuer topic

def issuersForTopic (self : IssuerRegistry) (topic : Uint256) : List Address :=
  self.issuers topic

/-- The swap of `_removeFromTopic`: unless the issuer sits in the last slot, the
last issuer takes its place. -/
def fillSlot (self : IssuerRegistry) (topic : Uint256) (i last : ℕ) : Result IssuerRegistry :=
  if i - 1 ≠ last then do
    let arr := self.issuers topic
    let moved ← readAt arr last
    let arr ← writeAt arr (i - 1) moved
    return { self with
      issuers := Function.update self.issuers topic arr
      idx1 := store self.idx1 topic moved i }
  else return self

/-- `_removeFromTopic`. -/
def removeFromTopic (self : IssuerRegistry) (topic : Uint256) (issuer : Address) :
    Result IssuerRegistry :=
  let i := self.idx1 topic issuer
  if i = 0 then return self
  else do
    let last ← checkedSub (self.issuers topic).length 1
    let self ← self.fillSlot topic i last
    let arr ← popLast (self.issuers topic)
    return { self with
      issuers := Function.update self.issuers topic arr
      idx1 := store self.idx1 topic issuer 0 }

def setTrusted (self : IssuerRegistry) (msgSender issuer : Address) (topic : Uint256) (ok : Bool) :
    Result IssuerRegistry := do
  self.accessControl.onlyRole self.access AccessControl.DEFAULT_ADMIN_ROLE msgSender
  revertIf (issuer = 0) (.custom .ZeroIssuer)
  if ok = self.trusted issuer topic then return self
  else if ok then
    let arr := self.issuers topic ++ [issuer]
    return { self with
      trusted := store self.trusted issuer topic true
      issuers := Function.update self.issuers topic arr
      idx1 := store self.idx1 topic issuer arr.length }
  else
    let self := { self with trusted := store self.trusted issuer topic false }
    self.removeFromTopic topic issuer

/-- The entry points that write. -/
inductive Call where
  | setTrusted (issuer : Address) (topic : Uint256) (ok : Bool)
  | roles (call : AccessControl.Call)
  deriving DecidableEq

def call (self : IssuerRegistry) (msgSender : Address) : Call → Result IssuerRegistry
  | .setTrusted issuer topic ok => self.setTrusted msgSender issuer topic ok
  | .roles request => do
    let access ← self.accessControl.call self.access msgSender request
    return { self with access }

/-- Every topic's index is exactly the inverse of its list, and the trusted
issuers are exactly the indexed ones. -/
structure WellIndexed (registry : IssuerRegistry) : Prop where
  indexed : ∀ topic, Indexes (registry.issuers topic) (registry.idx1 topic)
  trusted_iff : ∀ issuer topic, registry.trusted issuer topic = true ↔ registry.idx1 topic issuer ≠ 0

variable {self next : IssuerRegistry} {msgSender issuer : Address} {topic : Uint256} {ok : Bool}

theorem WellIndexed.mem_iff (well : WellIndexed self) :
    issuer ∈ self.issuersForTopic topic ↔ self.isTrusted issuer topic = true :=
  (well.indexed topic).mem_iff.trans (well.trusted_iff issuer topic).symm

theorem deploy_wellIndexed {accessControl : AccessControlBase Error} {admin : Address}
    (deployed : deploy accessControl admin = .ok self) :
    WellIndexed self := by
  simp only [deploy, bind_eq_ok, revertIf_eq_ok, pure_outcome, Except.ok.injEq] at deployed
  obtain ⟨-, -, rfl⟩ := deployed
  exact ⟨fun _ => Indexes.empty, fun _ _ => by simp⟩

/-- **Removal.** Taking a listed issuer off a topic cannot panic, keeps the index
exact and removes that issuer only. -/
theorem removeFromTopic_removes (self : IssuerRegistry)
    (indexed : Indexes (self.issuers topic) (self.idx1 topic))
    (listed : self.idx1 topic issuer ≠ 0) :
    ∃ members position,
      self.removeFromTopic topic issuer = .ok { self with
        issuers := Function.update self.issuers topic members
        idx1 := Function.update self.idx1 topic position } ∧
      Indexes members position ∧
      ∀ x, x ∈ members ↔ x ≠ issuer ∧ x ∈ self.issuers topic := by
  obtain ⟨i, place⟩ := Nat.exists_eq_succ_of_ne_zero listed
  have inside := indexed.lt_length place
  have nonempty : self.issuers topic ≠ [] := List.ne_nil_of_length_pos (by omega)
  have length : ¬ (self.issuers topic).length < 1 := by omega
  by_cases atLast : i = (self.issuers topic).length - 1
  · -- the issuer is last: it is popped where it stands
    refine ⟨(self.issuers topic).dropLast, Function.update (self.idx1 topic) issuer 0, ?_,
      indexed.pop (by rw [place, atLast]), indexed.mem_pop (by rw [place, atLast])⟩
    simp [removeFromTopic, fillSlot, place, checkedSub, length, ← atLast, popLast, nonempty, store]
  · -- the last issuer moves into the vacated slot
    have bound : (self.issuers topic).length - 1 < (self.issuers topic).length := by omega
    have moved : (self.issuers topic)[(self.issuers topic).length - 1]? =
        some (self.issuers topic)[(self.issuers topic).length - 1] := List.getElem?_eq_getElem bound
    refine ⟨_, _, ?_, indexed.swapPop place atLast moved, indexed.mem_swapPop place atLast moved⟩
    simp [removeFromTopic, fillSlot, place, checkedSub, length, atLast, readAt, moved, writeAt,
      inside, popLast, nonempty, store]

/-- What a successful `setTrusted` does: by the admin only, nothing when the flag
is already set, and otherwise one flag and one topic's list. -/
theorem setTrusted_changes (well : WellIndexed self)
    (done : self.setTrusted msgSender issuer topic ok = .ok next) :
    self.access.hasRole AccessControl.DEFAULT_ADMIN_ROLE msgSender = true ∧ issuer ≠ 0 ∧
      (next = self ∧ ok = self.trusted issuer topic ∨
      ∃ members position, next = { self with
          trusted := store self.trusted issuer topic ok
          issuers := Function.update self.issuers topic members
          idx1 := Function.update self.idx1 topic position } ∧
        Indexes members position ∧
        ∀ x, x ∈ members ↔ if x = issuer then ok = true else x ∈ self.issuers topic) := by
  simp only [setTrusted, bind_eq_ok, AccessControlBase.onlyRole_eq_ok, revertIf_eq_ok] at done
  obtain ⟨-, admin, -, nonzero, done⟩ := done
  refine ⟨admin, nonzero, ?_⟩
  split at done
  · rename_i same
    cases done
    exact .inl ⟨rfl, same⟩
  · rename_i changes
    right
    split at done
    · rename_i adding
      subst adding
      simp only [pure_outcome, Except.ok.injEq] at done
      have fresh : self.idx1 topic issuer = 0 := by
        by_contra listed
        exact changes ((well.trusted_iff issuer topic).mpr listed).symm
      refine ⟨_, _, ?_, (well.indexed topic).push fresh, fun x => ?_⟩
      · rw [← done]
        simp [store]
      · by_cases same : x = issuer <;> simp [same]
    · rename_i removing
      have off : ok = false := by simpa using removing
      subst off
      have listed : self.idx1 topic issuer ≠ 0 :=
        (well.trusted_iff issuer topic).mp (by simpa using Ne.symm changes)
      obtain ⟨members, position, removed, indexed, rest⟩ := removeFromTopic_removes
        { self with trusted := store self.trusted issuer topic false }
        (well.indexed topic) listed
      rw [removed, Except.ok.injEq] at done
      refine ⟨members, position, done.symm, indexed, fun x => ?_⟩
      rw [rest]
      by_cases same : x = issuer <;> simp [same]

/-- **Step lemma.** Every call keeps the list and the trust map one set. -/
theorem call_wellIndexed {request : Call} (well : WellIndexed self)
    (done : self.call msgSender request = .ok next) : WellIndexed next := by
  cases request with
  | roles request =>
    simp only [call, bind_eq_ok, pure_outcome, Except.ok.injEq] at done
    obtain ⟨access, -, rfl⟩ := done
    exact ⟨well.indexed, well.trusted_iff⟩
  | setTrusted issuer topic ok =>
    obtain ⟨-, -, ⟨rfl, -⟩ | ⟨members, position, rfl, indexed, rest⟩⟩ := setTrusted_changes well done
    · exact well
    · constructor
      · intro other
        by_cases same : other = topic
        · subst same
          simpa using indexed
        · simpa [same] using well.indexed other
      · intro x other
        by_cases same : other = topic
        · subst same
          simp only [Function.update_self]
          rw [← indexed.mem_iff, rest, store_apply]
          by_cases named : x = issuer
          · simp [named]
          · simp only [named, false_and, ↓reduceIte]
            exact (well.trusted_iff x other).trans (well.indexed other).mem_iff.symm
        · simp only [Function.update_of_ne same]
          rw [store_of_ne (by simp [same])]
          exact well.trusted_iff x other

/-! ## Every history of the registry -/

/-- One attempted entry of a history: who called what. -/
def step (self : IssuerRegistry) (attempt : Address × Call) : Result IssuerRegistry :=
  self.call attempt.1 attempt.2

theorem exec_wellIndexed (well : WellIndexed self) (history : List (Address × Call)) :
    WellIndexed (exec step self history) :=
  exec_preserves (fun _ _ _ well done => call_wellIndexed well done) well history

/-- A one-based position for each listed issuer and zero for every other. -/
theorem WellIndexed.idx1_of_listed (well : WellIndexed self) {i : ℕ}
    (listed : (self.issuersForTopic topic)[i]? = some issuer) : self.idx1 topic issuer = i + 1 :=
  (well.indexed topic issuer i).mpr listed

theorem WellIndexed.idx1_of_unlisted (well : WellIndexed self)
    (unlisted : issuer ∉ self.issuersForTopic topic) : self.idx1 topic issuer = 0 := by
  by_contra placed
  exact unlisted ((well.indexed topic).mem_iff.mpr placed)

/-- An admin's call on a nonzero issuer never fails: not a role, not an array
bound and not an underflow stands in its way. -/
theorem setTrusted_succeeds (well : WellIndexed self)
    (admin : self.access.hasRole AccessControl.DEFAULT_ADMIN_ROLE msgSender = true)
    (nonzero : issuer ≠ 0) : ∃ next, self.setTrusted msgSender issuer topic ok = .ok next := by
  have role : self.accessControl.onlyRole self.access AccessControl.DEFAULT_ADMIN_ROLE msgSender = .ok () :=
    (self.accessControl.onlyRole_eq_ok ..).mpr admin
  simp only [setTrusted, role, ok_bind, revertIf_false _ nonzero]
  split
  · exact ⟨self, rfl⟩
  · rename_i changes
    split
    · exact ⟨_, rfl⟩
    · rename_i removing
      have off : ok = false := by simpa using removing
      have listed : self.idx1 topic issuer ≠ 0 :=
        (well.trusted_iff issuer topic).mp (by simpa [off] using Ne.symm changes)
      obtain ⟨members, position, removed, -⟩ := removeFromTopic_removes
        { self with trusted := store self.trusted issuer topic false }
        (well.indexed topic) listed
      exact ⟨_, removed⟩

/-- The only refusals of the setter are its two checks. -/
theorem setTrusted_refuses (well : WellIndexed self) {error : Revert Error}
    (refused : self.setTrusted msgSender issuer topic ok = .error error) :
    error = .AccessControlUnauthorizedAccount msgSender AccessControl.DEFAULT_ADMIN_ROLE ∨
      issuer = 0 ∧ error = .custom .ZeroIssuer := by
  cases admin : self.access.hasRole AccessControl.DEFAULT_ADMIN_ROLE msgSender with
  | false =>
    simp only [setTrusted, self.accessControl.onlyRole_unauthorized _ _ _ admin, error_bind,
      Except.error.injEq] at refused
    exact .inl refused.symm
  | true =>
    have role : self.accessControl.onlyRole self.access AccessControl.DEFAULT_ADMIN_ROLE msgSender = .ok () :=
      (self.accessControl.onlyRole_eq_ok ..).mpr admin
    by_cases zero : issuer = 0
    · simp only [setTrusted, role, ok_bind, revertIf_true _ zero, error_bind,
        Except.error.injEq] at refused
      exact .inr ⟨zero, refused.symm⟩
    · obtain ⟨next, done⟩ := @setTrusted_succeeds self msgSender issuer topic ok well admin zero
      rw [done] at refused
      cases refused

/-- What one call of the setter leaves behind: its own flag set, every other
topic as it was, and within the topic every other issuer where it stood. -/
structure SetsOneFlag (before after : IssuerRegistry) (issuer : Address) (topic : Uint256)
    (ok : Bool) : Prop where
  set : after.isTrusted issuer topic = ok
  idle : ok = before.isTrusted issuer topic → after = before
  otherTopics : ∀ other, other ≠ topic →
    after.issuersForTopic other = before.issuersForTopic other ∧
      after.idx1 other = before.idx1 other ∧ ∀ a, after.isTrusted a other = before.isTrusted a other
  otherIssuers : ∀ a, a ≠ issuer →
    (a ∈ after.issuersForTopic topic ↔ a ∈ before.issuersForTopic topic) ∧
      after.isTrusted a topic = before.isTrusted a topic

theorem setTrusted_setsOneFlag (well : WellIndexed self)
    (done : self.setTrusted msgSender issuer topic ok = .ok next) :
    SetsOneFlag self next issuer topic ok := by
  by_cases same : ok = self.isTrusted issuer topic
  · -- the flag already stands: nothing is written
    have unchanged : next = self := by
      simp only [setTrusted, bind_eq_ok] at done
      obtain ⟨-, -, -, -, done⟩ := done
      rw [if_pos (show ok = self.trusted issuer topic from same)] at done
      cases done
      rfl
    subst unchanged
    exact ⟨same.symm, fun _ => rfl, fun _ _ => ⟨rfl, rfl, fun _ => rfl⟩, fun _ _ => ⟨Iff.rfl, rfl⟩⟩
  · obtain ⟨-, -, ⟨-, set⟩ | ⟨members, position, rfl, -, rest⟩⟩ := setTrusted_changes well done
    · exact absurd set same
    · refine ⟨by simp [isTrusted], fun set => absurd set same, ?_, ?_⟩
      · intro other apart
        refine ⟨by simp [issuersForTopic, apart], by simp [apart], fun a => ?_⟩
        exact store_of_ne (by simp [apart])
      · intro a apart
        refine ⟨?_, store_of_ne (by simp [apart])⟩
        simp only [issuersForTopic, Function.update_self]
        rw [rest, if_neg apart]

/-- **One set, three tables.** After any history of calls since deployment the
list of a topic has no duplicates and holds exactly the trusted issuers, and the
index maps each of them to its one-based place and everybody else to zero. From
there an admin's call cannot fail on a nonzero issuer, the setter is refused by
its own two checks only, and it moves exactly the flag it names. -/
theorem registry_is_one_set_in_every_run {accessControl : AccessControlBase Error} {admin : Address}
    (deployed : deploy accessControl admin = .ok self)
    (history : List (Address × Call)) (topic : Uint256) (issuer : Address) :
    ((exec step self history).issuersForTopic topic).Nodup ∧
    (issuer ∈ (exec step self history).issuersForTopic topic ↔
      (exec step self history).isTrusted issuer topic = true) ∧
    (∀ i, ((exec step self history).issuersForTopic topic)[i]? = some issuer →
      (exec step self history).idx1 topic issuer = i + 1) ∧
    (issuer ∉ (exec step self history).issuersForTopic topic →
      (exec step self history).idx1 topic issuer = 0) ∧
    (∀ msgSender ok,
      (exec step self history).access.hasRole AccessControl.DEFAULT_ADMIN_ROLE msgSender = true →
      issuer ≠ 0 →
      ∃ next, (exec step self history).setTrusted msgSender issuer topic ok = .ok next) ∧
    (∀ msgSender ok error,
      (exec step self history).setTrusted msgSender issuer topic ok = .error error →
      error = .AccessControlUnauthorizedAccount msgSender AccessControl.DEFAULT_ADMIN_ROLE ∨
        issuer = 0 ∧ error = .custom .ZeroIssuer) ∧
    (∀ msgSender ok next,
      (exec step self history).setTrusted msgSender issuer topic ok = .ok next →
      SetsOneFlag (exec step self history) next issuer topic ok) := by
  have well := exec_wellIndexed (deploy_wellIndexed deployed) history
  refine ⟨(well.indexed topic).nodup, well.mem_iff, fun i => well.idx1_of_listed,
    well.idx1_of_unlisted, ?_, ?_, ?_⟩
  · intro msgSender ok holds nonzero
    exact setTrusted_succeeds well holds nonzero
  · intro msgSender ok error refused
    exact setTrusted_refuses well refused
  · intro msgSender ok next done
    exact setTrusted_setsOneFlag well done

/-- Three issuers trusted for one topic, the first taken off again: the last one
moves into its place and answers to the new index. -/
theorem registry_is_one_set_after_a_swap :
    ∃ registry, deploy .standard 1 = .ok registry ∧
      (exec step registry [(1, .setTrusted 2 7 true), (1, .setTrusted 3 7 true),
        (1, .setTrusted 4 7 true), (1, .setTrusted 2 7 false)]).issuersForTopic 7 = [4, 3] ∧
      (exec step registry [(1, .setTrusted 2 7 true), (1, .setTrusted 3 7 true),
        (1, .setTrusted 4 7 true), (1, .setTrusted 2 7 false)]).idx1 7 4 = 1 :=
  ⟨_, rfl, by decide, (@registry_is_one_set_in_every_run _ .standard 1 rfl _ 7 4).2.2.1 0 (by decide)⟩

end IssuerRegistry

end PassportKit
