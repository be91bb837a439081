import PassportKit.Runs
import PassportKit.HouseTreasury

/-! Runs of a treasury among its callers. A run is a nesting: inside the token
call of a payment or a deposit, anything may run again, the treasury's own entry
points included. Flattened, it is a trace of atoms, and what every atom keeps is
proved there; the nesting is needed only to see that nothing is paid twice. -/
namespace PassportKit
open Evm OpenZeppelin Runs

/-- The spend token, by the two tables an ERC-20 shows. -/
structure Cash where
  balances : Address → ℕ
  allowances : Address → Address → ℕ

namespace Cash

/-- An account's own transfer moves exactly its amount. -/
structure Paid (before : Cash) (payer payee : Address) (amount : ℕ) (after : Cash) : Prop where
  enough : amount ≤ before.balances payer
  balances : after.balances = Erc20.credit (Erc20.debit before.balances payer amount) payee amount
  allowances : after.allowances = before.allowances

/-- A transfer to the spender, within the allowance it was given. -/
structure Pulled (before : Cash) (spender payer : Address) (amount : ℕ) (after : Cash) : Prop where
  enough : amount ≤ before.balances payer
  allowed : amount ≤ before.allowances payer spender
  balances : after.balances = Erc20.credit (Erc20.debit before.balances payer amount) spender amount
  allowances : ∀ owner other, after.allowances owner other ≤ before.allowances owner other

/-- Any other operation of an ordinary token: only the holder or an approved
spender can move funds, and only the owner can raise an allowance. -/
structure Ordinary (before : Cash) (caller : Address) (after : Cash) : Prop where
  balances : ∀ holder, after.balances holder < before.balances holder →
    holder = caller ∨ 0 < before.allowances holder caller
  allowances : ∀ owner spender, before.allowances owner spender < after.allowances owner spender →
    owner = caller

/-- The token serves what the treasury asked for. -/
def Serves (before : Cash) (treasury : Address) (after : Cash) : TokenRequest → Prop
  | .safeTransfer recipient amount => Paid before treasury recipient amount.toNat after
  | .safeTransferFrom sender amount => Pulled before treasury sender amount.toNat after

end Cash

/-- A treasury at its address, its scrip, the spend token, and what the gate and
the resolver answer now. -/
structure House where
  address : Address
  treasury : HouseTreasury
  scrip : HouseToken
  cash : Cash
  env : Env

namespace House

inductive Event where
  | call (sender : Address) (request : HouseTreasury.Call)
  /-- `executePayment` up to its token call. -/
  | begins (sender : Address) (id : ℕ) (request : TokenRequest)
  /-- The token serves a payment. -/
  | pays (id : ℕ) (request : TokenRequest)
  /-- The token serves a deposit. -/
  | pulls (request : TokenRequest)
  | token (caller : Address)
  | scrip (caller : Address) (request : HouseToken.Call)
  /-- Issuers, claims, links, policies or the time have changed. -/
  | environment (env : Env)

/-- Events that are not part of a treasury call with a token call inside. -/
def Event.Plain : Event → Prop
  | .begins .. | .pays .. | .pulls .. => False
  | _ => True

/-- What can happen between two token calls. The treasury never calls itself,
and calls the token only to serve its own requests. -/
inductive Atom (s : House) : Event → House → Prop where
  | call {sender : Address} {request : HouseTreasury.Call} {treasury : HouseTreasury}
      {scrip : HouseToken} : sender ≠ s.address →
      s.treasury.call s.address s.env s.scrip sender request = .ok (treasury, scrip) →
      Atom s (.call sender request) { s with treasury, scrip }
  | begins {sender : Address} {id : ℕ} {request : TokenRequest} {treasury : HouseTreasury} :
      sender ≠ s.address → s.treasury.executePayment id = .ok (treasury, request) →
      Atom s (.begins sender id request) { s with treasury }
  | pays {id : ℕ} {recipient : Address} {amount : Uint256} {cash : Cash} :
      s.cash.Serves s.address cash (.safeTransfer recipient amount) →
      Atom s (.pays id (.safeTransfer recipient amount)) { s with cash }
  | pulls {sender : Address} {amount : Uint256} {cash : Cash} : sender ≠ s.address →
      s.cash.Serves s.address cash (HouseTreasury.deposit sender amount) →
      Atom s (.pulls (HouseTreasury.deposit sender amount)) { s with cash }
  | token {caller : Address} {cash : Cash} : caller ≠ s.address → s.cash.Ordinary caller cash →
      Atom s (.token caller) { s with cash }
  | scrip {caller : Address} {request : HouseToken.Call} {scrip : HouseToken} :
      caller ≠ s.address → s.scrip.call caller request = .ok scrip →
      Atom s (.scrip caller request) { s with scrip }
  | environment (env : Env) : Atom s (.environment env) { s with env }

/-- The committed runs: atoms in sequence, and payments and deposits with
arbitrary runs before and after the token moves inside them. -/
inductive Run : House → List (Entry House Event) → House → Prop where
  | done (s : House) : Run s [] s
  | plain {s t u : House} {event : Event} {log : List (Entry House Event)} :
      event.Plain → Atom s event t → Run t log u → Run s (⟨s, event, t⟩ :: log) u
  | executePayment {s begun middle paid after u : House} {sender : Address} {id : ℕ}
      {request : TokenRequest} {inner inner' log : List (Entry House Event)} :
      Atom s (.begins sender id request) begun → Run begun inner middle →
      Atom middle (.pays id request) paid → Run paid inner' after → Run after log u →
      Run s (⟨s, .begins sender id request, begun⟩ ::
        (inner ++ ⟨middle, .pays id request, paid⟩ :: (inner' ++ log))) u
  | deposit {s middle pulled after u : House} {sender : Address} {amount : Uint256}
      {inner inner' log : List (Entry House Event)} :
      Run s inner middle → Atom middle (.pulls (HouseTreasury.deposit sender amount)) pulled →
      Run pulled inner' after → Run after log u →
      Run s (inner ++ ⟨middle, .pulls (HouseTreasury.deposit sender amount), pulled⟩ ::
        (inner' ++ log)) u

variable {s t u start last : House} {event : Event} {log past future : List (Entry House Event)}

/-- Flattening a run. -/
theorem Run.trace (run : Run s log t) : Trace Atom s log t := by
  induction run with
  | done s => exact .nil s
  | plain _ atom _ ih => exact .cons atom ih
  | executePayment begins _ pays _ _ ihInner ihInner' ih =>
    exact .cons begins (ihInner.append (.cons pays (ihInner'.append ih)))
  | deposit _ pulls _ _ ihInner ihInner' ih => exact ihInner.append (.cons pulls (ihInner'.append ih))

end House

/-- The owners are distinct; every payment counts its approving owners, and an
executed one had enough; ids not yet handed out are blank. -/
structure HouseTreasury.Counted (treasury : HouseTreasury) : Prop where
  distinct : treasury.owners.Nodup
  owner_iff : ∀ owner, treasury.isOwner owner = true ↔ owner ∈ treasury.owners
  count : ∀ id, (treasury.payments id).approvals = treasury.owners.countP (treasury.approvedBy id)
  counted : ∀ id owner, treasury.approvedBy id owner = true → owner ∈ treasury.owners
  enough : ∀ id, (treasury.payments id).executed = true →
    treasury.APPROVAL_THRESHOLD ≤ (treasury.payments id).approvals
  fresh : ∀ id, treasury.nextPaymentId ≤ id →
    treasury.payments id = PendingPayment.none ∧ ∀ owner, treasury.approvedBy id owner = false

namespace HouseTreasury

variable {self next : HouseTreasury} {env : Env} {this msgSender : Address} {scrip scrip' : HouseToken}
  {id : ℕ}

/-- The constructor's loop appends distinct nonzero owners and nothing else. -/
theorem pushOwners_appends {owners_ : List Address}
    (distinct : self.owners.Nodup) (owner_iff : ∀ owner, self.isOwner owner = true ↔ owner ∈ self.owners)
    (pushed : self.pushOwners owners_ = .ok next) :
    next.owners.Nodup ∧ (∀ owner, next.isOwner owner = true ↔ owner ∈ next.owners) ∧
      next.owners = self.owners ++ owners_ ∧
      next = { self with owners := next.owners, isOwner := next.isOwner } := by
  induction owners_ generalizing self with
  | nil =>
    simp only [pushOwners, pure_outcome, Except.ok.injEq] at pushed
    subst pushed
    exact ⟨distinct, owner_iff, by simp, rfl⟩
  | cons owner rest ih =>
    simp only [pushOwners, bind_eq_ok, revertIf_eq_ok, Bool.not_eq_true] at pushed
    obtain ⟨-, -, -, unknown, pushed⟩ := pushed
    have absent : owner ∉ self.owners := by
      rw [← owner_iff, unknown]
      exact Bool.false_ne_true
    have appended : (self.owners ++ [owner]).Nodup := by
      rw [List.nodup_append]
      refine ⟨distinct, by simp, ?_⟩
      rintro member inside other here rfl
      rw [List.mem_singleton] at here
      exact absent (here ▸ inside)
    have known : ∀ other, Function.update self.isOwner owner true other = true ↔
        other ∈ self.owners ++ [owner] := by
      intro other
      rw [List.mem_append, List.mem_singleton, ← owner_iff, Function.update_apply]
      split
      · simp [*]
      · simp [*]
    obtain ⟨nodup, members, list, shape⟩ := ih appended known pushed
    exact ⟨nodup, members, by rw [list, List.append_assoc]; rfl, shape⟩

theorem deploy_counted {owners_ : List Address} {approvalThreshold_ : ℕ}
    {spendToken gate resolver houseToken : Address} {policyId : Uint256}
    (built : deploy owners_ approvalThreshold_ spendToken gate resolver houseToken policyId = .ok self) :
    self.Counted ∧ (∀ id, self.payments id = PendingPayment.none) ∧
      (∀ id owner, self.approvedBy id owner = false) ∧ 0 < self.APPROVAL_THRESHOLD ∧
      self.owners = owners_ := by
  simp only [deploy, bind_eq_ok, revertIf_eq_ok, not_or] at built
  obtain ⟨-, -, -, ⟨positive, -⟩, pushed⟩ := built
  obtain ⟨nodup, members, list, shape⟩ := pushOwners_appends List.nodup_nil (by simp) pushed
  have blank : ∀ id, self.payments id = PendingPayment.none := fun id => by rw [shape]
  have unapproved : ∀ id owner, self.approvedBy id owner = false := fun id owner => by rw [shape]
  have threshold : self.APPROVAL_THRESHOLD = approvalThreshold_ := by rw [shape]
  refine ⟨⟨nodup, members, ?_, ?_, ?_, ?_⟩, blank, unapproved, ?_, by simpa using list⟩
  · intro id
    rw [blank]
    exact (List.countP_eq_zero.mpr fun owner _ => by simp [unapproved]).symm
  · intro id owner approved
    simp [unapproved] at approved
  · intro id executed
    simp [blank, PendingPayment.none] at executed
  · exact fun id _ => ⟨blank id, unapproved id⟩
  · omega

/-- A known payment has an id that was handed out. -/
theorem Counted.handed_out (counted : self.Counted) (known : (self.payments id).vendor ≠ 0) :
    id < self.nextPaymentId := by
  by_contra late
  rw [(counted.fresh id (not_lt.mp late)).1] at known
  exact known rfl

theorem Counted.handed_out_of_executed (counted : self.Counted)
    (executed : (self.payments id).executed = true) : id < self.nextPaymentId := by
  by_contra late
  rw [(counted.fresh id (not_lt.mp late)).1] at executed
  exact Bool.false_ne_true executed

theorem Counted.proposed (counted : self.Counted) {vendor : Address} {amount : Uint256}
    {evidenceHash : Bytes32}
    (proposed : Proposed self next env msgSender vendor amount evidenceHash) : next.Counted := by
  obtain ⟨-, -, rfl⟩ := proposed
  refine ⟨counted.distinct, counted.owner_iff, ?_, counted.counted, ?_, ?_⟩
  · intro id
    by_cases same : id = self.nextPaymentId
    · subst same
      have none := (counted.fresh _ le_rfl).2
      simpa using (List.countP_eq_zero.mpr fun owner _ => by simp [none]).symm
    · simpa [same] using counted.count id
  · intro id
    by_cases same : id = self.nextPaymentId
    · subst same
      simp
    · simpa [same] using counted.enough id
  · intro id later
    have apart : id ≠ self.nextPaymentId := by
      have bound : self.nextPaymentId + 1 ≤ id := later
      omega
    have bound : self.nextPaymentId ≤ id := Nat.le_of_succ_le later
    simpa [apart] using counted.fresh id bound

/-- Counting one more owner of a list without repetitions. -/
theorem countP_store {owners : List Address} (distinct : owners.Nodup) {approved : Address → Bool}
    {owner : Address} (member : owner ∈ owners) (before : approved owner = false) :
    owners.countP (Function.update approved owner true) = owners.countP approved + 1 := by
  induction owners with
  | nil => simp at member
  | cons first rest ih =>
    obtain ⟨absent, distinctRest⟩ := List.nodup_cons.mp distinct
    rcases List.mem_cons.mp member with rfl | later
    · have unchanged : rest.countP (Function.update approved owner true) = rest.countP approved := by
        refine List.countP_congr fun other inside => ?_
        have apart : other ≠ owner := by
          rintro rfl
          exact absent inside
        simp [apart]
      simp [unchanged, before]
    · have apart : first ≠ owner := by
        rintro rfl
        exact absent later
      rw [List.countP_cons, List.countP_cons, ih distinctRest later, Function.update_of_ne apart]
      omega

theorem Counted.approved (counted : self.Counted) (approved : Approved self next env msgSender id) :
    next.Counted := by
  obtain ⟨owner, -, known, pending, fresh, rfl⟩ := approved
  have member := (counted.owner_iff msgSender).mp owner
  refine ⟨counted.distinct, counted.owner_iff, ?_, ?_, ?_, ?_⟩
  · intro other
    by_cases same : other = id
    · subst same
      simp only [Function.update_self, store]
      rw [countP_store counted.distinct member fresh, counted.count]
    · simpa [same, store] using counted.count other
  · intro other voter voted
    simp only [store_apply] at voted
    split at voted
    · rename_i here
      exact here.2 ▸ member
    · exact counted.counted other voter voted
  · intro other
    by_cases same : other = id
    · subst same
      simp [pending]
    · simpa [same] using counted.enough other
  · intro other late
    have apart : other ≠ id := by
      rintro rfl
      exact absurd (counted.handed_out known) (not_lt.mpr late)
    simpa [apart, store] using counted.fresh other late

theorem Counted.executed (counted : self.Counted) {request : TokenRequest}
    (done : self.executePayment id = .ok (next, request)) : next.Counted := by
  obtain ⟨known, -, enough, -, rfl⟩ := executePayment_changes done
  refine ⟨counted.distinct, counted.owner_iff, ?_, counted.counted, ?_, ?_⟩
  · intro other
    by_cases same : other = id
    · subst same
      simpa using counted.count other
    · simpa [same] using counted.count other
  · intro other
    by_cases same : other = id
    · subst same
      simpa using enough
    · simpa [same] using counted.enough other
  · intro other late
    have apart : other ≠ id := by
      rintro rfl
      exact absurd (counted.handed_out known) (not_lt.mpr late)
    simpa [apart] using counted.fresh other late

theorem Counted.called (counted : self.Counted) {request : Call}
    (done : self.call this env scrip msgSender request = .ok (next, scrip')) : next.Counted := by
  rcases call_changes done with ⟨mandate, rfl, -⟩ | ⟨_, _, _, -, proposed⟩ | ⟨_, -, approved⟩
  · exact ⟨counted.distinct, counted.owner_iff, counted.count, counted.counted, counted.enough,
      counted.fresh⟩
  · exact counted.proposed proposed
  · exact counted.approved approved

end HouseTreasury

end PassportKit
