import PassportKit.Evm
import Mathlib.Algebra.BigOperators.Group.Finset.Basic
import Mathlib.Algebra.BigOperators.Group.Finset.Piecewise
import Mathlib.Algebra.Order.BigOperators.Group.Finset
import Mathlib.Tactic.Ring

/-! The base contracts the program inherits: `AccessControl` with every role
administered by `DEFAULT_ADMIN_ROLE`, and `ERC20`, whose `_mint`, `_burn` and
`_transfer` all move balances through one virtual `_update`. A contract may be built on
any code that does what their documentation says, `AccessControlBase` and `Erc20Base`;
the functions on the storage itself are the code they have. -/
namespace PassportKit.OpenZeppelin
open Evm

variable {ε : Type}

structure AccessControl where
  hasRole : Bytes32 → Address → Bool

namespace AccessControl

def DEFAULT_ADMIN_ROLE : Bytes32 := 0

/-- No account holds any role. -/
def vacant : AccessControl := ⟨fun _ _ => false⟩

/-- `_grantRole`. -/
def grant (self : AccessControl) (role : Bytes32) (account : Address) : AccessControl :=
  ⟨store self.hasRole role account true⟩

/-- `_revokeRole`. -/
def revoke (self : AccessControl) (role : Bytes32) (account : Address) : AccessControl :=
  ⟨store self.hasRole role account false⟩

/-- The modifier `onlyRole(role)`. -/
def onlyRole (self : AccessControl) (role : Bytes32) (msgSender : Address) : Outcome ε Unit :=
  revertIf (self.hasRole role msgSender = false) (.AccessControlUnauthorizedAccount msgSender role)

inductive Call where
  | grantRole (role : Bytes32) (account : Address)
  | revokeRole (role : Bytes32) (account : Address)
  | renounceRole (role : Bytes32) (callerConfirmation : Address)
  deriving DecidableEq

def call (self : AccessControl) (msgSender : Address) : Call → Outcome ε AccessControl
  | .grantRole role account => do
    self.onlyRole DEFAULT_ADMIN_ROLE msgSender
    return self.grant role account
  | .revokeRole role account => do
    self.onlyRole DEFAULT_ADMIN_ROLE msgSender
    return self.revoke role account
  | .renounceRole role callerConfirmation => do
    revertIf (callerConfirmation ≠ msgSender) .AccessControlBadConfirmation
    return self.revoke role callerConfirmation

@[simp] theorem onlyRole_eq_ok {self : AccessControl} {role : Bytes32} {msgSender : Address}
    {result : Unit} :
    (self.onlyRole role msgSender : Outcome ε Unit) = .ok result ↔
      self.hasRole role msgSender = true := by
  simp [onlyRole]

variable {self next : AccessControl} {role : Bytes32} {account msgSender : Address}

theorem onlyRole_unauthorized (refused : self.hasRole role account = false) :
    (self.onlyRole role account : Outcome ε Unit) = .error (.AccessControlUnauthorizedAccount account role) :=
  revertIf_true _ refused

theorem grantRole_eq_ok : (self.call msgSender (.grantRole role account) : Outcome ε AccessControl) = .ok next ↔
    self.hasRole DEFAULT_ADMIN_ROLE msgSender = true ∧ next = self.grant role account := by
  simp [call, eq_comm (a := next)]

theorem revokeRole_eq_ok : (self.call msgSender (.revokeRole role account) : Outcome ε AccessControl) = .ok next ↔
    self.hasRole DEFAULT_ADMIN_ROLE msgSender = true ∧ next = self.revoke role account := by
  simp [call, eq_comm (a := next)]

theorem renounceRole_eq_ok :
    (self.call msgSender (.renounceRole role account) : Outcome ε AccessControl) = .ok next ↔
      account = msgSender ∧ next = self.revoke role account := by
  simp [call, eq_comm (a := next)]

end AccessControl

/-- `AccessControl`, by its documentation. -/
structure AccessControlBase (ε : Type) where
  _grantRole : AccessControl → Bytes32 → Address → AccessControl
  _revokeRole : AccessControl → Bytes32 → Address → AccessControl
  /-- The modifier `onlyRole(role)`. -/
  onlyRole : AccessControl → Bytes32 → Address → Outcome ε Unit
  /-- `grantRole`, `revokeRole` and `renounceRole`. -/
  call : AccessControl → Address → AccessControl.Call → Outcome ε AccessControl
  granted (access : AccessControl) (role : Bytes32) (account : Address) :
    (_grantRole access role account).hasRole = store access.hasRole role account true
  revoked (access : AccessControl) (role : Bytes32) (account : Address) :
    (_revokeRole access role account).hasRole = store access.hasRole role account false
  onlyRole_eq_ok (access : AccessControl) (role : Bytes32) (account : Address) (result : Unit) :
    onlyRole access role account = .ok result ↔ access.hasRole role account = true
  onlyRole_unauthorized (access : AccessControl) (role : Bytes32) (account : Address) :
    access.hasRole role account = false →
      onlyRole access role account = .error (.AccessControlUnauthorizedAccount account role)
  grantRole_eq_ok (access next : AccessControl) (msgSender : Address) (role : Bytes32) (account : Address) :
    call access msgSender (.grantRole role account) = .ok next ↔
      access.hasRole AccessControl.DEFAULT_ADMIN_ROLE msgSender = true ∧ next = _grantRole access role account
  revokeRole_eq_ok (access next : AccessControl) (msgSender : Address) (role : Bytes32) (account : Address) :
    call access msgSender (.revokeRole role account) = .ok next ↔
      access.hasRole AccessControl.DEFAULT_ADMIN_ROLE msgSender = true ∧ next = _revokeRole access role account
  renounceRole_eq_ok (access next : AccessControl) (msgSender : Address) (role : Bytes32) (account : Address) :
    call access msgSender (.renounceRole role account) = .ok next ↔
      account = msgSender ∧ next = _revokeRole access role account

/-- The code they have. -/
def AccessControlBase.standard : AccessControlBase ε where
  _grantRole := AccessControl.grant
  _revokeRole := AccessControl.revoke
  onlyRole := AccessControl.onlyRole
  call := AccessControl.call
  granted _ _ _ := rfl
  revoked _ _ _ := rfl
  onlyRole_eq_ok _ _ _ _ := AccessControl.onlyRole_eq_ok
  onlyRole_unauthorized _ _ _ := AccessControl.onlyRole_unauthorized
  grantRole_eq_ok _ _ _ _ _ := AccessControl.grantRole_eq_ok
  revokeRole_eq_ok _ _ _ _ _ := AccessControl.revokeRole_eq_ok
  renounceRole_eq_ok _ _ _ _ _ := AccessControl.renounceRole_eq_ok

/-- The storage of an `ERC20`. -/
structure Erc20 where
  balances : Address → ℕ
  allowances : Address → Address → ℕ
  totalSupply : ℕ

/-- The virtual `_update(from, to, value)`; a derived token overrides it. -/
abbrev Update (ε : Type) := Erc20 → Address → Address → ℕ → Outcome ε Erc20

namespace Erc20

def empty : Erc20 := ⟨fun _ => 0, fun _ _ => 0, 0⟩

/-- The paying half of `_update`: a zero sender mints, with a checked supply. -/
def takeFrom (self : Erc20) (sender : Address) (value : ℕ) : Outcome ε Erc20 :=
  if sender = 0 then do
    let supply ← checkedAdd self.totalSupply value
    return { self with totalSupply := supply }
  else do
    let fromBalance := self.balances sender
    revertIf (fromBalance < value)
      (.erc20 (.ERC20InsufficientBalance sender fromBalance value))
    return { self with balances := Function.update self.balances sender (fromBalance - value) }

/-- The receiving half of `_update`: a zero recipient burns; `unchecked`. -/
def giveTo (self : Erc20) (recipient : Address) (value : ℕ) : Erc20 :=
  if recipient = 0 then
    { self with totalSupply := (self.totalSupply + uint256Modulus - value) % uint256Modulus }
  else
    { self with balances := Function.update self.balances recipient
                  ((self.balances recipient + value) % uint256Modulus) }

/-- `ERC20._update`. -/
def _update : Update ε := fun self sender recipient value => do
  let self ← self.takeFrom sender value
  return self.giveTo recipient value

variable (update : Update ε)

def _mint (self : Erc20) (account : Address) (value : ℕ) : Outcome ε Erc20 := do
  revertIf (account = 0) (.erc20 (.ERC20InvalidReceiver 0))
  update self 0 account value

def _burn (self : Erc20) (account : Address) (value : ℕ) : Outcome ε Erc20 := do
  revertIf (account = 0) (.erc20 (.ERC20InvalidSender 0))
  update self account 0 value

def _transfer (self : Erc20) (sender recipient : Address) (value : ℕ) : Outcome ε Erc20 := do
  revertIf (sender = 0) (.erc20 (.ERC20InvalidSender 0))
  revertIf (recipient = 0) (.erc20 (.ERC20InvalidReceiver 0))
  update self sender recipient value

def _approve (self : Erc20) (owner spender : Address) (value : ℕ) : Outcome ε Erc20 := do
  revertIf (owner = 0) (.erc20 (.ERC20InvalidApprover 0))
  revertIf (spender = 0) (.erc20 (.ERC20InvalidSpender 0))
  return { self with allowances := store self.allowances owner spender value }

/-- The maximal allowance is never spent down. -/
def _spendAllowance (self : Erc20) (owner spender : Address) (value : ℕ) : Outcome ε Erc20 := do
  let currentAllowance := self.allowances owner spender
  if currentAllowance < uint256Modulus - 1 then do
    revertIf (currentAllowance < value)
      (.erc20 (.ERC20InsufficientAllowance spender currentAllowance value))
    self._approve owner spender (currentAllowance - value)
  else return self

def transfer (self : Erc20) (msgSender recipient : Address) (value : ℕ) : Outcome ε Erc20 :=
  _transfer update self msgSender recipient value

def approve (self : Erc20) (msgSender spender : Address) (value : ℕ) : Outcome ε Erc20 :=
  self._approve msgSender spender value

def transferFrom (self : Erc20) (msgSender sender recipient : Address) (value : ℕ) : Outcome ε Erc20 := do
  let self ← self._spendAllowance sender msgSender value
  _transfer update self sender recipient value

/-- The supply is the sum of the balances, fits a word, and none of it sits at
the zero address. -/
structure Solvent (ledger : Erc20) : Prop where
  backed : ledger.totalSupply = ∑ account, ledger.balances account
  fits : ledger.totalSupply < uint256Modulus
  zero : ledger.balances 0 = 0

theorem solvent_empty : Solvent empty where
  backed := by simp [empty]
  fits := by norm_num [empty, uint256Modulus]
  zero := rfl

/-- Taking `value` from an account; minting takes it from nobody. -/
def debit (balances : Address → ℕ) (sender : Address) (value : ℕ) : Address → ℕ :=
  if sender = 0 then balances else Function.update balances sender (balances sender - value)

/-- Giving `value` to an account; burning gives it to nobody. -/
def credit (balances : Address → ℕ) (recipient : Address) (value : ℕ) : Address → ℕ :=
  if recipient = 0 then balances
  else Function.update balances recipient (balances recipient + value)

/-- What a move makes of the storage: `value` goes from the one account to the other, the
zero address standing for nobody. -/
structure Moved (ledger : Erc20) (sender recipient : Address) (value : ℕ) (next : Erc20) : Prop where
  balances : next.balances = credit (debit ledger.balances sender value) recipient value
  allowances : next.allowances = ledger.allowances
  totalSupply : next.totalSupply + (if recipient = 0 then value else 0) =
    ledger.totalSupply + if sender = 0 then value else 0

/-- The maximal allowance is never spent down. -/
def Spent (self : Erc20) (owner spender : Address) (value : ℕ) (next : Erc20) : Prop :=
  uint256Modulus - 1 ≤ self.allowances owner spender ∧ next = self ∨
    self.allowances owner spender < uint256Modulus - 1 ∧ value ≤ self.allowances owner spender ∧
      owner ≠ 0 ∧ spender ≠ 0 ∧
      next = { self with
        allowances := store self.allowances owner spender (self.allowances owner spender - value) }

private theorem sum_update_add (balances : Address → ℕ) (account : Address) (value : ℕ) :
    ∑ x, Function.update balances account value x + balances account =
      ∑ x, balances x + value := by
  rw [Finset.sum_update_of_mem (Finset.mem_univ account),
    ← Finset.add_sum_erase _ balances (Finset.mem_univ account), Finset.sdiff_singleton_eq_erase]
  ring

theorem sum_debit {balances : Address → ℕ} {sender : Address} {value : ℕ} (real : sender ≠ 0)
    (enough : value ≤ balances sender) :
    ∑ x, debit balances sender value x + value = ∑ x, balances x := by
  have moved := sum_update_add balances sender (balances sender - value)
  simp only [debit, if_neg real]
  omega

theorem sum_credit {recipient : Address} (real : recipient ≠ 0) (balances : Address → ℕ)
    (value : ℕ) : ∑ x, credit balances recipient value x = ∑ x, balances x + value := by
  have moved := sum_update_add balances recipient (balances recipient + value)
  simp only [credit, if_neg real]
  omega

theorem balance_le_sum (balances : Address → ℕ) (account : Address) :
    balances account ≤ ∑ x, balances x :=
  Finset.single_le_sum (f := balances) (fun _ _ => Nat.zero_le _) (Finset.mem_univ account)

theorem debit_zero (balances : Address → ℕ) (sender : Address) (value : ℕ) :
    debit balances sender value 0 = balances 0 := by
  unfold debit
  split
  · rfl
  · rename_i real
    exact Function.update_of_ne (Ne.symm real) _ _

/-- The paying half leaves a ledger whose supply is its balances and the value
in flight. -/
private theorem takeFrom_moves {self middle : Erc20} {sender : Address} {value : ℕ}
    (solvent : Solvent self) (taken : (self.takeFrom sender value : Outcome ε Erc20) = .ok middle) :
    middle.balances = debit self.balances sender value ∧ middle.allowances = self.allowances ∧
      middle.totalSupply < uint256Modulus ∧ middle.totalSupply = ∑ x, middle.balances x + value ∧
      middle.totalSupply = self.totalSupply + if sender = 0 then value else 0 := by
  obtain ⟨backed, fits, zero⟩ := solvent
  unfold takeFrom at taken
  by_cases minting : sender = 0
  · rw [if_pos minting] at taken
    simp only [bind_eq_ok, checkedAdd_eq_ok, pure_outcome, Except.ok.injEq] at taken
    obtain ⟨supply, ⟨bound, rfl⟩, rfl⟩ := taken
    refine ⟨?_, rfl, bound, ?_, ?_⟩
    · rw [debit, if_pos minting]
    · simp only [backed]
    · rw [if_pos minting]
  · rw [if_neg minting] at taken
    simp only [bind_eq_ok, revertIf_eq_ok, pure_outcome, Except.ok.injEq, not_lt] at taken
    obtain ⟨-, enough, rfl⟩ := taken
    have total := sum_debit minting enough
    simp only [debit, if_neg minting] at total
    refine ⟨?_, rfl, fits, ?_, ?_⟩
    · rw [debit, if_neg minting]
    · exact backed.trans total.symm
    · rw [if_neg minting, Nat.add_zero]

/-- In a solvent token no unchecked sum wraps. -/
theorem update_moves {self next : Erc20} {sender recipient : Address} {value : ℕ}
    (solvent : Solvent self)
    (moved : (_update self sender recipient value : Outcome ε Erc20) = .ok next) :
    self.Moved sender recipient value next := by
  simp only [_update, bind_eq_ok, pure_outcome, Except.ok.injEq] at moved
  obtain ⟨middle, taken, rfl⟩ := moved
  obtain ⟨balances, allowances, bound, total, supply⟩ := takeFrom_moves solvent taken
  unfold giveTo
  by_cases burning : recipient = 0
  · rw [if_pos burning]
    refine ⟨?_, allowances, ?_⟩
    · rw [credit, if_pos burning, ← balances]
    · have unwrapped : (middle.totalSupply + uint256Modulus - value) % uint256Modulus =
          middle.totalSupply - value := by
        have inFlight : middle.totalSupply + uint256Modulus - value =
            middle.totalSupply - value + uint256Modulus := by omega
        rw [inFlight, Nat.add_mod_right, Nat.mod_eq_of_lt (by omega)]
      rw [if_pos burning, ← supply]
      change (middle.totalSupply + uint256Modulus - value) % uint256Modulus + value = middle.totalSupply
      omega
  · rw [if_neg burning]
    have held := balance_le_sum middle.balances recipient
    have unwrapped : (middle.balances recipient + value) % uint256Modulus =
        middle.balances recipient + value := Nat.mod_eq_of_lt (by omega)
    refine ⟨?_, allowances, ?_⟩
    · rw [unwrapped, credit, if_neg burning, ← balances]
    · rw [if_neg burning, Nat.add_zero, supply]

/-- A mint needs room in the supply, and any other move the balance. -/
theorem update_accepts {self : Erc20} {sender recipient : Address} {value : ℕ} :
    (∃ next, (_update self sender recipient value : Outcome ε Erc20) = .ok next) ↔
      if sender = 0 then self.totalSupply + value < uint256Modulus else value ≤ self.balances sender := by
  unfold _update takeFrom
  split <;> simp

/-- **The ledger stays sound.** A move that a solvent token makes leaves it solvent. -/
theorem Moved.solvent {self next : Erc20} {sender recipient : Address} {value : ℕ} (solvent : Solvent self)
    (accepted : if sender = 0 then self.totalSupply + value < uint256Modulus else value ≤ self.balances sender)
    (moved : self.Moved sender recipient value next) : Solvent next := by
  obtain ⟨backed, fits, zero⟩ := solvent
  obtain ⟨balances, -, supply⟩ := moved
  have paid : ∑ x, debit self.balances sender value x + (if sender = 0 then 0 else value) =
      ∑ x, self.balances x := by
    by_cases minting : sender = 0
    · simp [debit, minting]
    · rw [if_neg minting] at accepted ⊢
      exact sum_debit minting accepted
  have given : ∑ x, next.balances x =
      ∑ x, debit self.balances sender value x + if recipient = 0 then 0 else value := by
    rw [balances]
    by_cases burning : recipient = 0
    · simp [credit, burning]
    · rw [if_neg burning, sum_credit burning]
  refine ⟨?_, ?_, ?_⟩
  · split_ifs at supply paid given <;> omega
  · split_ifs at supply accepted <;> omega
  · rw [balances]
    unfold credit
    split
    · rw [debit_zero, zero]
    · rename_i real
      rw [Function.update_of_ne (Ne.symm real), debit_zero, zero]

/-- Only the receiving account can gain, and it is a real one. -/
theorem gains_of_moved {balances : Address → ℕ} {sender recipient account : Address} {value : ℕ}
    (gains : balances account < credit (debit balances sender value) recipient value account) :
    account = recipient ∧ recipient ≠ 0 := by
  unfold credit at gains
  split at gains
  · rename_i burning
    exfalso
    unfold debit at gains
    split at gains
    · omega
    · rw [Function.update_apply] at gains
      split at gains
      · rename_i same
        subst same
        omega
      · omega
  · rename_i real
    refine ⟨?_, real⟩
    by_contra other
    rw [Function.update_of_ne other] at gains
    unfold debit at gains
    split at gains
    · omega
    · rw [Function.update_apply] at gains
      split at gains
      · rename_i same
        subst same
        omega
      · omega

/-- Only the paying account can lose, and it is a real one. -/
theorem loses_of_moved {balances : Address → ℕ} {sender recipient account : Address} {value : ℕ}
    (loses : credit (debit balances sender value) recipient value account < balances account) :
    account = sender ∧ sender ≠ 0 := by
  by_contra other
  have kept : debit balances sender value account = balances account := by
    unfold debit
    split
    · rfl
    · rename_i real
      refine Function.update_of_ne ?_ _ _
      rintro rfl
      exact other ⟨rfl, real⟩
  unfold credit at loses
  split at loses
  · omega
  · rw [Function.update_apply] at loses
    split at loses
    · rename_i same
      subst same
      omega
    · omega

/-- Spending an allowance touches allowances only. -/
theorem Spent.frame {self next : Erc20} {owner spender : Address} {value : ℕ}
    (spent : self.Spent owner spender value next) :
    next.balances = self.balances ∧ next.totalSupply = self.totalSupply := by
  rcases spent with ⟨-, rfl⟩ | ⟨-, -, -, -, rfl⟩ <;> exact ⟨rfl, rfl⟩

theorem Solvent.of_frame {self next : Erc20} (solvent : Solvent self)
    (same : next.balances = self.balances ∧ next.totalSupply = self.totalSupply) : Solvent next := by
  obtain ⟨balances, supply⟩ := same
  exact {
    backed := by rw [supply, balances, solvent.backed]
    fits := supply ▸ solvent.fits
    zero := by rw [balances, solvent.zero] }

variable {update : Update ε} {self next : Erc20} {account msgSender sender recipient owner spender : Address}
  {value : ℕ}

theorem mint_eq_ok : _mint update self account value = .ok next ↔
    account ≠ 0 ∧ update self 0 account value = .ok next := by
  simp [_mint]

theorem burn_eq_ok : _burn update self account value = .ok next ↔
    account ≠ 0 ∧ update self account 0 value = .ok next := by
  simp [_burn]

theorem transfer_eq_ok : transfer update self msgSender recipient value = .ok next ↔
    msgSender ≠ 0 ∧ recipient ≠ 0 ∧ update self msgSender recipient value = .ok next := by
  simp [transfer, _transfer]

theorem approve_eq_ok : (self.approve owner spender value : Outcome ε Erc20) = .ok next ↔
    owner ≠ 0 ∧ spender ≠ 0 ∧ next = { self with allowances := store self.allowances owner spender value } := by
  simp [approve, _approve, eq_comm (a := next)]

theorem spendAllowance_eq_ok : (self._spendAllowance owner spender value : Outcome ε Erc20) = .ok next ↔
    self.Spent owner spender value next := by
  unfold _spendAllowance Spent
  by_cases limited : self.allowances owner spender < uint256Modulus - 1
  · simp [limited, Nat.not_le.mpr limited, _approve, eq_comm (a := next)]
  · simp [limited, Nat.not_lt.mp limited, eq_comm (a := next)]

theorem transferFrom_eq_ok : transferFrom update self msgSender sender recipient value = .ok next ↔
    ∃ spent, self.Spent sender msgSender value spent ∧ sender ≠ 0 ∧ recipient ≠ 0 ∧
      update spent sender recipient value = .ok next := by
  simp [transferFrom, _transfer, spendAllowance_eq_ok]

end Erc20

/-- `ERC20`, by its documentation. Which error a refusal raises is left open. -/
structure Erc20Base (ε : Type) where
  _update : Update ε
  _mint : Update ε → Erc20 → Address → ℕ → Outcome ε Erc20
  _burn : Update ε → Erc20 → Address → ℕ → Outcome ε Erc20
  transfer : Update ε → Erc20 → Address → Address → ℕ → Outcome ε Erc20
  approve : Erc20 → Address → Address → ℕ → Outcome ε Erc20
  transferFrom : Update ε → Erc20 → Address → Address → Address → ℕ → Outcome ε Erc20
  update_accepts (ledger : Erc20) (sender recipient : Address) (value : ℕ) :
    (∃ next, _update ledger sender recipient value = .ok next) ↔
      if sender = 0 then ledger.totalSupply + value < uint256Modulus else value ≤ ledger.balances sender
  update_moves (ledger next : Erc20) (sender recipient : Address) (value : ℕ) :
    ledger.Solvent → _update ledger sender recipient value = .ok next → ledger.Moved sender recipient value next
  mint_eq_ok (update : Update ε) (ledger next : Erc20) (account : Address) (value : ℕ) :
    _mint update ledger account value = .ok next ↔ account ≠ 0 ∧ update ledger 0 account value = .ok next
  burn_eq_ok (update : Update ε) (ledger next : Erc20) (account : Address) (value : ℕ) :
    _burn update ledger account value = .ok next ↔ account ≠ 0 ∧ update ledger account 0 value = .ok next
  transfer_eq_ok (update : Update ε) (ledger next : Erc20) (msgSender recipient : Address) (value : ℕ) :
    transfer update ledger msgSender recipient value = .ok next ↔
      msgSender ≠ 0 ∧ recipient ≠ 0 ∧ update ledger msgSender recipient value = .ok next
  approve_eq_ok (ledger next : Erc20) (msgSender spender : Address) (value : ℕ) :
    approve ledger msgSender spender value = .ok next ↔ msgSender ≠ 0 ∧ spender ≠ 0 ∧
      next = { ledger with allowances := store ledger.allowances msgSender spender value }
  transferFrom_eq_ok (update : Update ε) (ledger next : Erc20) (msgSender sender recipient : Address) (value : ℕ) :
    transferFrom update ledger msgSender sender recipient value = .ok next ↔
      ∃ spent, ledger.Spent sender msgSender value spent ∧ sender ≠ 0 ∧ recipient ≠ 0 ∧
        update spent sender recipient value = .ok next

namespace Erc20Base

/-- The code they have. -/
def standard : Erc20Base ε where
  _update := Erc20._update
  _mint := Erc20._mint
  _burn := Erc20._burn
  transfer := Erc20.transfer
  approve := Erc20.approve
  transferFrom := Erc20.transferFrom
  update_accepts _ _ _ _ := Erc20.update_accepts
  update_moves _ _ _ _ _ := Erc20.update_moves
  mint_eq_ok _ _ _ _ _ := Erc20.mint_eq_ok
  burn_eq_ok _ _ _ _ _ := Erc20.burn_eq_ok
  transfer_eq_ok _ _ _ _ _ _ := Erc20.transfer_eq_ok
  approve_eq_ok _ _ _ _ _ := Erc20.approve_eq_ok
  transferFrom_eq_ok _ _ _ _ _ _ _ := Erc20.transferFrom_eq_ok

variable (self : Erc20Base ε) {ledger next : Erc20} {sender recipient : Address} {value : ℕ}

/-- A solvent token moves exactly the value, and stays solvent. -/
theorem update_keeps (solvent : ledger.Solvent) (done : self._update ledger sender recipient value = .ok next) :
    ledger.Moved sender recipient value next ∧ next.Solvent := by
  have moved := self.update_moves ledger next sender recipient value solvent done
  exact ⟨moved, moved.solvent solvent ((self.update_accepts ..).mp ⟨next, done⟩)⟩

end Erc20Base

end PassportKit.OpenZeppelin
