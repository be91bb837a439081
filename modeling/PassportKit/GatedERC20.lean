import PassportKit.Runs
import PassportKit.Types

/-! `GatedERC20.sol`: the token that asks the gate before it moves. The override
of `_update` sits under every balance change; burning never reaches a check. -/
namespace PassportKit
open Evm OpenZeppelin Runs

structure GatedERC20 where
  accessControl : AccessControlBase Error
  access : AccessControl
  erc20 : Erc20Base Error
  ledger : Erc20
  gate : Address
  resolver : Address
  policyId : Uint256

namespace GatedERC20

def deploy (accessControl : AccessControlBase Error) (erc20 : Erc20Base Error) (gate_ resolver_ : Address)
    (policyId_ : Uint256) (admin : Address) : Result GatedERC20 := do
  revertIf (gate_ = 0) (.custom .ZeroGate)
  revertIf (resolver_ = 0) (.custom .ZeroResolver)
  revertIf (admin = 0) (.custom .ZeroAdmin)
  return {
    accessControl := accessControl
    access := accessControl._grantRole (accessControl._grantRole .vacant AccessControl.DEFAULT_ADMIN_ROLE admin)
      MINTER_ROLE admin
    erc20 := erc20
    ledger := Erc20.empty
    gate := gate_
    resolver := resolver_
    policyId := policyId_ }

/-- `_requireEligible`: the resolver's answer, zero included, goes to the gate. -/
def requireEligible (self : GatedERC20) (env : Env) (wallet : Address) : Result Unit := do
  let identity ← (env.resolverAt self.resolver).identityOfWallet wallet
  let (ok, reason) ← (env.gateAt self.gate).isEligible identity self.policyId
  revertIf (ok = false) (.custom (.NotEligible wallet reason))

/-- The override of `_update`. -/
def _update (self : GatedERC20) (env : Env) : Update Error := fun ledger sender recipient value => do
  let isMint := sender = 0
  let isBurn := recipient = 0
  checkIf (¬ isMint ∧ ¬ isBurn) (self.requireEligible env sender)
  checkIf (¬ isBurn) (self.requireEligible env recipient)
  self.erc20._update ledger sender recipient value

def mint (self : GatedERC20) (env : Env) (msgSender recipient : Address) (amt : ℕ) : Result GatedERC20 := do
  self.accessControl.onlyRole self.access MINTER_ROLE msgSender
  let ledger ← self.erc20._mint (self._update env) self.ledger recipient amt
  return { self with ledger }

def burn (self : GatedERC20) (env : Env) (msgSender : Address) (amount : ℕ) : Result GatedERC20 := do
  let ledger ← self.erc20._burn (self._update env) self.ledger msgSender amount
  return { self with ledger }

def transfer (self : GatedERC20) (env : Env) (msgSender recipient : Address) (value : ℕ) :
    Result GatedERC20 := do
  let ledger ← self.erc20.transfer (self._update env) self.ledger msgSender recipient value
  return { self with ledger }

def approve (self : GatedERC20) (msgSender spender : Address) (value : ℕ) : Result GatedERC20 := do
  let ledger ← self.erc20.approve self.ledger msgSender spender value
  return { self with ledger }

def transferFrom (self : GatedERC20) (env : Env) (msgSender sender recipient : Address) (value : ℕ) :
    Result GatedERC20 := do
  let ledger ← self.erc20.transferFrom (self._update env) self.ledger msgSender sender recipient value
  return { self with ledger }

inductive Call where
  | mint (recipient : Address) (amt : Uint256)
  | burn (amount : Uint256)
  | transfer (recipient : Address) (value : Uint256)
  | approve (spender : Address) (value : Uint256)
  | transferFrom (sender recipient : Address) (value : Uint256)
  | roles (call : AccessControl.Call)
  deriving DecidableEq

def call (self : GatedERC20) (env : Env) (msgSender : Address) : Call → Result GatedERC20
  | .mint recipient amt => self.mint env msgSender recipient amt.toNat
  | .burn amount => self.burn env msgSender amount.toNat
  | .transfer recipient value => self.transfer env msgSender recipient value.toNat
  | .approve spender value => self.approve msgSender spender value.toNat
  | .transferFrom sender recipient value => self.transferFrom env msgSender sender recipient value.toNat
  | .roles request => do
    let access ← self.accessControl.call self.access msgSender request
    return { self with access }

variable {self next : GatedERC20} {env : Env} {ledger moved : Erc20}
  {msgSender wallet sender recipient : Address} {value : ℕ}

/-- The gate accepts a wallet, as the token asks it. -/
def Eligible (self : GatedERC20) (env : Env) (wallet : Address) : Prop :=
  ∃ identity reason, (env.resolverAt self.resolver).identityOfWallet wallet = .ok identity ∧
    (env.gateAt self.gate).isEligible identity self.policyId = .ok (true, reason)

theorem requireEligible_eq_ok {result : Unit} :
    self.requireEligible env wallet = .ok result ↔ self.Eligible env wallet := by
  simp only [requireEligible, bind_eq_ok, revertIf_eq_ok, Bool.not_eq_false]
  constructor
  · rintro ⟨identity, resolved, ⟨ok, reason⟩, answered, accepted⟩
    dsimp only at accepted
    subst accepted
    exact ⟨identity, reason, resolved, answered⟩
  · rintro ⟨identity, reason, resolved, answered⟩
    exact ⟨identity, resolved, (true, reason), answered, rfl⟩

/-- A balance move the token made. -/
structure Moves (token : GatedERC20) (env : Env) (sender recipient : Address) (value : ℕ)
    (next : Erc20) : Prop where
  balances : next.balances = Erc20.credit (Erc20.debit token.ledger.balances sender value) recipient value
  payer : sender ≠ 0 → recipient ≠ 0 → token.Eligible env sender
  payee : recipient ≠ 0 → token.Eligible env recipient

/-- **The override.** A move that goes through is the base move, between wallets
the gate accepts. -/
theorem update_moves (solvent : ledger.Solvent) (same : ledger.balances = self.ledger.balances)
    (done : self._update env ledger sender recipient value = .ok moved) :
    moved.Solvent ∧ moved.allowances = ledger.allowances ∧ self.Moves env sender recipient value moved := by
  simp only [_update, bind_eq_ok, checkIf_eq_ok, requireEligible_eq_ok] at done
  obtain ⟨-, payer, -, payee, base⟩ := done
  obtain ⟨⟨balances, allowances, -⟩, kept⟩ := self.erc20.update_keeps solvent base
  rw [same] at balances
  exact ⟨kept, allowances, balances, fun real other => payer ⟨real, other⟩, payee⟩

/-- The override asks about both ends of a transfer. -/
theorem update_eq_ok (recipientReal : recipient ≠ 0) : self._update env ledger sender recipient value = .ok moved ↔
    (sender ≠ 0 → self.Eligible env sender) ∧ self.Eligible env recipient ∧
      self.erc20._update ledger sender recipient value = .ok moved := by
  simp only [_update, bind_eq_ok, checkIf_eq_ok, requireEligible_eq_ok, recipientReal, not_false_eq_true, and_true,
    forall_const, exists_and_left, exists_const, ne_eq]

theorem mint_eq_ok : self.mint env msgSender recipient value = .ok next ↔
    self.access.hasRole MINTER_ROLE msgSender = true ∧ recipient ≠ 0 ∧
      ∃ ledger, self._update env self.ledger 0 recipient value = .ok ledger ∧ next = { self with ledger } := by
  simp only [mint, Erc20Base.mint_eq_ok, AccessControlBase.onlyRole_eq_ok, bind_eq_ok, pure_outcome, Except.ok.injEq,
    exists_and_left, exists_const, and_assoc, eq_comm (a := next)]

theorem burn_eq_ok : self.burn env msgSender value = .ok next ↔
    msgSender ≠ 0 ∧ ∃ ledger, self._update env self.ledger msgSender 0 value = .ok ledger ∧
      next = { self with ledger } := by
  simp only [burn, Erc20Base.burn_eq_ok, bind_eq_ok, pure_outcome, Except.ok.injEq, exists_and_left, and_assoc,
    eq_comm (a := next)]

theorem transfer_eq_ok : self.transfer env msgSender recipient value = .ok next ↔
    msgSender ≠ 0 ∧ recipient ≠ 0 ∧
      ∃ ledger, self._update env self.ledger msgSender recipient value = .ok ledger ∧ next = { self with ledger } := by
  simp only [transfer, Erc20Base.transfer_eq_ok, bind_eq_ok, pure_outcome, Except.ok.injEq, exists_and_left, and_assoc,
    eq_comm (a := next)]

theorem transferFrom_eq_ok : self.transferFrom env msgSender sender recipient value = .ok next ↔
    ∃ spent, self.ledger.Spent sender msgSender value spent ∧ sender ≠ 0 ∧ recipient ≠ 0 ∧
      ∃ ledger, self._update env spent sender recipient value = .ok ledger ∧ next = { self with ledger } := by
  simp only [transferFrom, Erc20Base.transferFrom_eq_ok, bind_eq_ok, pure_outcome, Except.ok.injEq,
    eq_comm (a := next)]
  constructor
  · rintro ⟨ledger, ⟨spent, spending, payer, payee, update⟩, same⟩
    exact ⟨spent, spending, payer, payee, ledger, update, same⟩
  · rintro ⟨spent, spending, payer, payee, ledger, update, same⟩
    exact ⟨ledger, ⟨spent, spending, payer, payee, update⟩, same⟩

/-- **Inversion.** A successful call leaves the balances alone, or moves them
once; only the caller's own burn has no recipient. -/
theorem call_moves {request : Call} (solvent : self.ledger.Solvent)
    (done : self.call env msgSender request = .ok next) :
    next.ledger.Solvent ∧ next.policyId = self.policyId ∧ next.gate = self.gate ∧
      next.resolver = self.resolver ∧
      (next.ledger.balances = self.ledger.balances ∨
        ∃ sender recipient value, self.Moves env sender recipient value next.ledger ∧
          (recipient = 0 → sender = msgSender ∧ ∃ amount, request = .burn amount)) := by
  cases request with
  | mint target amt =>
    obtain ⟨-, real, ledger, update, rfl⟩ := mint_eq_ok.mp done
    obtain ⟨kept, -, moves⟩ := update_moves solvent rfl update
    exact ⟨kept, rfl, rfl, rfl, .inr ⟨_, _, _, moves, fun zero => absurd zero real⟩⟩
  | burn amount =>
    obtain ⟨-, ledger, update, rfl⟩ := burn_eq_ok.mp done
    obtain ⟨kept, -, moves⟩ := update_moves solvent rfl update
    exact ⟨kept, rfl, rfl, rfl, .inr ⟨_, _, _, moves, fun _ => ⟨rfl, amount, rfl⟩⟩⟩
  | transfer target value =>
    obtain ⟨-, real, ledger, update, rfl⟩ := transfer_eq_ok.mp done
    obtain ⟨kept, -, moves⟩ := update_moves solvent rfl update
    exact ⟨kept, rfl, rfl, rfl, .inr ⟨_, _, _, moves, fun zero => absurd zero real⟩⟩
  | approve spender value =>
    simp only [call, approve, Erc20Base.approve_eq_ok, bind_eq_ok, pure_outcome, Except.ok.injEq] at done
    obtain ⟨_, ⟨-, -, rfl⟩, rfl⟩ := done
    exact ⟨solvent.of_frame ⟨rfl, rfl⟩, rfl, rfl, rfl, .inl rfl⟩
  | transferFrom source target value =>
    obtain ⟨spent, spending, -, real, ledger, update, rfl⟩ := transferFrom_eq_ok.mp done
    have frame := spending.frame
    obtain ⟨kept, -, moves⟩ := update_moves (solvent.of_frame frame) frame.1 update
    exact ⟨kept, rfl, rfl, rfl, .inr ⟨_, _, _, moves, fun zero => absurd zero real⟩⟩
  | roles request =>
    simp only [call, bind_eq_ok, pure_outcome, Except.ok.injEq] at done
    obtain ⟨access, -, rfl⟩ := done
    exact ⟨solvent, rfl, rfl, rfl, .inl rfl⟩

/-- The wallets a call moves tokens between, a burner apart. -/
def Call.parties (msgSender : Address) : Call → List Address
  | .mint recipient _ => [recipient]
  | .transfer recipient _ => [msgSender, recipient]
  | .transferFrom sender recipient _ => [sender, recipient]
  | .burn _ | .approve .. | .roles _ => []

/-- No call moves tokens to or from a wallet the gate does not accept, the
owner's burn apart. -/
theorem call_checks {request : Call} (done : self.call env msgSender request = .ok next) :
    ∀ wallet ∈ request.parties msgSender, self.Eligible env wallet := by
  cases request with
  | mint target amt =>
    obtain ⟨-, real, ledger, update, -⟩ := mint_eq_ok.mp done
    simpa [Call.parties] using ((update_eq_ok real).mp update).2.1
  | transfer target value =>
    obtain ⟨payer, real, ledger, update, -⟩ := transfer_eq_ok.mp done
    obtain ⟨ofSender, ofRecipient, -⟩ := (update_eq_ok real).mp update
    simpa [Call.parties] using ⟨ofSender payer, ofRecipient⟩
  | transferFrom source target value =>
    obtain ⟨spent, -, payer, real, ledger, update, -⟩ := transferFrom_eq_ok.mp done
    obtain ⟨ofSender, ofRecipient, -⟩ := (update_eq_ok real).mp update
    simpa [Call.parties] using ⟨ofSender payer, ofRecipient⟩
  | burn amount => simp [Call.parties]
  | approve spender value => simp [Call.parties]
  | roles request => simp [Call.parties]

/-- Burning up to the balance asks nobody. -/
theorem burn_succeeds {amount : ℕ} (solvent : self.ledger.Solvent) (real : msgSender ≠ 0)
    (enough : amount ≤ self.ledger.balances msgSender) (env : Env) :
    ∃ next, self.burn env msgSender amount = .ok next ∧
      next.ledger.balances msgSender = self.ledger.balances msgSender - amount := by
  obtain ⟨ledger, base⟩ := (self.erc20.update_accepts self.ledger msgSender 0 amount).mpr (by rwa [if_neg real])
  have update : self._update env self.ledger msgSender 0 amount = .ok ledger := by
    simpa [_update, checkIf] using base
  refine ⟨{ self with ledger }, burn_eq_ok.mpr ⟨real, ledger, update, rfl⟩, ?_⟩
  obtain ⟨⟨balances, -, -⟩, -⟩ := self.erc20.update_keeps solvent base
  rw [balances, Erc20.credit, if_pos rfl, Erc20.debit, if_neg real, Function.update_self]

/-- A call by an account, and what the other contracts answer while it runs. -/
structure Attempt where
  env : Env
  sender : Caller
  call : Call

def step (self : GatedERC20) (attempt : Attempt) : Result GatedERC20 :=
  self.call attempt.env attempt.sender attempt.call

theorem deploy_solvent {accessControl : AccessControlBase Error} {erc20 : Erc20Base Error}
    {gate_ resolver_ admin : Address} {policyId_ : Uint256}
    (deployed : deploy accessControl erc20 gate_ resolver_ policyId_ admin = .ok self) : self.ledger.Solvent := by
  simp only [deploy, bind_eq_ok, revertIf_eq_ok, pure_outcome, Except.ok.injEq] at deployed
  obtain ⟨-, -, -, -, -, -, rfl⟩ := deployed
  exact Erc20.solvent_empty

theorem mint_succeeds : (∃ next, self.mint env msgSender recipient value = .ok next) ↔
    self.access.hasRole MINTER_ROLE msgSender = true ∧ recipient ≠ 0 ∧ self.Eligible env recipient ∧
      self.ledger.totalSupply + value < uint256Modulus := by
  constructor
  · rintro ⟨next, done⟩
    obtain ⟨role, real, ledger, update, -⟩ := mint_eq_ok.mp done
    obtain ⟨-, eligible, base⟩ := (update_eq_ok real).mp update
    have room := (self.erc20.update_accepts ..).mp ⟨_, base⟩
    rw [if_pos rfl] at room
    exact ⟨role, real, eligible, room⟩
  · rintro ⟨role, real, eligible, room⟩
    obtain ⟨moved, base⟩ := (self.erc20.update_accepts self.ledger 0 recipient value).mpr (by rwa [if_pos rfl])
    have update : self._update env self.ledger 0 recipient value = .ok moved :=
      (update_eq_ok real).mpr ⟨fun zero => absurd rfl zero, eligible, base⟩
    exact ⟨_, mint_eq_ok.mpr ⟨role, real, moved, update, rfl⟩⟩

/-- A mint pays the recipient, in a sound token. -/
theorem mint_pays (solvent : self.ledger.Solvent) (done : self.mint env msgSender recipient value = .ok next) :
    next.ledger.balances recipient = self.ledger.balances recipient + value := by
  obtain ⟨-, real, ledger, update, rfl⟩ := mint_eq_ok.mp done
  obtain ⟨⟨balances, -, -⟩, -⟩ := self.erc20.update_keeps solvent ((update_eq_ok real).mp update).2.2
  rw [balances, Erc20.credit, if_neg real, Function.update_self, Erc20.debit, if_pos rfl]

theorem transfer_succeeds : (∃ next, self.transfer env msgSender recipient value = .ok next) ↔
    msgSender ≠ 0 ∧ recipient ≠ 0 ∧ self.Eligible env msgSender ∧ self.Eligible env recipient ∧
      value ≤ self.ledger.balances msgSender := by
  constructor
  · rintro ⟨next, done⟩
    obtain ⟨payer, real, ledger, update, -⟩ := transfer_eq_ok.mp done
    obtain ⟨ofSender, eligible, base⟩ := (update_eq_ok real).mp update
    have enough := (self.erc20.update_accepts ..).mp ⟨_, base⟩
    rw [if_neg payer] at enough
    exact ⟨payer, real, ofSender payer, eligible, enough⟩
  · rintro ⟨payer, real, ofSender, eligible, enough⟩
    obtain ⟨moved, base⟩ := (self.erc20.update_accepts self.ledger msgSender recipient value).mpr
      (by rwa [if_neg payer])
    have update : self._update env self.ledger msgSender recipient value = .ok moved :=
      (update_eq_ok real).mpr ⟨fun _ => ofSender, eligible, base⟩
    exact ⟨_, transfer_eq_ok.mpr ⟨payer, real, moved, update, rfl⟩⟩

/-- A transfer moves the value, in a sound token. -/
theorem transfer_moves (solvent : self.ledger.Solvent) (done : self.transfer env msgSender recipient value = .ok next) :
    next.ledger.balances = Erc20.credit (Erc20.debit self.ledger.balances msgSender value) recipient value := by
  obtain ⟨-, real, ledger, update, rfl⟩ := transfer_eq_ok.mp done
  exact (self.erc20.update_keeps solvent ((update_eq_ok real).mp update).2.2).1.balances

/-- The supply stays backed in every run, whatever gate and resolver answer. -/
theorem exec_solvent (solvent : self.ledger.Solvent) (attempts : List Attempt) :
    (exec step self attempts).ledger.Solvent :=
  exec_preserves (fun _ _ _ held done => (call_moves held done).1) solvent attempts

/-- **Free exit and no leakage.** In every run of calls by any accounts under
arbitrarily changing oracles: the supply is the sum of the balances; a wallet
refused during a step does not gain, and loses only by its own burn; a burn up to
the balance goes through; a reverted call changes nothing. -/
theorem free_exit_no_leakage {accessControl : AccessControlBase Error} {erc20 : Erc20Base Error}
    {gate_ resolver_ admin : Address} {policyId_ : Uint256}
    (deployed : deploy accessControl erc20 gate_ resolver_ policyId_ admin = .ok self) (attempts : List Attempt) :
    (exec step self attempts).ledger.totalSupply =
      ∑ wallet, (exec step self attempts).ledger.balances wallet ∧
    (∀ attempt next wallet, step (exec step self attempts) attempt = .ok next →
      ¬ (exec step self attempts).Eligible attempt.env wallet →
      next.ledger.balances wallet ≤ (exec step self attempts).ledger.balances wallet ∧
      (next.ledger.balances wallet < (exec step self attempts).ledger.balances wallet →
        attempt.sender.val = wallet ∧ ∃ amount, attempt.call = .burn amount)) ∧
    (∀ env (caller : Caller) (amount : Uint256),
      amount.toNat ≤ (exec step self attempts).ledger.balances caller →
      ∃ next, step (exec step self attempts) ⟨env, caller, .burn amount⟩ = .ok next ∧
        next.ledger.balances caller =
          (exec step self attempts).ledger.balances caller - amount.toNat) ∧
    (∀ attempt error, step (exec step self attempts) attempt = .error error →
      settle step (exec step self attempts) attempt = exec step self attempts) := by
  have solvent := exec_solvent (deploy_solvent deployed) attempts
  generalize exec step self attempts = token at solvent
  refine ⟨solvent.backed, ?_, ?_, fun attempt error rejected => settle_error rejected⟩
  · intro attempt next wallet done refused
    obtain ⟨-, -, -, -, same | ⟨sender, recipient, value, moves, burning⟩⟩ := call_moves solvent done
    · rw [same]
      exact ⟨le_rfl, fun loses => absurd loses (lt_irrefl _)⟩
    · have balances := congrFun moves.balances wallet
      constructor
      · by_contra gains
        rw [not_le, balances] at gains
        obtain ⟨rfl, real⟩ := Erc20.gains_of_moved gains
        exact refused (moves.payee real)
      · intro loses
        rw [balances] at loses
        obtain ⟨rfl, real⟩ := Erc20.loses_of_moved loses
        have exits : recipient = 0 := by
          by_contra other
          exact refused (moves.payer real other)
        obtain ⟨owner, burns⟩ := burning exits
        exact ⟨owner.symm, burns⟩
  · intro env caller amount enough
    exact burn_succeeds solvent caller.property enough env

/-- Every gate gives one answer, about every wallet. -/
def oneAnswer (answer : Result (Bool × Bytes32)) : Env where
  block := { chainId := 1, timestamp := 100 }
  hasCode := fun _ => true
  gateAt := fun _ => ⟨fun _ _ => answer⟩
  resolverAt := fun _ => ⟨fun _ => .ok 30⟩
  scoresAt := fun _ => ⟨fun _ => .ok 0⟩

def freshToken : GatedERC20 where
  accessControl := .standard
  erc20 := .standard
  access := (AccessControl.vacant.grant AccessControl.DEFAULT_ADMIN_ROLE 10).grant MINTER_ROLE 10
  ledger := Erc20.empty
  gate := 1
  resolver := 2
  policyId := 1

/-- Minted while accepted, a holder exits while the gate reverts. -/
theorem free_exit_no_leakage_reverting :
    ∃ next, step (exec step freshToken
        [⟨oneAnswer (.ok (true, Reason.OK)), ⟨10, by decide⟩, .mint 11 5⟩])
      ⟨oneAnswer (.error .undecodable), ⟨11, by decide⟩, .burn 5⟩ = .ok next ∧
      next.ledger.balances 11 = 0 := by
  have deployed : deploy .standard .standard 1 2 1 10 = .ok freshToken := rfl
  obtain ⟨-, -, exits, -⟩ := free_exit_no_leakage deployed
    [⟨oneAnswer (.ok (true, Reason.OK)), ⟨10, by decide⟩, .mint 11 5⟩]
  exact exits _ ⟨11, by decide⟩ 5 (by decide +kernel)
end GatedERC20

end PassportKit
