import PassportKit.Types

/-! `HouseTreasury.sol` and its `HouseToken.sol`: owners, the agent's mandate and
the approval queue. An entry point that calls the spend token returns the
request beside the state it leaves before that call, so that whatever the token
runs in between sees exactly that state. -/
namespace PassportKit
open Evm OpenZeppelin

structure HouseToken where
  erc20 : Erc20Base Error
  ledger : Erc20
  TREASURY : Address

namespace HouseToken

def deploy (erc20 : Erc20Base Error) (treasury : Address) : HouseToken := ⟨erc20, Erc20.empty, treasury⟩

def onlyTreasury (self : HouseToken) (msgSender : Address) : Result Unit :=
  revertIf (msgSender ≠ self.TREASURY) (.custom .NotTreasury)

def mint (self : HouseToken) (msgSender recipient : Address) (amount : ℕ) : Result HouseToken := do
  self.onlyTreasury msgSender
  let ledger ← self.erc20._mint self.erc20._update self.ledger recipient amount
  return { self with ledger }

def reclaim (self : HouseToken) (msgSender sender : Address) (amount : ℕ) : Result HouseToken := do
  self.onlyTreasury msgSender
  let ledger ← self.erc20._burn self.erc20._update self.ledger sender amount
  return { self with ledger }

inductive Call where
  | mint (recipient : Address) (amount : Uint256)
  | reclaim (sender : Address) (amount : Uint256)
  | transfer (recipient : Address) (value : Uint256)
  | approve (spender : Address) (value : Uint256)
  | transferFrom (sender recipient : Address) (value : Uint256)
  deriving DecidableEq

def call (self : HouseToken) (msgSender : Address) : Call → Result HouseToken
  | .mint recipient amount => self.mint msgSender recipient amount.toNat
  | .reclaim sender amount => self.reclaim msgSender sender amount.toNat
  | .transfer recipient value => do
    let ledger ← self.erc20.transfer self.erc20._update self.ledger msgSender recipient value.toNat
    return { self with ledger }
  | .approve spender value => do
    let ledger ← self.erc20.approve self.ledger msgSender spender value.toNat
    return { self with ledger }
  | .transferFrom sender recipient value => do
    let ledger ← self.erc20.transferFrom self.erc20._update self.ledger msgSender sender recipient value.toNat
    return { self with ledger }

end HouseToken

structure Mandate where
  agent : Address
  perTxCap : Uint256
  expiresAt : Uint64
  revoked : Bool
  deriving DecidableEq

structure PendingPayment where
  vendor : Address
  amount : Uint256
  evidenceHash : Bytes32
  approvals : ℕ
  executed : Bool
  deriving DecidableEq

/-- An unwritten storage slot. -/
def PendingPayment.none : PendingPayment := ⟨0, 0, 0, 0, false⟩

structure HouseTreasury where
  SPEND_TOKEN : Address
  ELIGIBILITY_GATE : Address
  IDENTITY_RESOLVER : Address
  POLICY_ID : Uint256
  HOUSE_TOKEN : Address
  owners : List Address
  isOwner : Address → Bool
  APPROVAL_THRESHOLD : ℕ
  mandate : Mandate
  nextPaymentId : ℕ
  payments : ℕ → PendingPayment
  approvedBy : ℕ → Address → Bool

/-- What a treasury call asks of the spend token: `safeTransfer` to a payee, or
`safeTransferFrom` a payer to the treasury. -/
inductive TokenRequest where
  | safeTransfer (recipient : Address) (amount : Uint256)
  | safeTransferFrom (sender : Address) (amount : Uint256)
  deriving DecidableEq

namespace HouseTreasury

/-- The constructor's loop over `owners_`. -/
def pushOwners (self : HouseTreasury) : List Address → Result HouseTreasury
  | [] => return self
  | owner :: rest => do
    revertIf (owner = 0) (.custom .ZeroAddress)
    revertIf (self.isOwner owner = true) (.custom .DuplicateOwner)
    let self := { self with
      owners := self.owners ++ [owner]
      isOwner := Function.update self.isOwner owner true }
    self.pushOwners rest

/-- The constructor; `houseToken` is where it deploys the scrip. -/
def deploy (owners_ : List Address) (approvalThreshold_ : ℕ)
    (spendToken gate resolver houseToken : Address) (policyId : Uint256) : Result HouseTreasury := do
  revertIf (owners_.length = 0) (.custom .ZeroAddress)
  revertIf (approvalThreshold_ = 0 ∨ approvalThreshold_ > owners_.length) (.custom .BadThreshold)
  let blank : HouseTreasury := {
    SPEND_TOKEN := spendToken
    ELIGIBILITY_GATE := gate
    IDENTITY_RESOLVER := resolver
    POLICY_ID := policyId
    HOUSE_TOKEN := houseToken
    owners := []
    isOwner := fun _ => false
    APPROVAL_THRESHOLD := approvalThreshold_
    mandate := ⟨0, 0, 0, false⟩
    nextPaymentId := 1
    payments := fun _ => PendingPayment.none
    approvedBy := fun _ _ => false }
  blank.pushOwners owners_

def onlyOwner (self : HouseTreasury) (msgSender : Address) : Result Unit :=
  revertIf (self.isOwner msgSender = false) (.custom .NotOwner)

/-- `_isEligible`: an unknown wallet never reaches the gate. -/
def isEligible (self : HouseTreasury) (env : Env) (wallet : Address) : Result Bool := do
  let identity ← (env.resolverAt self.IDENTITY_RESOLVER).identityOfWallet wallet
  if identity = 0 then return false
  else do
    let (ok, _) ← (env.gateAt self.ELIGIBILITY_GATE).isEligible identity self.POLICY_ID
    return ok

def NO_MANDATE : Bytes32 := shortString "NO_MANDATE"
def MANDATE_REVOKED : Bytes32 := shortString "MANDATE_REVOKED"
def MANDATE_EXPIRED : Bytes32 := shortString "MANDATE_EXPIRED"
def OWNER_NOT_COMPLIANT : Bytes32 := shortString "OWNER_NOT_COMPLIANT"

/-- The loop of `isAgentInGoodStanding` over the owners. -/
def checkOwners (self : HouseTreasury) (env : Env) : List Address → Result (Bool × Bytes32)
  | [] => return (true, 0)
  | owner :: rest => do
    let ok ← self.isEligible env owner
    if ok = false then return (false, OWNER_NOT_COMPLIANT) else self.checkOwners env rest

def isAgentInGoodStanding (self : HouseTreasury) (env : Env) (wallet : Address) :
    Result (Bool × Bytes32) :=
  if self.mandate.agent = 0 ∨ wallet ≠ self.mandate.agent then return (false, NO_MANDATE)
  else if self.mandate.revoked then return (false, MANDATE_REVOKED)
  else if self.mandate.expiresAt ≠ 0 ∧ env.block.timestamp > self.mandate.expiresAt.toNat then
    return (false, MANDATE_EXPIRED)
  else self.checkOwners env self.owners

def isCompliantOwner (self : HouseTreasury) (env : Env) (wallet : Address) : Result Bool :=
  if self.isOwner wallet then self.isEligible env wallet else return false

def agentPerTxCap (self : HouseTreasury) : Uint256 := self.mandate.perTxCap

def grantMandate (self : HouseTreasury) (msgSender agent : Address) (perTxCap : Uint256)
    (expiresAt : Uint64) : Result HouseTreasury := do
  self.onlyOwner msgSender
  revertIf (agent = 0) (.custom .ZeroAddress)
  return { self with mandate := { agent, perTxCap, expiresAt, revoked := false } }

def revokeMandate (self : HouseTreasury) (msgSender : Address) : Result HouseTreasury := do
  self.onlyOwner msgSender
  revertIf (self.mandate.agent = 0) (.custom .NoMandate)
  return { self with mandate := { self.mandate with revoked := true } }

/-- `fundConcierge`, at `address(this)`, on the scrip it mints. -/
def fundConcierge (self : HouseTreasury) (this : Address) (scrip : HouseToken) (msgSender : Address)
    (casaAmount : ℕ) : Result HouseToken := do
  self.onlyOwner msgSender
  revertIf (self.mandate.agent = 0) (.custom .NoMandate)
  scrip.mint this self.mandate.agent casaAmount

def reclaimBudget (self : HouseTreasury) (this : Address) (scrip : HouseToken) (msgSender : Address)
    (casaAmount : ℕ) : Result HouseToken := do
  self.onlyOwner msgSender
  revertIf (self.mandate.agent = 0) (.custom .NoMandate)
  scrip.reclaim this self.mandate.agent casaAmount

def deposit (msgSender : Address) (amount : Uint256) : TokenRequest := .safeTransferFrom msgSender amount

/-- Returns the new id beside the state. -/
def proposePayment (self : HouseTreasury) (env : Env) (msgSender vendor : Address) (amount : Uint256)
    (evidenceHash : Bytes32) : Result (HouseTreasury × ℕ) := do
  let (ok, _) ← self.isAgentInGoodStanding env msgSender
  revertIf (ok = false) (.custom .NotAgent)
  revertIf (vendor = 0) (.custom .ZeroAddress)
  revertIf (amount = 0) (.custom .ZeroAmount)
  let id := self.nextPaymentId
  let nextPaymentId ← checkedAdd id 1
  let payment : PendingPayment := { vendor, amount, evidenceHash, approvals := 0, executed := false }
  return ({ self with nextPaymentId, payments := Function.update self.payments id payment }, id)

def approvePayment (self : HouseTreasury) (env : Env) (msgSender : Address) (id : ℕ) :
    Result HouseTreasury := do
  self.onlyOwner msgSender
  let compliant ← self.isCompliantOwner env msgSender
  revertIf (compliant = false) (.custom .NotCompliantOwner)
  let p := self.payments id
  revertIf (p.vendor = 0) (.custom .UnknownPayment)
  revertIf (p.executed = true) (.custom .AlreadyExecuted)
  revertIf (self.approvedBy id msgSender = true) (.custom .AlreadyApproved)
  let approvals ← checkedAdd p.approvals 1
  return { self with
    approvedBy := store self.approvedBy id msgSender true
    payments := Function.update self.payments id { p with approvals } }

/-- `executePayment`: anyone may call it; the flag is set before the token runs. -/
def executePayment (self : HouseTreasury) (id : ℕ) : Result (HouseTreasury × TokenRequest) := do
  let p := self.payments id
  revertIf (p.vendor = 0) (.custom .UnknownPayment)
  revertIf (p.executed = true) (.custom .AlreadyExecuted)
  revertIf (p.approvals < self.APPROVAL_THRESHOLD) (.custom .ThresholdNotMet)
  return ({ self with payments := Function.update self.payments id { p with executed := true } },
    .safeTransfer p.vendor p.amount)

/-- The entry points that do not touch the spend token. -/
inductive Call where
  | grantMandate (agent : Address) (perTxCap : Uint256) (expiresAt : Uint64)
  | revokeMandate
  | fundConcierge (casaAmount : Uint256)
  | reclaimBudget (casaAmount : Uint256)
  | proposePayment (vendor : Address) (amount : Uint256) (evidenceHash : Bytes32)
  | approvePayment (id : ℕ)
  deriving DecidableEq

def call (self : HouseTreasury) (this : Address) (env : Env) (scrip : HouseToken)
    (msgSender : Address) : Call → Result (HouseTreasury × HouseToken)
  | .grantMandate agent perTxCap expiresAt => do
    let self ← self.grantMandate msgSender agent perTxCap expiresAt
    return (self, scrip)
  | .revokeMandate => do
    let self ← self.revokeMandate msgSender
    return (self, scrip)
  | .fundConcierge casaAmount => do
    let scrip ← self.fundConcierge this scrip msgSender casaAmount.toNat
    return (self, scrip)
  | .reclaimBudget casaAmount => do
    let scrip ← self.reclaimBudget this scrip msgSender casaAmount.toNat
    return (self, scrip)
  | .proposePayment vendor amount evidenceHash => do
    let (self, _) ← self.proposePayment env msgSender vendor amount evidenceHash
    return (self, scrip)
  | .approvePayment id => do
    let self ← self.approvePayment env msgSender id
    return (self, scrip)

variable {self next : HouseTreasury} {env : Env} {this msgSender wallet : Address} {scrip : HouseToken}
  {id : ℕ}

/-- The gate accepts a wallet, as the treasury asks it. -/
def Eligible (self : HouseTreasury) (env : Env) (wallet : Address) : Prop :=
  self.isEligible env wallet = .ok true

instance (env : Env) (wallet : Address) : Decidable (self.Eligible env wallet) :=
  inferInstanceAs (Decidable (self.isEligible env wallet = .ok true))

theorem checkOwners_eq_true {owners : List Address} {reason : Bytes32}
    (passed : self.checkOwners env owners = .ok (true, reason)) :
    ∀ owner ∈ owners, self.Eligible env owner := by
  induction owners with
  | nil => simp
  | cons owner rest ih =>
    obtain ⟨ok, asked, continued⟩ := bind_eq_ok.mp passed
    split at continued
    · simp at continued
    · rename_i accepted
      have yes : ok = true := by simpa using accepted
      subst yes
      intro other member
      rcases List.mem_cons.mp member with rfl | later
      · exact asked
      · exact ih continued other later

/-- The mandate names a wallet, stands, and every owner is compliant now. -/
structure InGoodStanding (treasury : HouseTreasury) (env : Env) (wallet : Address) : Prop where
  mandated : treasury.mandate.agent = wallet
  real : wallet ≠ 0
  unrevoked : treasury.mandate.revoked = false
  unexpired : treasury.mandate.expiresAt = 0 ∨
    env.block.timestamp ≤ treasury.mandate.expiresAt.toNat
  owners : ∀ owner ∈ treasury.owners, treasury.Eligible env owner

theorem isAgentInGoodStanding_eq_true {reason : Bytes32}
    (passed : self.isAgentInGoodStanding env wallet = .ok (true, reason)) :
    self.InGoodStanding env wallet := by
  unfold isAgentInGoodStanding at passed
  split at passed
  · simp at passed
  rename_i mandated
  obtain ⟨real, same⟩ := not_or.mp mandated
  split at passed
  · simp at passed
  rename_i unrevoked
  split at passed
  · simp at passed
  rename_i unexpired
  have agent : self.mandate.agent = wallet := by simpa [eq_comm] using same
  refine ⟨agent, agent ▸ real, by simpa using unrevoked, ?_, checkOwners_eq_true passed⟩
  by_contra neither
  rw [not_or, not_le] at neither
  exact unexpired neither

/-! ## What a call changes -/

/-- A payment was entered under the next id. -/
structure Proposed (treasury next : HouseTreasury) (env : Env) (msgSender vendor : Address)
    (amount : Uint256) (evidenceHash : Bytes32) : Prop where
  standing : treasury.InGoodStanding env msgSender
  payee : vendor ≠ 0
  changed : next = { treasury with
    nextPaymentId := treasury.nextPaymentId + 1
    payments := Function.update treasury.payments treasury.nextPaymentId
      { vendor, amount, evidenceHash, approvals := 0, executed := false } }

theorem proposePayment_changes {vendor : Address} {amount : Uint256} {evidenceHash : Bytes32}
    (done : self.proposePayment env msgSender vendor amount evidenceHash = .ok (next, id)) :
    Proposed self next env msgSender vendor amount evidenceHash := by
  simp only [proposePayment, bind_eq_ok, revertIf_eq_ok, checkedAdd_eq_ok, pure_outcome,
    Except.ok.injEq, Prod.mk.injEq, Bool.not_eq_false] at done
  obtain ⟨⟨ok, reason⟩, standing, -, accepted, -, real, -, -, count, ⟨-, rfl⟩, rfl, -⟩ := done
  dsimp only at accepted
  subst accepted
  exact ⟨isAgentInGoodStanding_eq_true standing, real, rfl⟩

/-- An owner was counted. -/
structure Approved (treasury next : HouseTreasury) (env : Env) (msgSender : Address) (id : ℕ) :
    Prop where
  owner : treasury.isOwner msgSender = true
  eligible : treasury.Eligible env msgSender
  known : (treasury.payments id).vendor ≠ 0
  pending : (treasury.payments id).executed = false
  fresh : treasury.approvedBy id msgSender = false
  changed : next = { treasury with
    approvedBy := store treasury.approvedBy id msgSender true
    payments := Function.update treasury.payments id
      { treasury.payments id with approvals := (treasury.payments id).approvals + 1 } }

theorem approvePayment_changes (done : self.approvePayment env msgSender id = .ok next) :
    Approved self next env msgSender id := by
  simp only [approvePayment, onlyOwner, bind_eq_ok, revertIf_eq_ok, checkedAdd_eq_ok, pure_outcome,
    Except.ok.injEq, Bool.not_eq_false, Bool.not_eq_true] at done
  obtain ⟨-, owner, compliant, asked, -, accepted, -, known, -, pending, -, fresh, count, ⟨-, rfl⟩, rfl⟩ := done
  subst accepted
  rw [isCompliantOwner, if_pos owner] at asked
  exact ⟨owner, asked, known, pending, fresh, rfl⟩

theorem executePayment_changes {request : TokenRequest}
    (done : self.executePayment id = .ok (next, request)) :
    (self.payments id).vendor ≠ 0 ∧ (self.payments id).executed = false ∧
      self.APPROVAL_THRESHOLD ≤ (self.payments id).approvals ∧
      request = .safeTransfer (self.payments id).vendor (self.payments id).amount ∧
      next = { self with
        payments := Function.update self.payments id { self.payments id with executed := true } } := by
  simp only [executePayment, bind_eq_ok, revertIf_eq_ok, pure_outcome, Except.ok.injEq,
    Prod.mk.injEq, Bool.not_eq_true, not_lt] at done
  obtain ⟨-, known, -, pending, -, enough, rfl, rfl⟩ := done
  exact ⟨known, pending, enough, rfl, rfl⟩

/-- **Inversion.** A call that leaves the spend token alone changes the mandate,
or the scrip, or enters a payment, or counts an owner. -/
theorem call_changes {request : Call} {scrip' : HouseToken}
    (done : self.call this env scrip msgSender request = .ok (next, scrip')) :
    (∃ mandate, next = { self with mandate } ∧ ∀ id, request ≠ .approvePayment id) ∨
    (∃ vendor amount evidenceHash, request = .proposePayment vendor amount evidenceHash ∧
      Proposed self next env msgSender vendor amount evidenceHash) ∨
    ∃ id, request = .approvePayment id ∧ Approved self next env msgSender id := by
  cases request with
  | grantMandate agent perTxCap expiresAt =>
    simp only [call, grantMandate, bind_eq_ok, pure_outcome, Except.ok.injEq, Prod.mk.injEq] at done
    obtain ⟨changed, ⟨-, -, -, -, rfl⟩, rfl, -⟩ := done
    exact .inl ⟨_, rfl, by simp⟩
  | revokeMandate =>
    simp only [call, revokeMandate, bind_eq_ok, pure_outcome, Except.ok.injEq, Prod.mk.injEq] at done
    obtain ⟨changed, ⟨-, -, -, -, rfl⟩, rfl, -⟩ := done
    exact .inl ⟨_, rfl, by simp⟩
  | fundConcierge casaAmount =>
    simp only [call, bind_eq_ok, pure_outcome, Except.ok.injEq, Prod.mk.injEq] at done
    obtain ⟨-, -, rfl, -⟩ := done
    exact .inl ⟨_, rfl, by simp⟩
  | reclaimBudget casaAmount =>
    simp only [call, bind_eq_ok, pure_outcome, Except.ok.injEq, Prod.mk.injEq] at done
    obtain ⟨-, -, rfl, -⟩ := done
    exact .inl ⟨_, rfl, by simp⟩
  | proposePayment vendor amount evidenceHash =>
    simp only [call, bind_eq_ok, pure_outcome, Except.ok.injEq, Prod.mk.injEq] at done
    obtain ⟨⟨changed, entered⟩, proposed, rfl, -⟩ := done
    exact .inr (.inl ⟨vendor, amount, evidenceHash, rfl, proposePayment_changes proposed⟩)
  | approvePayment id =>
    simp only [call, bind_eq_ok, pure_outcome, Except.ok.injEq, Prod.mk.injEq] at done
    obtain ⟨changed, approved, rfl, -⟩ := done
    exact .inr (.inr ⟨id, rfl, approvePayment_changes approved⟩)

end HouseTreasury

end PassportKit
