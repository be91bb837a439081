import PassportKit.Identity

/-! `IdentityFactory.sol`: mints one `Identity` per person and resolves wallets,
the person's own and the linked agents', to identities. -/
namespace PassportKit
open Evm OpenZeppelin Eip712

structure IdentityFactory where
  accessControl : AccessControlBase Error
  access : AccessControl
  issuerRegistry : Address
  /-- wallet => identity, person or agent -/
  identityOfWallet : Address → Address
  /-- identity we minted -/
  isIdentity : Address → Bool
  /-- wallet linked as an agent -/
  isAgent : Address → Bool

namespace IdentityFactory

def deploy (accessControl : AccessControlBase Error) (admin issuerRegistry : Address) : Result IdentityFactory := do
  revertIf (admin = 0) (.custom .ZeroAdmin)
  revertIf (issuerRegistry = 0) (.custom .ZeroIssuerRegistry)
  return {
    accessControl := accessControl
    access := accessControl._grantRole (accessControl._grantRole .vacant AccessControl.DEFAULT_ADMIN_ROLE admin)
      AGENT_ROLE admin
    issuerRegistry := issuerRegistry
    identityOfWallet := fun _ => 0
    isIdentity := fun _ => false
    isAgent := fun _ => false }

variable {Hash : Type} [Crypto Hash] [DecidableEq Hash]

/-- `createIdentity`, deploying to the address `CREATE` chose; returns the
factory beside the new contract. -/
def createIdentity (self : IdentityFactory) (msgSender wallet created : Address) :
    Result (IdentityFactory × Identity Hash) := do
  self.accessControl.onlyRole self.access AGENT_ROLE msgSender
  revertIf (wallet = 0) (.custom .ZeroWallet)
  revertIf (self.identityOfWallet wallet ≠ 0) (.custom .IdentityExists)
  let identity ← Identity.deploy wallet self.issuerRegistry
  return ({ self with
    identityOfWallet := Function.update self.identityOfWallet wallet created
    isIdentity := Function.update self.isIdentity created true }, identity)

def linkAgent (self : IdentityFactory) (msgSender agentWallet personIdentity : Address) :
    Result IdentityFactory := do
  self.accessControl.onlyRole self.access AGENT_ROLE msgSender
  revertIf (agentWallet = 0) (.custom .ZeroAgent)
  revertIf (self.isIdentity personIdentity = false) (.custom .NotAnIdentity)
  revertIf (self.identityOfWallet agentWallet ≠ 0) (.custom .WalletInUse)
  return { self with
    identityOfWallet := Function.update self.identityOfWallet agentWallet personIdentity
    isAgent := Function.update self.isAgent agentWallet true }

def unlinkAgent (self : IdentityFactory) (msgSender agentWallet : Address) :
    Result IdentityFactory := do
  self.accessControl.onlyRole self.access AGENT_ROLE msgSender
  revertIf (self.isAgent agentWallet = false) (.custom .NotLinked)
  return { self with
    identityOfWallet := Function.update self.identityOfWallet agentWallet 0
    isAgent := Function.update self.isAgent agentWallet false }

/-- The entry points that deploy nothing. -/
inductive Call where
  | linkAgent (agentWallet personIdentity : Address)
  | unlinkAgent (agentWallet : Address)
  | roles (call : AccessControl.Call)
  deriving DecidableEq

def call (self : IdentityFactory) (msgSender : Address) : Call → Result IdentityFactory
  | .linkAgent agentWallet personIdentity => self.linkAgent msgSender agentWallet personIdentity
  | .unlinkAgent agentWallet => self.unlinkAgent msgSender agentWallet
  | .roles request => do
    let access ← self.accessControl.call self.access msgSender request
    return { self with access }

variable {self next : IdentityFactory} {msgSender wallet created : Address}

theorem createIdentity_changes {identity : Identity Hash}
    (done : self.createIdentity msgSender wallet created = .ok (next, identity)) :
    self.access.hasRole AGENT_ROLE msgSender = true ∧ wallet ≠ 0 ∧
      self.identityOfWallet wallet = 0 ∧
      Identity.deploy wallet self.issuerRegistry = .ok identity ∧
      next = { self with
        identityOfWallet := Function.update self.identityOfWallet wallet created
        isIdentity := Function.update self.isIdentity created true } := by
  simp only [createIdentity, bind_eq_ok, AccessControlBase.onlyRole_eq_ok, revertIf_eq_ok, pure_outcome,
    Except.ok.injEq, Prod.mk.injEq, not_not] at done
  obtain ⟨-, role, -, real, -, unused, deployed, minted, rfl, rfl⟩ := done
  exact ⟨role, real, unused, minted, rfl⟩

theorem linkAgent_eq_ok {agentWallet personIdentity : Address} :
    self.linkAgent msgSender agentWallet personIdentity = .ok next ↔
      self.access.hasRole AGENT_ROLE msgSender = true ∧ agentWallet ≠ 0 ∧
      self.isIdentity personIdentity = true ∧ self.identityOfWallet agentWallet = 0 ∧
      next = { self with
        identityOfWallet := Function.update self.identityOfWallet agentWallet personIdentity
        isAgent := Function.update self.isAgent agentWallet true } := by
  simp only [linkAgent, bind_eq_ok, AccessControlBase.onlyRole_eq_ok, revertIf_eq_ok, pure_outcome,
    Except.ok.injEq, not_not, Bool.not_eq_false, exists_and_left, exists_const]
  tauto

theorem unlinkAgent_eq_ok {agentWallet : Address} :
    self.unlinkAgent msgSender agentWallet = .ok next ↔
      self.access.hasRole AGENT_ROLE msgSender = true ∧ self.isAgent agentWallet = true ∧
      next = { self with
        identityOfWallet := Function.update self.identityOfWallet agentWallet 0
        isAgent := Function.update self.isAgent agentWallet false } := by
  simp only [unlinkAgent, bind_eq_ok, AccessControlBase.onlyRole_eq_ok, revertIf_eq_ok, pure_outcome,
    Except.ok.injEq, Bool.not_eq_false, exists_and_left, exists_const]
  tauto

/-- No entry point reaches the registry identities are minted under. -/
theorem call_issuerRegistry {request : Call} (done : self.call msgSender request = .ok next) :
    next.issuerRegistry = self.issuerRegistry := by
  cases request with
  | linkAgent agentWallet personIdentity =>
    obtain ⟨-, -, -, -, rfl⟩ := linkAgent_eq_ok.mp done
    rfl
  | unlinkAgent agentWallet =>
    obtain ⟨-, -, rfl⟩ := unlinkAgent_eq_ok.mp done
    rfl
  | roles request =>
    simp only [call, bind_eq_ok, pure_outcome, Except.ok.injEq] at done
    obtain ⟨access, -, rfl⟩ := done
    rfl

/-- A wallet is an agent's after a call exactly when the call linked it, or it
was one before and the call did not unlink it. -/
theorem call_isAgent {request : Call} (done : self.call msgSender request = .ok next) :
    next.isAgent wallet = true ↔ (∃ personIdentity, request = .linkAgent wallet personIdentity) ∨
      (self.isAgent wallet = true ∧ request ≠ .unlinkAgent wallet) := by
  cases request with
  | linkAgent agentWallet personIdentity =>
    obtain ⟨-, -, -, -, rfl⟩ := linkAgent_eq_ok.mp done
    by_cases same : wallet = agentWallet
    · simp [same]
    · simp [same, Ne.symm same]
  | unlinkAgent agentWallet =>
    obtain ⟨-, -, rfl⟩ := unlinkAgent_eq_ok.mp done
    by_cases same : wallet = agentWallet
    · simp [same]
    · simp [same, Ne.symm same]
  | roles request =>
    simp only [call, bind_eq_ok, pure_outcome, Except.ok.injEq] at done
    obtain ⟨access, -, rfl⟩ := done
    simp

/-- **The wallet map.** A call that deploys nothing leaves it alone, or links an
unused wallet to a minted identity, or clears a linked wallet. -/
theorem call_changes {request : Call} (done : self.call msgSender request = .ok next) :
    next.isIdentity = self.isIdentity ∧
      (next.identityOfWallet = self.identityOfWallet ∧ next.isAgent = self.isAgent ∨
      (∃ agentWallet personIdentity, request = .linkAgent agentWallet personIdentity ∧
        agentWallet ≠ 0 ∧ self.isIdentity personIdentity = true ∧
        self.identityOfWallet agentWallet = 0 ∧
        next.identityOfWallet = Function.update self.identityOfWallet agentWallet personIdentity ∧
        next.isAgent = Function.update self.isAgent agentWallet true) ∨
      ∃ agentWallet, request = .unlinkAgent agentWallet ∧ self.isAgent agentWallet = true ∧
        next.identityOfWallet = Function.update self.identityOfWallet agentWallet 0 ∧
        next.isAgent = Function.update self.isAgent agentWallet false) := by
  cases request with
  | linkAgent agentWallet personIdentity =>
    simp only [call, linkAgent, bind_eq_ok, AccessControlBase.onlyRole_eq_ok, revertIf_eq_ok,
      pure_outcome, Except.ok.injEq, not_not] at done
    obtain ⟨-, -, -, real, -, minted, -, unused, rfl⟩ := done
    exact ⟨rfl, .inr (.inl ⟨agentWallet, personIdentity, rfl, real, by simpa using minted, unused,
      rfl, rfl⟩)⟩
  | unlinkAgent agentWallet =>
    simp only [call, unlinkAgent, bind_eq_ok, AccessControlBase.onlyRole_eq_ok, revertIf_eq_ok,
      pure_outcome, Except.ok.injEq] at done
    obtain ⟨-, -, -, linked, rfl⟩ := done
    exact ⟨rfl, .inr (.inr ⟨agentWallet, rfl, by simpa using linked, rfl, rfl⟩)⟩
  | roles request =>
    simp only [call, bind_eq_ok, pure_outcome, Except.ok.injEq] at done
    obtain ⟨access, -, rfl⟩ := done
    exact ⟨rfl, .inl ⟨rfl, rfl⟩⟩

end IdentityFactory

end PassportKit
