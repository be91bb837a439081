import PassportKit.Runs
import PassportKit.ClaimIssuer
import PassportKit.IdentityFactory
import PassportKit.EligibilityGate

/-! The identity stack as one machine: the registry, the factory and the gate,
every claim issuer and identity deployed over time, and any other contract by
the answers it would give. An input is one transaction by one account, or time
passing; a rejected transaction leaves the state alone. -/
namespace PassportKit
open Evm OpenZeppelin Eip712 Runs

/-- Some other contract, known only by what it answers now. -/
structure Foreign where
  isClaimValid : IClaimIssuer
  getClaim : Uint256 → Address → Result (Bool × Bytes × Bytes)

/-- What lives at an address. -/
inductive Code (Hash : Type) where
  | empty
  | claimIssuer (contract : ClaimIssuer)
  | identity (contract : Identity Hash)
  | foreign (contract : Foreign)

structure Stack (Hash : Type) where
  /-- What its contracts inherit. -/
  accessControl : AccessControlBase Error
  block : Block
  registry : IssuerRegistry
  factory : IdentityFactory
  gate : EligibilityGate
  code : Address → Code Hash

namespace Stack

variable {Hash : Type} [Crypto Hash]

/-- What a caller hears of a `bool` view: the encoded value, or its revert. -/
def replyOf : Result Bool → CallReply
  | .ok valid => .returned (encodeBool valid)
  | .error _ => .reverted []

@[simp] theorem replyOf_ok (valid : Bool) : replyOf (.ok valid) = .returned (encodeBool valid) := rfl

@[simp] theorem replyOf_error (error : Revert Error) : replyOf (.error error) = .reverted [] := rfl

/-- The reply of whatever lives at an address to `isClaimValid`. Calling an
address without code succeeds with nothing; a contract without the function
reverts. -/
def issuerAt (s : Stack Hash) (issuer : Address) : IClaimIssuer := fun identity topic sig data =>
  match s.code issuer with
  | .empty => .returned []
  | .claimIssuer contract => replyOf (contract.isClaimValid Hash s.block issuer identity topic sig data)
  | .identity _ => .reverted []
  | .foreign contract => contract.isClaimValid identity topic sig data

omit [Crypto Hash] in
/-- `getClaim(topic, issuer)` on whatever lives at an address. -/
def getClaim (s : Stack Hash) (account : Address) (topic : Uint256) (issuer : Address) :
    Result (Bool × Bytes × Bytes) :=
  match s.code account with
  | .empty => .error .undecodable
  | .claimIssuer _ => .error (.bubbled [])
  | .identity contract => .ok (contract.getClaim topic issuer)
  | .foreign contract => contract.getClaim topic issuer

def isEmpty (s : Stack Hash) (account : Address) : Bool :=
  match s.code account with
  | .empty => true
  | _ => false

/-- Everything the gate reads, in this state. -/
def reads (s : Stack Hash) : Reads where
  hasCode := fun account => !s.isEmpty account
  issuersForTopic := s.registry.issuersForTopic
  getClaim := s.getClaim
  issuerAt := s.issuerAt

def isEligible (s : Stack Hash) (identity : Address) (policyId : Uint256) : Result (Bool × Bytes32) :=
  s.gate.isEligible s.reads identity policyId

/-- The gate as the enforcement surfaces see it. -/
def eligibilityGate (s : Stack Hash) : IEligibilityGate := ⟨s.isEligible⟩

/-- The factory as the enforcement surfaces see it. -/
def identityResolver (s : Stack Hash) : IIdentityResolver :=
  ⟨fun wallet => .ok (s.factory.identityOfWallet wallet)⟩

/-! ## Transactions -/

inductive Action where
  | registry (call : IssuerRegistry.Call)
  | claimIssuer (target : Address) (call : ClaimIssuer.Call)
  | identity (target : Address) (call : Identity.Call)
  | factory (call : IdentityFactory.Call)
  | createIdentity (wallet created : Address)
  | gate (call : EligibilityGate.Call)
  | deployClaimIssuer (created admin signer : Address)
  /-- Some other contract appears, changes its answers, or goes away. -/
  | foreign (target : Address) (contract : Option Foreign)
  | elapse (seconds : ℕ)

structure Input where
  sender : Caller
  action : Action

def setCode (s : Stack Hash) (account : Address) (code : Code Hash) : Stack Hash :=
  { s with code := Function.update s.code account code }

/-- A deployment lands on an address nothing lives at. -/
def vacant (s : Stack Hash) (created : Address) : Result Unit :=
  revertIf (created = 0 ∨ s.isEmpty created = false) (.bubbled [])

/-- The change of some other contract: only where no contract of ours lives. -/
def setForeign (s : Stack Hash) (target : Address) (contract : Option Foreign) :
    Result (Stack Hash) := do
  revertIf (target = 0) (.bubbled [])
  match s.code target with
  | .claimIssuer _ => .error (.bubbled [])
  | .identity _ => .error (.bubbled [])
  | .empty | .foreign _ => return s.setCode target (contract.elim .empty .foreign)

variable [DecidableEq Hash]

def step (s : Stack Hash) (input : Input) : Result (Stack Hash) :=
  match input.action with
  | .registry call => do
    let registry ← s.registry.call input.sender call
    return { s with registry }
  | .claimIssuer target call =>
    match s.code target with
    | .claimIssuer contract => do
      let contract ← contract.call input.sender call
      return s.setCode target (.claimIssuer contract)
    | _ => .error .undecodable
  | .identity target call =>
    match s.code target with
    | .identity contract => do
      let contract ← contract.call target s.registry s.issuerAt input.sender call
      return s.setCode target (.identity contract)
    | _ => .error .undecodable
  | .factory call => do
    let factory ← s.factory.call input.sender call
    return { s with factory }
  | .createIdentity wallet created => do
    s.vacant created
    let (factory, contract) ← s.factory.createIdentity input.sender wallet created
    return { s with factory }.setCode created (.identity contract)
  | .gate call => do
    let gate ← s.gate.call input.sender call
    return { s with gate }
  | .deployClaimIssuer created admin signer => do
    s.vacant created
    let contract ← ClaimIssuer.deploy s.accessControl admin signer
    return s.setCode created (.claimIssuer contract)
  | .foreign target contract => s.setForeign target contract
  | .elapse seconds => return { s with block := { s.block with timestamp := s.block.timestamp + seconds } }

/-- The freshly deployed stack: registry, factory and gate from their
constructors, the latter two given the same registry, and nothing else of ours. -/
structure Genesis (s : Stack Hash) : Prop where
  registry : ∃ admin, IssuerRegistry.deploy s.accessControl admin = .ok s.registry
  wired : ∃ registryAddress factoryAdmin gateAdmin,
    IdentityFactory.deploy s.accessControl factoryAdmin registryAddress = .ok s.factory ∧
    EligibilityGate.deploy s.accessControl gateAdmin registryAddress = .ok s.gate
  zero : s.code 0 = .empty
  foreign : ∀ account, s.code account = .empty ∨ ∃ contract, s.code account = .foreign contract

/-- The states any transactions lead to from a fresh deployment. -/
def Reachable (s : Stack Hash) : Prop :=
  ∃ start inputs, Genesis start ∧ s = exec step start inputs

/-- Everything a committed transaction can have done. -/
inductive Change (s : Stack Hash) (input : Input) : Stack Hash → Prop where
  | registry {call : IssuerRegistry.Call} {registry : IssuerRegistry} :
      input.action = .registry call → s.registry.call input.sender call = .ok registry →
      Change s input { s with registry }
  | factory {call : IdentityFactory.Call} {factory : IdentityFactory} :
      input.action = .factory call → s.factory.call input.sender call = .ok factory →
      Change s input { s with factory }
  | gate {call : EligibilityGate.Call} {gate : EligibilityGate} :
      input.action = .gate call → s.gate.call input.sender call = .ok gate →
      Change s input { s with gate }
  | elapsed {seconds : ℕ} :
      input.action = .elapse seconds →
      Change s input { s with block := { s.block with timestamp := s.block.timestamp + seconds } }
  | issuer {target : Address} {call : ClaimIssuer.Call} {contract called : ClaimIssuer} :
      input.action = .claimIssuer target call → s.code target = .claimIssuer contract →
      contract.call input.sender call = .ok called →
      Change s input (s.setCode target (.claimIssuer called))
  | identity {target : Address} {call : Identity.Call} {contract called : Identity Hash} :
      input.action = .identity target call → s.code target = .identity contract →
      contract.call target s.registry s.issuerAt input.sender call = .ok called →
      Change s input (s.setCode target (.identity called))
  | minted {wallet created : Address} {factory : IdentityFactory} {contract : Identity Hash} :
      input.action = .createIdentity wallet created → created ≠ 0 → s.code created = .empty →
      s.factory.createIdentity input.sender wallet created = .ok (factory, contract) →
      Change s input ({ s with factory }.setCode created (.identity contract))
  | deployed {created admin signer : Address} {contract : ClaimIssuer} :
      input.action = .deployClaimIssuer created admin signer → created ≠ 0 →
      s.code created = .empty → ClaimIssuer.deploy s.accessControl admin signer = .ok contract →
      Change s input (s.setCode created (.claimIssuer contract))
  | foreign {target : Address} (old new : Option Foreign) :
      input.action = .foreign target new → target ≠ 0 → s.code target = old.elim .empty .foreign →
      Change s input (s.setCode target (new.elim .empty .foreign))

variable {s next : Stack Hash} {input : Input}

omit [Crypto Hash] [DecidableEq Hash] in
@[simp] theorem setCode_self (s : Stack Hash) (account : Address) (code : Code Hash) :
    (s.setCode account code).code account = code :=
  Function.update_self ..

omit [Crypto Hash] [DecidableEq Hash] in
theorem setCode_of_ne {account other : Address} (elsewhere : other ≠ account) (code : Code Hash) :
    (s.setCode account code).code other = s.code other :=
  Function.update_of_ne elsewhere ..

omit [Crypto Hash] [DecidableEq Hash] in
@[simp] theorem setCode_registry (account : Address) (code : Code Hash) :
    (s.setCode account code).registry = s.registry := rfl

omit [Crypto Hash] [DecidableEq Hash] in
@[simp] theorem setCode_factory (account : Address) (code : Code Hash) :
    (s.setCode account code).factory = s.factory := rfl

omit [Crypto Hash] [DecidableEq Hash] in
@[simp] theorem setCode_gate (account : Address) (code : Code Hash) :
    (s.setCode account code).gate = s.gate := rfl

omit [Crypto Hash] [DecidableEq Hash] in
theorem isEmpty_iff {account : Address} : s.isEmpty account = true ↔ s.code account = .empty := by
  unfold isEmpty
  cases s.code account <;> simp

omit [Crypto Hash] [DecidableEq Hash] in
theorem vacant_eq_ok {created : Address} {result : Unit} (free : s.vacant created = .ok result) :
    created ≠ 0 ∧ s.code created = .empty := by
  rw [vacant, revertIf_eq_ok, not_or, Bool.not_eq_false, isEmpty_iff] at free
  exact free

omit [Crypto Hash] [DecidableEq Hash] in
theorem setForeign_eq_ok {target : Address} {contract : Option Foreign}
    (done : s.setForeign target contract = .ok next) :
    target ≠ 0 ∧ (∃ old : Option Foreign, s.code target = old.elim .empty .foreign) ∧
      next = s.setCode target (contract.elim .empty .foreign) := by
  simp only [setForeign, bind_eq_ok, revertIf_eq_ok] at done
  obtain ⟨-, real, done⟩ := done
  cases code : s.code target with
  | empty =>
    simp only [code, pure_outcome, Except.ok.injEq] at done
    exact ⟨real, ⟨none, rfl⟩, done.symm⟩
  | foreign old =>
    simp only [code, pure_outcome, Except.ok.injEq] at done
    exact ⟨real, ⟨some old, rfl⟩, done.symm⟩
  | claimIssuer contract => simp [code] at done
  | identity contract => simp [code] at done

/-- **Inversion.** A committed transaction did one of these things. -/
theorem step_change (done : step s input = .ok next) : Change s input next := by
  obtain ⟨sender, action⟩ := input
  cases action with
  | registry call =>
    simp only [step, bind_eq_ok, pure_outcome, Except.ok.injEq] at done
    obtain ⟨registry, called, rfl⟩ := done
    exact .registry rfl called
  | factory call =>
    simp only [step, bind_eq_ok, pure_outcome, Except.ok.injEq] at done
    obtain ⟨factory, called, rfl⟩ := done
    exact .factory rfl called
  | gate call =>
    simp only [step, bind_eq_ok, pure_outcome, Except.ok.injEq] at done
    obtain ⟨gate, called, rfl⟩ := done
    exact .gate rfl called
  | elapse seconds =>
    simp only [step, pure_outcome, Except.ok.injEq] at done
    subst done
    exact .elapsed rfl
  | claimIssuer target call =>
    simp only [step] at done
    cases code : s.code target with
    | claimIssuer contract =>
      simp only [code, bind_eq_ok, pure_outcome, Except.ok.injEq] at done
      obtain ⟨changed, called, rfl⟩ := done
      exact .issuer rfl code called
    | empty => simp [code] at done
    | identity contract => simp [code] at done
    | foreign contract => simp [code] at done
  | identity target call =>
    simp only [step] at done
    cases code : s.code target with
    | identity contract =>
      simp only [code, bind_eq_ok, pure_outcome, Except.ok.injEq] at done
      obtain ⟨changed, called, rfl⟩ := done
      exact .identity rfl code called
    | empty => simp [code] at done
    | claimIssuer contract => simp [code] at done
    | foreign contract => simp [code] at done
  | createIdentity wallet created =>
    simp only [step, bind_eq_ok, pure_outcome, Except.ok.injEq] at done
    obtain ⟨_, free, ⟨factory, contract⟩, called, rfl⟩ := done
    obtain ⟨real, empty⟩ := vacant_eq_ok free
    exact .minted rfl real empty called
  | deployClaimIssuer created admin signer =>
    simp only [step, bind_eq_ok, pure_outcome, Except.ok.injEq] at done
    obtain ⟨_, free, contract, deployed, rfl⟩ := done
    obtain ⟨real, empty⟩ := vacant_eq_ok free
    exact .deployed rfl real empty deployed
  | foreign target contract =>
    obtain ⟨real, ⟨old, code⟩, rfl⟩ := setForeign_eq_ok done
    exact .foreign old contract rfl real code

end Stack

end PassportKit
