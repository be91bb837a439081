import PassportKit.StackInvariant
import PassportKit.GatedERC20
import PassportKit.HouseTreasury
import PassportKit.ComplianceHook
import PassportKit.PassportResolver

/-! The composed deployment: the identity stack, and the enforcement surfaces
that read its gate and its factory. A surface sees the stack only through
`env`, so no call of a surface reaches the stack's storage. -/
namespace PassportKit
open Evm OpenZeppelin Eip712 Runs

/-- An enforcement surface, with its storage. -/
inductive Surface where
  | token (contract : GatedERC20)
  | hook (contract : ComplianceHook)
  | resolver (contract : PassportResolver)
  | treasury (contract : HouseTreasury) (scrip : HouseToken)

namespace Surface

/-- The constructors' arguments. -/
inductive Deployment where
  | token (gate resolver : Address) (policyId : Uint256) (admin : Address)
  | hook (poolManager gate resolver : Address) (policyId : Uint256)
  | resolver (identityFactory scoreRegistry : Address)
  | treasury (owners : List Address) (approvalThreshold : ℕ)
      (spendToken gate resolver houseToken : Address) (policyId : Uint256)

def deploy (accessControl : AccessControlBase Error) (erc20 : Erc20Base Error) (env : Env) (this : Address) :
    Deployment → Result Surface
  | .token gate_ resolver_ policyId_ admin => do
    let contract ← GatedERC20.deploy accessControl erc20 gate_ resolver_ policyId_ admin
    return .token contract
  | .hook poolManager gate_ resolver_ policyId_ =>
    return .hook (ComplianceHook.deploy poolManager gate_ resolver_ policyId_)
  | .resolver identityFactory scoreRegistry => do
    let contract ← PassportResolver.deploy env.hasCode identityFactory scoreRegistry
    return .resolver contract
  | .treasury owners_ approvalThreshold_ spendToken gate_ resolver_ houseToken policyId_ => do
    let contract ← HouseTreasury.deploy owners_ approvalThreshold_ spendToken gate_ resolver_
      houseToken policyId_
    return .treasury contract (HouseToken.deploy erc20 this)

/-- A call of a surface. -/
inductive Call where
  | token (call : GatedERC20.Call)
  | beforeSwap (sender : Address) (hookData : Bytes)
  | beforeAddLiquidity (sender : Address) (hookData : Bytes)
  | resolver (call : PassportResolver.Call)
  | treasury (call : HouseTreasury.Call)
  /-- `paid` is whether the spend token performs the transfer. The flag is
  written before the token runs, so what it calls back comes next in the run. -/
  | executePayment (id : ℕ) (paid : Bool)
  | scrip (call : HouseToken.Call)

/-- A call of the surface at `this`; the pool hooks are the pool manager's. -/
def call (env : Env) (this msgSender : Address) : Surface → Call → Result Surface
  | .token contract, .token request => do
    let contract ← contract.call env msgSender request
    return .token contract
  | .hook contract, .beforeSwap sender hookData => do
    revertIf (msgSender ≠ contract.poolManager) (.bubbled [])
    let _ ← contract._beforeSwap env sender hookData
    return .hook contract
  | .hook contract, .beforeAddLiquidity sender hookData => do
    revertIf (msgSender ≠ contract.poolManager) (.bubbled [])
    let _ ← contract._beforeAddLiquidity env sender hookData
    return .hook contract
  | .resolver contract, .resolver request => do
    let contract ← contract.call msgSender request
    return .resolver contract
  | .treasury contract scrip, .treasury request => do
    let (contract, scrip) ← contract.call this env scrip msgSender request
    return .treasury contract scrip
  | .treasury contract scrip, .executePayment id paid => do
    let (contract, _) ← contract.executePayment id
    revertIf (paid = false) (.bubbled [])
    return .treasury contract scrip
  | .treasury contract scrip, .scrip request => do
    let scrip ← scrip.call msgSender request
    return .treasury contract scrip
  | _, _ => .error (.bubbled [])

theorem settle_resolver (env : Env) (this sender : Address) (contract : PassportResolver)
    (call : PassportResolver.Call) :
    settle (fun surface request => Surface.call env this sender surface request) (.resolver contract) (.resolver call) =
      .resolver (settle (fun contract call => contract.call sender call) contract call) := by
  have through : Surface.call env this sender (.resolver contract) (.resolver call) =
      (contract.call sender call).map Surface.resolver := by
    change (do let contract ← contract.call sender call; return Surface.resolver contract : Result Surface) = _
    cases contract.call sender call <;> rfl
  exact settle_through through rfl

theorem settle_token (env : Env) (this sender : Address) (contract : GatedERC20) (call : GatedERC20.Call) :
    settle (fun surface request => Surface.call env this sender surface request) (.token contract) (.token call) =
      .token (settle (fun contract call => contract.call env sender call) contract call) := by
  have through : Surface.call env this sender (.token contract) (.token call) =
      (contract.call env sender call).map Surface.token := by
    change (do let contract ← contract.call env sender call; return Surface.token contract : Result Surface) = _
    cases contract.call env sender call <;> rfl
  exact settle_through through rfl

end Surface

structure World (Hash : Type) where
  stack : Stack Hash
  /-- Where the stack's gate and factory live. -/
  gate : Address
  factory : Address
  /-- What the tokens inherit. -/
  erc20 : Erc20Base Error
  surfaces : Address → Option Surface
  /-- What every other contract answers a surface. -/
  around : Env

namespace World

variable {Hash : Type} [Crypto Hash]

/-- What a surface sees. -/
def env (w : World Hash) : Env where
  block := w.stack.block
  hasCode account := account = w.gate ∨ account = w.factory ∨ w.stack.isEmpty account = false ∨
    (w.surfaces account).isSome ∨ w.around.hasCode account
  gateAt account := if account = w.gate then w.stack.eligibilityGate else w.around.gateAt account
  resolverAt account :=
    if account = w.factory then w.stack.identityResolver else w.around.resolverAt account
  scoresAt := w.around.scoresAt

inductive Action where
  | stack (action : Stack.Action)
  | deploy (created : Address) (request : Surface.Deployment)
  | call (target : Address) (request : Surface.Call)
  /-- Some other contract changes its answers. -/
  | around (others : Env)

structure Input where
  sender : Caller
  action : Action

def setSurface (w : World Hash) (account : Address) (surface : Surface) : World Hash :=
  { w with surfaces := Function.update w.surfaces account (some surface) }

def withFactory (w : World Hash) (factory : IdentityFactory) : World Hash :=
  { w with stack := { w.stack with factory } }

variable [DecidableEq Hash]

def step (w : World Hash) (input : Input) : Result (World Hash) :=
  match input.action with
  | .stack action => do
    -- Nothing keeps a deployment of the stack off a surface's address: the model
    -- has a few more runs than the chain.
    let stack ← w.stack.step ⟨input.sender, action⟩
    return { w with stack }
  | .deploy created request => do
    revertIf (created = 0 ∨ w.env.hasCode created = true) (.bubbled [])
    let surface ← Surface.deploy w.stack.accessControl w.erc20 w.env created request
    return w.setSurface created surface
  | .call target request =>
    match w.surfaces target with
    | none => .error (.bubbled [])
    | some surface => do
      let surface ← surface.call w.env target input.sender request
      return w.setSurface target surface
  | .around others => return { w with around := others }

/-- A fresh stack, and no surface yet. -/
structure Genesis (w : World Hash) : Prop where
  stack : w.stack.Genesis
  surfaces : ∀ account, w.surfaces account = none

/-- The states any transactions lead to from a fresh deployment. -/
def Reachable (w : World Hash) : Prop :=
  ∃ start inputs, Genesis start ∧ w = exec step start inputs

variable {w next : World Hash} {input : Input}

omit [DecidableEq Hash] in
@[simp] theorem env_block : w.env.block = w.stack.block := rfl

omit [DecidableEq Hash] in
@[simp] theorem env_gateAt : w.env.gateAt w.gate = w.stack.eligibilityGate := if_pos rfl

omit [DecidableEq Hash] in
@[simp] theorem env_resolverAt : w.env.resolverAt w.factory = w.stack.identityResolver := if_pos rfl

omit [DecidableEq Hash] in
@[simp] theorem env_hasCode : w.env.hasCode w.gate = true := by simp [env]

/-- A transaction of the deployment is one of the stack, or leaves the stack
alone; the two addresses stay. -/
theorem step_stack (done : step w input = .ok next) :
    next.gate = w.gate ∧ next.factory = w.factory ∧
      (next.stack = w.stack ∧ (∀ action, input.action ≠ .stack action) ∨
        ∃ action, input.action = .stack action ∧
          w.stack.step ⟨input.sender, action⟩ = .ok next.stack) := by
  obtain ⟨sender, action⟩ := input
  cases action with
  | stack action =>
    simp only [step, bind_eq_ok, pure_outcome, Except.ok.injEq] at done
    obtain ⟨stack, stepped, rfl⟩ := done
    exact ⟨rfl, rfl, .inr ⟨action, rfl, stepped⟩⟩
  | deploy created request =>
    simp only [step, bind_eq_ok, pure_outcome, Except.ok.injEq] at done
    obtain ⟨-, -, surface, -, rfl⟩ := done
    exact ⟨rfl, rfl, .inl ⟨rfl, by simp⟩⟩
  | call target request =>
    cases found : w.surfaces target with
    | none => simp [step, found] at done
    | some surface =>
      simp only [step, found, bind_eq_ok, pure_outcome, Except.ok.injEq] at done
      obtain ⟨changed, -, rfl⟩ := done
      exact ⟨rfl, rfl, .inl ⟨rfl, by simp⟩⟩
  | around others =>
    simp only [step, pure_outcome, Except.ok.injEq] at done
    subst done
    exact ⟨rfl, rfl, .inl ⟨rfl, by simp⟩⟩

theorem settle_factory (w : World Hash) (sender : Caller) (call : IdentityFactory.Call) :
    settle step w ⟨sender, .stack (.factory call)⟩ =
      w.withFactory (settle (fun factory call => factory.call sender.val call) w.stack.factory call) := by
  have through : step w ⟨sender, .stack (.factory call)⟩ =
      (w.stack.factory.call sender.val call).map w.withFactory := by
    change ((do let factory ← w.stack.factory.call sender call; return { w.stack with factory } : Result (Stack Hash))
      >>= fun stack => (pure { w with stack } : Result (World Hash))) = _
    cases w.stack.factory.call sender call <;> rfl
  exact settle_through through rfl

theorem settle_call {surface : Surface} {target : Address} (there : w.surfaces target = some surface) (sender : Caller)
    (request : Surface.Call) : settle step w ⟨sender, .call target request⟩ = w.setSurface target
      (settle (fun surface request => surface.call w.env target sender.val request) surface request) := by
  have through : step w ⟨sender, .call target request⟩ =
      (surface.call w.env target sender request).map (w.setSurface target) := by
    simp only [step, there]
    cases surface.call w.env target sender request <;> rfl
  refine settle_through through ?_
  rw [setSurface, Function.update_eq_self_iff.mpr there.symm]

theorem settle_call_none {target : Address} (absent : w.surfaces target = none) (sender : Caller)
    (request : Surface.Call) : settle step w ⟨sender, .call target request⟩ = w :=
  settle_error (show step w ⟨sender, .call target request⟩ = .error (.bubbled []) by simp [step, absent])

/-- A transaction leaves a surface alone, or deploys it, or calls it. -/
theorem step_surface (done : step w input = .ok next) (account : Address) :
    next.surfaces account = w.surfaces account ∨
      (∃ request surface, input.action = .deploy account request ∧ w.env.hasCode account = false ∧
        Surface.deploy w.stack.accessControl w.erc20 w.env account request = .ok surface ∧
        next.surfaces account = some surface) ∨
      ∃ request surface changed, input.action = .call account request ∧ w.surfaces account = some surface ∧
        surface.call w.env account input.sender request = .ok changed ∧ next.surfaces account = some changed := by
  obtain ⟨sender, action⟩ := input
  cases action with
  | stack action =>
    simp only [step, bind_eq_ok, pure_outcome, Except.ok.injEq] at done
    obtain ⟨stack, -, rfl⟩ := done
    exact .inl rfl
  | deploy created request =>
    simp only [step, bind_eq_ok, revertIf_eq_ok, not_or, Bool.not_eq_true, pure_outcome, Except.ok.injEq] at done
    obtain ⟨-, ⟨-, free⟩, surface, deployed, rfl⟩ := done
    by_cases same : account = created
    · subst same
      exact .inr (.inl ⟨request, surface, rfl, free, deployed, Function.update_self ..⟩)
    · exact .inl (Function.update_of_ne same ..)
  | call target request =>
    cases found : w.surfaces target with
    | none => simp [step, found] at done
    | some surface =>
      simp only [step, found, bind_eq_ok, pure_outcome, Except.ok.injEq] at done
      obtain ⟨changed, called, rfl⟩ := done
      by_cases same : account = target
      · subst same
        exact .inr (.inr ⟨request, surface, changed, rfl, found, called, Function.update_self ..⟩)
      · exact .inl (Function.update_of_ne same ..)
  | around others =>
    simp only [step, pure_outcome, Except.ok.injEq] at done
    subst done
    exact .inl rfl

theorem step_valid (valid : w.stack.Valid) (done : step w input = .ok next) : next.stack.Valid := by
  obtain ⟨-, -, ⟨same, -⟩ | ⟨action, -, stepped⟩⟩ := step_stack done
  · rwa [same]
  · exact Stack.step_valid valid stepped

theorem exec_addresses (w : World Hash) (inputs : List Input) :
    (exec step w inputs).gate = w.gate ∧ (exec step w inputs).factory = w.factory := by
  have kept (later : World Hash) (input : Input) (next : World Hash)
      (held : later.gate = w.gate ∧ later.factory = w.factory) (done : step later input = .ok next) :
      next.gate = w.gate ∧ next.factory = w.factory := by
    obtain ⟨gate, factory, -⟩ := step_stack done
    exact ⟨gate.trans held.1, factory.trans held.2⟩
  exact exec_preserves kept ⟨rfl, rfl⟩ inputs

/-- **The stack of a reachable deployment is a reachable stack.** -/
theorem Reachable.stack (reachable : Reachable w) : w.stack.Reachable := by
  obtain ⟨start, inputs, fresh, rfl⟩ := reachable
  have kept (w : World Hash) (input : Input) (next : World Hash) (held : w.stack.Reachable)
      (done : step w input = .ok next) : next.stack.Reachable := by
    obtain ⟨-, -, ⟨same, -⟩ | ⟨action, -, stepped⟩⟩ := step_stack done
    · rwa [same]
    · have further := Stack.Reachable.exec held [⟨input.sender, action⟩]
      rwa [exec_cons, exec_nil, settle_ok stepped] at further
  exact exec_preserves kept ⟨start.stack, [], fresh.stack, rfl⟩ inputs

/-- Every token's ledger is sound. -/
def Solvent (w : World Hash) : Prop :=
  ∀ account token, w.surfaces account = some (.token token) → token.ledger.Solvent

theorem step_solvent (solvent : w.Solvent) (done : step w input = .ok next) : next.Solvent := by
  intro account token found
  rcases step_surface done account with same | ⟨request, surface, -, -, deployed, there⟩ |
      ⟨request, surface, changed, -, before, called, there⟩
  · exact solvent account token (same ▸ found)
  · rw [found] at there
    cases there
    cases request with
    | token gate_ resolver_ policyId_ admin =>
      simp only [Surface.deploy, bind_eq_ok, pure_outcome, Except.ok.injEq, Surface.token.injEq] at deployed
      obtain ⟨contract, deployment, rfl⟩ := deployed
      exact GatedERC20.deploy_solvent deployment
    | _ => simp [Surface.deploy, bind_eq_ok] at deployed
  · rw [found] at there
    cases there
    cases surface with
    | token contract =>
      cases request with
      | token call =>
        simp only [Surface.call, bind_eq_ok, pure_outcome, Except.ok.injEq, Surface.token.injEq] at called
        obtain ⟨reached, accepted, rfl⟩ := called
        exact (GatedERC20.call_moves (solvent account contract before) accepted).1
      | _ => simp [Surface.call] at called
    | _ => cases request <;> simp [Surface.call, bind_eq_ok] at called

/-- **Every token of a reachable deployment is solvent.** -/
theorem Reachable.solvent (reachable : Reachable w) : w.Solvent := by
  obtain ⟨start, inputs, fresh, rfl⟩ := reachable
  refine exec_preserves (fun _ _ _ => step_solvent) ?_ inputs
  intro account token found
  rw [fresh.surfaces account] at found
  cases found

end World

end PassportKit
