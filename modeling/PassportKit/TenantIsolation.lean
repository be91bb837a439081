import PassportKit.PassportResolver

/-! What one tenant of the resolver can do to another. `setIdentity` checks the
tenant of the parent it is told and writes under the node alone, so a tenant can
rebind a node that another tenant bound: it names a parent of its own, which the
open first `setTenant` hands to anyone. Runs without such a call keep every
tenant's bindings and records to itself. -/
namespace PassportKit.PassportResolver
open Evm Eip712 Runs

/-- The controller of the parent a node is bound under; zero where none is. -/
def controllerOf (self : PassportResolver) (node : Bytes32) : Address :=
  (self.tenantOf (self.parentOf node)).controller

/-- The binding of a node that has a controller moves only when that controller
calls `setIdentity`. -/
def Isolated (self : PassportResolver) (input : Input) : Prop :=
  ∀ node, self.controllerOf node ≠ 0 →
    ((settle step self input).identityOf node ≠ self.identityOf node ∨
      (settle step self input).parentOf node ≠ self.parentOf node) →
    (∃ node' parentNode identity, input.call = .setIdentity node' parentNode identity) ∧
      input.sender.val = self.controllerOf node

/-- An accepted `setIdentity` on a node that has a controller names a parent
with that same controller. -/
def KeepsTenancy (self : PassportResolver) (input : Input) : Prop :=
  ∀ node parentNode identity, input.call = .setIdentity node parentNode identity →
    input.sender.val = (self.tenantOf parentNode).controller → self.controllerOf node ≠ 0 →
    (self.tenantOf parentNode).controller = self.controllerOf node

/-- The transaction is not sent by the parent's controller. -/
def SentByOthers (parent : Bytes32) (self : PassportResolver) (input : Input) : Prop :=
  input.sender.val ≠ (self.tenantOf parent).controller

/-- No run of other accounts' transactions moves a binding of a parent with a
controller, or changes what a record of its nodes reads on a given chain. -/
def OthersChangeNothing (start : PassportResolver) (inputs : List Input) : Prop :=
  ∀ parent, (start.tenantOf parent).controller ≠ 0 → Along step (SentByOthers parent) start inputs →
    ∀ node, start.parentOf node = parent →
      (exec step start inputs).identityOf node = start.identityOf node ∧
      (exec step start inputs).parentOf node = start.parentOf node ∧
      ∀ (Hash : Type) [Crypto Hash] [DecidableEq Hash] env key,
        (exec step start inputs).text Hash env node key = start.text Hash env node key

section Step
variable {self next start : PassportResolver} {input : Input} {parent : Bytes32}

theorem isolated_of_kept (kept : KeepsTenancy self input) : Isolated self input := by
  intro node controlled moved
  cases outcome : step self input with
  | error error =>
    rw [settle_error outcome] at moved
    simp at moved
  | ok next =>
    rw [settle_ok outcome] at moved
    cases called : input.call with
    | setTenant parentNode gate policyId controller =>
      rw [step, called] at outcome
      obtain ⟨-, -, rfl⟩ := setTenant_eq_ok.mp outcome
      simp at moved
    | setIdentity node' parentNode identity =>
      rw [step, called] at outcome
      obtain ⟨guarded, rfl⟩ := setIdentity_eq_ok.mp outcome
      refine ⟨⟨node', parentNode, identity, rfl⟩, ?_⟩
      by_cases same : node = node'
      · subst same
        exact guarded.trans (kept node parentNode identity called guarded controlled)
      · simp [Function.update_of_ne same] at moved

theorem kept_of_isolated (isolated : Isolated self input) : KeepsTenancy self input := by
  intro node parentNode identity called guarded controlled
  by_cases stays : parentNode = self.parentOf node
  · rw [stays, controllerOf]
  have committed : step self input = .ok { self with
      identityOf := Function.update self.identityOf node identity
      parentOf := Function.update self.parentOf node parentNode } := by
    rw [step, called]
    exact setIdentity_eq_ok.mpr ⟨guarded, rfl⟩
  have moved : (settle step self input).parentOf node ≠ self.parentOf node := by
    rw [settle_ok committed]
    simpa using stays
  exact guarded.symm.trans (isolated node controlled (.inr moved)).2

/-- The guard isolates a transaction exactly when the two tenants it is about,
the node's and the named parent's, have one controller. -/
theorem isolated_iff_kept : Isolated self input ↔ KeepsTenancy self input :=
  ⟨kept_of_isolated, isolated_of_kept⟩

/-- What a parent's nodes stand on is as it was. -/
structure Unmoved (start : PassportResolver) (parent : Bytes32) (later : PassportResolver) : Prop where
  factory : later.identityFactory = start.identityFactory
  scores : later.scoreRegistry = start.scoreRegistry
  tenant : later.tenantOf parent = start.tenantOf parent
  identity : ∀ node, start.parentOf node = parent → later.identityOf node = start.identityOf node
  parentNode : ∀ node, start.parentOf node = parent → later.parentOf node = parent

theorem unmoved_start : Unmoved start parent start where
  factory := rfl
  scores := rfl
  tenant := rfl
  identity _ _ := rfl
  parentNode _ bound := bound

theorem Unmoved.step (unmoved : Unmoved start parent self)
    (claimed : (start.tenantOf parent).controller ≠ 0) (kept : KeepsTenancy self input)
    (others : SentByOthers parent self input)
    (committed : PassportResolver.step self input = .ok next) : Unmoved start parent next := by
  have immutables := call_immutables committed
  have factory := immutables.1.trans unmoved.factory
  have scores := immutables.2.trans unmoved.scores
  have controlled : (self.tenantOf parent).controller ≠ 0 := by rwa [unmoved.tenant]
  cases called : input.call with
  | setTenant parentNode gate policyId controller =>
    rw [PassportResolver.step, called] at committed
    obtain ⟨-, guarded, rfl⟩ := setTenant_eq_ok.mp committed
    have elsewhere : parent ≠ parentNode := by
      rintro rfl
      exact others (guarded controlled)
    refine ⟨factory, scores, ?_, unmoved.identity, unmoved.parentNode⟩
    simpa [Function.update_of_ne elsewhere] using unmoved.tenant
  | setIdentity node' parentNode identity =>
    rw [PassportResolver.step, called] at committed
    obtain ⟨guarded, rfl⟩ := setIdentity_eq_ok.mp committed
    -- The node written is not one of the parent's: its controller would be the sender.
    have elsewhere (node : Bytes32) (bound : start.parentOf node = parent) : node ≠ node' := by
      rintro rfl
      have here : self.controllerOf node = (self.tenantOf parent).controller := by
        rw [controllerOf, unmoved.parentNode node bound]
      have agree := kept node parentNode identity called guarded (by rwa [here])
      exact others (guarded.trans (agree.trans here))
    refine ⟨factory, scores, unmoved.tenant, fun node bound => ?_, fun node bound => ?_⟩
    · simpa [Function.update_of_ne (elsewhere node bound)] using unmoved.identity node bound
    · simpa [Function.update_of_ne (elsewhere node bound)] using unmoved.parentNode node bound

end Step

theorem unmoved_of_kept {start : PassportResolver} {parent : Bytes32} {inputs : List Input}
    (claimed : (start.tenantOf parent).controller ≠ 0) (kept : Along step KeepsTenancy start inputs)
    (others : Along step (SentByOthers parent) start inputs) :
    Unmoved start parent (exec step start inputs) := by
  apply exec_preserves_along _ unmoved_start (along_and.mpr ⟨kept, others⟩)
  intro self input next unmoved allowed committed
  exact unmoved.step claimed allowed.1 allowed.2 committed

theorem others_change_nothing {start : PassportResolver} {inputs : List Input}
    (kept : Along step KeepsTenancy start inputs) : OthersChangeNothing start inputs := by
  intro parent claimed others node bound
  have unmoved := unmoved_of_kept claimed kept others
  have still := unmoved.parentNode node bound
  refine ⟨unmoved.identity node bound, still.trans bound.symm, ?_⟩
  intro Hash _ _ env key
  apply text_congr unmoved.factory unmoved.scores (unmoved.identity node bound)
  rw [still, bound]
  exact unmoved.tenant

/-- **Tenant isolation, and its exact price.** Along a run every controlled
binding moves only by its own controller, and runs of other tenants change no
record, exactly when no accepted `setIdentity` takes a node from one controller's
parent to another controller's parent. -/
theorem tenants_isolated_iff_kept (start : PassportResolver) (inputs : List Input) :
    (Along step Isolated start inputs ∧ OthersChangeNothing start inputs) ↔
      Along step KeepsTenancy start inputs := by
  have steps : Along step Isolated start inputs ↔ Along step KeepsTenancy start inputs :=
    along_congr (fun _ _ => isolated_iff_kept) start inputs
  constructor
  · rintro ⟨isolated, -⟩
    exact steps.mp isolated
  · intro kept
    exact ⟨steps.mpr kept, others_change_nothing kept⟩

/-- A resolver as deployed, with a factory and a gate that have code. -/
def fresh : PassportResolver where
  identityFactory := 5
  scoreRegistry := 0
  tenantOf _ := ⟨0, 0, 0⟩
  identityOf _ := 0
  parentOf _ := 0

example : deploy (fun _ => true) 5 0 = .ok fresh := rfl

def brandController : Caller := ⟨21, by decide⟩
def acmeController : Caller := ⟨22, by decide⟩

/-- A chain on which every address has code, every gate accepts and no wallet is
known. -/
def quietChain : Env where
  block := ⟨1, 0⟩
  hasCode _ := true
  gateAt _ := ⟨fun _ _ => .ok (true, 0)⟩
  resolverAt _ := ⟨fun _ => .ok 0⟩
  scoresAt _ := ⟨fun _ => .ok 0⟩

/-- One tenant registers its parent and binds a node; another registers a parent
of its own. -/
def twoTenants : List Input :=
  [⟨brandController, .setTenant 100 7 1 brandController.val⟩,
    ⟨brandController, .setIdentity 500 100 30⟩,
    ⟨acmeController, .setTenant 200 8 1 acmeController.val⟩]

/-- The second tenant binds the first tenant's node under its own parent. -/
def takeover : Input := ⟨acmeController, .setIdentity 500 200 40⟩

/-- The node resolves to the second tenant's identity although its controller
never sent the call, so the run breaks isolation at its last step. -/
theorem foreign_tenant_rebinds_node :
    (exec step fresh twoTenants).controllerOf 500 = brandController.val ∧
      takeover.sender ≠ brandController ∧
      (exec step fresh twoTenants).text Symbolic quietChain 500 (ascii "compliance.identity") =
        .ok (ResolverText.toHex 30) ∧
      (exec step fresh (twoTenants ++ [takeover])).text Symbolic quietChain 500
        (ascii "compliance.identity") = .ok (ResolverText.toHex 40) ∧
      ¬ Along step Isolated fresh (twoTenants ++ [takeover]) ∧
      ¬ OthersChangeNothing (exec step fresh twoTenants) [takeover] := by
  have moved : (settle step (exec step fresh twoTenants) takeover).parentOf 500 ≠
      (exec step fresh twoTenants).parentOf 500 := by decide +kernel
  have controlled : (exec step fresh twoTenants).controllerOf 500 ≠ 0 := by decide +kernel
  have foreign : takeover.sender.val ≠ (exec step fresh twoTenants).controllerOf 500 := by
    decide +kernel
  refine ⟨by decide +kernel, by decide, by decide +kernel, by decide +kernel, ?_, ?_⟩
  · intro isolated
    have last : Isolated (exec step fresh twoTenants) takeover := (along_append.mp isolated).2.1
    exact foreign (last 500 controlled (.inr moved)).2
  · intro unchanged
    exact moved (unchanged _ controlled ⟨foreign, trivial⟩ 500 rfl).2.1

end PassportKit.PassportResolver
