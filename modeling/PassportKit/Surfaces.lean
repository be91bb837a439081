import PassportKit.World
import PassportKit.GateRobustness

/-! Five resolution paths, one answer. The token forwards whatever the factory
says to the gate, zero included; the hook, its view, the treasury and the name
resolver each short-cut the unknown wallet in their own way, and read the gate's
pair in their own way. Each is a function of the one answer below. -/
namespace PassportKit
open Evm OpenZeppelin Eip712 Runs

namespace World

variable {Hash : Type} [Crypto Hash] {w : World Hash} {wallet : Address} {policyId : Uint256}
  {token : GatedERC20} {hook : ComplianceHook} {treasury : HouseTreasury} {resolver : PassportResolver}
  {node : Bytes32}

/-- What the gate answers about the identity of a wallet. -/
def answer (w : World Hash) (wallet : Address) (policyId : Uint256) : Result (Bool × Bytes32) :=
  w.stack.isEligible (w.stack.factory.identityOfWallet wallet) policyId

/-- A surface reads this deployment's gate and factory, under one policy. -/
def Wired (w : World Hash) (gate resolver : Address) (configured policyId : Uint256) : Prop :=
  gate = w.gate ∧ resolver = w.factory ∧ configured = policyId

/-- The unknown wallet gets the answer the short-cuts give it. -/
theorem answer_unknown (unknown : w.stack.factory.identityOfWallet wallet = 0) (policyId : Uint256) :
    w.answer wallet policyId = .ok (false, Reason.NO_IDENTITY) := by
  simp [answer, unknown, Stack.isEligible, EligibilityGate.isEligible]

theorem answer_ok_iff_reason {ok : Bool} {reason : Bytes32}
    (answered : w.answer wallet policyId = .ok (ok, reason)) : ok = true ↔ reason = Reason.OK :=
  EligibilityGate.isEligible_ok_iff_reason answered

/-- A check that reverts on refusal, with an error carrying the gate's code. -/
def refusing (answer : Result (Bool × Bytes32)) (refusal : Bytes32 → Error) : Result Unit := do
  let (ok, reason) ← answer
  revertIf (ok = false) (.custom (refusal reason))

/-- The gate accepts the identity of a wallet. -/
def Accepted (w : World Hash) (wallet : Address) (policyId : Uint256) : Prop :=
  ∃ reason, w.answer wallet policyId = .ok (true, reason)

theorem refusing_eq_ok {answer : Result (Bool × Bytes32)} {refusal : Bytes32 → Error} :
    refusing answer refusal = .ok () ↔ ∃ reason, answer = .ok (true, reason) := by
  simp only [refusing, bind_eq_ok, revertIf_eq_ok, Bool.not_eq_false]
  constructor
  · rintro ⟨⟨ok, reason⟩, answered, accepted⟩
    dsimp only at accepted
    subst accepted
    exact ⟨reason, answered⟩
  · rintro ⟨reason, answered⟩
    exact ⟨(true, reason), answered, rfl⟩

/-- A refusal is told from a failure of the gate, and carries the gate's code. -/
theorem refusing_eq_error {answer : Result (Bool × Bytes32)} {refusal : Bytes32 → Error}
    {reason : Bytes32} (injective : Function.Injective refusal)
    (failures : ∀ error, answer = .error error → error = .undecodable) :
    refusing answer refusal = .error (.custom (refusal reason)) ↔ answer = .ok (false, reason) := by
  cases answer with
  | error error =>
    obtain rfl := failures error rfl
    simp [refusing]
  | ok pair =>
    obtain ⟨ok, code⟩ := pair
    cases ok with
    | true => simp [refusing, revertIf]
    | false => simp [refusing, revertIf, injective.eq_iff]

theorem token_asks (wired : w.Wired token.gate token.resolver token.policyId policyId) :
    token.requireEligible w.env wallet =
      refusing (w.answer wallet policyId) (.NotEligible wallet) := by
  obtain ⟨gate, factory, policy⟩ := wired
  rw [GatedERC20.requireEligible, gate, factory, policy, env_gateAt, env_resolverAt]
  rfl

theorem hook_asks (wired : w.Wired hook.gate hook.resolver hook.policyId policyId) :
    hook.requireCompliant w.env wallet =
      refusing (w.answer wallet policyId) (.NotCompliant wallet) := by
  obtain ⟨gate, factory, policy⟩ := wired
  rw [ComplianceHook.requireCompliant, gate, factory, policy, env_gateAt, env_resolverAt]
  by_cases unknown : w.stack.factory.identityOfWallet wallet = 0
  · rw [answer_unknown unknown]
    simp [Stack.identityResolver, unknown, refusing, revertIf]
  · simp only [Stack.identityResolver, ok_bind, revertIf_false _ unknown]
    rfl

theorem hook_reads (wired : w.Wired hook.gate hook.resolver hook.policyId policyId) :
    hook.reasonFor w.env wallet = (do
      let (_, reason) ← w.answer wallet policyId
      return reason) := by
  obtain ⟨gate, factory, policy⟩ := wired
  rw [ComplianceHook.reasonFor, gate, factory, policy, env_gateAt, env_resolverAt]
  by_cases unknown : w.stack.factory.identityOfWallet wallet = 0
  · rw [answer_unknown unknown]
    simp [Stack.identityResolver, unknown]
  · simp only [Stack.identityResolver, ok_bind, if_neg unknown]
    rfl

theorem treasury_asks (wired : w.Wired treasury.ELIGIBILITY_GATE treasury.IDENTITY_RESOLVER
    treasury.POLICY_ID policyId) :
    treasury.isEligible w.env wallet = (do
      let (ok, _) ← w.answer wallet policyId
      return ok) := by
  obtain ⟨gate, factory, policy⟩ := wired
  rw [HouseTreasury.isEligible, gate, factory, policy, env_gateAt, env_resolverAt]
  by_cases unknown : w.stack.factory.identityOfWallet wallet = 0
  · rw [answer_unknown unknown]
    simp [Stack.identityResolver, unknown]
  · simp only [Stack.identityResolver, ok_bind, if_neg unknown]
    rfl

/-- A node bound under a tenant of this gate and policy. -/
structure BoundTo (w : World Hash) (resolver : PassportResolver) (node : Bytes32) (policyId : Uint256)
    (identity : Address) : Prop where
  gate : (resolver.tenantOf (resolver.parentOf node)).gate = w.gate
  policy : (resolver.tenantOf (resolver.parentOf node)).policyId = policyId
  identity : resolver.identityOf node = identity

theorem token_passes (wired : w.Wired token.gate token.resolver token.policyId policyId) :
    token.requireEligible w.env wallet = .ok () ↔ w.Accepted wallet policyId := by
  rw [token_asks wired]
  exact refusing_eq_ok

theorem hook_passes (wired : w.Wired hook.gate hook.resolver hook.policyId policyId) :
    hook.requireCompliant w.env wallet = .ok () ↔ w.Accepted wallet policyId := by
  rw [hook_asks wired]
  exact refusing_eq_ok

theorem treasury_passes (wired : w.Wired treasury.ELIGIBILITY_GATE treasury.IDENTITY_RESOLVER
    treasury.POLICY_ID policyId) :
    treasury.isEligible w.env wallet = .ok true ↔ w.Accepted wallet policyId := by
  rw [treasury_asks wired]
  simp only [bind_eq_ok, pure_outcome, Except.ok.injEq]
  constructor
  · rintro ⟨⟨ok, reason⟩, answered, accepted⟩
    dsimp only at accepted
    subst accepted
    exact ⟨reason, answered⟩
  · rintro ⟨reason, answered⟩
    exact ⟨(true, reason), answered, rfl⟩

/-- The view's code is the gate's, so the accepting code means acceptance. -/
theorem hook_explains {reason : Bytes32}
    (wired : w.Wired hook.gate hook.resolver hook.policyId policyId) :
    hook.reasonFor w.env wallet = .ok reason ↔
      w.answer wallet policyId = .ok (decide (reason = 0), reason) := by
  rw [hook_reads wired]
  simp only [bind_eq_ok, pure_outcome, Except.ok.injEq]
  constructor
  · rintro ⟨⟨ok, code⟩, answered, rfl⟩
    have meaning : ok = true ↔ code = 0 := answer_ok_iff_reason answered
    have same : ok = decide (code = 0) := by
      rw [Bool.eq_iff_iff, decide_eq_true_iff]
      exact meaning
    rw [answered, same]
  · intro answered
    exact ⟨_, answered, rfl⟩

theorem hook_accepts (wired : w.Wired hook.gate hook.resolver hook.policyId policyId) :
    hook.reasonFor w.env wallet = .ok 0 ↔ w.Accepted wallet policyId := by
  rw [hook_explains wired, decide_eq_true rfl]
  constructor
  · intro answered
    exact ⟨0, answered⟩
  · rintro ⟨reason, answered⟩
    have accepting : reason = 0 := (answer_ok_iff_reason answered).mp rfl
    rwa [accepting] at answered

/-- A bound node reads GREEN when the gate accepts the identity itself. -/
theorem resolver_green [DecidableEq Hash] {identity : Address}
    (bound : w.BoundTo resolver node policyId identity) :
    resolver.text Hash w.env node (ascii "compliance.status") = .ok (ascii "GREEN") ↔
      identity ≠ 0 ∧ ∃ reason, w.stack.isEligible identity policyId = .ok (true, reason) := by
  obtain ⟨gate, policy, rfl⟩ := bound
  rw [PassportResolver.text_complianceStatus, PassportResolver.complianceStatus_green, gate, policy,
    env_gateAt]
  simp [Stack.eligibilityGate]

/-! ## Agreement -/

variable [DecidableEq Hash]

/-- In a reachable deployment the gate fails only in its own decoder. -/
theorem answer_error (reachable : Reachable w) {error : Revert Error}
    (failed : w.answer wallet policyId = .error error) : error = .undecodable := by
  by_cases unknown : w.stack.factory.identityOfWallet wallet = 0
  · rw [answer_unknown unknown] at failed
    cases failed
  · have valid := reachable.stack.valid
    have minted := valid.resolves wallet unknown
    obtain ⟨holder, code⟩ := Stack.isSome_keysAt.mp ((valid.minted_iff _).mp minted)
    exact EligibilityGate.isEligible_error (fun topic issuer => ⟨_, Stack.reads_getClaim code⟩) failed

/-- Known wallets under an unset policy. -/
theorem answer_unset (reachable : Reachable w)
    (known : w.stack.factory.identityOfWallet wallet ≠ 0)
    (unset : w.stack.gate.policyTopics policyId = []) :
    w.answer wallet policyId = .ok (false, Reason.NO_POLICY) := by
  have valid := reachable.stack.valid
  have minted := valid.resolves wallet known
  obtain ⟨holder, code⟩ := Stack.isSome_keysAt.mp ((valid.minted_iff _).mp minted)
  simp [answer, Stack.isEligible, EligibilityGate.isEligible, Stack.reads, Stack.isEmpty, code, known,
    unset]

/-- The three places a refusal code shows, in terms of the answer. -/
theorem refusal_codes (reachable : Reachable w) {reason : Bytes32}
    (tokenWired : w.Wired token.gate token.resolver token.policyId policyId)
    (hookWired : w.Wired hook.gate hook.resolver hook.policyId policyId) :
    (token.requireEligible w.env wallet = .error (.custom (.NotEligible wallet reason)) ↔
      w.answer wallet policyId = .ok (false, reason)) ∧
    (hook.requireCompliant w.env wallet = .error (.custom (.NotCompliant wallet reason)) ↔
      w.answer wallet policyId = .ok (false, reason)) ∧
    (hook.reasonFor w.env wallet = .ok reason ∧ reason ≠ 0 ↔
      w.answer wallet policyId = .ok (false, reason)) := by
  have failures (error : Revert Error) (failed : w.answer wallet policyId = .error error) :
      error = .undecodable := answer_error reachable failed
  refine ⟨?_, ?_, ?_⟩
  · rw [token_asks tokenWired]
    exact refusing_eq_error (fun _ _ same => (Error.NotEligible.inj same).2) failures
  · rw [hook_asks hookWired]
    exact refusing_eq_error (fun _ _ same => (Error.NotCompliant.inj same).2) failures
  · rw [hook_explains hookWired]
    constructor
    · rintro ⟨answered, refused⟩
      rwa [decide_eq_false refused] at answered
    · intro answered
      have refused : reason ≠ 0 := fun zero =>
        Bool.false_ne_true ((answer_ok_iff_reason answered).mpr zero)
      exact ⟨by rwa [decide_eq_false refused], refused⟩

/-- **All enforcement surfaces agree.** In every reachable deployment, for every
wallet and policy: the token lets a wallet through exactly when the hook does,
when the hook's view gives the accepting code, when the treasury calls it
eligible, and, for a known wallet, when each node bound to its identity reads
GREEN; a refusal carries one code everywhere, also for unknown wallets and unset
policies. -/
theorem surfaces_agree (reachable : Reachable w) (token : GatedERC20) (hook : ComplianceHook)
    (treasury : HouseTreasury) (wallet : Address)
    (tokenWired : w.Wired token.gate token.resolver token.policyId policyId)
    (hookWired : w.Wired hook.gate hook.resolver hook.policyId policyId)
    (treasuryWired : w.Wired treasury.ELIGIBILITY_GATE treasury.IDENTITY_RESOLVER treasury.POLICY_ID
      policyId) :
    (token.requireEligible w.env wallet = .ok () ↔ hook.requireCompliant w.env wallet = .ok ()) ∧
    (token.requireEligible w.env wallet = .ok () ↔ hook.reasonFor w.env wallet = .ok 0) ∧
    (token.requireEligible w.env wallet = .ok () ↔ treasury.isEligible w.env wallet = .ok true) ∧
    (∀ (resolver : PassportResolver) node, w.stack.factory.identityOfWallet wallet ≠ 0 →
      w.BoundTo resolver node policyId (w.stack.factory.identityOfWallet wallet) →
      (token.requireEligible w.env wallet = .ok () ↔
        resolver.text Hash w.env node (ascii "compliance.status") = .ok (ascii "GREEN"))) ∧
    (∀ reason, token.requireEligible w.env wallet = .error (.custom (.NotEligible wallet reason)) ↔
      hook.requireCompliant w.env wallet = .error (.custom (.NotCompliant wallet reason))) ∧
    (∀ reason, token.requireEligible w.env wallet = .error (.custom (.NotEligible wallet reason)) ↔
      hook.reasonFor w.env wallet = .ok reason ∧ reason ≠ 0) ∧
    (w.stack.factory.identityOfWallet wallet = 0 →
      hook.reasonFor w.env wallet = .ok Reason.NO_IDENTITY) ∧
    (w.stack.factory.identityOfWallet wallet ≠ 0 → w.stack.gate.policyTopics policyId = [] →
      hook.reasonFor w.env wallet = .ok Reason.NO_POLICY) := by
  have passes : token.requireEligible w.env wallet = .ok () ↔ w.Accepted wallet policyId :=
    token_passes tokenWired
  refine ⟨?_, ?_, ?_, ?_, ?_, ?_, ?_, ?_⟩
  · exact passes.trans (hook_passes hookWired).symm
  · exact passes.trans (hook_accepts hookWired).symm
  · exact passes.trans (treasury_passes treasuryWired).symm
  · intro resolver node known bound
    rw [passes, resolver_green bound]
    exact (and_iff_right known).symm
  · intro reason
    obtain ⟨ofToken, ofHook, -⟩ := refusal_codes reachable tokenWired hookWired
    exact ofToken.trans ofHook.symm
  · intro reason
    obtain ⟨ofToken, -, ofView⟩ := refusal_codes reachable tokenWired hookWired
    exact ofToken.trans ofView.symm
  · intro unknown
    rw [hook_reads hookWired, answer_unknown unknown]
    rfl
  · intro known unset
    rw [hook_reads hookWired, answer_unset reachable known unset]
    rfl

/-- The gate at 2 and the factory at 3; nothing else answers. -/
def dealRoom : World Symbolic where
  stack := Stack.freshStack 10
  gate := 2
  factory := 3
  erc20 := .standard
  surfaces _ := none
  around := GatedERC20.oneAnswer (.error .undecodable)

theorem dealRoom_genesis : Genesis dealRoom where
  stack := Stack.freshStack_genesis
  surfaces _ := rfl

/-- One person is onboarded, and a token of the deal room's policy is deployed. -/
def opening : List Input :=
  Stack.onboarded.map (fun input => ⟨input.sender, .stack input.action⟩) ++
    [⟨Stack.admin, .deploy 50 (.token 2 3 1 10)⟩]

def dealToken : GatedERC20 := { GatedERC20.freshToken with gate := 2, resolver := 3 }
def dealHook : ComplianceHook := ComplianceHook.deploy 70 2 3 1
def dealTreasury : HouseTreasury where
  SPEND_TOKEN := 60
  ELIGIBILITY_GATE := 2
  IDENTITY_RESOLVER := 3
  POLICY_ID := 1
  HOUSE_TOKEN := 63
  owners := [11]
  isOwner := Function.update (fun _ => false) 11 true
  APPROVAL_THRESHOLD := 1
  mandate := ⟨0, 0, 0, false⟩
  nextPaymentId := 1
  payments _ := PendingPayment.none
  approvedBy _ _ := false

theorem opening_reachable : Reachable (exec step dealRoom opening) :=
  ⟨_, _, dealRoom_genesis, rfl⟩

/-- The person's agent passes everywhere once the token lets it through. -/
theorem surfaces_agree_opening :
    dealHook.requireCompliant (exec step dealRoom opening).env 12 = .ok () ∧
      dealTreasury.isEligible (exec step dealRoom opening).env 12 = .ok true := by
  have passes : dealToken.requireEligible (exec step dealRoom opening).env 12 = .ok () := by
    decide +kernel
  obtain ⟨gate, factory⟩ := exec_addresses dealRoom opening
  have wired : (exec step dealRoom opening).Wired 2 3 1 1 := ⟨gate.symm, factory.symm, rfl⟩
  obtain ⟨hook, -, treasury, -⟩ :=
    surfaces_agree opening_reachable dealToken dealHook dealTreasury 12 wired wired wired
  exact ⟨hook.mp passes, treasury.mp passes⟩

end World

end PassportKit
