import PassportKit.WalletMap
import PassportKit.ResolverCodec
import PassportKit.ScoreRegistry

/-! The agent attestation a name serves, against the agent links it stands for.
The resolver decides from `identityOfWallet` alone, which leads from agents and
from persons alike: under the key of a person's own wallet the person's name
attests an agent that was never linked. For every other wallet the record is
exactly the link. -/
namespace PassportKit
open Evm OpenZeppelin Eip712 Runs ResolverText

namespace PassportResolver

variable {Hash : Type} [Crypto Hash] [DecidableEq Hash] {self : PassportResolver} {env : Env}
  {node : Bytes32} {agent linked : Address} {lead : Bytes}

/-- **Round trip.** A key built from a prefix and an address names that address. -/
theorem agentNamed_built (short : lead.length + 42 < uint256Modulus) :
    agentNamed (lead ++ toHex agent ++ ascii "]") lead = .ok (some agent) := by
  have shape : lead ++ toHex agent ++ ascii "]" = lead ++ (toHex agent ++ [93]) :=
    List.append_assoc ..
  have size : (lead ++ (toHex agent ++ [93])).length = lead.length + 43 := by simp
  have last : (readAt (lead ++ (toHex agent ++ [93])) (lead.length + 42) : Result UInt8) = .ok 93 := by
    rw [readAt_eq_ok, List.getElem?_append_right (by omega), Nat.add_sub_cancel_left,
      List.getElem?_append_right (by simp), length_toHex]
    rfl
  rw [shape, agentNamed, size, if_neg (not_not.mpr rfl)]
  simp only [Nat.add_succ_sub_one, last, ok_bind]
  rw [if_neg (not_not.mpr rfl), startsWith_append, ok_bind, if_neg (by decide), parseAddrAt_toHex short]
  rfl

/-- A key of the wrong length names nobody. -/
theorem agentNamed_of_length {kb : Bytes} (other : kb.length ≠ lead.length + 43) :
    agentNamed kb lead = .ok none :=
  if_pos other

theorem length_agentRegistrationPrefix (self : PassportResolver) (block : Block) :
    20 ≤ (self.agentRegistrationPrefix block).length ∧
      (self.agentRegistrationPrefix block).length ≤ 200 := by
  have chain := length_minimalChainRef_le block.chainId
  have opening : (ascii "agent-registration[").length = 19 := rfl
  have closing : (ascii "][").length = 2 := rfl
  rw [agentRegistrationPrefix, registry7930]
  simp only [List.length_append, length_bytesToHex, length_bigEndian, opening, closing,
    List.length_cons, List.length_nil]
  omega

theorem length_agentReputationPrefix : agentReputationPrefix.length = 17 := rfl

omit [DecidableEq Hash] in
/-- An agent key is read as neither compliance record. -/
theorem agentKey_apart (free : CollisionFree Hash) (rest : Bytes) :
    (keccak256 (packed (97 :: rest)) : Hash) ≠ hashText "compliance.status" ∧
      (keccak256 (packed (97 :: rest)) : Hash) ≠ hashText "compliance.identity" := by
  constructor <;> intro same <;> have texts := packed_injective (free same) <;>
    exact absurd (List.cons.inj texts).1 (by decide)

/-- Both records of an agent are empty unless the wallet leads to the node's
identity. -/
def Leads (self : PassportResolver) (node : Bytes32) (linked : Address) : Prop :=
  self.identityOf node ≠ 0 ∧ linked = self.identityOf node

instance : Decidable (self.Leads node linked) := inferInstanceAs (Decidable (_ ∧ _))

theorem isLinkedTo_eq
    (resolved : (env.resolverAt self.identityFactory).identityOfWallet agent = .ok linked) :
    self.isLinkedTo env agent (self.identityOf node) = .ok (decide (self.Leads node linked)) := by
  unfold isLinkedTo Leads
  by_cases unbound : self.identityOf node = 0
  · simp [unbound]
  · rw [if_neg unbound, resolved]
    simp [unbound]

/-- The record under a built key, whatever it is about. -/
theorem agentRecord_built {value : Address → Result Bytes} (short : lead.length + 42 < uint256Modulus)
    (resolved : (env.resolverAt self.identityFactory).identityOfWallet agent = .ok linked) :
    self.agentRecord env node (lead ++ toHex agent ++ ascii "]") lead value =
      if self.Leads node linked then value agent else .ok [] := by
  rw [agentRecord, agentNamed_built short, ok_bind]
  simp only [isLinkedTo_eq resolved, ok_bind, pure_outcome]
  by_cases leads : self.Leads node linked <;> simp [leads]

theorem agentRecord_of_length {kb : Bytes} {value : Address → Result Bytes}
    (other : kb.length ≠ lead.length + 43) : self.agentRecord env node kb lead value = .ok [] := by
  rw [agentRecord, agentNamed_of_length other]
  rfl

/-- The attestation record under the key the resolver builds for a wallet. -/
theorem text_agentRegistrationKey (free : CollisionFree Hash)
    (resolved : (env.resolverAt self.identityFactory).identityOfWallet agent = .ok linked) :
    self.text Hash env node (self.agentRegistrationKey env.block agent) =
      .ok (if self.Leads node linked then ascii "1" else []) := by
  obtain ⟨long, short⟩ := length_agentRegistrationPrefix self env.block
  have size : (self.agentRegistrationKey env.block agent).length =
      (self.agentRegistrationPrefix env.block).length + 43 := by
    simp only [agentRegistrationKey, List.length_append, length_toHex]
    rfl
  obtain ⟨rest, key⟩ : ∃ rest, self.agentRegistrationKey env.block agent = 97 :: rest := ⟨_, rfl⟩
  obtain ⟨status, identity⟩ := agentKey_apart free rest
  have registration : self.agentRegistrationValue env node
      (self.agentRegistrationKey env.block agent) =
        if self.Leads node linked then .ok (ascii "1") else .ok [] :=
    agentRecord_built (lt_of_le_of_lt (Nat.add_le_add_right short 42) (by decide)) resolved
  have reputation : self.agentReputationValue env node (self.agentRegistrationKey env.block agent) =
      .ok [] := by
    rw [agentReputationValue]
    split
    · rfl
    · exact agentRecord_of_length (by rw [size, length_agentReputationPrefix]; omega)
  rw [← key] at status identity
  rw [text, if_neg status, if_neg identity, registration, reputation]
  by_cases leads : self.Leads node linked
  · simp only [if_pos leads]
    rfl
  · simp only [if_neg leads]
    rfl

/-- The reputation record under the key the resolver builds for a wallet. -/
theorem text_agentReputationKey (free : CollisionFree Hash)
    (resolved : (env.resolverAt self.identityFactory).identityOfWallet agent = .ok linked)
    {score : Uint256} (scored : (env.scoresAt self.scoreRegistry).scoreOf agent = .ok score) :
    self.text Hash env node (agentReputationKey agent) =
      if self.scoreRegistry ≠ 0 ∧ self.Leads node linked then toDecimal score else .ok [] := by
  obtain ⟨long, short⟩ := length_agentRegistrationPrefix self env.block
  have size : (agentReputationKey agent).length = 60 := by
    simp only [agentReputationKey, List.length_append, length_toHex, length_agentReputationPrefix]
    rfl
  obtain ⟨rest, key⟩ : ∃ rest, agentReputationKey agent = 97 :: rest := ⟨_, rfl⟩
  obtain ⟨status, identity⟩ := agentKey_apart free rest
  have registration : self.agentRegistrationValue env node (agentReputationKey agent) = .ok [] :=
    agentRecord_of_length (by rw [size]; omega)
  rw [← key] at status identity
  rw [text, if_neg status, if_neg identity, registration, ok_bind, if_neg (by decide),
    agentReputationValue]
  by_cases disabled : self.scoreRegistry = 0
  · simp only [disabled, ne_eq, not_true_eq_false, false_and, if_false]
    rfl
  · rw [if_neg disabled, agentReputationKey,
      agentRecord_built (by rw [length_agentReputationPrefix]; decide) resolved]
    obtain ⟨shown, wrote, visible⟩ := toDecimal_nonempty score
    by_cases leads : self.Leads node linked
    · simp only [scored, ok_bind, wrote, ne_eq, disabled, not_false_eq_true, leads,
        and_self, if_true]
      rw [if_pos (by simpa using visible)]
      rfl
    · simp only [leads, and_false, if_false]
      rfl

end PassportResolver

/-- The identity stack, a resolver of its factory, and the score registry. -/
structure AgentNames (Hash : Type) where
  stack : Stack Hash
  resolver : PassportResolver
  scores : ScoreRegistry
  /-- What every other contract answers, the tenants' gates among them. -/
  around : Env

namespace AgentNames

variable {Hash : Type} [Crypto Hash]

/-- What the resolver sees: its own factory is the stack's, its own score
registry the one here. -/
def env (names : AgentNames Hash) : Env where
  block := names.stack.block
  hasCode account := account = names.resolver.identityFactory ∨
    account = names.resolver.scoreRegistry ∨ names.stack.isEmpty account = false ∨
    names.around.hasCode account
  gateAt := names.around.gateAt
  resolverAt account :=
    if account = names.resolver.identityFactory then names.stack.identityResolver
    else names.around.resolverAt account
  scoresAt account :=
    if account = names.resolver.scoreRegistry then names.scores.lookup
    else names.around.scoresAt account

inductive Action where
  | stack (action : Stack.Action)
  | resolver (call : PassportResolver.Call)
  | scores (call : ScoreRegistry.Call)
  | around (others : Env)

structure Input where
  sender : Caller
  action : Action

variable [DecidableEq Hash]

def step (names : AgentNames Hash) (input : Input) : Result (AgentNames Hash) :=
  match input.action with
  | .stack action => do
    let stack ← names.stack.step ⟨input.sender, action⟩
    return { names with stack }
  | .resolver call => do
    let resolver ← names.resolver.call input.sender call
    return { names with resolver }
  | .scores call => do
    let scores ← names.scores.call input.sender call
    return { names with scores }
  | .around others => return { names with around := others }

/-- Fresh contracts, the resolver given some factory address and, or not, a
score registry. -/
structure Genesis (names : AgentNames Hash) : Prop where
  stack : names.stack.Genesis
  resolver : ∃ hasCode factory scoreRegistry,
    PassportResolver.deploy hasCode factory scoreRegistry = .ok names.resolver
  scores : ∃ admin, ScoreRegistry.deploy names.stack.accessControl admin = .ok names.scores

def text (names : AgentNames Hash) (node : Bytes32) (key : Bytes) : Result Bytes :=
  names.resolver.text Hash names.env node key

/-- The wallet is a linked agent of the identity a node is bound to. -/
structure AgentOf (names : AgentNames Hash) (node : Bytes32) (wallet : Address) : Prop where
  bound : names.resolver.identityOf node ≠ 0
  agent : names.stack.factory.isAgent wallet = true
  leads : names.stack.factory.identityOfWallet wallet = names.resolver.identityOf node

/-- Both records of a wallet under a node are there exactly for linked agents. -/
structure Attests (names : AgentNames Hash) (node : Bytes32) (wallet : Address) : Prop where
  registration :
    names.text node (names.resolver.agentRegistrationKey names.env.block wallet) = .ok (ascii "1") ↔
      names.AgentOf node wallet
  reputation : names.resolver.scoreRegistry ≠ 0 →
    ((∃ shown, names.text node (PassportResolver.agentReputationKey wallet) = .ok shown ∧
        shown ≠ []) ↔
      names.AgentOf node wallet)

/-- The run linked the wallet as an agent, and no unlink of it committed since. -/
def LinkHeld (start : AgentNames Hash) (inputs : List Input) (wallet : Address) : Prop :=
  ∃ before sender identity after next,
    inputs = before ++ ⟨sender, .stack (.factory (.linkAgent wallet identity))⟩ :: after ∧
    step (exec step start before) ⟨sender, .stack (.factory (.linkAgent wallet identity))⟩ =
      .ok next ∧
    Along step (fun names input => input.action = .stack (.factory (.unlinkAgent wallet)) →
      ∀ later, step names input ≠ .ok later) next after

variable {names next start : AgentNames Hash} {input : Input} {inputs : List Input} {node : Bytes32}
  {wallet : Address}

/-- A step is one of the stack, or leaves the stack alone. -/
theorem step_stack (done : step names input = .ok next) :
    (next.stack = names.stack ∧ ∀ action, input.action ≠ .stack action) ∨
      ∃ action, input.action = .stack action ∧
        names.stack.step ⟨input.sender, action⟩ = .ok next.stack := by
  obtain ⟨sender, action⟩ := input
  cases action with
  | stack action =>
    simp only [step, bind_eq_ok, pure_outcome, Except.ok.injEq] at done
    obtain ⟨stack, stepped, rfl⟩ := done
    exact .inr ⟨action, rfl, stepped⟩
  | resolver call =>
    simp only [step, bind_eq_ok, pure_outcome, Except.ok.injEq] at done
    obtain ⟨resolver, -, rfl⟩ := done
    exact .inl ⟨rfl, by simp⟩
  | scores call =>
    simp only [step, bind_eq_ok, pure_outcome, Except.ok.injEq] at done
    obtain ⟨scores, -, rfl⟩ := done
    exact .inl ⟨rfl, by simp⟩
  | around others =>
    simp only [step, pure_outcome, Except.ok.injEq] at done
    subst done
    exact .inl ⟨rfl, by simp⟩

/-! ## Links over a run -/

/-- **Step lemma.** A wallet is an agent's after a step exactly when the step
linked it, or it was one before and the step did not unlink it. -/
theorem step_isAgent (done : step names input = .ok next) :
    next.stack.factory.isAgent wallet = true ↔
      (∃ identity, input.action = .stack (.factory (.linkAgent wallet identity))) ∨
      (names.stack.factory.isAgent wallet = true ∧
        input.action ≠ .stack (.factory (.unlinkAgent wallet))) := by
  rcases step_stack done with ⟨same, other⟩ | ⟨action, stepping, stepped⟩
  · rw [same]
    simp [other]
  · rw [stepping, Stack.step_isAgent stepped]
    simp only [Action.stack.injEq, ne_eq]

/-- **An agent is a wallet whose link was made and still holds.** -/
theorem isAgent_iff_linkHeld (fresh : Genesis start) :
    (exec step start inputs).stack.factory.isAgent wallet = true ↔ LinkHeld start inputs wallet := by
  constructor
  · intro agent
    have absent : ¬ start.stack.factory.isAgent wallet = true := by
      obtain ⟨registryAddress, admin, -, factory, -⟩ := fresh.stack.wired
      simp only [IdentityFactory.deploy, bind_eq_ok, revertIf_eq_ok, pure_outcome,
        Except.ok.injEq] at factory
      obtain ⟨-, -, -, -, factory⟩ := factory
      simp [← factory]
    obtain ⟨before, ⟨sender, action⟩, after, next, split, missing, done, holds, since⟩ :=
      exec_held_since (fun later : AgentNames Hash => later.stack.factory.isAgent wallet = true)
        absent agent
    rcases (step_isAgent done).mp holds with ⟨identity, linking⟩ | ⟨already, -⟩
    · cases linking
      refine ⟨before, sender, identity, after, next, split, done, along_mono ?_ since⟩
      intro names input kept unlinking later committed
      rcases (step_isAgent committed).mp (kept later committed) with ⟨other, linking⟩ | ⟨-, apart⟩
      · simp [unlinking] at linking
      · exact apart unlinking
    · exact absurd already missing
  · rintro ⟨before, sender, identity, after, next, rfl, done, since⟩
    have here : next.stack.factory.isAgent wallet = true :=
      (step_isAgent done).mpr (.inl ⟨identity, rfl⟩)
    rw [exec_append, exec_cons, settle_ok done]
    have kept (names : AgentNames Hash) (input : Input) (later : AgentNames Hash)
        (held : names.stack.factory.isAgent wallet = true)
        (unlinked : input.action = .stack (.factory (.unlinkAgent wallet)) →
          ∀ later, step names input ≠ .ok later)
        (committed : step names input = .ok later) : later.stack.factory.isAgent wallet = true :=
      (step_isAgent committed).mpr (.inr ⟨held, fun unlinking => unlinked unlinking later committed⟩)
    exact exec_preserves_along kept here since

omit [Crypto Hash] [DecidableEq Hash] in
theorem resolved : (names.env.resolverAt names.resolver.identityFactory).identityOfWallet wallet =
    .ok (names.stack.factory.identityOfWallet wallet) := by
  simp [env, Stack.identityResolver]

omit [Crypto Hash] [DecidableEq Hash] in
theorem scored : (names.env.scoresAt names.resolver.scoreRegistry).scoreOf wallet =
    .ok (names.scores.scoreOf wallet) := by
  simp [env, ScoreRegistry.lookup]

/-- The attestation record is there exactly when the wallet leads to the node's
identity, as an agent or not. -/
theorem registration_iff (free : CollisionFree Hash) :
    names.text node (names.resolver.agentRegistrationKey names.env.block wallet) = .ok (ascii "1") ↔
      names.resolver.Leads node (names.stack.factory.identityOfWallet wallet) := by
  rw [text, PassportResolver.text_agentRegistrationKey free resolved, Except.ok.injEq]
  by_cases leads : names.resolver.Leads node (names.stack.factory.identityOfWallet wallet)
  · simp [leads]
  · simp only [leads, if_false, iff_false]
    decide

/-- And so is the reputation record, when there is a score registry. -/
theorem reputation_iff (free : CollisionFree Hash) (scoring : names.resolver.scoreRegistry ≠ 0) :
    (∃ shown, names.text node (PassportResolver.agentReputationKey wallet) = .ok shown ∧
        shown ≠ []) ↔
      names.resolver.Leads node (names.stack.factory.identityOfWallet wallet) := by
  rw [text, PassportResolver.text_agentReputationKey free resolved scored]
  obtain ⟨digits, wrote, visible⟩ := toDecimal_nonempty (names.scores.scoreOf wallet)
  by_cases leads : names.resolver.Leads node (names.stack.factory.identityOfWallet wallet)
  · rw [if_pos ⟨scoring, leads⟩, wrote]
    simp [leads, visible]
  · rw [if_neg fun both => leads both.2]
    simp [leads]

omit [Crypto Hash] [DecidableEq Hash] in
/-- Leading to the identity is being its agent, or its person. -/
theorem leads_iff :
    names.resolver.Leads node (names.stack.factory.identityOfWallet wallet) ↔
      names.AgentOf node wallet ∨ names.stack.Person wallet (names.resolver.identityOf node) := by
  constructor
  · rintro ⟨bound, leads⟩
    cases agent : names.stack.factory.isAgent wallet with
    | true => exact .inl ⟨bound, agent, leads⟩
    | false => exact .inr ⟨agent, leads, bound⟩
  · rintro (⟨bound, -, leads⟩ | ⟨-, leads, bound⟩)
    · exact ⟨bound, leads⟩
    · exact ⟨bound, leads⟩

omit [Crypto Hash] [DecidableEq Hash] in
theorem AgentOf.not_person (agent : names.AgentOf node wallet) :
    ¬ names.stack.Person wallet (names.resolver.identityOf node) := by
  rintro ⟨notAgent, -, -⟩
  rw [agent.agent] at notAgent
  cases notAgent

theorem attests_iff (free : CollisionFree Hash) :
    names.Attests node wallet ↔
      ¬ names.stack.Person wallet (names.resolver.identityOf node) := by
  constructor
  · rintro ⟨registration, -⟩ person
    have shown := (registration_iff free).mpr (leads_iff.mpr (.inr person))
    exact (registration.mp shown).not_person person
  · intro stranger
    have leads : names.resolver.Leads node (names.stack.factory.identityOfWallet wallet) ↔
        names.AgentOf node wallet := leads_iff.trans (or_iff_left stranger)
    exact ⟨(registration_iff free).trans leads, fun scoring => (reputation_iff free scoring).trans leads⟩

/-- **The attestation.** In every state any run leads to, for every node and
wallet: the two records say whether the wallet is a linked agent of the node's
identity exactly when it is not that identity's own person. An agent is a wallet
whose link the run made and did not undo. -/
theorem attestation_iff_not_the_person (free : CollisionFree Hash) (fresh : Genesis start)
    (inputs : List Input) (node : Bytes32) (wallet : Address) :
    ((exec step start inputs).Attests node wallet ↔
      ¬ (exec step start inputs).stack.Person wallet
        ((exec step start inputs).resolver.identityOf node)) ∧
    ((exec step start inputs).stack.factory.isAgent wallet = true ↔ LinkHeld start inputs wallet) :=
  ⟨attests_iff free, isAgent_iff_linkHeld fresh⟩

/-- The resolver reads the factory at 3 and the scores at 4. -/
def freshNames : AgentNames Symbolic where
  stack := Stack.freshStack 10
  resolver := ⟨3, 4, fun _ => ⟨0, 0, 0⟩, fun _ => 0, fun _ => 0⟩
  scores := ⟨.standard, (AccessControl.vacant.grant AccessControl.DEFAULT_ADMIN_ROLE 10).grant SCORER_ROLE 10,
    fun _ => 0⟩
  around := ⟨⟨1, 100⟩, fun _ => true, fun _ => ⟨fun _ _ => .error .undecodable⟩,
    fun _ => ⟨fun _ => .error .undecodable⟩, fun _ => ⟨fun _ => .error .undecodable⟩⟩

theorem freshNames_genesis : Genesis freshNames where
  stack := Stack.freshStack_genesis
  resolver := ⟨fun _ => true, 3, 4, rfl⟩
  scores := ⟨10, rfl⟩

/-- The name 500 under the tenant of 400 is bound to the identity of wallet 11,
whose agent is 12. -/
def naming : List Input :=
  Stack.setUp.map (fun input => ⟨input.sender, .stack input.action⟩) ++
    [⟨Stack.admin, .resolver (.setTenant 400 2 1 10)⟩,
      ⟨Stack.admin, .resolver (.setIdentity 500 400 30)⟩]

theorem attestation_of_the_agent :
    (exec step freshNames naming).Attests 500 12 ∧ LinkHeld freshNames naming 12 := by
  obtain ⟨attests, linked⟩ := attestation_iff_not_the_person Symbolic.collisionFree freshNames_genesis
    naming 500 12
  have agent : (exec step freshNames naming).stack.factory.isAgent 12 = true := by decide +kernel
  refine ⟨attests.mpr ?_, linked.mp agent⟩
  rintro ⟨notAgent, -, -⟩
  rw [agent] at notAgent
  cases notAgent

/-- The person's own wallet was never linked, and the name attests it. -/
theorem attestation_of_the_person :
    (exec step freshNames naming).stack.factory.isAgent 11 = false ∧
      (exec step freshNames naming).text 500 ((exec step freshNames naming).resolver.agentRegistrationKey
        (exec step freshNames naming).env.block 11) = .ok (ascii "1") ∧
      ¬ (exec step freshNames naming).Attests 500 11 := by
  have person : (exec step freshNames naming).stack.factory.isAgent 11 = false ∧
      (exec step freshNames naming).stack.factory.identityOfWallet 11 = 30 ∧
      (exec step freshNames naming).resolver.identityOf 500 = 30 := by decide +kernel
  obtain ⟨notAgent, leads, bound⟩ := person
  have own : (exec step freshNames naming).stack.Person 11
      ((exec step freshNames naming).resolver.identityOf 500) :=
    ⟨notAgent, leads.trans bound.symm, by rw [bound]; decide⟩
  have shown := (registration_iff Symbolic.collisionFree).mpr (leads_iff.mpr (.inr own))
  exact ⟨notAgent, shown, fun attests => (attests_iff Symbolic.collisionFree).mp attests own⟩

end AgentNames

end PassportKit
