import PassportKit.SendRetries
import PassportKit.Surfaces

/-! What stands on chain when `linkAgent` resolves. Nobody looks at the status of a
receipt, so that a reverted transaction is as good as any other, and a wallet that is
linked already is not linked again, whoever it is linked to. -/
namespace PassportKit.Hero
open Evm Eip712 OpenZeppelin Interaction Runs
open Js (JsString text)
open Refusals (Thrown)

variable {Hash : Type} [Crypto Hash] [DecidableEq Hash]

/-- Nobody else writes to the contracts the request writes to; whatever else there is may change. -/
def HeroService.Elsewhere (self : HeroService) (input : World.Input) : Prop :=
  match input.action with
  | .stack (.factory _) => False
  | .stack (.createIdentity _ _) => False
  | .stack _ => True
  | .deploy created _ => created ≠ self.resolver ∧ created ≠ self.gatedToken
  | .call target _ => target ≠ self.resolver ∧ target ≠ self.gatedToken
  | .around _ => False

def HeroService.agentNode (self : HeroService) (lib : HeroLibrary) (params : LinkAgentParams) : Bytes32 :=
  lib.namehash (self.agentEnsName (normalized lib params.label))

/-- What `linkAgent` is for. -/
structure Established (self : HeroService) (lib : HeroLibrary) (params : LinkAgentParams) (before after : Chain Hash) :
    Prop where
  linked : after.identityOfWallet self.factory params.agentWallet = .ok params.personIdentity
  bound : after.boundTo self.resolver (self.agentNode lib params) = some params.personIdentity
  scored : ∃ score, after.scoreOf self.scoreRegistry params.agentWallet = some score ∧
    (score.toNat : ℤ) = params.requestedScore
  funded : ∃ balance, before.balanceOf self.gatedToken params.agentWallet = some balance ∧
    after.balanceOf self.gatedToken params.agentWallet = some (balance + AGENT_TOKEN_MINT.toNat)

/-- The token mints the float in this block: the account may mint, the wallet's identity
is eligible now, and the supply has room. -/
def Mintable (self : HeroService) (account : Caller) (agentWallet : Address) (block : Chain Hash) : Prop :=
  ∃ token, block.tokenAt self.gatedToken = some token ∧ token.access.hasRole MINTER_ROLE account = true ∧
    agentWallet ≠ 0 ∧ token.Eligible block.world.env agentWallet ∧
    token.ledger.totalSupply + AGENT_TOKEN_MINT.toNat < uint256Modulus

open Classical in
/-- What the request must find, and that one of its mintings goes through and no other. -/
structure Establishable (self : HeroService) (lib : HeroLibrary) (params : LinkAgentParams) (account : Caller)
    (before : Chain Hash) (log : List (Entry (Chain Hash) Exchange)) : Prop where
  link : before.identityOfWallet self.factory params.agentWallet = .ok params.personIdentity ∨
    before.identityOfWallet self.factory params.agentWallet = .ok 0 ∧ self.factory = before.world.factory ∧
      before.world.stack.factory.access.hasRole AGENT_ROLE account = true ∧ params.agentWallet ≠ 0 ∧
      before.world.stack.factory.isIdentity params.personIdentity = true
  bind : before.boundTo self.resolver (self.agentNode lib params) = some params.personIdentity ∨
    ∃ contract, before.resolverAt self.resolver = some contract ∧
      account = (contract.tenantOf (self.parentNode lib)).controller
  score : (∃ score, before.scoreOf self.scoreRegistry params.agentWallet = some score ∧
      (score.toNat : ℤ) = params.requestedScore) ∨
    self.scoreRegistry = before.scoreRegistry ∧ before.scores.access.hasRole SCORER_ROLE account = true
  fund : ((blocks (float self account params.agentWallet) log).countP fun block =>
    Mintable self account params.agentWallet block) = 1

structure Parts where
  factoryAddress : Address
  around : Env
  scoreRegistry : Address
  factory : IdentityFactory
  resolver : Option PassportResolver
  scores : ScoreRegistry
  token : Option GatedERC20

def HeroService.parts (self : HeroService) (c : Chain Hash) : Parts where
  factoryAddress := c.world.factory
  around := c.world.around
  scoreRegistry := c.scoreRegistry
  factory := c.world.stack.factory
  resolver := c.resolverAt self.resolver
  scores := c.scores
  token := c.tokenAt self.gatedToken

section Others
variable {self : HeroService} {c : Chain Hash} {inputs : List World.Input}

theorem step_parts {world next : World Hash} {input : World.Input} (other : self.Elsewhere input)
    (done : World.step world input = .ok next) :
    next.factory = world.factory ∧ next.around = world.around ∧ next.stack.factory = world.stack.factory ∧
      next.surfaces self.resolver = world.surfaces self.resolver ∧
      next.surfaces self.gatedToken = world.surfaces self.gatedToken := by
  obtain ⟨sender, action⟩ := input
  have surface (account : Address) (deploys : ∀ request, action ≠ .deploy account request)
      (calls : ∀ request, action ≠ .call account request) : next.surfaces account = world.surfaces account := by
    rcases World.step_surface done account with same | ⟨request, _, deployed, -⟩ | ⟨request, _, _, called, -⟩
    · exact same
    · exact absurd deployed (deploys request)
    · exact absurd called (calls request)
  obtain ⟨-, address, -⟩ := World.step_stack done
  cases action with
  | stack action =>
    refine ⟨address, ?_, ?_, surface _ (by simp) (by simp), surface _ (by simp) (by simp)⟩
    · simp only [World.step, bind_eq_ok, pure_outcome, Except.ok.injEq] at done
      obtain ⟨stack, -, rfl⟩ := done
      rfl
    · simp only [World.step, bind_eq_ok, pure_outcome, Except.ok.injEq] at done
      obtain ⟨stack, stepped, rfl⟩ := done
      cases Stack.step_change stepped with
      | factory same _ =>
        cases same
        exact other.elim
      | minted same _ _ _ =>
        cases same
        exact other.elim
      | _ => rfl
  | deploy created request =>
    obtain ⟨resolver, token⟩ := other
    have still : next.around = world.around ∧ next.stack = world.stack := by
      simp only [World.step, bind_eq_ok, pure_outcome, Except.ok.injEq] at done
      obtain ⟨-, -, surface, -, rfl⟩ := done
      exact ⟨rfl, rfl⟩
    refine ⟨address, still.1, by rw [still.2], surface _ ?_ (by simp), surface _ ?_ (by simp)⟩
    · rintro request' same
      exact resolver (World.Action.deploy.inj same).1
    · rintro request' same
      exact token (World.Action.deploy.inj same).1
  | call target request =>
    obtain ⟨resolver, token⟩ := other
    have still : next.around = world.around ∧ next.stack = world.stack := by
      cases found : world.surfaces target with
      | none => simp [World.step, found] at done
      | some surface =>
        simp only [World.step, found, bind_eq_ok, pure_outcome, Except.ok.injEq] at done
        obtain ⟨changed, -, rfl⟩ := done
        exact ⟨rfl, rfl⟩
    refine ⟨address, still.1, by rw [still.2], surface _ (by simp) ?_, surface _ (by simp) ?_⟩
    · rintro request' same
      exact resolver (World.Action.call.inj same).1
    · rintro request' same
      exact token (World.Action.call.inj same).1
  | around others => exact other.elim

/-- What others do leaves what the request writes to alone. -/
theorem parts_meanwhile (others : ∀ input ∈ inputs, self.Elsewhere input) :
    self.parts (c.meanwhile inputs) = self.parts c := by
  have kept (world : World Hash) (input : World.Input) (next : World Hash)
      (held : self.parts { c with world } = self.parts c) (other : self.Elsewhere input)
      (done : World.step world input = .ok next) : self.parts { c with world := next } = self.parts c := by
    obtain ⟨address, around, factory, resolver, token⟩ := step_parts other done
    rw [← held]
    simp only [HeroService.parts, Chain.resolverAt, Chain.tokenAt, address, around, factory, resolver, token]
  exact exec_preserves_of_forall kept rfl others

end Others

/-! ## What each write leaves -/

namespace Parts

def linkedFactory (factory : IdentityFactory) (account : Caller) (params : LinkAgentParams) : IdentityFactory :=
  settle (fun factory call => factory.call account.val call) factory
    (IdentityFactory.Call.linkAgent params.agentWallet params.personIdentity)

def linked (parts : Parts) (self : HeroService) (account : Caller) (params : LinkAgentParams) : Parts :=
  if self.factory = parts.factoryAddress then { parts with factory := linkedFactory parts.factory account params }
  else parts

def boundResolver (contract : PassportResolver) (account : Caller) (node parentNode : Bytes32) (identity : Address) :
    PassportResolver :=
  settle (fun contract call => contract.call account.val call) contract
    (PassportResolver.Call.setIdentity node parentNode identity)

def bound (parts : Parts) (account : Caller) (node parentNode : Bytes32) (identity : Address) : Parts :=
  { parts with resolver := parts.resolver.map fun contract => boundResolver contract account node parentNode identity }

def scoredRegistry (scores : ScoreRegistry) (account : Caller) (agent : Address) (score : Uint256) : ScoreRegistry :=
  settle (fun scores call => scores.call account.val call) scores (ScoreRegistry.Call.setScore agent score)

def scored (parts : Parts) (self : HeroService) (account : Caller) (agent : Address) (score : Uint256) : Parts :=
  if self.scoreRegistry = parts.scoreRegistry then
    { parts with scores := scoredRegistry parts.scores account agent score }
  else parts

/-- The identity of a wallet, as the service asks for it. -/
def identityOfWallet (parts : Parts) (self : HeroService) (wallet : Address) : Result Address :=
  if self.factory = parts.factoryAddress then .ok (parts.factory.identityOfWallet wallet)
  else (parts.around.resolverAt self.factory).identityOfWallet wallet

variable {parts : Parts} {self : HeroService} {account : Caller} {params : LinkAgentParams} {node parentNode : Bytes32}
  {identity agent : Address} {score : Uint256}

/-- Linking again changes nothing, and so it goes for the others. -/
theorem linked_linked :
    (parts.linked self account params).linked self account params = parts.linked self account params := by
  by_cases here : self.factory = parts.factoryAddress
  · rw [linked, linked, if_pos here, if_pos here]
    congr 1
    refine settle_settle fun next later first second => ?_
    obtain ⟨-, -, -, -, rfl⟩ := IdentityFactory.linkAgent_eq_ok.mp first
    obtain ⟨-, -, -, -, rfl⟩ := IdentityFactory.linkAgent_eq_ok.mp second
    simp
  · simp [linked, here]

/-- The controller binds the name, and nobody else does. -/
theorem boundResolver_eq (contract : PassportResolver) : boundResolver contract account node parentNode identity =
    if (account : Address) = (contract.tenantOf parentNode).controller then
      { contract with
        identityOf := Function.update contract.identityOf node identity
        parentOf := Function.update contract.parentOf node parentNode }
    else contract := by
  cases outcome : contract.call account.val (.setIdentity node parentNode identity) with
  | ok next =>
    rw [boundResolver, settle_ok (show _ = Except.ok next from outcome)]
    obtain ⟨controls, rfl⟩ := PassportResolver.setIdentity_eq_ok.mp outcome
    rw [if_pos controls]
  | error error =>
    have foreign : ¬ (account : Address) = (contract.tenantOf parentNode).controller := by
      intro controls
      obtain ⟨next, done⟩ : ∃ next, contract.setIdentity account.val node parentNode identity = .ok next :=
        ⟨_, PassportResolver.setIdentity_eq_ok.mpr ⟨controls, rfl⟩⟩
      cases outcome.symm.trans done
    rw [if_neg foreign]
    exact settle_error outcome

theorem boundResolver_boundResolver (contract : PassportResolver) :
    boundResolver (boundResolver contract account node parentNode identity) account node parentNode identity =
      boundResolver contract account node parentNode identity := by
  by_cases controls : (account : Address) = (contract.tenantOf parentNode).controller <;>
    simp [boundResolver_eq, controls]

theorem bound_bound : (parts.bound account node parentNode identity).bound account node parentNode identity =
    parts.bound account node parentNode identity := by
  simp only [bound, Option.map_map]
  congr 2
  exact funext boundResolver_boundResolver

theorem setScore_eq_ok {scores next : ScoreRegistry} : scores.setScore account agent score = .ok next ↔
    scores.access.hasRole SCORER_ROLE account = true ∧
      next = { scores with scoreOf := Function.update scores.scoreOf agent score } := by
  simp only [ScoreRegistry.setScore, bind_eq_ok, AccessControlBase.onlyRole_eq_ok, pure_outcome, Except.ok.injEq,
    exists_and_left, exists_const]
  exact and_congr_right' eq_comm

theorem scored_scored :
    (parts.scored self account agent score).scored self account agent score =
      parts.scored self account agent score := by
  by_cases here : self.scoreRegistry = parts.scoreRegistry
  · rw [scored, scored, if_pos here, if_pos here]
    congr 1
    refine settle_settle fun next later first second => ?_
    obtain ⟨-, rfl⟩ := setScore_eq_ok.mp first
    obtain ⟨-, rfl⟩ := setScore_eq_ok.mp second
    simp
  · simp [scored, here]

theorem identityOfWallet_linked : (parts.linked self account params).identityOfWallet self params.agentWallet =
    .ok params.personIdentity ↔ parts.identityOfWallet self params.agentWallet = .ok params.personIdentity ∨
      parts.identityOfWallet self params.agentWallet = .ok 0 ∧ self.factory = parts.factoryAddress ∧
        parts.factory.access.hasRole AGENT_ROLE account = true ∧ params.agentWallet ≠ 0 ∧
        parts.factory.isIdentity params.personIdentity = true := by
  by_cases here : self.factory = parts.factoryAddress
  · simp only [linked, identityOfWallet, here, if_true, Except.ok.injEq, true_and]
    cases outcome : parts.factory.call account.val (.linkAgent params.agentWallet params.personIdentity) with
    | ok factory =>
      rw [linkedFactory, settle_ok (show _ = Except.ok factory from outcome)]
      obtain ⟨role, real, minted, unused, rfl⟩ := IdentityFactory.linkAgent_eq_ok.mp outcome
      exact iff_of_true (Function.update_self ..) (.inr ⟨unused, role, real, minted⟩)
    | error error =>
      have still : linkedFactory parts.factory account params = parts.factory := settle_error outcome
      rw [still]
      refine ⟨.inl, Or.rec id ?_⟩
      rintro ⟨unused, role, real, minted⟩
      obtain ⟨next, done⟩ : ∃ next, parts.factory.linkAgent account.val params.agentWallet params.personIdentity =
          .ok next := ⟨_, IdentityFactory.linkAgent_eq_ok.mpr ⟨role, real, minted, unused, rfl⟩⟩
      cases outcome.symm.trans done
  · simp [linked, here]

theorem identityOf_bound :
    (parts.bound account node parentNode identity).resolver.map (·.identityOf node) = some identity ↔
    parts.resolver.map (·.identityOf node) = some identity ∨
      ∃ contract, parts.resolver = some contract ∧ account = (contract.tenantOf parentNode).controller := by
  cases found : parts.resolver with
  | none => simp [bound, found]
  | some contract =>
    simp only [bound, found, Option.map_some, Option.some.injEq, exists_eq_left', boundResolver_eq]
    by_cases controls : (account : Address) = (contract.tenantOf parentNode).controller
    · rw [if_pos controls]
      exact iff_of_true (Function.update_self ..) (.inr controls)
    · rw [if_neg controls]
      exact ⟨.inl, Or.rec id fun same => absurd same controls⟩

/-- The score of an agent, as the registry at an address has it. -/
def scoreOf (parts : Parts) (registry agent : Address) : Option Uint256 :=
  if registry = parts.scoreRegistry then some (parts.scores.scoreOf agent) else none

theorem scoreOf_scored : (parts.scored self account agent score).scoreOf self.scoreRegistry agent = some score ↔
    parts.scoreOf self.scoreRegistry agent = some score ∨
      self.scoreRegistry = parts.scoreRegistry ∧ parts.scores.access.hasRole SCORER_ROLE account = true := by
  by_cases here : self.scoreRegistry = parts.scoreRegistry
  · simp only [scored, scoreOf, here, if_true, Option.some.injEq, true_and]
    cases outcome : parts.scores.call account.val (.setScore agent score) with
    | ok next =>
      rw [scoredRegistry, settle_ok (show _ = Except.ok next from outcome)]
      obtain ⟨role, rfl⟩ := setScore_eq_ok.mp outcome
      exact iff_of_true (Function.update_self ..) (.inr role)
    | error error =>
      have still : scoredRegistry parts.scores account agent score = parts.scores := settle_error outcome
      rw [still]
      refine ⟨.inl, Or.rec id fun role => ?_⟩
      obtain ⟨next, done⟩ : ∃ next, parts.scores.setScore account.val agent score = .ok next :=
        ⟨_, setScore_eq_ok.mpr ⟨role, rfl⟩⟩
      cases outcome.symm.trans done
  · simp [scored, scoreOf, here]

@[simp] theorem token_linked : (parts.linked self account params).token = parts.token := by
  rw [linked]
  split <;> rfl

@[simp] theorem token_bound : (parts.bound account node parentNode identity).token = parts.token := rfl

@[simp] theorem token_scored : (parts.scored self account agent score).token = parts.token := by
  rw [scored]
  split <;> rfl

/-- One write leaves what another one writes to. -/
@[simp] theorem identityOfWallet_scored {wallet : Address} :
    (parts.scored self account agent score).identityOfWallet self wallet = parts.identityOfWallet self wallet := by
  rw [scored]
  split <;> rfl

@[simp] theorem identityOfWallet_bound {wallet : Address} :
    (parts.bound account node parentNode identity).identityOfWallet self wallet =
      parts.identityOfWallet self wallet := rfl

@[simp] theorem resolver_linked : (parts.linked self account params).resolver = parts.resolver := by
  rw [linked]
  split <;> rfl

@[simp] theorem resolver_scored : (parts.scored self account agent score).resolver = parts.resolver := by
  rw [scored]
  split <;> rfl

theorem scoreOf_scored_of {other : Parts} (registry : other.scoreRegistry = parts.scoreRegistry)
    (scores : other.scores = parts.scores) {address wallet : Address} :
    (other.scored self account agent score).scoreOf address wallet =
      (parts.scored self account agent score).scoreOf address wallet := by
  rw [scored, scored, registry, scores]
  split <;> simp only [scoreOf, registry, scores]

theorem scoreRegistry_linked : (parts.linked self account params).scoreRegistry = parts.scoreRegistry := by
  rw [linked]
  split <;> rfl

theorem scores_linked : (parts.linked self account params).scores = parts.scores := by
  rw [linked]
  split <;> rfl

end Parts

section Effects
variable {self : HeroService} {lib : HeroLibrary} {account : Caller} {params : LinkAgentParams} {c : Chain Hash}
  {inclusion : Inclusion} {hash : JsString} {gas : Option ℕ}

/-- What a transaction leaves, given what it makes of the block. -/
theorem parts_mine {transaction : Transaction} {effect : Parts → Parts}
    (others : ∀ input ∈ inclusion.meanwhile, self.Elsewhere input)
    (settles : ∀ block : Chain Hash,
      self.parts (settle (fun block created => Chain.transact block created transaction)
      block inclusion.created) = effect (self.parts block)) :
    self.parts (c.mine hash inclusion transaction) = effect (self.parts c) := by
  obtain ⟨status, same⟩ := @Chain.mine_eq _ _ _ c transaction hash inclusion
  calc self.parts (c.mine hash inclusion transaction)
      = self.parts (settle (fun block created => Chain.transact block created transaction)
          (c.meanwhile inclusion.meanwhile) inclusion.created) := by rw [same]; rfl
    _ = effect (self.parts (c.meanwhile inclusion.meanwhile)) := settles _
    _ = effect (self.parts c) := by rw [parts_meanwhile others]

theorem parts_mine_linkAgent (others : ∀ input ∈ inclusion.meanwhile, self.Elsewhere input) :
    self.parts (c.mine hash inclusion (.writeContract account self.factory
      (.linkAgent params.agentWallet params.personIdentity) gas)) = (self.parts c).linked self account params := by
  refine @parts_mine _ _ _ _ _ _ _ _ (fun parts => parts.linked self account params) others fun block => ?_
  by_cases here : self.factory = block.world.factory
  · have acts : block.worldAction self.factory inclusion.created
        (.linkAgent params.agentWallet params.personIdentity) =
        .ok (.stack (.factory (.linkAgent params.agentWallet params.personIdentity))) := by
      simp [Chain.worldAction, here]
    rw [Chain.settle_transact acts, World.settle_factory, Parts.linked,
      if_pos (show self.factory = (self.parts block).factoryAddress from here)]
    rfl
  · have acts : block.worldAction self.factory inclusion.created
        (.linkAgent params.agentWallet params.personIdentity) = .error .undecodable := by
      simp [Chain.worldAction, revertIf, here]
    rw [Chain.settle_transact_error acts (by simp), Parts.linked,
      if_neg (show self.factory ≠ (self.parts block).factoryAddress from here)]

theorem parts_mine_setIdentity {node parentNode : Bytes32} {identity : Address}
    (others : ∀ input ∈ inclusion.meanwhile, self.Elsewhere input) :
    self.parts (c.mine hash inclusion (.writeContract account self.resolver
      (.setIdentity node parentNode identity) gas)) = (self.parts c).bound account node parentNode identity := by
  refine @parts_mine _ _ _ _ _ _ _ _ (fun parts => parts.bound account node parentNode identity) others fun block => ?_
  obtain ⟨called, absent⟩ := @Chain.settle_resolver_call _ _ _ block self.resolver account
    (.setIdentity node parentNode identity)
  have acts : block.worldAction self.resolver inclusion.created (.setIdentity node parentNode identity) =
      .ok (.call self.resolver (.resolver (.setIdentity node parentNode identity))) := rfl
  rw [Chain.settle_transact acts]
  cases found : block.resolverAt self.resolver with
  | some contract =>
    rw [called contract found]
    obtain ⟨token, resolver⟩ := @Chain.tokenAt_setResolver _ block self.resolver self.gatedToken contract
      (Parts.boundResolver contract account node parentNode identity) found
    rw [Parts.boundResolver] at token resolver
    simp only [HeroService.parts, Parts.bound, Parts.boundResolver, found, token, resolver, Option.map_some]
    rfl
  | none =>
    rw [absent found]
    simp [HeroService.parts, Parts.bound, found, Chain.withWorld]

theorem parts_mine_setScore {agent : Address} {score : Uint256}
    (others : ∀ input ∈ inclusion.meanwhile, self.Elsewhere input) :
    self.parts (c.mine hash inclusion (.writeContract account self.scoreRegistry (.setScore agent score) gas)) =
      (self.parts c).scored self account agent score := by
  refine @parts_mine _ _ _ _ _ _ _ _ (fun parts => parts.scored self account agent score) others fun block => ?_
  by_cases here : self.scoreRegistry = block.scoreRegistry
  · have through : block.transact inclusion.created
        (.writeContract account self.scoreRegistry (.setScore agent score) gas)
        = (block.scores.call account.val (.setScore agent score)).map block.withScores := by
      simp only [Chain.transact, revertIf, here, ne_eq, not_true_eq_false, if_false]
      change (do let scores ← block.scores.setScore account.val agent score; pure (block.withScores scores) :
        Result (Chain Hash)) = (block.scores.setScore account.val agent score).map block.withScores
      cases block.scores.setScore account.val agent score <;> rfl
    have settled : settle (fun block created => Chain.transact block created (.writeContract account self.scoreRegistry
        (.setScore agent score) gas)) block inclusion.created =
        block.withScores (Parts.scoredRegistry block.scores account agent score) := settle_through through rfl
    rw [settled, Parts.scored, if_pos (show self.scoreRegistry = (self.parts block).scoreRegistry from here)]
    rfl
  · have failed : block.transact inclusion.created
        (.writeContract account self.scoreRegistry (.setScore agent score) gas)
        = .error .undecodable := by
      simp [Chain.transact, revertIf, here]
    rw [settle_error failed, Parts.scored,
      if_neg (show self.scoreRegistry ≠ (self.parts block).scoreRegistry from here)]

theorem parts_mine_drip {recipient : Address} (others : ∀ input ∈ inclusion.meanwhile, self.Elsewhere input) :
    self.parts (c.mine hash inclusion (drip account recipient)) = self.parts c := by
  refine @parts_mine _ _ _ _ _ _ _ _ id others fun block => ?_
  have done : block.transact inclusion.created (drip account recipient) = .ok block := rfl
  rw [settle_ok done]
  rfl

/-- What minting leaves of the token depends on the block. -/
theorem parts_mine_float (others : ∀ input ∈ inclusion.meanwhile, self.Elsewhere input) {agent : Address} :
    self.parts (c.mine hash inclusion (float self account agent)) = { self.parts c with
      token := (c.tokenAt self.gatedToken).map fun token => settle (fun token call => token.call
        (c.meanwhile inclusion.meanwhile).world.env account.val call) token (.mint agent AGENT_TOKEN_MINT) } := by
  obtain ⟨status, same⟩ := @Chain.mine_eq _ _ _ c (float self account agent) hash inclusion
  have before := @parts_meanwhile _ _ _ self c _ others
  generalize c.meanwhile inclusion.meanwhile = block at same before
  have acts : block.worldAction self.gatedToken inclusion.created (.mint agent AGENT_TOKEN_MINT) =
      .ok (.call self.gatedToken (.token (.mint agent AGENT_TOKEN_MINT))) := rfl
  obtain ⟨called, absent⟩ := @Chain.settle_token_call _ _ _ block self.gatedToken account
    (.mint agent AGENT_TOKEN_MINT)
  have token : block.tokenAt self.gatedToken = c.tokenAt self.gatedToken := congrArg Parts.token before
  rw [same, ← token, ← before, float, Chain.settle_transact acts]
  cases found : block.tokenAt self.gatedToken with
  | some contract =>
    rw [called contract found]
    obtain ⟨resolver, there⟩ := @Chain.resolverAt_setToken _ block self.gatedToken self.resolver contract
      (settle (fun token call => token.call block.world.env account.val call) contract
        (.mint agent AGENT_TOKEN_MINT)) found
    rw [Option.map_some, ← there]
    change self.parts (block.withWorld (block.world.setSurface self.gatedToken (.token (settle (fun token call =>
      token.call block.world.env account.val call) contract (.mint agent AGENT_TOKEN_MINT))))) = _
    rw [HeroService.parts, resolver]
    rfl
  | none =>
    rw [absent found, Option.map_none]
    change self.parts block = _
    rw [HeroService.parts, found]

end Effects

section Runs
variable {self : HeroService} {lib : HeroLibrary} {account : Caller} {params : LinkAgentParams} {c next : Chain Hash}
  {log : List (Entry (Chain Hash) Exchange)} {transaction : Transaction} {hash : JsString} {May : World.Input → Prop}

/-- The receipt is that of the transaction just sent, so that it was included. -/
theorem attempt_lands (passes : (sendAndWait (send transaction)).Passes (Chain.Serves May) c log (.done hash) next) :
    ∃ entry ∈ log, Chain.Landed May transaction entry := by
  rw [sendAndWait_send] at passes
  obtain ⟨sent, middle, rest, rfl, served, waiting⟩ := Program.passes_call.mp passes
  rw [waitFor] at waiting
  cases rejected : sent.rejected with
  | some err =>
    rw [rejected] at waiting
    cases (Program.reaches_fail.mp waiting.2).2
  | none =>
    rw [rejected] at waiting
    obtain ⟨answer, confirmed, _, -, told, confirming⟩ := Program.passes_call.mp waiting
    cases served with
    | mined _ included others => exact ⟨_, List.mem_cons_self, sent, _, rfl, included, others, rfl⟩
    | dropped _ left fresh =>
      cases told with
      | receipt there => exact absurd rfl (fresh _ there)
      | unconfirmed err => cases (Program.reaches_fail.mp confirming.2).2

theorem retries_land (passes : (sendWithRetry (send transaction)).Passes (Chain.Serves May) c log (.done hash) next) :
    ∃ entry ∈ log, Chain.Landed May transaction entry := by
  have all (further : ℕ) (c : Chain Hash) (log) (passes : (attemptsFrom (send transaction) further).Passes
      (Chain.Serves May) c log (.done hash) next) : ∃ entry ∈ log, Chain.Landed May transaction entry := by
    induction further generalizing c log with
    | zero => exact attempt_lands passes
    | succ further ih =>
      rcases Program.passes_catching passes with inside | ⟨one, two, err, middle, rfl, -, handled⟩
      · exact attempt_lands inside
      split at handled
      · obtain ⟨_, later, rest, rfl, -, retried⟩ := Program.passes_call.mp handled
        obtain ⟨entry, member, lands⟩ := ih later rest retried
        exact ⟨entry, List.mem_append_right _ (List.mem_cons_of_mem _ member), lands⟩
      · cases (Program.reaches_fail.mp handled.2).2
  exact all _ c log passes

/-- Every transition of a run that sends one transaction is that it lands, or another that
changes nothing of what the request writes to. -/
theorem entries_of_calls {α : Type} {program later : Handler α}
    (calls : program.Calls fun request => ∀ sending, request = .send sending → sending = transaction)
    (passes : program.Passes (Chain.Serves self.Elsewhere) c log later next) :
    ∀ entry ∈ log, Chain.Landed self.Elsewhere transaction entry ∨
      blockOf transaction entry = none ∧ ∃ inputs, (∀ input ∈ inputs, self.Elsewhere input) ∧
        entry.after = entry.before.meanwhile inputs := by
  intro entry member
  rcases entries_of_sends passes.1 (calls.of_passes passes) entry member with
    ⟨sending, rfl, landed⟩ | ⟨none, waits⟩
  · exact .inl landed
  · exact .inr ⟨none _, waits⟩

theorem retries_calls : (sendWithRetry (send transaction)).Calls fun request =>
    ∀ sending, request = .send sending → sending = transaction := by
  refine sendWithRetry_calls (fun request passive sending same => absurd same (passive sending)) (send_calls ?_)
  rintro sending same
  cases same
  rfl

/-- **A retried write has its effect once**, where having it again changes nothing. -/
theorem retries_settle (effect : Parts → Parts) (again : ∀ parts, effect (effect parts) = effect parts)
    (mined : ∀ (c : Chain Hash) hash inclusion, (∀ input ∈ inclusion.meanwhile, self.Elsewhere input) →
      self.parts (c.mine hash inclusion transaction) = effect (self.parts c))
    (passes : (sendWithRetry (send transaction)).Passes (Chain.Serves self.Elsewhere) c log (.done hash) next) :
    self.parts next = effect (self.parts c) := by
  have lands (entry : Entry (Chain Hash) Exchange) (landed : Chain.Landed self.Elsewhere transaction entry) :
      self.parts entry.after = effect (self.parts entry.before) := by
    obtain ⟨sent, inclusion, -, -, others, same⟩ := landed
    rw [same]
    exact mined _ _ _ others
  refine @Trace.settles _ _ _ _ _ _ _ self.parts effect again passes.1 (fun entry member => ?_) ?_
  · rcases entries_of_calls retries_calls passes entry member with landed | ⟨-, inputs, others, same⟩
    · exact .inr (lands entry landed)
    · refine .inl ?_
      rw [same, parts_meanwhile others]
  · obtain ⟨entry, member, landed⟩ := retries_land passes
    exact ⟨entry, member, lands entry landed⟩

end Runs

section Minting
variable {self : HeroService} {account : Caller} {agent : Address} {c next : Chain Hash} {inclusion : Inclusion}
  {log first second : List (Entry (Chain Hash) Exchange)} {transaction : Transaction} {hash : JsString}

open Classical in
/-- A minting pays the float if the block is one in which the token mints it. -/
theorem balance_mine_float (solvent : c.world.Solvent)
    (others : ∀ input ∈ inclusion.meanwhile, self.Elsewhere input) :
    (c.mine hash inclusion (float self account agent)).balanceOf self.gatedToken agent =
      (c.balanceOf self.gatedToken agent).map (· + if Mintable self account agent (c.meanwhile inclusion.meanwhile)
        then AGENT_TOKEN_MINT.toNat else 0) := by
  have after := congrArg Parts.token (@parts_mine_float _ _ _ self account c inclusion hash others agent)
  change (c.mine hash inclusion (float self account agent)).tokenAt self.gatedToken = _ at after
  have before : (c.meanwhile inclusion.meanwhile).tokenAt self.gatedToken = c.tokenAt self.gatedToken :=
    congrArg Parts.token (parts_meanwhile others)
  rw [Chain.balanceOf, after, Chain.balanceOf]
  cases found : c.tokenAt self.gatedToken with
  | none => rfl
  | some token =>
    have mints : Mintable self account agent (c.meanwhile inclusion.meanwhile) ↔
        ∃ minted, token.call (c.meanwhile inclusion.meanwhile).world.env account.val (.mint agent AGENT_TOKEN_MINT) =
          .ok minted := by
      rw [Mintable, before, found]
      simp only [Option.some.injEq, exists_eq_left']
      exact GatedERC20.mint_succeeds.symm
    simp only [Option.map_some, Option.some.injEq]
    cases outcome : token.call (c.meanwhile inclusion.meanwhile).world.env account.val
        (.mint agent AGENT_TOKEN_MINT) with
    | ok minted =>
      rw [settle_ok (show _ = Except.ok minted from outcome), if_pos (mints.mpr ⟨minted, outcome⟩)]
      exact GatedERC20.mint_pays (solvent _ token (Chain.surface_of_tokenAt found)) outcome
    | error error =>
      have refused : ¬ Mintable self account agent (c.meanwhile inclusion.meanwhile) := by
        rw [mints, outcome]
        simp
      rw [if_neg refused, Nat.add_zero]
      have still := @settle_error _ _ _ (fun (token : GatedERC20) call =>
        token.call (c.meanwhile inclusion.meanwhile).world.env account.val call) _ _ _ outcome
      rw [still]

open Classical in
/-- Over a run, every minting that goes through pays once. -/
theorem balance_of_run (solvent : c.world.Solvent) (trace : Trace (Chain.Serves self.Elsewhere) c log next)
    (entries : ∀ entry ∈ log, Chain.Landed self.Elsewhere (float self account agent) entry ∨
      blockOf (float self account agent) entry = none ∧ ∃ inputs, (∀ input ∈ inputs, self.Elsewhere input) ∧
        entry.after = entry.before.meanwhile inputs) :
    next.balanceOf self.gatedToken agent = (c.balanceOf self.gatedToken agent).map (· + AGENT_TOKEN_MINT.toNat *
      (blocks (float self account agent) log).countP fun block => Mintable self account agent block) := by
  induction trace with
  | nil => simp [blocks]
  | @cons before middle last event log served rest ih =>
    obtain ⟨here, later⟩ := List.forall_mem_cons.mp entries
    rw [ih (served.solvent solvent) later]
    rcases here with ⟨sent, inclusion, same, included, others, landed⟩ | ⟨none, inputs, others, still⟩
    · rw [blocks_cons_some (blockOf_landed same included)]
      change middle = _ at landed
      rw [landed, balance_mine_float solvent others, Option.map_map, List.countP_cons]
      congr 1
      funext balance
      dsimp only [Function.comp_apply]
      by_cases mints : Mintable self account agent (before.meanwhile inclusion.meanwhile)
      · simp only [mints, if_true, decide_true]
        ring
      · simp only [mints, if_false, decide_false, Bool.false_eq_true, Nat.add_zero]
    · rw [blocks_cons_none none]
      change middle = _ at still
      have token : middle.tokenAt self.gatedToken = before.tokenAt self.gatedToken := by
        rw [still]
        exact congrArg Parts.token (parts_meanwhile others)
      rw [Chain.balanceOf, token]
      rfl

/-- What is minted in a block was deployed before. -/
theorem token_of_mintable (trace : Trace (Chain.Serves self.Elsewhere) c log next)
    (entries : ∀ entry ∈ log, Chain.Landed self.Elsewhere (float self account agent) entry ∨
      blockOf (float self account agent) entry = none ∧ ∃ inputs, (∀ input ∈ inputs, self.Elsewhere input) ∧
        entry.after = entry.before.meanwhile inputs) {block : Chain Hash}
    (included : block ∈ blocks (float self account agent) log) (mints : Mintable self account agent block) :
    (c.tokenAt self.gatedToken).isSome = true := by
  induction trace with
  | nil => cases included
  | @cons before middle last event log served rest ih =>
    obtain ⟨here, later⟩ := List.forall_mem_cons.mp entries
    have still {inputs : List World.Input} (others : ∀ input ∈ inputs, self.Elsewhere input) :
        (before.meanwhile inputs).tokenAt self.gatedToken = before.tokenAt self.gatedToken :=
      congrArg Parts.token (parts_meanwhile others)
    rcases here with ⟨sent, inclusion, same, there, others, landed⟩ | ⟨none, inputs, others, left⟩
    · rw [blocks_cons_some (blockOf_landed same there), List.mem_cons] at included
      rcases included with rfl | further
      · obtain ⟨token, found, -⟩ := mints
        rw [← still others, found]
        rfl
      · have after := congrArg Parts.token
            (@parts_mine_float _ _ _ self account before inclusion sent.hash others agent)
        change middle = _ at landed
        change (before.mine sent.hash inclusion (float self account agent)).tokenAt self.gatedToken = _ at after
        have found := ih later further
        rw [landed, after, Option.isSome_map] at found
        exact found
    · rw [blocks_cons_none none] at included
      change middle = _ at left
      rw [← still others, ← left]
      exact ih later included

end Minting

/-! ## The request -/

section Request
variable {self : HeroService} {lib : HeroLibrary} {account : Caller} {params : LinkAgentParams} {c next : Chain Hash}
  {log : List (Entry (Chain Hash) Exchange)}

omit [DecidableEq Hash] in
theorem identityOfWallet_parts {wallet : Address} :
    c.identityOfWallet self.factory wallet = (self.parts c).identityOfWallet self wallet := by
  rw [Chain.identityOfWallet, Parts.identityOfWallet, World.env]
  dsimp only
  by_cases here : self.factory = c.world.factory
  · rw [if_pos here, if_pos (show self.factory = (self.parts c).factoryAddress from here)]
    rfl
  · rw [if_neg here, if_neg (show self.factory ≠ (self.parts c).factoryAddress from here)]
    rfl

omit [Crypto Hash] [DecidableEq Hash] in
theorem encodeUint256_toNat {value : ℤ} {encoded other : Uint256} (encodes : lib.encodeUint256 value = .ok encoded) :
    (other.toNat : ℤ) = value ↔ other = encoded := by
  rw [HeroLibrary.encodeUint256] at encodes
  split at encodes
  · rename_i range
    cases encodes
    constructor
    · rintro rfl
      simp
    · rintro rfl
      rw [BitVec.toNat_ofInt]
      omega
  · cases encodes

/-- A wallet in use is not linked. -/
theorem linked_of_used {parts : Parts} {already : Address}
    (answered : parts.identityOfWallet self params.agentWallet = .ok already) (used : already ≠ 0) :
    parts.linked self account params = parts := by
  by_cases here : self.factory = parts.factoryAddress
  · rw [Parts.identityOfWallet, if_pos here] at answered
    cases answered
    have refused : Parts.linkedFactory parts.factory account params = parts.factory := by
      rw [Parts.linkedFactory]
      cases outcome : parts.factory.call account.val (.linkAgent params.agentWallet params.personIdentity) with
      | ok factory =>
        obtain ⟨-, -, -, unused, -⟩ := IdentityFactory.linkAgent_eq_ok.mp outcome
        exact absurd unused used
      | error error => exact settle_error outcome
    rw [Parts.linked, if_pos here, refused]
  · rw [Parts.linked, if_neg here]

theorem read_parts {factory wallet identity : Address} (passes : (identityOfWallet factory wallet).Passes
    (Chain.Serves self.Elsewhere) c log (.done identity) next) :
    self.parts next = self.parts c ∧ next.identityOfWallet factory wallet = .ok identity := by
  obtain ⟨answer, middle, rest, -, served, answered⟩ := Program.passes_call.mp passes
  obtain ⟨rfl, rfl, rfl⟩ := Program.passes_ofExcept.mp answered
  cases served with
  | identityOfWallet others found => exact ⟨parts_meanwhile others, found⟩

theorem linkUnlessLinked_settles (configured : self.account = some account) {linkTx : Option JsString}
    (passes : (self.linkUnlessLinked params).Passes (Chain.Serves self.Elsewhere) c log (.done linkTx) next) :
    self.parts next = (self.parts c).linked self account params := by
  obtain ⟨_, _, already, middle, -, reads, links⟩ := Program.passes_bind_done.mp passes
  obtain ⟨still, answered⟩ := read_parts reads
  rw [identityOfWallet_parts] at answered
  split at links
  · obtain ⟨_, _, hash, last, -, writes, done⟩ := Program.passes_bind_done.mp links
    obtain ⟨-, -, rfl⟩ := Program.passes_done.mp done
    rw [write_ok configured] at writes
    rw [← still]
    exact retries_settle (fun parts => parts.linked self account params) (fun _ => Parts.linked_linked)
      (fun _ _ _ others => parts_mine_linkAgent others) writes
  · rename_i used
    obtain ⟨-, -, rfl⟩ := Program.passes_done.mp links
    rw [← still]
    exact (linked_of_used answered used).symm

theorem bindSubname_settles (configured : self.account = some account) {name hash : JsString} {identity : Address}
    (passes : (self.bindSubname lib name identity).Passes (Chain.Serves self.Elsewhere) c log (.done hash) next) :
    self.parts next = (self.parts c).bound account (lib.namehash name) (self.parentNode lib) identity := by
  rw [HeroService.bindSubname, write_ok configured] at passes
  exact retries_settle (fun parts => parts.bound account _ _ identity) (fun _ => Parts.bound_bound)
    (fun _ _ _ others => parts_mine_setIdentity others) passes

/-- A score that cannot be encoded is never written. -/
theorem setScore_settles (configured : self.account = some account) {agent : Address} {hash : JsString}
    {score : Except Thrown Uint256} (passes : (self.write self.scoreRegistry (score.map (.setScore agent))).Passes
      (Chain.Serves self.Elsewhere) c log (.done hash) next) :
    ∃ encoded, score = .ok encoded ∧ self.parts next = (self.parts c).scored self account agent encoded := by
  cases score with
  | error err =>
    rw [HeroService.write, HeroService.walletClient, configured] at passes
    exact absurd passes.2 attempts_of_fail
  | ok encoded =>
    refine ⟨encoded, rfl, ?_⟩
    change (self.write self.scoreRegistry (.ok (.setScore agent encoded))).Passes _ _ _ _ _ at passes
    rw [write_ok configured] at passes
    exact retries_settle (fun parts => parts.scored self account agent encoded) (fun _ => Parts.scored_scored)
      (fun _ _ _ others => parts_mine_setScore others) passes

theorem gasDrip_settles (configured : self.account = some account) {recipient : Address} {dripTx : Option JsString}
    (passes : (self.gasDrip recipient).Passes (Chain.Serves self.Elsewhere) c log (.done dripTx) next) :
    self.parts next = self.parts c := by
  have sends : (self.gasDrip recipient).Calls fun request =>
      ∀ sending, request = .send sending → sending = drip account recipient := by
    refine gasDrip_calls (fun request passive sending same => absurd same (passive sending)) ?_
    rintro other same sending sends
    rw [configured, Option.some.injEq] at same
    rw [← ViemCall.send.inj sends, drip, same]
  refine passes.1.ends_eq fun entry member => ?_
  rcases entries_of_calls sends passes entry member with
    ⟨sent, inclusion, -, -, others, same⟩ | ⟨-, inputs, others, same⟩
  · rw [same]
    exact parts_mine_drip others
  · rw [same, parts_meanwhile others]

open Classical in
theorem mint_settles (configured : self.account = some account) (solvent : c.world.Solvent) {agent : Address}
    {hash : JsString} (passes : (self.write self.gatedToken (.ok (.mint agent AGENT_TOKEN_MINT))).Passes
      (Chain.Serves self.Elsewhere) c log (.done hash) next) :
    { self.parts next with token := none } = { self.parts c with token := none } ∧
      next.balanceOf self.gatedToken agent = (c.balanceOf self.gatedToken agent).map (· + AGENT_TOKEN_MINT.toNat *
        (blocks (float self account agent) log).countP fun block => Mintable self account agent block) ∧
      ∀ block ∈ blocks (float self account agent) log, Mintable self account agent block →
        (c.tokenAt self.gatedToken).isSome = true := by
  rw [write_ok configured] at passes
  have entries := entries_of_calls retries_calls passes
  refine ⟨?_, balance_of_run solvent passes.1 entries, fun block => token_of_mintable passes.1 entries⟩
  refine @Trace.ends_eq _ _ _ _ _ _ _
    (fun c : Chain Hash => { self.parts c with token := none }) passes.1 fun entry member => ?_
  rcases entries entry member with ⟨sent, inclusion, -, -, others, same⟩ | ⟨-, inputs, others, same⟩
  · rw [same]
    have minted := @parts_mine_float _ _ _ self account entry.before inclusion sent.hash others agent
    exact congrArg (fun parts : Parts => { parts with token := none }) minted
  · rw [same, parts_meanwhile others]

open Classical in
/-- **The request**, in what it writes to: the link, the name and the score are each
written once, whatever was retried, and the float as often as it is minted. -/
theorem linkAgent_settles (solvent : c.world.Solvent) {result : LinkAgentResult}
    (passes : (self.linkAgent lib params).Passes (Chain.Serves self.Elsewhere) c log (.done result) next) :
    ∃ account score, self.account = some account ∧ lib.encodeUint256 params.requestedScore = .ok score ∧
      { self.parts next with token := none } = { (((self.parts c).linked self account params).bound account
          (self.agentNode lib params) (self.parentNode lib) params.personIdentity).scored self account
            params.agentWallet score with token := none } ∧
      next.balanceOf self.gatedToken params.agentWallet = (c.balanceOf self.gatedToken params.agentWallet).map
        (· + AGENT_TOKEN_MINT.toNat * (blocks (float self account params.agentWallet) log).countP fun block =>
          Mintable self account params.agentWallet block) ∧
      ∀ block ∈ blocks (float self account params.agentWallet) log,
        Mintable self account params.agentWallet block → (c.tokenAt self.gatedToken).isSome = true := by
  obtain ⟨_, _, account, _, rfl, checks, naming⟩ := Program.passes_bind_done.mp passes
  obtain ⟨ready, rfl, rfl⟩ := Program.passes_ofExcept.mp checks
  obtain ⟨-, -, -, -, configured⟩ := assertReady_eq_ok.mp ready
  obtain ⟨_, _, label, start, rfl, normalizes, linking⟩ := Program.passes_bind_done.mp naming
  obtain ⟨normal, rfl, rfl⟩ := Program.passes_ofExcept.mp normalizes
  obtain ⟨linkLog, _, linkTx, linked, rfl, links, binding⟩ := Program.passes_bind_done.mp linking
  obtain ⟨bindLog, _, bindTx, bound, rfl, binds, scoring⟩ := Program.passes_bind_done.mp binding
  obtain ⟨scoreLog, _, scoreTx, scored, rfl, scores, dripping⟩ := Program.passes_bind_done.mp scoring
  obtain ⟨dripLog, _, dripTx, dripped, rfl, drips, minting⟩ := Program.passes_bind_done.mp dripping
  obtain ⟨mintLog, _, mintTx, minted, rfl, mints, done⟩ := Program.passes_bind_done.mp minting
  obtain ⟨rfl, -, rfl⟩ := Program.passes_done.mp done
  have first := linkUnlessLinked_settles configured links
  have second := bindSubname_settles configured binds
  obtain ⟨score, encodes, third⟩ := setScore_settles configured scores
  have fourth := gasDrip_settles configured drips
  have sound : dripped.world.Solvent := Chain.trace_solvent drips.1 (Chain.trace_solvent scores.1
    (Chain.trace_solvent binds.1 (Chain.trace_solvent links.1 solvent)))
  obtain ⟨fifth, balance, minted'⟩ := mint_settles configured sound mints
  obtain ⟨linking', binding', scoring', dripping'⟩ :=
    @before_minting self lib account params.agentWallet params params.agentWallet
  have quiet : blocks (float self account params.agentWallet) ([] ++ ([] ++ (linkLog ++ (bindLog ++ (scoreLog ++
      (dripLog ++ (mintLog ++ []))))))) = blocks (float self account params.agentWallet) mintLog := by
    rw [List.nil_append, List.nil_append, List.append_nil, blocks_append, blocks_append, blocks_append, blocks_append,
      blocks_quiet (linking'.of_passes links), blocks_quiet ((binding' _ _).of_passes binds),
      blocks_quiet ((scoring' _).of_passes scores), blocks_quiet (dripping'.of_passes drips)]
    rfl
  have whole : self.parts dripped = ((((self.parts start).linked self account params).bound account
      (self.agentNode lib params) (self.parentNode lib) params.personIdentity).scored self account params.agentWallet
        score) := by
    rw [fourth, third, second, first, normalizeLabel_eq_ok normal]
    rfl
  have token : dripped.tokenAt self.gatedToken = start.tokenAt self.gatedToken := by
    have same := congrArg Parts.token whole
    rwa [Parts.token_scored, Parts.token_bound, Parts.token_linked] at same
  refine ⟨account, score, configured, encodes, ?_, ?_, ?_⟩
  · rw [fifth, whole]
  · rw [quiet, balance, Chain.balanceOf, token]
    rfl
  · rw [quiet, ← token]
    exact minted'

open Classical in
/-- **When `linkAgent` resolves**, what it is for stands if and only if every part of it
stood before or could be written, and one of the mintings went through and no other. -/
theorem linkAgent_establishes_iff (reachable : c.world.Reachable) {result : LinkAgentResult}
    (passes : (self.linkAgent lib params).Passes (Chain.Serves self.Elsewhere) c log (.done result) next) :
    Established self lib params c next ↔
      ∃ account, self.account = some account ∧ Establishable self lib params account c log := by
  obtain ⟨account, score, configured, encodes, parts, balance, deployed⟩ :=
    linkAgent_settles reachable.solvent passes
  have reads {β : Type} (read : Parts → β) (but : ∀ parts, read { parts with token := none } = read parts) :
      read (self.parts next) = read ((((self.parts c).linked self account params).bound account
        (self.agentNode lib params) (self.parentNode lib) params.personIdentity).scored self account
          params.agentWallet score) := by
    rw [← but (self.parts next), parts, but]
  have link : next.identityOfWallet self.factory params.agentWallet =
      ((self.parts c).linked self account params).identityOfWallet self params.agentWallet := by
    rw [identityOfWallet_parts, reads (·.identityOfWallet self params.agentWallet) fun _ => rfl,
      Parts.identityOfWallet_scored, Parts.identityOfWallet_bound]
  have bind : next.boundTo self.resolver (self.agentNode lib params) = ((self.parts c).bound account
      (self.agentNode lib params) (self.parentNode lib) params.personIdentity).resolver.map
        (·.identityOf (self.agentNode lib params)) := by
    change (self.parts next).resolver.map _ = _
    rw [reads Parts.resolver fun _ => rfl, Parts.resolver_scored]
    simp only [Parts.bound, Parts.resolver_linked]
  have scores : next.scoreOf self.scoreRegistry params.agentWallet = ((self.parts c).scored self account
      params.agentWallet score).scoreOf self.scoreRegistry params.agentWallet := by
    change (self.parts next).scoreOf _ _ = _
    rw [reads (·.scoreOf self.scoreRegistry params.agentWallet) fun _ => rfl]
    refine Parts.scoreOf_scored_of ?_ ?_
    · exact Parts.scoreRegistry_linked
    · exact Parts.scores_linked
  have score_iff (found : Option Uint256) :
      (∃ other, found = some other ∧ (other.toNat : ℤ) = params.requestedScore) ↔ found = some score := by
    constructor
    · rintro ⟨other, there, same⟩
      rw [there, (encodeUint256_toNat encodes).mp same]
    · exact fun there => ⟨score, there, (encodeUint256_toNat encodes).mpr rfl⟩
  have funded : (∃ balance, c.balanceOf self.gatedToken params.agentWallet = some balance ∧
      next.balanceOf self.gatedToken params.agentWallet = some (balance + AGENT_TOKEN_MINT.toNat)) ↔
      ((blocks (float self account params.agentWallet) log).countP fun block =>
        Mintable self account params.agentWallet block) = 1 := by
    rw [balance]
    cases found : c.tokenAt self.gatedToken with
    | none =>
      have none : (blocks (float self account params.agentWallet) log).countP (fun block =>
          Mintable self account params.agentWallet block) = 0 := by
        rw [List.countP_eq_zero]
        intro block included mints
        have there := deployed block included (of_decide_eq_true mints)
        rw [found] at there
        cases there
      simp [Chain.balanceOf, found, none]
    | some token =>
      have positive : 0 < AGENT_TOKEN_MINT.toNat := by decide
      simp only [Chain.balanceOf, found, Option.map_some, Option.some.injEq, exists_eq_left', Nat.add_left_cancel_iff]
      exact Nat.mul_eq_left positive.ne'
  constructor
  · rintro ⟨isLinked, isBound, isScored, isFunded⟩
    refine ⟨account, configured, ?_, ?_, ?_, funded.mp isFunded⟩
    · rw [link] at isLinked
      rw [identityOfWallet_parts]
      exact Parts.identityOfWallet_linked.mp isLinked
    · rw [bind] at isBound
      exact Parts.identityOf_bound.mp isBound
    · rw [score_iff, scores] at isScored
      rw [score_iff]
      exact Parts.scoreOf_scored.mp isScored
  · rintro ⟨other, same, mayLink, mayBind, mayScore, mayFund⟩
    obtain rfl : account = other := Option.some.inj (configured.symm.trans same)
    refine ⟨?_, ?_, ?_, funded.mpr mayFund⟩
    · rw [link]
      rw [identityOfWallet_parts] at mayLink
      exact Parts.identityOfWallet_linked.mpr mayLink
    · rw [bind]
      exact Parts.identityOf_bound.mpr mayBind
    · rw [score_iff] at mayScore
      rw [score_iff, scores]
      exact Parts.scoreOf_scored.mpr mayScore

end Request

/-- The names of the demo. -/
def heroLibrary : HeroLibrary where
  toLowerCase s := s.map lowerUnit
  ascii _ _ := rfl
  namehash name :=
    if name = text "casaazul.eth" then 0xc370deff09f061063f964c6329b0e2f76e18e210a00f5db98003d4ed686815b7
    else if name = text "ana.casaazul.eth" then 0xcdda116237a53d350fe0231008d54c8f28a893c9babc64a2851bcbeaaf6aac2d
    else if name = text "bot.ana.casaazul.eth" then 0x8169ec5c9dedd65887a27aae1cf7ba5a4f678a12a44bd953dcec87c0e5764828
    else 0
  addressText _ := []
  outOfRange _ := thrown (text "IntegerOutOfRangeError")

/-- The key is that of the administrator of everything. -/
def adminService : HeroService := { heroService with account := some Stack.admin }

/-- The deal room, where more can be deployed. -/
def heroRoom : World Symbolic :=
  { World.dealRoom with around := { World.dealRoom.around with hasCode := fun account => account = 43 } }

theorem heroRoom_genesis : World.Genesis heroRoom where
  stack := World.dealRoom_genesis.stack
  surfaces _ := rfl

/-- The resolver is at 41, with the parent for a tenant, and the token at 42. -/
def heroOpening : List World.Input :=
  World.opening ++ [
    ⟨Stack.admin, .deploy 41 (.resolver 3 43)⟩,
    ⟨Stack.admin, .call 41 (.resolver (.setTenant (heroLibrary.namehash (text "casaazul.eth")) 2 1 10))⟩,
    ⟨Stack.admin, .deploy 42 (.token 2 3 1 10)⟩]

def heroChain : Chain Symbolic where
  world := exec World.step heroRoom heroOpening
  scoreRegistry := 43
  scores := {
    accessControl := .standard
    access := (AccessControl.vacant.grant AccessControl.DEFAULT_ADMIN_ROLE 10).grant SCORER_ROLE 10
    scoreOf _ := 0 }
  receipts := []

theorem heroChain_reachable : heroChain.world.Reachable := by
  refine ⟨heroRoom, heroOpening, heroRoom_genesis, ?_⟩
  rw [heroChain]

/-- An agent for the person onboarded. -/
def anaAgent : LinkAgentParams where
  agentWallet := 14
  personIdentity := 30
  label := text "Ana"
  score := none

/-- No factory minted this identity. -/
def strangerAgent : LinkAgentParams := { anaAgent with personIdentity := 31 }

def readBack (params : LinkAgentParams) (c : Chain Symbolic) :
    Option Address × Option Address × Option Uint256 × Option ℕ :=
  ((c.identityOfWallet 3 params.agentWallet).toOption, c.boundTo 41 (adminService.agentNode heroLibrary params),
    c.scoreOf 43 params.agentWallet, c.balanceOf 42 params.agentWallet)

theorem adminService_links {params : LinkAgentParams}
    {reads : Option Address × Option Address × Option Uint256 × Option ℕ}
    (ran : ((adminService.linkAgent heroLibrary params).carryOut Chain.reply heroChain).map
      (fun (_, next) => readBack params next) = some reads) :
    ∃ log result next, (adminService.linkAgent heroLibrary params).Passes
      (Chain.Serves adminService.Elsewhere) heroChain log (.done result) next ∧ readBack params next = reads := by
  obtain ⟨⟨result, next⟩, returned, read⟩ := Option.map_eq_some_iff.mp ran
  have completes : (adminService.linkAgent heroLibrary params).Completes (Chain.Serves adminService.Elsewhere) heroChain
      result next := Program.completes_of_carryOut (fun _ _ _ _ => Chain.serves_of_reply) returned
  obtain ⟨log, passes⟩ := completes.passes
  exact ⟨log, result, next, passes, read⟩

theorem eq_ok_of_toOption {answer : Result Address} {identity : Address} (read : answer.toOption = some identity) :
    answer = .ok identity := by
  cases answer with
  | ok other => exact congrArg Except.ok (Option.some.inj read)
  | error error => cases read

theorem anaAgent_establishable :
    ∃ log, Establishable adminService heroLibrary anaAgent Stack.admin heroChain log := by
  have facts : ((adminService.linkAgent heroLibrary anaAgent).carryOut Chain.reply heroChain).map
        (fun (_, next) => readBack anaAgent next) = some (some 30, some 30, some 87, some 1000000000000000000000) ∧
      heroChain.balanceOf 42 14 = some 0 := by decide +kernel
  obtain ⟨ran, none⟩ := facts
  obtain ⟨log, result, next, passes, read⟩ := adminService_links ran
  simp only [readBack, Prod.mk.injEq] at read
  obtain ⟨linked, bound, scored, funded⟩ := read
  have established : Established adminService heroLibrary anaAgent heroChain next :=
    ⟨eq_ok_of_toOption linked, bound, ⟨87, scored, by decide⟩, 0, none, funded⟩
  obtain ⟨account, configured, establishable⟩ :=
    (linkAgent_establishes_iff heroChain_reachable passes).mp established
  cases configured
  exact ⟨log, establishable⟩

/-- The link reverts, the minting reverts, and the request resolves. -/
theorem linkAgent_resolves_unlinked :
    ¬ ∀ (self : HeroService) (lib : HeroLibrary) (params : LinkAgentParams) (c next : Chain Symbolic)
        (log : List (Entry (Chain Symbolic) Exchange)) (result : LinkAgentResult), c.world.Reachable →
      (self.linkAgent lib params).Passes (Chain.Serves self.Elsewhere) c log (.done result) next →
        Established self lib params c next := by
  intro claimed
  obtain ⟨log, result, next, passes, read⟩ := @adminService_links strangerAgent
    (some 0, some 31, some 87, some 0) (by decide +kernel)
  obtain ⟨linked, -⟩ := claimed _ _ _ _ _ _ _ heroChain_reachable passes
  have unlinked : next.identityOfWallet 3 14 = .ok 0 := eq_ok_of_toOption (congrArg Prod.fst read)
  cases linked.symm.trans unlinked

end PassportKit.Hero
