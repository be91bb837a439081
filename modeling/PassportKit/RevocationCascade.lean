import PassportKit.Surfaces
import PassportKit.Soundness

/-! One latch, everywhere. When every issuer listed for a required topic has
revoked an identity there, nothing but an issuer's own `setRevoked` with `false`
lets the identity through again: no resubmission, no new wallet, no rebound
name, no time passing. The latch sits in the issuers, every claim for the topic
is one of theirs, and every surface asks through the gate. -/
namespace PassportKit
open Evm OpenZeppelin Eip712 Runs

namespace Stack

variable {Hash : Type} [Crypto Hash] {s next : Stack Hash} {input : Input}
  {identity issuer account : Address} {topic policyId : Uint256}

/-- Every issuer listed for a topic has revoked an identity there. -/
def Latched (s : Stack Hash) (identity : Address) (topic : Uint256) : Prop :=
  ∀ issuer ∈ s.registry.issuersForTopic topic,
    ∃ contract, s.code issuer = .claimIssuer contract ∧ contract.revoked identity topic = true

theorem Latched.not_vouches (latched : s.Latched identity topic)
    (listed : issuer ∈ s.registry.issuersForTopic topic) :
    ¬ EligibilityGate.Vouches s.reads identity topic issuer := by
  obtain ⟨contract, code, revoked⟩ := latched issuer listed
  rintro ⟨sig, data, returnData, -, replied, decoded⟩
  rw [reads_issuerAt code, ClaimIssuer.isClaimValid_of_revoked revoked] at replied
  obtain rfl : encodeBool false = returnData := by simpa using replied
  simp at decoded

theorem Latched.not_covered (latched : s.Latched identity topic) :
    ¬ EligibilityGate.Covered s.reads identity (s.reads.issuersForTopic topic) topic := by
  rintro ⟨issuer, listed, vouches⟩
  exact latched.not_vouches listed vouches

/-- The gate does not accept, whatever the other topics' issuers answer. -/
theorem Latched.not_eligible (latched : s.Latched identity topic)
    (required : topic ∈ s.gate.policyTopics policyId) (reason : Bytes32) :
    s.isEligible identity policyId ≠ .ok (true, reason) := by
  intro accepted
  exact latched.not_covered (EligibilityGate.covered_of_isEligible accepted topic required)

variable [DecidableEq Hash]

/-- With claim issuers for every topic, it refuses. -/
theorem Latched.refused (latched : s.Latched identity topic) (valid : Valid s)
    (ours : s.IssuersAreOurs) (minted : s.factory.isIdentity identity = true)
    (required : topic ∈ s.gate.policyTopics policyId) :
    ∃ reason, reason ≠ Reason.OK ∧ s.isEligible identity policyId = .ok (false, reason) := by
  have known : s.Known identity := .inr (.inr minted)
  have answer := isEligible_eq_decision valid.registry valid.zero ours (known.code valid) policyId
  rcases decided : s.decision identity policyId with ⟨ok, reason⟩
  rw [decided] at answer
  cases ok with
  | true => exact absurd answer (latched.not_eligible required reason)
  | false =>
    refine ⟨reason, fun accepting => ?_, answer⟩
    exact Bool.false_ne_true ((EligibilityGate.isEligible_ok_iff_reason answer).mpr accepting)

/-- No claim for the topic lands on the identity: its issuer would be listed. -/
theorem Latched.not_submitted (latched : s.Latched identity topic) (valid : Valid s)
    (sender : Caller) (issuer : Address) (sig data : Bytes) :
    Reverts (step s ⟨sender, .identity identity (.submitClaim topic issuer sig data)⟩) := by
  apply reverts_of_not_ok
  intro next done
  simp only [step] at done
  cases code : s.code identity with
  | identity holder =>
    simp only [code, Identity.call, bind_eq_ok, pure_outcome, Except.ok.injEq] at done
    obtain ⟨changed, ⟨⟨reached, claimId⟩, submission, -⟩, -⟩ := done
    obtain ⟨-, trusted, asked, -⟩ := Identity.submitClaim_changes submission
    obtain ⟨contract, issuerCode, revoked⟩ := latched issuer (valid.registry.mem_iff.mpr trusted)
    have reply : s.issuerAt issuer identity topic sig data = .returned (encodeBool false) := by
      simp only [issuerAt, issuerCode, ClaimIssuer.isClaimValid_of_revoked revoked, replyOf_ok]
    simp [reply] at asked
  | empty => simp [code] at done
  | claimIssuer contract => simp [code] at done
  | foreign contract => simp [code] at done

/-- An issuer's latch outlives every transaction but its own opening. -/
theorem step_keeps_latch (done : step s input = .ok next) {contract : ClaimIssuer}
    (code : s.code issuer = .claimIssuer contract) (revoked : contract.revoked identity topic = true)
    (kept : input.action ≠ .claimIssuer issuer (.setRevoked identity topic false)) :
    ∃ contract, next.code issuer = .claimIssuer contract ∧ contract.revoked identity topic = true := by
  -- Nothing but a call of the issuer writes where the issuer lives.
  have elsewhere {target : Address} {written : Code Hash}
      (other : s.code target ≠ .claimIssuer contract) :
      ∃ contract, (s.setCode target written).code issuer = .claimIssuer contract ∧
        contract.revoked identity topic = true := by
    have apart : issuer ≠ target := by
      rintro rfl
      exact other code
    exact ⟨contract, (setCode_of_ne apart written).trans code, revoked⟩
  cases step_change done with
  | registry _ _ => exact ⟨contract, code, revoked⟩
  | factory _ _ => exact ⟨contract, code, revoked⟩
  | gate _ _ => exact ⟨contract, code, revoked⟩
  | elapsed _ => exact ⟨contract, code, revoked⟩
  | @issuer target call contract' called action targetCode accepted =>
    by_cases same : issuer = target
    · subst same
      obtain rfl : contract' = contract := by simpa [targetCode] using code
      refine ⟨called, setCode_self .., ClaimIssuer.call_keeps_latch accepted revoked ?_⟩
      rintro rfl
      exact kept action
    · exact ⟨contract, (setCode_of_ne same _).trans code, revoked⟩
  | identity _ targetCode _ => exact elsewhere (by simp [targetCode])
  | minted _ _ free _ => exact elsewhere (by simp [free])
  | deployed _ _ free _ => exact elsewhere (by simp [free])
  | foreign old _ _ _ targetCode =>
    refine elsewhere ?_
    rw [targetCode]
    cases old <;> simp

/-- Only their own calls write the registry and the gate. -/
theorem step_writers (done : step s input = .ok next) :
    (next.registry = s.registry ∨ ∃ call, input.action = .registry call) ∧
      (next.gate = s.gate ∨ ∃ call, input.action = .gate call) := by
  cases step_change done with
  | registry action _ => exact ⟨.inr ⟨_, action⟩, .inl rfl⟩
  | gate action _ => exact ⟨.inl rfl, .inr ⟨_, action⟩⟩
  | factory _ _ => exact ⟨.inl rfl, .inl rfl⟩
  | elapsed _ => exact ⟨.inl rfl, .inl rfl⟩
  | issuer _ _ _ => exact ⟨.inl rfl, .inl rfl⟩
  | identity _ _ _ => exact ⟨.inl rfl, .inl rfl⟩
  | minted _ _ _ _ => exact ⟨.inl rfl, .inl rfl⟩
  | deployed _ _ _ _ => exact ⟨.inl rfl, .inl rfl⟩
  | foreign _ _ _ _ _ => exact ⟨.inl rfl, .inl rfl⟩

end Stack

namespace World

variable {Hash : Type} [Crypto Hash] [DecidableEq Hash] {w next : World Hash} {input : Input}
  {identity wallet account : Address} {topic policyId : Uint256}

/-- The transaction changes neither the topic's issuer list nor the policy, and
does not open the latch of a listed issuer. -/
def Undisturbed (identity : Address) (topic policyId : Uint256) (w : World Hash) (input : Input) :
    Prop :=
  (settle step w input).stack.registry.issuersForTopic topic =
      w.stack.registry.issuersForTopic topic ∧
    (settle step w input).stack.gate.policyTopics policyId = w.stack.gate.policyTopics policyId ∧
    ∀ issuer ∈ w.stack.registry.issuersForTopic topic,
      input.action = .stack (.claimIssuer issuer (.setRevoked identity topic false)) →
        Reverts (step w input)

/-- Resubmission, wallets, names, tokens, houses, time: only the administrators'
transactions can disturb a revocation. -/
theorem undisturbed_elsewhere (registry : ∀ call, input.action ≠ .stack (.registry call))
    (gate : ∀ call, input.action ≠ .stack (.gate call))
    (latch : ∀ issuer, input.action ≠ .stack (.claimIssuer issuer (.setRevoked identity topic false))) :
    Undisturbed identity topic policyId w input := by
  have frame : (settle step w input).stack.registry = w.stack.registry ∧
      (settle step w input).stack.gate = w.stack.gate := by
    cases outcome : step w input with
    | error error =>
      rw [settle_error outcome]
      exact ⟨rfl, rfl⟩
    | ok next =>
      rw [settle_ok outcome]
      obtain ⟨-, -, ⟨same, -⟩ | ⟨action, asked, stepped⟩⟩ := step_stack outcome
      · rw [same]
        exact ⟨rfl, rfl⟩
      · obtain ⟨ofRegistry, ofGate⟩ := Stack.step_writers stepped
        constructor
        · apply ofRegistry.resolve_right
          rintro ⟨call, rfl⟩
          exact registry call asked
        · apply ofGate.resolve_right
          rintro ⟨call, rfl⟩
          exact gate call asked
  refine ⟨by rw [frame.1], by rw [frame.2], ?_⟩
  intro issuer _ opening
  exact absurd opening (latch issuer)

/-- The topic is required, and its listed issuers have revoked the identity. -/
structure Revoked (identity : Address) (topic policyId : Uint256) (w : World Hash) : Prop where
  required : topic ∈ w.stack.gate.policyTopics policyId
  latched : w.stack.Latched identity topic
  minted : w.stack.factory.isIdentity identity = true

/-- **Step lemma.** A revocation outlives every undisturbing transaction. -/
theorem Revoked.step (revoked : Revoked identity topic policyId w) (valid : w.stack.Valid)
    (undisturbed : Undisturbed identity topic policyId w input)
    (done : World.step w input = .ok next) : Revoked identity topic policyId next := by
  obtain ⟨list, policy, closed⟩ := undisturbed
  rw [settle_ok done] at list policy
  obtain ⟨-, -, ⟨same, -⟩ | ⟨action, asked, stepped⟩⟩ := step_stack done
  · obtain ⟨required, latched, minted⟩ := revoked
    rw [← same] at required latched minted
    exact ⟨required, latched, minted⟩
  · refine ⟨policy ▸ revoked.required, ?_, ?_⟩
    · intro issuer listed
      rw [list] at listed
      obtain ⟨contract, code, latched⟩ := revoked.latched issuer listed
      refine Stack.step_keeps_latch stepped code latched ?_
      intro opening
      obtain ⟨error, rejected⟩ := closed issuer listed (asked.trans (congrArg Action.stack opening))
      rw [done] at rejected
      cases rejected
    · obtain ⟨keys, keyed⟩ := Option.isSome_iff_exists.mp ((valid.minted_iff identity).mp revoked.minted)
      have kept := Stack.step_keysAt keyed stepped
      exact ((Stack.step_valid valid stepped).minted_iff identity).mpr (by simp [kept])

/-- **Run lemma.** -/
theorem Revoked.exec (revoked : Revoked identity topic policyId w) (valid : w.stack.Valid)
    {inputs : List Input} (undisturbed : Along World.step (Undisturbed identity topic policyId) w inputs) :
    (Runs.exec World.step w inputs).stack.Valid ∧
      Revoked identity topic policyId (Runs.exec World.step w inputs) := by
  have kept (w : World Hash) (input : Input) (next : World Hash)
      (held : w.stack.Valid ∧ Revoked identity topic policyId w)
      (allowed : Undisturbed identity topic policyId w input) (done : World.step w input = .ok next) :
      next.stack.Valid ∧ Revoked identity topic policyId next :=
    ⟨step_valid held.1 done, held.2.step held.1 allowed done⟩
  exact exec_preserves_along kept ⟨valid, revoked⟩ undisturbed

section Paths
variable {token : GatedERC20} {hook : ComplianceHook} {treasury : HouseTreasury} {sender : Address}
  {hookData : Bytes}

/-- The gate does not accept the identity of a wallet. -/
def Refused (w : World Hash) (wallet : Address) (policyId : Uint256) : Prop :=
  ¬ w.Accepted wallet policyId

/-- No tokens are minted to the wallet, and none move from or to it. -/
theorem Refused.token_reverts (refused : w.Refused wallet policyId)
    (there : w.surfaces account = some (.token token))
    (wired : w.Wired token.gate token.resolver token.policyId policyId) (caller : Caller)
    {request : GatedERC20.Call} (party : wallet ∈ request.parties caller) :
    Reverts (step w ⟨caller, .call account (.token request)⟩) := by
  apply reverts_of_not_ok
  intro next done
  simp only [step, there, Surface.call, bind_eq_ok, pure_outcome] at done
  obtain ⟨surface, ⟨moved, called, -⟩, -⟩ := done
  have eligible := GatedERC20.call_checks called wallet party
  exact refused ((token_passes wired).mp (GatedERC20.requireEligible_eq_ok.mpr eligible))

/-- No swap and no liquidity addition goes through for the wallet. -/
theorem Refused.hook_reverts (refused : w.Refused wallet policyId)
    (there : w.surfaces account = some (.hook hook))
    (wired : w.Wired hook.gate hook.resolver hook.policyId policyId) (caller : Caller)
    (acting : ComplianceHook.actor sender hookData = .ok wallet) :
    Reverts (step w ⟨caller, .call account (.beforeSwap sender hookData)⟩) ∧
      Reverts (step w ⟨caller, .call account (.beforeAddLiquidity sender hookData)⟩) := by
  have shut : ¬ ∃ actor, ComplianceHook.actor sender hookData = .ok actor ∧
      hook.Compliant w.env actor := by
    rintro ⟨actor, acting', compliant⟩
    obtain rfl : wallet = actor := Except.ok.inj (acting.symm.trans acting')
    exact refused ((hook_passes wired).mp (ComplianceHook.requireCompliant_eq_ok.mpr compliant))
  constructor
  · apply reverts_of_not_ok
    intro next done
    simp only [step, there, Surface.call, bind_eq_ok, pure_outcome] at done
    obtain ⟨surface, ⟨-, -, result, passed, -⟩, -⟩ := done
    exact shut (ComplianceHook.beforeSwap_compliant passed)
  · apply reverts_of_not_ok
    intro next done
    simp only [step, there, Surface.call, bind_eq_ok, pure_outcome] at done
    obtain ⟨surface, ⟨-, -, result, passed, -⟩, -⟩ := done
    exact shut (ComplianceHook.beforeAddLiquidity_compliant passed)

omit [DecidableEq Hash] in
/-- The wallet is no compliant owner, and a house it owns has no agent in good
standing. -/
theorem Refused.treasury_refuses (refused : w.Refused wallet policyId)
    (wired : w.Wired treasury.ELIGIBILITY_GATE treasury.IDENTITY_RESOLVER treasury.POLICY_ID policyId) :
    treasury.isCompliantOwner w.env wallet ≠ .ok true ∧
      (wallet ∈ treasury.owners →
        ∀ agent reason, treasury.isAgentInGoodStanding w.env agent ≠ .ok (true, reason)) := by
  have ineligible : ¬ treasury.Eligible w.env wallet :=
    fun eligible => refused ((treasury_passes wired).mp eligible)
  constructor
  · intro compliant
    unfold HouseTreasury.isCompliantOwner at compliant
    split at compliant
    · exact ineligible compliant
    · simp at compliant
  · intro owner agent reason standing
    exact ineligible ((HouseTreasury.isAgentInGoodStanding_eq_true standing).owners wallet owner)

end Paths

/-! ## The cascade -/

/-- Everything a revocation shuts for an identity. -/
structure Shut (w : World Hash) (identity : Address) (topic policyId : Uint256) : Prop where
  gate : ∀ reason, w.stack.isEligible identity policyId ≠ .ok (true, reason)
  refusal : w.stack.IssuersAreOurs →
    ∃ reason, reason ≠ Reason.OK ∧ w.stack.isEligible identity policyId = .ok (false, reason)
  submission : ∀ caller issuer sig data,
    Reverts (step w ⟨caller, .stack (.identity identity (.submitClaim topic issuer sig data))⟩)
  token : ∀ account token wallet, w.surfaces account = some (.token token) →
    w.Wired token.gate token.resolver token.policyId policyId →
    w.stack.factory.identityOfWallet wallet = identity →
    ∀ (caller : Caller) request, wallet ∈ GatedERC20.Call.parties caller request →
      Reverts (step w ⟨caller, .call account (.token request)⟩)
  hook : ∀ account hook wallet, w.surfaces account = some (.hook hook) →
    w.Wired hook.gate hook.resolver hook.policyId policyId →
    w.stack.factory.identityOfWallet wallet = identity →
    ∀ caller sender hookData, ComplianceHook.actor sender hookData = .ok wallet →
      Reverts (step w ⟨caller, .call account (.beforeSwap sender hookData)⟩) ∧
        Reverts (step w ⟨caller, .call account (.beforeAddLiquidity sender hookData)⟩)
  resolver : ∀ account resolver node, w.surfaces account = some (.resolver resolver) →
    w.BoundTo resolver node policyId identity →
    resolver.text Hash w.env node (ascii "compliance.status") ≠ .ok (ascii "GREEN")
  treasury : ∀ account treasury scrip wallet, w.surfaces account = some (.treasury treasury scrip) →
    w.Wired treasury.ELIGIBILITY_GATE treasury.IDENTITY_RESOLVER treasury.POLICY_ID policyId →
    w.stack.factory.identityOfWallet wallet = identity →
    treasury.isCompliantOwner w.env wallet ≠ .ok true ∧
      (wallet ∈ treasury.owners →
        ∀ agent reason, treasury.isAgentInGoodStanding w.env agent ≠ .ok (true, reason))

theorem Revoked.shut (revoked : Revoked identity topic policyId w) (valid : w.stack.Valid) :
    Shut w identity topic policyId := by
  obtain ⟨required, latched, minted⟩ := revoked
  have refused (wallet : Address) (resolves : w.stack.factory.identityOfWallet wallet = identity) :
      w.Refused wallet policyId := by
    rintro ⟨reason, accepted⟩
    rw [answer, resolves] at accepted
    exact latched.not_eligible required reason accepted
  refine ⟨latched.not_eligible required, ?_, ?_, ?_, ?_, ?_, ?_⟩
  · intro ours
    exact latched.refused valid ours minted required
  · intro caller issuer sig data
    obtain ⟨error, rejected⟩ := latched.not_submitted valid caller issuer sig data
    exact ⟨error, by simp [World.step, rejected]⟩
  · intro account token wallet there wired resolves caller request party
    exact (refused wallet resolves).token_reverts there wired caller party
  · intro account hook wallet there wired resolves caller sender hookData acting
    exact (refused wallet resolves).hook_reverts there wired caller acting
  · intro account resolver node there bound green
    obtain ⟨-, reason, answered⟩ := (resolver_green bound).mp green
    exact latched.not_eligible required reason answered
  · intro account treasury scrip wallet there wired resolves
    exact (refused wallet resolves).treasury_refuses wired

/-- **Revocation cascade.** Once every issuer listed for a required topic has
revoked a minted identity, then in every state that transactions of any accounts
and the passage of time lead to, the issuer list, the policy and the latches
left alone, the gate, the identity and every surface stay shut for it. -/
theorem revocation_cascades (reachable : Reachable w)
    (minted : w.stack.factory.isIdentity identity = true)
    (required : topic ∈ w.stack.gate.policyTopics policyId)
    (latched : w.stack.Latched identity topic) {inputs : List Input}
    (undisturbed : Along step (Undisturbed identity topic policyId) w inputs) :
    Shut (exec step w inputs) identity topic policyId := by
  have revoked : Revoked identity topic policyId w := ⟨required, latched, minted⟩
  obtain ⟨valid, kept⟩ := revoked.exec reachable.stack.valid undisturbed
  exact kept.shut valid

def revocation : List Input :=
  opening ++ [⟨Stack.admin, .stack (.claimIssuer 20 (.setRevoked 30 ClaimTopics.KYC_VERIFIED true))⟩]

/-- The person submits the signed claim again, gets a new agent, and waits. -/
def aftermath : List Input := [
  ⟨Stack.holder, .stack (.identity 30
    (.submitClaim ClaimTopics.KYC_VERIFIED 20 Stack.kycSig Stack.kycData))⟩,
  ⟨Stack.admin, .stack (.factory (.linkAgent 13 30))⟩,
  ⟨Stack.holder, .stack (.elapse 1000)⟩]

theorem revocation_facts :
    (exec step dealRoom revocation).stack.registry.issuersForTopic ClaimTopics.KYC_VERIFIED = [20] ∧
      (exec step dealRoom revocation).stack.factory.isIdentity 30 = true ∧
      ClaimTopics.KYC_VERIFIED ∈ (exec step dealRoom revocation).stack.gate.policyTopics 1 := by
  decide +kernel

set_option maxRecDepth 20000 in
theorem revocation_latched :
    (exec step dealRoom revocation).stack.Latched 30 ClaimTopics.KYC_VERIFIED := by
  intro issuer listed
  rw [revocation_facts.1, List.mem_singleton] at listed
  subst listed
  exact ⟨_, rfl, by rfl⟩

theorem revocation_cascades_aftermath :
    Shut (exec step (exec step dealRoom revocation) aftermath) 30 ClaimTopics.KYC_VERIFIED 1 := by
  have reachable : Reachable (exec step dealRoom revocation) := ⟨_, _, dealRoom_genesis, rfl⟩
  obtain ⟨-, minted, required⟩ := revocation_facts
  refine revocation_cascades reachable minted required revocation_latched ?_
  refine ⟨?_, ?_, ?_, trivial⟩
  · exact undisturbed_elsewhere (by simp) (by simp) (by simp)
  · exact undisturbed_elsewhere (by simp) (by simp) (by simp)
  · exact undisturbed_elsewhere (by simp) (by simp) (by simp)

end World

end PassportKit
