import PassportKit.HouseSpending
import PassportKit.RevocationCascade
import PassportKit.WalletMap

/-! The house on the contracts it is deployed with. What the concierge may spend rests on
the treasury, and the treasury's word on the claims of the owners: when one of them is
revoked, both rails refuse the concierge from the next simulation on, whatever was
decided and whatever else happens, until an administrator lets the owner through again.
A ticket that is past its simulation by then is not held up. -/
namespace PassportKit.HouseSystem
open Evm Eip712 Js Interaction DemoChain Concierge
open Refusals (Thrown)
open Runs (Along exec Trace)
open Verification (demoHashes)

/-- What no call of a treasury changes. -/
structure SameHouse (before after : HouseTreasury) : Prop where
  gate : after.ELIGIBILITY_GATE = before.ELIGIBILITY_GATE
  resolver : after.IDENTITY_RESOLVER = before.IDENTITY_RESOLVER
  policy : after.POLICY_ID = before.POLICY_ID
  owners : after.owners = before.owners
  isOwner : after.isOwner = before.isOwner

theorem SameHouse.trans {first second third : HouseTreasury} (same : SameHouse first second)
    (same' : SameHouse second third) :
    SameHouse first third where
  gate := same'.gate.trans same.gate
  resolver := same'.resolver.trans same.resolver
  policy := same'.policy.trans same.policy
  owners := same'.owners.trans same.owners
  isOwner := same'.isOwner.trans same.isOwner

section Contracts
variable {Hash : Type} [Crypto Hash] [DecidableEq Hash] {w next : World Hash} {input : World.Input} {account : Address}
  {treasury : HouseTreasury} {scrip : HouseToken}

theorem step_sameHouse (there : w.surfaces account = some (.treasury treasury scrip))
    (done : World.step w input = .ok next) :
    ∃ treasury' scrip', next.surfaces account = some (.treasury treasury' scrip') ∧
      SameHouse treasury treasury' := by
  rcases World.step_surface done account with same | ⟨request, surface, -, free, -, -⟩ |
      ⟨request, surface, changed, -, before, called, after⟩
  · exact ⟨treasury, scrip, same.trans there, ⟨rfl, rfl, rfl, rfl, rfl⟩⟩
  · simp [World.env, there] at free
  · rw [there] at before
    cases before
    cases request with
    | treasury call =>
      simp only [Surface.call, bind_eq_ok, pure_outcome, Except.ok.injEq] at called
      obtain ⟨⟨treasury', scrip'⟩, done, rfl⟩ := called
      refine ⟨treasury', scrip', after, ?_⟩
      rcases HouseTreasury.call_changes done with
        ⟨mandate, rfl, -⟩ | ⟨_, _, _, -, proposed⟩ | ⟨_, -, approved⟩
      · exact ⟨rfl, rfl, rfl, rfl, rfl⟩
      · rw [proposed.changed]
        exact ⟨rfl, rfl, rfl, rfl, rfl⟩
      · rw [approved.changed]
        exact ⟨rfl, rfl, rfl, rfl, rfl⟩
    | executePayment id paid =>
      simp only [Surface.call, bind_eq_ok, pure_outcome, Except.ok.injEq] at called
      obtain ⟨⟨treasury', transfer⟩, executed, -, -, rfl⟩ := called
      obtain ⟨-, -, -, -, rfl⟩ := HouseTreasury.executePayment_changes executed
      exact ⟨_, scrip, after, ⟨rfl, rfl, rfl, rfl, rfl⟩⟩
    | scrip call =>
      simp only [Surface.call, bind_eq_ok, pure_outcome, Except.ok.injEq] at called
      obtain ⟨scrip', -, rfl⟩ := called
      exact ⟨treasury, scrip', after, ⟨rfl, rfl, rfl, rfl, rfl⟩⟩
    | token | beforeSwap | beforeAddLiquidity | resolver => simp [Surface.call] at called

theorem exec_sameHouse (there : w.surfaces account = some (.treasury treasury scrip)) (inputs : List World.Input) :
    ∃ treasury' scrip', (exec World.step w inputs).surfaces account = some (.treasury treasury' scrip') ∧
      SameHouse treasury treasury' := by
  have kept (before : World Hash) (input : World.Input) (after : World Hash)
      (held : ∃ treasury' scrip', before.surfaces account = some (.treasury treasury' scrip') ∧
        SameHouse treasury treasury')
      (done : World.step before input = .ok after) :
      ∃ treasury' scrip', after.surfaces account = some (.treasury treasury' scrip') ∧
        SameHouse treasury treasury' := by
    obtain ⟨treasury', scrip', there, same⟩ := held
    obtain ⟨treasury'', scrip'', there', same'⟩ := step_sameHouse there done
    exact ⟨treasury'', scrip'', there', same.trans same'⟩
  exact Runs.exec_preserves kept ⟨treasury, scrip, there, ⟨rfl, rfl, rfl, rfl, rfl⟩⟩ inputs

/-- A person of a deployment stays one. -/
theorem exec_person {wallet identity : Address} (valid : w.stack.Valid) (person : w.stack.Person wallet identity)
    (inputs : List World.Input) :
    (exec World.step w inputs).stack.Valid ∧ (exec World.step w inputs).stack.Person wallet identity := by
  have kept (before : World Hash) (input : World.Input) (after : World Hash)
      (held : before.stack.Valid ∧ before.stack.Person wallet identity) (done : World.step before input = .ok after) :
      after.stack.Valid ∧ after.stack.Person wallet identity := by
    refine ⟨World.step_valid held.1 done, ?_⟩
    obtain ⟨-, -, ⟨same, -⟩ | ⟨action, -, stepped⟩⟩ := World.step_stack done
    · exact same ▸ held.2
    · exact ((Stack.step_persons held.1 stepped).1 wallet identity).mpr (.inl held.2)
  exact Runs.exec_preserves kept ⟨valid, person⟩ inputs

end Contracts

section Deployment
variable {Hash : Type} [Crypto Hash] {house : House}

/-- The house and its contracts. What the house reads is theirs. -/
structure HouseDeployment (Hash : Type) [Crypto Hash] (house : House) where
  contracts : World Hash
  chain : HouseChain
  env : chain.env = contracts.env
  treasury : ∃ scrip, contracts.surfaces house.world.treasury = some (.treasury chain.treasury scrip)

variable [DecidableEq Hash] [Crypto Bytes32]

/-- The house is served as it is by its chain, while anybody transacts, and time passes. -/
def HouseDeployment.Serves (vendor : Vendor) (before : HouseDeployment Hash house)
    (exchange : Program.Exchange HouseCall HouseAnswer) (after : HouseDeployment Hash house) : Prop :=
  before.chain.Serves house vendor exchange after.chain ∧
    ∃ inputs, after.contracts = exec World.step before.contracts inputs

def deployedSystem (Hash : Type) [Crypto Hash] [DecidableEq Hash] (house : House) (vendor : Vendor) :
    Machine (HouseDeployment Hash house) HouseRequest HouseCall HouseAnswer Thrown (Option Reply) where
  Starts := fun _ _ => True
  body := HouseRequest.program house
  Serves := fun before _ exchange after => before.Serves vendor exchange after

/-- **Refinement.** On its contracts the house does nothing it does not do alone. -/
theorem deployedSystem_refines (vendor : Vendor) :
    (deployedSystem Hash house vendor).Refines HouseDeployment.chain (houseSystem house vendor) where
  body := rfl
  starts _ _ _ := trivial
  serves _ _ _ _ served := served.1

end Deployment

/-! ## An owner is revoked -/

section Revocation
variable {Hash : Type} [Crypto Hash] [DecidableEq Hash] {house : House} {identity : Address} {topic policyId : Uint256}

/-- An owner has lost a claim that the treasury's policy requires, and the concierge is
no owner. -/
structure OwnerRevoked (identity : Address) (topic policyId : Uint256) (deployment : HouseDeployment Hash house) :
    Prop where
  valid : deployment.contracts.stack.Valid
  revoked : World.Revoked identity topic policyId deployment.contracts
  wired : deployment.contracts.Wired deployment.chain.treasury.ELIGIBILITY_GATE
    deployment.chain.treasury.IDENTITY_RESOLVER deployment.chain.treasury.POLICY_ID policyId
  owner : ∃ wallet ∈ deployment.chain.treasury.owners, deployment.contracts.stack.Person wallet identity
  agent : deployment.chain.treasury.isOwner (house.world.actorAddress .concierge) = false

variable {deployment : HouseDeployment Hash house}

/-- Nobody is the agent of such a house. -/
theorem OwnerRevoked.not_inGoodStanding (lost : OwnerRevoked identity topic policyId deployment) (wallet : Address) :
    ¬ deployment.chain.treasury.InGoodStanding deployment.chain.env wallet := by
  intro standing
  obtain ⟨owner, listed, person⟩ := lost.owner
  have eligible := standing.owners owner listed
  rw [HouseTreasury.Eligible, deployment.env, World.treasury_passes lost.wired] at eligible
  obtain ⟨reason, accepted⟩ := eligible
  rw [World.answer, person.resolves] at accepted
  exact lost.revoked.latched.not_eligible lost.revoked.required reason accepted

theorem OwnerRevoked.not_mandated (lost : OwnerRevoked identity topic policyId deployment) (amountWei : ℤ) :
    ¬ Mandated house amountWei deployment.chain := by
  rintro (⟨owner, -⟩ | ⟨standing, -⟩)
  · rw [lost.agent] at owner
    cases owner
  · exact lost.not_inGoodStanding _ standing

/-- The transactions of a transition leave the revocation to its administrators. -/
def LeavesRevoked (identity : Address) (topic policyId : Uint256)
    (entry : HouseEntryOver (HouseDeployment Hash house)) : Prop :=
  ∃ inputs, Along World.step (World.Undisturbed identity topic policyId) entry.before.store.contracts inputs ∧
    entry.after.store.contracts = exec World.step entry.before.store.contracts inputs

/-- **Step lemma.** What is served leaves the owner revoked, if no administrator lets him
through. -/
theorem OwnerRevoked.step (lost : OwnerRevoked identity topic policyId deployment) {next : HouseDeployment Hash house}
    {inputs : List World.Input}
    (undisturbed : Along World.step (World.Undisturbed identity topic policyId) deployment.contracts inputs)
    (same : next.contracts = exec World.step deployment.contracts inputs) :
    OwnerRevoked identity topic policyId next := by
  obtain ⟨wallet, listed, person⟩ := lost.owner
  obtain ⟨valid, person⟩ := exec_person lost.valid person inputs
  obtain ⟨scrip, there⟩ := deployment.treasury
  obtain ⟨scrip', there'⟩ := next.treasury
  obtain ⟨treasury, scrip'', after, kept⟩ := exec_sameHouse there inputs
  rw [← same, there', Option.some.injEq, Surface.treasury.injEq] at after
  obtain ⟨rfl, -⟩ := after
  obtain ⟨gate, factory⟩ := World.exec_addresses deployment.contracts inputs
  constructor
  · rw [same]
    exact valid
  · rw [same]
    exact (lost.revoked.exec lost.valid undisturbed).2
  · rw [same, kept.gate, kept.resolver, kept.policy]
    exact ⟨lost.wired.1.trans gate.symm, lost.wired.2.1.trans factory.symm, lost.wired.2.2⟩
  · rw [same]
    exact ⟨wallet, kept.owners ▸ listed, person⟩
  · rw [kept.isOwner]
    exact lost.agent

variable [Crypto Bytes32] {vendor : Vendor} {start middle last : HousePoolOver (HouseDeployment Hash house)}
  {earlier later : List (HouseEntryOver (HouseDeployment Hash house))}

/-- **Run lemma.** -/
theorem OwnerRevoked.run (trace : Trace (deployedSystem Hash house vendor).Atom middle later last)
    (lost : OwnerRevoked identity topic policyId middle.store)
    (left : ∀ entry ∈ later, LeavesRevoked identity topic policyId entry) :
    ∀ entry ∈ later, OwnerRevoked identity topic policyId entry.before.store := by
  have kept (before : HousePoolOver (HouseDeployment Hash house)) (event : Move HouseRequest HouseCall HouseAnswer)
      (after : HousePoolOver (HouseDeployment Hash house)) (lost : OwnerRevoked identity topic policyId before.store)
      (leaves : LeavesRevoked identity topic policyId ⟨before, event, after⟩)
      (_ : (deployedSystem Hash house vendor).Atom before event after) :
        OwnerRevoked identity topic policyId after.store := by
    obtain ⟨inputs, undisturbed, same⟩ := leaves
    exact lost.step undisturbed same
  exact (trace.preserves_along kept lost left).2

/-- The concierge asks the treasury with this call. -/
inductive AsksTreasury (house : House) : ContractCall → Prop where
  | swap {amountWei : ℤ} {function : ContractFunction}
      (encoded : swapOf house.client house.world amountWei = .ok function)
      (router : Address) : AsksTreasury house ⟨.concierge, router, function⟩
  | proposal (treasury recipient : Address) (amount : Uint256) (evidenceHash : Bytes32) :
      AsksTreasury house ⟨.concierge, treasury, .proposePayment recipient amount evidenceHash⟩

omit [Crypto Bytes32] in
theorem OwnerRevoked.not_accepts (lost : OwnerRevoked identity topic policyId deployment)
    (signed : EncodesInt256 house.client)
    {call : ContractCall} (asks : AsksTreasury house call) : ¬ deployment.chain.Accepts house call := by
  intro accepts
  cases asks with
  | swap encoded => exact lost.not_mandated _ (mandated_of_accepts signed encoded accepts)
  | proposal =>
    obtain ⟨⟨next, number⟩, proposed⟩ := accepts
    exact lost.not_inGoodStanding _ (HouseTreasury.proposePayment_changes proposed).standing

/-- What has succeeded in a block although the treasury was asked. -/
def Passed (house : House) (mined : Mined) : Prop :=
  mined.status = .success ∧ ∃ call, mined.call = some call ∧ AsksTreasury house call

/-- **Step lemma.** Nothing the treasury is asked about succeeds in a block. -/
theorem OwnerRevoked.serves_passed (lost : OwnerRevoked identity topic policyId deployment)
    (signed : EncodesInt256 house.client)
    {exchange : Program.Exchange HouseCall HouseAnswer} {next : HouseChain}
    (serves : deployment.chain.Serves house vendor exchange next) {mined : Mined} (there : mined ∈ next.mined)
    (passed : Passed house mined) : mined ∈ deployment.chain.mined := by
  cases serves with
  | goesOn moves =>
    cases moves with
    | changes => exact there
    | mines _ _ _ mines =>
      rcases List.mem_cons.mp there with rfl | earlier
      · obtain ⟨succeeded, call, own, asks⟩ := passed
        cases own
        cases mines with
        | reverts => cases succeeded
        | succeeds accepts => exact absurd accepts (lost.not_accepts signed asks)
      · exact earlier
    | strangers =>
      rcases List.mem_cons.mp there with rfl | earlier
      · obtain ⟨-, call, own, -⟩ := passed
        cases own
      · exact earlier
  | numbered | fetched | decided | timed | unread | read | unsimulated | simulated | signed | unconfirmed | confirmed =>
    exact there

/-- **Run lemma.** -/
theorem OwnerRevoked.run_passed (trace : Trace (deployedSystem Hash house vendor).Atom middle later last)
    (signed : EncodesInt256 house.client)
    (stays : ∀ entry ∈ later, OwnerRevoked identity topic policyId entry.before.store)
    {mined : Mined} (there : mined ∈ last.store.chain.mined) (passed : Passed house mined) :
    mined ∈ middle.store.chain.mined := by
  have kept (before : HousePoolOver (HouseDeployment Hash house)) (event : Move HouseRequest HouseCall HouseAnswer)
      (after : HousePoolOver (HouseDeployment Hash house))
      (held : ∀ mined ∈ before.store.chain.mined, Passed house mined → mined ∈ middle.store.chain.mined)
      (lost : OwnerRevoked identity topic policyId before.store)
      (atom : (deployedSystem Hash house vendor).Atom before event after) :
      ∀ mined ∈ after.store.chain.mined, Passed house mined → mined ∈ middle.store.chain.mined := by
    cases atom with
    | starts => exact held
    | serves _ served =>
      exact fun mined there passed => held mined (lost.serves_passed signed served.1 there passed) passed
    | stops => exact held
  exact (trace.preserves_along kept (fun mined there _ => there) stays).1 mined there passed

/-- **The latch.** Once an owner has lost a claim that the treasury requires, and while no
administrator lets him through, whatever is signed belongs to a ticket that was past a
simulation by then; a ticket that came later spends nothing, whatever is decided; and
of what was signed, nothing the treasury is asked about succeeds any more. -/
theorem latch_halts_the_concierge (documented : house.client.Documented) (signed : EncodesInt256 house.client)
    (first : Trace (deployedSystem Hash house vendor).Atom start earlier middle)
    (rest : Trace (deployedSystem Hash house vendor).Atom middle later last) (idle : start.tasks = [])
    (once : (startedIn (earlier ++ later)).Nodup) (lost : OwnerRevoked identity topic policyId middle.store)
    (left : ∀ entry ∈ later, LeavesRevoked identity topic policyId entry) :
    (∀ entry ∈ later, ∀ label call sent, Signs label call sent entry →
      ∃ seen ∈ earlier, ∃ gated, Simulates label gated seen) ∧
    (∀ label ∉ startedIn earlier, ∀ reply,
      (label.program house).Returns (answeredTo label later) (some reply) → Unspent reply) ∧
    ∀ mined ∈ last.store.chain.mined, Passed house mined → mined ∈ middle.store.chain.mined := by
  have stays := OwnerRevoked.run rest lost left
  have past (entry) (member : entry ∈ later) (label) (call) (sent) (signs : Signs label call sent entry) :
      ∃ seen ∈ earlier, ∃ gated, Simulates label gated seen := by
    obtain ⟨between, after, rfl⟩ := List.append_of_mem member
    have whole := (deployedSystem_refines vendor).run (first.append rest)
    rw [← List.append_assoc, List.map_append, List.map_cons] at whole
    have started : startedIn ((earlier ++ between).map (entrySeen HouseDeployment.chain) ++
        entrySeen HouseDeployment.chain entry :: after.map (entrySeen HouseDeployment.chain)) =
          startedIn (earlier ++ (between ++ entry :: after)) := by
      rw [← List.map_cons, ← List.map_append, startedIn_seen, List.append_assoc]
    rw [← started] at once
    obtain ⟨arrival, input, id, ran, rfl, answered, warranted⟩ :=
      warranted_of_signs documented whole idle once signs
    obtain ⟨gated, simulated, asked⟩ := warranted.gated signed
    obtain ⟨before, upto, -⟩ := whole.split
    obtain ⟨seen, there, simulates, accepts⟩ := accepts_of_simulated upto answered simulated
    obtain ⟨own, inside, rfl⟩ := List.mem_map.mp there
    rcases List.mem_append.mp inside with early | late
    · exact ⟨own, early, gated, simulates⟩
    · have standing := stays own (List.mem_append_left _ late)
      rcases asked _ accepts with ⟨amountWei, mandated⟩ | good
      · exact absurd mandated (standing.not_mandated amountWei)
      · exact absurd good (standing.not_inGoodStanding _)
  refine ⟨past, fun label absent reply returns => ?_, fun mined there passed =>
    OwnerRevoked.run_passed rest signed stays there passed⟩
  have unanswered := Machine.unanswered first idle absent
  cases label with
  | block number =>
    rcases Program.reaches_call.mp returns with ⟨-, same⟩ | ⟨answer, rest, -, ended⟩
    · cases same
    · cases (Program.reaches_done.mp ended).2
  | ticket arrival input =>
    obtain ⟨id, ran, reply', answered, same, returned⟩ := ticket_returns returns
    cases same
    refine doTicket_unspent returned (List.eq_nil_iff_forall_not_mem.mpr ?_)
    rintro ⟨call, sent⟩ member
    obtain ⟨entry, inside, signs⟩ := signs_of_mem_sentIn answered member
    obtain ⟨seen, early, gated, result, event⟩ := past entry inside _ _ _ signs
    have answered' := mem_answeredTo.mpr ⟨seen, early, event⟩
    rw [unanswered] at answered'
    cases answered'

end Revocation

/-- The person's treasury, with the concierge's mandate. -/
def latchedTreasury : HouseTreasury := { World.dealTreasury with mandate := ⟨4, cap, 0, false⟩ }

/-- The treasury, on a deployment. -/
def withTreasury (w : World Symbolic) : World Symbolic :=
  w.setSurface demoWorld.treasury (.treasury latchedTreasury (HouseToken.deploy .standard demoWorld.treasury))

theorem withTreasury_surfaces (w : World Symbolic) :
    ∃ scrip, (withTreasury w).surfaces demoWorld.treasury = some (.treasury latchedTreasury scrip) :=
  ⟨HouseToken.deploy .standard demoWorld.treasury, Function.update_self demoWorld.treasury _ w.surfaces⟩

def housedOn (w : World Symbolic) : HouseDeployment Symbolic demoHouse where
  contracts := withTreasury w
  chain := ⟨latchedTreasury, (withTreasury w).env, [], []⟩
  env := rfl
  treasury := withTreasury_surfaces w

theorem housedOn_ownerRevoked {w : World Symbolic} {identity : Address} {topic : Uint256} (valid : w.stack.Valid)
    (revoked : World.Revoked identity topic 1 w) (wired : w.Wired 2 3 1 1) (person : w.stack.Person 11 identity) :
    OwnerRevoked identity topic 1 (housedOn w) :=
  ⟨valid, ⟨revoked.required, revoked.latched, revoked.minted⟩, wired,
    ⟨11, List.mem_singleton_self _, person⟩, rfl⟩

/-- The person is revoked. -/
def latchedHouse : HouseDeployment Symbolic demoHouse := housedOn (exec World.step World.dealRoom World.revocation)

theorem revocation_person : (exec World.step World.dealRoom World.revocation).stack.factory.isAgent 11 = false ∧
    (exec World.step World.dealRoom World.revocation).stack.factory.identityOfWallet 11 = 30 := by
  decide +kernel

theorem latched_ownerRevoked : OwnerRevoked 30 ClaimTopics.KYC_VERIFIED 1 latchedHouse := by
  have reachable : World.Reachable (exec World.step World.dealRoom World.revocation) :=
    ⟨_, _, World.dealRoom_genesis, rfl⟩
  obtain ⟨-, minted, required⟩ := World.revocation_facts
  obtain ⟨gate, factory⟩ := World.exec_addresses World.dealRoom World.revocation
  obtain ⟨notAgent, resolves⟩ := revocation_person
  exact housedOn_ownerRevoked reachable.stack.valid ⟨required, World.revocation_latched, minted⟩
    ⟨gate.symm, factory.symm, rfl⟩ ⟨notAgent, resolves, by decide⟩

/-- A revert that says nothing. -/
def bareRevert : Thrown := ⟨none, text "execution reverted", []⟩

/-- What the treasury answers about the concierge. -/
theorem latched_standing :
    latchedTreasury.isAgentInGoodStanding latchedHouse.chain.env (demoWorld.actorAddress .concierge) =
      .ok (false, HouseTreasury.OWNER_NOT_COMPLIANT) := by
  decide +kernel

def latchedTrace : DemoChain.Trace := leakConsulted ++ [
  ⟨.simulateContract swapCall, .error bareRevert⟩,
  ⟨.readContract (.isAgentInGoodStanding (demoWorld.actorAddress .concierge)),
    .ok (false, HouseTreasury.OWNER_NOT_COMPLIANT)⟩]

theorem bareRevert_refused : ∃ refusal, (refusalWithStanding Library.client demoWorld bareRevert).Returns
    [⟨.readContract (.isAgentInGoodStanding (demoWorld.actorAddress .concierge)),
      .ok (false, HouseTreasury.OWNER_NOT_COMPLIANT)⟩]
    refusal ∧ refusal.reason = text "OWNER_NOT_COMPLIANT" :=
  ⟨_, .call (.refl _), rfl⟩

/-- A ticket that is refused when it is simulated is not paid. -/
theorem latched_returns [Crypto Bytes32] :
    ∃ reply, (doTicket Library.client demoWorld firstId leak).Returns latchedTrace reply := by
  obtain ⟨record, made, -⟩ := leak_recorded
  obtain ⟨refusal, refused, -⟩ := bareRevert_refused
  have swapped : (swapForInvoice Library.client demoWorld leakTicket.amount).Throws
      [⟨.simulateContract swapCall, .error bareRevert⟩] bareRevert := by
    rw [swapForInvoice, leak_swap_encoded]
    exact .call (.refl _)
  have tried : (payTicket Library.client demoWorld record leakTicket.amount leak.vendorUrl).Returns _
      (refuse record refusal) :=
    Program.returns_bind.mpr ⟨_, _, _, rfl,
      Program.returns_attempt.mpr (.inr ⟨_, _, _, _, rfl, swapped, refused, rfl⟩), .refl _⟩
  refine ⟨refuse record refusal, Program.returns_bind.mpr ⟨leakConsulted, _, _, rfl, consult_leak, ?_⟩⟩
  apply Program.returns_ofExcept_bind.mpr
  refine ⟨record, made, ?_⟩
  rw [if_pos (show payIt.action = text "pay" from rfl)]
  exact tried

section Still
variable {Hash : Type} [Crypto Hash] [DecidableEq Hash] [Crypto Bytes32] {house : House}

/-- The house while nothing else moves. -/
def stillSystem (deployment : HouseDeployment Hash house) (vendor : Vendor) :
    Machine Unit HouseRequest HouseCall HouseAnswer Thrown (Option Reply) where
  Starts := fun _ _ => True
  body := HouseRequest.program house
  Serves := fun _ _ exchange _ => deployment.chain.Serves house vendor exchange deployment.chain

theorem stillSystem_refines (deployment : HouseDeployment Hash house) (vendor : Vendor) :
    (stillSystem deployment vendor).Refines (fun _ => deployment) (deployedSystem Hash house vendor) where
  body := rfl
  starts _ _ _ := trivial
  serves _ _ _ _ served := ⟨served, [], rfl⟩

omit [DecidableEq Hash] in
theorem stillSystem_plays {deployment : HouseDeployment Hash house} {vendor : Vendor} {label : HouseRequest}
    {exchange : Program.Exchange HouseCall HouseAnswer} {exchanges : List (Program.Exchange HouseCall HouseAnswer)}
    (served : deployment.chain.Serves house vendor exchange deployment.chain)
    (rest : (stillSystem deployment vendor).Plays label () exchanges [] ()) :
    (stillSystem deployment vendor).Plays label () (exchange :: exchanges) [] () := .serves served rest

end Still

theorem latched_plays [Crypto Bytes32] : (stillSystem latchedHouse anyVendor).Plays firstLeak.request ()
    (⟨.nextTicketId, firstId⟩ :: latchedTrace.map ofDemo) [] () := by
  have capped : latchedHouse.chain.Serves demoHouse anyVendor
      ⟨.demo (.readContract .agentPerTxCap), .ok cap⟩ latchedHouse.chain :=
    @HouseChain.Serves.read _ _ _ _ .agentPerTxCap _ rfl
  have standing : latchedHouse.chain.Serves demoHouse anyVendor
      ⟨.demo (.readContract (.isAgentInGoodStanding (demoWorld.actorAddress .concierge))),
        .ok (false, HouseTreasury.OWNER_NOT_COMPLIANT)⟩ latchedHouse.chain :=
    @HouseChain.Serves.read _ _ _ _ (.isAgentInGoodStanding (demoWorld.actorAddress .concierge)) _ latched_standing
  exact stillSystem_plays (.numbered _) (stillSystem_plays (.read trivial) (stillSystem_plays capped
    (stillSystem_plays (.decided _ _ _ _)
      (stillSystem_plays (.unsimulated _ _) (stillSystem_plays standing (.nil _))))))

theorem latched_run [Crypto Bytes32] : ∃ log last reply,
    Runs.Trace (stillSystem latchedHouse anyVendor).Atom ⟨(), []⟩ log last ∧
      startedIn log = [firstLeak.request] ∧
      (firstLeak.request.program demoHouse).Returns (answeredTo firstLeak.request log) (some reply) := by
  obtain ⟨reply, returns⟩ := latched_returns
  have filed : (firstLeak.request.program demoHouse).Returns _ (some reply) := files_ticket ⟨_, rfl⟩ returns
  obtain ⟨log, trace, started, answered⟩ := latched_plays.run filed
  have starts : (stillSystem latchedHouse anyVendor).Atom ⟨(), []⟩ (.starts firstLeak.request) ⟨(), _⟩ :=
    .starts trivial
  exact ⟨_, _, reply, .cons starts trace, congrArg (List.cons firstLeak.request) started, answered.symm ▸ filed⟩

/-- The next leak after a revocation is refused. -/
theorem latch_halts_the_concierge_leak : ∃ log last reply,
    Runs.Trace (@deployedSystem demoHashes Symbolic _ _ demoHouse anyVendor).Atom ⟨latchedHouse, []⟩ log last ∧
      (@HouseRequest.program demoHashes demoHouse firstLeak.request).Returns (answeredTo firstLeak.request log)
        (some reply) ∧
      Unspent reply := by
  let crypto : Crypto Bytes32 := demoHashes
  obtain ⟨log, last, reply, trace, started, returns⟩ := latched_run
  have still := (stillSystem_refines latchedHouse anyVendor).run trace
  have left (entry) (member : entry ∈ log.map (entrySeen fun _ => latchedHouse)) :
      LeavesRevoked 30 ClaimTopics.KYC_VERIFIED 1 entry := by
    obtain ⟨own, -, rfl⟩ := List.mem_map.mp member
    exact ⟨[], trivial, rfl⟩
  have once : (startedIn (log.map (entrySeen fun _ => latchedHouse))).Nodup := by
    rw [startedIn_seen, started]
    exact List.nodup_singleton _
  have same : answeredTo firstLeak.request (log.map (entrySeen fun _ => latchedHouse)) =
      answeredTo firstLeak.request log :=
    answeredTo_seen firstLeak.request
  rw [← same] at returns
  obtain ⟨-, unspent, -⟩ := latch_halts_the_concierge Library.documented encodesInt256_library
    (.nil _) still rfl once latched_ownerRevoked left
  exact ⟨_, _, reply, still, returns, unspent firstLeak.request List.not_mem_nil reply returns⟩

end PassportKit.HouseSystem
