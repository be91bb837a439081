import PassportKit.MandateHook
import PassportKit.Surfaces

/-! The budget pool and the mandate. A swap is one ordered list of requirements
on its actor, which a compliant owner is excused from; the hook is compared with
that list over every state of the treasury, every clock and every signed amount. -/
namespace PassportKit
open Evm OpenZeppelin

/-- The code of the first requirement of a list that does not hold. -/
inductive FirstFailing : List (Bytes32 × Prop) → Bytes32 → Prop where
  | here {reason : Bytes32} {requirement : Prop} {rest : List (Bytes32 × Prop)}
      (fails : ¬ requirement) : FirstFailing ((reason, requirement) :: rest) reason
  | later {reason code : Bytes32} {requirement : Prop} {rest : List (Bytes32 × Prop)}
      (holds : requirement) (failing : FirstFailing rest reason) :
      FirstFailing ((code, requirement) :: rest) reason

/-- Which requirement fails first is a matter of the list alone. -/
theorem FirstFailing.unique {requirements : List (Bytes32 × Prop)} {first second : Bytes32}
    (failing : FirstFailing requirements first) (other : FirstFailing requirements second) :
    first = second := by
  induction failing with
  | here fails =>
    cases other with
    | here => rfl
    | later holds => exact absurd holds fails
  | later holds _ ih =>
    cases other with
    | here fails => exact absurd holds fails
    | later _ rest => exact ih rest

theorem FirstFailing.not_all {requirements : List (Bytes32 × Prop)} {reason : Bytes32}
    (failing : FirstFailing requirements reason) : ¬ ∀ entry ∈ requirements, entry.2 := by
  induction failing with
  | here fails => exact fun every => fails (every _ List.mem_cons_self)
  | later _ _ ih => exact fun every => ih fun entry member => every entry (List.mem_cons_of_mem _ member)

theorem FirstFailing.append {requirements : List (Bytes32 × Prop)} {reason : Bytes32}
    (failing : FirstFailing requirements reason) (more : List (Bytes32 × Prop)) :
    FirstFailing (requirements ++ more) reason := by
  induction failing with
  | here fails => exact .here fails
  | later holds _ ih => exact .later holds ih

theorem FirstFailing.after {requirements more : List (Bytes32 × Prop)} {reason : Bytes32}
    (every : ∀ entry ∈ requirements, entry.2) (failing : FirstFailing more reason) :
    FirstFailing (requirements ++ more) reason := by
  induction requirements with
  | nil => exact failing
  | cons entry rest ih =>
    exact .later (every entry List.mem_cons_self)
      (ih fun other member => every other (List.mem_cons_of_mem _ member))

namespace HouseTreasury

variable {treasury : HouseTreasury} {env : Env} {wallet : Address}

/-- An owner the gate accepts now. -/
def CompliantOwner (treasury : HouseTreasury) (env : Env) (wallet : Address) : Prop :=
  treasury.isOwner wallet = true ∧ treasury.Eligible env wallet

/-- What standing asks of a wallet, in order. -/
def standingRequirements (treasury : HouseTreasury) (env : Env) (wallet : Address) :
    List (Bytes32 × Prop) :=
  [(NO_MANDATE, treasury.mandate.agent ≠ 0 ∧ wallet = treasury.mandate.agent),
    (MANDATE_REVOKED, treasury.mandate.revoked = false),
    (MANDATE_EXPIRED, treasury.mandate.expiresAt = 0 ∨
      env.block.timestamp ≤ treasury.mandate.expiresAt.toNat),
    (OWNER_NOT_COMPLIANT, ∀ owner ∈ treasury.owners, treasury.Eligible env owner)]

/-- What a swap asks of an actor that is not a compliant owner: standing, then
an amount within the cap. -/
def swapRequirements (treasury : HouseTreasury) (env : Env) (wallet : Address)
    (amountSpecified : Int256) : List (Bytes32 × Prop) :=
  treasury.standingRequirements env wallet ++
    [(MandateHook.OVER_PER_TX_CAP, amountSpecified.toInt.natAbs ≤ treasury.mandate.perTxCap.toNat)]

theorem inGoodStanding_iff :
    treasury.InGoodStanding env wallet ↔
      ∀ entry ∈ treasury.standingRequirements env wallet, entry.2 := by
  constructor
  · rintro ⟨mandated, real, unrevoked, unexpired, owners⟩
    simp only [standingRequirements, List.forall_mem_cons, List.not_mem_nil, false_imp_iff,
      implies_true, and_true]
    exact ⟨⟨mandated ▸ real, mandated.symm⟩, unrevoked, unexpired, owners⟩
  · intro every
    simp only [standingRequirements, List.forall_mem_cons, List.not_mem_nil, false_imp_iff,
      implies_true, and_true] at every
    obtain ⟨⟨real, same⟩, unrevoked, unexpired, owners⟩ := every
    exact ⟨same.symm, same ▸ real, unrevoked, unexpired, owners⟩

theorem isCompliantOwner_answers {ok : Bool} (answered : treasury.isCompliantOwner env wallet = .ok ok) :
    ok = true ↔ treasury.CompliantOwner env wallet := by
  unfold isCompliantOwner at answered
  split at answered
  · rename_i owner
    simp only [CompliantOwner, owner, Eligible, answered, Except.ok.injEq, true_and]
  · rename_i stranger
    cases answered
    simp [CompliantOwner, stranger]

theorem checkOwners_eq_false {owners : List Address} {reason : Bytes32}
    (failed : treasury.checkOwners env owners = .ok (false, reason)) :
    reason = OWNER_NOT_COMPLIANT ∧ ¬ ∀ owner ∈ owners, treasury.Eligible env owner := by
  induction owners with
  | nil => simp [checkOwners] at failed
  | cons owner rest ih =>
    obtain ⟨ok, asked, continued⟩ := bind_eq_ok.mp failed
    cases ok with
    | false =>
      simp only [↓reduceIte, pure_outcome, Except.ok.injEq, Prod.mk.injEq, true_and] at continued
      refine ⟨continued.symm, fun every => ?_⟩
      have accepted := every owner List.mem_cons_self
      rw [Eligible, asked] at accepted
      cases accepted
    | true =>
      obtain ⟨code, refused⟩ := ih continued
      exact ⟨code, fun every => refused fun other member => every other (List.mem_cons_of_mem _ member)⟩

/-- A wallet refused by the standing view is refused for the first requirement
it misses. -/
theorem isAgentInGoodStanding_eq_false {reason : Bytes32}
    (refused : treasury.isAgentInGoodStanding env wallet = .ok (false, reason)) :
    FirstFailing (treasury.standingRequirements env wallet) reason := by
  unfold isAgentInGoodStanding at refused
  split at refused
  · rename_i unmandated
    cases refused
    refine .here fun mandated => ?_
    exact unmandated.elim mandated.1 fun other => other mandated.2
  rename_i mandated
  obtain ⟨real, same⟩ := not_or.mp mandated
  refine .later ⟨real, not_not.mp same⟩ ?_
  split at refused
  · rename_i revoked
    cases refused
    exact .here (by simp [revoked])
  rename_i unrevoked
  refine .later (by simpa using unrevoked) ?_
  split at refused
  · rename_i expired
    cases refused
    refine .here fun alive => ?_
    exact alive.elim expired.1 (Nat.not_le.mpr expired.2)
  rename_i unexpired
  refine .later ?_ ?_
  · by_contra neither
    rw [not_or, not_le] at neither
    exact unexpired neither
  · obtain ⟨rfl, some⟩ := checkOwners_eq_false refused
    exact .here some

/-- The standing view fails only where a read of an owner's eligibility does. -/
theorem checkOwners_error {owners : List Address} {error : Revert Error}
    (failed : treasury.checkOwners env owners = .error error) :
    ∃ owner, treasury.isEligible env owner = .error error := by
  induction owners with
  | nil => simp [checkOwners] at failed
  | cons owner rest ih =>
    cases asked : treasury.isEligible env owner with
    | error raised =>
      simp only [checkOwners, asked, error_bind, Except.error.injEq] at failed
      exact ⟨owner, failed ▸ asked⟩
    | ok accepted =>
      cases accepted with
      | false => simp [checkOwners, asked] at failed
      | true =>
        simp only [checkOwners, asked, ok_bind, Bool.true_eq_false, ↓reduceIte] at failed
        exact ih failed

theorem isAgentInGoodStanding_error {error : Revert Error}
    (failed : treasury.isAgentInGoodStanding env wallet = .error error) :
    ∃ owner, treasury.isEligible env owner = .error error := by
  unfold isAgentInGoodStanding at failed
  split at failed
  · cases failed
  split at failed
  · cases failed
  split at failed
  · cases failed
  · exact checkOwners_error failed

theorem isCompliantOwner_error {error : Revert Error}
    (failed : treasury.isCompliantOwner env wallet = .error error) :
    ∃ owner, treasury.isEligible env owner = .error error := by
  unfold isCompliantOwner at failed
  split at failed
  · exact ⟨wallet, failed⟩
  · cases failed

/-- The treasury answers the hook about a wallet: whether it is a compliant
owner and, when it is not, its standing. -/
def Answers (treasury : HouseTreasury) (env : Env) (wallet : Address) : Prop :=
  (∃ ok, treasury.isCompliantOwner env wallet = .ok ok) ∧
    (treasury.isCompliantOwner env wallet = .ok false →
      ∃ standing, treasury.isAgentInGoodStanding env wallet = .ok standing)

end HouseTreasury

namespace MandateHook
open HouseTreasury
open ComplianceHook (beforeSwapSelector)

variable {hook : MandateHook} {treasuryAt : Address → IHouseTreasuryStanding} {treasury : HouseTreasury}
  {env : Env} {sender wallet : Address} {amountSpecified : Int256} {hookData : Bytes}

/-- The mandate gate on swaps: compliant owners, and the agent in good standing
up to its cap; everybody else is told the first requirement missed. -/
structure IsMandateGate (hook : MandateHook) (treasuryAt : Address → IHouseTreasuryStanding)
    (treasury : HouseTreasury) (env : Env) (sender : Address) (amountSpecified : Int256)
    (hookData : Bytes) (wallet : Address) : Prop where
  accepts : (∃ result, hook._beforeSwap treasuryAt sender amountSpecified hookData = .ok result) ↔
    treasury.CompliantOwner env wallet ∨ treasury.InGoodStanding env wallet ∧
      amountSpecified.toInt.natAbs ≤ treasury.mandate.perTxCap.toNat
  refuses : ¬ (treasury.CompliantOwner env wallet ∨ treasury.InGoodStanding env wallet ∧
      amountSpecified.toInt.natAbs ≤ treasury.mandate.perTxCap.toNat) →
    ∃ reason, FirstFailing (treasury.swapRequirements env wallet amountSpecified) reason ∧
      hook._beforeSwap treasuryAt sender amountSpecified hookData =
        .error (.custom (.NotAuthorized wallet reason))

/-- The one amount the hook cannot judge: the least `int256`, brought by an
agent in good standing that no compliant owner's excuse covers. -/
def Unnegatable (treasury : HouseTreasury) (env : Env) (wallet : Address) (amountSpecified : Int256) :
    Prop :=
  amountSpecified = BitVec.intMin 256 ∧ ¬ treasury.CompliantOwner env wallet ∧
    treasury.InGoodStanding env wallet

/-! ## The swap, case by case -/

theorem beforeSwap_of_owner (resolves : actor sender hookData = .ok wallet)
    (installed : treasuryAt hook.TREASURY = treasury.standing env)
    (owner : treasury.isCompliantOwner env wallet = .ok true) :
    hook._beforeSwap treasuryAt sender amountSpecified hookData = .ok (beforeSwapSelector, 0, 0) := by
  simp [_beforeSwap, resolves, installed, standing, owner, checkIf]

/-- Anybody else goes through the agent's checks. -/
theorem beforeSwap_of_other (resolves : actor sender hookData = .ok wallet)
    (installed : treasuryAt hook.TREASURY = treasury.standing env)
    (other : treasury.isCompliantOwner env wallet = .ok false) :
    hook._beforeSwap treasuryAt sender amountSpecified hookData = (do
      requireAgent (treasury.standing env) wallet amountSpecified
      return (beforeSwapSelector, 0, 0)) := by
  simp [_beforeSwap, resolves, installed, standing, other, checkIf]

theorem requireAgent_of_refused {reason : Bytes32}
    (refused : treasury.isAgentInGoodStanding env wallet = .ok (false, reason)) :
    requireAgent (treasury.standing env) wallet amountSpecified =
      .error (.custom (.NotAuthorized wallet reason)) := by
  simp [requireAgent, standing, refused, revertIf]

/-- An agent in good standing is held to its cap, but for the amount that has no
magnitude. -/
theorem requireAgent_of_standing {reason : Bytes32}
    (accepted : treasury.isAgentInGoodStanding env wallet = .ok (true, reason))
    (regular : amountSpecified ≠ BitVec.intMin 256) :
    requireAgent (treasury.standing env) wallet amountSpecified =
      if amountSpecified.toInt.natAbs ≤ treasury.mandate.perTxCap.toNat then .ok ()
      else .error (.custom (.NotAuthorized wallet OVER_PER_TX_CAP)) := by
  obtain ⟨amount, computed, absolute⟩ := magnitude_of_ne_intMin regular
  simp only [requireAgent, standing, accepted, ok_bind, Bool.true_eq_false, revertIf, ↓reduceIte,
    computed, agentPerTxCap, absolute]
  by_cases within : amountSpecified.toInt.natAbs ≤ treasury.mandate.perTxCap.toNat
  · rw [if_neg (by omega), if_pos within]
  · rw [if_pos (by omega), if_neg within]

theorem requireAgent_of_intMin {reason : Bytes32}
    (accepted : treasury.isAgentInGoodStanding env wallet = .ok (true, reason)) :
    requireAgent (treasury.standing env) wallet (BitVec.intMin 256) = .error (.panic 0x11) := by
  simp [requireAgent, standing, accepted, revertIf, magnitude_intMin]

/-- Where the treasury answers and the amount can be negated the hook is the gate. -/
theorem isMandateGate_of_answers (resolves : actor sender hookData = .ok wallet)
    (installed : treasuryAt hook.TREASURY = treasury.standing env)
    (answers : treasury.Answers env wallet)
    (regular : ¬ Unnegatable treasury env wallet amountSpecified) :
    IsMandateGate hook treasuryAt treasury env sender amountSpecified hookData wallet := by
  obtain ⟨⟨compliant, asked⟩, standing⟩ := answers
  cases compliant with
  | true =>
    have owner := (isCompliantOwner_answers asked).mp rfl
    have accepted := @beforeSwap_of_owner hook treasuryAt treasury env sender wallet amountSpecified
      hookData resolves installed asked
    exact ⟨⟨fun _ => .inl owner, fun _ => ⟨_, accepted⟩⟩, fun none => absurd (.inl owner) none⟩
  | false =>
    have other : ¬ treasury.CompliantOwner env wallet := fun owner =>
      Bool.false_ne_true ((isCompliantOwner_answers asked).mpr owner)
    have agent := @beforeSwap_of_other hook treasuryAt treasury env sender wallet amountSpecified
      hookData resolves installed asked
    obtain ⟨⟨ok, reason⟩, answered⟩ := standing asked
    cases ok with
    | false =>
      have failing := isAgentInGoodStanding_eq_false answered
      have fallen : ¬ treasury.InGoodStanding env wallet := fun good =>
        failing.not_all (inGoodStanding_iff.mp good)
      rw [requireAgent_of_refused answered, error_bind] at agent
      refine ⟨⟨?_, ?_⟩, fun _ => ⟨reason, failing.append _, agent⟩⟩
      · rintro ⟨result, passed⟩
        rw [agent] at passed
        cases passed
      · rintro (owner | ⟨good, -⟩)
        · exact absurd owner other
        · exact absurd good fallen
    | true =>
      have good := isAgentInGoodStanding_eq_true answered
      have ordinary : amountSpecified ≠ BitVec.intMin 256 := fun least =>
        regular ⟨least, other, good⟩
      rw [requireAgent_of_standing answered ordinary] at agent
      by_cases within : amountSpecified.toInt.natAbs ≤ treasury.mandate.perTxCap.toNat
      · rw [if_pos within, ok_bind] at agent
        exact ⟨⟨fun _ => .inr ⟨good, within⟩, fun _ => ⟨_, agent⟩⟩,
          fun none => absurd (.inr ⟨good, within⟩) none⟩
      · rw [if_neg within, error_bind] at agent
        refine ⟨⟨?_, ?_⟩, fun _ => ⟨OVER_PER_TX_CAP, ?_, agent⟩⟩
        · rintro ⟨result, passed⟩
          rw [agent] at passed
          cases passed
        · rintro (owner | ⟨-, small⟩)
          · exact absurd owner other
          · exact absurd small within
        · exact .after (inGoodStanding_iff.mp good) (.here within)

/-- A gate reverts with its own error only. -/
theorem IsMandateGate.error_named {error : Revert Error}
    (gate : IsMandateGate hook treasuryAt treasury env sender amountSpecified hookData wallet)
    (failed : hook._beforeSwap treasuryAt sender amountSpecified hookData = .error error) :
    ∃ reason, error = .custom (.NotAuthorized wallet reason) := by
  by_cases permitted : treasury.CompliantOwner env wallet ∨ treasury.InGoodStanding env wallet ∧
      amountSpecified.toInt.natAbs ≤ treasury.mandate.perTxCap.toNat
  · obtain ⟨result, passed⟩ := gate.accepts.mpr permitted
    rw [failed] at passed
    cases passed
  · obtain ⟨reason, -, refused⟩ := gate.refuses permitted
    rw [failed] at refused
    exact ⟨reason, Except.error.inj refused⟩

/-- A gate has an answering treasury behind it and an amount it can negate. -/
theorem answers_of_isMandateGate (resolves : actor sender hookData = .ok wallet)
    (installed : treasuryAt hook.TREASURY = treasury.standing env)
    (failures : ∀ account error, treasury.isEligible env account = .error error →
      ∀ reason, error ≠ .custom (.NotAuthorized wallet reason))
    (gate : IsMandateGate hook treasuryAt treasury env sender amountSpecified hookData wallet) :
    treasury.Answers env wallet ∧ ¬ Unnegatable treasury env wallet amountSpecified := by
  have unfailing : ∀ error, hook._beforeSwap treasuryAt sender amountSpecified hookData = .error error →
      ∀ owner, treasury.isEligible env owner ≠ .error error := by
    intro error failed owner read
    obtain ⟨reason, named⟩ := gate.error_named failed
    exact failures owner error read reason named
  have answers : treasury.Answers env wallet := by
    constructor
    · cases asked : treasury.isCompliantOwner env wallet with
      | ok compliant => exact ⟨compliant, rfl⟩
      | error error =>
        obtain ⟨owner, read⟩ := isCompliantOwner_error asked
        refine absurd read (unfailing error ?_ owner)
        simp [_beforeSwap, resolves, installed, standing, asked]
    · intro other
      cases answered : treasury.isAgentInGoodStanding env wallet with
      | ok standing => exact ⟨standing, rfl⟩
      | error error =>
        obtain ⟨owner, read⟩ := isAgentInGoodStanding_error answered
        refine absurd read (unfailing error ?_ owner)
        rw [beforeSwap_of_other resolves installed other]
        simp [requireAgent, standing, answered]
  refine ⟨answers, ?_⟩
  rintro ⟨least, other, good⟩
  -- the agent passes every check on the way to the negation
  obtain ⟨⟨compliant, asked⟩, standing⟩ := answers
  cases compliant with
  | true => exact other ((isCompliantOwner_answers asked).mp rfl)
  | false =>
    obtain ⟨⟨ok, reason⟩, answered⟩ := standing asked
    cases ok with
    | false => exact (isAgentInGoodStanding_eq_false answered).not_all (inGoodStanding_iff.mp good)
    | true =>
      have panics := @beforeSwap_of_other hook treasuryAt treasury env sender wallet amountSpecified
        hookData resolves installed asked
      rw [least, requireAgent_of_intMin answered, error_bind, ← least] at panics
      obtain ⟨reason, named⟩ := gate.error_named panics
      cases named

/-- **The gate, exactly.** The hook accepts and refuses as the mandate says when
the treasury answers about the actor and the amount is not the least `int256`
brought by an agent in good standing; in every other state it does not. The
treasury's own reads never fail with the hook's error. -/
theorem swaps_follow_the_mandate_iff (resolves : actor sender hookData = .ok wallet)
    (installed : treasuryAt hook.TREASURY = treasury.standing env)
    (failures : ∀ account error, treasury.isEligible env account = .error error →
      ∀ reason, error ≠ .custom (.NotAuthorized wallet reason)) :
    IsMandateGate hook treasuryAt treasury env sender amountSpecified hookData wallet ↔
      treasury.Answers env wallet ∧ ¬ Unnegatable treasury env wallet amountSpecified := by
  constructor
  · exact answers_of_isMandateGate resolves installed failures
  · rintro ⟨answers, regular⟩
    exact isMandateGate_of_answers resolves installed answers regular

/-- A house of one owner, eligible at gate 3, whose agent 5 may spend anything. -/
def house : HouseTreasury where
  SPEND_TOKEN := 1
  ELIGIBILITY_GATE := 3
  IDENTITY_RESOLVER := 2
  POLICY_ID := 1
  HOUSE_TOKEN := 8
  owners := [4]
  isOwner account := account = 4
  APPROVAL_THRESHOLD := 1
  mandate := ⟨5, BitVec.allOnes 256, 0, false⟩
  nextPaymentId := 1
  payments := fun _ => PendingPayment.none
  approvedBy := fun _ _ => false

/-- Every wallet has an identity and every identity is eligible. -/
def welcoming : Env where
  block := ⟨1, 100⟩
  hasCode := fun _ => true
  gateAt := fun _ => ⟨fun _ _ => .ok (true, 0)⟩
  resolverAt := fun _ => ⟨fun wallet => .ok wallet⟩
  scoresAt := fun _ => ⟨fun _ => .ok 0⟩

theorem swaps_follow_the_mandate_iff_house :
    IsMandateGate ⟨7, 9⟩ (fun _ => house.standing welcoming) house welcoming 5 (-200) [] 5 ↔
      house.Answers welcoming 5 ∧ ¬ Unnegatable house welcoming 5 (-200) := by
  refine swaps_follow_the_mandate_iff rfl rfl ?_
  intro account error failed
  by_cases stranger : account = 0
  · subst stranger
    cases failed
  · simp [HouseTreasury.isEligible, welcoming, stranger] at failed

/-- The agent of a house without a practical cap sells the least `int256`: it is
in good standing and within its cap, and the hook panics. -/
theorem least_amount_panics :
    house.InGoodStanding welcoming 5 ∧
      (BitVec.intMin 256).toInt.natAbs ≤ house.mandate.perTxCap.toNat ∧
      _beforeSwap ⟨7, 9⟩ (fun _ => house.standing welcoming) 5 (BitVec.intMin 256) [] =
        .error (.panic 0x11) ∧
      ¬ IsMandateGate ⟨7, 9⟩ (fun _ => house.standing welcoming) house welcoming 5
        (BitVec.intMin 256) [] 5 := by
  have good : house.InGoodStanding welcoming 5 :=
    ⟨rfl, by decide, rfl, .inl rfl, fun owner member => by
      obtain rfl := List.mem_singleton.mp member
      rfl⟩
  have panics : _beforeSwap ⟨7, 9⟩ (fun _ => house.standing welcoming) 5 (BitVec.intMin 256) [] =
      .error (.panic 0x11) := by
    rw [@beforeSwap_of_other _ _ house welcoming 5 5 _ [] rfl rfl rfl]
    rw [@requireAgent_of_intMin house welcoming 5 0 rfl]
    rfl
  refine ⟨good, by decide +kernel, panics, fun gate => ?_⟩
  obtain ⟨reason, named⟩ := gate.error_named panics
  cases named

end MandateHook

namespace World
open Eip712

variable {Hash : Type} [Crypto Hash] [DecidableEq Hash] {w : World Hash} {treasury : HouseTreasury}
  {policyId : Uint256}

/-- In a reachable deployment a treasury's reads fail in the gate's decoder only. -/
theorem treasury_fails_undecodable (reachable : Reachable w)
    (wired : w.Wired treasury.ELIGIBILITY_GATE treasury.IDENTITY_RESOLVER treasury.POLICY_ID policyId)
    {wallet : Address} {error : Revert Error}
    (failed : treasury.isEligible w.env wallet = .error error) : error = .undecodable := by
  rw [treasury_asks wired] at failed
  cases answered : w.answer wallet policyId with
  | ok pair => simp [answered] at failed
  | error raised =>
    simp only [answered, error_bind, Except.error.injEq] at failed
    exact failed ▸ answer_error reachable answered

/-- The gate over a reachable deployment: nothing is assumed of the reads. -/
theorem isMandateGate_iff (reachable : Reachable w)
    (wired : w.Wired treasury.ELIGIBILITY_GATE treasury.IDENTITY_RESOLVER treasury.POLICY_ID policyId)
    {hook : MandateHook} {treasuryAt : Address → IHouseTreasuryStanding} {sender wallet : Address}
    {amountSpecified : Int256} {hookData : Bytes}
    (resolves : MandateHook.actor sender hookData = .ok wallet)
    (installed : treasuryAt hook.TREASURY = treasury.standing w.env) :
    MandateHook.IsMandateGate hook treasuryAt treasury w.env sender amountSpecified hookData wallet ↔
      treasury.Answers w.env wallet ∧
        ¬ MandateHook.Unnegatable treasury w.env wallet amountSpecified := by
  constructor
  · refine MandateHook.answers_of_isMandateGate resolves installed fun account error failed => ?_
    obtain rfl := treasury_fails_undecodable reachable wired failed
    exact fun _ => nofun
  · rintro ⟨answers, regular⟩
    exact MandateHook.isMandateGate_of_answers resolves installed answers regular

end World

end PassportKit
