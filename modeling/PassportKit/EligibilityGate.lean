import PassportKit.Types

/-! `EligibilityGate.sol`: the one read every surface uses. The two nested loops
are the recursions below; each read of another contract is a field of `Reads`,
so the gate is stated for whatever the issuers answer. -/
namespace PassportKit
open Evm OpenZeppelin

structure EligibilityGate where
  accessControl : AccessControlBase Error
  access : AccessControl
  /-- The registry's address. -/
  issuers : Address
  /-- policyId => required topics -/
  policyTopics : Uint256 → List Uint256

/-- What the gate sees of the other contracts during one call. -/
structure Reads where
  /-- `account.code.length != 0` -/
  hasCode : Address → Bool
  issuersForTopic : Uint256 → List Address
  /-- `getClaim(topic, issuer)` on an identity, or the revert of it. -/
  getClaim : Address → Uint256 → Address → Result (Bool × Bytes × Bytes)
  /-- The raw reply of an issuer to `isClaimValid`. -/
  issuerAt : Address → IClaimIssuer

namespace EligibilityGate

def deploy (accessControl : AccessControlBase Error) (admin issuerRegistry : Address) : Result EligibilityGate := do
  revertIf (admin = 0) (.custom .ZeroAdmin)
  revertIf (issuerRegistry = 0) (.custom .ZeroIssuerRegistry)
  return {
    accessControl := accessControl
    access := accessControl._grantRole .vacant AccessControl.DEFAULT_ADMIN_ROLE admin
    issuers := issuerRegistry
    policyTopics := fun _ => [] }

def setPolicy (self : EligibilityGate) (msgSender : Address) (policyId : Uint256)
    (topics : List Uint256) : Result EligibilityGate := do
  self.accessControl.onlyRole self.access AccessControl.DEFAULT_ADMIN_ROLE msgSender
  return { self with policyTopics := Function.update self.policyTopics policyId topics }

/-- What one trusted issuer contributes: nothing, its well-formed yes, or a
revert of the gate itself. The `catch` clause sees only reverts of the callee;
return data the decoder refuses reverts in this frame. -/
def askIssuer (reads : Reads) (identity : Address) (topic : Uint256) (issuer : Address) :
    Result Bool := do
  let (present, sig, data) ← reads.getClaim identity topic issuer
  if present = false then return false
  else
    match reads.issuerAt issuer identity topic sig data with
    | .reverted _ => return false
    | .returned returnData =>
      match decodeBool returnData with
      | none => .error .undecodable
      | some valid => return valid

/-- The loop of `_hasValidClaim` over the trusted issuers of a topic. -/
def hasValidClaim (reads : Reads) (identity : Address) (topic : Uint256) :
    List Address → Result Bool
  | [] => return false
  | issuer :: rest => do
    let valid ← askIssuer reads identity topic issuer
    if valid then return true else hasValidClaim reads identity topic rest

def reasonFor (topic : Uint256) : Bytes32 :=
  if topic = ClaimTopics.KYC_VERIFIED then Reason.MISSING_KYC
  else if topic = ClaimTopics.PROOF_OF_PERSONHOOD then Reason.MISSING_PERSONHOOD
  else if topic = ClaimTopics.ACCREDITED_INVESTOR then Reason.MISSING_ACCREDITED
  else Reason.MISSING_CLAIM

/-- The loop of `isEligible` over the required topics. -/
def checkTopics (reads : Reads) (identity : Address) : List Uint256 → Result (Bool × Bytes32)
  | [] => return (true, Reason.OK)
  | topic :: rest => do
    let valid ← hasValidClaim reads identity topic (reads.issuersForTopic topic)
    if valid then checkTopics reads identity rest else return (false, reasonFor topic)

def isEligible (self : EligibilityGate) (reads : Reads) (identity : Address) (policyId : Uint256) :
    Result (Bool × Bytes32) :=
  if identity = 0 ∨ reads.hasCode identity = false then return (false, Reason.NO_IDENTITY)
  else
    let required := self.policyTopics policyId
    if required.length = 0 then return (false, Reason.NO_POLICY)
    else checkTopics reads identity required

inductive Call where
  | setPolicy (policyId : Uint256) (topics : List Uint256)
  | roles (call : AccessControl.Call)
  deriving DecidableEq

def call (self : EligibilityGate) (msgSender : Address) : Call → Result EligibilityGate
  | .setPolicy policyId topics => self.setPolicy msgSender policyId topics
  | .roles request => do
    let access ← self.accessControl.call self.access msgSender request
    return { self with access }

variable {reads : Reads} {identity issuer : Address} {topic policyId : Uint256}
  {issuers : List Address}

/-- A trusted issuer vouches for an identity: its claim is stored there and it
answers a well-formed yes about it. -/
def Vouches (reads : Reads) (identity : Address) (topic : Uint256) (issuer : Address) : Prop :=
  ∃ sig data returnData, reads.getClaim identity topic issuer = .ok (true, sig, data) ∧
    reads.issuerAt issuer identity topic sig data = .returned returnData ∧
    decodeBool returnData = some true

/-- Some issuer of a list vouches. -/
def Covered (reads : Reads) (identity : Address) (issuers : List Address) (topic : Uint256) : Prop :=
  ∃ issuer ∈ issuers, Vouches reads identity topic issuer

theorem askIssuer_eq_true :
    askIssuer reads identity topic issuer = .ok true ↔ Vouches reads identity topic issuer := by
  unfold askIssuer Vouches
  constructor
  · intro asked
    obtain ⟨⟨present, sig, data⟩, stored, answered⟩ := bind_eq_ok.mp asked
    dsimp only at answered
    split at answered
    · simp at answered
    · rename_i there
      split at answered
      · simp at answered
      · rename_i returnData replied
        split at answered
        · simp at answered
        · rename_i valid decoded
          have yes : valid = true := by simpa using answered
          subst yes
          exact ⟨sig, data, returnData, by simpa [there] using stored, replied, decoded⟩
  · rintro ⟨sig, data, returnData, stored, replied, decoded⟩
    simp [stored, replied, decoded]

/-- When every issuer of the list can be asked, the scan decides whether one of
them vouches. -/
theorem hasValidClaim_of_answering
    (answering : ∀ issuer ∈ issuers, ∃ valid, askIssuer reads identity topic issuer = .ok valid) :
    ∃ valid, hasValidClaim reads identity topic issuers = .ok valid ∧
      (valid = true ↔ Covered reads identity issuers topic) := by
  induction issuers with
  | nil => exact ⟨false, rfl, by simp [Covered]⟩
  | cons issuer rest ih =>
    obtain ⟨valid, asked⟩ := answering issuer List.mem_cons_self
    obtain ⟨later, scanned, meaning⟩ :=
      ih fun other member => answering other (List.mem_cons_of_mem _ member)
    cases valid with
    | true =>
      refine ⟨true, by simp [hasValidClaim, asked], ?_⟩
      simp only [true_iff]
      exact ⟨issuer, List.mem_cons_self, askIssuer_eq_true.mp asked⟩
    | false =>
      refine ⟨later, by simp [hasValidClaim, asked, scanned], meaning.trans ?_⟩
      have silent : ¬ Vouches reads identity topic issuer := fun vouches => by
        rw [askIssuer_eq_true.mpr vouches] at asked
        simp at asked
      simp [Covered, silent]

/-- A scan that says yes found an issuer that vouches. -/
theorem covered_of_hasValidClaim
    (found : hasValidClaim reads identity topic issuers = .ok true) :
    Covered reads identity issuers topic := by
  induction issuers with
  | nil => simp [hasValidClaim] at found
  | cons issuer rest ih =>
    obtain ⟨valid, asked, continued⟩ := bind_eq_ok.mp found
    split at continued
    · rename_i yes
      subst yes
      exact ⟨issuer, List.mem_cons_self, askIssuer_eq_true.mp asked⟩
    · obtain ⟨other, member, vouches⟩ := ih continued
      exact ⟨other, List.mem_cons_of_mem _ member, vouches⟩

/-- The loop accepts only with every required topic covered, and then with the
accepting code. -/
theorem checkTopics_eq_true {required : List Uint256} {reason : Bytes32}
    (accepted : checkTopics reads identity required = .ok (true, reason)) :
    reason = Reason.OK ∧
      ∀ topic ∈ required, Covered reads identity (reads.issuersForTopic topic) topic := by
  induction required with
  | nil =>
    simp only [checkTopics, pure_outcome, Except.ok.injEq, Prod.mk.injEq, true_and] at accepted
    exact ⟨accepted.symm, by simp⟩
  | cons first rest ih =>
    obtain ⟨valid, scanned, continued⟩ := bind_eq_ok.mp accepted
    split at continued
    · rename_i yes
      subst yes
      obtain ⟨ok, covered⟩ := ih continued
      refine ⟨ok, fun topic member => ?_⟩
      rcases List.mem_cons.mp member with rfl | later
      · exact covered_of_hasValidClaim scanned
      · exact covered topic later
    · simp at continued

/-- The gate accepts only with every required topic covered. -/
theorem covered_of_isEligible {self : EligibilityGate} {reason : Bytes32}
    (accepted : self.isEligible reads identity policyId = .ok (true, reason)) :
    ∀ topic ∈ self.policyTopics policyId,
      Covered reads identity (reads.issuersForTopic topic) topic := by
  unfold isEligible at accepted
  split at accepted
  · simp at accepted
  · dsimp only at accepted
    split at accepted
    · simp at accepted
    · exact (checkTopics_eq_true accepted).2

theorem reasonFor_ne_ok (topic : Uint256) : reasonFor topic ≠ Reason.OK := by
  obtain ⟨-, kyc, personhood, accredited, claim, -⟩ := Reason.refusals_are_not_ok
  unfold reasonFor
  split
  · exact kyc
  split
  · exact personhood
  split
  · exact accredited
  · exact claim

/-- The loop refuses only with a refusal code. -/
theorem checkTopics_eq_false {required : List Uint256} {reason : Bytes32}
    (refused : checkTopics reads identity required = .ok (false, reason)) : reason ≠ Reason.OK := by
  induction required with
  | nil => simp [checkTopics] at refused
  | cons first rest ih =>
    obtain ⟨valid, -, continued⟩ := bind_eq_ok.mp refused
    split at continued
    · exact ih continued
    · simp only [pure_outcome, Except.ok.injEq, Prod.mk.injEq, true_and] at continued
      rw [← continued]
      exact reasonFor_ne_ok first

/-- **The pair is one answer.** Whenever the gate answers at all, it accepts
exactly with the accepting code. -/
theorem isEligible_ok_iff_reason {self : EligibilityGate} {ok : Bool} {reason : Bytes32}
    (answered : self.isEligible reads identity policyId = .ok (ok, reason)) :
    ok = true ↔ reason = Reason.OK := by
  obtain ⟨noIdentity, -, -, -, -, noPolicy⟩ := Reason.refusals_are_not_ok
  unfold isEligible at answered
  split at answered
  · simp only [pure_outcome, Except.ok.injEq, Prod.mk.injEq] at answered
    obtain ⟨rfl, rfl⟩ := answered
    simp [noIdentity]
  · dsimp only at answered
    split at answered
    · simp only [pure_outcome, Except.ok.injEq, Prod.mk.injEq] at answered
      obtain ⟨rfl, rfl⟩ := answered
      simp [noPolicy]
    · cases ok with
      | true => simp [(checkTopics_eq_true answered).1]
      | false => simp [checkTopics_eq_false answered]

end EligibilityGate

end PassportKit
