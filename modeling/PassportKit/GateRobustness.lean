import PassportKit.Decision

/-! Issuers that misbehave when they are read. A revert of the issuer is caught,
but return data the decoder refuses (a short reply, a word that is neither 0 nor
1, an address without code) fails in the gate's own frame, outside the `catch`.
So the gate survives exactly the lists in which a vouching issuer comes first. -/
namespace PassportKit
open Evm OpenZeppelin Eip712 Runs

/-- A reply with everything but a well-formed yes turned into a no. -/
def heeded : CallReply → CallReply
  | .returned data => .returned (encodeBool (decodeBool data = some true))
  | .reverted _ => .returned (encodeBool false)

/-- The same reads, with every issuer that does not say a well-formed yes taken
to say no. -/
def Reads.heeded (reads : Reads) : Reads :=
  { reads with issuerAt := fun issuer identity topic sig data =>
      PassportKit.heeded (reads.issuerAt issuer identity topic sig data) }

namespace EligibilityGate

variable {reads : Reads} {identity issuer : Address} {topic policyId : Uint256}
  {issuers : List Address} {required : List Uint256}

/-- The identity hands over its claims. -/
def HandsOver (reads : Reads) (identity : Address) : Prop :=
  ∀ topic issuer, ∃ claim, reads.getClaim identity topic issuer = .ok claim

/-- An issuer with a stored claim returns data the decoder refuses. -/
def Garbles (reads : Reads) (identity : Address) (topic : Uint256) (issuer : Address) : Prop :=
  ∃ sig data returnData, reads.getClaim identity topic issuer = .ok (true, sig, data) ∧
    reads.issuerAt issuer identity topic sig data = .returned returnData ∧
    decodeBool returnData = none

/-- Every garbling issuer of a list is preceded by one that vouches. -/
def ScanShielded (reads : Reads) (identity : Address) (topic : Uint256) (issuers : List Address) :
    Prop :=
  ∀ ahead issuer behind, issuers = ahead ++ issuer :: behind →
    Garbles reads identity topic issuer → Covered reads identity ahead topic

/-- The same for every topic the gate gets to. -/
def Shielded (reads : Reads) (identity : Address) (required : List Uint256) : Prop :=
  ∀ before topic after, required = before ++ topic :: after →
    (∀ earlier ∈ before, Covered reads identity (reads.issuersForTopic earlier) earlier) →
    ScanShielded reads identity topic (reads.issuersForTopic topic)

theorem not_garbles_of_vouches (vouches : Vouches reads identity topic issuer) :
    ¬ Garbles reads identity topic issuer := by
  rintro ⟨sig, data, returnData, stored, replied, refused⟩
  obtain ⟨sig', data', returnData', stored', replied', decoded⟩ := vouches
  have claims := stored.symm.trans stored'
  simp only [Except.ok.injEq, Prod.mk.injEq, true_and] at claims
  obtain ⟨rfl, rfl⟩ := claims
  have replies := replied.symm.trans replied'
  simp only [CallReply.returned.injEq] at replies
  subst replies
  simp [refused] at decoded

theorem askIssuer_of_garbles (garbles : Garbles reads identity topic issuer) :
    askIssuer reads identity topic issuer = .error .undecodable := by
  obtain ⟨sig, data, returnData, stored, replied, refused⟩ := garbles
  simp [askIssuer, stored, replied, refused]

/-- An issuer that neither vouches nor garbles is passed over. -/
theorem askIssuer_of_neither (handsOver : HandsOver reads identity)
    (silent : ¬ Vouches reads identity topic issuer)
    (decent : ¬ Garbles reads identity topic issuer) :
    askIssuer reads identity topic issuer = .ok false := by
  obtain ⟨⟨present, sig, data⟩, stored⟩ := handsOver topic issuer
  cases present with
  | false => simp [askIssuer, stored]
  | true =>
    cases replied : reads.issuerAt issuer identity topic sig data with
    | reverted returnData => simp [askIssuer, stored, replied]
    | returned returnData =>
      cases decoded : decodeBool returnData with
      | none => exact absurd ⟨sig, data, returnData, stored, replied, decoded⟩ decent
      | some valid =>
        cases valid with
        | true => exact absurd ⟨sig, data, returnData, stored, replied, decoded⟩ silent
        | false => simp [askIssuer, stored, replied, decoded]

theorem scanShielded_of_vouches (vouches : Vouches reads identity topic issuer)
    (rest : List Address) : ScanShielded reads identity topic (issuer :: rest) := by
  intro ahead other behind split garbles
  cases ahead with
  | nil =>
    obtain ⟨rfl, -⟩ := List.cons.inj split
    exact absurd garbles (not_garbles_of_vouches vouches)
  | cons first ahead =>
    obtain ⟨rfl, -⟩ := List.cons.inj split
    exact ⟨issuer, List.mem_cons_self, vouches⟩

theorem scanShielded_cons (silent : ¬ Vouches reads identity topic issuer)
    (decent : ¬ Garbles reads identity topic issuer) (rest : List Address) :
    ScanShielded reads identity topic (issuer :: rest) ↔ ScanShielded reads identity topic rest := by
  constructor
  · intro shielded ahead other behind split garbles
    obtain ⟨found, member, vouches⟩ := shielded (issuer :: ahead) other behind (by rw [split]; rfl) garbles
    rcases List.mem_cons.mp member with rfl | later
    · exact absurd vouches silent
    · exact ⟨found, later, vouches⟩
  · intro shielded ahead other behind split garbles
    cases ahead with
    | nil =>
      obtain ⟨rfl, -⟩ := List.cons.inj split
      exact absurd garbles decent
    | cons first ahead =>
      obtain ⟨rfl, tails⟩ := List.cons.inj split
      obtain ⟨found, member, vouches⟩ := shielded ahead other behind tails garbles
      exact ⟨found, List.mem_cons_of_mem _ member, vouches⟩

/-- A scan ends well exactly when it is shielded, and then it decides coverage. -/
theorem hasValidClaim_spec (handsOver : HandsOver reads identity) (topic : Uint256)
    (issuers : List Address) :
    (ScanShielded reads identity topic issuers ∧ ∃ valid,
      hasValidClaim reads identity topic issuers = .ok valid ∧
        (valid = true ↔ Covered reads identity issuers topic)) ∨
    (¬ ScanShielded reads identity topic issuers ∧
      hasValidClaim reads identity topic issuers = .error .undecodable) := by
  induction issuers with
  | nil =>
    left
    refine ⟨?_, false, rfl, by simp [Covered]⟩
    intro ahead other behind split
    simp at split
  | cons issuer rest ih =>
    by_cases vouches : Vouches reads identity topic issuer
    · left
      have asked := askIssuer_eq_true.mpr vouches
      refine ⟨scanShielded_of_vouches vouches rest, true, by simp [hasValidClaim, asked], ?_⟩
      exact iff_of_true rfl ⟨issuer, List.mem_cons_self, vouches⟩
    by_cases garbles : Garbles reads identity topic issuer
    · right
      refine ⟨fun shielded => ?_, by simp [hasValidClaim, askIssuer_of_garbles garbles]⟩
      obtain ⟨found, member, -⟩ := shielded [] issuer rest rfl garbles
      exact absurd member List.not_mem_nil
    · have asked := askIssuer_of_neither handsOver vouches garbles
      have continued : hasValidClaim reads identity topic (issuer :: rest) =
          hasValidClaim reads identity topic rest := by simp [hasValidClaim, asked]
      rw [scanShielded_cons vouches garbles, continued]
      rcases ih with ⟨shielded, valid, scanned, meaning⟩ | stuck
      · refine .inl ⟨shielded, valid, scanned, meaning.trans ?_⟩
        simp [Covered, vouches]
      · exact .inr stuck

theorem shielded_cons_of_covered
    (covered : Covered reads identity (reads.issuersForTopic topic) topic)
    (scan : ScanShielded reads identity topic (reads.issuersForTopic topic)) (rest : List Uint256) :
    Shielded reads identity (topic :: rest) ↔ Shielded reads identity rest := by
  constructor
  · intro shielded before later after split backed
    refine shielded (topic :: before) later after (by rw [split]; rfl) fun earlier member => ?_
    rcases List.mem_cons.mp member with rfl | further
    · exact covered
    · exact backed earlier further
  · intro shielded before later after split backed
    cases before with
    | nil =>
      obtain ⟨rfl, -⟩ := List.cons.inj split
      exact scan
    | cons first before =>
      obtain ⟨rfl, tails⟩ := List.cons.inj split
      exact shielded before later after tails fun earlier member =>
        backed earlier (List.mem_cons_of_mem _ member)

/-- A topic nobody covers ends the loop: what follows is never asked. -/
theorem shielded_cons_of_uncovered
    (uncovered : ¬ Covered reads identity (reads.issuersForTopic topic) topic)
    (scan : ScanShielded reads identity topic (reads.issuersForTopic topic)) (rest : List Uint256) :
    Shielded reads identity (topic :: rest) := by
  intro before later after split backed
  cases before with
  | nil =>
    obtain ⟨rfl, -⟩ := List.cons.inj split
    exact scan
  | cons first before =>
    obtain ⟨rfl, -⟩ := List.cons.inj split
    exact absurd (backed topic List.mem_cons_self) uncovered

/-- The loop ends well exactly when it is shielded, and then with the verdict. -/
theorem checkTopics_spec (handsOver : HandsOver reads identity) (required : List Uint256) :
    (Shielded reads identity required ∧ checkTopics reads identity required =
      .ok (verdict (fun topic => Covered reads identity (reads.issuersForTopic topic) topic) required)) ∨
    (¬ Shielded reads identity required ∧
      checkTopics reads identity required = .error .undecodable) := by
  induction required with
  | nil =>
    left
    refine ⟨?_, rfl⟩
    intro before topic after split
    simp at split
  | cons topic rest ih =>
    obtain ⟨passes, fails⟩ := verdict_cons
      (fun topic => Covered reads identity (reads.issuersForTopic topic) topic) topic rest
    rcases hasValidClaim_spec handsOver topic (reads.issuersForTopic topic) with
      ⟨scan, valid, scanned, meaning⟩ | ⟨exposed, stuck⟩
    · cases valid with
      | true =>
        have covered := meaning.mp rfl
        have continued : checkTopics reads identity (topic :: rest) =
            checkTopics reads identity rest := by simp [checkTopics, scanned]
        rw [shielded_cons_of_covered covered scan, continued, passes covered]
        exact ih
      | false =>
        have uncovered : ¬ Covered reads identity (reads.issuersForTopic topic) topic :=
          fun covered => Bool.false_ne_true (meaning.mpr covered)
        left
        rw [fails uncovered]
        exact ⟨shielded_cons_of_uncovered uncovered scan rest, by simp [checkTopics, scanned]⟩
    · right
      refine ⟨fun shielded => exposed (shielded [] topic rest rfl (by simp)), ?_⟩
      simp [checkTopics, stuck]

/-! ## Heeding only well-formed answers -/

theorem vouches_heeded :
    Vouches reads.heeded identity topic issuer ↔ Vouches reads identity topic issuer := by
  constructor
  · rintro ⟨sig, data, returnData, stored, replied, decoded⟩
    cases reply : reads.issuerAt issuer identity topic sig data with
    | reverted revertData =>
      simp only [Reads.heeded, reply, heeded, CallReply.returned.injEq] at replied
      subst replied
      simp at decoded
    | returned answer =>
      simp only [Reads.heeded, reply, heeded, CallReply.returned.injEq] at replied
      subst replied
      exact ⟨sig, data, answer, stored, reply, by simpa using decoded⟩
  · rintro ⟨sig, data, returnData, stored, replied, decoded⟩
    exact ⟨sig, data, encodeBool true, stored, by simp [Reads.heeded, replied, heeded, decoded], by simp⟩

theorem not_garbles_heeded : ¬ Garbles reads.heeded identity topic issuer := by
  rintro ⟨sig, data, returnData, -, replied, refused⟩
  cases reply : reads.issuerAt issuer identity topic sig data with
  | reverted revertData =>
    simp only [Reads.heeded, reply, heeded, CallReply.returned.injEq] at replied
    subst replied
    simp at refused
  | returned answer =>
    simp only [Reads.heeded, reply, heeded, CallReply.returned.injEq] at replied
    subst replied
    simp at refused

theorem shielded_heeded : Shielded reads.heeded identity required :=
  fun _ _ _ _ _ _ _ _ _ garbles => absurd garbles not_garbles_heeded

theorem covered_heeded : Covered reads.heeded identity issuers topic ↔
    Covered reads identity issuers topic := by
  simp only [Covered, vouches_heeded]

/-- **Exactly when the gate survives.** On an identity that hands over its
claims, the gate answers, and answers what well-formed yeses alone would give,
exactly when the required topics are shielded. -/
theorem isEligible_survives_iff (self : EligibilityGate) (handsOver : HandsOver reads identity) :
    (∃ answer, self.isEligible reads identity policyId = .ok answer ∧
      self.isEligible reads.heeded identity policyId = .ok answer) ↔
    identity = 0 ∨ reads.hasCode identity = false ∨
      Shielded reads identity (self.policyTopics policyId) := by
  by_cases absent : identity = 0 ∨ reads.hasCode identity = false
  · refine iff_of_true ?_ (absent.imp_right .inl)
    refine ⟨(false, Reason.NO_IDENTITY), ?_, ?_⟩
    · rw [isEligible, if_pos absent]
      rfl
    · rw [isEligible]
      exact if_pos absent
  obtain ⟨real, present⟩ := not_or.mp absent
  have code : reads.hasCode identity = true := by simpa using present
  have asked : identity = 0 ∨ reads.hasCode identity = false ∨
      Shielded reads identity (self.policyTopics policyId) ↔
      Shielded reads identity (self.policyTopics policyId) := by simp [real, code]
  rw [asked]
  by_cases policy : self.policyTopics policyId = []
  · refine iff_of_true ⟨(false, Reason.NO_POLICY), ?_, ?_⟩ ?_
    · simp [isEligible, real, code, policy]
    · simp [isEligible, real, Reads.heeded, code, policy]
    · rw [policy]
      intro before topic after split
      simp at split
  have ideal : self.isEligible reads.heeded identity policyId =
      .ok (verdict (fun topic => Covered reads identity (reads.issuersForTopic topic) topic)
        (self.policyTopics policyId)) := by
    have heededHandsOver : HandsOver reads.heeded identity := handsOver
    have heededCode : reads.heeded.hasCode identity = true := code
    rcases checkTopics_spec heededHandsOver (self.policyTopics policyId) with
      ⟨-, answered⟩ | ⟨exposed, -⟩
    · rw [isEligible_of_code real heededCode policy, answered]
      congr 1
      exact verdict_congr fun topic _ => covered_heeded
    · exact absurd shielded_heeded exposed
  rw [ideal, isEligible_of_code real code policy]
  rcases checkTopics_spec handsOver (self.policyTopics policyId) with
    ⟨shielded, answered⟩ | ⟨exposed, stuck⟩
  · exact iff_of_true ⟨_, answered, rfl⟩ shielded
  · refine iff_of_false ?_ exposed
    rintro ⟨answer, answered, -⟩
    simp [stuck] at answered

/-- On an identity that hands over its claims, the gate has one way to revert. -/
theorem isEligible_error {self : EligibilityGate} {error : Revert Error}
    (handsOver : HandsOver reads identity)
    (failed : self.isEligible reads identity policyId = .error error) : error = .undecodable := by
  unfold isEligible at failed
  split at failed
  · simp at failed
  · dsimp only at failed
    split at failed
    · simp at failed
    · rcases checkTopics_spec handsOver (self.policyTopics policyId) with
        ⟨-, answered⟩ | ⟨-, stuck⟩
      · simp [answered] at failed
      · simpa [stuck] using failed.symm

end EligibilityGate

namespace Stack

variable {Hash : Type} [Crypto Hash] {s : Stack Hash} {identity : Address} {policyId : Uint256}

/-- The gate answers, with what it would answer if every issuer that does not
return a well-formed yes said no. -/
def Survives (s : Stack Hash) (identity : Address) (policyId : Uint256) : Prop :=
  ∃ answer, s.isEligible identity policyId = .ok answer ∧
    s.gate.isEligible s.reads.heeded identity policyId = .ok answer

/-- **Misbehaving issuers.** For a minted identity the gate survives exactly when
no issuer with a stored claim returns malformed data before an issuer of the
same list vouches, in any topic whose predecessors are all covered. -/
theorem survives_iff_shielded [DecidableEq Hash] (reachable : Reachable s)
    (minted : s.factory.isIdentity identity = true) (policyId : Uint256) :
    s.Survives identity policyId ↔
      EligibilityGate.Shielded s.reads identity (s.gate.policyTopics policyId) := by
  have valid := reachable.valid
  obtain ⟨holder, code⟩ := isSome_keysAt.mp ((valid.minted_iff identity).mp minted)
  have real : identity ≠ 0 := valid.occupied (by simp [code])
  have present : s.reads.hasCode identity = true := by simp [reads, isEmpty, code]
  have handsOver : EligibilityGate.HandsOver s.reads identity :=
    fun topic issuer => ⟨_, reads_getClaim code⟩
  refine (EligibilityGate.isEligible_survives_iff s.gate handsOver).trans ?_
  simp [real, present]

theorem survives_iff_shielded_onboarded :
    EligibilityGate.Shielded (exec step (freshStack 10) onboarded).reads 30
      ((exec step (freshStack 10) onboarded).gate.policyTopics 1) := by
  obtain ⟨-, -, minted, -, -, eligible⟩ := onboarded_facts
  apply (survives_iff_shielded onboarded_reachable minted 1).mp
  exact ⟨(true, Reason.OK), eligible, by decide +kernel⟩

/-- A contract that answers every claim with the given return data. -/
def replying (data : Bytes) : Foreign where
  isClaimValid := fun _ _ _ _ => .returned data
  getClaim := fun _ _ => .error (.bubbled [])

/-- Two issuers are trusted for the one required topic and both accepted the
person's claims; then the first starts to return nothing. -/
def bricking : List Input := [
  ⟨admin, .foreign 40 (some (replying (encodeBool true)))⟩,
  ⟨admin, .registry (.setTrusted 40 ClaimTopics.KYC_VERIFIED true)⟩] ++ onboarded ++ [
  ⟨holder, .identity 30 (.submitClaim ClaimTopics.KYC_VERIFIED 40 [] [])⟩,
  ⟨admin, .foreign 40 (some (replying []))⟩]

theorem bricking_facts :
    (exec step (freshStack 10) bricking).isEligible 30 1 = .error .undecodable ∧
      (exec step (freshStack 10) bricking).gate.isEligible
        (exec step (freshStack 10) bricking).reads.heeded 30 1 = .ok (true, Reason.OK) ∧
      (exec step (freshStack 10) bricking).factory.isIdentity 30 = true := by
  decide +kernel

/-- **The gate reverts.** After that run, the second issuer still vouches, and
the gate has no answer about the person. -/
theorem malformed_reply_bricks_gate :
    ¬ (∀ (s : Stack Symbolic) (identity : Address) (policyId : Uint256), Reachable s →
      s.factory.isIdentity identity = true → s.Survives identity policyId) ∧
    (exec step (freshStack 10) bricking).isEligible 30 1 = .error .undecodable ∧
    (exec step (freshStack 10) bricking).gate.isEligible
      (exec step (freshStack 10) bricking).reads.heeded 30 1 = .ok (true, Reason.OK) := by
  obtain ⟨bricked, vouched, minted⟩ := bricking_facts
  refine ⟨fun survives => ?_, bricked, vouched⟩
  obtain ⟨answer, answered, -⟩ := survives (exec step (freshStack 10) bricking) 30 1
    ⟨_, _, freshStack_genesis, rfl⟩ minted
  rw [bricked] at answered
  cases answered

end Stack

end PassportKit
