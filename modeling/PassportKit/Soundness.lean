import PassportKit.Decision

/-! Where an eligible identity's claims came from. A stored claim was submitted
by the holder of the identity's keys, the keys are the person's for good, and
the accepted digest binds chain, issuer, identity, topic and contents: nothing
signed for anything else, and nothing submitted by anyone else, counts. -/
namespace PassportKit
open Evm OpenZeppelin Eip712 Runs

namespace Stack

variable {Hash : Type} [Crypto Hash] {s next start : Stack Hash} {input : Input}
  {identity issuer wallet : Address} {topic policyId : Uint256} {sig data : Bytes}

/-- An identity holds this signature and data under a topic and an issuer. -/
def Stores (s : Stack Hash) (identity : Address) (topic : Uint256) (issuer : Address)
    (sig data : Bytes) : Prop :=
  ∃ holder, s.code identity = .identity holder ∧ (holder.claims topic issuer).present = true ∧
    (holder.claims topic issuer).signature = sig ∧ (holder.claims topic issuer).data = data

/-- An account holds a key that may write claims on an identity. -/
def MayWrite (s : Stack Hash) (account identity : Address) : Prop :=
  ∃ holder, s.code identity = .identity holder ∧
    holder.keyHasPurpose (Identity.keyForAddress account) KeyPurpose.CLAIM = true

omit [Crypto Hash] in
/-- Code other than an identity's, replaced, is not where an identity lives. -/
theorem keysAt_elsewhere {account target : Address} {code : Code Hash} {keys : Hash → List ℕ}
    (keyed : s.keysAt account = some keys) (bare : s.keysAt target = none) :
    (s.setCode target code).keysAt account = some keys := by
  have apart : account ≠ target := by
    rintro rfl
    simp [bare] at keyed
  rw [keysAt_setCode, Function.update_of_ne apart]
  exact keyed

variable [DecidableEq Hash]

/-- No transaction changes the keys of an identity. -/
theorem step_keysAt {account : Address} {keys : Hash → List ℕ}
    (keyed : s.keysAt account = some keys) (done : step s input = .ok next) :
    next.keysAt account = some keys := by
  cases step_change done with
  | registry _ _ => exact keyed
  | factory _ _ => exact keyed
  | gate _ _ => exact keyed
  | elapsed _ => exact keyed
  | issuer _ code _ => exact keysAt_elsewhere keyed (by simp [keysAt, code, Code.keys])
  | @minted _ created factory _ _ _ free _ =>
    have bare : ({ s with factory } : Stack Hash).keysAt created = none := by
      simp [keysAt, free, Code.keys]
    exact keysAt_elsewhere keyed bare
  | deployed _ _ free _ => exact keysAt_elsewhere keyed (by simp [keysAt, free, Code.keys])
  | foreign old new _ _ code =>
    exact keysAt_elsewhere keyed (by cases old <;> simp [keysAt, code, Code.keys])
  | identity _ code called =>
    have kept := (Identity.call_by_key_holder called).2
    rw [keysAt_setCode_frame (by simp [code, Code.keys, kept])]
    exact keyed

/-- **Keys are for good.** -/
theorem exec_keysAt {account : Address} {keys : Hash → List ℕ}
    (keyed : s.keysAt account = some keys) (inputs : List Input) :
    (exec step s inputs).keysAt account = some keys :=
  exec_preserves (fun _ _ _ held done => step_keysAt held done) keyed inputs

omit [Crypto Hash] [DecidableEq Hash] in
/-- Code that is no identity holds no claims. -/
theorem stores_of_setCode {account : Address} {code : Code Hash}
    (bare : ∀ holder, code ≠ .identity holder)
    (present : (s.setCode account code).Stores identity topic issuer sig data) :
    s.Stores identity topic issuer sig data := by
  obtain ⟨holder, found, stored⟩ := present
  have apart : identity ≠ account := by
    rintro rfl
    rw [setCode_self] at found
    exact bare holder found
  rw [setCode_of_ne apart] at found
  exact ⟨holder, found, stored⟩

/-- What a stored claim says about the transaction that stored it. -/
theorem step_stores (done : step s input = .ok next) (absent : ¬ s.Stores identity topic issuer sig data)
    (present : next.Stores identity topic issuer sig data) :
    input.action = .identity identity (.submitClaim topic issuer sig data) ∧
      s.MayWrite input.sender identity := by
  cases step_change done with
  | registry _ _ => exact absurd present absent
  | factory _ _ => exact absurd present absent
  | gate _ _ => exact absurd present absent
  | elapsed _ => exact absurd present absent
  | issuer _ _ _ => exact absurd (stores_of_setCode (by simp) present) absent
  | deployed _ _ _ _ => exact absurd (stores_of_setCode (by simp) present) absent
  | foreign old new _ _ _ => exact absurd (stores_of_setCode (by cases new <;> simp) present) absent
  | @minted _ created _ contract _ _ _ creation =>
    obtain ⟨holder, code, stored⟩ := present
    by_cases same : identity = created
    · subst same
      obtain ⟨-, -, -, deployed, -⟩ := IdentityFactory.createIdentity_changes creation
      obtain rfl : contract = holder := by simpa using code
      simp [Identity.deploy_claims deployed, Claim.none] at stored
    · rw [setCode_of_ne same] at code
      exact absurd ⟨holder, code, stored⟩ absent
  | @identity target request contract called action before call =>
    obtain ⟨holder, code, stored⟩ := present
    by_cases same : identity = target
    · subst same
      obtain rfl : called = holder := by simpa using code
      rcases Identity.call_slot call topic issuer with left | cleared | submitted
      · rw [left] at stored
        exact absurd ⟨contract, before, stored⟩ absent
      · simp [cleared, Claim.none] at stored
      · obtain ⟨_, _, rfl, held, holds, -, -⟩ := submitted
        simp only [held, Identity.submitted, true_and] at stored
        obtain ⟨rfl, rfl⟩ := stored
        exact ⟨action, contract, before, holds⟩
    · rw [setCode_of_ne same] at code
      exact absurd ⟨holder, code, stored⟩ absent

/-- **Provenance of a stored claim.** Whatever an identity of a person holds at
the end of a run from a fresh deployment was put there by that person. -/
theorem stored_by_person (distinct : Identity.KeysDistinct Hash) (fresh : Genesis start)
    {inputs : List Input} (person : (exec step start inputs).Person wallet identity)
    (stored : (exec step start inputs).Stores identity topic issuer sig data) :
    ∃ before sender after next, sender.val = wallet ∧
      inputs = before ++ ⟨sender, .identity identity (.submitClaim topic issuer sig data)⟩ :: after ∧
      step (exec step start before)
        ⟨sender, .identity identity (.submitClaim topic issuer sig data)⟩ = .ok next := by
  have absent : ¬ start.Stores identity topic issuer sig data := by
    rintro ⟨holder, code, -⟩
    rcases fresh.foreign identity with empty | ⟨contract, foreign⟩
    · simp [code] at empty
    · simp [code] at foreign
  obtain ⟨before, ⟨sender, action⟩, after, next, split, missing, done, present⟩ :=
    exec_turning_point (fun state : Stack Hash => state.Stores identity topic issuer sig data) absent
      stored
  obtain ⟨rfl, holder, code, holdsKey⟩ := step_stores done missing present
  have valid : Valid (exec step start inputs) := Reachable.valid ⟨start, inputs, fresh, rfl⟩
  have here : (exec step start before).keysAt identity = some holder.keyPurposes :=
    keysAt_eq_some.mpr ⟨holder, code, rfl⟩
  have later : (exec step start inputs).keysAt identity = some holder.keyPurposes := by
    rw [split, exec_append]
    exact exec_keysAt here _
  have keys : holder.keyPurposes = Identity.ownerKeys wallet := by
    have owned := valid.keys wallet identity person
    rw [later, Option.some.injEq] at owned
    exact owned
  have owner := (Identity.keyHasPurpose_iff_owner distinct keys KeyPurpose.CLAIM).mp holdsKey
  exact ⟨before, sender, after, next, owner, split, done⟩

/-- **End-to-end soundness.** In any state of any run, with every trusted issuer a
claim issuer: an eligible identity of a person has, for every required topic, a
claim signed for exactly this chain, issuer, identity and topic by an account
authorised now, fresh, not latched, and stored by the person's own transaction. -/
theorem eligible_is_endorsed (free : CollisionFree Hash) (signed : Address → Hash → Prop)
    (unforgeable : ∀ message sig signer, tryRecover message sig = some signer → signed signer message)
    (fresh : Genesis start) {inputs : List Input} (ours : (exec step start inputs).IssuersAreOurs)
    (person : (exec step start inputs).Person wallet identity) {reason : Bytes32}
    (eligible : (exec step start inputs).isEligible identity policyId = .ok (true, reason)) :
    ∀ topic ∈ (exec step start inputs).gate.policyTopics policyId,
      ∃ issuer contract signer dataHash expiresAt nonce sig data,
        (exec step start inputs).registry.isTrusted issuer topic = true ∧
        (exec step start inputs).code issuer = .claimIssuer contract ∧
        contract.isAuthorizedSigner signer = true ∧
        signed signer (ClaimIssuer.claimDigest (exec step start inputs).block.chainId issuer
          ⟨identity, topic, dataHash, expiresAt, nonce⟩) ∧
        (∀ chainId this claim, (ClaimIssuer.claimDigest chainId this claim : Hash) =
            ClaimIssuer.claimDigest (exec step start inputs).block.chainId issuer
              ⟨identity, topic, dataHash, expiresAt, nonce⟩ →
          chainId = (exec step start inputs).block.chainId ∧ this = issuer ∧
            claim = ⟨identity, topic, dataHash, expiresAt, nonce⟩) ∧
        dataHash ≠ 0 ∧
        (expiresAt = 0 ∨ (exec step start inputs).block.timestamp ≤ expiresAt.toNat) ∧
        contract.revoked identity topic = false ∧
        ClaimIssuer.decodeClaimData data = .ok (dataHash, expiresAt, nonce) ∧
        tryRecover (ClaimIssuer.claimDigest (exec step start inputs).block.chainId issuer
          ⟨identity, topic, dataHash, expiresAt, nonce⟩ : Hash) sig = some signer ∧
        (exec step start inputs).Stores identity topic issuer sig data ∧
        ∃ before sender after next, sender.val = wallet ∧
          inputs = before ++
            ⟨sender, .identity identity (.submitClaim topic issuer sig data)⟩ :: after ∧
          step (exec step start before)
            ⟨sender, .identity identity (.submitClaim topic issuer sig data)⟩ = .ok next := by
  have valid : Valid (exec step start inputs) := Reachable.valid ⟨start, inputs, fresh, rfl⟩
  have keyed := valid.keys wallet identity person
  obtain ⟨holder, code, -⟩ := keysAt_eq_some.mp keyed
  have answer := isEligible_eq_decision valid.registry valid.zero ours (.inr ⟨holder, code⟩) policyId
  have accepting : reason = Reason.OK :=
    (EligibilityGate.isEligible_ok_iff_reason eligible).mp rfl
  rw [eligible, Except.ok.injEq, accepting] at answer
  obtain ⟨-, -, backed⟩ := decision_eq_true.mp answer.symm
  intro topic required
  obtain ⟨issuer, trusted, stored, contract, storedCode, issuerCode, present, accepted⟩ :=
    backed topic required
  obtain ⟨open', sized, fits, hashed, inTime, signer, recovered, authorised⟩ :=
    ClaimIssuer.isClaimValid_eq_true.mp accepted
  have stores : (exec step start inputs).Stores identity topic issuer
      (stored.claims topic issuer).signature (stored.claims topic issuer).data :=
    ⟨stored, storedCode, present, rfl, rfl⟩
  refine ⟨issuer, contract, signer, _, _, _, _, _, trusted, issuerCode, authorised,
    unforgeable _ _ _ recovered, ?_, hashed, inTime, open',
    ClaimIssuer.decodeClaimData_eq_ok.mpr ⟨sized.ge, fits, rfl⟩, recovered, stores, ?_⟩
  · intro chainId this claim same
    exact ClaimIssuer.claimDigest_inj free same
  · exact stored_by_person (Identity.keysDistinct_of_collisionFree free) fresh person stores

/-- The onboarded person is eligible, on a claim account 21 signed. -/
theorem eligible_is_endorsed_onboarded :
    ∃ signer contract, (exec step (freshStack 10) onboarded).code 20 = .claimIssuer contract ∧
      contract.isAuthorizedSigner signer = true := by
  obtain ⟨notAgent, resolves, -, policy, only, eligible⟩ := onboarded_facts
  have person : (exec step (freshStack 10) onboarded).Person 11 30 :=
    ⟨notAgent, resolves, by decide⟩
  have required : ClaimTopics.KYC_VERIFIED ∈
      (exec step (freshStack 10) onboarded).gate.policyTopics 1 := by
    rw [policy]
    exact List.mem_singleton_self _
  obtain ⟨issuer, contract, signer, -, -, -, -, -, trusted, code, authorised, -⟩ :=
    eligible_is_endorsed Symbolic.collisionFree
      (fun signer message => ∃ sig, tryRecover message sig = some signer)
      (fun _ sig _ recovered => ⟨sig, recovered⟩) freshStack_genesis onboarded_issuersAreOurs person
      eligible ClaimTopics.KYC_VERIFIED required
  have listed := (Reachable.valid onboarded_reachable).registry.mem_iff.mpr trusted
  rw [only, List.mem_singleton] at listed
  subst listed
  exact ⟨signer, contract, code, authorised⟩

end Stack

end PassportKit
