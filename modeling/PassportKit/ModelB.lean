import PassportKit.Soundness

/-! Model B: no privileged writer. The key table of an identity is its person's
for good, only that person's own calls change its claims, and an account linked
as an agent holds no key anywhere. Roles never enter. -/
namespace PassportKit
open Evm OpenZeppelin Eip712 Runs

namespace Stack

variable {Hash : Type} [Crypto Hash] [DecidableEq Hash] {s next start : Stack Hash} {input : Input}
  {inputs : List Input} {wallet identity : Address}

/-- A run minted an identity for a wallet. -/
def MintedFor (start : Stack Hash) (inputs : List Input) (wallet identity : Address) : Prop :=
  ∃ before sender after next, inputs = before ++ ⟨sender, .createIdentity wallet identity⟩ :: after ∧
    step (exec step start before) ⟨sender, .createIdentity wallet identity⟩ = .ok next

/-- A transaction that writes claims on an identity. -/
def WritesClaims (identity : Address) (action : Action) : Prop :=
  ∃ request : Identity.Call, action = .identity identity request

/-- Minting leaves exactly the owner's key. -/
theorem minting_keysAt {sender : Caller}
    (done : step s ⟨sender, .createIdentity wallet identity⟩ = .ok next) :
    next.keysAt identity = some (Identity.ownerKeys wallet) := by
  cases step_change done with
  | @minted wallet' created factory contract action _ _ creation =>
    obtain ⟨rfl, rfl⟩ := Action.createIdentity.inj action
    obtain ⟨-, -, -, deployed, -⟩ := IdentityFactory.createIdentity_changes creation
    rw [keysAt_setCode, Function.update_self, Code.keys, Identity.deploy_keys deployed]
  | registry action _ => cases action
  | factory action _ => cases action
  | gate action _ => cases action
  | elapsed action => cases action
  | issuer action _ _ => cases action
  | identity action _ _ => cases action
  | deployed action _ _ _ => cases action
  | foreign _ _ action _ _ => cases action

/-- The table of an identity minted in a run, at its end. -/
theorem mintedFor_keysAt (minted : MintedFor start inputs wallet identity) :
    (exec step start inputs).keysAt identity = some (Identity.ownerKeys wallet) := by
  obtain ⟨before, sender, after, next, rfl, done⟩ := minted
  rw [exec_append, exec_cons, settle_ok done]
  exact exec_keysAt (minting_keysAt done) after

/-- **Who writes.** A transaction keeps the claims and counts of an identity, or
it is a claim write on that identity by an account holding one of its keys. -/
theorem step_claims (done : step s input = .ok next) {holder : Identity Hash}
    (code : s.code identity = .identity holder) :
    ∃ after, next.code identity = .identity after ∧
      (after.claims = holder.claims ∧ after.countByTopic = holder.countByTopic ∨
        WritesClaims identity input.action ∧ s.MayWrite input.sender identity) := by
  have frame : ∀ {target : Address} {other : Code Hash}, s.code target ≠ .identity holder →
      (s.setCode target other).code identity = .identity holder := by
    intro target other differs
    have apart : identity ≠ target := by
      rintro rfl
      exact differs code
    rw [setCode_of_ne apart, code]
  cases step_change done with
  | registry _ _ => exact ⟨holder, code, .inl ⟨rfl, rfl⟩⟩
  | factory _ _ => exact ⟨holder, code, .inl ⟨rfl, rfl⟩⟩
  | gate _ _ => exact ⟨holder, code, .inl ⟨rfl, rfl⟩⟩
  | elapsed _ => exact ⟨holder, code, .inl ⟨rfl, rfl⟩⟩
  | issuer _ there _ => exact ⟨holder, frame (by simp [there]), .inl ⟨rfl, rfl⟩⟩
  | deployed _ _ free _ => exact ⟨holder, frame (by simp [free]), .inl ⟨rfl, rfl⟩⟩
  | foreign old _ _ _ there =>
    exact ⟨holder, frame (by cases old <;> simp [there]), .inl ⟨rfl, rfl⟩⟩
  | @minted _ created _ _ _ _ free _ =>
    have apart : identity ≠ created := by
      rintro rfl
      simp [code] at free
    exact ⟨holder, (setCode_of_ne apart _).trans code, .inl ⟨rfl, rfl⟩⟩
  | @identity target request contract called action there call =>
    by_cases same : identity = target
    · subst same
      obtain rfl : holder = contract := by simpa [code] using there
      refine ⟨called, setCode_self .., .inr ⟨⟨request, action⟩, holder, code, ?_⟩⟩
      exact (Identity.call_by_key_holder call).1
    · exact ⟨holder, (setCode_of_ne same _).trans code, .inl ⟨rfl, rfl⟩⟩

/-- An agent is not the person of any identity, and only persons hold keys. -/
theorem Valid.agent_holds_no_key (valid : Valid s) (distinct : Identity.KeysDistinct Hash)
    {agent : Address} (linked : s.factory.isAgent agent = true) {holder : Identity Hash}
    (code : s.code identity = .identity holder) :
    holder.keyPurposes (Identity.keyForAddress agent) = [] := by
  obtain ⟨wallet, person⟩ := valid.person identity (isSome_keysAt.mpr ⟨holder, code⟩)
  obtain ⟨found, foundCode, keys⟩ := keysAt_eq_some.mp (valid.keys wallet identity person)
  obtain rfl : holder = found := by simpa [code] using foundCode
  have apart : agent ≠ wallet := by
    rintro rfl
    simp [person.notAgent] at linked
  have otherKey : (Identity.keyForAddress agent : Hash) ≠ Identity.keyForAddress wallet :=
    fun same => apart (distinct same)
  rw [keys, Identity.ownerKeys, Function.update_of_ne otherKey]

/-- **No privileged writer.** After any run from a fresh deployment: an identity
minted for a wallet has exactly that wallet's key; the next transaction, by any
account in any role, changes its claims or counts only as a claim write by that
wallet; and a linked agent holds no key on any identity, so its own claim writes
revert. -/
theorem no_privileged_writer (distinct : Identity.KeysDistinct Hash) (fresh : Genesis start)
    (inputs : List Input) :
    (∀ wallet identity, MintedFor start inputs wallet identity →
      ∃ holder, (exec step start inputs).code identity = .identity holder ∧
        holder.keyPurposes = Identity.ownerKeys wallet ∧
        ∀ input next, step (exec step start inputs) input = .ok next →
          ∃ after, next.code identity = .identity after ∧
            (after.claims = holder.claims ∧ after.countByTopic = holder.countByTopic ∨
              input.sender.val = wallet ∧ WritesClaims identity input.action)) ∧
    (∀ agent, (exec step start inputs).factory.isAgent agent.val = true →
      ∀ identity holder, (exec step start inputs).code identity = .identity holder →
        holder.keyPurposes (Identity.keyForAddress agent.val) = [] ∧
        ∀ request, step (exec step start inputs) ⟨agent, .identity identity request⟩ =
          .error (.custom .NoClaimKey)) := by
  have valid : Valid (exec step start inputs) := Reachable.valid ⟨start, inputs, fresh, rfl⟩
  constructor
  · intro wallet identity minted
    obtain ⟨holder, code, keys⟩ := keysAt_eq_some.mp (mintedFor_keysAt minted)
    refine ⟨holder, code, keys, ?_⟩
    intro input next done
    obtain ⟨after, there, same | ⟨writes, found, foundCode, holdsKey⟩⟩ := step_claims done code
    · exact ⟨after, there, .inl same⟩
    · obtain rfl : holder = found := by simpa [code] using foundCode
      have owner := (Identity.keyHasPurpose_iff_owner distinct keys KeyPurpose.CLAIM).mp holdsKey
      exact ⟨after, there, .inr ⟨owner, writes⟩⟩
  · intro agent linked identity holder code
    have keyless := valid.agent_holds_no_key distinct linked code
    refine ⟨keyless, fun request => ?_⟩
    have refused : holder.onlyClaimKey agent.val = .error (.custom .NoClaimKey) :=
      revertIf_true _ (by simp [Identity.keyHasPurpose, keyless])
    cases request with
    | submitClaim topic issuer sig data =>
      simp [step, code, Identity.call, Identity.submitClaim, refused]
    | revokeClaim topic issuer => simp [step, code, Identity.call, Identity.revokeClaim, refused]

/-- The onboarded person's agent cannot withdraw the person's claim. -/
theorem no_privileged_writer_onboarded :
    step (exec step (freshStack 10) setUp)
      ⟨⟨12, by decide⟩, .identity 30 (.revokeClaim ClaimTopics.KYC_VERIFIED 20)⟩ =
        .error (.custom .NoClaimKey) := by
  have distinct := Identity.keysDistinct_of_collisionFree Symbolic.collisionFree
  obtain ⟨minted, agents⟩ := no_privileged_writer distinct freshStack_genesis setUp
  have linked : (exec step (freshStack 10) setUp).factory.isAgent 12 = true := by decide +kernel
  obtain ⟨holder, code, -⟩ := minted 11 30
    ⟨setUp.take 3, admin, setUp.drop 4, _, rfl, rfl⟩
  exact (agents ⟨12, by decide⟩ linked 30 holder code).2 _

end Stack

end PassportKit
