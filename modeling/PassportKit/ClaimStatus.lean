import PassportKit.Concierge
import PassportKit.DemoIdentity

/-! When the demo's word on a claim is the issuer's. Every stored claim was accepted
once, so that its data is well formed and some signer is recovered from it; the latch
and the expiry are read by both. What is left is whether the signer still stands. -/
namespace PassportKit.DemoIdentity
open Evm Js Interaction DemoChain Eip712 Stack
open Refusals (Thrown)
open Runs (exec exec_preserves)
open ClaimIssuer (encodeClaimData claimDigest)

variable {Hash : Type} [Crypto Hash] [DecidableEq Hash]

/-- The transaction that a call is. The factory, and what `CREATE` chooses, are the chain's. -/
inductive Transacts (world : DemoAddresses) : ContractCall → Stack.Input → Prop where
  | createIdentity {actor : DemoActor} {sender : Caller} (own : sender.val = world.actorAddress actor)
      (wallet created : Address) :
      Transacts world ⟨actor, world.identityFactory, .createIdentity wallet⟩
        ⟨sender, .createIdentity wallet created⟩
  | setRevoked {actor : DemoActor} {sender : Caller} (own : sender.val = world.actorAddress actor)
      (identity : Address) (topic : Uint256) (value : Bool) :
      Transacts world ⟨actor, world.claimIssuer, .setRevoked identity topic value⟩
        ⟨sender, .claimIssuer world.claimIssuer (.setRevoked identity topic value)⟩
  | submitClaim {actor : DemoActor} {sender : Caller} (own : sender.val = world.actorAddress actor)
      (identity : Address) (topic : Uint256) (issuer : Address) (sig data : Bytes) :
      Transacts world ⟨actor, identity, .submitClaim topic issuer sig data⟩
        ⟨sender, .identity identity (.submitClaim topic issuer sig data)⟩

/-- The next block, some time later. -/
def later (s : Stack Hash) (seconds : ℕ) : Stack Hash :=
  { s with block := { s.block with timestamp := s.block.timestamp + seconds } }

/-- Views answer of the last block, and a transaction succeeds in the next one. Nobody
else transacts meanwhile. -/
inductive Serves (world : DemoAddresses) :
    Stack Hash → Program.Exchange DemoCall DemoCall.Answer → Stack Hash → Prop where
  | getBlock (s : Stack Hash) : Serves world s ⟨.getBlock, .ok s.block.timestamp⟩ s
  | identityOfWallet (s : Stack Hash) (wallet : Address) :
      Serves world s ⟨.readContract (.identityOfWallet wallet), .ok (s.factory.identityOfWallet wallet)⟩ s
  | getClaim {s : Stack Hash} {identity issuer : Address} {topic : Uint256} {claim : Bool × Bytes × Bytes}
      (found : s.getClaim identity topic issuer = .ok claim) :
      Serves world s ⟨.readContract (.getClaim identity topic issuer), .ok claim⟩ s
  | revoked {s : Stack Hash} {contract : ClaimIssuer} (code : s.code world.claimIssuer = .claimIssuer contract)
      (identity : Address) (topic : Uint256) :
      Serves world s ⟨.readContract (.revoked identity topic), .ok (contract.revoked identity topic)⟩ s
  | simulated (s : Stack Hash) (call : ContractCall) (result : Uint256) :
      Serves world s ⟨.simulateContract call, .ok result⟩ s
  | mined {s next : Stack Hash} {call : ContractCall} {input : Stack.Input} (transacts : Transacts world call input)
      {seconds : ℕ} (done : step (later s seconds) input = .ok next) {sent : Sent} (accepted : sent.rejected = none)
      (included : sent.included = true) : Serves world s ⟨.writeContract call, sent⟩ next
  | confirmed (s : Stack Hash) (hash : JsString) : Serves world s ⟨.waitForTransactionReceipt hash, .ok ()⟩ s

/-- The states that any transactions lead to since the issuer was deployed, when nobody
held a claim of it. -/
def Issued (s : Stack Hash) (issuer : Address) : Prop :=
  ∃ start inputs, Reachable start ∧ (∃ contract, start.code issuer = .claimIssuer contract) ∧
    (∀ identity topic sig data, ¬ start.Stores identity topic issuer sig data) ∧ s = exec step start inputs

/-- The issuer accepts the claim that is stored. -/
def Accepted (s : Stack Hash) (issuer identity : Address) (topic : Uint256) : Prop :=
  ∃ contract sig data, s.code issuer = .claimIssuer contract ∧ s.Stores identity topic issuer sig data ∧
    contract.isClaimValid Hash s.block issuer identity topic sig data = .ok true

/-- `claimState` at the time of the chain resolves, with one state, and that state says
`VERIFIED` just when the issuer accepts the claim. -/
def Agrees (client : ClaimClient) (world : DemoAddresses) (s : Stack Hash) (identity : Address) (topic : Uint256) :
    Prop :=
  ∃ state, (∀ result last, (claimState client world (some identity) topic (numberOf s.block.timestamp)).Completes
      (Serves world) s result last ↔ result = state ∧ last = s) ∧
    (state.status = .VERIFIED ↔ Accepted s world.claimIssuer identity topic)

/-- Where the claim is stored, its latch open, and the time not past its expiry as
Numbers go, the time is not past it at all, and its signer is still authorised. -/
def SignerStands (s : Stack Hash) (issuer identity : Address) (topic : Uint256) : Prop :=
  ∀ contract sig dataHash expiresAt nonce, s.code issuer = .claimIssuer contract →
    s.Stores identity topic issuer sig (encodeClaimData dataHash expiresAt nonce) →
    contract.revoked identity topic = false →
    (expiresAt = 0 ∨ numberOf s.block.timestamp ≤ numberOf expiresAt.toNat) →
    (expiresAt = 0 ∨ s.block.timestamp ≤ expiresAt.toNat) ∧
      ∃ signer, tryRecover (claimDigest s.block.chainId issuer
          { identity, topic, dataHash, expiresAt, nonce } : Hash) sig = some signer ∧
        contract.isAuthorizedSigner signer = true

/-- A run of `doVerify` that, once it has the identity and has opened the latch, looks at
the claim, and issues one if it needs to. -/
def Looked (client : ClaimClient) (world : DemoAddresses) (moment : Moment) (actor : DemoActor) (claim : ClaimName)
    (s : Stack Hash) (identity : Address) (looked last : Stack Hash) : Prop :=
  ∃ txHashes middle reopened issued,
    (ensureIdentity world actor).Completes (Serves world) s (identity, txHashes) middle ∧
    (reopen world identity (CLAIM_TOPICS claim)).Completes (Serves world) middle reopened looked ∧
    (issueIfNeeded client world moment actor identity (CLAIM_TOPICS claim)).Completes (Serves world) looked issued last

/-! ## Stored claims were accepted -/

section Stored
variable {s next : Stack Hash} {input : Input} {issuer identity : Address} {topic : Uint256} {sig data : Bytes}

/-- A claim issuer stays one. -/
theorem step_issuer_stays (done : step s input = .ok next) {contract : ClaimIssuer}
    (code : s.code issuer = .claimIssuer contract) : ∃ contract, next.code issuer = .claimIssuer contract := by
  have elsewhere {target : Address} {written : Code Hash} (other : s.code target ≠ .claimIssuer contract) :
      ∃ contract, (s.setCode target written).code issuer = .claimIssuer contract := by
    have apart : issuer ≠ target := by
      rintro rfl
      exact other code
    exact ⟨contract, (setCode_of_ne apart written).trans code⟩
  cases step_change done with
  | registry _ _ => exact ⟨contract, code⟩
  | factory _ _ => exact ⟨contract, code⟩
  | gate _ _ => exact ⟨contract, code⟩
  | elapsed _ => exact ⟨contract, code⟩
  | @issuer target call contract' called action targetCode accepted =>
    by_cases same : issuer = target
    · subst same
      exact ⟨called, setCode_self ..⟩
    · exact ⟨contract, (setCode_of_ne same _).trans code⟩
  | identity _ targetCode _ => exact elsewhere (by simp [targetCode])
  | minted _ _ free _ => exact elsewhere (by simp [free])
  | deployed _ _ free _ => exact elsewhere (by simp [free])
  | foreign old _ _ _ targetCode =>
    refine elsewhere ?_
    rw [targetCode]
    cases old <;> simp

/-- A submission is accepted in the block it lands in, and stored. -/
theorem submitted_accepted {sender : Caller} {contract : ClaimIssuer}
    (done : step s ⟨sender, .identity identity (.submitClaim topic issuer sig data)⟩ = .ok next)
    (code : s.code issuer = .claimIssuer contract) :
    contract.isClaimValid Hash s.block issuer identity topic sig data = .ok true ∧
      next.block = s.block ∧ next.code issuer = .claimIssuer contract ∧ next.factory = s.factory ∧
      next.Stores identity topic issuer sig data := by
  simp only [step] at done
  cases lives : s.code identity with
  | identity holder =>
    simp only [lives, Identity.call, bind_eq_ok, pure_outcome, Except.ok.injEq] at done
    obtain ⟨changed, ⟨⟨reached, claimId⟩, submission, rfl⟩, rfl⟩ := done
    obtain ⟨-, -, asked, counts, -, rfl⟩ := Identity.submitClaim_changes submission
    have apart : issuer ≠ identity := by
      rintro rfl
      rw [code] at lives
      cases lives
    refine ⟨?_, rfl, (setCode_of_ne apart _).trans code, rfl, ?_⟩
    · have reply : s.issuerAt issuer identity topic sig data =
          replyOf (contract.isClaimValid Hash s.block issuer identity topic sig data) := by
        rw [issuerAt, code]
      rw [reply] at asked
      cases valid : contract.isClaimValid Hash s.block issuer identity topic sig data with
      | ok verdict =>
        rw [valid] at asked
        simpa using asked
      | error error =>
        rw [valid] at asked
        cases asked
    · exact ⟨_, setCode_self .., by simp [Identity.submitted, store_same]⟩
  | empty => simp [lives] at done
  | claimIssuer contract => simp [lives] at done
  | foreign contract => simp [lives] at done

/-- The issuer stands, and every claim of it that is stored carries the data of a claim. -/
structure WellFormed (s : Stack Hash) (issuer : Address) : Prop where
  stands : ∃ contract, s.code issuer = .claimIssuer contract
  encoded : ∀ identity topic sig data, s.Stores identity topic issuer sig data →
    ∃ dataHash expiresAt nonce, data = encodeClaimData dataHash expiresAt nonce ∧ dataHash ≠ 0

theorem step_wellFormed (wellFormed : WellFormed s issuer) (done : step s input = .ok next) :
    WellFormed next issuer := by
  obtain ⟨⟨contract, code⟩, encoded⟩ := wellFormed
  refine ⟨step_issuer_stays done code, fun identity topic sig data stored => ?_⟩
  by_cases before : s.Stores identity topic issuer sig data
  · exact encoded identity topic sig data before
  · obtain ⟨sender, action⟩ := input
    obtain ⟨rfl, -⟩ := step_stores done before stored
    obtain ⟨-, dataHash, expiresAt, nonce, data, hashed, -⟩ :=
      ClaimIssuer.isClaimValid_iff_vouched.mp (submitted_accepted done code).1
    exact ⟨dataHash, expiresAt, nonce, data, hashed⟩

theorem Issued.wellFormed (issued : Issued s issuer) : WellFormed s issuer := by
  obtain ⟨start, inputs, -, stands, none, rfl⟩ := issued
  have first : WellFormed start issuer :=
    ⟨stands, fun identity topic sig data stored => absurd stored (none identity topic sig data)⟩
  exact exec_preserves (fun _ _ _ => step_wellFormed) first inputs

theorem Issued.valid (issued : Issued s issuer) : s.Valid := by
  obtain ⟨start, inputs, reachable, -, -, rfl⟩ := issued
  exact (reachable.exec inputs).valid

theorem Issued.step (issued : Issued s issuer) (done : Stack.step s input = .ok next) : Issued next issuer := by
  obtain ⟨start, inputs, reachable, stands, none, rfl⟩ := issued
  refine ⟨start, inputs ++ [input], reachable, stands, none, ?_⟩
  rw [Runs.exec_append, Runs.exec_cons, Runs.settle_ok done, Runs.exec_nil]

/-- Time passes, and then a transaction succeeds. -/
theorem Issued.mined (issued : Issued s issuer) {seconds : ℕ}
    (done : Stack.step (DemoIdentity.later s seconds) input = .ok next) : Issued next issuer := by
  have waited : Stack.step s ⟨input.sender, .elapse seconds⟩ = .ok (DemoIdentity.later s seconds) := rfl
  exact (issued.step waited).step done

/-- A wallet of the factory has an identity. -/
theorem lives_of_resolves (valid : s.Valid) {wallet : Address} (resolves : s.factory.identityOfWallet wallet = identity)
    (real : identity ≠ 0) : ∃ holder, s.code identity = .identity holder := by
  have minted := valid.resolves wallet (resolves ▸ real)
  rw [resolves] at minted
  exact isSome_keysAt.mp ((valid.minted_iff identity).mp minted)

theorem step_claimIssuer_factory {sender : Caller} {target : Address} {call : ClaimIssuer.Call}
    (done : Stack.step s ⟨sender, .claimIssuer target call⟩ = .ok next) : next.factory = s.factory := by
  cases step_change done with
  | issuer _ _ _ => rfl
  | registry action _ => cases action
  | factory action _ => cases action
  | gate action _ => cases action
  | elapsed action => cases action
  | identity action _ _ => cases action
  | minted action _ _ _ => cases action
  | deployed action _ _ _ => cases action
  | foreign _ _ action _ _ => cases action

end Stored

/-! ## What the demo reads -/

section Reading
variable {client : ClaimClient} {world : DemoAddresses} {s last : Stack Hash} {identity : Address} {topic : Uint256}
  {now : WithTop ℚ}

theorem completes_read {read : Read} {value : read.Value} :
    (readContract read).Completes (Serves world) s value last ↔
      Serves world s ⟨.readContract read, .ok value⟩ last := by
  rw [readContract, Program.completes_call]
  constructor
  · rintro ⟨answer, middle, served, resumed⟩
    obtain ⟨rfl, rfl⟩ := Program.completes_ofExcept.mp resumed
    exact served
  · exact fun served => ⟨_, _, served, Program.completes_ofExcept.mpr ⟨rfl, rfl⟩⟩

theorem reads_identityOfWallet {wallet value : Address} :
    (readContract (.identityOfWallet wallet)).Completes (Serves world) s value last ↔
      value = s.factory.identityOfWallet wallet ∧ last = s := by
  rw [completes_read]
  constructor
  · rintro ⟨⟩
    exact ⟨rfl, rfl⟩
  · rintro ⟨rfl, rfl⟩
    exact .identityOfWallet _ _

theorem reads_getClaim {issuer : Address} {claim : Bool × Bytes × Bytes} :
    (readContract (.getClaim identity topic issuer)).Completes (Serves world) s claim last ↔
      s.getClaim identity topic issuer = .ok claim ∧ last = s := by
  rw [completes_read]
  constructor
  · intro served
    cases served with
    | getClaim found => exact ⟨found, rfl⟩
  · rintro ⟨found, rfl⟩
    exact .getClaim found

theorem reads_revoked {contract : ClaimIssuer} (code : s.code world.claimIssuer = .claimIssuer contract)
    {value : Bool} : (readContract (.revoked identity topic)).Completes (Serves world) s value last ↔
      value = contract.revoked identity topic ∧ last = s := by
  rw [completes_read]
  constructor
  · intro served
    cases served with
    | revoked code' =>
      cases code.symm.trans code'
      exact ⟨rfl, rfl⟩
  · rintro ⟨rfl, rfl⟩
    exact .revoked code _ _

theorem reads_chainNow {value : WithTop ℚ} : chainNow.Completes (Serves world) s value last ↔
    value = numberOf s.block.timestamp ∧ last = s := by
  rw [chainNow, Program.completes_call]
  constructor
  · rintro ⟨answer, middle, ⟨⟩, resumed⟩
    obtain ⟨same, rfl⟩ := Program.completes_ofExcept.mp resumed
    cases same
    exact ⟨rfl, rfl⟩
  · rintro ⟨rfl, rfl⟩
    exact ⟨_, _, .getBlock _, Program.completes_ofExcept.mpr ⟨rfl, rfl⟩⟩

theorem statusOf_verified {expiresAt : ℕ} {revoked : Bool} :
    (statusOf expiresAt revoked now).status = .VERIFIED ↔
      revoked = false ∧ (expiresAt = 0 ∨ now ≤ numberOf expiresAt) := by
  unfold statusOf
  dsimp only
  cases revoked with
  | true => simp
  | false =>
    by_cases past : expiresAt ≠ 0 ∧ numberOf expiresAt < now
    · simp [past]
    · have inTime : expiresAt = 0 ∨ now ≤ numberOf expiresAt := by
        by_contra neither
        rw [not_or, not_le] at neither
        exact past neither
      simp [past, inTime]

/-- What the demo takes for verified. -/
def Verified (s : Stack Hash) (issuer identity : Address) (topic : Uint256) (now : WithTop ℚ) : Prop :=
  ∃ contract sig dataHash expiresAt nonce, s.code issuer = .claimIssuer contract ∧
    s.Stores identity topic issuer sig (encodeClaimData dataHash expiresAt nonce) ∧
    contract.revoked identity topic = false ∧ (expiresAt = 0 ∨ now ≤ numberOf expiresAt.toNat)

omit [Crypto Hash] [DecidableEq Hash] in
theorem stores_unique {issuer : Address} {sig sig' data data' : Bytes}
    (stored : s.Stores identity topic issuer sig data)
    (stored' : s.Stores identity topic issuer sig' data') : sig = sig' ∧ data = data' := by
  obtain ⟨holder, lives, -, rfl, rfl⟩ := stored
  obtain ⟨holder', lives', -, rfl, rfl⟩ := stored'
  cases lives.symm.trans lives'
  exact ⟨rfl, rfl⟩

theorem encodeClaimData_injective {dataHash dataHash' nonce nonce' : Bytes32} {expiresAt expiresAt' : Uint64}
    (same : encodeClaimData dataHash expiresAt nonce = encodeClaimData dataHash' expiresAt' nonce') :
    dataHash = dataHash' ∧ expiresAt = expiresAt' ∧ nonce = nonce' := by
  have decoded := @ClaimIssuer.decodeClaimData_encode dataHash nonce expiresAt
  rw [same, ClaimIssuer.decodeClaimData_encode] at decoded
  cases decoded
  exact ⟨rfl, rfl, rfl⟩

/-- `claimState` resolves with one state, whatever was stored. -/
theorem claimState_resolves (documented : client.Documented) (wellFormed : WellFormed s world.claimIssuer)
    {holder : Identity Hash} (lives : s.code identity = .identity holder) (now : WithTop ℚ) :
    ∃ state, (∀ result last,
        (claimState client world (some identity) topic now).Completes (Serves world) s result last ↔
          result = state ∧ last = s) ∧
      (state.status = .VERIFIED ↔ Verified s world.claimIssuer identity topic now) := by
  obtain ⟨⟨contract, code⟩, encoded⟩ := wellFormed
  have asked : s.getClaim identity topic world.claimIssuer = .ok (holder.getClaim topic world.claimIssuer) := by
    rw [Stack.getClaim, lives]
  cases present : (holder.claims topic world.claimIssuer).present with
  | false =>
    have absent : holder.getClaim topic world.claimIssuer = (false, [], []) := by
      rw [Identity.getClaim]
      simp [present]
    refine ⟨⟨.UNVERIFIED, none⟩, fun result last => ?_, ?_⟩
    · rw [claimState, Program.completes_bind]
      constructor
      · rintro ⟨claim, middle, read, rest⟩
        obtain ⟨found, rfl⟩ := reads_getClaim.mp read
        rw [asked, absent] at found
        cases found
        exact Program.completes_done.mp rest
      · rintro ⟨rfl, rfl⟩
        exact ⟨_, _, reads_getClaim.mpr ⟨asked.trans (congrArg _ absent), rfl⟩, .done _ _⟩
    · refine iff_of_false (by rintro ⟨⟩) ?_
      rintro ⟨-, sig, dataHash, expiresAt, nonce, -, ⟨holder', lives', stored, -⟩, -⟩
      cases lives.symm.trans lives'
      rw [present] at stored
      cases stored
  | true =>
    have stored : s.Stores identity topic world.claimIssuer (holder.claims topic world.claimIssuer).signature
        (holder.claims topic world.claimIssuer).data := ⟨holder, lives, present, rfl, rfl⟩
    have here := Identity.getClaim_eq_present.mpr ⟨present, rfl, rfl⟩
    obtain ⟨dataHash, expiresAt, nonce, data, -⟩ := encoded _ _ _ _ stored
    rw [data] at stored here
    refine ⟨statusOf expiresAt.toNat (contract.revoked identity topic) now, fun result last => ?_, ?_⟩
    · rw [claimState, Program.completes_bind]
      constructor
      · rintro ⟨claim, middle, read, rest⟩
        obtain ⟨found, rfl⟩ := reads_getClaim.mp read
        rw [asked, here] at found
        cases found
        obtain ⟨decoded, middle, decodes, rest⟩ := Program.completes_bind.mp rest
        obtain ⟨same, rfl⟩ := Program.completes_ofExcept.mp decodes
        rw [documented.decodes] at same
        cases same
        change (isRevoked identity topic >>= fun revoked =>
          .done (statusOf expiresAt.toNat revoked now)).Completes (Serves world) _ result last at rest
        obtain ⟨revoked, middle, latch, ended⟩ := Program.completes_bind.mp rest
        obtain ⟨rfl, rfl⟩ := (reads_revoked code).mp latch
        exact Program.completes_done.mp ended
      · rintro ⟨rfl, rfl⟩
        refine ⟨_, _, reads_getClaim.mpr ⟨asked.trans (congrArg _ here), rfl⟩, ?_⟩
        refine Program.completes_bind.mpr
          ⟨_, _, Program.completes_ofExcept.mpr ⟨documented.decodes dataHash expiresAt nonce, rfl⟩, ?_⟩
        exact Program.completes_bind.mpr ⟨_, _, (reads_revoked code).mpr ⟨rfl, rfl⟩, .done _ _⟩
    · rw [statusOf_verified]
      have dated : expiresAt.toNat = 0 ↔ expiresAt = 0 := by
        rw [← BitVec.toNat_inj]
        rfl
      constructor
      · rintro ⟨unlatched, inTime⟩
        exact ⟨contract, _, dataHash, expiresAt, nonce, code, stored, unlatched, inTime.imp_left dated.mp⟩
      · rintro ⟨contract', sig, dataHash', expiresAt', nonce', code', stored', unlatched, inTime⟩
        cases code.symm.trans code'
        obtain ⟨-, same⟩ := stores_unique stored stored'
        obtain ⟨rfl, rfl, rfl⟩ := encodeClaimData_injective same
        exact ⟨unlatched, inTime.imp_left dated.mpr⟩

omit [DecidableEq Hash] in
/-- What the issuer accepts is verified. -/
theorem verified_of_accepted {issuer : Address} (accepted : Accepted s issuer identity topic) :
    Verified s issuer identity topic (numberOf s.block.timestamp) := by
  obtain ⟨contract, sig, data, code, stored, valid⟩ := accepted
  obtain ⟨unlatched, dataHash, expiresAt, nonce, encoded, -, inTime, -⟩ :=
    ClaimIssuer.isClaimValid_iff_vouched.mp valid
  rw [encoded] at stored
  exact ⟨contract, sig, dataHash, expiresAt, nonce, code, stored, unlatched,
    inTime.imp_right fun le => numberOf_mono le⟩

omit [DecidableEq Hash] in
/-- What is verified, the issuer accepts just when its signer stands. -/
theorem accepted_iff_signerStands {issuer : Address} (wellFormed : WellFormed s issuer)
    (verified : Verified s issuer identity topic (numberOf s.block.timestamp)) :
    Accepted s issuer identity topic ↔ SignerStands s issuer identity topic := by
  obtain ⟨contract, sig, dataHash, expiresAt, nonce, code, stored, unlatched, inTime⟩ := verified
  constructor
  · rintro ⟨contract', sig', data', code', stored', valid⟩
    intro contract₂ sig₂ dataHash₂ expiresAt₂ nonce₂ code₂ stored₂ _ _
    cases code'.symm.trans code₂
    obtain ⟨sameSig, sameData⟩ := stores_unique stored' stored₂
    rw [sameSig, sameData] at valid
    obtain ⟨-, dataHash', expiresAt', nonce', same, -, unexpired, signer⟩ :=
      ClaimIssuer.isClaimValid_iff_vouched.mp valid
    obtain ⟨rfl, rfl, rfl⟩ := encodeClaimData_injective same
    exact ⟨unexpired, signer⟩
  · intro stands
    obtain ⟨unexpired, signer⟩ := stands contract sig dataHash expiresAt nonce code stored unlatched inTime
    obtain ⟨dataHash', expiresAt', nonce', same, hashed⟩ := wellFormed.encoded _ _ _ _ stored
    obtain ⟨rfl, rfl, rfl⟩ := encodeClaimData_injective same
    exact ⟨contract, sig, _, code, stored, ClaimIssuer.isClaimValid_iff_vouched.mpr
      ⟨unlatched, dataHash, expiresAt, nonce, rfl, hashed, unexpired, signer⟩⟩

omit [DecidableEq Hash] in
/-- Where nothing is verified, the condition asks nothing. -/
theorem signerStands_of_not_verified {issuer : Address}
    (unverified : ¬ Verified s issuer identity topic (numberOf s.block.timestamp)) :
    SignerStands s issuer identity topic := by
  intro contract sig dataHash expiresAt nonce code stored unlatched inTime
  exact absurd ⟨contract, sig, dataHash, expiresAt, nonce, code, stored, unlatched, inTime⟩ unverified

omit [DecidableEq Hash] in
/-- The issuer is asked about the claim that `getClaim` returns. -/
theorem accepted_iff_issuerAt {issuer : Address} {contract : ClaimIssuer} {sig data : Bytes}
    (code : s.code issuer = .claimIssuer contract) (found : s.getClaim identity topic issuer = .ok (true, sig, data))
    {holder : Identity Hash} (lives : s.code identity = .identity holder) :
    Accepted s issuer identity topic ↔ s.issuerAt issuer identity topic sig data = .returned (encodeBool true) := by
  rw [Stack.getClaim, lives, Except.ok.injEq, Identity.getClaim_eq_present] at found
  obtain ⟨present, rfl, rfl⟩ := found
  rw [issuerAt, code]
  constructor
  · rintro ⟨contract', sig, data, code', stored, valid⟩
    cases code.symm.trans code'
    obtain ⟨rfl, rfl⟩ := stores_unique ⟨holder, lives, present, rfl, rfl⟩ stored
    dsimp only
    rw [valid, replyOf_ok]
  · intro replied
    refine ⟨contract, _, _, code, ⟨holder, lives, present, rfl, rfl⟩, ?_⟩
    dsimp only at replied
    cases asked : contract.isClaimValid Hash s.block issuer identity topic (holder.claims topic issuer).signature
        (holder.claims topic issuer).data with
    | ok valid =>
      rw [asked, replyOf_ok] at replied
      cases valid with
      | true => rfl
      | false => exact absurd replied (by decide)
    | error error =>
      rw [asked] at replied
      cases replied

/-- What the demo takes for verified does not depend on the signers. -/
theorem verified_setSigner {issuer signer : Address} {sender : Caller} {ok : Bool} {now : WithTop ℚ}
    (verified : Verified s issuer identity topic now) :
    Verified (Runs.settle step s ⟨sender, .claimIssuer issuer (.setSigner signer ok)⟩) issuer identity topic
      now := by
  obtain ⟨contract, sig, dataHash, expiresAt, nonce, code, ⟨holder, lives, stored⟩, unlatched, inTime⟩ :=
    verified
  have kept (next : Stack Hash) (done : step s ⟨sender, .claimIssuer issuer (.setSigner signer ok)⟩ = .ok next) :
      Verified next issuer identity topic now := by
    simp only [step, code, ClaimIssuer.call, ClaimIssuer.setSigner, bind_eq_ok, pure_outcome, Except.ok.injEq] at done
    obtain ⟨changed, ⟨-, -, -, -, rfl⟩, rfl⟩ := done
    have apart : identity ≠ issuer := by
      rintro rfl
      cases code.symm.trans lives
    exact ⟨_, sig, dataHash, expiresAt, nonce, setCode_self ..,
      ⟨holder, (setCode_of_ne apart _).trans lives, stored⟩, unlatched, inTime⟩
  exact Runs.settle_preserves kept
    ⟨contract, sig, dataHash, expiresAt, nonce, code, ⟨holder, lives, stored⟩, unlatched, inTime⟩

/-- The demo's word is the issuer's just when the signer stands. -/
theorem agrees_iff_signerStands (documented : client.Documented) (wellFormed : WellFormed s world.claimIssuer)
    {holder : Identity Hash} (lives : s.code identity = .identity holder) :
    Agrees client world s identity topic ↔ SignerStands s world.claimIssuer identity topic := by
  obtain ⟨state, resolves, status⟩ := claimState_resolves documented wellFormed lives (numberOf s.block.timestamp)
  constructor
  · rintro ⟨state', resolves', agrees⟩
    have same : state' = state := ((resolves' state s).mp ((resolves state s).mpr ⟨rfl, rfl⟩)).1.symm
    subst same
    by_cases verified : Verified s world.claimIssuer identity topic (numberOf s.block.timestamp)
    · exact (accepted_iff_signerStands wellFormed verified).mp (agrees.mp (status.mpr verified))
    · exact signerStands_of_not_verified verified
  · intro stands
    refine ⟨state, resolves, status.trans ⟨fun verified => ?_, verified_of_accepted⟩⟩
    exact (accepted_iff_signerStands wellFormed verified).mpr stands

end Reading

/-! ## What the demo writes -/

section Writing
variable {client : ClaimClient} {world : DemoAddresses} {s last : Stack Hash} {actor : DemoActor}
  {identity : Address} {topic : Uint256} {claim : ClaimName} {moment : Moment}

/-- A write that returns was mined. -/
theorem mined_of_write {address : Address} {function : ContractFunction} {hash : JsString}
    (completes : (write actor address (.ok function)).Completes (Serves world) s hash last) :
    ∃ input seconds,
      Transacts world ⟨actor, address, function⟩ input ∧ step (later s seconds) input = .ok last := by
  obtain ⟨simulated, middle, served, rest⟩ := Program.completes_call.mp completes
  cases served with
  | simulated =>
    obtain ⟨⟨hash', named, rejected, included⟩, middle, served, rest⟩ := Program.completes_call.mp rest
    cases served with
    | mined transacts done accepted _ =>
      cases accepted
      obtain ⟨receipt, middle, served, rest⟩ := Program.completes_call.mp rest
      cases served
      obtain ⟨-, rfl⟩ := Program.completes_done.mp rest
      exact ⟨_, _, transacts, done⟩

theorem completes_identityOf {wallet : Address} {value : Option Address} :
    (identityOf wallet).Completes (Serves world) s value last ↔
      value = (if s.factory.identityOfWallet wallet = 0 then none else some (s.factory.identityOfWallet wallet)) ∧
        last = s := by
  rw [identityOf, Program.completes_bind]
  constructor
  · rintro ⟨identity, middle, read, rest⟩
    obtain ⟨rfl, rfl⟩ := reads_identityOfWallet.mp read
    exact Program.completes_done.mp rest
  · rintro ⟨rfl, rfl⟩
    exact ⟨_, _, reads_identityOfWallet.mpr ⟨rfl, rfl⟩, .done _ _⟩

/-- The actor has the identity that is returned. -/
theorem ensureIdentity_resolves (issued : Issued s world.claimIssuer) {txHashes : List JsString}
    (completes : (ensureIdentity world actor).Completes (Serves world) s (identity, txHashes) last) :
    Issued last world.claimIssuer ∧ identity ≠ 0 ∧
      last.factory.identityOfWallet (world.actorAddress actor) = identity := by
  obtain ⟨existing, middle, read, rest⟩ := Program.completes_bind.mp completes
  obtain ⟨found, rfl⟩ := completes_identityOf.mp read
  split at found
  · subst found
    obtain ⟨hash, minted, wrote, asks⟩ := Program.completes_bind.mp rest
    obtain ⟨input, seconds, -, done⟩ := mined_of_write wrote
    obtain ⟨created, asked, readAgain, ended⟩ := Program.completes_bind.mp asks
    obtain ⟨found, rfl⟩ := completes_identityOf.mp readAgain
    split at found
    · subst found
      cases ended
    · rename_i real
      subst found
      obtain ⟨same, rfl⟩ := Program.completes_done.mp ended
      cases same
      exact ⟨issued.mined done, real, rfl⟩
  · rename_i real
    subst found
    obtain ⟨same, rfl⟩ := Program.completes_done.mp rest
    cases same
    exact ⟨issued, real, rfl⟩

theorem transacts_setRevoked {address : Address} {value : Bool} {input : Stack.Input}
    (transacts : Transacts world ⟨actor, address, .setRevoked identity topic value⟩ input) :
    ∃ sender, input = ⟨sender, .claimIssuer world.claimIssuer (.setRevoked identity topic value)⟩ := by
  generalize shape : (⟨actor, address, .setRevoked identity topic value⟩ : ContractCall) = call at transacts
  have function := congrArg ContractCall.function shape
  cases transacts with
  | createIdentity => cases function
  | setRevoked =>
    cases function
    exact ⟨_, rfl⟩
  | submitClaim => cases function

theorem reopen_keeps (issued : Issued s world.claimIssuer) {reopened : List JsString}
    (completes : (reopen world identity topic).Completes (Serves world) s reopened last) :
    Issued last world.claimIssuer ∧ last.factory = s.factory := by
  obtain ⟨revoked, middle, read, rest⟩ := Program.completes_bind.mp completes
  obtain ⟨contract, code⟩ := issued.wellFormed.stands
  obtain ⟨rfl, rfl⟩ := (reads_revoked code).mp read
  split at rest
  · obtain ⟨hash, mined, wrote, ended⟩ := Program.completes_bind.mp rest
    obtain ⟨-, rfl⟩ := Program.completes_done.mp ended
    obtain ⟨input, seconds, transacts, done⟩ := mined_of_write wrote
    obtain ⟨sender, rfl⟩ := transacts_setRevoked transacts
    exact ⟨issued.mined done, (step_claimIssuer_factory done).trans rfl⟩
  · obtain ⟨-, rfl⟩ := Program.completes_done.mp rest
    exact ⟨issued, rfl⟩

/-- A claim that is submitted is accepted. -/
theorem submitClaim_accepted (wellFormed : WellFormed s world.claimIssuer) {hash : JsString}
    (completes : (submitClaim client world moment actor identity topic).Completes (Serves world) s hash last) :
    last.factory = s.factory ∧ Accepted last world.claimIssuer identity topic := by
  obtain ⟨now, asked, read, dated⟩ := Program.completes_bind.mp completes
  obtain ⟨-, rfl⟩ := reads_chainNow.mp read
  obtain ⟨expiresAt, summed, sum, signs⟩ := Program.completes_bind.mp dated
  obtain ⟨-, rfl⟩ := Program.completes_ofExcept.mp sum
  obtain ⟨⟨signature, data⟩, ready, signed, wrote⟩ := Program.completes_bind.mp signs
  obtain ⟨-, rfl⟩ := Program.completes_ofExcept.mp signed
  obtain ⟨input, seconds, transacts, done⟩ := mined_of_write wrote
  obtain ⟨contract, code⟩ := wellFormed.stands
  cases transacts with
  | submitClaim =>
    obtain ⟨valid, block, code', factory, stored⟩ := submitted_accepted done code
    exact ⟨factory, contract, signature, data, code', stored, block ▸ valid⟩

/-- What is looked at decides: a verified claim is left as it is, and otherwise one is
issued, which the issuer then accepts. -/
theorem issueIfNeeded_accepted_iff (documented : client.Documented) (wellFormed : WellFormed s world.claimIssuer)
    {holder : Identity Hash} (lives : s.code identity = .identity holder) {issued : List JsString}
    (completes : (issueIfNeeded client world moment actor identity topic).Completes (Serves world) s issued last) :
    last.factory = s.factory ∧
      (Accepted last world.claimIssuer identity topic ↔ SignerStands s world.claimIssuer identity topic) := by
  obtain ⟨now, asked, read, looks⟩ := Program.completes_bind.mp completes
  obtain ⟨rfl, rfl⟩ := reads_chainNow.mp read
  obtain ⟨found, looked, seen, decides⟩ := Program.completes_bind.mp looks
  obtain ⟨state, resolves, status⟩ :=
    claimState_resolves documented wellFormed lives (numberOf asked.block.timestamp)
  obtain ⟨rfl, rfl⟩ := (resolves found looked).mp seen
  split at decides
  · rename_i unverified
    obtain ⟨hash, submitted, wrote, ended⟩ := Program.completes_bind.mp decides
    obtain ⟨-, rfl⟩ := Program.completes_done.mp ended
    obtain ⟨factory, accepted⟩ := submitClaim_accepted wellFormed wrote
    exact ⟨factory, iff_of_true accepted
      (signerStands_of_not_verified fun verified => unverified (status.mpr verified))⟩
  · rename_i verified
    obtain ⟨-, rfl⟩ := Program.completes_done.mp decides
    exact ⟨rfl, accepted_iff_signerStands wellFormed (status.mp (not_not.mp verified))⟩

theorem doVerify_accepted_iff (documented : client.Documented) (issued : Issued s world.claimIssuer)
    {txHashes : List JsString}
    (completes : (doVerify client world moment actor claim true).Completes (Serves world) s txHashes last) :
    ∃ identity looked, Looked client world moment actor claim s identity looked last ∧
      last.factory.identityOfWallet (world.actorAddress actor) = identity ∧
      (Accepted last world.claimIssuer identity (CLAIM_TOPICS claim) ↔
        SignerStands looked world.claimIssuer identity (CLAIM_TOPICS claim)) := by
  obtain ⟨⟨identity, minted⟩, middle, ensured, rest⟩ := Program.completes_bind.mp completes
  obtain ⟨issued', real, resolves⟩ := ensureIdentity_resolves issued ensured
  obtain ⟨reopened, looked, reopens, issues⟩ := Program.completes_bind.mp rest
  obtain ⟨issued'', kept⟩ := reopen_keeps issued' reopens
  obtain ⟨hashes, ended, decided, returns⟩ := Program.completes_bind.mp issues
  obtain ⟨-, rfl⟩ := Program.completes_done.mp returns
  have resolves' : looked.factory.identityOfWallet (world.actorAddress actor) = identity := by
    rw [kept]
    exact resolves
  obtain ⟨holder, lives⟩ := lives_of_resolves issued''.valid resolves' real
  obtain ⟨kept', accepted⟩ := issueIfNeeded_accepted_iff documented issued''.wellFormed lives decided
  refine ⟨identity, looked, ⟨minted, middle, reopened, hashes, ensured, reopens, decided⟩, ?_, accepted⟩
  rw [kept']
  exact resolves'

/-- A verified claim with an open latch is left alone. -/
theorem doVerify_leaves_verified {state : ClaimState} (real : identity ≠ 0)
    (resolves : s.factory.identityOfWallet (world.actorAddress actor) = identity) {contract : ClaimIssuer}
    (code : s.code world.claimIssuer = .claimIssuer contract)
    (unlatched : contract.revoked identity (CLAIM_TOPICS claim) = false)
    (completes : (claimState client world (some identity) (CLAIM_TOPICS claim)
      (numberOf s.block.timestamp)).Completes (Serves world) s state s) (verified : state.status = .VERIFIED) :
    (doVerify client world moment actor claim true).Completes (Serves world) s [] s := by
  have found : (identityOf (world.actorAddress actor)).Completes (Serves world) s (some identity) s := by
    rw [completes_identityOf, resolves, if_neg real]
    exact ⟨rfl, rfl⟩
  have unrevoked : (isRevoked identity (CLAIM_TOPICS claim)).Completes (Serves world) s false s :=
    (reads_revoked code).mpr ⟨unlatched.symm, rfl⟩
  have issues : (issueIfNeeded client world moment actor identity (CLAIM_TOPICS claim)).Completes (Serves world) s
      [] s := by
    refine Program.completes_bind.mpr ⟨_, _, reads_chainNow.mpr ⟨rfl, rfl⟩, ?_⟩
    refine Program.completes_bind.mpr ⟨_, _, completes, ?_⟩
    rw [if_neg (not_not.mpr verified)]
    exact .done _ _
  refine Program.completes_bind.mpr ⟨(identity, []), s, Program.completes_bind.mpr ⟨_, _, found, .done _ _⟩, ?_⟩
  refine Program.completes_bind.mpr ⟨[], s, Program.completes_bind.mpr ⟨_, _, unrevoked, .done _ _⟩, ?_⟩
  exact Program.completes_bind.mpr ⟨_, _, issues, .done _ _⟩

end Writing

/-- **The issuer's word.** In every reachable state, `claimState` says `VERIFIED` just
when the issuer accepts the stored claim, if and only if its signer stands; and an
approved verification leaves a claim that the issuer accepts, if and only if the
signer stood when it looked. -/
theorem demo_agrees_with_issuer_iff_signer_stands {client : ClaimClient} (documented : client.Documented)
    {world : DemoAddresses} {s : Stack Hash} (issued : Issued s world.claimIssuer) :
    (∀ identity topic holder, s.code identity = .identity holder →
      (Agrees client world s identity topic ↔ SignerStands s world.claimIssuer identity topic)) ∧
    ∀ moment actor claim txHashes last,
      (doVerify client world moment actor claim true).Completes (Serves world) s txHashes last →
      ∃ identity looked, Looked client world moment actor claim s identity looked last ∧
        last.factory.identityOfWallet (world.actorAddress actor) = identity ∧
        (Accepted last world.claimIssuer identity (CLAIM_TOPICS claim) ↔
          SignerStands looked world.claimIssuer identity (CLAIM_TOPICS claim)) :=
  ⟨fun _ _ _ lives => agrees_iff_signerStands documented issued.wellFormed lives,
    fun _ _ _ _ _ completes => doVerify_accepted_iff documented issued completes⟩

def demoClaims : ClaimClient where
  toViem := ClaimIssuer.demoViem
  issuerSigner := (21 : Address)
  signingError := ⟨none, text "Cannot sign the claim.", []⟩
  decodeAbiParameters data :=
    match ClaimIssuer.decodeClaimData data with
    | .ok (dataHash, expiresAt, nonce) => .ok (dataHash, expiresAt.toNat, nonce)
    | .error _ => .error ⟨none, text "Data size is too small for given parameters.", []⟩

theorem demoClaims_documented : demoClaims.Documented where
  decodes dataHash expiresAt nonce := by
    simp only [demoClaims, ClaimIssuer.decodeClaimData_encode]

/-- The operator administers the small deployment, and rui is its person. -/
def verifyWorld : DemoAddresses :=
  { Concierge.demoWorld with
    actorAddress
      | .operator => 10
      | .ana => 2
      | .rui => 11
      | .concierge => 4
      | .plumber => 5 }

/-- The issuer is deployed, and nothing else has happened. -/
theorem issuing_issued (inputs : List Input) :
    Issued (exec step (freshStack 10) (⟨admin, .deployClaimIssuer 20 10 21⟩ :: inputs)) 20 := by
  obtain ⟨contract, done⟩ : ∃ contract, step (freshStack 10) ⟨admin, .deployClaimIssuer 20 10 21⟩ =
      .ok ((freshStack 10).setCode 20 (.claimIssuer contract)) := ⟨_, rfl⟩
  refine ⟨(freshStack 10).setCode 20 (.claimIssuer contract), inputs, ?_, ⟨contract, setCode_self ..⟩, ?_, ?_⟩
  · exact ⟨_, [_], freshStack_genesis, by rw [Runs.exec_cons, Runs.settle_ok done, Runs.exec_nil]⟩
  · rintro identity topic sig data ⟨holder, lives, -⟩
    by_cases same : identity = 20
    · subst same
      rw [setCode_self] at lives
      cases lives
    · rw [setCode_of_ne same] at lives
      cases lives
  · rw [Runs.exec_cons, Runs.settle_ok done]

/-- The claim's signer is withdrawn. -/
def withdrawn : List Input := onboarded ++ [⟨admin, .claimIssuer 20 (.setSigner 21 false)⟩]

theorem onboarded_issued : Issued (exec step (freshStack 10) onboarded) 20 := issuing_issued _

theorem withdrawn_issued : Issued (exec step (freshStack 10) withdrawn) 20 := issuing_issued _

theorem onboarded_claim :
    (exec step (freshStack 10) onboarded).getClaim 30 ClaimTopics.KYC_VERIFIED 20 = .ok (true, kycSig, kycData) ∧
    (exec step (freshStack 10) onboarded).issuerAt 20 30 ClaimTopics.KYC_VERIFIED kycSig kycData =
      .returned (encodeBool true) ∧
    (exec step (freshStack 10) onboarded).factory.identityOfWallet 11 = 30 := by
  decide +kernel

theorem withdrawn_claim :
    (exec step (freshStack 10) withdrawn).getClaim 30 ClaimTopics.KYC_VERIFIED 20 = .ok (true, kycSig, kycData) ∧
    (exec step (freshStack 10) withdrawn).issuerAt 20 30 ClaimTopics.KYC_VERIFIED kycSig kycData =
      .returned (encodeBool false) ∧
    (exec step (freshStack 10) withdrawn).factory.identityOfWallet 11 = 30 ∧
    (exec step (freshStack 10) withdrawn).block = (exec step (freshStack 10) onboarded).block := by
  decide +kernel

theorem onboarded_accepted :
    Accepted (exec step (freshStack 10) onboarded) 20 30 ClaimTopics.KYC_VERIFIED := by
  obtain ⟨found, replied, resolves⟩ := onboarded_claim
  obtain ⟨holder, lives⟩ := lives_of_resolves onboarded_issued.valid resolves (by decide)
  obtain ⟨contract, code⟩ := onboarded_issued.wellFormed.stands
  exact (accepted_iff_issuerAt code found lives).mpr replied

/-- With a signer that stands, the demo and the issuer agree, on the small deployment. -/
theorem demo_agrees_once_onboarded :
    Agrees demoClaims verifyWorld (exec step (freshStack 10) onboarded) 30 ClaimTopics.KYC_VERIFIED := by
  obtain ⟨found, replied, resolves⟩ := onboarded_claim
  obtain ⟨holder, lives⟩ := lives_of_resolves onboarded_issued.valid resolves (by decide)
  obtain ⟨agrees, -⟩ := @demo_agrees_with_issuer_iff_signer_stands Symbolic _ _ demoClaims demoClaims_documented
    verifyWorld _ onboarded_issued
  exact (agrees 30 ClaimTopics.KYC_VERIFIED holder lives).mpr
    ((accepted_iff_signerStands onboarded_issued.wellFormed (verified_of_accepted onboarded_accepted)).mp
      onboarded_accepted)

/-- Its signer withdrawn, the claim is still `VERIFIED` to the demo, and an approved
verification leaves it as it is: the issuer refuses it. -/
theorem withdrawn_signer_stays_verified :
    Issued (exec step (freshStack 10) withdrawn) verifyWorld.claimIssuer ∧
    ¬ Agrees demoClaims verifyWorld (exec step (freshStack 10) withdrawn) 30 ClaimTopics.KYC_VERIFIED ∧
    (doVerify demoClaims verifyWorld ⟨1000, 1001, 0⟩ .rui .kyc true).Completes (Serves verifyWorld)
      (exec step (freshStack 10) withdrawn) [] (exec step (freshStack 10) withdrawn) ∧
    ¬ Accepted (exec step (freshStack 10) withdrawn) verifyWorld.claimIssuer 30 (CLAIM_TOPICS .kyc) := by
  obtain ⟨found, replied, resolves, block⟩ := withdrawn_claim
  have issued := withdrawn_issued
  have verified : Verified (exec step (freshStack 10) withdrawn) 20 30 ClaimTopics.KYC_VERIFIED
      (numberOf (exec step (freshStack 10) withdrawn).block.timestamp) := by
    rw [block, withdrawn, Runs.exec_append, Runs.exec_cons, Runs.exec_nil]
    exact verified_setSigner (verified_of_accepted onboarded_accepted)
  generalize exec step (freshStack 10) withdrawn = s at found replied resolves issued verified ⊢
  obtain ⟨holder, lives⟩ := lives_of_resolves issued.valid resolves (by decide)
  obtain ⟨state, states, status⟩ := @claimState_resolves _ _ _ demoClaims verifyWorld s 30
    ClaimTopics.KYC_VERIFIED demoClaims_documented issued.wellFormed holder lives (numberOf s.block.timestamp)
  obtain ⟨contract, -, -, -, -, code, -, unlatched, -⟩ := id verified
  have refused : ¬ Accepted s 20 30 ClaimTopics.KYC_VERIFIED := by
    rw [accepted_iff_issuerAt code found lives, replied]
    decide
  have seen := (states state s).mpr ⟨rfl, rfl⟩
  refine ⟨issued, ?_, ?_, refused⟩
  · rintro ⟨state', states', agrees⟩
    obtain ⟨rfl, -⟩ := (states' state s).mp seen
    exact refused (agrees.mp (status.mpr verified))
  · have rui : (11 : Address) = verifyWorld.actorAddress .rui := rfl
    rw [rui] at resolves
    exact doVerify_leaves_verified (by decide) resolves code unlatched seen (status.mpr verified)

end PassportKit.DemoIdentity
