import PassportKit.AgentLinking
import PassportKit.ClaimSlots

/-! The browser's own writes, of `hero-chain.ts` and `world-chain.ts`: the agent's
transfer and the user's claim. Both give the gas, so that nothing is simulated, wait for
the receipt and answer with the hash, whatever the receipt says. -/
namespace PassportKit.Hero
open Evm Eip712 OpenZeppelin Interaction Runs
open Js (JsString text)
open Refusals (Thrown)

/-- What the browser uses of `viem` besides. -/
structure WebLibrary extends HeroLibrary where
  privateKeyToAccount : Bytes → Except Thrown Caller
  parseEther : JsString → Except Thrown ℤ

def GATED_TOKEN : Address := 0xe3a29101263567c400A0d4d47C52912d3Ed0a08d

structure AgentTransferParams where
  agentPrivateKey : Bytes
  recipient : Address
  /-- In ether units. -/
  amount : Option JsString
  deriving DecidableEq

def AgentTransferParams.requestedAmount (params : AgentTransferParams) : JsString := params.amount.getD (text "10")

structure SubmitClaimParams (Provider : Type) where
  wallet : Caller
  identity : Address
  topic : ℤ
  issuer : Address
  signature : Bytes
  data : Bytes
  provider : Option Provider

/-- What both clients do with a transaction. -/
def confirmed (transaction : Transaction) : Handler JsString := do
  let hash ← send transaction
  let _ ← waitForTransactionReceipt hash
  pure hash

def tokenTransfer (account : Caller) (recipient : Address) (value : Uint256) : Transaction :=
  .writeContract account GATED_TOKEN (.transfer recipient value) (some 300000)

def agentTransfer (lib : WebLibrary) (params : AgentTransferParams) : Handler JsString := do
  let account ← .ofExcept (lib.privateKeyToAccount params.agentPrivateKey)
  let amount ← .ofExcept (lib.parseEther params.requestedAmount)
  let value ← .ofExcept (lib.encodeUint256 amount)
  confirmed (tokenTransfer account params.recipient value)

def claimSubmission {Provider : Type} (params : SubmitClaimParams Provider) (topic : Uint256) : Transaction :=
  .writeContract params.wallet params.identity (.submitClaim topic params.issuer params.signature params.data)
    (some 1000000)

/-- `window` may have a provider to fall back to. -/
def submitClaim {Provider : Type} (lib : WebLibrary) (window : Option Provider) (params : SubmitClaimParams Provider) :
    Handler JsString :=
  if (params.provider.or window).isNone then
    .fail (thrown (text "No wallet found. Connect a wallet to submit your claim."))
  else do
    let topic ← .ofExcept (lib.encodeUint256 params.topic)
    confirmed (claimSubmission params topic)

/-! ## What takes effect -/

section Effects
variable {Hash : Type} [Crypto Hash] [DecidableEq Hash]

/-- The receipt says so, and the balances are those after the transfer. -/
structure Transferred (account : Caller) (recipient : Address) (value : Uint256) (hash : JsString)
    (block next : Chain Hash) : Prop where
  succeeded : (hash, ReceiptStatus.success) ∈ next.receipts
  moved : ∃ before after, block.tokenAt GATED_TOKEN = some before ∧ next.tokenAt GATED_TOKEN = some after ∧
    after.ledger.balances =
      Erc20.credit (Erc20.debit before.ledger.balances account value.toNat) recipient value.toNat

/-- Both ends are eligible in this block, and the agent has as much. -/
def Transferable (account : Caller) (recipient : Address) (value : Uint256) (block : Chain Hash) : Prop :=
  ∃ token, block.tokenAt GATED_TOKEN = some token ∧ recipient ≠ 0 ∧ token.Eligible block.world.env account ∧
    token.Eligible block.world.env recipient ∧ value.toNat ≤ token.ledger.balances account

/-- The claim is on the identity. -/
def Stored {Provider : Type} (params : SubmitClaimParams Provider) (topic : Uint256) (c : Chain Hash) : Prop :=
  c.world.stack.getClaim params.identity topic params.issuer = .ok (true, params.signature, params.data)

/-- The identity takes the claim in this block: the wallet has a key for it, the issuer is
trusted and calls it valid, and there is a slot. -/
def Takes {Provider : Type} (params : SubmitClaimParams Provider) (topic : Uint256) (block : Chain Hash) : Prop :=
  ∃ contract, block.world.stack.code params.identity = .identity contract ∧
    contract.Admissible params.identity block.world.stack.registry block.world.stack.issuerAt params.wallet topic
      params.issuer params.signature params.data ∧
    ((contract.claims topic params.issuer).present = true ∨
      contract.countByTopic topic < Identity.MAX_CLAIMS_PER_TOPIC)

variable {c next block : Chain Hash} {transaction : Transaction} {inclusion : Inclusion} {hash : JsString}
  {log : List (Entry (Chain Hash) Exchange)} {May : World.Input → Prop} {lib : WebLibrary} {account : Caller}
  {recipient created : Address} {value topic : Uint256}

/-- **What is confirmed** was included: the transaction is in one block, and the receipt is its own. -/
theorem confirmed_lands (passes : (confirmed transaction).Passes (Chain.Serves May) c log (.done hash) next) :
    ∃ inclusion, blocks transaction log = [c.meanwhile inclusion.meanwhile] ∧
      (∀ receipt ∈ c.receipts, receipt.1 ≠ hash) ∧ next = c.mine hash inclusion transaction := by
  obtain ⟨_, _, sentHash, _, rfl, sends, waits⟩ := Program.passes_bind_done.mp passes
  obtain ⟨sent, middle, _, rfl, served, told⟩ := Program.passes_call.mp sends
  obtain ⟨_, _, status, _, rfl, confirms, done⟩ := Program.passes_bind_done.mp waits
  obtain ⟨answer, last, _, rfl, confirmed', reads⟩ := Program.passes_call.mp confirms
  obtain ⟨rfl, rfl, rfl⟩ := Program.passes_ofExcept.mp reads
  obtain ⟨rfl, same, rfl⟩ := Program.passes_done.mp done
  cases same
  cases rejected : sent.rejected with
  | some err =>
    rw [rejected] at told
    cases (Program.reaches_fail.mp told.2).2
  | none =>
    rw [rejected] at told
    obtain ⟨rfl, same, rfl⟩ := Program.passes_done.mp told
    cases same
    cases confirmed' with
    | receipt there =>
      cases served with
      | dropped _ left fresh => exact absurd rfl (fresh _ there)
      | mined _ included others fresh =>
        refine ⟨_, ?_, fresh, rfl⟩
        simp [blocks, blockOf, included]

/-- A transaction goes through, or leaves the block as it was. -/
theorem mine_cases (c : Chain Hash) (hash : JsString) (inclusion : Inclusion) (transaction : Transaction) :
    (∃ after, (c.meanwhile inclusion.meanwhile).transact inclusion.created transaction = .ok after ∧
        c.mine hash inclusion transaction = after.record hash .success) ∨
      (∀ after, (c.meanwhile inclusion.meanwhile).transact inclusion.created transaction ≠ .ok after) ∧
        c.mine hash inclusion transaction = (c.meanwhile inclusion.meanwhile).record hash .reverted := by
  rw [Chain.mine]
  cases (c.meanwhile inclusion.meanwhile).transact inclusion.created transaction with
  | ok after => exact .inl ⟨after, rfl, rfl⟩
  | error error => exact .inr ⟨by simp, rfl⟩

theorem transact_transfer_eq_ok : block.transact created (tokenTransfer account recipient value) = .ok next ↔
    ∃ before after, block.tokenAt GATED_TOKEN = some before ∧
      before.transfer block.world.env account recipient value.toNat = .ok after ∧
      next = block.withWorld (block.world.setSurface GATED_TOKEN (.token after)) := by
  have unfolds : block.transact created (tokenTransfer account recipient value) = (do
      let world ← World.step block.world ⟨account, .call GATED_TOKEN (.token (.transfer recipient value))⟩
      return block.withWorld world) := rfl
  rw [unfolds]
  cases found : block.world.surfaces GATED_TOKEN with
  | none => simp [World.step, found, Chain.tokenAt]
  | some surface =>
    cases surface with
    | token contract =>
      simp only [World.step, found, Surface.call, GatedERC20.call, Chain.tokenAt, bind_eq_ok, pure_outcome,
        Except.ok.injEq, Option.some.injEq]
      constructor
      · rintro ⟨_, ⟨_, ⟨after, done, rfl⟩, rfl⟩, rfl⟩
        exact ⟨contract, after, rfl, done, rfl⟩
      · rintro ⟨_, after, rfl, done, rfl⟩
        exact ⟨_, ⟨_, ⟨after, done, rfl⟩, rfl⟩, rfl⟩
    | _ => simp [World.step, found, Surface.call, Chain.tokenAt]

theorem transact_submitClaim_eq_ok {Provider : Type} {params : SubmitClaimParams Provider} :
    block.transact created (claimSubmission params topic) = .ok next ↔
      ∃ before after claimId, block.world.stack.code params.identity = .identity before ∧
        before.submitClaim params.identity block.world.stack.registry block.world.stack.issuerAt params.wallet topic
          params.issuer params.signature params.data = .ok (after, claimId) ∧
        next = block.withWorld { block.world with
          stack := block.world.stack.setCode params.identity (.identity after) } := by
  have unfolds : block.transact created (claimSubmission params topic) = (do
      let world ← World.step block.world ⟨params.wallet, .stack (.identity params.identity
        (.submitClaim topic params.issuer params.signature params.data))⟩
      return block.withWorld world) := rfl
  rw [unfolds]
  cases found : block.world.stack.code params.identity with
  | identity contract =>
    simp only [World.step, Stack.step, found, Identity.call, bind_eq_ok, pure_outcome, Except.ok.injEq,
      Code.identity.injEq]
    constructor
    · rintro ⟨_, ⟨_, ⟨_, ⟨⟨after, claimId⟩, done, rfl⟩, rfl⟩, rfl⟩, rfl⟩
      exact ⟨contract, after, claimId, rfl, done, rfl⟩
    · rintro ⟨_, after, claimId, rfl, done, rfl⟩
      exact ⟨_, ⟨_, ⟨_, ⟨⟨after, claimId⟩, done, rfl⟩, rfl⟩, rfl⟩, rfl⟩
  | _ => simp [World.step, Stack.step, found]

omit [DecidableEq Hash] in
/-- A submission goes through exactly if the identity takes it. -/
theorem submitClaim_succeeds {self : Identity Hash} {this issuer : Address} {registry : IssuerRegistry}
    {issuerAt : Address → IClaimIssuer} {msgSender : Address} {sig data : Bytes} :
    (∃ next claimId,
        self.submitClaim this registry issuerAt msgSender topic issuer sig data = .ok (next, claimId)) ↔
      self.Admissible this registry issuerAt msgSender topic issuer sig data ∧
        ((self.claims topic issuer).present = true ∨ self.countByTopic topic < Identity.MAX_CLAIMS_PER_TOPIC) := by
  constructor
  · rintro ⟨next, claimId, done⟩
    obtain ⟨keyed, trusted, valid, counts, taken, -⟩ := Identity.submitClaim_changes done
    refine ⟨⟨keyed, trusted, valid⟩, ?_⟩
    rcases Identity.takeSlot_eq_ok taken with ⟨existing, -⟩ | ⟨-, room, -⟩
    · exact .inl existing
    · exact .inr room
  · rintro ⟨admissible, slot⟩
    rw [Identity.submitClaim_of_admissible admissible]
    have taken : ∃ counts, self.takeSlot topic issuer = .ok counts := by
      rcases slot with existing | room
      · exact ⟨_, Identity.takeSlot_existing existing⟩
      · exact Identity.takeSlot_of_room room
    obtain ⟨counts, taken⟩ := taken
    rw [taken]
    exact ⟨_, _, rfl⟩

/-- The transfer happened exactly if the block could make it. -/
theorem transferred_iff (solvent : c.world.Solvent) (fresh : ∀ receipt ∈ c.receipts, receipt.1 ≠ hash) :
    Transferred account recipient value hash (c.meanwhile inclusion.meanwhile)
        (c.mine hash inclusion (tokenTransfer account recipient value)) ↔
      Transferable account recipient value (c.meanwhile inclusion.meanwhile) := by
  have possible : Transferable account recipient value (c.meanwhile inclusion.meanwhile) ↔ ∃ after,
      (c.meanwhile inclusion.meanwhile).transact inclusion.created (tokenTransfer account recipient value) =
        .ok after := by
    constructor
    · rintro ⟨token, found, ways⟩
      obtain ⟨after, done⟩ := GatedERC20.transfer_succeeds.mpr ⟨account.property, ways⟩
      exact ⟨_, transact_transfer_eq_ok.mpr ⟨token, after, found, done, rfl⟩⟩
    · rintro ⟨_, done⟩
      obtain ⟨token, after, found, moved, -⟩ := transact_transfer_eq_ok.mp done
      obtain ⟨-, ways⟩ := GatedERC20.transfer_succeeds.mp ⟨after, moved⟩
      exact ⟨token, found, ways⟩
  rw [possible]
  rcases mine_cases c hash inclusion (tokenTransfer account recipient value) with
    ⟨_, done, same⟩ | ⟨refused, same⟩
  · refine iff_of_true ?_ ⟨_, done⟩
    obtain ⟨token, after, found, moved, rfl⟩ := transact_transfer_eq_ok.mp done
    have sound := Chain.meanwhile_solvent solvent inclusion.meanwhile _ token (Chain.surface_of_tokenAt found)
    rw [same]
    refine ⟨List.mem_cons_self, token, after, found, ?_, GatedERC20.transfer_moves sound moved⟩
    exact (@Chain.resolverAt_setToken _ _ _ 0 _ after found).2
  · refine iff_of_false ?_ (by simpa using refused)
    rintro ⟨succeeded, -⟩
    rw [same] at succeeded
    rcases List.mem_cons.mp succeeded with now | earlier
    · cases now
    · exact fresh _ earlier rfl

/-- The claim is there exactly if it was, or the identity took it. -/
theorem stored_iff {Provider : Type} {params : SubmitClaimParams Provider} :
    Stored params topic (c.mine hash inclusion (claimSubmission params topic)) ↔
      Stored params topic (c.meanwhile inclusion.meanwhile) ∨
        Takes params topic (c.meanwhile inclusion.meanwhile) := by
  rcases mine_cases c hash inclusion (claimSubmission params topic) with ⟨_, done, same⟩ | ⟨refused, same⟩
  · obtain ⟨contract, after, claimId, code, submits, rfl⟩ := transact_submitClaim_eq_ok.mp done
    refine iff_of_true ?_ (.inr ⟨contract, code, submitClaim_succeeds.mp ⟨after, claimId, submits⟩⟩)
    obtain ⟨-, -, -, counts, -, rfl⟩ := Identity.submitClaim_changes submits
    rw [same]
    change Stack.getClaim (Stack.setCode _ _ _) _ _ _ = _
    rw [Stack.getClaim, Stack.setCode_self]
    refine congrArg Except.ok (Identity.getClaim_eq_present.mpr ?_)
    simp [Identity.submitted]
  · have still : Stored params topic (c.mine hash inclusion (claimSubmission params topic)) ↔
        Stored params topic (c.meanwhile inclusion.meanwhile) := by rw [same]; rfl
    refine still.trans ⟨.inl, Or.rec id ?_⟩
    rintro ⟨contract, code, ways⟩
    obtain ⟨after, claimId, submits⟩ := submitClaim_succeeds.mpr ways
    exact absurd (transact_submitClaim_eq_ok.mpr ⟨contract, after, claimId, code, submits, rfl⟩) (refused _)

/-- **What a client reports as done**: the transfer was made exactly if the block that
includes it could make it, and the claim is on the identity exactly if it was there
already or the identity takes it in the block that includes the submission. Nothing in
the answer tells. -/
theorem writes_take_effect_iff (reachable : c.world.Reachable) {lib : WebLibrary}
    {log : List (Entry (Chain Hash) Exchange)}
    {hash : JsString} {next : Chain Hash} :
    (∀ params, (agentTransfer lib params).Passes (Chain.Serves fun _ => True) c log (.done hash) next →
        ∃ account value block, lib.privateKeyToAccount params.agentPrivateKey = .ok account ∧
          (lib.parseEther params.requestedAmount).bind lib.encodeUint256 = .ok value ∧
          blocks (tokenTransfer account params.recipient value) log = [block] ∧
          (Transferred account params.recipient value hash block next ↔
            Transferable account params.recipient value block)) ∧
      ∀ (Provider : Type) (window : Option Provider) params,
        (submitClaim lib window params).Passes (Chain.Serves fun _ => True) c log (.done hash) next →
          ∃ topic block, lib.encodeUint256 params.topic = .ok topic ∧
            blocks (claimSubmission params topic) log = [block] ∧
            (Stored params topic next ↔ Stored params topic block ∨ Takes params topic block) := by
  constructor
  · intro params passes
    obtain ⟨_, _, account, _, rfl, keys, parsing⟩ := Program.passes_bind_done.mp passes
    obtain ⟨key, rfl, rfl⟩ := Program.passes_ofExcept.mp keys
    obtain ⟨_, _, amount, _, rfl, parses, encoding⟩ := Program.passes_bind_done.mp parsing
    obtain ⟨parsed, rfl, rfl⟩ := Program.passes_ofExcept.mp parses
    obtain ⟨_, _, value, _, rfl, encodes, writing⟩ := Program.passes_bind_done.mp encoding
    obtain ⟨encoded, rfl, rfl⟩ := Program.passes_ofExcept.mp encodes
    obtain ⟨inclusion, included, fresh, same⟩ := confirmed_lands writing
    refine ⟨account, value, _, key, ?_, included, ?_⟩
    · rw [parsed]
      exact encoded
    · rw [same]
      exact transferred_iff reachable.solvent fresh
  · intro Provider window params passes
    rw [submitClaim] at passes
    split at passes
    · cases (Program.reaches_fail.mp passes.2).2
    obtain ⟨_, _, topic, _, rfl, encodes, writing⟩ := Program.passes_bind_done.mp passes
    obtain ⟨encoded, rfl, rfl⟩ := Program.passes_ofExcept.mp encodes
    obtain ⟨inclusion, included, -, same⟩ := confirmed_lands writing
    refine ⟨topic, _, encoded, included, ?_⟩
    rw [same]
    exact stored_iff

end Effects

/-- The account of the private key 1. -/
def sessionAgent : Caller := ⟨0x7e5f4552091a69125d5dfcb7b8c2659029395bdf, by decide⟩

def webLibrary : WebLibrary where
  toHeroLibrary := heroLibrary
  privateKeyToAccount key := if key = word 1 then .ok sessionAgent else .error (thrown (text "invalid private key"))
  parseEther amount := if amount = text "10" then .ok (10 ^ 19) else .error (thrown (text "InvalidDecimalNumberError"))

/-- The agent is linked to the person onboarded, and has a hundred tokens. -/
def webOpening : List World.Input :=
  World.opening ++ [
    ⟨Stack.admin, .stack (.factory (.linkAgent sessionAgent 30))⟩,
    ⟨Stack.admin, .deploy GATED_TOKEN (.token 2 3 1 10)⟩,
    ⟨Stack.admin, .call GATED_TOKEN (.token (.mint sessionAgent 100000000000000000000))⟩]

def webChain (more : List World.Input) : Chain Symbolic :=
  { heroChain with world := exec World.step heroRoom (webOpening ++ more) }

theorem webChain_reachable (more : List World.Input) : (webChain more).world.Reachable := by
  refine ⟨heroRoom, webOpening ++ more, heroRoom_genesis, ?_⟩
  rw [webChain]

def revokePerson : World.Input :=
  ⟨Stack.admin, .stack (.claimIssuer 20 (.setRevoked 30 ClaimTopics.KYC_VERIFIED true))⟩

def tenTokens : AgentTransferParams where
  agentPrivateKey := word 1
  recipient := 11
  amount := none

/-- What the receipts say after a transfer, and what the agent and the person have. -/
def afterTransfer (c : Chain Symbolic) : Option (List ReceiptStatus × Option ℕ × Option ℕ) :=
  ((agentTransfer webLibrary tenTokens).carryOut Chain.reply c).map fun (_, next) =>
    (next.receipts.map Prod.snd, next.balanceOf GATED_TOKEN sessionAgent, next.balanceOf GATED_TOKEN 11)

theorem tenTokens_pass {more : List World.Input} {reads : List ReceiptStatus × Option ℕ × Option ℕ}
    (ran : afterTransfer (webChain more) = some reads) : ∃ log hash next,
      (agentTransfer webLibrary tenTokens).Passes (Chain.Serves fun _ => True) (webChain more) log (.done hash) next ∧
        next.receipts.map Prod.snd = reads.1 := by
  obtain ⟨⟨hash, next⟩, returned, read⟩ := Option.map_eq_some_iff.mp ran
  have completes : (agentTransfer webLibrary tenTokens).Completes (Chain.Serves fun _ => True)
      (webChain more) hash next :=
    Program.completes_of_carryOut (fun _ _ _ _ => Chain.serves_of_reply) returned
  obtain ⟨log, passes⟩ := completes.passes
  exact ⟨log, hash, next, passes, congrArg Prod.fst read⟩

/-- Once the person is revoked, the transfer is answered with a hash and reverts. -/
theorem afterTransfer_revoked : afterTransfer (webChain [revokePerson]) =
    some ([.reverted], some 100000000000000000000, some 0) := by decide +kernel

theorem not_transferred {account : Caller} {recipient : Address} {value : Uint256} {hash : JsString}
    {block next : Chain Symbolic} (reads : next.receipts.map Prod.snd = [.reverted]) :
    ¬ Transferred account recipient value hash block next := by
  rintro ⟨succeeded, -⟩
  have listed : Prod.snd (hash, ReceiptStatus.success) ∈ next.receipts.map Prod.snd := List.mem_map_of_mem succeeded
  rw [reads] at listed
  simp at listed

theorem no_transfer_of_revoked : ∃ log hash next account value block,
    (agentTransfer webLibrary tenTokens).Passes (Chain.Serves fun _ => True)
    (webChain [revokePerson]) log (.done hash) next ∧
      blocks (tokenTransfer account 11 value) log = [block] ∧ ¬ Transferable account 11 value block := by
  obtain ⟨log, hash, next, passes, reads⟩ := tenTokens_pass afterTransfer_revoked
  obtain ⟨account, value, block, -, -, included, same⟩ :=
    (writes_take_effect_iff (webChain_reachable [revokePerson])).1 tenTokens passes
  exact ⟨log, hash, next, account, value, block, passes, included, fun able =>
    not_transferred reads (same.mpr able)⟩

theorem revoked_transfer_resolves :
    ¬ ∀ (lib : WebLibrary) (c next : Chain Symbolic) (log : List (Entry (Chain Symbolic) Exchange))
        (hash : JsString), c.world.Reachable →
        (∀ params, (agentTransfer lib params).Passes (Chain.Serves fun _ => True) c log (.done hash) next →
          ∃ account value block, lib.privateKeyToAccount params.agentPrivateKey = .ok account ∧
            (lib.parseEther params.requestedAmount).bind lib.encodeUint256 = .ok value ∧
            blocks (tokenTransfer account params.recipient value) log = [block] ∧
            Transferred account params.recipient value hash block next) ∧
        ∀ (Provider : Type) (window : Option Provider) params,
          (submitClaim lib window params).Passes (Chain.Serves fun _ => True) c log (.done hash) next →
            ∃ topic, lib.encodeUint256 params.topic = .ok topic ∧ Stored params topic next := by
  intro claimed
  obtain ⟨log, hash, next, passes, reads⟩ := tenTokens_pass afterTransfer_revoked
  obtain ⟨transfers, -⟩ := claimed webLibrary _ next log hash (webChain_reachable [revokePerson])
  obtain ⟨account, value, block, -, -, -, transferred⟩ := transfers tenTokens passes
  exact not_transferred reads transferred

end PassportKit.Hero
