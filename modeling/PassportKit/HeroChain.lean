import PassportKit.Interaction
import PassportKit.Refusals
import PassportKit.ScoreRegistry
import PassportKit.World

/-! The chain as the hero demo reaches it, from the API and from the browser. A
transaction that is sent with its gas given is not simulated first. It may be accepted
or not and be included in a block or not, each independently of what its sender is told,
and a block includes it whether it succeeds or reverts. -/
namespace PassportKit.Hero
open Evm Eip712 Interaction Runs
open Js (JsString text)
open Refusals (Thrown)

/-- A function of a contract, with its arguments encoded. -/
inductive ContractFunction where
  | createIdentity (wallet : Address)
  | linkAgent (agentWallet personIdentity : Address)
  | setIdentity (node parentNode : Bytes32) (identity : Address)
  | setScore (agent : Address) (score : Uint256)
  | mint (recipient : Address) (amt : Uint256)
  | transfer (recipient : Address) (value : Uint256)
  | submitClaim (topic : Uint256) (issuer : Address) (sig data : Bytes)
  deriving DecidableEq

inductive Transaction where
  | writeContract (account : Caller) (address : Address) (function : ContractFunction) (gas : Option ℕ)
  | sendTransaction (account : Caller) (recipient : Address) (value : ℕ)
  deriving DecidableEq

/-- How a transaction gets into a block. -/
structure Inclusion where
  /-- What the chain does first. -/
  meanwhile : List World.Input
  /-- The address that `CREATE` chooses, if anything is deployed. -/
  created : Address

/-- How sending ends. Whether the transaction is ever included is decided by the chain,
and whoever sent it may be told of a failure all the same. -/
structure Sent where
  hash : JsString
  rejected : Option Thrown
  included : Option Inclusion

inductive ReceiptStatus where
  | success
  | reverted
  deriving DecidableEq, Repr

inductive ViemCall where
  | identityOfWallet (factory wallet : Address)
  | getBalance (address : Address)
  | send (transaction : Transaction)
  | waitForTransactionReceipt (hash : JsString)
  | delay (ms : ℕ)
  deriving DecidableEq

abbrev ViemCall.Answer : ViemCall → Type
  | .identityOfWallet _ _ => Except Thrown Address
  | .getBalance _ => Except Thrown ℕ
  | .send _ => Sent
  | .waitForTransactionReceipt _ => Except Thrown ReceiptStatus
  | .delay _ => Unit

abbrev Exchange := Program.Exchange ViemCall ViemCall.Answer

abbrev Handler (α : Type) := Program ViemCall ViemCall.Answer Thrown α

def identityOfWallet (factory wallet : Address) : Handler Address := .call (.identityOfWallet factory wallet) .ofExcept

def getBalance (address : Address) : Handler ℕ := .call (.getBalance address) .ofExcept

def send (transaction : Transaction) : Handler JsString :=
  .call (.send transaction) fun sent =>
    match sent.rejected with
    | some err => .fail err
    | none => .done sent.hash

def waitForTransactionReceipt (hash : JsString) : Handler ReceiptStatus :=
  .call (.waitForTransactionReceipt hash) .ofExcept

def delay (ms : ℕ) : Handler Unit := Program.perform (ViemCall.delay ms)

/-! ## The chain -/

structure Chain (Hash : Type) where
  world : World Hash
  /-- Where the registry of the agents' scores lives. -/
  scoreRegistry : Address
  scores : ScoreRegistry
  /-- What the blocks include. -/
  receipts : List (JsString × ReceiptStatus)

namespace Chain

section Reads
variable {Hash : Type} [Crypto Hash] (c : Chain Hash)

def identityOfWallet (factory wallet : Address) : Result Address :=
  (c.world.env.resolverAt factory).identityOfWallet wallet

def tokenAt (address : Address) : Option GatedERC20 :=
  match c.world.surfaces address with
  | some (.token contract) => some contract
  | _ => none

def resolverAt (address : Address) : Option PassportResolver :=
  match c.world.surfaces address with
  | some (.resolver contract) => some contract
  | _ => none

/-- The identity a name is bound to. -/
def boundTo (resolver : Address) (node : Bytes32) : Option Address :=
  (c.resolverAt resolver).map (·.identityOf node)

def scoreOf (registry agent : Address) : Option Uint256 :=
  if registry = c.scoreRegistry then some (c.scores.scoreOf agent) else none

def balanceOf (token wallet : Address) : Option ℕ := (c.tokenAt token).map (·.ledger.balances wallet)

end Reads

section Blocks
variable {Hash : Type} [Crypto Hash] [DecidableEq Hash]

def withWorld (c : Chain Hash) (world : World Hash) : Chain Hash := { c with world }

def withScores (c : Chain Hash) (scores : ScoreRegistry) : Chain Hash := { c with scores }

/-- Other transactions, and time. -/
def meanwhile (c : Chain Hash) (inputs : List World.Input) : Chain Hash :=
  c.withWorld (exec World.step c.world inputs)

/-- What a contract of ours makes of a call. There is one factory. -/
def worldAction (c : Chain Hash) (address created : Address) : ContractFunction → Result World.Action
  | .createIdentity wallet => do
    revertIf (address ≠ c.world.factory) .undecodable
    return .stack (.createIdentity wallet created)
  | .linkAgent agentWallet personIdentity => do
    revertIf (address ≠ c.world.factory) .undecodable
    return .stack (.factory (.linkAgent agentWallet personIdentity))
  | .setIdentity node parentNode identity => return .call address (.resolver (.setIdentity node parentNode identity))
  | .mint recipient amt => return .call address (.token (.mint recipient amt))
  | .transfer recipient value => return .call address (.token (.transfer recipient value))
  | .submitClaim topic issuer sig data => return .stack (.identity address (.submitClaim topic issuer sig data))
  | .setScore _ _ => .error .undecodable

def transact (c : Chain Hash) (created : Address) : Transaction → Result (Chain Hash)
  | .sendTransaction _ _ _ => return c
  | .writeContract account address (.setScore agent score) _ => do
    revertIf (address ≠ c.scoreRegistry) .undecodable
    let scores ← c.scores.setScore account agent score
    return c.withScores scores
  | .writeContract account address function _ => do
    let action ← c.worldAction address created function
    let world ← World.step c.world ⟨account, action⟩
    return c.withWorld world

def record (c : Chain Hash) (hash : JsString) (status : ReceiptStatus) : Chain Hash :=
  { c with receipts := (hash, status) :: c.receipts }

/-- The block after those in which the transaction waits. -/
def mine (c : Chain Hash) (hash : JsString) (inclusion : Inclusion) (transaction : Transaction) : Chain Hash :=
  let block := c.meanwhile inclusion.meanwhile
  match block.transact inclusion.created transaction with
  | .ok next => next.record hash .success
  | .error _ => block.record hash .reverted

/-- What the chain may answer, where what it does meanwhile is one of these. Reading,
and waiting, fails at any time; no two transactions have one hash. -/
inductive Serves (May : World.Input → Prop) : Chain Hash → Exchange → Chain Hash → Prop where
  | identityOfWallet {c : Chain Hash} {inputs : List World.Input} (others : ∀ input ∈ inputs, May input)
      {factory wallet identity : Address}
      (answered : (c.meanwhile inputs).identityOfWallet factory wallet = .ok identity) :
      Serves May c ⟨.identityOfWallet factory wallet, .ok identity⟩ (c.meanwhile inputs)
  | unread (c : Chain Hash) (factory wallet : Address) (err : Thrown) :
      Serves May c ⟨.identityOfWallet factory wallet, .error err⟩ c
  | getBalance (c : Chain Hash) (address : Address) (balance : Except Thrown ℕ) :
      Serves May c ⟨.getBalance address, balance⟩ c
  | dropped {c : Chain Hash} {sent : Sent} (transaction : Transaction) (left : sent.included = none)
      (fresh : ∀ receipt ∈ c.receipts, receipt.1 ≠ sent.hash) : Serves May c ⟨.send transaction, sent⟩ c
  | mined {c : Chain Hash} {sent : Sent} {inclusion : Inclusion} (transaction : Transaction)
      (included : sent.included = some inclusion) (others : ∀ input ∈ inclusion.meanwhile, May input)
      (fresh : ∀ receipt ∈ c.receipts, receipt.1 ≠ sent.hash) :
      Serves May c ⟨.send transaction, sent⟩ (c.mine sent.hash inclusion transaction)
  | receipt {c : Chain Hash} {hash : JsString} {status : ReceiptStatus} (there : (hash, status) ∈ c.receipts) :
      Serves May c ⟨.waitForTransactionReceipt hash, .ok status⟩ c
  | unconfirmed (c : Chain Hash) (hash : JsString) (err : Thrown) :
      Serves May c ⟨.waitForTransactionReceipt hash, .error err⟩ c
  | delay (c : Chain Hash) {inputs : List World.Input} (others : ∀ input ∈ inputs, May input) (ms : ℕ) :
      Serves May c ⟨.delay ms, ()⟩ (c.meanwhile inputs)

variable {May : World.Input → Prop} {c next : Chain Hash} {transaction : Transaction}

/-- Reverted or not, what a transaction leaves is what it leaves of the block before it. -/
theorem mine_eq (hash : JsString) (inclusion : Inclusion) : ∃ status, c.mine hash inclusion transaction =
    (settle (fun block created => transact block created transaction) (c.meanwhile inclusion.meanwhile)
      inclusion.created).record hash status := by
  rw [mine]
  cases outcome : (c.meanwhile inclusion.meanwhile).transact inclusion.created transaction with
  | ok next => exact ⟨.success, by rw [settle_ok outcome]⟩
  | error error => exact ⟨.reverted, by rw [settle_error outcome]⟩

/-- A call of a contract of ours is a transaction of the deployment. -/
theorem settle_transact {block : Chain Hash} {created address : Address} {function : ContractFunction}
    {action : World.Action} (acts : block.worldAction address created function = .ok action) (account : Caller)
    (gas : Option ℕ) :
    settle (fun block created => transact block created (.writeContract account address function gas)) block created =
      block.withWorld (settle World.step block.world ⟨account, action⟩) := by
  have through : block.transact created (.writeContract account address function gas) =
      (World.step block.world ⟨account, action⟩).map block.withWorld := by
    cases function with
    | setScore agent score => cases acts
    | _ =>
      simp only [transact, acts, ok_bind]
      cases World.step block.world ⟨account, action⟩ <;> rfl
  exact settle_through through rfl

/-- One that is a call of none of ours changes nothing. -/
theorem settle_transact_error {block : Chain Hash} {created address : Address} {function : ContractFunction}
    {error : Revert Error} (acts : block.worldAction address created function = .error error)
    (elsewhere : ∀ agent score, function ≠ .setScore agent score) (account : Caller) (gas : Option ℕ) :
    settle (fun block created => transact block created (.writeContract account address function gas)) block created =
      block := by
  have failed : block.transact created (.writeContract account address function gas) = .error error := by
    cases function with
    | setScore agent score => exact absurd rfl (elsewhere agent score)
    | _ =>
      simp only [transact, acts]
      rfl
  exact settle_error failed

section Surfaces
variable {world : World Hash} {address other : Address} {sender : Caller}

omit [Crypto Hash] [DecidableEq Hash] in
theorem surface_of_resolverAt {contract : PassportResolver} (found : c.resolverAt address = some contract) :
    c.world.surfaces address = some (.resolver contract) := by
  rw [resolverAt] at found
  split at found <;> cases found
  assumption

omit [Crypto Hash] [DecidableEq Hash] in
theorem surface_of_tokenAt {contract : GatedERC20} (found : c.tokenAt address = some contract) :
    c.world.surfaces address = some (.token contract) := by
  rw [tokenAt] at found
  split at found <;> cases found
  assumption

/-- A call of a resolver goes to a resolver, and leaves every other surface. -/
theorem settle_resolver_call (call : PassportResolver.Call) :
    (∀ contract, c.resolverAt address = some contract →
      settle World.step c.world ⟨sender, .call address (.resolver call)⟩ = c.world.setSurface address
        (.resolver (settle (fun contract call => contract.call sender.val call) contract call))) ∧
      (c.resolverAt address = none →
        settle World.step c.world ⟨sender, .call address (.resolver call)⟩ = c.world) := by
  constructor
  · intro contract found
    rw [World.settle_call (surface_of_resolverAt found), Surface.settle_resolver]
  · intro absent
    cases there : c.world.surfaces address with
    | none => exact World.settle_call_none there sender _
    | some surface =>
      cases surface with
      | resolver contract => simp [resolverAt, there] at absent
      | _ =>
        have failed : World.step c.world ⟨sender, .call address (.resolver call)⟩ = .error (.bubbled []) := by
          simp only [World.step, there]
          rfl
        exact settle_error failed

theorem settle_token_call (call : GatedERC20.Call) :
    (∀ contract, c.tokenAt address = some contract →
      settle World.step c.world ⟨sender, .call address (.token call)⟩ = c.world.setSurface address
        (.token (settle (fun contract call => contract.call c.world.env sender.val call) contract call))) ∧
      (c.tokenAt address = none → settle World.step c.world ⟨sender, .call address (.token call)⟩ = c.world) := by
  constructor
  · intro contract found
    rw [World.settle_call (surface_of_tokenAt found), Surface.settle_token]
  · intro absent
    cases there : c.world.surfaces address with
    | none => exact World.settle_call_none there sender _
    | some surface =>
      cases surface with
      | token contract => simp [tokenAt, there] at absent
      | _ =>
        have failed : World.step c.world ⟨sender, .call address (.token call)⟩ = .error (.bubbled []) := by
          simp only [World.step, there]
          rfl
        exact settle_error failed

omit [Crypto Hash] [DecidableEq Hash] in
/-- Where a resolver is replaced by a resolver, the tokens stay. -/
theorem tokenAt_setResolver {before after : PassportResolver} (found : c.resolverAt address = some before) :
    (c.withWorld (c.world.setSurface address (.resolver after))).tokenAt other = c.tokenAt other ∧
      (c.withWorld (c.world.setSurface address (.resolver after))).resolverAt address = some after := by
  have there := surface_of_resolverAt found
  constructor
  · simp only [tokenAt, withWorld, World.setSurface]
    by_cases same : other = address
    · rw [same, Function.update_self, there]
    · rw [Function.update_of_ne same]
  · simp only [resolverAt, withWorld, World.setSurface, Function.update_self]

omit [Crypto Hash] [DecidableEq Hash] in
theorem resolverAt_setToken {before after : GatedERC20} (found : c.tokenAt address = some before) :
    (c.withWorld (c.world.setSurface address (.token after))).resolverAt other = c.resolverAt other ∧
      (c.withWorld (c.world.setSurface address (.token after))).tokenAt address = some after := by
  have there := surface_of_tokenAt found
  constructor
  · simp only [resolverAt, withWorld, World.setSurface]
    by_cases same : other = address
    · rw [same, Function.update_self, there]
    · rw [Function.update_of_ne same]
  · simp only [tokenAt, withWorld, World.setSurface, Function.update_self]

end Surfaces

/-- The transaction is sent here, and included. -/
def Landed (May : World.Input → Prop) (transaction : Transaction) (entry : Entry (Chain Hash) Exchange) : Prop :=
  ∃ sent inclusion, entry.event = ⟨.send transaction, sent⟩ ∧ sent.included = some inclusion ∧
    (∀ input ∈ inclusion.meanwhile, May input) ∧ entry.after = entry.before.mine sent.hash inclusion transaction

/-- **One answer.** A transaction lands, or nothing happens but what else may. -/
theorem Serves.effect {exchange : Exchange} (served : Serves May c exchange next) :
    (∃ transaction, Landed May transaction ⟨c, exchange, next⟩) ∨
      ((∀ transaction sent, exchange = ⟨.send transaction, sent⟩ → sent.included = none) ∧
        ∃ inputs, (∀ input ∈ inputs, May input) ∧ next = c.meanwhile inputs) := by
  cases served with
  | mined transaction included others => exact .inl ⟨transaction, _, _, rfl, included, others, rfl⟩
  | dropped transaction left =>
    refine .inr ⟨?_, [], by simp, rfl⟩
    rintro other sent same
    cases same
    exact left
  | identityOfWallet others => exact .inr ⟨by rintro other sent ⟨⟩, _, others, rfl⟩
  | delay others => exact .inr ⟨by rintro other sent ⟨⟩, _, others, rfl⟩
  | unread | getBalance | receipt | unconfirmed => exact .inr ⟨by rintro other sent ⟨⟩, [], by simp, rfl⟩

theorem transact_solvent {created : Address} (solvent : c.world.Solvent)
    (done : c.transact created transaction = .ok next) : next.world.Solvent := by
  cases transaction with
  | sendTransaction account recipient value =>
    cases done
    exact solvent
  | writeContract account address function gas =>
    cases function with
    | setScore agent score =>
      simp only [transact, bind_eq_ok, pure_outcome, Except.ok.injEq] at done
      obtain ⟨-, -, scores, -, rfl⟩ := done
      exact solvent
    | _ =>
      simp only [transact, bind_eq_ok, pure_outcome, Except.ok.injEq] at done
      obtain ⟨action, -, world, stepped, rfl⟩ := done
      exact World.step_solvent solvent stepped

theorem meanwhile_solvent (solvent : c.world.Solvent) (inputs : List World.Input) :
    (c.meanwhile inputs).world.Solvent :=
  exec_preserves (fun _ _ _ => World.step_solvent) solvent inputs

theorem mine_solvent (solvent : c.world.Solvent) (hash : JsString) (inclusion : Inclusion) :
    (c.mine hash inclusion transaction).world.Solvent := by
  obtain ⟨status, same⟩ := @mine_eq _ _ _ c transaction hash inclusion
  rw [same]
  have kept : (settle (fun block created => transact block created transaction) (c.meanwhile inclusion.meanwhile)
      inclusion.created).world.Solvent := by
    cases outcome : (c.meanwhile inclusion.meanwhile).transact inclusion.created transaction with
    | ok next =>
      rw [settle_ok outcome]
      exact transact_solvent (meanwhile_solvent solvent _) outcome
    | error error =>
      rw [settle_error outcome]
      exact meanwhile_solvent solvent _
  exact kept

theorem Serves.solvent {exchange : Exchange} (solvent : c.world.Solvent) (served : Serves May c exchange next) :
    next.world.Solvent := by
  rcases served.effect with ⟨transaction, sent, inclusion, -, -, -, same⟩ | ⟨-, inputs, -, rfl⟩
  · change next = _ at same
    rw [same]
    exact mine_solvent solvent _ _
  · exact meanwhile_solvent solvent _

theorem trace_solvent {log : List (Entry (Chain Hash) Exchange)} (trace : Trace (Serves May) c log next)
    (solvent : c.world.Solvent) : next.world.Solvent := by
  induction trace with
  | nil => exact solvent
  | cons served _ ih => exact ih (served.solvent solvent)

/-! ## A chain at work -/

/-- The hash of the next transaction. -/
def nextHash (c : Chain Hash) : JsString := text "0x" ++ List.replicate (c.receipts.length + 1) 49

/-- A chain that includes every transaction at once, and tells its sender. -/
def reply (c : Chain Hash) : (request : ViemCall) → Option (Chain Hash × ViemCall.Answer request)
  | .identityOfWallet factory wallet =>
    match c.identityOfWallet factory wallet with
    | .ok identity => some (c, .ok identity)
    | .error _ => none
  | .getBalance _ => some (c, .ok 0)
  | .send transaction =>
    if ∀ receipt ∈ c.receipts, receipt.1 ≠ c.nextHash then
      some (c.mine c.nextHash ⟨[], 0⟩ transaction,
        { hash := c.nextHash, rejected := none, included := some ⟨[], 0⟩ })
    else none
  | .waitForTransactionReceipt hash =>
    (c.receipts.find? fun receipt => receipt.1 = hash).map fun receipt => (c, .ok receipt.2)
  | .delay _ => some (c, ())

theorem serves_of_reply {request : ViemCall} {answer : ViemCall.Answer request}
    (replied : c.reply request = some (next, answer)) : Serves May c ⟨request, answer⟩ next := by
  cases request with
  | identityOfWallet factory wallet =>
    rw [reply] at replied
    split at replied
    · rename_i identity answered
      cases replied
      exact @Serves.identityOfWallet _ _ _ May c [] (by simp) _ _ _ answered
    · cases replied
  | getBalance address =>
    cases replied
    exact .getBalance c address _
  | send transaction =>
    rw [reply] at replied
    split at replied
    · rename_i fresh
      cases replied
      exact .mined transaction rfl (by simp) fresh
    · cases replied
  | waitForTransactionReceipt hash =>
    obtain ⟨⟨same, status⟩, found, told⟩ := Option.map_eq_some_iff.mp replied
    cases told
    have there := List.mem_of_find?_eq_some found
    have named := List.find?_some found
    rw [decide_eq_true_iff] at named
    cases named
    exact .receipt there
  | delay ms =>
    cases replied
    exact @Serves.delay _ _ _ May c [] (by simp) ms

end Blocks

end Chain

section Blocks
variable {Hash : Type} [Crypto Hash] [DecidableEq Hash] {c next : Chain Hash} {transaction : Transaction}
  {inclusion : Inclusion} {log first second : List (Entry (Chain Hash) Exchange)} {May : World.Input → Prop}

/-- The block that includes a transaction, if it is sent here and included. -/
def blockOf (transaction : Transaction) : Entry (Chain Hash) Exchange → Option (Chain Hash)
  | ⟨before, ⟨.send sending, sent⟩, _⟩ =>
    if sending = transaction then sent.included.map fun inclusion => before.meanwhile inclusion.meanwhile else none
  | _ => none

/-- The blocks in which a run has a transaction included. -/
def blocks (transaction : Transaction) (log : List (Entry (Chain Hash) Exchange)) : List (Chain Hash) :=
  log.filterMap (blockOf transaction)

theorem sent_of_blockOf {entry : Entry (Chain Hash) Exchange} (here : blockOf transaction entry ≠ none) :
    entry.event.1 = .send transaction := by
  obtain ⟨before, ⟨request, answer⟩, after⟩ := entry
  cases request with
  | send sending =>
    by_contra apart
    have other : sending ≠ transaction := fun same => apart (congrArg ViemCall.send same)
    exact here (by simp [blockOf, other])
  | _ => exact absurd rfl here

theorem blocks_quiet (quiet : ∀ entry ∈ log, entry.event.1 ≠ .send transaction) :
    blocks transaction log = [] := by
  refine List.filterMap_eq_nil_iff.mpr fun entry member => ?_
  by_contra here
  exact quiet entry member (sent_of_blockOf here)

theorem blocks_append : blocks transaction (first ++ second) = blocks transaction first ++ blocks transaction second :=
  List.filterMap_append

theorem blocks_cons_some {entry : Entry (Chain Hash) Exchange} {block : Chain Hash}
    (here : blockOf transaction entry = some block) :
    blocks transaction (entry :: log) = block :: blocks transaction log := List.filterMap_cons_some here

theorem blocks_cons_none {entry : Entry (Chain Hash) Exchange} (none : blockOf transaction entry = none) :
    blocks transaction (entry :: log) = blocks transaction log := List.filterMap_cons_none none

theorem blocks_ne_nil : blocks transaction log ≠ [] ↔ ∃ entry ∈ log, blockOf transaction entry ≠ none := by
  rw [ne_eq, blocks, List.filterMap_eq_nil_iff]
  push Not
  rfl

theorem blockOf_landed {entry : Entry (Chain Hash) Exchange} {sent : Sent}
    (event : entry.event = ⟨.send transaction, sent⟩) (included : sent.included = some inclusion) :
    blockOf transaction entry = some (entry.before.meanwhile inclusion.meanwhile) := by
  obtain ⟨before, event', after⟩ := entry
  dsimp only at event
  subst event
  simp [blockOf, included]

/-- What is sent lands, or nothing happens but what else may. -/
theorem entries_of_sends {Sends : Transaction → Prop} (trace : Trace (Chain.Serves May) c log next)
    (sends : ∀ entry ∈ log, ∀ sending, entry.event.1 = .send sending → Sends sending) :
    ∀ entry ∈ log, (∃ sending, Sends sending ∧ Chain.Landed May sending entry) ∨
      (∀ sending, blockOf sending entry = none) ∧ ∃ inputs, (∀ input ∈ inputs, May input) ∧
        entry.after = entry.before.meanwhile inputs := by
  intro entry member
  have kept (before : Chain Hash) (event : Exchange) (after : Chain Hash) (_ : True)
      (_ : Chain.Serves May before event after) : True := trivial
  obtain ⟨-, served⟩ := @Trace.of_mem _ _ _ _ _ _ (fun _ => True) kept trace trivial _ member
  rcases served.effect with ⟨landing, lands⟩ | ⟨left, inputs, others, same⟩
  · obtain ⟨sent, inclusion, event, ways⟩ := lands
    exact .inl ⟨landing, sends entry member landing (congrArg Sigma.fst event), sent, inclusion, event, ways⟩
  · refine .inr ⟨fun sending => ?_, inputs, others, same⟩
    obtain ⟨before, ⟨request, answer⟩, after⟩ := entry
    cases request with
    | send sending' =>
      have lost : (answer : Sent).included = none := left sending' answer rfl
      simp [blockOf, lost]
    | _ => rfl

end Blocks

end PassportKit.Hero
