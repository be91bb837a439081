import PassportKit.Interleaving
import PassportKit.MandateGate
import PassportKit.TicketRecords
import PassportKit.VendorInvoice

/-! The house and its concierge as one system: tickets under way side by side, on a
chain that goes on by itself, with a vendor who answers as it likes or looks at that
chain. A transaction is simulated on one state, sent on another and mined on a third,
and between any two calls of a ticket the mandate may be gone. -/
namespace PassportKit.HouseSystem
open Evm Eip712 Js Interaction DemoChain
open Concierge (DemoTicket TicketInput Reply doTicket)
open Refusals (Thrown bytesToHex)
open Runs (Entry Trace)
open VendorInvoice (EvmLog Log Logs Receipt ReceiptStatus Shows transferLog)
open X402 (HttpRequest Response)

/-- What the demo is deployed as: the hook of the budget pool asks the treasury. -/
structure House where
  client : Client
  world : DemoAddresses
  hook : MandateHook
  installed : hook.TREASURY = world.treasury

/-- A transaction in a block. -/
structure Mined where
  hash : JsString
  /-- Nothing where somebody else sent it. -/
  call : Option ContractCall
  status : ReceiptStatus
  logs : List EvmLog

/-- What the house reads of the chain, what it has signed, and what is in the blocks. -/
structure HouseChain where
  treasury : HouseTreasury
  env : Env
  signed : List (ContractCall × Sent)
  mined : List Mined

/-- An account without code answers nothing that could be decoded. -/
def noTreasury : IHouseTreasuryStanding where
  isAgentInGoodStanding _ := .error .undecodable
  isCompliantOwner _ := .error .undecodable
  agentPerTxCap := .error .undecodable

namespace HouseChain
variable (house : House) (chain : HouseChain)

def treasuryAt (account : Address) : IHouseTreasuryStanding :=
  if account = house.world.treasury then chain.treasury.standing chain.env else noTreasury

/-- What a call meets, run now. A swap on the budget pool is asked about by its hook,
the router being whom the pool manager sees. -/
def Accepts : ContractCall → Prop
  | ⟨_, router, .swap key _ amountSpecified _ _ _ hookData⟩ => key.hooks = house.world.mandateHook →
      ∃ result, house.hook._beforeSwap (chain.treasuryAt house) router amountSpecified hookData = .ok result
  | ⟨actor, _, .proposePayment vendor amount evidenceHash⟩ => ∃ result,
      chain.treasury.proposePayment chain.env (house.world.actorAddress actor) vendor amount evidenceHash = .ok result
  | _ => True

/-- A hash no transaction has had. -/
structure Fresh (hash : JsString) : Prop where
  digest : ∃ digest : Bytes32, hash = bytesToHex (word digest)
  unsigned : ∀ tx ∈ chain.signed, tx.2.hash ≠ hash
  unmined : ∀ mined ∈ chain.mined, mined.hash ≠ hash

variable [Crypto Bytes32]

/-- How a transaction ends in its block. A transfer of the settlement token logs itself. -/
inductive Mines (call : ContractCall) : ReceiptStatus → List EvmLog → Prop where
  | reverts : Mines call .reverted []
  | succeeds {logs : List EvmLog} (accepts : chain.Accepts house call) (token : ∀ log ∈ logs, Logs house.world log)
      (pays : ∀ recipient amount, call.address = house.world.musd → call.function = .transfer recipient amount →
        logs = [transferLog house.world.musd (house.world.actorAddress call.actor) recipient amount]) :
      Mines call .success logs

/-- What happens without the house: the treasury and what it asks become what others make
of them, and transactions are mined, the house's own and anybody's. -/
inductive Moves : HouseChain → Prop where
  | changes (treasury : HouseTreasury) (env : Env) : Moves { chain with treasury, env }
  | mines {call : ContractCall} {sent : Sent} {status : ReceiptStatus} {logs : List EvmLog}
      (signed : (call, sent) ∈ chain.signed) (included : sent.included = true)
      (unmined : ∀ mined ∈ chain.mined, mined.hash ≠ sent.hash) (mines : chain.Mines house call status logs) :
      Moves { chain with mined := ⟨sent.hash, some call, status, logs⟩ :: chain.mined }
  | strangers {hash : JsString} {status : ReceiptStatus} {logs : List EvmLog} (fresh : chain.Fresh hash)
      (token : ∀ log ∈ logs, Logs house.world log) :
      Moves { chain with mined := ⟨hash, none, status, logs⟩ :: chain.mined }

omit [Crypto Bytes32] in
/-- What a view answers. -/
def Reads : (read : Read) → read.Value → Prop
  | .agentPerTxCap, cap => cap = chain.treasury.agentPerTxCap
  | .isAgentInGoodStanding wallet, standing => chain.treasury.isAgentInGoodStanding chain.env wallet = .ok standing
  | .payments id, payment => payment = chain.treasury.payments id
  | .APPROVAL_THRESHOLD, threshold => threshold = chain.treasury.APPROVAL_THRESHOLD
  | _, _ => True

end HouseChain

inductive HouseCall where
  | nextTicketId
  | demo (request : DemoCall)
  /-- The chain goes on. -/
  | goesOn

abbrev HouseAnswer : HouseCall → Type
  | .nextTicketId => Double
  | .demo request => request.Answer
  | .goesOn => Unit

abbrev HouseProgram (α : Type) := Program HouseCall HouseAnswer Thrown α

/-- A vendor, as `fetch` finds it at one state of the chain. -/
abbrev Vendor := HouseChain → HttpRequest → Except Thrown Response → Prop

/-- It answers anything at any time. -/
def anyVendor : Vendor := fun _ _ _ => True

section Serving
variable [Crypto Bytes32] (house : House) (vendor : Vendor) (chain : HouseChain)

/-- What a call may be answered, and what becomes of the chain. Any call may fail; what
is decided is anything. A receipt comes of a transaction that is mined, however it ended. -/
inductive HouseChain.Serves : Program.Exchange HouseCall HouseAnswer → HouseChain → Prop where
  | numbered (id : Double) : Serves ⟨.nextTicketId, id⟩ chain
  | fetched {request : HttpRequest} {answer : Except Thrown Response} (answers : vendor chain request answer) :
      Serves ⟨.demo (.fetch request), answer⟩ chain
  | decided (ticket : Evidence.Ticket) (perTxCap casaBudget : ℕ) (answer : Except Thrown Evidence.Decision) :
      Serves ⟨.demo (.decide ticket perTxCap casaBudget), answer⟩ chain
  | timed (answer : Except Thrown ℕ) : Serves ⟨.demo .getBlock, answer⟩ chain
  | unread (read : Read) (err : Thrown) : Serves ⟨.demo (.readContract read), .error err⟩ chain
  | read {read : Read} {value : read.Value} (reads : chain.Reads read value) :
      Serves ⟨.demo (.readContract read), .ok value⟩ chain
  | unsimulated (call : ContractCall) (err : Thrown) : Serves ⟨.demo (.simulateContract call), .error err⟩ chain
  | simulated {call : ContractCall} (accepts : chain.Accepts house call) (result : Uint256) :
      Serves ⟨.demo (.simulateContract call), .ok result⟩ chain
  | signed {call : ContractCall} {sent : Sent} (fresh : chain.Fresh sent.hash) :
      Serves ⟨.demo (.writeContract call), sent⟩ { chain with signed := (call, sent) :: chain.signed }
  | unconfirmed (hash : JsString) (err : Thrown) :
      Serves ⟨.demo (.waitForTransactionReceipt hash), .error err⟩ chain
  | confirmed {mined : Mined} (there : mined ∈ chain.mined) :
      Serves ⟨.demo (.waitForTransactionReceipt mined.hash), .ok ()⟩ chain
  | goesOn {next : HouseChain} (moves : chain.Moves house next) : Serves ⟨.goesOn, ()⟩ next

end Serving

/-! ## Programs -/

deriving instance DecidableEq for TicketInput

inductive HouseRequest where
  /-- `POST /api/demo/concierge`, `{action: 'ticket'}`; requests are told apart by when they came. -/
  | ticket (arrival : ℕ) (input : TicketInput)
  | block (number : ℕ)
  deriving DecidableEq

section Programs
variable [Crypto Bytes32] (house : House)

/-- The amount is parsed before the number is taken, so that a bad one takes none. -/
def fileTicket (input : TicketInput) : HouseProgram Reply := do
  let _ ← Program.ofExcept (house.client.parseEther input.amount)
  let id ← Program.perform HouseCall.nextTicketId
  (doTicket house.client house.world id input).through HouseCall.demo fun _ answer => answer

def HouseRequest.program : HouseRequest → HouseProgram (Option Reply)
  | .ticket _ input => do
    let reply ← fileTicket house input
    pure (some reply)
  | .block _ => do
    Program.perform HouseCall.goesOn
    pure none

/-- The house, as a machine whose programs run side by side. -/
def houseSystem (vendor : Vendor) : Machine HouseChain HouseRequest HouseCall HouseAnswer Thrown (Option Reply) where
  Starts := fun _ _ => True
  body := HouseRequest.program house
  Serves := fun chain _ exchange next => chain.Serves house vendor exchange next

end Programs

abbrev HousePoolOver (σ : Type) := Pool σ HouseRequest HouseCall HouseAnswer Thrown (Option Reply)

abbrev HouseEntryOver (σ : Type) := Entry (HousePoolOver σ) (Move HouseRequest HouseCall HouseAnswer)

abbrev HousePool := HousePoolOver HouseChain

abbrev HouseEntry := HouseEntryOver HouseChain

/-- A call of the demo, as one of the house. -/
def ofDemo (exchange : Program.Exchange DemoCall DemoCall.Answer) : Program.Exchange HouseCall HouseAnswer :=
  ⟨.demo exchange.1, exchange.2⟩

section Filed
variable [Crypto Bytes32] {house : House} {arrival : ℕ} {input : TicketInput}
  {exchanges : List (Program.Exchange HouseCall HouseAnswer)}

omit [Crypto Bytes32] in
theorem eq_map_ofDemo {trace : DemoChain.Trace} (same : List.Forall₂ (fun exchange exchange' => ∃ answer,
    exchange = (⟨.demo exchange'.1, answer⟩ : Program.Exchange HouseCall HouseAnswer) ∧
      answer = exchange'.2) exchanges trace) :
    exchanges = trace.map ofDemo := by
  induction same with
  | nil => rfl
  | cons here _ ih =>
    obtain ⟨answer, rfl, rfl⟩ := here
    rw [ih]
    rfl

theorem fileTicket_reaches {later : HouseProgram Reply} (reaches : (fileTicket house input).Reaches exchanges later) :
    (∃ err, later = .fail err) ∨ (∃ resume, later = .call .nextTicketId resume) ∨ ∃ id trace middle,
      exchanges = ⟨.nextTicketId, id⟩ :: trace.map ofDemo ∧
        (doTicket house.client house.world id input).Reaches trace middle ∧
          later = middle.through HouseCall.demo fun _ answer => answer := by
  unfold fileTicket at reaches
  cases priced : house.client.parseEther input.amount with
  | error err =>
    rw [priced] at reaches
    exact .inl ⟨err, (Program.reaches_fail.mp reaches).2⟩
  | ok amountWei =>
    rw [priced] at reaches
    rcases Program.reaches_call.mp reaches with ⟨-, rfl⟩ | ⟨id, rest, rfl, filed⟩
    · exact .inr (.inl ⟨_, rfl⟩)
    · obtain ⟨trace, middle, inside, same, answers⟩ := Program.reaches_through filed
      exact .inr (.inr ⟨id, trace, middle, by rw [eq_map_ofDemo answers], inside, same⟩)

omit [Crypto Bytes32] in
theorem through_reaches {program later : Handler Reply} {trace : DemoChain.Trace}
    (reaches : program.Reaches trace later) :
    (program.through HouseCall.demo fun _ answer => answer : HouseProgram Reply).Reaches (trace.map ofDemo)
      (later.through HouseCall.demo fun _ answer => answer) := by
  induction reaches with
  | refl => exact .refl _
  | call _ ih => exact .call ih

/-- What a ticket is answered, it is answered when it is filed. -/
theorem files_ticket {id : Double} {trace : DemoChain.Trace} {reply : Reply}
    (priced : ∃ amountWei, house.client.parseEther input.amount = .ok amountWei)
    (returns : (doTicket house.client house.world id input).Returns trace reply) :
    ((HouseRequest.ticket arrival input).program house).Returns (⟨.nextTicketId, id⟩ :: trace.map ofDemo)
    (some reply) := by
  obtain ⟨amountWei, priced⟩ := priced
  refine Program.returns_bind.mpr ⟨_, [], reply, (List.append_nil _).symm, ?_, .refl _⟩
  rw [fileTicket, priced]
  exact .call (through_reaches returns)

theorem ticket_makes {request : DemoCall}
    (makes : ((HouseRequest.ticket arrival input).program house).Makes exchanges (.demo request)) :
    ∃ id trace, exchanges = ⟨.nextTicketId, id⟩ :: trace.map ofDemo ∧
      (doTicket house.client house.world id input).Makes trace request := by
  rcases Program.makes_bind makes with ⟨resume, reaches⟩ | ⟨before, after, reply, rfl, -, resume, ended⟩
  · rcases fileTicket_reaches reaches with
      ⟨err, same⟩ | ⟨resume, same⟩ | ⟨id, trace, middle, rfl, inside, same⟩
    · cases same
    · cases same
    · cases middle with
      | done => cases same
      | fail => cases same
      | call asked further =>
        cases same
        exact ⟨id, trace, rfl, further, inside⟩
  · cases (Program.reaches_done.mp ended).2

theorem ticket_returns {result : Option Reply}
    (returns : ((HouseRequest.ticket arrival input).program house).Returns exchanges result) :
    ∃ id trace reply, exchanges = ⟨.nextTicketId, id⟩ :: trace.map ofDemo ∧ result = some reply ∧
      (doTicket house.client house.world id input).Returns trace reply := by
  obtain ⟨before, after, reply, rfl, filed, ended⟩ := Program.returns_bind.mp returns
  obtain ⟨rfl, same⟩ := Program.reaches_done.mp ended
  cases same
  rcases fileTicket_reaches filed with ⟨err, same⟩ | ⟨resume, same⟩ | ⟨id, trace, middle, rfl, inside, same⟩
  · cases same
  · cases same
  · cases middle with
    | done =>
      cases same
      exact ⟨id, trace, reply, List.append_nil _, rfl, inside⟩
    | fail => cases same
    | call => cases same

/-- A block calls for nothing else. -/
theorem block_makes {number : ℕ} {request : HouseCall}
    (makes : ((HouseRequest.block number).program house).Makes exchanges request) : request = .goesOn := by
  obtain ⟨resume, reaches⟩ := makes
  rcases Program.reaches_call.mp reaches with ⟨-, same⟩ | ⟨answer, rest, -, ended⟩
  · cases same
    rfl
  · cases (Program.reaches_done.mp ended).2

end Filed

/-! ## What the chain keeps -/

section Keeping
variable [Crypto Bytes32] {house : House} {vendor : Vendor} {chain next : HouseChain}
  {exchange : Program.Exchange HouseCall HouseAnswer}

/-- Hashes tell the transactions apart, and a transfer that succeeded logged itself. -/
structure HouseChain.Sound (house : House) (chain : HouseChain) : Prop where
  apart : (chain.signed.map fun tx => tx.2.hash).Nodup
  digests : ∀ tx ∈ chain.signed, ∃ digest : Bytes32, tx.2.hash = bytesToHex (word digest)
  once : (chain.mined.map Mined.hash).Nodup
  own : ∀ mined ∈ chain.mined, ∀ tx ∈ chain.signed, tx.2.hash = mined.hash → mined.call = some tx.1
  logs : ∀ mined ∈ chain.mined, ∀ log ∈ mined.logs, Logs house.world log
  pays : ∀ mined ∈ chain.mined, mined.status = .success → ∀ actor recipient amount,
    mined.call = some ⟨actor, house.world.musd, .transfer recipient amount⟩ →
      mined.logs = [transferLog house.world.musd (house.world.actorAddress actor) recipient amount]

namespace HouseChain

theorem Sound.moves (sound : chain.Sound house) (moves : chain.Moves house next) : next.Sound house := by
  cases moves with
  | changes => exact ⟨sound.apart, sound.digests, sound.once, sound.own, sound.logs, sound.pays⟩
  | @mines call sent status logs signed included unmined mines =>
    constructor
    · exact sound.apart
    · exact sound.digests
    · refine List.nodup_cons.mpr ⟨fun again => ?_, sound.once⟩
      obtain ⟨mined, member, same⟩ := List.mem_map.mp again
      exact unmined mined member same
    · intro mined member tx inside same
      rcases List.mem_cons.mp member with rfl | earlier
      · rw [List.inj_on_of_nodup_map sound.apart inside signed same]
      · exact sound.own mined earlier tx inside same
    · intro mined member
      rcases List.mem_cons.mp member with rfl | earlier
      · cases mines with
        | reverts => exact fun log none => absurd none List.not_mem_nil
        | succeeds _ token _ => exact token
      · exact sound.logs mined earlier
    · intro mined member succeeded actor recipient amount sender
      rcases List.mem_cons.mp member with rfl | earlier
      · cases mines with
        | reverts => cases succeeded
        | succeeds _ _ pays =>
          cases sender
          exact pays recipient amount rfl rfl
      · exact sound.pays mined earlier succeeded actor recipient amount sender
  | @strangers hash status logs fresh token =>
    constructor
    · exact sound.apart
    · exact sound.digests
    · refine List.nodup_cons.mpr ⟨fun again => ?_, sound.once⟩
      obtain ⟨mined, member, same⟩ := List.mem_map.mp again
      exact fresh.unmined mined member same
    · intro mined member tx inside same
      rcases List.mem_cons.mp member with rfl | earlier
      · exact absurd same (fresh.unsigned tx inside)
      · exact sound.own mined earlier tx inside same
    · intro mined member
      rcases List.mem_cons.mp member with rfl | earlier
      · exact token
      · exact sound.logs mined earlier
    · intro mined member succeeded actor recipient amount sender
      rcases List.mem_cons.mp member with rfl | earlier
      · cases sender
      · exact sound.pays mined earlier succeeded actor recipient amount sender

theorem Sound.serves (sound : chain.Sound house) (serves : chain.Serves house vendor exchange next) :
    next.Sound house := by
  cases serves with
  | @signed call sent fresh =>
    constructor
    · refine List.nodup_cons.mpr ⟨fun again => ?_, sound.apart⟩
      obtain ⟨tx, member, same⟩ := List.mem_map.mp again
      exact fresh.unsigned tx member same
    · intro tx member
      rcases List.mem_cons.mp member with rfl | earlier
      · exact fresh.digest
      · exact sound.digests tx earlier
    · exact sound.once
    · intro mined member tx inside same
      rcases List.mem_cons.mp inside with rfl | earlier
      · exact absurd same.symm (fresh.unmined mined member)
      · exact sound.own mined member tx earlier same
    · exact sound.logs
    · exact sound.pays
  | goesOn moves => exact sound.moves moves
  | numbered | fetched | decided | timed | unread | read | unsimulated | simulated | unconfirmed | confirmed =>
    exact sound

/-- What is in a block stays there. -/
theorem Moves.keeps {mined : Mined} (moves : chain.Moves house next) (there : mined ∈ chain.mined) :
    mined ∈ next.mined := by
  cases moves with
  | changes => exact there
  | mines | strangers => exact List.mem_cons_of_mem _ there

theorem Serves.keeps {mined : Mined} (serves : chain.Serves house vendor exchange next)
    (there : mined ∈ chain.mined) :
    mined ∈ next.mined := by
  cases serves with
  | goesOn moves => exact moves.keeps there
  | numbered | fetched | decided | timed | unread | read | unsimulated | simulated | signed | unconfirmed | confirmed =>
    exact there

theorem Serves.keeps_signed {tx : ContractCall × Sent} (serves : chain.Serves house vendor exchange next)
    (there : tx ∈ chain.signed) : tx ∈ next.signed := by
  cases serves with
  | signed => exact List.mem_cons_of_mem _ there
  | goesOn moves => cases moves <;> exact there
  | numbered | fetched | decided | timed | unread | read | unsimulated | simulated | unconfirmed | confirmed =>
    exact there

end HouseChain

/-- What a transition of a run signs. -/
def Signs {σ : Type} (label : HouseRequest) (call : ContractCall) (sent : Sent) (entry : HouseEntryOver σ) : Prop :=
  entry.event = .serves label ⟨.demo (.writeContract call), sent⟩

/-- What two transitions sign has two hashes. -/
def Apart (entry entry' : HouseEntry) : Prop :=
  ∀ label call sent label' call' sent', Signs label call sent entry → Signs label' call' sent' entry' →
    sent.hash ≠ sent'.hash

instance : Std.Symm Apart where
  symm _ _ apart label call sent label' call' sent' signs signs' :=
    (apart label' call' sent' label call sent signs' signs).symm

section Runs
variable {start last : HousePool} {log : List HouseEntry} {entry entry' : HouseEntry} {label label' : HouseRequest}
  {call call' : ContractCall} {sent sent' : Sent}

theorem signed_of_signs (trace : Trace (houseSystem house vendor).Atom start log last) (member : entry ∈ log)
    (signs : Signs label call sent entry) :
    entry.before.store.Fresh sent.hash ∧ (call, sent) ∈ entry.after.store.signed := by
  have served := Machine.served_of_mem trace member signs
  generalize entry.after.store = after at served
  cases served with
  | signed fresh => exact ⟨fresh, List.mem_cons_self⟩

theorem keeps_signed_run {tx : ContractCall × Sent} (trace : Trace (houseSystem house vendor).Atom start log last)
    (there : tx ∈ start.store.signed) : tx ∈ last.store.signed :=
  Machine.preserves trace (fun (store : HouseChain) (_ : HouseRequest) _ _ (there : tx ∈ store.signed)
    (serves : store.Serves house vendor _ _) => serves.keeps_signed there) there

theorem signed_last (trace : Trace (houseSystem house vendor).Atom start log last) (member : entry ∈ log)
    (signs : Signs label call sent entry) : (call, sent) ∈ last.store.signed := by
  obtain ⟨earlier, later, -, -, -, rest⟩ := trace.around member
  exact keeps_signed_run rest (signed_of_signs trace member signs).2

/-- No two transactions of a run have one hash. -/
theorem signed_apart (trace : Trace (houseSystem house vendor).Atom start log last) : log.Pairwise Apart := by
  induction trace with
  | nil => exact .nil
  | @cons before after last event log atom rest ih =>
    refine List.pairwise_cons.mpr ⟨fun later member label call sent label' call' sent' signs signs' => ?_, ih⟩
    have signed := (signed_of_signs (.cons atom rest) List.mem_cons_self signs).2
    obtain ⟨earlier, further, -, between, -, -⟩ := rest.around member
    exact (signed_of_signs rest member signs').1.unsigned _ (keeps_signed_run between signed)

/-- A hash names one request and one transaction of it. -/
theorem signs_once (trace : Trace (houseSystem house vendor).Atom start log last) (member : entry ∈ log)
    (member' : entry' ∈ log) (signs : Signs label call sent entry) (signs' : Signs label' call' sent' entry')
    (same : sent.hash = sent'.hash) : label = label' ∧ call = call' := by
  have one : entry = entry' := by
    by_contra other
    exact (signed_apart trace).forall member member' other _ _ _ _ _ _ signs signs' same
  subst one
  rw [Signs] at signs signs'
  rw [signs] at signs'
  cases signs'
  exact ⟨rfl, rfl⟩

end Runs
end Keeping

end PassportKit.HouseSystem
