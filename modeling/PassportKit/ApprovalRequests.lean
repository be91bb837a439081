import PassportKit.Concierge
import PassportKit.Runs

/-! Owners approving payments over the API, any number of them at once. Approving and
executing are two transactions with a read in between, and the approval counts from
the first of them on: whoever fails after it leaves a payment that nobody may be able
to approve again. -/
namespace PassportKit.PaymentApprovals
open Evm Js Interaction DemoChain Concierge
open Refusals (Thrown)
open Runs (Entry Trace)

/-- A request in flight: what is left of its handler, and what it has sent. -/
structure Request where
  owner : DemoActor
  id : ℕ
  rest : Handler Approval
  sent : List (ContractCall × Sent)

/-- The treasury on chain, the ticket feed, and the requests in flight. -/
structure Site where
  treasury : HouseTreasury
  tickets : List DemoTicket
  requests : List Request

/-- What a transaction may do, in some environment and if the token lets it. -/
inductive Takes (world : DemoAddresses) (treasury : HouseTreasury) : ContractCall → HouseTreasury → Prop where
  | approves {actor : DemoActor} {id : Uint256} {env : Env} {next : HouseTreasury}
      (done : treasury.approvePayment env (world.actorAddress actor) id.toNat = .ok next) :
      Takes world treasury ⟨actor, world.treasury, .approvePayment id⟩ next
  | executes {actor : DemoActor} {id : Uint256} {next : HouseTreasury} {request : TokenRequest}
      (done : treasury.executePayment id.toNat = .ok (next, request)) :
      Takes world treasury ⟨actor, world.treasury, .executePayment id⟩ next

/-- What a call may be answered, and what becomes of the treasury. A transaction is
run when it is sent, or never: nothing of its sender happens in between that anyone
sees. Included, it may still revert, which a receipt tells nobody. -/
inductive Answered (world : DemoAddresses) (treasury : HouseTreasury) (past : List (ContractCall × Sent)) :
    Program.Exchange DemoCall DemoCall.Answer → HouseTreasury → Prop where
  | unread (read : Read) (err : Thrown) : Answered world treasury past ⟨.readContract read, .error err⟩ treasury
  | payment (id : ℕ) :
      Answered world treasury past ⟨.readContract (.payments id), .ok (treasury.payments id)⟩ treasury
  | threshold : Answered world treasury past
      ⟨.readContract .APPROVAL_THRESHOLD, .ok treasury.APPROVAL_THRESHOLD⟩ treasury
  | unsimulated (call : ContractCall) (err : Thrown) :
      Answered world treasury past ⟨.simulateContract call, .error err⟩ treasury
  | simulated {call : ContractCall} {next : HouseTreasury} (takes : Takes world treasury call next)
      (result : Uint256) : Answered world treasury past ⟨.simulateContract call, .ok result⟩ treasury
  | dropped (call : ContractCall) {sent : Sent} (excluded : sent.included = false) :
      Answered world treasury past ⟨.writeContract call, sent⟩ treasury
  | reverted (call : ContractCall) {sent : Sent} (included : sent.included = true) :
      Answered world treasury past ⟨.writeContract call, sent⟩ treasury
  | taken {call : ContractCall} {next : HouseTreasury} (takes : Takes world treasury call next) {sent : Sent}
      (included : sent.included = true) : Answered world treasury past ⟨.writeContract call, sent⟩ next
  | unconfirmed (hash : JsString) (err : Thrown) :
      Answered world treasury past ⟨.waitForTransactionReceipt hash, .error err⟩ treasury
  | confirmed {call : ContractCall} {sent : Sent} (last : past.getLast? = some (call, sent))
      (included : sent.included = true) :
      Answered world treasury past ⟨.waitForTransactionReceipt sent.hash, .ok ()⟩ treasury

/-- What an exchange adds to what was sent. -/
def Request.sentBy : Program.Exchange DemoCall DemoCall.Answer → List (ContractCall × Sent)
  | ⟨.writeContract call, sent⟩ => [(call, sent)]
  | _ => []

inductive Event where
  | post (owner : DemoActor) (id : ℕ)
  /-- A request, among others, is answered. -/
  | awaits (request : Request) (exchange : Program.Exchange DemoCall DemoCall.Answer) (others : List Request)
  | responds (request : Request) (approval : Approval) (others : List Request)
  | fails (request : Request) (others : List Request)

section Machine
variable (client : Client) (world : DemoAddresses)

/-- `POST /api/demo/concierge` with `approve`, and the requests going on in any order.
An id is a `Number`, and so one that a `Number` is. -/
inductive Step (site : Site) : Event → Site → Prop where
  | post {owner : DemoActor} {id : ℕ} (known : owner ∈ OWNERS) (number : toDouble (id : ℚ) = some (id : ℚ))
      (positive : 1 ≤ id) :
      Step site (.post owner id)
        { site with requests := site.requests ++ [⟨owner, id, doApprove client world owner id, []⟩] }
  | awaits {request : Request} {before after : List Request}
      {exchange : Program.Exchange DemoCall DemoCall.Answer} {rest : Handler Approval} {treasury : HouseTreasury}
      (among : site.requests = before ++ request :: after) (goes : request.rest.Reaches [exchange] rest)
      (answered : Answered world site.treasury request.sent exchange treasury) :
      Step site (.awaits request exchange (before ++ after))
        { site with
          treasury
          requests := before ++ { request with rest, sent := request.sent ++ Request.sentBy exchange } :: after }
  | responds {request : Request} {before after : List Request} {approval : Approval}
      (among : site.requests = before ++ request :: after) (returns : request.rest = .done approval) :
      Step site (.responds request approval (before ++ after))
        { site with
          tickets := recordApproval request.id approval site.tickets
          requests := before ++ after }
  | fails {request : Request} {before after : List Request} {err : Thrown}
      (among : site.requests = before ++ request :: after) (throws : request.rest = .fail err) :
      Step site (.fails request (before ++ after)) { site with requests := before ++ after }

end Machine

/-- Fully approved, and not paid out. -/
structure Awaiting (treasury : HouseTreasury) (id : ℕ) : Prop where
  known : (treasury.payments id).vendor ≠ 0
  approved : treasury.APPROVAL_THRESHOLD ≤ (treasury.payments id).approvals
  unpaid : (treasury.payments id).executed = false

def Executed (treasury : HouseTreasury) (id : ℕ) : Prop := (treasury.payments id).executed = true

/-- A ticket says that its payment was made. -/
def Reported (ticket : DemoTicket) : Prop := ticket.status = text "executed" ∧ ticket.paid = true

def Event.IsPost : Event → Prop
  | .post _ _ => True
  | _ => False

section Promises
variable (client : Client) (world : DemoAddresses)

/-- Some run of allowed steps ends so. -/
def Leads (May : Entry Site Event → Prop) (site : Site) (Ends : Site → Prop) : Prop :=
  ∃ log last, Trace (Step client world) site log last ∧ (∀ entry ∈ log, May entry) ∧ Ends last

/-- One more approval can execute the payment. -/
def Recoverable (site : Site) (id : ℕ) : Prop :=
  ∃ owner posted, Step client world site (.post owner id) posted ∧
    Leads client world (fun entry => ¬ entry.event.IsPost) posted fun last => Executed last.treasury id

/-- Nothing is in flight, no payment is stuck, and the tickets say what was executed. -/
structure Settled (site : Site) : Prop where
  idle : site.requests = []
  unstuck : ∀ id, Awaiting site.treasury id → Recoverable client world site id
  agrees : ∀ id ticket, findTicketByPaymentId site.tickets id = some ticket →
    (Reported ticket ↔ Executed site.treasury id)

end Promises

/-- An approval of the owner would be counted. -/
structure CanApprove (treasury : HouseTreasury) (owner : Address) (id : ℕ) : Prop where
  listed : treasury.isOwner owner = true
  known : (treasury.payments id).vendor ≠ 0
  pending : (treasury.payments id).executed = false
  fresh : treasury.approvedBy id owner = false
  counts : (treasury.payments id).approvals + 1 < uint256Modulus

/-- An owner of the API can still approve, by an id of the API. -/
structure Open (world : DemoAddresses) (treasury : HouseTreasury) (id : ℕ) : Prop where
  number : toDouble (id : ℚ) = some (id : ℚ)
  positive : 1 ≤ id
  word : id < 2 ^ 256
  owner : ∃ owner ∈ OWNERS, CanApprove treasury (world.actorAddress owner) id

section Chain
variable {world : DemoAddresses} {treasury next : HouseTreasury} {id : ℕ}

theorem canApprove_of_approvePayment {env : Env} {owner : Address}
    (done : treasury.approvePayment env owner id = .ok next) : CanApprove treasury owner id := by
  obtain ⟨listed, -, known, pending, fresh, -⟩ := HouseTreasury.approvePayment_changes done
  refine ⟨listed, known, pending, fresh, ?_⟩
  simp only [HouseTreasury.approvePayment, bind_eq_ok, checkedAdd_eq_ok] at done
  obtain ⟨-, -, -, -, -, -, -, -, -, -, -, -, count, ⟨bound, -⟩, -⟩ := done
  exact bound

/-- Everyone has an identity, and every identity is eligible. -/
def welcoming : Env where
  block := { chainId := 1, timestamp := 0 }
  hasCode _ := true
  gateAt _ := ⟨fun _ _ => .ok (true, Reason.OK)⟩
  resolverAt _ := ⟨fun _ => .ok 1⟩
  scoresAt _ := ⟨fun _ => .ok 0⟩

/-- Whoever can approve does so where compliance does not stand in the way. -/
theorem CanApprove.approvePayment {owner : Address} (can : CanApprove treasury owner id) :
    ∃ next, treasury.approvePayment welcoming owner id = .ok next := by
  obtain ⟨listed, known, pending, fresh, counts⟩ := can
  have compliant : treasury.isCompliantOwner welcoming owner = .ok true := by
    rw [HouseTreasury.isCompliantOwner, if_pos listed]
    rfl
  have count : checkedAdd (treasury.payments id).approvals 1 =
      (.ok ((treasury.payments id).approvals + 1) : Result ℕ) := if_pos counts
  simp only [HouseTreasury.approvePayment, HouseTreasury.onlyOwner, listed, compliant, known, pending, fresh, count,
    revertIf, ok_bind]
  exact ⟨_, rfl⟩

/-- A transaction of the treasury on a payment leaves the other payments alone, and
only ever approves and executes its own. -/
structure Touches (before after : HouseTreasury) (id : ℕ) : Prop where
  threshold : after.APPROVAL_THRESHOLD = before.APPROVAL_THRESHOLD
  owners : after.isOwner = before.isOwner
  others : ∀ other, other ≠ id → after.payments other = before.payments other ∧
    ∀ owner, after.approvedBy other owner = before.approvedBy other owner
  executed : Executed before id → Executed after id

theorem touches_refl (treasury : HouseTreasury) (id : ℕ) : Touches treasury treasury id :=
  ⟨rfl, rfl, fun _ _ => ⟨rfl, fun _ => rfl⟩, fun executed => executed⟩

theorem touches_of_approvePayment {env : Env} {owner : Address}
    (done : treasury.approvePayment env owner id = .ok next) : Touches treasury next id := by
  obtain ⟨-, -, -, -, -, rfl⟩ := HouseTreasury.approvePayment_changes done
  refine ⟨rfl, rfl, fun other apart => ⟨Function.update_of_ne apart _ _, fun owner' => ?_⟩, ?_⟩
  · exact store_of_ne fun same => apart same.1
  · intro executed
    simpa [Executed] using executed

theorem touches_of_executePayment {request : TokenRequest}
    (done : treasury.executePayment id = .ok (next, request)) : Touches treasury next id ∧ Executed next id := by
  obtain ⟨-, -, -, -, rfl⟩ := HouseTreasury.executePayment_changes done
  have executed : Executed { treasury with
      payments := Function.update treasury.payments id { treasury.payments id with executed := true } } id := by
    simp [Executed]
  exact ⟨⟨rfl, rfl, fun other apart => ⟨Function.update_of_ne apart _ _, fun _ => rfl⟩, fun _ => executed⟩,
    executed⟩

variable {other : ℕ}

theorem Touches.awaiting (touches : Touches treasury next id) (apart : other ≠ id) :
    Awaiting next other ↔ Awaiting treasury other := by
  obtain ⟨same, -⟩ := touches.others other apart
  constructor <;> rintro ⟨known, approved, unpaid⟩
  · rw [same, touches.threshold] at *
    exact ⟨known, approved, unpaid⟩
  · rw [← same, ← touches.threshold] at *
    exact ⟨known, approved, unpaid⟩

theorem Touches.executed_iff (touches : Touches treasury next id) (apart : other ≠ id) :
    Executed next other ↔ Executed treasury other := by
  rw [Executed, Executed, (touches.others other apart).1]

theorem Touches.open (touches : Touches treasury next id) (apart : other ≠ id)
    (approvable : Open world treasury other) :
    Open world next other := by
  obtain ⟨same, marks⟩ := touches.others other apart
  obtain ⟨number, positive, word, owner, member, listed, known, pending, fresh, counts⟩ := approvable
  refine ⟨number, positive, word, owner, member, touches.owners ▸ listed, ?_, ?_, (marks _).trans fresh, ?_⟩ <;>
    rw [same] <;> assumption

end Chain

/-! ## What is left of a handler -/

section Residuals
variable {α : Type} (call : ContractCall) (next : JsString → Handler α)

def waiting (hash : JsString) : Handler α :=
  .call (.waitForTransactionReceipt hash) fun
    | .ok _ => next hash
    | .error err => .fail err

def sending : Handler α :=
  .call (.writeContract call) fun sent =>
    match sent.rejected with
    | some err => .fail err
    | none => waiting next sent.hash

def simulating : Handler α :=
  .call (.simulateContract call) fun
    | .ok _ => sending call next
    | .error err => .fail err

/-- A write that is gone on from, one call after the other. -/
theorem write_bind : (write call.actor call.address (.ok call.function) >>= next) = simulating call next := by
  refine congrArg (Program.call _) (funext fun answer => ?_)
  cases answer with
  | error err => rfl
  | ok result =>
    refine congrArg (Program.call _) (funext fun sent => ?_)
    obtain ⟨hash, named, rejected, included⟩ := sent
    cases rejected with
    | some err => rfl
    | none =>
      refine congrArg (Program.call _) (funext fun receipt => ?_)
      cases receipt <;> rfl

end Residuals

/-- Count its owner, read the payment, execute it, report it executed or as pending,
or nothing that comes of it. -/
inductive Duty where
  | approves
  | reads
  | executes
  | reports
  | pends
  | gone
  deriving DecidableEq

namespace Duty

def ofSending (call : ContractCall) : Duty :=
  match call.function with
  | .executePayment _ => .executes
  | _ => .approves

/-- A transaction that was not included will not be confirmed. -/
def ofWaiting : Option (ContractCall × Sent) → Duty
  | some (call, sent) =>
    if sent.included then
      match call.function with
      | .executePayment _ => .reports
      | _ => .reads
    else .gone
  | none => .gone

def ofApproval (approval : Approval) : Duty := if approval.executed then .reports else .pends

end Duty

/-- The threshold is read last, and is known. -/
def Request.duty (threshold : ℕ) (request : Request) : Duty :=
  match request.rest with
  | .done approval => .ofApproval approval
  | .call (.readContract (.payments _)) _ => .reads
  | .call (.readContract .APPROVAL_THRESHOLD) resume =>
    match resume (.ok threshold) with
    | .done approval => .ofApproval approval
    | .call _ _ => .executes
    | .fail _ => .gone
  | .call (.simulateContract call) _ => .ofSending call
  | .call (.writeContract call) _ => .ofSending call
  | .call (.waitForTransactionReceipt _) _ => .ofWaiting request.sent.getLast?
  | _ => .gone

theorem duty_of_done {request : Request} {approval : Approval} (threshold : ℕ)
    (returns : request.rest = .done approval) : request.duty threshold = .ofApproval approval := by
  rw [Request.duty, returns]

theorem duty_of_fail {request : Request} {err : Thrown} (threshold : ℕ) (throws : request.rest = .fail err) :
    request.duty threshold = .gone := by
  rw [Request.duty, throws]

/-- Something of it was included. -/
def Counted (sent : List (ContractCall × Sent)) : Prop := ∃ tx ∈ sent, tx.2.included = true

def Request.goesOn (request : Request) (exchange : Program.Exchange DemoCall DemoCall.Answer)
    (rest : Handler Approval) : Request :=
  { request with rest, sent := request.sent ++ Request.sentBy exchange }

section Shapes
variable (client : Client) (world : DemoAddresses)

def approvalCall (owner : DemoActor) (word : Uint256) : ContractCall :=
  ⟨owner, world.treasury, .approvePayment word⟩

def executionCall (word : Uint256) : ContractCall := ⟨.operator, world.treasury, .executePayment word⟩

def executedWith (payment : PendingPayment) (approvedHash executedHash : JsString) : Handler Approval :=
  pure { approvals := payment.approvals, executed := true, txHashes := [approvedHash, executedHash] }

/-- Both transactions are of the payment that was asked for. -/
def Encoded (id : ℕ) (word : Uint256) : Prop := client.encodeUint256 id = .ok word

/-- How far a request can be. -/
inductive Stands : Request → Prop where
  | failed {owner : DemoActor} {id : ℕ} {sent : List (ContractCall × Sent)} (err : Thrown) :
      Stands ⟨owner, id, .fail err, sent⟩
  | answers {owner : DemoActor} {id : ℕ} {sent : List (ContractCall × Sent)} (approval : Approval) :
      Stands ⟨owner, id, .done approval, sent⟩
  | approving {owner : DemoActor} {id : ℕ} {sent : List (ContractCall × Sent)} {word : Uint256}
      (encoded : Encoded client id word) :
      Stands ⟨owner, id, simulating (approvalCall world owner word) (afterApproval client world id), sent⟩
  | approves {owner : DemoActor} {id : ℕ} {sent : List (ContractCall × Sent)} {word : Uint256}
      (encoded : Encoded client id word) :
      Stands ⟨owner, id, sending (approvalCall world owner word) (afterApproval client world id), sent⟩
  | approved {owner : DemoActor} {id : ℕ} {sent : List (ContractCall × Sent)} {word : Uint256}
      (encoded : Encoded client id word) {tx : Sent} (last : sent.getLast? = some (approvalCall world owner word, tx)) :
      Stands ⟨owner, id, waiting (afterApproval client world id) tx.hash, sent⟩
  | reading {owner : DemoActor} {id : ℕ} {sent : List (ContractCall × Sent)} {word : Uint256}
      (encoded : Encoded client id word) (counted : Counted sent) (approvedHash : JsString) :
      Stands ⟨owner, id, afterApproval client world id approvedHash, sent⟩
  | weighing {owner : DemoActor} {id : ℕ} {sent : List (ContractCall × Sent)} {word : Uint256}
      (encoded : Encoded client id word) (counted : Counted sent) (approvedHash : JsString) (payment : PendingPayment) :
      Stands ⟨owner, id,
        readContract .APPROVAL_THRESHOLD >>= executeIfDue client world id approvedHash payment, sent⟩
  | executing {owner : DemoActor} {id : ℕ} {sent : List (ContractCall × Sent)} {word : Uint256}
      (encoded : Encoded client id word) (counted : Counted sent) (approvedHash : JsString) (payment : PendingPayment) :
      Stands ⟨owner, id, simulating (executionCall world word) (executedWith payment approvedHash), sent⟩
  | executes {owner : DemoActor} {id : ℕ} {sent : List (ContractCall × Sent)} {word : Uint256}
      (encoded : Encoded client id word) (counted : Counted sent) (approvedHash : JsString) (payment : PendingPayment) :
      Stands ⟨owner, id, sending (executionCall world word) (executedWith payment approvedHash), sent⟩
  | executed {owner : DemoActor} {id : ℕ} {sent : List (ContractCall × Sent)} {word : Uint256}
      (encoded : Encoded client id word) (counted : Counted sent) (approvedHash : JsString) (payment : PendingPayment)
      {tx : Sent} (last : sent.getLast? = some (executionCall world word, tx)) :
      Stands ⟨owner, id, waiting (executedWith payment approvedHash) tx.hash, sent⟩

/-- A call that fails, or a transaction that does, and with it the request. -/
def Fails : Program.Exchange DemoCall DemoCall.Answer → Prop
  | ⟨.readContract _, .error _⟩ => True
  | ⟨.simulateContract _, .error _⟩ => True
  | ⟨.writeContract _, sent⟩ => sent.rejected ≠ none ∨ sent.included = false
  | ⟨.waitForTransactionReceipt _, .error _⟩ => True
  | _ => False

/-- An execution was included. -/
def Executes : Program.Exchange DemoCall DemoCall.Answer → Prop
  | ⟨.writeContract call, sent⟩ => (∃ word, call.function = .executePayment word) ∧ sent.included = true
  | _ => False

/-- What an exchange makes of a duty. -/
inductive Turns (treasury next : HouseTreasury) (id : ℕ) (exchange : Program.Exchange DemoCall DemoCall.Answer)
    (sent : List (ContractCall × Sent)) : Duty → Duty → Prop where
  | fails (duty : Duty) (failing : Fails exchange) (counted : Counted sent) :
      Turns treasury next id exchange sent duty .gone
  | stays (duty : Duty) (same : next = treasury) : Turns treasury next id exchange sent duty duty
  | drops (same : next = treasury) : Turns treasury next id exchange sent .approves .gone
  | counts : Turns treasury next id exchange sent .approves .reads
  | knows (same : next = treasury) (executed : Executed treasury id) :
      Turns treasury next id exchange sent .reads .reports
  | due (same : next = treasury) (pending : ¬ Executed treasury id) :
      Turns treasury next id exchange sent .reads .executes
  | pends (same : next = treasury) (pending : ¬ Executed treasury id) (early : ¬ Awaiting treasury id) :
      Turns treasury next id exchange sent .reads .pends
  | executed {call : ContractCall} {tx : Sent} {word : Uint256} (execution : call.function = .executePayment word)
      (sends : exchange = ⟨.writeContract call, tx⟩) (accepted : tx.rejected = none)
        (included : tx.included = true) :
      Turns treasury next id exchange sent .executes .reports

end Shapes

/-! ## One exchange -/

section Exchanges
variable {α β : Type} {call : ContractCall} {next : JsString → Handler α} {hash : JsString} {read : Read}
  {resume : read.Value → Handler α} {exchange : Program.Exchange DemoCall DemoCall.Answer} {rest : Handler α}

theorem simulating_goes (goes : (simulating call next).Reaches [exchange] rest) :
    (∃ err, exchange = ⟨.simulateContract call, .error err⟩ ∧ rest = .fail err) ∨
      ∃ result, exchange = ⟨.simulateContract call, .ok result⟩ ∧ rest = sending call next := by
  obtain ⟨answer, rfl, rfl⟩ := Program.reaches_once.mp goes
  cases answer with
  | error err => exact .inl ⟨err, rfl, rfl⟩
  | ok result => exact .inr ⟨result, rfl, rfl⟩

theorem sending_goes (goes : (sending call next).Reaches [exchange] rest) :
    ∃ tx : Sent, exchange = ⟨.writeContract call, tx⟩ ∧
      ((∃ err, tx.rejected = some err ∧ rest = .fail err) ∨
        tx.rejected = none ∧ rest = waiting next tx.hash) := by
  obtain ⟨⟨hash, named, rejected, included⟩, rfl, rfl⟩ := Program.reaches_once.mp goes
  refine ⟨_, rfl, ?_⟩
  cases rejected with
  | some err => exact .inl ⟨err, rfl, rfl⟩
  | none => exact .inr ⟨rfl, rfl⟩

theorem waiting_goes (goes : (waiting next hash).Reaches [exchange] rest) :
    (∃ err, exchange = ⟨.waitForTransactionReceipt hash, .error err⟩ ∧ rest = .fail err) ∨
      exchange = ⟨.waitForTransactionReceipt hash, .ok ()⟩ ∧ rest = next hash := by
  obtain ⟨answer, rfl, rfl⟩ := Program.reaches_once.mp goes
  cases answer with
  | error err => exact .inl ⟨err, rfl, rfl⟩
  | ok received => exact .inr ⟨rfl, rfl⟩

theorem reading_goes (goes : (readContract read >>= resume).Reaches [exchange] rest) :
    (∃ err, exchange = ⟨.readContract read, .error err⟩ ∧ rest = .fail err) ∨
      ∃ value, exchange = ⟨.readContract read, .ok value⟩ ∧ rest = resume value := by
  obtain ⟨answer, rfl, rfl⟩ := Program.reaches_once.mp goes
  cases answer with
  | error err => exact .inl ⟨err, rfl, rfl⟩
  | ok value => exact .inr ⟨value, rfl, rfl⟩

end Exchanges

section Answers
variable {world : DemoAddresses} {treasury next : HouseTreasury} {past : List (ContractCall × Sent)}

theorem asking_changes_nothing {request : DemoCall} {answer : DemoCall.Answer request}
    (answered : Answered world treasury past ⟨request, answer⟩ next)
    (asks : ∀ call, request ≠ .writeContract call) :
    next = treasury := by
  cases answered <;> first | rfl | exact absurd rfl (asks _)

theorem answered_write {call : ContractCall} {tx : Sent}
    (answered : Answered world treasury past ⟨.writeContract call, tx⟩ next) :
    next = treasury ∨ Takes world treasury call next ∧ tx.included = true := by
  cases answered with
  | dropped excluded => exact .inl rfl
  | reverted included => exact .inl rfl
  | taken takes included => exact .inr ⟨takes, included⟩

theorem answered_payment {id : ℕ} {payment : PendingPayment}
    (answered : Answered world treasury past ⟨.readContract (.payments id), .ok payment⟩ next) :
    payment = treasury.payments id := by
  cases answered
  rfl

theorem answered_threshold {threshold : ℕ}
    (answered : Answered world treasury past ⟨.readContract .APPROVAL_THRESHOLD, .ok threshold⟩ next) :
    threshold = treasury.APPROVAL_THRESHOLD := by
  cases answered
  rfl

theorem answered_receipt {hash : JsString}
    (answered : Answered world treasury past ⟨.waitForTransactionReceipt hash, .ok ()⟩ next) :
    ∃ call tx, past.getLast? = some (call, tx) ∧ tx.included = true := by
  cases answered with
  | confirmed last included => exact ⟨_, _, last, included⟩

theorem Takes.touches {call : ContractCall} (takes : Takes world treasury call next) :
    (∃ word, call.function = .approvePayment word ∧ Touches treasury next word.toNat) ∨
      ∃ word, call.function = .executePayment word ∧ Touches treasury next word.toNat := by
  cases takes with
  | approves done => exact .inl ⟨_, rfl, touches_of_approvePayment done⟩
  | executes done => exact .inr ⟨_, rfl, (touches_of_executePayment done).1⟩

end Answers

section Handlers
variable {client : Client} {world : DemoAddresses} {owner : DemoActor} {id threshold : ℕ} {word : Uint256}
  {payment : PendingPayment} {approvedHash : JsString} {sent : List (ContractCall × Sent)}

theorem Encoded.toNat (documented : client.Documented) (encoded : Encoded client id word) : word.toNat = id := by
  have same := documented.uint256 _ _ encoded
  exact_mod_cast same

theorem doApprove_simulates (encoded : Encoded client id word) :
    doApprove client world owner id = simulating (approvalCall world owner word) (afterApproval client world id) := by
  have approval : approvalOf client id = .ok (.approvePayment word) := by
    rw [approvalOf, encoded]
    rfl
  rw [doApprove, approval]
  exact write_bind (approvalCall world owner word) (afterApproval client world id)

theorem doApprove_stands (owner : DemoActor) (id : ℕ) :
    Stands client world ⟨owner, id, doApprove client world owner id, []⟩ := by
  cases encoding : client.encodeUint256 id with
  | ok word =>
    rw [doApprove_simulates encoding]
    exact .approving encoding
  | error err =>
    have approval : approvalOf client id = .error err := by
      rw [approvalOf, encoding]
      rfl
    rw [doApprove, approval]
    exact .failed err

theorem executeIfDue_due (encoded : Encoded client id word)
    (due : payment.executed = false ∧ threshold ≤ payment.approvals) :
    executeIfDue client world id approvedHash payment threshold =
      simulating (executionCall world word) (executedWith payment approvedHash) := by
  have execution : executionOf client id = .ok (.executePayment word) := by
    rw [executionOf, encoded]
    rfl
  rw [executeIfDue, if_pos due, execution]
  exact write_bind (executionCall world word) (executedWith payment approvedHash)

theorem executeIfDue_early (early : ¬ (payment.executed = false ∧ threshold ≤ payment.approvals)) :
    executeIfDue client world id approvedHash payment threshold =
      .done { approvals := payment.approvals, executed := payment.executed, txHashes := [approvedHash] } :=
  if_neg early

theorem waiting_duty {call : ContractCall} {tx : Sent} {next : JsString → Handler Approval}
    (last : sent.getLast? = some (call, tx)) :
    Request.duty threshold ⟨owner, id, waiting next tx.hash, sent⟩ = .ofWaiting (some (call, tx)) := by
  change Duty.ofWaiting sent.getLast? = _
  rw [last]

theorem ofWaiting_approval (tx : Sent) :
    Duty.ofWaiting (some (approvalCall world owner word, tx)) = if tx.included then .reads else .gone :=
  rfl

theorem ofWaiting_execution (tx : Sent) :
    Duty.ofWaiting (some (executionCall world word, tx)) = if tx.included then .reports else .gone :=
  rfl

/-- Having read the payment, a request knows what to do. -/
theorem weighing_duty (encoded : Encoded client id word) :
    Request.duty threshold
        ⟨owner, id, readContract .APPROVAL_THRESHOLD >>= executeIfDue client world id approvedHash payment, sent⟩ =
      if payment.executed = true then .reports else if threshold ≤ payment.approvals then .executes else .pends := by
  change (match executeIfDue client world id approvedHash payment threshold with
    | .done approval => Duty.ofApproval approval
    | .call _ _ => .executes
    | .fail _ => .gone : Duty) = _
  cases executed : payment.executed with
  | true =>
    rw [executeIfDue_early (by simp [executed])]
    simp [Duty.ofApproval, executed]
  | false =>
    by_cases enough : threshold ≤ payment.approvals
    · rw [executeIfDue_due encoded ⟨executed, enough⟩]
      simp [simulating, enough]
    · rw [executeIfDue_early (by simp [enough])]
      simp [Duty.ofApproval, executed, enough]

end Handlers

section Goes
variable {client : Client} {world : DemoAddresses} {treasury next : HouseTreasury}
  {exchange : Program.Exchange DemoCall DemoCall.Answer} {rest : Handler Approval}

theorem counted_append {sent more : List (ContractCall × Sent)} (counted : Counted sent) : Counted (sent ++ more) := by
  obtain ⟨tx, member, included⟩ := counted
  exact ⟨tx, List.mem_append_left _ member, included⟩

theorem counted_last {sent : List (ContractCall × Sent)} {call : ContractCall} {tx : Sent}
    (last : sent.getLast? = some (call, tx)) (included : tx.included = true) : Counted sent :=
  ⟨_, List.mem_of_getLast? last, included⟩

/-- A transaction of a payment touches that payment alone. -/
theorem writing_touches (documented : client.Documented) {id : ℕ} {word : Uint256} (encoded : Encoded client id word)
    {past : List (ContractCall × Sent)} {call : ContractCall} {tx : Sent}
    (about : call.function = .approvePayment word ∨ call.function = .executePayment word)
    (answered : Answered world treasury past ⟨.writeContract call, tx⟩ next) : Touches treasury next id := by
  have same := encoded.toNat documented
  rcases answered_write answered with rfl | ⟨takes, -⟩
  · exact touches_refl _ _
  rcases takes.touches with ⟨taken, function, touches⟩ | ⟨taken, function, touches⟩ <;>
    rcases about with about | about <;> rw [about] at function <;> cases function
  · exact same ▸ touches
  · exact same ▸ touches

/-- What was not included changed nothing. -/
theorem excluded_changes_nothing {past : List (ContractCall × Sent)} {call : ContractCall} {tx : Sent}
    (answered : Answered world treasury past ⟨.writeContract call, tx⟩ next) (excluded : tx.included = false) :
    next = treasury := by
  rcases answered_write answered with same | ⟨-, included⟩
  · exact same
  · rw [excluded] at included
    cases included

/-- **One exchange.** A request goes on as it stands, touches no other payment, and
its duty turns as said. -/
theorem Stands.goes (documented : client.Documented) {request : Request} (stands : Stands client world request)
    (goes : request.rest.Reaches [exchange] rest)
    (answered : Answered world treasury request.sent exchange next) :
    Stands client world (request.goesOn exchange rest) ∧ Touches treasury next request.id ∧
      Turns treasury next request.id exchange (request.goesOn exchange rest).sent
        (request.duty treasury.APPROVAL_THRESHOLD)
        ((request.goesOn exchange rest).duty treasury.APPROVAL_THRESHOLD) := by
  cases stands with
  | failed err => cases goes
  | answers approval => cases goes
  | @approving owner id sent word encoded =>
    rcases simulating_goes goes with ⟨err, rfl, rfl⟩ | ⟨result, rfl, rfl⟩
    · obtain rfl := asking_changes_nothing answered (fun _ => nofun)
      exact ⟨.failed err, touches_refl _ _, .drops rfl⟩
    · obtain rfl := asking_changes_nothing answered (fun _ => nofun)
      exact ⟨.approves encoded, touches_refl _ _, .stays _ rfl⟩
  | @approves owner id sent word encoded =>
    obtain ⟨tx, rfl, ⟨err, rejected, rfl⟩ | ⟨accepted, rfl⟩⟩ := sending_goes goes
    · refine ⟨.failed err, writing_touches documented encoded (.inl rfl) answered, ?_⟩
      cases included : tx.included with
      | true =>
        exact .fails _ (.inl (by simp [rejected])) ⟨_, List.mem_append_right _ List.mem_cons_self, included⟩
      | false => exact .drops (excluded_changes_nothing answered included)
    · have last : (sent ++ [(approvalCall world owner word, tx)]).getLast? =
          some (approvalCall world owner word, tx) := List.getLast?_concat
      refine ⟨.approved encoded last, writing_touches documented encoded (.inl rfl) answered, ?_⟩
      change Turns _ _ _ _ _ .approves (Request.duty _
        ⟨owner, id, waiting _ tx.hash, sent ++ [(approvalCall world owner word, tx)]⟩)
      rw [waiting_duty last, ofWaiting_approval]
      cases included : tx.included with
      | true => exact .counts
      | false => exact .drops (excluded_changes_nothing answered included)
  | @approved owner id sent word encoded tx last =>
    rcases waiting_goes goes with ⟨err, rfl, rfl⟩ | ⟨rfl, rfl⟩
    · obtain rfl := asking_changes_nothing answered (fun _ => nofun)
      refine ⟨.failed err, touches_refl _ _, ?_⟩
      rw [waiting_duty last, ofWaiting_approval]
      cases included : tx.included with
      | true => exact .fails _ trivial (counted_append (counted_last last included))
      | false => exact .stays _ rfl
    · obtain rfl := asking_changes_nothing answered (fun _ => nofun)
      obtain ⟨call, other, last', included⟩ := answered_receipt answered
      cases last.symm.trans last'
      refine ⟨.reading encoded (counted_append (counted_last last included)) _, touches_refl _ _, ?_⟩
      rw [waiting_duty last, ofWaiting_approval, if_pos included]
      exact .stays _ rfl
  | @reading owner id sent word encoded counted approvedHash =>
    rcases reading_goes goes with ⟨err, rfl, rfl⟩ | ⟨payment, rfl, rfl⟩
    · obtain rfl := asking_changes_nothing answered (fun _ => nofun)
      exact ⟨.failed err, touches_refl _ _, .fails _ trivial (counted_append counted)⟩
    · obtain rfl := asking_changes_nothing answered (fun _ => nofun)
      obtain rfl := answered_payment answered
      refine ⟨.weighing encoded (counted_append counted) _ _, touches_refl _ _, ?_⟩
      change Turns _ _ _ _ _ .reads (Request.duty _ ⟨owner, id, readContract .APPROVAL_THRESHOLD >>= _, _⟩)
      rw [weighing_duty encoded]
      split
      · rename_i executed
        exact .knows rfl executed
      rename_i pending
      split
      · exact .due rfl pending
      · rename_i early
        exact .pends rfl pending fun awaiting => early awaiting.approved
  | @weighing owner id sent word encoded counted approvedHash payment =>
    rcases reading_goes goes with ⟨err, rfl, rfl⟩ | ⟨threshold, rfl, rfl⟩
    · obtain rfl := asking_changes_nothing answered (fun _ => nofun)
      exact ⟨.failed err, touches_refl _ _, .fails _ trivial (counted_append counted)⟩
    · obtain rfl := asking_changes_nothing answered (fun _ => nofun)
      obtain rfl := answered_threshold answered
      change Stands client world ⟨owner, id, executeIfDue client world id approvedHash payment _, sent ++ []⟩ ∧
        _ ∧ Turns _ _ _ _ _ (Request.duty _ ⟨owner, id, readContract .APPROVAL_THRESHOLD >>= _, sent⟩)
          (Request.duty _ ⟨owner, id, executeIfDue client world id approvedHash payment _, sent ++ []⟩)
      rw [weighing_duty encoded]
      by_cases due : payment.executed = false ∧ next.APPROVAL_THRESHOLD ≤ payment.approvals
      · rw [executeIfDue_due encoded due, if_neg (by simp [due.1]), if_pos due.2]
        exact ⟨.executing encoded (counted_append counted) _ _, touches_refl _ _, .stays _ rfl⟩
      · rw [executeIfDue_early due]
        refine ⟨.answers _, touches_refl _ _, ?_⟩
        change Turns _ _ _ _ _ _ (if payment.executed then .reports else .pends)
        cases executed : payment.executed with
        | true => exact .stays _ rfl
        | false =>
          rw [if_neg (by simp), if_neg fun enough => due ⟨executed, enough⟩]
          exact .stays _ rfl
  | @executing owner id sent word encoded counted approvedHash payment =>
    rcases simulating_goes goes with ⟨err, rfl, rfl⟩ | ⟨result, rfl, rfl⟩
    · obtain rfl := asking_changes_nothing answered (fun _ => nofun)
      exact ⟨.failed err, touches_refl _ _, .fails _ trivial (counted_append counted)⟩
    · obtain rfl := asking_changes_nothing answered (fun _ => nofun)
      exact ⟨.executes encoded (counted_append counted) _ _, touches_refl _ _, .stays _ rfl⟩
  | @executes owner id sent word encoded counted approvedHash payment =>
    obtain ⟨tx, rfl, ⟨err, rejected, rfl⟩ | ⟨accepted, rfl⟩⟩ := sending_goes goes
    · exact ⟨.failed err, writing_touches documented encoded (.inr rfl) answered,
        .fails _ (.inl (by simp [rejected])) (counted_append counted)⟩
    · have last : (sent ++ [(executionCall world word, tx)]).getLast? = some (executionCall world word, tx) :=
        List.getLast?_concat
      refine ⟨.executed encoded (counted_append counted) _ _ last,
        writing_touches documented encoded (.inr rfl) answered, ?_⟩
      change Turns _ _ _ _ _ .executes (Request.duty _
        ⟨owner, id, waiting _ tx.hash, sent ++ [(executionCall world word, tx)]⟩)
      rw [waiting_duty last, ofWaiting_execution]
      cases included : tx.included with
      | true => exact .executed rfl rfl accepted included
      | false => exact .fails _ (.inr included) (counted_append counted)
  | @executed owner id sent word encoded counted approvedHash payment tx last =>
    rcases waiting_goes goes with ⟨err, rfl, rfl⟩ | ⟨rfl, rfl⟩
    · obtain rfl := asking_changes_nothing answered (fun _ => nofun)
      exact ⟨.failed err, touches_refl _ _, .fails _ trivial (counted_append counted)⟩
    · obtain rfl := asking_changes_nothing answered (fun _ => nofun)
      obtain ⟨call, other, last', included⟩ := answered_receipt answered
      cases last.symm.trans last'
      refine ⟨.answers _, touches_refl _ _, ?_⟩
      rw [waiting_duty last, ofWaiting_execution, if_pos included]
      exact .stays _ rfl

/-- What a request that goes on sends is of its payment, and its owner's or the operator's. -/
theorem Stands.sends {request : Request} (stands : Stands client world request)
    (goes : request.rest.Reaches [exchange] rest) :
    ∃ word, Encoded client request.id word ∧ ∀ call, exchange.fst = .writeContract call →
      call = approvalCall world request.owner word ∨ call = executionCall world word := by
  cases stands with
  | failed err => cases goes
  | answers approval => cases goes
  | approving encoded =>
    refine ⟨_, encoded, ?_⟩
    rcases simulating_goes goes with ⟨err, rfl, -⟩ | ⟨result, rfl, -⟩ <;> exact nofun
  | approves encoded =>
    obtain ⟨tx, rfl, -⟩ := sending_goes goes
    exact ⟨_, encoded, by rintro _ ⟨⟩; exact .inl rfl⟩
  | approved encoded last =>
    refine ⟨_, encoded, ?_⟩
    rcases waiting_goes goes with ⟨err, rfl, -⟩ | ⟨rfl, -⟩ <;> exact nofun
  | reading encoded counted approvedHash =>
    refine ⟨_, encoded, ?_⟩
    rcases reading_goes goes with ⟨err, rfl, -⟩ | ⟨value, rfl, -⟩ <;> exact nofun
  | weighing encoded counted approvedHash payment =>
    refine ⟨_, encoded, ?_⟩
    rcases reading_goes goes with ⟨err, rfl, -⟩ | ⟨value, rfl, -⟩ <;> exact nofun
  | executing encoded counted approvedHash payment =>
    refine ⟨_, encoded, ?_⟩
    rcases simulating_goes goes with ⟨err, rfl, -⟩ | ⟨result, rfl, -⟩ <;> exact nofun
  | executes encoded counted approvedHash payment =>
    obtain ⟨tx, rfl, -⟩ := sending_goes goes
    exact ⟨_, encoded, by rintro _ ⟨⟩; exact .inr rfl⟩
  | executed encoded counted approvedHash payment last =>
    refine ⟨_, encoded, ?_⟩
    rcases waiting_goes goes with ⟨err, rfl, -⟩ | ⟨rfl, -⟩ <;> exact nofun

/-- What an exchange does to the treasury: nothing, the approval of its owner, or an
execution. -/
inductive Does (world : DemoAddresses) (treasury : HouseTreasury) (request : Request)
    (exchange : Program.Exchange DemoCall DemoCall.Answer) (next : HouseTreasury) : Prop where
  | nothing (same : next = treasury)
  | approves (env : Env) (sends : (Request.sentBy exchange).length = 1)
      (done : treasury.approvePayment env (world.actorAddress request.owner) request.id = .ok next)
  | executes (executing : Executes exchange)

theorem Stands.does (documented : client.Documented) {request : Request} (stands : Stands client world request)
    (goes : request.rest.Reaches [exchange] rest) (answered : Answered world treasury request.sent exchange next) :
    request.id < 2 ^ 256 ∧ Does world treasury request exchange next := by
  obtain ⟨word, encoded, sends⟩ := stands.sends goes
  refine ⟨encoded.toNat documented ▸ word.isLt, ?_⟩
  by_cases writing : ∃ call tx, exchange = ⟨.writeContract call, tx⟩
  · obtain ⟨call, tx, rfl⟩ := writing
    rcases answered_write answered with same | ⟨takes, included⟩
    · exact .nothing same
    rcases sends call rfl with rfl | rfl
    · cases takes with
      | approves done => exact .approves _ rfl (encoded.toNat documented ▸ done)
    · exact .executes ⟨⟨word, rfl⟩, included⟩
  · obtain ⟨asked, answer⟩ := exchange
    exact .nothing (asking_changes_nothing answered fun call same =>
      writing (by subst same; exact ⟨call, answer, rfl⟩))

/-- An execution that the chain takes is of the request's own payment. -/
theorem Stands.executed_of_takes (documented : client.Documented) {request : Request}
    (stands : Stands client world request) {call : ContractCall} {tx : Sent} {word : Uint256}
    (goes : request.rest.Reaches [⟨.writeContract call, tx⟩] rest)
    (execution : call.function = .executePayment word)
    (takes : Takes world treasury call next) : Executed next request.id := by
  obtain ⟨own, encoded, sends⟩ := stands.sends goes
  rcases sends call rfl with rfl | rfl
  · cases execution
  · cases takes with
    | executes done => exact encoded.toNat documented ▸ (touches_of_executePayment done).2

end Goes

end PassportKit.PaymentApprovals
