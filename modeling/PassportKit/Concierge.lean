import PassportKit.DemoChain

/-! The concierge's route: a ticket is decided, and then either paid by the agent,
who sells CASA for the invoice and settles it with the vendor, or proposed to the
treasury, whose owners approve it. What the vendor answers decides nothing about
whom the agent pays, and how much. -/
namespace PassportKit.Concierge
open Evm Js Interaction DemoChain
open Eip712 (Crypto)
open Evidence (Decision Ticket request evidenceHash)
open Refusals (Thrown decodeThrown)
open X402 (Response Settled settleInvoice judge IsExactOffer)

/-- The refusal on a ticket's record. -/
structure TicketRefusal where
  reason : JsString
  wallet : Option JsString
  message : JsString
  source : Option JsString
  deriving DecidableEq

structure Standing where
  ok : Bool
  reason : Option JsString

section Route
variable (client : Client) (world : DemoAddresses)

def readStanding (wallet : Address) : Handler Standing := do
  let (ok, reason) ← readContract (.isAgentInGoodStanding wallet)
  let reason := bytes32ToString client reason
  pure { ok, reason := if reason = [] then none else some reason }

def refusalOf (err : Thrown) : TicketRefusal :=
  let refused := failure client err
  { reason := refused.reason, wallet := refused.wallet, message := refused.message, source := none }

/-- `readStanding(…).catch(() => null)` -/
def standingOrNull (wallet : Address) : Handler (Option Standing) :=
  (some <$> readStanding client wallet).catching fun _ => pure none

/-- The treasury reverts bare, so its own view is asked why. -/
def refusalWithStanding (err : Thrown) : Handler TicketRefusal :=
  if (decodeThrown client.toViem err).isSome then pure (refusalOf client err)
  else do
    let standing ← standingOrNull client (world.actorAddress .concierge)
    match standing with
    | some { ok := false, reason := some reason } =>
      pure { refusalOf client err with
        reason
        wallet := some (client.checksumAddress (world.actorAddress .concierge))
        source := some (text "treasury") }
    | _ => pure (refusalOf client err)

def swapOf (amountWei : ℤ) : Except Thrown ContractFunction := do
  let casaFirst := casaIsCurrency0 client world
  let amountSpecified ← client.encodeInt256 amountWei
  return .swap (houseKey client world) casaFirst amountSpecified
    (if casaFirst then MIN_SQRT_PRICE_PLUS_1 else MAX_SQRT_PRICE_MINUS_1) false false
    (DemoPositionRouter.words [addressWord (world.actorAddress .concierge)])

/-- An exact-output swap: CASA for exactly the invoice in mUSD. -/
def swapForInvoice (amountWei : ℤ) : Handler JsString :=
  write .concierge world.swapRouter (swapOf client world amountWei)

/-- What `BigInt` throws. -/
def notAnInteger : Thrown := ⟨none, text "Cannot convert value to a BigInt", []⟩

/-- `[accept.payTo, BigInt(accept.amount)]`, encoded for `transfer`. -/
def transferOf (accept : JsValue) : Except Thrown ContractFunction := do
  let amount ← (toBigInt (accept.get (text "amount"))).elim (.error notAnInteger) .ok
  let recipient ← client.encodeAddress (accept.get (text "payTo"))
  let amount ← client.encodeUint256 amount
  return .transfer recipient amount

/-- What the agent asks the vendor, and what it knows without asking. -/
def invoiceOf (id : Double) (amountWei : ℤ) (vendorUrl : JsString) : X402.Invoice where
  vendorUrl
  jobId := id
  amount := bigintText amountWei
  expected := {
    asset := client.checksumAddress world.musd
    payTo := client.checksumAddress (world.actorAddress .plumber) }

def payInvoice (id : Double) (amountWei : ℤ) (vendorUrl : JsString) : Handler Settled :=
  settleInvoice client.toLowerCasing fetch
    (fun accept => write .concierge world.musd (transferOf client accept))
    (invoiceOf client world id amountWei vendorUrl)

structure DemoTicket where
  id : Double
  description : JsString
  category : JsString
  vendor : JsString
  decision : Decision
  evidenceHash : Bytes32
  txHashes : List JsString
  refusal : Option TicketRefusal
  settleError : Option JsString
  paid : Bool
  paymentId : Option ℚ
  status : JsString

structure TicketInput where
  description : JsString
  amount : JsString
  category : JsString
  vendorUrl : JsString

structure Reply where
  ok : Bool
  status : Option JsString
  ticket : DemoTicket

def refuse (record : DemoTicket) (refusal : TicketRefusal) : Reply where
  ok := true
  status := none
  ticket := { record with refusal := some refusal, status := text "refused" }

/-- What the vendor's settlement, or the error of it, leaves on the record. -/
def recordSettlement (record : DemoTicket) : Except JsString Settled → DemoTicket
  | .ok settled => { record with
      txHashes := record.txHashes ++ (settled.txHash.filter fun hash => hash ≠ []).toList
      paid := settled.paid
      settleError := if settled.paid then record.settleError
        else some (settled.error.getD (text "vendor did not confirm the payment")) }
  | .error settleError => { record with settleError := some settleError }

def closeTicket (record : DemoTicket) : Reply :=
  if record.paid then { ok := true, status := none, ticket := { record with status := text "paid" } }
  else { ok := false, status := some (text "unsettled"), ticket := { record with status := text "unsettled" } }

/-- The two legs do not share a catch: a refusal says that nothing was spent. -/
def payTicket (record : DemoTicket) (amountWei : ℤ) (vendorUrl : JsString) : Handler Reply := do
  let swapped ← (swapForInvoice client world amountWei).attempt (refusalWithStanding client world)
  match swapped with
  | .error refusal => pure (refuse record refusal)
  | .ok swapHash =>
    let settled ← (payInvoice client world record.id amountWei vendorUrl).attempt fun err => pure (shown err)
    pure (closeTicket (recordSettlement { record with txHashes := record.txHashes ++ [swapHash] } settled))

def proposalOf (record : DemoTicket) (amountWei : ℤ) : Except Thrown ContractFunction := do
  let amount ← client.encodeUint256 amountWei
  return .proposePayment (world.actorAddress .plumber) amount record.evidenceHash

def proposeTicket (record : DemoTicket) (amountWei : ℤ) : Handler Reply := do
  let proposed ← (send .concierge world.treasury (proposalOf client world record amountWei)).attempt
    (refusalWithStanding client world)
  match proposed with
  | .ok proposed =>
    pure { ok := true, status := none, ticket := { record with
      txHashes := record.txHashes ++ [proposed.hash]
      paymentId := toDouble proposed.result.toNat
      status := text "pending-approval" } }
  | .error refusal => pure (refuse record refusal)

/-- The record a ticket starts with. Only a string is hashed, and there always is one. -/
def newRecord [Crypto Bytes32] (ticket : Ticket) (decision : Decision) : Except Thrown DemoTicket :=
  match evidenceHash (request decision ticket) with
  | none => .error ⟨none, text "undefined is not a string", []⟩
  | some evidenceHash => .ok {
    id := ticket.id
    description := ticket.description
    category := ticket.category
    vendor := ticket.vendor
    decision
    evidenceHash
    txHashes := []
    refusal := none
    settleError := none
    paid := false
    paymentId := none
    status := decision.action }

def ticketOf (id : Double) (input : TicketInput) (amountWei : ℤ) : Ticket where
  id
  description := input.description
  vendor := client.checksumAddress (world.actorAddress .plumber)
  amount := amountWei
  category := input.category

/-- The ticket, and what is decided about it. -/
def consult (id : Double) (input : TicketInput) : Handler (Ticket × Decision) := do
  let amountWei ← .ofExcept (client.parseEther input.amount)
  let ticket := ticketOf client world id input amountWei
  let casaBalance ← readContract (.balanceOf world.casa (world.actorAddress .concierge))
  let perTxCap ← readContract .agentPerTxCap
  let decision ← askDecider ticket perTxCap.toNat (casaBalance.toNat * 98 / 100)
  pure (ticket, decision)

/-- `id` is the next one of the feed, which takes the record before anything is sent. -/
def doTicket [Crypto Bytes32] (id : Double) (input : TicketInput) : Handler Reply := do
  let (ticket, decision) ← consult client world id input
  let record ← .ofExcept (newRecord ticket decision)
  if decision.action = text "pay" then payTicket client world record ticket.amount input.vendorUrl
  else if decision.action = text "propose" then proposeTicket client world record ticket.amount
  else pure { ok := true, status := none, ticket := { record with status := text "rejected" } }

structure Approval where
  approvals : ℕ
  executed : Bool
  txHashes : List JsString

def approvalOf (id : ℕ) : Except Thrown ContractFunction := (client.encodeUint256 id).map .approvePayment

def executionOf (id : ℕ) : Except Thrown ContractFunction := (client.encodeUint256 id).map .executePayment

/-- The last signature also executes. -/
def executeIfDue (id : ℕ) (approvedHash : JsString) (payment : PendingPayment) (threshold : ℕ) :
    Handler Approval :=
  if payment.executed = false ∧ threshold ≤ payment.approvals then do
    let executedHash ← write .operator world.treasury (executionOf client id)
    pure { approvals := payment.approvals, executed := true, txHashes := [approvedHash, executedHash] }
  else pure { approvals := payment.approvals, executed := payment.executed, txHashes := [approvedHash] }

/-- Both reads are awaited together; the threshold never changes. -/
def afterApproval (id : ℕ) (approvedHash : JsString) : Handler Approval := do
  let payment ← readContract (.payments id)
  let threshold ← readContract .APPROVAL_THRESHOLD
  executeIfDue client world id approvedHash payment threshold

/-- One owner signs off. What is left of the handler then calls nobody: it is
`recordApproval`. -/
def doApprove (owner : DemoActor) (id : ℕ) : Handler Approval := do
  let approvedHash ← write owner world.treasury (approvalOf client id)
  afterApproval client world id approvedHash

end Route

def findTicketByPaymentId (tickets : List DemoTicket) (id : ℕ) : Option DemoTicket :=
  tickets.find? fun ticket => ticket.paymentId = some (id : ℚ)

def DemoTicket.approve (ticket : DemoTicket) (approval : Approval) : DemoTicket :=
  { ticket with
    txHashes := ticket.txHashes ++ approval.txHashes
    status := if approval.executed then text "executed" else text "pending-approval"
    paid := approval.executed }

/-- The ticket that is found is updated, if one is. -/
def recordApproval (id : ℕ) (approval : Approval) : List DemoTicket → List DemoTicket
  | [] => []
  | ticket :: rest =>
    if ticket.paymentId = some (id : ℚ) then ticket.approve approval :: rest
    else ticket :: recordApproval id approval rest

/-! ## What the agent pays -/

/-- How far the payment of an invoice can get. -/
inductive Paying (client : Client) (world : DemoAddresses) (invoice : X402.Invoice) :
    Trace → Program.Stage DemoCall Thrown Settled → Prop where
  | asks : Paying client world invoice [] (.asks (.fetch invoice.request))
  | unreachable (err : Thrown) :
      Paying client world invoice [⟨.fetch invoice.request, .error err⟩] (.threw err)
  | settled {first : Response} {outcome : Settled}
      (judged : judge client.toLowerCasing invoice.amount invoice.expected first = .settled outcome) :
      Paying client world invoice [⟨.fetch invoice.request, .ok first⟩] (.returned outcome)
  | unencoded {first : Response} {accept : JsValue}
      (judged : judge client.toLowerCasing invoice.amount invoice.expected first = .pay accept) {err : Thrown}
      (encoded : transferOf client accept = .error err) :
      Paying client world invoice [⟨.fetch invoice.request, .ok first⟩] (.threw err)
  | sends {first : Response} {accept : JsValue}
      (judged : judge client.toLowerCasing invoice.amount invoice.expected first = .pay accept)
      {function : ContractFunction} (encoded : transferOf client accept = .ok function) {sent : Trace}
      {request : DemoCall} (sending : Sending ⟨.concierge, world.musd, function⟩ sent (.asks request)) :
      Paying client world invoice (⟨.fetch invoice.request, .ok first⟩ :: sent) (.asks request)
  | unsent {first : Response} {accept : JsValue}
      (judged : judge client.toLowerCasing invoice.amount invoice.expected first = .pay accept)
      {function : ContractFunction} (encoded : transferOf client accept = .ok function) {sent : Trace}
      {err : Thrown} (sending : Sending ⟨.concierge, world.musd, function⟩ sent (.threw err)) :
      Paying client world invoice (⟨.fetch invoice.request, .ok first⟩ :: sent) (.threw err)
  | retries {first : Response} {accept : JsValue}
      (judged : judge client.toLowerCasing invoice.amount invoice.expected first = .pay accept)
      {function : ContractFunction} (encoded : transferOf client accept = .ok function) {sent : Trace}
      {written : Written} (sending : Sending ⟨.concierge, world.musd, function⟩ sent (.returned written)) :
      Paying client world invoice (⟨.fetch invoice.request, .ok first⟩ :: sent)
        (.asks (.fetch (invoice.retry written.hash)))
  | lost {first : Response} {accept : JsValue}
      (judged : judge client.toLowerCasing invoice.amount invoice.expected first = .pay accept)
      {function : ContractFunction} (encoded : transferOf client accept = .ok function) {sent : Trace}
      {written : Written} (sending : Sending ⟨.concierge, world.musd, function⟩ sent (.returned written))
      (err : Thrown) :
      Paying client world invoice
        (⟨.fetch invoice.request, .ok first⟩ :: (sent ++ [⟨.fetch (invoice.retry written.hash), .error err⟩]))
        (.threw err)
  | answered {first : Response} {accept : JsValue}
      (judged : judge client.toLowerCasing invoice.amount invoice.expected first = .pay accept)
      {function : ContractFunction} (encoded : transferOf client accept = .ok function) {sent : Trace}
      {written : Written} (sending : Sending ⟨.concierge, world.musd, function⟩ sent (.returned written))
      (retry : Response) :
      Paying client world invoice
        (⟨.fetch invoice.request, .ok first⟩ :: (sent ++ [⟨.fetch (invoice.retry written.hash), .ok retry⟩]))
        (.returned ⟨retry.status = 200, some written.hash, none⟩)

/-- The one transfer an invoice can cost: the amount in mUSD, from the agent to the plumber. -/
def IsInvoiceTransfer (world : DemoAddresses) (amountWei : ℤ) (call : ContractCall) : Prop :=
  ∃ amount : Uint256, (amount.toNat : ℤ) = amountWei ∧
    call = ⟨.concierge, world.musd, .transfer (world.actorAddress .plumber) amount⟩

section Payment
variable {client : Client} {world : DemoAddresses} {id : Double} {amountWei : ℤ} {vendorUrl : JsString}
  {trace : Trace}

/-- Every run of `payInvoice` is one of these. -/
theorem paying_of_reaches {later : Handler Settled}
    (reaches : (payInvoice client world id amountWei vendorUrl).Reaches trace later) :
    Paying client world (invoiceOf client world id amountWei vendorUrl) trace later.stage := by
  generalize shape : invoiceOf client world id amountWei vendorUrl = invoice at *
  rw [payInvoice, shape] at reaches
  rcases Program.reaches_call.mp reaches with ⟨rfl, rfl⟩ | ⟨answer, rest, rfl, asked⟩
  · exact .asks
  clear reaches
  cases answer with
  | error err =>
    obtain ⟨rfl, rfl⟩ := Program.reaches_fail.mp asked
    exact .unreachable err
  | ok first =>
    simp only [Program.ofExcept, Program.bind] at asked
    cases judged : judge client.toLowerCasing invoice.amount invoice.expected first with
    | settled outcome =>
      rw [judged] at asked
      obtain ⟨rfl, rfl⟩ := Program.reaches_done.mp asked
      exact .settled judged
    | pay accept =>
      rw [judged] at asked
      rcases Program.reaches_bind.mp asked with
        ⟨middle, inside, rfl⟩ | ⟨sent, after, hash, rfl, inside, outside⟩
      · cases middle with
        | done hash =>
          obtain ⟨function, written, encoded, sending, rfl⟩ := writing_returns inside
          exact .retries judged encoded sending
        | fail err =>
          rcases writing_throws inside with ⟨encoded, rfl⟩ | ⟨function, encoded, sending⟩
          · exact .unencoded judged encoded
          · exact .unsent judged encoded sending
        | call request resume =>
          obtain ⟨function, encoded, sending⟩ := writing_makes ⟨resume, inside⟩
          exact .sends judged encoded sending
      · obtain ⟨function, written, encoded, sending, rfl⟩ := writing_returns inside
        rcases Program.reaches_call.mp outside with ⟨rfl, rfl⟩ | ⟨retried, last, rfl, ended⟩
        · rw [List.append_nil]
          exact .retries judged encoded sending
        clear outside
        cases retried with
        | error err =>
          obtain ⟨rfl, rfl⟩ := Program.reaches_fail.mp ended
          exact .lost judged encoded sending err
        | ok retry =>
          obtain ⟨rfl, rfl⟩ := Program.reaches_done.mp ended
          exact .answered judged encoded sending retry

theorem transferOf_eq_ok {accept : JsValue} {function : ContractFunction}
    (encoded : transferOf client accept = .ok function) :
    ∃ amount recipient word, toBigInt (accept.get (text "amount")) = some amount ∧
      client.encodeAddress (accept.get (text "payTo")) = .ok recipient ∧
      client.encodeUint256 amount = .ok word ∧ function = .transfer recipient word := by
  unfold transferOf at encoded
  cases read : toBigInt (accept.get (text "amount")) with
  | none =>
    rw [read] at encoded
    cases encoded
  | some amount =>
    cases address : client.encodeAddress (accept.get (text "payTo")) with
    | error err =>
      rw [read, address] at encoded
      cases encoded
    | ok recipient =>
      cases value : client.encodeUint256 amount with
      | error err =>
        simp only [read, address, Option.elim, bind, Except.bind, value] at encoded
        cases encoded
      | ok word =>
        simp only [read, address, Option.elim, bind, Except.bind, value] at encoded
        cases encoded
        exact ⟨amount, recipient, word, rfl, rfl, value, rfl⟩

/-- Encoding an exact offer gives the one transfer, whatever types its fields have. -/
theorem transferOf_exact (documented : client.Documented) {challenge accept : JsValue}
    (offer : IsExactOffer client.toLowerCasing (invoiceOf client world id amountWei vendorUrl) challenge accept)
    {function : ContractFunction} (encoded : transferOf client accept = .ok function) :
    IsInvoiceTransfer world amountWei ⟨.concierge, world.musd, function⟩ := by
  obtain ⟨amount, recipient, word, read, address, value, rfl⟩ := transferOf_eq_ok encoded
  obtain ⟨payTo, named, same⟩ := offer.payTo
  obtain ⟨asked, read', owed⟩ := offer.amount
  have whole : amount = amountWei := by
    have agreed : toBigInt (some (.string (bigintText amountWei))) = some amountWei :=
      stringToBigInt_bigintText amountWei
    exact Option.some.inj (read.symm.trans (read'.trans (owed.symm.trans agreed)))
  have whom : recipient = world.actorAddress .plumber := by
    rw [named] at address
    apply addressText_injective
    rw [← documented.encodes payTo recipient address, ← documented.checksums]
    exact same
  exact ⟨word, whole ▸ documented.uint256 amount word value, by rw [whom]⟩

/-- **Hostile vendors.** Whatever the vendor answers, a settlement pays only the exact
offer, and the only transaction that paying an invoice sends is that one transfer. -/
theorem hostile_vendor_moves_no_other_money (documented : client.Documented) (world : DemoAddresses) :
    (∀ (ε : Type) (casing : X402.LowerCasing) (invoice : X402.Invoice), X402.Guarded ε casing invoice) ∧
      ∀ (id : Double) (amountWei : ℤ) (vendorUrl : JsString) (trace : Trace) (call : ContractCall),
        (payInvoice client world id amountWei vendorUrl).Makes trace (.writeContract call) →
          IsInvoiceTransfer world amountWei call ∧
            ∀ exchange ∈ trace, ∀ other, exchange.1 ≠ .writeContract other := by
  refine ⟨X402.guarded, ?_⟩
  rintro id amountWei vendorUrl trace call ⟨resume, reaches⟩
  cases paying_of_reaches reaches with
  | @sends first accept judged function encoded sent request sending =>
    obtain ⟨-, challenge, -, offer⟩ := X402.judge_pay judged
    cases sending with
    | sends result =>
      refine ⟨transferOf_exact documented offer encoded, ?_⟩
      intro exchange member other
      rcases List.mem_pair.mp member with rfl | rfl <;> exact nofun

end Payment

def demoWorld : DemoAddresses where
  chainId := 1
  claimIssuer := 20
  identityFactory := 29
  swapRouter := 21
  treasury := 22
  mandateHook := 23
  casa := 24
  musd := 25
  fee := 3000
  tickSpacing := 60
  actorAddress
    | .operator => 1
    | .ana => 2
    | .rui => 3
    | .concierge => 4
    | .plumber => 5

/-- The first ticket. -/
def firstId : Double := ⟨1, by decide +kernel⟩

def exactOffer : JsValue := .object [
  (text "scheme", .string (text "exact")),
  (text "asset", .string (addressText demoWorld.musd)),
  (text "payTo", .string (addressText (demoWorld.actorAddress .plumber))),
  (text "amount", .string (text "120"))]

def paymentRequired : Response := ⟨402, some (.object [(text "accepts", .array [exactOffer])])⟩

def demoInvoice : X402.Invoice := invoiceOf Library.client demoWorld firstId 120 (text "http://vendor")

theorem judge_exactOffer :
    judge Library.client.toLowerCasing demoInvoice.amount demoInvoice.expected paymentRequired = .pay exactOffer := by
  have found : X402.offered (.object [(text "accepts", .array [exactOffer])]) = exactOffer := rfl
  have matched : X402.mismatchedField Library.client.toLowerCasing exactOffer demoInvoice.amount
      demoInvoice.expected = none := by
    decide +kernel
  have object : X402.IsObject exactOffer := trivial
  simp [judge, paymentRequired, found, matched, object]

/-- The call that pays it. -/
def plumberCall : ContractCall := ⟨.concierge, demoWorld.musd, .transfer (demoWorld.actorAddress .plumber) 120⟩

theorem transferOf_exactOffer : transferOf Library.client exactOffer = .ok plumberCall.function := by
  rfl

theorem exact_offer_is_paid : ∃ trace,
    (payInvoice Library.client demoWorld firstId 120 (text "http://vendor")).Makes trace
      (.writeContract plumberCall) ∧ IsInvoiceTransfer demoWorld 120 plumberCall := by
  have makes : (payInvoice Library.client demoWorld firstId 120 (text "http://vendor")).Makes
      [⟨.fetch demoInvoice.request, .ok paymentRequired⟩, ⟨.simulateContract plumberCall, .ok 1⟩]
      (.writeContract plumberCall) := by
    have shape : invoiceOf Library.client demoWorld firstId 120 (text "http://vendor") = demoInvoice := rfl
    rw [payInvoice, shape]
    apply Program.makes_later
    simp only [Program.ofExcept, Program.bind, judge_exactOffer]
    change ((write .concierge demoWorld.musd (transferOf Library.client exactOffer)) >>= _ :
      Handler Settled).Makes _ _
    rw [transferOf_exactOffer]
    apply Program.makes_later
    apply Program.makes_next
  exact ⟨_, makes, ((hostile_vendor_moves_no_other_money Library.documented demoWorld).2 _ _ _ _ _ makes).1⟩

end PassportKit.Concierge
