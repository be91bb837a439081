import Mathlib.Algebra.Order.BigOperators.Group.List
import PassportKit.HouseSpending
import PassportKit.VendorHandshake

/-! The books of the house and of its plumber, who looks at the chain. A ticket that is
recorded as paid is paid for by a transaction of its own, so that what the tickets say
is never more than what the plumber has been sent. The plumber keeps no book of the
transactions it has been shown, and each is good again for another job. -/
namespace PassportKit.HouseSystem
open Evm Eip712 Js Interaction DemoChain Concierge VendorInvoice
open Refusals (Thrown bytesToHex)
open Verification (demoHashes)
open X402 (HttpRequest)

section Vendor
variable [Crypto Bytes32] (house : House)

omit [Crypto Bytes32] in
/-- What the node shows of the chain. It may fail, and reads a hash in either case. -/
def HouseChain.Shown (chain : HouseChain) (receipts : JsString → Except Thrown Receipt) : Prop :=
  ∀ hash receipt, receipts hash = .ok receipt → ∃ mined ∈ chain.mined,
    mined.hash = house.client.toLowerCase hash ∧ receipt.status = mined.status ∧
      List.Forall₂ (Shows house.client) mined.logs receipt.logs

omit [Crypto Bytes32] in
/-- Nothing that is mined is missed. -/
def HouseChain.Complete (chain : HouseChain) (receipts : JsString → Except Thrown Receipt) : Prop :=
  ∀ mined ∈ chain.mined, ∀ hash, house.client.toLowerCase hash = mined.hash →
    ∃ receipt, receipts hash = .ok receipt

/-- The plumber's own route. It asks the chain once, so that its answer is of one state. -/
def honestVendor : Vendor := fun chain request answer =>
  (∃ err, answer = .error err) ∨ ∃ receipts response, chain.Shown house receipts ∧
    (POST house.client house.world true request).run (answers receipts) = .ok response ∧
      answer = .ok response.received

/-- A transaction that paid the plumber this much. -/
def PaidOnChain (chain : HouseChain) (hash : JsString) (want : ℤ) : Prop :=
  ∃ mined ∈ chain.mined, mined.hash = house.client.toLowerCase hash ∧ mined.status = .success ∧
    ∃ log ∈ mined.logs, ∃ value, IsPlumberTransfer house.world log value ∧ want ≤ value.toNat

end Vendor

section Verdicts
variable [Crypto Bytes32] {house : House} {vendor : Vendor} {chain : HouseChain}
  {receipts : JsString → Except Thrown Receipt}
  {hash : JsString} {want : ℤ}

/-- What the vendor finds is on the chain. -/
theorem paidOnChain_of_found (documented : house.client.Documented) (spelled : ChecksumsAscii house.client)
    (sound : chain.Sound house) (shown : chain.Shown house receipts)
    (found : Found house.client house.world receipts hash want) :
    PaidOnChain house chain hash want := by
  obtain ⟨receipt, there, succeeded, credits⟩ := found.receipt
  obtain ⟨mined, member, same, status, shows⟩ := shown hash receipt there
  obtain ⟨credited, tested, verdict⟩ := someCredits_shown documented spelled shows (sound.logs mined member) want
  rw [credits, Except.ok.injEq] at tested
  exact ⟨mined, member, same, status ▸ succeeded, verdict.mp tested.symm⟩

/-- What is on the chain the vendor finds, if it is shown. -/
theorem found_of_paidOnChain (documented : house.client.Documented) (spelled : ChecksumsAscii house.client)
    (sound : chain.Sound house) (shown : chain.Shown house receipts) (complete : chain.Complete house receipts)
    (paid : PaidOnChain house chain hash want) : Found house.client house.world receipts hash want := by
  obtain ⟨mined, member, same, succeeded, credited⟩ := paid
  obtain ⟨receipt, there⟩ := complete mined member hash same.symm
  obtain ⟨other, member', same', status, shows⟩ := shown hash receipt there
  obtain rfl := List.inj_on_of_nodup_map sound.once member' member (same'.trans same.symm)
  obtain ⟨credits, tested, verdict⟩ := someCredits_shown documented spelled shows (sound.logs other member') want
  rw [verdict.mpr credited] at tested
  exact ⟨receipt, there, status.trans succeeded, tested⟩

/-- One payment is enough for any smaller one. -/
theorem PaidOnChain.mono {less : ℤ} (paid : PaidOnChain house chain hash want) (cheaper : less ≤ want) :
    PaidOnChain house chain hash less := by
  obtain ⟨mined, member, same, succeeded, log, inside, value, transfer, enough⟩ := paid
  exact ⟨mined, member, same, succeeded, log, inside, value, transfer, cheaper.trans enough⟩

variable {start last : HousePool} {log : List HouseEntry}

/-- What has paid stays paid. -/
theorem PaidOnChain.run (trace : Runs.Trace (houseSystem house vendor).Atom start log last)
    (paid : PaidOnChain house start.store hash want) : PaidOnChain house last.store hash want := by
  obtain ⟨mined, member, rest⟩ := paid
  have keeps (store : HouseChain) (label : HouseRequest) (exchange) (next : HouseChain)
      (there : mined ∈ store.mined) (serves : store.Serves house vendor exchange next) : mined ∈ next.mined :=
    serves.keeps there
  exact ⟨mined, Machine.preserves trace keeps member, rest⟩

theorem sound_of_run (trace : Runs.Trace (houseSystem house vendor).Atom start log last)
    (sound : start.store.Sound house) :
    last.store.Sound house :=
  Machine.preserves trace (fun (store : HouseChain) (_ : HouseRequest) _ _ (sound : store.Sound house)
    (serves : store.Serves house vendor _ _) => sound.serves serves) sound

/-- **No book of payments.** What the vendor has once accepted for a job it accepts ever
after, for any job that costs no more, from whoever names it. -/
theorem accepted_payments_are_good_again (documented : house.client.Documented) (spelled : ChecksumsAscii house.client)
    (trace : Runs.Trace (houseSystem house vendor).Atom start log last) (sound : start.store.Sound house)
    {later : JsString → Except Thrown Receipt} (shown : start.store.Shown house receipts)
    (shown' : last.store.Shown house later) (complete : last.store.Complete house later)
    {request again : HttpRequest} {response : HttpResponse}
    (ran : (POST house.client house.world true request).run (answers receipts) = .ok response)
    (accepted : response.status = 200) {hash' : JsString} {want' : ℤ} (claims : Claims request hash want)
    (claims' : Claims again hash' want') (same : house.client.toLowerCase hash' = house.client.toLowerCase hash)
    (cheaper : want' ≤ want) :
    ∃ response', (POST house.client house.world true again).run (answers later) = .ok response' ∧
      response'.status = 200 := by
  obtain ⟨answer, answered, verdict⟩ := @run_POST _ house.client house.world receipts request
  rw [ran, Except.ok.injEq] at answered
  subst answered
  obtain ⟨named, price, claimed, found⟩ := verdict.mp accepted
  obtain ⟨rfl, rfl⟩ := claims.unique claimed
  have paid := (paidOnChain_of_found documented spelled sound shown found).run trace
  have paid' : PaidOnChain house last.store hash' want' := by
    obtain ⟨mined, member, minedAs, rest⟩ := paid.mono cheaper
    exact ⟨mined, member, minedAs.trans same.symm, rest⟩
  have found' := found_of_paidOnChain documented spelled (sound_of_run trace sound) shown' complete paid'
  obtain ⟨answer, answered, verdict⟩ := @run_POST _ house.client house.world later again
  exact ⟨answer, answered, verdict.mpr ⟨hash', want', claims', found'⟩⟩

end Verdicts

/-! ## A settlement -/

section Settlement
variable [Crypto Bytes32] {house : House} {chains : HttpRequest → HouseChain} {trace : DemoChain.Trace} {id : Double}
  {amountWei : ℤ} {vendorUrl : JsString}

/-- Every response is the plumber's, of the chain as it was when it was asked. -/
def AnsweredOn (house : House) (chains : HttpRequest → HouseChain) (trace : DemoChain.Trace) : Prop :=
  ∀ request answer, ⟨.fetch request, .ok answer⟩ ∈ trace → ∃ receipts response,
    (chains request).Shown house receipts ∧ (chains request).Complete house receipts ∧
      (POST house.client house.world true request).run (answers receipts) = .ok response ∧ answer = response.received

omit [Crypto Bytes32] in
/-- The hashes that were told are those of transactions. -/
def NamesDigests (trace : DemoChain.Trace) : Prop :=
  ∀ tx ∈ sentIn trace, ∃ digest : Bytes32, tx.2.hash = bytesToHex (word digest)

/-- A call failed, or was told of a failure. -/
def Failed (trace : DemoChain.Trace) (err : Thrown) : Prop :=
  (∃ request, ⟨.fetch request, .error err⟩ ∈ trace) ∨
    (∃ call, ⟨.simulateContract call, .error err⟩ ∈ trace) ∨
    (∃ call sent, ⟨.writeContract call, sent⟩ ∈ trace ∧ sent.rejected = some err) ∨
    ∃ hash, ⟨.waitForTransactionReceipt hash, .error err⟩ ∈ trace

omit [Crypto Bytes32] in
theorem Failed.cons {err : Thrown} (failed : Failed trace err) (exchange : Program.Exchange DemoCall DemoCall.Answer) :
    Failed (exchange :: trace) err := by
  rcases failed with ⟨request, there⟩ | ⟨call, there⟩ | ⟨call, sent, there, rejected⟩ | ⟨hash, there⟩
  · exact .inl ⟨request, List.mem_cons_of_mem _ there⟩
  · exact .inr (.inl ⟨call, List.mem_cons_of_mem _ there⟩)
  · exact .inr (.inr (.inl ⟨call, sent, List.mem_cons_of_mem _ there, rejected⟩))
  · exact .inr (.inr (.inr ⟨hash, List.mem_cons_of_mem _ there⟩))

omit [Crypto Bytes32] in
theorem failed_sending {call : ContractCall} {err : Thrown} (sending : Sending call trace (.threw err)) :
    Failed trace err := by
  cases sending with
  | unsimulated => exact .inr (.inl ⟨call, List.mem_cons_self⟩)
  | rejected result rejected => exact .inr (.inr (.inl ⟨call, _, by simp, rejected⟩))
  | unconfirmed => exact .inr (.inr (.inr ⟨_, List.mem_of_mem_getLast? rfl⟩))

/-- **The handshake.** Against the plumber's own route a settlement sends the one transfer,
and is confirmed exactly when that transfer is found on the chain; nothing but a call
that fails stops it. -/
theorem settlement_follows_the_chain (documented : house.client.Documented) (spelled : ChecksumsAscii house.client)
    (encodes : EncodesChecksummed house.client) {amount : Uint256}
    (fits : house.client.encodeUint256 amountWei = .ok amount)
    (sound : ∀ request, (chains request).Sound house) (honest : AnsweredOn house chains trace)
    (digests : NamesDigests trace) :
    (∀ settled, (payInvoice house.client house.world id amountWei vendorUrl).Returns trace settled → ∃ call sent,
      sentIn trace = [(call, sent)] ∧ IsInvoiceTransfer house.world amountWei call ∧
        (settled.paid = true ↔ PaidOnChain house
          (chains ((invoiceOf house.client house.world id amountWei vendorUrl).retry sent.hash)) sent.hash
            amountWei)) ∧
    ∀ err, (payInvoice house.client house.world id amountWei vendorUrl).Throws trace err → Failed trace err := by
  have offered {first : X402.Response}
      (asked : ⟨.fetch (invoiceOf house.client house.world id amountWei vendorUrl).request, .ok first⟩ ∈ trace) :
      X402.judge house.client.toLowerCasing (invoiceOf house.client house.world id amountWei vendorUrl).amount
        (invoiceOf house.client house.world id amountWei vendorUrl).expected first =
          .pay (offer house.client house.world (bigintText amountWei)) := by
    obtain ⟨receipts, response, -, -, responded, rfl⟩ := honest _ first asked
    rw [run_invoice, Except.ok.injEq] at responded
    rw [← responded, judge_challenge]
  constructor
  · intro settled returns
    have paying := paying_of_reaches returns
    generalize stage : (Program.done settled : Handler X402.Settled).stage = reached at paying
    cases paying with
    | settled judged =>
      rw [offered List.mem_cons_self] at judged
      cases judged
    | @answered first accept judged function encoded inner written sending retry =>
      cases stage
      obtain ⟨-, challenge, -, offer⟩ := X402.judge_pay judged
      obtain ⟨sent, once, -, same, -⟩ := sending_returned sending
      have only : sentIn
          (⟨.fetch (invoiceOf house.client house.world id amountWei vendorUrl).request, .ok first⟩ :: (inner ++
            [⟨.fetch ((invoiceOf house.client house.world id amountWei vendorUrl).retry written.hash),
              .ok retry⟩])) = [(⟨.concierge, house.world.musd, function⟩, sent)] := by
        rw [sentIn_fetch, sentIn_append, once, sentIn_fetch]
        rfl
      refine ⟨_, sent, only, transferOf_exact documented offer encoded, ?_⟩
      obtain ⟨digest, named⟩ := digests _ (only ▸ List.mem_singleton_self _)
      obtain ⟨receipts, response, shown, complete, responded, rfl⟩ :=
        honest _ retry (List.mem_cons_of_mem _ (List.mem_append_right _ List.mem_cons_self))
      obtain ⟨response', responded', verdict⟩ :=
        @run_retry _ house.client house.world receipts id amountWei vendorUrl digest
      rw [← same, named, responded', Except.ok.injEq] at responded
      subst responded
      rw [← same, named] at shown complete
      rw [decide_eq_true_iff, named]
      refine verdict.trans ⟨paidOnChain_of_found documented spelled (sound _) shown, fun paid => ?_⟩
      exact found_of_paidOnChain documented spelled (sound _) shown complete paid
    | asks | unreachable | unencoded | sends | unsent | retries | lost => cases stage
  · intro err throws
    have paying := paying_of_reaches throws
    generalize stage : (Program.fail err : Handler X402.Settled).stage = reached at paying
    cases paying with
    | unreachable err =>
      cases stage
      exact .inl ⟨_, List.mem_cons_self⟩
    | unencoded judged encoded =>
      rw [offered List.mem_cons_self] at judged
      cases judged
      rw [transferOf_offer encodes fits] at encoded
      cases encoded
    | unsent judged encoded sending =>
      cases stage
      exact (failed_sending sending).cons _
    | lost judged encoded sending err =>
      cases stage
      exact .inl ⟨_, List.mem_cons_of_mem _ (List.mem_append_right _ List.mem_cons_self)⟩
    | asks | settled | sends | retries | answered => cases stage

end Settlement

section Tickets
variable {client : Client} {world : DemoAddresses} {trace : DemoChain.Trace} {record : DemoTicket} {amountWei : ℤ}
  {vendorUrl : JsString} {reply : Reply} {input : TicketInput}

/-- How a ticket comes to be paid: the vendor wants nothing, or takes the transfer it is
told of for the payment. -/
inductive PaidBy (client : Client) (world : DemoAddresses) (invoice : X402.Invoice) (amountWei : ℤ)
    (trace : DemoChain.Trace) : Prop where
  | waived {first : X402.Response} (asked : ⟨.fetch invoice.request, .ok first⟩ ∈ trace)
      (accepted : first.status = 200)
  | transferred {call : ContractCall} {sent : Sent} {retry : X402.Response}
      (invoiced : IsInvoiceTransfer world amountWei call)
      (there : (call, sent) ∈ sentIn trace) (retried : ⟨.fetch (invoice.retry sent.hash), .ok retry⟩ ∈ trace)
      (accepted : retry.status = 200)

theorem PaidBy.prepend {invoice : X402.Invoice} (paid : PaidBy client world invoice amountWei trace)
    (before : DemoChain.Trace) : PaidBy client world invoice amountWei (before ++ trace) := by
  cases paid with
  | waived asked accepted => exact .waived (List.mem_append_right _ asked) accepted
  | transferred invoiced there retried accepted =>
    refine .transferred invoiced ?_ (List.mem_append_right _ retried) accepted
    rw [sentIn_append]
    exact List.mem_append_right _ there

theorem payInvoice_paid (documented : client.Documented) {id : Double} {settled : X402.Settled}
    (returns : (payInvoice client world id amountWei vendorUrl).Returns trace settled) (paid : settled.paid = true) :
    PaidBy client world (invoiceOf client world id amountWei vendorUrl) amountWei trace := by
  have paying := paying_of_reaches returns
  generalize stage : (Program.done settled : Handler X402.Settled).stage = reached at paying
  cases paying with
  | @settled first outcome judged =>
    cases stage
    exact .waived (List.mem_singleton_self _) ((X402.judge_settled judged).2 paid)
  | @answered first accept judged function encoded inner written sending retry =>
    cases stage
    obtain ⟨-, challenge, -, offer⟩ := X402.judge_pay judged
    obtain ⟨sent, once, -, same, -⟩ := sending_returned sending
    have confirmed : retry.status = 200 := of_decide_eq_true paid
    have there : (⟨.concierge, world.musd, function⟩, sent) ∈
        sentIn (⟨.fetch (invoiceOf client world id amountWei vendorUrl).request, .ok first⟩ :: (inner ++
          [⟨.fetch ((invoiceOf client world id amountWei vendorUrl).retry written.hash), .ok retry⟩])) := by
      simp [once]
    exact .transferred (transferOf_exact documented offer encoded) there (by rw [same]; simp) confirmed
  | asks | unreachable | unencoded | sends | unsent | retries | lost => cases stage

theorem paid_closeTicket : (closeTicket record).ticket.paid = record.paid := by
  unfold closeTicket
  split <;> rfl

/-- A ticket that is recorded as paid was paid by its own run. -/
theorem payTicket_paid (documented : client.Documented)
    (returns : (payTicket client world record amountWei vendorUrl).Returns trace reply) (unpaid : record.paid = false)
    (paid : reply.ticket.paid = true) :
    PaidBy client world (invoiceOf client world record.id amountWei vendorUrl) amountWei trace := by
  obtain ⟨before, after, swapped, rfl, -, settles⟩ := Program.returns_bind.mp returns
  cases swapped with
  | error refusal =>
    obtain ⟨-, same⟩ := Program.reaches_done.mp settles
    cases same
    rw [refuse, unpaid] at paid
    cases paid
  | ok swapHash =>
    obtain ⟨inner, last, settled, rfl, tried, closed⟩ := Program.returns_bind.mp settles
    obtain ⟨rfl, same⟩ := Program.reaches_done.mp closed
    cases same
    rw [paid_closeTicket] at paid
    rw [List.append_nil]
    rcases Program.returns_attempt.mp tried with ⟨outcome, pays, rfl⟩ | ⟨-, -, err, message, -, -, -, rfl⟩
    · exact (payInvoice_paid documented pays paid).prepend before
    · rw [recordSettlement, unpaid] at paid
      cases paid

theorem doTicket_paid [Crypto Bytes32] (documented : client.Documented) {id : Double}
    (returns : (doTicket client world id input).Returns trace reply) (paid : reply.ticket.paid = true) :
    ∃ jobId amountWei, client.parseEther input.amount = .ok amountWei ∧
      PaidBy client world (invoiceOf client world jobId amountWei input.vendorUrl) amountWei trace := by
  obtain ⟨asked, acted, ⟨ticket, decision⟩, rfl, consulted, recorded⟩ := Program.returns_bind.mp returns
  obtain ⟨amountWei, priced, rfl, -⟩ := consult_returns consulted
  obtain ⟨record, made, acts⟩ := Program.returns_ofExcept_bind.mp recorded
  have unpaid := (newRecord_fresh made).2
  split at acts
  · exact ⟨record.id, amountWei, priced, (payTicket_paid documented acts unpaid paid).prepend asked⟩
  · split at acts
    · obtain ⟨before, after, proposed, rfl, -, ended⟩ := Program.returns_bind.mp acts
      cases proposed with
      | ok written =>
        obtain ⟨-, same⟩ := Program.reaches_done.mp ended
        cases same
        rw [unpaid] at paid
        cases paid
      | error refusal =>
        obtain ⟨-, same⟩ := Program.reaches_done.mp ended
        cases same
        rw [refuse, unpaid] at paid
        cases paid
    · obtain ⟨-, same⟩ := Program.reaches_done.mp acts
      cases same
      rw [unpaid] at paid
      cases paid

end Tickets

/-! ## The books -/

section Books
variable [Crypto Bytes32] (house : House)

/-- What a log credits the plumber from the concierge. -/
def credit (log : EvmLog) : ℕ :=
  if log.address = house.world.musd ∧ log.topics = [transferTopic, addressWord (house.world.actorAddress .concierge),
    addressWord (house.world.actorAddress .plumber)] then (wordAt log.data 0).toNat else 0

/-- What a transaction did. -/
def Mined.income (mined : Mined) : ℕ := if mined.status = .success then (mined.logs.map (credit house)).sum else 0

/-- What the plumber has been sent by the concierge. -/
def HouseChain.income (chain : HouseChain) : ℕ := (chain.mined.map (Mined.income house)).sum

omit [Crypto Bytes32] in
/-- What a ticket asks for. -/
def price : HouseRequest → ℤ
  | .ticket _ input => (house.client.parseEther input.amount).toOption.getD 0
  | .block _ => 0

/-- The request was answered with a ticket that is paid. -/
def ReportedPaid (log : List HouseEntry) (label : HouseRequest) : Prop :=
  ∃ reply, (label.program house).Returns (answeredTo label log) (some reply) ∧ reply.ticket.paid = true

/-- A mined transfer of the concierge that pays a request's price, signed for that request. -/
structure Pays (log : List HouseEntry) (chain : HouseChain) (label : HouseRequest) (mined : Mined) : Prop where
  there : mined ∈ chain.mined
  signed : ∃ entry ∈ log, ∃ call sent, Signs label call sent entry ∧ sent.hash = mined.hash
  income : (mined.income house : ℤ) = price house label

end Books

section Balance
variable [Crypto Bytes32] {house : House} {start last : HousePool} {log : List HouseEntry} {label label' : HouseRequest}
  {mined : Mined}

/-- An invoice that was transferred is income. -/
theorem income_of_transfer {chain : HouseChain} (sound : chain.Sound house) (member : mined ∈ chain.mined)
    (succeeded : mined.status = .success) {call : ContractCall} (sender : mined.call = some call) {amountWei : ℤ}
    (invoiced : IsInvoiceTransfer house.world amountWei call) : (mined.income house : ℤ) = amountWei := by
  obtain ⟨amount, rfl, rfl⟩ := invoiced
  have logs := sound.pays mined member succeeded _ _ _ sender
  have credited : credit house (transferLog house.world.musd (house.world.actorAddress .concierge)
      (house.world.actorAddress .plumber) amount) = amount.toNat := by
    rw [credit, if_pos ⟨rfl, rfl⟩]
    exact congrArg BitVec.toNat (wordAt_zero_word amount)
  rw [Mined.income, if_pos succeeded, logs, List.map_singleton, List.sum_singleton, credited]

/-- A ticket reported as paid to an honest vendor has its own transfer on the chain. -/
theorem pays_of_reported (documented : house.client.Documented) (spelled : ChecksumsAscii house.client)
    (trace : Runs.Trace (houseSystem house (honestVendor house)).Atom start log last) (sound : start.store.Sound house)
    (reported : ReportedPaid house log label) : ∃ mined, Pays house log last.store label mined := by
  obtain ⟨reply, returns, paid⟩ := reported
  cases label with
  | block number =>
    rcases Program.reaches_call.mp returns with ⟨-, same⟩ | ⟨answer, rest, -, ended⟩
    · cases same
    · cases (Program.reaches_done.mp ended).2
  | ticket arrival input =>
    obtain ⟨id, ran, reply, answered, same, done⟩ := ticket_returns returns
    cases same
    obtain ⟨jobId, amountWei, priced, how⟩ := doTicket_paid documented done paid
    have served {request : HttpRequest} {response : X402.Response}
        (asked : ⟨.fetch request, .ok response⟩ ∈ ran) :
        ∃ entry ∈ log, ∃ receipts answer, entry.before.store.Shown house receipts ∧
          (POST house.client house.world true request).run (answers receipts) = .ok answer ∧
            response.status = answer.status := by
      obtain ⟨entry, there, event⟩ := entry_of_exchange answered asked
      have served := Machine.served_of_mem trace there event
      generalize entry.after.store = after at served
      cases served with
      | fetched honest =>
        rcases honest with ⟨err, failed⟩ | ⟨receipts, answer, shown, ran, same⟩
        · cases failed
        · cases same
          exact ⟨entry, there, receipts, answer, shown, ran, rfl⟩
    cases how with
    | waived asked accepted =>
      obtain ⟨entry, there, receipts, answer, -, responded, status⟩ := served asked
      rw [run_invoice, Except.ok.injEq] at responded
      rw [status, ← responded] at accepted
      cases accepted
    | @transferred call sent retry invoiced there retried accepted =>
      obtain ⟨signer, inside, signs⟩ := signs_of_mem_sentIn answered there
      obtain ⟨digest, named⟩ := (signed_of_signs trace inside signs).1.digest
      obtain ⟨entry, there, receipts, answer, shown, responded, status⟩ := served retried
      obtain ⟨earlier, later, -, before, atom, after⟩ := trace.around there
      have found : Found house.client house.world receipts sent.hash amountWei := by
        obtain ⟨response, responded', verdict⟩ := @run_retry _ house.client house.world receipts jobId amountWei
          input.vendorUrl digest
        rw [← named, responded, Except.ok.injEq] at responded'
        rw [named]
        exact verdict.mp (responded' ▸ status ▸ accepted)
      have paid :=
        (paidOnChain_of_found documented spelled (sound_of_run before sound) shown found).run (.cons atom after)
      obtain ⟨mined, member, same, succeeded, -⟩ := paid
      rw [named, toLowerCase_bytesToHex, ← named] at same
      have last := sound_of_run trace sound
      have sender := last.own mined member _ (signed_last trace inside signs) same.symm
      refine ⟨mined, member, ⟨signer, inside, call, sent, signs, same.symm⟩, ?_⟩
      rw [income_of_transfer last member succeeded sender invoiced, price, priced]
      rfl

/-- One transaction pays for one ticket. -/
theorem Pays.unique (trace : Runs.Trace (houseSystem house (honestVendor house)).Atom start log last)
    (pays : Pays house log last.store label mined) (pays' : Pays house log last.store label' mined) :
    label = label' := by
  obtain ⟨entry, member, call, sent, signs, same⟩ := pays.signed
  obtain ⟨entry', member', call', sent', signs', same'⟩ := pays'.signed
  exact (signs_once trace member member' signs signs' (same.trans same'.symm)).1

/-- **Balance.** In every interleaving of tickets against the plumber's own route, the
tickets that are reported as paid ask together for no more than the concierge's
transfers have brought the plumber. -/
theorem paid_tickets_balance (documented : house.client.Documented) (spelled : ChecksumsAscii house.client)
    (trace : Runs.Trace (houseSystem house (honestVendor house)).Atom start log last) (sound : start.store.Sound house)
    {tickets : List HouseRequest} (distinct : tickets.Nodup)
    (reported : ∀ ticket ∈ tickets, ReportedPaid house log ticket) :
    (tickets.map (price house)).sum ≤ (last.store.income house : ℤ) := by
  have : Nonempty Mined := ⟨⟨[], none, .reverted, []⟩⟩
  choose! payment pays using fun ticket (member : ticket ∈ tickets) =>
    pays_of_reported documented spelled trace sound (reported ticket member)
  have injective : (tickets.map payment).Nodup := by
    refine List.Nodup.map_on (fun ticket member other member' same => ?_) distinct
    have here := pays ticket member
    rw [same] at here
    exact here.unique trace (pays other member')
  have inside : tickets.map payment ⊆ last.store.mined := by
    intro mined member
    obtain ⟨ticket, asked, rfl⟩ := List.mem_map.mp member
    exact (pays ticket asked).there
  obtain ⟨transfers, perm, sublist⟩ := List.subperm_of_subset injective inside
  have total : ((tickets.map payment).map (Mined.income house)).sum ≤ last.store.income house := by
    rw [← (perm.map (Mined.income house)).sum_eq]
    exact (sublist.map _).sum_le_sum fun _ _ => Nat.zero_le _
  have priced : (tickets.map (price house)).sum = (((tickets.map payment).map (Mined.income house)).sum : ℤ) := by
    rw [List.map_map, ← Nat.coe_castAddMonoidHom, map_list_sum, List.map_map]
    exact congrArg List.sum (List.map_congr_left fun ticket member => (pays ticket member).income.symm)
  rw [priced]
  exact_mod_cast total

end Balance

theorem checksumsAscii_library : ChecksumsAscii Library.client := by
  intro account
  refine ⟨(Hex.digits 40 account.bits.toNat).map charUnit, addressText_eq account, fun c member => ?_⟩
  exact hexText_forall (P := fun c => c.toNat < 128) (by decide) 40 _ c (List.mem_append_right _ member)

/-- What a node that misses nothing shows of the chain. -/
def receiptsOf (chain : HouseChain) (hash : JsString) : Except Thrown Receipt :=
  match chain.mined.find? fun mined => mined.hash = Library.client.toLowerCase hash with
  | some mined => .ok ⟨mined.status, mined.logs.map fun log =>
      ⟨addressText log.address, log.topics.map fun topic => bytesToHex (word topic), bytesToHex log.data⟩⟩
  | none => .error ⟨none, text "Transaction receipt could not be found.", []⟩

theorem shown_receiptsOf (chain : HouseChain) : chain.Shown demoHouse (receiptsOf chain) := by
  intro hash receipt shown
  unfold receiptsOf at shown
  split at shown
  · rename_i mined found
    cases shown
    have same : mined.hash = Library.client.toLowerCase hash := by simpa using List.find?_some found
    refine ⟨mined, List.mem_of_find?_eq_some found, same, rfl, ?_⟩
    rw [List.forall₂_map_right_iff, List.forall₂_same]
    exact fun log _ => ⟨Library.lower_addressText log.address, rfl, rfl⟩
  · cases shown

theorem complete_receiptsOf (chain : HouseChain) : chain.Complete demoHouse (receiptsOf chain) := by
  intro mined member hash same
  unfold receiptsOf
  split
  · exact ⟨_, rfl⟩
  · rename_i missed
    exact absurd (decide_eq_true same.symm) (List.find?_eq_none.mp missed mined member)

section Leak
variable [Crypto Bytes32]

theorem sound_demo : (demoAfter [] []).Sound demoHouse where
  apart := List.nodup_nil
  digests _ member := absurd member List.not_mem_nil
  once := List.nodup_nil
  own _ member := absurd member List.not_mem_nil
  logs _ member := absurd member List.not_mem_nil
  pays _ member := absurd member List.not_mem_nil

section Filed
variable {filing : Filing} {signed : List (ContractCall × Sent)} {mined : List Mined} {chain : HouseChain}

theorem sound_paid (unused : filing.Unused (demoAfter signed mined))
    (sound : (demoAfter signed mined).Sound demoHouse) :
    (filing.paid signed mined).Sound demoHouse := by
  have accepted : (⟨200, none⟩ : X402.Response).status = 200 := rfl
  obtain ⟨log, reply, trace, -⟩ := @leak_run _ anyVendor _ _ _ _ unused (fun _ => trivial) trivial accepted
  exact sound_of_run trace sound

theorem leak_paid_on_chain {want : ℤ} (there : filing.transferMined ∈ chain.mined)
    (cheap : want ≤ leakTicket.amount) :
    PaidOnChain demoHouse chain (hashOf filing.transfer) want := by
  refine ⟨filing.transferMined, there, (toLowerCase_bytesToHex _ filing.transfer).symm, rfl, _,
    List.mem_singleton_self _, _, ⟨_, rfl⟩, cheap.trans ?_⟩
  decide +kernel

/-- The plumber is paid for the leak, and takes it. -/
theorem leak_taken {want : ℤ} {request : HttpRequest} (sound : chain.Sound demoHouse)
    (there : filing.transferMined ∈ chain.mined) (claims : Claims request (hashOf filing.transfer) want)
    (cheap : want ≤ leakTicket.amount) : ∃ response,
      (POST Library.client demoWorld true request).run (answers (receiptsOf chain)) = .ok response ∧
        response.status = 200 := by
  have found := found_of_paidOnChain Library.documented checksumsAscii_library sound (shown_receiptsOf chain)
    (complete_receiptsOf chain) (leak_paid_on_chain there cheap)
  obtain ⟨response, ran, verdict⟩ := @run_POST _ Library.client demoWorld (receiptsOf chain) request
  exact ⟨response, ran, verdict.mpr ⟨_, _, claims, found⟩⟩

/-- The leak is filed, paid for, and reported. -/
theorem leak_books (unused : filing.Unused (demoAfter signed mined))
    (sound : (demoAfter signed mined).Sound demoHouse) :
    ∃ log, Runs.Trace (houseSystem demoHouse (honestVendor demoHouse)).Atom ⟨demoAfter signed mined, []⟩ log
        ⟨filing.paid signed mined, []⟩ ∧
      startedIn log = [filing.request, .block (2 * filing.arrival), .block (2 * filing.arrival + 1)] ∧
      ReportedPaid demoHouse log filing.request := by
  have offers (chain : HouseChain) : honestVendor demoHouse chain filing.invoice.request (.ok leakChallenge) :=
    .inr ⟨receiptsOf chain, _, shown_receiptsOf chain, run_invoice, rfl⟩
  obtain ⟨response, ran, accepted⟩ := leak_taken (sound_paid unused sound) List.mem_cons_self
    (claims_retry filing.transfer) le_rfl
  have takes : honestVendor demoHouse (filing.paid signed mined) (filing.invoice.retry (hashOf filing.transfer))
      (.ok response.received) :=
    .inr ⟨receiptsOf (filing.paid signed mined), response, shown_receiptsOf _, ran, rfl⟩
  obtain ⟨log, reply, trace, started, -, returns, paid⟩ := leak_run unused offers takes accepted
  exact ⟨log, trace, started, reply, returns, paid⟩

end Filed

theorem fresh_leakPaid {digest : Bytes32} (first : digest ≠ 1) (second : digest ≠ 2) :
    leakPaid.Fresh (hashOf digest) := by
  have apart {other : Bytes32} (different : digest ≠ other) : hashOf other ≠ hashOf digest :=
    fun same => different (hashOf_injective same).symm
  refine ⟨⟨digest, rfl⟩, fun tx member => ?_, fun mined member => ?_⟩
  · rcases List.mem_pair.mp member with rfl | rfl
    · exact apart second
    · exact apart first
  · rcases List.mem_pair.mp member with rfl | rfl
    · exact apart second
    · exact apart first

theorem sound_leakPaid : leakPaid.Sound demoHouse := sound_paid unused_first sound_demo

end Leak

/-- The plumber confirms the leak. -/
theorem settlement_follows_the_chain_leak : ∃ trace settled,
    (payInvoice Library.client demoWorld firstId leakTicket.amount leak.vendorUrl).Returns trace settled ∧
      settled.paid = true ∧ ∃ hash,
        @PaidOnChain demoHashes demoHouse (@leakPaid demoHashes) hash leakTicket.amount := by
  let crypto : Crypto Bytes32 := demoHashes
  have claims : Claims (firstLeak.invoice.retry (hashOf 2)) (hashOf 2) leakTicket.amount := claims_retry 2
  obtain ⟨response, ran, accepted⟩ :=
    @leak_taken demoHashes firstLeak _ _ _ sound_leakPaid List.mem_cons_self claims le_rfl
  have settles := @leak_settles demoHashes firstLeak _ (show response.received.status = 200 from accepted)
  have honest : @AnsweredOn demoHashes demoHouse (fun _ => @leakPaid demoHashes)
      (firstLeak.settling leakChallenge response.received) := by
    intro request answer asked
    simp only [Filing.settling, List.mem_cons, List.not_mem_nil, or_false] at asked
    rcases asked with first | other | other | other | last
    · cases first
      exact ⟨receiptsOf leakPaid, _, shown_receiptsOf _, complete_receiptsOf _, run_invoice, rfl⟩
    · cases other
    · cases other
    · cases other
    · cases last
      exact ⟨receiptsOf leakPaid, response, shown_receiptsOf _, complete_receiptsOf _, ran, rfl⟩
  have digests : NamesDigests (firstLeak.settling (@leakChallenge demoHashes) response.received) := by
    intro tx member
    obtain rfl := List.mem_singleton.mp member
    exact ⟨2, rfl⟩
  have fits : demoHouse.client.encodeUint256 leakTicket.amount = .ok (BitVec.ofInt 256 leakTicket.amount) := rfl
  obtain ⟨call, sent, -, -, verdict⟩ :=
    (@settlement_follows_the_chain demoHashes demoHouse _ _ _ _ _ Library.documented
    checksumsAscii_library encodesChecksummed_library _ fits (fun _ => sound_leakPaid) honest digests).1 _ settles
  exact ⟨_, _, settles, rfl, _, verdict.mp rfl⟩

/-- The treasury is left by its owners, and the plumber is asked for another job. -/
theorem accepted_payments_are_good_again_leak : ∃ log last response,
    Runs.Trace (@houseSystem demoHashes demoHouse anyVendor).Atom ⟨@leakPaid demoHashes, []⟩ log last ∧
      last.store.treasury.owners = [] ∧
      (@POST demoHashes Library.client demoWorld true
        ((invoiceOf Library.client demoWorld firstId 5 []).retry (hashOf 2))).run (answers (receiptsOf last.store)) =
          .ok response ∧ response.status = 200 := by
  let crypto : Crypto Bytes32 := demoHashes
  have started : (@houseSystem demoHashes demoHouse anyVendor).Atom ⟨@leakPaid demoHashes, []⟩ (.starts (.block 2))
    ⟨leakPaid, [⟨.block 2, (HouseRequest.block 2).program demoHouse⟩]⟩ := .starts trivial
  have served : @HouseChain.Serves demoHashes demoHouse anyVendor leakPaid ⟨.goesOn, ()⟩
      { @leakPaid demoHashes with treasury := { demoTreasury with owners := [] } } := .goesOn (.changes _ _)
  have there : [(⟨.block 2, @HouseRequest.program demoHashes demoHouse (.block 2)⟩ :
      Task HouseRequest HouseCall HouseAnswer Thrown (Option Reply))][0]? =
      some ⟨.block 2, @HouseRequest.program demoHashes demoHouse (.block 2)⟩ := rfl
  have moved : (@houseSystem demoHashes demoHouse anyVendor).Atom ⟨@leakPaid demoHashes, _⟩
      (.serves (.block 2) ⟨.goesOn, ()⟩) ⟨_, _⟩ := .serves there served
  have trace := Runs.Trace.cons started (.cons moved (.nil _))
  have claims : Claims ((invoiceOf Library.client demoWorld firstId leakTicket.amount leak.vendorUrl).retry (hashOf 2))
      (hashOf 2) leakTicket.amount := claims_retry 2
  have claims' : Claims ((invoiceOf Library.client demoWorld firstId 5 []).retry (hashOf 2)) (hashOf 2) 5 :=
    claims_retry 2
  obtain ⟨first, ran, accepted⟩ :=
    @leak_taken demoHashes firstLeak _ _ _ sound_leakPaid List.mem_cons_self claims le_rfl
  obtain ⟨response, again⟩ :=
    @accepted_payments_are_good_again demoHashes demoHouse _ _ _ _ _ _ _ Library.documented
      checksumsAscii_library trace sound_leakPaid _ (shown_receiptsOf _) (shown_receiptsOf _)
      (complete_receiptsOf _) _ _ _ ran accepted _ _ claims claims' rfl
      (show (5 : ℤ) ≤ leakTicket.amount by decide +kernel)
  exact ⟨_, _, response, trace, rfl, again⟩

def secondLeak : Filing := ⟨1, ⟨2, by decide +kernel⟩, 3, 4, by decide⟩

/-- Two leaks are paid for, each with its own transfer. -/
theorem paid_tickets_balance_leak : ∃ log last,
    Runs.Trace (@houseSystem demoHashes demoHouse (@honestVendor demoHashes demoHouse)).Atom
      ⟨demoAfter [] [], []⟩ log last ∧
      @ReportedPaid demoHashes demoHouse log firstLeak.request ∧
      @ReportedPaid demoHashes demoHouse log secondLeak.request ∧
        ([firstLeak.request, secondLeak.request].map (price demoHouse)).sum ≤
          (@HouseChain.income demoHashes demoHouse last.store : ℤ) := by
  let crypto : Crypto Bytes32 := demoHashes
  have unused : secondLeak.Unused leakPaid :=
    ⟨fresh_leakPaid (by decide) (by decide), fresh_leakPaid (by decide) (by decide)⟩
  obtain ⟨before, one, started, reply, first, paid⟩ := leak_books unused_first sound_demo
  obtain ⟨after, two, started', reply', second, paid'⟩ := leak_books unused sound_leakPaid
  have earlier : answeredTo secondLeak.request before = [] := Machine.unanswered one rfl (started ▸ by decide)
  have later : answeredTo firstLeak.request after = [] := Machine.unanswered two rfl (started' ▸ by decide)
  have reported : ReportedPaid demoHouse (before ++ after) firstLeak.request :=
    ⟨reply, by rwa [answeredTo_append, later, List.append_nil], paid⟩
  have reported' : ReportedPaid demoHouse (before ++ after) secondLeak.request :=
    ⟨reply', by rwa [answeredTo_append, earlier, List.nil_append], paid'⟩
  refine ⟨before ++ after, _, one.append two, reported, reported', ?_⟩
  apply @paid_tickets_balance demoHashes demoHouse _ _ _ Library.documented checksumsAscii_library (one.append two)
    sound_demo _ (by decide)
  intro ticket member
  rcases List.mem_pair.mp member with rfl | rfl
  · exact reported
  · exact reported'

end PassportKit.HouseSystem
