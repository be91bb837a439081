import PassportKit.Concierge

/-! What a ticket's record says about the money it moved. A transaction may be
included although its sender is told of a failure, and then the record knows
nothing of it; whenever what was included was also seen through, the record is right. -/
namespace PassportKit.Concierge
open Evm Js Interaction DemoChain
open Eip712 (Crypto)
open Refusals (Thrown)
open X402 (HttpRequest Response Settled)

/-- What was sent, whatever the sender was told. -/
def sentIn (trace : Trace) : List (ContractCall × Sent) :=
  trace.filterMap fun
    | ⟨.writeContract call, sent⟩ => some (call, sent)
    | _ => none

/-- The transactions whose receipts came. -/
def receiptsIn (trace : Trace) : List JsString :=
  trace.filterMap fun
    | ⟨.waitForTransactionReceipt hash, .ok _⟩ => some hash
    | _ => none

/-- The vendor's answers. -/
def answersIn (trace : Trace) : List (HttpRequest × Response) :=
  trace.filterMap fun
    | ⟨.fetch request, .ok response⟩ => some (request, response)
    | _ => none

section Appends
variable (first second : Trace)

@[simp] theorem sentIn_append : sentIn (first ++ second) = sentIn first ++ sentIn second :=
  List.filterMap_append

@[simp] theorem receiptsIn_append : receiptsIn (first ++ second) = receiptsIn first ++ receiptsIn second :=
  List.filterMap_append

@[simp] theorem answersIn_append : answersIn (first ++ second) = answersIn first ++ answersIn second :=
  List.filterMap_append

variable (request : HttpRequest) (answer : Except Thrown Response)

@[simp] theorem sentIn_fetch : sentIn (⟨.fetch request, answer⟩ :: first) = sentIn first := rfl

@[simp] theorem receiptsIn_fetch : receiptsIn (⟨.fetch request, answer⟩ :: first) = receiptsIn first := rfl

@[simp] theorem answersIn_answered (response : Response) :
    answersIn (⟨.fetch request, .ok response⟩ :: first) = (request, response) :: answersIn first := rfl

@[simp] theorem answersIn_lost (err : Thrown) :
    answersIn (⟨.fetch request, .error err⟩ :: first) = answersIn first := rfl

@[simp] theorem sentIn_nil : sentIn [] = [] := rfl

@[simp] theorem receiptsIn_nil : receiptsIn [] = [] := rfl

@[simp] theorem answersIn_nil : answersIn [] = [] := rfl

end Appends

/-- Neither a transaction nor an answer of the vendor. -/
structure Quiet (trace : Trace) : Prop where
  sent : sentIn trace = []
  receipts : receiptsIn trace = []
  answers : answersIn trace = []

def IsSwap : ContractFunction → Prop
  | .swap .. => True
  | _ => False

def IsTransfer : ContractFunction → Prop
  | .transfer .. => True
  | _ => False

/-- The vendor takes the invoice for paid. -/
def Confirmed (trace : Trace) : Prop := ∃ answer ∈ answersIn trace, answer.2.status = 200

/-- Transactions differ in the nonce, and so in the hash. -/
def DistinctHashes (trace : Trace) : Prop := (sentIn trace).Pairwise fun tx other => tx.2.hash ≠ other.2.hash

/-- What a record says of money is so. -/
structure TellsTruth (trace : Trace) (record : DemoTicket) : Prop where
  refused : record.status = text "refused" → ∀ tx ∈ sentIn trace, tx.2.included = false
  unsettled : (∃ tx ∈ sentIn trace, IsSwap tx.1.function ∧ tx.2.included = true) → ¬ Confirmed trace →
    record.status = text "unsettled"
  hashes : ∀ tx ∈ sentIn trace, tx.2.included = true → tx.2.hash ∈ record.txHashes

/-- The sender was told of its transaction and of its receipt, and where it pays the
vendor, the vendor answered the payment. -/
structure SeenThrough (trace : Trace) (tx : ContractCall × Sent) : Prop where
  accepted : tx.2.rejected = none
  received : tx.2.hash ∈ receiptsIn trace
  retried : IsTransfer tx.1.function → ∃ answer ∈ answersIn trace, answer.1.xPayment ≠ none

/-! ## The runs of a ticket -/

section Runs
variable {client : Client} {world : DemoAddresses} {trace : Trace}

/-- Calls that only ask. -/
def Asks : DemoCall → Prop
  | .readContract _ => True
  | .decide _ _ _ => True
  | _ => False

theorem quiet_of_asks (asks : ∀ exchange ∈ trace, Asks exchange.1) : Quiet trace := by
  constructor <;> apply List.filterMap_eq_nil_iff.mpr <;> rintro ⟨request, answer⟩ member <;>
    have asked := asks _ member <;> cases request <;> first | rfl | exact absurd asked id

/-- Finding out why only asks. -/
theorem refusalWithStanding_asks (err : Thrown) : (refusalWithStanding client world err).Calls Asks := by
  unfold refusalWithStanding
  split
  · trivial
  · refine ⟨trivial, fun standing => ?_⟩
    cases standing with
    | error err => trivial
    | ok standing =>
      obtain ⟨ok, reason⟩ := standing
      by_cases silent : bytes32ToString client reason = [] <;> cases ok <;>
        simp [silent, Program.Calls, Program.ofExcept, Program.bind]

theorem quiet_of_refusal {err : Thrown} {refusal : TicketRefusal}
    (returns : (refusalWithStanding client world err).Returns trace refusal) : Quiet trace :=
  quiet_of_asks ((refusalWithStanding_asks err).of_reaches returns)

theorem refusalWithStanding_total (err : Thrown) : (refusalWithStanding client world err).Total := by
  unfold refusalWithStanding
  split
  · trivial
  · apply Program.Total.bind
    · exact Program.Total.catching _ fun _ => trivial
    · intro standing
      split <;> trivial

/-- Nothing is sent while the ticket is decided. -/
theorem consult_asks (id : Double) (input : TicketInput) : (consult client world id input).Calls Asks := by
  unfold consult
  cases client.parseEther input.amount with
  | error err => trivial
  | ok amountWei =>
    refine ⟨trivial, fun balance => ?_⟩
    cases balance with
    | error err => trivial
    | ok balance =>
      refine ⟨trivial, fun cap => ?_⟩
      cases cap with
      | error err => trivial
      | ok cap =>
        refine ⟨trivial, fun decision => ?_⟩
        cases decision <;> trivial

variable {call : ContractCall}

/-- Seen through, the transaction is the one that is recorded. -/
theorem sending_returned {written : Written} (sending : Sending call trace (.returned written)) :
    ∃ sent : Sent, sentIn trace = [(call, sent)] ∧ sent.rejected = none ∧ sent.hash = written.hash ∧
      receiptsIn trace = [sent.hash] ∧ answersIn trace = [] := by
  cases sending with
  | @confirmed result sent accepted => exact ⟨sent, rfl, accepted, rfl, rfl, rfl⟩

/-- Failing, it may have been sent, and no receipt came. -/
theorem sending_threw {err : Thrown} (sending : Sending call trace (.threw err)) :
    (sentIn trace = [] ∨ ∃ sent, sentIn trace = [(call, sent)]) ∧ receiptsIn trace = [] ∧
      answersIn trace = [] := by
  cases sending with
  | unsimulated err => exact ⟨.inl rfl, rfl, rfl⟩
  | @rejected result sent => exact ⟨.inr ⟨sent, rfl⟩, rfl, rfl⟩
  | @unconfirmed result sent => exact ⟨.inr ⟨sent, rfl⟩, rfl, rfl⟩

variable {invoice : X402.Invoice}

theorem retry_carries (txHash : JsString) : (invoice.retry txHash).xPayment ≠ none := Option.some_ne_none _

theorem isTransfer_of_encoded {accept : JsValue} {function : ContractFunction}
    (encoded : transferOf client accept = .ok function) : IsTransfer function := by
  obtain ⟨amount, recipient, word, -, -, -, rfl⟩ := transferOf_eq_ok encoded
  trivial

/-- Settled, either nothing was sent, or a transfer that was seen through and is reported. -/
theorem paying_returned {settled : Settled} (paying : Paying client world invoice trace (.returned settled)) :
    (settled.paid = true → Confirmed trace) ∧
      (sentIn trace = [] ∧ settled.txHash = none ∨ ∃ tx, sentIn trace = [tx] ∧ IsTransfer tx.1.function ∧
        SeenThrough trace tx ∧ settled.txHash = some tx.2.hash) := by
  cases paying with
  | @settled first outcome judged =>
    obtain ⟨unsent, confirmed⟩ := X402.judge_settled judged
    exact ⟨fun paid => ⟨_, List.mem_singleton_self _, confirmed paid⟩, .inl ⟨rfl, unsent⟩⟩
  | @answered first accept judged function encoded inner written sending retry =>
    obtain ⟨sent, once, accepted, same, received, -⟩ := sending_returned sending
    have last : (invoice.retry written.hash, retry) ∈ answersIn (⟨.fetch invoice.request, .ok first⟩ ::
        (inner ++ [⟨.fetch (invoice.retry written.hash), .ok retry⟩])) := by
      simp
    have seen : SeenThrough (⟨.fetch invoice.request, .ok first⟩ ::
        (inner ++ [⟨.fetch (invoice.retry written.hash), .ok retry⟩]))
        (⟨.concierge, world.musd, function⟩, sent) := {
      accepted
      received := by simp [received]
      retried := fun _ => ⟨_, last, retry_carries written.hash⟩ }
    refine ⟨fun paid => ⟨_, last, of_decide_eq_true paid⟩,
      .inr ⟨_, ?_, isTransfer_of_encoded encoded, seen, congrArg some same.symm⟩⟩
    simp [once]

/-- Failing, the payment may have sent a transfer, and did not see it through. -/
theorem paying_threw {err : Thrown} (paying : Paying client world invoice trace (.threw err)) :
    sentIn trace = [] ∨ ∃ tx, sentIn trace = [tx] ∧ IsTransfer tx.1.function ∧
      (receiptsIn trace = [] ∨ ∀ answer ∈ answersIn trace, answer.1.xPayment = none) := by
  cases paying with
  | unreachable err => exact .inl rfl
  | unencoded judged encoded => exact .inl rfl
  | @unsent first accept judged function encoded inner err sending =>
    obtain ⟨nothing | ⟨sent, once⟩, unreceived, -⟩ := sending_threw sending
    · exact .inl nothing
    · exact .inr ⟨(⟨.concierge, world.musd, function⟩, sent), once, isTransfer_of_encoded encoded,
        .inl unreceived⟩
  | @lost first accept judged function encoded inner written sending err =>
    obtain ⟨sent, once, -, -, -, quiet⟩ := sending_returned sending
    refine .inr ⟨(⟨.concierge, world.musd, function⟩, sent), ?_, isTransfer_of_encoded encoded, .inr ?_⟩
    · simp [once]
    · intro answer member
      simp only [answersIn_answered, answersIn_append, quiet, answersIn_lost, answersIn_nil, List.append_nil,
        List.mem_singleton] at member
      rw [member]
      rfl

theorem isSwap_of_encoded {amountWei : ℤ} {function : ContractFunction}
    (encoded : swapOf client world amountWei = .ok function) : IsSwap function := by
  unfold swapOf at encoded
  cases amount : client.encodeInt256 amountWei with
  | error err =>
    rw [amount] at encoded
    cases encoded
  | ok amountSpecified =>
    rw [amount] at encoded
    cases encoded
    trivial

theorem SeenThrough.prepend {tx : ContractCall × Sent} (seen : SeenThrough trace tx) (before : Trace) :
    SeenThrough (before ++ trace) tx where
  accepted := seen.accepted
  received := by
    rw [receiptsIn_append]
    exact List.mem_append_right _ seen.received
  retried pays := by
    obtain ⟨answer, member, carries⟩ := seen.retried pays
    rw [answersIn_append]
    exact ⟨answer, List.mem_append_right _ member, carries⟩

/-- A swap has nothing to wait for but its receipt. -/
theorem swap_seen_through {function : ContractFunction} (swaps : IsSwap function)
    (named : call.function = function) {sent : Sent} (accepted : sent.rejected = none) (later : Trace)
    (received : receiptsIn trace = [sent.hash]) : SeenThrough (trace ++ later) (call, sent) where
  accepted
  received := by simp [received]
  retried pays := by
    subst named
    cases shape : call.function <;> rw [shape] at swaps pays <;> first | exact absurd swaps id | exact absurd pays id

/-- All that was included was seen through. -/
def AllSeenThrough (trace : Trace) : Prop :=
  ∀ tx ∈ sentIn trace, tx.2.included = true → SeenThrough trace tx

variable {record : DemoTicket}

/-- Where nothing was sent, everything was seen through, and any record is true. -/
theorem tells_truth_nil : TellsTruth [] record ↔ AllSeenThrough [] := by
  have none : sentIn [] = [] := rfl
  refine iff_of_true ⟨?_, ?_, ?_⟩ ?_
  · simp [none]
  · simp [none]
  · simp [none]
  · simp [AllSeenThrough, none]

/-- A refusal is right when nothing was included, for no receipt came. -/
theorem refused_tells_truth (status : record.status = text "refused") (unreceived : receiptsIn trace = []) :
    TellsTruth trace record ↔ AllSeenThrough trace := by
  constructor
  · intro truth tx member included
    rw [truth.refused status tx member] at included
    cases included
  · intro seen
    have nothing : ∀ tx ∈ sentIn trace, tx.2.included = false := by
      intro tx member
      cases included : tx.2.included with
      | false => rfl
      | true =>
        have received := (seen tx member included).received
        rw [unreceived] at received
        cases received
    refine ⟨fun _ => nothing, ?_, ?_⟩
    · rintro ⟨tx, member, -, included⟩
      rw [nothing tx member] at included
      cases included
    · intro tx member included
      rw [nothing tx member] at included
      cases included

/-- A settlement is right when everything that was included is recorded. -/
theorem settled_tells_truth (confirmed : record.paid = true → Confirmed trace) :
    TellsTruth trace (closeTicket record).ticket ↔
      ∀ tx ∈ sentIn trace, tx.2.included = true → tx.2.hash ∈ record.txHashes := by
  cases paid : record.paid with
  | true =>
    have closed : (closeTicket record).ticket = { record with status := text "paid" } := by simp [closeTicket, paid]
    rw [closed]
    exact ⟨TellsTruth.hashes, fun hashes =>
      ⟨nofun, fun _ unconfirmed => absurd (confirmed paid) unconfirmed, hashes⟩⟩
  | false =>
    have closed : (closeTicket record).ticket = { record with status := text "unsettled" } := by
      simp [closeTicket, paid]
    rw [closed]
    exact ⟨TellsTruth.hashes, fun hashes => ⟨nofun, fun _ _ => rfl, hashes⟩⟩

/-- Where everything sent is both, being recorded and being seen through agree. -/
theorem recorded_iff_seen {hashes : List JsString}
    (both : ∀ tx ∈ sentIn trace, tx.2.hash ∈ hashes ∧ SeenThrough trace tx) :
    (∀ tx ∈ sentIn trace, tx.2.included = true → tx.2.hash ∈ hashes) ↔ AllSeenThrough trace :=
  ⟨fun _ tx member _ => (both tx member).2, fun _ tx member _ => (both tx member).1⟩

/-- A transfer that is neither recorded nor seen through is what both come down to. -/
theorem lost_iff_unseen {hashes : List JsString} {first last : ContractCall × Sent}
    (sent : sentIn trace = [first, last]) (recorded : first.2.hash ∈ hashes) (seen : SeenThrough trace first)
    (unrecorded : last.2.hash ∉ hashes) (unseen : ¬ SeenThrough trace last) :
    (∀ tx ∈ sentIn trace, tx.2.included = true → tx.2.hash ∈ hashes) ↔ AllSeenThrough trace := by
  rw [AllSeenThrough, sent]
  constructor
  · intro truth tx member included
    rcases List.mem_pair.mp member with rfl | rfl
    · exact seen
    · exact absurd (truth tx member included) unrecorded
  · intro all tx member included
    rcases List.mem_pair.mp member with rfl | rfl
    · exact recorded
    · exact absurd (all tx member included) unseen

variable {amountWei : ℤ} {vendorUrl : JsString} {reply : Reply}

/-- **Payment.** A record that was paid from scratch is right exactly when all was seen through. -/
theorem payTicket_truthful (returns : (payTicket client world record amountWei vendorUrl).Returns trace reply)
    (empty : record.txHashes = []) (unpaid : record.paid = false) (distinct : DistinctHashes trace) :
    TellsTruth trace reply.ticket ↔ AllSeenThrough trace := by
  obtain ⟨before, after, swapped, rfl, tried, ended⟩ := Program.returns_bind.mp returns
  rcases Program.returns_attempt.mp tried with
    ⟨swapHash, swap, rfl⟩ | ⟨sent, asked, err, refusal, rfl, threw, found, rfl⟩
  · obtain ⟨function, written, encoded, sending, rfl⟩ := writing_returns swap
    obtain ⟨swapSent, once, accepted, same, received, quiet⟩ := sending_returned sending
    have swaps := isSwap_of_encoded encoded
    obtain ⟨inner, last, settled, rfl, paying, recorded⟩ := Program.returns_bind.mp ended
    obtain ⟨rfl, closed⟩ := Program.reaches_done.mp recorded
    cases closed
    rw [List.append_nil] at distinct ⊢
    have swapSeen : SeenThrough (before ++ inner) (⟨.concierge, world.swapRouter, function⟩, swapSent) :=
      swap_seen_through swaps rfl accepted inner received
    rcases Program.returns_attempt.mp paying with
      ⟨outcome, paid, rfl⟩ | ⟨failing, handled, err, settleError, rfl, threw, made, rfl⟩
    · obtain ⟨confirmed, transactions⟩ := paying_returned (paying_of_reaches paid)
      have whole : outcome.paid = true → Confirmed (before ++ inner) := by
        intro yes
        obtain ⟨answer, member, status⟩ := confirmed yes
        exact ⟨answer, by simp [member], status⟩
      rw [settled_tells_truth whole]
      apply recorded_iff_seen
      intro tx member
      rw [sentIn_append, once, List.singleton_append, List.mem_cons] at member
      rcases member with rfl | member
      · exact ⟨by simp [recordSettlement, same], swapSeen⟩
      · rcases transactions with ⟨nothing, -⟩ | ⟨transfer, only, -, seen, reported⟩
        · rw [nothing] at member
          cases member
        · rw [only, List.mem_singleton] at member
          subst member
          exact ⟨by simp [recordSettlement, reported, tx.2.named], seen.prepend before⟩
    · obtain ⟨rfl, -⟩ := Program.reaches_done.mp made
      rw [List.append_nil] at distinct swapSeen ⊢
      rw [settled_tells_truth (by simp [recordSettlement, unpaid])]
      rcases paying_threw (paying_of_reaches threw) with nothing | ⟨transfer, only, pays, missed⟩
      · apply recorded_iff_seen
        intro tx member
        rw [sentIn_append, once, nothing, List.append_nil, List.mem_singleton] at member
        subst member
        exact ⟨by simp [recordSettlement, same], swapSeen⟩
      · have both : sentIn (before ++ failing) =
            [(⟨.concierge, world.swapRouter, function⟩, swapSent), transfer] := by
          rw [sentIn_append, once, only]
          rfl
        have apart : swapSent.hash ≠ transfer.2.hash := by
          rw [DistinctHashes, both] at distinct
          exact (List.pairwise_cons.mp distinct).1 transfer (List.mem_singleton_self _)
        apply lost_iff_unseen both
        · simp [recordSettlement, same]
        · exact swapSeen
        · simpa [recordSettlement, empty, ← same] using apart.symm
        · intro seen
          have received : transfer.2.hash ∈ receiptsIn failing := by
            simpa [received, apart.symm] using seen.received
          obtain ⟨answer, member, carries⟩ := seen.retried pays
          rcases missed with unreceived | unanswered
          · rw [unreceived] at received
            cases received
          · exact carries (unanswered answer (by simpa [quiet] using member))
  · obtain ⟨rfl, same⟩ := Program.reaches_done.mp ended
    cases same
    have quiet := quiet_of_refusal found
    apply refused_tells_truth rfl
    have unreceived : receiptsIn sent = [] := by
      rcases writing_throws threw with ⟨-, rfl⟩ | ⟨function, encoded, sending⟩
      · rfl
      · exact (sending_threw sending).2.1
    simp [unreceived, quiet.receipts]

theorem not_swap_of_proposal {function : ContractFunction}
    (encoded : proposalOf client world record amountWei = .ok function) :
    ¬ IsSwap function ∧ ¬ IsTransfer function := by
  unfold proposalOf at encoded
  cases amount : client.encodeUint256 amountWei with
  | error err =>
    rw [amount] at encoded
    cases encoded
  | ok word =>
    rw [amount] at encoded
    cases encoded
    exact ⟨id, id⟩

theorem sent_encoded {actor : DemoActor} {address : Address} {function : Except Thrown ContractFunction}
    {written : Written} (returns : (send actor address function).Returns trace written) :
    ∃ encoded, function = .ok encoded ∧ Sending ⟨actor, address, encoded⟩ trace (.returned written) := by
  rcases sending_of_reaches returns with ⟨err, -, -, threw⟩ | ⟨encoded, rfl, sending⟩
  · cases threw
  · exact ⟨encoded, rfl, sending⟩

/-- **Proposal.** The same of a record that was proposed. -/
theorem proposeTicket_truthful (returns : (proposeTicket client world record amountWei).Returns trace reply) :
    TellsTruth trace reply.ticket ↔ AllSeenThrough trace := by
  obtain ⟨before, after, proposed, rfl, tried, ended⟩ := Program.returns_bind.mp returns
  rcases Program.returns_attempt.mp tried with
    ⟨written, sent, rfl⟩ | ⟨sent, asked, err, refusal, rfl, threw, found, rfl⟩
  · obtain ⟨function, encoded, sending⟩ := sent_encoded sent
    obtain ⟨proposal, once, accepted, same, received, -⟩ := sending_returned sending
    obtain ⟨notSwap, notTransfer⟩ := not_swap_of_proposal encoded
    obtain ⟨rfl, closed⟩ := Program.reaches_done.mp ended
    cases closed
    rw [List.append_nil]
    have only : ∀ tx ∈ sentIn before, tx = (⟨.concierge, world.treasury, function⟩, proposal) := by
      simp [once]
    constructor
    · intro _ tx member _
      rw [only tx member]
      exact ⟨accepted, by simp [received], fun pays => absurd pays notTransfer⟩
    · intro _
      refine ⟨nofun, ?_, ?_⟩
      · rintro ⟨tx, member, swaps, -⟩
        rw [only tx member] at swaps
        exact absurd swaps notSwap
      · intro tx member _
        rw [only tx member]
        simp [same]
  · obtain ⟨rfl, closed⟩ := Program.reaches_done.mp ended
    cases closed
    have quiet := quiet_of_refusal found
    apply refused_tells_truth rfl
    have unreceived : receiptsIn sent = [] := by
      rcases sending_of_reaches threw with ⟨other, -, rfl, -⟩ | ⟨function, -, sending⟩
      · rfl
      · exact (sending_threw sending).2.1
    simp [unreceived, quiet.receipts]

/-- What neither sent nor was answered anything may stand before a run. -/
theorem truthful_prepend {before : Trace} (quiet : Quiet before) :
    (TellsTruth (before ++ trace) record ↔ AllSeenThrough (before ++ trace)) ↔
      (TellsTruth trace record ↔ AllSeenThrough trace) := by
  have sent : sentIn (before ++ trace) = sentIn trace := by simp [quiet.sent]
  have receipts : receiptsIn (before ++ trace) = receiptsIn trace := by simp [quiet.receipts]
  have answers : answersIn (before ++ trace) = answersIn trace := by simp [quiet.answers]
  have confirmed : Confirmed (before ++ trace) ↔ Confirmed trace := by rw [Confirmed, answers, Confirmed]
  have seen (tx : ContractCall × Sent) : SeenThrough (before ++ trace) tx ↔ SeenThrough trace tx := by
    constructor <;> rintro ⟨accepted, received, retried⟩
    · exact ⟨accepted, receipts ▸ received, answers ▸ retried⟩
    · exact ⟨accepted, receipts.symm ▸ received, answers.symm ▸ retried⟩
  have truth : TellsTruth (before ++ trace) record ↔ TellsTruth trace record := by
    constructor <;> rintro ⟨refused, unsettled, hashes⟩
    · exact ⟨sent ▸ refused, by rwa [sent, confirmed] at unsettled, sent ▸ hashes⟩
    · exact ⟨sent.symm ▸ refused, by rwa [sent, confirmed], sent.symm ▸ hashes⟩
  rw [truth, AllSeenThrough, AllSeenThrough, sent]
  simp only [seen]

theorem newRecord_fresh [Crypto Bytes32] {ticket : Evidence.Ticket} {decision : Evidence.Decision}
    (made : newRecord ticket decision = .ok record) : record.txHashes = [] ∧ record.paid = false := by
  unfold newRecord at made
  split at made
  · cases made
  · cases made
    exact ⟨rfl, rfl⟩

theorem payTicket_total : (payTicket client world record amountWei vendorUrl).Total := by
  apply (Program.Total.attempt _ refusalWithStanding_total).bind
  rintro (refusal | swapHash)
  · trivial
  · apply Program.Total.bind
    · exact Program.Total.attempt _ fun _ => trivial
    · exact fun _ => trivial

theorem proposeTicket_total : (proposeTicket client world record amountWei).Total := by
  apply (Program.Total.attempt _ refusalWithStanding_total).bind
  rintro (refusal | proposed) <;> trivial

/-- **Truth.** Whatever fails on the way, a ticket without a record sent nothing, and the
record of a ticket is right about the money exactly when every transaction that was
included was seen through. -/
theorem record_tells_truth_iff_seen_through [Crypto Bytes32] (id : Double) (input : TicketInput) :
    (∀ trace reply, (doTicket client world id input).Returns trace reply → DistinctHashes trace →
      (TellsTruth trace reply.ticket ↔ AllSeenThrough trace)) ∧
    ∀ trace err, (doTicket client world id input).Throws trace err → sentIn trace = [] := by
  constructor
  · intro trace reply returns distinct
    obtain ⟨asked, acted, ⟨ticket, decision⟩, rfl, consulted, recorded⟩ := Program.returns_bind.mp returns
    have quiet := quiet_of_asks ((consult_asks id input).of_reaches consulted)
    obtain ⟨record, made, acts⟩ := Program.returns_ofExcept_bind.mp recorded
    obtain ⟨empty, unpaid⟩ := newRecord_fresh made
    rw [DistinctHashes, sentIn_append, quiet.sent, List.nil_append] at distinct
    apply (truthful_prepend quiet).mpr
    split at acts
    · exact payTicket_truthful acts empty unpaid distinct
    · split at acts
      · exact proposeTicket_truthful acts
      · obtain ⟨rfl, closed⟩ := Program.reaches_done.mp acts
        exact tells_truth_nil
  · intro trace err throws
    rcases Program.throws_bind.mp throws with
      failed | ⟨asked, acted, ⟨ticket, decision⟩, rfl, consulted, recorded⟩
    · exact (quiet_of_asks ((consult_asks id input).of_reaches failed)).sent
    · have quiet := quiet_of_asks ((consult_asks id input).of_reaches consulted)
      rcases Program.throws_ofExcept_bind.mp recorded with ⟨-, rfl⟩ | ⟨record, made, acts⟩
      · rw [List.append_nil, quiet.sent]
      · split at acts
        · exact absurd acts payTicket_total.not_throws
        · split at acts
          · exact absurd acts proposeTicket_total.not_throws
          · cases acts

end Runs

def leak : TicketInput := ⟨text "leak", text "120", text "plumbing", text "http://vendor"⟩

def leakTicket : Evidence.Ticket := ticketOf Library.client demoWorld firstId leak (120 * 10 ^ 18)

def payIt : Evidence.Decision := ⟨text "pay", text "within the cap", firstId⟩

def cap : Uint256 := 200 * 10 ^ 18
def balance : Uint256 := 1000 * 10 ^ 18

def leakConsulted : Trace := [
  ⟨.readContract (.balanceOf demoWorld.casa (demoWorld.actorAddress .concierge)), .ok balance⟩,
  ⟨.readContract .agentPerTxCap, .ok cap⟩,
  ⟨.decide leakTicket cap.toNat (balance.toNat * 98 / 100), .ok payIt⟩]

theorem consult_leak :
    (consult Library.client demoWorld firstId leak).Returns leakConsulted (leakTicket, payIt) :=
  .call (.call (.call (.refl _)))

/-- An included swap, and the wait for its receipt. -/
def swapTrace (function : ContractFunction) (receipt : Except Thrown Unit) : Trace := [
  ⟨.simulateContract ⟨.concierge, demoWorld.swapRouter, function⟩, .ok 0⟩,
  ⟨.writeContract ⟨.concierge, demoWorld.swapRouter, function⟩, ⟨text "0xaa", by decide, none, true⟩⟩,
  ⟨.waitForTransactionReceipt (text "0xaa"), receipt⟩]

theorem swap_encoded : ∃ function, swapOf Library.client demoWorld leakTicket.amount = .ok function := ⟨_, rfl⟩

theorem leak_recorded [Crypto Bytes32] :
    ∃ record, newRecord leakTicket payIt = .ok record ∧ record.txHashes = [] := by
  obtain ⟨canonical, written⟩ := Evidence.exists_canonical (Evidence.request payIt leakTicket)
  unfold newRecord
  rw [Evidence.evidenceHash, written]
  exact ⟨_, rfl, rfl⟩

/-- What the client throws when no receipt comes in time. -/
def timedOut : Thrown := ⟨none, text "Timed out while waiting for transaction to be confirmed.", []⟩

def standingAsked : Trace :=
  [⟨.readContract (.isAgentInGoodStanding (demoWorld.actorAddress .concierge)), .error timedOut⟩]

theorem timed_out_refused : (refusalWithStanding Library.client demoWorld timedOut).Returns standingAsked
    (refusalOf Library.client timedOut) := .call (.refl _)

/-- The receipt of the included swap is waited for in vain: the ticket is refused, and
the hash is lost. -/
theorem timed_out_swap_is_refused : ∃ trace, DistinctHashes trace ∧ ∀ [Crypto Bytes32], ∃ reply,
    (doTicket Library.client demoWorld firstId leak).Returns trace reply ∧ ¬ TellsTruth trace reply.ticket := by
  obtain ⟨function, encoded⟩ := swap_encoded
  have sent : sentIn (leakConsulted ++ ((swapTrace function (.error timedOut) ++ standingAsked) ++ [])) =
      [(⟨.concierge, demoWorld.swapRouter, function⟩, ⟨text "0xaa", by decide, none, true⟩)] := rfl
  refine ⟨_, by rw [DistinctHashes, sent]; exact List.pairwise_singleton _ _, ?_⟩
  intro crypto
  obtain ⟨record, made, empty⟩ := leak_recorded
  have swapped : (swapForInvoice Library.client demoWorld leakTicket.amount).Throws
      (swapTrace function (.error timedOut)) timedOut := by
    rw [swapForInvoice, encoded]
    exact .call (.call (.call (.refl _)))
  have paid : (payTicket Library.client demoWorld record leakTicket.amount leak.vendorUrl).Returns
      ((swapTrace function (.error timedOut) ++ standingAsked) ++ [])
      (refuse record (refusalOf Library.client timedOut)) :=
    Program.returns_bind.mpr ⟨_, _, _, rfl,
      Program.returns_attempt.mpr (.inr ⟨_, _, _, _, rfl, swapped, timed_out_refused, rfl⟩), .refl _⟩
  refine ⟨refuse record (refusalOf Library.client timedOut), ?_, ?_⟩
  · apply Program.returns_bind.mpr
    refine ⟨_, _, _, rfl, consult_leak, ?_⟩
    apply Program.returns_ofExcept_bind.mpr
    refine ⟨record, made, ?_⟩
    rw [if_pos (show payIt.action = text "pay" from rfl)]
    exact paid
  · intro truth
    have denied := truth.refused rfl _ List.mem_cons_self
    cases denied

/-- The vendor takes the invoice for paid at the first request. -/
def waived (ticket : Evidence.Ticket) : Trace :=
  [⟨.fetch (invoiceOf Library.client demoWorld ticket.id ticket.amount leak.vendorUrl).request,
    .ok ⟨200, none⟩⟩]

/-- Seen through, the same swap is on the record. -/
theorem confirmed_swap_is_recorded : ∃ trace, DistinctHashes trace ∧ ∀ [Crypto Bytes32], ∃ reply,
    (doTicket Library.client demoWorld firstId leak).Returns trace reply ∧ TellsTruth trace reply.ticket ∧
      text "0xaa" ∈ reply.ticket.txHashes := by
  obtain ⟨function, encoded⟩ := swap_encoded
  have sent : sentIn (leakConsulted ++ (swapTrace function (.ok ()) ++ (waived leakTicket ++ []))) =
      [(⟨.concierge, demoWorld.swapRouter, function⟩, ⟨text "0xaa", by decide, none, true⟩)] := rfl
  have distinct : DistinctHashes (leakConsulted ++ (swapTrace function (.ok ()) ++ (waived leakTicket ++ []))) := by
    rw [DistinctHashes, sent]
    exact List.pairwise_singleton _ _
  refine ⟨_, distinct, ?_⟩
  intro crypto
  obtain ⟨record, made, empty⟩ := leak_recorded
  have swapped : (swapForInvoice Library.client demoWorld leakTicket.amount).Returns
      (swapTrace function (.ok ())) (text "0xaa") := by
    rw [swapForInvoice, encoded]
    exact .call (.call (.call (.refl _)))
  have same : record.id = leakTicket.id := by
    unfold newRecord at made
    split at made <;> cases made
    rfl
  have settled : (payInvoice Library.client demoWorld record.id leakTicket.amount leak.vendorUrl).Returns
      (waived leakTicket) ⟨true, none, none⟩ := by
    rw [same]
    exact .call (.refl _)
  have paid : (payTicket Library.client demoWorld record leakTicket.amount leak.vendorUrl).Returns
      (swapTrace function (.ok ()) ++ (waived leakTicket ++ []))
      (closeTicket (recordSettlement { record with txHashes := record.txHashes ++ [text "0xaa"] }
        (.ok ⟨true, none, none⟩))) :=
    Program.returns_bind.mpr ⟨_, _, _, rfl, Program.returns_attempt.mpr (.inl ⟨_, swapped, rfl⟩),
      Program.returns_bind.mpr ⟨_, _, _, rfl, Program.returns_attempt.mpr (.inl ⟨_, settled, rfl⟩), .refl _⟩⟩
  have returns : (doTicket Library.client demoWorld firstId leak).Returns
      (leakConsulted ++ (swapTrace function (.ok ()) ++ (waived leakTicket ++ [])))
      (closeTicket (recordSettlement { record with txHashes := record.txHashes ++ [text "0xaa"] }
        (.ok ⟨true, none, none⟩))) := by
    apply Program.returns_bind.mpr
    refine ⟨_, _, _, rfl, consult_leak, ?_⟩
    apply Program.returns_ofExcept_bind.mpr
    refine ⟨record, made, ?_⟩
    rw [if_pos (show payIt.action = text "pay" from rfl)]
    exact paid
  refine ⟨_, returns, ?_, ?_⟩
  · apply ((record_tells_truth_iff_seen_through firstId leak).1 _ _ returns distinct).mpr
    intro tx member _
    rw [sent, List.mem_singleton] at member
    subst member
    exact (swap_seen_through (isSwap_of_encoded encoded) rfl rfl _ rfl).prepend leakConsulted
  · simp [closeTicket, recordSettlement]

end PassportKit.Concierge
