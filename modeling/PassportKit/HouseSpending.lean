import PassportKit.HouseSystem
import PassportKit.PassportAgreement
import PassportKit.VendorHandshake

/-! What the concierge may spend, in any interleaving: whatever the decision engine says
and whatever the vendor answers, a ticket sends nothing that was not found good at some
moment of its own run, by the hook of the budget pool or by the treasury. -/
namespace PassportKit.HouseSystem
open Evm Eip712 Js Interaction DemoChain Concierge
open Refusals (Thrown bytesToHex)
open Verification (demoHashes)

/-- Found good by a simulation. -/
def Simulated (trace : DemoChain.Trace) (call : ContractCall) : Prop :=
  ∃ result, ⟨.simulateContract call, .ok result⟩ ∈ trace

/-- What the decision engine answered about a ticket. -/
def Decided (trace : DemoChain.Trace) (ticket : Evidence.Ticket) (decision : Evidence.Decision) : Prop :=
  ∃ perTxCap casaBudget, ⟨.decide ticket perTxCap casaBudget, .ok decision⟩ ∈ trace

/-- What a ticket sends when, and what was decided, simulated and sent before it. -/
inductive Warranted [Crypto Bytes32] (client : Client) (world : DemoAddresses) (id : Double) (input : TicketInput)
    (trace : DemoChain.Trace) : ContractCall → Prop where
  | swap {amountWei : ℤ} {decision : Evidence.Decision} {function : ContractFunction}
      (priced : client.parseEther input.amount = .ok amountWei)
      (decided : Decided trace (ticketOf client world id input amountWei) decision)
      (chosen : decision.action = text "pay")
      (encoded : swapOf client world amountWei = .ok function)
      (simulated : Simulated trace ⟨.concierge, world.swapRouter, function⟩) (first : sentIn trace = []) :
      Warranted client world id input trace ⟨.concierge, world.swapRouter, function⟩
  | transfer {amountWei : ℤ} {decision : Evidence.Decision} {function : ContractFunction} {sent : Sent}
      {call : ContractCall} (priced : client.parseEther input.amount = .ok amountWei)
      (decided : Decided trace (ticketOf client world id input amountWei) decision)
      (chosen : decision.action = text "pay")
      (encoded : swapOf client world amountWei = .ok function)
      (simulated : Simulated trace ⟨.concierge, world.swapRouter, function⟩)
      (after : sentIn trace = [(⟨.concierge, world.swapRouter, function⟩, sent)])
      (invoiced : IsInvoiceTransfer world amountWei call) : Warranted client world id input trace call
  | proposal {amountWei : ℤ} {decision : Evidence.Decision} {evidence : Bytes32} {amount : Uint256}
      (priced : client.parseEther input.amount = .ok amountWei)
      (decided : Decided trace (ticketOf client world id input amountWei) decision)
      (chosen : decision.action = text "propose") (whole : (amount.toNat : ℤ) = amountWei)
      (anchored : Evidence.evidenceHash
        (Evidence.request decision (ticketOf client world id input amountWei)) = some evidence)
      (simulated : Simulated trace
        ⟨.concierge, world.treasury, .proposePayment (world.actorAddress .plumber) amount evidence⟩)
      (first : sentIn trace = []) : Warranted client world id input trace
        ⟨.concierge, world.treasury, .proposePayment (world.actorAddress .plumber) amount evidence⟩

section Tickets
variable {client : Client} {world : DemoAddresses} {trace before : DemoChain.Trace} {call other : ContractCall}
  {amountWei : ℤ} {vendorUrl : JsString} {record : DemoTicket} {id : Double} {input : TicketInput}

theorem Simulated.prepend (simulated : Simulated trace call) : Simulated (before ++ trace) call := by
  obtain ⟨result, member⟩ := simulated
  exact ⟨result, List.mem_append_right _ member⟩

theorem Simulated.append (simulated : Simulated before call) : Simulated (before ++ trace) call := by
  obtain ⟨result, member⟩ := simulated
  exact ⟨result, List.mem_append_left _ member⟩

theorem sending_writes (sending : Sending call trace (.asks (.writeContract other))) :
    other = call ∧ Simulated trace call ∧ sentIn trace = [] := by
  cases sending with
  | sends result => exact ⟨rfl, ⟨result, List.mem_singleton_self _⟩, rfl⟩

theorem sending_simulated {written : Written} (sending : Sending call trace (.returned written)) :
    Simulated trace call := by
  cases sending with
  | confirmed result accepted => exact ⟨result, List.mem_cons_self⟩

theorem payInvoice_writes (documented : client.Documented)
    (makes : (payInvoice client world id amountWei vendorUrl).Makes trace (.writeContract call)) :
    IsInvoiceTransfer world amountWei call ∧ sentIn trace = [] := by
  obtain ⟨resume, reaches⟩ := makes
  cases paying_of_reaches reaches with
  | @sends first accept judged function encoded sent request sending =>
    obtain ⟨-, challenge, -, offer⟩ := X402.judge_pay judged
    obtain ⟨rfl, -, nothing⟩ := sending_writes sending
    exact ⟨transferOf_exact documented offer encoded, by rw [sentIn_fetch, nothing]⟩

/-- Nothing is sent to find out why something was refused. -/
theorem refusalWithStanding_writes {err : Thrown} :
    ¬ (refusalWithStanding client world err).Makes trace (.writeContract call) :=
  fun makes => (refusalWithStanding_asks err).of_makes makes

/-- The swap first, and then the transfer. -/
theorem payTicket_writes (documented : client.Documented)
    (makes : (payTicket client world record amountWei vendorUrl).Makes trace (.writeContract call)) :
    ∃ function, swapOf client world amountWei = .ok function ∧
      Simulated trace ⟨.concierge, world.swapRouter, function⟩ ∧
      (call = ⟨.concierge, world.swapRouter, function⟩ ∧ sentIn trace = [] ∨
        IsInvoiceTransfer world amountWei call ∧
        ∃ sent, sentIn trace = [(⟨.concierge, world.swapRouter, function⟩, sent)]) := by
  rcases Program.makes_bind makes with swapping | ⟨before, after, swapped, rfl, tried, settles⟩
  · rcases Program.makes_attempt swapping with swap | ⟨before, after, err, rfl, -, asked⟩
    · obtain ⟨function, encoded, sending⟩ := writing_makes swap
      obtain ⟨rfl, simulated, nothing⟩ := sending_writes sending
      exact ⟨function, encoded, simulated, .inl ⟨rfl, nothing⟩⟩
    · exact absurd asked refusalWithStanding_writes
  · rcases Program.returns_attempt.mp tried with
      ⟨swapHash, swap, rfl⟩ | ⟨failed, asked, err, refusal, -, -, -, rfl⟩
    · obtain ⟨function, written, encoded, sending, rfl⟩ := writing_returns swap
      obtain ⟨sent, once, -⟩ := sending_returned sending
      have invoiced : IsInvoiceTransfer world amountWei call ∧ sentIn after = [] := by
        rcases Program.makes_bind settles with paying | ⟨first, second, settled, rfl, -, resume, closed⟩
        · rcases Program.makes_attempt paying with paid | ⟨first, second, err, rfl, -, resume, shown⟩
          · exact payInvoice_writes documented paid
          · cases (Program.reaches_done.mp shown).2
        · cases (Program.reaches_done.mp closed).2
      refine ⟨function, encoded, (sending_simulated sending).append, .inr ⟨invoiced.1, sent, ?_⟩⟩
      rw [sentIn_append, once, invoiced.2, List.append_nil]
    · obtain ⟨resume, refused⟩ := settles
      cases (Program.reaches_done.mp refused).2

theorem proposalOf_eq_ok (documented : client.Documented) {function : ContractFunction}
    (encoded : proposalOf client world record amountWei = .ok function) : ∃ amount : Uint256,
      (amount.toNat : ℤ) = amountWei ∧
        function = .proposePayment (world.actorAddress .plumber) amount record.evidenceHash := by
  unfold proposalOf at encoded
  cases value : client.encodeUint256 amountWei with
  | error err =>
    rw [value] at encoded
    cases encoded
  | ok amount =>
    rw [value] at encoded
    cases encoded
    exact ⟨amount, documented.uint256 amountWei amount value, rfl⟩

theorem proposeTicket_writes (makes : (proposeTicket client world record amountWei).Makes trace (.writeContract call)) :
    ∃ function, proposalOf client world record amountWei = .ok function ∧
      call = ⟨.concierge, world.treasury, function⟩ ∧ Simulated trace call ∧ sentIn trace = [] := by
  rcases Program.makes_bind makes with proposing | ⟨before, after, proposed, rfl, -, resume, ended⟩
  · rcases Program.makes_attempt proposing with sends | ⟨before, after, err, rfl, -, asked⟩
    · obtain ⟨resume, reaches⟩ := sends
      rcases sending_of_reaches reaches with ⟨err, -, -, threw⟩ | ⟨function, encoded, sending⟩
      · cases threw
      · obtain ⟨rfl, simulated, nothing⟩ := sending_writes sending
        exact ⟨function, encoded, rfl, simulated, nothing⟩
    · exact absurd asked refusalWithStanding_writes
  · cases proposed with
    | ok written => cases (Program.reaches_done.mp ended).2
    | error refusal => cases (Program.reaches_done.mp ended).2

theorem Decided.append {ticket : Evidence.Ticket} {decision : Evidence.Decision}
    (decided : Decided before ticket decision) :
    Decided (before ++ trace) ticket decision := by
  obtain ⟨perTxCap, casaBudget, member⟩ := decided
  exact ⟨perTxCap, casaBudget, List.mem_append_left _ member⟩

theorem askDecider_returns {ticket : Evidence.Ticket} {perTxCap casaBudget : ℕ} {decision : Evidence.Decision}
    (returns : (askDecider ticket perTxCap casaBudget).Returns trace decision) : Decided trace ticket decision := by
  rcases Program.reaches_call.mp returns with ⟨-, ⟨⟩⟩ | ⟨answer, rest, rfl, answered⟩
  cases answer with
  | error err => cases answered
  | ok verdict =>
    cases (Program.reaches_done.mp answered).2
    exact ⟨perTxCap, casaBudget, List.mem_cons_self⟩

/-- The decision is the engine's, about the ticket as it was priced. -/
theorem consult_returns {ticket : Evidence.Ticket} {decision : Evidence.Decision}
    (returns : (consult client world id input).Returns trace (ticket, decision)) :
    ∃ amountWei, client.parseEther input.amount = .ok amountWei ∧
      ticket = ticketOf client world id input amountWei ∧ Decided trace ticket decision := by
  unfold consult at returns
  obtain ⟨amountWei, priced, asked⟩ := Program.returns_ofExcept_bind.mp returns
  obtain ⟨first, rest, balance, rfl, -, reading⟩ := Program.returns_bind.mp asked
  obtain ⟨second, rest, cap, rfl, -, deciding⟩ := Program.returns_bind.mp reading
  obtain ⟨third, rest, verdict, rfl, answered, ended⟩ := Program.returns_bind.mp deciding
  cases (Program.reaches_done.mp ended).2
  obtain ⟨perTxCap, casaBudget, member⟩ := askDecider_returns answered
  exact ⟨amountWei, priced, rfl, perTxCap, casaBudget, by simp [member]⟩

/-- **Warrants.** A ticket sends nothing else, and nothing out of order. -/
theorem doTicket_writes [Crypto Bytes32] (documented : client.Documented)
    (makes : (doTicket client world id input).Makes trace (.writeContract call)) :
    Warranted client world id input trace call := by
  rcases Program.makes_bind makes with consulting | ⟨asked, acted, ⟨ticket, decision⟩, rfl, consulted, recorded⟩
  · exact absurd ((consult_asks id input).of_makes consulting) fun asked => asked
  obtain ⟨amountWei, priced, rfl, decided⟩ := consult_returns consulted
  have quiet := quiet_of_asks ((consult_asks id input).of_reaches consulted)
  obtain ⟨record, made, acts⟩ := Program.makes_ofExcept_bind recorded
  split at acts
  · rename_i pay
    obtain ⟨function, encoded, simulated, ⟨rfl, nothing⟩ | ⟨invoiced, sent, once⟩⟩ :=
      payTicket_writes documented acts
    · have first : sentIn (asked ++ acted) = [] := by rw [sentIn_append, quiet.sent, nothing, List.append_nil]
      exact .swap priced decided.append pay encoded simulated.prepend first
    · have after : sentIn (asked ++ acted) = [(⟨.concierge, world.swapRouter, function⟩, sent)] := by
        rw [sentIn_append, quiet.sent, once, List.nil_append]
      exact .transfer priced decided.append pay encoded simulated.prepend after invoiced
  · split at acts
    · rename_i propose
      obtain ⟨function, encoded, rfl, simulated, nothing⟩ := proposeTicket_writes acts
      obtain ⟨amount, whole, rfl⟩ := proposalOf_eq_ok documented encoded
      have anchored : Evidence.evidenceHash (Evidence.request decision (ticketOf client world id input amountWei)) =
          some record.evidenceHash := by
        unfold newRecord at made
        split at made
        · cases made
        · rename_i hash anchored
          cases made
          exact anchored
      have first : sentIn (asked ++ acted) = [] := by rw [sentIn_append, quiet.sent, nothing, List.append_nil]
      exact .proposal priced decided.append propose whole anchored simulated.prepend first
    · obtain ⟨resume, ended⟩ := acts
      cases (Program.reaches_done.mp ended).2

/-- A ticket that spent nothing, and does not claim to. -/
structure Unspent (reply : Reply) : Prop where
  hashes : reply.ticket.txHashes = []
  unpaid : reply.ticket.paid = false
  closed : reply.ticket.status = text "refused" ∧ reply.ticket.refusal.isSome ∨
    reply.ticket.status = text "rejected"

/-- A ticket that sent nothing says so. -/
theorem doTicket_unspent [Crypto Bytes32] {reply : Reply}
    (returns : (doTicket client world id input).Returns trace reply)
    (nothing : sentIn trace = []) : Unspent reply := by
  obtain ⟨asked, acted, ⟨ticket, decision⟩, rfl, -, recorded⟩ := Program.returns_bind.mp returns
  obtain ⟨record, made, acts⟩ := Program.returns_ofExcept_bind.mp recorded
  obtain ⟨empty, unpaid⟩ := newRecord_fresh made
  rw [sentIn_append, List.append_eq_nil_iff] at nothing
  have silent := nothing.2
  split at acts
  · obtain ⟨before, after, swapped, rfl, tried, settles⟩ := Program.returns_bind.mp acts
    rcases Program.returns_attempt.mp tried with
      ⟨swapHash, swap, rfl⟩ | ⟨failed, asked, err, refusal, -, -, -, rfl⟩
    · obtain ⟨function, written, encoded, sending, rfl⟩ := writing_returns swap
      obtain ⟨sent, once, -⟩ := sending_returned sending
      rw [sentIn_append, once] at silent
      cases silent
    · cases (Program.reaches_done.mp settles).2
      exact ⟨empty, unpaid, .inl ⟨rfl, rfl⟩⟩
  · split at acts
    · obtain ⟨before, after, proposed, rfl, tried, ended⟩ := Program.returns_bind.mp acts
      rcases Program.returns_attempt.mp tried with
        ⟨written, sent, rfl⟩ | ⟨failed, asked, err, refusal, -, -, -, rfl⟩
      · obtain ⟨function, encoded, sending⟩ := sent_encoded sent
        obtain ⟨proposal, once, -⟩ := sending_returned sending
        rw [sentIn_append, once] at silent
        cases silent
      · cases (Program.reaches_done.mp ended).2
        exact ⟨empty, unpaid, .inl ⟨rfl, rfl⟩⟩
    · cases (Program.reaches_done.mp acts).2
      exact ⟨empty, unpaid, .inr rfl⟩

end Tickets

/-! ## What was found good -/

/-- The wallets the mandate lets spend this much on the budget pool, at one state of the chain. -/
def Mandated (house : House) (amountWei : ℤ) (chain : HouseChain) : Prop :=
  chain.treasury.CompliantOwner chain.env (house.world.actorAddress .concierge) ∨
    chain.treasury.InGoodStanding chain.env (house.world.actorAddress .concierge) ∧
      amountWei.natAbs ≤ chain.treasury.mandate.perTxCap.toNat

/-- A signed number is encoded by its value. -/
def EncodesInt256 (client : Client) : Prop :=
  ∀ value encoded, client.encodeInt256 value = .ok encoded → encoded.toInt = value

section Accepted
variable {house : House} {chain : HouseChain} {amountWei : ℤ}

/-- The hook accepts owners it finds compliant, and the agent in good standing within its cap. -/
theorem beforeSwap_accepts {treasury : HouseTreasury} {env : Env} {hook : MandateHook}
    {treasuryAt : Address → IHouseTreasuryStanding} {sender wallet : Address} {amountSpecified : Int256}
    {hookData : Bytes}
    (resolves : MandateHook.actor sender hookData = .ok wallet)
    (installed : treasuryAt hook.TREASURY = treasury.standing env)
    {result} (accepted : hook._beforeSwap treasuryAt sender amountSpecified hookData = .ok result) :
    treasury.CompliantOwner env wallet ∨ treasury.InGoodStanding env wallet ∧
      amountSpecified.toInt.natAbs ≤ treasury.mandate.perTxCap.toNat := by
  cases owned : treasury.isCompliantOwner env wallet with
  | error err =>
    simp [MandateHook._beforeSwap, resolves, installed, HouseTreasury.standing, owned] at accepted
  | ok compliant =>
    cases compliant with
    | true => exact .inl ((HouseTreasury.isCompliantOwner_answers owned).mp rfl)
    | false =>
      right
      rw [MandateHook.beforeSwap_of_other resolves installed owned] at accepted
      obtain ⟨⟨⟩, required, -⟩ := bind_eq_ok.mp accepted
      cases standing : treasury.isAgentInGoodStanding env wallet with
      | error err => simp [MandateHook.requireAgent, HouseTreasury.standing, standing] at required
      | ok answer =>
        obtain ⟨ok, reason⟩ := answer
        cases ok with
        | false =>
          rw [MandateHook.requireAgent_of_refused standing] at required
          cases required
        | true =>
          by_cases least : amountSpecified = BitVec.intMin 256
          · rw [least, MandateHook.requireAgent_of_intMin standing] at required
            cases required
          · rw [MandateHook.requireAgent_of_standing standing least] at required
            split at required
            · rename_i within
              exact ⟨HouseTreasury.isAgentInGoodStanding_eq_true standing, within⟩
            · cases required

/-- The actor of a swap is the concierge: its address is the hook data. -/
theorem actor_concierge (world : DemoAddresses) (sender : Address) :
    MandateHook.actor sender (DemoPositionRouter.words [addressWord (world.actorAddress .concierge)]) =
      .ok (world.actorAddress .concierge) := by
  generalize world.actorAddress .concierge = account
  have data : DemoPositionRouter.words [addressWord account] = word (addressWord account) := by
    simp [DemoPositionRouter.words]
  have bound := account.bits.isLt
  have value : (addressWord account).toNat = account.bits.toNat := by
    rw [addressWord, BitVec.toNat_setWidth, Nat.mod_eq_of_lt (lt_trans bound (by norm_num))]
  have narrow : (addressWord account).setWidth 160 = account.bits := by
    apply BitVec.eq_of_toNat_eq
    rw [BitVec.toNat_setWidth, value, Nat.mod_eq_of_lt bound]
  rw [MandateHook.actor, ComplianceHook.actor, data, if_pos (length_word _), wordAt_zero_word]
  dsimp only
  rw [revertIf, if_neg (by rw [value]; omega), narrow]
  rfl

/-- A swap the chain accepts is one the mandate lets the concierge make. -/
theorem mandated_of_accepts (signed : EncodesInt256 house.client) {function : ContractFunction} {router : Address}
    (encoded : swapOf house.client house.world amountWei = .ok function)
    (accepts : chain.Accepts house ⟨.concierge, router, function⟩) : Mandated house amountWei chain := by
  unfold swapOf at encoded
  cases value : house.client.encodeInt256 amountWei with
  | error err =>
    rw [value] at encoded
    cases encoded
  | ok amountSpecified =>
    rw [value] at encoded
    cases encoded
    obtain ⟨result, accepted⟩ := accepts rfl
    have installed : chain.treasuryAt house house.hook.TREASURY = chain.treasury.standing chain.env := by
      rw [HouseChain.treasuryAt, if_pos house.installed]
    have verdict := beforeSwap_accepts (actor_concierge house.world router) installed accepted
    rwa [signed amountWei amountSpecified value] at verdict

/-- The mandate, or the treasury, is asked about whatever is sent. -/
theorem Warranted.gated [Crypto Bytes32] (signed : EncodesInt256 house.client) {id : Double} {input : TicketInput}
    {trace : DemoChain.Trace} {call : ContractCall}
    (warranted : Warranted house.client house.world id input trace call) :
    ∃ gated, Simulated trace gated ∧ ∀ chain : HouseChain, chain.Accepts house gated →
      (∃ amountWei, Mandated house amountWei chain) ∨
        chain.treasury.InGoodStanding chain.env (house.world.actorAddress .concierge) := by
  cases warranted with
  | @swap amountWei decision function priced decided chosen encoded simulated =>
    exact ⟨_, simulated, fun chain accepts => .inl ⟨amountWei, mandated_of_accepts signed encoded accepts⟩⟩
  | @transfer amountWei decision function sent call priced decided chosen encoded simulated =>
    exact ⟨_, simulated, fun chain accepts => .inl ⟨amountWei, mandated_of_accepts signed encoded accepts⟩⟩
  | proposal priced decided chosen whole anchored simulated =>
    refine ⟨_, simulated, fun chain accepts => .inr ?_⟩
    obtain ⟨⟨next, number⟩, proposed⟩ := accepts
    exact (HouseTreasury.proposePayment_changes proposed).standing

end Accepted

/-! ## Authority -/

/-- The chain found a transaction of a request good. -/
def Simulates {σ : Type} (label : HouseRequest) (call : ContractCall) (entry : HouseEntryOver σ) : Prop :=
  ∃ result, entry.event = .serves label ⟨.demo (.simulateContract call), .ok result⟩

/-- The request has a number, and its ticket under this number a decision. -/
structure Resolved (house : House) (label : HouseRequest) (input : TicketInput) (earlier : List HouseEntry)
    (amountWei : ℤ) (id : Double) (decision : Evidence.Decision) : Prop where
  numbered : ∃ entry ∈ earlier, entry.event = .serves label ⟨.nextTicketId, id⟩
  decided : ∃ entry ∈ earlier, ∃ perTxCap casaBudget, entry.event = .serves label
    ⟨.demo (.decide (ticketOf house.client house.world id input amountWei) perTxCap casaBudget), .ok decision⟩

/-- What a request may sign after what has happened. The mandate is asked about a swap
on the state it is simulated on, and a transfer is the second leg of such a swap. -/
inductive Authorised [Crypto Bytes32] (house : House) (label : HouseRequest) (input : TicketInput)
    (earlier : List HouseEntry) : ContractCall → Prop where
  | swap {amountWei : ℤ} {id : Double} {decision : Evidence.Decision} {function : ContractFunction}
      (priced : house.client.parseEther input.amount = .ok amountWei)
      (resolved : Resolved house label input earlier amountWei id decision) (chosen : decision.action = text "pay")
      (encoded : swapOf house.client house.world amountWei = .ok function)
      (mandated : ∃ entry ∈ earlier, Simulates label ⟨.concierge, house.world.swapRouter, function⟩ entry ∧
        Mandated house amountWei entry.before.store)
      (first : ∀ entry ∈ earlier, ∀ call sent, ¬ Signs label call sent entry) :
      Authorised house label input earlier ⟨.concierge, house.world.swapRouter, function⟩
  | transfer {amountWei : ℤ} {id : Double} {decision : Evidence.Decision} {function : ContractFunction}
      {call : ContractCall} (priced : house.client.parseEther input.amount = .ok amountWei)
      (resolved : Resolved house label input earlier amountWei id decision) (chosen : decision.action = text "pay")
      (encoded : swapOf house.client house.world amountWei = .ok function)
      (mandated : ∃ entry ∈ earlier, Simulates label ⟨.concierge, house.world.swapRouter, function⟩ entry ∧
        Mandated house amountWei entry.before.store)
      (swapped : ∃ entry ∈ earlier, ∃ sent,
        Signs label ⟨.concierge, house.world.swapRouter, function⟩ sent entry)
      (second : ∀ entry ∈ earlier, ∀ call sent, Signs label call sent entry →
        call = ⟨.concierge, house.world.swapRouter, function⟩)
      (invoiced : IsInvoiceTransfer house.world amountWei call) : Authorised house label input earlier call
  | proposal {amountWei : ℤ} {id : Double} {decision : Evidence.Decision} {evidence : Bytes32} {amount : Uint256}
      (priced : house.client.parseEther input.amount = .ok amountWei)
      (resolved : Resolved house label input earlier amountWei id decision)
      (chosen : decision.action = text "propose") (whole : (amount.toNat : ℤ) = amountWei)
      (anchored : Evidence.evidenceHash
        (Evidence.request decision (ticketOf house.client house.world id input amountWei)) = some evidence)
      (standing : ∃ entry ∈ earlier, Simulates label ⟨.concierge, house.world.treasury,
          .proposePayment (house.world.actorAddress .plumber) amount evidence⟩ entry ∧
        entry.before.store.treasury.InGoodStanding entry.before.store.env (house.world.actorAddress .concierge))
      (first : ∀ entry ∈ earlier, ∀ call sent, ¬ Signs label call sent entry) :
        Authorised house label input earlier
        ⟨.concierge, house.world.treasury, .proposePayment (house.world.actorAddress .plumber) amount evidence⟩

section Authority
variable {label : HouseRequest} {call : ContractCall} {sent : Sent} {id : Double} {ran : DemoChain.Trace}

section Over
variable {σ : Type} {log : List (HouseEntryOver σ)} {entry : HouseEntryOver σ}

/-- Every exchange of a request is one of the run's. -/
theorem entry_of_exchange {exchange : Program.Exchange DemoCall DemoCall.Answer}
    (answered : answeredTo label log = ⟨.nextTicketId, id⟩ :: ran.map ofDemo) (member : exchange ∈ ran) :
    ∃ entry ∈ log, entry.event = .serves label (ofDemo exchange) := by
  apply mem_answeredTo.mp
  rw [answered]
  exact List.mem_cons_of_mem _ (List.mem_map_of_mem member)

/-- Every transaction of a request is one of its own run. -/
theorem mem_sentIn_of_signs (answered : answeredTo label log = ⟨.nextTicketId, id⟩ :: ran.map ofDemo)
    (member : entry ∈ log) (signs : Signs label call sent entry) : (call, sent) ∈ sentIn ran := by
  have inside := mem_answeredTo.mpr ⟨entry, member, signs⟩
  rw [answered] at inside
  rcases List.mem_cons.mp inside with numbered | demo
  · cases numbered
  · obtain ⟨⟨request, answer⟩, there, same⟩ := List.mem_map.mp demo
    cases same
    exact List.mem_filterMap.mpr ⟨_, there, rfl⟩

theorem signs_of_mem_sentIn (answered : answeredTo label log = ⟨.nextTicketId, id⟩ :: ran.map ofDemo)
    (member : (call, sent) ∈ sentIn ran) : ∃ entry ∈ log, Signs label call sent entry := by
  obtain ⟨⟨request, answer⟩, there, same⟩ := List.mem_filterMap.mp member
  cases request with
  | writeContract other =>
    cases same
    exact entry_of_exchange answered there
  | fetch | decide | getBlock | readContract | simulateContract | waitForTransactionReceipt => cases same

end Over

variable {log earlier rest : List HouseEntry} {entry : HouseEntry} [Crypto Bytes32] {house : House} {vendor : Vendor}
  {start last : HousePool}

/-- What was simulated was accepted by the chain as it was then. -/
theorem accepts_of_simulated (trace : Runs.Trace (houseSystem house vendor).Atom start log last)
    (answered : answeredTo label log = ⟨.nextTicketId, id⟩ :: ran.map ofDemo) (simulated : Simulated ran call) :
    ∃ entry ∈ log, Simulates label call entry ∧ entry.before.store.Accepts house call := by
  obtain ⟨result, member⟩ := simulated
  obtain ⟨entry, there, event⟩ := entry_of_exchange answered member
  refine ⟨entry, there, ⟨result, event⟩, ?_⟩
  have served := Machine.served_of_mem trace there event
  generalize entry.after.store = after at served
  cases served with
  | simulated accepts => exact accepts

/-- What a request signs is warranted by what it was answered before. -/
theorem warranted_of_signs (documented : house.client.Documented)
    (trace : Runs.Trace (houseSystem house vendor).Atom start (earlier ++ entry :: rest) last) (idle : start.tasks = [])
    (once : (startedIn (earlier ++ entry :: rest)).Nodup) (signs : Signs label call sent entry) :
    ∃ arrival input id ran, label = .ticket arrival input ∧ answeredTo label earlier =
      ⟨.nextTicketId, id⟩ :: ran.map ofDemo ∧ Warranted house.client house.world id input ran call := by
  have makes := Machine.makes_served trace idle once signs
  cases label with
  | block number =>
    have own : ((HouseRequest.block number).program house).Makes _ (.demo (.writeContract call)) := makes
    cases block_makes own
  | ticket arrival input =>
    have own : ((HouseRequest.ticket arrival input).program house).Makes _ (.demo (.writeContract call)) := makes
    obtain ⟨id, ran, answered, asked⟩ := ticket_makes own
    exact ⟨arrival, input, id, ran, rfl, answered, doTicket_writes documented asked⟩

/-- **Authority.** In every interleaving, with any vendor and any decision engine, the
concierge signs for one ticket at most a swap and the transfer of its price to the
plumber, or a proposal of it that carries the hash of that ticket and its decision, as it
was decided, and each only after the mandate was found to allow it. -/
theorem spending_is_authorised (documented : house.client.Documented) (signed : EncodesInt256 house.client)
    (trace : Runs.Trace (houseSystem house vendor).Atom start (earlier ++ entry :: rest) last) (idle : start.tasks = [])
    (once : (startedIn (earlier ++ entry :: rest)).Nodup) (signs : Signs label call sent entry) :
    ∃ arrival input, label = .ticket arrival input ∧ Authorised house label input earlier call := by
  obtain ⟨arrival, input, id, ran, rfl, answered, warranted⟩ := warranted_of_signs documented trace idle once signs
  refine ⟨arrival, input, rfl, ?_⟩
  obtain ⟨middle, first, -⟩ := trace.split
  have unsent (nothing : sentIn ran = []) (entry) (member : entry ∈ earlier) (call sent) :
      ¬ Signs (.ticket arrival input) call sent entry := by
    intro signs
    have inside := mem_sentIn_of_signs answered member signs
    rw [nothing] at inside
    cases inside
  have resolved {amountWei : ℤ} {decision : Evidence.Decision}
      (decided : Decided ran (ticketOf house.client house.world id input amountWei) decision) :
      Resolved house (.ticket arrival input) input earlier amountWei id decision := by
    obtain ⟨perTxCap, casaBudget, member⟩ := decided
    obtain ⟨entry, there, event⟩ := entry_of_exchange answered member
    exact ⟨mem_answeredTo.mp (answered ▸ List.mem_cons_self), entry, there, perTxCap, casaBudget, event⟩
  cases warranted with
  | swap priced decided chosen encoded simulated nothing =>
    obtain ⟨seen, there, simulates, accepts⟩ := accepts_of_simulated first answered simulated
    have mandated := mandated_of_accepts signed encoded accepts
    exact .swap priced (resolved decided) chosen encoded ⟨seen, there, simulates, mandated⟩ (unsent nothing)
  | @transfer amountWei decision function swapSent call priced decided chosen encoded simulated after invoiced =>
    obtain ⟨seen, there, simulates, accepts⟩ := accepts_of_simulated first answered simulated
    have mandated := mandated_of_accepts signed encoded accepts
    obtain ⟨swap, inside, signs'⟩ := signs_of_mem_sentIn answered (by rw [after]; exact List.mem_singleton_self _)
    refine .transfer priced (resolved decided) chosen encoded ⟨seen, there, simulates, mandated⟩
      ⟨swap, inside, swapSent, signs'⟩ (fun other member call sent signs'' => ?_) invoiced
    have only := mem_sentIn_of_signs answered member signs''
    rw [after, List.mem_singleton] at only
    cases only
    rfl
  | proposal priced decided chosen whole anchored simulated nothing =>
    obtain ⟨seen, there, simulates, ⟨next, number⟩, proposed⟩ := accepts_of_simulated first answered simulated
    have standing := (HouseTreasury.proposePayment_changes proposed).standing
    exact .proposal priced (resolved decided) chosen whole anchored ⟨seen, there, simulates, standing⟩
      (unsent nothing)

end Authority

def demoHouse : House := ⟨Library.client, demoWorld, ⟨0, demoWorld.treasury⟩, rfl⟩

/-- The owners' treasury, with the concierge's mandate. -/
def demoTreasury : HouseTreasury := { MandateHook.house with
  owners := [1, 2]
  isOwner account := account ∈ [(1 : Address), 2]
  APPROVAL_THRESHOLD := 2
  mandate := ⟨4, cap, 0, false⟩ }

/-- The house, with these transactions signed and in blocks. -/
def demoAfter (signed : List (ContractCall × Sent)) (mined : List Mined) : HouseChain :=
  ⟨demoTreasury, MandateHook.welcoming, signed, mined⟩

def swapFunction : ContractFunction :=
  .swap (houseKey Library.client demoWorld) (casaIsCurrency0 Library.client demoWorld)
    (BitVec.ofInt 256 leakTicket.amount)
    (if casaIsCurrency0 Library.client demoWorld then MIN_SQRT_PRICE_PLUS_1 else MAX_SQRT_PRICE_MINUS_1) false false
    (DemoPositionRouter.words [addressWord (demoWorld.actorAddress .concierge)])

def swapCall : ContractCall := ⟨.concierge, demoWorld.swapRouter, swapFunction⟩

def leakCall : ContractCall :=
  ⟨.concierge, demoWorld.musd, .transfer (demoWorld.actorAddress .plumber) (BitVec.ofInt 256 leakTicket.amount)⟩

def hashOf (digest : Bytes32) : JsString := bytesToHex (word digest)

/-- Told at once, and included. -/
def includedAs (digest : Bytes32) : Sent := ⟨hashOf digest, List.cons_ne_nil _ _, none, true⟩

theorem leak_swap_encoded : swapOf Library.client demoWorld leakTicket.amount = .ok swapFunction := rfl

theorem swap_accepted (signed : List (ContractCall × Sent)) (mined : List Mined) :
    (demoAfter signed mined).Accepts demoHouse swapCall := by
  intro _
  have installed : (demoAfter signed mined).treasuryAt demoHouse demoHouse.hook.TREASURY =
      demoTreasury.standing MandateHook.welcoming := by
    rw [HouseChain.treasuryAt, if_pos demoHouse.installed, demoAfter]
  have answers : demoTreasury.Answers MandateHook.welcoming (demoWorld.actorAddress .concierge) :=
    ⟨⟨false, rfl⟩, fun _ => ⟨(true, 0), rfl⟩⟩
  have regular : ¬ MandateHook.Unnegatable demoTreasury MandateHook.welcoming (demoWorld.actorAddress .concierge)
      (BitVec.ofInt 256 leakTicket.amount) := fun least => absurd least.1 (by decide +kernel)
  have good : demoTreasury.InGoodStanding MandateHook.welcoming (demoWorld.actorAddress .concierge) :=
    @HouseTreasury.isAgentInGoodStanding_eq_true _ _ _ 0 rfl
  exact (MandateHook.isMandateGate_of_answers (actor_concierge demoWorld _) installed answers regular).accepts.mpr
    (.inr ⟨good, by decide +kernel⟩)

/-- The leak as it is filed: the number it takes, and the digests of its transactions. -/
structure Filing where
  arrival : ℕ
  id : Double
  swap : Bytes32
  transfer : Bytes32
  apart : swap ≠ transfer

namespace Filing
variable (filing : Filing)

def request : HouseRequest := .ticket filing.arrival leak

def ticket : Evidence.Ticket := ticketOf Library.client demoWorld filing.id leak leakTicket.amount

def invoice : X402.Invoice := invoiceOf Library.client demoWorld filing.id leakTicket.amount leak.vendorUrl

/-- It is decided to pay. -/
def consulted : DemoChain.Trace := [
  ⟨.readContract (.balanceOf demoWorld.casa (demoWorld.actorAddress .concierge)), .ok balance⟩,
  ⟨.readContract .agentPerTxCap, .ok cap⟩,
  ⟨.decide filing.ticket cap.toNat (balance.toNat * 98 / 100), .ok payIt⟩]

def swapping : DemoChain.Trace := [
  ⟨.simulateContract swapCall, .ok 0⟩,
  ⟨.writeContract swapCall, includedAs filing.swap⟩,
  ⟨.waitForTransactionReceipt (hashOf filing.swap), .ok ()⟩]

/-- The vendor makes its offer, is sent the money, and answers again. -/
def settling (challenged retried : X402.Response) : DemoChain.Trace := [
  ⟨.fetch filing.invoice.request, .ok challenged⟩,
  ⟨.simulateContract leakCall, .ok 0⟩,
  ⟨.writeContract leakCall, includedAs filing.transfer⟩,
  ⟨.waitForTransactionReceipt (hashOf filing.transfer), .ok ()⟩,
  ⟨.fetch (filing.invoice.retry (hashOf filing.transfer)), .ok retried⟩]

def exchanges (challenged retried : X402.Response) : DemoChain.Trace :=
  filing.consulted ++ (filing.swapping ++ filing.settling challenged retried)

def swapMined : Mined := ⟨hashOf filing.swap, some swapCall, .success, []⟩

def transferMined [Crypto Bytes32] : Mined :=
  ⟨hashOf filing.transfer, some leakCall, .success, [VendorInvoice.transferLog demoWorld.musd
    (demoWorld.actorAddress .concierge) (demoWorld.actorAddress .plumber) (BitVec.ofInt 256 leakTicket.amount)]⟩

/-- The swap is in a block. -/
def afterSwap (signed : List (ContractCall × Sent)) (mined : List Mined) : HouseChain :=
  demoAfter ((swapCall, includedAs filing.swap) :: signed) (filing.swapMined :: mined)

/-- The transfer is, too. -/
def paid [Crypto Bytes32] (signed : List (ContractCall × Sent)) (mined : List Mined) : HouseChain :=
  demoAfter ((leakCall, includedAs filing.transfer) :: (swapCall, includedAs filing.swap) :: signed)
    (filing.transferMined :: filing.swapMined :: mined)

end Filing

/-- The offer of the plumber for the leak. -/
def leakChallenge [Crypto Bytes32] : X402.Response :=
  (VendorInvoice.challenge Library.client demoWorld (some (.string (bigintText leakTicket.amount)))).received

section Returns
variable [Crypto Bytes32] {filing : Filing} {retried : X402.Response}

theorem leak_settles (accepted : retried.status = 200) :
    (payInvoice Library.client demoWorld filing.id leakTicket.amount leak.vendorUrl).Returns
      (filing.settling leakChallenge retried) ⟨true, some (hashOf filing.transfer), none⟩ := by
  have encoded : Library.client.encodeUint256 leakTicket.amount = .ok (BitVec.ofInt 256 leakTicket.amount) := rfl
  rw [payInvoice]
  apply Program.Reaches.call
  simp only [Program.ofExcept, Program.bind]
  rw [leakChallenge, VendorInvoice.judge_challenge]
  change ((write .concierge demoWorld.musd
    (transferOf Library.client (VendorInvoice.offer Library.client demoWorld (bigintText leakTicket.amount)))) >>= _ :
      Handler X402.Settled).Reaches _ _
  rw [VendorInvoice.transferOf_offer VendorInvoice.encodesChecksummed_library encoded]
  refine .call (.call (.call (.call ?_)))
  change (Program.done _ : Handler X402.Settled).Reaches [] (.done _)
  rw [accepted]
  exact .refl _

/-- A ticket whose payment the vendor takes is paid. -/
theorem leak_returns (accepted : retried.status = 200) : ∃ reply,
    (doTicket Library.client demoWorld filing.id leak).Returns (filing.exchanges leakChallenge retried) reply ∧
      reply.ticket.paid = true := by
  obtain ⟨record, made, same⟩ :
      ∃ record, newRecord filing.ticket payIt = .ok record ∧ record.id = filing.id := by
    obtain ⟨canonical, written⟩ := Evidence.exists_canonical (Evidence.request payIt filing.ticket)
    unfold newRecord
    rw [Evidence.evidenceHash, written]
    exact ⟨_, rfl, rfl⟩
  have consulted : (consult Library.client demoWorld filing.id leak).Returns filing.consulted (filing.ticket, payIt) :=
    .call (.call (.call (.refl _)))
  have swapped : (swapForInvoice Library.client demoWorld leakTicket.amount).Returns filing.swapping
      (hashOf filing.swap) := by
    rw [swapForInvoice, leak_swap_encoded]
    exact .call (.call (.call (.refl _)))
  have paid : (payTicket Library.client demoWorld record leakTicket.amount leak.vendorUrl).Returns
      (filing.swapping ++ (filing.settling leakChallenge retried ++ []))
      (closeTicket (recordSettlement { record with txHashes := record.txHashes ++ [hashOf filing.swap] }
        (.ok ⟨true, some (hashOf filing.transfer), none⟩))) :=
    Program.returns_bind.mpr ⟨_, _, _, rfl, Program.returns_attempt.mpr (.inl ⟨_, swapped, rfl⟩),
      Program.returns_bind.mpr ⟨_, _, _, rfl,
        Program.returns_attempt.mpr (.inl ⟨_, same.symm ▸ leak_settles accepted, rfl⟩), .refl _⟩⟩
  rw [List.append_nil] at paid
  refine ⟨closeTicket (recordSettlement { record with txHashes := record.txHashes ++ [hashOf filing.swap] }
    (.ok ⟨true, some (hashOf filing.transfer), none⟩)),
    Program.returns_bind.mpr ⟨_, _, _, rfl, consulted, ?_⟩, rfl⟩
  apply Program.returns_ofExcept_bind.mpr
  refine ⟨record, made, ?_⟩
  rw [if_pos (show payIt.action = text "pay" from rfl)]
  exact paid

end Returns

theorem hashOf_injective : Function.Injective hashOf := VendorInvoice.bytesToHex_word_injective

section Leak
variable [Crypto Bytes32] {vendor : Vendor} {retried : X402.Response} {filing : Filing}
  {signed : List (ContractCall × Sent)} {mined : List Mined}

/-- Neither of its transactions is on the chain yet. -/
structure Filing.Unused (filing : Filing) (chain : HouseChain) : Prop where
  swap : chain.Fresh (hashOf filing.swap)
  transfer : chain.Fresh (hashOf filing.transfer)

theorem swap_mined (fresh : (demoAfter signed mined).Fresh (hashOf filing.swap)) :
    (demoAfter ((swapCall, includedAs filing.swap) :: signed) mined).Moves demoHouse
      (filing.afterSwap signed mined) := by
  have mines :
      (demoAfter ((swapCall, includedAs filing.swap) :: signed) mined).Mines demoHouse swapCall .success [] := by
    refine .succeeds (swap_accepted _ _) (fun log member => absurd member List.not_mem_nil) ?_
    intro recipient amount _ transfer
    cases transfer
  have there : (swapCall, includedAs filing.swap) ∈
      (demoAfter ((swapCall, includedAs filing.swap) :: signed) mined).signed := List.mem_cons_self
  exact .mines there rfl fresh.unmined mines

omit [Crypto Bytes32] in
theorem fresh_afterSwap (unused : filing.Unused (demoAfter signed mined)) :
    (filing.afterSwap signed mined).Fresh (hashOf filing.transfer) := by
  have apart : hashOf filing.swap ≠ hashOf filing.transfer := fun same => filing.apart (hashOf_injective same)
  refine ⟨⟨filing.transfer, rfl⟩, fun tx member => ?_, fun other member => ?_⟩
  · rcases List.mem_cons.mp member with rfl | earlier
    · exact apart
    · exact unused.transfer.unsigned tx earlier
  · rcases List.mem_cons.mp member with rfl | earlier
    · exact apart
    · exact unused.transfer.unmined other earlier

theorem leak_mined (fresh : (filing.afterSwap signed mined).Fresh (hashOf filing.transfer)) :
    (demoAfter ((leakCall, includedAs filing.transfer) :: (swapCall, includedAs filing.swap) :: signed)
      (filing.swapMined :: mined)).Moves demoHouse (filing.paid signed mined) := by
  have mines : (demoAfter ((leakCall, includedAs filing.transfer) :: (swapCall, includedAs filing.swap) :: signed)
      (filing.swapMined :: mined)).Mines demoHouse leakCall .success filing.transferMined.logs := by
    refine .succeeds trivial ?_ ?_
    · intro log member _ _
      obtain rfl := List.mem_singleton.mp member
      exact ⟨_, _, _, rfl⟩
    · intro recipient amount _ transfer
      cases transfer
      rfl
  have there : (leakCall, includedAs filing.transfer) ∈ (demoAfter ((leakCall, includedAs filing.transfer) ::
      (swapCall, includedAs filing.swap) :: signed) (filing.swapMined :: mined)).signed := List.mem_cons_self
  exact .mines there rfl fresh.unmined mines

/-- A block between any two calls of the leak. -/
theorem block_plays {number : ℕ} {chain next last : HouseChain}
    {exchanges : List (Program.Exchange HouseCall HouseAnswer)} {others : List HouseRequest}
    (moves : chain.Moves demoHouse next)
    (rest : (houseSystem demoHouse vendor).Plays filing.request next exchanges others last) :
    (houseSystem demoHouse vendor).Plays filing.request chain exchanges (.block number :: others) last :=
  .other trivial (fun same => by cases same) (.call (.goesOn moves) (.done _ _)) rest

/-- The leak with a block after each of its transactions. -/
theorem leak_plays (unused : filing.Unused (demoAfter signed mined))
    (offers : ∀ chain, vendor chain filing.invoice.request (.ok leakChallenge))
    (takes : vendor (filing.paid signed mined) (filing.invoice.retry (hashOf filing.transfer)) (.ok retried)) :
    (houseSystem demoHouse vendor).Plays filing.request (demoAfter signed mined)
      (⟨.nextTicketId, filing.id⟩ :: (filing.exchanges leakChallenge retried).map ofDemo)
      [.block (2 * filing.arrival), .block (2 * filing.arrival + 1)] (filing.paid signed mined) := by
  have confirmed : (filing.paid signed mined).Serves demoHouse vendor
      ⟨.demo (.waitForTransactionReceipt (hashOf filing.transfer)), .ok ()⟩ (filing.paid signed mined) :=
    @HouseChain.Serves.confirmed _ _ _ _ filing.transferMined List.mem_cons_self
  have swapped : (filing.afterSwap signed mined).Serves demoHouse vendor
      ⟨.demo (.waitForTransactionReceipt (hashOf filing.swap)), .ok ()⟩ (filing.afterSwap signed mined) :=
    @HouseChain.Serves.confirmed _ _ _ _ filing.swapMined List.mem_cons_self
  have simulated : (filing.afterSwap signed mined).Serves demoHouse vendor
      ⟨.demo (.simulateContract leakCall), .ok 0⟩ (filing.afterSwap signed mined) :=
    @HouseChain.Serves.simulated _ _ _ _ leakCall trivial 0
  have consulted : (demoAfter signed mined).Serves demoHouse vendor
      ⟨.demo (.readContract .agentPerTxCap), .ok cap⟩ (demoAfter signed mined) :=
    @HouseChain.Serves.read _ _ _ _ .agentPerTxCap _ rfl
  have fresh := fresh_afterSwap unused
  have paying : (houseSystem demoHouse vendor).Plays filing.request (filing.afterSwap signed mined)
      (⟨.demo (.waitForTransactionReceipt (hashOf filing.swap)), .ok ()⟩ ::
        (filing.settling leakChallenge retried).map ofDemo)
      [.block (2 * filing.arrival + 1)] (filing.paid signed mined) :=
    .serves swapped (.serves (.fetched (offers _)) (.serves simulated (.serves (.signed fresh)
      (block_plays (leak_mined fresh) (.serves confirmed (.serves (.fetched takes) (.nil _)))))))
  exact .serves (.numbered _) (.serves (.read trivial) (.serves consulted (.serves (.decided _ _ _ _)
    (.serves (.simulated (swap_accepted _ _) 0) (.serves (.signed unused.swap)
      (block_plays (swap_mined unused.swap) paying))))))

/-- A run of the house in which the leak is paid. -/
theorem leak_run (unused : filing.Unused (demoAfter signed mined))
    (offers : ∀ chain, vendor chain filing.invoice.request (.ok leakChallenge))
    (takes : vendor (filing.paid signed mined) (filing.invoice.retry (hashOf filing.transfer)) (.ok retried))
    (accepted : retried.status = 200) :
    ∃ log reply, Runs.Trace (houseSystem demoHouse vendor).Atom ⟨demoAfter signed mined, []⟩ log
        ⟨filing.paid signed mined, []⟩ ∧
      startedIn log = [filing.request, .block (2 * filing.arrival), .block (2 * filing.arrival + 1)] ∧
      answeredTo filing.request log =
        ⟨.nextTicketId, filing.id⟩ :: (filing.exchanges leakChallenge retried).map ofDemo ∧
      (filing.request.program demoHouse).Returns (answeredTo filing.request log) (some reply) ∧
      reply.ticket.paid = true := by
  obtain ⟨reply, returns, paid⟩ := leak_returns accepted
  have filed : (filing.request.program demoHouse).Returns _ (some reply) := files_ticket ⟨_, rfl⟩ returns
  obtain ⟨log, trace, started, answered⟩ := (leak_plays unused offers takes).run filed
  have ended : (houseSystem demoHouse vendor).Atom
      ⟨filing.paid signed mined, [⟨filing.request, .done (some reply)⟩]⟩ (.stops filing.request) ⟨_, []⟩ :=
    @Machine.Atom.stops _ _ _ _ _ _ _ _ [⟨filing.request, .done (some reply)⟩] 0 _ rfl
  have answers (last) (stops : last.event = .stops filing.request) :
      answeredTo filing.request (log ++ [last]) =
        ⟨.nextTicketId, filing.id⟩ :: (filing.exchanges leakChallenge retried).map ofDemo := by
    rw [answeredTo_append, answered]
    simp [answeredTo, stops]
  refine ⟨_, reply, .cons (.starts trivial) (trace.append (.cons ended (.nil _))), ?_, answers _ rfl, ?_, paid⟩
  · change filing.request :: startedIn (log ++ _) = _
    rw [startedIn_append, started]
    rfl
  · change Program.Returns _ (answeredTo filing.request (log ++ _)) _
    rwa [answers _ rfl]

end Leak

def firstLeak : Filing := ⟨0, firstId, 1, 2, by decide⟩

/-- The house, once the leak is paid for. -/
def leakPaid [Crypto Bytes32] : HouseChain := firstLeak.paid [] []

theorem fresh_initially (digest : Bytes32) : (demoAfter [] []).Fresh (hashOf digest) :=
  ⟨⟨digest, rfl⟩, List.forall_mem_nil _, List.forall_mem_nil _⟩

theorem unused_first : firstLeak.Unused (demoAfter [] []) := ⟨fresh_initially _, fresh_initially _⟩

theorem encodesInt256_library : EncodesInt256 Library.client := by
  intro value encoded result
  change Library.encodeInt256 value = .ok encoded at result
  unfold Library.encodeInt256 at result
  split at result
  · rename_i range
    cases result
    rw [BitVec.toInt_ofInt]
    exact Int.bmod_eq_of_le_mul_two (by norm_num; omega) (by norm_num; omega)
  · cases result

/-- The transfer of the leak was authorised. -/
theorem spending_is_authorised_leak : ∃ log last earlier entry rest,
    Runs.Trace (@houseSystem demoHashes demoHouse anyVendor).Atom ⟨demoAfter [] [], []⟩ log last ∧
      log = earlier ++ entry :: rest ∧ Signs firstLeak.request leakCall (includedAs 2) entry ∧
        @Authorised demoHashes demoHouse firstLeak.request leak earlier leakCall := by
  have accepted : (⟨200, none⟩ : X402.Response).status = 200 := rfl
  obtain ⟨log, reply, trace, started, answered, -⟩ :=
    @leak_run demoHashes anyVendor _ _ _ _ unused_first (fun _ => trivial) trivial accepted
  have transferred : (leakCall, includedAs 2) ∈ sentIn
      (firstLeak.exchanges (@leakChallenge demoHashes) ⟨200, none⟩) :=
    List.mem_cons_of_mem _ List.mem_cons_self
  obtain ⟨entry, member, signs⟩ := signs_of_mem_sentIn answered transferred
  obtain ⟨earlier, rest, rfl⟩ := List.append_of_mem member
  have once : (startedIn (earlier ++ entry :: rest)).Nodup := started ▸ by decide
  obtain ⟨arrival, input, same, authorised⟩ := @spending_is_authorised _ _ _ _ _ _ demoHashes demoHouse _ _ _
    Library.documented encodesInt256_library trace rfl once signs
  cases same
  exact ⟨_, _, earlier, entry, rest, trace, rfl, signs, authorised⟩

end PassportKit.HouseSystem
