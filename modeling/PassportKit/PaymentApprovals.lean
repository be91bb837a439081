import PassportKit.ApprovalRequests

/-! Why no payment is left stuck, and when one is. Every payment that awaits its
execution is seen to by someone: an owner who has not approved yet, or a request that
will read it. A request that fails late, or reads early, can be the last one. -/
namespace PassportKit.PaymentApprovals
open Evm Js Interaction DemoChain Concierge
open Refusals (Thrown)
open Runs (Entry Trace)

/-- Some request on a payment has this duty. -/
def Owed (treasury : HouseTreasury) (requests : List Request) (id : ℕ) (duty : Duty) : Prop :=
  ∃ request ∈ requests, request.id = id ∧ request.duty treasury.APPROVAL_THRESHOLD = duty

/-- A payment that awaits its execution can be approved by another owner or is seen
through by a request, and one that was executed is reported, or will be. -/
structure SeenTo (world : DemoAddresses) (treasury : HouseTreasury) (tickets : List DemoTicket)
    (requests : List Request) (id : ℕ) : Prop where
  awaiting : Awaiting treasury id →
    Open world treasury id ∨ Owed treasury requests id .reads ∨ Owed treasury requests id .executes
  executed : Executed treasury id → ∀ ticket, findTicketByPaymentId tickets id = some ticket →
    Reported ticket ∨ Owed treasury requests id .reads ∨ Owed treasury requests id .reports

/-- The tickets of a payment say that it was made. -/
def Told (tickets : List DemoTicket) (id : ℕ) : Prop :=
  ∀ ticket, findTicketByPaymentId tickets id = some ticket → Reported ticket

/-- An owner of the API with another account can approve, also after the one who asked. -/
structure Spare (world : DemoAddresses) (treasury : HouseTreasury) (request : Request) : Prop where
  other : ∃ owner ∈ OWNERS, world.actorAddress owner ≠ world.actorAddress request.owner ∧
    CanApprove treasury (world.actorAddress owner) request.id
  room : (treasury.payments request.id).approvals + 2 < uint256Modulus

/-- Below the threshold, also with the approval that is being sent. -/
def Short (treasury : HouseTreasury) (request : Request) (exchange : Program.Exchange DemoCall DemoCall.Answer) :
    Prop :=
  (treasury.payments request.id).approvals + (Request.sentBy exchange).length < treasury.APPROVAL_THRESHOLD

/-- Where a request may be lost: its payment is not due, another owner can still approve
it, or another request in flight has yet to do what is left. -/
structure Spared (world : DemoAddresses) (site : Site) (request : Request)
    (exchange : Program.Exchange DemoCall DemoCall.Answer) (others : List Request) : Prop where
  pending : ¬ Executed site.treasury request.id → ¬ Executes exchange →
    Short site.treasury request exchange ∨ Spare world site.treasury request ∨
      Owed site.treasury others request.id .reads ∨ Owed site.treasury others request.id .executes
  executed : Executed site.treasury request.id ∨ Executes exchange →
    Told site.tickets request.id ∨ Owed site.treasury others request.id .reads ∨
      Owed site.treasury others request.id .reports

/-- No request with an included transaction fails unless it can be spared, no included
execution reverts unless the payment was made before, and no answer comes after an
execution that its request had not read, unless another will tell. -/
structure Careful (world : DemoAddresses) (entry : Entry Site Event) : Prop where
  failing : ∀ request exchange others, entry.event = .awaits request exchange others → Fails exchange →
    Counted (request.sent ++ Request.sentBy exchange) → Spared world entry.before request exchange others
  executing : ∀ request call sent others word,
    entry.event = .awaits request ⟨.writeContract call, sent⟩ others → call.function = .executePayment word →
      sent.included = true →
      Executed entry.before.treasury request.id ∨ Takes world entry.before.treasury call entry.after.treasury
  responding : ∀ request approval others, entry.event = .responds request approval others →
    request.duty entry.before.treasury.APPROVAL_THRESHOLD = .pends → Executed entry.before.treasury request.id →
      findTicketByPaymentId entry.before.tickets request.id = none ∨
        Owed entry.before.treasury others request.id .reads ∨ Owed entry.before.treasury others request.id .reports

section Tickets
variable {id other : ℕ} {approval : Approval}

theorem findTicketByPaymentId_recordApproval (tickets : List DemoTicket) :
    findTicketByPaymentId (recordApproval id approval tickets) id =
      (findTicketByPaymentId tickets id).map fun ticket => ticket.approve approval := by
  induction tickets with
  | nil => rfl
  | cons ticket rest ih =>
    rw [recordApproval]
    split
    · rename_i found
      have found' : (ticket.approve approval).paymentId = some (id : ℚ) := found
      simp [findTicketByPaymentId, found, found']
    · rename_i elsewhere
      simp only [findTicketByPaymentId] at ih ⊢
      rw [List.find?_cons_of_neg (by simpa using elsewhere), List.find?_cons_of_neg (by simpa using elsewhere), ih]

theorem findTicketByPaymentId_elsewhere (apart : other ≠ id) (tickets : List DemoTicket) :
    findTicketByPaymentId (recordApproval id approval tickets) other = findTicketByPaymentId tickets other := by
  induction tickets with
  | nil => rfl
  | cons ticket rest ih =>
    rw [recordApproval]
    split
    · rename_i found
      have missed : ¬ ticket.paymentId = some (other : ℚ) := by
        rw [found]
        intro same
        exact apart (by exact_mod_cast (Option.some.inj same).symm)
      have missed' : ¬ (ticket.approve approval).paymentId = some (other : ℚ) := missed
      simp [findTicketByPaymentId, missed, missed']
    · simp only [findTicketByPaymentId, List.find?_cons] at ih ⊢
      rw [ih]

theorem reported_approve {ticket : DemoTicket} : Reported (ticket.approve approval) ↔ approval.executed = true := by
  constructor
  · exact fun reported => reported.2
  · intro executed
    exact ⟨if_pos executed, executed⟩

end Tickets

section Owing
variable {treasury : HouseTreasury} {before after : List Request} {request : Request} {id : ℕ} {duty : Duty}

theorem mem_middle {other : Request} : other ∈ before ++ request :: after ↔
      other = request ∨ other ∈ before ++ after := by
  simp only [List.mem_append, List.mem_cons]
  tauto

theorem owed_others (owed : Owed treasury (before ++ request :: after) id duty)
    (spared : request.id = id → request.duty treasury.APPROVAL_THRESHOLD ≠ duty) :
    Owed treasury (before ++ after) id duty := by
  obtain ⟨other, member, same, owes⟩ := owed
  rcases mem_middle.mp member with rfl | rest
  · exact absurd owes (spared same)
  · exact ⟨other, rest, same, owes⟩

theorem Owed.mono {requests more : List Request} (owed : Owed treasury requests id duty)
    (wider : ∀ request ∈ requests, request ∈ more) : Owed treasury more id duty := by
  obtain ⟨request, member, same, owes⟩ := owed
  exact ⟨request, wider request member, same, owes⟩

end Owing

section Runs
variable {client : Client} {world : DemoAddresses}

/-- Its id is one of the API. -/
structure Posted (request : Request) : Prop where
  number : toDouble (request.id : ℚ) = some (request.id : ℚ)
  positive : 1 ≤ request.id

/-- What holds of the site between any two steps. -/
structure Sound (client : Client) (world : DemoAddresses) (site : Site) : Prop where
  stands : ∀ request ∈ site.requests, Stands client world request
  posted : ∀ request ∈ site.requests, Posted request
  seenTo : ∀ id, SeenTo world site.treasury site.tickets site.requests id
  tickets : ∀ id ticket, findTicketByPaymentId site.tickets id = some ticket → Reported ticket →
    Executed site.treasury id
  reports : ∀ request ∈ site.requests, request.duty site.treasury.APPROVAL_THRESHOLD = .reports →
    Executed site.treasury request.id

theorem doApprove_duty (owner : DemoActor) (id threshold : ℕ) (sent : List (ContractCall × Sent)) :
    Request.duty threshold ⟨owner, id, doApprove client world owner id, sent⟩ ≠ .reports := by
  cases encoding : client.encodeUint256 id with
  | ok word =>
    rw [doApprove_simulates encoding]
    rintro ⟨⟩
  | error err =>
    have approval : approvalOf client id = .error err := by
      rw [approvalOf, encoding]
      rfl
    rw [doApprove, approval]
    rintro ⟨⟩

theorem sound_post {site : Site} (sound : Sound client world site) (owner : DemoActor) {id : ℕ}
    (number : toDouble (id : ℚ) = some (id : ℚ)) (positive : 1 ≤ id) :
    Sound client world
      { site with requests := site.requests ++ [⟨owner, id, doApprove client world owner id, []⟩] } := by
  have wider : ∀ request ∈ site.requests,
      request ∈ site.requests ++ [⟨owner, id, doApprove client world owner id, []⟩] :=
    fun request member => List.mem_append_left _ member
  constructor
  · intro request member
    rcases List.mem_append.mp member with old | new
    · exact sound.stands request old
    · rw [List.mem_singleton.mp new]
      exact doApprove_stands owner id
  · intro request member
    rcases List.mem_append.mp member with old | new
    · exact sound.posted request old
    · rw [List.mem_singleton.mp new]
      exact ⟨number, positive⟩
  · intro other
    obtain ⟨awaiting, executed⟩ := sound.seenTo other
    refine ⟨fun awaits => ?_, fun done ticket found => ?_⟩
    · exact (awaiting awaits).imp_right fun owed => owed.imp (·.mono wider) (·.mono wider)
    · exact (executed done ticket found).imp_right fun owed => owed.imp (·.mono wider) (·.mono wider)
  · exact sound.tickets
  · intro request member reports
    rcases List.mem_append.mp member with old | new
    · exact sound.reports request old reports
    · rw [List.mem_singleton.mp new] at reports
      exact absurd reports (doApprove_duty owner id _ [])

/-- Who goes on, or someone else, sees to a payment as before. -/
theorem owed_goesOn {treasury : HouseTreasury} {before after : List Request} {request : Request} {id : ℕ}
    {duty : Duty} {exchange : Program.Exchange DemoCall DemoCall.Answer} {rest : Handler Approval}
    (owed : Owed treasury (before ++ request :: after) id duty)
    (kept : request.id = id → request.duty treasury.APPROVAL_THRESHOLD = duty →
      (request.goesOn exchange rest).duty treasury.APPROVAL_THRESHOLD = duty) :
    Owed treasury (before ++ request.goesOn exchange rest :: after) id duty := by
  obtain ⟨other, member, same, owes⟩ := owed
  rcases mem_middle.mp member with rfl | elsewhere
  · exact ⟨_, mem_middle.mpr (.inl rfl), same, kept same owes⟩
  · exact ⟨other, mem_middle.mpr (.inr elsewhere), same, owes⟩

section Exchanged
variable {treasury next : HouseTreasury} {tickets : List DemoTicket} {before after : List Request} {request : Request}
  {exchange : Program.Exchange DemoCall DemoCall.Answer} {rest : Handler Approval}

/-- An exchange of one request changes nothing of the other payments. -/
theorem seenTo_elsewhere {id : ℕ} (touches : Touches treasury next request.id) (apart : id ≠ request.id)
    (seen : SeenTo world treasury tickets (before ++ request :: after) id) :
    SeenTo world next tickets (before ++ request.goesOn exchange rest :: after) id := by
  have owed : ∀ duty, Owed treasury (before ++ request :: after) id duty →
      Owed next (before ++ request.goesOn exchange rest :: after) id duty := by
    intro duty owed
    rw [Owed, touches.threshold]
    exact owed_goesOn owed fun same => absurd same.symm apart
  refine ⟨fun awaits => ?_, fun done ticket found => ?_⟩
  · rcases seen.awaiting ((touches.awaiting apart).mp awaits) with approvable | reads | executes
    · exact .inl (touches.open apart approvable)
    · exact .inr (.inl (owed _ reads))
    · exact .inr (.inr (owed _ executes))
  · exact (seen.executed ((touches.executed_iff apart).mp done) ticket found).imp_right
      fun either => either.imp (owed _) (owed _)

/-- Its own payment is seen to by whoever did, unless a request is lost for it. -/
theorem seenTo_goesOn {duty later : Duty} {sent : List (ContractCall × Sent)}
    (touches : Touches treasury next request.id) (turns : Turns treasury next request.id exchange sent duty later)
    (owes : request.duty treasury.APPROVAL_THRESHOLD = duty)
    (owes' : (request.goesOn exchange rest).duty treasury.APPROVAL_THRESHOLD = later)
    (seen : SeenTo world treasury tickets (before ++ request :: after) request.id)
    (failing : Fails exchange → Counted sent → SeenTo world next tickets (before ++ after) request.id)
    (executing : ∀ call tx word, exchange = ⟨.writeContract call, tx⟩ → call.function = .executePayment word →
      tx.included = true → Executed next request.id) :
    SeenTo world next tickets (before ++ request.goesOn exchange rest :: after) request.id := by
  have itself : Owed next (before ++ request.goesOn exchange rest :: after) request.id later :=
    ⟨_, mem_middle.mpr (.inl rfl), rfl, touches.threshold ▸ owes'⟩
  cases turns with
  | fails duty fails counted =>
    have wider : ∀ other ∈ before ++ after, other ∈ before ++ request.goesOn exchange rest :: after :=
      fun other member => mem_middle.mpr (.inr member)
    obtain ⟨awaiting, executed⟩ := failing fails counted
    refine ⟨fun awaits => ?_, fun done ticket found => ?_⟩
    · exact (awaiting awaits).imp_right fun owed => owed.imp (·.mono wider) (·.mono wider)
    · exact (executed done ticket found).imp_right fun owed => owed.imp (·.mono wider) (·.mono wider)
  | stays duty same =>
    subst same
    have owed : ∀ duty', Owed next (before ++ request :: after) request.id duty' →
        Owed next (before ++ request.goesOn exchange rest :: after) request.id duty' :=
      fun duty' owed => owed_goesOn owed fun _ before => owes'.trans (owes.symm.trans before)
    refine ⟨fun awaits => ?_, fun done ticket found => ?_⟩
    · exact (seen.awaiting awaits).imp_right fun either => either.imp (owed _) (owed _)
    · exact (seen.executed done ticket found).imp_right fun either => either.imp (owed _) (owed _)
  | drops same =>
    subst same
    have owed : ∀ duty', duty' ≠ .approves → Owed next (before ++ request :: after) request.id duty' →
        Owed next (before ++ request.goesOn exchange rest :: after) request.id duty' :=
      fun duty' other owed => owed_goesOn owed fun _ before => absurd (before.symm.trans owes) other
    refine ⟨fun awaits => ?_, fun done ticket found => ?_⟩
    · exact (seen.awaiting awaits).imp_right fun either => either.imp (owed _ nofun) (owed _ nofun)
    · exact (seen.executed done ticket found).imp_right fun either => either.imp (owed _ nofun) (owed _ nofun)
  | counts => exact ⟨fun _ => .inr (.inl itself), fun _ _ _ => .inr (.inl itself)⟩
  | knows same executed =>
    subst same
    refine ⟨fun awaits => ?_, fun _ _ _ => .inr (.inr itself)⟩
    exact absurd (executed.symm.trans awaits.unpaid) nofun
  | due same pending =>
    subst same
    exact ⟨fun _ => .inr (.inr itself), fun executed => absurd executed pending⟩
  | pends same pending early =>
    subst same
    exact ⟨fun awaits => absurd awaits early, fun executed => absurd executed pending⟩
  | executed execution sends accepted included =>
    have executed := executing _ _ _ sends execution included
    refine ⟨fun awaits => ?_, fun _ _ _ => .inr (.inr itself)⟩
    exact absurd (executed.symm.trans awaits.unpaid) nofun

/-- Whoever comes to report an execution knows of it. -/
theorem reports_goesOn {duty later : Duty} {sent : List (ContractCall × Sent)}
    (turns : Turns treasury next request.id exchange sent duty later) (reports : later = .reports)
    (known : duty = .reports → Executed treasury request.id)
    (executing : ∀ call tx word, exchange = ⟨.writeContract call, tx⟩ → call.function = .executePayment word →
      tx.included = true → Executed next request.id) : Executed next request.id := by
  cases turns with
  | fails duty fails counted => cases reports
  | stays duty same => exact same ▸ known reports
  | drops same => cases reports
  | counts => cases reports
  | knows same executed => exact same ▸ executed
  | due same pending => cases reports
  | pends same pending early => cases reports
  | executed execution sends accepted included => exact executing _ _ _ sends execution included

end Exchanged

section Sparing
variable {treasury next : HouseTreasury} {request : Request} {exchange : Program.Exchange DemoCall DemoCall.Answer}

theorem Does.pending (does : Does world treasury request exchange next) (still : ¬ Executes exchange)
    (unpaid : ¬ Executed treasury request.id) : ¬ Executed next request.id := by
  cases does with
  | nothing same => exact same ▸ unpaid
  | approves env sends done =>
    obtain ⟨-, -, -, -, -, rfl⟩ := HouseTreasury.approvePayment_changes done
    simpa [Executed] using unpaid
  | executes executing => exact absurd executing still

theorem Short.not_awaiting (short : Short treasury request exchange) (does : Does world treasury request exchange next)
    (still : ¬ Executes exchange) : ¬ Awaiting next request.id := by
  intro awaits
  have approved := awaits.approved
  cases does with
  | nothing same =>
    rw [same] at approved
    exact absurd short (not_lt.mpr (le_add_right approved))
  | approves env sends done =>
    rw [Short, sends] at short
    obtain ⟨-, -, -, -, -, rfl⟩ := HouseTreasury.approvePayment_changes done
    simp only [Function.update_self] at approved
    exact absurd short (not_lt.mpr approved)
  | executes executing => exact absurd executing still

/-- The other owner still can, once the one who asked has. -/
theorem Spare.open (spare : Spare world treasury request) (posted : Posted request) (small : request.id < 2 ^ 256)
    (does : Does world treasury request exchange next) (still : ¬ Executes exchange) :
    Open world next request.id := by
  obtain ⟨⟨owner, member, apart, can⟩, room⟩ := spare
  refine ⟨posted.number, posted.positive, small, owner, member, ?_⟩
  cases does with
  | nothing same => exact same ▸ can
  | approves env sends done =>
    obtain ⟨-, -, -, -, -, rfl⟩ := HouseTreasury.approvePayment_changes done
    obtain ⟨listed, known, pending, fresh, counts⟩ := can
    refine ⟨listed, ?_, ?_, (store_of_ne fun same => apart same.2).trans fresh, ?_⟩ <;>
      simp only [Function.update_self]
    · exact known
    · exact pending
    · exact room
  | executes executing => exact absurd executing still

end Sparing

/-- Where a request may be lost, its payment is seen to without it. -/
theorem seenTo_of_spared (site : Site) {others : List Request} {request : Request}
    {exchange : Program.Exchange DemoCall DemoCall.Answer} {next : HouseTreasury} (posted : Posted request)
    (small : request.id < 2 ^ 256) (touches : Touches site.treasury next request.id)
    (does : Does world site.treasury request exchange next)
    (executing : Executes exchange → Executed next request.id)
    (spared : Spared world site request exchange others) :
    SeenTo world next site.tickets others request.id := by
  have owed (duty : Duty) (owed : Owed site.treasury others request.id duty) : Owed next others request.id duty := by
    rwa [Owed, touches.threshold]
  by_cases made : Executed site.treasury request.id ∨ Executes exchange
  · have executed : Executed next request.id := made.elim touches.executed executing
    refine ⟨fun awaits => absurd (executed.symm.trans awaits.unpaid) nofun, fun _ ticket found => ?_⟩
    rcases spared.executed made with told | either
    · exact .inl (told ticket found)
    · exact .inr (either.imp (owed _) (owed _))
  obtain ⟨unpaid, still⟩ := not_or.mp made
  refine ⟨fun awaits => ?_, fun executed => absurd executed (does.pending still unpaid)⟩
  rcases spared.pending unpaid still with short | spare | either
  · exact absurd awaits (short.not_awaiting does still)
  · exact .inl (spare.open posted small does still)
  · exact .inr (either.imp (owed _) (owed _))

theorem sound_awaits (documented : client.Documented) {site : Site} {before after : List Request} {request : Request}
    {exchange : Program.Exchange DemoCall DemoCall.Answer} {rest : Handler Approval} {treasury : HouseTreasury}
    (sound : Sound client world site) (among : site.requests = before ++ request :: after)
    (goes : request.rest.Reaches [exchange] rest)
    (answered : Answered world site.treasury request.sent exchange treasury)
    (careful : Careful world ⟨site, .awaits request exchange (before ++ after),
      ⟨treasury, site.tickets, before ++ request.goesOn exchange rest :: after⟩⟩) :
    Sound client world ⟨treasury, site.tickets, before ++ request.goesOn exchange rest :: after⟩ := by
  have member : request ∈ site.requests := among ▸ mem_middle.mpr (.inl rfl)
  have stands := sound.stands request member
  obtain ⟨standing, touches, turns⟩ := stands.goes documented goes answered
  obtain ⟨small, does⟩ := stands.does documented goes answered
  have executing : ∀ call tx word, exchange = ⟨.writeContract call, tx⟩ →
      call.function = .executePayment word → tx.included = true → Executed treasury request.id := by
    rintro call tx word rfl function included
    rcases careful.executing _ _ _ _ _ rfl function included with made | takes
    · exact touches.executed made
    · exact stands.executed_of_takes documented goes function takes
  have executes : Executes exchange → Executed treasury request.id := by
    obtain ⟨asked, answer⟩ := exchange
    cases asked with
    | writeContract call =>
      exact fun ⟨⟨word, function⟩, included⟩ => executing call answer word rfl function included
    | _ => exact nofun
  constructor
  · intro other other_member
    rcases mem_middle.mp other_member with rfl | elsewhere
    · exact standing
    · exact sound.stands other (among ▸ mem_middle.mpr (.inr elsewhere))
  · intro other other_member
    rcases mem_middle.mp other_member with rfl | elsewhere
    · exact ⟨(sound.posted request member).number, (sound.posted request member).positive⟩
    · exact sound.posted other (among ▸ mem_middle.mpr (.inr elsewhere))
  · intro id
    have seen := sound.seenTo id
    rw [among] at seen
    by_cases apart : id = request.id
    · subst apart
      refine seenTo_goesOn touches turns rfl rfl seen (fun fails counted => ?_) executing
      have spared : Spared world site request exchange (before ++ after) := careful.failing _ _ _ rfl fails counted
      exact seenTo_of_spared site (sound.posted request member) small touches does executes spared
    · exact seenTo_elsewhere touches apart seen
  · intro id ticket found reported
    have executed := sound.tickets id ticket found reported
    by_cases apart : id = request.id
    · exact apart ▸ touches.executed (apart ▸ executed)
    · exact (touches.executed_iff apart).mpr executed
  · intro other other_member reports
    rw [touches.threshold] at reports
    rcases mem_middle.mp other_member with rfl | elsewhere
    · exact reports_goesOn turns reports (sound.reports request member) executing
    · have executed := sound.reports other (among ▸ mem_middle.mpr (.inr elsewhere)) reports
      by_cases apart : other.id = request.id
      · rw [apart] at executed ⊢
        exact touches.executed executed
      · exact (touches.executed_iff apart).mpr executed

theorem sound_responds {site : Site} {before after : List Request} {request : Request} {approval : Approval}
    (sound : Sound client world site) (among : site.requests = before ++ request :: after)
    (returns : request.rest = .done approval)
    (careful : Careful world ⟨site, .responds request approval (before ++ after),
      ⟨site.treasury, recordApproval request.id approval site.tickets, before ++ after⟩⟩) :
    Sound client world
      ⟨site.treasury, recordApproval request.id approval site.tickets, before ++ after⟩ := by
  have member : request ∈ site.requests := among ▸ mem_middle.mpr (.inl rfl)
  have duty := duty_of_done site.treasury.APPROVAL_THRESHOLD returns
  have others : ∀ other ∈ before ++ after, other ∈ site.requests :=
    fun other elsewhere => among ▸ mem_middle.mpr (.inr elsewhere)
  constructor
  · exact fun other elsewhere => sound.stands other (others other elsewhere)
  · exact fun other elsewhere => sound.posted other (others other elsewhere)
  · intro id
    have seen := sound.seenTo id
    rw [among] at seen
    have spared : ∀ duty', duty' ≠ .reports → duty' ≠ .pends →
        Owed site.treasury (before ++ request :: after) id duty' → Owed site.treasury (before ++ after) id duty' := by
      intro duty' reports pends owed
      refine owed_others owed fun _ same => ?_
      rw [duty, Duty.ofApproval] at same
      split at same
      · exact reports same.symm
      · exact pends same.symm
    refine ⟨fun awaits => ?_, fun done ticket found => ?_⟩
    · exact (seen.awaiting awaits).imp_right fun either =>
        either.imp (spared _ (by rintro ⟨⟩) (by rintro ⟨⟩)) (spared _ (by rintro ⟨⟩) (by rintro ⟨⟩))
    by_cases apart : id = request.id
    · subst apart
      rw [findTicketByPaymentId_recordApproval, Option.map_eq_some_iff] at found
      obtain ⟨old, found, rfl⟩ := found
      cases executed : approval.executed with
      | true => exact .inl (reported_approve.mpr executed)
      | false =>
        have pends : request.duty site.treasury.APPROVAL_THRESHOLD = .pends := by
          rw [duty, Duty.ofApproval, if_neg (by simp [executed])]
        rcases careful.responding _ _ _ rfl pends done with none | owed
        · rw [none] at found
          cases found
        · exact .inr owed
    · rw [findTicketByPaymentId_elsewhere apart] at found
      refine (seen.executed done ticket found).imp_right fun either =>
        either.imp (spared _ (by rintro ⟨⟩) (by rintro ⟨⟩)) fun owed => ?_
      exact owed_others owed fun same => absurd same.symm apart
  · intro id ticket found reported
    by_cases apart : id = request.id
    · subst apart
      rw [findTicketByPaymentId_recordApproval, Option.map_eq_some_iff] at found
      obtain ⟨old, -, rfl⟩ := found
      refine sound.reports request member ?_
      rw [duty, Duty.ofApproval, if_pos (reported_approve.mp reported)]
    · rw [findTicketByPaymentId_elsewhere apart] at found
      exact sound.tickets id ticket found reported
  · exact fun other elsewhere => sound.reports other (others other elsewhere)

theorem sound_fails {site : Site} {before after : List Request} {request : Request} {err : Thrown}
    (sound : Sound client world site) (among : site.requests = before ++ request :: after)
    (throws : request.rest = .fail err) : Sound client world { site with requests := before ++ after } := by
  have duty := duty_of_fail site.treasury.APPROVAL_THRESHOLD throws
  have others : ∀ other ∈ before ++ after, other ∈ site.requests :=
    fun other elsewhere => among ▸ mem_middle.mpr (.inr elsewhere)
  constructor
  · exact fun other elsewhere => sound.stands other (others other elsewhere)
  · exact fun other elsewhere => sound.posted other (others other elsewhere)
  · intro id
    have seen := sound.seenTo id
    rw [among] at seen
    have spared : ∀ duty', duty' ≠ .gone → Owed site.treasury (before ++ request :: after) id duty' →
        Owed site.treasury (before ++ after) id duty' :=
      fun duty' owes owed => owed_others owed fun _ same => owes (same.symm.trans duty)
    refine ⟨fun awaits => ?_, fun done ticket found => ?_⟩
    · exact (seen.awaiting awaits).imp_right fun either => either.imp (spared _ nofun) (spared _ nofun)
    · exact (seen.executed done ticket found).imp_right fun either => either.imp (spared _ nofun) (spared _ nofun)
  · exact sound.tickets
  · exact fun other elsewhere => sound.reports other (others other elsewhere)

theorem sound_step (documented : client.Documented) (before : Site) (event : Event) (after : Site)
    (sound : Sound client world before) (careful : Careful world ⟨before, event, after⟩)
    (step : Step client world before event after) : Sound client world after := by
  cases step with
  | post known number positive => exact sound_post sound _ number positive
  | awaits among goes answered => exact sound_awaits documented sound among goes answered careful
  | responds among returns => exact sound_responds sound among returns careful
  | fails among throws => exact sound_fails sound among throws

end Runs

/-! ## Recovering -/

section Recovery
variable {client : Client} {world : DemoAddresses} {site : Site} {id : ℕ}

/-- Nobody approved yet, and the one who posted may still, or cannot. -/
def Unapproved (client : Client) (world : DemoAddresses) (treasury : HouseTreasury) (owner : DemoActor) (id : ℕ)
    (site : Site) : Prop :=
  site.treasury = treasury ∧ ∀ request ∈ site.requests,
    (∃ err, request.rest = .fail err) ∨ request.rest = doApprove client world owner id

/-- Whoever cannot approve changes nothing, however often. -/
theorem unapproved_step {treasury : HouseTreasury} {owner : DemoActor} (documented : client.Documented)
    (closed : ¬ (id < 2 ^ 256 ∧ CanApprove treasury (world.actorAddress owner) id)) (before : Site) (event : Event)
    (after : Site) (unapproved : Unapproved client world treasury owner id before) (others : ¬ event.IsPost)
    (step : Step client world before event after) : Unapproved client world treasury owner id after := by
  obtain ⟨same, requests⟩ := unapproved
  cases step with
  | post known number positive => exact absurd trivial others
  | responds among returns =>
    refine ⟨same, fun request member => requests request ?_⟩
    exact among ▸ mem_middle.mpr (.inr member)
  | fails among throws =>
    refine ⟨same, fun request member => requests request ?_⟩
    exact among ▸ mem_middle.mpr (.inr member)
  | @awaits request front back exchange rest next among goes answered =>
    rcases requests request (among ▸ mem_middle.mpr (.inl rfl)) with ⟨err, failed⟩ | asks
    · rw [failed] at goes
      cases goes
    rw [asks] at goes
    cases encoding : client.encodeUint256 id with
    | error err =>
      have approval : approvalOf client id = .error err := by
        rw [approvalOf, encoding]
        rfl
      rw [doApprove, approval] at goes
      cases goes
    | ok word =>
      have value := Encoded.toNat documented encoding
      rw [doApprove_simulates encoding] at goes
      rcases simulating_goes goes with ⟨err, rfl, rfl⟩ | ⟨result, rfl, rfl⟩
      · obtain rfl := asking_changes_nothing answered (fun _ => by rintro ⟨⟩)
        refine ⟨same, fun other member => ?_⟩
        rcases mem_middle.mp member with rfl | elsewhere
        · exact .inl ⟨err, rfl⟩
        · exact requests other (among ▸ mem_middle.mpr (.inr elsewhere))
      · rw [same] at answered
        cases answered with
        | simulated takes result =>
          cases takes with
          | approves done =>
            rw [value] at done
            exact absurd ⟨value ▸ word.isLt, canApprove_of_approvePayment done⟩ closed

theorem open_of_recoverable (documented : client.Documented) (idle : site.requests = [])
    (awaits : Awaiting site.treasury id) (recoverable : Recoverable client world site id) :
    Open world site.treasury id := by
  obtain ⟨owner, posted, post, log, last, trace, others, executed⟩ := recoverable
  cases post with
  | post known number positive =>
    by_contra closed
    have unapproved : Unapproved client world site.treasury owner id
        { site with requests := site.requests ++ [⟨owner, id, doApprove client world owner id, []⟩] } := by
      refine ⟨rfl, fun request member => ?_⟩
      rw [idle, List.nil_append, List.mem_singleton] at member
      exact .inr (by rw [member])
    have closed' : ¬ (id < 2 ^ 256 ∧ CanApprove site.treasury (world.actorAddress owner) id) :=
      fun ⟨word, can⟩ => closed ⟨number, positive, word, owner, known, can⟩
    obtain ⟨⟨same, -⟩, -⟩ := trace.preserves_along (unapproved_step documented closed') unapproved others
    rw [same] at executed
    exact absurd (executed.symm.trans awaits.unpaid) nofun

theorem Awaiting.executePayment {treasury : HouseTreasury} (awaits : Awaiting treasury id) :
    ∃ next request, treasury.executePayment id = .ok (next, request) := by
  obtain ⟨known, approved, unpaid⟩ := awaits
  simp only [HouseTreasury.executePayment, revertIf, known, unpaid, not_lt.mpr approved]
  exact ⟨_, _, rfl⟩

/-- The last approval. -/
theorem awaiting_of_due {treasury next : HouseTreasury} {env : Env} {owner : Address}
    (done : treasury.approvePayment env owner id = .ok next)
    (due : treasury.APPROVAL_THRESHOLD ≤ (treasury.payments id).approvals + 1) : Awaiting next id := by
  obtain ⟨-, -, known, pending, -, rfl⟩ := HouseTreasury.approvePayment_changes done
  constructor <;> simp only [Function.update_self]
  · exact known
  · exact due
  · exact pending

theorem Awaiting.approve {treasury next : HouseTreasury} {env : Env} {owner : Address} (awaits : Awaiting treasury id)
    (done : treasury.approvePayment env owner id = .ok next) : Awaiting next id :=
  awaiting_of_due done (le_add_right awaits.approved)

/-- Whatever goes well may happen. -/
def AllowsSuccess (world : DemoAddresses) (May : Entry Site Event → Prop) : Prop :=
  ∀ before request exchange others after, ¬ Fails exchange →
    (∀ call tx, exchange = ⟨.writeContract call, tx⟩ → Takes world before.treasury call after.treasury) →
      May ⟨before, .awaits request exchange others, after⟩

section Serving
variable {treasury next : HouseTreasury} {tickets : List DemoTicket} {owner : DemoActor}
  {May : Entry Site Event → Prop} {Ends : Site → Prop}

theorem leads_of_step {before after : Site} {event : Event} (step : Step client world before event after)
    (may : May ⟨before, event, after⟩) (later : Leads client world May after Ends) :
    Leads client world May before Ends := by
  obtain ⟨log, last, trace, allowed, ends⟩ := later
  refine ⟨_, last, .cons step trace, fun entry member => ?_, ends⟩
  rcases List.mem_cons.mp member with rfl | further
  · exact may
  · exact allowed entry further

/-- A request alone is answered. -/
theorem leads_of_awaits {request : Request} {exchange : Program.Exchange DemoCall DemoCall.Answer}
    {rest : Handler Approval} (goes : request.rest.Reaches [exchange] rest)
    (answered : Answered world treasury request.sent exchange next)
    (may : May ⟨⟨treasury, tickets, [request]⟩, .awaits request exchange [],
      ⟨next, tickets, [request.goesOn exchange rest]⟩⟩)
    (later : Leads client world May ⟨next, tickets, [request.goesOn exchange rest]⟩ Ends) :
    Leads client world May ⟨treasury, tickets, [request]⟩ Ends :=
  leads_of_step
    (@Step.awaits client world ⟨treasury, tickets, [request]⟩ request [] [] exchange rest next rfl goes answered)
    may later

/-- A transaction that goes well. -/
def confirmedTx : Sent where
  hash := text "0x01"
  named := by decide
  rejected := none
  included := true

theorem not_fails_confirmedTx (call : ContractCall) : ¬ Fails ⟨.writeContract call, confirmedTx⟩ := by
  rintro (rejected | excluded)
  · exact rejected rfl
  · cases excluded

/-- A call that the treasury takes is answered without a failure. -/
theorem leads_of_takes (allows : AllowsSuccess world May) {sent : List (ContractCall × Sent)} {call : ContractCall}
    {resume : JsString → Handler Approval} (takes : Takes world treasury call next)
    (later : ∀ sent', Leads client world May
      ⟨next, tickets, [⟨owner, id, resume confirmedTx.hash, sent'⟩]⟩ Ends) :
    Leads client world May ⟨treasury, tickets, [⟨owner, id, simulating call resume, sent⟩]⟩ Ends := by
  refine leads_of_awaits (.call (.refl _)) (.simulated takes 0) (allows _ _ _ _ _ (fun fails => fails) ?_) ?_
  · rintro other tx ⟨⟩
  refine leads_of_awaits (.call (.refl _)) (@Answered.taken _ _ _ _ _ takes confirmedTx rfl)
    (allows _ _ _ _ _ (not_fails_confirmedTx call) ?_) ?_
  · rintro other tx same
    cases same
    exact takes
  refine leads_of_awaits (.call (.refl _)) (.confirmed List.getLast?_concat rfl)
    (allows _ _ _ _ _ (fun fails => fails) ?_) ?_
  · rintro other tx ⟨⟩
  exact later _

theorem leads_of_reads (allows : AllowsSuccess world May) {sent : List (ContractCall × Sent)} {read : Read}
    {value : read.Value} {resume : read.Value → Handler Approval}
    (answered : Answered world treasury sent ⟨.readContract read, .ok value⟩ treasury)
    (later : ∀ sent', Leads client world May ⟨treasury, tickets, [⟨owner, id, resume value, sent'⟩]⟩ Ends) :
    Leads client world May ⟨treasury, tickets, [⟨owner, id, readContract read >>= resume, sent⟩]⟩ Ends := by
  refine leads_of_awaits (.call (.refl _)) answered (allows _ _ _ _ _ (fun fails => fails) ?_) (later _)
  rintro other tx ⟨⟩

/-- The last owner approves, and the request turns to the execution. -/
theorem leads_to_execution (documented : client.Documented) (allows : AllowsSuccess world May) (small : id < 2 ^ 256)
    (can : CanApprove treasury (world.actorAddress owner) id)
    (due : treasury.APPROVAL_THRESHOLD ≤ (treasury.payments id).approvals + 1)
    (later : ∀ approved word payment sent,
      treasury.approvePayment welcoming (world.actorAddress owner) id = .ok approved → Encoded client id word →
      Leads client world May ⟨approved, tickets, [⟨owner, id, simulating (executionCall world word)
        (executedWith payment confirmedTx.hash), sent⟩]⟩ Ends) :
    Leads client world May ⟨treasury, tickets, [⟨owner, id, doApprove client world owner id, []⟩]⟩ Ends := by
  obtain ⟨word, encoded⟩ := documented.fits id (by omega) (by exact_mod_cast small)
  have value : word.toNat = id := Encoded.toNat documented encoded
  obtain ⟨approved, approves⟩ := can.approvePayment
  have takes : Takes world treasury (approvalCall world owner word) approved :=
    .approves (by rw [value]; exact approves)
  rw [doApprove_simulates encoded]
  refine leads_of_takes allows takes fun sent => ?_
  refine leads_of_reads allows (.payment id) fun sent => ?_
  refine leads_of_reads allows .threshold fun sent => ?_
  have awaits := awaiting_of_due approves due
  rw [executeIfDue_due encoded ⟨awaits.unpaid, awaits.approved⟩]
  exact later approved word _ sent approves encoded

end Serving

theorem allowsSuccess_others : AllowsSuccess world fun entry => ¬ entry.event.IsPost :=
  fun _ _ _ _ _ _ _ post => post

theorem recoverable_of_open (documented : client.Documented) (idle : site.requests = [])
    (awaits : Awaiting site.treasury id) (approvable : Open world site.treasury id) :
    Recoverable client world site id := by
  obtain ⟨number, positive, small, owner, known, can⟩ := approvable
  refine ⟨owner, _, .post known number positive, ?_⟩
  rw [idle, List.nil_append]
  refine leads_to_execution documented allowsSuccess_others small can (le_add_right awaits.approved) ?_
  intro approved word payment sent approves encoded
  obtain ⟨paid, request, executes⟩ := (awaits.approve approves).executePayment
  have value : word.toNat = id := Encoded.toNat documented encoded
  have takes : Takes world approved (executionCall world word) paid := .executes (by rw [value]; exact executes)
  have executed := (touches_of_executePayment executes).2
  exact leads_of_takes allowsSuccess_others takes fun sent' => ⟨[], _, .nil _, by simp, executed⟩

end Recovery

/-! ## The whole run -/

section Whole
variable {client : Client} {world : DemoAddresses} {start last : Site} {log : List (Entry Site Event)}

theorem sound_of_settled (documented : client.Documented) {site : Site} (settled : Settled client world site) :
    Sound client world site := by
  obtain ⟨idle, unstuck, agrees⟩ := settled
  constructor
  · rw [idle]
    exact nofun
  · rw [idle]
    exact nofun
  · intro id
    refine ⟨fun awaits => .inl (open_of_recoverable documented idle awaits (unstuck id awaits)), ?_⟩
    exact fun executed ticket found => .inl ((agrees id ticket found).mpr executed)
  · exact fun id ticket found => (agrees id ticket found).mp
  · rw [idle]
    exact nofun

theorem settled_of_sound (documented : client.Documented) {site : Site} (sound : Sound client world site)
    (idle : site.requests = []) : Settled client world site := by
  have nobody : ∀ id duty, ¬ Owed site.treasury site.requests id duty := by
    rintro id duty ⟨request, member, -⟩
    rw [idle] at member
    cases member
  refine ⟨idle, fun id awaits => ?_, fun id ticket found => ⟨sound.tickets id ticket found, fun executed => ?_⟩⟩
  · rcases (sound.seenTo id).awaiting awaits with approvable | owed | owed
    · exact recoverable_of_open documented idle awaits approvable
    · exact absurd owed (nobody _ _)
    · exact absurd owed (nobody _ _)
  · rcases (sound.seenTo id).executed executed ticket found with reported | owed | owed
    · exact reported
    · exact absurd owed (nobody _ _)
    · exact absurd owed (nobody _ _)

/-- **Approvals.** However the requests go on in turn, a run whose every step is
careful leaves no payment stuck, and tickets that say what was executed. -/
theorem careful_approvals_leave_nothing_stuck (documented : client.Documented)
    (settled : Settled client world start) (trace : Trace (Step client world) start log last)
    (careful : ∀ entry ∈ log, Careful world entry) (quiet : last.requests = []) : Settled client world last := by
  have sound := (trace.preserves_along (sound_step documented) (sound_of_settled documented settled) careful).1
  exact settled_of_sound documented sound quiet

end Whole

/-- A payment that one of the two owners approved. -/
def halfApproved : HouseTreasury where
  SPEND_TOKEN := demoWorld.musd
  ELIGIBILITY_GATE := 31
  IDENTITY_RESOLVER := 32
  POLICY_ID := 1
  HOUSE_TOKEN := demoWorld.casa
  owners := OWNERS.map demoWorld.actorAddress
  isOwner owner := owner ∈ OWNERS.map demoWorld.actorAddress
  APPROVAL_THRESHOLD := 2
  mandate := ⟨demoWorld.actorAddress .concierge, 1000, 0, false⟩
  nextPaymentId := 2
  payments := Function.update (fun _ => .none) 1 ⟨demoWorld.actorAddress .plumber, 100, 0, 1, false⟩
  approvedBy := store (fun _ _ => false) 1 (demoWorld.actorAddress .operator) true

def pendingTicket : DemoTicket where
  id := firstId
  description := text "leak"
  category := text "plumbing"
  vendor := addressText (demoWorld.actorAddress .plumber)
  decision := ⟨text "propose", text "over the cap", firstId⟩
  evidenceHash := 0
  txHashes := [text "0xaa"]
  refusal := none
  settleError := none
  paid := false
  paymentId := some 1
  status := text "pending-approval"

def pendingSite : Site := ⟨halfApproved, [pendingTicket], []⟩

theorem settled_of_early {treasury : HouseTreasury} (elsewhere : ∀ id, id ≠ 1 → treasury.payments id = .none)
    (unpaid : (treasury.payments 1).executed = false)
    (early : (treasury.payments 1).approvals < treasury.APPROVAL_THRESHOLD) :
    Settled Library.client demoWorld ⟨treasury, [pendingTicket], []⟩ := by
  have unexecuted : ∀ id, ¬ Executed treasury id := by
    intro id executed
    by_cases first : id = 1
    · subst first
      exact absurd (executed.symm.trans unpaid) nofun
    · rw [Executed, elsewhere id first] at executed
      cases executed
  refine ⟨rfl, fun id awaits => ?_, fun id ticket found => ?_⟩
  · by_cases first : id = 1
    · subst first
      exact absurd awaits.approved (not_le.mpr early)
    · exact absurd (congrArg PendingPayment.vendor (elsewhere id first)) awaits.known
  · have same : ticket = pendingTicket := List.mem_singleton.mp (List.mem_of_find?_eq_some found)
    subst same
    exact ⟨fun reported => absurd reported.2 Bool.false_ne_true, fun executed => absurd executed (unexecuted id)⟩

theorem halfApproved_settled : Settled Library.client demoWorld pendingSite :=
  settled_of_early (fun id apart => by simp [halfApproved, apart]) (by decide) (by decide)

theorem ana_can_approve : CanApprove halfApproved (demoWorld.actorAddress .ana) 1 := by
  constructor <;> decide +kernel

theorem one_is_a_number : toDouble ((1 : ℕ) : ℚ) = some ((1 : ℕ) : ℚ) := by decide +kernel

/-- Ana's approval, if its last step is not yet taken. -/
theorem ana_posts : Step Library.client demoWorld pendingSite (.post .ana 1)
    ⟨halfApproved, [pendingTicket], [⟨.ana, 1, doApprove Library.client demoWorld .ana 1, []⟩]⟩ :=
  .post (by decide) one_is_a_number le_rfl

/-- The treasury lacks the money, so that the execution cannot be simulated. -/
def tooPoor : Thrown := ⟨none, text "The contract function \"executePayment\" reverted.", []⟩

theorem ana_approves_last {approved : HouseTreasury}
    (approves : halfApproved.approvePayment welcoming (demoWorld.actorAddress .ana) 1 = .ok approved) :
    Awaiting approved 1 ∧ ¬ Open demoWorld approved 1 := by
  obtain ⟨-, -, -, -, -, rfl⟩ := HouseTreasury.approvePayment_changes approves
  refine ⟨⟨by decide, by decide, rfl⟩, ?_⟩
  rintro ⟨-, -, -, owner, member, can⟩
  rcases List.mem_pair.mp member with rfl | rfl
  · exact absurd can.fresh (by decide)
  · exact absurd can.fresh (by decide)

/-- Both owners have approved the payment, and nobody can execute it any more. -/
theorem unfunded_execution_stays_stuck : ∃ start log last, Settled Library.client demoWorld start ∧
    Trace (Step Library.client demoWorld) start log last ∧ last.requests = [] ∧
      ∃ id, Awaiting last.treasury id ∧ ¬ Recoverable Library.client demoWorld last id := by
  have leads : Leads Library.client demoWorld (fun _ => True) pendingSite fun last => last.requests = [] ∧
      Awaiting last.treasury 1 ∧ ¬ Open demoWorld last.treasury 1 := by
    refine leads_of_step ana_posts trivial ?_
    refine leads_to_execution Library.documented (fun _ _ _ _ _ _ _ => trivial) (by decide) ana_can_approve le_rfl ?_
    intro approved word payment sent approves encoded
    refine leads_of_awaits (.call (.refl _)) (.unsimulated _ tooPoor) trivial ?_
    refine leads_of_step (@Step.fails _ _ _ _ [] [] tooPoor rfl rfl) trivial ?_
    exact ⟨[], _, .nil _, by simp, rfl, ana_approves_last approves⟩
  obtain ⟨log, last, trace, -, idle, awaits, closed⟩ := leads
  exact ⟨pendingSite, log, last, halfApproved_settled, trace, idle, 1, awaits,
    fun recoverable => closed (open_of_recoverable Library.documented idle awaits recoverable)⟩

theorem allowsSuccess_careful (world : DemoAddresses) : AllowsSuccess world (Careful world) := by
  intro before request exchange others after succeeds taking
  constructor
  · rintro _ _ _ ⟨⟩ fails
    exact absurd fails succeeds
  · rintro _ call tx _ word ⟨⟩ - -
    exact .inr (taking call tx rfl)
  · rintro _ _ _ ⟨⟩

theorem careful_post (world : DemoAddresses) (before after : Site) (owner : DemoActor) (id : ℕ) :
    Careful world ⟨before, .post owner id, after⟩ := by
  constructor
  · rintro _ _ _ ⟨⟩
  · rintro _ _ _ _ _ ⟨⟩
  · rintro _ _ _ ⟨⟩

theorem careful_responds (world : DemoAddresses) {before after : Site} {request : Request} {others : List Request}
    {approval : Approval} (returns : request.rest = .done approval) (executed : approval.executed = true) :
    Careful world ⟨before, .responds request approval others, after⟩ := by
  constructor
  · rintro _ _ _ ⟨⟩
  · rintro _ _ _ _ _ ⟨⟩
  · rintro _ _ _ ⟨⟩ pends
    rw [duty_of_done _ returns, Duty.ofApproval, if_pos executed] at pends
    cases pends

/-- A payment that nobody approved yet. -/
def unapproved : HouseTreasury :=
  { halfApproved with
    payments := Function.update (fun _ => .none) 1 ⟨demoWorld.actorAddress .plumber, 100, 0, 0, false⟩
    approvedBy := fun _ _ => false }

theorem unapproved_settled : Settled Library.client demoWorld ⟨unapproved, [pendingTicket], []⟩ :=
  settled_of_early (fun id apart => by simp [unapproved, apart]) (by decide) (by decide)

theorem careful_fails (world : DemoAddresses) (before after : Site) (request : Request) (others : List Request) :
    Careful world ⟨before, .fails request others, after⟩ := by
  constructor
  · rintro _ _ _ ⟨⟩
  · rintro _ _ _ _ _ ⟨⟩
  · rintro _ _ _ ⟨⟩

/-- A receipt that never comes, while another approval is missing. -/
theorem careful_unconfirmed (world : DemoAddresses) {before after : Site} {request : Request} {others : List Request}
    {hash : JsString} {err : Thrown} (pending : (before.treasury.payments request.id).executed = false)
    (early : (before.treasury.payments request.id).approvals < before.treasury.APPROVAL_THRESHOLD) :
    Careful world ⟨before, .awaits request ⟨.waitForTransactionReceipt hash, .error err⟩ others, after⟩ := by
  constructor
  · rintro _ _ _ ⟨⟩ - -
    refine ⟨fun _ _ => .inl early, ?_⟩
    rintro (executed | executes)
    · exact absurd (executed.symm.trans pending) nofun
    · exact executes.elim
  · rintro _ _ _ _ _ ⟨⟩
  · rintro _ _ _ ⟨⟩

/-- The operator's approval is included, and its receipt never comes. -/
theorem operator_is_lost {Ends : Site → Prop} :
    ∃ approved, unapproved.approvePayment welcoming (demoWorld.actorAddress .operator) 1 = .ok approved ∧
      (Leads Library.client demoWorld (Careful demoWorld) ⟨approved, [pendingTicket], []⟩ Ends →
        Leads Library.client demoWorld (Careful demoWorld) ⟨unapproved, [pendingTicket], []⟩ Ends) := by
  have can : CanApprove unapproved (demoWorld.actorAddress .operator) 1 := by
    constructor <;> decide +kernel
  obtain ⟨approved, approves⟩ := can.approvePayment
  obtain ⟨word, encoded⟩ := Library.documented.fits 1 (by decide) (by decide)
  have takes : Takes demoWorld unapproved (approvalCall demoWorld .operator word) approved :=
    .approves (by rw [Encoded.toNat Library.documented encoded]; exact approves)
  have success := allowsSuccess_careful demoWorld
  refine ⟨approved, approves, fun later => ?_⟩
  refine leads_of_step (.post (by decide) one_is_a_number le_rfl) (careful_post _ _ _ .operator 1) ?_
  rw [doApprove_simulates encoded]
  refine leads_of_awaits (.call (.refl _)) (.simulated takes 0) (success _ _ _ _ _ id (by rintro _ _ ⟨⟩)) ?_
  refine leads_of_awaits (.call (.refl _)) (@Answered.taken _ _ _ _ _ takes confirmedTx rfl)
    (success _ _ _ _ _ (not_fails_confirmedTx _) (by rintro _ _ same; cases same; exact takes)) ?_
  have one : approved.payments 1 = ⟨demoWorld.actorAddress .plumber, 100, 0, 1, false⟩ := by
    rw [(HouseTreasury.approvePayment_changes approves).changed]
    decide
  have two : approved.APPROVAL_THRESHOLD = 2 := by rw [(HouseTreasury.approvePayment_changes approves).changed]; rfl
  refine leads_of_awaits (.call (.refl _)) (.unconfirmed _ tooPoor) (careful_unconfirmed _ ?_ ?_) ?_
  · exact congrArg PendingPayment.executed one
  · exact (congrArg PendingPayment.approvals one).trans_lt (two ▸ Nat.one_lt_two)
  exact leads_of_step (@Step.fails _ _ _ _ [] [] tooPoor rfl rfl) (careful_fails _ _ _ _ _) later

/-- With the money there, the last approval executes the payment. -/
theorem ana_executes {treasury : HouseTreasury} (can : CanApprove treasury (demoWorld.actorAddress .ana) 1)
    (due : treasury.APPROVAL_THRESHOLD ≤ (treasury.payments 1).approvals + 1) :
    Leads Library.client demoWorld (Careful demoWorld) ⟨treasury, [pendingTicket], []⟩ fun last =>
      last.requests = [] ∧ Executed last.treasury 1 := by
  refine leads_of_step (.post (by decide) one_is_a_number le_rfl) (careful_post _ _ _ .ana 1) ?_
  refine leads_to_execution Library.documented (allowsSuccess_careful _) (by decide) can due ?_
  intro approved word payment sent approves encoded
  obtain ⟨paid, request, executes⟩ := (awaiting_of_due approves due).executePayment
  have takes : Takes demoWorld approved (executionCall demoWorld word) paid :=
    .executes (by rw [Encoded.toNat Library.documented encoded]; exact executes)
  refine leads_of_takes (allowsSuccess_careful _) takes fun sent => ?_
  refine leads_of_step (@Step.responds _ _ _ _ [] [] _ rfl rfl) (careful_responds _ rfl rfl) ?_
  exact ⟨[], _, .nil _, by simp, rfl, (touches_of_executePayment executes).2⟩

/-- What the operator's request left is executed by the next. -/
theorem funded_execution_is_reported :
    ∃ log last, Trace (Step Library.client demoWorld) ⟨unapproved, [pendingTicket], []⟩ log last ∧
      Settled Library.client demoWorld last ∧ Executed last.treasury 1 := by
  obtain ⟨approved, approves, lost⟩ := operator_is_lost
  have changed := (HouseTreasury.approvePayment_changes approves).changed
  have can : CanApprove approved (demoWorld.actorAddress .ana) 1 := by
    rw [changed]
    constructor <;> decide +kernel
  have due : approved.APPROVAL_THRESHOLD ≤ (approved.payments 1).approvals + 1 := by
    rw [changed]
    decide
  obtain ⟨log, last, trace, careful, idle, executed⟩ := lost (ana_executes can due)
  exact ⟨log, last, trace, careful_approvals_leave_nothing_stuck Library.documented unapproved_settled trace careful
    idle, executed⟩

end PassportKit.PaymentApprovals
