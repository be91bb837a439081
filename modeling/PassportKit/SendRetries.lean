import PassportKit.HeroService

/-! How often a transaction that is sent again lands. What is tried covers the wait for
the receipt, and an error is judged by its text: a transaction that stands and whose
sender is told of such an error is sent once more. -/
namespace PassportKit.Hero
open Evm Interaction
open Js (JsString text)
open Refusals (Thrown)

/-- What became of an attempt: whether the transaction is ever included, and what was thrown. -/
structure Outcome where
  included : Bool
  error : Option Thrown

/-- The transaction landed, and the error reads like one after which it may be sent again. -/
def Outcome.Misreported (outcome : Outcome) : Prop :=
  outcome.included = true ∧ ∃ err, outcome.error = some err ∧ retryable err.message = true

/-- No attempt that landed ends like that. -/
def Honest (May : Outcome → Prop) : Prop := ∀ outcome, May outcome → ¬ outcome.Misreported

/-- The outcome of the attempt that starts with this answer, once it has one. -/
def ended (sent : Sent) (rest : List Exchange) : List Outcome :=
  match sent.rejected, rest with
  | some err, _ => [⟨sent.included.isSome, some err⟩]
  | none, ⟨.waitForTransactionReceipt _, .error err⟩ :: _ => [⟨sent.included.isSome, some err⟩]
  | none, ⟨.waitForTransactionReceipt _, .ok _⟩ :: _ => [⟨sent.included.isSome, none⟩]
  | none, _ => []

/-- How the attempts at a transaction ended. -/
def outcomes (transaction : Transaction) : List Exchange → List Outcome
  | [] => []
  | ⟨.send sending, sent⟩ :: rest =>
    (if sending = transaction then ended sent rest else []) ++ outcomes transaction rest
  | _ :: rest => outcomes transaction rest

/-- The transaction is sent here, and included. -/
def Lands (transaction : Transaction) : Exchange → Bool
  | ⟨.send sending, sent⟩ => sending = transaction ∧ sent.included.isSome
  | _ => false

/-- How often a transaction landed. -/
def landed (transaction : Transaction) (trace : List Exchange) : ℕ := trace.countP (Lands transaction)

/-- Wherever a run stands whose attempts ended in these ways, the transaction landed once at most. -/
def AtMostOnce {α : Type} (May : Outcome → Prop) (transaction : Transaction) (program : Handler α) : Prop :=
  ∀ trace later, program.Reaches trace later → (∀ outcome ∈ outcomes transaction trace, May outcome) →
    landed transaction trace ≤ 1

section Traces
variable {transaction : Transaction} {first second : List Exchange}

def Quiet (transaction : Transaction) (trace : List Exchange) : Prop :=
  ∀ exchange ∈ trace, exchange.1 ≠ .send transaction

theorem landed_append : landed transaction (first ++ second) = landed transaction first + landed transaction second :=
  List.countP_append

theorem outcomes_quiet_append (quiet : Quiet transaction first) :
    outcomes transaction (first ++ second) = outcomes transaction second := by
  induction first with
  | nil => rfl
  | cons exchange rest ih =>
    have later := ih fun other member => quiet other (List.mem_cons_of_mem _ member)
    obtain ⟨request, answer⟩ := exchange
    cases request with
    | send sending =>
      have other : sending ≠ transaction := by
        rintro rfl
        exact quiet _ List.mem_cons_self rfl
      rw [List.cons_append, outcomes, if_neg other]
      exact later
    | _ => exact later

theorem landed_quiet (quiet : Quiet transaction first) : landed transaction first = 0 := by
  refine List.countP_eq_zero.mpr fun exchange member => ?_
  have other := quiet exchange member
  obtain ⟨request, answer⟩ := exchange
  cases request with
  | send sending => simpa [Lands] using fun same => absurd (congrArg ViemCall.send same) other
  | _ => simp [Lands]

end Traces

section Programs
variable {α β : Type} {May : Outcome → Prop} {transaction : Transaction} {first : Handler α}
  {rest : α → Handler β}

theorem AtMostOnce.of_quiet (quiet : first.Calls (· ≠ .send transaction)) : AtMostOnce May transaction first := by
  intro trace later reaches _
  rw [landed_quiet (quiet.of_reaches reaches)]
  exact Nat.zero_le 1

/-- Behind what does not send the transaction, only the rest counts. -/
theorem atMostOnce_bind (quiet : first.Calls (· ≠ .send transaction)) :
    AtMostOnce May transaction (first >>= rest) ↔
      ∀ before value, first.Returns before value → AtMostOnce May transaction (rest value) := by
  constructor
  · intro once before value returns trace later reaches allowed
    have silent : Quiet transaction before := quiet.of_reaches returns
    have whole := once (before ++ trace) later
      (Program.reaches_bind.mpr (.inr ⟨before, trace, value, rfl, returns, reaches⟩))
      (by rwa [outcomes_quiet_append silent])
    rwa [landed_append, landed_quiet silent, Nat.zero_add] at whole
  · intro once trace later reaches allowed
    rcases Program.reaches_bind.mp reaches with
      ⟨middle, inside, -⟩ | ⟨before, after, value, rfl, returns, outside⟩
    · exact AtMostOnce.of_quiet quiet trace middle inside allowed
    · have silent : Quiet transaction before := quiet.of_reaches returns
      rw [outcomes_quiet_append silent] at allowed
      rw [landed_append, landed_quiet silent, Nat.zero_add]
      exact once before value returns after later outside allowed

/-- What is made of the result sends nothing. -/
theorem atMostOnce_map {f : α → β} :
    AtMostOnce May transaction (first >>= fun value => pure (f value)) ↔ AtMostOnce May transaction first := by
  constructor
  · exact fun once trace later reaches => once trace _ (Program.reaches_map.mpr ⟨later, reaches, rfl⟩)
  · intro once trace later reaches
    obtain ⟨middle, inside, -⟩ := Program.reaches_map.mp reaches
    exact once trace middle inside

end Programs

section Retries
variable {May : Outcome → Prop} {transaction : Transaction} {trace : List Exchange} {err : Thrown} {further : ℕ}
  {later : Handler JsString}

/-- What is left of an attempt once the transaction is sent. -/
def waitFor (sent : Sent) : Handler JsString :=
  match sent.rejected with
  | some err => .fail err
  | none => do
    let _ ← waitForTransactionReceipt sent.hash
    delay 2000
    pure sent.hash

theorem sendAndWait_send : sendAndWait (send transaction) = .call (.send transaction) waitFor := by
  have same (sent : Sent) : (match sent.rejected with
      | some err => Program.fail err
      | none => Program.done sent.hash : Handler JsString) >>= (fun hash => do
        let _ ← waitForTransactionReceipt hash
        delay 2000
        pure hash) = waitFor sent := by
    rw [waitFor]
    cases sent.rejected <;> rfl
  exact congrArg (Program.call (ViemCall.send transaction)) (funext same)

theorem waitFor_quiet (sent : Sent) : (waitFor sent).Calls (· ≠ .send transaction) := by
  rw [waitFor]
  cases sent.rejected with
  | some err => trivial
  | none =>
    refine ⟨nofun, fun answer => ?_⟩
    cases answer with
    | error err => trivial
    | ok status => exact ⟨nofun, fun _ => trivial⟩

/-- An attempt is nothing yet, or the sending and then no other. -/
theorem sendAndWait_trace (reaches : (sendAndWait (send transaction)).Reaches trace later) :
    trace = [] ∨ ∃ sent rest, trace = ⟨.send transaction, sent⟩ :: rest ∧ Quiet transaction rest := by
  rw [sendAndWait_send] at reaches
  rcases Program.reaches_call.mp reaches with ⟨rfl, -⟩ | ⟨sent, rest, rfl, waiting⟩
  · exact .inl rfl
  · exact .inr ⟨sent, rest, rfl, (waitFor_quiet sent).of_reaches waiting⟩

theorem landed_cons_quiet {sent : Sent} {rest : List Exchange} (quiet : Quiet transaction rest) :
    landed transaction (⟨.send transaction, sent⟩ :: rest) = if sent.included.isSome then 1 else 0 := by
  rw [← List.singleton_append, landed_append, landed_quiet quiet, landed, List.countP_singleton, Nat.add_zero]
  simp [Lands]

theorem landed_attempt (reaches : (sendAndWait (send transaction)).Reaches trace later) :
    landed transaction trace ≤ 1 := by
  rcases sendAndWait_trace reaches with rfl | ⟨sent, rest, rfl, quiet⟩
  · exact Nat.zero_le 1
  · rw [landed_cons_quiet quiet]
    split <;> simp

/-- An attempt that throws has an outcome, whatever comes after it. -/
theorem outcomes_thrown (more : List Exchange) (thrown : (sendAndWait (send transaction)).Throws trace err) :
    ∃ included : Bool, landed transaction trace = (if included then 1 else 0) ∧
      outcomes transaction (trace ++ more) = ⟨included, some err⟩ :: outcomes transaction more := by
  rw [sendAndWait_send] at thrown
  rcases Program.reaches_call.mp thrown with ⟨-, same⟩ | ⟨sent, rest, rfl, waiting⟩
  · cases same
  refine ⟨sent.included.isSome, landed_cons_quiet ((waitFor_quiet sent).of_reaches waiting), ?_⟩
  rw [List.cons_append, outcomes, if_pos rfl]
  rw [waitFor] at waiting
  cases rejected : sent.rejected with
  | some refusal =>
    rw [rejected] at waiting
    obtain ⟨rfl, same⟩ := Program.reaches_fail.mp waiting
    cases same
    simp [ended, rejected]
  | none =>
    rw [rejected] at waiting
    rcases Program.reaches_call.mp waiting with ⟨-, same⟩ | ⟨answer, tail, rfl, confirming⟩
    · cases same
    cases answer with
    | error refusal =>
      obtain ⟨rfl, same⟩ := Program.reaches_fail.mp confirming
      cases same
      simp [ended, rejected, outcomes]
    | ok status =>
      rcases Program.reaches_call.mp confirming with ⟨-, same⟩ | ⟨_, _, -, further⟩
      · cases same
      · cases further

theorem landed_delay {ms : ℕ} {answer : Unit} :
    landed transaction (⟨.delay ms, answer⟩ :: trace) = landed transaction trace :=
  List.countP_cons_of_neg (by simp [Lands])

/-- **An attempt that is not misreported is the last one, or did not land.** -/
theorem attempts_atMostOnce (honest : Honest May) :
    AtMostOnce May transaction (attemptsFrom (send transaction) further) := by
  induction further with
  | zero =>
    intro trace later reaches _
    exact landed_attempt reaches
  | succ further ih =>
    intro trace later reaches allowed
    rw [attemptsFrom] at reaches
    rcases Program.reaches_catching.mp reaches with
      ⟨middle, inside, -⟩ | ⟨before, after, err, rfl, thrown, handled⟩
    · exact landed_attempt inside
    obtain ⟨included, count, ways⟩ := outcomes_thrown after thrown
    rw [ways] at allowed
    rw [landed_append, count]
    by_cases again : retryable err.message = true
    · have lost : included = false := by
        cases included with
        | false => rfl
        | true => exact absurd ⟨rfl, err, rfl, again⟩ (honest _ (allowed _ List.mem_cons_self))
      rw [lost, if_neg Bool.false_ne_true, Nat.zero_add]
      rw [if_pos again] at handled
      rcases Program.reaches_call.mp handled with ⟨rfl, -⟩ | ⟨_, rest, rfl, retried⟩
      · exact Nat.zero_le 1
      · rw [landed_delay]
        exact ih rest later retried fun outcome member => allowed outcome (List.mem_cons_of_mem _ member)
    · rw [if_neg again] at handled
      obtain ⟨rfl, -⟩ := Program.reaches_fail.mp handled
      cases included <;> simp [landed]

/-- A misreported attempt, and one more like it. -/
theorem misreported_twice {outcome : Outcome} (misreported : outcome.Misreported) :
    ∃ trace later, (sendWithRetry (send transaction)).Reaches trace later ∧
      (∀ other ∈ outcomes transaction trace, other = outcome) ∧ landed transaction trace = 2 := by
  obtain ⟨included, error⟩ := outcome
  obtain ⟨landed', err, thrown, again⟩ := misreported
  cases landed'
  cases thrown
  let sent : Sent := { hash := [], rejected := some err, included := some ⟨[], 0⟩ }
  let attempt : Exchange := ⟨.send transaction, sent⟩
  have throws : (sendAndWait (send transaction)).Throws [attempt] err := by
    rw [sendAndWait_send]
    exact .call (.refl _)
  obtain ⟨later, second⟩ : ∃ later, (attemptsFrom (send transaction) 4).Reaches [attempt] later :=
    ⟨_, Program.reaches_catching.mpr (.inl ⟨_, throws, rfl⟩)⟩
  have whole : (sendWithRetry (send transaction)).Reaches ([attempt] ++ [⟨.delay 4000, ()⟩, attempt]) later := by
    refine Program.reaches_catching.mpr (.inr ⟨[attempt], _, err, rfl, throws, ?_⟩)
    rw [if_pos again]
    exact .call second
  refine ⟨_, _, whole, fun other member => ?_, ?_⟩
  · simpa [attempt, sent, outcomes, ended] using member
  · simp [attempt, sent, landed, Lands]

/-- **Retries**: the transaction lands at most once, whatever becomes of the attempts, if
and only if none of them may land and be reported as one to be tried again. -/
theorem sendWithRetry_atMostOnce :
    AtMostOnce May transaction (sendWithRetry (send transaction)) ↔ Honest May := by
  constructor
  · intro once outcome allowed misreported
    obtain ⟨trace, later, reaches, same, twice⟩ := @misreported_twice transaction outcome misreported
    have bound := once trace later reaches fun other member => same other member ▸ allowed
    omega
  · exact attempts_atMostOnce

/-- An attempt can go well. -/
theorem sendWithRetry_returns : ∃ trace hash, (sendWithRetry (send transaction)).Returns trace hash := by
  let sent : Sent := { hash := [], rejected := none, included := some ⟨[], 0⟩ }
  have attempt : (sendAndWait (send transaction)).Returns
      [⟨.send transaction, sent⟩, ⟨.waitForTransactionReceipt [], .ok .success⟩, ⟨.delay 2000, ()⟩] [] := by
    rw [sendAndWait_send]
    exact .call (.call (.call (.refl _)))
  exact ⟨_, _, Program.returns_catching.mpr (.inl attempt)⟩

/-- Arguments that cannot be encoded are never sent. -/
theorem attempts_of_fail {hash : JsString} : ¬ (attemptsFrom (.fail err) further).Returns trace hash := by
  induction further generalizing trace with
  | zero => exact nofun
  | succ further ih =>
    intro returns
    have handled : (if retryable err.message then do delay 4000; attemptsFrom (.fail err) further
        else .fail err : Handler JsString).Returns trace hash := returns
    split at handled
    · rcases Program.reaches_call.mp handled with ⟨-, same⟩ | ⟨_, rest, rfl, retried⟩
      · cases same
      · exact ih retried
    · cases handled

end Retries

/-! ## The service -/

section Service
variable {May : Outcome → Prop} {self : HeroService} {lib : HeroLibrary} {account : Caller}
  {recipient address : Address}
  {params : LinkAgentParams} {function : ContractFunction}

def drip (account : Caller) (recipient : Address) : Transaction := .sendTransaction account recipient DRIP_WEI

def float (self : HeroService) (account : Caller) (agentWallet : Address) : Transaction :=
  .writeContract account self.gatedToken (.mint agentWallet AGENT_TOKEN_MINT) (some WRITE_GAS)

/-- The request gets as far as the minting, where all goes well until then. -/
structure CanMint (self : HeroService) (lib : HeroLibrary) (params : LinkAgentParams) (account : Caller) : Prop where
  ready : self.assertReady = .ok account
  label : ∃ label, normalizeLabel lib params.label = .ok label
  score : ∃ score, lib.encodeUint256 params.requestedScore = .ok score

theorem write_ok (configured : self.account = some account) : self.write address (.ok function) =
    sendWithRetry (send (.writeContract account address function (some WRITE_GAS))) := by
  rw [HeroService.write, HeroService.walletClient, configured]
  rfl

theorem gasDrip_configured (configured : self.account = some account) : self.gasDrip recipient = (do
    let balance ← getBalance recipient
    if DRIP_MIN_WEI ≤ balance then pure none
    else do
      let hash ← sendWithRetry (send (drip account recipient))
      pure (some hash)) := by
  rw [HeroService.gasDrip, HeroService.walletClient, configured]
  rfl

theorem gasDrip_atMostOnce :
    AtMostOnce May (drip account recipient) (self.gasDrip recipient) ↔
      (self.account = some account → Honest May) := by
  by_cases configured : self.account = some account
  · have reading : (getBalance recipient).Calls (· ≠ .send (drip account recipient)) :=
      ⟨nofun, fun answer => Program.calls_ofExcept answer⟩
    rw [gasDrip_configured configured, atMostOnce_bind reading]
    constructor
    · intro once _
      have low := once [⟨.getBalance recipient, .ok 0⟩] 0 (.call (.refl _))
      rw [if_neg (by decide), atMostOnce_map] at low
      exact sendWithRetry_atMostOnce.mp low
    · intro honest before balance _
      split
      · exact AtMostOnce.of_quiet trivial
      · rw [atMostOnce_map]
        exact sendWithRetry_atMostOnce.mpr (honest configured)
  · refine iff_of_true (AtMostOnce.of_quiet (gasDrip_calls ?_ ?_)) fun same => absurd same configured
    · exact fun request passive => passive _
    · rintro other same sends
      cases sends
      exact configured same

/-- What comes before the minting mints nothing. -/
theorem before_minting {agentWallet : Address} :
    (self.linkUnlessLinked params).Calls (· ≠ .send (float self account agentWallet)) ∧
      (∀ name identity, (self.bindSubname lib name identity).Calls
        (· ≠ .send (float self account agentWallet))) ∧
      (∀ score : Except Thrown Uint256, (self.write self.scoreRegistry (score.map (.setScore agentWallet))).Calls
        (· ≠ .send (float self account agentWallet))) ∧
      (self.gasDrip recipient).Calls (· ≠ .send (float self account agentWallet)) := by
  have passive : Passive (· ≠ .send (float self account agentWallet)) := fun request quiet => quiet _
  refine ⟨linkUnlessLinked_calls passive ?_, fun name identity => write_calls passive ?_,
    fun score => write_calls passive ?_, gasDrip_calls passive ?_⟩
  · simp [float]
  · rintro other encoded - same
    cases same
    simp [float]
  · rintro other encoded - encodes
    cases score <;> cases encodes
    simp [float]
  · simp [float]

theorem linkAgent_atMostOnce :
    AtMostOnce May (float self account params.agentWallet) (self.linkAgent lib params) ↔
      (CanMint self lib params account → Honest May) := by
  obtain ⟨linking, binding, scoring, dripping⟩ :=
    @before_minting self lib account params.agentWallet params params.agentWallet
  constructor
  · rintro once ⟨ready, ⟨label, normal⟩, score, encodes⟩
    obtain ⟨-, -, -, -, configured⟩ := assertReady_eq_ok.mp ready
    have afterReady := (atMostOnce_bind (Program.calls_ofExcept _)).mp once [] account (by rw [ready]; exact .refl _)
    have afterLabel := (atMostOnce_bind (Program.calls_ofExcept _)).mp afterReady [] label
        (by rw [normal]; exact .refl _)
    have afterLink := (atMostOnce_bind linking).mp afterLabel
        [⟨.identityOfWallet self.factory params.agentWallet, .ok 1⟩] none (.call (.refl _))
    obtain ⟨bound, bindTx, bind⟩ := @sendWithRetry_returns (.writeContract account self.resolver
      (.setIdentity (lib.namehash (self.agentEnsName label)) (self.parentNode lib) params.personIdentity)
        (some WRITE_GAS))
    have afterBind := (atMostOnce_bind (binding _ _)).mp afterLink bound bindTx
      (by rw [HeroService.bindSubname, write_ok configured]; exact bind)
    obtain ⟨scored, scoreTx, set⟩ := @sendWithRetry_returns (.writeContract account self.scoreRegistry
      (.setScore params.agentWallet score) (some WRITE_GAS))
    have afterScore := (atMostOnce_bind (scoring _)).mp afterBind scored scoreTx
      (by rw [encodes]; exact (write_ok configured).symm ▸ set)
    have afterDrip := (atMostOnce_bind dripping).mp afterScore
        [⟨.getBalance params.agentWallet, .ok DRIP_MIN_WEI⟩] none
      (by rw [gasDrip_configured configured]; exact .call (.refl _))
    rw [atMostOnce_map, write_ok configured] at afterDrip
    exact sendWithRetry_atMostOnce.mp afterDrip
  · intro honest
    refine (atMostOnce_bind (Program.calls_ofExcept _)).mpr fun before other ready => ?_
    refine (atMostOnce_bind (Program.calls_ofExcept _)).mpr fun before label normal => ?_
    refine (atMostOnce_bind linking).mpr fun _ linkTx _ => ?_
    refine (atMostOnce_bind (binding _ _)).mpr fun _ bindTx _ => ?_
    refine (atMostOnce_bind (scoring _)).mpr fun _ scoreTx set => ?_
    refine (atMostOnce_bind dripping).mpr fun _ dripTx _ => ?_
    rw [atMostOnce_map]
    have ready := (Program.returns_ofExcept.mp ready).1
    obtain ⟨-, -, -, -, configured⟩ := assertReady_eq_ok.mp ready
    by_cases same : other = account
    · subst same
      rw [write_ok configured]
      refine sendWithRetry_atMostOnce.mpr (honest ⟨ready, ⟨label, (Program.returns_ofExcept.mp normal).1⟩, ?_⟩)
      cases encodes : lib.encodeUint256 params.requestedScore with
      | ok score => exact ⟨score, rfl⟩
      | error err =>
        rw [encodes, HeroService.write, HeroService.walletClient, configured] at set
        exact absurd set attempts_of_fail
    · refine AtMostOnce.of_quiet (write_calls (fun request quiet => quiet _) ?_)
      rintro third encoded configured' - sends
      rw [configured, Option.some.injEq] at configured'
      rw [float, ViemCall.send.injEq, Transaction.writeContract.injEq, ← configured'] at sends
      exact same sends.1

/-- **A transaction of one `sendWithRetry` lands at most once**, and so does one drip and
one float of a request that gets as far, in every run whose attempts end in these ways,
if and only if none of the ways is that it lands and the error reads like one to be
tried again. -/
theorem sends_at_most_once_iff (May : Outcome → Prop) (self : HeroService) (lib : HeroLibrary) (account : Caller) :
    (∀ transaction, AtMostOnce May transaction (sendWithRetry (send transaction)) ↔ Honest May) ∧
      (∀ recipient, AtMostOnce May (drip account recipient) (self.gasDrip recipient) ↔
        (self.account = some account → Honest May)) ∧
      ∀ params, AtMostOnce May (float self account params.agentWallet) (self.linkAgent lib params) ↔
        (CanMint self lib params account → Honest May) :=
  ⟨fun _ => sendWithRetry_atMostOnce, fun _ => gasDrip_atMostOnce, fun _ => linkAgent_atMostOnce⟩

end Service

def heroAccount : Caller := ⟨0xec98, by decide⟩

def heroService : HeroService where
  account := some heroAccount
  parentName := text "casaazul.eth"
  resolver := 41
  factory := 3
  scoreRegistry := 43
  gatedToken := 42

def firstDrip : Sent := { hash := text "0x01", rejected := none, included := some ⟨[], 0⟩ }

def secondDrip : Sent := { hash := text "0x02", rejected := none, included := some ⟨[], 0⟩ }

def tooManyInFlight : Thrown := thrown (text "Too many in-flight requests")

/-- The first drip stands, and its receipt is not read for too many requests. -/
def twoDrips : List Exchange := [
  ⟨.getBalance 11, .ok 0⟩,
  ⟨.send (drip heroAccount 11), firstDrip⟩,
  ⟨.waitForTransactionReceipt (text "0x01"), .error tooManyInFlight⟩,
  ⟨.delay 4000, ()⟩,
  ⟨.send (drip heroAccount 11), secondDrip⟩,
  ⟨.waitForTransactionReceipt (text "0x02"), .ok .success⟩,
  ⟨.delay 2000, ()⟩]

theorem twoDrips_returns : (heroService.gasDrip 11).Returns twoDrips (some (text "0x02")) := by
  have first : (sendAndWait (send (drip heroAccount 11))).Throws [⟨.send (drip heroAccount 11), firstDrip⟩,
      ⟨.waitForTransactionReceipt (text "0x01"), .error tooManyInFlight⟩] tooManyInFlight := by
    rw [sendAndWait_send]
    exact .call (.call (.refl _))
  have second : (sendAndWait (send (drip heroAccount 11))).Returns [⟨.send (drip heroAccount 11), secondDrip⟩,
      ⟨.waitForTransactionReceipt (text "0x02"), .ok .success⟩, ⟨.delay 2000, ()⟩] (text "0x02") := by
    rw [sendAndWait_send]
    exact .call (.call (.call (.refl _)))
  have again : retryable tooManyInFlight.message = true := by decide +kernel
  have both : (sendWithRetry (send (drip heroAccount 11))).Returns (twoDrips.drop 1) (text "0x02") := by
    refine Program.returns_catching.mpr (.inr ⟨_, twoDrips.drop 3, _, rfl, first, ?_⟩)
    rw [if_pos again]
    exact .call (Program.returns_catching.mpr (.inl second))
  rw [gasDrip_configured rfl]
  exact .call (Program.reaches_map.mpr ⟨_, both, rfl⟩)

theorem one_gas_drip_pays_twice :
    ¬ ∀ (self : HeroService) (account : Caller) (recipient : Address) (trace : List Exchange)
        (result : Option JsString), (self.gasDrip recipient).Returns trace result →
      landed (drip account recipient) trace ≤ 1 := by
  intro claimed
  have once := claimed heroService heroAccount 11 twoDrips _ twoDrips_returns
  revert once
  decide

end PassportKit.Hero
