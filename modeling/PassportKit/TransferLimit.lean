import PassportKit.Runs
import PassportKit.WalletPolicy
import Mathlib.Algebra.BigOperators.Group.List.Basic
import Mathlib.Tactic.Ring

/-! The daily limit, when transfer intents overlap. An intent reads what was allowed
today, compares, and logs its decision; between its reading and its logging others may
do the same. What it compares with the limit is then no longer what the day's total
becomes. Apart from that, only a sum that is rounded down can pass the limit. -/
namespace PassportKit.TransferLimit
open Verification Interaction Js Runs

variable {σ : Type} {walletAddress : String}

/-- An intent to transfer, and how far its handler has come. -/
structure Intent (walletAddress : String) where
  now : Date
  amountUsd : Double
  trace : List (Program.Exchange ApiCall ApiReply)
  rest : ApiHandler TransferDecision
  reached : (checkTransferIntent now walletAddress amountUsd).Reaches trace rest

namespace Intent

def start (now : Date) (amountUsd : Double) : Intent walletAddress :=
  ⟨now, amountUsd, [], checkTransferIntent now walletAddress amountUsd, .refl _⟩

/-- The intent after its next call. -/
def goOn (intent : Intent walletAddress) {request : ApiCall} {resume : ApiReply request → ApiHandler TransferDecision}
    (stands : intent.rest = .call request resume) (answer : ApiReply request) : Intent walletAddress where
  now := intent.now
  amountUsd := intent.amountUsd
  trace := intent.trace ++ [⟨request, answer⟩]
  rest := resume answer
  reached := (stands ▸ intent.reached).trans (.call (.refl _))

def rowsIn : Program.Exchange ApiCall ApiReply → List WalletTransferPolicyDecision
  | ⟨.findDecisions _ _, rows⟩ => rows
  | _ => []

/-- The allowances it has read. -/
def rows (intent : Intent walletAddress) : List WalletTransferPolicyDecision := intent.trace.flatMap rowsIn

/-- It is about to log what it decided. -/
def Deciding (intent : Intent walletAddress) : Prop :=
  ∃ decision resume, intent.rest = .call (.createDecision decision) resume

/-- It is about to log that it allows the transfer. -/
def Allowing (intent : Intent walletAddress) : Prop :=
  ∃ decision resume, intent.rest = .call (.createDecision decision) resume ∧
    ∀ createdAt, (decision createdAt).allowed = true

theorem Allowing.deciding {intent : Intent walletAddress} (allowing : intent.Allowing) : intent.Deciding := by
  obtain ⟨decision, resume, stands, -⟩ := allowing
  exact ⟨decision, resume, stands⟩

/-- What it was answered it may transfer. -/
def granted (intent : Intent walletAddress) : ℚ :=
  match intent.rest with
  | .done decision => if decision.allowed then intent.amountUsd.value else 0
  | _ => 0

end Intent

/-- The database, and the intents of the day. -/
structure Day (σ : Type) (walletAddress : String) where
  store : Store σ
  intents : List (Intent walletAddress)

def Day.granted (day : Day σ walletAddress) : ℚ := (day.intents.map Intent.granted).sum

inductive Event (walletAddress : String) where
  | asks (now : Date) (amountUsd : Double)
  /-- A call of the intent is answered. -/
  | goes (intent : Intent walletAddress)
  /-- A call of the intent throws. -/
  | fails (intent : Intent walletAddress)
  /-- Something else runs. -/
  | elsewhere

/-- Any number of intents of a wallet, within the UTC day that starts at `today`. Whatever
else runs leaves the wallet's policy and its allowances as they are. -/
inductive Atom (adapter : ContractAdapter σ) (walletAddress : String) (today : Date) :
    Day σ walletAddress → Event walletAddress → Day σ walletAddress → Prop where
  | asks (day : Day σ walletAddress) {now : Date} {amountUsd : Double} (within : windowStart now = today)
      (nonneg : 0 ≤ amountUsd.value) :
      Atom adapter walletAddress today day (.asks now amountUsd)
        { day with intents := day.intents ++ [.start now amountUsd] }
  | goes {store next : Store σ} {before after : List (Intent walletAddress)} {intent : Intent walletAddress}
      {request : ApiCall} {resume : ApiReply request → ApiHandler TransferDecision} {answer : ApiReply request}
      (stands : intent.rest = .call request resume) (served : Serves adapter store ⟨request, answer⟩ next)
      (within : ∀ decision, next.decisions = store.decisions ++ [decision] →
        windowStart decision.createdAt = today) :
      Atom adapter walletAddress today ⟨store, before ++ intent :: after⟩ (.goes intent)
        ⟨next, before ++ intent.goOn stands answer :: after⟩
  | fails {store : Store σ} {before after : List (Intent walletAddress)} {intent : Intent walletAddress}
      {request : ApiCall} {resume : ApiReply request → ApiHandler TransferDecision}
      (stands : intent.rest = .call request resume) :
      Atom adapter walletAddress today ⟨store, before ++ intent :: after⟩ (.fails intent)
        ⟨store, before ++ after⟩
  | elsewhere {store next : Store σ} {intents : List (Intent walletAddress)}
      (policy : next.db.policies walletAddress = store.db.policies walletAddress)
      (log : next.allowances walletAddress today = store.allowances walletAddress today) :
      Atom adapter walletAddress today ⟨store, intents⟩ .elsewhere ⟨next, intents⟩

/-- A wallet without a policy is given one by its first intent. -/
def limitOf : Option WalletTransferPolicy → ℚ
  | none => NO_KYC_CAP
  | some policy => if policy.policyStatus = BLOCKED then 0 else effectiveLimit policy

def total (rows : List WalletTransferPolicyDecision) : ℚ :=
  (rows.map fun decision => decision.requestedAmountUsd.value).sum

/-- The day has not begun. -/
structure Opens (today : Date) (day : Day σ walletAddress) : Prop where
  idle : day.intents = []
  unspent : day.store.allowances walletAddress today = []
  limit : 0 ≤ limitOf (day.store.db.policies walletAddress)

/-- No intent was allowed since this one read the log. -/
def Current (today : Date) (day : Day σ walletAddress) (intent : Intent walletAddress) : Prop :=
  intent.rows.Perm (day.store.allowances walletAddress today)

/-- Adding its amount to those it has read rounds nothing away. -/
def Lossless (intent : Intent walletAddress) : Prop :=
  ((total intent.rows + intent.amountUsd.value : ℚ) : WithTop ℚ) ≤
    plus (totalOf intent.rows) intent.amountUsd.value

/-- Every decision, whichever it is, is logged while the log is as the intent read it,
and comes of a sum from which nothing was rounded away. -/
def Undisturbed (today : Date) (entry : Entry (Day σ walletAddress) (Event walletAddress)) : Prop :=
  ∀ intent, entry.event = .goes intent → intent.Deciding → Current today entry.before intent ∧ Lossless intent

/-! ## What an intent does next -/

section Handler
variable {now : Date} {amountUsd : Double} {policy : WalletTransferPolicy} {spent : WithTop ℚ}
  {trace : List (Program.Exchange ApiCall ApiReply)} {rest : ApiHandler TransferDecision}

/-- The calls an intent makes before it decides. -/
inductive Reading (walletAddress : String) : ApiCall → Prop where
  | ensuring : Reading walletAddress (.ensurePolicy walletAddress)
  | looking : Reading walletAddress (.statement (.findPolicy walletAddress))
  | adding (since : Date) : Reading walletAddress (.findDecisions walletAddress since)

/-- A program that is not answered with an allowance. -/
def Ungranted (rest : ApiHandler TransferDecision) : Prop :=
  ∀ decision, rest = .done decision → decision.allowed = false

theorem ungranted_call {request : ApiCall} {resume : ApiReply request → ApiHandler TransferDecision} :
    Ungranted (.call request resume) := by
  rintro decision ⟨⟩

/-- Logging one's decision, then answering it. -/
structure Logs (walletAddress : String) (amountUsd : Double) (rest : ApiHandler TransferDecision)
    (allowed : Bool) : Prop where
  call : ∃ decision answer, rest = .call (.createDecision decision) (fun _ => .done answer) ∧
    answer.allowed = allowed ∧ ∀ createdAt, (decision createdAt).walletAddress = walletAddress ∧
      (decision createdAt).allowed = allowed ∧ (decision createdAt).requestedAmountUsd = amountUsd ∧
      (decision createdAt).createdAt = createdAt

theorem decide_logs : Logs walletAddress amountUsd (compareWithLimit walletAddress amountUsd policy spent)
    (decide (plus spent amountUsd.value ≤ (effectiveLimit policy : WithTop ℚ))) := by
  unfold compareWithLimit
  split
  · rename_i exceeds
    rw [decide_eq_false (not_le.mpr exceeds)]
    exact ⟨_, _, rfl, rfl, fun createdAt => ⟨rfl, rfl, rfl, rfl⟩⟩
  · rename_i fits
    rw [decide_eq_true (not_lt.mp fits)]
    exact ⟨_, _, rfl, rfl, fun createdAt => ⟨rfl, rfl, rfl, rfl⟩⟩

/-- The policy it was given lets it transfer, as far as it has read. -/
def Admits (walletAddress : String) (amountUsd : Double) (trace : List (Program.Exchange ApiCall ApiReply)) : Prop :=
  ∃ policy,
    (⟨.statement (.findPolicy walletAddress), some policy⟩ : Program.Exchange ApiCall ApiReply) ∈ trace ∧
    policy.policyStatus ≠ BLOCKED ∧
    plus (totalOf (trace.flatMap Intent.rowsIn)) amountUsd.value ≤ (effectiveLimit policy : WithTop ℚ)

theorem refuse_logs {reason : JsString} {answer : TransferDecision} (refused : answer.allowed = false) :
    Logs walletAddress amountUsd
      (logDecision walletAddress false reason amountUsd spent policy >>= fun _ => .done answer) false :=
  ⟨_, answer, rfl, refused, fun _ => ⟨rfl, rfl, rfl, rfl⟩⟩

theorem Logs.reaches {allowed : Bool} {program : ApiHandler TransferDecision}
    (logs : Logs walletAddress amountUsd program allowed) (reaches : program.Reaches trace rest) :
    trace = [] ∧ rest = program ∨ ∃ decision, rest = .done decision := by
  obtain ⟨decision, answer, rfl, -⟩ := logs
  rcases Program.reaches_call.mp reaches with same | ⟨reply, later, rfl, answered⟩
  · exact .inl same
  · exact .inr ⟨answer, (Program.reaches_done.mp answered).2⟩

theorem Logs.ungranted {allowed : Bool} (logs : Logs walletAddress amountUsd rest allowed) : Ungranted rest := by
  obtain ⟨decision, answer, rfl, -⟩ := logs
  exact ungranted_call

/-- What reads the log, and what it decides. -/
theorem checkAgainst_eq (unblocked : policy.policyStatus ≠ BLOCKED) :
    checkAgainst now walletAddress amountUsd policy =
      .call (.findDecisions walletAddress (windowStart now)) fun rows =>
        compareWithLimit walletAddress amountUsd policy (totalOf rows) := by
  rw [checkAgainst, if_neg unblocked]
  rfl

theorem checkAgainst_blocked (blocked : policy.policyStatus = BLOCKED) :
    Logs walletAddress amountUsd (checkAgainst now walletAddress amountUsd policy) false := by
  rw [checkAgainst, if_pos blocked]
  exact refuse_logs rfl

theorem answerUnder_ungranted (found : Option WalletTransferPolicy) :
    Ungranted (answerUnder now walletAddress amountUsd found) := by
  cases found with
  | none =>
    rintro decision ⟨⟩
    rfl
  | some policy =>
    by_cases blocked : policy.policyStatus = BLOCKED
    · exact (checkAgainst_blocked blocked).ungranted
    · rw [answerUnder, checkAgainst_eq blocked]
      exact ungranted_call

/-- Every call an intent makes: it reads, or it logs what it will answer, and logs an
allowance only of what its policy admits. -/
theorem reached_cases (reached : (checkTransferIntent now walletAddress amountUsd).Reaches trace rest) :
    (∃ request resume, rest = .call request resume ∧ Reading walletAddress request ∧
        ∀ answer, Ungranted (resume answer)) ∨
      (∃ allowed, Logs walletAddress amountUsd rest allowed ∧
        (allowed = true → Admits walletAddress amountUsd trace)) ∨
      ∃ decision, rest = .done decision := by
  rcases Program.reaches_call.mp reached with ⟨rfl, rfl⟩ | ⟨upserted, later, rfl, looking⟩
  · refine .inl ⟨_, _, rfl, .ensuring, fun upserted => ?_⟩
    cases upserted <;> exact ungranted_call
  replace looking : (Program.call (.statement (.findPolicy walletAddress))
      (answerUnder now walletAddress amountUsd) : ApiHandler TransferDecision).Reaches later rest := by
    cases upserted <;> exact looking
  rcases Program.reaches_call.mp looking with ⟨rfl, rfl⟩ | ⟨found, later, rfl, answering⟩
  · exact .inl ⟨_, _, rfl, .looking, answerUnder_ungranted⟩
  cases found with
  | none => exact .inr (.inr ⟨_, (Program.reaches_done.mp answering).2⟩)
  | some policy =>
    rw [answerUnder] at answering
    by_cases blocked : policy.policyStatus = BLOCKED
    · rcases (checkAgainst_blocked blocked).reaches answering with ⟨-, rfl⟩ | answered
      · exact .inr (.inl ⟨false, checkAgainst_blocked blocked, by rintro ⟨⟩⟩)
      · exact .inr (.inr answered)
    rw [checkAgainst_eq blocked] at answering
    rcases Program.reaches_call.mp answering with ⟨rfl, rfl⟩ | ⟨rows, later, rfl, deciding⟩
    · exact .inl ⟨_, _, rfl, .adding _, fun rows => decide_logs.ungranted⟩
    rcases decide_logs.reaches deciding with ⟨rfl, rfl⟩ | answered
    · refine .inr (.inl ⟨_, decide_logs, fun fits => ⟨policy, by simp, blocked, ?_⟩⟩)
      simpa [Intent.rowsIn] using of_decide_eq_true fits
    · exact .inr (.inr answered)

end Handler

section Account
variable {adapter : ContractAdapter σ} {today : Date} {limit : ℚ} {store next : Store σ}
  {intent : Intent walletAddress} {request : ApiCall} {resume : ApiReply request → ApiHandler TransferDecision}
  {answer : ApiReply request}

theorem granted_done {decision : TransferDecision} (done : intent.rest = .done decision) :
    intent.granted = if decision.allowed then intent.amountUsd.value else 0 := by
  rw [Intent.granted, done]

theorem granted_call (stands : intent.rest = .call request resume) : intent.granted = 0 := by
  rw [Intent.granted, stands]

theorem Ungranted.granted (ungranted : Ungranted intent.rest) : intent.granted = 0 := by
  cases shape : intent.rest with
  | done decision => rw [granted_done shape, ungranted decision shape, if_neg Bool.false_ne_true]
  | fail error => rw [Intent.granted, shape]
  | call request resume => exact granted_call shape

theorem windowStart_le (now : Date) : windowStart now ≤ now :=
  sub_le_self now (Int.emod_nonneg now (by decide))

/-- Reading leaves the log, and creates the policy it reads where there is none. -/
theorem Reading.served (reading : Reading walletAddress request)
    (served : Serves adapter store ⟨request, answer⟩ next) :
    next.decisions = store.decisions ∧
      limitOf (next.db.policies walletAddress) = limitOf (store.db.policies walletAddress) ∧
      (∀ policy, store.db.policies walletAddress = some policy → next.db.policies walletAddress = some policy) ∧
      ∀ policy, (⟨request, answer⟩ : Program.Exchange ApiCall ApiReply) =
          ⟨.statement (.findPolicy walletAddress), some policy⟩ →
        next.db.policies walletAddress = some policy := by
  cases reading with
  | ensuring =>
    cases served with
    | policyThere there upserted => exact ⟨rfl, rfl, fun _ => id, by rintro policy ⟨⟩⟩
    | policyCreated absent profile =>
      refine ⟨rfl, ?_, by simp [absent], by rintro policy ⟨⟩⟩
      have created : (store.db.setPolicy walletAddress ⟨NO_KYC_DAILY_50, NO_KYC_CAP⟩).policies walletAddress =
          some ⟨NO_KYC_DAILY_50, NO_KYC_CAP⟩ := Function.update_self ..
      have cap : limitOf (some ⟨NO_KYC_DAILY_50, NO_KYC_CAP⟩) = NO_KYC_CAP := by
        rw [limitOf, if_neg (by decide), effectiveLimit, if_pos rfl]
      rw [absent]
      exact (congrArg limitOf created).trans cap
  | looking =>
    cases served with
    | statement done =>
      rw [store.prisma.findPolicy] at done
      cases done
      refine ⟨rfl, rfl, fun _ => id, fun policy same => ?_⟩
      simpa using same
  | adding since =>
    cases served with
    | decisions _ _ found => exact ⟨rfl, rfl, fun _ => id, by rintro policy ⟨⟩⟩

/-- A logged decision counts when it is an allowance. -/
theorem total_logged {decision : WalletTransferPolicyDecision} (own : decision.walletAddress = walletAddress)
    (within : windowStart decision.createdAt = today) :
    total (({ store with decisions := store.decisions ++ [decision] } : Store σ).allowances walletAddress today) =
      total (store.allowances walletAddress today) +
        if decision.allowed then decision.requestedAmountUsd.value else 0 := by
  have late : today ≤ decision.createdAt := within ▸ windowStart_le _
  simp only [Store.allowances, List.filter_append, total, List.map_append, List.sum_append]
  congr 1
  cases allowed : decision.allowed <;> simp [own, late, allowed]

/-- The policies the intents were given are the wallet's, and what they were allowed is
what the log says was allowed. -/
structure Accounted (limit : ℚ) (today : Date) (day : Day σ walletAddress) : Prop where
  limit : limitOf (day.store.db.policies walletAddress) = limit
  known : ∀ intent ∈ day.intents, ∀ policy,
    (⟨.statement (.findPolicy walletAddress), some policy⟩ : Program.Exchange ApiCall ApiReply) ∈ intent.trace →
      day.store.db.policies walletAddress = some policy
  balanced : total (day.store.allowances walletAddress today) = day.granted

/-- What an event adds to what was granted. -/
structure Settles (before : Day σ walletAddress) (event : Event walletAddress) (after : Day σ walletAddress) :
    Prop where
  allows : ∀ intent, event = .goes intent → intent.Allowing →
    intent ∈ before.intents ∧ Admits walletAddress intent.amountUsd intent.trace ∧
      after.granted = before.granted + intent.amountUsd.value
  otherwise : (∀ intent, event = .goes intent → ¬ intent.Allowing) → after.granted = before.granted

theorem opens_accounted {day : Day σ walletAddress} (opens : Opens today day) :
    Accounted (limitOf (day.store.db.policies walletAddress)) today day where
  limit := rfl
  known := by simp [opens.idle]
  balanced := by simp [opens.unspent, total, Day.granted, opens.idle]

theorem granted_among (before after : List (Intent walletAddress)) (intent : Intent walletAddress) :
    (⟨store, before ++ intent :: after⟩ : Day σ walletAddress).granted =
      (before.map Intent.granted).sum + (after.map Intent.granted).sum + intent.granted := by
  simp only [Day.granted, List.map_append, List.map_cons, List.sum_append, List.sum_cons]
  ring

/-- Of all intents, only the one that goes on changes. -/
theorem forall_among {P : Intent walletAddress → Prop} {before after : List (Intent walletAddress)}
    {next : Intent walletAddress} (others : ∀ other ∈ before ++ intent :: after, P other) (own : P next) :
    ∀ other ∈ before ++ next :: after, P other := by
  simp only [List.mem_append, List.mem_cons] at others ⊢
  rintro other (earlier | rfl | later)
  · exact others other (.inl earlier)
  · exact own
  · exact others other (.inr (.inr later))

theorem Reading.not_allowing (reading : Reading walletAddress request) (stands : intent.rest = .call request resume) :
    ¬ intent.Allowing := by
  rintro ⟨decision, answer, logs, -⟩
  rw [stands] at logs
  cases logs
  cases reading

/-- **One call** of an intent that reads. -/
theorem reads_settles {before after : List (Intent walletAddress)}
    (accounted : Accounted limit today ⟨store, before ++ intent :: after⟩)
    (stands : intent.rest = .call request resume) (reading : Reading walletAddress request)
    (ungranted : ∀ answer, Ungranted (resume answer)) (served : Serves adapter store ⟨request, answer⟩ next) :
    Accounted limit today ⟨next, before ++ intent.goOn stands answer :: after⟩ ∧
      Settles ⟨store, before ++ intent :: after⟩ (.goes intent)
        ⟨next, before ++ intent.goOn stands answer :: after⟩ := by
  obtain ⟨log, limited, kept, read⟩ := reading.served served
  have still : (⟨next, before ++ intent.goOn stands answer :: after⟩ : Day σ walletAddress).granted =
      (⟨store, before ++ intent :: after⟩ : Day σ walletAddress).granted := by
    have nothing : (intent.goOn stands answer).granted = 0 := Ungranted.granted (ungranted answer)
    rw [granted_among, granted_among, granted_call stands, nothing]
  refine ⟨⟨limited.trans accounted.limit, ?_, ?_⟩, ?_, fun _ => still⟩
  · have others (other : Intent walletAddress) (member : other ∈ before ++ intent :: after) (policy)
        (found : _ ∈ other.trace) := kept policy (accounted.known other member policy found)
    apply forall_among others
    intro policy found
    rcases List.mem_append.mp found with earlier | last
    · exact others intent (by simp) policy earlier
    · exact read policy (List.mem_singleton.mp last).symm
  · rw [still, ← accounted.balanced, Store.allowances, log, Store.allowances]
  · rintro other ⟨⟩ allowing
    exact absurd allowing (reading.not_allowing stands)

/-- **One call** of an intent that has decided. -/
theorem logs_settles {before after : List (Intent walletAddress)} {allowed : Bool}
    (accounted : Accounted limit today ⟨store, before ++ intent :: after⟩)
    (stands : intent.rest = .call request resume)
    (logs : Logs walletAddress intent.amountUsd intent.rest allowed)
    (admitted : allowed = true → Admits walletAddress intent.amountUsd intent.trace)
    (served : Serves adapter store ⟨request, answer⟩ next)
    (within : ∀ decision, next.decisions = store.decisions ++ [decision] → windowStart decision.createdAt = today) :
    Accounted limit today ⟨next, before ++ intent.goOn stands answer :: after⟩ ∧
      Settles ⟨store, before ++ intent :: after⟩ (.goes intent)
        ⟨next, before ++ intent.goOn stands answer :: after⟩ := by
  obtain ⟨decision, verdict, call, answered, logged⟩ := logs
  cases stands.symm.trans call
  cases served with
  | decided _ createdAt there =>
    obtain ⟨own, same, amount, -⟩ := logged createdAt
    have grants : (intent.goOn stands ()).granted = if allowed then intent.amountUsd.value else 0 := by
      rw [← answered]
      exact granted_done rfl
    have grows : (⟨{ store with decisions := store.decisions ++ [decision createdAt] },
        before ++ intent.goOn stands () :: after⟩ : Day σ walletAddress).granted =
        (⟨store, before ++ intent :: after⟩ : Day σ walletAddress).granted +
          if allowed then intent.amountUsd.value else 0 := by
      rw [granted_among, granted_among, granted_call stands, grants, add_zero]
    refine ⟨⟨accounted.limit, ?_, ?_⟩, ?_, ?_⟩
    · apply forall_among accounted.known
      intro policy found
      rcases List.mem_append.mp found with earlier | last
      · exact accounted.known intent (by simp) policy earlier
      · cases List.mem_singleton.mp last
    · rw [grows, total_logged own (within _ rfl), accounted.balanced, same, amount]
    · rintro other ⟨⟩ ⟨again, resume, stands', allows⟩
      cases call.symm.trans stands'
      have yes : allowed = true := same.symm.trans (allows createdAt)
      rw [grows, if_pos yes]
      exact ⟨by simp, admitted yes, rfl⟩
    · intro refuses
      have no : ¬ allowed = true :=
        fun yes => refuses intent rfl ⟨decision, _, call, fun createdAt => (logged createdAt).2.1.trans yes⟩
      rw [grows, if_neg no, add_zero]

/-- **One event.** -/
theorem atom_settles {before after : Day σ walletAddress} {event : Event walletAddress}
    (accounted : Accounted limit today before) (atom : Atom adapter walletAddress today before event after) :
    Accounted limit today after ∧ Settles before event after := by
  cases atom with
  | @asks _ now amountUsd within nonneg =>
    have still : (⟨before.store, before.intents ++ [.start now amountUsd]⟩ : Day σ walletAddress).granted =
        before.granted := by
      have fresh : (Intent.start now amountUsd : Intent walletAddress).granted = 0 := granted_call rfl
      simp only [Day.granted, List.map_append, List.sum_append, List.map_singleton, List.sum_singleton, fresh, add_zero]
    refine ⟨⟨accounted.limit, ?_, accounted.balanced.trans still.symm⟩, by rintro intent ⟨⟩, fun _ => still⟩
    intro intent member
    rcases List.mem_append.mp member with earlier | new
    · exact accounted.known intent earlier
    · obtain rfl := List.mem_singleton.mp new
      rintro policy ⟨⟩
  | goes stands served within =>
    rename_i intent request resume answer
    rcases reached_cases intent.reached with
      ⟨asked, goOn, call, reading, ungranted⟩ | ⟨allowed, logs, admitted⟩ | ⟨decision, done⟩
    · cases stands.symm.trans call
      exact reads_settles accounted stands reading ungranted served
    · exact logs_settles accounted stands logs admitted served within
    · cases stands.symm.trans done
  | @fails store before after intent request resume stands =>
    have still : (⟨store, before ++ after⟩ : Day σ walletAddress).granted =
        (⟨store, before ++ intent :: after⟩ : Day σ walletAddress).granted := by
      rw [granted_among, granted_call stands, add_zero, Day.granted, List.map_append, List.sum_append]
    refine ⟨⟨accounted.limit, ?_, accounted.balanced.trans still.symm⟩, by rintro intent ⟨⟩, fun _ => still⟩
    intro other member
    apply accounted.known other
    rcases List.mem_append.mp member with earlier | later
    · exact List.mem_append_left _ earlier
    · exact List.mem_append_right _ (List.mem_cons_of_mem _ later)
  | elsewhere policy log =>
    refine ⟨⟨policy ▸ accounted.limit, fun intent member found traced => ?_, log ▸ accounted.balanced⟩,
      by rintro intent ⟨⟩, fun _ => rfl⟩
    exact policy.trans (accounted.known intent member found traced)

/-- Where nothing came between, there is room for what is allowed. -/
theorem room_of_undisturbed {day : Day σ walletAddress} (accounted : Accounted limit today day)
    (member : intent ∈ day.intents) (admits : Admits walletAddress intent.amountUsd intent.trace)
    (current : Current today day intent) (lossless : Lossless intent) :
    total (day.store.allowances walletAddress today) + intent.amountUsd.value ≤ limit := by
  obtain ⟨policy, given, unblocked, fits⟩ := admits
  have there : day.store.db.policies walletAddress = some policy := accounted.known intent member policy given
  have same : total intent.rows = total (day.store.allowances walletAddress today) :=
    (List.Perm.map (fun decision : WalletTransferPolicyDecision => decision.requestedAmountUsd.value) current).sum_eq
  have sum : ((total intent.rows + intent.amountUsd.value : ℚ) : WithTop ℚ) ≤
      (effectiveLimit policy : WithTop ℚ) :=
    lossless.trans fits
  rw [← accounted.limit, there, limitOf, if_neg unblocked, ← same]
  exact WithTop.coe_le_coe.mp sum

/-- **Step lemma.** An event within the limit stays within it, where an allowance is
logged as it was decided. -/
theorem atom_within {before after : Day σ walletAddress} {event : Event walletAddress}
    (accounted : Accounted limit today before) (within : before.granted ≤ limit)
    (calm : ∀ intent, event = .goes intent → intent.Allowing → Current today before intent ∧ Lossless intent)
    (atom : Atom adapter walletAddress today before event after) :
    Accounted limit today after ∧ after.granted ≤ limit := by
  obtain ⟨next, settles⟩ := atom_settles accounted atom
  refine ⟨next, ?_⟩
  by_cases allowing : ∃ intent, event = .goes intent ∧ intent.Allowing
  · obtain ⟨intent, goes, allowing⟩ := allowing
    obtain ⟨member, admits, grows⟩ := settles.allows intent goes allowing
    obtain ⟨current, lossless⟩ := calm intent goes allowing
    have room := room_of_undisturbed accounted member admits current lossless
    rwa [accounted.balanced, ← grows] at room
  · rw [settles.otherwise fun intent goes allows => allowing ⟨intent, goes, allows⟩]
    exact within

end Account

/-! ## The limit -/

section Limit
variable {adapter : ContractAdapter σ} {today : Date} {start last : Day σ walletAddress}
  {log : List (Entry (Day σ walletAddress) (Event walletAddress))}

/-- **Run lemma.** Only the allowances have to be logged as they were decided. -/
theorem trace_within (opens : Opens today start) (trace : Trace (Atom adapter walletAddress today) start log last)
    (calm : ∀ entry ∈ log, ∀ intent, entry.event = .goes intent → intent.Allowing →
      Current today entry.before intent ∧ Lossless intent) :
    (∀ entry ∈ log, entry.before.granted ≤ limitOf (start.store.db.policies walletAddress)) ∧
      last.granted ≤ limitOf (start.store.db.policies walletAddress) := by
  have idle : start.granted ≤ limitOf (start.store.db.policies walletAddress) := by
    rw [Day.granted, opens.idle]
    exact opens.limit
  obtain ⟨⟨-, within⟩, reached⟩ := trace.preserves_along
    (fun _ _ _ held calm atom => atom_within held.1 held.2 calm atom) ⟨opens_accounted opens, idle⟩ calm
  exact ⟨fun entry member => (reached entry member).2, within⟩

/-- **The daily limit.** What a wallet is allowed in a day stays within its limit in every
run whose decisions are logged undisturbed. -/
theorem granted_le_limit_of_undisturbed (opens : Opens today start)
    (trace : Trace (Atom adapter walletAddress today) start log last)
    (undisturbed : ∀ entry ∈ log, Undisturbed today entry) :
    (∀ entry ∈ log, entry.before.granted ≤ limitOf (start.store.db.policies walletAddress)) ∧
      last.granted ≤ limitOf (start.store.db.policies walletAddress) :=
  trace_within opens trace fun entry member intent goes allowing =>
    undisturbed entry member intent goes allowing.deciding

end Limit

section Pair
variable {adapter : ContractAdapter σ} {today now : Date} {amountUsd : Double} {policy : WalletTransferPolicy}
  {store : Store σ}

/-- Reading is not deciding. -/
theorem Reading.undisturbed {request : ApiCall} {resume : ApiReply request → ApiHandler TransferDecision}
    {before after : Day σ walletAddress} {intent : Intent walletAddress} (reading : Reading walletAddress request)
    (stands : intent.rest = .call request resume) : Undisturbed today ⟨before, .goes intent, after⟩ := by
  rintro _ ⟨⟩ ⟨decision, resume', stands'⟩
  rw [stands] at stands'
  cases stands'
  cases reading

/-- An intent reads the log as it is. -/
theorem reads_log (there : store.db.policies walletAddress = some policy) (unblocked : policy.policyStatus ≠ BLOCKED)
    (before after : List (Intent walletAddress)) :
    ∃ intent : Intent walletAddress, intent.amountUsd = amountUsd ∧
      intent.rows = store.allowances walletAddress (windowStart now) ∧
      intent.rest = compareWithLimit walletAddress amountUsd policy
        (totalOf (store.allowances walletAddress (windowStart now))) ∧
      ∃ log, Trace (Atom adapter walletAddress today) ⟨store, before ++ .start now amountUsd :: after⟩ log
        ⟨store, before ++ intent :: after⟩ ∧ ∀ entry ∈ log, Undisturbed today entry := by
  let rows := store.allowances walletAddress (windowStart now)
  let asked : Intent walletAddress := .start now amountUsd
  let ensured := asked.goOn rfl Upserted.stored
  have looking : ensured.rest = .call (.statement (.findPolicy walletAddress))
      (answerUnder now walletAddress amountUsd) :=
    rfl
  let found := ensured.goOn looking (some policy)
  have adding : found.rest = .call (.findDecisions walletAddress (windowStart now)) fun rows =>
    compareWithLimit walletAddress amountUsd policy (totalOf rows) := checkAgainst_eq unblocked
  have same : store.prisma.execute store.db "" (.findPolicy walletAddress) = .ok (store.db, some policy) := by
    rw [store.prisma.findPolicy, there]
  have read : (found.goOn adding rows).rows = rows := List.append_nil rows
  refine ⟨found.goOn adding rows, rfl, read, rfl, _, .cons (.goes rfl (.policyThere there .stored) ?_)
    (.cons (.goes looking (.statement same) ?_) (.cons (.goes adding (.decisions _ _ (.refl _)) ?_) (.nil _))), ?_⟩
  · intro decision grown
    simp at grown
  · intro decision grown
    simp at grown
  · intro decision grown
    simp at grown
  · simp only [List.forall_mem_cons, List.not_mem_nil, false_implies, implies_true, and_true]
    exact ⟨Reading.ensuring.undisturbed rfl, Reading.looking.undisturbed looking,
      (Reading.adding _).undisturbed adding⟩

/-- An intent logs what it allows, whatever the log is by then. -/
theorem logs_allowance {intent : Intent walletAddress} {spent : WithTop ℚ} {createdAt : Date}
    (there : store.db.policies walletAddress = some policy)
    (decides : intent.rest = compareWithLimit walletAddress amountUsd policy spent)
    (fits : plus spent amountUsd.value ≤ (effectiveLimit policy : WithTop ℚ))
    (within : windowStart createdAt = today) (before after : List (Intent walletAddress)) :
    ∃ (decision : WalletTransferPolicyDecision) (answered : Intent walletAddress),
      decision.walletAddress = walletAddress ∧ decision.allowed = true ∧ decision.requestedAmountUsd = amountUsd ∧
      decision.createdAt = createdAt ∧ answered.granted = intent.amountUsd.value ∧
      Atom adapter walletAddress today ⟨store, before ++ intent :: after⟩ (.goes intent)
        ⟨{ store with decisions := store.decisions ++ [decision] }, before ++ answered :: after⟩ := by
  have logging : Logs walletAddress amountUsd (compareWithLimit walletAddress amountUsd policy spent) _ := decide_logs
  obtain ⟨decision, answer, call, allowed, logged⟩ := logging
  rw [decide_eq_true fits] at allowed logged
  obtain ⟨own, yes, amount, time⟩ := logged createdAt
  refine ⟨decision createdAt, intent.goOn (decides.trans call) (), own, yes, amount, time, ?_,
    .goes (decides.trans call) (.decided decision createdAt ?_) ?_⟩
  · exact (granted_done rfl).trans (if_pos allowed)
  · rw [own, there]
    rfl
  · intro added grown
    obtain rfl : decision createdAt = added := by simpa using grown
    rw [time]
    exact within

/-- An intent that nothing comes between is allowed what fits. -/
theorem allowed_alone {intents : List (Intent walletAddress)} (there : store.db.policies walletAddress = some policy)
    (unblocked : policy.policyStatus ≠ BLOCKED) (nonneg : 0 ≤ amountUsd.value)
    (fits : plus (totalOf (store.allowances walletAddress (windowStart now))) amountUsd.value ≤
      (effectiveLimit policy : WithTop ℚ))
    (lossless : ((total (store.allowances walletAddress (windowStart now)) + amountUsd.value : ℚ) : WithTop ℚ) ≤
      plus (totalOf (store.allowances walletAddress (windowStart now))) amountUsd.value) :
    ∃ (decision : WalletTransferPolicyDecision) (answered : Intent walletAddress),
      decision.walletAddress = walletAddress ∧ decision.allowed = true ∧ decision.requestedAmountUsd = amountUsd ∧
      decision.createdAt = now ∧ answered.granted = amountUsd.value ∧
      ∃ log, Trace (Atom adapter walletAddress (windowStart now)) ⟨store, intents⟩ log
        ⟨{ store with decisions := store.decisions ++ [decision] }, intents ++ [answered]⟩ ∧
        ∀ entry ∈ log, Undisturbed (windowStart now) entry := by
  obtain ⟨intent, amount, rows, deciding, read, reads, calm⟩ :=
    @reads_log _ _ adapter (windowStart now) now amountUsd _ store there unblocked intents []
  obtain ⟨decision, answered, own, yes, spent, time, granted, logs⟩ :=
    @logs_allowance _ _ adapter (windowStart now) amountUsd _ store intent _ now there deciding fits rfl intents []
  rw [amount] at granted
  have current : Current (windowStart now) (⟨store, intents ++ [intent]⟩ : Day σ walletAddress) intent := by
    rw [Current, rows]
  have nothingLost : Lossless intent := by rwa [Lossless, rows, amount]
  refine ⟨decision, answered, own, yes, spent, time, granted, _,
    .cons (.asks _ rfl nonneg) (reads.append (.cons logs (.nil _))), fun entry member => ?_⟩
  rcases List.mem_cons.mp member with rfl | later
  · rintro _ ⟨⟩
  rcases List.mem_append.mp later with reading | last
  · exact calm entry reading
  · obtain rfl := List.mem_singleton.mp last
    rintro _ ⟨⟩ -
    exact ⟨current, nothingLost⟩

/-- The database on its first day. -/
def firstDay : Store Unit where
  prisma := .standard
  db := {
    profiles := fun _ => none
    sessions := []
    claims := fun _ _ => none
    policies := fun _ => some ⟨NO_KYC_DAILY_50, NO_KYC_CAP⟩
    events := []
    transactions := [] }
  decisions := []
  contracts := ()

def noContracts : ContractAdapter Unit where
  submitClaim := fun _ _ _ _ => False
  syncPassport := fun _ _ _ _ => False

def twentyFive : Double := ⟨25, by decide +kernel⟩

def thirty : Double := ⟨30, by decide +kernel⟩

theorem opens_firstDay : Opens 0 (⟨firstDay, []⟩ : Day Unit walletAddress) where
  idle := rfl
  unspent := rfl
  limit := (by decide +kernel : 0 ≤ limitOf (some ⟨NO_KYC_DAILY_50, NO_KYC_CAP⟩))

/-- The second intent comes when the first was answered, and is allowed what was left. -/
theorem twentyFive_twice :
    ∃ log, ∃ last : Day Unit "0xA", Trace (Atom noContracts "0xA" 0) ⟨firstDay, []⟩ log last ∧
      (∀ entry ∈ log, Undisturbed 0 entry) ∧ last.granted = 25 + 25 ∧
      (∀ entry ∈ log, entry.before.granted ≤ limitOf (firstDay.db.policies "0xA")) ∧
      last.granted ≤ limitOf (firstDay.db.policies "0xA") := by
  have unblocked : NO_KYC_DAILY_50 ≠ BLOCKED := by decide
  have nonneg : 0 ≤ twentyFive.value := by decide +kernel
  obtain ⟨decision, answered, own, yes, spent, time, granted, one, first, calm⟩ :=
    @allowed_alone _ "0xA" noContracts 0 twentyFive _ firstDay [] rfl unblocked nonneg (by decide +kernel)
      (by decide +kernel)
  let logged : Store Unit := { firstDay with decisions := firstDay.decisions ++ [decision] }
  have left : logged.allowances "0xA" (windowStart 0) = [decision] := by
    simp [logged, firstDay, Store.allowances, own, yes, time, windowStart]
  have sum : totalOf [decision] = 25 := by
    rw [totalOf, List.foldl_cons, List.foldl_nil, spent]
    decide +kernel
  obtain ⟨decision', answered', -, -, -, -, granted', two, second, calm'⟩ :=
    @allowed_alone _ "0xA" noContracts 0 twentyFive _ logged [answered] rfl unblocked nonneg
      (by rw [left, sum]; decide +kernel)
      (by rw [left, sum, total, List.map_singleton, List.sum_singleton, spent]; decide +kernel)
  have trace := first.append second
  have undisturbed : ∀ entry ∈ one ++ two, Undisturbed 0 entry := List.forall_mem_append.mpr ⟨calm, calm'⟩
  refine ⟨_, _, trace, undisturbed, ?_, granted_le_limit_of_undisturbed opens_firstDay trace undisturbed⟩
  simp [Day.granted, granted, granted', twentyFive]

/-- Both intents read the empty log, and each logs its allowance afterwards. -/
theorem thirty_twice (walletAddress : String) :
    ∃ log, ∃ last : Day Unit walletAddress,
      Trace (Atom noContracts walletAddress 0) ⟨firstDay, []⟩ log last ∧ last.granted = 60 := by
  have there : firstDay.db.policies walletAddress = some ⟨NO_KYC_DAILY_50, NO_KYC_CAP⟩ := rfl
  have unblocked : NO_KYC_DAILY_50 ≠ BLOCKED := by decide
  have fits : plus (totalOf []) thirty.value ≤ (effectiveLimit ⟨NO_KYC_DAILY_50, NO_KYC_CAP⟩ : WithTop ℚ) := by
    decide +kernel
  have nonneg : 0 ≤ thirty.value := by decide +kernel
  obtain ⟨first, amount, -, deciding, one, readsFirst, -⟩ :=
    @reads_log _ walletAddress noContracts 0 0 thirty _ firstDay there unblocked [] [.start 0 thirty]
  obtain ⟨second, amount', -, deciding', two, readsSecond, -⟩ :=
    @reads_log _ walletAddress noContracts 0 0 thirty _ firstDay there unblocked [first] []
  obtain ⟨decision, answered, -, -, -, -, granted, logsFirst⟩ :=
    @logs_allowance _ walletAddress noContracts 0 thirty _ firstDay first _ 0 there deciding fits rfl [] [second]
  obtain ⟨_, answered', -, -, -, -, granted', logsSecond⟩ :=
    @logs_allowance _ walletAddress noContracts 0 thirty _ { firstDay with decisions := [decision] } second _ 0 there
      deciding' fits rfl [answered] []
  refine ⟨_, _, .cons (.asks _ rfl nonneg) (.cons (.asks _ rfl nonneg)
    ((readsFirst.append readsSecond).append (.cons logsFirst (.cons logsSecond (.nil _))))), ?_⟩
  simp only [Day.granted, List.singleton_append, List.map_cons, List.map_nil, List.sum_cons, List.sum_nil, granted,
    granted', amount, amount']
  decide +kernel

/-- Each was allowed thirty of fifty. -/
theorem limit_passed_by_overlap :
    ¬ ∀ (walletAddress : String) (today : Date) (start last : Day Unit walletAddress)
      (log : List (Entry (Day Unit walletAddress) (Event walletAddress))), Opens today start →
        Trace (Atom noContracts walletAddress today) start log last →
          last.granted ≤ limitOf (start.store.db.policies walletAddress) := by
  intro claimed
  obtain ⟨log, last, trace, granted⟩ := thirty_twice "0xA"
  have bounded := claimed "0xA" 0 _ last log opens_firstDay trace
  rw [granted] at bounded
  revert bounded
  decide +kernel

end Pair

end PassportKit.TransferLimit
