import PassportKit.Interaction
import PassportKit.JsonText

/-! `x402.js`: settling an invoice with a vendor that is not trusted. The vendor
chooses the status and the body of both its answers; whether the offer in the body
is paid is decided from what the caller already knows. -/
namespace PassportKit.X402
open Interaction Js

/-- `POST {vendorUrl}/invoice`; `xPayment` is the header of the retry. -/
structure HttpRequest where
  url : JsString
  body : Option JsString
  xPayment : Option JsString

/-- An answer of the vendor; `json` is nothing when the body does not parse. -/
structure Response where
  status : ℕ
  json : Option JsValue

structure Expected where
  asset : JsString
  payTo : JsString

structure Settled where
  paid : Bool
  txHash : Option JsString
  error : Option JsString
  deriving DecidableEq

/-- `String.prototype.toLowerCase`: every Unicode letter, ASCII by the table. -/
structure LowerCasing where
  toLowerCase : JsString → JsString
  ascii : ∀ s, (∀ c ∈ s, c.toNat < 128) →
    toLowerCase s = s.map fun c => if 65 ≤ c.toNat ∧ c.toNat ≤ 90 then c + 32 else c

section Settling
variable (casing : LowerCasing)

def sameAddress (a : Option JsValue) (b : JsString) : Bool :=
  match a with
  | some (.string a) => casing.toLowerCase a = casing.toLowerCase b
  | _ => false

/-- The first field that does not match, or nothing. An amount that is no integer
throws, which is caught as a mismatch. -/
def mismatchedField (accept : JsValue) (amount : JsString) (expected : Expected) : Option JsString :=
  match accept.get (text "scheme") with
  | some (.string scheme) =>
    if scheme ≠ text "exact" then some (text "scheme")
    else if ¬ sameAddress casing (accept.get (text "asset")) expected.asset then some (text "asset")
    else if ¬ sameAddress casing (accept.get (text "payTo")) expected.payTo then some (text "payTo")
    else
      match toBigInt (accept.get (text "amount")), toBigInt (some (.string amount)) with
      | some offered, some owed => if offered ≠ owed then some (text "amount") else none
      | _, _ => some (text "amount")
  | _ => some (text "scheme")

/-- `typeof value === 'object'`, of a value that is not null. -/
def IsObject : JsValue → Prop
  | .array _ | .object _ => True
  | _ => False

instance : DecidablePred IsObject := fun value => by
  cases value <;> first | exact isTrue trivial | exact isFalse not_false

/-- `Array.isArray(challenge?.accepts) ? challenge.accepts[0] : null` -/
def offered (challenge : JsValue) : JsValue :=
  match challenge.get (text "accepts") with
  | some accepts => accepts.firstElement
  | none => .null

/-- What the first answer of the vendor comes to: the invoice is settled one way or
the other, or there is an offer to pay. -/
inductive Verdict where
  | settled (outcome : Settled)
  | pay (accept : JsValue)

def unpaid (error : JsString) : Verdict := .settled ⟨false, none, some error⟩

/-- `settleInvoice`, up to the payment. -/
def judge (amount : JsString) (expected : Expected) (first : Response) : Verdict :=
  if first.status = 200 then .settled ⟨true, none, none⟩
  else if first.status ≠ 402 then unpaid (text "unexpected status " ++ decimalDigits first.status)
  else
    match first.json with
    | none => unpaid (text "malformed challenge")
    | some challenge =>
      if ¬ IsObject (offered challenge) then unpaid (text "malformed challenge")
      else
        match mismatchedField casing (offered challenge) amount expected with
        | some mismatch => unpaid (text "challenge mismatch: " ++ mismatch)
        | none => .pay (offered challenge)

structure Invoice where
  vendorUrl : JsString
  jobId : Double
  amount : JsString
  expected : Expected

/-- `JSON.stringify({ jobId, amount })` -/
def Invoice.body (invoice : Invoice) : Option JsString :=
  stringify id (.object [(text "jobId", .number invoice.jobId), (text "amount", .string invoice.amount)])

def Invoice.request (invoice : Invoice) : HttpRequest where
  url := invoice.vendorUrl ++ text "/invoice"
  body := invoice.body
  xPayment := none

/-- The same request, with the payment. -/
def Invoice.retry (invoice : Invoice) (txHash : JsString) : HttpRequest :=
  { invoice.request with xPayment := stringify id (.object [(text "txHash", .string txHash)]) }

variable {Call : Type} {Answer : Call → Type} {ε : Type}

/-- `settleInvoice`, whatever `fetch` and `payFn` do. -/
def settleInvoice (fetch : HttpRequest → Program Call Answer ε Response)
    (payFn : JsValue → Program Call Answer ε JsString) (invoice : Invoice) :
    Program Call Answer ε Settled := do
  let first ← fetch invoice.request
  match judge casing invoice.amount invoice.expected first with
  | .settled outcome => pure outcome
  | .pay accept =>
    let txHash ← payFn accept
    let retry ← fetch (invoice.retry txHash)
    pure ⟨retry.status = 200, some txHash, none⟩

end Settling

/-- The first offer of a challenge asks for exactly the invoice. -/
structure IsExactOffer (casing : LowerCasing) (invoice : Invoice) (challenge accept : JsValue) : Prop where
  first : ∃ rest, challenge.get (text "accepts") = some (.array (accept :: rest))
  object : IsObject accept
  scheme : accept.get (text "scheme") = some (.string (text "exact"))
  asset : ∃ asset, accept.get (text "asset") = some (.string asset) ∧
    casing.toLowerCase asset = casing.toLowerCase invoice.expected.asset
  payTo : ∃ payTo, accept.get (text "payTo") = some (.string payTo) ∧
    casing.toLowerCase payTo = casing.toLowerCase invoice.expected.payTo
  amount : ∃ amount, toBigInt (accept.get (text "amount")) = some amount ∧
    toBigInt (some (.string invoice.amount)) = some amount

section Payment
variable {casing : LowerCasing} {invoice : Invoice} {first : Response} {accept challenge : JsValue}

theorem sameAddress_eq_true {a : Option JsValue} {b : JsString} (same : sameAddress casing a b = true) :
    ∃ address, a = some (.string address) ∧ casing.toLowerCase address = casing.toLowerCase b := by
  unfold sameAddress at same
  split at same
  · exact ⟨_, rfl, of_decide_eq_true same⟩
  · cases same

theorem first_of_isObject (object : IsObject (offered challenge)) :
    ∃ rest, challenge.get (text "accepts") = some (.array (offered challenge :: rest)) := by
  cases found : challenge.get (text "accepts") with
  | none =>
    rw [offered, found] at object
    exact absurd object id
  | some accepts =>
    rw [offered, found] at object ⊢
    cases accepts with
    | array elements =>
      cases elements with
      | nil => exact absurd object id
      | cons first rest => exact ⟨rest, rfl⟩
    | null | bool | number | infinite | bigint | string | object => exact absurd object id

/-- An offer that no field speaks against is the one that was asked for. -/
theorem isExactOffer_of_match (object : IsObject (offered challenge))
    (matched : mismatchedField casing (offered challenge) invoice.amount invoice.expected = none) :
    IsExactOffer casing invoice challenge (offered challenge) := by
  unfold mismatchedField at matched
  split at matched
  · rename_i scheme named
    split at matched
    · cases matched
    rename_i matching
    split at matched
    · cases matched
    rename_i asset
    split at matched
    · cases matched
    rename_i payTo
    split at matched
    · rename_i asked owed here there
      split at matched
      · cases matched
      rename_i same
      rw [not_not] at matching asset payTo same
      exact {
        first := first_of_isObject object
        object
        scheme := matching ▸ named
        asset := sameAddress_eq_true asset
        payTo := sameAddress_eq_true payTo
        amount := ⟨asked, here, same ▸ there⟩ }
    · cases matched
  · cases matched

/-- Only a challenge with an exact offer is paid. -/
theorem judge_pay (pays : judge casing invoice.amount invoice.expected first = .pay accept) :
    first.status = 402 ∧ ∃ challenge, first.json = some challenge ∧
      IsExactOffer casing invoice challenge accept := by
  unfold judge unpaid at pays
  split at pays
  · cases pays
  split at pays
  · cases pays
  rename_i challenged
  split at pays
  · cases pays
  rename_i challenge parsed
  split at pays
  · cases pays
  rename_i object
  split at pays
  · cases pays
  · rename_i matched
    cases pays
    exact ⟨not_not.mp challenged, challenge, parsed, isExactOffer_of_match (not_not.mp object) matched⟩

/-- Without a payment there is no hash, and the invoice is paid only if the vendor
says so at once. -/
theorem judge_settled {outcome : Settled}
    (settled : judge casing invoice.amount invoice.expected first = .settled outcome) :
    outcome.txHash = none ∧ (outcome.paid = true → first.status = 200) := by
  unfold judge unpaid at settled
  split at settled
  · rename_i confirmed
    cases settled
    exact ⟨rfl, fun _ => confirmed⟩
  split at settled
  · cases settled
    exact ⟨rfl, nofun⟩
  split at settled
  · cases settled
    exact ⟨rfl, nofun⟩
  split at settled
  · cases settled
    exact ⟨rfl, nofun⟩
  split at settled
  · cases settled
    exact ⟨rfl, nofun⟩
  · cases settled

end Payment

/-! ## Runs of a settlement -/

/-- What the client awaits. -/
inductive VendorCall where
  | fetch (request : HttpRequest)
  | payFn (accept : JsValue)

/-- Either may resolve with anything, or reject. -/
abbrev VendorCall.Answer (ε : Type) : VendorCall → Type
  | .fetch _ => Except ε Response
  | .payFn _ => Except ε JsString

section Runs
variable {ε : Type}

def fetch (request : HttpRequest) : Program VendorCall (VendorCall.Answer ε) ε Response :=
  .call (.fetch request) Program.ofExcept

def payFn (accept : JsValue) : Program VendorCall (VendorCall.Answer ε) ε JsString :=
  .call (.payFn accept) Program.ofExcept

variable {casing : LowerCasing} {invoice : Invoice}

abbrev Trace (ε : Type) := List (Program.Exchange VendorCall (VendorCall.Answer ε))

/-- How far a settlement can get. -/
inductive Settlement (casing : LowerCasing) (invoice : Invoice) :
    Trace ε → Program VendorCall (VendorCall.Answer ε) ε Settled → Prop where
  | asks (resume) : Settlement casing invoice [] (.call (.fetch invoice.request) resume)
  | unreachable (error : ε) :
      Settlement casing invoice [⟨.fetch invoice.request, .error error⟩] (.fail error)
  | settled {first outcome} (judged : judge casing invoice.amount invoice.expected first = .settled outcome) :
      Settlement casing invoice [⟨.fetch invoice.request, .ok first⟩] (.done outcome)
  | pays {first accept} (judged : judge casing invoice.amount invoice.expected first = .pay accept) (resume) :
      Settlement casing invoice [⟨.fetch invoice.request, .ok first⟩] (.call (.payFn accept) resume)
  | refused {first accept} (judged : judge casing invoice.amount invoice.expected first = .pay accept) (error : ε) :
      Settlement casing invoice [⟨.fetch invoice.request, .ok first⟩, ⟨.payFn accept, .error error⟩]
        (.fail error)
  | retries {first accept} (judged : judge casing invoice.amount invoice.expected first = .pay accept)
      (txHash : JsString) (resume) :
      Settlement casing invoice [⟨.fetch invoice.request, .ok first⟩, ⟨.payFn accept, .ok txHash⟩]
        (.call (.fetch (invoice.retry txHash)) resume)
  | lost {first accept} (judged : judge casing invoice.amount invoice.expected first = .pay accept)
      (txHash : JsString) (error : ε) :
      Settlement casing invoice [⟨.fetch invoice.request, .ok first⟩, ⟨.payFn accept, .ok txHash⟩,
        ⟨.fetch (invoice.retry txHash), .error error⟩] (.fail error)
  | answered {first accept} (judged : judge casing invoice.amount invoice.expected first = .pay accept)
      (txHash : JsString) (retry : Response) :
      Settlement casing invoice [⟨.fetch invoice.request, .ok first⟩, ⟨.payFn accept, .ok txHash⟩,
        ⟨.fetch (invoice.retry txHash), .ok retry⟩] (.done ⟨retry.status = 200, some txHash, none⟩)

/-- Every run of the client is one of these. -/
theorem settlement_of_reaches {trace : Trace ε} {later : Program VendorCall (VendorCall.Answer ε) ε Settled}
    (reaches : (settleInvoice casing fetch payFn invoice).Reaches trace later) :
    Settlement casing invoice trace later := by
  rcases Program.reaches_call.mp reaches with ⟨rfl, rfl⟩ | ⟨answer, rest, rfl, asked⟩
  · exact .asks _
  clear reaches
  cases answer with
  | error error =>
    obtain ⟨rfl, rfl⟩ := Program.reaches_fail.mp asked
    exact .unreachable error
  | ok first =>
    change (match judge casing invoice.amount invoice.expected first with
      | .settled outcome => pure outcome
      | .pay accept => _ : Program VendorCall (VendorCall.Answer ε) ε Settled).Reaches rest later at asked
    cases judged : judge casing invoice.amount invoice.expected first with
    | settled outcome =>
      rw [judged] at asked
      obtain ⟨rfl, rfl⟩ := Program.reaches_done.mp asked
      exact .settled judged
    | pay accept =>
      rw [judged] at asked
      rcases Program.reaches_call.mp asked with ⟨rfl, rfl⟩ | ⟨answer, rest, rfl, paid⟩
      · exact .pays judged _
      clear asked
      cases answer with
      | error error =>
        obtain ⟨rfl, rfl⟩ := Program.reaches_fail.mp paid
        exact .refused judged error
      | ok txHash =>
        rcases Program.reaches_call.mp paid with ⟨rfl, rfl⟩ | ⟨answer, rest, rfl, retried⟩
        · exact .retries judged txHash _
        clear paid
        cases answer with
        | error error =>
          obtain ⟨rfl, rfl⟩ := Program.reaches_fail.mp retried
          exact .lost judged txHash error
        | ok retry =>
          obtain ⟨rfl, rfl⟩ := Program.reaches_done.mp retried
          exact .answered judged txHash retry

def VendorCall.isPayment : VendorCall → Bool
  | .fetch _ => false
  | .payFn _ => true

/-- What is kept to with a vendor that answers as it likes: the payment is made at
most once and only for the exact offer of a challenge, and the outcome says whether
it was made and whether the vendor confirmed it. -/
structure Guarded (ε : Type) (casing : LowerCasing) (invoice : Invoice) : Prop where
  once : ∀ (trace : Trace ε) (later : Program VendorCall (VendorCall.Answer ε) ε Settled),
    (settleInvoice casing fetch payFn invoice).Reaches trace later →
      (trace.countP fun exchange => exchange.1.isPayment) ≤ 1
  matching : ∀ (trace : Trace ε) (accept : JsValue),
    (settleInvoice casing fetch payFn invoice).Makes trace (.payFn accept) →
      ∃ first challenge, trace = [⟨.fetch invoice.request, .ok first⟩] ∧ first.status = 402 ∧
        first.json = some challenge ∧ IsExactOffer casing invoice challenge accept
  unpaid : ∀ (trace : Trace ε) (outcome : Settled),
    (settleInvoice casing fetch payFn invoice).Returns trace outcome →
      (∀ exchange ∈ trace, exchange.1.isPayment = false) →
        outcome.txHash = none ∧ (outcome.paid = true →
          ∃ first, trace = [⟨.fetch invoice.request, .ok first⟩] ∧ first.status = 200)
  paid : ∀ (trace : Trace ε) (outcome : Settled),
    (settleInvoice casing fetch payFn invoice).Returns trace outcome →
      (∃ exchange ∈ trace, exchange.1.isPayment = true) →
        ∃ first accept txHash retry, trace =
          [⟨.fetch invoice.request, .ok first⟩, ⟨.payFn accept, .ok txHash⟩,
            ⟨.fetch (invoice.retry txHash), .ok retry⟩] ∧
          outcome.txHash = some txHash ∧ (outcome.paid = true ↔ retry.status = 200)

/-- **Guarding.** Each shape of a run keeps to it. -/
theorem guarded (ε : Type) (casing : LowerCasing) (invoice : Invoice) : Guarded ε casing invoice where
  once trace later reaches := by
    cases settlement_of_reaches reaches <;> exact Nat.le_of_ble_eq_true rfl
  matching trace accept makes := by
    obtain ⟨resume, reaches⟩ := makes
    cases settlement_of_reaches reaches with
    | pays judged =>
      obtain ⟨challenged, challenge, parsed, offer⟩ := judge_pay judged
      exact ⟨_, challenge, rfl, challenged, parsed, offer⟩
  unpaid trace outcome returns quiet := by
    cases settlement_of_reaches returns with
    | settled judged =>
      obtain ⟨unsent, confirmed⟩ := judge_settled judged
      exact ⟨unsent, fun paid => ⟨_, rfl, confirmed paid⟩⟩
    | @answered first accept judged txHash retry =>
      have made := quiet ⟨.payFn accept, .ok txHash⟩ (by simp)
      cases made
  paid trace outcome returns made := by
    obtain ⟨exchange, member, payment⟩ := made
    cases settlement_of_reaches returns with
    | settled judged =>
      obtain rfl := List.mem_singleton.mp member
      cases payment
    | answered judged txHash retry =>
      exact ⟨_, _, txHash, retry, rfl, rfl, decide_eq_true_iff⟩

end Runs

end PassportKit.X402
