import PassportKit.Concierge
import PassportKit.JsonParse

/-! `api/demo/vendor/invoice`: the plumber of the demo, who speaks x402. A job is
offered for what it costs, and done for whoever names a transaction that paid for it;
what the customer says of that transaction counts for nothing, the chain is asked. -/
namespace PassportKit.VendorInvoice
open Evm Eip712 Js Interaction DemoChain
open Concierge (notAnInteger)
open Evidence (toJsonSafe)
open Refusals (Thrown bytesToHex)
open X402 (HttpRequest Response)

structure HttpResponse where
  status : ℕ
  body : JsString
  deriving DecidableEq

/-- An answer as `fetch` resolves with it. -/
def HttpResponse.received (response : HttpResponse) : Response := ⟨response.status, parse response.body⟩

/-- `jsonResponse`: its replacer leaves nothing that has no text. -/
def jsonResponse (status : ℕ) (body : JsValue) : HttpResponse := ⟨status, (stringify toJsonSafe body).getD []⟩

def demoDisabledResponse : HttpResponse := jsonResponse 403 (.object [
  (text "ok", .bool false),
  (text "reason", .string (text "DEMO_DISABLED")),
  (text "message", .string (text "demo runtime disabled — set DEMO_MODE=true to enable /api/demo/*"))])

/-- What `failure` returns, as the body of an answer. -/
def failureBody (refusal : Failure) : JsValue := .object [
  (text "ok", .bool false),
  (text "reason", .string refusal.reason),
  (text "wallet", refusal.wallet.elim .null .string),
  (text "message", .string refusal.message)]

/-- A property that is left out where the value is undefined. -/
def whereDefined (key : JsString) (value : Option JsValue) : Properties := (value.map fun value => (key, value)).toList

theorem representable_one : toDouble |1| = some |1| := by decide +kernel

def x402Version : Double := ⟨1, representable_one⟩

structure Log where
  address : JsString
  topics : List JsString
  data : JsString
  deriving DecidableEq

inductive ReceiptStatus where
  | success
  | reverted
  deriving DecidableEq

structure Receipt where
  status : ReceiptStatus
  logs : List Log
  deriving DecidableEq

inductive VendorCall where
  | getTransactionReceipt (hash : JsString)

abbrev VendorCall.Answer : VendorCall → Type
  | .getTransactionReceipt _ => Except Thrown Receipt

abbrev VendorHandler (α : Type) := Program VendorCall VendorCall.Answer Thrown α

def getTransactionReceipt (hash : JsString) : VendorHandler Receipt := .call (.getTransactionReceipt hash) .ofExcept

/-- `[0-9a-fA-F]` -/
def IsHexUnit (c : UInt16) : Prop := ∃ digit ∈ digitWorth c, digit < 16

instance (c : UInt16) : Decidable (IsHexUnit c) := inferInstanceAs (Decidable (∃ digit, digit ∈ digitWorth c ∧ _))

/-- `TX_HASH` -/
def IsTxHash (s : JsString) : Prop := text "0x" <+: s ∧ s.length = 66 ∧ ∀ c ∈ s.drop 2, IsHexUnit c

instance (s : JsString) : Decidable (IsTxHash s) := inferInstanceAs (Decidable (_ ∧ _ ∧ _))

/-- `pad(hex, { size: 32 })`, of at most 32 bytes. -/
def pad (hex : JsString) : JsString := text "0x" ++ (List.replicate (64 - (hex.drop 2).length) 48 ++ hex.drop 2)

section Route
variable [Crypto Bytes32] (client : Client) (world : DemoAddresses)

def transferTopic : Bytes32 := keccak256 (packed (ascii "Transfer(address,address,uint256)"))

def TRANSFER_TOPIC : JsString := bytesToHex (word transferTopic)

/-- The body of a 402: one offer, for whatever amount was asked for. -/
def challenge (amount : Option JsValue) : HttpResponse := jsonResponse 402 (.object [
  (text "x402Version", .number x402Version),
  (text "accepts", .array [.object ([
    (text "scheme", .string (text "exact")),
    (text "network", .string (text "eip155-local")),
    (text "asset", .string (client.checksumAddress world.musd))] ++
    whereDefined (text "amount") amount ++
    [(text "payTo", .string (client.checksumAddress (world.actorAddress .plumber)))])])])

/-- `BigInt` of a string; at no string at all something has thrown before. -/
def bigIntOf (s : Option JsString) : Except Thrown ℤ := (s.bind stringToBigInt).elim (.error notAnInteger) .ok

/-- `BigInt(String(amount))` -/
def wanted (amount : Option JsValue) : Except Thrown ℤ :=
  bigIntOf (amount.elim (some (text "undefined")) JsValue.toText)

/-- The test a log has to pass; `BigInt(log.data)` throws at data that is no number. -/
def creditsPlumber (want : ℤ) (log : Log) : Except Thrown Bool :=
  if client.toLowerCase log.address ≠ client.toLowerCase (client.checksumAddress world.musd) then .ok false
  else if log.topics[0]? ≠ some TRANSFER_TOPIC then .ok false
  else if log.topics[2]?.map client.toLowerCase ≠
      some (client.toLowerCase (pad (client.checksumAddress (world.actorAddress .plumber)))) then .ok false
  else (bigIntOf (some log.data)).map fun data => want ≤ data

/-- `logs.some`: the logs behind the first that passes are not looked at. -/
def someCredits (want : ℤ) : List Log → Except Thrown Bool
  | [] => .ok false
  | log :: rest => do
    let credits ← creditsPlumber client world want log
    if credits then return true else someCredits want rest

/-- What `verifyPayment` tries. -/
def lookUp (hash : JsString) (amount : Option JsValue) : VendorHandler Bool := do
  let want ← .ofExcept (wanted amount)
  let receipt ← getTransactionReceipt hash
  if receipt.status ≠ .success then pure false else .ofExcept (someCredits client world want receipt.logs)

def verifyPayment (txHash amount : Option JsValue) : VendorHandler Bool :=
  match txHash with
  | some (.string hash) =>
    if IsTxHash hash then (lookUp client world hash amount).catching fun _ => pure false else pure false
  | _ => pure false

/-- `({ txHash } = JSON.parse(header))`, nothing where it throws. -/
def paymentOf (header : JsString) : Option (Option JsValue) :=
  match parse header with
  | none => none
  | some .null => none
  | some payment => some (payment.get (text "txHash"))

/-- `req.json().catch(() => ({}))` -/
def bodyOf (request : HttpRequest) : JsValue := (request.body.bind parse).getD (.object [])

/-- The answer to a payment that is or is not good for the job. -/
def judgePayment (jobId amount : Option JsValue) (header : JsString) : VendorHandler HttpResponse :=
  match paymentOf header with
  | none => pure (challenge client world amount)
  | some txHash => do
    let paid ← verifyPayment client world txHash amount
    if paid then pure (jsonResponse 200 (.object ((text "paid", .bool true) :: whereDefined (text "jobId") jobId)))
    else pure (challenge client world amount)

/-- What `const { jobId, amount } = null` throws. -/
def cannotDestructure : Thrown :=
  ⟨none, text "Cannot destructure property 'jobId' of '(intermediate value)' as it is null.", []⟩

def handle (request : HttpRequest) : VendorHandler HttpResponse :=
  match bodyOf request with
  | .null => .fail cannotDestructure
  | body =>
    match request.xPayment with
    | none => pure (challenge client world (body.get (text "amount")))
    | some header =>
      if header = [] then pure (challenge client world (body.get (text "amount")))
      else judgePayment client world (body.get (text "jobId")) (body.get (text "amount")) header

def POST (demoEnabled : Bool) (request : HttpRequest) : VendorHandler HttpResponse :=
  if demoEnabled then
    (handle client world request).catching fun err => pure (jsonResponse 500 (failureBody (failure client err)))
  else pure demoDisabledResponse

end Route

/-- A number in hexadecimal, at a width. -/
def hexText (width number : ℕ) : JsString := text "0x" ++ (Hex.digits width number).map charUnit

theorem bytesToHex_bigEndian (width number : ℕ) :
    bytesToHex (bigEndian width number) = hexText (2 * width) number := by
  rw [bytesToHex, hexText]
  congr 1
  induction width generalizing number with
  | zero => rfl
  | succ width ih =>
    have byte : (UInt8.ofNat number).toNat = number % 256 := UInt8.toNat_ofNat'
    have low : number % 256 % 16 = number % 16 := Nat.mod_mod_of_dvd number (by decide)
    have high : number % 256 / 16 % 16 = number / 16 % 16 := by omega
    have last : Hex.digits 2 (number % 256) = [Nat.digitChar (number / 16 % 16), Nat.digitChar (number % 16)] := by
      rw [← high, ← low]
      rfl
    have whole : Hex.digits (2 * (width + 1)) number =
        Hex.digits (2 * width) (number / 16 / 16) ++
          [Nat.digitChar (number / 16 % 16), Nat.digitChar (number % 16)] := by
      rw [show 2 * (width + 1) = 2 * width + 1 + 1 by ring, Hex.digits, Hex.digits, List.append_assoc]
      rfl
    rw [bigEndian, List.flatMap_append, ih, List.flatMap_singleton, byte, last, whole, Nat.div_div_eq_div_mul,
      List.map_append]

theorem bytesToHex_word (value : Uint256) : bytesToHex (word value) = hexText 64 value.toNat :=
  bytesToHex_bigEndian 32 value.toNat

theorem addressText_eq (account : Address) : addressText account = hexText 40 account.bits.toNat :=
  bytesToHex_bigEndian 20 account.bits.toNat

theorem bytesToHex_word_injective : Function.Injective fun value : Uint256 => bytesToHex (word value) := by
  intro first second same
  have bytes : some (word first) = some (word second) := by
    rw [← Refusals.Library.hexToBytes_bytesToHex, ← Refusals.Library.hexToBytes_bytesToHex]
    exact congrArg Refusals.Library.hexToBytes same
  exact word_injective (Option.some.inj bytes)

theorem hexText_units {width number : ℕ} {c : UInt16} (member : c ∈ hexText width number) :
    c = 48 ∨ c = 120 ∨ ∃ digit < 16, c = charUnit (Nat.digitChar digit) := by
  rcases List.mem_append.mp member with sign | digits
  · rcases List.mem_pair.mp sign with rfl | rfl
    · exact .inl rfl
    · exact .inr (.inl rfl)
  · obtain ⟨character, inside, rfl⟩ := List.mem_map.mp digits
    obtain ⟨digit, small, rfl⟩ := Hex.mem_digits inside
    exact .inr (.inr ⟨digit, small, rfl⟩)

/-- Every unit of a number in hexadecimal passes a test that the sixteen digits and the sign pass. -/
theorem hexText_forall {P : UInt16 → Prop} [DecidablePred P]
    (each : P 48 ∧ P 120 ∧ ∀ digit < 16, P (charUnit (Nat.digitChar digit))) (width number : ℕ) :
    ∀ c ∈ hexText width number, P c := by
  intro c member
  rcases hexText_units member with rfl | rfl | ⟨digit, small, rfl⟩
  · exact each.1
  · exact each.2.1
  · exact each.2.2 digit small

/-- `BigInt` reads a number in hexadecimal. -/
theorem stringToBigInt_hexText {width : ℕ} (wide : 0 < width) (number : ℕ) :
    stringToBigInt (hexText width number) = some ((number % 16 ^ width : ℕ) : ℤ) := by
  have plain := trim_eq_self (hexText_forall (P := fun c => ¬ IsSpace c) (by decide) width number)
  have digits : (Hex.digits width number).map charUnit ≠ [] := by
    intro none
    have length := congrArg List.length none
    simp only [List.length_map, Hex.length_digits, List.length_nil] at length
    omega
  have shape : hexText width number = 48 :: 120 :: (Hex.digits width number).map charUnit := rfl
  unfold stringToBigInt
  rw [plain, shape]
  change (readInteger 16 ((Hex.digits width number).map charUnit)).map Int.ofNat = _
  rw [readInteger, if_neg digits, readDigits_hex, zero_mul, zero_add]
  rfl

/-- A number in hexadecimal is written in lower case. -/
theorem toLowerCase_hexText (casing : X402.LowerCasing) (width number : ℕ) :
    casing.toLowerCase (hexText width number) = hexText width number := by
  rw [casing.ascii _ (hexText_forall (by decide) width number)]
  apply (List.map_congr_left fun c member => ?_).trans (List.map_id _)
  exact if_neg (hexText_forall (P := fun c => ¬ (65 ≤ c.toNat ∧ c.toNat ≤ 90)) (by decide) width number c member)

/-- A log, as a contract emits it. -/
structure EvmLog where
  address : Address
  topics : List Bytes32
  data : Bytes
  deriving DecidableEq

/-- The client library shows a log in hexadecimal; an address may be in either case. -/
structure Shows (client : Client) (log : EvmLog) (shown : Log) : Prop where
  address : client.toLowerCase shown.address = addressText log.address
  topics : shown.topics = log.topics.map fun topic => bytesToHex (word topic)
  data : shown.data = bytesToHex log.data

/-- `Transfer(from, to, value)` of a token. -/
def transferLog [Crypto Bytes32] (token sender recipient : Address) (value : Uint256) : EvmLog where
  address := token
  topics := [transferTopic, addressWord sender, addressWord recipient]
  data := word value

/-- A checksummed address is one in ASCII. -/
def ChecksumsAscii (client : Client) : Prop :=
  ∀ account, ∃ digits, client.checksumAddress account = text "0x" ++ digits ∧ ∀ c ∈ digits, c.toNat < 128

/-- What the third topic is compared with is the word of the plumber's address. -/
theorem lower_pad {client : Client} (documented : client.Documented) (spelled : ChecksumsAscii client)
    (account : Address) :
    client.toLowerCase (pad (client.checksumAddress account)) = bytesToHex (word (addressWord account)) := by
  obtain ⟨digits, shape, ascii⟩ := spelled account
  have sign : ∀ c ∈ text "0x", c.toNat < 128 := forall_units (by decide)
  have lower := documented.checksums account
  have units : ∀ c ∈ text "0x" ++ digits, c.toNat < 128 := fun c member =>
    (List.mem_append.mp member).elim (sign c) (ascii c)
  rw [shape, client.ascii _ units, List.map_append, addressText_eq, hexText] at lower
  have small := List.append_cancel_left (show text "0x" ++ digits.map _ = text "0x" ++ _ from lower)
  have length : digits.length = 40 := by
    have mapped := congrArg List.length small
    simpa using mapped
  have fits : account.bits.toNat < 16 ^ 40 := lt_of_lt_of_le account.bits.isLt (by norm_num)
  have value : (addressWord account).toNat = account.bits.toNat := by
    rw [addressWord, BitVec.toNat_setWidth, Nat.mod_eq_of_lt (lt_trans account.bits.isLt (by norm_num))]
  have dropped : (client.checksumAddress account).drop 2 = digits := by
    rw [shape]
    rfl
  have zeros : ∀ c ∈ List.replicate 24 (48 : UInt16), c.toNat < 128 := by
    intro c member
    obtain rfl := List.eq_of_mem_replicate member
    decide
  have padded : ∀ c ∈ text "0x" ++ (List.replicate 24 48 ++ digits), c.toNat < 128 := fun c member =>
    (List.mem_append.mp member).elim (sign c) fun rest => (List.mem_append.mp rest).elim (zeros c) (ascii c)
  rw [pad, dropped, length, client.ascii _ padded, List.map_append, List.map_append, small, bytesToHex_word, value,
    hexText, Hex.digits_add 24 40 fits, List.map_append, List.map_replicate]
  rfl

section Shown
variable [Crypto Bytes32] {client : Client} {world : DemoAddresses} {log : EvmLog} {shown : Log}

/-- The log of a payment to the plumber, of any amount. -/
def IsPlumberTransfer (world : DemoAddresses) (log : EvmLog) (value : Uint256) : Prop :=
  ∃ sender, log = transferLog world.musd sender (world.actorAddress .plumber) value

/-- The settlement token logs nothing under the topic of a transfer but its transfers. -/
def Logs (world : DemoAddresses) (log : EvmLog) : Prop :=
  log.address = world.musd → log.topics[0]? = some transferTopic →
    ∃ sender recipient value, log = transferLog world.musd sender recipient value

theorem creditsPlumber_shown (documented : client.Documented) (spelled : ChecksumsAscii client)
    (shows : Shows client log shown) (logs : Logs world log) (want : ℤ) :
    ∃ credits, creditsPlumber client world want shown = .ok credits ∧
      (credits = true ↔ ∃ value, IsPlumberTransfer world log value ∧ want ≤ value.toNat) := by
  have other {value : Uint256} (paid : IsPlumberTransfer world log value) : log.address = world.musd ∧
      log.topics = [transferTopic, log.topics[1]?.getD 0, addressWord (world.actorAddress .plumber)] := by
    obtain ⟨sender, rfl⟩ := paid
    exact ⟨rfl, rfl⟩
  unfold creditsPlumber
  split
  · rename_i elsewhere
    refine ⟨false, rfl, iff_of_false Bool.false_ne_true ?_⟩
    rintro ⟨value, paid, -⟩
    rw [shows.address, documented.checksums, (other paid).1] at elsewhere
    exact elsewhere rfl
  rename_i here
  rw [not_not, shows.address, documented.checksums] at here
  split
  · rename_i unrelated
    refine ⟨false, rfl, iff_of_false Bool.false_ne_true ?_⟩
    rintro ⟨value, paid, -⟩
    rw [shows.topics, (other paid).2] at unrelated
    exact unrelated rfl
  rename_i transfer
  have topic : log.topics[0]? = some transferTopic := by
    rw [not_not, shows.topics, List.getElem?_map] at transfer
    obtain ⟨found, there, same⟩ := Option.map_eq_some_iff.mp transfer
    rw [there, bytesToHex_word_injective same]
  obtain ⟨sender, recipient, value, rfl⟩ := logs (addressText_injective here) topic
  have third : shown.topics[2]?.map client.toLowerCase = some (bytesToHex (word (addressWord recipient))) := by
    rw [shows.topics]
    change some (client.toLowerCase (bytesToHex (word (addressWord recipient)))) = _
    rw [bytesToHex_word, toLowerCase_hexText]
  have named {amount : Uint256}
      (paid : IsPlumberTransfer world (transferLog world.musd sender recipient value) amount) :
      recipient = world.actorAddress .plumber ∧ value = amount := by
    obtain ⟨payer, same⟩ := paid
    simp only [transferLog, EvmLog.mk.injEq, List.cons.injEq, and_true, true_and] at same
    exact ⟨addressWord_injective same.1.2, word_injective same.2⟩
  split
  · rename_i somebody
    rw [third, lower_pad documented spelled] at somebody
    refine ⟨false, rfl, iff_of_false Bool.false_ne_true ?_⟩
    rintro ⟨amount, paid, -⟩
    exact somebody (by rw [(named paid).1])
  · rename_i plumber
    rw [not_not, third, lower_pad documented spelled, Option.some.injEq] at plumber
    have payee := addressWord_injective (bytesToHex_word_injective plumber)
    have amount : stringToBigInt shown.data = some (value.toNat : ℤ) := by
      have small : value.toNat % 16 ^ 64 = value.toNat := Nat.mod_eq_of_lt (lt_of_lt_of_le value.isLt (by norm_num))
      rw [shows.data]
      change stringToBigInt (bytesToHex (word value)) = _
      rw [bytesToHex_word, stringToBigInt_hexText (by decide), small]
    refine ⟨want ≤ value.toNat, by rw [bigIntOf, Option.bind_some, amount]; rfl, ?_⟩
    rw [decide_eq_true_iff]
    constructor
    · exact fun enough => ⟨value, ⟨sender, by rw [payee]⟩, enough⟩
    · rintro ⟨other, paid, enough⟩
      rwa [(named paid).2]

/-- Among the logs of a receipt. -/
theorem someCredits_shown (documented : client.Documented) (spelled : ChecksumsAscii client) {logs : List EvmLog}
    {shown : List Log} (shows : List.Forall₂ (Shows client) logs shown) (token : ∀ log ∈ logs, Logs world log)
    (want : ℤ) :
    ∃ credits, someCredits client world want shown = .ok credits ∧
      (credits = true ↔ ∃ log ∈ logs, ∃ value, IsPlumberTransfer world log value ∧ want ≤ value.toNat) := by
  induction shows with
  | nil => exact ⟨false, rfl, by simp⟩
  | @cons log shown logs others here later ih =>
    obtain ⟨credits, tested, iff⟩ :=
      creditsPlumber_shown documented spelled here (token log List.mem_cons_self) want
    obtain ⟨rest, tested', iff'⟩ := ih fun other member => token other (List.mem_cons_of_mem _ member)
    rw [someCredits, tested]
    cases credits with
    | true => exact ⟨true, rfl, iff_of_true rfl ⟨log, List.mem_cons_self, iff.mp rfl⟩⟩
    | false =>
      refine ⟨rest, tested', iff'.trans ?_⟩
      rw [List.exists_mem_cons_iff, or_iff_right fun paid => Bool.false_ne_true (iff.mpr paid)]

end Shown

/-! ## Verdicts -/

/-- The chain as a customer of the vendor finds it at one moment. -/
def answers (receipts : JsString → Except Thrown Receipt) : ∀ request, VendorCall.Answer request
  | .getTransactionReceipt hash => receipts hash

/-- What a request says was paid: a transaction, for a job at some price. -/
structure Claims (request : HttpRequest) (hash : JsString) (want : ℤ) : Prop where
  payment : ∃ header payment, request.xPayment = some header ∧ parse header = some payment ∧
    payment.get (text "txHash") = some (.string hash)
  hash : IsTxHash hash
  want : wanted ((bodyOf request).get (text "amount")) = .ok want

theorem Claims.unique {request : HttpRequest} {hash other : JsString} {want price : ℤ}
    (claims : Claims request hash want)
    (claims' : Claims request other price) : hash = other ∧ want = price := by
  obtain ⟨⟨header, payment, given, parsed, named⟩, -, wants⟩ := claims
  obtain ⟨⟨header', payment', given', parsed', named'⟩, -, wants'⟩ := claims'
  rw [given, Option.some.injEq] at given'
  subst given'
  rw [parsed, Option.some.injEq] at parsed'
  subst parsed'
  rw [named, Option.some.injEq, JsValue.string.injEq] at named'
  rw [wants, Except.ok.injEq] at wants'
  exact ⟨named', wants'⟩

section Verdicts
variable [Crypto Bytes32] {client : Client} {world : DemoAddresses} {receipts : JsString → Except Thrown Receipt}

/-- What a payment that is looked up is found to be. -/
structure Found (client : Client) (world : DemoAddresses) (receipts : JsString → Except Thrown Receipt)
    (hash : JsString)
    (want : ℤ) : Prop where
  receipt : ∃ receipt, receipts hash = .ok receipt ∧ receipt.status = .success ∧
    someCredits client world want receipt.logs = .ok true

omit [Crypto Bytes32] in
@[simp] theorem run_getTransactionReceipt (hash : JsString) :
    (getTransactionReceipt hash).run (answers receipts) = receipts hash :=
  Program.run_ofExcept _ (receipts hash)

theorem run_lookUp {hash : JsString} {amount : Option JsValue} :
    (lookUp client world hash amount).run (answers receipts) = .ok true ↔
      ∃ want, wanted amount = .ok want ∧ Found client world receipts hash want := by
  unfold lookUp
  rw [Program.run_bind, Program.run_ofExcept]
  cases wants : wanted amount with
  | error err =>
    refine iff_of_false (fun same => by cases same) ?_
    rintro ⟨want, same, -⟩
    cases same
  | ok want =>
    change (getTransactionReceipt hash >>= _ : VendorHandler Bool).run (answers receipts) = .ok true ↔ _
    rw [Program.run_bind, run_getTransactionReceipt]
    cases shown : receipts hash with
    | error err =>
      refine iff_of_false (fun same => by cases same) ?_
      rintro ⟨price, -, receipt, found, -⟩
      rw [shown] at found
      cases found
    | ok receipt =>
      change Program.run (answers receipts) (if receipt.status ≠ .success then pure false
        else .ofExcept (someCredits client world want receipt.logs)) = .ok true ↔ _
      split
      · rename_i reverted
        refine iff_of_false (fun same => by cases same) ?_
        rintro ⟨price, -, other, found, succeeded, -⟩
        rw [shown, Except.ok.injEq] at found
        exact reverted (found ▸ succeeded)
      · rename_i succeeded
        rw [Program.run_ofExcept]
        constructor
        · exact fun credits => ⟨want, rfl, receipt, shown, not_not.mp succeeded, credits⟩
        · rintro ⟨price, same, other, found, -, credits⟩
          rw [Except.ok.injEq] at same
          rw [shown, Except.ok.injEq] at found
          rwa [same, found]

/-- What is looked up is answered, whatever is thrown. -/
theorem run_verifyPayment (txHash amount : Option JsValue) : ∃ paid,
    (verifyPayment client world txHash amount).run (answers receipts) = .ok paid ∧
      (paid = true ↔ ∃ hash want, txHash = some (.string hash) ∧ IsTxHash hash ∧ wanted amount = .ok want ∧
        Found client world receipts hash want) := by
  unfold verifyPayment
  split
  · rename_i hash
    split
    · rename_i named
      rw [Program.run_catching]
      have found := @run_lookUp _ client world receipts hash amount
      have same (want : ℤ) : (∃ other price, some (JsValue.string hash) = some (.string other) ∧
          IsTxHash other ∧ wanted amount = .ok price ∧ Found client world receipts other price) ↔
          ∃ want, wanted amount = .ok want ∧ Found client world receipts hash want := by
        constructor
        · rintro ⟨other, price, same, -, wants, found⟩
          rw [Option.some.injEq, JsValue.string.injEq] at same
          exact ⟨price, wants, same ▸ found⟩
        · rintro ⟨price, wants, found⟩
          exact ⟨hash, price, rfl, named, wants, found⟩
      rw [same 0, ← found]
      cases (lookUp client world hash amount).run (answers receipts) with
      | ok paid => exact ⟨paid, rfl, by rw [Except.ok.injEq]⟩
      | error err => exact ⟨false, rfl, iff_of_false Bool.false_ne_true fun same => by cases same⟩
    · rename_i unnamed
      refine ⟨false, rfl, iff_of_false Bool.false_ne_true ?_⟩
      rintro ⟨other, price, same, named, -⟩
      cases same
      exact unnamed named
  · rename_i unnamed
    refine ⟨false, rfl, iff_of_false Bool.false_ne_true ?_⟩
    rintro ⟨other, price, same, -⟩
    exact unnamed other same

theorem run_judgePayment (jobId amount : Option JsValue) (header : JsString) : ∃ response,
    (judgePayment client world jobId amount header).run (answers receipts) = .ok response ∧
      (response.status = 200 ↔ ∃ payment hash want, parse header = some payment ∧
        payment.get (text "txHash") = some (.string hash) ∧ IsTxHash hash ∧ wanted amount = .ok want ∧
          Found client world receipts hash want) := by
  have challenged : (challenge client world amount).status ≠ 200 := by
    intro same
    cases same
  unfold judgePayment paymentOf
  cases parsed : parse header with
  | none =>
    refine ⟨_, rfl, iff_of_false challenged ?_⟩
    rintro ⟨payment, hash, want, same, -⟩
    cases same
  | some payment =>
    obtain ⟨paid, ran, verdict⟩ :=
      @run_verifyPayment _ client world receipts (payment.get (text "txHash")) amount
    have told : (∃ other hash want, some payment = some other ∧ other.get (text "txHash") = some (.string hash) ∧
        IsTxHash hash ∧ wanted amount = .ok want ∧ Found client world receipts hash want) ↔ paid = true := by
      rw [verdict]
      constructor
      · rintro ⟨other, hash, want, same, rest⟩
        rw [Option.some.injEq] at same
        exact ⟨hash, want, same ▸ rest⟩
      · rintro ⟨hash, want, rest⟩
        exact ⟨payment, hash, want, rfl, rest⟩
    cases payment with
    | null =>
      refine ⟨_, rfl, iff_of_false challenged ?_⟩
      rintro ⟨payment, hash, want, same, named, -⟩
      cases same
      cases named
    | bool | number | infinite | bigint | string | array | object =>
      rw [told]
      change ∃ response, (verifyPayment client world _ amount >>= _ : VendorHandler HttpResponse).run
        (answers receipts) = .ok response ∧ _
      rw [Program.run_bind, ran]
      cases paid with
      | true => exact ⟨_, rfl, iff_of_true rfl rfl⟩
      | false => exact ⟨_, rfl, iff_of_false challenged Bool.false_ne_true⟩

/-- **Verdicts.** Every request is answered, and with a 200 exactly when the transaction
it names is found to have paid for the job. -/
theorem run_POST (request : HttpRequest) : ∃ response,
    (POST client world true request).run (answers receipts) = .ok response ∧
      (response.status = 200 ↔ ∃ hash want, Claims request hash want ∧
        Found client world receipts hash want) := by
  have challenged (amount : Option JsValue) : (challenge client world amount).status ≠ 200 := by
    intro same
    cases same
  unfold POST
  rw [if_pos rfl, Program.run_catching]
  unfold handle
  split
  · rename_i nothing
    refine ⟨_, rfl, iff_of_false (fun same => by cases same) ?_⟩
    rintro ⟨hash, want, claims, -⟩
    have wants := claims.want
    have undefined : wanted (JsValue.null.get (text "amount")) = .error notAnInteger := rfl
    rw [nothing, undefined] at wants
    cases wants
  · split
    · rename_i unpaid
      refine ⟨_, rfl, iff_of_false (challenged _) ?_⟩
      rintro ⟨hash, want, ⟨⟨header, payment, given, -⟩, -⟩, -⟩
      rw [unpaid] at given
      cases given
    · rename_i header given
      split
      · rename_i empty
        refine ⟨_, rfl, iff_of_false (challenged _) ?_⟩
        rintro ⟨hash, want, ⟨⟨other, payment, given', parsed, -⟩, -⟩, -⟩
        rw [given, Option.some.injEq] at given'
        have nothing : parse [] = none := by decide
        rw [← given', empty, nothing] at parsed
        cases parsed
      · obtain ⟨response, ran, verdict⟩ := @run_judgePayment _ client world receipts
          ((bodyOf request).get (text "jobId")) ((bodyOf request).get (text "amount")) header
        refine ⟨response, by rw [ran]; rfl, verdict.trans ?_⟩
        constructor
        · rintro ⟨payment, hash, want, parsed, named, isHash, wants, found⟩
          exact ⟨hash, want, ⟨⟨header, payment, given, parsed, named⟩, isHash, wants⟩, found⟩
        · rintro ⟨hash, want, ⟨⟨other, payment, given', parsed, named⟩, isHash, wants⟩, found⟩
          rw [given, Option.some.injEq] at given'
          subst given'
          exact ⟨payment, hash, want, parsed, named, isHash, wants, found⟩

end Verdicts

end PassportKit.VendorInvoice
