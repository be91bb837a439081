import PassportKit.Evidence
import PassportKit.HouseTreasury
import PassportKit.Refusals
import PassportKit.X402

/-! `chain.ts`: how the demo reads the chain and writes to it. A write is simulated,
sent and waited for, and each of these may fail after the one before took effect,
so that the caller is told of a failure while the transaction stands. -/
namespace PassportKit.DemoChain
open Evm Js Interaction
open Refusals (Thrown decodeThrown)
open X402 (HttpRequest Response)

inductive DemoActor where
  | operator
  | ana
  | rui
  | concierge
  | plumber
  deriving DecidableEq

/-- The house owners. -/
def OWNERS : List DemoActor := [.operator, .ana]

/-- What a write takes from the library beside the decoder: the encoders of its
arguments, which throw, and the text of a `Buffer`. -/
structure Client extends Refusals.Viem, X402.LowerCasing where
  encodeAddress : Option JsValue → Except Thrown Address
  encodeUint256 : ℤ → Except Thrown Uint256
  encodeInt256 : ℤ → Except Thrown Int256
  parseEther : JsString → Except Thrown ℤ
  utf8ToString : Bytes → JsString

/-- An address in lower case. -/
def addressText (account : Address) : JsString := Refusals.bytesToHex (bigEndian 20 account.bits.toNat)

/-- What is encoded was the text of an address in hexadecimal digits, of either case;
a checksummed address is one; and a number is encoded by its value, if it fits. -/
structure Client.Documented (client : Client) : Prop where
  encodes : ∀ address account, client.encodeAddress (some (.string address)) = .ok account →
    client.toLowerCase address = addressText account
  checksums : ∀ account, client.toLowerCase (client.checksumAddress account) = addressText account
  uint256 : ∀ value encoded, client.encodeUint256 value = .ok encoded → (encoded.toNat : ℤ) = value
  fits : ∀ value, 0 ≤ value → value < 2 ^ 256 → ∃ encoded, client.encodeUint256 value = .ok encoded

theorem addressText_injective : Function.Injective addressText := by
  intro first second same
  have bytes : some (bigEndian 20 first.bits.toNat) = some (bigEndian 20 second.bits.toNat) := by
    rw [← Refusals.Library.hexToBytes_bytesToHex, ← Refusals.Library.hexToBytes_bytesToHex]
    exact congrArg Refusals.Library.hexToBytes same
  have numbers := congrArg ofBigEndian (Option.some.inj bytes)
  rw [ofBigEndian_bigEndian, ofBigEndian_bigEndian] at numbers
  have bound := first.bits.isLt
  have bound' := second.bits.isLt
  apply Address.bits_injective
  apply BitVec.eq_of_toNat_eq
  omega

structure Failure where
  reason : JsString
  wallet : Option JsString
  message : JsString
  deriving DecidableEq

/-- `String(e?.shortMessage ?? e?.message ?? err).slice(0, 300)` -/
def shown (err : Thrown) : JsString := (err.shortMessage.getD err.message).take 300

/-- `${a.slice(0, 6)}…${a.slice(-4)}` -/
def short (a : JsString) : JsString := a.take 6 ++ text "…" ++ a.drop (a.length - 4)

def failure (client : Client) (err : Thrown) : Failure :=
  match decodeThrown client.toViem err with
  | some refusal =>
    { reason := refusal.reason
      wallet := some refusal.wallet
      message := text "Refused(" ++ short refusal.wallet ++ text ", " ++ refusal.reason ++ text ")" }
  | none => { reason := text "ERROR", wallet := none, message := shown err }

def bytes32ToString (client : Client) (value : Bytes32) : JsString :=
  Refusals.stripNuls (client.utf8ToString (word value))

namespace Library

def lowerUnit (c : UInt16) : UInt16 := if 65 ≤ c.toNat ∧ c.toNat ≤ 90 then c + 32 else c

def invalidAddress : Thrown := ⟨none, text "Address is invalid.", []⟩

def outOfRange : Thrown := ⟨none, text "Number is not in safe range.", []⟩

/-- The account a text in lower case is that of. -/
def readAddress (address : JsString) : Option Address :=
  ((Refusals.Library.hexToBytes address).map fun bytes => ⟨BitVec.ofNat 160 (ofBigEndian bytes)⟩).filter
    fun account => addressText account = address

def encodeAddress : Option JsValue → Except Thrown Address
  | some (.string address) => (readAddress (address.map lowerUnit)).elim (.error invalidAddress) .ok
  | _ => .error invalidAddress

def encodeUint256 (value : ℤ) : Except Thrown Uint256 :=
  if 0 ≤ value ∧ value < 2 ^ 256 then .ok (BitVec.ofInt 256 value) else .error outOfRange

def encodeInt256 (value : ℤ) : Except Thrown Int256 :=
  if -2 ^ 255 ≤ value ∧ value < 2 ^ 255 then .ok (BitVec.ofInt 256 value) else .error outOfRange

/-- Whole amounts only. -/
def parseEther (amount : JsString) : Except Thrown ℤ :=
  match readInteger 10 amount with
  | some whole => .ok (whole * 10 ^ 18)
  | none => .error outOfRange

/-- The functions of the library, as far as ASCII goes. -/
def client : Client where
  toViem := Refusals.Library.viem
  toLowerCase s := s.map lowerUnit
  ascii _ _ := rfl
  encodeAddress := encodeAddress
  encodeUint256 := encodeUint256
  encodeInt256 := encodeInt256
  parseEther := parseEther
  utf8ToString bytes := bytes.map UInt8.toUInt16

theorem lowerUnit_digit {width number : ℕ} {digit : Char} (member : digit ∈ Hex.digits width number) :
    lowerUnit (charUnit digit) = charUnit digit := by
  obtain ⟨value, small, rfl⟩ := Hex.mem_digits member
  have each : ∀ value < 16, lowerUnit (charUnit (Nat.digitChar value)) = charUnit (Nat.digitChar value) := by decide
  exact each value small

theorem lower_addressText (account : Address) : (addressText account).map lowerUnit = addressText account := by
  apply (List.map_congr_left _).trans (List.map_id _)
  intro c member
  rcases List.mem_append.mp member with sign | digit
  · have each : ((text "0x").all fun c => lowerUnit c = c) = true := by decide
    exact forall_units each c sign
  · obtain ⟨byte, -, here⟩ := List.mem_flatMap.mp digit
    obtain ⟨character, inside, rfl⟩ := List.mem_map.mp here
    exact lowerUnit_digit inside

theorem documented : client.Documented where
  encodes address account encoded := by
    change encodeAddress (some (.string address)) = .ok account at encoded
    rw [encodeAddress] at encoded
    cases read : readAddress (address.map lowerUnit) with
    | none =>
      rw [read] at encoded
      cases encoded
    | some found =>
      rw [read] at encoded
      cases encoded
      have same := (Option.filter_eq_some_iff.mp read).2
      exact (of_decide_eq_true same).symm
  checksums := lower_addressText
  uint256 value encoded result := by
    change encodeUint256 value = .ok encoded at result
    unfold encodeUint256 at result
    split at result
    · rename_i range
      cases result
      rw [BitVec.toNat_ofInt, Int.toNat_of_nonneg (Int.emod_nonneg _ (by norm_num))]
      exact Int.emod_eq_of_lt range.1 range.2
    · cases result
  fits value positive small := ⟨_, if_pos ⟨positive, small⟩⟩

end Library

/-- `demo-addresses.json`, and the accounts of the actors' keys. -/
structure DemoAddresses where
  chainId : ℤ
  claimIssuer : Address
  identityFactory : Address
  swapRouter : Address
  treasury : Address
  mandateHook : Address
  casa : Address
  musd : Address
  fee : BitVec 24
  tickSpacing : Int24
  actorAddress : DemoActor → Address

section Pools
variable (client : Client) (world : DemoAddresses)

/-- CASA sorts below mUSD? — the house swap direction depends on it. -/
def casaIsCurrency0 : Bool :=
  client.toLowerCase (client.checksumAddress world.casa) < client.toLowerCase (client.checksumAddress world.musd)

/-- `pools().house.key` -/
def houseKey : PoolKey where
  currency0 := if casaIsCurrency0 client world then world.casa else world.musd
  currency1 := if casaIsCurrency0 client world then world.musd else world.casa
  fee := world.fee
  tickSpacing := world.tickSpacing
  hooks := world.mandateHook

end Pools

def MIN_SQRT_PRICE_PLUS_1 : BitVec 160 := 4295128740
def MAX_SQRT_PRICE_MINUS_1 : BitVec 160 := 1461446703485210103287273052203988822378723970341

/-- A function of a contract, with its arguments encoded. -/
inductive ContractFunction where
  | swap (key : PoolKey) (zeroForOne : Bool) (amountSpecified : Int256) (sqrtPriceLimitX96 : BitVec 160)
      (takeClaims settleUsingBurn : Bool) (hookData : Bytes)
  | transfer (recipient : Address) (amount : Uint256)
  | proposePayment (vendor : Address) (amount : Uint256) (evidenceHash : Bytes32)
  | approvePayment (id : Uint256)
  | executePayment (id : Uint256)
  | createIdentity (wallet : Address)
  | setRevoked (identity : Address) (topic : Uint256) (value : Bool)
  | submitClaim (topic : Uint256) (issuer : Address) (sig data : Bytes)
  deriving DecidableEq

structure ContractCall where
  actor : DemoActor
  address : Address
  function : ContractFunction
  deriving DecidableEq

inductive Read where
  | balanceOf (token wallet : Address)
  | agentPerTxCap
  | isAgentInGoodStanding (wallet : Address)
  | payments (id : ℕ)
  | APPROVAL_THRESHOLD
  | identityOfWallet (wallet : Address)
  | getClaim (identity : Address) (topic : Uint256) (issuer : Address)
  | revoked (identity : Address) (topic : Uint256)

abbrev Read.Value : Read → Type
  | .balanceOf _ _ => Uint256
  | .agentPerTxCap => Uint256
  | .isAgentInGoodStanding _ => Bool × Bytes32
  | .payments _ => PendingPayment
  | .APPROVAL_THRESHOLD => ℕ
  | .identityOfWallet _ => Address
  | .getClaim _ _ _ => Bool × Bytes × Bytes
  | .revoked _ _ => Bool

/-- How sending ends. Whether the transaction is included in a block is decided by
the chain, and whoever sent it may be told of a failure all the same. -/
structure Sent where
  hash : JsString
  named : hash ≠ []
  rejected : Option Thrown
  included : Bool

inductive DemoCall where
  | fetch (request : HttpRequest)
  | decide (ticket : Evidence.Ticket) (perTxCap casaBudget : ℕ)
  | getBlock
  | readContract (read : Read)
  | simulateContract (call : ContractCall)
  | writeContract (call : ContractCall)
  | waitForTransactionReceipt (hash : JsString)

/-- Each may reject; of a block the timestamp is asked, and a simulation answers the
word the function would return. -/
abbrev DemoCall.Answer : DemoCall → Type
  | .fetch _ => Except Thrown Response
  | .decide _ _ _ => Except Thrown Evidence.Decision
  | .getBlock => Except Thrown ℕ
  | .readContract read => Except Thrown read.Value
  | .simulateContract _ => Except Thrown Uint256
  | .writeContract _ => Sent
  | .waitForTransactionReceipt _ => Except Thrown Unit

abbrev Handler (α : Type) := Program DemoCall DemoCall.Answer Thrown α

def fetch (request : HttpRequest) : Handler Response := .call (.fetch request) .ofExcept

def readContract (read : Read) : Handler read.Value := .call (.readContract read) .ofExcept

/-- The decision engine, whichever is configured. -/
def askDecider (ticket : Evidence.Ticket) (perTxCap casaBudget : ℕ) : Handler Evidence.Decision :=
  .call (.decide ticket perTxCap casaBudget) .ofExcept

def chainNow : Handler (WithTop ℚ) := .call .getBlock fun timestamp => .ofExcept (timestamp.map numberOf)

/-! ## Writes -/

structure Written where
  hash : JsString
  result : Uint256

/-- `wallet.writeContract` -/
def writeContract (call : ContractCall) : Handler JsString :=
  .call (.writeContract call) fun sent =>
    match sent.rejected with
    | some err => .fail err
    | none => .done sent.hash

/-- simulate → send → wait. The arguments are encoded before anything is called. -/
def send (actor : DemoActor) (address : Address) (function : Except Thrown ContractFunction) :
    Handler Written := do
  let function ← .ofExcept function
  let call : ContractCall := ⟨actor, address, function⟩
  let result ← .call (.simulateContract call) .ofExcept
  let hash ← writeContract call
  .call (.waitForTransactionReceipt hash) .ofExcept
  pure { hash, result }

def write (actor : DemoActor) (address : Address) (function : Except Thrown ContractFunction) :
    Handler JsString := do
  let written ← send actor address function
  pure written.hash

abbrev Trace := List (Program.Exchange DemoCall DemoCall.Answer)

/-- How far the sending of a call can get. -/
inductive Sending (call : ContractCall) : Trace → Program.Stage DemoCall Thrown Written → Prop where
  | simulates : Sending call [] (.asks (.simulateContract call))
  | unsimulated (err : Thrown) : Sending call [⟨.simulateContract call, .error err⟩] (.threw err)
  | sends (result : Uint256) :
      Sending call [⟨.simulateContract call, .ok result⟩] (.asks (.writeContract call))
  | rejected (result : Uint256) {sent : Sent} {err : Thrown} (rejected : sent.rejected = some err) :
      Sending call [⟨.simulateContract call, .ok result⟩, ⟨.writeContract call, sent⟩] (.threw err)
  | waits (result : Uint256) {sent : Sent} (accepted : sent.rejected = none) :
      Sending call [⟨.simulateContract call, .ok result⟩, ⟨.writeContract call, sent⟩]
        (.asks (.waitForTransactionReceipt sent.hash))
  | unconfirmed (result : Uint256) {sent : Sent} (accepted : sent.rejected = none) (err : Thrown) :
      Sending call [⟨.simulateContract call, .ok result⟩, ⟨.writeContract call, sent⟩,
        ⟨.waitForTransactionReceipt sent.hash, .error err⟩] (.threw err)
  | confirmed (result : Uint256) {sent : Sent} (accepted : sent.rejected = none) :
      Sending call [⟨.simulateContract call, .ok result⟩, ⟨.writeContract call, sent⟩,
        ⟨.waitForTransactionReceipt sent.hash, .ok ()⟩] (.returned ⟨sent.hash, result⟩)

section Runs
variable {actor : DemoActor} {address : Address} {trace : Trace}

/-- Every run of `send` is one of these, or ends before anything is called. -/
theorem sending_of_reaches {function : Except Thrown ContractFunction} {later : Handler Written}
    (reaches : (send actor address function).Reaches trace later) :
    (∃ err, function = .error err ∧ trace = [] ∧ later.stage = .threw err) ∨
      ∃ encoded, function = .ok encoded ∧ Sending ⟨actor, address, encoded⟩ trace later.stage := by
  cases function with
  | error err =>
    obtain ⟨rfl, rfl⟩ := Program.reaches_fail.mp reaches
    exact .inl ⟨err, rfl, rfl, rfl⟩
  | ok encoded =>
    refine .inr ⟨encoded, rfl, ?_⟩
    rcases Program.reaches_call.mp reaches with ⟨rfl, rfl⟩ | ⟨simulated, rest, rfl, inner⟩
    · exact .simulates
    clear reaches
    cases simulated with
    | error err =>
      obtain ⟨rfl, rfl⟩ := Program.reaches_fail.mp inner
      exact .unsimulated err
    | ok result =>
      rcases Program.reaches_call.mp inner with ⟨rfl, rfl⟩ | ⟨sent, rest, rfl, outer⟩
      · exact .sends result
      clear inner
      obtain ⟨hash, named, rejected, included⟩ := sent
      cases rejected with
      | some err =>
        obtain ⟨rfl, rfl⟩ := Program.reaches_fail.mp outer
        exact .rejected result rfl
      | none =>
        rcases Program.reaches_call.mp outer with ⟨rfl, rfl⟩ | ⟨receipt, rest, rfl, last⟩
        · exact .waits result rfl
        clear outer
        cases receipt with
        | error err =>
          obtain ⟨rfl, rfl⟩ := Program.reaches_fail.mp last
          exact .unconfirmed result rfl err
        | ok received =>
          obtain ⟨rfl, rfl⟩ := Program.reaches_done.mp last
          exact .confirmed result rfl

/-- The same for `write`, by where it stands. -/
theorem writing_of_reaches {function : Except Thrown ContractFunction} {later : Handler JsString}
    (reaches : (write actor address function).Reaches trace later) :
    (∃ err, function = .error err ∧ trace = [] ∧ later.stage = .threw err) ∨
      ∃ encoded stage, function = .ok encoded ∧ Sending ⟨actor, address, encoded⟩ trace stage ∧
        later.stage = stage.map Written.hash := by
  obtain ⟨middle, inside, rfl⟩ := Program.reaches_map.mp reaches
  rw [Program.stage_map]
  rcases sending_of_reaches inside with ⟨err, rfl, rfl, threw⟩ | ⟨encoded, rfl, sending⟩
  · exact .inl ⟨err, rfl, rfl, by rw [threw]; rfl⟩
  · exact .inr ⟨encoded, middle.stage, rfl, sending, rfl⟩

theorem writing_returns {function : Except Thrown ContractFunction} {hash : JsString}
    (returns : (write actor address function).Returns trace hash) :
    ∃ encoded written, function = .ok encoded ∧
      Sending ⟨actor, address, encoded⟩ trace (.returned written) ∧ written.hash = hash := by
  rcases writing_of_reaches returns with ⟨err, -, -, threw⟩ | ⟨encoded, stage, rfl, sending, returned⟩
  · cases threw
  · obtain ⟨written, rfl, same⟩ := Program.Stage.map_eq_returned.mp returned.symm
    exact ⟨encoded, written, rfl, sending, same⟩

theorem writing_throws {function : Except Thrown ContractFunction} {err : Thrown}
    (throws : (write actor address function).Throws trace err) :
    (function = .error err ∧ trace = []) ∨
      ∃ encoded, function = .ok encoded ∧ Sending ⟨actor, address, encoded⟩ trace (.threw err) := by
  rcases writing_of_reaches throws with ⟨other, rfl, rfl, threw⟩ | ⟨encoded, stage, rfl, sending, threw⟩
  · cases threw
    exact .inl ⟨rfl, rfl⟩
  · obtain rfl := Program.Stage.map_eq_threw.mp threw.symm
    exact .inr ⟨encoded, rfl, sending⟩

theorem writing_makes {function : Except Thrown ContractFunction} {request : DemoCall}
    (makes : (write actor address function).Makes trace request) :
    ∃ encoded, function = .ok encoded ∧ Sending ⟨actor, address, encoded⟩ trace (.asks request) := by
  obtain ⟨resume, reaches⟩ := makes
  rcases writing_of_reaches reaches with ⟨err, -, -, threw⟩ | ⟨encoded, stage, rfl, sending, asks⟩
  · cases threw
  · obtain rfl := Program.Stage.map_eq_asks.mp asks.symm
    exact ⟨encoded, rfl, sending⟩

end Runs

end PassportKit.DemoChain
