import PassportKit.HeroChain
import PassportKit.X402

/-! `hero.service.ts`, and what it uses of `identity.service.ts`: the API provisions the
containers, the names and the funding of the guided demo with its own key. It writes one
transaction after another, and sends one again when the text of an error says so. -/
namespace PassportKit.Hero
open Evm Interaction
open Js (JsString text)
open Refusals (Thrown)

/-- Gas for every write: the estimate for a delegated account overshoots the cap. -/
def WRITE_GAS : ℕ := 1000000

def DRIP_WEI : ℕ := 5 * 10 ^ 15

/-- A wallet with as much needs no drip. -/
def DRIP_MIN_WEI : ℕ := 3 * 10 ^ 15

def AGENT_TOKEN_MINT : Uint256 := 1000000000000000000000

/-- `viem`, its `ens` module, and the texts of addresses as the requests have them. -/
structure HeroLibrary extends X402.LowerCasing where
  namehash : JsString → Bytes32
  addressText : Address → JsString
  outOfRange : ℤ → Thrown

def HeroLibrary.encodeUint256 (lib : HeroLibrary) (value : ℤ) : Except Thrown Uint256 :=
  if 0 ≤ value ∧ value < 2 ^ 256 then .ok (BitVec.ofInt 256 value) else .error (lib.outOfRange value)

/-- `new Error(message)` -/
def thrown (message : JsString) : Thrown := ⟨none, message, []⟩

/-- The configuration; an address that is not configured is zero. -/
structure HeroService where
  account : Option Caller
  parentName : JsString
  resolver : Address
  factory : Address
  scoreRegistry : Address
  gatedToken : Address

structure ProvisionResult where
  identity : Address
  wallet : Address
  ensName : JsString
  created : Bool
  createIdentity : Option JsString
  gasDrip : Option JsString
  bindEns : JsString
  deriving DecidableEq

structure LinkAgentResult where
  agentWallet : Address
  personIdentity : Address
  agentEnsName : JsString
  score : ℤ
  linkAgent : Option JsString
  bindEns : JsString
  setScore : JsString
  gasDrip : Option JsString
  mintTokens : JsString
  deriving DecidableEq

structure CreateIdentityResult where
  identity : Address
  wallet : Address
  created : Bool
  transactionHash : Option JsString
  deriving DecidableEq

def lowerUnit (c : UInt16) : UInt16 := if 65 ≤ c.toNat ∧ c.toNat ≤ 90 then c + 32 else c

/-- `/in-flight|delegated|nonce|replacement transaction underpriced/i`: outside ASCII
no letter is the other case of one of these. -/
def retryable (msg : JsString) : Bool :=
  ["in-flight", "delegated", "nonce", "replacement transaction underpriced"].any fun phrase =>
    text phrase <:+: msg.map lowerUnit

def maxAttempts : ℕ := 6

/-- What is tried. -/
def sendAndWait (send : Handler JsString) : Handler JsString := do
  let hash ← send
  let _ ← waitForTransactionReceipt hash
  delay 2000
  pure hash

/-- The attempt of the loop after which so many more are left. The last one throws
whatever it is thrown, so that the end of the loop is not reached. -/
def attemptsFrom (send : Handler JsString) : ℕ → Handler JsString
  | 0 => sendAndWait send
  | further + 1 =>
    (sendAndWait send).catching fun err =>
      if retryable err.message then do
        delay 4000
        attemptsFrom send further
      else .fail err

def sendWithRetry (send : Handler JsString) : Handler JsString := attemptsFrom send (maxAttempts - 1)

/-! ## The service -/

/-- The characters of a label that are kept, `[a-z0-9-]`. -/
def IsLabelUnit (c : UInt16) : Prop :=
  97 ≤ c.toNat ∧ c.toNat ≤ 122 ∨ 48 ≤ c.toNat ∧ c.toNat ≤ 57 ∨ c.toNat = 45

instance (c : UInt16) : Decidable (IsLabelUnit c) := inferInstanceAs (Decidable (_ ∨ _))

section Service
variable (self : HeroService) (lib : HeroLibrary)

/-- What is left of a label. -/
def normalized (label : JsString) : JsString := (lib.toLowerCase label).filter fun c => IsLabelUnit c

def normalizeLabel (label : JsString) : Except Thrown JsString :=
  if normalized lib label = [] then .error (thrown (text "invalid ENS label")) else .ok (normalized lib label)

def HeroService.assertReady : Except Thrown Caller :=
  if self.resolver = 0 then .error (thrown (text "PASSPORT_RESOLVER_ADDRESS not configured"))
  else if self.factory = 0 then .error (thrown (text "IDENTITY_FACTORY_ADDRESS not configured"))
  else if self.scoreRegistry = 0 then .error (thrown (text "SCORE_REGISTRY_ADDRESS not configured"))
  else if self.gatedToken = 0 then .error (thrown (text "GATED_ERC20_ADDRESS not configured"))
  else self.account.elim (.error (thrown (text "AGENT_PRIVATE_KEY not configured"))) .ok

def HeroService.parentNode : Bytes32 := lib.namehash self.parentName

/-- The account of the configured key. -/
def HeroService.walletClient : Handler Caller :=
  match self.account with
  | some account => .done account
  | none => .fail (thrown (text "AGENT_PRIVATE_KEY not configured"))

/-- The arguments are encoded whenever the transaction is sent. -/
def HeroService.write (address : Address) (function : Except Thrown ContractFunction) : Handler JsString := do
  let account ← self.walletClient
  sendWithRetry do
    let function ← .ofExcept function
    send (.writeContract account address function (some WRITE_GAS))

def HeroService.gasDrip (recipient : Address) : Handler (Option JsString) := do
  let account ← self.walletClient
  let balance ← getBalance recipient
  if DRIP_MIN_WEI ≤ balance then pure none
  else do
    let hash ← sendWithRetry (send (.sendTransaction account recipient DRIP_WEI))
    pure (some hash)

def HeroService.bindSubname (fullName : JsString) (identity : Address) : Handler JsString :=
  self.write self.resolver (.ok (.setIdentity (lib.namehash fullName) (self.parentNode lib) identity))

/-- `identity.createIdentity(wallet)`, of the other service. -/
def HeroService.createIdentity (wallet : Address) : Handler CreateIdentityResult :=
  if self.factory = 0 then .fail (thrown (text "IDENTITY_FACTORY_ADDRESS not configured"))
  else do
    let existing ← identityOfWallet self.factory wallet
    if existing ≠ 0 then pure { identity := existing, wallet, created := false, transactionHash := none }
    else do
      let account ← self.walletClient
      let transactionHash ← send (.writeContract account self.factory (.createIdentity wallet) none)
      let _ ← waitForTransactionReceipt transactionHash
      let identity ← identityOfWallet self.factory wallet
      if identity = 0 then
        .fail (thrown (text "createIdentity confirmed but identityOfWallet still empty for " ++ lib.addressText wallet))
      else pure { identity, wallet, created := true, transactionHash := some transactionHash }

def HeroService.ensName (label : JsString) : JsString := label ++ text "." ++ self.parentName

def HeroService.agentEnsName (label : JsString) : JsString := text "bot." ++ label ++ text "." ++ self.parentName

/-- Step 2. -/
def HeroService.provisionUser (wallet : Address) (label : JsString) : Handler ProvisionResult := do
  let _ ← .ofExcept self.assertReady
  let label ← .ofExcept (normalizeLabel lib label)
  let created ← self.createIdentity lib wallet
  let dripTx ← self.gasDrip wallet
  let ensName := self.ensName label
  let bindTx ← self.bindSubname lib ensName created.identity
  pure {
    identity := created.identity
    wallet
    ensName
    created := created.created
    createIdentity := created.transactionHash
    gasDrip := dripTx
    bindEns := bindTx }

/-- The controller admits whole scores only. -/
structure LinkAgentParams where
  agentWallet : Address
  personIdentity : Address
  label : JsString
  score : Option ℤ
  deriving DecidableEq

def LinkAgentParams.requestedScore (params : LinkAgentParams) : ℤ := params.score.getD 87

/-- Links the wallet unless it is linked already, to whomever. -/
def HeroService.linkUnlessLinked (params : LinkAgentParams) : Handler (Option JsString) := do
  let already ← identityOfWallet self.factory params.agentWallet
  if already = 0 then do
    let linkTx ← self.write self.factory (.ok (.linkAgent params.agentWallet params.personIdentity))
    pure (some linkTx)
  else pure none

/-- Step 5. -/
def HeroService.linkAgent (params : LinkAgentParams) : Handler LinkAgentResult := do
  let _ ← .ofExcept self.assertReady
  let label ← .ofExcept (normalizeLabel lib params.label)
  let linkTx ← self.linkUnlessLinked params
  let agentEnsName := self.agentEnsName label
  let bindTx ← self.bindSubname lib agentEnsName params.personIdentity
  let scoreTx ← self.write self.scoreRegistry
    ((lib.encodeUint256 params.requestedScore).map (.setScore params.agentWallet))
  let dripTx ← self.gasDrip params.agentWallet
  let mintTx ← self.write self.gatedToken (.ok (.mint params.agentWallet AGENT_TOKEN_MINT))
  pure {
    agentWallet := params.agentWallet
    personIdentity := params.personIdentity
    agentEnsName
    score := params.requestedScore
    linkAgent := linkTx
    bindEns := bindTx
    setScore := scoreTx
    gasDrip := dripTx
    mintTokens := mintTx }

end Service

section Ready
variable {self : HeroService} {lib : HeroLibrary} {account : Caller}

theorem normalizeLabel_eq_ok {label kept : JsString} (normal : normalizeLabel lib label = .ok kept) :
    kept = normalized lib label := by
  rw [normalizeLabel] at normal
  split at normal <;> cases normal
  rfl

theorem assertReady_eq_ok : self.assertReady = .ok account ↔ self.resolver ≠ 0 ∧ self.factory ≠ 0 ∧
    self.scoreRegistry ≠ 0 ∧ self.gatedToken ≠ 0 ∧ self.account = some account := by
  rw [HeroService.assertReady]
  cases self.account <;> split_ifs <;> simp_all

end Ready

/-- What sends nothing is allowed. -/
def Passive (May : ViemCall → Prop) : Prop :=
  ∀ request, (∀ transaction, request ≠ .send transaction) → May request

section Calls
variable {May : ViemCall → Prop} {self : HeroService} {lib : HeroLibrary} {address wallet : Address}
  {function : Except Thrown ContractFunction}

theorem send_calls {transaction : Transaction} (sends : May (.send transaction)) : (send transaction).Calls May := by
  refine ⟨sends, fun sent => ?_⟩
  dsimp only
  split <;> trivial

theorem identityOfWallet_calls (passive : Passive May) : (identityOfWallet address wallet).Calls May :=
  ⟨passive _ (by simp), fun answer => Program.calls_ofExcept answer⟩

theorem waitForTransactionReceipt_calls (passive : Passive May) (hash : JsString) :
    (waitForTransactionReceipt hash).Calls May :=
  ⟨passive _ (by simp), fun answer => Program.calls_ofExcept answer⟩

theorem delay_calls (passive : Passive May) (ms : ℕ) : (delay ms).Calls May :=
  ⟨passive _ (by simp), fun _ => trivial⟩

theorem sendWithRetry_calls {send : Handler JsString} (passive : Passive May) (sends : send.Calls May) :
    (sendWithRetry send).Calls May := by
  have attempt : (sendAndWait send).Calls May :=
    sends.bind fun hash => (waitForTransactionReceipt_calls passive hash).bind fun _ =>
      (delay_calls passive 2000).bind fun _ => trivial
  have all (further : ℕ) : (attemptsFrom send further).Calls May := by
    induction further with
    | zero => exact attempt
    | succ further ih =>
      refine attempt.catching fun err => ?_
      split
      · exact (delay_calls passive 4000).bind fun _ => ih
      · trivial
  exact all _

theorem walletClient_calls : self.walletClient.Calls May := by
  rw [HeroService.walletClient]
  split <;> trivial

theorem write_calls (passive : Passive May) (sends : ∀ account encoded, self.account = some account →
    function = .ok encoded → May (.send (.writeContract account address encoded (some WRITE_GAS)))) :
    (self.write address function).Calls May := by
  rw [HeroService.write, HeroService.walletClient]
  cases configured : self.account with
  | none => trivial
  | some account =>
    refine sendWithRetry_calls passive ?_
    cases function with
    | error err => trivial
    | ok encoded => exact send_calls (sends account encoded configured rfl)

theorem gasDrip_calls (passive : Passive May) (sends : ∀ account, self.account = some account →
    May (.send (.sendTransaction account wallet DRIP_WEI))) : (self.gasDrip wallet).Calls May := by
  rw [HeroService.gasDrip, HeroService.walletClient]
  cases configured : self.account with
  | none => trivial
  | some account =>
    have reads : (getBalance wallet).Calls May := ⟨passive _ (by simp), fun answer => Program.calls_ofExcept answer⟩
    refine reads.bind fun balance => ?_
    split
    · trivial
    · exact (sendWithRetry_calls passive (send_calls (sends account configured))).bind fun _ => trivial

theorem createIdentity_calls (passive : Passive May) (sends : ∀ account, self.account = some account →
    May (.send (.writeContract account self.factory (.createIdentity wallet) none))) :
    (self.createIdentity lib wallet).Calls May := by
  rw [HeroService.createIdentity]
  split
  · trivial
  refine (identityOfWallet_calls passive).bind fun existing => ?_
  split
  · trivial
  rw [HeroService.walletClient]
  cases configured : self.account with
  | none => trivial
  | some account =>
    refine (send_calls (sends account configured)).bind fun hash =>
      (waitForTransactionReceipt_calls passive hash).bind fun _ =>
        (identityOfWallet_calls passive).bind fun identity => ?_
    split <;> trivial

theorem linkUnlessLinked_calls {params : LinkAgentParams} (passive : Passive May) (sends : ∀ account,
    self.account = some account → May (.send (.writeContract account self.factory
      (.linkAgent params.agentWallet params.personIdentity) (some WRITE_GAS)))) :
    (self.linkUnlessLinked params).Calls May := by
  refine (identityOfWallet_calls passive).bind fun already => ?_
  split
  · refine (write_calls passive ?_).bind fun _ => trivial
    rintro account encoded configured ⟨⟩
    exact sends account configured
  · trivial

end Calls

end PassportKit.Hero
