import PassportKit.ClaimSigning
import PassportKit.DemoChain
import PassportKit.Soundness

/-! `identity.ts`, and the route that verifies an actor. The demo does not ask the
issuer whether a stored claim counts: it reads the latch and the expiry, and takes the
signature for granted, although the issuer may have withdrawn its signer since. -/
namespace PassportKit.DemoIdentity
open Evm Js Interaction DemoChain
open Refusals (Thrown)

inductive ClaimName where
  | kyc
  | accredited
  deriving DecidableEq

def CLAIM_TOPICS : ClaimName → Uint256
  | .kyc => ClaimTopics.KYC_VERIFIED
  | .accredited => ClaimTopics.ACCREDITED_INVESTOR

def CLAIM_TTL_SECONDS : ℕ := 365 * 24 * 3600

/-- What claims take from the library: the signer's half, what it throws, and
`decodeAbiParameters` at `CLAIM_DATA_ABI`, where a `uint64` comes back as a `bigint`. -/
structure ClaimClient extends TypedData.Viem where
  issuerSigner : PrivateKeyAccount
  signingError : Thrown
  decodeAbiParameters : Bytes → Except Thrown (Bytes32 × ℕ × Bytes32)

/-- What was encoded is decoded. -/
structure ClaimClient.Documented (client : ClaimClient) : Prop where
  decodes : ∀ dataHash expiresAt nonce,
    client.decodeAbiParameters (ClaimIssuer.encodeClaimData dataHash expiresAt nonce) =
      .ok (dataHash, expiresAt.toNat, nonce)

/-- What `BigInt` throws at a number that is no integer. -/
def notAnIntegerNumber : Thrown :=
  ⟨none, text "The number cannot be converted to a BigInt because it is not an integer", []⟩

/-- The sum of two Numbers. -/
def addNumber (x : WithTop ℚ) (y : ℕ) : WithTop ℚ :=
  x.recTopCoe ⊤ fun value => (toDouble (value + y)).elim ⊤ fun sum => sum

/-- `BigInt(x)` -/
def bigIntOf (x : WithTop ℚ) : Except Thrown ℤ :=
  x.recTopCoe (.error notAnIntegerNumber) fun value =>
    if value.den = 1 then .ok value.num else .error notAnIntegerNumber

inductive ClaimStatus where
  | UNVERIFIED
  | VERIFIED
  | REVOKED
  | EXPIRED
  deriving DecidableEq

structure ClaimState where
  status : ClaimStatus
  expiresAt : Option (WithTop ℚ)

section Demo
variable (client : ClaimClient) (world : DemoAddresses)

def identityOf (wallet : Address) : Handler (Option Address) := do
  let identity ← readContract (.identityOfWallet wallet)
  pure (if identity = 0 then none else some identity)

def isRevoked (identity : Address) (topic : Uint256) : Handler Bool := readContract (.revoked identity topic)

/-- What is made of the stored data, once the latch is read. -/
def statusOf (expiresAt : ℕ) (revoked : Bool) (now : WithTop ℚ) : ClaimState where
  status := if revoked then .REVOKED else if expiresAt ≠ 0 ∧ numberOf expiresAt < now then .EXPIRED else .VERIFIED
  expiresAt := if expiresAt = 0 then none else some (numberOf expiresAt)

def claimState (identity : Option Address) (topic : Uint256) (now : WithTop ℚ) : Handler ClaimState :=
  match identity with
  | none => pure ⟨.UNVERIFIED, none⟩
  | some identity => do
    let (present, _, data) ← readContract (.getClaim identity topic world.claimIssuer)
    if present = false then pure ⟨.UNVERIFIED, none⟩
    else do
      let (_, expiresAt, _) ← .ofExcept (client.decodeAbiParameters data)
      let revoked ← isRevoked identity topic
      pure (statusOf expiresAt revoked now)

def setRevoked (identity : Address) (topic : Uint256) (value : Bool) : Handler JsString :=
  write .operator world.claimIssuer (.ok (.setRevoked identity topic value))

/-- An actor's name, a key of `KEYS`. -/
def actorName : DemoActor → JsString
  | .operator => text "operator"
  | .ana => text "ana"
  | .rui => text "rui"
  | .concierge => text "concierge"
  | .plumber => text "plumber"

/-- Mints the actor's identity if they have none. -/
def ensureIdentity (actor : DemoActor) : Handler (Address × List JsString) := do
  let wallet := world.actorAddress actor
  let existing ← identityOf wallet
  match existing with
  | some identity => pure (identity, [])
  | none => do
    let hash ← write .operator world.identityFactory (.ok (.createIdentity wallet))
    let identity ← identityOf wallet
    match identity with
    | none => .fail ⟨none, text "identity creation failed for " ++ actorName actor, []⟩
    | some identity => pure (identity, [hash])

/-- The two readings of `Date.now()`, and the counter of the module. -/
structure Moment where
  now : ℕ
  later : ℕ
  nonceCounter : ℕ

def signClaim (moment : Moment) (identity : Address) (topic : Uint256) (expiresAt : ℤ) :
    Except Thrown (Bytes × Bytes) :=
  match Demo.signClaim client.toViem client.issuerSigner ⟨world.chainId, world.claimIssuer⟩ moment.now moment.later
      moment.nonceCounter identity topic.toNat expiresAt with
  | some (signature, data, _) => .ok (signature, data)
  | none => .error client.signingError

/-- The issuer signs, and the holder submits. -/
def submitClaim (moment : Moment) (actor : DemoActor) (identity : Address) (topic : Uint256) : Handler JsString := do
  let now ← chainNow
  let expiresAt ← .ofExcept (bigIntOf (addNumber now CLAIM_TTL_SECONDS))
  let (signature, data) ← .ofExcept (signClaim client world moment identity topic expiresAt)
  write actor identity (.ok (.submitClaim topic world.claimIssuer signature data))

/-- The latch blocks submissions too, and is opened first. -/
def reopen (identity : Address) (topic : Uint256) : Handler (List JsString) := do
  let revoked ← isRevoked identity topic
  if revoked then do
    let hash ← setRevoked world identity topic false
    pure [hash]
  else pure []

/-- A claim is issued only if there is no verified one. -/
def issueIfNeeded (moment : Moment) (actor : DemoActor) (identity : Address) (topic : Uint256) :
    Handler (List JsString) := do
  let now ← chainNow
  let state ← claimState client world (some identity) topic now
  if state.status ≠ .VERIFIED then do
    let hash ← submitClaim client world moment actor identity topic
    pure [hash]
  else pure []

def doVerify (moment : Moment) (actor : DemoActor) (claim : ClaimName) (approved : Bool) :
    Handler (List JsString) := do
  let topic := CLAIM_TOPICS claim
  let (identity, txHashes) ← ensureIdentity world actor
  if approved = false then do
    let hash ← setRevoked world identity topic true
    pure (txHashes ++ [hash])
  else do
    let reopened ← reopen world identity topic
    let issued ← issueIfNeeded client world moment actor identity topic
    pure (txHashes ++ reopened ++ issued)

end Demo

end PassportKit.DemoIdentity
