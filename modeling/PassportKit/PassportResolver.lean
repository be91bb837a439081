import PassportKit.Types
import PassportKit.Eip712
import PassportKit.Runs

/-! `PassportResolver.sol`: one name resolver for many tenants. A parent name
carries its tenant's gate and policy, a subname carries an identity, and every
text record is computed from the chain when it is read. -/
namespace PassportKit
open Evm Eip712 OpenZeppelin

namespace ResolverText

def hexchars : Bytes := ascii "0123456789abcdef"

/-- `hexchars[value]`, where every caller has cut the value to four bits. -/
def hexDigit (value : UInt8) : UInt8 := hexchars.getD value.toNat 0

/-- `_toHex`: the twenty bytes of an address, two digits each. -/
def toHex (a : Address) : Bytes :=
  ascii "0x" ++ (List.range 20).flatMap fun i =>
    [hexDigit (UInt8.ofNat (a.bits.toNat >>> (8 * (19 - i) + 4)) &&& 0x0f),
      hexDigit (UInt8.ofNat (a.bits.toNat >>> (8 * (19 - i))) &&& 0x0f)]

/-- `_bytesToHex` -/
def bytesToHex (raw : Bytes) : Bytes :=
  ascii "0x" ++ raw.flatMap fun byte : UInt8 => [hexDigit (byte >>> 4), hexDigit (byte &&& 0x0f)]

/-- `while (tmp != 0) { n++; tmp >>= 8; }` -/
def byteCount (tmp : ℕ) : ℕ :=
  if tmp = 0 then 0 else byteCount (tmp >>> 8) + 1
termination_by tmp
decreasing_by rw [Nat.shiftRight_eq_div_pow]; omega

/-- `_minimalChainRef`: the low bytes of a chain id, written from the last back. -/
def minimalChainRef (id : Uint256) : Bytes :=
  if id = 0 then [0]
  else ((List.range (byteCount id.toNat)).map fun i => UInt8.ofNat (id.toNat >>> (8 * i))).reverse

/-- `A-Z -> a-z` -/
def lowerCase (c : UInt8) : UInt8 := if 65 ≤ c ∧ c ≤ 90 then c + 32 else c

/-- The rest of the prefix comparison, from position `i`. -/
def matchesFrom (s p : Bytes) (i : ℕ) : ℕ → Result Bool
  | 0 => return true
  | left + 1 => do
    let a ← readAt s i
    let b ← readAt p i
    if lowerCase a ≠ lowerCase b then return false else matchesFrom s p (i + 1) left

/-- `_startsWith` -/
def startsWith (s p : Bytes) : Result Bool :=
  if s.length < p.length then return false else matchesFrom s p 0 p.length

/-- `_hexVal` -/
def hexVal (c : UInt8) : ℕ × Bool :=
  if 48 ≤ c ∧ c ≤ 57 then ((c - 48).toNat, true)
  else if 97 ≤ c ∧ c ≤ 102 then ((c - 87).toNat, true)
  else if 65 ≤ c ∧ c ≤ 70 then ((c - 55).toNat, true)
  else (0, false)

/-- `acc * 16 + v`, checked to stay a `uint160`. -/
def pushNibble (acc v : ℕ) : Result ℕ :=
  if acc * 16 + v < 2 ^ 160 then return acc * 16 + v else .error (.panic 0x11)

/-- The rest of the digit loop, from position `offset`. -/
def parseDigits (s : Bytes) (offset acc : ℕ) : ℕ → Result (Address × Bool)
  | 0 => return (⟨BitVec.ofNat 160 acc⟩, true)
  | left + 1 => do
    let c ← readAt s offset
    let (v, ok) := hexVal c
    if ok = false then return (0, false) else do
    let acc ← pushNibble acc v
    parseDigits s (offset + 1) acc left

/-- `_parseAddrAt`: `0x` and forty digits at an offset. -/
def parseAddrAt (s : Bytes) (off : ℕ) : Result (Address × Bool) := do
  let last ← checkedAdd off 42
  if s.length < last then return (0, false) else do
  let zero ← readAt s off
  if zero ≠ 48 then return (0, false) else do
  let mark ← readAt s (off + 1)
  if mark ≠ 120 ∧ mark ≠ 88 then return (0, false) else parseDigits s (off + 2) 0 40

/-- `while (n != 0) { digits++; n /= 10; }` -/
def digitCount (n : ℕ) : ℕ :=
  if n = 0 then 0 else digitCount (n / 10) + 1

/-- The digits of a number, written from the last back. -/
def fillDecimal (n digits : ℕ) (out : Bytes) : Result Bytes :=
  if n = 0 then return out
  else do
    let digits ← checkedSub digits 1
    let out ← writeAt out digits (UInt8.ofNat (48 + n % 10))
    fillDecimal (n / 10) digits out

/-- `_toDecimal` -/
def toDecimal (v : Uint256) : Result Bytes :=
  if v = 0 then return ascii "0"
  else fillDecimal v.toNat (digitCount v.toNat) (List.replicate (digitCount v.toNat) 0)

end ResolverText

/-! ## The contract -/

structure Tenant where
  gate : Address
  policyId : Uint256
  controller : Address
  deriving DecidableEq

structure PassportResolver where
  identityFactory : Address
  scoreRegistry : Address
  /-- parent node to tenant configuration -/
  tenantOf : Bytes32 → Tenant
  /-- node to identity -/
  identityOf : Bytes32 → Address
  /-- node to parent node -/
  parentOf : Bytes32 → Bytes32

namespace PassportResolver
open ResolverText

/-- The constructor. -/
def deploy (hasCode : Address → Bool) (identityFactory_ scoreRegistry_ : Address) :
    Result PassportResolver := do
  revertIf (identityFactory_ = 0 ∨ hasCode identityFactory_ = false) (.custom .ZeroFactory)
  revertIf (scoreRegistry_ ≠ 0 ∧ hasCode scoreRegistry_ = false) (.custom .ZeroScoreRegistry)
  return { identityFactory := identityFactory_, scoreRegistry := scoreRegistry_,
           tenantOf := fun _ => ⟨0, 0, 0⟩, identityOf := fun _ => 0, parentOf := fun _ => 0 }

def setTenant (self : PassportResolver) (sender : Address) (parentNode : Bytes32) (gate : Address)
    (policyId : Uint256) (controller : Address) : Result PassportResolver := do
  revertIf (controller = 0) (.custom .ZeroController)
  let existing := self.tenantOf parentNode
  -- Trust on first use: a parent without a controller is anyone's.
  revertIf (existing.controller ≠ 0 ∧ sender ≠ existing.controller) (.custom .NotController)
  return { self with
    tenantOf := Function.update self.tenantOf parentNode ⟨gate, policyId, controller⟩ }

/-- The guard reads the tenant of the parent named in the call, and the writes
are keyed by the node alone. -/
def setIdentity (self : PassportResolver) (sender : Address) (node parentNode : Bytes32)
    (identity : Address) : Result PassportResolver := do
  revertIf (sender ≠ (self.tenantOf parentNode).controller) (.custom .NotController)
  return { self with
    identityOf := Function.update self.identityOf node identity
    parentOf := Function.update self.parentOf node parentNode }

/-- The record `compliance.status`. -/
def complianceStatus (self : PassportResolver) (env : Env) (node : Bytes32) : Result Bytes :=
  let id := self.identityOf node
  let t := self.tenantOf (self.parentOf node)
  if id = 0 ∨ env.hasCode t.gate = false then return ascii "NONE"
  else do
    let (ok, _) ← (env.gateAt t.gate).isEligible id t.policyId
    return if ok then ascii "GREEN" else ascii "REVOKED"

/-- The interoperable address of the identity factory on this chain. -/
def registry7930 (self : PassportResolver) (block : Block) : Bytes :=
  let chainRef := minimalChainRef block.chainId
  let raw := [0x00, 0x01] ++ [0x00, 0x00] ++ [UInt8.ofNat chainRef.length] ++ chainRef ++ [20] ++
    bigEndian 20 self.identityFactory.bits.toNat
  bytesToHex raw

def agentRegistrationPrefix (self : PassportResolver) (block : Block) : Bytes :=
  ascii "agent-registration[" ++ self.registry7930 block ++ ascii "]["

def agentReputationPrefix : Bytes := ascii "agent.reputation["

def agentRegistrationKey (self : PassportResolver) (block : Block) (agent : Address) : Bytes :=
  self.agentRegistrationPrefix block ++ toHex agent ++ ascii "]"

def agentReputationKey (agent : Address) : Bytes :=
  agentReputationPrefix ++ toHex agent ++ ascii "]"

/-- The agent that a key of the exact shape prefix, address, bracket names. -/
def agentNamed (kb lead : Bytes) : Result (Option Address) :=
  if kb.length ≠ lead.length + 43 then return none
  else do
    let last ← readAt kb (kb.length - 1)
    if last ≠ 93 then return none else do
    let starts ← startsWith kb lead
    if starts = false then return none else do
    let (agent, ok) ← parseAddrAt kb lead.length
    return if ok then some agent else none

/-- `personId != address(0) && identityFactory.identityOfWallet(agent) == personId` -/
def isLinkedTo (self : PassportResolver) (env : Env) (agent personId : Address) : Result Bool :=
  if personId = 0 then return false
  else do
    let linked ← (env.resolverAt self.identityFactory).identityOfWallet agent
    return decide (linked = personId)

/-- A record about an agent of the node's identity; empty for every other key. -/
def agentRecord (self : PassportResolver) (env : Env) (node : Bytes32) (key lead : Bytes)
    (value : Address → Result Bytes) : Result Bytes := do
  match ← agentNamed key lead with
  | none => return []
  | some agent => do
    let linked ← self.isLinkedTo env agent (self.identityOf node)
    if linked then value agent else return []

/-- `_agentRegistrationValue` -/
def agentRegistrationValue (self : PassportResolver) (env : Env) (node : Bytes32) (key : Bytes) :
    Result Bytes :=
  self.agentRecord env node key (self.agentRegistrationPrefix env.block) fun _ => return ascii "1"

/-- `_agentReputationValue` -/
def agentReputationValue (self : PassportResolver) (env : Env) (node : Bytes32) (key : Bytes) :
    Result Bytes :=
  if self.scoreRegistry = 0 then return []
  else self.agentRecord env node key agentReputationPrefix fun agent => do
    let score ← (env.scoresAt self.scoreRegistry).scoreOf agent
    toDecimal score

/-- `text(node, key)`, with the keys told apart by their hashes. -/
def text (Hash : Type) [Crypto Hash] [DecidableEq Hash] (self : PassportResolver) (env : Env)
    (node : Bytes32) (key : Bytes) : Result Bytes :=
  let k : Hash := keccak256 (packed key)
  if k = hashText "compliance.status" then self.complianceStatus env node
  else if k = hashText "compliance.identity" then return toHex (self.identityOf node)
  else do
    let agentRec ← self.agentRegistrationValue env node key
    if agentRec.length ≠ 0 then return agentRec else do
    let rep ← self.agentReputationValue env node key
    if rep.length ≠ 0 then return rep else return []

/-- A call that can write to the resolver. -/
inductive Call where
  | setTenant (parentNode : Bytes32) (gate : Address) (policyId : Uint256) (controller : Address)
  | setIdentity (node parentNode : Bytes32) (identity : Address)
  deriving DecidableEq

def call (self : PassportResolver) (sender : Address) : Call → Result PassportResolver
  | .setTenant parentNode gate policyId controller =>
    self.setTenant sender parentNode gate policyId controller
  | .setIdentity node parentNode identity => self.setIdentity sender node parentNode identity

/-- One transaction against the resolver. -/
structure Input where
  sender : Caller
  call : Call

def step (self : PassportResolver) (input : Input) : Result PassportResolver :=
  self.call input.sender.val input.call

section Effects
variable {self next other : PassportResolver} {sender : Address} {env : Env} {node parentNode : Bytes32}
  {gate controller identity : Address} {policyId : Uint256} {key : Bytes}

theorem setTenant_eq_ok :
    self.setTenant sender parentNode gate policyId controller = .ok next ↔
      controller ≠ 0 ∧
      ((self.tenantOf parentNode).controller ≠ 0 → sender = (self.tenantOf parentNode).controller) ∧
      next = { self with
        tenantOf := Function.update self.tenantOf parentNode ⟨gate, policyId, controller⟩ } := by
  simp only [setTenant, bind_eq_ok, revertIf_eq_ok, not_and, not_not, pure_outcome, Except.ok.injEq,
    exists_and_left, exists_const, ne_eq]
  exact and_congr_right' (and_congr_right' eq_comm)

theorem setIdentity_eq_ok :
    self.setIdentity sender node parentNode identity = .ok next ↔
      sender = (self.tenantOf parentNode).controller ∧
      next = { self with
        identityOf := Function.update self.identityOf node identity
        parentOf := Function.update self.parentOf node parentNode } := by
  simp only [setIdentity, bind_eq_ok, revertIf_eq_ok, not_not, pure_outcome, Except.ok.injEq,
    exists_and_left, exists_const, ne_eq]
  exact and_congr_right' eq_comm

/-- Nothing a call does reaches the two immutables. -/
theorem call_immutables {input : Call} (done : self.call sender input = .ok next) :
    next.identityFactory = self.identityFactory ∧ next.scoreRegistry = self.scoreRegistry := by
  cases input with
  | setTenant parentNode gate policyId controller =>
    obtain ⟨-, -, rfl⟩ := setTenant_eq_ok.mp done
    exact ⟨rfl, rfl⟩
  | setIdentity node parentNode identity =>
    obtain ⟨-, rfl⟩ := setIdentity_eq_ok.mp done
    exact ⟨rfl, rfl⟩

/-- **What a record reads.** A node's records depend on its own binding, on
its parent's tenant and on the chain, and on nothing else in the resolver. -/
theorem text_congr {Hash : Type} [Crypto Hash] [DecidableEq Hash]
    (factory : other.identityFactory = self.identityFactory)
    (scores : other.scoreRegistry = self.scoreRegistry)
    (identity : other.identityOf node = self.identityOf node)
    (tenant : other.tenantOf (other.parentOf node) = self.tenantOf (self.parentOf node)) :
    other.text Hash env node key = self.text Hash env node key := by
  have status : other.complianceStatus env node = self.complianceStatus env node := by
    simp only [complianceStatus, identity, tenant]
  have record (lead : Bytes) (value : Address → Result Bytes) :
      other.agentRecord env node key lead value = self.agentRecord env node key lead value := by
    simp only [agentRecord, isLinkedTo, identity, factory]
  have leads : other.agentRegistrationPrefix env.block = self.agentRegistrationPrefix env.block := by
    simp only [agentRegistrationPrefix, registry7930, factory]
  simp only [text, agentRegistrationValue, agentReputationValue, status, record, leads, identity, scores]

/-- The status record is read under its literal key. -/
theorem text_complianceStatus {Hash : Type} [Crypto Hash] [DecidableEq Hash] :
    self.text Hash env node (ascii "compliance.status") = self.complianceStatus env node :=
  if_pos rfl

/-- A node reads GREEN exactly when it is bound and the tenant's gate accepts. -/
theorem complianceStatus_green :
    self.complianceStatus env node = .ok (ascii "GREEN") ↔
      self.identityOf node ≠ 0 ∧ env.hasCode (self.tenantOf (self.parentOf node)).gate = true ∧
      ∃ reason, (env.gateAt (self.tenantOf (self.parentOf node)).gate).isEligible
        (self.identityOf node) (self.tenantOf (self.parentOf node)).policyId = .ok (true, reason) := by
  have unbound : ascii "NONE" ≠ ascii "GREEN" := by decide
  have revoked : ascii "REVOKED" ≠ ascii "GREEN" := by decide
  simp only [complianceStatus]
  split
  · rename_i absent
    simp only [pure_outcome, Except.ok.injEq, unbound, false_iff, not_and]
    rintro bound code ⟨reason, -⟩
    rcases absent with unset | codeless
    · exact bound unset
    · simp [code] at codeless
  · rename_i bound
    simp only [not_or, Bool.not_eq_false] at bound
    simp only [bind_eq_ok, pure_outcome, Except.ok.injEq, ne_eq, bound, not_false_eq_true, true_and]
    constructor
    · rintro ⟨⟨ok, reason⟩, answered, shown⟩
      cases ok with
      | true => exact ⟨reason, answered⟩
      | false => exact absurd shown revoked
    · rintro ⟨reason, answered⟩
      exact ⟨(true, reason), answered, rfl⟩

end Effects

end PassportResolver

end PassportKit
