import PassportKit.Types

/-! `ComplianceHook.sol`: the pool hook that asks the gate about the actor of a
swap or a liquidity addition. -/
namespace PassportKit
open Evm OpenZeppelin

structure ComplianceHook where
  poolManager : Address
  gate : Address
  resolver : Address
  policyId : Uint256
  deriving DecidableEq

namespace ComplianceHook

def deploy (poolManager gate_ resolver_ : Address) (policyId_ : Uint256) : ComplianceHook :=
  ⟨poolManager, gate_, resolver_, policyId_⟩

abbrev Bytes4 := BitVec 32

/-- `BaseHook.beforeSwap.selector` -/
def beforeSwapSelector : Bytes4 := 0x575e24b4
/-- `BaseHook.beforeAddLiquidity.selector` -/
def beforeAddLiquiditySelector : Bytes4 := 0x259982e5

/-- Why a wallet fails the pool's policy: the hook's own code for an unknown
wallet, and otherwise the gate's code, whatever the gate's verdict. -/
def reasonFor (self : ComplianceHook) (env : Env) (wallet : Address) : Result Bytes32 := do
  let identity ← (env.resolverAt self.resolver).identityOfWallet wallet
  if identity = 0 then return Reason.NO_IDENTITY
  else do
    let (_, reason) ← (env.gateAt self.gate).isEligible identity self.policyId
    return reason

/-- `_requireCompliant` -/
def requireCompliant (self : ComplianceHook) (env : Env) (wallet : Address) : Result Unit := do
  let identity ← (env.resolverAt self.resolver).identityOfWallet wallet
  revertIf (identity = 0) (.custom (.NotCompliant wallet Reason.NO_IDENTITY))
  let (ok, reason) ← (env.gateAt self.gate).isEligible identity self.policyId
  revertIf (ok = false) (.custom (.NotCompliant wallet reason))

/-- `_actor`: a 32-byte `hookData` is an address, which the decoder refuses when
its upper bytes are set; anything else falls back to `sender`. -/
def actor (sender : Address) (hookData : Bytes) : Result Address :=
  if hookData.length = 32 then do
    let value := wordAt hookData 0
    revertIf (2 ^ 160 ≤ value.toNat) .undecodable
    return ⟨value.setWidth 160⟩
  else return sender

/-- `_beforeSwap`: the selector, the zero delta and no fee override. -/
def _beforeSwap (self : ComplianceHook) (env : Env) (sender : Address) (hookData : Bytes) :
    Result (Bytes4 × Uint256 × ℕ) := do
  let wallet ← actor sender hookData
  self.requireCompliant env wallet
  return (beforeSwapSelector, 0, 0)

def _beforeAddLiquidity (self : ComplianceHook) (env : Env) (sender : Address) (hookData : Bytes) :
    Result Bytes4 := do
  let wallet ← actor sender hookData
  self.requireCompliant env wallet
  return beforeAddLiquiditySelector

variable {self : ComplianceHook} {env : Env} {wallet sender : Address} {hookData : Bytes}

/-- The gate accepts the identity of a wallet, as the hook asks it. -/
def Compliant (self : ComplianceHook) (env : Env) (wallet : Address) : Prop :=
  ∃ identity reason, (env.resolverAt self.resolver).identityOfWallet wallet = .ok identity ∧
    identity ≠ 0 ∧ (env.gateAt self.gate).isEligible identity self.policyId = .ok (true, reason)

theorem requireCompliant_eq_ok {result : Unit} :
    self.requireCompliant env wallet = .ok result ↔ self.Compliant env wallet := by
  simp only [requireCompliant, bind_eq_ok, revertIf_eq_ok, Bool.not_eq_false]
  constructor
  · rintro ⟨identity, resolved, -, known, ⟨ok, reason⟩, answered, accepted⟩
    dsimp only at accepted
    subst accepted
    exact ⟨identity, reason, resolved, known, answered⟩
  · rintro ⟨identity, reason, resolved, known, answered⟩
    exact ⟨identity, resolved, (), known, (true, reason), answered, rfl⟩

/-- A swap goes through only for a compliant actor. -/
theorem beforeSwap_compliant {result : Bytes4 × Uint256 × ℕ}
    (passed : self._beforeSwap env sender hookData = .ok result) :
    ∃ wallet, actor sender hookData = .ok wallet ∧ self.Compliant env wallet := by
  simp only [_beforeSwap, bind_eq_ok, requireCompliant_eq_ok] at passed
  obtain ⟨wallet, acting, -, compliant, -⟩ := passed
  exact ⟨wallet, acting, compliant⟩

theorem beforeAddLiquidity_compliant {result : Bytes4}
    (passed : self._beforeAddLiquidity env sender hookData = .ok result) :
    ∃ wallet, actor sender hookData = .ok wallet ∧ self.Compliant env wallet := by
  simp only [_beforeAddLiquidity, bind_eq_ok, requireCompliant_eq_ok] at passed
  obtain ⟨wallet, acting, -, compliant, -⟩ := passed
  exact ⟨wallet, acting, compliant⟩

end ComplianceHook

end PassportKit
