import PassportKit.HouseTreasury
import PassportKit.ComplianceHook

/-! `MandateHook.sol`: the pool hook of a house's budget pool. It never reads a
gate itself; it asks the treasury about the actor, owners first, and holds the
agent to its per-transaction cap. -/
namespace PassportKit
open Evm OpenZeppelin
open ComplianceHook (Bytes4 beforeSwapSelector)

/-- `IHouseTreasuryStanding`: the slice of the treasury the hook needs, each
answer or the revert of it. -/
structure IHouseTreasuryStanding where
  isAgentInGoodStanding : Address → Result (Bool × Bytes32)
  isCompliantOwner : Address → Result Bool
  agentPerTxCap : Result Uint256

/-- The treasury as the hook sees it at one moment of the chain. -/
def HouseTreasury.standing (self : HouseTreasury) (env : Env) : IHouseTreasuryStanding where
  isAgentInGoodStanding := self.isAgentInGoodStanding env
  isCompliantOwner := self.isCompliantOwner env
  agentPerTxCap := .ok self.agentPerTxCap

structure MandateHook where
  poolManager : Address
  TREASURY : Address
  deriving DecidableEq

namespace MandateHook

def deploy (poolManager treasury : Address) : MandateHook := ⟨poolManager, treasury⟩

def OVER_PER_TX_CAP : Bytes32 := shortString "OVER_PER_TX_CAP"

/-- `_actor`, the compliance hook's. -/
def actor (sender : Address) (hookData : Bytes) : Result Address := ComplianceHook.actor sender hookData

/-- `amount < 0 ? uint256(-amount) : uint256(amount)`; the negation is checked. -/
def magnitude (amountSpecified : Int256) : Result Uint256 :=
  if amountSpecified.toInt < 0 then negate amountSpecified else return amountSpecified

/-- What the hook asks of an actor that is not a compliant owner. -/
def requireAgent (treasury : IHouseTreasuryStanding) (wallet : Address) (amountSpecified : Int256) :
    Result Unit := do
  let (ok, reason) ← treasury.isAgentInGoodStanding wallet
  revertIf (ok = false) (.custom (.NotAuthorized wallet reason))
  let amount ← magnitude amountSpecified
  let cap ← treasury.agentPerTxCap
  revertIf (amount.toNat > cap.toNat) (.custom (.NotAuthorized wallet OVER_PER_TX_CAP))

def _beforeSwap (self : MandateHook) (treasuryAt : Address → IHouseTreasuryStanding)
    (sender : Address) (amountSpecified : Int256) (hookData : Bytes) :
    Result (Bytes4 × Uint256 × ℕ) := do
  let wallet ← actor sender hookData
  let compliant ← (treasuryAt self.TREASURY).isCompliantOwner wallet
  checkIf (compliant = false) (requireAgent (treasuryAt self.TREASURY) wallet amountSpecified)
  return (beforeSwapSelector, 0, 0)

/-- Away from the least `int256` the magnitude is the absolute value. -/
theorem magnitude_of_ne_intMin {amountSpecified : Int256} (regular : amountSpecified ≠ BitVec.intMin 256) :
    ∃ amount, magnitude amountSpecified = .ok amount ∧
      amount.toNat = amountSpecified.toInt.natAbs := by
  unfold magnitude
  split
  · rename_i negative
    refine ⟨-amountSpecified, by simp [negate, regular], ?_⟩
    have opposite := BitVec.toInt_neg_of_ne_intMin regular
    have positive : (-amountSpecified).msb = false := by
      rw [BitVec.msb_eq_toInt, opposite]
      simp only [decide_eq_false_iff_not]
      omega
    have natural := BitVec.toInt_eq_toNat_of_msb positive
    omega
  · rename_i nonnegative
    refine ⟨amountSpecified, rfl, ?_⟩
    have positive : amountSpecified.msb = false := by
      rw [BitVec.msb_eq_toInt]
      simpa using nonnegative
    have natural := BitVec.toInt_eq_toNat_of_msb positive
    omega

/-- The least `int256` has no negation: the hook panics on it. -/
theorem magnitude_intMin : magnitude (BitVec.intMin 256) = .error (.panic 0x11) := by
  have negative : (BitVec.intMin 256).toInt < 0 := by decide
  rw [magnitude, if_pos negative, negate, if_pos rfl]

end MandateHook

end PassportKit
