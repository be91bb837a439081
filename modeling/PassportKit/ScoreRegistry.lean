import PassportKit.Types

/-! `ScoreRegistry.sol`: one number per agent wallet, written by scorers and
read by the name resolver. -/
namespace PassportKit
open Evm OpenZeppelin

/-- `keccak256("SCORER_ROLE")` -/
def SCORER_ROLE : Bytes32 := 0x7f3f5c26f2e002e717c4feeca3fac851759df70cd9d703d83098f12a7ad024ca

structure ScoreRegistry where
  accessControl : AccessControlBase Error
  access : AccessControl
  /-- agent wallet => reputation score -/
  scoreOf : Address → Uint256

namespace ScoreRegistry

def deploy (accessControl : AccessControlBase Error) (admin : Address) : Result ScoreRegistry := do
  revertIf (admin = 0) (.custom .ZeroAdmin)
  return {
    accessControl := accessControl
    access := accessControl._grantRole (accessControl._grantRole .vacant AccessControl.DEFAULT_ADMIN_ROLE admin)
      SCORER_ROLE admin
    scoreOf := fun _ => 0 }

def setScore (self : ScoreRegistry) (msgSender agent : Address) (score : Uint256) :
    Result ScoreRegistry := do
  self.accessControl.onlyRole self.access SCORER_ROLE msgSender
  return { self with scoreOf := Function.update self.scoreOf agent score }

inductive Call where
  | setScore (agent : Address) (score : Uint256)
  | roles (call : AccessControl.Call)
  deriving DecidableEq

def call (self : ScoreRegistry) (msgSender : Address) : Call → Result ScoreRegistry
  | .setScore agent score => self.setScore msgSender agent score
  | .roles request => do
    let access ← self.accessControl.call self.access msgSender request
    return { self with access }

/-- The registry as the resolver sees it: a public mapping always answers. -/
def lookup (self : ScoreRegistry) : IScoreLookup := ⟨fun wallet => .ok (self.scoreOf wallet)⟩

end ScoreRegistry

end PassportKit
