import PassportKit.OpenZeppelin

/-! The vocabulary every contract shares: key purposes, claim topics, reason
codes, custom errors, and the narrow interfaces through which one contract sees
another. A custom error is its name and arguments, so contracts that declare
the same error share it here as they share its selector. -/
namespace PassportKit
open Evm OpenZeppelin

namespace KeyPurpose

def MANAGEMENT : ℕ := 1
def CLAIM : ℕ := 3

end KeyPurpose

-- `uint256(keccak256(name))`, evaluated as the compiler does.
namespace ClaimTopics

def KYC_VERIFIED : Uint256 :=
  0xfe61b4d82542c9af53021e45cfdb4bc0b40b2f293957106d3572541400a5b17b
def PROOF_OF_PERSONHOOD : Uint256 :=
  0xb296bcf5411c78788400376699f104afb9693d186e5d8ca7004c37bdafebfca1
def ACCREDITED_INVESTOR : Uint256 :=
  0xc6490bca666653d9c895eb35db9ee67a1b062680313a2a94196d3251d008a11b

end ClaimTopics

namespace Reason

def OK : Bytes32 := 0
def NO_IDENTITY : Bytes32 := shortString "NO_IDENTITY"
def MISSING_KYC : Bytes32 := shortString "MISSING_KYC"
def MISSING_PERSONHOOD : Bytes32 := shortString "MISSING_PERSONHOOD"
def MISSING_ACCREDITED : Bytes32 := shortString "MISSING_ACCREDITED"
def MISSING_CLAIM : Bytes32 := shortString "MISSING_CLAIM"
def NO_POLICY : Bytes32 := shortString "NO_POLICY"

/-- No refusal carries the accepting code. -/
theorem refusals_are_not_ok :
    NO_IDENTITY ≠ OK ∧ MISSING_KYC ≠ OK ∧ MISSING_PERSONHOOD ≠ OK ∧ MISSING_ACCREDITED ≠ OK ∧
      MISSING_CLAIM ≠ OK ∧ NO_POLICY ≠ OK := by
  decide

end Reason

/-- `keccak256("AGENT_ROLE")`, of the claim issuer and of the factory. -/
def AGENT_ROLE : Bytes32 := 0xcab5a0bfe0b79d2c4b1c2e02599fa044d115b7511f9659307cb4276950967709
def MINTER_ROLE : Bytes32 := 0x9f2df0fed2c77648de5860a4cc508cd0818c85b8b8a1ab4ceeef8d981c8956a6

inductive Error where
  -- registry, issuer, identity, factory and gate
  | ZeroAdmin
  | ZeroIssuer
  | ZeroSigner
  | ZeroOwner
  | ZeroIssuerRegistry
  | NoClaimKey
  | UntrustedIssuer
  | BadSignature
  | TopicCap
  | NoClaimToRevoke
  | ZeroWallet
  | IdentityExists
  | ZeroAgent
  | NotAnIdentity
  | WalletInUse
  | NotLinked
  -- token, hooks and resolver
  | NotEligible (wallet : Address) (reason : Bytes32)
  | ZeroGate
  | ZeroResolver
  | NotCompliant (wallet : Address) (reasonCode : Bytes32)
  | NotAuthorized (wallet : Address) (reasonCode : Bytes32)
  | NotController
  | ZeroController
  | ZeroFactory
  | ZeroScoreRegistry
  -- treasury
  | NotOwner
  | NotAgent
  | NotCompliantOwner
  | NoMandate
  | ZeroAddress
  | ZeroAmount
  | BadThreshold
  | DuplicateOwner
  | UnknownPayment
  | AlreadyApproved
  | AlreadyExecuted
  | ThresholdNotMet
  | NotTreasury
  deriving DecidableEq, Repr

/-- The outcome of a call into the program. -/
abbrev Result (α : Type) := Outcome Error α

/-- The parts of the transaction environment a contract reads. -/
structure Block where
  chainId : Uint256
  timestamp : ℕ
  deriving DecidableEq

/-- `IClaimIssuer`, as the raw reply to `isClaimValid(identity, topic, sig, data)`. -/
abbrev IClaimIssuer := Address → Uint256 → Bytes → Bytes → CallReply

/-- `IEligibilityGate`: `isEligible(identity, policyId)`, or the revert of it. -/
structure IEligibilityGate where
  isEligible : Address → Uint256 → Result (Bool × Bytes32)

/-- `IIdentityResolver`: `identityOfWallet(wallet)`, or the revert of it. -/
structure IIdentityResolver where
  identityOfWallet : Address → Result Address

/-- `IScoreLookup`: `scoreOf(wallet)`, or the revert of it. -/
structure IScoreLookup where
  scoreOf : Address → Result Uint256

/-- What an enforcement surface sees of the chain during one call. -/
structure Env where
  block : Block
  /-- `account.code.length != 0` -/
  hasCode : Address → Bool
  gateAt : Address → IEligibilityGate
  resolverAt : Address → IIdentityResolver
  scoresAt : Address → IScoreLookup

end PassportKit
