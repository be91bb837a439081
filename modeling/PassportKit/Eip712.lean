import PassportKit.Evm

/-! Hashing, EIP-712 typed data and signature recovery. The digest type is a
parameter: a digest inside a hashed string is one symbol standing for its 32
bytes, so collision-freeness can be assumed of the hash function without being
contradictory, and every other byte of the string is literal. -/
namespace PassportKit.Eip712
open Evm

/-- A string to hash: literal bytes, and the digests occurring in it. -/
abbrev Preimage (Hash : Type) := List (UInt8 ⊕ Hash)

/-- The two primitives supplied from outside. -/
class Crypto (Hash : Type) where
  keccak256 : Preimage Hash → Hash
  /-- `ECDSA.tryRecover`: the signer when the error is `NoError`. -/
  tryRecover : Hash → Bytes → Option Address

export Crypto (keccak256 tryRecover)

variable {Hash : Type}

/-- No two strings hash alike. -/
def CollisionFree (Hash : Type) [Crypto Hash] : Prop :=
  Function.Injective (keccak256 : Preimage Hash → Hash)

/-- Literal bytes of a hashed string. -/
def packed (bytes : Bytes) : Preimage Hash := bytes.map .inl

/-- A digest occurring in a hashed string. -/
def digest (hash : Hash) : Preimage Hash := [.inr hash]

theorem packed_injective : Function.Injective (packed : Bytes → Preimage Hash) :=
  List.map_injective_iff.mpr Sum.inl_injective

@[simp] theorem length_packed (bytes : Bytes) : (packed bytes : Preimage Hash).length = bytes.length :=
  List.length_map _

@[simp] theorem digest_append {first second : Hash} {rest rest' : Preimage Hash} :
    digest first ++ rest = digest second ++ rest' ↔ first = second ∧ rest = rest' := by
  simp [digest]

/-- One encoded word is read off the front of a hashed string. -/
@[simp] theorem word_append {first second : Uint256} {rest rest' : Preimage Hash} :
    packed (word first) ++ rest = packed (word second) ++ rest' ↔ first = second ∧ rest = rest' := by
  constructor
  · intro same
    obtain ⟨heads, tails⟩ := List.append_inj same (by simp)
    exact ⟨word_injective (packed_injective heads), tails⟩
  · rintro ⟨rfl, rfl⟩
    rfl

@[simp] theorem word_last {first second : Uint256} :
    (packed (word first) : Preimage Hash) = packed (word second) ↔ first = second :=
  ⟨fun same => word_injective (packed_injective same), fun same => same ▸ rfl⟩

@[simp] theorem digest_last {first second : Hash} : digest first = digest second ↔ first = second := by
  simp [digest]

section TypedData
variable [Crypto Hash]

/-- The hash of a string literal, as `keccak256(bytes(text))`. -/
def hashText (text : String) : Hash := keccak256 (packed (ascii text))

/-- The signing domain of one contract on one chain. -/
structure Domain where
  name : String
  version : String
  chainId : Uint256
  verifyingContract : Address
  deriving DecidableEq

def domainTypehash : Hash :=
  hashText "EIP712Domain(string name,string version,uint256 chainId,address verifyingContract)"

/-- `EIP712._domainSeparatorV4`. -/
def domainSeparator (domain : Domain) : Hash :=
  keccak256 (digest domainTypehash ++ digest (hashText domain.name) ++
    digest (hashText domain.version) ++ packed (word domain.chainId) ++
    packed (word (addressWord domain.verifyingContract)))

/-- `EIP712._hashTypedDataV4`: the digest that is signed. -/
def hashTypedDataV4 (domain : Domain) (structHash : Hash) : Hash :=
  keccak256 (packed [0x19, 0x01] ++ digest (domainSeparator domain) ++ digest structHash)

theorem domainSeparator_inj (free : CollisionFree Hash) {first second : Domain}
    (same : (domainSeparator first : Hash) = domainSeparator second) :
    first.chainId = second.chainId ∧ first.verifyingContract = second.verifyingContract := by
  have strings := free same
  simp only [List.append_assoc, digest_append, word_append, word_last] at strings
  obtain ⟨-, -, -, chain, contract⟩ := strings
  exact ⟨chain, addressWord_injective contract⟩

/-- A signed digest fixes the chain, the verifying contract and the struct. -/
theorem hashTypedDataV4_inj (free : CollisionFree Hash) {first second : Domain} {left right : Hash}
    (same : hashTypedDataV4 first left = hashTypedDataV4 second right) :
    first.chainId = second.chainId ∧ first.verifyingContract = second.verifyingContract ∧
      left = right := by
  have strings := free same
  simp only [List.append_assoc, List.append_cancel_left_eq, digest_append, digest_last] at strings
  obtain ⟨separators, structs⟩ := strings
  obtain ⟨chain, contract⟩ := domainSeparator_inj free separators
  exact ⟨chain, contract, structs⟩

end TypedData

/-- A digest that remembers the string it stands for. -/
inductive Symbolic where
  | done
  | literal (byte : UInt8) (rest : Symbolic)
  | nested (inner rest : Symbolic)
  deriving DecidableEq

namespace Symbolic

def hash : Preimage Symbolic → Symbolic
  | [] => .done
  | .inl byte :: rest => .literal byte (hash rest)
  | .inr inner :: rest => .nested inner (hash rest)

def bytes : Symbolic → Bytes
  | .done => [0]
  | .literal byte rest => 1 :: byte :: rest.bytes
  | .nested inner rest => 2 :: (inner.bytes ++ rest.bytes)

/-- A signature names its signer and repeats what was signed. -/
def sign (signer : Address) (message : Symbolic) : Bytes := word (addressWord signer) ++ message.bytes

def recover (message : Symbolic) (sig : Bytes) : Option Address :=
  if sig.drop 32 = message.bytes then some ⟨(wordAt sig 0).setWidth 160⟩ else none

/-- The primitives on which concrete runs of the contracts can be evaluated. -/
instance : Crypto Symbolic := ⟨hash, recover⟩

theorem collisionFree : CollisionFree Symbolic := by
  intro first second same
  change hash first = hash second at same
  induction first generalizing second with
  | nil =>
    cases second with
    | nil => rfl
    | cons item rest => cases item <;> simp [hash] at same
  | cons item rest ih =>
    cases second with
    | nil => cases item <;> simp [hash] at same
    | cons item' rest' =>
      cases item <;> cases item' <;> simp only [hash, literal.injEq, nested.injEq, reduceCtorEq] at same
      all_goals
        obtain ⟨rfl, tails⟩ := same
        rw [ih tails]

/-- The written form of a digest ends where it says. -/
theorem bytes_append {first second : Symbolic} {rest rest' : Bytes}
    (same : first.bytes ++ rest = second.bytes ++ rest') : first = second ∧ rest = rest' := by
  induction first generalizing second rest rest' with
  | done =>
    cases second with
    | done => exact ⟨rfl, by simpa [bytes] using same⟩
    | literal byte tail => simp [bytes] at same
    | nested inner tail => simp [bytes] at same
  | literal byte tail ih =>
    cases second with
    | done => simp [bytes] at same
    | nested inner tail' => simp [bytes] at same
    | literal byte' tail' =>
      simp only [bytes, List.cons_append, List.cons.injEq, true_and] at same
      obtain ⟨rfl, tails⟩ := same
      obtain ⟨rfl, left⟩ := ih tails
      exact ⟨rfl, left⟩
  | nested inner tail ihInner ihTail =>
    cases second with
    | done => simp [bytes] at same
    | literal byte' tail' => simp [bytes] at same
    | nested inner' tail' =>
      simp only [bytes, List.cons_append, List.cons.injEq, true_and, List.append_assoc] at same
      obtain ⟨rfl, tails⟩ := ihInner same
      obtain ⟨rfl, left⟩ := ihTail tails
      exact ⟨rfl, left⟩

theorem bytes_injective : Function.Injective bytes := by
  intro first second same
  have padded : first.bytes ++ [] = second.bytes ++ [] := by rw [same]
  exact (bytes_append padded).1

/-- A signature is its signer's for what was signed, and nobody's for anything else. -/
theorem recover_sign {signer : Address} {message other : Symbolic} :
    recover other (sign signer message) = if other = message then some signer else none := by
  have tail : (sign signer message).drop 32 = message.bytes := List.drop_left' (length_word _)
  have head : wordAt (sign signer message) 0 = addressWord signer := by
    have front : (sign signer message).take 32 = word (addressWord signer) :=
      List.take_left' (length_word _)
    simp [wordAt, front, ofBigEndian_word]
  have account : (addressWord signer).setWidth 160 = signer.bits := by
    apply BitVec.eq_of_toNat_eq
    have bound := signer.bits.isLt
    rw [addressWord, BitVec.toNat_setWidth, BitVec.toNat_setWidth, Nat.mod_eq_of_lt (by omega),
      Nat.mod_eq_of_lt (by omega)]
  rw [recover, tail, head, account]
  by_cases same : other = message
  · rw [if_pos same, if_pos (congrArg bytes same.symm)]
  · rw [if_neg same, if_neg fun equal => same (bytes_injective equal.symm)]

end Symbolic

end PassportKit.Eip712
