import PassportKit.Eip712

/-! EIP-712 typed data the way a client library takes it: a domain, named types
with fields in order, and a message looked up field by field. A value that does
not fit its field's type is refused. Beside it, the ABI encoding of a list of
static parameters, and the library itself as a parameter. -/
namespace PassportKit.TypedData
open Evm Eip712

inductive AbiType where
  | address
  | uint (bits : ℕ)
  | bytes32
  | string
  deriving DecidableEq

/-- The name of a type inside an encoded type string. -/
def AbiType.name : AbiType → String
  | .address => "address"
  | .uint bits => "uint" ++ toString bits
  | .bytes32 => "bytes32"
  | .string => "string"

/-- What a caller passes for a field or a parameter. -/
inductive AbiValue where
  | address (account : Address)
  | integer (value : ℤ)
  | bytes32 (value : Bytes32)
  | string (text : String)
  deriving DecidableEq

structure TypedField where
  name : String
  type : AbiType
  deriving DecidableEq

/-- The word of a value of a static type. -/
def encodeWord : AbiType → AbiValue → Option Uint256
  | .address, .address account => some (addressWord account)
  | .uint bits, .integer value =>
    if 0 ≤ value ∧ value < 2 ^ bits then some (BitVec.ofInt 256 value) else none
  | .bytes32, .bytes32 value => some value
  | _, _ => none

/-- `abi.encode` of static parameters. -/
def encodeParameters : List AbiType → List AbiValue → Option Bytes
  | [], [] => some []
  | type :: types, value :: values => do
    let head ← encodeWord type value
    let rest ← encodeParameters types values
    return word head ++ rest
  | _, _ => none

structure TypedDataDomain where
  name : String
  version : String
  chainId : ℤ
  verifyingContract : Address
  deriving DecidableEq

structure TypedDataDefinition where
  domain : TypedDataDomain
  types : List (String × List TypedField)
  primaryType : String
  message : List (String × AbiValue)
  deriving DecidableEq

/-- `Name(type field,type field)` -/
def encodeType (primaryType : String) (fields : List TypedField) : String :=
  primaryType ++ "(" ++
    ",".intercalate (fields.map fun field => field.type.name ++ " " ++ field.name) ++ ")"

def domainFields : List TypedField :=
  [⟨"name", .string⟩, ⟨"version", .string⟩, ⟨"chainId", .uint 256⟩, ⟨"verifyingContract", .address⟩]

def domainMessage (domain : TypedDataDomain) : List (String × AbiValue) :=
  [("name", .string domain.name), ("version", .string domain.version),
    ("chainId", .integer domain.chainId), ("verifyingContract", .address domain.verifyingContract)]

section Hashing
variable {Hash : Type} [Crypto Hash]

/-- A string enters a struct by its hash, every static value by its word. -/
def encodeField : AbiType → AbiValue → Option (Preimage Hash)
  | .string, .string text => some (digest (hashText text))
  | type, value => do
    let encoded ← encodeWord type value
    return packed (word encoded)

/-- The fields of a struct in the order of its type, looked up by name. -/
def encodeFields (message : List (String × AbiValue)) : List TypedField → Option (Preimage Hash)
  | [] => some []
  | field :: fields => do
    let value ← message.lookup field.name
    let head ← encodeField field.type value
    let rest ← encodeFields message fields
    return head ++ rest

def hashStruct (primaryType : String) (fields : List TypedField) (message : List (String × AbiValue)) :
    Option Hash := do
  let encoded ← encodeFields message fields
  return keccak256 (digest (hashText (encodeType primaryType fields)) ++ encoded)

/-- The digest of typed data. -/
def hashTypedData (data : TypedDataDefinition) : Option Hash := do
  let separator ← hashStruct "EIP712Domain" domainFields (domainMessage data.domain)
  let fields ← data.types.lookup data.primaryType
  let struct ← hashStruct data.primaryType fields data.message
  return keccak256 (packed [0x19, 0x01] ++ digest separator ++ digest struct)

/-- One field after another. -/
theorem encodeFields_cons {message : List (String × AbiValue)} {field : TypedField}
    {fields : List TypedField} {value : AbiValue} {first rest : Preimage Hash}
    (found : message.lookup field.name = some value) (head : encodeField field.type value = some first)
    (tail : encodeFields message fields = some rest) :
    encodeFields message (field :: fields) = some (first ++ rest) := by
  simp [encodeFields, found, head, tail]

/-- A static value enters as its word. -/
theorem encodeField_word {type : AbiType} {value : AbiValue} {encoded : Uint256}
    (static : encodeWord type value = some encoded) :
    (encodeField type value : Option (Preimage Hash)) = some (packed (word encoded)) := by
  cases type with
  | string => cases value <;> cases static
  | address => simp [encodeField, static]
  | uint bits => simp [encodeField, static]
  | bytes32 => simp [encodeField, static]

/-- An integer of a word's value takes that word, in every type it fits. -/
theorem encodeWord_uint {bits : ℕ} {value : ℤ} {encoded : Uint256} (same : value = encoded.toNat)
    (fits : encoded.toNat < 2 ^ bits) : encodeWord (.uint bits) (.integer value) = some encoded := by
  have bounds : (0 : ℤ) ≤ encoded.toNat ∧ (encoded.toNat : ℤ) < 2 ^ bits :=
    ⟨by omega, by exact_mod_cast fits⟩
  rw [same, encodeWord, if_pos bounds, BitVec.ofInt_natCast, BitVec.ofNat_toNat, BitVec.setWidth_eq]

/-- A domain whose chain id is the number of a word hashes as a contract's own
separator does. -/
theorem hashStruct_domain {domain : TypedDataDomain} {chainId : Uint256}
    (chain : domain.chainId = chainId.toNat) :
    hashStruct "EIP712Domain" domainFields (domainMessage domain) =
      some (domainSeparator ⟨domain.name, domain.version, chainId, domain.verifyingContract⟩ :
        Hash) := by
  have typeText : encodeType "EIP712Domain" domainFields =
      "EIP712Domain(string name,string version,uint256 chainId,address verifyingContract)" := by
    decide +kernel
  have chainWord : encodeField (.uint 256) (.integer domain.chainId) =
      some (packed (word chainId) : Preimage Hash) :=
    encodeField_word (encodeWord_uint chain chainId.isLt)
  have words : encodeFields (domainMessage domain) domainFields =
      some (digest (hashText domain.name) ++ (digest (hashText domain.version) ++
        (packed (word chainId) ++ (packed (word (addressWord domain.verifyingContract)) ++ []))) :
        Preimage Hash) :=
    encodeFields_cons rfl rfl <| encodeFields_cons rfl rfl <|
      encodeFields_cons rfl chainWord <| encodeFields_cons rfl rfl rfl
  rw [hashStruct, words, typeText]
  simp only [domainSeparator, domainTypehash, List.append_assoc, List.append_nil]
  rfl

/-- Typed data whose parts hash, hashes. -/
theorem hashTypedData_eq {data : TypedDataDefinition} {separator struct : Hash} {fields : List TypedField}
    (domain : hashStruct "EIP712Domain" domainFields (domainMessage data.domain) = some separator)
    (named : data.types.lookup data.primaryType = some fields)
    (message : hashStruct data.primaryType fields data.message = some struct) :
    hashTypedData data =
      some (keccak256 (packed [0x19, 0x01] ++ digest separator ++ digest struct)) := by
  simp [hashTypedData, domain, named, message]

end Hashing

/-- The functions of the library the signers call. -/
structure Viem where
  PrivateKeyAccount : Type
  address : PrivateKeyAccount → Address
  signTypedData : PrivateKeyAccount → TypedDataDefinition → Option Bytes
  encodeAbiParameters : List AbiType → List AbiValue → Option Bytes
  keccak256 : Bytes → Bytes32

/-- The library encodes as the standards say, and its signatures are ECDSA's: one
recovers its account for the digest it was made for, and for any other digest
none of the `signers`, the accounts whose keys are held by an issuer. -/
structure Viem.FollowsStandards (Hash : Type) [Crypto Hash] (viem : Viem) (signers : Set Address) :
    Prop where
  signs : ∀ account data hash, hashTypedData data = some (hash : Hash) →
    ∃ sig, viem.signTypedData account data = some sig ∧
      tryRecover hash sig = some (viem.address account)
  binds : ∀ account data hash sig, hashTypedData data = some (hash : Hash) →
    viem.signTypedData account data = some sig → ∀ (other : Hash) signer,
      tryRecover other sig = some signer → signer ∈ signers → other = hash
  encodes : ∀ types values encoded, encodeParameters types values = some encoded →
    viem.encodeAbiParameters types values = some encoded

end PassportKit.TypedData
