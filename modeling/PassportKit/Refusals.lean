import PassportKit.ComplianceHook
import PassportKit.DemoPositionRouter
import PassportKit.JsonText

/-! `decode.js`: who was refused and why, out of the data a call reverted with. The
pool manager wraps what a hook reverts with, and what it wrapped may be a wrapped
error again, so the decoder unwraps until the client library finds no wrapper. -/
namespace PassportKit.Refusals
open Evm Js
open ComplianceHook (Bytes4)
open DemoPositionRouter (words length_words wordAt_words decodeBytes decodeBytes_encoded)

/-- The errors the decoder tells apart: its own three, and the two of Solidity
itself, which the library adds to every ABI. -/
inductive AbiError where
  | WrappedError
  | NotAuthorized
  | NotCompliant
  | Error
  | Panic
  deriving DecidableEq

/-- `bytesToHex` -/
def bytesToHex (bytes : Bytes) : JsString :=
  text "0x" ++ bytes.flatMap fun byte => (Hex.digits 2 byte.toNat).map charUnit

/-- `bytes` behind the head: its length, and itself padded to whole words. -/
def bytesTail (bytes : Bytes) : Bytes :=
  word (BitVec.ofNat 256 bytes.length) ++ (bytes ++ List.replicate ((32 - bytes.length % 32) % 32) 0)

/-- `bytes4`, padded to a word. -/
def bytes4Word (selector : Bytes4) : Uint256 := selector.setWidth 256 <<< 224

/-- What `WrappedError` carries. -/
structure Wrapper where
  target : Address
  selector : Bytes4
  details : Bytes

/-- `abi.encode(target, selector, reason, details)` -/
def encodeWrapper (wrapper : Wrapper) (reason : Bytes) : Bytes :=
  words [addressWord wrapper.target, bytes4Word wrapper.selector, 128,
    BitVec.ofNat 256 (128 + (bytesTail reason).length)] ++ (bytesTail reason ++ bytesTail wrapper.details)

/-- `abi.encode(wallet, reasonCode)` -/
def encodeRefusal (wallet : Address) (reasonCode : Bytes32) : Bytes := words [addressWord wallet, reasonCode]

/-- `DecodeErrorResultReturnType` -/
structure ErrorResult where
  errorName : AbiError
  args : List JsValue

/-- `size`: half of the digits, rounded up. -/
def size (data : JsString) : ℕ := (data.length - 2 + 1) / 2

/-- What the decoder takes from the library, with nothing where it throws. The
decoder of the library does not read past its data: a third argument, which
only a wrapped error has, is `bytes` that stand there behind a selector and the
word of their length. -/
structure Viem where
  toFunctionSelector : AbiError → Bytes
  checksumAddress : Address → JsString
  decodeErrorResult : List AbiError → JsString → Option ErrorResult
  getAddress : JsValue → Option JsString
  hexToString : JsValue → Option JsString
  bounded : ∀ {abi data result reason}, decodeErrorResult abi data = some result →
    result.args[2]? = some (.string reason) →
      ∃ bytes, reason = bytesToHex bytes ∧ 4 + 32 + bytes.length ≤ size data

/-! ## The decoder -/

structure Refusal where
  wallet : JsString
  reason : JsString
  deriving DecidableEq

/-- `text.replace(/\0+$/g, '')` -/
def stripNuls (s : JsString) : JsString := s.rdropWhile fun c => c = 0

section Decoder
variable (viem : Viem)

/-- `undefined`, where an argument is missing, is neither an address nor hexadecimal. -/
def decodeWithAbi (data : JsString) (abi : List AbiError) : Option Refusal := do
  let decoded ← viem.decodeErrorResult abi data
  let wallet ← decoded.args[0]?.bind viem.getAddress
  let reason ← decoded.args[1]?.bind viem.hexToString
  pure { wallet, reason := stripNuls reason }

theorem length_bytesToHex (bytes : Bytes) : (bytesToHex bytes).length = 2 + 2 * bytes.length := by
  have digits : (bytes.flatMap fun byte => (Hex.digits 2 byte.toNat).map charUnit).length = 2 * bytes.length := by
    induction bytes with
    | nil => rfl
    | cons byte rest ih =>
      rw [List.flatMap_cons, List.length_append, ih, List.length_map, Hex.length_digits, List.length_cons]
      omega
  rw [bytesToHex, List.length_append, digits]
  rfl

/-- What is wrapped is shorter than the data it is wrapped in. -/
theorem reason_shorter {abi : List AbiError} {data reason : JsString} {result : ErrorResult}
    (decoded : viem.decodeErrorResult abi data = some result) (third : result.args[2]? = some (.string reason)) :
    reason.length < data.length := by
  obtain ⟨bytes, rfl, inside⟩ := viem.bounded decoded third
  rw [size] at inside
  rw [length_bytesToHex]
  omega

/-- `decodeRefusal` of a string. Of anything but a string with the prefix it is
null, and nothing it calls within the `try` throws but the library. -/
def decodeRefusal (data : JsString) : Option Refusal :=
  if text "0x" <+: data then
    match decoded : viem.decodeErrorResult [.WrappedError] data with
    | some wrapped =>
      match third : wrapped.args[2]? with
      | some (JsValue.string reason) =>
        have := reason_shorter viem decoded third
        decodeRefusal reason
      | _ => none
    | none => (decodeWithAbi viem data [.NotAuthorized]).or (decodeWithAbi viem data [.NotCompliant])
  else none
termination_by data.length
decreasing_by assumption

/-- The keys under which an error, or a cause of it, may hold revert data. -/
structure ErrorLevel where
  data : Option JsValue
  raw : Option JsValue

/-- What was thrown: its texts, and the levels of the error and its causes. -/
structure Thrown where
  shortMessage : Option JsString
  message : JsString
  levels : List ErrorLevel

def hexData : JsValue → Option JsString
  | .string data => if text "0x" <+: data ∧ 10 ≤ data.length then some data else none
  | _ => none

/-- Only the error and its first seven causes are looked at. -/
def findHexData (err : Thrown) : Option JsString :=
  (err.levels.take 8).findSome? fun level => (level.data.bind hexData).or (level.raw.bind hexData)

/-- `decodeRefusal` of an error. -/
def decodeThrown (err : Thrown) : Option Refusal := (findHexData err).bind (decodeRefusal viem)

end Decoder

/-- The errors that carry a refusal. -/
def IsRefusal (error : AbiError) : Prop := error = .NotAuthorized ∨ error = .NotCompliant

/-- The longest string of the language. -/
def longestString : ℕ := 2 ^ 53

/-- Encodings are decoded to what was encoded, as far as they fit in a string; data
decodes as an error only by the selector of one that was asked for, or of Solidity's
own two, which have one argument; a checksummed address is an address; and bytes of
ASCII read as their characters. -/
structure Viem.Documented (viem : Viem) : Prop where
  selectors : Function.Injective viem.toFunctionSelector
  selectorLength : ∀ error, (viem.toFunctionSelector error).length = 4
  wrapper : ∀ wrapper reason,
    (bytesToHex (viem.toFunctionSelector .WrappedError ++ encodeWrapper wrapper reason)).length < longestString →
      viem.decodeErrorResult [.WrappedError]
          (bytesToHex (viem.toFunctionSelector .WrappedError ++ encodeWrapper wrapper reason)) =
        some ⟨.WrappedError, [.string (viem.checksumAddress wrapper.target),
          .string (bytesToHex (bigEndian 4 wrapper.selector.toNat)), .string (bytesToHex reason),
          .string (bytesToHex wrapper.details)]⟩
  refusal : ∀ error, IsRefusal error → ∀ wallet reasonCode,
    viem.decodeErrorResult [error]
        (bytesToHex (viem.toFunctionSelector error ++ encodeRefusal wallet reasonCode)) =
      some ⟨error, [.string (viem.checksumAddress wallet), .string (bytesToHex (word reasonCode))]⟩
  selects : ∀ abi payload result, viem.decodeErrorResult abi (bytesToHex payload) = some result →
    result.errorName ∈ abi ++ [.Error, .Panic] ∧ viem.toFunctionSelector result.errorName = payload.take 4
  single : ∀ abi data result, viem.decodeErrorResult abi data = some result →
    result.errorName = .Error ∨ result.errorName = .Panic → result.args.length = 1
  address : ∀ account, viem.getAddress (.string (viem.checksumAddress account)) =
    some (viem.checksumAddress account)
  ascii : ∀ bytes : Bytes, (∀ byte ∈ bytes, byte.toNat < 128) →
    viem.hexToString (.string (bytesToHex bytes)) = some (bytes.map UInt8.toUInt16)

section Unwrapping
variable {viem : Viem} (documented : viem.Documented)

/-- `WrappedError` around an encoded error. -/
def wrap (viem : Viem) (wrapper : Wrapper) (reason : Bytes) : Bytes :=
  viem.toFunctionSelector .WrappedError ++ encodeWrapper wrapper reason

/-- Any number of wrappers, the outermost first. -/
def wrapAll (viem : Viem) (wrappers : List Wrapper) (payload : Bytes) : Bytes :=
  wrappers.foldr (wrap viem) payload

theorem prefixed (bytes : Bytes) : text "0x" <+: bytesToHex bytes := List.prefix_append _ _

theorem length_le_wrap (wrapper : Wrapper) (reason : Bytes) :
    reason.length ≤ (wrap viem wrapper reason).length := by
  simp only [wrap, encodeWrapper, bytesTail, List.length_append]
  omega

include documented in
/-- One wrapper comes off. -/
theorem decodeRefusal_wrap {wrapper : Wrapper} {reason : Bytes}
    (fits : (bytesToHex (wrap viem wrapper reason)).length < longestString) :
    decodeRefusal viem (bytesToHex (wrap viem wrapper reason)) = decodeRefusal viem (bytesToHex reason) := by
  have decoded := documented.wrapper wrapper reason fits
  rw [decodeRefusal, if_pos (prefixed _)]
  split
  · rename_i wrapped found
    rw [wrap, decoded, Option.some.injEq] at found
    subst found
    rfl
  · rename_i failed
    rw [wrap, decoded] at failed
    cases failed

include documented in
/-- **Unwrapping.** However many wrappers there are, what they wrap is decoded. -/
theorem decodeRefusal_wrapAll {wrappers : List Wrapper} {payload : Bytes}
    (fits : (bytesToHex (wrapAll viem wrappers payload)).length < longestString) :
    decodeRefusal viem (bytesToHex (wrapAll viem wrappers payload)) =
      decodeRefusal viem (bytesToHex payload) := by
  induction wrappers with
  | nil => rfl
  | cons wrapper rest ih =>
    have inner : (bytesToHex (wrapAll viem rest payload)).length < longestString := by
      have shorter := @length_le_wrap viem wrapper (wrapAll viem rest payload)
      rw [length_bytesToHex] at fits ⊢
      exact lt_of_le_of_lt (by gcongr; exact shorter) fits
    exact (decodeRefusal_wrap documented fits).trans (ih inner)

include documented in
/-- Data decodes as nothing that its selector is not one of. -/
theorem decodeErrorResult_eq_none {abi : List AbiError} {payload : Bytes}
    (other : ∀ error ∈ abi ++ [.Error, .Panic], viem.toFunctionSelector error ≠ payload.take 4) :
    viem.decodeErrorResult abi (bytesToHex payload) = none := by
  cases decoded : viem.decodeErrorResult abi (bytesToHex payload) with
  | none => rfl
  | some result =>
    obtain ⟨listed, selected⟩ := documented.selects abi payload result decoded
    exact absurd selected (other _ listed)

include documented in
theorem take_selector (error : AbiError) (args : Bytes) :
    (viem.toFunctionSelector error ++ args).take 4 = viem.toFunctionSelector error :=
  List.take_left' (documented.selectorLength error)

include documented in
/-- Under an ABI without it, an error is not decoded. -/
theorem decodeErrorResult_other {abi : List AbiError} {error : AbiError}
    (other : error ∉ abi ++ [.Error, .Panic]) (args : Bytes) :
    viem.decodeErrorResult abi (bytesToHex (viem.toFunctionSelector error ++ args)) = none := by
  apply decodeErrorResult_eq_none documented
  rw [take_selector documented]
  rintro listed member same
  exact other (documented.selectors same ▸ member)

/-- An encoded refusal, by its ASCII text. -/
def refusalPayload (viem : Viem) (error : AbiError) (wallet : Address) (reasonCode : Bytes32) : Bytes :=
  viem.toFunctionSelector error ++ encodeRefusal wallet reasonCode

include documented in
theorem decodeWithAbi_refusal {error : AbiError} (refuses : IsRefusal error) (wallet : Address)
    {reasonCode : Bytes32} (ascii : ∀ byte ∈ word reasonCode, byte.toNat < 128) :
    decodeWithAbi viem (bytesToHex (refusalPayload viem error wallet reasonCode)) [error] =
      some ⟨viem.checksumAddress wallet, stripNuls ((word reasonCode).map UInt8.toUInt16)⟩ := by
  have decoded := documented.refusal error refuses wallet reasonCode
  have address := documented.address wallet
  have characters := documented.ascii (word reasonCode) ascii
  simp [decodeWithAbi, refusalPayload, decoded, address, characters]

include documented in
/-- An unwrapped refusal is decoded by the ABI of its error. -/
theorem decodeRefusal_refusal {error : AbiError} (refuses : IsRefusal error) (wallet : Address)
    {reasonCode : Bytes32} (ascii : ∀ byte ∈ word reasonCode, byte.toNat < 128) :
    decodeRefusal viem (bytesToHex (refusalPayload viem error wallet reasonCode)) =
      some ⟨viem.checksumAddress wallet, stripNuls ((word reasonCode).map UInt8.toUInt16)⟩ := by
  have unwrapped : viem.decodeErrorResult [.WrappedError]
      (bytesToHex (refusalPayload viem error wallet reasonCode)) = none := by
    apply decodeErrorResult_other documented
    rcases refuses with rfl | rfl <;> decide
  rw [decodeRefusal, if_pos (prefixed _)]
  split
  · rename_i wrapped found
    rw [unwrapped] at found
    cases found
  · rcases refuses with rfl | rfl
    · rw [decodeWithAbi_refusal documented (.inl rfl) wallet ascii]
      rfl
    · have other : decodeWithAbi viem (bytesToHex (refusalPayload viem .NotCompliant wallet reasonCode))
          [.NotAuthorized] = none := by
        rw [decodeWithAbi, refusalPayload, decodeErrorResult_other documented (by decide)]
        rfl
      rw [other, decodeWithAbi_refusal documented (.inr rfl) wallet ascii]
      rfl

include documented in
theorem decodeWithAbi_builtin {data : JsString} {abi : List AbiError}
    (builtin : ∀ result, viem.decodeErrorResult abi data = some result →
      result.errorName = .Error ∨ result.errorName = .Panic) : decodeWithAbi viem data abi = none := by
  rw [decodeWithAbi]
  cases decoded : viem.decodeErrorResult abi data with
  | none => rfl
  | some result =>
    have missing : result.args[1]? = none :=
      List.getElem?_eq_none (documented.single abi data result decoded (builtin result decoded)).le
    cases viem.getAddress <$> result.args[0]? <;> simp [missing]

include documented in
/-- Other data is no refusal. -/
theorem decodeRefusal_other {payload : Bytes}
    (other : ∀ error, error = .WrappedError ∨ IsRefusal error →
      viem.toFunctionSelector error ≠ payload.take 4) :
    decodeRefusal viem (bytesToHex payload) = none := by
  have builtin (abi : List AbiError) (ours : ∀ error ∈ abi, error = .WrappedError ∨ IsRefusal error) (result)
      (decoded : viem.decodeErrorResult abi (bytesToHex payload) = some result) :
      result.errorName = .Error ∨ result.errorName = .Panic := by
    obtain ⟨listed, selected⟩ := documented.selects abi payload result decoded
    rcases List.mem_append.mp listed with asked | added
    · exact absurd selected (other _ (ours _ asked))
    · simpa using added
  rw [decodeRefusal, if_pos (prefixed _)]
  split
  · rename_i wrapped decoded
    have missing : wrapped.args[2]? = none := by
      have one := documented.single _ _ wrapped decoded (builtin [.WrappedError] (by simp) wrapped decoded)
      exact List.getElem?_eq_none (by omega)
    split
    · rename_i reason third
      rw [missing] at third
      cases third
    · rfl
  · rw [decodeWithAbi_builtin documented (builtin [.NotAuthorized] (by simp [IsRefusal])),
      decodeWithAbi_builtin documented (builtin [.NotCompliant] (by simp [IsRefusal]))]
    rfl

end Unwrapping

/-- The decoder, called on some data, calls itself on what that data wraps. -/
def Unwraps (viem : Viem) (data reason : JsString) : Prop :=
  text "0x" <+: data ∧ ∃ wrapped, viem.decodeErrorResult [.WrappedError] data = some wrapped ∧
    wrapped.args[2]? = some (.string reason)

theorem Unwraps.size_lt {viem : Viem} {data reason : JsString} (unwraps : Unwraps viem data reason) :
    size reason < size data := by
  obtain ⟨-, wrapped, decoded, third⟩ := unwraps
  obtain ⟨bytes, rfl, inside⟩ := viem.bounded decoded third
  have half : size (bytesToHex bytes) = bytes.length := by
    rw [size, length_bytesToHex]
    omega
  rw [half]
  omega

theorem Unwraps.decodeRefusal_eq {viem : Viem} {data reason : JsString} (unwraps : Unwraps viem data reason) :
    decodeRefusal viem data = decodeRefusal viem reason := by
  obtain ⟨prefixed, wrapped, decoded, third⟩ := unwraps
  rw [decodeRefusal, if_pos prefixed]
  split
  · rename_i found again
    rw [decoded, Option.some.injEq] at again
    subst again
    split
    · rename_i inner here
      rw [third, Option.some.injEq, JsValue.string.injEq] at here
      rw [here]
    · rename_i other
      exact absurd third (other reason)
  · rename_i failed
    rw [decoded] at failed
    cases failed

/-- The NULs behind a text do not survive. -/
theorem stripNuls_padded (content : Bytes) (count : ℕ) :
    stripNuls ((content ++ List.replicate count 0).map UInt8.toUInt16) =
      stripNuls (content.map UInt8.toUInt16) := by
  induction count with
  | zero => rw [List.replicate_zero, List.append_nil]
  | succ count ih =>
    rw [List.replicate_succ', ← List.append_assoc, List.map_append, List.map_singleton, stripNuls,
      List.rdropWhile_concat_pos _ _ _ (by rfl)]
    exact ih

/-- **Refusals decode through any wrapping.** An encoded refusal gives back its
wallet and the text of its reason however often it is wrapped, other data gives
nothing, and the decoder always returns, since it calls itself only on what is
wrapped, which is smaller. -/
theorem refusals_decode_through_any_wrapping {viem : Viem} (documented : viem.Documented) :
    (∀ error wrappers wallet reasonCode content, IsRefusal error →
      (∀ byte ∈ content, byte.toNat < 128) →
      word reasonCode = content ++ List.replicate (32 - content.length) 0 →
      (bytesToHex (wrapAll viem wrappers (refusalPayload viem error wallet reasonCode))).length < longestString →
        decodeRefusal viem (bytesToHex (wrapAll viem wrappers (refusalPayload viem error wallet reasonCode))) =
          some ⟨viem.checksumAddress wallet, stripNuls (content.map UInt8.toUInt16)⟩) ∧
    (∀ wrappers payload,
      (∀ error, error = .WrappedError ∨ IsRefusal error → viem.toFunctionSelector error ≠ payload.take 4) →
      (bytesToHex (wrapAll viem wrappers payload)).length < longestString →
        decodeRefusal viem (bytesToHex (wrapAll viem wrappers payload)) = none) ∧
    (∀ data reason, Unwraps viem data reason →
      size reason < size data ∧ decodeRefusal viem data = decodeRefusal viem reason) ∧
    WellFounded fun reason data => Unwraps viem data reason := by
  refine ⟨?_, ?_, fun data reason unwraps => ⟨unwraps.size_lt, unwraps.decodeRefusal_eq⟩, ?_⟩
  · intro error wrappers wallet reasonCode content refuses characters padded fits
    have ascii : ∀ byte ∈ word reasonCode, byte.toNat < 128 := by
      rw [padded]
      intro byte member
      rcases List.mem_append.mp member with inside | zero
      · exact characters byte inside
      · rw [List.eq_of_mem_replicate zero]
        decide
    rw [decodeRefusal_wrapAll documented fits, decodeRefusal_refusal documented refuses wallet ascii, padded,
      stripNuls_padded]
  · intro wrappers payload other fits
    rw [decodeRefusal_wrapAll documented fits, decodeRefusal_other documented other]
  · exact Subrelation.wf (fun unwraps => unwraps.size_lt) (measure size).wf

/-! ## A decoder that follows the specification -/

namespace Library

/-- One byte by its two digits. -/
def readByte (high low : UInt16) : Option UInt8 :=
  (digitWorth high).bind fun first => (digitWorth low).bind fun second =>
    if first < 16 ∧ second < 16 then some (UInt8.ofNat (16 * first + second)) else none

def readPairs : JsString → Option Bytes
  | [] => some []
  | [_] => none
  | high :: low :: rest => (readByte high low).bind fun byte => (readPairs rest).map fun bytes => byte :: bytes

def hexToBytes (data : JsString) : Option Bytes :=
  if text "0x" <+: data then readPairs (data.drop 2) else none

/-- `bytes`, by the offset in its slot. -/
def bytesAt (body : Bytes) (slot : ℕ) : Option Bytes :=
  match decodeBytes (body.drop (wordAt body slot).toNat) with
  | .ok bytes => some bytes
  | .error _ => none

/-- Addresses in lower case, which those without letters are by their checksum too. -/
def checksumAddress (account : Address) : JsString := bytesToHex (bigEndian 20 account.bits.toNat)

def addressAt (body : Bytes) (slot : ℕ) : JsValue :=
  .string (checksumAddress ⟨(wordAt body slot).setWidth 160⟩)

def decodeArgs (error : AbiError) (body : Bytes) : Option (List JsValue) :=
  match error with
  | .WrappedError => do
    let reason ← bytesAt body 2
    let details ← bytesAt body 3
    pure [addressAt body 0, .string (bytesToHex ((word (wordAt body 1)).take 4)), .string (bytesToHex reason),
      .string (bytesToHex details)]
  | .NotAuthorized | .NotCompliant =>
    if body.length < 64 then none
    else some [addressAt body 0, .string (bytesToHex (word (wordAt body 1)))]
  | .Error => (bytesAt body 0).map fun bytes => [.string (bytes.map UInt8.toUInt16)]
  | .Panic => if body.length < 32 then none else some [.bigint (wordAt body 0).toNat]

def toFunctionSelector : AbiError → Bytes
  | .WrappedError => [0x90, 0xbf, 0xb8, 0x65]
  | .NotAuthorized => [0xa4, 0xe1, 0xa9, 0x7e]
  | .NotCompliant => [0x63, 0xa4, 0xf9, 0x71]
  | .Error => [0x08, 0xc3, 0x79, 0xa0]
  | .Panic => [0x4e, 0x48, 0x7b, 0x71]

def decodeErrorResult (abi : List AbiError) (data : JsString) : Option ErrorResult := do
  let bytes ← hexToBytes data
  let error ← (abi ++ [AbiError.Error, .Panic]).find? fun error => toFunctionSelector error = bytes.take 4
  let args ← decodeArgs error (bytes.drop 4)
  pure ⟨error, args⟩

theorem digitWorth_charUnit {digit : ℕ} (small : digit < 16) :
    digitWorth (charUnit (Nat.digitChar digit)) = some digit := by
  have each : ∀ digit < 16, digitWorth (charUnit (Nat.digitChar digit)) = some digit := by decide
  exact each digit small

theorem readByte_digits (byte : UInt8) :
    readByte (charUnit (Nat.digitChar (byte.toNat / 16 % 16))) (charUnit (Nat.digitChar (byte.toNat % 16))) =
      some byte := by
  have bound := byte.toNat_lt
  have high : byte.toNat / 16 % 16 < 16 := Nat.mod_lt _ (by omega)
  have low : byte.toNat % 16 < 16 := Nat.mod_lt _ (by omega)
  have whole : 16 * (byte.toNat / 16 % 16) + byte.toNat % 16 = byte.toNat := by omega
  rw [readByte, digitWorth_charUnit high, Option.bind_some, digitWorth_charUnit low, Option.bind_some,
    if_pos ⟨high, low⟩, whole, UInt8.ofNat_toNat]

theorem readPairs_digits (bytes : Bytes) :
    readPairs (bytes.flatMap fun byte => (Hex.digits 2 byte.toNat).map charUnit) = some bytes := by
  induction bytes with
  | nil => rfl
  | cons byte rest ih =>
    have pair : (Hex.digits 2 byte.toNat).map charUnit =
        [charUnit (Nat.digitChar (byte.toNat / 16 % 16)), charUnit (Nat.digitChar (byte.toNat % 16))] := rfl
    rw [List.flatMap_cons, pair, List.cons_append, List.cons_append, List.nil_append, readPairs,
      readByte_digits, Option.bind_some, ih]
    rfl

@[simp] theorem hexToBytes_bytesToHex (bytes : Bytes) : hexToBytes (bytesToHex bytes) = some bytes := by
  have digits : (bytesToHex bytes).drop 2 = bytes.flatMap fun byte => (Hex.digits 2 byte.toNat).map charUnit := rfl
  rw [hexToBytes, if_pos (prefixed bytes), digits, readPairs_digits]

theorem length_of_readPairs {s : JsString} {bytes : Bytes} (read : readPairs s = some bytes) :
    s.length = 2 * bytes.length := by
  induction s using readPairs.induct generalizing bytes with
  | case1 =>
    obtain rfl := Option.some.inj read
    rfl
  | case2 => cases read
  | case3 high low rest ih =>
    simp only [readPairs, Option.bind_eq_some_iff, Option.map_eq_some_iff] at read
    obtain ⟨byte, -, bytes, others, rfl⟩ := read
    rw [List.length_cons, List.length_cons, ih others, List.length_cons]
    omega

theorem size_of_hexToBytes {data : JsString} {bytes : Bytes} (read : hexToBytes data = some bytes) :
    size data = bytes.length := by
  unfold hexToBytes at read
  split at read
  · have length := length_of_readPairs read
    rw [List.length_drop] at length
    rw [size, length]
    omega
  · cases read

theorem length_of_decodeBytes {tail bytes : Bytes} (decoded : decodeBytes tail = .ok bytes) :
    32 + bytes.length ≤ tail.length := by
  simp only [decodeBytes, bind_eq_ok, revertIf_eq_ok, pure_outcome, Except.ok.injEq] at decoded
  obtain ⟨_, long, _, _, _, fits, rfl⟩ := decoded
  rw [List.length_take, List.length_drop]
  omega

/-- Bytes are read out of the body, behind a word. -/
theorem length_of_bytesAt {body bytes : Bytes} {slot : ℕ} (read : bytesAt body slot = some bytes) :
    32 + bytes.length ≤ body.length := by
  unfold bytesAt at read
  split at read
  · rename_i found decoded
    obtain rfl := Option.some.inj read
    have inside := length_of_decodeBytes decoded
    rw [List.length_drop] at inside
    omega
  · cases read

theorem bytesAt_encoded {body bytes rest : Bytes} {slot offset : ℕ}
    (slotted : (wordAt body slot).toNat = offset) (placed : body.drop offset = bytesTail bytes ++ rest)
    (short : bytes.length < uint64Modulus) : bytesAt body slot = some bytes := by
  have tail : bytesTail bytes ++ rest = word (BitVec.ofNat 256 bytes.length) ++
      (bytes ++ (List.replicate ((32 - bytes.length % 32) % 32) 0 ++ rest)) := by
    simp only [bytesTail, List.append_assoc]
  rw [bytesAt, slotted, placed, tail, decodeBytes_encoded short]

/-- Zero bytes behind a number. -/
theorem bigEndian_shifted (width zeros value : ℕ) :
    bigEndian (width + zeros) (value * 256 ^ zeros) = bigEndian width value ++ List.replicate zeros 0 := by
  induction zeros with
  | zero => rw [pow_zero, mul_one, List.replicate_zero, List.append_nil, add_zero]
  | succ zeros ih =>
    have higher : value * 256 ^ (zeros + 1) / 256 = value * 256 ^ zeros := by
      rw [pow_succ, ← mul_assoc, Nat.mul_div_cancel _ (by omega)]
    have last : UInt8.ofNat (value * 256 ^ (zeros + 1)) = 0 := by
      apply UInt8.toNat_inj.mp
      rw [UInt8.toNat_ofNat', pow_succ, ← mul_assoc]
      exact Nat.mul_mod_left _ _
    rw [← add_assoc, bigEndian, higher, ih, last, List.append_assoc, List.replicate_succ']

theorem take_word_bytes4Word (selector : Bytes4) :
    (word (bytes4Word selector)).take 4 = bigEndian 4 selector.toNat := by
  have bound := selector.isLt
  have power : (2 : ℕ) ^ 224 = 256 ^ 28 := by norm_num
  have value : (bytes4Word selector).toNat = selector.toNat * 256 ^ 28 := by
    rw [bytes4Word, BitVec.toNat_shiftLeft, BitVec.toNat_setWidth, Nat.shiftLeft_eq,
      Nat.mod_eq_of_lt (by omega), Nat.mod_eq_of_lt (by omega), power]
  rw [word, value, bigEndian_shifted 4 28]
  exact List.take_left' (length_bigEndian 4 _)

theorem addressAt_words {account : Address} {values : List Uint256} {rest : Bytes} {slot : ℕ}
    (found : values[slot]? = some (addressWord account)) :
    addressAt (words values ++ rest) slot = .string (checksumAddress account) := by
  have inverse : (addressWord account).setWidth 160 = account.bits :=
    BitVec.setWidth_setWidth_of_le account.bits (by omega)
  rw [addressAt, wordAt_words found, inverse]

theorem decodeArgs_wrapper {wrapper : Wrapper} {reason : Bytes} (short : reason.length < uint64Modulus)
    (short' : wrapper.details.length < uint64Modulus)
    (offsets : 128 + (bytesTail reason).length < uint256Modulus) :
    decodeArgs .WrappedError (encodeWrapper wrapper reason) =
      some [.string (checksumAddress wrapper.target), .string (bytesToHex (bigEndian 4 wrapper.selector.toNat)),
        .string (bytesToHex reason), .string (bytesToHex wrapper.details)] := by
  have head : (words [addressWord wrapper.target, bytes4Word wrapper.selector, 128,
      BitVec.ofNat 256 (128 + (bytesTail reason).length)]).length = 128 := length_words _
  have slots {slot : ℕ} {value : Uint256} (found : [addressWord wrapper.target, bytes4Word wrapper.selector, 128,
      BitVec.ofNat 256 (128 + (bytesTail reason).length)][slot]? = some value) :
      wordAt (encodeWrapper wrapper reason) slot = value := wordAt_words found
  have first : bytesAt (encodeWrapper wrapper reason) 2 = some reason := by
    apply @bytesAt_encoded _ _ (bytesTail wrapper.details) _ 128
    · rw [slots rfl]
      rfl
    · exact List.drop_left' head
    · exact short
  have second : bytesAt (encodeWrapper wrapper reason) 3 = some wrapper.details := by
    apply @bytesAt_encoded _ _ [] _ (128 + (bytesTail reason).length)
    · rw [slots rfl, BitVec.toNat_ofNat]
      exact Nat.mod_eq_of_lt offsets
    · rw [List.append_nil, encodeWrapper, ← List.append_assoc]
      exact List.drop_left' (by rw [List.length_append, head])
    · exact short'
  have target : addressAt (encodeWrapper wrapper reason) 0 = .string (checksumAddress wrapper.target) :=
    addressAt_words rfl
  rw [decodeArgs, first, second, target, slots rfl, take_word_bytes4Word]
  rfl

theorem decodeArgs_refusal {error : AbiError} (refuses : IsRefusal error) (wallet : Address) (reasonCode : Bytes32) :
    decodeArgs error (encodeRefusal wallet reasonCode) =
      some [.string (checksumAddress wallet), .string (bytesToHex (word reasonCode))] := by
  have length : (encodeRefusal wallet reasonCode).length = 64 := length_words _
  have whole : encodeRefusal wallet reasonCode = words [addressWord wallet, reasonCode] ++ [] :=
    (List.append_nil _).symm
  have address : addressAt (encodeRefusal wallet reasonCode) 0 = .string (checksumAddress wallet) := by
    rw [whole]
    exact addressAt_words rfl
  have code : wordAt (encodeRefusal wallet reasonCode) 1 = reasonCode := by
    rw [whole]
    exact wordAt_words rfl
  rcases refuses with rfl | rfl <;> rw [decodeArgs, if_neg (by omega), address, code]

/-- What was decoded: the bytes of the data, the error its selector is of, and the
arguments behind it. -/
theorem decodeErrorResult_eq_some {abi : List AbiError} {data : JsString} {result : ErrorResult} :
    decodeErrorResult abi data = some result ↔ ∃ bytes, hexToBytes data = some bytes ∧
      ((abi ++ [AbiError.Error, .Panic]).find? fun error => toFunctionSelector error = bytes.take 4) =
        some result.errorName ∧ decodeArgs result.errorName (bytes.drop 4) = some result.args := by
  obtain ⟨errorName, args⟩ := result
  simp only [decodeErrorResult, Option.bind_eq_bind, Option.bind_eq_some_iff, Option.pure_def,
    Option.some.injEq, ErrorResult.mk.injEq]
  constructor
  · rintro ⟨bytes, read, _, found, _, decoded, rfl, rfl⟩
    exact ⟨bytes, read, found, decoded⟩
  · rintro ⟨bytes, read, found, decoded⟩
    exact ⟨bytes, read, _, found, _, decoded, rfl, rfl⟩

theorem length_selector (error : AbiError) : (toFunctionSelector error).length = 4 := by
  cases error <;> rfl

/-- An error encoded under an ABI that has it is decoded by its own arguments. -/
theorem decodeErrorResult_encoded {error : AbiError} {body : Bytes} {args : List JsValue}
    (decoded : decodeArgs error body = some args) :
    decodeErrorResult [error] (bytesToHex (toFunctionSelector error ++ body)) = some ⟨error, args⟩ := by
  have front : (toFunctionSelector error ++ body).take 4 = toFunctionSelector error :=
    List.take_left' (length_selector error)
  have back : (toFunctionSelector error ++ body).drop 4 = body := List.drop_left' (length_selector error)
  apply decodeErrorResult_eq_some.mpr
  refine ⟨_, hexToBytes_bytesToHex _, ?_, ?_⟩
  · rw [front]
    exact List.find?_cons_of_pos (by simp)
  · rw [back]
    exact decoded

theorem length_bytesTail (bytes : Bytes) :
    (bytesTail bytes).length = 32 + (bytes.length + (32 - bytes.length % 32) % 32) := by
  rw [bytesTail, List.length_append, List.length_append, length_word, List.length_replicate]

theorem length_encodeWrapper (wrapper : Wrapper) (reason : Bytes) :
    (encodeWrapper wrapper reason).length =
      128 + ((bytesTail reason).length + (bytesTail wrapper.details).length) := by
  rw [encodeWrapper, List.length_append, List.length_append, length_words]
  rfl

/-- Only a wrapped error has a third argument. -/
theorem third_inside {error : AbiError} {bytes : Bytes} {args : List JsValue} {reason : JsString}
    (decoded : decodeArgs error (bytes.drop 4) = some args) (third : args[2]? = some (.string reason)) :
    ∃ content, reason = bytesToHex content ∧ 4 + 32 + content.length ≤ bytes.length := by
  cases error with
  | WrappedError =>
    simp only [decodeArgs, Option.bind_eq_bind, Option.bind_eq_some_iff, Option.pure_def, Option.some.injEq] at decoded
    obtain ⟨content, read, details, -, rfl⟩ := decoded
    have inside := length_of_bytesAt read
    rw [List.length_drop] at inside
    refine ⟨content, ?_, by omega⟩
    cases third
    rfl
  | NotAuthorized | NotCompliant =>
    simp only [decodeArgs] at decoded
    split at decoded
    · cases decoded
    · rw [← Option.some.inj decoded] at third
      cases third
  | Error =>
    obtain ⟨content, -, rfl⟩ := Option.map_eq_some_iff.mp decoded
    cases third
  | Panic =>
    simp only [decodeArgs] at decoded
    split at decoded
    · cases decoded
    · rw [← Option.some.inj decoded] at third
      cases third

def viem : Viem where
  toFunctionSelector := toFunctionSelector
  checksumAddress := checksumAddress
  decodeErrorResult := decodeErrorResult
  getAddress value := match value with
    | .string address => some address
    | _ => none
  hexToString value := match value with
    | .string data => (hexToBytes data).map (List.map UInt8.toUInt16)
    | _ => none
  bounded := by
    intro abi data result reason decoded third
    obtain ⟨bytes, read, -, args⟩ := decodeErrorResult_eq_some.mp decoded
    rw [size_of_hexToBytes read]
    exact third_inside args third

theorem selectors_injective : Function.Injective toFunctionSelector := by
  intro first second same
  cases first <;> cases second <;> first | rfl | cases same

theorem decodeErrorResult_wrapper {wrapper : Wrapper} {reason : Bytes}
    (fits : (bytesToHex (toFunctionSelector .WrappedError ++ encodeWrapper wrapper reason)).length < longestString) :
    decodeErrorResult [.WrappedError]
        (bytesToHex (toFunctionSelector .WrappedError ++ encodeWrapper wrapper reason)) =
      some ⟨.WrappedError, [.string (checksumAddress wrapper.target),
        .string (bytesToHex (bigEndian 4 wrapper.selector.toNat)), .string (bytesToHex reason),
        .string (bytesToHex wrapper.details)]⟩ := by
  have lengths := length_encodeWrapper wrapper reason
  have tail := length_bytesTail reason
  have tail' := length_bytesTail wrapper.details
  rw [length_bytesToHex, List.length_append, longestString] at fits
  apply decodeErrorResult_encoded
  apply decodeArgs_wrapper
  · rw [uint64Modulus]
    omega
  · rw [uint64Modulus]
    omega
  · rw [uint256Modulus]
    omega

theorem documented : viem.Documented where
  selectors := selectors_injective
  selectorLength := length_selector
  wrapper _ _ fits := decodeErrorResult_wrapper fits
  refusal error refuses wallet reasonCode :=
    decodeErrorResult_encoded (decodeArgs_refusal refuses wallet reasonCode)
  selects abi payload result decoded := by
    obtain ⟨bytes, read, found, -⟩ := decodeErrorResult_eq_some.mp decoded
    rw [hexToBytes_bytesToHex, Option.some.injEq] at read
    subst read
    have selected : toFunctionSelector result.errorName = payload.take 4 := by
      simpa using List.find?_some found
    exact ⟨List.mem_of_find?_eq_some found, selected⟩
  single abi data result decoded builtin := by
    obtain ⟨bytes, -, -, args⟩ := decodeErrorResult_eq_some.mp decoded
    rcases builtin with named | named <;> rw [named] at args
    · obtain ⟨content, -, shape⟩ := Option.map_eq_some_iff.mp args
      rw [← shape]
      rfl
    · simp only [decodeArgs] at args
      split at args
      · cases args
      · rw [← Option.some.inj args]
        rfl
  address _ := rfl
  ascii bytes _ := by
    show (hexToBytes (bytesToHex bytes)).map (List.map UInt8.toUInt16) = _
    rw [hexToBytes_bytesToHex]
    rfl

end Library

/-- Twice wrapped by a pool manager, as by a router that wraps in turn. -/
def twice : List Wrapper := [⟨7, 0x575e24b4, []⟩, ⟨8, 0x575e24b4, [0xa9, 0xe3, 0x5b, 0x2f]⟩]

theorem wrapped_refusal_decodes :
    decodeRefusal Library.viem (bytesToHex (wrapAll Library.viem twice
        (refusalPayload Library.viem .NotAuthorized 9 (shortString "OVER_PER_TX_CAP")))) =
      some ⟨text "0x0000000000000000000000000000000000000009", text "OVER_PER_TX_CAP"⟩ := by
  obtain ⟨refusals, -, -, -⟩ := refusals_decode_through_any_wrapping Library.documented
  have characters : ∀ byte ∈ ascii "OVER_PER_TX_CAP", byte.toNat < 128 := by
    have each : ((ascii "OVER_PER_TX_CAP").all fun byte => byte.toNat < 128) = true := by decide
    simpa using each
  have decoded := refusals .NotAuthorized twice 9 (shortString "OVER_PER_TX_CAP") (ascii "OVER_PER_TX_CAP")
    (.inl rfl) characters (by decide +kernel) (by decide +kernel)
  rw [decoded]
  decide

end PassportKit.Refusals
