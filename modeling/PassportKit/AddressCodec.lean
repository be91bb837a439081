import PassportKit.Hex
import PassportKit.KeyGrammar

/-! The identifiers the resolver writes and reads: an address in hex, and the
interoperable address of the registry. Both can be read back. The address parser
answers on every string; the registry's address gives its chain id the fewest bytes
that hold it, and says how many they are. -/
namespace PassportKit.ResolverText
open Evm

/-- An address stands in a string, in either case of letters. -/
def WrittenAt (s : Bytes) (off : ℕ) (a : Address) : Prop := asciiLowercase ((s.drop off).take 42) = toHex a

/-- No `bytes` in memory is longer: allocating one fails. -/
def FitsMemory (s : Bytes) : Prop := s.length < 2 ^ 64

section Addresses
variable {s : Bytes} {off acc left : ℕ} {a agent : Address}

theorem asciiLowercase_toHex (a : Address) : asciiLowercase (toHex a) = toHex a := by
  have each : ∀ n < 16, lowerCase (hexDigit (UInt8.ofNat n)) = hexDigit (UInt8.ofNat n) := by decide
  have digits : asciiLowercase (hexDigits a) = hexDigits a := by
    rw [asciiLowercase, hexDigits, List.map_map]
    refine List.map_congr_left fun i _ => ?_
    have small : (nibble a i).toNat < 16 := by
      rw [toNat_nibble]
      exact Nat.mod_lt _ (by decide)
    have here := each (nibble a i).toNat small
    rwa [UInt8.ofNat_toNat] at here
  rw [toHex_eq]
  show 48 :: 120 :: asciiLowercase (hexDigits a) = _
  rw [digits]

theorem WrittenAt.inside (written : WrittenAt s off a) : off + 42 ≤ s.length := by
  have length := congrArg List.length written
  rw [asciiLowercase, List.length_map, List.length_take, List.length_drop, length_toHex] at length
  omega

/-- What stands there may be taken to be what the renderer writes. -/
theorem WrittenAt.sameKey (written : WrittenAt s off a) :
    SameKey s (s.take off ++ (toHex a ++ s.drop (off + 42))) := by
  have split : s = s.take off ++ ((s.drop off).take 42 ++ s.drop (off + 42)) := by
    rw [← List.drop_drop, List.take_append_drop, List.take_append_drop]
  have same : asciiLowercase ((s.drop off).take 42) = asciiLowercase (toHex a) :=
    written.trans (asciiLowercase_toHex a).symm
  rw [SameKey]
  conv_lhs => rw [split]
  simp only [asciiLowercase, List.map_append] at same ⊢
  rw [same]

/-- A string that does not go on with an address is answered with zero. -/
theorem parseDigits_rejects (rejected : parseDigits s off acc left = .ok (agent, false)) : agent = 0 := by
  induction left generalizing off acc with
  | zero => cases rejected
  | succ left ih =>
    rw [parseDigits, bind_eq_ok] at rejected
    obtain ⟨c, -, rest⟩ := rejected
    generalize hexVal c = digit at rest
    obtain ⟨v, ok⟩ := digit
    cases ok with
    | false =>
      cases rest
      rfl
    | true =>
      simp only [Bool.true_eq_false, if_false, bind_eq_ok] at rest
      obtain ⟨acc', -, rest⟩ := rest
      exact ih rest

theorem parseAddrAt_rejects (rejected : parseAddrAt s off = .ok (agent, false)) : agent = 0 := by
  rw [parseAddrAt, bind_eq_ok] at rejected
  obtain ⟨last, -, rest⟩ := rejected
  split at rest
  · cases rest
    rfl
  obtain ⟨zero, -, rest⟩ := bind_eq_ok.mp rest
  split at rest
  · cases rest
    rfl
  obtain ⟨mark, -, rest⟩ := bind_eq_ok.mp rest
  split at rest
  · cases rest
    rfl
  exact parseDigits_rejects rest

/-- The parser accepts only inside the string. -/
theorem parseAddrAt_inside (accepted : parseAddrAt s off = .ok (a, true)) :
    off + 42 ≤ s.length ∧ off + 42 < uint256Modulus := by
  rw [parseAddrAt, bind_eq_ok] at accepted
  obtain ⟨last, summed, rest⟩ := accepted
  obtain ⟨fits, rfl⟩ := checkedAdd_eq_ok.mp summed
  split at rest
  · cases rest
  · exact ⟨by omega, fits⟩

/-- What the parser reads at every place is what stands there. -/
theorem writtenAt_of_digits
    (digits : ∀ j < 42, (s[off + j]?).map lowerCase = (toHex a)[j]?) : WrittenAt s off a := by
  apply List.ext_getElem?
  intro j
  rw [asciiLowercase, List.getElem?_map]
  by_cases below : j < 42
  · rw [List.getElem?_take_of_lt below, List.getElem?_drop, digits j below]
  · have past : (toHex a)[j]? = none := List.getElem?_eq_none (by rw [length_toHex]; omega)
    rw [List.getElem?_take_eq_none (by omega), past]
    rfl

theorem parseAddrAt_of_writtenAt (fits : FitsMemory s) (written : WrittenAt s off a) :
    parseAddrAt s off = .ok (a, true) := by
  have inside := written.inside
  have lead : (s.take off).length = off := by
    rw [List.length_take]
    omega
  have short : (s.take off).length + 42 < uint256Modulus := by
    rw [lead]
    exact lt_of_le_of_lt inside (lt_trans fits (by decide))
  have parsed := @parseAddrAt_toHex (s.take off) (s.drop (off + 42)) a short
  rwa [lead, ← parseAddrAt_of_sameKey written.sameKey] at parsed

theorem writtenAt_of_parseAddrAt (accepted : parseAddrAt s off = .ok (a, true)) : WrittenAt s off a := by
  obtain ⟨inside, short⟩ := parseAddrAt_inside accepted
  obtain ⟨agent, ok, parsed, digits⟩ := parseAddrAt_spec inside short
  rw [accepted] at parsed
  cases parsed
  exact writtenAt_of_digits (digits rfl)

/-- No position up to the end makes the parser fail. -/
theorem parseAddrAt_answers (fits : FitsMemory s) (within : off ≤ s.length) :
    ∃ agent ok, parseAddrAt s off = .ok (agent, ok) := by
  have short : off + 42 < uint256Modulus := by
    have bound : (2 : ℕ) ^ 64 + 42 < uint256Modulus := by decide
    have length : s.length < 2 ^ 64 := fits
    omega
  by_cases inside : off + 42 ≤ s.length
  · obtain ⟨agent, ok, parsed, -⟩ := parseAddrAt_spec inside short
    exact ⟨agent, ok, parsed⟩
  · refine ⟨0, false, ?_⟩
    rw [parseAddrAt, checkedAdd, if_pos short, ok_bind, if_pos (by omega)]
    rfl

/-- **Address codec.** The parser accepts exactly the strings in which an address
stands, in either case, and returns that address. Everywhere else it answers with zero:
it never reads past the string, and its accumulator never overflows. -/
theorem address_hex_codec {s : Bytes} (fits : FitsMemory s) (off : ℕ) :
    (∀ a, WrittenAt s off a → parseAddrAt s off = .ok (a, true)) ∧
      (∀ a, parseAddrAt s off = .ok (a, true) → asciiLowercase ((s.drop off).take 42) = toHex a) ∧
      (off ≤ s.length → (∀ a, ¬ WrittenAt s off a) → parseAddrAt s off = .ok (0, false)) := by
  refine ⟨fun a => parseAddrAt_of_writtenAt fits, fun a => writtenAt_of_parseAddrAt, fun within none => ?_⟩
  obtain ⟨agent, ok, parsed⟩ := parseAddrAt_answers fits within
  cases ok with
  | true => exact absurd (writtenAt_of_parseAddrAt parsed) (none agent)
  | false =>
    obtain rfl := parseAddrAt_rejects parsed
    exact parsed

/-- The written address of an account, behind two other bytes. -/
theorem address_hex_codec_mixed_case :
    parseAddrAt (ascii "[[0X00000000000000000000000000000000000000aF]") 2 = .ok (175, true) :=
  (@address_hex_codec (ascii "[[0X00000000000000000000000000000000000000aF]") (by show _ < _; decide +kernel) 2).1 175
    (by show asciiLowercase _ = _; decide +kernel)

end Addresses

/-- Bytes in lower-case hexadecimal. -/
def lowerHex (raw : Bytes) : Bytes :=
  raw.flatMap fun byte => (Hex.digits 2 byte.toNat).map fun digit => UInt8.ofNat digit.toNat

/-- The bytes that pairs of digits stand for. -/
def ofHex : Bytes → Bytes
  | high :: low :: rest => UInt8.ofNat ((hexVal high).1 * 16 + (hexVal low).1) :: ofHex rest
  | _ => []

/-- What a client reads off an interoperable address: the chain, and the account on it. -/
def readRegistry7930 (text : Bytes) : Uint256 × Address :=
  let raw := ofHex (text.drop 2)
  let chainRefLen := (raw.getD 4 0).toNat
  (BitVec.ofNat 256 (ofBigEndian ((raw.drop 5).take chainRefLen)),
    ⟨BitVec.ofNat 160 (ofBigEndian ((raw.drop (6 + chainRefLen)).take 20))⟩)

/-- The two digits of a byte, as the resolver and as the library write them. -/
theorem hexDigit_pair (byte : UInt8) :
    [hexDigit (byte >>> 4), hexDigit (byte &&& 0x0f)] =
      (Hex.digits 2 byte.toNat).map fun digit => UInt8.ofNat digit.toNat := by
  have each : ∀ n < 256, [hexDigit (UInt8.ofNat n >>> 4), hexDigit (UInt8.ofNat n &&& 0x0f)] =
      (Hex.digits 2 n).map fun digit => UInt8.ofNat digit.toNat := by
    decide +kernel
  have here := each byte.toNat byte.toNat_lt
  rwa [UInt8.ofNat_toNat] at here

theorem bytesToHex_eq (raw : Bytes) : bytesToHex raw = ascii "0x" ++ lowerHex raw := by
  rw [bytesToHex, lowerHex]
  exact congrArg _ (List.flatMap_congr fun byte _ => hexDigit_pair byte)

/-- Two digits read as their byte, and are in lower case. -/
theorem digits_of_byte (byte : UInt8) : ∃ high low,
    ((Hex.digits 2 byte.toNat).map fun digit => UInt8.ofNat digit.toNat) = [high, low] ∧
      UInt8.ofNat ((hexVal high).1 * 16 + (hexVal low).1) = byte ∧
      lowerCase high = high ∧ lowerCase low = low := by
  have each : ∀ n < 256,
      UInt8.ofNat ((hexVal (hexDigit (UInt8.ofNat n >>> 4))).1 * 16 +
        (hexVal (hexDigit (UInt8.ofNat n &&& 0x0f))).1) = UInt8.ofNat n ∧
      lowerCase (hexDigit (UInt8.ofNat n >>> 4)) = hexDigit (UInt8.ofNat n >>> 4) ∧
      lowerCase (hexDigit (UInt8.ofNat n &&& 0x0f)) = hexDigit (UInt8.ofNat n &&& 0x0f) := by
    decide +kernel
  have here := each byte.toNat byte.toNat_lt
  rw [UInt8.ofNat_toNat] at here
  exact ⟨_, _, (hexDigit_pair byte).symm, here⟩

theorem ofHex_lowerHex (raw : Bytes) : ofHex (lowerHex raw) = raw := by
  induction raw with
  | nil => rfl
  | cons byte rest ih =>
    obtain ⟨high, low, written, read, -, -⟩ := digits_of_byte byte
    rw [lowerHex] at ih
    rw [lowerHex, List.flatMap_cons, written, List.cons_append, List.cons_append, List.nil_append, ofHex, read, ih]

theorem asciiLowercase_lowerHex (raw : Bytes) : asciiLowercase (lowerHex raw) = lowerHex raw := by
  induction raw with
  | nil => rfl
  | cons byte rest ih =>
    obtain ⟨high, low, written, -, highLower, lowLower⟩ := digits_of_byte byte
    rw [lowerHex, asciiLowercase] at ih
    rw [lowerHex, asciiLowercase, List.flatMap_cons, written, List.map_append, ih]
    simp only [List.map_cons, List.map_nil, highLower, lowLower]

theorem ofBigEndian_minimalChainRef (id : Uint256) : ofBigEndian (minimalChainRef id) = id.toNat := by
  rw [minimalChainRef_eq]
  exact byteFigures.value_numeral id.toNat

theorem minimalChainRef_minimal {id : Uint256} (some : id ≠ 0) :
    ∃ first rest, minimalChainRef id = first :: rest ∧ first ≠ 0 := by
  have nonzero : id.toNat ≠ 0 := fun zero => some (BitVec.eq_of_toNat_eq zero)
  rw [minimalChainRef_eq]
  obtain ⟨first, rest, written⟩ := List.exists_cons_of_ne_nil (byteFigures.numeral_ne_nil id.toNat)
  refine ⟨first, rest, written, ?_⟩
  rintro rfl
  exact byteFigures.head?_numeral nonzero (by rw [written]; rfl)

theorem toNat_length_minimalChainRef (id : Uint256) :
    (UInt8.ofNat (minimalChainRef id).length).toNat = (minimalChainRef id).length := by
  have short := length_minimalChainRef_le id
  rw [UInt8.toNat_ofNat']
  omega

end PassportKit.ResolverText

namespace PassportKit.PassportResolver
open Evm ResolverText

variable (self : PassportResolver) (block : Block)

/-- The layout: version, chain type, the chain's length and its bytes, twenty and the account. -/
theorem registry7930_eq : self.registry7930 block = ascii "0x" ++ lowerHex ([0x00, 0x01, 0x00, 0x00] ++
    [UInt8.ofNat (minimalChainRef block.chainId).length] ++ minimalChainRef block.chainId ++ [0x14] ++
    bigEndian 20 self.identityFactory.bits.toNat) :=
  bytesToHex_eq _

theorem readRegistry7930_registry7930 :
    readRegistry7930 (self.registry7930 block) = (block.chainId, self.identityFactory) := by
  have chain : BitVec.ofNat 256 (ofBigEndian (minimalChainRef block.chainId)) = block.chainId := by
    rw [ofBigEndian_minimalChainRef, BitVec.ofNat_toNat, BitVec.setWidth_eq]
  have account : (⟨BitVec.ofNat 160 (ofBigEndian (bigEndian 20 self.identityFactory.bits.toNat))⟩ : Address) =
      self.identityFactory := by
    have fits : self.identityFactory.bits.toNat < 256 ^ 20 :=
      lt_of_lt_of_le self.identityFactory.bits.isLt (by norm_num)
    rw [ofBigEndian_bigEndian, Nat.mod_eq_of_lt fits, BitVec.ofNat_toNat, BitVec.setWidth_eq]
  have counted := toNat_length_minimalChainRef block.chainId
  rw [registry7930_eq]
  generalize minimalChainRef block.chainId = ref at chain counted
  generalize hAccount : bigEndian 20 self.identityFactory.bits.toNat = account20 at account
  have width : account20.length = 20 := by rw [← hAccount, length_bigEndian]
  have raw : ofHex ((ascii "0x" ++ lowerHex ([0x00, 0x01, 0x00, 0x00] ++ [UInt8.ofNat ref.length] ++ ref ++ [0x14] ++
      account20)).drop 2) = 0x00 :: 0x01 :: 0x00 :: 0x00 :: UInt8.ofNat ref.length :: (ref ++ 0x14 :: account20) := by
    show ofHex (lowerHex _) = _
    rw [ofHex_lowerHex]
    simp
  have length : ((0x00 : UInt8) :: 0x01 :: 0x00 :: 0x00 :: UInt8.ofNat ref.length ::
      (ref ++ 0x14 :: account20)).getD 4 0 = UInt8.ofNat ref.length := rfl
  have body : ((0x00 : UInt8) :: 0x01 :: 0x00 :: 0x00 :: UInt8.ofNat ref.length ::
      (ref ++ 0x14 :: account20)).drop 5 = ref ++ 0x14 :: account20 := rfl
  have tail : ((0x00 : UInt8) :: 0x01 :: 0x00 :: 0x00 :: UInt8.ofNat ref.length ::
      (ref ++ 0x14 :: account20)).drop (6 + ref.length) = account20 := by
    have split : 6 + ref.length = 5 + (ref.length + 1) := by omega
    rw [split, ← List.drop_drop, body, List.drop_length_add_append]
    rfl
  simp only [readRegistry7930, raw, length, counted, body, tail, List.take_left']
  rw [List.take_of_length_le (le_of_eq width), chain, account]

/-- **The registry's identifier.** The string has the layout it should, with the
fewest bytes for the chain id, at most thirty-two of them; the chain and the account can
be read off it, so that it is nobody else's. -/
theorem registry7930_identifies_the_registry :
    self.registry7930 block = ascii "0x" ++ lowerHex ([0x00, 0x01, 0x00, 0x00] ++
        [UInt8.ofNat (minimalChainRef block.chainId).length] ++ minimalChainRef block.chainId ++ [0x14] ++
        bigEndian 20 self.identityFactory.bits.toNat) ∧
      asciiLowercase (self.registry7930 block) = self.registry7930 block ∧
      (minimalChainRef block.chainId).length ≤ 32 ∧
      (UInt8.ofNat (minimalChainRef block.chainId).length).toNat = (minimalChainRef block.chainId).length ∧
      ofBigEndian (minimalChainRef block.chainId) = block.chainId.toNat ∧
      (block.chainId = 0 → minimalChainRef block.chainId = [0]) ∧
      (block.chainId ≠ 0 → ∃ first rest, minimalChainRef block.chainId = first :: rest ∧ first ≠ 0) ∧
      readRegistry7930 (self.registry7930 block) = (block.chainId, self.identityFactory) ∧
      ∀ (other : PassportResolver) (block' : Block), self.registry7930 block = other.registry7930 block' →
        block.chainId = block'.chainId ∧ self.identityFactory = other.identityFactory := by
  refine ⟨self.registry7930_eq block, ?_, length_minimalChainRef_le _, toNat_length_minimalChainRef _,
    ofBigEndian_minimalChainRef _, fun zero => by rw [zero]; rfl, minimalChainRef_minimal,
    self.readRegistry7930_registry7930 block, fun other block' same => ?_⟩
  · have mark : asciiLowercase (ascii "0x") = ascii "0x" := by decide
    rw [registry7930_eq]
    generalize [0x00, 0x01, 0x00, 0x00] ++ [UInt8.ofNat (minimalChainRef block.chainId).length] ++
      minimalChainRef block.chainId ++ [0x14] ++ bigEndian 20 self.identityFactory.bits.toNat = raw
    have lower := asciiLowercase_lowerHex raw
    rw [asciiLowercase] at mark lower
    rw [asciiLowercase, List.map_append, mark, lower]
  · have read := congrArg readRegistry7930 same
    rw [readRegistry7930_registry7930, readRegistry7930_registry7930] at read
    exact Prod.mk.inj read

/-- The chain of the demo. -/
example : minimalChainRef 11155111 = [0xaa, 0x36, 0xa7] := by
  rw [minimalChainRef, if_neg (by decide)]
  simp [byteCount]
  decide

end PassportKit.PassportResolver
