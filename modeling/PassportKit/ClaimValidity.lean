import PassportKit.ClaimIssuer

/-! When `isClaimValid` is the total validator its comment promises. The length
check keeps most malformed data away from the decoder, but ninety-six bytes
whose second word does not fit a `uint64` reach it, and there the decoder
reverts instead of answering no. -/
namespace PassportKit
open Evm OpenZeppelin Eip712

namespace ClaimIssuer

/-- `abi.encode(dataHash, expiresAt, nonce)` -/
def encodeClaimData (dataHash : Bytes32) (expiresAt : Uint64) (nonce : Bytes32) : Bytes :=
  word dataHash ++ (word (uint64Word expiresAt) ++ word nonce)

section Encoding
variable {dataHash nonce : Bytes32} {expiresAt : Uint64} {data : Bytes}

@[simp] theorem length_encodeClaimData : (encodeClaimData dataHash expiresAt nonce).length = 96 := by
  simp [encodeClaimData]

/-- The three slots of encoded data hold the three fields. -/
theorem wordAt_encodeClaimData :
    wordAt (encodeClaimData dataHash expiresAt nonce) 0 = dataHash ∧
    wordAt (encodeClaimData dataHash expiresAt nonce) 1 = uint64Word expiresAt ∧
    wordAt (encodeClaimData dataHash expiresAt nonce) 2 = nonce := by
  refine ⟨wordAt_append .., ?_, ?_⟩
  · rw [encodeClaimData, wordAt_append_succ, wordAt_append]
  · rw [encodeClaimData, wordAt_append_succ, wordAt_append_succ, wordAt_zero_word]

/-- **Round trip.** Encoded data decodes to exactly the fields encoded. -/
theorem decodeClaimData_encode :
    decodeClaimData (encodeClaimData dataHash expiresAt nonce) = .ok (dataHash, expiresAt, nonce) := by
  obtain ⟨first, second, third⟩ := @wordAt_encodeClaimData dataHash nonce expiresAt
  rw [decodeClaimData_eq_ok, first, second, third, setWidth_uint64Word]
  exact ⟨length_encodeClaimData.ge, uint64Word_lt expiresAt, rfl⟩

/-- The encodings are the ninety-six byte strings whose second word fits. -/
theorem exists_encodeClaimData :
    (∃ dataHash expiresAt nonce, data = encodeClaimData dataHash expiresAt nonce) ↔
      data.length = 96 ∧ (wordAt data 1).toNat < uint64Modulus := by
  constructor
  · rintro ⟨dataHash, expiresAt, nonce, encoded⟩
    rw [encoded, wordAt_encodeClaimData.2.1]
    refine ⟨length_encodeClaimData, ?_⟩
    exact uint64Word_lt expiresAt
  · rintro ⟨sized, fits⟩
    refine ⟨wordAt data 0, (wordAt data 1).setWidth 64, wordAt data 2, ?_⟩
    have last : (data.drop 64).take 32 = data.drop 64 :=
      List.take_of_length_le (by rw [List.length_drop]; omega)
    have middle : (data.drop 32).take 32 ++ data.drop 64 = data.drop 32 := by
      have split := List.take_append_drop 32 (data.drop 32)
      rwa [List.drop_drop] at split
    rw [encodeClaimData, uint64Word_setWidth fits, word_wordAt (by omega), word_wordAt (by omega),
      word_wordAt (by omega), Nat.mul_zero, List.drop_zero, last, middle, List.take_append_drop]

end Encoding

section Promise
variable (Hash : Type) [Crypto Hash]

/-- An authorised signer signed an unexpired claim with a nonzero hash, the data
is that claim's encoding, and the latch is open. -/
def Vouched (self : ClaimIssuer) (block : Block) (this identity : Address) (topic : Uint256)
    (sig data : Bytes) : Prop :=
  self.revoked identity topic = false ∧
    ∃ dataHash expiresAt nonce, data = encodeClaimData dataHash expiresAt nonce ∧
      dataHash ≠ 0 ∧ (expiresAt = 0 ∨ block.timestamp ≤ expiresAt.toNat) ∧
      ∃ signer, tryRecover (claimDigest block.chainId this
          { identity, topic, dataHash, expiresAt, nonce } : Hash) sig = some signer ∧
        self.isAuthorizedSigner signer = true

/-- The validator answers, and answers yes exactly to what is vouched for. -/
def TotalValidator (self : ClaimIssuer) (block : Block) (this identity : Address) (topic : Uint256)
    (sig data : Bytes) : Prop :=
  (∃ verdict, self.isClaimValid Hash block this identity topic sig data = .ok verdict) ∧
    (self.isClaimValid Hash block this identity topic sig data = .ok true ↔
      Vouched Hash self block this identity topic sig data)

end Promise

variable {Hash : Type} [Crypto Hash] {self : ClaimIssuer} {block : Block} {this identity : Address}
  {topic : Uint256} {sig data : Bytes}

/-- **Yes means vouched for**, on every input. -/
theorem isClaimValid_iff_vouched :
    self.isClaimValid Hash block this identity topic sig data = .ok true ↔
      Vouched Hash self block this identity topic sig data := by
  rw [isClaimValid_eq_true]
  constructor
  · rintro ⟨unlatched, sized, fits, hashed, inTime, signer, recovered, authorised⟩
    obtain ⟨dataHash, expiresAt, nonce, encoded⟩ := exists_encodeClaimData.mpr ⟨sized, fits⟩
    obtain ⟨first, second, third⟩ := @wordAt_encodeClaimData dataHash nonce expiresAt
    rw [← encoded] at first second third
    simp only [claimOf, first, second, third, setWidth_uint64Word] at hashed inTime recovered
    exact ⟨unlatched, dataHash, expiresAt, nonce, encoded, hashed, inTime, signer, recovered,
      authorised⟩
  · rintro ⟨unlatched, dataHash, expiresAt, nonce, encoded, hashed, inTime, signer, recovered,
      authorised⟩
    obtain ⟨first, second, third⟩ := @wordAt_encodeClaimData dataHash nonce expiresAt
    rw [encoded]
    simp only [claimOf, first, second, third, setWidth_uint64Word]
    exact ⟨unlatched, length_encodeClaimData, uint64Word_lt expiresAt, hashed, inTime, signer,
      recovered, authorised⟩

/-- Past the latch and the length check, only the decoder can fail. -/
theorem isClaimValid_answers_iff :
    (∃ verdict, self.isClaimValid Hash block this identity topic sig data = .ok verdict) ↔
      (self.revoked identity topic = false → data.length = 96 →
        (wordAt data 1).toNat < uint64Modulus) := by
  unfold isClaimValid
  split
  · rename_i latched
    simp [latched]
  rename_i unlatched
  split
  · rename_i missized
    simp [missized]
  rename_i sized
  have latchOpen : self.revoked identity topic = false := by simpa using unlatched
  have length : data.length = 96 := by simpa using sized
  constructor
  · rintro ⟨verdict, answered⟩ - -
    obtain ⟨fields, decoded, -⟩ := bind_eq_ok.mp answered
    exact (decodeClaimData_eq_ok.mp decoded).2.1
  · intro fits
    have decoded := decodeClaimData_eq_ok.mpr ⟨length.ge, fits latchOpen length, rfl⟩
    rw [decoded, ok_bind]
    dsimp only
    split
    · exact ⟨false, rfl⟩
    split
    · exact ⟨false, rfl⟩
    split
    · exact ⟨false, rfl⟩
    · exact ⟨_, rfl⟩

/-- **Totality.** In any state the validator keeps its promise on an input exactly
when the latch is closed, the data has another length, or its second word fits
a `uint64`. -/
theorem total_validator_iff_expiry_fits :
    TotalValidator Hash self block this identity topic sig data ↔
      (self.revoked identity topic = false → data.length = 96 →
        (wordAt data 1).toNat < uint64Modulus) :=
  (and_iff_left isClaimValid_iff_vouched).trans isClaimValid_answers_iff

/-- Data of the right length whose expiry is the first number past `uint64`. -/
def wideExpiry : Bytes := word 1 ++ (word (BitVec.ofNat 256 uint64Modulus) ++ word 7)

/-- A fresh issuer reverts on it, for any subject. -/
theorem wide_expiry_breaks_the_promise :
    ∃ issuer, deploy .standard 10 14 = .ok issuer ∧ wideExpiry.length = 96 ∧
      issuer.isClaimValid Symbolic ⟨1, 1000⟩ 20 30 ClaimTopics.KYC_VERIFIED [] wideExpiry =
        .error .undecodable ∧
      ¬ TotalValidator Symbolic issuer ⟨1, 1000⟩ 20 30 ClaimTopics.KYC_VERIFIED [] wideExpiry := by
  refine ⟨_, rfl, by decide +kernel, by decide +kernel, ?_⟩
  rintro ⟨answers, -⟩
  have fits := isClaimValid_answers_iff.mp answers rfl (by decide +kernel)
  exact absurd fits (by decide +kernel)

end ClaimIssuer

end PassportKit
