import PassportKit.VendorInvoice

/-! The two ends of a settlement against each other: `settleInvoice` on the agent's side
and the vendor's route on the other, through the text that passes between them. The
offer the vendor makes for an invoice is the one the agent pays, and the payment the
agent names is the one the vendor looks up. -/
namespace PassportKit.VendorInvoice
open Evm Eip712 Js Interaction DemoChain
open Concierge (invoiceOf transferOf)
open Evidence (toJsonSafe)
open Refusals (Thrown bytesToHex)
open X402 (HttpRequest Invoice judge offered)

/-- A checksummed address is encoded as the account it is the address of. -/
def EncodesChecksummed (client : Client) : Prop :=
  ∀ account, client.encodeAddress (some (.string (client.checksumAddress account))) = .ok account

theorem readAddress_addressText (account : Address) : Library.readAddress (addressText account) = some account := by
  have bound : account.bits.toNat < 256 ^ 20 := lt_of_lt_of_le account.bits.isLt (by norm_num)
  have read : (⟨BitVec.ofNat 160 (ofBigEndian (bigEndian 20 account.bits.toNat))⟩ : Address) = account := by
    apply Address.bits_injective
    rw [ofBigEndian_bigEndian, Nat.mod_eq_of_lt bound, BitVec.ofNat_toNat, BitVec.setWidth_eq]
  rw [Library.readAddress, addressText, Refusals.Library.hexToBytes_bytesToHex, Option.map_some, read]
  exact Option.filter_some_pos (decide_eq_true rfl)

theorem encodesChecksummed_library : EncodesChecksummed Library.client := by
  intro account
  have spelled : Library.client.checksumAddress account = addressText account := rfl
  have encoder : Library.client.encodeAddress = Library.encodeAddress := rfl
  rw [encoder, spelled, Library.encodeAddress, Library.lower_addressText, readAddress_addressText, Option.elim_some]

theorem isHexUnit_digit : ∀ digit < 16, IsHexUnit (charUnit (Nat.digitChar digit)) := by decide

theorem hexText_eq (width number : ℕ) :
    hexText width number = 48 :: 120 :: (Hex.digits width number).map charUnit := rfl

/-- What the agent was told as the hash of its transaction passes for one. -/
theorem isTxHash_bytesToHex (digest : Bytes32) : IsTxHash (bytesToHex (word digest)) := by
  rw [bytesToHex_word]
  refine ⟨List.prefix_append _ _, ?_, fun c member => ?_⟩
  · rw [hexText_eq, List.length_cons, List.length_cons, List.length_map, Hex.length_digits]
  · rw [hexText_eq, List.drop_succ_cons, List.drop_succ_cons, List.drop_zero] at member
    obtain ⟨character, inside, rfl⟩ := List.mem_map.mp member
    obtain ⟨digit, small, rfl⟩ := Hex.mem_digits inside
    exact isHexUnit_digit digit small

theorem toLowerCase_bytesToHex (casing : X402.LowerCasing) (digest : Bytes32) :
    casing.toLowerCase (bytesToHex (word digest)) = bytesToHex (word digest) := by
  rw [bytesToHex_word, toLowerCase_hexText]

section Messages
variable {client : Client} {world : DemoAddresses} {id : Double} {amountWei : ℤ} {vendorUrl : JsString}

/-- The vendor reads the invoice as it was written. -/
theorem bodyOf_request (invoice : Invoice) :
    bodyOf invoice.request = .object
      [(text "jobId", .number invoice.jobId), (text "amount", .string invoice.amount)] := by
  have enumerated : (JsValue.object
      [(text "jobId", .number invoice.jobId), (text "amount", .string invoice.amount)]).Enumerated := by
    refine .object ?_ ?_
    · exact inOrder_of_keys (rfl : _ = [text "jobId", text "amount"]) (by decide)
    · intro property member
      rcases List.mem_pair.mp member with rfl | rfl
      · exact .number _
      · exact .string _
  obtain ⟨written, here⟩ : ∃ written, invoice.body = some written := ⟨_, rfl⟩
  have read := parse_write enumerated here
  rw [bodyOf]
  change ((invoice.body.bind parse).getD _) = _
  rw [here, Option.bind_some, read]
  rfl

/-- The one offer of a challenge. -/
def offer (client : Client) (world : DemoAddresses) (amount : JsString) : JsValue := .object [
  (text "scheme", .string (text "exact")),
  (text "network", .string (text "eip155-local")),
  (text "asset", .string (client.checksumAddress world.musd)),
  (text "amount", .string amount),
  (text "payTo", .string (client.checksumAddress (world.actorAddress .plumber)))]

/-- The agent reads the challenge as it was made. -/
theorem received_challenge (amount : JsString) :
    (challenge client world (some (.string amount))).received = ⟨402, some (.object [
      (text "x402Version", .number x402Version), (text "accepts", .array [offer client world amount])])⟩ := by
  have enumerated : (JsValue.object [
      (text "x402Version", .number x402Version), (text "accepts", .array [offer client world amount])]).Enumerated := by
    refine .object (inOrder_of_keys (rfl : _ = [text "x402Version", text "accepts"]) (by decide)) ?_
    intro property member
    rcases List.mem_pair.mp member with rfl | rfl
    · exact .number _
    · refine .array fun element member => ?_
      obtain rfl := List.mem_singleton.mp member
      refine .object (inOrder_of_keys
        (rfl : _ = [text "scheme", text "network", text "asset", text "amount", text "payTo"])
        (by decide)) ?_
      simp only [List.forall_mem_cons]
      exact ⟨.string _, .string _, .string _, .string _, .string _, by simp⟩
  obtain ⟨written, here⟩ : ∃ written, (JsValue.object [
      (text "x402Version", .number x402Version), (text "accepts", .array [offer client world amount])]).write =
        some written :=
    ⟨_, rfl⟩
  have plain : stringify toJsonSafe (.object [
      (text "x402Version", .number x402Version), (text "accepts", .array [offer client world amount])]) =
        some written := here
  have body : (challenge client world (some (.string amount))).body = written := by
    change (stringify toJsonSafe (.object [
      (text "x402Version", .number x402Version), (text "accepts", .array [offer client world amount])])).getD [] =
        written
    rw [plain, Option.getD_some]
  have read := parse_write enumerated here
  rw [HttpResponse.received, body, read]
  rfl

/-- **The offer.** What the vendor asks for an invoice is what the agent pays. -/
theorem judge_challenge : judge client.toLowerCasing (invoiceOf client world id amountWei vendorUrl).amount
    (invoiceOf client world id amountWei vendorUrl).expected
      (challenge client world (some (.string (bigintText amountWei)))).received =
      .pay (offer client world (bigintText amountWei)) := by
  have same (a : JsString) : X402.sameAddress client.toLowerCasing (some (.string a)) a = true := decide_eq_true rfl
  have asked : toBigInt (some (.string (bigintText amountWei))) = some amountWei := stringToBigInt_bigintText amountWei
  have matched : X402.mismatchedField client.toLowerCasing (offer client world (bigintText amountWei))
      (invoiceOf client world id amountWei vendorUrl).amount (invoiceOf client world id amountWei vendorUrl).expected =
        none := by
    have scheme : (offer client world (bigintText amountWei)).get (text "scheme") = some (.string (text "exact")) := rfl
    have asset : (offer client world (bigintText amountWei)).get (text "asset") =
        some (.string (client.checksumAddress world.musd)) := rfl
    have payTo : (offer client world (bigintText amountWei)).get (text "payTo") =
        some (.string (client.checksumAddress (world.actorAddress .plumber))) := rfl
    have amount : (offer client world (bigintText amountWei)).get (text "amount") =
        some (.string (bigintText amountWei)) := rfl
    rw [X402.mismatchedField, scheme]
    simp only [asset, payTo, amount, invoiceOf, same, asked, ne_eq, not_true_eq_false, if_false]
  rw [received_challenge, judge, if_neg (show (402 : ℕ) ≠ 200 by decide), if_neg (not_not.mpr rfl)]
  have found : offered (.object [(text "x402Version", .number x402Version),
      (text "accepts", .array [offer client world (bigintText amountWei)])]) =
        offer client world (bigintText amountWei) := rfl
  have object : X402.IsObject (offer client world (bigintText amountWei)) := trivial
  dsimp only
  rw [found, if_neg (not_not.mpr object)]
  rw [matched]

theorem transferOf_offer (encodes : EncodesChecksummed client) {amount : Uint256}
    (encoded : client.encodeUint256 amountWei = .ok amount) :
    transferOf client (offer client world (bigintText amountWei)) =
      .ok (.transfer (world.actorAddress .plumber) amount) := by
  have asked : toBigInt ((offer client world (bigintText amountWei)).get (text "amount")) = some amountWei :=
    stringToBigInt_bigintText amountWei
  have payTo : (offer client world (bigintText amountWei)).get (text "payTo") =
      some (.string (client.checksumAddress (world.actorAddress .plumber))) := rfl
  unfold transferOf
  rw [asked, payTo, encodes]
  change (client.encodeUint256 amountWei >>= fun amount =>
    pure (.transfer (world.actorAddress .plumber) amount) : Except Thrown ContractFunction) = _
  rw [encoded]
  rfl

end Messages

section Answers
variable [Crypto Bytes32] {client : Client} {world : DemoAddresses} {receipts : JsString → Except Thrown Receipt}
  {jobId : Double} {amountWei : ℤ} {vendorUrl : JsString}

/-- An invoice without a payment is met by the challenge, whatever the chain shows. -/
theorem run_invoice :
    (POST client world true (invoiceOf client world jobId amountWei vendorUrl).request).run (answers receipts) =
    .ok (challenge client world (some (.string (bigintText amountWei)))) := by
  rw [POST, if_pos rfl, Program.run_catching, handle, bodyOf_request]
  rfl

omit [Crypto Bytes32] in
/-- What the retry of an invoice claims. -/
theorem claims_retry (digest : Bytes32) :
    Claims ((invoiceOf client world jobId amountWei vendorUrl).retry (bytesToHex (word digest)))
      (bytesToHex (word digest)) amountWei where
  payment := by
    have enumerated : (JsValue.object [(text "txHash", .string (bytesToHex (word digest)))]).Enumerated := by
      refine .object (inOrder_of_keys (rfl : _ = [text "txHash"]) (by decide)) fun property member => ?_
      obtain rfl := List.mem_singleton.mp member
      exact .string _
    obtain ⟨header, here⟩ : ∃ header,
      stringify id (.object [(text "txHash", .string (bytesToHex (word digest)))]) = some header :=
      ⟨_, rfl⟩
    exact ⟨header, _, here, parse_write enumerated here, rfl⟩
  hash := isTxHash_bytesToHex digest
  want := by
    have body : bodyOf ((invoiceOf client world jobId amountWei vendorUrl).retry (bytesToHex (word digest))) =
        bodyOf (invoiceOf client world jobId amountWei vendorUrl).request := rfl
    rw [body, bodyOf_request]
    change bigIntOf (some (bigintText amountWei)) = .ok amountWei
    rw [bigIntOf, Option.bind_some, stringToBigInt_bigintText]
    rfl

/-- The retry of an invoice is accepted exactly when its transfer is found. -/
theorem run_retry (digest : Bytes32) : ∃ response,
    (POST client world true ((invoiceOf client world jobId amountWei vendorUrl).retry (bytesToHex (word digest)))).run
      (answers receipts) = .ok response ∧
        (response.status = 200 ↔ Found client world receipts (bytesToHex (word digest)) amountWei) := by
  obtain ⟨response, ran, verdict⟩ := @run_POST _ client world receipts
    ((invoiceOf client world jobId amountWei vendorUrl).retry (bytesToHex (word digest)))
  refine ⟨response, ran, verdict.trans ⟨?_, fun found => ⟨_, _, claims_retry digest, found⟩⟩⟩
  rintro ⟨hash, want, claims, found⟩
  have claimed : Claims ((invoiceOf client world jobId amountWei vendorUrl).retry (bytesToHex (word digest)))
    (bytesToHex (word digest)) amountWei := claims_retry digest
  obtain ⟨rfl, rfl⟩ := claimed.unique claims
  exact found

end Answers

end PassportKit.VendorInvoice
