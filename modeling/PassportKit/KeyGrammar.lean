import PassportKit.AgentAttestation

/-! The grammar of agent keys. The parser of the resolver reads a key byte by
byte, with a fold of letter case in each of its comparisons; the keys it accepts
are exactly those the key builder writes, up to that fold, and it names the
address the key was built for. -/
namespace PassportKit
open Evm OpenZeppelin Eip712 Runs ResolverText

namespace ResolverText

variable {s t lead rest kb kb' : Bytes} {a b : Address} {i left offset acc : ℕ}

/-- A string with the letters `A-Z` folded to lower case. -/
def asciiLowercase (s : Bytes) : Bytes := s.map lowerCase

/-- Two keys that differ in letter case only. -/
def SameKey (s t : Bytes) : Prop := asciiLowercase s = asciiLowercase t

instance : Decidable (SameKey s t) := inferInstanceAs (Decidable (_ = _))

theorem SameKey.length_eq (same : SameKey s t) : s.length = t.length := by
  have lengths := congrArg List.length same
  simpa [asciiLowercase] using lengths

theorem SameKey.getElem? (same : SameKey s t) (i : ℕ) :
    (s[i]?).map lowerCase = (t[i]?).map lowerCase := by
  have there := congrArg (fun text => text[i]?) same
  simpa [asciiLowercase] using there

theorem sameKey_of_getElem? (agrees : ∀ i : ℕ, (s[i]?).map lowerCase = (t[i]?).map lowerCase) :
    SameKey s t := by
  apply List.ext_getElem?
  intro i
  simpa [asciiLowercase] using agrees i

@[simp] theorem lowerCase_lowerCase (c : UInt8) : lowerCase (lowerCase c) = lowerCase c := by
  have each : ∀ n < 256, lowerCase (lowerCase (UInt8.ofNat n)) = lowerCase (UInt8.ofNat n) := by
    decide +kernel
  have here := each c.toNat c.toNat_lt
  rwa [UInt8.ofNat_toNat] at here

/-- A bracket, a zero and the mark of a hex number come from nothing else. -/
theorem lowerCase_marks (c : UInt8) :
    (lowerCase c = 93 ↔ c = 93) ∧ (lowerCase c = 48 ↔ c = 48) ∧
      (lowerCase c = 120 ↔ c = 120 ∨ c = 88) := by
  have each : ∀ n < 256, (lowerCase (UInt8.ofNat n) = 93 ↔ UInt8.ofNat n = 93) ∧
      (lowerCase (UInt8.ofNat n) = 48 ↔ UInt8.ofNat n = 48) ∧
      (lowerCase (UInt8.ofNat n) = 120 ↔ UInt8.ofNat n = 120 ∨ UInt8.ofNat n = 88) := by
    decide +kernel
  have here := each c.toNat c.toNat_lt
  rwa [UInt8.ofNat_toNat] at here

/-- A digit is read the same in both cases, and a digit that is read folds to
the one the builder writes. -/
theorem hexVal_lowerCase (c : UInt8) :
    hexVal (lowerCase c) = hexVal c ∧
      ((hexVal c).2 = true → (hexVal c).1 < 16 ∧ lowerCase c = hexDigit (UInt8.ofNat (hexVal c).1)) := by
  have each : ∀ n < 256, hexVal (lowerCase (UInt8.ofNat n)) = hexVal (UInt8.ofNat n) ∧
      ((hexVal (UInt8.ofNat n)).2 = true → (hexVal (UInt8.ofNat n)).1 < 16 ∧
        lowerCase (UInt8.ofNat n) = hexDigit (UInt8.ofNat (hexVal (UInt8.ofNat n)).1)) := by
    decide +kernel
  have here := each c.toNat c.toNat_lt
  rwa [UInt8.ofNat_toNat] at here

theorem hexVal_of_folded {c d : UInt8} (same : lowerCase c = lowerCase d) : hexVal c = hexVal d := by
  rw [← (hexVal_lowerCase c).1, same, (hexVal_lowerCase d).1]

/-- Reading two foldings of one key at one position fails alike, or gives two
foldings of one byte. -/
theorem readAt_of_sameKey (same : SameKey s t) (i : ℕ) :
    ((readAt s i : Result UInt8) = .error (.panic 0x32) ∧
      (readAt t i : Result UInt8) = .error (.panic 0x32)) ∨
    ∃ c d, (readAt s i : Result UInt8) = .ok c ∧ (readAt t i : Result UInt8) = .ok d ∧
      lowerCase c = lowerCase d := by
  have there := same.getElem? i
  unfold readAt
  cases first : s[i]? with
  | none =>
    rw [first, Option.map_none, eq_comm, Option.map_eq_none_iff] at there
    rw [there]
    exact .inl ⟨rfl, rfl⟩
  | some c =>
    rw [first, Option.map_some, eq_comm, Option.map_eq_some_iff] at there
    obtain ⟨d, second, folded⟩ := there
    rw [second]
    exact .inr ⟨c, d, rfl, rfl, folded.symm⟩

theorem matchesFrom_of_sameKey (same : SameKey s t) (i left : ℕ) :
    matchesFrom s lead i left = matchesFrom t lead i left := by
  induction left generalizing i with
  | zero => rfl
  | succ left ih =>
    rcases readAt_of_sameKey same i with ⟨first, second⟩ | ⟨c, d, first, second, folded⟩
    · simp only [matchesFrom, first, second, error_bind]
    · simp only [matchesFrom, first, second, ok_bind, folded, ih]

theorem startsWith_of_sameKey (same : SameKey s t) : startsWith s lead = startsWith t lead := by
  simp only [startsWith, same.length_eq, matchesFrom_of_sameKey same]

theorem parseDigits_of_sameKey (same : SameKey s t) (offset acc left : ℕ) :
    parseDigits s offset acc left = parseDigits t offset acc left := by
  induction left generalizing offset acc with
  | zero => rfl
  | succ left ih =>
    rcases readAt_of_sameKey same offset with ⟨first, second⟩ | ⟨c, d, first, second, folded⟩
    · simp only [parseDigits, first, second, error_bind]
    · simp only [parseDigits, first, second, ok_bind, hexVal_of_folded folded, ih]

theorem parseAddrAt_of_sameKey (same : SameKey s t) (off : ℕ) :
    parseAddrAt s off = parseAddrAt t off := by
  have digits := parseDigits_of_sameKey same
  unfold parseAddrAt
  rw [same.length_eq]
  congr 1
  funext last
  split
  · rfl
  rcases readAt_of_sameKey same off with ⟨first, second⟩ | ⟨c, d, first, second, folded⟩
  · simp only [first, second, error_bind]
  · have zero : c = 48 ↔ d = 48 := by
      rw [← (lowerCase_marks c).2.1, folded, (lowerCase_marks d).2.1]
    simp only [first, second, ok_bind, ne_eq, zero]
    split
    · rfl
    rcases readAt_of_sameKey same (off + 1) with ⟨first, second⟩ | ⟨c, d, first, second, folded⟩
    · simp only [first, second, error_bind]
    · have mark : (c ≠ 120 ∧ c ≠ 88) ↔ (d ≠ 120 ∧ d ≠ 88) := by
        rw [← not_or, ← not_or, ← (lowerCase_marks c).2.2, folded, (lowerCase_marks d).2.2]
      simp only [first, second, ok_bind, mark, digits]

/-! ## What the parser accepts -/

/-- The prefix comparison always answers, and compares up to case. -/
theorem matchesFrom_spec (inside : i + left ≤ lead.length) (covered : lead.length ≤ s.length) :
    ∃ verdict, matchesFrom s lead i left = .ok verdict ∧
      (verdict = true → ∀ j, i ≤ j → j < i + left →
        (s[j]?).map lowerCase = (lead[j]?).map lowerCase) := by
  induction left generalizing i with
  | zero => exact ⟨true, rfl, fun _ j low high => absurd high (by omega)⟩
  | succ left ih =>
    have bound : i < lead.length := by omega
    have first : (readAt s i : Result UInt8) = .ok s[i] :=
      readAt_eq_ok.mpr (List.getElem?_eq_getElem (by omega))
    have second : (readAt lead i : Result UInt8) = .ok lead[i] :=
      readAt_eq_ok.mpr (List.getElem?_eq_getElem bound)
    simp only [matchesFrom, first, second, ok_bind]
    by_cases differ : lowerCase s[i] ≠ lowerCase lead[i]
    · exact ⟨false, if_pos differ, (by rintro ⟨⟩)⟩
    · obtain ⟨verdict, answered, agrees⟩ := @ih (i + 1) (by omega)
      refine ⟨verdict, by rw [if_neg differ, answered], fun yes j low high => ?_⟩
      by_cases here : j = i
      · subst here
        rw [List.getElem?_eq_getElem bound, List.getElem?_eq_getElem (by omega)]
        simpa using differ
      · exact agrees yes j (by omega) (by omega)

theorem startsWith_spec (covered : lead.length ≤ s.length) :
    ∃ verdict, startsWith s lead = .ok verdict ∧
      (verdict = true → ∀ j < lead.length, (s[j]?).map lowerCase = (lead[j]?).map lowerCase) := by
  obtain ⟨verdict, answered, agrees⟩ := @matchesFrom_spec s lead 0 lead.length (by omega) covered
  refine ⟨verdict, by rw [startsWith, if_neg (by omega), answered], fun yes j inside => ?_⟩
  exact agrees yes j (Nat.zero_le j) (by omega)

/-- The digit loop never overflows, and the address it returns has the digits
it read. -/
theorem parseDigits_spec (inside : offset + left ≤ s.length) (width : left ≤ 40)
    (small : acc < 16 ^ (40 - left)) :
    ∃ agent ok, parseDigits s offset acc left = .ok (agent, ok) ∧
      (ok = true → agent.bits.toNat / 16 ^ left = acc ∧
        ∀ j < left, (s[offset + j]?).map lowerCase = some (hexDigit (nibble agent (40 - left + j)))) := by
  induction left generalizing offset acc with
  | zero =>
    refine ⟨_, _, rfl, fun _ => ⟨?_, fun j none => absurd none (by omega)⟩⟩
    have fits : acc < 2 ^ 160 := lt_of_lt_of_le small (by norm_num)
    rw [pow_zero, Nat.div_one, BitVec.toNat_ofNat, Nat.mod_eq_of_lt fits]
  | succ left ih =>
    have read : (readAt s offset : Result UInt8) = .ok s[offset] :=
      readAt_eq_ok.mpr (List.getElem?_eq_getElem (by omega))
    obtain ⟨-, digit⟩ := hexVal_lowerCase s[offset]
    rw [parseDigits, read, ok_bind]
    by_cases hex : (hexVal s[offset]).2 = false
    · exact ⟨0, false, by simp [hex], (by rintro ⟨⟩)⟩
    · obtain ⟨value, folded⟩ := digit (by simpa using hex)
      have exponent : 40 - left = 40 - (left + 1) + 1 := by omega
      have grown : acc * 16 + (hexVal s[offset]).1 < 16 ^ (40 - left) := by
        rw [exponent, pow_succ]
        omega
      have fits : acc * 16 + (hexVal s[offset]).1 < 2 ^ 160 :=
        lt_of_lt_of_le grown ((Nat.pow_le_pow_right (by decide) (Nat.sub_le 40 left)).trans
          (by norm_num))
      have pushed : pushNibble acc (hexVal s[offset]).1 = .ok (acc * 16 + (hexVal s[offset]).1) :=
        if_pos fits
      obtain ⟨agent, ok, parsed, means⟩ :=
        @ih (offset + 1) (acc * 16 + (hexVal s[offset]).1) (by omega) (by omega) grown
      refine ⟨agent, ok, ?_, fun yes => ?_⟩
      · simp only [hex, Bool.true_eq_false, if_false, pushed, ok_bind, parsed]
      · obtain ⟨quotient, rest⟩ := means yes
        have shifted : agent.bits.toNat / 16 ^ (left + 1) = acc := by
          rw [pow_succ, ← Nat.div_div_eq_div_mul, quotient]
          omega
        refine ⟨shifted, fun j below => ?_⟩
        cases j with
        | zero =>
          have place : 39 - (40 - (left + 1) + 0) = left := by omega
          have same : nibble agent (40 - (left + 1) + 0) = UInt8.ofNat (hexVal s[offset]).1 := by
            apply UInt8.toNat_inj.mp
            rw [toNat_nibble, place, quotient, UInt8.toNat_ofNat']
            omega
          rw [Nat.add_zero, List.getElem?_eq_getElem (by omega), Option.map_some, folded, same]
        | succ j =>
          have position : offset + (j + 1) = offset + 1 + j := by omega
          have place : 40 - (left + 1) + (j + 1) = 40 - left + j := by omega
          rw [position, place]
          exact rest j (by omega)

theorem getElem?_toHex {a : Address} {j : ℕ} (inside : j < 40) :
    (toHex a)[j + 1 + 1]? = some (hexDigit (nibble a j)) := by
  rw [toHex_eq, List.getElem?_cons_succ, List.getElem?_cons_succ]
  simp [hexDigits, inside]

/-- The address parser always answers, and what it accepts is a written address
up to case. -/
theorem parseAddrAt_spec (inside : offset + 42 ≤ s.length) (short : offset + 42 < uint256Modulus) :
    ∃ agent ok, parseAddrAt s offset = .ok (agent, ok) ∧
      (ok = true → ∀ j < 42, (s[offset + j]?).map lowerCase = (toHex agent)[j]?) := by
  have covered : ¬ s.length < offset + 42 := by omega
  have first : (readAt s offset : Result UInt8) = .ok s[offset] :=
    readAt_eq_ok.mpr (List.getElem?_eq_getElem (by omega))
  have second : (readAt s (offset + 1) : Result UInt8) = .ok s[offset + 1] :=
    readAt_eq_ok.mpr (List.getElem?_eq_getElem (by omega))
  have digits := @parseDigits_spec s 40 (offset + 2) 0 (by omega) le_rfl (by norm_num)
  simp only [parseAddrAt, checkedAdd, if_pos short, ok_bind, if_neg covered, first, second]
  by_cases zero : s[offset] = 48
  · by_cases mark : s[offset + 1] = 120 ∨ s[offset + 1] = 88
    · obtain ⟨agent, ok, parsed, means⟩ := digits
      have marked : ¬ (s[offset + 1] ≠ 120 ∧ s[offset + 1] ≠ 88) := by
        rw [← not_or]
        exact not_not.mpr mark
      refine ⟨agent, ok, by rw [if_neg (not_not.mpr zero), if_neg marked, parsed], fun yes j below => ?_⟩
      rcases j with _ | _ | j
      · have folded := (lowerCase_marks s[offset]).2.1.mpr zero
        rw [Nat.add_zero, List.getElem?_eq_getElem (by omega), Option.map_some, folded, toHex_eq]
        rfl
      · have folded := (lowerCase_marks s[offset + 1]).2.2.mpr mark
        rw [List.getElem?_eq_getElem (by omega), Option.map_some, folded, toHex_eq]
        rfl
      · have position : offset + (j + 1 + 1) = offset + 2 + j := by omega
        have place : 40 - 40 + j = j := by omega
        have here := (means yes).2 j (by omega)
        rw [place] at here
        have written : (toHex agent)[j + 1 + 1]? = some (hexDigit (nibble agent j)) :=
          getElem?_toHex (by omega)
        rw [position, here, written]
    · rw [not_or] at mark
      exact ⟨0, false, by rw [if_neg (not_not.mpr zero), if_pos mark]; rfl, (by rintro ⟨⟩)⟩
  · exact ⟨0, false, by rw [if_pos zero]; rfl, (by rintro ⟨⟩)⟩

end ResolverText

namespace PassportResolver

variable {lead kb kb' : Bytes} {a b : Address}

theorem agentNamed_of_sameKey (same : SameKey kb kb') : agentNamed kb lead = agentNamed kb' lead := by
  unfold agentNamed
  rw [same.length_eq, startsWith_of_sameKey same, parseAddrAt_of_sameKey same]
  split
  · rfl
  rcases readAt_of_sameKey same (kb'.length - 1) with ⟨first, second⟩ | ⟨c, d, first, second, folded⟩
  · simp only [first, second, error_bind]
  · have bracket : c = 93 ↔ d = 93 := by
      rw [← (lowerCase_marks c).1, folded, (lowerCase_marks d).1]
    simp only [first, second, ok_bind, ne_eq, bracket]

/-- A key built from a lead and a named address. -/
def keyOf (lead : Bytes) (a : Address) : Bytes := lead ++ toHex a ++ ascii "]"

theorem length_keyOf (lead : Bytes) (a : Address) : (keyOf lead a).length = lead.length + 43 := by
  simp only [keyOf, List.length_append, length_toHex]
  rfl

/-- A string made of the lead, a written address and a bracket, up to case, is
the key of that address up to case. -/
theorem sameKey_keyOf (length : kb.length = lead.length + 43)
    (leads : ∀ j < lead.length, (kb[j]?).map lowerCase = (lead[j]?).map lowerCase)
    (names : ∀ j < 42, (kb[lead.length + j]?).map lowerCase = (toHex a)[j]?)
    (closed : kb[lead.length + 42]? = some 93) : SameKey kb (keyOf lead a) := by
  refine sameKey_of_getElem? fun i => ?_
  have shape : keyOf lead a = lead ++ (toHex a ++ [93]) := List.append_assoc ..
  rw [shape]
  by_cases inLead : i < lead.length
  · rw [List.getElem?_append_left inLead, leads i inLead]
  obtain ⟨j, rfl⟩ := Nat.exists_eq_add_of_le (not_lt.mp inLead)
  rw [List.getElem?_append_right (by omega), Nat.add_sub_cancel_left]
  by_cases inName : j < 42
  · -- a written address is its own fold
    rw [List.getElem?_append_left (by simpa using inName), ← names j inName, Option.map_map]
    congr 1
    funext c
    exact (lowerCase_lowerCase c).symm
  by_cases last : j = 42
  · subst last
    rw [closed, List.getElem?_append_right (by simp), length_toHex]
    rfl
  · rw [List.getElem?_eq_none (by omega), List.getElem?_eq_none]
    simp only [List.length_append, length_toHex, List.length_singleton]
    omega

/-- The recogniser answers on every byte string, and names only an address whose
key it is. -/
theorem agentNamed_spec (kb : Bytes) (short : lead.length + 42 < uint256Modulus) :
    ∃ named, agentNamed kb lead = .ok named ∧ ∀ a, named = some a → SameKey kb (keyOf lead a) := by
  by_cases length : kb.length = lead.length + 43
  · have bracket : (readAt kb (kb.length - 1) : Result UInt8) = .ok kb[kb.length - 1] :=
      readAt_eq_ok.mpr (List.getElem?_eq_getElem (by omega))
    obtain ⟨starts, compared, agrees⟩ := @startsWith_spec kb lead (by omega)
    obtain ⟨agent, ok, parsed, means⟩ := @parseAddrAt_spec kb lead.length (by omega) short
    simp only [agentNamed, if_neg (not_not.mpr length), bracket, compared, parsed, ok_bind]
    by_cases closed : kb[kb.length - 1] = 93
    · cases starts with
      | false => exact ⟨none, by rw [if_neg (not_not.mpr closed)]; rfl, (by rintro _ ⟨⟩)⟩
      | true =>
        refine ⟨if ok then some agent else none, ?_, fun a named => ?_⟩
        · rw [if_neg (not_not.mpr closed), if_neg (by decide)]
          rfl
        · cases ok with
          | false => cases named
          | true =>
            cases named
            have place : kb.length - 1 = lead.length + 42 := by omega
            refine sameKey_keyOf length (agrees rfl) (means rfl) ?_
            rw [← place, List.getElem?_eq_getElem (by omega), closed]
    · exact ⟨none, by rw [if_pos closed]; rfl, (by rintro _ ⟨⟩)⟩
  · exact ⟨none, agentNamed_of_length length, (by rintro _ ⟨⟩)⟩

/-- **The recogniser is the builder, up to case.** -/
theorem agentNamed_eq_some_iff (short : lead.length + 42 < uint256Modulus) :
    agentNamed kb lead = .ok (some a) ↔ SameKey kb (keyOf lead a) := by
  constructor
  · intro recognised
    obtain ⟨named, answered, means⟩ := agentNamed_spec kb short
    rw [recognised, Except.ok.injEq] at answered
    exact means a answered.symm
  · intro same
    rw [agentNamed_of_sameKey same]
    exact agentNamed_built short

theorem agentNamed_eq_none (short : lead.length + 42 < uint256Modulus)
    (foreign : ∀ a, ¬ SameKey kb (keyOf lead a)) : agentNamed kb lead = .ok none := by
  obtain ⟨named, answered, means⟩ := agentNamed_spec kb short
  cases named with
  | none => exact answered
  | some a => exact absurd (means a rfl) (foreign a)

/-- A key belongs to one address. -/
theorem keyOf_unique (short : lead.length + 42 < uint256Modulus)
    (first : SameKey kb (keyOf lead a)) (second : SameKey kb (keyOf lead b)) : a = b := by
  have named := (agentNamed_eq_some_iff short).mpr first
  rw [(agentNamed_eq_some_iff short).mpr second, Except.ok.injEq, Option.some.injEq] at named
  exact named.symm

section Records
variable {Hash : Type} [Crypto Hash] [DecidableEq Hash] {self : PassportResolver} {env : Env}
  {node : Bytes32} {key : Bytes}

/-- The wallet leads to the identity the node is bound to. -/
def LinkedTo (self : PassportResolver) (env : Env) (node : Bytes32) (a : Address) : Prop :=
  self.identityOf node ≠ 0 ∧
    (env.resolverAt self.identityFactory).identityOfWallet a = .ok (self.identityOf node)

theorem isLinkedTo_eq_true :
    self.isLinkedTo env a (self.identityOf node) = .ok true ↔ self.LinkedTo env node a := by
  unfold isLinkedTo LinkedTo
  by_cases unbound : self.identityOf node = 0
  · simp [unbound]
  · simp only [unbound, if_false, bind_eq_ok, pure_outcome, Except.ok.injEq, decide_eq_true_eq,
      exists_eq_right, ne_eq, not_false_eq_true, true_and]

/-- The wallet is known not to lead there. -/
def UnlinkedTo (self : PassportResolver) (env : Env) (node : Bytes32) (a : Address) : Prop :=
  self.identityOf node = 0 ∨ ∃ other,
    (env.resolverAt self.identityFactory).identityOfWallet a = .ok other ∧ other ≠ self.identityOf node

theorem isLinkedTo_of_unlinked (unlinked : self.UnlinkedTo env node a) :
    self.isLinkedTo env a (self.identityOf node) = .ok false := by
  unfold isLinkedTo
  rcases unlinked with unbound | ⟨other, asked, apart⟩
  · rw [if_pos unbound]
    rfl
  · split
    · rfl
    · simp [asked, apart]

theorem isLinkedTo_error {error : Revert Error}
    (failed : self.isLinkedTo env a (self.identityOf node) = .error error) :
    (env.resolverAt self.identityFactory).identityOfWallet a = .error error := by
  unfold isLinkedTo at failed
  split at failed
  · cases failed
  · cases asked : (env.resolverAt self.identityFactory).identityOfWallet a with
    | ok linked => simp [asked] at failed
    | error raised =>
      simp only [asked, error_bind, Except.error.injEq] at failed
      rw [failed]

/-- The record about the agent a key names. -/
theorem agentRecord_of_sameKey {value : Address → Result Bytes}
    (short : lead.length + 42 < uint256Modulus) (same : SameKey key (keyOf lead a)) :
    self.agentRecord env node key lead value = (do
      let linked ← self.isLinkedTo env a (self.identityOf node)
      if linked then value a else return []) := by
  rw [agentRecord, (agentNamed_eq_some_iff short).mpr same, ok_bind]

/-- A key of no agent, or of one that is not linked, shows nothing. -/
theorem agentRecord_of_unlinked {value : Address → Result Bytes}
    (short : lead.length + 42 < uint256Modulus)
    (unlinked : ∀ a, SameKey key (keyOf lead a) → self.UnlinkedTo env node a) :
    self.agentRecord env node key lead value = .ok [] := by
  by_cases named : ∃ a, SameKey key (keyOf lead a)
  · obtain ⟨a, same⟩ := named
    rw [agentRecord_of_sameKey short same, isLinkedTo_of_unlinked (unlinked a same)]
    rfl
  · rw [not_exists] at named
    rw [agentRecord, agentNamed_eq_none short named]
    rfl

/-- A record with something in it: the key names a linked agent with that value. -/
theorem agentRecord_eq_ok {value : Address → Result Bytes} (short : lead.length + 42 < uint256Modulus)
    {shown : Bytes} (visible : shown ≠ []) :
    self.agentRecord env node key lead value = .ok shown ↔
      ∃ a, SameKey key (keyOf lead a) ∧ self.LinkedTo env node a ∧ value a = .ok shown := by
  by_cases named : ∃ a, SameKey key (keyOf lead a)
  · obtain ⟨a, same⟩ := named
    rw [agentRecord_of_sameKey short same, bind_eq_ok]
    constructor
    · rintro ⟨linked, asked, answered⟩
      cases linked with
      | false => exact absurd (Except.ok.inj answered).symm visible
      | true => exact ⟨a, same, isLinkedTo_eq_true.mp asked, answered⟩
    · rintro ⟨b, other, linked, answered⟩
      obtain rfl := keyOf_unique short same other
      exact ⟨true, isLinkedTo_eq_true.mpr linked, answered⟩
  · rw [not_exists] at named
    rw [agentRecord_of_unlinked short fun a same => absurd same (named a), Except.ok.injEq]
    constructor
    · exact fun none => absurd none.symm visible
    · rintro ⟨a, same, -⟩
      exact absurd same (named a)

/-- A record fails only where a contract it asks about the named agent does. -/
theorem agentRecord_error {value : Address → Result Bytes} (short : lead.length + 42 < uint256Modulus)
    {error : Revert Error} (failed : self.agentRecord env node key lead value = .error error) :
    ∃ a, SameKey key (keyOf lead a) ∧
      ((env.resolverAt self.identityFactory).identityOfWallet a = .error error ∨
        value a = .error error) := by
  by_cases named : ∃ a, SameKey key (keyOf lead a)
  · obtain ⟨a, same⟩ := named
    rw [agentRecord_of_sameKey short same] at failed
    refine ⟨a, same, ?_⟩
    cases asked : self.isLinkedTo env a (self.identityOf node) with
    | error raised =>
      simp only [asked, error_bind, Except.error.injEq] at failed
      exact .inl (failed ▸ isLinkedTo_error asked)
    | ok linked =>
      cases linked with
      | false => simp [asked] at failed
      | true =>
        simp only [asked, ok_bind, if_true] at failed
        exact .inr failed
  · rw [not_exists] at named
    rw [agentRecord_of_unlinked short fun a same => absurd same (named a)] at failed
    cases failed

theorem short_registration (self : PassportResolver) (block : Block) :
    (self.agentRegistrationPrefix block).length + 42 < uint256Modulus :=
  lt_of_le_of_lt (Nat.add_le_add_right (length_agentRegistrationPrefix self block).2 42) (by decide)

theorem short_reputation : agentReputationPrefix.length + 42 < uint256Modulus := by
  rw [length_agentReputationPrefix]
  decide

/-- The two kinds of agent key differ in length. -/
theorem registrationKey_apart (same : SameKey key (self.agentRegistrationKey env.block a))
    (other : SameKey key (agentReputationKey b)) : False := by
  have first : key.length = (self.agentRegistrationPrefix env.block).length + 43 :=
    same.length_eq.trans (length_keyOf _ a)
  have second : key.length = agentReputationPrefix.length + 43 :=
    other.length_eq.trans (length_keyOf _ b)
  have long := (length_agentRegistrationPrefix self env.block).1
  rw [length_agentReputationPrefix] at second
  omega

theorem agentRegistrationValue_eq_ok {shown : Bytes} (visible : shown ≠ []) :
    self.agentRegistrationValue env node key = .ok shown ↔
      ∃ a, SameKey key (self.agentRegistrationKey env.block a) ∧ self.LinkedTo env node a ∧
        shown = ascii "1" := by
  refine (agentRecord_eq_ok (short_registration self env.block) visible).trans ?_
  simp only [pure_outcome, Except.ok.injEq, eq_comm (a := ascii "1")]
  exact Iff.rfl

theorem agentReputationValue_eq_ok {shown : Bytes} (visible : shown ≠ []) :
    self.agentReputationValue env node key = .ok shown ↔
      ∃ a score, self.scoreRegistry ≠ 0 ∧ SameKey key (agentReputationKey a) ∧
        self.LinkedTo env node a ∧ (env.scoresAt self.scoreRegistry).scoreOf a = .ok score ∧
        shown = decimal score.toNat := by
  by_cases disabled : self.scoreRegistry = 0
  · simp only [agentReputationValue, disabled, if_true, pure_outcome, Except.ok.injEq, ne_eq,
      not_true_eq_false, false_and, exists_const, iff_false]
    exact fun none => visible none.symm
  · rw [agentReputationValue, if_neg disabled, agentRecord_eq_ok short_reputation visible]
    simp only [bind_eq_ok, toDecimal_eq, Except.ok.injEq]
    constructor
    · rintro ⟨a, same, linked, score, scored, rfl⟩
      exact ⟨a, score, disabled, same, linked, scored, rfl⟩
    · rintro ⟨a, score, -, same, linked, scored, rfl⟩
      exact ⟨a, same, linked, score, scored, rfl⟩

theorem agentRegistrationValue_of_unlinked
    (unlinked : ∀ a, SameKey key (self.agentRegistrationKey env.block a) → self.UnlinkedTo env node a) :
    self.agentRegistrationValue env node key = .ok [] :=
  agentRecord_of_unlinked (short_registration self env.block) unlinked

theorem agentReputationValue_of_unlinked
    (unlinked : ∀ a, self.scoreRegistry ≠ 0 → SameKey key (agentReputationKey a) →
      self.UnlinkedTo env node a) :
    self.agentReputationValue env node key = .ok [] := by
  unfold agentReputationValue
  split
  · rfl
  · rename_i scoring
    exact agentRecord_of_unlinked short_reputation fun a => unlinked a scoring

/-- A key that is neither compliance record is read as one of the agent keys. -/
theorem text_of_agentKey (free : CollisionFree Hash) (status : key ≠ ascii "compliance.status")
    (identity : key ≠ ascii "compliance.identity") :
    self.text Hash env node key = (do
      let agentRec ← self.agentRegistrationValue env node key
      if agentRec.length ≠ 0 then return agentRec else do
      let rep ← self.agentReputationValue env node key
      if rep.length ≠ 0 then return rep else return []) := by
  have apart {other : Bytes} (differ : key ≠ other) :
      (keccak256 (packed key) : Hash) ≠ keccak256 (packed other) := fun same =>
    differ (packed_injective (free same))
  rw [text]
  exact (if_neg (apart status)).trans (if_neg (apart identity))

/-- A record with something in it is one of the two agent records. -/
theorem text_eq_ok_of_agentKey (free : CollisionFree Hash) (status : key ≠ ascii "compliance.status")
    (identity : key ≠ ascii "compliance.identity") {shown : Bytes} (visible : shown ≠ []) :
    self.text Hash env node key = .ok shown ↔
      self.agentRegistrationValue env node key = .ok shown ∨
        self.agentReputationValue env node key = .ok shown := by
  have long : shown.length ≠ 0 := by simpa using visible
  rw [text_of_agentKey free status identity, bind_eq_ok]
  constructor
  · rintro ⟨agentRec, registration, continued⟩
    split at continued
    · cases continued
      exact .inl registration
    · obtain ⟨rep, reputation, last⟩ := bind_eq_ok.mp continued
      split at last
      · cases last
        exact .inr reputation
      · exact absurd (Except.ok.inj last).symm visible
  · rintro (registration | reputation)
    · exact ⟨shown, registration, if_pos long⟩
    · -- a reputation key is no registration key, so nothing was shown before it
      obtain ⟨a, score, -, same, -⟩ := (agentReputationValue_eq_ok visible).mp reputation
      refine ⟨[], agentRegistrationValue_of_unlinked fun b other =>
        (registrationKey_apart other same).elim, ?_⟩
      simp only [List.length_nil, ne_eq, not_true_eq_false, if_false, reputation, ok_bind, long,
        not_false_eq_true, if_true, pure_outcome]

/-- A failure is a failure of a contract asked about the agent the key names. -/
theorem text_error_of_agentKey (free : CollisionFree Hash) (status : key ≠ ascii "compliance.status")
    (identity : key ≠ ascii "compliance.identity") {error : Revert Error}
    (failed : self.text Hash env node key = .error error) :
    ∃ a, (SameKey key (self.agentRegistrationKey env.block a) ∨
        self.scoreRegistry ≠ 0 ∧ SameKey key (agentReputationKey a)) ∧
      ((env.resolverAt self.identityFactory).identityOfWallet a = .error error ∨
        (env.scoresAt self.scoreRegistry).scoreOf a = .error error) := by
  rw [text_of_agentKey free status identity] at failed
  cases registration : self.agentRegistrationValue env node key with
  | error raised =>
    simp only [registration, error_bind, Except.error.injEq] at failed
    subst failed
    obtain ⟨a, same, cause⟩ := agentRecord_error (short_registration self env.block) registration
    exact ⟨a, .inl same, cause.imp_right nofun⟩
  | ok agentRec =>
    simp only [registration, ok_bind] at failed
    split at failed
    · cases failed
    cases reputation : self.agentReputationValue env node key with
    | ok rep =>
      simp only [reputation, ok_bind] at failed
      split at failed <;> cases failed
    | error raised =>
      simp only [reputation, error_bind, Except.error.injEq] at failed
      subst failed
      unfold agentReputationValue at reputation
      split at reputation
      · cases reputation
      · rename_i scoring
        obtain ⟨a, same, cause⟩ := agentRecord_error short_reputation reputation
        refine ⟨a, .inr ⟨scoring, same⟩, cause.imp_right fun scored => ?_⟩
        cases asked : (env.scoresAt self.scoreRegistry).scoreOf a with
        | ok score => simp [asked, toDecimal_eq] at scored
        | error cause =>
          simp only [asked, error_bind, Except.error.injEq] at scored
          rw [scored]

/-- **The key grammar.** For every resolver, node and byte string other than the
two compliance keys. What a record shows is the attestation of the linked agent
whose registration key the string is, up to letter case, or the decimal score of
the one whose reputation key it is; a string that is no agent's key, or a key of
one that is not linked, shows nothing; and a failure is one of the contracts
asked about the agent. No string is a key of both kinds or of two agents. -/
theorem agent_records_follow_the_key_grammar (free : CollisionFree Hash)
    (status : key ≠ ascii "compliance.status") (identity : key ≠ ascii "compliance.identity") :
    (∀ shown, shown ≠ [] → (self.text Hash env node key = .ok shown ↔
      (∃ a, SameKey key (self.agentRegistrationKey env.block a) ∧ self.LinkedTo env node a ∧
        shown = ascii "1") ∨
      (∃ a score, self.scoreRegistry ≠ 0 ∧ SameKey key (agentReputationKey a) ∧
        self.LinkedTo env node a ∧ (env.scoresAt self.scoreRegistry).scoreOf a = .ok score ∧
        shown = decimal score.toNat))) ∧
    ((∀ a, SameKey key (self.agentRegistrationKey env.block a) → self.UnlinkedTo env node a) →
      (∀ a, self.scoreRegistry ≠ 0 → SameKey key (agentReputationKey a) →
        self.UnlinkedTo env node a) →
      self.text Hash env node key = .ok []) ∧
    (∀ error, self.text Hash env node key = .error error → ∃ a,
      (SameKey key (self.agentRegistrationKey env.block a) ∨
        self.scoreRegistry ≠ 0 ∧ SameKey key (agentReputationKey a)) ∧
      ((env.resolverAt self.identityFactory).identityOfWallet a = .error error ∨
        (env.scoresAt self.scoreRegistry).scoreOf a = .error error)) ∧
    (∀ a b, SameKey key (self.agentRegistrationKey env.block a) →
      ¬ SameKey key (agentReputationKey b)) ∧
    (∀ a b, SameKey key (self.agentRegistrationKey env.block a) →
      SameKey key (self.agentRegistrationKey env.block b) → a = b) ∧
    (∀ a b, SameKey key (agentReputationKey a) → SameKey key (agentReputationKey b) → a = b) := by
  refine ⟨?_, ?_, ?_, fun a b same other => registrationKey_apart same other,
    fun a b => keyOf_unique (short_registration self env.block),
    fun a b => keyOf_unique short_reputation⟩
  · intro shown visible
    rw [text_eq_ok_of_agentKey free status identity visible, agentRegistrationValue_eq_ok visible,
      agentReputationValue_eq_ok visible]
  · intro registration reputation
    rw [text_of_agentKey free status identity, agentRegistrationValue_of_unlinked registration,
      agentReputationValue_of_unlinked reputation]
    rfl
  · intro error failed
    exact text_error_of_agentKey free status identity failed

/-- A name bound to the identity 30, of which 12 is an agent with score 907. -/
def scoredName : PassportResolver := ⟨3, 4, fun _ => ⟨0, 0, 0⟩, fun _ => 30, fun _ => 0⟩

def scoredEnv : Env where
  block := ⟨1, 100⟩
  hasCode := fun _ => true
  gateAt := fun _ => ⟨fun _ _ => .error .undecodable⟩
  resolverAt := fun _ => ⟨fun wallet => .ok (if wallet = 12 then 30 else 0)⟩
  scoresAt := fun _ => ⟨fun _ => .ok 907⟩

/-- A key in mixed case is the agent's all the same. -/
theorem agent_records_follow_the_key_grammar_scored :
    65 :: (agentReputationKey 12).tail ≠ agentReputationKey 12 ∧
      scoredName.text Symbolic scoredEnv 500 (65 :: (agentReputationKey 12).tail) =
        .ok (ascii "907") := by
  refine ⟨by decide, ?_⟩
  obtain ⟨shows, -⟩ := @agent_records_follow_the_key_grammar Symbolic _ _ scoredName scoredEnv 500
    (65 :: (agentReputationKey 12).tail) Symbolic.collisionFree (by decide) (by decide)
  have digits : ascii "907" = decimal (907 : Uint256).toNat := by
    simp [decimal, ascii]
  exact (shows _ (by decide)).mpr
    (.inr ⟨12, 907, by decide, by decide, ⟨by decide, rfl⟩, rfl, digits⟩)

end Records

end PassportResolver

namespace AgentNames

variable {Hash : Type} [Crypto Hash] {names : AgentNames Hash} {node : Bytes32}

/-- The agent 12 of the name 500 is given the score one. -/
def scoring : List Input :=
  naming ++ [⟨Stack.admin, .scores (.setScore 12 1)⟩]

theorem scoring_facts :
    (exec step freshNames scoring).resolver.scoreRegistry = 4 ∧
      (exec step freshNames scoring).resolver.identityOf 500 = 30 ∧
      (exec step freshNames scoring).stack.factory.identityOfWallet 12 = 30 ∧
      (exec step freshNames scoring).scores.scoreOf 12 = 1 := by
  decide +kernel

theorem scoring_linked :
    (exec step freshNames scoring).resolver.LinkedTo (exec step freshNames scoring).env 500 12 := by
  obtain ⟨-, bound, leads, -⟩ := scoring_facts
  exact ⟨by rw [bound]; decide, by rw [resolved, leads, bound]⟩

/-- **A score of one.** The reputation record of a linked agent reads `1`, as an
attestation would, under a string that is nobody's registration key. -/
theorem score_of_one_reads_like_an_attestation :
    (exec step freshNames scoring).text 500 (PassportResolver.agentReputationKey 12) =
        .ok (ascii "1") ∧
      ¬ ∃ a, SameKey (PassportResolver.agentReputationKey 12)
        ((exec step freshNames scoring).resolver.agentRegistrationKey
          (exec step freshNames scoring).env.block a) := by
  obtain ⟨registry, -, -, score⟩ := scoring_facts
  constructor
  · rw [text, PassportResolver.text_eq_ok_of_agentKey Symbolic.collisionFree (by decide) (by decide)
      (by decide)]
    right
    rw [PassportResolver.agentReputationValue_eq_ok (by decide)]
    exact ⟨12, 1, by rw [registry]; decide, rfl, scoring_linked, by rw [scored, score], by decide⟩
  · rintro ⟨a, same⟩
    exact PassportResolver.registrationKey_apart same rfl

/-- In a deployment the factory and the score registry always answer, and so
does every record under an agent key. -/
theorem agent_records_always_answer [DecidableEq Hash] (free : CollisionFree Hash) {key : Bytes}
    (status : key ≠ ascii "compliance.status") (identity : key ≠ ascii "compliance.identity") :
    ∃ shown, names.text node key = .ok shown := by
  cases answer : names.text node key with
  | ok shown => exact ⟨shown, rfl⟩
  | error error =>
    obtain ⟨a, -, asked | asked⟩ :=
      PassportResolver.text_error_of_agentKey free status identity answer
    · rw [resolved] at asked
      cases asked
    · rw [scored] at asked
      cases asked

end AgentNames

end PassportKit
