/-
  EVM addresses in texts: `H160::from_str` and EIP-55 checksums.

  Both belong to other crates.  `readH160` is what the first is documented to do with a text without
  white space: at most one prefix `0x`, then forty digits, capital or small.  A checksummed address
  is its hex form with some letters made capital; which ones is left open, as the reader does not
  care.

  1. **Letters.** The value of a digit does not depend on its case, and only letters have two forms.
     So texts that differ only in capital letters name the same address (`readH160_of_sameButCase`).

  2. **Checksums.** With `Checksums.Lawful` a checksummed address is read back as the address it was
     made of (`Checksums.Lawful.readH160_toChecksum`).

  3. **Bytes.** `hex::decode` reads the digits of whole bytes, and nothing else
     (`hexDecode_eq_ok_iff`).  It works on the bytes of a text, while patterns look at characters; a
     character outside of ASCII begins with a byte that is no digit, so the two agree.
-/
import BlockchainApi.Primitives
import BlockchainApi.Lib.Outcome

namespace BlockchainApi

open ByteCodec

/-- `strip_prefix("0x")`, where it is there. -/
def stripHexPrefix : List Char → List Char
  | '0' :: 'x' :: rest => rest
  | s => s

/-- `H160::from_str`, of a text without white space. -/
def readH160 (s : String) : Option Address :=
  let digits := stripHexPrefix s.toList
  if digits.length = 40 ∧ digits.all isHexChar then some (.ofNat 20 (hexValue digits)) else none

/-- The same text, but for capital and small letters. -/
def SameButCase (s t : String) : Prop := s.toList.map Char.toLower = t.toList.map Char.toLower

/-! ## Digits in capital and small letters have one value -/

theorem hexChar_toLower_of_lt : ∀ n < 128,
    isHexChar (Char.ofNat n).toLower = isHexChar (Char.ofNat n) ∧
      (isHexChar (Char.ofNat n) = true →
        hexCharValue (Char.ofNat n).toLower = hexCharValue (Char.ofNat n)) := by
  decide

/-- Only ASCII letters have another form. -/
theorem toLower_of_not_lt {c : Char} (h : ¬ c.toNat < 128) : c.toLower = c := by
  refine dif_neg ?_
  rintro ⟨-, hle⟩
  exact h (Nat.lt_of_le_of_lt (UInt32.le_iff_toNat_le.mp hle) (by decide))

theorem toLower_cases_of_lt : ∀ n < 128, (Char.ofNat n).toLower = Char.ofNat n ∨
    (Char.ofNat n).toLower.isLower = true := by
  decide +kernel

/-- A character that is no small letter is in small letters only where it was before. -/
theorem eq_of_toLower_eq {c d : Char} (h : c.toLower = d) (hd : d.isLower = false) : c = d := by
  by_cases hc : c.toNat < 128
  · have hcases := toLower_cases_of_lt c.toNat hc
    rw [Char.ofNat_toNat] at hcases
    rcases hcases with hsame | hlower
    · exact hsame.symm.trans h
    · rw [h, hd] at hlower
      cases hlower
  · exact (toLower_of_not_lt hc).symm.trans h

theorem hexChar_toLower (c : Char) : isHexChar c.toLower = isHexChar c ∧
    (isHexChar c = true → hexCharValue c.toLower = hexCharValue c) := by
  by_cases hc : c.toNat < 128
  · have h := hexChar_toLower_of_lt c.toNat hc
    rwa [Char.ofNat_toNat] at h
  · rw [toLower_of_not_lt hc]
    exact ⟨rfl, fun _ => rfl⟩

theorem all_isHexChar_map_toLower (s : List Char) :
    (s.map Char.toLower).all isHexChar = s.all isHexChar := by
  rw [List.all_map]
  congr 1
  funext c
  exact (hexChar_toLower c).1

theorem hexValue_map_toLower {s : List Char} (h : s.all isHexChar = true) :
    hexValue (s.map Char.toLower) = hexValue s := by
  rw [hexValue, hexValue, List.foldl_map]
  refine List.foldl_ext _ _ _ fun n c hc => ?_
  rw [(hexChar_toLower c).2 (List.all_eq_true.mp h c hc)]

/-- The prefix was there, or nothing was taken off. -/
theorem stripHexPrefix_cases (s : List Char) :
    s = '0' :: 'x' :: stripHexPrefix s ∨ s = stripHexPrefix s := by
  unfold stripHexPrefix
  split
  · exact .inl rfl
  · exact .inr rfl

theorem readH160_eq_some_iff {s : String} {a : Address} :
    readH160 s = some a ↔
      ((stripHexPrefix s.toList).length = 40 ∧ (stripHexPrefix s.toList).all isHexChar = true) ∧
        .ofNat 20 (hexValue (stripHexPrefix s.toList)) = a := by
  rw [readH160]
  split
  · rename_i h
    exact ⟨fun heq => ⟨h, Option.some.inj heq⟩, fun heq => congrArg some heq.2⟩
  · rename_i h
    exact ⟨fun heq => absurd heq (Option.some_ne_none a).symm, fun heq => absurd heq.1 h⟩

/-- **Texts of addresses that differ only in capital letters name the same address.** Both have
    the prefix or none has, since both are read. -/
theorem readH160_of_sameButCase {s t : String} {a b : Address} (h : SameButCase s t)
    (ha : readH160 s = some a) (hb : readH160 t = some b) : a = b := by
  obtain ⟨⟨hsLength, hsHex⟩, rfl⟩ := readH160_eq_some_iff.mp ha
  obtain ⟨⟨htLength, htHex⟩, rfl⟩ := readH160_eq_some_iff.mp hb
  -- both have the prefix or none has, or else the lengths differ
  have hdigits : (stripHexPrefix s.toList).map Char.toLower =
      (stripHexPrefix t.toList).map Char.toLower := by
    have hlength : s.toList.length = t.toList.length := by
      simpa using congrArg List.length h
    have hlower : s.toList.map Char.toLower = t.toList.map Char.toLower := h
    rcases stripHexPrefix_cases s.toList with hs | hs <;>
      rcases stripHexPrefix_cases t.toList with ht | ht
    · rw [hs, ht] at hlower
      exact (List.cons.inj (List.cons.inj hlower).2).2
    · rw [hs, ht, List.length_cons, List.length_cons] at hlength
      omega
    · rw [hs, ht, List.length_cons, List.length_cons] at hlength
      omega
    · rwa [hs, ht] at hlower
  rw [← hexValue_map_toLower hsHex, hdigits, hexValue_map_toLower htHex]

/-! ## Checksums: the same digits in another case -/

theorem hexValue_append (s t : List Char) :
    hexValue (s ++ t) = 16 ^ t.length * hexValue s + hexValue t := by
  induction t using List.reverseRecOn with
  | nil => simp [hexValue]
  | append_singleton t c ih =>
    have hconcat : ∀ u : List Char, hexValue (u ++ [c]) = 16 * hexValue u + hexCharValue c := by
      intro u
      rw [hexValue, List.foldl_append]
      rfl
    rw [← List.append_assoc, hconcat, ih, hconcat, List.length_append, List.length_singleton,
      Nat.pow_succ]
    ring

theorem all_isHexChar_hexText (bytes : Bytes) : (hexText bytes).all isHexChar = true := by
  rw [List.all_eq_true]
  intro c hc
  obtain ⟨b, -, hb⟩ := List.mem_flatMap.mp hc
  have hhigh := (hexDigit_spec (b.toNat / 16) (by have := b.toNat_lt; omega)).2.1
  have hlow := (hexDigit_spec (b.toNat % 16) (by omega)).2.1
  rcases List.mem_cons.mp hb with rfl | hb
  · exact hhigh
  · rwa [List.mem_singleton.mp hb]

/-- The digits of a byte string are a number in base 16. -/
theorem hexValue_hexText (bytes : Bytes) : hexValue (hexText bytes) = ofBe bytes := by
  induction bytes with
  | nil => rfl
  | cons b bytes ih =>
    have hhigh := (hexDigit_spec (b.toNat / 16) (by have := b.toNat_lt; omega)).2.2.1
    have hlow := (hexDigit_spec (b.toNat % 16) (by omega)).2.2.1
    have hpair : hexValue [hexDigit (b.toNat / 16), hexDigit (b.toNat % 16)] = b.toNat := by
      show 16 * (16 * 0 + hexCharValue (hexDigit (b.toNat / 16))) +
        hexCharValue (hexDigit (b.toNat % 16)) = b.toNat
      rw [hhigh, hlow]
      omega
    show hexValue ([hexDigit (b.toNat / 16), hexDigit (b.toNat % 16)] ++ hexText bytes) = _
    rw [hexValue_append, hpair, ih, length_hexText, Nat.pow_mul, ofBe]
    norm_num
    ring

/-- The digits that are printed are small letters. -/
theorem map_toLower_hexText (bytes : Bytes) : (hexText bytes).map Char.toLower = hexText bytes := by
  have hdigit : ∀ n < 16, (hexDigit n).toLower = hexDigit n := by decide
  induction bytes with
  | nil => rfl
  | cons b bytes ih =>
    show (hexDigit (b.toNat / 16)).toLower :: (hexDigit (b.toNat % 16)).toLower ::
      (hexText bytes).map Char.toLower = hexDigit (b.toNat / 16) :: hexDigit (b.toNat % 16) :: _
    rw [hdigit _ (by have := b.toNat_lt; omega), hdigit _ (by omega), ih]
    rfl

/-- What the parsers of assets ask of other crates. -/
structure Checksums where
  /-- `H160::from_str`. -/
  h160FromStr : String → Option Address
  /-- `to_checksum(_, None)`. -/
  toChecksum : Address → String

/-- What is assumed of them. -/
structure Checksums.Lawful (k : Checksums) : Prop where
  h160FromStr_eq : ∀ s, (∀ c ∈ s.toList, c.isWhitespace = false) → k.h160FromStr s = readH160 s
  toChecksum_eq : ∀ a, ∃ digits, (k.toChecksum a).toList = '0' :: 'x' :: digits ∧
    digits.map Char.toLower = hexText a.bytes

/-- A checksummed address is read back. -/
theorem Checksums.Lawful.readH160_toChecksum {k : Checksums} (h : k.Lawful) (a : Address) :
    readH160 (k.toChecksum a) = some a := by
  obtain ⟨digits, htext, hlower⟩ := h.toChecksum_eq a
  have hlength : digits.length = 40 := by
    have := congrArg List.length hlower
    rwa [List.length_map, length_hexText, a.length_eq] at this
  have hhex : digits.all isHexChar = true := by
    rw [← all_isHexChar_map_toLower, hlower, all_isHexChar_hexText]
  rw [readH160_eq_some_iff, htext]
  refine ⟨⟨hlength, hhex⟩, ?_⟩
  show FixedBytes.ofNat 20 (hexValue digits) = a
  rw [← hexValue_map_toLower hhex, hlower, hexValue_hexText]
  apply FixedBytes.ext
  have hbytes := toBe_ofBe a.bytes
  rwa [a.length_eq] at hbytes

/-! ## Hex digits as bytes: what the decoder of byte strings reads -/

/-- The bytes that pairs of digits denote. -/
def hexBytes : List Char → Bytes
  | a :: b :: rest => UInt8.ofNat (16 * hexCharValue a + hexCharValue b) :: hexBytes rest
  | _ => []

theorem length_hexBytes (digits : List Char) : (hexBytes digits).length = digits.length / 2 := by
  induction digits using hexBytes.induct with
  | case1 a b rest ih =>
    rw [hexBytes, List.length_cons, List.length_cons, List.length_cons, ih]
    omega
  | case2 digits h =>
    rcases digits with _ | ⟨a, _ | ⟨b, rest⟩⟩
    · rfl
    · simp [hexBytes]
    · exact absurd rfl (h a b rest)

/-- Pairs of characters are read if all of them are digits. -/
theorem hexPairs_eq_ok_iff {digits : List Char} (heven : digits.length % 2 = 0) {index : Nat}
    {bytes : Bytes} :
    hexPairs index digits = .ok bytes ↔ digits.all isHexChar = true ∧ hexBytes digits = bytes := by
  induction digits using hexBytes.induct generalizing index bytes with
  | case1 a b rest ih =>
    have hrest : rest.length % 2 = 0 := by
      rw [List.length_cons, List.length_cons] at heven
      omega
    rw [hexPairs, hexBytes, List.all_cons, List.all_cons]
    by_cases ha : isHexChar a = true
    · by_cases hb : isHexChar b = true
      · rw [if_pos ha, if_pos hb, ha, hb, Bool.true_and, Bool.true_and, Except.bind_eq_ok]
        constructor
        · rintro ⟨tail, htail, h⟩
          obtain ⟨hall, rfl⟩ := (ih hrest).mp htail
          cases h
          exact ⟨hall, rfl⟩
        · rintro ⟨hall, rfl⟩
          exact ⟨_, (ih hrest).mpr ⟨hall, rfl⟩, rfl⟩
      · simp [ha, hb]
    · simp [ha]
  | case2 digits h =>
    rcases digits with _ | ⟨a, _ | ⟨b, rest⟩⟩
    · simp [hexPairs, hexBytes]
    · cases heven
    · exact absurd rfl (h a b rest)

/-- The bytes of a text, each as a character. -/
def byteChars (s : List Char) : List Char :=
  (s.flatMap String.utf8EncodeChar).map fun b => Char.ofNat b.toNat

theorem byteChars_cons (c : Char) (s : List Char) :
    byteChars (c :: s) =
      (String.utf8EncodeChar c).map (fun b => Char.ofNat b.toNat) ++ byteChars s := by
  rw [byteChars, List.flatMap_cons, List.map_append, byteChars]

theorem utf8EncodeChar_of_lt : ∀ n < 128,
    (String.utf8EncodeChar (Char.ofNat n)).map (fun b => Char.ofNat b.toNat) = [Char.ofNat n] := by
  decide +kernel

theorem isHexChar_of_upper : ∀ n < 256, 192 ≤ n → isHexChar (Char.ofNat n) = false := by
  decide +kernel

/-- The digits are ASCII. -/
theorem toNat_lt_of_isHexChar {c : Char} (h : isHexChar c = true) : c.toNat < 128 := by
  by_contra hc
  have hlarge : ∀ d : Char, d.toNat < 128 → decide (c ≤ d) = false := by
    intro d hd
    rw [decide_eq_false_iff_not, Char.le_def, UInt32.le_iff_toNat_le]
    exact fun hle => hc (Nat.lt_of_le_of_lt hle hd)
  have hdigit : c.isDigit = false := by
    show (decide ('0' ≤ c) && decide (c ≤ '9')) = false
    rw [hlarge '9' (by decide), Bool.and_false]
  rw [isHexChar, hdigit, hlarge 'f' (by decide), hlarge 'F' (by decide), Bool.and_false,
    Bool.and_false] at h
  cases h

/-- A character outside of ASCII begins with a byte that is no digit. -/
theorem exists_utf8EncodeChar_of_not_lt {c : Char} (h : ¬ c.toNat < 128) :
    ∃ b bytes, String.utf8EncodeChar c = b :: bytes ∧ isHexChar (Char.ofNat b.toNat) = false := by
  have hupper : ∀ n, 192 ≤ n → n < 256 →
      isHexChar (Char.ofNat (UInt8.ofNat n).toNat) = false := by
    intro n hle hlt
    rw [UInt8.toNat_ofNat_of_lt' hlt]
    exact isHexChar_of_upper n hlt hle
  have hval : c.val.toNat = c.toNat := rfl
  unfold String.utf8EncodeChar
  dsimp only
  split
  · rename_i hle
    exact absurd hle (by omega)
  · split
    · exact ⟨_, _, rfl, hupper _ (by omega) (by omega)⟩
    · split
      · exact ⟨_, _, rfl, hupper _ (by omega) (by omega)⟩
      · exact ⟨_, _, rfl, hupper _ (by omega) (by omega)⟩

/-- The bytes are all digits exactly if the characters are. -/
theorem all_isHexChar_byteChars (s : List Char) :
    (byteChars s).all isHexChar = s.all isHexChar ∧ (s.all isHexChar = true → byteChars s = s) := by
  induction s with
  | nil => exact ⟨rfl, fun _ => rfl⟩
  | cons c s ih =>
    rw [byteChars_cons, List.all_append, List.all_cons]
    by_cases hc : c.toNat < 128
    · have hbyte := utf8EncodeChar_of_lt c.toNat hc
      rw [Char.ofNat_toNat] at hbyte
      rw [hbyte, ih.1]
      refine ⟨by simp, fun hall => ?_⟩
      rw [ih.2 (Bool.and_eq_true_iff.mp hall).2]
      rfl
    · obtain ⟨b, bytes, hencode, hb⟩ := exists_utf8EncodeChar_of_not_lt hc
      have hcHex : isHexChar c = false := by
        rw [Bool.eq_false_iff]
        exact fun hhex => hc (toNat_lt_of_isHexChar hhex)
      rw [hencode, hcHex]
      simp [hb]

/-- **`hex::decode`** reads the digits of whole bytes, and nothing else: the text has an even
    number of digits, and the bytes are those of its pairs. -/
theorem hexDecode_eq_ok_iff {digits : List Char} {bytes : Bytes} :
    hexDecode (String.ofList digits) = .ok bytes ↔
      digits.length % 2 = 0 ∧ digits.all isHexChar = true ∧ hexBytes digits = bytes := by
  have hchars : ((String.ofList digits).toUTF8.data.toList.map fun b => Char.ofNat b.toNat) =
      byteChars digits := by
    rw [toUTF8_ofList, byteChars]
  obtain ⟨hall, hsame⟩ := all_isHexChar_byteChars digits
  have hdecode : hexDecode (String.ofList digits) =
      if (byteChars digits).length % 2 = 0 then hexPairs 0 (byteChars digits)
      else .error .oddLength := by
    rw [hexDecode, hchars]
  rw [hdecode]
  by_cases hhex : digits.all isHexChar = true
  · rw [hsame hhex]
    by_cases heven : digits.length % 2 = 0
    · rw [if_pos heven, hexPairs_eq_ok_iff heven, and_iff_right heven]
    · rw [if_neg heven]
      refine ⟨fun h => ?_, fun h => absurd h.1 heven⟩
      cases h
  · -- a character that is no digit leaves a byte that is none
    refine ⟨fun h => ?_, fun h => absurd h.2.1 hhex⟩
    split at h
    · rename_i heven
      exact absurd (hall ▸ ((hexPairs_eq_ok_iff heven).mp h).1) hhex
    · cases h

end BlockchainApi
