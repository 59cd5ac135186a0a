/-
  Signature formats (`decode_and_convert_signature_format`,
  `src/handlers/json_rpc/wallet/prepare_calls.rs`).

  A multi-key validator takes the signatures of a list as an ABI `bytes[]`, the ownable validator
  takes them one after the other.  The conversion takes either format and finds out by a trial which
  one it has: what decodes strictly is an array, everything else is signatures one after the other.
  `ConvertsFormats` is what it is to do with a list: convert both formats into that of the
  validator, and leave what is in that format as it is.

  1. **Splitting.** Signatures of 65 bytes are split where they were joined
     (`splitSignatures_flatten`).

  2. **The trial** has four cases, two formats for two validators, with a lemma each.  It is right
     about a list if and only if its concatenation is not the encoding of an array itself
     (`convertsFormats_iff`).

  3. **When that can happen.** An encoding is a whole number of words, so a concatenation can be one
     only if the number of signatures is a multiple of 32 (`concat_ne_encode`); for 32 signatures
     some are, such as those that make up one long byte string in an array.

  What is assumed of the codec (`AbiCodec.Strict`) holds of the ABI codec of `Lib.AbiBytes`.
-/
import BlockchainApi.Lib.AbiBytes
import BlockchainApi.Wallet.SignerList
import Mathlib.Algebra.BigOperators.Group.List.Lemmas

namespace BlockchainApi

open ByteCodec

/-! ## What is to be done with the two formats of a list -/

/-- What is assumed of the codec of `bytes[]`: strict decoding accepts the encodings and nothing
    else, an encoding is a whole number of words, and it is longer than what it holds. -/
structure AbiCodec.Strict (c : AbiCodec (List Bytes)) : Prop where
  decode_eq_ok_iff : ∀ buf xs, c.decode buf = .ok xs ↔ c.encode xs = buf
  dvd_length_encode : ∀ xs, 32 ∣ (c.encode xs).length
  length_flatten_lt : ∀ xs : List Bytes, xs.flatten.length < (c.encode xs).length

/-- Both formats of a list are converted into the format of the validator, and what is in that
    format stays as it is. -/
structure ConvertsFormats (d : SmartSessionDeps) (signatures : List Bytes) : Prop where
  multiKey : ∀ validator, isOwnableValidatorAddress validator = false →
    decodeAndConvertSignatureFormat d signatures.flatten validator =
        .ok (d.signatures.encode signatures) ∧
      decodeAndConvertSignatureFormat d (d.signatures.encode signatures) validator =
        .ok (d.signatures.encode signatures)
  ownable : ∀ validator, isOwnableValidatorAddress validator = true →
    decodeAndConvertSignatureFormat d signatures.flatten validator = .ok signatures.flatten ∧
      decodeAndConvertSignatureFormat d (d.signatures.encode signatures) validator =
        .ok signatures.flatten
  idempotent : ∀ validator signature converted,
    (signature = signatures.flatten ∨ signature = d.signatures.encode signatures) →
      decodeAndConvertSignatureFormat d signature validator = .ok converted →
        decodeAndConvertSignatureFormat d converted validator = .ok converted

/-! ## Splitting, every 65 bytes -/

theorem map_length_eq_replicate {signatures : List Bytes}
    (h : ∀ s ∈ signatures, s.length = 65) :
    signatures.map List.length = List.replicate signatures.length 65 :=
  List.eq_replicate_iff.mpr ⟨List.length_map _, fun n hn => by
    obtain ⟨s, hs, rfl⟩ := List.mem_map.mp hn
    exact h s hs⟩

theorem length_flatten {signatures : List Bytes} (h : ∀ s ∈ signatures, s.length = 65) :
    signatures.flatten.length = signatures.length * 65 := by
  rw [List.length_flatten, map_length_eq_replicate h, List.sum_replicate_nat]

/-- The slice at the place of a signature. -/
theorem slice_flatten {signatures : List Bytes} (h : ∀ s ∈ signatures, s.length = 65) {i : Nat}
    (hi : i < signatures.length) :
    (signatures.flatten.take ((i + 1) * 65)).drop (i * 65) = signatures[i] := by
  have hsum : ∀ k ≤ signatures.length, ((signatures.map List.length).take k).sum = k * 65 := by
    intro k hk
    rw [map_length_eq_replicate h, List.take_replicate, Nat.min_eq_left hk,
      List.sum_replicate_nat]
  rw [← hsum i (by omega), ← hsum (i + 1) (by omega)]
  exact List.drop_take_succ_flatten_eq_getElem signatures i hi

/-- **Signatures are split where they were joined**, at every 65 bytes, so no signature of that
    length is cut. -/
theorem splitSignatures_flatten {signatures : List Bytes}
    (h : ∀ s ∈ signatures, s.length = 65) :
    splitSignatures signatures.flatten = .ok signatures := by
  have hcount : signatures.flatten.length / ecdsaSignatureWithRecoveryLength =
      signatures.length := by
    rw [length_flatten h]
    exact Nat.mul_div_cancel _ (by decide)
  have hslices : ∀ i ∈ List.range signatures.length,
      (Outcome.slice signatures.flatten (i * ecdsaSignatureWithRecoveryLength)
        (i * ecdsaSignatureWithRecoveryLength + ecdsaSignatureWithRecoveryLength) :
          Outcome PrepareCallsError Bytes) = .ok (signatures.getD i []) := by
    intro i hi
    have hlt := List.mem_range.mp hi
    have hlength := length_flatten h
    rw [show ecdsaSignatureWithRecoveryLength = 65 from rfl, Outcome.slice,
      if_pos ⟨by omega, by omega⟩, ← Nat.succ_mul, slice_flatten h hlt,
      List.getD_eq_getElem _ _ hlt]
  rw [splitSignatures, hcount, Outcome.mapM_eq_ok hslices]
  congr 1
  apply List.ext_getElem
  · rw [List.length_map, List.length_range]
  · intro i hi hi'
    rw [List.getElem_map, List.getElem_range, List.getD_eq_getElem _ _ hi']

/-! ## The trial: what decodes is taken for an array -/

variable {d : SmartSessionDeps} {signatures : List Bytes} {validator : Address}

/-- What does not decode is an error. -/
theorem AbiCodec.Strict.decode_eq_error {c : AbiCodec (List Bytes)} (hc : c.Strict) {buf : Bytes}
    (h : ∀ xs, c.encode xs ≠ buf) : ∃ e, c.decode buf = .error e := by
  cases hdec : c.decode buf with
  | error e => exact ⟨e, rfl⟩
  | ok xs => exact absurd ((hc.decode_eq_ok_iff buf xs).mp hdec) (h xs)

/-- An array is in the format of a multi-key validator. -/
theorem convert_encode_multiKey (hd : d.signatures.Strict)
    (hvalidator : isOwnableValidatorAddress validator = false) (xs : List Bytes) :
    decodeAndConvertSignatureFormat d (d.signatures.encode xs) validator =
      .ok (d.signatures.encode xs) := by
  have hdec := (hd.decode_eq_ok_iff _ xs).mpr rfl
  rw [decodeAndConvertSignatureFormat, hvalidator, if_neg Bool.false_ne_true, hdec]

/-- For the ownable validator its elements are joined. -/
theorem convert_encode_ownable (hd : d.signatures.Strict)
    (hvalidator : isOwnableValidatorAddress validator = true) (xs : List Bytes) :
    decodeAndConvertSignatureFormat d (d.signatures.encode xs) validator = .ok xs.flatten := by
  have hdec := (hd.decode_eq_ok_iff _ xs).mpr rfl
  rw [decodeAndConvertSignatureFormat, hvalidator, if_pos rfl, hdec]

/-- Signatures one after the other, which are no array, become one for a multi-key validator. -/
theorem convert_flatten_multiKey (hd : d.signatures.Strict)
    (hvalidator : isOwnableValidatorAddress validator = false) (hne : signatures ≠ [])
    (hlength : ∀ s ∈ signatures, s.length = 65)
    (h : ∀ xs, d.signatures.encode xs ≠ signatures.flatten) :
    decodeAndConvertSignatureFormat d signatures.flatten validator =
      .ok (d.signatures.encode signatures) := by
  obtain ⟨e, hdec⟩ := hd.decode_eq_error h
  have hflatten := length_flatten hlength
  have hpos : 0 < signatures.length := List.length_pos_iff.mpr hne
  have hsplit : signatures.flatten.length % ecdsaSignatureWithRecoveryLength = 0 ∧
      signatures.flatten ≠ [] := by
    refine ⟨?_, fun hempty => ?_⟩
    · rw [hflatten]
      exact Nat.mul_mod_left _ 65
    · rw [hempty, List.length_nil] at hflatten
      omega
  rw [decodeAndConvertSignatureFormat, hvalidator, if_neg Bool.false_ne_true, hdec]
  dsimp only
  rw [if_pos hsplit, splitSignatures_flatten hlength]
  rfl

/-- They stay as they are for the ownable validator. -/
theorem convert_flatten_ownable (hd : d.signatures.Strict)
    (hvalidator : isOwnableValidatorAddress validator = true)
    (h : ∀ xs, d.signatures.encode xs ≠ signatures.flatten) :
    decodeAndConvertSignatureFormat d signatures.flatten validator = .ok signatures.flatten := by
  obtain ⟨e, hdec⟩ := hd.decode_eq_error h
  rw [decodeAndConvertSignatureFormat, hvalidator, if_pos rfl, hdec]

/-! ## When the trial is right -/

/-- **The trial is right** about a list if and only if its concatenation is not the encoding of
    an array itself. If it is one, a multi-key validator gets that array and not the list. -/
theorem convertsFormats_iff (hd : d.signatures.Strict) (hne : signatures ≠ [])
    (hlength : ∀ s ∈ signatures, s.length = 65) :
    ConvertsFormats d signatures ↔ ∀ xs, d.signatures.encode xs ≠ signatures.flatten := by
  constructor
  · intro h xs hxs
    -- a multi-key validator would get the concatenation
    have hmulti := (h.multiKey multiKeyValidatorAddress (by decide)).1
    rw [← hxs, convert_encode_multiKey hd (by decide), hxs] at hmulti
    have hlt := hd.length_flatten_lt signatures
    rw [← Outcome.ok.inj hmulti] at hlt
    exact Nat.lt_irrefl _ hlt
  · intro h
    have hmulti : ∀ validator, isOwnableValidatorAddress validator = false →
        ∀ signature, (signature = signatures.flatten ∨
          signature = d.signatures.encode signatures) →
          decodeAndConvertSignatureFormat d signature validator =
            .ok (d.signatures.encode signatures) := by
      rintro validator hvalidator _ (rfl | rfl)
      · exact convert_flatten_multiKey hd hvalidator hne hlength h
      · exact convert_encode_multiKey hd hvalidator signatures
    have hownable : ∀ validator, isOwnableValidatorAddress validator = true →
        ∀ signature, (signature = signatures.flatten ∨
          signature = d.signatures.encode signatures) →
          decodeAndConvertSignatureFormat d signature validator = .ok signatures.flatten := by
      rintro validator hvalidator _ (rfl | rfl)
      · exact convert_flatten_ownable hd hvalidator h
      · exact convert_encode_ownable hd hvalidator signatures
    refine ⟨fun v hv => ⟨hmulti v hv _ (.inl rfl), hmulti v hv _ (.inr rfl)⟩,
      fun v hv => ⟨hownable v hv _ (.inl rfl), hownable v hv _ (.inr rfl)⟩,
      fun v signature converted hsignature hconverted => ?_⟩
    cases hv : isOwnableValidatorAddress v with
    | false =>
      obtain rfl := Outcome.ok.inj ((hmulti v hv signature hsignature).symm.trans hconverted)
      exact hmulti v hv _ (.inr rfl)
    | true =>
      obtain rfl := Outcome.ok.inj ((hownable v hv signature hsignature).symm.trans hconverted)
      exact hownable v hv _ (.inl rfl)

/-- An encoding is a whole number of words, and 65 bytes are not: 65 is odd, so 32 has to divide
    the number of signatures. -/
theorem concat_ne_encode (hd : d.signatures.Strict) (hlength : ∀ s ∈ signatures, s.length = 65)
    (h : signatures.length % 32 ≠ 0) (xs : List Bytes) :
    d.signatures.encode xs ≠ signatures.flatten := by
  intro hxs
  have hdvd := hd.dvd_length_encode xs
  rw [hxs, length_flatten hlength] at hdvd
  omega

/-- **Signature format conversion is unambiguous** for every list of signatures whose concatenation
    is not an encoded array itself, and for no other; it is none unless the number of signatures is
    a multiple of 32. -/
theorem signatureFormats_unambiguous (d : SmartSessionDeps) (hd : d.signatures.Strict)
    (signatures : List Bytes) (hne : signatures ≠ [])
    (hlength : ∀ s ∈ signatures, s.length = 65) :
    (ConvertsFormats d signatures ↔ ∀ xs, d.signatures.encode xs ≠ signatures.flatten) ∧
      (signatures.length % 32 ≠ 0 → ConvertsFormats d signatures) :=
  ⟨convertsFormats_iff hd hne hlength, fun h =>
    (convertsFormats_iff hd hne hlength).mpr (concat_ne_encode hd hlength h)⟩

/-! ## Two signatures, and thirty-two that are an array together -/

/-- The codec of `bytes[]`, strict on every input. -/
def strictSignatures : AbiCodec (List Bytes) where
  encode := bytesArrayAbi.encodeAligned
  decode buf :=
    match bytesArrayAbi.decodeAligned buf with
    | some xs => .ok xs
    | none => .error "reserialization mismatch"

theorem strictSignatures_encode (xs : List Bytes) :
    strictSignatures.encode xs = bytesArrayAbi.encodeAligned xs := rfl

theorem strictSignatures_strict : strictSignatures.Strict where
  decode_eq_ok_iff buf xs := by
    rw [strictSignatures_encode, ← bytesArrayAbi.decodeAligned_eq_some_iff, strictSignatures]
    cases hdec : bytesArrayAbi.decodeAligned buf with
    | none => simp [hdec]
    | some ys => simp [hdec]
  dvd_length_encode := bytesArrayAbi.dvd_length_encodeAligned Abi.dvd_length_enc_byteArrays
  length_flatten_lt := Abi.length_flatten_lt_encodeAligned

/-- The session codecs, with this one for the signatures. -/
def strictSmartSession : SmartSessionDeps :=
  { standardSmartSession with signatures := strictSignatures }

/-- The signatures of the source's tests. -/
def twoSignatures : List Bytes := [List.replicate 65 0x11, List.replicate 65 0x22]

theorem signatureFormats_unambiguous_two : ConvertsFormats strictSmartSession twoSignatures := by
  have hlength : ∀ s ∈ twoSignatures, s.length = 65 := by
    simp [twoSignatures]
  exact (signatureFormats_unambiguous strictSmartSession strictSignatures_strict twoSignatures
    (List.cons_ne_nil _ _) hlength).2 (by decide)

/-- Pieces of 65 bytes. -/
def pieces (count : Nat) (bs : Bytes) : List Bytes :=
  (List.range count).map fun i => (bs.drop (i * 65)).take 65

theorem flatten_pieces {count : Nat} {bs : Bytes} (h : bs.length = count * 65) :
    (pieces count bs).flatten = bs := by
  induction count generalizing bs with
  | zero => exact (List.length_eq_zero_iff.mp (by omega)).symm
  | succ count ih =>
    have hrest : (pieces count (bs.drop 65)).flatten = bs.drop 65 :=
      ih (by rw [List.length_drop]; omega)
    rw [pieces, List.range_succ_eq_map, List.map_cons, List.flatten_cons, Nat.zero_mul,
      List.drop_zero, List.map_map]
    have hpieces : (List.range count).map
        ((fun i => (bs.drop (i * 65)).take 65) ∘ Nat.succ) = pieces count (bs.drop 65) := by
      refine List.map_congr_left fun i _ => ?_
      rw [Function.comp_apply, List.drop_drop, Nat.succ_mul, Nat.add_comm]
    rw [hpieces, hrest, List.take_append_drop]

theorem length_of_mem_pieces {count : Nat} {bs piece : Bytes} (h : bs.length = count * 65)
    (hpiece : piece ∈ pieces count bs) : piece.length = 65 := by
  obtain ⟨i, hi, rfl⟩ := List.mem_map.mp hpiece
  have hlt := List.mem_range.mp hi
  rw [List.length_take, List.length_drop]
  omega

/-- One byte string of 61 words. -/
def longString : Bytes := List.replicate 1952 0

/-- Alone in an array. -/
def oneLongArray : Bytes := strictSignatures.encode [longString]

/-- It is as long as 32 signatures. -/
theorem length_oneLongArray : oneLongArray.length = 32 * 65 := by
  have hlength : (bytesArrayAbi.enc [longString]).length = 2080 := by
    have hstring : longString.length = 1952 := List.length_replicate
    have hcontents : (Abi.contents [longString]).length = 1984 := by
      rw [Abi.contents_cons, List.length_append, Abi.length_enc_bytes, hstring]
      rfl
    refine (Abi.length_enc_byteArrays _).trans ?_
    rw [hcontents]
    rfl
  have hbound : (bytesArrayAbi.enc [longString]).length < Abi.wordBound := by
    rw [hlength]
    decide
  rw [oneLongArray, strictSignatures_encode, Abi.Codec.encodeAligned, if_pos hbound, hlength]

/-- **Thirty-two signatures that are an array together** are not converted. -/
theorem not_convertsFormats :
    ¬ ∀ signatures : List Bytes, signatures ≠ [] → (∀ s ∈ signatures, s.length = 65) →
      ConvertsFormats strictSmartSession signatures := by
  intro h
  have hlength : ∀ s ∈ pieces 32 oneLongArray, s.length = 65 := fun s hs =>
    length_of_mem_pieces length_oneLongArray hs
  have hne : pieces 32 oneLongArray ≠ [] := List.ne_nil_of_length_pos (by simp [pieces])
  have hconverts : ConvertsFormats strictSmartSession (pieces 32 oneLongArray) :=
    h _ hne hlength
  have hencode : strictSmartSession.signatures.encode [longString] =
      (pieces 32 oneLongArray).flatten := by
    rw [flatten_pieces length_oneLongArray]
    rfl
  rw [convertsFormats_iff strictSignatures_strict hne hlength] at hconverts
  exact hconverts [longString] hencode

end BlockchainApi
