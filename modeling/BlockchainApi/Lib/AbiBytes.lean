/-
  The strict codec of an array of byte strings.

  The contract ABI lays out an array of byte strings in words: a word with the number of its
  elements, a word for the offset of each, and for each the length, the bytes and zeros up to the
  next word.  Two facts about lengths follow, and they are all that a user of such an array needs to
  know of its layout: an encoding is a whole number of words (`dvd_length_enc_byteArrays`), and it
  is longer than the byte strings together (`length_flatten_lt_enc`).  Both are inductions on the
  array.

  The layout is that of `Lib.Abi`, whose lengths and offsets are one word each, so past the bound of
  a word it has no meaning.  `encodeAligned` extends it to every array: past the bound, a run of
  zeros stands in for it, a whole number of words as well, and as many as the index of the value
  asks for.  With the decoder that accepts what encodes to its input this is a codec that is strict
  on every input: what is decoded is exactly what is encoded (`decodeAligned_eq_some_iff`).
-/
import BlockchainApi.Lib.Abi
import Mathlib.Logic.Equiv.List

namespace Abi

open ByteCodec

/-! ## Lengths: whole words, and more than the contents -/

/-- An array of byte strings, alone in its frame. -/
def byteArrays : Codec (List Bytes) := Codec.tuple (Seq.item Codec.bytesArray)

/-- The contents of the byte strings. -/
def contents (xs : List Bytes) : Bytes := (Seq.item Codec.bytes).tailsMany xs

/-- The length of one byte string, of its padding and of the word in front. -/
theorem length_enc_bytes (x : Bytes) :
    (Codec.bytes.enc x).length = 32 + (x.length + (32 - x.length % 32) % 32) := by
  show (word x.length ++ (x ++ Codec.padding x.length)).length = _
  rw [List.length_append, List.length_append, length_word, Codec.padding, List.length_replicate]

theorem contents_cons (x : Bytes) (xs : List Bytes) :
    contents (x :: xs) = Codec.bytes.enc x ++ contents xs := rfl

theorem length_enc_byteArrays (xs : List Bytes) :
    (byteArrays.enc xs).length = 64 + (xs.length * 32 + (contents xs).length) := by
  show (word 32 ++ (word xs.length ++
    ((Seq.item Codec.bytes).headsMany (xs.length * 32) xs ++ contents xs))).length = _
  rw [List.length_append, List.length_append, List.length_append, length_word, length_word,
    Seq.length_headsMany]
  show 32 + (32 + (xs.length * 32 + (contents xs).length)) = _
  omega

theorem dvd_length_contents (xs : List Bytes) : 32 ∣ (contents xs).length := by
  induction xs with
  | nil => exact Nat.dvd_zero 32
  | cons x xs ih =>
    rw [contents_cons, List.length_append, length_enc_bytes]
    omega

/-- **A whole number of words.** Each byte string is padded to one, and offsets and lengths are
    words. -/
theorem dvd_length_enc_byteArrays (xs : List Bytes) : 32 ∣ (byteArrays.enc xs).length := by
  have hcontents := dvd_length_contents xs
  rw [length_enc_byteArrays]
  omega

theorem length_flatten_le_contents (xs : List Bytes) :
    xs.flatten.length ≤ (contents xs).length := by
  induction xs with
  | nil => exact Nat.zero_le _
  | cons x xs ih =>
    rw [contents_cons, List.flatten_cons, List.length_append, List.length_append,
      length_enc_bytes]
    omega

/-- **More than the byte strings together**: the word with the number of elements comes on top. -/
theorem length_flatten_lt_enc (xs : List Bytes) :
    xs.flatten.length < (byteArrays.enc xs).length := by
  have hle := length_flatten_le_contents xs
  rw [length_enc_byteArrays]
  omega

/-- An index of a list of lists counts at least its elements. -/
theorem length_flatten_le_encode {α : Type} [Encodable α] (xs : List (List α)) :
    xs.flatten.length ≤ Encodable.encode xs := by
  induction xs with
  | nil => exact Nat.zero_le _
  | cons x xs ih =>
    have hx := Encodable.length_le_encode x
    have hpair := Nat.add_le_pair (Encodable.encode x) (Encodable.encode xs)
    rw [List.flatten_cons, List.length_append, Encodable.encode_list_cons]
    omega

/-! ## The strict codec: a bijection between all arrays and their encodings -/

namespace Codec

variable {α : Type} [Encodable α] (c : Codec α)

/-- The encoding of any value, in whole words. -/
def encodeAligned (x : α) : Bytes :=
  if (c.enc x).length < wordBound then c.enc x
  else List.replicate (32 * (wordBound + Encodable.encode x)) 0

/-- What encodes to the input. -/
def decodeAligned (buf : Bytes) : Option α :=
  (if buf.length < wordBound then c.dec buf
    else Encodable.decode (buf.length / 32 - wordBound)).filter fun x => c.encodeAligned x = buf

/-- **What is decoded is exactly what is encoded**: different values have different encodings,
    and no other byte string is accepted. -/
theorem decodeAligned_eq_some_iff {buf : Bytes} {x : α} :
    c.decodeAligned buf = some x ↔ c.encodeAligned x = buf := by
  rw [decodeAligned, Option.filter_eq_some_iff, decide_eq_true_eq]
  refine ⟨And.right, fun h => ⟨?_, h⟩⟩
  subst h
  by_cases hlength : (c.enc x).length < wordBound
  · rw [encodeAligned, if_pos hlength, if_pos hlength]
    have hdec := c.dec_enc x [] fun _ => hlength
    rwa [List.append_nil] at hdec
  · rw [encodeAligned, if_neg hlength, List.length_replicate, if_neg (by omega),
      Nat.mul_div_cancel_left _ (by decide), Nat.add_sub_cancel_left]
    exact Encodable.encodek x

theorem dvd_length_encodeAligned (h : ∀ x, 32 ∣ (c.enc x).length) (x : α) :
    32 ∣ (c.encodeAligned x).length := by
  by_cases hlength : (c.enc x).length < wordBound
  · rw [encodeAligned, if_pos hlength]
    exact h x
  · rw [encodeAligned, if_neg hlength, List.length_replicate]
    exact Nat.dvd_mul_right 32 _

end Codec

/-- More than the byte strings together, whatever their size. -/
theorem length_flatten_lt_encodeAligned [Encodable UInt8] (xs : List Bytes) :
    xs.flatten.length < (byteArrays.encodeAligned xs).length := by
  by_cases hlength : (byteArrays.enc xs).length < wordBound
  · rw [Codec.encodeAligned, if_pos hlength]
    exact length_flatten_lt_enc xs
  · have hle := length_flatten_le_encode xs
    have hbound : 0 < wordBound := by decide
    rw [Codec.encodeAligned, if_neg hlength, List.length_replicate]
    omega

end Abi
