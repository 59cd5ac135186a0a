/-
  The contract ABI: a head/tail codec built from combinators, with its round trip.

  A value of an ABI type is laid out in a FRAME.  Its head sits at a fixed position of the frame;
  a dynamic value keeps only the offset of its content there, and the content follows after all
  the heads.  Two structures carry the two roles:

  * `Codec α` encodes one type on its own (`enc`) and reads it off the front of a buffer (`dec`);
    its law `dec_enc` says that whatever follows the encoding is ignored;
  * `Seq α` lays out a sequence of components in a frame: `heads t x` (given that its contents
    start at offset `t`), `tails x`, and `read frame pos`.  Its law `read_spec` needs the heads at
    `pos` and the contents at `t` and nothing else about the frame, which is what lets two
    sequences share one (`Seq.pair`) and a sequence repeat (`Codec.array`).

  `Seq.item` turns a codec into a one-component sequence, `Codec.tuple` closes a sequence into a
  codec, and `word`-sized types, `bytes`, arrays and tuples are all there is.  Lengths and offsets
  are one word each, so the laws of dynamic types ask for encodings shorter than `256 ^ 32`;
  `Codec.encodeAny` / `Codec.decodeAny` extend a codec past that bound to every value.
-/
import BlockchainApi.Lib.Bytes
import Mathlib.Logic.Encodable.Basic

namespace Abi

open ByteCodec

/-- What one word can hold: every offset and every length lies below it. -/
def wordBound : Nat := 256 ^ 32

/-! ## Words -/

/-- One ABI word: thirty-two big-endian bytes. -/
def word (n : Nat) : Bytes := toBe 32 n

/-- Read the word at the front of a buffer. -/
def readWord (buf : Bytes) : Option Nat :=
  if 32 ≤ buf.length then some (ofBe (buf.take 32)) else none

@[simp] theorem length_word (n : Nat) : (word n).length = 32 := length_toBe 32 n

theorem readWord_word {n : Nat} (h : n < wordBound) (rest : Bytes) :
    readWord (word n ++ rest) = some n := by
  have hlen : 32 ≤ (word n ++ rest).length := by rw [List.length_append, length_word]; omega
  have htake : (word n ++ rest).take 32 = word n :=
    List.take_left' (length_word n)
  rw [readWord, if_pos hlen, htake, word, ofBe_toBe_of_lt h]

theorem drop_word_append (n : Nat) (rest : Bytes) : (word n ++ rest).drop 32 = rest :=
  List.drop_left' (length_word n)

/-! ## Codecs of single types -/

/-- The codec of one ABI type. -/
structure Codec (α : Type) where
  /-- Does the type keep its content in the tail of the frame? -/
  dynamic : Bool
  /-- Bytes of a static value; not used when `dynamic`. -/
  size : Nat
  /-- The encoding proper. -/
  enc : α → Bytes
  /-- Read a value off the front of a buffer. -/
  dec : Bytes → Option α
  length_enc : dynamic = false → ∀ x, (enc x).length = size
  /-- **Round trip**, with anything following the encoding. -/
  dec_enc : ∀ x rest, (dynamic = true → (enc x).length < wordBound) → dec (enc x ++ rest) = some x

namespace Codec

variable {α β : Type}

/-- A type whose values are the numbers `f x`, one word each (`uintN`, `address`, `bool`). -/
def ofWord (f : α → Nat) (g : Nat → Option α) (hf : ∀ x, f x < wordBound)
    (hg : ∀ x, g (f x) = some x) : Codec α where
  dynamic := false
  size := 32
  enc x := word (f x)
  dec buf := (readWord buf).bind g
  length_enc _ x := length_word (f x)
  dec_enc x rest _ := by rw [readWord_word (hf x), Option.bind_some, hg]

/-- `uintN` for `N ≤ 256`. -/
def uint (w : Nat) (hw : w ≤ 256) : Codec (BitVec w) :=
  ofWord BitVec.toNat (fun n => if n < 2 ^ w then some (BitVec.ofNat w n) else none)
    (fun x => Nat.lt_of_lt_of_le x.isLt
      (Nat.le_trans (Nat.pow_le_pow_right (by decide) hw) (by decide)))
    (fun x => by rw [if_pos x.isLt, BitVec.ofNat_toNat, BitVec.setWidth_eq])

/-- `uint256`. -/
def uint256 : Codec (BitVec 256) := uint 256 (Nat.le_refl _)

/-- `bool`. -/
def bool : Codec Bool :=
  ofWord Bool.toNat (fun n => if n = 0 then some false else if n = 1 then some true else none)
    (fun x => by cases x <;> decide) (fun x => by cases x <;> decide)

/-- `address`: twenty bytes, padded on the left. -/
def address : Codec (FixedBytes 20) :=
  ofWord FixedBytes.toNat (fun n => if n < 256 ^ 20 then some (FixedBytes.ofNat 20 n) else none)
    (fun x => Nat.lt_trans (by have h := ofBe_lt x.bytes; rwa [x.length_eq] at h) (by decide))
    (fun x => by
      have hlt : x.toNat < 256 ^ 20 := by have h := ofBe_lt x.bytes; rwa [x.length_eq] at h
      rw [if_pos hlt]
      congr 1
      apply FixedBytes.ext
      show toBe 20 (ofBe x.bytes) = x.bytes
      have h := toBe_ofBe x.bytes
      rwa [x.length_eq] at h)

/-- `bytesN` for `N ≤ 32`: padded on the right. -/
def fixedBytes (n : Nat) (hn : n ≤ 32) : Codec (FixedBytes n) where
  dynamic := false
  size := 32
  enc x := x.bytes ++ List.replicate (32 - n) 0
  dec buf :=
    if h : 32 ≤ buf.length then some (FixedBytes.front n buf (Nat.le_trans hn h)) else none
  length_enc _ x := by rw [List.length_append, x.length_eq, List.length_replicate]; omega
  dec_enc x rest _ := by
    have hlen : 32 ≤ ((x.bytes ++ List.replicate (32 - n) 0) ++ rest).length := by
      rw [List.length_append, List.length_append, x.length_eq, List.length_replicate]; omega
    rw [dif_pos hlen]
    congr 1
    apply FixedBytes.ext
    show ((x.bytes ++ List.replicate (32 - n) 0) ++ rest).take n = x.bytes
    rw [List.append_assoc, List.take_left' x.length_eq]

/-- `bytes32`. -/
def bytes32 : Codec (FixedBytes 32) := fixedBytes 32 (Nat.le_refl _)

/-- Zeros up to the next multiple of thirty-two. -/
def padding (n : Nat) : Bytes := List.replicate ((32 - n % 32) % 32) 0

/-- `bytes`: the length, the bytes, and padding. -/
def bytes : Codec Bytes where
  dynamic := true
  size := 0
  enc x := word x.length ++ (x ++ padding x.length)
  dec buf := (readWord buf).bind fun n =>
    if n ≤ (buf.drop 32).length then some ((buf.drop 32).take n) else none
  length_enc h := by cases h
  dec_enc x rest h := by
    have hlt : x.length < wordBound := by
      have := h rfl
      rw [List.length_append, List.length_append] at this
      omega
    rw [List.append_assoc, readWord_word hlt, Option.bind_some, drop_word_append, List.append_assoc,
      if_pos (by rw [List.length_append]; omega), List.take_left' rfl]

/-- Carry a codec along a representation: `f` rebuilds what `g` takes apart. -/
def imap (c : Codec α) (f : α → β) (g : β → α) (h : ∀ y, f (g y) = y) : Codec β where
  dynamic := c.dynamic
  size := c.size
  enc y := c.enc (g y)
  dec buf := (c.dec buf).map f
  length_enc hd y := c.length_enc hd (g y)
  dec_enc y rest hb := by rw [c.dec_enc (g y) rest hb, Option.map_some, h]

end Codec

/-! ## Sequences of components in a frame -/

/-- A sequence of components laid out in a frame. -/
structure Seq (α : Type) where
  dynamic : Bool
  /-- Bytes the heads take. -/
  headSize : Nat
  /-- The heads, when the contents of this sequence start at the given offset of the frame. -/
  heads : Nat → α → Bytes
  /-- The contents of the dynamic components, in order. -/
  tails : α → Bytes
  /-- Read the sequence whose heads start at the given position of the frame. -/
  read : Bytes → Nat → Option α
  length_heads : ∀ t x, (heads t x).length = headSize
  tails_static : dynamic = false → ∀ x, tails x = []
  /-- **Reading needs only the heads at `pos` and the contents at `t`.** -/
  read_spec : ∀ frame pos t x r₁ r₂, frame.drop pos = heads t x ++ r₁ →
    frame.drop t = tails x ++ r₂ → (dynamic = true → t + (tails x).length < wordBound) →
    read frame pos = some x

namespace Seq

variable {α β : Type}

/-- One component: the value itself, or the offset of its content. -/
def item (c : Codec α) : Seq α where
  dynamic := c.dynamic
  headSize := if c.dynamic then 32 else c.size
  heads t x := if c.dynamic then word t else c.enc x
  tails x := if c.dynamic then c.enc x else []
  read frame pos :=
    if c.dynamic then (readWord (frame.drop pos)).bind fun o => c.dec (frame.drop o)
    else c.dec (frame.drop pos)
  length_heads t x := by
    cases hd : c.dynamic with
    | false => exact c.length_enc hd x
    | true => exact length_word t
  tails_static hd x := by rw [hd]; rfl
  read_spec frame pos t x r₁ r₂ hh ht hb := by
    cases hd : c.dynamic with
    | false =>
      simp only [hd, Bool.false_eq_true, if_false] at hh ⊢
      rw [hh]
      exact c.dec_enc x r₁ (fun h => by rw [hd] at h; cases h)
    | true =>
      simp only [hd, if_true, forall_const] at hh ht hb ⊢
      have hto : t < wordBound := by omega
      have hlen : (c.enc x).length < wordBound := by omega
      rw [hh, readWord_word hto, Option.bind_some, ht]
      exact c.dec_enc x r₂ (fun _ => hlen)

/-- Two sequences in one frame: all heads first, then all contents. -/
def pair (a : Seq α) (b : Seq β) : Seq (α × β) where
  dynamic := a.dynamic || b.dynamic
  headSize := a.headSize + b.headSize
  heads t x := a.heads t x.1 ++ b.heads (t + (a.tails x.1).length) x.2
  tails x := a.tails x.1 ++ b.tails x.2
  read frame pos :=
    (a.read frame pos).bind fun x => (b.read frame (pos + a.headSize)).map fun y => (x, y)
  length_heads t x := by rw [List.length_append, a.length_heads, b.length_heads]
  tails_static hd x := by
    rw [Bool.or_eq_false_iff] at hd
    rw [a.tails_static hd.1, b.tails_static hd.2, List.append_nil]
  read_spec frame pos t x r₁ r₂ hh ht hb := by
    rw [List.append_assoc] at hh ht
    rw [List.length_append, Bool.or_eq_true] at hb
    -- the second heads follow the first, the second contents follow the first
    have hh₂ : frame.drop (pos + a.headSize)
        = b.heads (t + (a.tails x.1).length) x.2 ++ r₁ := by
      rw [← List.drop_drop, hh, List.drop_left' (a.length_heads t x.1)]
    have ht₂ : frame.drop (t + (a.tails x.1).length) = b.tails x.2 ++ r₂ := by
      rw [← List.drop_drop, ht, List.drop_left]
    have ha := a.read_spec frame pos t x.1 _ _ hh ht
      (fun hd => by have := hb (Or.inl hd); omega)
    have hb' := b.read_spec frame _ _ x.2 _ _ hh₂ ht₂
      (fun hd => by have := hb (Or.inr hd); omega)
    rw [ha, Option.bind_some, hb']
    rfl

/-- Carry a sequence along a representation. -/
def imap (s : Seq α) (f : α → β) (g : β → α) (h : ∀ y, f (g y) = y) : Seq β where
  dynamic := s.dynamic
  headSize := s.headSize
  heads t y := s.heads t (g y)
  tails y := s.tails (g y)
  read frame pos := (s.read frame pos).map f
  length_heads t y := s.length_heads t (g y)
  tails_static hd y := s.tails_static hd (g y)
  read_spec frame pos t y r₁ r₂ hh ht hb := by
    rw [s.read_spec frame pos t (g y) r₁ r₂ hh ht hb, Option.map_some, h]

/-! ### A sequence repeated -/

variable (s : Seq α)

/-- The heads of a list of elements whose contents start at the given offset. -/
def headsMany : Nat → List α → Bytes
  | _, [] => []
  | t, x :: xs => s.heads t x ++ headsMany (t + (s.tails x).length) xs

/-- The contents of a list of elements. -/
def tailsMany : List α → Bytes
  | [] => []
  | x :: xs => s.tails x ++ tailsMany xs

/-- Read that many elements. -/
def readMany (frame : Bytes) : Nat → Nat → Option (List α)
  | 0, _ => some []
  | n + 1, pos =>
    (s.read frame pos).bind fun x => (readMany frame n (pos + s.headSize)).map fun xs => x :: xs

theorem length_headsMany (xs : List α) :
    ∀ t, (s.headsMany t xs).length = xs.length * s.headSize := by
  induction xs with
  | nil => intro t; rw [headsMany, List.length_nil, List.length_nil, Nat.zero_mul]
  | cons x xs ih =>
    intro t
    rw [headsMany, List.length_append, s.length_heads, ih, List.length_cons, Nat.succ_mul,
      Nat.add_comm]

/-- `read_spec`, element by element: induction on the list, the frame fixed. -/
theorem readMany_spec (frame : Bytes) : ∀ (xs : List α) (pos t : Nat) (r₁ r₂ : Bytes),
    frame.drop pos = s.headsMany t xs ++ r₁ → frame.drop t = s.tailsMany xs ++ r₂ →
    t + (s.tailsMany xs).length < wordBound → s.readMany frame xs.length pos = some xs := by
  intro xs
  induction xs with
  | nil => intros; rfl
  | cons x xs ih =>
    intro pos t r₁ r₂ hh ht hb
    rw [headsMany, List.append_assoc] at hh
    rw [tailsMany, List.append_assoc] at ht
    rw [tailsMany, List.length_append] at hb
    have hx := s.read_spec frame pos t x _ _ hh ht (fun _ => by omega)
    have hh' : frame.drop (pos + s.headSize)
        = s.headsMany (t + (s.tails x).length) xs ++ r₁ := by
      rw [← List.drop_drop, hh, List.drop_left' (s.length_heads t x)]
    have ht' : frame.drop (t + (s.tails x).length) = s.tailsMany xs ++ r₂ := by
      rw [← List.drop_drop, ht, List.drop_left]
    have hxs := ih _ _ _ _ hh' ht' (by omega)
    rw [List.length_cons, readMany, hx, Option.bind_some, hxs]
    rfl

end Seq

namespace Codec

variable {α : Type}

/-- A tuple: a frame of its own. -/
def tuple (s : Seq α) : Codec α where
  dynamic := s.dynamic
  size := s.headSize
  enc x := s.heads s.headSize x ++ s.tails x
  dec buf := s.read buf 0
  length_enc hd x := by
    rw [List.length_append, s.length_heads, s.tails_static hd, List.length_nil, Nat.add_zero]
  dec_enc x rest hb := by
    refine s.read_spec _ 0 s.headSize x (s.tails x ++ rest) rest ?_ ?_ ?_
    · rw [List.drop_zero, List.append_assoc]
    · rw [List.append_assoc, List.drop_left' (s.length_heads _ x)]
    · intro hd
      have := hb hd
      rwa [List.length_append, s.length_heads] at this

/-- A dynamic array: the number of elements, then a frame holding them. -/
def array (s : Seq α) (hs : 0 < s.headSize) : Codec (List α) where
  dynamic := true
  size := 0
  enc xs := word xs.length ++ (s.headsMany (xs.length * s.headSize) xs ++ s.tailsMany xs)
  dec buf := (readWord buf).bind fun n => s.readMany (buf.drop 32) n 0
  length_enc h := by cases h
  dec_enc xs rest h := by
    have hb := h rfl
    rw [List.length_append, List.length_append, s.length_headsMany, length_word] at hb
    have hcount : xs.length ≤ xs.length * s.headSize := Nat.le_mul_of_pos_right _ hs
    rw [List.append_assoc, readWord_word (by omega), Option.bind_some, drop_word_append]
    refine s.readMany_spec _ xs 0 (xs.length * s.headSize) (s.tailsMany xs ++ rest) rest ?_ ?_ ?_
    · rw [List.drop_zero, List.append_assoc]
    · rw [List.append_assoc, List.drop_left' (s.length_headsMany xs _)]
    · omega

/-- `bytes[]`. -/
def bytesArray : Codec (List Bytes) := array (Seq.item bytes) (by decide)

/-! ## Strict decoding, and every value whatever its size -/

variable (c : Codec α)

/-- Strict decoding: what was read must encode to the whole input again. -/
def strict (buf : Bytes) : Option α :=
  (c.dec buf).filter fun x => c.enc x = buf

theorem strict_enc (x : α) (h : (c.enc x).length < wordBound) : c.strict (c.enc x) = some x := by
  have hdec := c.dec_enc x [] (fun _ => h)
  rw [List.append_nil] at hdec
  rw [strict, hdec, Option.filter_some, if_pos (decide_eq_true rfl)]

variable [Encodable α]

/-- The encoding of any value: past the bound of a word the layout above has no meaning, and a
    run of zeros as long as the bound plus the value's index stands in for it. -/
def encodeAny (x : α) : Bytes :=
  if (c.enc x).length < wordBound then c.enc x
  else List.replicate (wordBound + Encodable.encode x) 0

/-- Strict decoding of any byte string written by `encodeAny`. -/
def decodeAny (buf : Bytes) : Option α :=
  if buf.length < wordBound then c.strict buf else Encodable.decode (buf.length - wordBound)

theorem decodeAny_encodeAny (x : α) : c.decodeAny (c.encodeAny x) = some x := by
  by_cases h : (c.enc x).length < wordBound
  · rw [encodeAny, if_pos h, decodeAny, if_pos h, c.strict_enc x h]
  · rw [encodeAny, if_neg h, decodeAny, List.length_replicate, if_neg (by omega),
      Nat.add_sub_cancel_left, Encodable.encodek]

end Codec

end Abi
