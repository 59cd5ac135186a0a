/-
  Byte strings: big-endian numbers and byte strings of a fixed width.

  1. **Numbers.** Every wire format read in this development (packed calldata, ABI words, gas fields
     cut to sixteen bytes) comes down to three facts about `toBe w n`, the `w` low big-endian bytes
     of `n`: reading it back gives `n` modulo `256 ^ w` (`ofBe_toBe`), every byte string is the
     encoding of its own value (`toBe_ofBe`), and dropping leading bytes keeps the low ones
     (`drop_toBe`).  Each is an induction on the width or on the bytes from the end.

  2. **Fixed widths.** `FixedBytes n` is the byte string that carries its own length, so a
     twenty-byte address or a thirty-two-byte word of another length cannot be built.  It is read
     off the front of a longer byte string with its length checked (`splitAt?`), and what follows it
     is the rest (`splitAt?_eq_some_iff`); `ofSlice?` takes a byte string of exactly that length.
-/
import Mathlib.Data.List.Basic
import Mathlib.Tactic.Ring

namespace ByteCodec

/-- A byte string. -/
abbrev Bytes := List UInt8

/-! ## Big-endian numbers -/

/-- The number a byte string denotes, most significant byte first. -/
def ofBe : Bytes → Nat
  | [] => 0
  | b :: bs => b.toNat * 256 ^ bs.length + ofBe bs

/-- The `w` low bytes of `n`, most significant byte first. -/
def toBe : Nat → Nat → Bytes
  | 0, _ => []
  | w + 1, n => UInt8.ofNat (n / 256 ^ w) :: toBe w n

@[simp] theorem length_toBe (w n : Nat) : (toBe w n).length = w := by
  induction w with
  | zero => rfl
  | succ w ih => rw [toBe, List.length_cons, ih]

theorem ofBe_lt (bs : Bytes) : ofBe bs < 256 ^ bs.length := by
  induction bs with
  | nil => decide
  | cons b bs ih =>
    have hb : b.toNat + 1 ≤ 256 := b.toNat_lt
    calc ofBe (b :: bs) < b.toNat * 256 ^ bs.length + 256 ^ bs.length :=
          Nat.add_lt_add_left ih _
      _ = (b.toNat + 1) * 256 ^ bs.length := by ring
      _ ≤ 256 * 256 ^ bs.length := Nat.mul_le_mul_right _ hb
      _ = 256 ^ (b :: bs).length := by rw [List.length_cons, Nat.pow_succ, Nat.mul_comm]

/-- **Reading back an encoding** keeps the number modulo the width. A number that fits the width
    is read back as it is. -/
theorem ofBe_toBe (w n : Nat) : ofBe (toBe w n) = n % 256 ^ w := by
  induction w with
  | zero => rw [Nat.pow_zero, Nat.mod_one]; rfl
  | succ w ih =>
    have hbyte : (UInt8.ofNat (n / 256 ^ w)).toNat = n / 256 ^ w % 256 := UInt8.toNat_ofNat'
    rw [toBe, ofBe, length_toBe, ih, hbyte, Nat.mod_pow_succ]
    ring

theorem ofBe_toBe_of_lt {w n : Nat} (h : n < 256 ^ w) : ofBe (toBe w n) = n := by
  rw [ofBe_toBe, Nat.mod_eq_of_lt h]

/-- The encoding only looks at the number modulo the width. -/
theorem toBe_mod (w n : Nat) : toBe w (n % 256 ^ w) = toBe w n := by
  suffices h : ∀ v, v ≤ w → toBe v (n % 256 ^ w) = toBe v n from h w (Nat.le_refl w)
  intro v
  induction v with
  | zero => intro _; rfl
  | succ v ih =>
    intro hv
    have hsplit : 256 ^ w = 256 ^ v * 256 ^ (w - v) := by
      rw [← Nat.pow_add]; congr 1; omega
    have hpow : 256 ^ (w - v) = 256 * 256 ^ (w - v - 1) := by
      rw [← Nat.pow_succ']; congr 1; omega
    -- the byte at position `v` survives, since `v < w`
    have hbyte : UInt8.ofNat (n % 256 ^ w / 256 ^ v) = UInt8.ofNat (n / 256 ^ v) := by
      apply UInt8.toNat_inj.mp
      rw [UInt8.toNat_ofNat', UInt8.toNat_ofNat', hsplit, Nat.mod_mul_right_div_self, hpow]
      exact Nat.mod_mul_right_mod _ 256 _
    rw [toBe, toBe, hbyte, ih (by omega)]

/-- **Every byte string is the encoding of its own value** at its own length, leading zeros
    included. -/
theorem toBe_ofBe (bs : Bytes) : toBe bs.length (ofBe bs) = bs := by
  induction bs with
  | nil => rfl
  | cons b bs ih =>
    have hpos : 0 < 256 ^ bs.length := Nat.pow_pos (by decide)
    have hhead : UInt8.ofNat (ofBe (b :: bs) / 256 ^ bs.length) = b := by
      rw [ofBe, Nat.mul_comm, Nat.mul_add_div hpos, Nat.div_eq_of_lt (ofBe_lt bs), Nat.add_zero]
      exact UInt8.ofNat_toNat
    have htail : toBe bs.length (ofBe (b :: bs)) = bs := by
      rw [← toBe_mod, ofBe, Nat.mul_comm, Nat.mul_add_mod, Nat.mod_eq_of_lt (ofBe_lt bs), ih]
    rw [List.length_cons, toBe, hhead, htail]

/-- Dropping the leading bytes of an encoding keeps the low ones. -/
theorem drop_toBe (k w n : Nat) : (toBe (k + w) n).drop k = toBe w n := by
  induction k with
  | zero => rw [Nat.zero_add, List.drop_zero]
  | succ k ih => rw [Nat.succ_add, toBe, List.drop_succ_cons, ih]

/-! ## Byte strings of a fixed width -/

/-- Exactly `n` bytes. The length is a field, so no operation has to check it again. -/
structure FixedBytes (n : Nat) where
  bytes : Bytes
  length_eq : bytes.length = n
  deriving DecidableEq

namespace FixedBytes

variable {n : Nat}

@[ext] theorem ext {a b : FixedBytes n} (h : a.bytes = b.bytes) : a = b := by
  cases a; cases b; cases h; rfl

@[simp] theorem length_bytes (a : FixedBytes n) : a.bytes.length = n := a.length_eq

/-- The `n` low big-endian bytes of a number. -/
def ofNat (n x : Nat) : FixedBytes n := ⟨toBe n x, length_toBe n x⟩

/-- The number the bytes denote. -/
def toNat (a : FixedBytes n) : Nat := ofBe a.bytes

/-- Read off exactly `n` bytes; any other length is refused. -/
def ofSlice? (n : Nat) (bs : Bytes) : Option (FixedBytes n) :=
  if h : bs.length = n then some ⟨bs, h⟩ else none

@[simp] theorem ofSlice?_bytes (a : FixedBytes n) : ofSlice? n a.bytes = some a := by
  rw [ofSlice?, dif_pos a.length_eq]

/-- The first `n` bytes of a byte string that has at least that many. -/
def front (n : Nat) (bs : Bytes) (h : n ≤ bs.length) : FixedBytes n :=
  ⟨bs.take n, by rw [List.length_take, Nat.min_eq_left h]⟩

@[simp] theorem front_append (a : FixedBytes n) (bs : Bytes) (h : n ≤ (a.bytes ++ bs).length) :
    front n (a.bytes ++ bs) h = a := by
  apply ext
  show (a.bytes ++ bs).take n = a.bytes
  exact List.take_left' a.length_eq

@[simp] theorem drop_bytes_append (a : FixedBytes n) (bs : Bytes) : (a.bytes ++ bs).drop n = bs :=
  List.drop_left' a.length_eq

/-- `split_at_checked`: the first `n` bytes and the rest, if there are that many. -/
def splitAt? (n : Nat) (bs : Bytes) : Option (FixedBytes n × Bytes) :=
  if h : n ≤ bs.length then some (front n bs h, bs.drop n) else none

@[simp] theorem splitAt?_append (a : FixedBytes n) (bs : Bytes) :
    splitAt? n (a.bytes ++ bs) = some (a, bs) := by
  have h : n ≤ (a.bytes ++ bs).length := by rw [List.length_append, a.length_eq]; omega
  rw [splitAt?, dif_pos h, front_append, drop_bytes_append]

/-- What was split off is the front of the byte string. -/
theorem splitAt?_eq_some_iff {bs rest : Bytes} {a : FixedBytes n} :
    splitAt? n bs = some (a, rest) ↔ bs = a.bytes ++ rest := by
  constructor
  · intro h
    unfold splitAt? at h
    split at h
    · obtain ⟨rfl, rfl⟩ := Prod.mk.inj (Option.some.inj h)
      exact (List.take_append_drop n bs).symm
    · cases h
  · rintro rfl
    exact splitAt?_append a rest

end FixedBytes

end ByteCodec
