/-
  Cyclic redundancy checks of sixteen bits, most significant bit first.

  A remainder moves up one place at a time, and the polynomial is subtracted whenever a bit falls
  off (`shift`).  A byte enters at the top, and eight shifts follow (`update`).  The polynomial is a
  parameter throughout.

  1. **Residue.** Behind its own remainder a message has remainder zero (`crc_append_toBe`), which
     is what a receiver checks: the two bytes cancel the upper and the lower half of the remainder.

  2. **Bit by bit.** A message is its bits, one after the other (`crc_eq_foldl_step`).  Up to
     sixteen of them go in like one number (`foldl_step`): moving is linear as far as nothing falls
     off (`shift_xor`), so a whole word can be put in at the top before it is moved through.

  3. **Bursts.** If the polynomial is odd nothing is lost on the way (`shift_injective`): what falls
     off shows in the lowest bit.  So two words of at most sixteen bits leave different remainders,
     bits that follow do not take the difference away, and messages that differ within a window of
     sixteen bits, wherever it starts, have different remainders (`crc_ne_of_differsWithin`).
-/
import BlockchainApi.Lib.Bytes

namespace Crc16

open ByteCodec

variable {poly c : BitVec 16}

/-- One place up. -/
def shift (poly c : BitVec 16) : BitVec 16 := if c.msb then (c <<< 1) ^^^ poly else c <<< 1

/-- So many places up. -/
def shifts (poly : BitVec 16) : Nat → BitVec 16 → BitVec 16
  | 0, c => c
  | n + 1, c => shifts poly n (shift poly c)

/-- A byte of the message. -/
def update (poly c : BitVec 16) (b : UInt8) : BitVec 16 :=
  shifts poly 8 (c ^^^ (BitVec.ofNat 16 b.toNat <<< 8))

/-- The remainder of a message. -/
def crc (poly : BitVec 16) (data : Bytes) : BitVec 16 := data.foldl (update poly) 0

theorem crc_append (poly : BitVec 16) (data more : Bytes) :
    crc poly (data ++ more) = more.foldl (update poly) (crc poly data) :=
  List.foldl_append

/-- Where no bit falls off, a remainder is only moved. -/
theorem shifts_of_lt (n : Nat) : ∀ {c : BitVec 16}, c.toNat * 2 ^ n < 2 ^ 16 →
    (shifts poly n c).toNat = c.toNat * 2 ^ n := by
  induction n with
  | zero =>
    intro c _
    rw [shifts, Nat.pow_zero, Nat.mul_one]
  | succ n ih =>
    intro c hlt
    have hpow : c.toNat * 2 ^ (n + 1) = c.toNat * 2 * 2 ^ n := by
      rw [Nat.pow_succ', Nat.mul_assoc]
    have hdouble : c.toNat * 2 < 2 ^ 16 :=
      Nat.lt_of_le_of_lt (Nat.le_mul_of_pos_right _ (Nat.two_pow_pos n)) (hpow ▸ hlt)
    have hmsb : c.msb = false := by
      rw [BitVec.msb_eq_false_iff_two_mul_lt]
      omega
    have hshift : (shift poly c).toNat = c.toNat * 2 := by
      rw [shift, hmsb, if_neg Bool.false_ne_true, BitVec.toNat_shiftLeft, Nat.shiftLeft_eq,
        Nat.pow_one, Nat.mod_eq_of_lt hdouble]
    rw [shifts, ih (by rw [hshift, ← hpow]; exact hlt), hshift, hpow]

/-- Subtracting the upper byte leaves the lower one. -/
theorem toNat_xor_upper (c : BitVec 16) :
    (c ^^^ (BitVec.ofNat 16 (c.toNat / 256) <<< 8)).toNat = c.toNat % 256 := by
  have hlower : c ^^^ (BitVec.ofNat 16 (c.toNat / 256) <<< 8) = c &&& 255#16 := by
    have hupper : BitVec.ofNat 16 (c.toNat / 256) = c >>> 8 := by
      apply BitVec.eq_of_toNat_eq
      rw [BitVec.toNat_ofNat, BitVec.toNat_ushiftRight, Nat.shiftRight_eq_div_pow]
      exact Nat.mod_eq_of_lt (Nat.lt_of_le_of_lt (Nat.div_le_self _ _) c.isLt)
    rw [hupper]
    ext i hi
    have hmask : (255#16)[i] = decide (i < 8) := by
      rw [← BitVec.getLsbD_eq_getElem hi, BitVec.getLsbD_ofNat, decide_eq_true hi, Bool.true_and]
      exact Nat.testBit_two_pow_sub_one 8 i
    rw [BitVec.getElem_xor, BitVec.getElem_and, hmask, BitVec.getElem_shiftLeft]
    by_cases hlow : i < 8
    · simp [hlow]
    · have hback : 8 + (i - 8) = i := by omega
      simp [hlow, hback, BitVec.getLsbD_eq_getElem hi]
  rw [hlower, BitVec.toNat_and]
  exact Nat.and_two_pow_sub_one_eq_mod c.toNat 8

/-- **A message with its remainder behind it** has remainder zero: after the first byte of the
    remainder only its lower half is left at the top, and the second one cancels that. -/
theorem crc_append_toBe (poly : BitVec 16) (data : Bytes) :
    crc poly (data ++ toBe 2 (crc poly data).toNat) = 0 := by
  rw [crc_append]
  generalize crc poly data = c
  have hc : c.toNat < 2 ^ 16 := c.isLt
  have hupper : (UInt8.ofNat (c.toNat / 256 ^ 1)).toNat = c.toNat / 256 := by
    rw [UInt8.toNat_ofNat', Nat.pow_one]
    omega
  have hlower : (UInt8.ofNat (c.toNat / 256 ^ 0)).toNat = c.toNat % 256 := by
    rw [UInt8.toNat_ofNat', Nat.pow_zero, Nat.div_one]
  -- the first byte takes the upper half away, and moves the lower one into its place
  have hmoved : update poly c (UInt8.ofNat (c.toNat / 256 ^ 1)) =
      BitVec.ofNat 16 (c.toNat % 256) <<< 8 := by
    apply BitVec.eq_of_toNat_eq
    rw [update, hupper, shifts_of_lt 8 (by rw [toNat_xor_upper]; omega), toNat_xor_upper,
      BitVec.toNat_shiftLeft, BitVec.toNat_ofNat, Nat.shiftLeft_eq]
    omega
  have hzero : shifts poly 8 0 = 0 := BitVec.eq_of_toNat_eq (shifts_of_lt 8 (by decide))
  rw [toBe, toBe, toBe, List.foldl_cons, List.foldl_cons, List.foldl_nil, hmoved, update, hlower,
    BitVec.xor_self]
  exact hzero

/-! ## Bit by bit: a byte is eight steps, and a word is one number -/

/-- A bit at the top of the remainder. -/
def topBit (bit : Bool) : BitVec 16 := if bit then 0x8000 else 0

/-- A bit of the message. -/
def step (poly c : BitVec 16) (bit : Bool) : BitVec 16 := shift poly (c ^^^ topBit bit)

/-- Bits at the top of the remainder, the first one highest. -/
def top : List Bool → BitVec 16
  | [] => 0
  | bit :: word => topBit bit ^^^ (top word >>> 1)

/-- The bits of a byte, the highest one first. -/
def byteBits (b : UInt8) : List Bool := (List.range 8).map fun i => b.toNat.testBit (7 - i)

/-- The bits of a message. -/
def bits (data : Bytes) : List Bool := data.flatMap byteBits

/-- **The step is linear**, as far as nothing falls off. -/
theorem shift_xor (a : BitVec 16) {b : BitVec 16} (hb : b.msb = false) :
    shift poly (a ^^^ b) = shift poly a ^^^ (b <<< 1) := by
  rw [shift, shift, BitVec.msb_xor, hb, Bool.xor_false, BitVec.shiftLeft_xor_distrib]
  cases a.msb with
  | false => rfl
  | true =>
    rw [if_pos rfl, if_pos rfl, BitVec.xor_assoc, BitVec.xor_comm (b <<< 1), ← BitVec.xor_assoc]

theorem getLsbD_topBit (bit : Bool) (i : Nat) :
    (topBit bit).getLsbD i = (decide (i = 15) && bit) := by
  have hsixteen : ∀ j < 16, (0x8000#16).getLsbD j = decide (j = 15) := by decide
  rw [topBit]
  cases bit with
  | false => simp
  | true =>
    rw [if_pos rfl, Bool.and_true]
    by_cases hi : i < 16
    · exact hsixteen i hi
    · rw [BitVec.getLsbD_of_ge _ _ (by omega), eq_comm, decide_eq_false_iff_not]
      omega

theorem getLsbD_top (word : List Bool) (i : Nat) (hi : i < 16) :
    (top word).getLsbD i = word[15 - i]?.getD false := by
  induction word generalizing i with
  | nil => simp [top]
  | cons bit word ih =>
    rw [top, BitVec.getLsbD_xor, getLsbD_topBit, BitVec.getLsbD_ushiftRight]
    by_cases hlast : i = 15
    · subst hlast
      rw [BitVec.getLsbD_of_ge _ _ (by decide)]
      simp
    · have hindex : 15 - i = (15 - (1 + i)) + 1 := by omega
      rw [ih _ (by omega), decide_eq_false hlast, Bool.false_and, Bool.false_xor, hindex,
        List.getElem?_cons_succ]

/-- Words of one length that stand alike at the top are the same. -/
theorem top_inj {word word' : List Bool} (hle : word.length ≤ 16)
    (hlength : word.length = word'.length) (h : top word = top word') : word = word' := by
  refine List.ext_getElem hlength fun i hi hi' => ?_
  have hbit : (top word).getLsbD (15 - i) = (top word').getLsbD (15 - i) := by rw [h]
  have hindex : 15 - (15 - i) = i := by omega
  rw [getLsbD_top _ _ (by omega), getLsbD_top _ _ (by omega), hindex,
    List.getElem?_eq_getElem hi, List.getElem?_eq_getElem hi'] at hbit
  exact hbit

/-- What moved down comes up again, if there was room below. -/
theorem top_ushiftRight_shiftLeft {word : List Bool} (hle : word.length ≤ 15) :
    top word >>> 1 <<< 1 = top word := by
  apply BitVec.eq_of_getLsbD_eq
  intro i hi
  rw [BitVec.getLsbD_shiftLeft, BitVec.getLsbD_ushiftRight]
  cases i with
  | zero =>
    have hlow : (top word).getLsbD 0 = false := by
      rw [getLsbD_top _ _ hi, List.getElem?_eq_none hle]
      rfl
    rw [hlow]
    simp
  | succ i =>
    have hback : 1 + (i + 1 - 1) = i + 1 := by omega
    rw [hback]
    simp [hi]

/-- **A word** is read like one number: it goes in at the top, and all of it is moved through.
    Induction on the bits from the end, as long as there is room. -/
theorem foldl_step {word : List Bool} (hle : word.length ≤ 16) :
    word.foldl (step poly) c = shifts poly word.length (c ^^^ top word) := by
  induction word generalizing c with
  | nil => simp [shifts, top]
  | cons bit word ih =>
    have hlower : word.length ≤ 15 := Nat.le_of_succ_le_succ hle
    have hmsb : (top word >>> 1).msb = false := by simp
    rw [List.foldl_cons, ih (Nat.le_succ_of_le hlower), List.length_cons, shifts, top,
      ← BitVec.xor_assoc, shift_xor _ hmsb, top_ushiftRight_shiftLeft hlower, step]

theorem length_byteBits (b : UInt8) : (byteBits b).length = 8 := by
  rw [byteBits, List.length_map, List.length_range]

theorem top_byteBits (b : UInt8) : top (byteBits b) = BitVec.ofNat 16 b.toNat <<< 8 := by
  have hall : ∀ n < 256, top (byteBits (UInt8.ofNat n)) = BitVec.ofNat 16 n <<< 8 := by
    decide +kernel
  have hb := hall b.toNat b.toNat_lt
  rwa [UInt8.ofNat_toNat] at hb

/-- A byte is its bits, one after the other. -/
theorem update_eq_foldl_step (b : UInt8) : update poly c b = (byteBits b).foldl (step poly) c := by
  rw [foldl_step (by rw [length_byteBits]; decide), length_byteBits, top_byteBits, update]

theorem crc_eq_foldl_step (data : Bytes) : crc poly data = (bits data).foldl (step poly) 0 := by
  rw [crc, bits]
  generalize (0 : BitVec 16) = c
  induction data generalizing c with
  | nil => rfl
  | cons b data ih => rw [List.foldl_cons, ih, List.flatMap_cons, List.foldl_append,
      update_eq_foldl_step]

/-! ## Bursts: a difference within sixteen bits is never lost -/

/-- Nothing is lost when a remainder moves, if the polynomial is odd: what falls off shows in its
    lowest bit, which is zero otherwise. -/
theorem shift_injective (hodd : poly.getLsbD 0 = true) : Function.Injective (shift poly) := by
  intro a b h
  have hlow : ∀ c : BitVec 16, (shift poly c).getLsbD 0 = c.msb := by
    intro c
    rw [shift]
    cases c.msb with
    | false => simp
    | true => simp [hodd]
  have hmsb : a.msb = b.msb := by rw [← hlow, ← hlow, h]
  have hmoved : a <<< 1 = b <<< 1 := by
    rw [shift, shift, hmsb] at h
    cases hb : b.msb with
    | false => simpa [hb] using h
    | true => simpa [hb, BitVec.xor_left_inj] using h
  rw [BitVec.msb_eq_decide, BitVec.msb_eq_decide, decide_eq_decide] at hmsb
  have hdouble := congrArg BitVec.toNat hmoved
  rw [BitVec.toNat_shiftLeft, BitVec.toNat_shiftLeft, Nat.shiftLeft_eq, Nat.shiftLeft_eq] at hdouble
  apply BitVec.eq_of_toNat_eq
  have ha := a.isLt
  have hb := b.isLt
  omega

theorem shifts_injective (hodd : poly.getLsbD 0 = true) (n : Nat) :
    Function.Injective (shifts poly n) := by
  induction n with
  | zero => exact fun a b h => h
  | succ n ih => exact fun a b h => shift_injective hodd (ih h)

theorem step_injective (hodd : poly.getLsbD 0 = true) (bit : Bool) :
    Function.Injective fun c => step poly c bit :=
  fun _ _ h => (BitVec.xor_left_inj _).mp (shift_injective hodd h)

/-- What follows a difference does not take it away. -/
theorem foldl_step_injective (hodd : poly.getLsbD 0 = true) (word : List Bool) :
    Function.Injective fun c => word.foldl (step poly) c := by
  induction word with
  | nil => exact fun a b h => h
  | cons bit word ih => exact fun a b h => step_injective hodd bit (ih h)

/-- Two words of one length, at most sixteen bits, leave different remainders behind. Their
    exclusive or with one remainder differs at the top, and moving loses nothing. -/
theorem foldl_step_word_injective (hodd : poly.getLsbD 0 = true) {word word' : List Bool}
    (hle : word.length ≤ 16) (hlength : word.length = word'.length)
    (h : word.foldl (step poly) c = word'.foldl (step poly) c) : word = word' := by
  rw [foldl_step hle, foldl_step (hlength ▸ hle), ← hlength] at h
  exact top_inj hle hlength ((BitVec.xor_right_inj _).mp (shifts_injective hodd _ h))

theorem length_bits (data : Bytes) : (bits data).length = 8 * data.length := by
  induction data with
  | nil => rfl
  | cons b data ih =>
    rw [bits, List.flatMap_cons, List.length_append, length_byteBits, ← bits, ih, List.length_cons]
    omega

theorem byteBits_injective : Function.Injective byteBits := by
  intro b b' h
  have hword : BitVec.ofNat 16 b.toNat <<< 8 = BitVec.ofNat 16 b'.toNat <<< 8 := by
    rw [← top_byteBits, ← top_byteBits, h]
  have hmoved := congrArg BitVec.toNat hword
  rw [BitVec.toNat_shiftLeft, BitVec.toNat_shiftLeft, Nat.shiftLeft_eq, Nat.shiftLeft_eq,
    BitVec.toNat_ofNat, BitVec.toNat_ofNat] at hmoved
  have hb := b.toNat_lt
  have hb' := b'.toNat_lt
  exact UInt8.toNat_inj.mp (by omega)

/-- A message is known by its bits. -/
theorem bits_injective : Function.Injective bits := by
  intro data
  induction data with
  | nil =>
    intro data' h
    have hlength := congrArg List.length h
    rw [length_bits, length_bits, List.length_nil] at hlength
    exact (List.eq_nil_of_length_eq_zero (by omega)).symm
  | cons b data ih =>
    intro data' h
    cases data' with
    | nil =>
      have hlength := congrArg List.length h
      rw [length_bits, length_bits, List.length_nil, List.length_cons] at hlength
      omega
    | cons b' data' =>
      rw [bits, bits, List.flatMap_cons, List.flatMap_cons] at h
      obtain ⟨hbyte, hrest⟩ := List.append_inj h (by rw [length_byteBits, length_byteBits])
      rw [byteBits_injective hbyte, ih hrest]

/-- The two differ in no bit outside of a window. -/
def DiffersWithin (start width : Nat) (data data' : Bytes) : Prop :=
  ∀ i : Nat, (bits data)[i]? ≠ (bits data')[i]? → start ≤ i ∧ i < start + width

/-- **Bursts are found.** Two messages of one length that differ in no bit outside of a window of
    sixteen have different remainders, if the polynomial is odd. In front of the window the
    remainders are the same, in it they part, and behind it they stay apart. -/
theorem crc_ne_of_differsWithin (hodd : poly.getLsbD 0 = true) {data data' : Bytes} {start : Nat}
    (hlength : data.length = data'.length) (hne : data ≠ data')
    (hwindow : DiffersWithin start 16 data data') : crc poly data ≠ crc poly data' := by
  intro hcrc
  refine hne (bits_injective ?_)
  have hbits : (bits data).length = (bits data').length := by
    rw [length_bits, length_bits, hlength]
  -- in front of the window, in it, and behind it
  have hfront : (bits data).take start = (bits data').take start := by
    refine List.ext_getElem? fun i => ?_
    rw [List.getElem?_take, List.getElem?_take]
    split
    · by_contra hdiffer
      have := hwindow i hdiffer
      omega
    · rfl
  have hbehind : ((bits data).drop start).drop 16 = ((bits data').drop start).drop 16 := by
    refine List.ext_getElem? fun i => ?_
    rw [List.getElem?_drop, List.getElem?_drop, List.getElem?_drop, List.getElem?_drop]
    by_contra hdiffer
    have := hwindow _ hdiffer
    omega
  have hsplit : ∀ l : List Bool,
      l = l.take start ++ ((l.drop start).take 16 ++ (l.drop start).drop 16) := by
    intro l
    rw [List.take_append_drop, List.take_append_drop]
  have hword : ((bits data).drop start).take 16 = ((bits data').drop start).take 16 := by
    rw [crc_eq_foldl_step, crc_eq_foldl_step, hsplit (bits data), hsplit (bits data'), hfront,
      hbehind, List.foldl_append, List.foldl_append, List.foldl_append, List.foldl_append] at hcrc
    refine foldl_step_word_injective hodd (List.length_take_le ..) ?_
      (foldl_step_injective hodd _ hcrc)
    rw [List.length_take, List.length_take, List.length_drop, List.length_drop, hbits]
  rw [hsplit (bits data), hsplit (bits data'), hfront, hword, hbehind]

end Crc16
