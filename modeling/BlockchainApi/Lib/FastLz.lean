/-
  FastLZ, level 1: a stream of literal runs and matches.

  An instruction byte below 32 announces a literal run of one byte more than it says; any other one
  a match, with its length in the top three bits (seven: a further byte is added) and the distance
  in the rest and one byte more.  A match copies what has been written already, and may reach into
  the bytes it is writing, so a run of one byte is a match of distance one.

  `decompress` reads such a stream, with what it has written so far kept in reverse, so that "so
  many bytes back" is an index from the front.  Every instruction takes at least a byte of the
  stream, so its length bounds the number of steps, and the reader is structurally recursive in that
  bound.

  How a compressor chooses its matches is its own affair: any stream that decompresses to the text
  will do.  `literals` makes no match and writes every byte as a run of its own, which is a stream
  like any other (`decompress_literals`), and so the law that compressors are asked for has an
  instance.
-/
import Mathlib.Data.List.Basic

namespace FastLz

/-- Copy `n` bytes from `distance + 1` back.  A match may reach into the bytes it writes. -/
def copyMatch (distance : Nat) : Nat → List UInt8 → Option (List UInt8)
  | 0, written => some written
  | n + 1, written => written[distance]?.bind fun b => copyMatch distance n (b :: written)

/-- Run the instructions of a stream. It is refused where a run or a match is cut off, or where a
    match goes back further than the text. -/
def runStream : Nat → List UInt8 → List UInt8 → Option (List UInt8)
  | _, written, [] => some written.reverse
  | 0, _, _ :: _ => none
  | fuel + 1, written, op :: rest =>
    let high := op.toNat / 32
    let low := op.toNat % 32
    if high = 0 then
      if low + 1 ≤ rest.length then
        runStream fuel ((rest.take (low + 1)).reverse ++ written) (rest.drop (low + 1))
      else none
    else if high = 7 then
      match rest with
      | more :: near :: rest =>
        (copyMatch (low * 256 + near.toNat) (more.toNat + 9) written).bind
          fun written => runStream fuel written rest
      | _ => none
    else
      match rest with
      | near :: rest =>
        (copyMatch (low * 256 + near.toNat) (high + 2) written).bind
          fun written => runStream fuel written rest
      | _ => none

/-- The text of a stream; every instruction takes at least a byte. -/
def decompress (stream : List UInt8) : Option (List UInt8) := runStream stream.length [] stream

/-- Every byte as a literal run of its own. -/
def literals (text : List UInt8) : List UInt8 := text.flatMap fun b => [0x00, b]

theorem runStream_literals (text : List UInt8) : ∀ fuel written, text.length ≤ fuel →
    runStream fuel written (literals text) = some (written.reverse ++ text) := by
  induction text with
  | nil =>
    intro fuel written _
    rw [List.append_nil]
    cases fuel <;> rfl
  | cons b text ih =>
    intro fuel written hfuel
    cases fuel with
    | zero => simp at hfuel
    | succ fuel =>
      rw [List.length_cons, Nat.succ_le_succ_iff] at hfuel
      have hrun : runStream (fuel + 1) written (literals (b :: text))
          = runStream fuel (b :: written) (literals text) := by
        simp [literals, runStream]
      rw [hrun, ih fuel (b :: written) hfuel, List.reverse_cons, List.append_assoc,
        List.singleton_append]

/-- **A text written as literals is read back.** Each byte takes two bytes of the stream and one
    step of the reader. -/
theorem decompress_literals (text : List UInt8) : decompress (literals text) = some text := by
  have hlength : text.length ≤ (literals text).length := by
    induction text with
    | nil => exact Nat.le_refl 0
    | cons b text ih =>
      show text.length + 1 ≤ (literals text).length + 2
      omega
  exact runStream_literals text _ [] hlength

/-- One zero byte and a match that repeats it thirty times. -/
example : decompress [0x00, 0x00, 0xe0, 0x15, 0x00] = some (List.replicate 31 0) := by decide

end FastLz
