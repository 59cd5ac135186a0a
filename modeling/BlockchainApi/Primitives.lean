/-
  The primitive values of the handlers, hex, JSON and maps, and the codecs they take from the
  contract-binding crates.

  1. **Words and bytes.** Addresses and hashes are fixed-width byte strings, amounts are 256-bit
     words with the wrapping arithmetic of the integer crate.

  2. **Hex.** `hexDecode` follows the crate to the order in which it refuses: an odd number of
     digits comes before any bad digit.  What was encoded is decoded to itself
     (`hexDecode_hexEncode`), also behind a prefix.

  3. **Maps.** A `HashMap` is a list of entries without a repeated key.  What a loop collects under
     each key is said once (`group`), and the order in which the source walks a map is a `Walk`: any
     order, each entry once.  Statements about every `Walk` do not depend on the hashing.

  4. **Codecs.** Encoding and decoding of contract types happens in code generated by another crate,
     so it enters the model as an `AbiCodec`; the one assumption made about it is
     `AbiCodec.RoundTrips`.  `AbiCodec.standard` is the codec of the ABI itself, built in `Lib/Abi`,
     which satisfies it for every type whose values can be listed; that is what the `Encodable`
     instances here are for.
-/
import BlockchainApi.Lib.Abi
import Mathlib.Data.List.AList
import Mathlib.Logic.Equiv.List

namespace BlockchainApi

open ByteCodec

/-- `Address` (and `H160`). -/
abbrev Address := FixedBytes 20

/-- `B256` (and `H256`). -/
abbrev B256 := FixedBytes 32

/-- `U256`: addition wraps, as it does in the integer crate. -/
abbrev U256 := BitVec 256

/-- `U128`. -/
abbrev U128 := BitVec 128

/-- `U64`. -/
abbrev U64 := BitVec 64

/-- `Uuid`. -/
abbrev Uuid := FixedBytes 16

/-! ## Hex: texts of digits, and the bytes they stand for -/

/-- `[a-fA-F0-9]`. -/
def isHexChar (c : Char) : Bool :=
  c.isDigit || ('a' ≤ c && c ≤ 'f') || ('A' ≤ c && c ≤ 'F')

/-- The value of a hex digit. -/
def hexCharValue (c : Char) : Nat :=
  if c.isDigit then c.toNat - 48 else if 'a' ≤ c then c.toNat - 87 else c.toNat - 55

/-- The number a list of hex digits denotes. -/
def hexValue (s : List Char) : Nat := s.foldl (fun n c => 16 * n + hexCharValue c) 0

/-- `hex::FromHexError`, as far as `hex::decode` returns it. -/
inductive FromHexError where
  | oddLength
  | invalidHexCharacter (c : Char) (index : Nat)
  deriving DecidableEq, Repr

/-- The digits of a text, two to a byte, from position `index` on. -/
def hexPairs (index : Nat) : List Char → Except FromHexError Bytes
  | a :: b :: rest =>
    if isHexChar a then
      if isHexChar b then do
        let bytes ← hexPairs (index + 2) rest
        return UInt8.ofNat (16 * hexCharValue a + hexCharValue b) :: bytes
      else .error (.invalidHexCharacter b (index + 1))
    else .error (.invalidHexCharacter a index)
  | _ => .ok []

/-- `hex::decode`: an odd number of digits is refused before any digit is read, and a bad digit
    with its position. -/
def hexDecode (s : String) : Except FromHexError Bytes :=
  -- the crate reads the bytes of the text, each as a character
  let chars := s.toUTF8.data.toList.map fun b => Char.ofNat b.toNat
  if chars.length % 2 = 0 then hexPairs 0 chars else .error .oddLength

/-- A digit of `hex::encode`. -/
def hexDigit (n : Nat) : Char := Char.ofNat (if n < 10 then 48 + n else 87 + n)

/-- `hex::encode`. -/
def hexEncode (bytes : Bytes) : String :=
  String.ofList (bytes.flatMap fun b => [hexDigit (b.toNat / 16), hexDigit (b.toNat % 16)])

/-- `{:x}` of a number. -/
def lowerHex (n : Nat) : String := String.ofList (Nat.toDigits 16 n)

/-- `Uuid::to_string`: hex in five groups. -/
def Uuid.display (id : Uuid) : String :=
  let group := fun from_ length => hexEncode ((id.bytes.drop from_).take length)
  group 0 4 ++ "-" ++ group 4 2 ++ "-" ++ group 6 2 ++ "-" ++ group 8 2 ++ "-" ++ group 10 6

/-- `trim_start_matches("0x")`: as often as it stands there, which is more than a prefix. -/
def trimHexPrefix : List Char → List Char
  | '0' :: 'x' :: rest => trimHexPrefix rest
  | s => s

theorem hexDigit_spec : ∀ n < 16,
    (String.utf8EncodeChar (hexDigit n)).map (fun b => Char.ofNat b.toNat) = [hexDigit n] ∧
      isHexChar (hexDigit n) = true ∧ hexCharValue (hexDigit n) = n ∧ hexDigit n ≠ 'x' := by
  decide

/-- The digits of a byte string. -/
def hexText (bytes : Bytes) : List Char :=
  bytes.flatMap fun b => [hexDigit (b.toNat / 16), hexDigit (b.toNat % 16)]

theorem hexEncode_eq (bytes : Bytes) : hexEncode bytes = String.ofList (hexText bytes) := rfl

theorem length_hexText (bytes : Bytes) : (hexText bytes).length = 2 * bytes.length := by
  induction bytes with
  | nil => rfl
  | cons b bytes ih =>
    show (hexText bytes).length + 2 = 2 * (bytes.length + 1)
    omega

theorem toUTF8_ofList (s : List Char) :
    (String.ofList s).toUTF8.data.toList = s.flatMap String.utf8EncodeChar := by
  show (String.ofList s).toByteArray.data.toList = _
  rw [String.toByteArray_ofList, List.utf8Encode]
  simp

/-- The bytes of a hex text are its digits. -/
theorem utf8_hexText (bytes : Bytes) :
    ((hexText bytes).flatMap String.utf8EncodeChar).map (fun b => Char.ofNat b.toNat)
      = hexText bytes := by
  induction bytes with
  | nil => rfl
  | cons b bytes ih =>
    have hhigh := (hexDigit_spec (b.toNat / 16) (by have := b.toNat_lt; omega)).1
    have hlow := (hexDigit_spec (b.toNat % 16) (by omega)).1
    show ((hexDigit (b.toNat / 16) :: hexDigit (b.toNat % 16) :: hexText bytes).flatMap
      String.utf8EncodeChar).map _ = hexDigit (b.toNat / 16) :: hexDigit (b.toNat % 16) :: _
    rw [List.flatMap_cons, List.flatMap_cons, List.map_append, List.map_append, hhigh, hlow, ih]
    rfl

theorem length_toUTF8_hexEncode (bytes : Bytes) :
    (hexEncode bytes).toUTF8.data.toList.length = 2 * bytes.length := by
  rw [hexEncode_eq, toUTF8_ofList, ← length_hexText]
  conv_rhs => rw [← utf8_hexText bytes]
  rw [List.length_map]

theorem hexPairs_hexText (bytes : Bytes) : ∀ index, hexPairs index (hexText bytes) = .ok bytes := by
  induction bytes with
  | nil => intro index; rfl
  | cons b bytes ih =>
    intro index
    obtain ⟨-, hhigh, hhighValue, -⟩ :=
      hexDigit_spec (b.toNat / 16) (by have := b.toNat_lt; omega)
    obtain ⟨-, hlow, hlowValue, -⟩ := hexDigit_spec (b.toNat % 16) (by omega)
    show hexPairs index (hexDigit (b.toNat / 16) :: hexDigit (b.toNat % 16) :: hexText bytes) = _
    rw [hexPairs, if_pos hhigh, if_pos hlow, ih, hhighValue, hlowValue,
      Nat.div_add_mod b.toNat 16, UInt8.ofNat_toNat]
    rfl

/-- **Hex round trip.** Two digits for each byte, small letters, and back. -/
theorem hexDecode_hexEncode (bytes : Bytes) : hexDecode (hexEncode bytes) = .ok bytes := by
  rw [hexDecode, hexEncode_eq, toUTF8_ofList, utf8_hexText]
  show (if (hexText bytes).length % 2 = 0 then _ else _) = _
  rw [if_pos (by rw [length_hexText]; omega), hexPairs_hexText]

/-- Only the prefix that was written is trimmed. -/
theorem trimHexPrefix_hexEncode (bytes : Bytes) :
    String.ofList (trimHexPrefix ("0x" ++ hexEncode bytes).toList) = hexEncode bytes := by
  rw [String.toList_append, hexEncode_eq, String.toList_ofList, String.toList_ofList]
  congr 1
  show trimHexPrefix (hexText bytes) = hexText bytes
  cases bytes with
  | nil => rfl
  | cons b bytes =>
    have hne := (hexDigit_spec (b.toNat % 16) (by omega)).2.2.2
    show trimHexPrefix (hexDigit (b.toNat / 16) :: hexDigit (b.toNat % 16) :: hexText bytes) = _
    rw [trimHexPrefix]
    · rfl
    · intro rest h
      simp only [List.cons.injEq] at h
      exact hne h.2.1

/-! ## JSON, as far as the handlers look into it -/

/-- `serde_json::Value`.  A number is an integer or the bits of a float. -/
inductive Value where
  | null
  | bool (b : Bool)
  | int (n : Int)
  | float (bits : UInt64)
  | string (s : String)
  | array (items : List Value)
  | object (fields : List (String × Value))

namespace Value

/-- `Value::get`: the field of an object. -/
def get (key : String) : Value → Option Value
  | object fields => (fields.find? fun f => f.1 == key).map Prod.snd
  | _ => none

/-- `Value::as_str`. -/
def asStr : Value → Option String
  | string s => some s
  | _ => none

end Value

/-! ## Bodies of responses -/

/-- `PROVIDER_RESPONSE_MAX_BYTES`. -/
def providerResponseMaxBytes : Nat := 10 * 1024 * 1024

/-- `to_bytes`, with that limit. -/
def toBytes (body : Bytes) : Except String Bytes :=
  if body.length ≤ providerResponseMaxBytes then .ok body else .error "length limit exceeded"

/-! ## Maps: no key twice, and no order of their own -/

/-- `HashMap`. -/
abbrev HashMap (K V : Type) := AList fun _ : K => V

namespace HashMap

variable {K V : Type} [DecidableEq K]

/-- The map that `insert` builds from pairs one after the other: the last pair of a key counts. -/
def ofPairs (pairs : List (K × V)) : HashMap K V :=
  pairs.foldl (fun m p => AList.insert p.1 p.2 m) ∅

/-- `len`. -/
def size (m : HashMap K V) : Nat := m.entries.length

theorem ofPairs_concat (pairs : List (K × V)) (p : K × V) :
    ofPairs (pairs ++ [p]) = AList.insert p.1 p.2 (ofPairs pairs) := by
  rw [ofPairs, List.foldl_append]
  rfl

theorem mem_ofPairs {pairs : List (K × V)} {k : K} :
    k ∈ ofPairs pairs ↔ ∃ p ∈ pairs, p.1 = k := by
  induction pairs using List.reverseRecOn with
  | nil => simp [ofPairs]
  | append_singleton pairs p ih =>
    rw [ofPairs_concat, AList.mem_insert, ih]
    constructor
    · rintro (rfl | ⟨q, hq, hk⟩)
      · exact ⟨p, by simp, rfl⟩
      · exact ⟨q, by simp [hq], hk⟩
    · rintro ⟨q, hq, hk⟩
      rcases List.mem_append.mp hq with hq | hq
      · exact .inr ⟨q, hq, hk⟩
      · cases List.mem_singleton.mp hq
        exact .inl hk.symm

/-- A map holds what it was given. -/
theorem mem_of_lookup_ofPairs {pairs : List (K × V)} {k : K} {v : V}
    (h : (ofPairs pairs).lookup k = some v) : (k, v) ∈ pairs := by
  induction pairs using List.reverseRecOn with
  | nil => simp [ofPairs] at h
  | append_singleton pairs p ih =>
    rw [ofPairs_concat] at h
    by_cases hk : k = p.1
    · subst hk
      rw [AList.lookup_insert, Option.some.injEq] at h
      simp [← h]
    · rw [AList.lookup_insert_ne hk] at h
      exact List.mem_append.mpr (.inl (ih h))

theorem exists_lookup_ofPairs {pairs : List (K × V)} {p : K × V} (h : p ∈ pairs) :
    ∃ v, (ofPairs pairs).lookup p.1 = some v ∧ (p.1, v) ∈ pairs := by
  have hmem : p.1 ∈ ofPairs pairs := mem_ofPairs.mpr ⟨p, h, rfl⟩
  obtain ⟨v, hv⟩ := Option.isSome_iff_exists.mp (AList.lookup_isSome.mpr hmem)
  exact ⟨v, hv, mem_of_lookup_ofPairs hv⟩

/-- **One entry**: there is a pair, and all pairs have one key. Later pairs of the key replace
    earlier ones. -/
theorem size_ofPairs_eq_one_iff {pairs : List (K × V)} :
    size (ofPairs pairs) = 1 ↔ ∃ k, (∃ p ∈ pairs, p.1 = k) ∧ ∀ p ∈ pairs, p.1 = k := by
  have hkeys : size (ofPairs pairs) = (ofPairs pairs).keys.length := by
    rw [size, AList.keys, List.keys, List.length_map]
  have hmem : ∀ k, k ∈ (ofPairs pairs).keys ↔ ∃ p ∈ pairs, p.1 = k := by
    intro k
    rw [← AList.mem_keys]
    exact mem_ofPairs
  rw [hkeys]
  constructor
  · intro hone
    obtain ⟨k, hk⟩ := List.length_eq_one_iff.mp hone
    refine ⟨k, (hmem k).mp (by rw [hk]; exact List.mem_singleton_self k), fun p hp => ?_⟩
    have hpk := (hmem p.1).mpr ⟨p, hp, rfl⟩
    rw [hk] at hpk
    exact List.mem_singleton.mp hpk
  · rintro ⟨k, hsome, hall⟩
    have hsub : (ofPairs pairs).keys ⊆ [k] := by
      intro k' hk'
      obtain ⟨p, hp, rfl⟩ := (hmem k').mp hk'
      exact List.mem_singleton.mpr (hall p hp)
    have hle := ((ofPairs pairs).keys_nodup.subperm hsub).length_le
    have hpos := List.length_pos_of_mem ((hmem k).mpr hsome)
    rw [List.length_singleton] at hle
    omega

/-! ### Collecting and walking -/

/-- The lists that `entry(k).or_default().push(v)` collects under each key. -/
def group (pairs : List (K × V)) : HashMap K (List V) :=
  pairs.foldl (fun m p => AList.insert p.1 ((m.lookup p.1).getD [] ++ [p.2]) m) ∅

theorem group_concat (pairs : List (K × V)) (p : K × V) :
    group (pairs ++ [p]) =
      AList.insert p.1 (((group pairs).lookup p.1).getD [] ++ [p.2]) (group pairs) := by
  rw [group, List.foldl_append]
  rfl

/-- What is collected under a key is what was given for it. -/
theorem mem_group {pairs : List (K × V)} {k : K} {v : V} :
    v ∈ ((group pairs).lookup k).getD [] ↔ (k, v) ∈ pairs := by
  induction pairs using List.reverseRecOn with
  | nil => simp [group]
  | append_singleton pairs p ih =>
    rw [group_concat, List.mem_append, List.mem_singleton]
    by_cases hk : k = p.1
    · subst hk
      rw [AList.lookup_insert, Option.getD_some, List.mem_append, List.mem_singleton, ih]
      exact or_congr_right ⟨fun hv => hv ▸ rfl, fun hp => (Prod.mk.inj hp).2⟩
    · rw [AList.lookup_insert_ne hk, ih]
      exact ⟨Or.inl, fun hmem => hmem.resolve_right fun heq => hk (congrArg Prod.fst heq)⟩

/-- What is collected under a key, in the order in which it was given; nothing else is there. -/
theorem getD_lookup_group (pairs : List (K × V)) (k : K) :
    ((group pairs).lookup k).getD [] =
      (pairs.filter fun p => decide (p.1 = k)).map Prod.snd := by
  induction pairs using List.reverseRecOn with
  | nil => rfl
  | append_singleton pairs p ih =>
    rw [group_concat, List.filter_append, List.map_append, ← ih]
    by_cases hk : p.1 = k
    · subst hk
      rw [AList.lookup_insert, Option.getD_some, List.filter_cons_of_pos (by simp)]
      rfl
    · rw [AList.lookup_insert_ne (Ne.symm hk), List.filter_cons_of_neg (by simpa using hk)]
      exact (List.append_nil _).symm

/-- Nothing is collected under a key without an entry. -/
theorem ne_nil_of_lookup_group {pairs : List (K × V)} {k : K} {vs : List V}
    (h : (group pairs).lookup k = some vs) : vs ≠ [] := by
  induction pairs using List.reverseRecOn with
  | nil => simp [group] at h
  | append_singleton pairs p ih =>
    rw [group_concat] at h
    by_cases hk : k = p.1
    · subst hk
      rw [AList.lookup_insert, Option.some.injEq] at h
      rw [← h]
      exact List.append_ne_nil_of_right_ne_nil _ (List.cons_ne_nil _ _)
    · rw [AList.lookup_insert_ne hk] at h
      exact ih h

/-- The order in which a map is walked: any order, each entry once. The source takes the order of
    its hasher, which differs from run to run. -/
structure Walk (K V : Type) where
  entries : HashMap K V → List (K × V)
  perm : ∀ m : HashMap K V, (entries m).Perm (m.entries.map fun e => (e.1, e.2))

theorem Walk.mem_entries (walk : Walk K V) {m : HashMap K V} {k : K} {v : V} :
    (k, v) ∈ walk.entries m ↔ m.lookup k = some v := by
  rw [(walk.perm m).mem_iff, ← Option.mem_def, AList.mem_lookup_iff, List.mem_map]
  constructor
  · rintro ⟨e, he, heq⟩
    cases heq
    exact he
  · intro he
    exact ⟨_, he, rfl⟩

omit [DecidableEq K] in
/-- No key is met twice. -/
theorem Walk.nodup_keys (walk : Walk K V) (m : HashMap K V) :
    ((walk.entries m).map Prod.fst).Nodup := by
  rw [((walk.perm m).map Prod.fst).nodup_iff, List.map_map]
  exact m.nodupKeys

/-- Writing an entry for each of some keys, all different. -/
theorem lookup_foldl_insert (f : K → V → V) (entries : List (K × V))
    (h : (entries.map Prod.fst).Nodup) (m : HashMap K V) (k : K) :
    (entries.foldl (fun m e => AList.insert e.1 (f e.1 e.2) m) m).lookup k =
      ((entries.find? fun e => decide (e.1 = k)).map fun e => f e.1 e.2).or (m.lookup k) := by
  induction entries generalizing m with
  | nil => rfl
  | cons e entries ih =>
    obtain ⟨hnotMem, hnodup⟩ := List.nodup_cons.mp h
    rw [List.foldl_cons, ih hnodup]
    by_cases hk : e.1 = k
    · -- the key does not come again
      have hnone : entries.find? (fun e => decide (e.1 = k)) = none := by
        rw [List.find?_eq_none]
        intro e' he' hk'
        exact hnotMem (hk ▸ of_decide_eq_true hk' ▸ List.mem_map_of_mem he')
      rw [hnone, List.find?_cons_of_pos (by simpa using hk), ← hk, AList.lookup_insert]
      rfl
    · rw [List.find?_cons_of_neg (by simpa using hk), AList.lookup_insert_ne (Ne.symm hk)]

/-- The entry that is met for a key is what the map has for it. -/
theorem Walk.find?_entries (walk : Walk K V) (m : HashMap K V) (k : K) :
    ((walk.entries m).find? fun e => decide (e.1 = k)).map Prod.snd = m.lookup k := by
  cases hfind : (walk.entries m).find? fun e => decide (e.1 = k) with
  | some e =>
    have hk : e.1 = k := by simpa using List.find?_some hfind
    have hmem : (k, e.2) ∈ walk.entries m := hk ▸ List.mem_of_find?_eq_some hfind
    rw [walk.mem_entries.mp hmem]
    rfl
  | none =>
    cases hlookup : m.lookup k with
    | none => rfl
    | some v =>
      have hmem := walk.mem_entries.mpr hlookup
      simpa using List.find?_eq_none.mp hfind (k, v) hmem

/-- **Updating every entry of a map**, in any order: under each key stands the update of what
    stood there, since no key is met twice. -/
theorem Walk.lookup_update (walk : Walk K V) (f : K → V → V) (m : HashMap K V) (k : K) :
    ((walk.entries m).foldl (fun m e => AList.insert e.1 (f e.1 e.2) m) m).lookup k =
      (m.lookup k).map (f k) := by
  rw [lookup_foldl_insert f _ (walk.nodup_keys m), ← walk.find?_entries m k]
  cases hfind : (walk.entries m).find? fun e => decide (e.1 = k) with
  | some e =>
    have hk : e.1 = k := by simpa using List.find?_some hfind
    rw [← hk]
    rfl
  | none => rfl

/-- The order of insertion. -/
def Walk.inOrder : Walk K V where
  entries m := m.entries.map fun e => (e.1, e.2)
  perm _ := List.Perm.refl _

end HashMap

/-! ## Values that can be listed, as codecs of unbounded size ask for -/

instance encodableUInt8 : Encodable UInt8 :=
  Encodable.ofLeftInjection UInt8.toNat (fun n => some (UInt8.ofNat n))
    (fun b => by rw [UInt8.ofNat_toNat])

instance encodableBitVec {w : Nat} : Encodable (BitVec w) :=
  Encodable.ofLeftInjection BitVec.toNat (fun n => some (BitVec.ofNat w n))
    (fun x => by rw [BitVec.ofNat_toNat, BitVec.setWidth_eq])

instance encodableFixedBytes {n : Nat} : Encodable (FixedBytes n) :=
  Encodable.ofLeftInjection FixedBytes.bytes (FixedBytes.ofSlice? n) FixedBytes.ofSlice?_bytes

/-! ## Column types

What the tables of `src/database` have in common.  Times are counted in microseconds, as the
database keeps them. -/

/-- `VARCHAR(n)` admits the text. -/
def isVarchar (n : Nat) (s : String) : Bool := s.length ≤ n

/-- `make_interval(mins => n)`. -/
def minutes (n : Nat) : Nat := n * 60000000

/-- `make_interval(hours => n)`. -/
def hours (n : Nat) : Nat := minutes (60 * n)

/-! ## Codecs taken from other crates: one assumption, and an instance of it -/

/-- Encoder and decoder of one contract type; a refusal carries the text of the error. -/
structure AbiCodec (α : Type) where
  encode : α → Bytes
  decode : Bytes → Except String α

namespace AbiCodec

variable {α : Type}

/-- The decoder undoes the encoder. -/
def RoundTrips (c : AbiCodec α) : Prop := ∀ x, c.decode (c.encode x) = .ok x

/-- The codec of the contract ABI. -/
def standard [Encodable α] (c : Abi.Codec α) : AbiCodec α where
  encode := c.encodeAny
  decode buf :=
    match c.decodeAny buf with
    | some x => .ok x
    | none => .error "invalid ABI data"

theorem standard_roundTrips [Encodable α] (c : Abi.Codec α) : (standard c).RoundTrips := by
  intro x
  show (match c.decodeAny (c.encodeAny x) with | some x => Except.ok x | none => _) = _
  rw [c.decodeAny_encodeAny x]

end AbiCodec

end BlockchainApi
