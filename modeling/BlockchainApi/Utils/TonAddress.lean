/-
  TON addresses (`crc16_xmodem`, `ton_raw_to_friendly` and `to_friendly_if_raw`,
  `src/utils/crypto.rs`).

  An account is a workchain and a hash.  Its raw form is the number of the one, a colon and the
  sixty-four digits of the other; its friendly forms are the base64 of thirty-six bytes, a tag for
  the flags, a byte for the workchain, the hash and a check (`friendlyBytes`).

  1. **Three readers of one number.** The conversion reads the first two of any number of parts, and
     a workchain of thirty-two bits of which it keeps one byte.  The validator reads the workchain
     in base 16, without a sign.  A raw form has a workchain of eight bits.  The three agree on the
     workchains from 0 to 99 alone (`parseUnsigned_isSome_iff_both`): below that, the digits are a
     byte in both bases.

  2. **Faithful texts.** `TonFaithful` says of one text that the conversion and the validator accept
     it exactly if it is the raw form of an account, and convert it to a friendly form of that
     account.  `tonFaithful_iff`: the texts of which this is true are the clean ones.

  3. **Two texts** with the same friendly form name the same account if both are clean
     (`tonRawToFriendly_faithful_iff`).  Workchain 256 is converted as workchain 0 is.

  4. **The check** is a CRC with an odd polynomial, so it finds what differs within sixteen bits in
     a row, and a friendly form leaves no remainder (`crc16Xmodem_residue_and_bursts`).
-/
import BlockchainApi.Lib.Base64
import BlockchainApi.Lib.Crc16
import BlockchainApi.Lib.Delimited
import BlockchainApi.Utils.Caip2
import BlockchainApi.Utils.HexAddress

namespace BlockchainApi

open ByteCodec Delimited

/-! ## The conversion, as the source computes it -/

/-- `str::parse` for a signed type, from `-bound` to `bound - 1`: an optional sign, then digits. -/
def parseSigned (bound : Nat) : List Char → Option Int
  | '-' :: digits =>
    if digits ≠ [] ∧ digits.all Char.isDigit ∧ digitsValue digits ≤ bound then
      some (-(digitsValue digits : Int))
    else none
  | s => (parseUnsigned bound s).map Int.ofNat

/-- `crc16_xmodem`. -/
def crc16Xmodem (data : Bytes) : BitVec 16 := Crc16.crc 0x1021 data

example : crc16Xmodem [0x31, 0x32, 0x33, 0x34, 0x35, 0x36, 0x37, 0x38, 0x39] = 0x31C3 := by
  decide +kernel

/-- The tag of the flags. -/
def tonTag (bounceable testnet : Bool) : UInt8 :=
  let tag : UInt8 := if bounceable then 0x11 else 0x51
  if testnet then tag ||| 0x80 else tag

/-- `(wc as i8) as u8`. -/
def workchainByte (wc : Int) : UInt8 := UInt8.ofNat (wc % 256).toNat

/-- `ton_raw_to_friendly`.  `encode` is `URL_SAFE_NO_PAD.encode`. -/
def tonRawToFriendly (encode : Bytes → String) (raw : String) (bounceable testnet : Bool) :
    Option String :=
  match raw.toList.splitOn ':' with
  | wc :: hex :: _ => do
    let wc ← parseSigned (2 ^ 31) wc
    guard ((String.ofList hex).utf8ByteSize = 64)
    -- of sixty-four digits these are thirty-two bytes
    let addr ← (hexDecode (String.ofList hex)).toOption
    let bytes := tonTag bounceable testnet :: workchainByte wc :: addr
    return encode (bytes ++ toBe 2 (crc16Xmodem bytes).toNat)
  | _ => none

/-- `to_friendly_if_raw`. -/
def toFriendlyIfRaw (encode : Bytes → String) (addr : String) : String :=
  if addr.toList.contains ':' then (tonRawToFriendly encode addr true false).getD addr else addr

/-! ## Accounts: what the texts are meant to name -/

/-- An account of a workchain. -/
structure TonAccount where
  workchain : Int
  hash : FixedBytes 32
  deriving DecidableEq

/-- The text is sixty-four hex digits, of these bytes. -/
structure IsHash (hex : List Char) (hash : FixedBytes 32) : Prop where
  length_eq : hex.length = 64
  all : hex.all isHexChar = true
  bytes_eq : hexBytes hex = hash.bytes

/-- **The raw form** of an account: its workchain, a number of eight bits, a colon and its hash. -/
def IsRaw (raw : String) (account : TonAccount) : Prop :=
  ∃ wc hex, raw.toList = wc ++ ':' :: hex ∧ parseSigned 128 wc = some account.workchain ∧
    IsHash hex account.hash

/-- The account that a text names, if the workchain may be any number of thirty-two bits and
    anything may stand behind the hash. -/
def TonNames (raw : String) (account : TonAccount) : Prop :=
  ∃ wc hex rest, raw.toList.splitOn ':' = wc :: hex :: rest ∧
    parseSigned (2 ^ 31) wc = some account.workchain ∧ IsHash hex account.hash

/-- The bytes of a friendly form: the tag, the byte of the workchain, the hash and the check of
    these. -/
def friendlyBytes (tag : UInt8) (account : TonAccount) : Bytes :=
  let bytes := tag :: workchainByte account.workchain :: account.hash.bytes
  bytes ++ toBe 2 (crc16Xmodem bytes).toNat

/-- What a friendly form of an account decodes to: the parts of it are where they belong, and the
    check is the one of what is in front of it, so that none remains of the whole. -/
structure IsFriendlyOf (account : TonAccount) (tag : UInt8) (bytes : Bytes) : Prop where
  length_eq : bytes.length = 36
  tag_eq : bytes.head? = some tag
  workchain_eq : bytes[1]? = some (workchainByte account.workchain)
  hash_eq : (bytes.drop 2).take 32 = account.hash.bytes
  check_eq : ofBe (bytes.drop 34) = (crc16Xmodem (bytes.take 34)).toNat
  remainder_eq : crc16Xmodem bytes = 0

/-- **The conversion and the validator are faithful to a text**: both accept it exactly if it is
    the raw form of an account, and what the conversion gives holds that account. -/
structure TonFaithful (encode : Bytes → String) (p : AddressParsers) (raw : String) : Prop where
  converts_iff : ∀ bounceable testnet,
    (tonRawToFriendly encode raw bounceable testnet).isSome = true ↔ ∃ account, IsRaw raw account
  valid_iff : ':' ∈ raw.toList ∧ isAddressValid p raw .ton = true ↔ ∃ account, IsRaw raw account
  decodes : ∀ bounceable testnet friendly,
    tonRawToFriendly encode raw bounceable testnet = some friendly →
      ∃ account bytes, IsRaw raw account ∧ Base64.decodeUrl friendly.toList = some bytes ∧
        IsFriendlyOf account (tonTag bounceable testnet) bytes

/-- Two texts with the same friendly form name the same account. -/
def TonInjective (encode : Bytes → String) (raw raw' : String) : Prop :=
  ∀ bounceable testnet friendly,
    tonRawToFriendly encode raw bounceable testnet = some friendly →
      tonRawToFriendly encode raw' bounceable testnet = some friendly →
        ∃ account, TonNames raw account ∧ TonNames raw' account

/-- A text with sixty-four hex digits behind its first colon has a workchain from 0 to 99 in
    front of it and nothing behind them, or what is in front is no number of thirty-two bits,
    nor, if nothing is behind, a byte in base 16. In the second case nobody accepts the text. -/
def TonClean (raw : String) : Prop :=
  ∀ wc hex rest, raw.toList.splitOn ':' = wc :: hex :: rest → hex.length = 64 →
    hex.all isHexChar = true →
      (parseUnsigned 100 wc).isSome = true ∧ rest = [] ∨
        parseSigned (2 ^ 31) wc = none ∧ (rest = [] → parseHexByte wc = none)

variable {encode : Bytes → String} {p : AddressParsers} {raw raw' : String} {account : TonAccount}
  {bounceable testnet : Bool} {friendly : String} {wc hex s : List Char} {rest : List (List Char)}

/-! ## Numbers in two bases

The digits of a number in base 10 are digits in base 16 too, of another number. Which bounds they
respect is compared here. -/

/-- Digits are below a power of 16, read in base 16, if they are below that power of 10. -/
theorem hexValue_lt_iff (h : s.all Char.isDigit = true) :
    ∀ k, hexValue s < 16 ^ k ↔ digitsValue s < 10 ^ k := by
  induction s using List.reverseRecOn with
  | nil => simp [hexValue, digitsValue]
  | append_singleton s c ih =>
    rw [List.all_append, Bool.and_eq_true, List.all_cons, List.all_nil, Bool.and_true] at h
    obtain ⟨hs, hc⟩ := h
    have hdigit : c.toNat - 48 < 10 := by
      have hle : c.val.toNat ≤ 57 := UInt32.le_iff_toNat_le.mp ((isDigit_iff c).mp hc).2
      have hval : c.val.toNat = c.toNat := rfl
      omega
    have hhex : hexValue (s ++ [c]) = 16 * hexValue s + (c.toNat - 48) := by
      rw [hexValue, List.foldl_append, List.foldl_cons, List.foldl_nil, hexCharValue, if_pos hc]
      rfl
    have hdec : digitsValue (s ++ [c]) = 10 * digitsValue s + (c.toNat - 48) := by
      rw [digitsValue, List.foldl_append, List.foldl_cons, List.foldl_nil]
      rfl
    intro k
    rw [hhex, hdec]
    cases k with
    | zero =>
      have := ih hs 0
      omega
    | succ k =>
      have := ih hs k
      rw [Nat.pow_succ', Nat.pow_succ']
      omega

theorem isHexChar_of_isDigit {c : Char} (h : c.isDigit = true) : isHexChar c = true := by
  rw [isHexChar, h, Bool.true_or, Bool.true_or]

theorem unsignedDigits_eq (s : List Char) :
    (∃ rest, s = '+' :: rest ∧ unsignedDigits s = rest) ∨
      (∀ rest, s ≠ '+' :: rest) ∧ unsignedDigits s = s := by
  unfold unsignedDigits
  split
  · exact .inl ⟨_, rfl, rfl⟩
  · rename_i hplus
    exact .inr ⟨hplus, rfl⟩

theorem parseUnsigned_eq (bound : Nat) (s : List Char) : parseUnsigned bound s =
    if unsignedDigits s ≠ [] ∧ (unsignedDigits s).all Char.isDigit ∧
        digitsValue (unsignedDigits s) < bound then some (digitsValue (unsignedDigits s))
    else none := by
  obtain ⟨rest, rfl, hdigits⟩ | ⟨hplus, hdigits⟩ := unsignedDigits_eq s
  · rw [hdigits, parseUnsigned]
  · rw [hdigits, parseUnsigned]
    exact hplus

theorem parseHexByte_eq (s : List Char) : parseHexByte s =
    if unsignedDigits s ≠ [] ∧ (unsignedDigits s).all isHexChar ∧
        hexValue (unsignedDigits s) < 256 then some (hexValue (unsignedDigits s))
    else none := by
  obtain ⟨rest, rfl, hdigits⟩ | ⟨hplus, hdigits⟩ := unsignedDigits_eq s
  · rw [hdigits, parseHexByte]
  · rw [hdigits, parseHexByte]
    exact hplus

/-- The text is a number with an optional sign. -/
def IsNumber (s : List Char) (v : Int) : Prop :=
  ∃ digits, digits ≠ [] ∧ digits.all Char.isDigit = true ∧
    (s = '-' :: digits ∧ v = -(digitsValue digits : Int) ∨
      s.head? ≠ some '-' ∧ unsignedDigits s = digits ∧ v = digitsValue digits)

/-- A parser of another width reads the same numbers, as far as they fit. -/
theorem parseSigned_eq_some_iff {bound : Nat} (hbound : 0 < bound) {v : Int} :
    parseSigned bound s = some v ↔ IsNumber s v ∧ -(bound : Int) ≤ v ∧ v < bound := by
  -- a minus sign, or a number that may have a plus sign
  by_cases hminus : s.head? = some '-'
  · obtain ⟨digits, rfl⟩ := List.head?_eq_some_iff.mp hminus
    rw [parseSigned]
    constructor
    · intro h
      split at h
      · rename_i hdigits
        cases h
        exact ⟨⟨digits, hdigits.1, hdigits.2.1, .inl ⟨rfl, rfl⟩⟩, by omega, by omega⟩
      · cases h
    · rintro ⟨⟨digits', hne, hall, ⟨hs, rfl⟩ | ⟨hplus, -⟩⟩, hle, -⟩
      · cases hs
        rw [if_pos ⟨hne, hall, by omega⟩]
      · exact absurd rfl hplus
  · have heq : parseSigned bound s = (parseUnsigned bound s).map Int.ofNat := by
      rw [parseSigned]
      rintro digits rfl
      exact hminus rfl
    rw [heq, parseUnsigned_eq, Option.map_eq_some_iff]
    constructor
    · rintro ⟨n, h, rfl⟩
      split at h
      · rename_i hdigits
        cases h
        have hlt := hdigits.2.2
        exact ⟨⟨_, hdigits.1, hdigits.2.1, .inr ⟨hminus, rfl, rfl⟩⟩,
          by simp only [Int.ofNat_eq_natCast]; omega, by simp only [Int.ofNat_eq_natCast]; omega⟩
      · cases h
    · rintro ⟨⟨digits, hne, hall, ⟨rfl, -⟩ | ⟨-, rfl, rfl⟩⟩, -, hlt⟩
      · exact absurd rfl hminus
      · rw [if_pos ⟨hne, hall, by omega⟩]
        exact ⟨_, rfl, rfl⟩

/-- **The workchains on which all readers agree** are those from 0 to 99. -/
theorem parseUnsigned_isSome_iff_both : (parseUnsigned 100 s).isSome = true ↔
    (∃ v, parseSigned 128 s = some v) ∧ (parseHexByte s).isSome = true := by
  have hminus : ¬ Char.isDigit '-' = true := by decide
  rw [parseUnsigned_eq, parseHexByte_eq, Option.isSome_ite, Option.isSome_ite]
  constructor
  · rintro ⟨hne, hall, hlt⟩
    have hhex : (unsignedDigits s).all isHexChar = true :=
      List.all_eq_true.mpr fun c hc => isHexChar_of_isDigit (List.all_eq_true.mp hall c hc)
    refine ⟨⟨digitsValue (unsignedDigits s), ?_⟩, hne, hhex, (hexValue_lt_iff hall 2).mpr hlt⟩
    rw [parseSigned_eq_some_iff (by decide)]
    refine ⟨⟨_, hne, hall, .inr ⟨fun hs => ?_, rfl, rfl⟩⟩, by omega, by omega⟩
    obtain ⟨digits, rfl⟩ := List.head?_eq_some_iff.mp hs
    exact hminus (List.all_eq_true.mp hall '-' List.mem_cons_self)
  · rintro ⟨⟨v, hv⟩, hne, hhex, hlt⟩
    obtain ⟨⟨digits, hdigits, hall, ⟨rfl, -⟩ | ⟨-, rfl, -⟩⟩, -⟩ :=
      (parseSigned_eq_some_iff (by decide)).mp hv
    · exact absurd (List.all_eq_true.mp hhex '-' List.mem_cons_self) (by decide)
    · exact ⟨hne, hall, (hexValue_lt_iff hall 2).mp hlt⟩

/-! ## What is read: the parts of a text, and what each reader takes of them -/

/-- Sixty-four digits are a hash. -/
theorem exists_isHash (hlength : hex.length = 64) (hall : hex.all isHexChar = true) :
    ∃ hash, IsHash hex hash :=
  ⟨⟨hexBytes hex, by rw [length_hexBytes, hlength]⟩, hlength, hall, rfl⟩

theorem IsHash.colon_notMem {hash : FixedBytes 32} (h : IsHash hex hash) : ':' ∉ hex := by
  intro hcolon
  exact absurd (List.all_eq_true.mp h.all ':' hcolon) (by decide)

/-- A number has no colon. -/
theorem IsNumber.colon_notMem {v : Int} (h : IsNumber s v) : ':' ∉ s := by
  have hcolon : ∀ digits : List Char, digits.all Char.isDigit = true → ':' ∉ digits :=
    fun digits hall hmem => absurd (List.all_eq_true.mp hall ':' hmem) (by decide)
  obtain ⟨digits, -, hall, ⟨rfl, -⟩ | ⟨-, hdigits, -⟩⟩ := h
  · exact List.not_mem_cons_of_ne_of_not_mem (by decide) (hcolon digits hall)
  · obtain ⟨rest, rfl, hrest⟩ | ⟨-, hsame⟩ := unsignedDigits_eq s
    · rw [hrest] at hdigits
      exact List.not_mem_cons_of_ne_of_not_mem (by decide) (hdigits ▸ hcolon digits hall)
    · rw [hsame] at hdigits
      exact hdigits ▸ hcolon digits hall

/-- What `from_hex` reads after the check of the length. -/
theorem fromHex_iff {addr : Bytes} :
    (String.ofList hex).utf8ByteSize = 64 ∧ (hexDecode (String.ofList hex)).toOption = some addr ↔
      ∃ hash, IsHash hex hash ∧ hash.bytes = addr := by
  have hsize : (String.ofList hex).utf8ByteSize = (byteChars hex).length := by
    rw [byteChars, List.length_map, ← toUTF8_ofList]
    rfl
  have hread : (hexDecode (String.ofList hex)).toOption = some addr ↔
      hexDecode (String.ofList hex) = .ok addr := by
    cases hexDecode (String.ofList hex) <;> simp [Except.toOption]
  rw [hsize, hread, hexDecode_eq_ok_iff]
  constructor
  · rintro ⟨hlength, -, hall, rfl⟩
    rw [(all_isHexChar_byteChars hex).2 hall] at hlength
    obtain ⟨hash, hhash⟩ := exists_isHash hlength hall
    exact ⟨hash, hhash, hhash.bytes_eq.symm⟩
  · rintro ⟨hash, hhash, rfl⟩
    rw [(all_isHexChar_byteChars hex).2 hhash.all, hhash.length_eq]
    exact ⟨rfl, rfl, hhash.all, hhash.bytes_eq⟩

/-- **`ton_raw_to_friendly`** gives the friendly form of the account that a text names. -/
theorem tonRawToFriendly_eq_some_iff :
    tonRawToFriendly encode raw bounceable testnet = some friendly ↔
      ∃ account, TonNames raw account ∧
        encode (friendlyBytes (tonTag bounceable testnet) account) = friendly := by
  unfold tonRawToFriendly TonNames
  constructor
  · intro h
    split at h
    · rename_i wc hex rest hsplit
      obtain ⟨v, hv, h⟩ := Option.bind_eq_some_iff.mp h
      obtain ⟨_, hsize, h⟩ := Option.bind_eq_some_iff.mp h
      obtain ⟨addr, haddr, h⟩ := Option.bind_eq_some_iff.mp h
      obtain ⟨hash, hhash, rfl⟩ := fromHex_iff.mp ⟨(Option.guard_eq_some' _).mp hsize, haddr⟩
      exact ⟨⟨v, hash⟩, ⟨wc, hex, rest, hsplit, hv, hhash⟩, Option.some.inj h⟩
    · cases h
  · rintro ⟨account, ⟨wc, hex, rest, hsplit, hv, hhash⟩, rfl⟩
    obtain ⟨hsize, haddr⟩ := fromHex_iff.mpr ⟨_, hhash, rfl⟩
    rw [hsplit]
    simp only [hv, haddr, hsize, guard_true, Option.pure_def, Option.bind_eq_bind,
      Option.bind_some]
    rfl

theorem tonRawToFriendly_isSome_iff :
    (tonRawToFriendly encode raw bounceable testnet).isSome = true ↔
      ∃ account, TonNames raw account := by
  rw [Option.isSome_iff_exists]
  simp only [tonRawToFriendly_eq_some_iff]
  exact ⟨fun ⟨_, account, hnames, _⟩ => ⟨account, hnames⟩,
    fun ⟨account, hnames⟩ => ⟨_, account, hnames, rfl⟩⟩

/-- The raw form of an account is cut into two parts. -/
theorem isRaw_iff : IsRaw raw account ↔ ∃ wc hex, raw.toList.splitOn ':' = [wc, hex] ∧
    parseSigned 128 wc = some account.workchain ∧ IsHash hex account.hash := by
  unfold IsRaw
  constructor
  · rintro ⟨wc, hex, htext, hwc, hhash⟩
    have hnumber := ((parseSigned_eq_some_iff (by decide)).mp hwc).1
    exact ⟨wc, hex, splitOn_eq_pair_iff.mpr
      ⟨hnumber.colon_notMem, hhash.colon_notMem, htext⟩, hwc, hhash⟩
  · rintro ⟨wc, hex, hsplit, hwc, hhash⟩
    exact ⟨wc, hex, (splitOn_eq_pair_iff.mp hsplit).2.2, hwc, hhash⟩

/-- An account is named by its raw form. -/
theorem IsRaw.names (h : IsRaw raw account) : TonNames raw account := by
  obtain ⟨wc, hex, hsplit, hwc, hhash⟩ := isRaw_iff.mp h
  refine ⟨wc, hex, [], hsplit, ?_, hhash⟩
  obtain ⟨hnumber, hle, hlt⟩ := (parseSigned_eq_some_iff (by decide)).mp hwc
  exact (parseSigned_eq_some_iff (by decide)).mpr ⟨hnumber, by omega, by omega⟩

/-- A text is the raw form of one account. -/
theorem IsRaw.unique {account' : TonAccount} (h : IsRaw raw account) (h' : IsRaw raw account') :
    account = account' := by
  obtain ⟨wc, hex, hsplit, hwc, hhash⟩ := isRaw_iff.mp h
  obtain ⟨wc', hex', hsplit', hwc', hhash'⟩ := isRaw_iff.mp h'
  cases hsplit.symm.trans hsplit'
  have hworkchain : account.workchain = account'.workchain :=
    Option.some.inj (hwc.symm.trans hwc')
  have hsame : account.hash = account'.hash :=
    FixedBytes.ext (hhash.bytes_eq.symm.trans hhash'.bytes_eq)
  cases account
  cases account'
  cases hworkchain
  cases hsame
  rfl

/-- The raw form that the validator accepts. -/
theorem isAddressValid_raw_iff : ':' ∈ raw.toList ∧ isAddressValid p raw .ton = true ↔
    ∃ wc hex, raw.toList.splitOn ':' = [wc, hex] ∧ (parseHexByte wc).isSome = true ∧
      hex.length = 64 ∧ hex.all isHexChar = true := by
  constructor
  · rintro ⟨hcolon, h⟩
    rw [isAddressValid, if_pos (List.contains_iff_mem.mpr hcolon)] at h
    split at h
    · rename_i wc hex hsplit
      rw [Bool.and_eq_true, Bool.and_eq_true, beq_iff_eq] at h
      exact ⟨wc, hex, hsplit, h.1.1, h.1.2, h.2⟩
    · cases h
  · rintro ⟨wc, hex, hsplit, hwc, hlength, hall⟩
    have hcolon : ':' ∈ raw.toList := by
      rw [(splitOn_eq_pair_iff.mp hsplit).2.2]
      exact List.mem_append_right _ List.mem_cons_self
    refine ⟨hcolon, ?_⟩
    rw [isAddressValid, if_pos (List.contains_iff_mem.mpr hcolon), hsplit]
    simp only [hwc, hlength, hall, beq_self_eq_true, Bool.and_true]

/-! ## Friendly forms: thirty-six bytes, from which the account can be told -/

/-- What `URL_SAFE_NO_PAD.encode` is documented to print. -/
def IsUrlSafeNoPad (encode : Bytes → String) : Prop :=
  ∀ bytes, (encode bytes).toList = Base64.encodeUrl bytes

theorem IsUrlSafeNoPad.injective (h : IsUrlSafeNoPad encode) : Function.Injective encode := by
  intro bytes bytes' heq
  apply Base64.encodeUrl_injective
  rw [← h, ← h, heq]

theorem isFriendlyOf_friendlyBytes (tag : UInt8) (account : TonAccount) :
    IsFriendlyOf account tag (friendlyBytes tag account) where
  length_eq := by
    rw [friendlyBytes, List.length_append, length_toBe, List.length_cons, List.length_cons,
      account.hash.length_eq]
  tag_eq := rfl
  workchain_eq := rfl
  hash_eq := List.take_left' account.hash.length_eq
  check_eq := by
    have hlength : (tag :: workchainByte account.workchain :: account.hash.bytes).length = 34 := by
      rw [List.length_cons, List.length_cons, account.hash.length_eq]
    rw [friendlyBytes, List.drop_left' hlength, List.take_left' hlength,
      ofBe_toBe_of_lt (crc16Xmodem _).isLt]
  remainder_eq := Crc16.crc_append_toBe _ _

/-- A byte is enough for a workchain of eight bits. -/
theorem workchainByte_inj {v w : Int} (hv : -128 ≤ v ∧ v < 128) (hw : -128 ≤ w ∧ w < 128)
    (h : workchainByte v = workchainByte w) : v = w := by
  have hmod : (v % 256).toNat = (w % 256).toNat := by
    have := congrArg UInt8.toNat h
    rw [workchainByte, workchainByte, UInt8.toNat_ofNat', UInt8.toNat_ofNat'] at this
    omega
  omega

/-- An account with a raw form is determined by its friendly form. -/
theorem friendlyBytes_inj {tag : UInt8} {account' : TonAccount} (hraw : IsRaw raw account)
    (hraw' : IsRaw raw' account') (h : friendlyBytes tag account = friendlyBytes tag account') :
    account = account' := by
  have hbound : ∀ {text : String} {a : TonAccount}, IsRaw text a →
      -128 ≤ a.workchain ∧ a.workchain < 128 := by
    intro text a ha
    obtain ⟨wc, hex, -, hwc, -⟩ := ha
    exact ((parseSigned_eq_some_iff (by decide)).mp hwc).2
  have hforms := isFriendlyOf_friendlyBytes tag account
  have hforms' := isFriendlyOf_friendlyBytes tag account'
  rw [h] at hforms
  have hworkchain : account.workchain = account'.workchain :=
    workchainByte_inj (hbound hraw) (hbound hraw')
      (Option.some.inj (hforms.workchain_eq.symm.trans hforms'.workchain_eq))
  have hhash : account.hash = account'.hash :=
    FixedBytes.ext (hforms.hash_eq.symm.trans hforms'.hash_eq)
  cases account
  cases account'
  cases hworkchain
  cases hhash
  rfl

/-! ## Where the conversion is faithful -/

/-- A clean text names an account in its raw form alone. -/
theorem TonClean.isRaw (h : TonClean raw) (hnames : TonNames raw account) : IsRaw raw account := by
  obtain ⟨wc, hex, rest, hsplit, hwc, hhash⟩ := hnames
  rcases h wc hex rest hsplit hhash.length_eq hhash.all with ⟨hsmall, rfl⟩ | ⟨hnone, -⟩
  · obtain ⟨⟨v, hv⟩, -⟩ := parseUnsigned_isSome_iff_both.mp hsmall
    have hwide := (parseSigned_eq_some_iff (by decide)).mp hv
    have hsame : parseSigned (2 ^ 31) wc = some v :=
      (parseSigned_eq_some_iff (by decide)).mpr ⟨hwide.1, by omega, by omega⟩
    cases hwc.symm.trans hsame
    exact isRaw_iff.mpr ⟨wc, hex, hsplit, hv, hhash⟩
  · rw [hnone] at hwc
    cases hwc

/-- The validator accepts a clean text exactly if it is a raw form. -/
theorem TonClean.valid_iff (h : TonClean raw) :
    ':' ∈ raw.toList ∧ isAddressValid p raw .ton = true ↔ ∃ account, IsRaw raw account := by
  rw [isAddressValid_raw_iff]
  constructor
  · rintro ⟨wc, hex, hsplit, hwc, hlength, hall⟩
    obtain ⟨hash, hhash⟩ := exists_isHash hlength hall
    rcases h wc hex [] hsplit hlength hall with ⟨hsmall, -⟩ | ⟨-, hnone⟩
    · obtain ⟨⟨v, hv⟩, -⟩ := parseUnsigned_isSome_iff_both.mp hsmall
      exact ⟨⟨v, hash⟩, isRaw_iff.mpr ⟨wc, hex, hsplit, hv, hhash⟩⟩
    · rw [hnone rfl] at hwc
      cases hwc
  · rintro ⟨account, hraw⟩
    obtain ⟨wc, hex, hsplit, hwc, hhash⟩ := isRaw_iff.mp hraw
    refine ⟨wc, hex, hsplit, ?_, hhash.length_eq, hhash.all⟩
    rcases h wc hex [] hsplit hhash.length_eq hhash.all with ⟨hsmall, -⟩ | ⟨hnone, -⟩
    · exact (parseUnsigned_isSome_iff_both.mp hsmall).2
    · obtain ⟨hnumber, hle, hlt⟩ := (parseSigned_eq_some_iff (by decide)).mp hwc
      have hsome := (parseSigned_eq_some_iff (by decide)).mpr
        ⟨hnumber, show -((2 ^ 31 : Nat) : Int) ≤ _ by omega,
          show _ < ((2 ^ 31 : Nat) : Int) by omega⟩
      cases hnone.symm.trans hsome

/-- **To which texts the conversion and the validator are faithful**: the clean ones. For any
    other text one of the readers accepts what is not the raw form of an account, or the friendly
    form holds another workchain. -/
theorem tonFaithful_iff (hencode : IsUrlSafeNoPad encode) :
    TonFaithful encode p raw ↔ TonClean raw := by
  constructor
  · intro h wc hex rest hsplit hlength hall
    obtain ⟨hash, hhash⟩ := exists_isHash hlength hall
    cases hwc : parseSigned (2 ^ 31) wc with
    | some v =>
      -- it is converted, so it is a raw form and valid
      have hnames : TonNames raw ⟨v, hash⟩ := ⟨wc, hex, rest, hsplit, hwc, hhash⟩
      obtain ⟨account, hraw⟩ :=
        (h.converts_iff true false).mp (tonRawToFriendly_isSome_iff.mpr ⟨_, hnames⟩)
      obtain ⟨wc', hex', hsplit', hwc', -⟩ := isRaw_iff.mp hraw
      obtain ⟨wc'', hex'', hsplit'', hwc'', -⟩ :=
        isAddressValid_raw_iff.mp (h.valid_iff.mpr ⟨account, hraw⟩)
      cases hsplit.symm.trans hsplit'
      cases hsplit.symm.trans hsplit''
      exact .inl ⟨parseUnsigned_isSome_iff_both.mpr ⟨⟨_, hwc'⟩, hwc''⟩, rfl⟩
    | none =>
      refine .inr ⟨rfl, fun hrest => ?_⟩
      subst hrest
      by_contra hbyte
      obtain ⟨account, hraw⟩ := h.valid_iff.mp (isAddressValid_raw_iff.mpr
        ⟨wc, hex, hsplit, Option.isSome_iff_ne_none.mpr hbyte, hlength, hall⟩)
      obtain ⟨wc', hex', rest', hsplit', hwc', -⟩ := hraw.names
      cases hsplit.symm.trans hsplit'
      cases hwc.symm.trans hwc'
  · intro h
    refine ⟨fun bounceable testnet => ?_, h.valid_iff, fun bounceable testnet friendly hsome => ?_⟩
    · rw [tonRawToFriendly_isSome_iff]
      exact ⟨fun ⟨account, hnames⟩ => ⟨account, h.isRaw hnames⟩,
        fun ⟨account, hraw⟩ => ⟨account, hraw.names⟩⟩
    · obtain ⟨account, hnames, rfl⟩ := tonRawToFriendly_eq_some_iff.mp hsome
      refine ⟨account, _, h.isRaw hnames, ?_, isFriendlyOf_friendlyBytes _ account⟩
      rw [hencode, Base64.decodeUrl_encodeUrl]

/-- **TON addresses are converted faithfully**, two texts at a time, and never to one friendly form
    if they name different accounts, if and only if both are clean. -/
theorem tonRawToFriendly_faithful_iff (encode : Bytes → String) (hencode : IsUrlSafeNoPad encode)
    (p : AddressParsers) (raw raw' : String) :
    TonFaithful encode p raw ∧ TonFaithful encode p raw' ∧ TonInjective encode raw raw' ↔
      TonClean raw ∧ TonClean raw' := by
  rw [tonFaithful_iff hencode, tonFaithful_iff hencode, ← and_assoc, and_iff_left_iff_imp]
  rintro ⟨hclean, hclean'⟩ bounceable testnet friendly h h'
  obtain ⟨account, hnames, rfl⟩ := tonRawToFriendly_eq_some_iff.mp h
  obtain ⟨account', hnames', hfriendly⟩ := tonRawToFriendly_eq_some_iff.mp h'
  have hsame := friendlyBytes_inj (hclean'.isRaw hnames') (hclean.isRaw hnames)
    (hencode.injective hfriendly)
  exact ⟨account, hnames, hsame ▸ hnames'⟩

/-- The standard encoder. -/
def urlSafeNoPad (bytes : Bytes) : String := String.ofList (Base64.encodeUrl bytes)

theorem isUrlSafeNoPad_urlSafeNoPad : IsUrlSafeNoPad urlSafeNoPad :=
  fun _ => String.toList_ofList

/-- The raw form of the hash of zeros, with this workchain. -/
def rawOfZeros (wc : String) : String := wc ++ ":" ++ String.ofList (List.replicate 64 '0')

theorem splitOn_rawOfZeros {wc : String} (h : ':' ∉ wc.toList) :
    (rawOfZeros wc).toList.splitOn ':' = [wc.toList, List.replicate 64 '0'] := by
  rw [rawOfZeros, toList_join, String.toList_ofList]
  exact splitOn_eq_pair_iff.mpr ⟨h, by decide, rfl⟩

theorem tonClean_rawOfZeros {wc : String} (hcolon : ':' ∉ wc.toList)
    (h : (parseUnsigned 100 wc.toList).isSome = true) : TonClean (rawOfZeros wc) := by
  intro wc' hex rest hsplit _ _
  cases (splitOn_rawOfZeros hcolon).symm.trans hsplit
  exact .inl ⟨h, rfl⟩

/-- The account of the hash of zeros in the basic workchain. -/
def zerosAccount : TonAccount := ⟨0, FixedBytes.ofNat 32 0⟩

theorem isRaw_rawOfZeros : IsRaw (rawOfZeros "0") zerosAccount :=
  isRaw_iff.mpr ⟨_, _, splitOn_rawOfZeros (by decide), by decide, by decide, by decide, by decide⟩

theorem tonRawToFriendly_faithful_zeros :
    TonFaithful urlSafeNoPad ⟨fun _ => none, fun _ => none⟩ (rawOfZeros "0") ∧
      TonFaithful urlSafeNoPad ⟨fun _ => none, fun _ => none⟩ (rawOfZeros "+99") ∧
        TonInjective urlSafeNoPad (rawOfZeros "0") (rawOfZeros "+99") :=
  (tonRawToFriendly_faithful_iff urlSafeNoPad isUrlSafeNoPad_urlSafeNoPad _ _ _).mpr
    ⟨tonClean_rawOfZeros (by decide) (by decide), tonClean_rawOfZeros (by decide) (by decide)⟩

/-- **Workchain 256** is converted as workchain 0 is. -/
theorem not_tonRawToFriendly_faithful :
    ¬ ∀ (encode : Bytes → String), IsUrlSafeNoPad encode →
      ∀ (p : AddressParsers) (raw raw' : String),
        TonFaithful encode p raw ∧ TonFaithful encode p raw' ∧ TonInjective encode raw raw' := by
  intro h
  obtain ⟨-, -, hinjective⟩ := h urlSafeNoPad isUrlSafeNoPad_urlSafeNoPad
    ⟨fun _ => none, fun _ => none⟩ (rawOfZeros "256") (rawOfZeros "0")
  have hlarge : parseSigned (2 ^ 31) "256".toList = some 256 := by decide
  have hsmall : parseSigned (2 ^ 31) "0".toList = some 0 := by decide
  obtain ⟨hash, hhash⟩ := @exists_isHash (List.replicate 64 '0') (by decide) (by decide)
  have hnames : TonNames (rawOfZeros "256") ⟨256, hash⟩ :=
    ⟨_, _, [], splitOn_rawOfZeros (by decide), hlarge, hhash⟩
  have hnames' : TonNames (rawOfZeros "0") ⟨0, hash⟩ :=
    ⟨_, _, [], splitOn_rawOfZeros (by decide), hsmall, hhash⟩
  obtain ⟨account, ⟨_, _, _, hsplit, hwc, -⟩, ⟨_, _, _, hsplit', hwc', -⟩⟩ :=
    hinjective true false _ (tonRawToFriendly_eq_some_iff.mpr ⟨_, hnames, rfl⟩)
      (tonRawToFriendly_eq_some_iff.mpr ⟨_, hnames', rfl⟩)
  -- one account would have both workchains
  cases (splitOn_rawOfZeros (by decide)).symm.trans hsplit
  cases (splitOn_rawOfZeros (by decide)).symm.trans hsplit'
  have hsame : (256 : Int) = 0 := Option.some.inj
    ((hlarge.symm.trans hwc).trans (hsmall.symm.trans hwc').symm)
  exact absurd hsame (by decide)

/-! ## The check: no remainder, and no burst of sixteen bits is missed -/

/-- **The check of the friendly forms.**  Behind its own check a text leaves no remainder, and two
    texts of one length that differ within sixteen bits in a row have different checks.  So what a
    friendly form decodes to passes, and nothing else that differs from it in such a window does. -/
theorem crc16Xmodem_residue_and_bursts :
    (∀ data, crc16Xmodem (data ++ toBe 2 (crc16Xmodem data).toNat) = 0) ∧
      (∀ data data' start, data.length = data'.length → data ≠ data' →
        Crc16.DiffersWithin start 16 data data' → crc16Xmodem data ≠ crc16Xmodem data') ∧
      ∀ encode raw bounceable testnet friendly,
        tonRawToFriendly encode raw bounceable testnet = some friendly →
        ∃ bytes, encode bytes = friendly ∧ crc16Xmodem bytes = 0 ∧
          ∀ received start, bytes.length = received.length → bytes ≠ received →
            Crc16.DiffersWithin start 16 bytes received → crc16Xmodem received ≠ 0 := by
  have hodd : (0x1021#16).getLsbD 0 = true := by decide
  refine ⟨Crc16.crc_append_toBe _, fun data data' start => Crc16.crc_ne_of_differsWithin hodd, ?_⟩
  intro encode raw bounceable testnet friendly h
  obtain ⟨account, -, hfriendly⟩ := tonRawToFriendly_eq_some_iff.mp h
  have hforms := isFriendlyOf_friendlyBytes (tonTag bounceable testnet) account
  refine ⟨_, hfriendly, hforms.remainder_eq, fun received start hlength hne hwindow hzero => ?_⟩
  exact Crc16.crc_ne_of_differsWithin hodd hlength hne hwindow
    (hforms.remainder_eq.trans hzero.symm)

/-- Two short texts, and the friendly form of the account of zeros. -/
theorem crc16Xmodem_residue_and_bursts_zeros :
    crc16Xmodem [0x31, 0x32] ≠ crc16Xmodem [0x31, 0x33] ∧
      ∃ bytes, tonRawToFriendly urlSafeNoPad (rawOfZeros "0") true false
        = some (urlSafeNoPad bytes) ∧ crc16Xmodem bytes = 0 := by
  constructor
  · refine crc16Xmodem_residue_and_bursts.2.1 _ _ 0 rfl (by decide) fun i hdiffer => ?_
    refine ⟨Nat.zero_le _, ?_⟩
    by_contra hbehind
    have hnone : ∀ data : Bytes, data.length = 2 → (Crc16.bits data)[i]? = none := by
      intro data hlength
      rw [List.getElem?_eq_none_iff, Crc16.length_bits, hlength]
      omega
    exact hdiffer ((hnone _ rfl).trans (hnone _ rfl).symm)
  · have hsome : tonRawToFriendly urlSafeNoPad (rawOfZeros "0") true false
        = some (urlSafeNoPad (friendlyBytes (tonTag true false) zerosAccount)) :=
      tonRawToFriendly_eq_some_iff.mpr ⟨_, isRaw_rawOfZeros.names, rfl⟩
    obtain ⟨bytes, hbytes, hzero, -⟩ := crc16Xmodem_residue_and_bursts.2.2 _ _ _ _ _ hsome
    exact ⟨bytes, hsome.trans (congrArg some hbytes.symm), hzero⟩

end BlockchainApi
