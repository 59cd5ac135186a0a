/-
  Ids of point-of-sale transactions (`TransactionId` of `src/handlers/json_rpc/pos/mod.rs`).

  An id is shown as the base64 form of `v1|<chain id>|<id>`, and read back when the wallet reports
  the transaction.  The two directions are separate facts, and `transactionId_roundTrips` has both.

  1. **The text.** Neither the version nor a chain id can have the delimiter in it, and the text is
     split into three parts at most, so the last part may (`joined_eq_iff`).  Texts of one or two
     parts are refused.
  2. **The bytes.** A text is its UTF-8 bytes, and bytes that are none are refused
     (`fromUtf8_eq_some_iff`).
  3. **The engine** of base64 belongs to another crate.  What is assumed of it is that it is
     canonical: it accepts exactly what it prints, as unpadded engines do that refuse left-over
     bits.
-/
import BlockchainApi.Lib.Base64
import BlockchainApi.Pos.Types
import BlockchainApi.Utils.Caip2

namespace BlockchainApi.Pos

open ByteCodec Delimited

/-! ## Texts as bytes -/

/-- The bytes of a text. -/
def utf8Bytes (s : String) : Bytes := s.toUTF8.data.toList

/-- `String::from_utf8`. -/
def fromUtf8 (bytes : Bytes) : Option String := String.fromUTF8? (ByteArray.mk bytes.toArray)

theorem fromUtf8_eq_some_iff {bytes : Bytes} {s : String} :
    fromUtf8 bytes = some s ↔ bytes = utf8Bytes s := by
  unfold fromUtf8 utf8Bytes String.fromUTF8?
  constructor
  · intro h
    split at h
    · cases h
      rfl
    · cases h
  · rintro rfl
    rw [Array.toArray_toList]
    exact dif_pos s.isValidUTF8

/-- `general_purpose::STANDARD_NO_PAD`. -/
structure Base64Engine where
  encode : Bytes → String
  decode : String → Option Bytes

/-- Exactly what is printed is accepted. -/
def Base64Engine.Canonical (engine : Base64Engine) : Prop :=
  ∀ text bytes, engine.decode text = some bytes ↔ engine.encode bytes = text

/-! ## Ids, shown and read back -/

/-- `TRANSACTION_ID_DELIMITER`. -/
def transactionIdDelimiter : Char := '|'

/-- `TRANSACTION_ID_VERSION`. -/
def transactionIdVersion : String := "v1"

/-- `TransactionIdError`. -/
inductive TransactionIdError where
  | invalidFormat (text : String)
  | invalidChainId (e : CryptoUtilsError)
  deriving DecidableEq

/-- `TransactionId`. -/
structure TransactionId where
  id : String
  chainId : Caip2ChainId
  version : String
  deriving DecidableEq

namespace TransactionId

/-- `TransactionId::from`. -/
def from_ (id : String) (chainId : Caip2ChainId) : TransactionId where
  id := id
  chainId := chainId
  version := transactionIdVersion

/-- `TransactionId::new`, from the UUID that is drawn. -/
def new (uuid : Uuid) (chainId : Caip2ChainId) : TransactionId := from_ uuid.display chainId

/-- The parts, joined with the delimiter. -/
def joined (t : TransactionId) : String :=
  String.ofList (t.version.toList ++ transactionIdDelimiter ::
    (t.chainId.display.toList ++ transactionIdDelimiter :: t.id.toList))

/-- `Display for TransactionId`. -/
def display (engine : Base64Engine) (t : TransactionId) : String :=
  engine.encode (utf8Bytes t.joined)

/-- The parts of the decoded text, read one after the other. -/
def readParts (decodedStr : String) : List (List Char) → Except TransactionIdError TransactionId
  | [] => .error (.invalidFormat decodedStr)
  | version :: parts =>
    if String.ofList version ≠ transactionIdVersion then .error (.invalidFormat decodedStr)
    else
      match parts with
      | [] => .error (.invalidFormat decodedStr)
      | chainIdStr :: parts => do
        let chainId ← (Caip2ChainId.parse (String.ofList chainIdStr)).mapError .invalidChainId
        match parts with
        | [] => .error (.invalidFormat decodedStr)
        | id :: _ => .ok (from_ (String.ofList id) chainId)

/-- `TransactionId::try_from`. -/
def tryFrom (engine : Base64Engine) (value : String) : Except TransactionIdError TransactionId :=
  match engine.decode value with
  | none => .error (.invalidFormat value)
  | some decoded =>
    match fromUtf8 decoded with
    | none => .error (.invalidFormat value)
    | some decodedStr =>
      readParts decodedStr (splitn transactionIdDelimiter 3 decodedStr.toList)

/-! ## Round trips: of the parts, of the text, of the bytes -/

theorem delimiter_notMem_version : transactionIdDelimiter ∉ transactionIdVersion.toList := by
  decide

theorem delimiter_notMem_chainId (c : Caip2ChainId) :
    transactionIdDelimiter ∉ c.display.toList :=
  c.notMem_display (by rw [← isReferenceChar_iff]; decide) (by decide)

theorem readParts_triple_eq_ok_iff {text : String} {version chainIdStr id : List Char}
    {t : TransactionId} :
    readParts text [version, chainIdStr, id] = .ok t ↔
      String.ofList version = t.version ∧ String.ofList chainIdStr = t.chainId.display ∧
        String.ofList id = t.id ∧ t.version = transactionIdVersion := by
  simp only [readParts, Except.ite_error_eq_ok, Except.mapError_bind_eq_ok, not_not,
    Caip2ChainId.parse_eq_ok_iff]
  constructor
  · rintro ⟨hversion, chainId, hchain, h⟩
    cases h
    exact ⟨hversion, hchain, rfl, rfl⟩
  · rintro ⟨hversion, hchain, hid, ht⟩
    refine ⟨hversion.trans ht, t.chainId, hchain, ?_⟩
    obtain ⟨id', chainId, version'⟩ := t
    cases hid
    cases ht
    rfl

/-- Fewer parts are refused. -/
theorem readParts_singleton_ne_ok {text : String} {version : List Char} {t : TransactionId} :
    readParts text [version] ≠ .ok t := by
  simp only [readParts, ne_eq, Except.ite_error_eq_ok, reduceCtorEq, and_false, not_false_eq_true]

theorem readParts_pair_ne_ok {text : String} {version chainIdStr : List Char} {t : TransactionId} :
    readParts text [version, chainIdStr] ≠ .ok t := by
  simp only [readParts, ne_eq, Except.ite_error_eq_ok, Except.mapError_bind_eq_ok, reduceCtorEq,
    and_false, exists_false, not_false_eq_true]

/-- **What is accepted** is a joined id of the version. The split is at the first two delimiters,
    and none of them is in the version or in the chain. -/
theorem joined_eq_iff {text : String} {t : TransactionId} :
    readParts text (splitn transactionIdDelimiter 3 text.toList) = .ok t ↔
      t.version = transactionIdVersion ∧ text = t.joined := by
  constructor
  · intro h
    obtain hsplit | ⟨version, chainIdStr, hsplit⟩ | ⟨version, chainIdStr, id, htext, hsplit⟩ :=
      splitn_three_cases transactionIdDelimiter text.toList
    · -- one part
      rw [hsplit] at h
      exact absurd h readParts_singleton_ne_ok
    · -- two parts
      rw [hsplit] at h
      exact absurd h readParts_pair_ne_ok
    · -- three parts: the last one may have the delimiter
      rw [hsplit] at h
      obtain ⟨hversion, hchain, hid, ht⟩ := readParts_triple_eq_ok_iff.mp h
      refine ⟨ht, ?_⟩
      rw [← String.toList_inj, htext, joined, String.toList_ofList, ← hversion, ← hchain, ← hid]
      simp only [String.toList_ofList]
  · rintro ⟨hversion, rfl⟩
    have hjoined : t.joined.toList = t.version.toList ++ transactionIdDelimiter ::
        (t.chainId.display.toList ++ transactionIdDelimiter :: t.id.toList) :=
      String.toList_ofList
    have hdelimiter : transactionIdDelimiter ∉ t.version.toList :=
      hversion ▸ delimiter_notMem_version
    rw [splitn_three_eq_triple_iff.mpr ⟨hdelimiter, delimiter_notMem_chainId t.chainId, hjoined⟩,
      readParts_triple_eq_ok_iff]
    simp only [String.ofList_toList, true_and]
    exact hversion

theorem tryFrom_eq_ok_iff {engine : Base64Engine} (hengine : engine.Canonical) {value : String}
    {t : TransactionId} :
    tryFrom engine value = .ok t ↔ t.version = transactionIdVersion ∧ value = t.display engine := by
  constructor
  · intro h
    unfold tryFrom at h
    split at h
    · cases h
    · rename_i decoded hdecoded
      split at h
      · cases h
      · rename_i decodedStr hstr
        obtain ⟨hversion, rfl⟩ := joined_eq_iff.mp h
        refine ⟨hversion, ?_⟩
        rw [display, ← fromUtf8_eq_some_iff.mp hstr, (hengine _ _).mp hdecoded]
  · rintro ⟨hversion, rfl⟩
    have hdecoded : engine.decode (t.display engine) = some (utf8Bytes t.joined) :=
      (hengine _ _).mpr rfl
    rw [tryFrom, hdecoded]
    dsimp only
    rw [fromUtf8_eq_some_iff.mpr rfl]
    exact joined_eq_iff.mpr ⟨hversion, rfl⟩

/-- **Transaction ids round-trip**, in both directions. -/
theorem transactionId_roundTrips {engine : Base64Engine} (hengine : engine.Canonical) :
    (∀ id chainId, tryFrom engine ((from_ id chainId).display engine) = .ok (from_ id chainId)) ∧
      ∀ value t, tryFrom engine value = .ok t → t.display engine = value :=
  ⟨fun _ _ => (tryFrom_eq_ok_iff hengine).mpr ⟨rfl, rfl⟩,
    fun _ _ h => ((tryFrom_eq_ok_iff hengine).mp h).2.symm⟩

/-! ## The engine that is used -/

/-- Base64 with the standard alphabet and without padding. -/
def standardNoPad : Base64Engine where
  encode bytes := String.ofList (Base64.encode bytes)
  decode text := Base64.decode text.toList

theorem standardNoPad_canonical : standardNoPad.Canonical := by
  intro text bytes
  show Base64.decode text.toList = some bytes ↔ String.ofList (Base64.encode bytes) = text
  rw [Base64.decode_eq_some_iff, ← String.toList_inj, String.toList_ofList]

/-- An id with delimiters in it. -/
theorem transactionId_roundTrips_demo :
    let t := from_ "a|b|" ⟨"eip155", "1", by decide, by decide⟩
    tryFrom standardNoPad (t.display standardNoPad) = .ok t :=
  (transactionId_roundTrips standardNoPad_canonical).1 _ _

end TransactionId

end BlockchainApi.Pos
