/-
  Broadcasting a signed Tron transaction (`src/handlers/json_rpc/pos/tron.rs`,
  `src/providers/quicknode.rs` and `src/providers/trongrid.rs`).

  The transaction is sent as an array of five parameters, which one of two providers reads.  Each
  has its own reader, and both are lenient: the flag may be a text, the raw data the text of a JSON
  value, and the signatures the text of an array of texts, or one text.

  1. **What is read of what** (`Reads`), parameter by parameter, in words that follow neither
     reader.
  2. **One reader for both.** The two readers are written differently and are the same function
     (`quicknode_eq_readParams`, `trongrid_eq_readParams`); what it reads is what `Reads` says
     (`readParams_eq_ok_iff`).
  3. **The hop** (`broadcast_survives`): what is sent is read as the transaction it was.  The raw
     data go through as a text that is written and read again, so this needs that the reader of JSON
     gives back what was written.

  JSON texts are written and read by another crate (`SerdeJson`).
-/
import BlockchainApi.Error
import BlockchainApi.Lib.Outcome
import BlockchainApi.Pos.Types
import BlockchainApi.Utils.Cors

namespace BlockchainApi

/-! ## JSON -/

/-- `Value::as_bool`. -/
def Value.asBool : Value → Option Bool
  | bool b => some b
  | _ => none

/-- `Value::as_array`. -/
def Value.asArray : Value → Option (List Value)
  | array items => some items
  | _ => none

/-- `serde_json`, with the texts of its errors. -/
structure SerdeJson where
  /-- `to_string`. -/
  toString : Value → Except String String
  /-- `from_str`. -/
  fromStr : String → Except String Value
  /-- `from_str::<Vec<String>>`. -/
  fromStrStrings : String → Except String (List String)

/-- The text of a value is read as the same value. -/
def SerdeJson.RoundTrips (json : SerdeJson) (v : Value) : Prop :=
  ∃ text, json.toString v = .ok text ∧ json.fromStr text = .ok v

end BlockchainApi

namespace BlockchainApi.Pos

/-! ## The parameters -/

/-- `SignedTransaction`. -/
structure SignedTransaction where
  rawData : Value
  rawDataHex : String
  txId : String
  visible : Option Bool
  signature : Option (List String)

/-- The parameters of `broadcast_transaction`. -/
def broadcastParams (json : SerdeJson) (tx : SignedTransaction) : Except RpcError Value :=
  match json.toString tx.rawData with
  | .error e => .error (.internal ("Failed to serialize raw_data: " ++ e))
  | .ok rawDataStr =>
    .ok (.array [.string tx.txId, .bool (tx.visible.getD false), .string rawDataStr,
      .string tx.rawDataHex, .array ((tx.signature.getD []).map .string)])

/-! ## The readers of the two providers -/

/-- What the provider is asked to broadcast. -/
structure BroadcastTransactionRequest where
  txid : String
  visible : Bool
  rawData : Value
  rawDataHex : String
  signature : List String

/-- `to_lowercase`, and then `"true"` or `"1"`; no other letter has one of these as its small
    form. -/
def isTrueText (s : String) : Bool :=
  lowercase s.toList = "true".toList || lowercase s.toList = "1".toList

/-- `starts_with('[') && ends_with(']')`. -/
def isBracketed (text : List Char) : Bool := text.head? = some '[' && text.getLast? = some ']'

section

open Outcome

variable (json : SerdeJson)

/-- `QuicknodeProvider::handle_tron_broadcast_transaction`, up to the broadcast. -/
def Quicknode.handleTronBroadcastTransaction (paramsValue : Value) :
    Outcome BlockchainApi.RpcError BroadcastTransactionRequest := do
  let params ← okOr paramsValue.asArray
    (.invalidParameter "Params must be an array for tron_broadcastTransaction method")
  match params with
  | [param0, param1, param2, param3, param4] =>
    let txid ← okOr param0.asStr (.invalidParameter "TxID is not a string")
    let visible :=
      match param1.asBool with
      | some b => b
      | none =>
        match param1.asStr with
        | some s => isTrueText s
        | none => false
    let rawData ← (match param2.asStr with
      | some s =>
        ofExcept (fun _ => .invalidParameter "Invalid JSON in raw_data parameter") (json.fromStr s)
      | none => ok param2)
    let rawDataHex ← okOr param3.asStr (.invalidParameter "Raw data hex is not a string")
    -- an array, or its text
    let signature ← (match param4.asArray with
      | some arr =>
        arr.mapM fun v =>
          okOr v.asStr (.invalidParameter "Signature array contains non-string element")
      | none =>
        match param4.asStr with
        | some s =>
          let trimmed := trim s.toList
          if isBracketed trimmed then
            ofExcept (fun e => .invalidParameter
              ("Signature must be a JSON array of strings when provided as a string: " ++ e))
              (json.fromStrStrings (String.ofList trimmed))
          else ok [s]
        | none =>
          err (.invalidParameter
            "Signature must be an array of strings or JSON-encoded array string"))
    return ⟨txid, visible, rawData, rawDataHex, signature⟩
  | _ =>
    err (.invalidParameter "Params array must be 5 elements for tron_broadcastTransaction method")

/-- `TrongridProvider::handle_tron_broadcast_transaction`, up to the broadcast. -/
def Trongrid.handleTronBroadcastTransaction (paramsValue : Value) :
    Outcome BlockchainApi.RpcError BroadcastTransactionRequest := do
  let params ← okOr paramsValue.asArray
    (.invalidParameter "Params must be an array for tron_broadcastTransaction method")
  match params with
  | [param0, param1, param2, param3, param4] =>
    let txid ← okOr param0.asStr (.invalidParameter "TxID is not a string")
    let visible :=
      match param1.asBool with
      | some b => b
      | none =>
        match param1.asStr with
        | some s => isTrueText s
        | none => false
    let rawData ← (match param2.asStr with
      | some s =>
        ofExcept (fun _ => .invalidParameter "Invalid JSON in raw_data parameter") (json.fromStr s)
      | none => ok param2)
    let rawDataHex ← okOr param3.asStr (.invalidParameter "Raw data hex is not a string")
    let signature ← (match param4.asArray with
      | some arr =>
        arr.mapM fun v =>
          okOr v.asStr (.invalidParameter "Signature array contains non-string element")
      | none =>
        match param4.asStr with
        | some s =>
          let trimmed := trim s.toList
          if isBracketed trimmed then
            ofExcept (fun e => .invalidParameter
              ("Signature must be a JSON array of strings when provided as a string: " ++ e))
              (json.fromStrStrings (String.ofList trimmed))
          else ok [s]
        | none =>
          err (.invalidParameter
            "Signature must be an array of strings or JSON-encoded array string"))
    return ⟨txid, visible, rawData, rawDataHex, signature⟩
  | _ =>
    err (.invalidParameter "Params array must be 5 elements for tron_broadcastTransaction method")

end

/-! ## What is read of what, in words of its own -/

/-- A flag, its text, or anything else. -/
inductive ReadsVisible : Value → Bool → Prop where
  | bool (b : Bool) : ReadsVisible (.bool b) b
  | text (s : String) : ReadsVisible (.string s) (isTrueText s)
  | absent (v : Value) (hbool : v.asBool = none) (htext : v.asStr = none) : ReadsVisible v false

/-- The text of a value, or a value that is not a text. -/
inductive ReadsRawData (json : SerdeJson) : Value → Value → Prop where
  | text (s : String) (v : Value) (h : json.fromStr s = .ok v) : ReadsRawData json (.string s) v
  | value (v : Value) (h : v.asStr = none) : ReadsRawData json v v

/-- An array of texts, its text, or one text. -/
inductive ReadsSignature (json : SerdeJson) : Value → List String → Prop where
  | array (texts : List String) : ReadsSignature json (.array (texts.map .string)) texts
  | text (s : String) (texts : List String) (hbrackets : isBracketed (trim s.toList) = true)
      (h : json.fromStrStrings (String.ofList (trim s.toList)) = .ok texts) :
      ReadsSignature json (.string s) texts
  | one (s : String) (hbrackets : isBracketed (trim s.toList) = false) :
      ReadsSignature json (.string s) [s]

/-- **The parameters are read as a transaction.** -/
inductive Reads (json : SerdeJson) : Value → BroadcastTransactionRequest → Prop where
  | params {visible rawData signature : Value} {tx : BroadcastTransactionRequest}
      (hvisible : ReadsVisible visible tx.visible) (hrawData : ReadsRawData json rawData tx.rawData)
      (hsignature : ReadsSignature json signature tx.signature) :
      Reads json
        (.array [.string tx.txid, visible, rawData, .string tx.rawDataHex, signature]) tx

/-! ## One reader for both, and what it reads -/

section Reader

open Outcome

variable {json : SerdeJson} {v rawData : Value} {b : Bool} {texts : List String}
  {tx : BroadcastTransactionRequest}

/-- The flag. -/
def readVisible (v : Value) : Bool :=
  match v.asBool with
  | some b => b
  | none =>
    match v.asStr with
    | some s => isTrueText s
    | none => false

/-- The raw data. -/
def readRawData (json : SerdeJson) (v : Value) : Outcome BlockchainApi.RpcError Value :=
  match v.asStr with
  | some s =>
    ofExcept (fun _ => .invalidParameter "Invalid JSON in raw_data parameter") (json.fromStr s)
  | none => ok v

/-- The signatures. -/
def readSignature (json : SerdeJson) (v : Value) : Outcome BlockchainApi.RpcError (List String) :=
  match v.asArray with
  | some arr =>
    arr.mapM fun v => okOr v.asStr (.invalidParameter "Signature array contains non-string element")
  | none =>
    match v.asStr with
    | some s =>
      let trimmed := trim s.toList
      if isBracketed trimmed then
        ofExcept (fun e => .invalidParameter
          ("Signature must be a JSON array of strings when provided as a string: " ++ e))
          (json.fromStrStrings (String.ofList trimmed))
      else ok [s]
    | none =>
      err (.invalidParameter "Signature must be an array of strings or JSON-encoded array string")

/-- The five parameters. -/
def readParams (json : SerdeJson) (paramsValue : Value) :
    Outcome BlockchainApi.RpcError BroadcastTransactionRequest := do
  let params ← okOr paramsValue.asArray
    (.invalidParameter "Params must be an array for tron_broadcastTransaction method")
  match params with
  | [param0, param1, param2, param3, param4] =>
    let txid ← okOr param0.asStr (.invalidParameter "TxID is not a string")
    let rawData ← readRawData json param2
    let rawDataHex ← okOr param3.asStr (.invalidParameter "Raw data hex is not a string")
    let signature ← readSignature json param4
    return ⟨txid, readVisible param1, rawData, rawDataHex, signature⟩
  | _ =>
    err (.invalidParameter "Params array must be 5 elements for tron_broadcastTransaction method")

theorem quicknode_eq_readParams :
    Quicknode.handleTronBroadcastTransaction json = readParams json := rfl

theorem trongrid_eq_readParams :
    Trongrid.handleTronBroadcastTransaction json = readParams json := rfl

theorem asStr_eq_some_iff {s : String} : v.asStr = some s ↔ v = .string s := by
  cases v <;> simp [Value.asStr]

theorem asArray_eq_some_iff {items : List Value} : v.asArray = some items ↔ v = .array items := by
  cases v <;> simp [Value.asArray]

theorem asBool_eq_some_iff : v.asBool = some b ↔ v = .bool b := by
  cases v <;> simp [Value.asBool]

theorem readVisible_iff : readVisible v = b ↔ ReadsVisible v b := by
  constructor
  · rintro rfl
    unfold readVisible
    split
    · rename_i hbool
      rw [asBool_eq_some_iff.mp hbool]
      exact .bool _
    · rename_i hbool
      split
      · rename_i htext
        rw [asStr_eq_some_iff.mp htext]
        exact .text _
      · rename_i htext
        exact .absent v hbool htext
  · intro h
    cases h with
    | bool => rfl
    | text => rfl
    | absent _ hbool htext => rw [readVisible, hbool, htext]

theorem readRawData_eq_ok_iff : readRawData json v = ok rawData ↔ ReadsRawData json v rawData := by
  constructor
  · intro h
    unfold readRawData at h
    split at h
    · rename_i htext
      rw [asStr_eq_some_iff.mp htext]
      exact .text _ _ (ofExcept_eq_ok.mp h)
    · rename_i htext
      cases h
      exact .value v htext
  · intro h
    cases h with
    | text s _ h => exact ofExcept_eq_ok.mpr h
    | value _ htext => rw [readRawData, htext]

/-- An array of texts. -/
theorem mapM_asStr_eq_ok_iff {e : BlockchainApi.RpcError} {items : List Value} :
    items.mapM (fun v => okOr v.asStr e) = ok texts ↔ items = texts.map .string :=
  mapM_eq_ok_iff_eq_map fun _ _ => okOr_eq_ok.trans asStr_eq_some_iff

theorem readSignature_eq_ok_iff :
    readSignature json v = ok texts ↔ ReadsSignature json v texts := by
  constructor
  · intro h
    unfold readSignature at h
    split at h
    · rename_i arr harray
      rw [asArray_eq_some_iff.mp harray, mapM_asStr_eq_ok_iff.mp h]
      exact .array texts
    · split at h
      · rename_i s htext
        rw [asStr_eq_some_iff.mp htext]
        dsimp only at h
        split at h
        · rename_i hbrackets
          exact .text s texts hbrackets (ofExcept_eq_ok.mp h)
        · rename_i hbrackets
          cases h
          exact .one s (Bool.eq_false_iff.mpr hbrackets)
      · cases h
  · intro h
    cases h with
    | array => exact mapM_asStr_eq_ok_iff.mpr rfl
    | text s _ hbrackets h => exact (if_pos hbrackets).trans (ofExcept_eq_ok.mpr h)
    | one s hbrackets => exact if_neg (Bool.eq_false_iff.mp hbrackets)

/-- **What is read of the parameters.** -/
theorem readParams_eq_ok_iff : readParams json v = ok tx ↔ Reads json v tx := by
  constructor
  · intro h
    obtain ⟨params, harray, h⟩ := bind_eq_ok.mp h
    rw [asArray_eq_some_iff.mp (okOr_eq_ok.mp harray)]
    split at h
    · obtain ⟨txid, htxid, h⟩ := bind_eq_ok.mp h
      obtain ⟨rawData, hrawData, h⟩ := bind_eq_ok.mp h
      obtain ⟨rawDataHex, hrawDataHex, h⟩ := bind_eq_ok.mp h
      obtain ⟨signature, hsignature, h⟩ := bind_eq_ok.mp h
      cases h
      rw [asStr_eq_some_iff.mp (okOr_eq_ok.mp htxid),
        asStr_eq_some_iff.mp (okOr_eq_ok.mp hrawDataHex)]
      exact @Reads.params json _ _ _ ⟨txid, _, rawData, rawDataHex, signature⟩
        (readVisible_iff.mp rfl) (readRawData_eq_ok_iff.mp hrawData)
        (readSignature_eq_ok_iff.mp hsignature)
    · cases h
  · intro h
    cases h with
    | @params visible rawData signature _ hvisible hrawData hsignature =>
      refine bind_eq_ok.mpr ⟨_, rfl, bind_eq_ok.mpr ⟨_, rfl, ?_⟩⟩
      refine bind_eq_ok.mpr ⟨_, readRawData_eq_ok_iff.mpr hrawData, bind_eq_ok.mpr ⟨_, rfl, ?_⟩⟩
      refine bind_eq_ok.mpr ⟨_, readSignature_eq_ok_iff.mpr hsignature, ?_⟩
      rw [readVisible_iff.mpr hvisible]
      rfl

end Reader

/-! ## The hop from the check to the provider -/

/-- What the transaction asks to broadcast: without a flag it is not visible, and without signatures
    it has none. -/
def SignedTransaction.request (tx : SignedTransaction) : BroadcastTransactionRequest where
  txid := tx.txId
  visible := tx.visible.getD false
  rawData := tx.rawData
  rawDataHex := tx.rawDataHex
  signature := tx.signature.getD []

/-- **What is sent is what is read.** -/
theorem reads_broadcastParams {json : SerdeJson} {tx : SignedTransaction}
    (htext : json.RoundTrips tx.rawData) :
    ∃ params, broadcastParams json tx = .ok params ∧ Reads json params tx.request := by
  obtain ⟨text, hwritten, hread⟩ := htext
  refine ⟨_, by rw [broadcastParams, hwritten], ?_⟩
  exact @Reads.params json _ _ _ tx.request (.bool _) (.text text _ hread) (.array _)

/-- **A broadcast survives the hop.**  Both readers read the parameters of a signed transaction as
    this transaction, if the text of its raw data is read as the same value; and of any parameters
    both read the same, or none does. -/
theorem broadcast_survives (json : SerdeJson) :
    (∀ tx : SignedTransaction, json.RoundTrips tx.rawData →
      ∃ params, broadcastParams json tx = .ok params ∧
        Quicknode.handleTronBroadcastTransaction json params = .ok tx.request ∧
          Trongrid.handleTronBroadcastTransaction json params = .ok tx.request) ∧
      ∀ params request, Quicknode.handleTronBroadcastTransaction json params = .ok request ↔
        Trongrid.handleTronBroadcastTransaction json params = .ok request := by
  rw [quicknode_eq_readParams, trongrid_eq_readParams]
  constructor
  · intro tx htext
    obtain ⟨params, hparams, hreads⟩ := reads_broadcastParams htext
    exact ⟨params, hparams, readParams_eq_ok_iff.mpr hreads, readParams_eq_ok_iff.mpr hreads⟩
  · exact fun params request => Iff.rfl

/-- The only text is that of `"[1]"`. -/
def quotedJson : SerdeJson where
  toString
    | .string "[1]" => .ok "\"[1]\""
    | _ => .error "unsupported"
  fromStr s := if s = "\"[1]\"" then .ok (.string "[1]") else .error "unsupported"
  fromStrStrings _ := .error "unsupported"

/-- A transaction whose raw data is itself a text. -/
def quotedTransaction : SignedTransaction := ⟨.string "[1]", "0a02", "7c2d", none, some ["[]"]⟩

/-- It arrives. -/
theorem broadcast_survives_quoted :
    ∃ params, broadcastParams quotedJson quotedTransaction = .ok params ∧
      Quicknode.handleTronBroadcastTransaction quotedJson params = .ok quotedTransaction.request ∧
        Trongrid.handleTronBroadcastTransaction quotedJson params = .ok quotedTransaction.request :=
  (broadcast_survives quotedJson).1 quotedTransaction ⟨_, rfl, rfl⟩

end BlockchainApi.Pos
