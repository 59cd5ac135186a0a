/-
  The history of a TON account (`get_transactions`, `src/providers/toncenter.rs`).

  A transaction is an incoming transfer if its destination is the account that was asked for.  The
  source writes the destination in one of the friendly forms of an account, the bounceable one, and
  compares it with the address as it was asked for, without regard to case.  An account has other
  spellings, and the symbols of base64 are told apart by their case, so the label is right if and
  only if the spelling is (`Spelling`, `directions_right_iff`).

  1. **The page.** Each message with an amount becomes one transfer, whose direction and operation
     say the same thing (`tonHistoryTransaction_of_some`).
  2. **Spellings.** An account has a raw form and two friendly ones, which differ in their first
     letter (`IsFriendlySpelling.head?_eq`); a raw form has a colon and a friendly one has none.  So
     a spelling that is the bounceable form in other letters is that form
     (`TonDenotes.sameButCase_iff`).
  3. **The labels.** Of one transaction (`directionRight_iff`), and of every page; the condition
     does not mention the transaction, apart from its having an amount.
-/
import BlockchainApi.Providers.SolScan
import BlockchainApi.Utils.TonAddress

namespace BlockchainApi

open ByteCodec

/-! ## Transactions, and how a page of them is asked for -/

/-- `TonTxId`. -/
structure TonTxId where
  lt : String
  hash : String

/-- `TonMessage`, as far as it is read. -/
structure TonMessage where
  source : Option String
  destination : Option String
  /-- In nanotons. -/
  value : Option String

/-- `TonTransaction`, as far as it is read. -/
structure TonTransaction where
  utime : Nat
  lt : Option String
  hash : Option String
  transactionId : Option TonTxId
  inMsg : Option TonMessage
  prevTransLt : Option String
  prevTransHash : Option String

/-- `TON_MAINNET_CHAIN_ID`. -/
def tonMainnetChainId : String := "ton:-239"

/-- `TONCENTER_HISTORY_PAGE_SIZE`. -/
def toncenterHistoryPageSize : Nat := 100

/-- The native token. -/
def tonNativeToken : HistoryTransactionFungibleInfo where
  name := some "Toncoin"
  symbol := some "TON"
  icon := some "https://ton.org/img/ton_symbol.png"

/-- What the history asks of other crates. -/
structure TonFormats where
  /-- `URL_SAFE_NO_PAD.encode`. -/
  encode : Bytes → String
  /-- The number of nanotons as a number of tons, `amount.to_string()`. -/
  amount : Nat → String
  /-- The time, in the format `%Y-%m-%dT%H:%M:%SZ`. -/
  minedAt : Nat → String

/-- `lt` and `hash`, of the transaction or else of its id. -/
def TonTransaction.ltHash (tx : TonTransaction) : String × String :=
  match tx.lt, tx.hash, tx.transactionId with
  | some lt, some hash, _ => (lt, hash)
  | _, _, some id => (id.lt, id.hash)
  | _, _, _ => ("", "")

/-- `from_raw`. -/
def TonTransaction.fromRaw (tx : TonTransaction) : String := (tx.inMsg.bind (·.source)).getD ""

/-- `to_raw`. -/
def TonTransaction.toRaw (tx : TonTransaction) : String := (tx.inMsg.bind (·.destination)).getD ""

/-- The number of nanotons that were sent. -/
def TonTransaction.nanotons (tx : TonTransaction) : Option Nat :=
  (tx.inMsg.bind (·.value)).bind fun v => parseUnsigned (2 ^ 128) v.toList

/-- `eq_ignore_ascii_case`. -/
def eqIgnoreAsciiCase (s t : String) : Bool :=
  s.toList.map Char.toLower == t.toList.map Char.toLower

section

variable {F : Type} (f : TonFormats)

/-- One transaction of the history of an address. -/
def tonHistoryTransaction (address : String) (tx : TonTransaction) : HistoryTransaction F :=
  let from_ := toFriendlyIfRaw f.encode tx.fromRaw
  let to_ := toFriendlyIfRaw f.encode tx.toRaw
  let transfer : Option (HistoryTransactionTransfer F) := tx.nanotons.map fun nanotons =>
    { fungibleInfo := some tonNativeToken
      direction := if eqIgnoreAsciiCase to_ address then "in" else "out"
      quantity := f.amount nanotons
      value := none
      price := none }
  let operationType := match transfer with
    | some t => if t.direction = "in" then "receive" else "send"
    | none => "execute"
  { id := tx.ltHash.1
    metadata :=
      { operationType := operationType
        hash := tx.ltHash.2
        minedAt := f.minedAt tx.utime
        sentFrom := from_
        sentTo := to_
        status := "confirmed"
        nonce := 0
        chain := some tonMainnetChainId }
    transfers := transfer.map fun t => [t] }

/-- The cursor of the next page: what was before the last transaction, or else that one. -/
def tonNext (transactions : List TonTransaction) : Option String :=
  match transactions.getLast? with
  | none => none
  | some last =>
    let own := if last.ltHash.1 = "" ∨ last.ltHash.2 = "" then none
      else some (last.ltHash.1 ++ ":" ++ last.ltHash.2)
    match last.prevTransLt, last.prevTransHash with
    | some plt, some ph => if plt ≠ "" ∧ ph ≠ "" then some (plt ++ ":" ++ ph) else own
    | _, _ => own

/-- The request for a page. -/
structure TonHistoryRequest where
  account : String
  limit : Nat
  beforeLt : Option String
  beforeHash : Option String

/-- `before_lt` and `before_hash`, of the cursor. -/
def tonBefore (cursor : Option String) : Option String × Option String :=
  match cursor.map fun cursor => cursor.toList.splitOn ':' with
  | some [lt, hash] => (some (String.ofList lt), some (String.ofList hash))
  | _ => (none, none)

/-- `get_transactions`, of an upstream that answers with a page or an error. -/
def tonGetTransactions (send : TonHistoryRequest → Except RpcError (List TonTransaction))
    (address : String) (cursor : Option String) : Except RpcError (HistoryResponseBody F) := do
  let before := tonBefore cursor
  let transactions ← send ⟨address, toncenterHistoryPageSize, before.1, before.2⟩
  return ⟨transactions.map (tonHistoryTransaction f address), tonNext transactions⟩

end

/-! ## Spellings of an account -/

/-- A friendly form of an account: the tag of a bounceable one, or of one that is not. -/
def IsFriendlySpelling (query : String) (account : TonAccount) (bounceable : Bool) : Prop :=
  ∃ bytes, Base64.decodeUrl query.toList = some bytes ∧
    IsFriendlyOf account (tonTag bounceable false) bytes

/-- **The text denotes the account**, in its raw form or in a friendly one. -/
def TonDenotes (query : String) (account : TonAccount) : Prop :=
  IsRaw query account ∨ ∃ bounceable, IsFriendlySpelling query account bounceable

/-- The bounceable form of an account. -/
def bounceableForm (f : TonFormats) (account : TonAccount) : String :=
  f.encode (friendlyBytes (tonTag true false) account)

/-- **What the labels need of the spelling** of the address that was asked for.  If it denotes the
    destination, it is the bounceable form; if not, it is not that form in other letters. -/
structure Spelling (f : TonFormats) (query : String) (destination : TonAccount) : Prop where
  bounceable : TonDenotes query destination → IsFriendlySpelling query destination true
  differs : ¬ TonDenotes query destination → ¬ SameButCase query (bounceableForm f destination)

/-- **A transaction is labelled right**: as an incoming one exactly if the address that was asked
    for denotes the destination. -/
structure DirectionRight {F : Type} (query : String) (destination : TonAccount)
    (item : HistoryTransaction F) : Prop where
  direction : ∀ transfers, item.transfers = some transfers → ∀ t ∈ transfers,
    t.direction = "in" ↔ TonDenotes query destination
  operation : ∀ transfers, item.transfers = some transfers →
    (item.metadata.operationType = "receive" ↔ TonDenotes query destination)

variable {F : Type} {f : TonFormats} {query address : String} {account destination : TonAccount}
  {tx : TonTransaction}

/-! ## The three kinds of spellings, told apart by a letter and a colon -/

theorem eqIgnoreAsciiCase_iff {s t : String} : eqIgnoreAsciiCase s t = true ↔ SameButCase s t := by
  rw [eqIgnoreAsciiCase, beq_iff_eq, SameButCase]

/-- The bytes of a friendly form are determined by the account and the tag. -/
theorem IsFriendlyOf.eq {tag : UInt8} {bytes : Bytes} (h : IsFriendlyOf account tag bytes) :
    bytes = friendlyBytes tag account := by
  obtain ⟨b, bytes, rfl⟩ : ∃ b rest, bytes = b :: rest := by
    cases bytes with
    | nil => cases h.tag_eq
    | cons b rest => exact ⟨b, rest, rfl⟩
  obtain ⟨c, bytes, rfl⟩ : ∃ c rest, bytes = c :: rest := by
    cases bytes with
    | nil => cases h.workchain_eq
    | cons c rest => exact ⟨c, rest, rfl⟩
  cases Option.some.inj h.tag_eq
  cases Option.some.inj h.workchain_eq
  have hhash : bytes.take 32 = account.hash.bytes := h.hash_eq
  have hlength : (bytes.drop 32).length = 2 := by
    have := h.length_eq
    rw [List.length_cons, List.length_cons] at this
    rw [List.length_drop]
    omega
  have hcheck : ofBe (bytes.drop 32) =
      (crc16Xmodem (tag :: workchainByte account.workchain :: account.hash.bytes)).toNat := by
    rw [← hhash]
    exact h.check_eq
  rw [friendlyBytes, ← hcheck, ← hlength, toBe_ofBe, ← hhash, List.cons_append, List.cons_append,
    List.take_append_drop]

/-- A friendly spelling is the encoding of these bytes. -/
theorem IsFriendlySpelling.toList_eq {bounceable : Bool}
    (h : IsFriendlySpelling query account bounceable) :
    query.toList = Base64.encodeUrl (friendlyBytes (tonTag bounceable false) account) := by
  obtain ⟨bytes, hdecode, hfriendly⟩ := h
  rw [← hfriendly.eq, Base64.encodeUrl_of_decodeUrl hdecode]

theorem isFriendlySpelling_bounceableForm (hencode : IsUrlSafeNoPad f.encode)
    (account : TonAccount) : IsFriendlySpelling (bounceableForm f account) account true :=
  ⟨_, by rw [bounceableForm, hencode, Base64.decodeUrl_encodeUrl],
    isFriendlyOf_friendlyBytes _ account⟩

/-- The first letter of a friendly form. -/
theorem IsFriendlySpelling.head?_eq {bounceable : Bool}
    (h : IsFriendlySpelling query account bounceable) :
    query.toList.head? = some (if bounceable then 'E' else 'U') := by
  rw [h.toList_eq, friendlyBytes, List.cons_append, Base64.head?_encodeUrl]
  cases bounceable <;> decide

/-- A friendly form has no colon. -/
theorem IsFriendlySpelling.colon_notMem {bounceable : Bool}
    (h : IsFriendlySpelling query account bounceable) : ':' ∉ query.toList := by
  have hsymbols : ∀ n < 64, Base64.urlSafe (Base64.symbol n) ≠ ':' := by decide +kernel
  rw [h.toList_eq]
  exact fun hcolon => @Base64.forall_mem_encodeUrl (· ≠ ':') hsymbols _ ':' hcolon rfl

/-- Only a colon becomes one in small letters. -/
theorem colon_mem_of_sameButCase {s t : String} (h : SameButCase s t) (hs : ':' ∈ s.toList) :
    ':' ∈ t.toList := by
  have hmem : ':' ∈ t.toList.map Char.toLower :=
    h ▸ List.mem_map.mpr ⟨':', hs, by decide⟩
  obtain ⟨c, hc, hlower⟩ := List.mem_map.mp hmem
  have hcolon : c = ':' := eq_of_toLower_eq hlower (by decide)
  exact hcolon ▸ hc

/-- **A spelling of an account** is its bounceable form in other letters only if it is that
    form. -/
theorem TonDenotes.sameButCase_iff (hencode : IsUrlSafeNoPad f.encode)
    (h : TonDenotes query account) :
    SameButCase query (bounceableForm f account) ↔ IsFriendlySpelling query account true := by
  have hform := isFriendlySpelling_bounceableForm hencode account
  constructor
  · intro hsame
    obtain ⟨wc, hex, htext, -⟩ | ⟨bounceable, hquery⟩ := h
    · have hcolon : ':' ∈ query.toList := by
        rw [htext]
        exact List.mem_append_right _ List.mem_cons_self
      exact absurd (colon_mem_of_sameButCase hsame hcolon) hform.colon_notMem
    · cases bounceable with
      | true => exact hquery
      | false =>
        have hhead := congrArg List.head? hsame
        rw [List.head?_map, List.head?_map, hquery.head?_eq, hform.head?_eq] at hhead
        exact absurd (Option.some.inj hhead) (by decide)
  · intro hquery
    have heq : query = bounceableForm f account :=
      String.toList_inj.mp (hquery.toList_eq.trans hform.toList_eq.symm)
    rw [heq, SameButCase]

/-! ## Where the labels are right, for one transaction and for a page -/

/-- **A raw destination** is shown in its bounceable form. -/
theorem toFriendlyIfRaw_of_isRaw {raw : String} (h : IsRaw raw account) :
    toFriendlyIfRaw f.encode raw = bounceableForm f account := by
  have hcolon : ':' ∈ raw.toList := by
    obtain ⟨wc, hex, htext, -⟩ := h
    rw [htext]
    exact List.mem_append_right _ List.mem_cons_self
  have hsome : tonRawToFriendly f.encode raw true false = some (bounceableForm f account) :=
    tonRawToFriendly_eq_some_iff.mpr ⟨account, h.names, rfl⟩
  rw [toFriendlyIfRaw, if_pos (List.contains_iff_mem.mpr hcolon), hsome, Option.getD_some]

theorem ite_eq_left_iff_of_ne {a b : String} (hne : b ≠ a) {c : Prop} [Decidable c] :
    (if c then a else b) = a ↔ c := by
  by_cases hc : c
  · rw [if_pos hc]
    exact ⟨fun _ => hc, fun _ => rfl⟩
  · rw [if_neg hc]
    exact ⟨fun h => absurd h hne, fun h => absurd h hc⟩

/-- A transaction that sends something has one transfer, and both labels say whether it is equal
    but for case. -/
theorem tonHistoryTransaction_of_some {nanotons : Nat} (h : tx.nanotons = some nanotons) :
    ∃ t, (tonHistoryTransaction (F := F) f query tx).transfers = some [t] ∧
      (t.direction = "in" ↔ SameButCase (toFriendlyIfRaw f.encode tx.toRaw) query) ∧
      ((tonHistoryTransaction (F := F) f query tx).metadata.operationType = "receive" ↔
        SameButCase (toFriendlyIfRaw f.encode tx.toRaw) query) := by
  rw [← eqIgnoreAsciiCase_iff]
  simp only [tonHistoryTransaction, h, Option.map_some]
  refine ⟨_, rfl, ite_eq_left_iff_of_ne (by decide), ?_⟩
  rw [ite_eq_left_iff_of_ne (by decide), ite_eq_left_iff_of_ne (by decide)]

/-- **One transaction** is labelled right if and only if it sends nothing or the spelling is what
    the labels need. -/
theorem directionRight_iff (hencode : IsUrlSafeNoPad f.encode)
    (hraw : IsRaw tx.toRaw destination) :
    DirectionRight query destination (tonHistoryTransaction (F := F) f query tx) ↔
      (tx.nanotons.isSome = true → Spelling f query destination) := by
  cases hnanotons : tx.nanotons with
  | none =>
    -- a message without an amount has no transfer, and no label
    have hnone : (tonHistoryTransaction (F := F) f query tx).transfers = none := by
      simp only [tonHistoryTransaction, hnanotons, Option.map_none]
    refine ⟨fun _ h => absurd h Bool.false_ne_true, fun _ => ⟨fun _ h => ?_, fun _ h => ?_⟩⟩
    · cases hnone.symm.trans h
    · cases hnone.symm.trans h
  | some nanotons =>
    -- it has one transfer, and both labels compare the same two texts
    obtain ⟨t, htransfers, hdirection, hoperation⟩ :=
      @tonHistoryTransaction_of_some F f query tx nanotons hnanotons
    have hsame : SameButCase (toFriendlyIfRaw f.encode tx.toRaw) query ↔
        SameButCase query (bounceableForm f destination) := by
      rw [toFriendlyIfRaw_of_isRaw hraw]
      exact ⟨Eq.symm, Eq.symm⟩
    rw [hsame] at hdirection hoperation
    constructor
    · intro h _
      have hlabel := hdirection.symm.trans (h.direction _ htransfers t List.mem_cons_self)
      exact ⟨fun hdenotes => (hdenotes.sameButCase_iff hencode).mp (hlabel.mpr hdenotes),
        fun hnot hcase => hnot (hlabel.mp hcase)⟩
    · intro h
      have hspelling := h rfl
      have hlabel : SameButCase query (bounceableForm f destination) ↔
          TonDenotes query destination := by
        refine ⟨fun hcase => ?_, fun hdenotes => ?_⟩
        · by_contra hnot
          exact hspelling.differs hnot hcase
        · exact (hdenotes.sameButCase_iff hencode).mpr (hspelling.bounceable hdenotes)
      refine ⟨fun transfers htransfers' t' ht' => ?_, fun _ _ => hoperation.trans hlabel⟩
      cases htransfers.symm.trans htransfers'
      rw [List.mem_singleton.mp ht']
      exact hdirection.trans hlabel

/-- **The labels of a page** are right, for all transactions to a raw destination, if and only if
    the spelling of the address that was asked for is what the labels need. -/
theorem directions_right_iff (f : TonFormats) (hencode : IsUrlSafeNoPad f.encode)
    (send : TonHistoryRequest → Except RpcError (List TonTransaction)) (address : String)
    (cursor : Option String) (response : HistoryResponseBody F)
    (h : tonGetTransactions f send address cursor = .ok response) :
    ∃ transactions, send ⟨address, toncenterHistoryPageSize, (tonBefore cursor).1,
        (tonBefore cursor).2⟩ = .ok transactions ∧
      (List.Forall₂ (fun tx item => ∀ destination, IsRaw tx.toRaw destination →
          DirectionRight address destination item) transactions response.data ↔
        ∀ tx ∈ transactions, ∀ destination, IsRaw tx.toRaw destination →
          tx.nanotons.isSome = true → Spelling f address destination) := by
  obtain ⟨transactions, hsend, hresponse⟩ := Except.bind_eq_ok.mp h
  cases hresponse
  refine ⟨transactions, hsend, ?_⟩
  rw [List.forall₂_map_right_iff, List.forall₂_same]
  constructor
  · intro hright tx htx destination hraw
    exact (directionRight_iff hencode hraw).mp (hright tx htx destination hraw)
  · intro hspelling tx htx destination hraw
    exact (directionRight_iff hencode hraw).mpr (hspelling tx htx destination hraw)

/-! ## A transfer to the account of zeros -/

/-- Formats that are as good as any. -/
def plainFormats : TonFormats := ⟨urlSafeNoPad, fun nanotons => toString nanotons, toString⟩

/-- One nanoton to the account of zeros. -/
def toZeros : TonTransaction where
  utime := 0
  lt := some "1"
  hash := some "AA=="
  transactionId := none
  inMsg := some ⟨none, some (rawOfZeros "0"), some "1"⟩
  prevTransLt := none
  prevTransHash := none

/-- The upstream has this one transaction. -/
def sendToZeros (_ : TonHistoryRequest) : Except RpcError (List TonTransaction) := .ok [toZeros]

theorem isUrlSafeNoPad_plainFormats : IsUrlSafeNoPad plainFormats.encode :=
  isUrlSafeNoPad_urlSafeNoPad

theorem isRaw_toZeros : IsRaw toZeros.toRaw zerosAccount := isRaw_rawOfZeros

theorem spelling_bounceableForm (hencode : IsUrlSafeNoPad f.encode) (account : TonAccount) :
    Spelling f (bounceableForm f account) account where
  bounceable _ := isFriendlySpelling_bounceableForm hencode account
  differs hnot := absurd (.inr ⟨true, isFriendlySpelling_bounceableForm hencode account⟩) hnot

/-- The page that is asked for first. -/
theorem tonGetTransactions_sendToZeros (f : TonFormats) (address : String) :
    tonGetTransactions (F := Nat) f sendToZeros address none =
      .ok ⟨[tonHistoryTransaction f address toZeros], tonNext [toZeros]⟩ := rfl

theorem directions_right_bounceable : ∃ transactions,
    sendToZeros ⟨bounceableForm plainFormats zerosAccount, toncenterHistoryPageSize,
        (tonBefore none).1, (tonBefore none).2⟩ = .ok transactions ∧
      List.Forall₂ (fun tx item => ∀ destination, IsRaw tx.toRaw destination →
        DirectionRight (bounceableForm plainFormats zerosAccount) destination item) transactions
        [tonHistoryTransaction (F := Nat) plainFormats (bounceableForm plainFormats zerosAccount)
          toZeros] := by
  obtain ⟨transactions, hsend, hiff⟩ := directions_right_iff plainFormats
    isUrlSafeNoPad_plainFormats sendToZeros (bounceableForm plainFormats zerosAccount) none _
    (tonGetTransactions_sendToZeros _ _)
  refine ⟨transactions, hsend, hiff.mpr fun tx htx destination hraw _ => ?_⟩
  cases hsend
  rw [List.mem_singleton.mp htx] at hraw
  rw [← isRaw_toZeros.unique hraw]
  exact spelling_bounceableForm isUrlSafeNoPad_plainFormats zerosAccount

/-- **A raw address** that is asked for is accepted, and a transfer to it is labelled as one that
    goes out. -/
theorem not_directions_right :
    ¬ ∀ (p : AddressParsers) (f : TonFormats) (_ : IsUrlSafeNoPad f.encode)
      (send : TonHistoryRequest → Except RpcError (List TonTransaction)) (address : String)
      (cursor : Option String) (response : HistoryResponseBody Nat),
      isAddressValid p address .ton = true →
        tonGetTransactions f send address cursor = .ok response →
          ∃ transactions, send ⟨address, toncenterHistoryPageSize, (tonBefore cursor).1,
              (tonBefore cursor).2⟩ = .ok transactions ∧
            List.Forall₂ (fun tx item => ∀ destination, IsRaw tx.toRaw destination →
              DirectionRight address destination item) transactions response.data := by
  intro h
  obtain ⟨transactions, hsend, hlabels⟩ := h ⟨fun _ => none, fun _ => none⟩ plainFormats
    isUrlSafeNoPad_plainFormats sendToZeros (rawOfZeros "0") none _ (by decide)
    (tonGetTransactions_sendToZeros _ _)
  cases hsend
  have hright := (List.forall₂_cons.mp hlabels).1 zerosAccount isRaw_toZeros
  have hspelling := (directionRight_iff isUrlSafeNoPad_plainFormats isRaw_toZeros).mp hright
    (by decide)
  -- the raw form has a colon, and the bounceable one has none
  exact (hspelling.bounceable (.inl isRaw_rawOfZeros)).colon_notMem (by decide)

end BlockchainApi
