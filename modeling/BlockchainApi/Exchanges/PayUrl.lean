/-
  Pay URLs (`handlers/json_rpc/exchanges/get_exchange_url.rs`).

  The amount of a request is a text.  It is read as a floating-point number, and if it is none, as
  hex digits behind any number of `0x`.  What is read is passed to the exchange and stored, without
  a check of its own.

  A double has a largest and a least magnitude.  A text beyond the one is read as an infinity, and a
  text below the other as zero, although both spell a positive number (`F64.round`); between the two
  the values are taken as exact.

  So a text is paid for as it stands, whatever exchange and ledger do, if and only if it is not one
  of five kinds (`IsMisread`, `paysAmount_iff`):
  1. the words for infinities and for no number;
  2. the numbers that are not positive;
  3. the numbers that no double is near to, because they are too large or too small;
  4. zero in hex;
  5. hex digits behind anything but one `0x`.
-/
import BlockchainApi.Exchanges.Reconciliation
import BlockchainApi.Lib.FloatText
import BlockchainApi.Utils.Caip19
import Mathlib.Tactic.NormNum

namespace BlockchainApi

/-! ## Amounts, as the handler reads them

A text that is no number for the first reader is given to the second one, which is as lenient as
the standard library makes it. -/

/-- `f64`, with its finite values taken as exact; the two zeros are one. -/
inductive F64 where
  | nan
  | infinite (negative : Bool)
  | finite (value : ℚ)
  deriving DecidableEq

namespace F64

/-- Half way from the largest double, `(2 ^ 53 - 1) * 2 ^ 971`, to the next power of two: from here
    on the closest double is an infinity. -/
def overflow : ℚ := 2 ^ 1024 - 2 ^ 970

/-- Half of the least positive double, `1 / 2 ^ 1074`: up to here the closest double is a zero. -/
def underflow : ℚ := 1 / 2 ^ 1075

/-- The closest double, as far as the range of doubles goes. -/
def round (value : ℚ) : F64 :=
  if overflow ≤ |value| then .infinite (value < 0)
  else if |value| ≤ underflow then .finite 0
  else .finite value

/-- The number is beyond the range of doubles, on either side. -/
def OutOfRange (value : ℚ) : Prop := overflow ≤ |value| ∨ |value| ≤ underflow

/-- The double that a text says. -/
def ofText : FloatText → F64
  | .nan => .nan
  | .infinite negative => .infinite negative
  | .number mantissa exponent => round (FloatText.value mantissa exponent)

/-- **Only a number in the range is kept**, unless it is zero. Beyond the largest double it
    becomes an infinity, and below half of the least one zero. -/
theorem round_eq_finite_iff {value q : ℚ} (hq : q ≠ 0) :
    round value = .finite q ↔ ¬ OutOfRange value ∧ value = q := by
  rw [round, OutOfRange, not_or]
  split
  · next hlarge => exact iff_of_false (fun h => by cases h) fun h => h.1.1 hlarge
  · next hlarge =>
    split
    · next hsmall =>
      -- what is rounded to zero is no other number
      refine iff_of_false (fun h => hq ?_) fun h => h.1.2 hsmall
      exact (F64.finite.inj h).symm
    · next hsmall => exact ⟨fun h => ⟨⟨hlarge, hsmall⟩, F64.finite.inj h⟩, fun h => h.2 ▸ rfl⟩

end F64

/-- `str::parse::<f64>`. -/
def parseF64 (s : List Char) : Option F64 := (FloatText.read s).map F64.ofText

/-- `usize::from_str_radix(_, 16)`: an optional plus sign, then digits. -/
def usizeFromHex (s : List Char) : Option Nat :=
  let digits := unsignedDigits s
  if digits ≠ [] ∧ digits.all isHexChar = true ∧ hexValue digits < 2 ^ 64 then
    some (hexValue digits)
  else none

/-- `GetExchangeUrlError`. -/
inductive GetExchangeUrlError where
  | validationError (text : String)
  | exchangeNotFound (e : ExchangeError)
  /-- `Failed to persist exchange transaction`. -/
  | notPersisted
  /-- `Unable to get exchange URL: {e:?}`. -/
  | exchangeFailed (e : ExchangeError)

/-- The amount of a request. -/
def parseAmount (amount : String) : Except GetExchangeUrlError F64 :=
  match parseF64 amount.toList with
  | some parsedAmount => .ok parsedAmount
  | none =>
    match usizeFromHex (trimHexPrefix amount.toList) with
    | some parsedHexAmount => .ok (.finite parsedHexAmount)
    | none => .error (.validationError
      ("Invalid amount. Expected a valid number or hexadecimal string: " ++ amount))

/-! ## The handler -/

/-- `GeneratePayUrlRequest`. -/
structure GeneratePayUrlRequest where
  exchangeId : String
  asset : String
  amount : String
  recipient : String

/-- `GeneratePayUrlResponse`. -/
structure GeneratePayUrlResponse where
  url : String
  sessionId : String

/-- `GetBuyUrlParams`. -/
structure GetBuyUrlParams where
  projectId : String
  asset : Caip19Asset
  amount : F64
  recipient : String
  sessionId : String
  userIp : String

/-- Where a request comes from, and the session id that is drawn for it. -/
structure PayUrlContext where
  projectId : String
  userIp : String
  sessionId : Uuid

/-- What the handler takes from other crates, from the configuration and from the exchanges. -/
structure PayUrlService where
  parsers : AddressParsers
  checksums : Checksums
  /-- `is_enabled`, for the feature of the request and those of the project. -/
  isEnabled : ExchangeType → Bool
  binanceSupports : Caip19Asset → Bool
  coinbaseSupports : Caip19Asset → Bool
  binanceBuyUrl : GetBuyUrlParams → Except ExchangeError String
  coinbaseBuyUrl : GetBuyUrlParams → Except ExchangeError String
  /-- `Display for f64`. -/
  displayF64 : F64 → String
  /-- The bits of a double, as they are stored. -/
  f64Bits : F64 → UInt64

namespace PayUrlService

variable (svc : PayUrlService)

/-- `CAIP_19_SUPPORTED_ASSETS` of the test exchange. -/
def testExchangeAssets : List String := ["eip155:11155111/slip44:60", "eip155:84532/slip44:60"]

/-- `is_asset_supported`. -/
def isAssetSupported : ExchangeType → Caip19Asset → Bool
  | .binance, asset => svc.binanceSupports asset
  | .coinbase, asset => svc.coinbaseSupports asset
  | .reownTest, asset =>
    testExchangeAssets.any fun s => (Caip19Asset.parse svc.checksums s).toOption = some asset

/-- `get_buy_url`. -/
def getBuyUrl : ExchangeType → GetBuyUrlParams → Except ExchangeError String
  | .binance, params => svc.binanceBuyUrl params
  | .coinbase, params => svc.coinbaseBuyUrl params
  | .reownTest, params => .ok ("https://appkit-pay-test-exchange.reown.com" ++
      "/?asset=" ++ params.asset.display ++ "&amount=" ++ svc.displayF64 params.amount ++
      "&recipient=" ++ params.recipient ++ "&sessionId=" ++ params.sessionId ++
      "&projectId=" ++ params.projectId)

/-- The checks before the amount is read. -/
def checkRequest (request : GeneratePayUrlRequest) :
    Outcome GetExchangeUrlError (ExchangeType × Caip19Asset × String) := do
  let exchange ← Outcome.ofExcept .exchangeNotFound
    (getExchangeById svc.isEnabled request.exchangeId)
  let asset ← Outcome.ofExcept (fun e => .validationError e.display)
    (Caip19Asset.parse svc.checksums request.asset)
  let (namespace_, chainId, address) ←
    (disassembleCaip10 svc.parsers request.recipient).mapErr fun e => .validationError e.display
  Outcome.ensure (namespace_.display = asset.chainId.namespace_) (.validationError
    ("Invalid recipient. CAIP-10 namespace must match asset namespace: " ++ namespace_.display ++
      " != " ++ asset.assetNamespace))
  Outcome.ensure (chainId = asset.chainId.reference) (.validationError
    ("Invalid recipient. CAIP-10 chainId must match asset chainId: " ++ chainId ++ " != " ++
      asset.assetNamespace ++ ":" ++ asset.assetReference))
  Outcome.ensure (svc.isAssetSupported exchange asset = true) (.validationError
    ("Asset " ++ asset.display ++ " is not supported by exchange " ++ request.exchangeId))
  return (exchange, asset, address)

/-- What the exchange is asked for. -/
def buyUrlParams (ctx : PayUrlContext) (request : GeneratePayUrlRequest) :
    Outcome GetExchangeUrlError (ExchangeType × GetBuyUrlParams) := do
  let (exchange, asset, address) ← svc.checkRequest request
  let amount ← Outcome.ofExcept id (parseAmount request.amount)
  return (exchange, {
    projectId := ctx.projectId
    asset := asset
    amount := amount
    recipient := address
    -- binance takes letters and digits only
    sessionId := sessionIdOf ctx.sessionId
    userIp := ctx.userIp })

/-- The transaction that is stored. -/
def newTransaction (ctx : PayUrlContext) (request : GeneratePayUrlRequest)
    (params : GetBuyUrlParams) (url : String) : NewExchangeTransaction where
  sessionId := ctx.sessionId
  exchangeId := request.exchangeId
  projectId := some params.projectId
  asset := some request.asset
  amount := some (svc.f64Bits params.amount)
  recipient := some params.recipient
  payUrl := some url

/-- `handler_internal`. -/
def getExchangeUrl (ctx : PayUrlContext) (db : DbCall) (ledger : Ledger)
    (request : GeneratePayUrlRequest) :
    Outcome GetExchangeUrlError GeneratePayUrlResponse × Ledger :=
  match svc.buyUrlParams ctx request with
  | .ok (exchange, params) =>
    match svc.getBuyUrl exchange params with
    | .ok url =>
      match createTransaction db ledger (svc.newTransaction ctx request params url) with
      | (.ok _, stored) => (.ok ⟨url, params.sessionId⟩, stored)
      | (.error _, stored) => (.err .notPersisted, stored)
    | .error (.validationError text) => (.err (.validationError text), ledger)
    | .error e => (.err (.exchangeFailed e), ledger)
  | .err e => (.err e, ledger)
  | .panic => (.panic, ledger)

end PayUrlService

/-! ## What a text denotes, and what is read of it -/

/-- **The number a text denotes**, as a decimal number or as `0x` and hex digits. -/
def Denotes (text : List Char) (q : ℚ) : Prop :=
  (∃ t e, FloatText.Spells text (.number t e) ∧ FloatText.value t e = q) ∨
    ∃ digits, text = '0' :: 'x' :: digits ∧ digits ≠ [] ∧ digits.all isHexChar = true ∧
      (hexValue digits : ℚ) = q

/-- The digits that are read behind any number of `0x` and a plus sign. -/
structure HexReading (text digits : List Char) : Prop where
  trimmed : unsignedDigits (trimHexPrefix text) = digits
  ne_nil : digits ≠ []
  all : digits.all isHexChar = true
  lt : hexValue digits < 2 ^ 64

/-- The texts that are read as something they do not denote, or as no positive number. -/
inductive IsMisread (text : List Char) : Prop where
  | nan (h : FloatText.Spells text .nan)
  | infinite {negative : Bool} (h : FloatText.Spells text (.infinite negative))
  | notPositive {t : DecimalText} {e : Int} (h : FloatText.Spells text (.number t e))
      (hsign : t.negative = true ∨ t.digits = 0)
  | outOfRange {t : DecimalText} {e : Int} (h : FloatText.Spells text (.number t e))
      (hrange : F64.OutOfRange (FloatText.value t e))
  | hex {digits : List Char} (hfloat : ∀ f, ¬ FloatText.Spells text f)
      (hread : HexReading text digits) (hdigits : text ≠ '0' :: 'x' :: digits ∨ hexValue digits = 0)

variable {text digits : List Char} {q q' : ℚ}

/-- Of hex digits nothing is trimmed. -/
theorem unsignedDigits_trimHexPrefix_of_all (h : digits.all isHexChar = true) :
    unsignedDigits (trimHexPrefix digits) = digits := by
  have htrim : trimHexPrefix digits = digits := by
    unfold trimHexPrefix
    split
    · next rest =>
      rw [List.all_cons, List.all_cons] at h
      exact absurd (Bool.and_eq_true_iff.mp (Bool.and_eq_true_iff.mp h).2).1 (by decide)
    · rfl
  rw [htrim]
  unfold unsignedDigits
  split
  · next rest =>
    rw [List.all_cons] at h
    exact absurd (Bool.and_eq_true_iff.mp h).1 (by decide)
  · rfl

theorem usizeFromHex_eq_some_iff {n : Nat} :
    usizeFromHex (trimHexPrefix text) = some n ↔
      ∃ digits, HexReading text digits ∧ hexValue digits = n := by
  rw [usizeFromHex]
  constructor
  · intro h
    split at h
    · next hdigits =>
      exact ⟨_, ⟨rfl, hdigits.1, hdigits.2.1, hdigits.2.2⟩, Option.some.inj h⟩
    · cases h
  · rintro ⟨digits, ⟨rfl, hne, hall, hlt⟩, rfl⟩
    exact if_pos ⟨hne, hall, hlt⟩

/-- **What an amount is read as.** -/
theorem parseAmount_eq_ok_iff {amount : String} {a : F64} :
    parseAmount amount = .ok a ↔
      (∃ f, FloatText.Spells amount.toList f ∧ F64.ofText f = a) ∨
        (∀ f, ¬ FloatText.Spells amount.toList f) ∧
          ∃ digits, HexReading amount.toList digits ∧ F64.finite (hexValue digits) = a := by
  simp only [← FloatText.read_eq_some_iff]
  rw [parseAmount, parseF64]
  cases hread : FloatText.read amount.toList with
  | some f => simp
  | none =>
    simp only [Option.map_none, reduceCtorEq, false_and, exists_false, not_false_eq_true,
      implies_true, true_and, false_or]
    constructor
    · intro h
      split at h
      · next n hn =>
        obtain ⟨digits, hdigits, rfl⟩ := usizeFromHex_eq_some_iff.mp hn
        exact ⟨digits, hdigits, Except.ok.inj h⟩
      · cases h
    · rintro ⟨digits, hdigits, rfl⟩
      rw [usizeFromHex_eq_some_iff.mpr ⟨digits, hdigits, rfl⟩]

/-- The character `x` is in no number. -/
theorem not_spells_hex {rest : List Char} {t : DecimalText} {e : Int} :
    ¬ FloatText.Spells ('0' :: 'x' :: rest) (.number t e) := by
  intro h
  have hx : 'x' ∈ '0' :: 'x' :: rest := List.mem_cons_of_mem _ (List.mem_cons_self ..)
  have hchar := h.mem_number hx
  revert hchar
  decide

/-- **A text denotes one number.** -/
theorem Denotes.unique (h : Denotes text q) (h' : Denotes text q') : q = q' := by
  rcases h with ⟨t, e, hspells, rfl⟩ | ⟨digits, rfl, -, -, rfl⟩
  · rcases h' with ⟨t', e', hspells', rfl⟩ | ⟨digits, rfl, -, -, -⟩
    · cases hspells.unique hspells'
      rfl
    · exact absurd hspells not_spells_hex
  · rcases h' with ⟨t', e', hspells', -⟩ | ⟨digits', htext, -, -, rfl⟩
    · exact absurd hspells' not_spells_hex
    · cases htext
      rfl

/-- A decimal number denotes its value. -/
theorem Denotes.eq_value {t : DecimalText} {e : Int} (h : Denotes text q)
    (hspells : FloatText.Spells text (.number t e)) : q = FloatText.value t e :=
  h.unique (.inl ⟨t, e, hspells, rfl⟩)

/-- The amount is the positive number that the text denotes. -/
def IsAmountOf (text : String) (amount : F64) : Prop :=
  ∃ q, Denotes text.toList q ∧ 0 < q ∧ amount = .finite q

/-- The digits behind one `0x` are what is read. -/
theorem HexReading.eq_of_hex {digits' : List Char} (h : HexReading ('0' :: 'x' :: digits') digits)
    (hall : digits'.all isHexChar = true) : digits' = digits :=
  (unsignedDigits_trimHexPrefix_of_all hall).symm.trans h.trimmed

/-- **A misread text is accepted**, and not as what it denotes. -/
theorem exists_of_isMisread {amount : String} (h : IsMisread amount.toList) :
    ∃ a, parseAmount amount = .ok a ∧ ¬ IsAmountOf amount a := by
  cases h with
  | nan hspells =>
    -- no number is finite, and neither is an infinity
    refine ⟨_, parseAmount_eq_ok_iff.mpr (.inl ⟨_, hspells, rfl⟩), ?_⟩
    rintro ⟨q, -, -, hq⟩
    cases hq
  | infinite hspells =>
    refine ⟨_, parseAmount_eq_ok_iff.mpr (.inl ⟨_, hspells, rfl⟩), ?_⟩
    rintro ⟨q, -, -, hq⟩
    cases hq
  | notPositive hspells hsign =>
    -- a decimal number denotes its value only, which is not positive
    refine ⟨_, parseAmount_eq_ok_iff.mpr (.inl ⟨_, hspells, rfl⟩), ?_⟩
    rintro ⟨q, hdenotes, hpos, -⟩
    obtain rfl := hdenotes.eq_value hspells
    obtain ⟨hplus, hdigits⟩ := FloatText.value_pos_iff.mp hpos
    rcases hsign with hsign | hzero
    · rw [hplus] at hsign
      cases hsign
    · exact hdigits hzero
  | outOfRange hspells hrange =>
    -- what is read is an infinity or zero
    refine ⟨_, parseAmount_eq_ok_iff.mpr (.inl ⟨_, hspells, rfl⟩), ?_⟩
    rintro ⟨q, -, hpos, hq⟩
    exact ((F64.round_eq_finite_iff hpos.ne').mp hq).1 hrange
  | @hex digits hfloat hread hdigits =>
    -- it is no decimal number, so it denotes what stands behind one `0x`, if anything
    refine ⟨_, parseAmount_eq_ok_iff.mpr (.inr ⟨hfloat, digits, hread, rfl⟩), ?_⟩
    rintro ⟨q, ⟨t, e, hspells, -⟩ | ⟨digits', htext, -, hall, -⟩, hpos, hq⟩
    · exact hfloat _ hspells
    · cases hq
      obtain rfl := HexReading.eq_of_hex (htext ▸ hread) hall
      rcases hdigits with hne | hzero
      · exact hne htext
      · rw [hzero] at hpos
        exact lt_irrefl _ hpos

/-- **Any other text** is read as the positive number that it denotes. -/
theorem isAmountOf_of_parseAmount {amount : String} {a : F64} (h : ¬ IsMisread amount.toList)
    (ha : parseAmount amount = .ok a) : IsAmountOf amount a := by
  rcases parseAmount_eq_ok_iff.mp ha with ⟨f, hspells, rfl⟩ | ⟨hfloat, digits, hread, rfl⟩
  · cases f with
    | nan => exact absurd (.nan hspells) h
    | infinite negative => exact absurd (.infinite hspells) h
    | number t e =>
      have hpos : 0 < FloatText.value t e := by
        refine FloatText.value_pos_iff.mpr ⟨?_, ?_⟩
        · by_contra hsign
          exact h (.notPositive hspells (.inl (by simpa using hsign)))
        · exact fun hzero => h (.notPositive hspells (.inr hzero))
      have hrange : ¬ F64.OutOfRange (FloatText.value t e) :=
        fun hrange => h (.outOfRange hspells hrange)
      exact ⟨_, .inl ⟨t, e, hspells, rfl⟩, hpos,
        (F64.round_eq_finite_iff hpos.ne').mpr ⟨hrange, rfl⟩⟩
  · have htext : amount.toList = '0' :: 'x' :: digits := by
      by_contra hne
      exact h (.hex hfloat hread (.inl hne))
    have hpos : hexValue digits ≠ 0 := fun hzero => h (.hex hfloat hread (.inr hzero))
    exact ⟨_, .inr ⟨digits, htext, hread.ne_nil, hread.all, rfl⟩,
      Nat.cast_pos.mpr (Nat.pos_of_ne_zero hpos), rfl⟩

/-! ## What is paid: the amount in the order and in the ledger -/

namespace PayUrlService

variable {svc : PayUrlService} {ctx : PayUrlContext} {db : DbCall} {ledger : Ledger}
variable {request : GeneratePayUrlRequest} {response : GeneratePayUrlResponse}
variable {exchange : ExchangeType} {params : GetBuyUrlParams}

/-- **What is checked** before the amount is read. -/
theorem checkRequest_eq_ok_iff {asset : Caip19Asset} {address : String} :
    svc.checkRequest request = .ok (exchange, asset, address) ↔
      getExchangeById svc.isEnabled request.exchangeId = .ok exchange ∧
        Caip19Asset.parse svc.checksums request.asset = .ok asset ∧
        ∃ namespace_ chainId,
          disassembleCaip10 svc.parsers request.recipient = .ok (namespace_, chainId, address) ∧
          namespace_.display = asset.chainId.namespace_ ∧ chainId = asset.chainId.reference ∧
          svc.isAssetSupported exchange asset = true := by
  simp only [checkRequest, Outcome.bind_eq_ok, Outcome.ofExcept_eq_ok, Outcome.mapErr_eq_ok,
    Outcome.ensure_eq_ok, Outcome.pure_eq, Outcome.ok.injEq, Prod.mk.injEq, exists_const]
  constructor
  · rintro ⟨exchange', hexchange, asset', hasset, ⟨namespace_, chainId, address'⟩, hrecipient,
      hnamespace, hchain, hsupported, rfl, rfl, rfl⟩
    exact ⟨hexchange, hasset, namespace_, chainId, hrecipient, hnamespace, hchain, hsupported⟩
  · rintro ⟨hexchange, hasset, namespace_, chainId, hrecipient, hnamespace, hchain, hsupported⟩
    exact ⟨exchange, hexchange, asset, hasset, (namespace_, chainId, address), hrecipient,
      hnamespace, hchain, hsupported, rfl, rfl, rfl⟩

theorem buyUrlParams_eq_ok_iff :
    svc.buyUrlParams ctx request = .ok (exchange, params) ↔
      ∃ asset address amount, svc.checkRequest request = .ok (exchange, asset, address) ∧
        parseAmount request.amount = .ok amount ∧ params =
          ⟨ctx.projectId, asset, amount, address, sessionIdOf ctx.sessionId, ctx.userIp⟩ := by
  simp only [buyUrlParams, Outcome.bind_eq_ok, Outcome.ofExcept_eq_ok, Outcome.pure_eq,
    Outcome.ok.injEq, Prod.mk.injEq]
  constructor
  · rintro ⟨⟨exchange', asset, address⟩, hcheck, amount, hamount, rfl, rfl⟩
    exact ⟨asset, address, amount, hcheck, hamount, rfl⟩
  · rintro ⟨asset, address, amount, hcheck, hamount, rfl⟩
    exact ⟨_, hcheck, amount, hamount, rfl, rfl⟩

/-- **An accepted request** was put to the exchange, and its transaction to the ledger. -/
theorem getExchangeUrl_eq_ok (h : (svc.getExchangeUrl ctx db ledger request).1 = .ok response) :
    ∃ exchange params, svc.buyUrlParams ctx request = .ok (exchange, params) ∧
      svc.getBuyUrl exchange params = .ok response.url ∧ response.sessionId = params.sessionId ∧
      createTransaction db ledger (svc.newTransaction ctx request params response.url) =
        (.ok (), (svc.getExchangeUrl ctx db ledger request).2) := by
  rw [getExchangeUrl] at h ⊢
  split at h
  · next exchange params hparams =>
    rw [hparams]
    split at h
    · next url hurl =>
      split at h
      · next stored hcreate =>
        cases h
        exact ⟨exchange, params, rfl, hurl, rfl, hcreate⟩
      · cases h
    · cases h
    · cases h
  · cases h
  · cases h

/-- What stands in the ledger after its transaction was created: nothing new but its row. -/
theorem mem_of_createTransaction {tx : NewExchangeTransaction} {stored : Ledger}
    (h : createTransaction db ledger tx = (.ok (), stored)) :
    (∀ row ∈ stored.rows, row ∉ ledger.rows → row = tx.row db.now) ∧
      (isStored tx.exchangeId = true → tx.row db.now ∈ stored.rows) := by
  have happly : (LedgerCall.create tx).apply db ledger = stored := congrArg Prod.snd h
  rw [← happly]
  constructor
  · intro row hrow hnew
    rcases LedgerCall.mem_apply_create.mp hrow with hold | hcreated
    · exact absurd hold hnew
    · obtain ⟨tx', htx, hrow, -⟩ := LedgerCall.created_eq_some hcreated
      cases htx
      exact hrow
  · intro hstored
    have hreturns : (createTransaction db ledger tx).1 = .ok () := congrArg Prod.fst h
    rw [createTransaction, DbCall.ifStored_of_isStored hstored] at hreturns
    obtain ⟨hgoes, written, hwritten⟩ := DbCall.transaction_fst_ok hreturns
    refine LedgerCall.mem_apply_create.mpr (.inr ?_)
    cases hinsert : ledger.insertNew db.now tx with
    | error e =>
      rw [hinsert] at hwritten
      cases hwritten
    | ok result =>
      obtain ⟨hfits, hnew, -⟩ := Ledger.insertNew_eq_ok.mp hinsert
      exact if_pos ⟨hstored, hgoes, hfits, hnew⟩

end PayUrlService

/-- **What a text is paid for.**  Whoever accepts it, the exchange is asked for the positive number
    that it denotes, and that number is stored, if the exchange stores anything. -/
def PaysAmount (text : String) : Prop :=
  ∀ (svc : PayUrlService) (ctx : PayUrlContext) (db : DbCall) (ledger : Ledger)
    (request : GeneratePayUrlRequest) (response : GeneratePayUrlResponse), request.amount = text →
    (svc.getExchangeUrl ctx db ledger request).1 = .ok response →
    ∃ exchange params, svc.buyUrlParams ctx request = .ok (exchange, params) ∧
      svc.getBuyUrl exchange params = .ok response.url ∧ IsAmountOf text params.amount ∧
      (∀ row ∈ (svc.getExchangeUrl ctx db ledger request).2.rows, row ∉ ledger.rows →
        row.amount = some (svc.f64Bits params.amount)) ∧
      (isStored request.exchangeId = true →
        ∃ row ∈ (svc.getExchangeUrl ctx db ledger request).2.rows,
          row.sessionId = response.sessionId ∧ row.amount = some (svc.f64Bits params.amount))

/-- The test exchange, and nothing else. -/
def testExchangeService : PayUrlService where
  parsers := ⟨readH160, fun _ => none⟩
  -- no contract is in question
  checksums := ⟨readH160, fun _ => ""⟩
  isEnabled exchange := exchange = .reownTest
  binanceSupports _ := false
  coinbaseSupports _ := false
  binanceBuyUrl _ := .error (.configurationError "Binance is not configured")
  coinbaseBuyUrl _ := .error (.configurationError "Coinbase is not configured")
  displayF64
    | .nan => "NaN"
    | .infinite negative => if negative then "-inf" else "inf"
    | .finite value => toString value
  -- the test exchange stores nothing
  f64Bits _ := 0

/-- A request to the test exchange. -/
def testExchangeRequest (amount : String) : GeneratePayUrlRequest where
  exchangeId := "reown_test"
  asset := "eip155:11155111/slip44:60"
  amount := amount
  recipient := "eip155:11155111:0x1111111111111111111111111111111111111111"

theorem caip2NamespaceRegex_eip155 : caip2NamespaceRegex "eip155".toList = true := by decide

theorem caip2ReferenceRegex_sepolia : caip2ReferenceRegex "11155111".toList = true := by decide

/-- The asset of that request. -/
def sepoliaEther : Caip19Asset where
  chainId := ⟨"eip155", "11155111", caip2NamespaceRegex_eip155, caip2ReferenceRegex_sepolia⟩
  assetNamespace := "slip44"
  assetReference := "60"
  tokenId := none

theorem checkRequest_testExchangeRequest (amount : String) :
    testExchangeService.checkRequest (testExchangeRequest amount) =
      .ok (.reownTest, sepoliaEther, "0x1111111111111111111111111111111111111111") := by
  have hasset : Caip19Asset.parse testExchangeService.checksums "eip155:11155111/slip44:60"
      = .ok sepoliaEther := rfl
  have hrecipient : disassembleCaip10 testExchangeService.parsers
      "eip155:11155111:0x1111111111111111111111111111111111111111"
      = .ok (.eip155, "11155111", "0x1111111111111111111111111111111111111111") := by decide
  have hsupported : testExchangeService.isAssetSupported .reownTest sepoliaEther = true := by
    rw [PayUrlService.isAssetSupported, PayUrlService.testExchangeAssets, List.any_cons, hasset]
    rfl
  exact PayUrlService.checkRequest_eq_ok_iff.mpr
    ⟨rfl, hasset, _, _, hrecipient, rfl, rfl, hsupported⟩

/-- **The test exchange takes every amount** that is read at all. -/
theorem exists_accepted (ctx : PayUrlContext) (db : DbCall) {amount : String} {a : F64}
    (h : parseAmount amount = .ok a) :
    ∃ response params,
      (testExchangeService.getExchangeUrl ctx db .empty (testExchangeRequest amount)).1
        = .ok response ∧
      testExchangeService.buyUrlParams ctx (testExchangeRequest amount)
        = .ok (.reownTest, params) ∧ params.amount = a := by
  have hparams : testExchangeService.buyUrlParams ctx (testExchangeRequest amount) =
      .ok (.reownTest, _) :=
    PayUrlService.buyUrlParams_eq_ok_iff.mpr
      ⟨_, _, a, checkRequest_testExchangeRequest amount, h, rfl⟩
  refine ⟨?_, _, ?_, hparams, rfl⟩
  rotate_left
  · rw [PayUrlService.getExchangeUrl, hparams]
    rfl

/-- **Pay-URL amounts.**  A text is paid for as the positive number that it denotes, whatever the
    services, the ledger and the rest of the request are, if and only if it is not misread: a word
    for an infinity or for no number, a decimal number with a minus sign or without a digit that is
    not zero, one that is beyond the range of doubles, zero in hex, or hex digits that do not stand
    behind exactly one `0x`. -/
theorem paysAmount_iff (text : String) : PaysAmount text ↔ ¬ IsMisread text.toList := by
  constructor
  · intro h hmisread
    obtain ⟨a, ha, hamount⟩ := exists_of_isMisread hmisread
    obtain ⟨response, params, haccepted, hparams, rfl⟩ :=
      exists_accepted ⟨"project", "127.0.0.1", .ofNat 16 1⟩ (.ok 0) ha
    obtain ⟨exchange, params', hparams', -, hsound, -⟩ := h _ _ _ _ _ _ rfl haccepted
    cases hparams.symm.trans hparams'
    exact hamount hsound
  · rintro h svc ctx db ledger request response rfl haccepted
    obtain ⟨exchange, params, hparams, hurl, hsession, hcreate⟩ :=
      PayUrlService.getExchangeUrl_eq_ok haccepted
    obtain ⟨asset, address, amount, -, hamount, rfl⟩ :=
      PayUrlService.buyUrlParams_eq_ok_iff.mp hparams
    obtain ⟨hnew, hstored⟩ := PayUrlService.mem_of_createTransaction hcreate
    refine ⟨exchange, _, hparams, hurl, isAmountOf_of_parseAmount h hamount,
      fun row hrow hold => ?_, fun hexchange => ?_⟩
    · rw [hnew row hrow hold]
      rfl
    · exact ⟨_, hstored hexchange, hsession.symm, rfl⟩

/-- Hex digits that are no decimal number, and do not stand behind one `0x`. -/
theorem isMisread_of_hex (digits : List Char) (hfloat : FloatText.read text = none)
    (hread : HexReading text digits) (hdigits : text ≠ '0' :: 'x' :: digits) : IsMisread text := by
  refine .hex (fun f hf => ?_) hread (.inl hdigits)
  rw [FloatText.read_eq_some_iff.mpr hf] at hfloat
  cases hfloat

/-- A one with an exponent is a power of ten. -/
theorem value_one {hne : ['1'] ++ [] ≠ []} {hdigit : (['1'] ++ []).all Char.isDigit = true}
    {e : Int} : FloatText.value ⟨false, ['1'], [], hne, hdigit⟩ e = 10 ^ e := by
  have hdigits : DecimalText.digits ⟨false, ['1'], [], hne, hdigit⟩ = 1 := rfl
  rw [FloatText.value, DecimalText.value, DecimalText.magnitude, hdigits]
  norm_num [Decimals.quantity]

theorem two_pow_le_ten_pow : (2 : ℚ) ^ 1280 ≤ 10 ^ 400 := by
  calc (2 : ℚ) ^ 1280 = (2 ^ 16) ^ 80 := by rw [← pow_mul]
    _ ≤ (10 ^ 5) ^ 80 := pow_le_pow_left₀ (by norm_num) (by norm_num) 80
    _ = 10 ^ 400 := by rw [← pow_mul]

/-- A request for the amount is accepted, and what the exchange is asked for is not a positive
    number that the text denotes. -/
def TakenForAnother (amount : String) : Prop :=
  ∃ response params,
    (testExchangeService.getExchangeUrl ⟨"project", "127.0.0.1", .ofNat 16 1⟩ (.ok 0) .empty
      (testExchangeRequest amount)).1 = .ok response ∧
    testExchangeService.buyUrlParams ⟨"project", "127.0.0.1", .ofNat 16 1⟩
      (testExchangeRequest amount) = .ok (.reownTest, params) ∧
    ¬ IsAmountOf amount params.amount

theorem takenForAnother_of_isMisread {amount : String} (h : IsMisread amount.toList) :
    TakenForAnother amount := by
  obtain ⟨a, ha, hamount⟩ := exists_of_isMisread h
  obtain ⟨response, params, haccepted, hparams, rfl⟩ := exists_accepted _ _ ha
  exact ⟨response, params, haccepted, hparams, hamount⟩

/-- **The failing inputs**: words, numbers that are not positive, numbers beyond the range of
    doubles, and lenient hex. -/
theorem misread_amounts_accepted :
    (TakenForAnother "NaN" ∧ TakenForAnother "-inf") ∧
      (TakenForAnother "-5" ∧ TakenForAnother "0") ∧
      (TakenForAnother "1e400" ∧ TakenForAnother "1e-400") ∧
      (TakenForAnother "ff" ∧ TakenForAnother "0x0x10" ∧ TakenForAnother "0x+10") := by
  -- how each text is spelled, which is decided
  have hinfinite : FloatText.read "-inf".toList = some (.infinite true) := by decide
  have hminus : FloatText.read "-5".toList
      = some (.number ⟨true, ['5'], [], by decide, by decide⟩ 0) := by decide
  have hzero : FloatText.read "0".toList
      = some (.number ⟨false, ['0'], [], by decide, by decide⟩ 0) := by decide
  have hlarge : FloatText.read "1e400".toList
      = some (.number ⟨false, ['1'], [], by decide, by decide⟩ 400) := by decide
  have hsmall : FloatText.read "1e-400".toList
      = some (.number ⟨false, ['1'], [], by decide, by decide⟩ (-400)) := by decide
  refine ⟨⟨?_, ?_⟩, ⟨?_, ?_⟩, ⟨?_, ?_⟩, ?_, ?_, ?_⟩
  · exact takenForAnother_of_isMisread (.nan (FloatText.read_eq_some_iff.mp (by decide)))
  · exact takenForAnother_of_isMisread (.infinite (FloatText.read_eq_some_iff.mp hinfinite))
  · exact takenForAnother_of_isMisread
      (.notPositive (FloatText.read_eq_some_iff.mp hminus) (.inl rfl))
  · exact takenForAnother_of_isMisread
      (.notPositive (FloatText.read_eq_some_iff.mp hzero) (.inr (by decide)))
  · -- beyond the largest double
    refine takenForAnother_of_isMisread
      (.outOfRange (FloatText.read_eq_some_iff.mp hlarge) (.inl ?_))
    rw [value_one, abs_of_pos (by positivity), F64.overflow]
    calc (2 : ℚ) ^ 1024 - 2 ^ 970 ≤ 2 ^ 1024 := sub_le_self _ (by positivity)
      _ ≤ 2 ^ 1280 := pow_le_pow_right₀ (by norm_num) (by norm_num)
      _ ≤ 10 ^ 400 := two_pow_le_ten_pow
  · -- below half of the least one
    refine takenForAnother_of_isMisread
      (.outOfRange (FloatText.read_eq_some_iff.mp hsmall) (.inr ?_))
    rw [value_one, abs_of_pos (by positivity), F64.underflow, zpow_neg, one_div]
    have hle : (2 : ℚ) ^ 1075 ≤ 10 ^ 400 :=
      (pow_le_pow_right₀ (by norm_num) (by norm_num)).trans two_pow_le_ten_pow
    exact inv_anti₀ (by positivity) hle
  · exact takenForAnother_of_isMisread (isMisread_of_hex ['f', 'f'] (by decide)
      ⟨by decide, by decide, by decide, by decide⟩ (by decide))
  · exact takenForAnother_of_isMisread (isMisread_of_hex ['1', '0'] (by decide)
      ⟨by decide, by decide, by decide, by decide⟩ (by decide))
  · exact takenForAnother_of_isMisread (isMisread_of_hex ['1', '0'] (by decide)
      ⟨by decide, by decide, by decide, by decide⟩ (by decide))

end BlockchainApi
