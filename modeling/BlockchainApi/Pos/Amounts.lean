/-
  The amounts of point-of-sale transactions (`src/handlers/json_rpc/pos/evm.rs`, `tron.rs`, and
  `solana.rs` in `Pos.SplTransfer`).

  Each builder reads the amount with `parse_units`, and takes the bits of what it returns as the
  amount of the transfer, whatever its sign.  The builders end here where the transfer is made; what
  follows in the source sets the gas and packs the transaction.

  1. **The builders** (`buildEvm`, `buildTron`, `buildSolana`): one lemma for each says which amount
     was read, with how many decimals, and where in the transaction it stands.  A transfer of a
     token carries it in the data of a call, from which it is read back.
  2.  `pos_amounts_exact_iff`: what a builder accepts is transferred exactly if and only if the text
     is a decimal number that is not negative and a whole number of smallest units in range.  On
     Solana the range is that of 64 bits, which is checked there; on the other chains it is that of
     256 bits.
-/
import BlockchainApi.Lib.Outcome
import BlockchainApi.Pos.SplTransfer

namespace BlockchainApi.Pos

open ByteCodec

/-- `transferCall`. -/
structure TransferCall where
  to_ : Address
  value : U256
  deriving DecidableEq

/-! ## EVM chains -/

/-- `AssetNamespace` of EVM chains. -/
inductive EvmAssetNamespace where
  | erc20
  | slip44
  deriving DecidableEq

/-- What other crates and the chain do. -/
structure EvmDeps where
  /-- `Address::from_str`. -/
  parseAddress : String → Except String Address
  getProvider : Except InternalError Unit
  /-- The call of `decimals` of a token. -/
  decimals : Address → Except String UInt8
  parseUnits : String → UInt8 → Except String ParseUnits
  transferCall : AbiCodec TransferCall

/-- `TransactionRequest`, as far as it is set. -/
structure TransactionRequest where
  from_ : Option Address
  to_ : Option Address
  value : Option U256
  input : Option Bytes
  data : Option Bytes
  deriving DecidableEq

/-- `EvmTxBuilder`, without its chain and project. -/
structure EvmTxBuilder where
  to_ : Address
  from_ : Address
  txRequest : TransactionRequest

section

variable (deps : EvmDeps)

/-- `EvmTxBuilder::new`. -/
def EvmTxBuilder.new (recipient sender : String) : Except BuildPosTxsError EvmTxBuilder := do
  let to_ ← (deps.parseAddress recipient).mapError fun e => .validation (.invalidRecipient e)
  let from_ ← (deps.parseAddress sender).mapError fun e => .validation (.invalidSender e)
  return { to_, from_, txRequest := ⟨none, none, none, none, none⟩ }

/-- `parse_ether_amount`; an ether has 18 decimals. -/
def parseEtherAmount (amount : String) : Except BuildPosTxsError U256 :=
  match deps.parseUnits amount 18 with
  | .error e =>
    .error (.validation (.invalidAmount ("Unable to parse amount in ether: " ++ e)))
  | .ok value => .ok value.toU256

/-- `get_erc20_transfer_amount`. -/
def getErc20TransferAmount (tokenAddress : Address) (amount : String) :
    Except BuildPosTxsError U256 :=
  match deps.decimals tokenAddress with
  | .error e => .error (.validation (.invalidAmount ("Failed to get decimals: " ++ e)))
  | .ok decimals =>
    match deps.parseUnits amount decimals with
    | .error e => .error (.validation (.invalidAmount
        ("Unable to parse amount with " ++ toString decimals.toNat ++ " decimals: " ++ e)))
    | .ok value => .ok value.toU256

/-- `with_native_transfer`. -/
def EvmTxBuilder.withNativeTransfer (builder : EvmTxBuilder) (amount : String) :
    Except BuildPosTxsError EvmTxBuilder := do
  let weiValue ← parseEtherAmount deps amount
  return { builder with
    txRequest := { builder.txRequest with
      to_ := some builder.to_
      value := some weiValue
      from_ := some builder.from_ } }

/-- `with_erc20_transfer`. -/
def EvmTxBuilder.withErc20Transfer (builder : EvmTxBuilder) (assetAddress amount : String) :
    Except BuildPosTxsError EvmTxBuilder := do
  let tokenAddress ← (deps.parseAddress assetAddress).mapError
    fun e => .validation (.invalidAsset e)
  let _ ← deps.getProvider.mapError .internal
  let tokenAmount ← getErc20TransferAmount deps tokenAddress amount
  let transferCalldata := deps.transferCall.encode ⟨builder.to_, tokenAmount⟩
  return { builder with
    txRequest :=
      { to_ := some tokenAddress
        value := some 0
        input := some transferCalldata
        from_ := some builder.from_
        data := some transferCalldata } }

/-- `build`, up to `finalize`. -/
def buildEvm (params : ValidatedPaymentIntent EvmAssetNamespace) :
    Except BuildPosTxsError TransactionRequest := do
  let builder ← EvmTxBuilder.new deps params.recipientAddress params.senderAddress
  let built ← match params.namespace_ with
    | .slip44 => builder.withNativeTransfer deps params.amount
    | .erc20 => builder.withErc20Transfer deps params.assetReference params.amount
  return built.txRequest

end

/-! ## Tron -/

/-- `AssetNamespace` of Tron. -/
inductive TronAssetNamespace where
  | trc20
  | slip44
  deriving DecidableEq

/-- `EthCallParams`. -/
structure EthCallParams where
  from_ : String
  to_ : String
  data : String

/-- What other crates and the chain do. -/
structure TronDeps where
  /-- `bs58::decode(_).with_check(None).into_vec()`. -/
  bs58DecodeCheck : String → Except String Bytes
  ethCall : EthCallParams → Except RpcError String
  /-- `Display for FromHexError`. -/
  displayHexError : FromHexError → String
  parseUnits : String → UInt8 → Except String ParseUnits
  transferCall : AbiCodec TransferCall

/-- `BuildTransactionParams`. -/
structure BuildTransactionParams where
  from_ : String
  to_ : String
  data : String
  gas : Option String
  value : String
  tokenId : UInt64
  tokenValue : UInt64
  deriving DecidableEq

section

variable (deps : TronDeps)

/-- The payload of an address: the byte `0x41` and twenty more. -/
def tronPayload (b58 text : String) : Except ValidationError Bytes :=
  match deps.bs58DecodeCheck b58 with
  | .error e => .error (.invalidAddress ("Failed to decode TRON address: " ++ e))
  | .ok bytes =>
    if bytes.length ≠ 21 ∨ bytes.head? ≠ some 0x41 then .error (.invalidAddress text)
    else .ok bytes

/-- `tron_base58_to_eth_address`. -/
def tronBase58ToEthAddress (b58 : String) : Except ValidationError Address :=
  (tronPayload deps b58 "invalid TRON address payload").map fun bytes =>
    .ofNat 20 (ofBe (bytes.drop 1))

/-- `tron_b58_to_hex41`. -/
def tronB58ToHex41 (b58 : String) : Except ValidationError String :=
  (tronPayload deps b58 "invalid TRON address").map hexEncode

/-- `tron_b58_to_eth_hex`. -/
def tronB58ToEthHex (b58 : String) : Except ValidationError String :=
  (tronPayload deps b58 "invalid TRON address").map fun bytes => "0x" ++ hexEncode bytes

/-- `fetch_trc20_decimals`: the last byte of a word. -/
def fetchTrc20Decimals (ownerB58 contractB58 : String) : Except BuildPosTxsError UInt8 := do
  let fromAddress ← (tronB58ToEthHex deps ownerB58).mapError
    fun e => .validation (.invalidAsset e.display)
  let toAddress ← (tronB58ToEthHex deps contractB58).mapError
    fun e => .validation (.invalidAsset e.display)
  let result ← (deps.ethCall
    { from_ := fromAddress, to_ := toAddress, data := "0x313ce567" }).mapError .rpc
  let hexStr := String.ofList (trimHexPrefix result.toList)
  let bytes ← (hexDecode hexStr).mapError fun e => .internal (.internal
    ("Failed to decode decimals result: " ++ deps.displayHexError e))
  if h : bytes.length < 32 then
    .error (.internal (.internal ("Invalid decimals result length: expected 32 bytes, got " ++
      toString bytes.length)))
  else return bytes[31]

/-- `parse_token_amount`. -/
def parseTronTokenAmount (amount : String) (decimals : UInt8) : Except BuildPosTxsError U256 :=
  match deps.parseUnits amount decimals with
  | .error e => .error (.validation (.invalidAmount
      ("Unable to parse amount with " ++ toString decimals.toNat ++ " decimals: " ++ e)))
  | .ok parsedValue => .ok parsedValue.toU256

/-- `build_trc20_transfer`, up to the estimation of its fee. -/
def buildTrc20Transfer (params : ValidatedPaymentIntent TronAssetNamespace) :
    Except BuildPosTxsError BuildTransactionParams := do
  let toEth ← (tronBase58ToEthAddress deps params.recipientAddress).mapError
    fun e => .validation (.invalidRecipient e.display)
  let decimals ← fetchTrc20Decimals deps params.senderAddress params.assetReference
  let tokenAmount ← parseTronTokenAmount deps params.amount decimals
  let data := deps.transferCall.encode ⟨toEth, tokenAmount⟩
  let fromAddress ← (tronB58ToHex41 deps params.senderAddress).mapError
    fun e => .validation (.invalidSender e.display)
  let toAddress ← (tronB58ToHex41 deps params.assetReference).mapError
    fun e => .validation (.invalidAsset e.display)
  return { from_ := fromAddress
           to_ := toAddress
           data := "0x" ++ hexEncode data
           gas := none
           value := "0x0"
           tokenId := 0
           tokenValue := 0 }

/-- `build`: only tokens can be paid with. -/
def buildTron (params : ValidatedPaymentIntent TronAssetNamespace) :
    Except BuildPosTxsError BuildTransactionParams :=
  match params.namespace_ with
  | .trc20 => buildTrc20Transfer deps params
  | .slip44 => .error (.validation (.invalidAsset "Unsupported asset namespace"))

end

/-! ## What the builders accept: the amount that was read, and where it stands -/

variable {evm : EvmDeps} {tron : TronDeps} {solana : SolanaDeps}

/-- The native amount is what was read. -/
theorem buildEvm_slip44 {params : ValidatedPaymentIntent EvmAssetNamespace}
    {tx : TransactionRequest} (hnative : params.namespace_ = .slip44)
    (h : buildEvm evm params = .ok tx) :
    ∃ value, evm.parseUnits params.amount 18 = .ok value ∧ tx.value = some value.toU256 := by
  obtain ⟨builder, -, h⟩ := Except.bind_eq_ok.mp h
  rw [hnative] at h
  obtain ⟨built, hbuilt, h⟩ := Except.bind_eq_ok.mp h
  obtain ⟨weiValue, hwei, hbuilt⟩ := Except.bind_eq_ok.mp hbuilt
  cases hbuilt
  cases h
  rw [parseEtherAmount] at hwei
  split at hwei
  · cases hwei
  · next value hvalue =>
    cases hwei
    exact ⟨value, hvalue, rfl⟩

/-- The amount of a token is what was read with its decimals. -/
theorem buildEvm_erc20 {params : ValidatedPaymentIntent EvmAssetNamespace}
    {tx : TransactionRequest} (htoken : params.namespace_ = .erc20)
    (h : buildEvm evm params = .ok tx) :
    ∃ token decimals value to_, evm.parseAddress params.assetReference = .ok token ∧
      evm.decimals token = .ok decimals ∧ evm.parseUnits params.amount decimals = .ok value ∧
      tx.data = some (evm.transferCall.encode ⟨to_, value.toU256⟩) := by
  obtain ⟨builder, -, h⟩ := Except.bind_eq_ok.mp h
  rw [htoken] at h
  obtain ⟨built, hbuilt, h⟩ := Except.bind_eq_ok.mp h
  obtain ⟨token, htokenAddress, hbuilt⟩ := Except.mapError_bind_eq_ok.mp hbuilt
  obtain ⟨-, -, hbuilt⟩ := Except.mapError_bind_eq_ok.mp hbuilt
  obtain ⟨tokenAmount, hamount, hbuilt⟩ := Except.bind_eq_ok.mp hbuilt
  cases hbuilt
  cases h
  rw [getErc20TransferAmount] at hamount
  split at hamount
  · cases hamount
  · next decimals hdecimals =>
    split at hamount
    · cases hamount
    · next value hvalue =>
      cases hamount
      exact ⟨token, decimals, value, builder.to_, htokenAddress, hdecimals, hvalue, rfl⟩

/-- The same on Tron. -/
theorem buildTron_eq_ok {params : ValidatedPaymentIntent TronAssetNamespace}
    {built : BuildTransactionParams} (h : buildTron tron params = .ok built) :
    ∃ decimals value to_,
      fetchTrc20Decimals tron params.senderAddress params.assetReference = .ok decimals ∧
      tron.parseUnits params.amount decimals = .ok value ∧
      built.data = "0x" ++ hexEncode (tron.transferCall.encode ⟨to_, value.toU256⟩) := by
  rw [buildTron] at h
  split at h
  · obtain ⟨toEth, -, h⟩ := Except.mapError_bind_eq_ok.mp h
    obtain ⟨decimals, hdecimals, h⟩ := Except.bind_eq_ok.mp h
    obtain ⟨tokenAmount, hamount, h⟩ := Except.bind_eq_ok.mp h
    obtain ⟨fromAddress, -, h⟩ := Except.mapError_bind_eq_ok.mp h
    obtain ⟨toAddress, -, h⟩ := Except.mapError_bind_eq_ok.mp h
    cases h
    rw [parseTronTokenAmount] at hamount
    split at hamount
    · cases hamount
    · next value hvalue =>
      cases hamount
      exact ⟨decimals, value, toEth, hdecimals, hvalue, rfl⟩
  · cases h

/-- On Solana, the amount has 64 bits. -/
theorem buildSolana_eq_ok {params : ValidatedPaymentIntent SolanaAssetNamespace}
    {instruction : TransferChecked} (hchecked : BuildsChecked solana)
    (h : buildSolana solana params = .ok instruction) :
    ∃ value, solana.parseUnits params.amount instruction.decimals = .ok value ∧
      value.toU256.toNat < 2 ^ 64 ∧ instruction.amount.toNat = value.toU256.toNat := by
  rw [buildSolana] at h
  split at h
  · obtain ⟨sender, -, h⟩ := Except.mapError_bind_eq_ok.mp h
    obtain ⟨recipient, -, h⟩ := Except.mapError_bind_eq_ok.mp h
    obtain ⟨mint, -, h⟩ := Except.mapError_bind_eq_ok.mp h
    obtain ⟨⟨decimals, program⟩, -, h⟩ := Except.bind_eq_ok.mp h
    obtain ⟨amountLamports, hamount, h⟩ := Except.bind_eq_ok.mp h
    -- the checked instruction has the decimals and the amount it was given
    have hkept : instruction.decimals = decimals ∧ instruction.amount = amountLamports := by
      generalize harguments : (TransferChecked.mk _ _ _ _ _ _ _ _) = arguments at h
      cases hresult : solana.transferChecked arguments with
      | error e =>
        rw [hresult] at h
        cases h
      | ok built =>
        rw [hresult] at h
        cases h
        rw [hchecked.keeps _ _ hresult, ← harguments]
        exact ⟨rfl, rfl⟩
    obtain ⟨rfl, rfl⟩ := hkept
    rw [parseSolanaTokenAmount] at hamount
    split at hamount
    · cases hamount
    · next value hvalue =>
      dsimp only at hamount
      split at hamount
      · cases hamount
      · -- the amount fits 64 bits, so the cast keeps it
        next hfits =>
        have hamount := Except.ok.inj hamount
        refine ⟨value, hvalue, by omega, ?_⟩
        rw [← hamount, UInt64.toNat_ofNat', Nat.mod_eq_of_lt (by omega)]
  · cases h

/-- **When amounts are exact.**  A builder that accepts a payment transfers what the text of its
    amount says if and only if that text is a decimal number that is not negative and a whole number
    of smallest units in range. -/
theorem pos_amounts_exact_iff (hevm : ParsesUnits evm.parseUnits)
    (hevmCall : evm.transferCall.RoundTrips) (htron : ParsesUnits tron.parseUnits)
    (htronCall : tron.transferCall.RoundTrips) (hsolana : ParsesUnits solana.parseUnits)
    (hchecked : BuildsChecked solana) :
    (∀ params tx, params.namespace_ = .slip44 → buildEvm evm params = .ok tx →
      ∃ value, tx.value = some value ∧
        (ExactAmount params.amount 18 value.toNat ↔ Payable params.amount 18 (2 ^ 256))) ∧
    (∀ params tx, params.namespace_ = .erc20 → buildEvm evm params = .ok tx →
      ∃ token decimals data call, evm.parseAddress params.assetReference = .ok token ∧
        evm.decimals token = .ok decimals ∧ tx.data = some data ∧
        evm.transferCall.decode data = .ok call ∧
        (ExactAmount params.amount decimals call.value.toNat ↔
          Payable params.amount decimals (2 ^ 256))) ∧
    (∀ params built, buildTron tron params = .ok built →
      ∃ decimals data call,
        fetchTrc20Decimals tron params.senderAddress params.assetReference = .ok decimals ∧
        built.data = "0x" ++ hexEncode data ∧ tron.transferCall.decode data = .ok call ∧
        (ExactAmount params.amount decimals call.value.toNat ↔
          Payable params.amount decimals (2 ^ 256))) ∧
    ∀ params instruction, buildSolana solana params = .ok instruction →
      (ExactAmount params.amount instruction.decimals instruction.amount.toNat ↔
        Payable params.amount instruction.decimals (2 ^ 64)) := by
  refine ⟨?_, ?_, ?_, ?_⟩
  · -- the native token: the amount is the value of the transaction
    intro params tx hnative h
    obtain ⟨value, hvalue, htx⟩ := buildEvm_slip44 hnative h
    exact ⟨_, htx, hevm.exact_iff hvalue (Nat.le_refl _) value.toU256.isLt⟩
  · -- a token on an EVM chain: the amount is in the call
    intro params tx htoken h
    obtain ⟨token, decimals, value, to_, htokenAddress, hdecimals, hvalue, htx⟩ :=
      buildEvm_erc20 htoken h
    exact ⟨token, decimals, _, _, htokenAddress, hdecimals, htx, hevmCall _,
      hevm.exact_iff hvalue (Nat.le_refl _) value.toU256.isLt⟩
  · -- a token on Tron
    intro params built h
    obtain ⟨decimals, value, to_, hdecimals, hvalue, hdata⟩ := buildTron_eq_ok h
    exact ⟨decimals, _, _, hdecimals, hdata, htronCall _,
      htron.exact_iff hvalue (Nat.le_refl _) value.toU256.isLt⟩
  · -- a token on Solana: the amount is in the instruction
    intro params instruction h
    obtain ⟨value, hvalue, hlt, hamount⟩ := buildSolana_eq_ok hchecked h
    rw [hamount]
    exact hsolana.exact_iff hvalue (by decide) hlt

/-! ## Two payments: one that is exact, and one that is not -/

/-- A reader of amounts that refuses what is not a decimal number, or out of range. -/
def demoParseUnits (text : String) (decimals : UInt8) : Except String ParseUnits :=
  match DecimalText.read text.toList with
  | none => .error "invalid digit found in string"
  | some t =>
    let amount := t.scaled decimals.toNat
    if t.negative then
      if amount ≤ 2 ^ 255 then .ok (.i256 (-BitVec.ofNat 256 amount)) else .error "overflow"
    else if amount < 2 ^ 256 then .ok (.u256 (BitVec.ofNat 256 amount))
    else .error "overflow"

theorem parsesUnits_demo : ParsesUnits demoParseUnits := by
  constructor
  · intro text decimals t value hread hsign hlt hvalue
    rw [demoParseUnits, hread] at hvalue
    dsimp only at hvalue
    rw [hsign, if_neg Bool.false_ne_true, if_pos hlt] at hvalue
    exact (Except.ok.inj hvalue).symm
  · intro text decimals t value hread hsign hle hvalue
    rw [demoParseUnits, hread] at hvalue
    dsimp only at hvalue
    rw [hsign, if_pos rfl, if_pos hle] at hvalue
    exact (Except.ok.inj hvalue).symm

/-- The bytes of the address and of the amount. -/
def demoTransferCall : AbiCodec TransferCall where
  encode call := call.to_.bytes ++ toBe 32 call.value.toNat
  decode buf :=
    match FixedBytes.splitAt? 20 buf with
    | some (to_, rest) => .ok ⟨to_, BitVec.ofNat 256 (ofBe rest)⟩
    | none => .error "invalid ABI data"

theorem demoTransferCall_roundTrips : demoTransferCall.RoundTrips := by
  intro call
  simp only [demoTransferCall, FixedBytes.splitAt?_append]
  rw [ofBe_toBe_of_lt call.value.isLt, BitVec.ofNat_toNat, BitVec.setWidth_eq]

/-- A chain with one token of six decimals. -/
def demoEvmDeps : EvmDeps where
  parseAddress text := if text = "" then .error "invalid string length" else .ok (.ofNat 20 1)
  getProvider := .ok ()
  decimals _ := .ok 6
  parseUnits := demoParseUnits
  transferCall := demoTransferCall

/-- The same on Tron. -/
def demoTronDeps : TronDeps where
  bs58DecodeCheck _ := .ok (0x41 :: List.replicate 20 1)
  ethCall _ := .ok ("0x" ++ hexEncode (toBe 32 6))
  displayHexError _ := "Invalid character"
  parseUnits := demoParseUnits
  transferCall := demoTransferCall

/-- The same on Solana. -/
def demoSolanaAmountDeps : SolanaDeps :=
  { demoSolanaDeps 2020 true with parseUnits := demoParseUnits }

theorem buildsChecked_demoAmount : BuildsChecked demoSolanaAmountDeps :=
  ⟨(buildsChecked_demo 2020 true).keeps, (buildsChecked_demo 2020 true).builds⟩

/-- A payment in ether. -/
def demoEtherPayment (amount : String) : ValidatedPaymentIntent EvmAssetNamespace where
  assetReference := "60"
  amount := amount
  recipientAddress := "0x01"
  senderAddress := "0x02"
  namespace_ := .slip44

/-- One and a half ether are payable. -/
theorem pos_amounts_exact_iff_ether :
    ExactAmount "1.5" 18 1500000000000000000 := by
  have hbuilt : buildEvm demoEvmDeps (demoEtherPayment "1.5") =
      .ok ⟨some (.ofNat 20 1), some (.ofNat 20 1), some 1500000000000000000, none, none⟩ := by
    decide +kernel
  have hpayable : Payable "1.5" 18 (2 ^ 256) := by
    have hnonneg : 0 ≤ (DecimalText.mk false ['1'] ['5'] (by decide) (by decide)).value :=
      DecimalText.value_nonneg_iff.mpr (.inl rfl)
    exact ⟨_, by decide +kernel, hnonneg, 1500000000000000000, by decide,
      (DecimalText.value_mul_pow_eq_iff hnonneg).mpr ⟨.inl (by decide), by decide +kernel⟩⟩
  obtain ⟨value, hvalue, hexact⟩ :=
    (@pos_amounts_exact_iff demoEvmDeps demoTronDeps demoSolanaAmountDeps parsesUnits_demo
      demoTransferCall_roundTrips parsesUnits_demo demoTransferCall_roundTrips parsesUnits_demo
      buildsChecked_demoAmount).1 (demoEtherPayment "1.5") _ rfl hbuilt
  cases hvalue
  exact hexact.mpr hpayable

/-- A negative amount is transferred as a huge one. -/
theorem not_pos_amounts_exact :
    (buildEvm demoEvmDeps (demoEtherPayment "-1")).map (·.value) =
        .ok (some (BitVec.ofNat 256 (2 ^ 256 - 10 ^ 18))) ∧
      ¬ ExactAmount "-1" 18 (2 ^ 256 - 10 ^ 18) := by
  refine ⟨by decide +kernel, ?_⟩
  rintro ⟨t, hread, hnonneg, -⟩
  have hminus : (DecimalText.read "-1".toList).map (fun t => (t.negative, t.digits)) =
      some (true, 1) := by decide +kernel
  rw [hread] at hminus
  have hsign : t.negative = true := congrArg Prod.fst (Option.some.inj hminus)
  have hdigits : t.digits = 1 := congrArg Prod.snd (Option.some.inj hminus)
  rcases DecimalText.value_nonneg_iff.mp hnonneg with h | h
  · rw [hsign] at h
    cases h
  · rw [hdigits] at h
    cases h

end BlockchainApi.Pos
