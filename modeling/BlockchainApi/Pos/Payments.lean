/-
  Requests for point-of-sale transactions (`src/handlers/json_rpc/pos/build_transactions.rs`,
  `mod.rs`, `supported_networks.rs`, and what the builders of `evm.rs`, `solana.rs` and `tron.rs` do
  once the transfer is made).

  A request is a list of payment intents.  Each intent is validated and built on its own, all at the
  same time; the request succeeds if all of them do.  `Services` holds what other crates, the chains
  and the providers answer to the calls of one intent; what is asked of a chain is a field of the
  services of that chain.

  1. **Validation** (`validateParams_eq_ok`): the asset is on a chain of the namespace, in one of
     the namespaces of assets that the chain has, and both accounts are on that chain.
  2. **Building** (`evmBuild_eq_ok` and its siblings): what is asked of the wallet, from the
     transfers of `Pos.Amounts` and `Pos.SplTransfer` and the answers about gas and blocks.
  3. **What a request returns** (`request_pays_intents`), intent by intent: a transaction with an id
     of its own that pays the intent (`Pays`), in the order of the intents, or the error of one of
     them.  A request without intents is refused with an error of its own, and no request panics.
-/
import BlockchainApi.Pos.Amounts
import BlockchainApi.Pos.TransactionId
import BlockchainApi.Pos.TronBroadcast
import BlockchainApi.Utils.Caip19

namespace BlockchainApi.Pos

open ByteCodec

/-! ## Namespaces of chains, and of assets on them -/

/-- `SupportedNamespaces`. -/
inductive SupportedNamespaces where
  | eip155
  | solana
  | tron
  deriving DecidableEq

namespace SupportedNamespaces

/-- Its name (strum, lower case). -/
def display : SupportedNamespaces → String
  | eip155 => "eip155"
  | solana => "solana"
  | tron => "tron"

/-- `from_str`. -/
def fromStr (s : List Char) : Option SupportedNamespaces :=
  [eip155, solana, tron].find? fun n => n.display.toList = s

/-- `validate_address`. -/
def validateAddress (p : AddressParsers) : SupportedNamespaces → String → Bool
  | eip155, address => isAddressValid p address .eip155
  | solana, address => isAddressValid p address .solana
  | tron, _ => true

/-- `ETH_SEND_TRANSACTION_METHOD`, `SOLANA_RPC_METHOD` and `TRON_SIGN_TRANSACTION_METHOD`. -/
def method : SupportedNamespaces → String
  | eip155 => "eth_sendTransaction"
  | solana => "solana_signAndSendTransaction"
  | tron => "tron_signTransaction"

theorem fromStr_eq_some_iff {s : List Char} {n : SupportedNamespaces} :
    fromStr s = some n ↔ s = n.display.toList := by
  constructor
  · intro h
    have hfound := List.find?_some (h : [eip155, solana, tron].find? _ = some n)
    exact (of_decide_eq_true hfound).symm
  · rintro rfl
    cases n <;> decide

end SupportedNamespaces

/-- `Display for AssetNamespace` on EVM chains. -/
def EvmAssetNamespace.display : EvmAssetNamespace → String
  | .erc20 => "erc20"
  | .slip44 => "slip44"

/-- `AssetNamespace::iter` on EVM chains. -/
def EvmAssetNamespace.iter : List EvmAssetNamespace := [.erc20, .slip44]

/-- `AssetNamespace::from_str` on EVM chains. -/
def EvmAssetNamespace.fromStr (s : String) : Option EvmAssetNamespace :=
  EvmAssetNamespace.iter.find? fun n => n.display = s

/-- `Display for AssetNamespace` on Solana. -/
def SolanaAssetNamespace.display : SolanaAssetNamespace → String
  | .token => "token"
  | .slip44 => "slip44"

/-- `AssetNamespace::iter` on Solana. -/
def SolanaAssetNamespace.iter : List SolanaAssetNamespace := [.token, .slip44]

/-- `AssetNamespace::from_str` on Solana. -/
def SolanaAssetNamespace.fromStr (s : String) : Option SolanaAssetNamespace :=
  SolanaAssetNamespace.iter.find? fun n => n.display = s

/-- `Display for AssetNamespace` on Tron. -/
def TronAssetNamespace.display : TronAssetNamespace → String
  | .trc20 => "trc20"
  | .slip44 => "slip44"

/-- `AssetNamespace::iter` on Tron. -/
def TronAssetNamespace.iter : List TronAssetNamespace := [.trc20, .slip44]

/-- `AssetNamespace::from_str` on Tron. -/
def TronAssetNamespace.fromStr (s : String) : Option TronAssetNamespace :=
  TronAssetNamespace.iter.find? fun n => n.display = s

/-- `SupportedNamespace`. -/
structure SupportedNamespace where
  name : String
  methods : List String
  events : List String
  assetNamespaces : List String
  deriving DecidableEq

/-- `get_namespace_info`, of one of the builders. -/
def getNamespaceInfo (n : SupportedNamespaces) (assetNamespaces : List String) :
    SupportedNamespace where
  name := n.display
  methods := [n.method]
  events := []
  assetNamespaces := assetNamespaces

/-- The handler of `wc_pos_supportedNetworks`. -/
def supportedNetworks : List SupportedNamespace :=
  [getNamespaceInfo .eip155 (EvmAssetNamespace.iter.map (·.display)),
    getNamespaceInfo .solana (SolanaAssetNamespace.iter.map (·.display)),
    getNamespaceInfo .tron (TronAssetNamespace.iter.map (·.display))]

/-! ## Validation of an intent -/

/-- `PaymentIntent`. -/
structure PaymentIntent where
  asset : String
  amount : String
  recipient : String
  sender : String

/-- The text of a failed `from_str` (strum). -/
def variantNotFound : String := "Matching variant not found"

section

variable (k : Checksums) (p : AddressParsers)

open Outcome

/-- `ValidatedPaymentIntent::validate_params`; the parsed asset stands beside the validated
    intent. -/
def validateParams {N : Type} (fromStr : String → Option N) (params : PaymentIntent) :
    Outcome BuildPosTxsError (Caip19Asset × ValidatedPaymentIntent N) := do
  let asset ← ofExcept (fun e => .validation (.invalidAsset e.display))
    (Caip19Asset.parse k params.asset)
  let (recipientNamespace, recipientChainId, recipientAddress) ←
    mapErr (fun e => .validation (.invalidRecipient e.display))
      (disassembleCaip10WithNamespace SupportedNamespaces.fromStr
        (SupportedNamespaces.validateAddress p) params.recipient)
  let (senderNamespace, senderChainId, senderAddress) ←
    mapErr (fun e => .validation (.invalidSender e.display))
      (disassembleCaip10WithNamespace SupportedNamespaces.fromStr
        (SupportedNamespaces.validateAddress p) params.sender)
  let assetChainId := asset.chainId.reference
  let assetNamespace ← okOr (SupportedNamespaces.fromStr asset.chainId.namespace_.toList)
    (.validation (.invalidAsset variantNotFound))
  ensure (assetNamespace = recipientNamespace ∧ assetNamespace = senderNamespace)
    (.validation (.invalidAsset "Asset namespace must match recipient and sender namespaces"))
  ensure (assetChainId = recipientChainId ∧ assetChainId = senderChainId)
    (.validation (.invalidAsset "Asset chain ID must match recipient and sender chain IDs"))
  let namespace_ ← okOr (fromStr asset.assetNamespace)
    (.validation (.invalidAsset asset.assetNamespace))
  return (asset,
    { assetReference := asset.assetReference
      amount := params.amount
      recipientAddress := recipientAddress
      senderAddress := senderAddress
      namespace_ := namespace_ })

end

/-! ## Building: from a valid intent to what the wallet is asked -/

/-- `std::num::ParseIntError`. -/
inductive ParseIntError where
  | empty
  | invalidDigit
  | posOverflow
  deriving DecidableEq

/-- `Display for ParseIntError`. -/
def ParseIntError.display : ParseIntError → String
  | .empty => "cannot parse integer from empty string"
  | .invalidDigit => "invalid digit found in string"
  | .posOverflow => "number too large to fit in target type"

/-- The digits of `from_str_radix(_, 16)`, read from the left. -/
def readHexDigits (bound : Nat) : Nat → List Char → Except ParseIntError Nat
  | value, [] => .ok value
  | value, c :: rest =>
    if isHexChar c then
      if 16 * value + hexCharValue c < bound then
        readHexDigits bound (16 * value + hexCharValue c) rest
      else .error .posOverflow
    else .error .invalidDigit

/-- `from_str_radix(_, 16)` of an unsigned type below `bound`. -/
def fromStrRadix16 (bound : Nat) : List Char → Except ParseIntError Nat
  | [] => .error .empty
  | ['+'] => .error .invalidDigit
  | s => readHexDigits bound 0 (unsignedDigits s)

/-- The fees of `estimate_eip1559_fees`. -/
structure Eip1559Fees where
  maxFeePerGas : U128
  maxPriorityFeePerGas : U128
  deriving DecidableEq

/-- A `TransactionRequest` with its fees and its gas. -/
structure FinalizedRequest where
  request : TransactionRequest
  fees : Eip1559Fees
  gasLimit : U64
  deriving DecidableEq

/-- What an EVM chain and its provider answer. -/
structure EvmChain where
  deps : EvmDeps
  estimateEip1559Fees : Except String Eip1559Fees
  estimateGas : TransactionRequest → Eip1559Fees → Except String U64

/-- A compiled `v0::Message`. -/
structure V0Message where
  numRequiredSignatures : UInt8
  body : Bytes

/-- `VersionedTransaction`, with default signatures. -/
structure VersionedTransaction where
  signatures : List (FixedBytes 64)
  message : V0Message

/-- What Solana, its provider and its crates answer. -/
structure SolanaChain where
  deps : SolanaDeps
  latestBlockhash : Except String (FixedBytes 32)
  tryCompile : Pubkey → List TransferChecked → FixedBytes 32 → Except String V0Message
  serialize : VersionedTransaction → Except String Bytes
  /-- `general_purpose::STANDARD.encode`. -/
  encode : Bytes → String

/-- The parameters of `estimate_gas`. -/
structure EstimateGasParams where
  from_ : String
  to_ : String
  data : String
  value : String

/-- What Tron and its provider answer. -/
structure TronChain where
  deps : TronDeps
  estimateGas : EstimateGasParams → Except RpcError String
  gasPrice : Except RpcError String
  buildTransaction : BuildTransactionParams → Except RpcError SignedTransaction

/-- What is answered to the calls of one intent. -/
structure Services where
  evm : Caip2ChainId → EvmChain
  solana : Caip2ChainId → SolanaChain
  tron : Caip2ChainId → TronChain

/-- The parameters of the call that the wallet is asked to make. -/
inductive TransactionParams where
  | eth (tx : FinalizedRequest)
  | solana (transaction pubkey : String)
  | tron (address : String) (transaction : SignedTransaction)

/-- `TransactionRpc`. -/
structure TransactionRpc where
  id : String
  chainId : String
  method : String
  params : TransactionParams

/-- `NATIVE_GAS_LIMIT`. -/
def nativeGasLimit : U64 := 21000

/-- `has_transaction_data`. -/
def hasTransactionData (tx : TransactionRequest) : Bool := tx.data.isSome || tx.input.isSome

/-- `finalize`, up to the id. -/
def EvmChain.finalize (chain : EvmChain) (tx : TransactionRequest) :
    Except BuildPosTxsError FinalizedRequest := do
  let _ ← chain.deps.getProvider.mapError .internal
  let fees ← chain.estimateEip1559Fees.mapError fun e => .execution (.gasEstimation e)
  let gasLimit ← (if hasTransactionData tx then
      (chain.estimateGas tx fees).mapError fun e => .execution (.gasEstimation e)
    else .ok nativeGasLimit)
  return { request := tx, fees, gasLimit }

/-- What `build` of the EVM builder asks the wallet for. -/
def EvmChain.build (chain : EvmChain) (params : ValidatedPaymentIntent EvmAssetNamespace) :
    Except BuildPosTxsError TransactionParams := do
  let tx ← buildEvm chain.deps params
  let finalized ← chain.finalize tx
  return .eth finalized

/-- What `build` of the Solana builder asks the wallet for: the instruction, packed. -/
def SolanaChain.build (chain : SolanaChain) (params : ValidatedPaymentIntent SolanaAssetNamespace) :
    Except BuildPosTxsError TransactionParams := do
  let transferInstruction ← buildSolana chain.deps params
  let senderPubkey ← (chain.deps.parsePubkey params.senderAddress).mapError
    fun e => .validation (.invalidSender e)
  let recentBlockhash ← chain.latestBlockhash.mapError
    fun e => .internal (.internal ("Failed to fetch recent blockhash: " ++ e))
  let message ← (chain.tryCompile senderPubkey [transferInstruction] recentBlockhash).mapError
    fun e => .internal (.internal ("Failed to compile v0 message: " ++ e))
  let serializedTx ← (chain.serialize
    { signatures := List.replicate message.numRequiredSignatures.toNat (.ofNat 64 0)
      message := message }).mapError
    fun e => .internal (.internal ("Failed to serialize transaction: " ++ e))
  return .solana (chain.encode serializedTx) params.senderAddress

/-- `ensure_hex_prefix`. -/
def ensureHexPrefix (hexStr : String) : String :=
  if "0x".toList.isPrefixOf hexStr.toList then hexStr else "0x" ++ hexStr

/-- `BPS_DEN`. -/
def bpsDen : Nat := 10000

/-- `FEE_MARGIN_BPS`. -/
def feeMarginBps : Nat := 2000

/-- `compute_fee_limit`: the estimate with its margin, unless a product leaves 128 bits. -/
def computeFeeLimit (gasEstimate gasPrice : Nat) : Except InternalError Nat :=
  if gasEstimate * gasPrice < 2 ^ 128 ∧
      gasEstimate * gasPrice * (bpsDen + feeMarginBps) < 2 ^ 128 then
    .ok (gasEstimate * gasPrice * (bpsDen + feeMarginBps) / bpsDen)
  else .error (.internal "fee_limit overflow")

/-- `estimate_trc20_fee_limit`. -/
def TronChain.estimateTrc20FeeLimit (chain : TronChain) (params : BuildTransactionParams) :
    Except BuildPosTxsError String := do
  let gasEstimate ← (chain.estimateGas
    { from_ := ensureHexPrefix params.from_
      to_ := ensureHexPrefix params.to_
      data := params.data
      value := params.value }).mapError .rpc
  let gasPrice ← chain.gasPrice.mapError .rpc
  let gasValue ← (fromStrRadix16 (2 ^ 128) (trimHexPrefix gasEstimate.toList)).mapError
    fun e => .execution (.gasEstimation ("Failed to parse gas estimate: " ++ e.display))
  let priceValue ← (fromStrRadix16 (2 ^ 128) (trimHexPrefix gasPrice.toList)).mapError
    fun e => .execution (.gasEstimation ("Failed to parse gas price: " ++ e.display))
  let feeLimit ← (computeFeeLimit gasValue priceValue).mapError .internal
  return "0x" ++ lowerHex feeLimit

/-- What `build` of the Tron builder asks the wallet for. -/
def TronChain.build (chain : TronChain) (params : ValidatedPaymentIntent TronAssetNamespace) :
    Except BuildPosTxsError TransactionParams := do
  let buildParams ← buildTron chain.deps params
  let feeLimit ← chain.estimateTrc20FeeLimit buildParams
  let transaction ← (chain.buildTransaction { buildParams with gas := some feeLimit }).mapError .rpc
  -- some wallets only accept a transaction that is not visible
  return .tron params.senderAddress { transaction with visible := some false }

section

variable (k : Checksums) (p : AddressParsers) (engine : Base64Engine)

open Outcome

/-- `validate_and_build`, of one of the builders: the transaction gets an id of its own. -/
def validateAndBuild {N : Type} (n : SupportedNamespaces) (fromStr : String → Option N)
    (build : Caip2ChainId → ValidatedPaymentIntent N → Except BuildPosTxsError TransactionParams)
    (uuid : Uuid) (intent : PaymentIntent) : Outcome BuildPosTxsError TransactionRpc := do
  let (asset, validated) ← validateParams k p fromStr intent
  let params ← ofExcept id (build asset.chainId validated)
  return { id := (TransactionId.new uuid asset.chainId).display engine
           chainId := asset.chainId.display
           method := n.method
           params := params }

/-- `build_transaction_for_intent`, with the UUID that is drawn. -/
def buildTransactionForIntent (sv : Services) (uuid : Uuid) (intent : PaymentIntent) :
    Outcome BuildPosTxsError TransactionRpc := do
  let asset ← ofExcept (fun e => .validation (.invalidAsset e.display))
    (Caip19Asset.parse k intent.asset)
  let n ← okOr (SupportedNamespaces.fromStr asset.chainId.namespace_.toList)
    (.validation (.invalidAsset variantNotFound))
  match n with
  | .eip155 =>
    validateAndBuild k p engine .eip155 EvmAssetNamespace.fromStr
      (fun chainId => (sv.evm chainId).build) uuid intent
  | .solana =>
    validateAndBuild k p engine .solana SolanaAssetNamespace.fromStr
      (fun chainId => (sv.solana chainId).build) uuid intent
  | .tron =>
    validateAndBuild k p engine .tron TronAssetNamespace.fromStr
      (fun chainId => (sv.tron chainId).build) uuid intent

/-- How the calls of a request go: what is answered to each intent, the UUID drawn for it, and the
    order in which the intents are done. -/
structure BuildCalls where
  services : Nat → Services
  uuid : Nat → Uuid
  order : List Nat

/-- `BuildTransactionResult`, with the analytics of each transaction. -/
structure BuildTransactionResult where
  transactions : List TransactionRpc
  analytics : List (PaymentIntent × TransactionRpc)

/-- The handler of `wc_pos_buildTransactions`. -/
def buildTransactions (calls : BuildCalls) (paymentIntents : List PaymentIntent) :
    Outcome BuildPosTxsError BuildTransactionResult := do
  ensure (paymentIntents ≠ []) (.validation (.invalidRequest "No payment intents found"))
  let transactions ← tryJoinAll calls.order (paymentIntents.mapIdx fun i intent =>
    buildTransactionForIntent k p engine (calls.services i) (calls.uuid i) intent)
  return { transactions := transactions, analytics := paymentIntents.zip transactions }

end


/-! ## What a request returns, intent by intent -/

/-- What an intent asks for. -/
structure Payment where
  asset : Caip19Asset
  namespace_ : SupportedNamespaces
  recipientAddress : String
  senderAddress : String

/-- The kinds of assets that can be paid with: the native assets of Solana and Tron cannot. -/
def SupportedNamespaces.payable : SupportedNamespaces → List String
  | eip155 => ["erc20", "slip44"]
  | solana => ["token"]
  | tron => ["trc20"]

/-- The wallet of the sender is asked to sign, by a call of the payment's namespace. -/
def SignedBySender (sv : Services) (payment : Payment) : TransactionParams → Prop
  | .eth tx => payment.namespace_ = .eip155 ∧
      ∃ address, (sv.evm payment.asset.chainId).deps.parseAddress payment.senderAddress =
        .ok address ∧ tx.request.from_ = some address
  | .solana _ pubkey => payment.namespace_ = .solana ∧ pubkey = payment.senderAddress
  | .tron address tx => payment.namespace_ = .tron ∧ address = payment.senderAddress ∧
      tx.visible = some false

/-- **The transaction pays what the intent asks for**, on the chain of its asset, and between two
    accounts of this chain. -/
structure Pays (k : Checksums) (sv : Services) (intent : PaymentIntent) (tx : TransactionRpc)
    (payment : Payment) : Prop where
  asset : Caip19Asset.parse k intent.asset = .ok payment.asset
  namespace_ : payment.asset.chainId.namespace_ = payment.namespace_.display
  recipient : intent.recipient = payment.asset.chainId.display ++ ":" ++ payment.recipientAddress
  sender : intent.sender = payment.asset.chainId.display ++ ":" ++ payment.senderAddress
  payable : payment.asset.assetNamespace ∈ payment.namespace_.payable
  chainId : tx.chainId = payment.asset.chainId.display
  method : tx.method = payment.namespace_.method
  signed : SignedBySender sv payment tx.params

/-- What is paid with is advertised. -/
theorem Pays.advertised {k : Checksums} {sv : Services} {intent : PaymentIntent}
    {tx : TransactionRpc} {payment : Payment} (h : Pays k sv intent tx payment) :
    ∃ info ∈ supportedNetworks, info.name = payment.asset.chainId.namespace_ ∧
      tx.method ∈ info.methods ∧ payment.asset.assetNamespace ∈ info.assetNamespaces := by
  have hpayable := h.payable
  rw [h.namespace_, h.method]
  cases hn : payment.namespace_ with
  | eip155 =>
    rw [hn] at hpayable
    exact ⟨_, List.mem_cons_self .., rfl, List.mem_cons_self .., hpayable⟩
  | solana =>
    rw [hn] at hpayable
    refine ⟨_, List.mem_cons_of_mem _ (List.mem_cons_self ..), rfl, List.mem_cons_self .., ?_⟩
    exact List.mem_cons.mpr (Or.inl (List.mem_singleton.mp hpayable))
  | tron =>
    rw [hn] at hpayable
    refine ⟨_, List.mem_cons_of_mem _ (List.mem_cons_of_mem _ (List.mem_cons_self ..)), rfl,
      List.mem_cons_self .., ?_⟩
    exact List.mem_cons.mpr (Or.inl (List.mem_singleton.mp hpayable))

section

variable {k : Checksums} {p : AddressParsers} {engine : Base64Engine} {sv : Services} {uuid : Uuid}
  {intent : PaymentIntent} {tx : TransactionRpc}

open Outcome

/-- An account of a chain, taken apart. -/
theorem account_eq {n : SupportedNamespaces} {text chain address : String} {c : Caip2ChainId}
    (hnamespace : c.namespace_ = n.display) (hchain : c.reference = chain)
    (h : disassembleCaip10WithNamespace SupportedNamespaces.fromStr
      (SupportedNamespaces.validateAddress p) text = .ok (n, chain, address)) :
    text = c.display ++ ":" ++ address := by
  obtain ⟨ns, htext, -, hn, -⟩ := disassembleCaip10WithNamespace_eq_ok_iff.mp h
  have hns : ns = n.display := String.toList_inj.mp (SupportedNamespaces.fromStr_eq_some_iff.mp hn)
  rw [htext, hns, Caip2ChainId.display, hnamespace, hchain]
  simp only [String.append_assoc]

/-- What a validated intent is. -/
theorem validateParams_eq_ok {N : Type} {fromStr : String → Option N} {asset : Caip19Asset}
    {v : ValidatedPaymentIntent N} (h : validateParams k p fromStr intent = ok (asset, v)) :
    ∃ n : SupportedNamespaces, Caip19Asset.parse k intent.asset = .ok asset ∧
      asset.chainId.namespace_ = n.display ∧
      intent.recipient = asset.chainId.display ++ ":" ++ v.recipientAddress ∧
      intent.sender = asset.chainId.display ++ ":" ++ v.senderAddress ∧
      fromStr asset.assetNamespace = some v.namespace_ := by
  obtain ⟨asset', hasset, h⟩ := bind_eq_ok.mp h
  obtain ⟨⟨rn, rc, ra⟩, hrecipient, h⟩ := bind_eq_ok.mp h
  obtain ⟨⟨sn, sc, sa⟩, hsender, h⟩ := bind_eq_ok.mp h
  obtain ⟨n, hn, h⟩ := bind_eq_ok.mp h
  obtain ⟨_, hsame, h⟩ := bind_eq_ok.mp h
  obtain ⟨_, hchain, h⟩ := bind_eq_ok.mp h
  obtain ⟨ns, hns, h⟩ := bind_eq_ok.mp h
  cases h
  obtain ⟨rfl, rfl⟩ := ensure_eq_ok.mp hsame
  obtain ⟨hrc, hsc⟩ := ensure_eq_ok.mp hchain
  have hnamespace : asset.chainId.namespace_ = n.display :=
    String.toList_inj.mp (SupportedNamespaces.fromStr_eq_some_iff.mp (okOr_eq_ok.mp hn))
  exact ⟨n, ofExcept_eq_ok.mp hasset, hnamespace,
    account_eq hnamespace hrc (mapErr_eq_ok.mp hrecipient),
    account_eq hnamespace hsc (mapErr_eq_ok.mp hsender), okOr_eq_ok.mp hns⟩

/-- The sender of a request to an EVM wallet. -/
theorem buildEvm_from {deps : EvmDeps} {params : ValidatedPaymentIntent EvmAssetNamespace}
    {request : TransactionRequest} (h : buildEvm deps params = .ok request) :
    ∃ address, deps.parseAddress params.senderAddress = .ok address ∧
      request.from_ = some address := by
  obtain ⟨builder, hbuilder, h⟩ := Except.bind_eq_ok.mp h
  obtain ⟨to_, -, hbuilder⟩ := Except.mapError_bind_eq_ok.mp hbuilder
  obtain ⟨from_, hfrom, hbuilder⟩ := Except.mapError_bind_eq_ok.mp hbuilder
  cases hbuilder
  refine ⟨from_, hfrom, ?_⟩
  split at h
  · obtain ⟨built, hbuilt, h⟩ := Except.bind_eq_ok.mp h
    obtain ⟨weiValue, -, hbuilt⟩ := Except.bind_eq_ok.mp hbuilt
    cases hbuilt
    cases h
    rfl
  · obtain ⟨built, hbuilt, h⟩ := Except.bind_eq_ok.mp h
    obtain ⟨token, -, hbuilt⟩ := Except.mapError_bind_eq_ok.mp hbuilt
    obtain ⟨-, -, hbuilt⟩ := Except.mapError_bind_eq_ok.mp hbuilt
    obtain ⟨amount, -, hbuilt⟩ := Except.bind_eq_ok.mp hbuilt
    cases hbuilt
    cases h
    rfl

/-- Only tokens are built on Solana, and the sender's key is asked for. -/
theorem solanaBuild_eq_ok {chain : SolanaChain}
    {params : ValidatedPaymentIntent SolanaAssetNamespace} {asked : TransactionParams}
    (h : chain.build params = .ok asked) :
    params.namespace_ = .token ∧
      ∃ transaction, asked = .solana transaction params.senderAddress := by
  obtain ⟨instruction, hinstruction, h⟩ := Except.bind_eq_ok.mp h
  obtain ⟨sender, -, h⟩ := Except.mapError_bind_eq_ok.mp h
  obtain ⟨blockhash, -, h⟩ := Except.mapError_bind_eq_ok.mp h
  obtain ⟨message, -, h⟩ := Except.mapError_bind_eq_ok.mp h
  obtain ⟨serialized, -, h⟩ := Except.mapError_bind_eq_ok.mp h
  cases h
  refine ⟨?_, _, rfl⟩
  rw [buildSolana] at hinstruction
  split at hinstruction
  · next htoken => exact htoken
  · cases hinstruction

/-- The same on Tron. -/
theorem tronBuild_eq_ok {chain : TronChain} {params : ValidatedPaymentIntent TronAssetNamespace}
    {asked : TransactionParams} (h : chain.build params = .ok asked) :
    params.namespace_ = .trc20 ∧
      ∃ transaction : SignedTransaction,
        asked = .tron params.senderAddress { transaction with visible := some false } := by
  obtain ⟨built, hbuilt, h⟩ := Except.bind_eq_ok.mp h
  obtain ⟨feeLimit, -, h⟩ := Except.bind_eq_ok.mp h
  obtain ⟨transaction, -, h⟩ := Except.mapError_bind_eq_ok.mp h
  cases h
  refine ⟨?_, transaction, rfl⟩
  rw [buildTron] at hbuilt
  split at hbuilt
  · next htoken => exact htoken
  · cases hbuilt

/-- On EVM chains the sender is the one the address of the account is parsed to. -/
theorem evmBuild_eq_ok {chain : EvmChain} {params : ValidatedPaymentIntent EvmAssetNamespace}
    {asked : TransactionParams} (h : chain.build params = .ok asked) :
    ∃ tx address, asked = .eth tx ∧ chain.deps.parseAddress params.senderAddress = .ok address ∧
      tx.request.from_ = some address := by
  obtain ⟨request, hrequest, h⟩ := Except.bind_eq_ok.mp h
  obtain ⟨tx, htx, h⟩ := Except.bind_eq_ok.mp h
  cases h
  obtain ⟨-, -, htx⟩ := Except.mapError_bind_eq_ok.mp htx
  obtain ⟨fees, -, htx⟩ := Except.mapError_bind_eq_ok.mp htx
  obtain ⟨gasLimit, -, htx⟩ := Except.bind_eq_ok.mp htx
  cases htx
  obtain ⟨address, haddress, hfrom⟩ := buildEvm_from hrequest
  exact ⟨_, address, rfl, haddress, hfrom⟩

/-- What a builder returns, from what its own part asks for. -/
theorem validateAndBuild_eq_ok {N : Type} {n : SupportedNamespaces} {fromStr : String → Option N}
    {build : Caip2ChainId → ValidatedPaymentIntent N → Except BuildPosTxsError TransactionParams}
    {asset : Caip19Asset} (hasset : Caip19Asset.parse k intent.asset = .ok asset)
    (hn : asset.chainId.namespace_ = n.display)
    (hbuild : ∀ v asked, fromStr asset.assetNamespace = some v.namespace_ →
      build asset.chainId v = .ok asked →
        asset.assetNamespace ∈ n.payable ∧
          SignedBySender sv ⟨asset, n, v.recipientAddress, v.senderAddress⟩ asked)
    (h : validateAndBuild k p engine n fromStr build uuid intent = ok tx) :
    ∃ payment, Pays k sv intent tx payment ∧
      tx.id = (TransactionId.new uuid payment.asset.chainId).display engine := by
  obtain ⟨⟨asset', v⟩, hvalid, h⟩ := bind_eq_ok.mp h
  obtain ⟨asked, hasked, h⟩ := bind_eq_ok.mp h
  obtain ⟨-, hasset', -, hrecipient, hsender, hfrom⟩ := validateParams_eq_ok hvalid
  cases hasset.symm.trans hasset'
  cases h
  obtain ⟨hpayable, hsigned⟩ := hbuild v asked hfrom (ofExcept_eq_ok.mp hasked)
  exact ⟨⟨asset, n, v.recipientAddress, v.senderAddress⟩,
    ⟨hasset, hn, hrecipient, hsender, hpayable, rfl, rfl, hsigned⟩, rfl⟩

/-- **One intent.** -/
theorem pays_of_buildTransactionForIntent
    (h : buildTransactionForIntent k p engine sv uuid intent = ok tx) :
    ∃ payment, Pays k sv intent tx payment ∧
      tx.id = (TransactionId.new uuid payment.asset.chainId).display engine := by
  obtain ⟨asset, hasset, h⟩ := bind_eq_ok.mp h
  obtain ⟨n, hn, h⟩ := bind_eq_ok.mp h
  have hasset := ofExcept_eq_ok.mp hasset
  have hn : asset.chainId.namespace_ = n.display :=
    String.toList_inj.mp (SupportedNamespaces.fromStr_eq_some_iff.mp (okOr_eq_ok.mp hn))
  -- a kind of asset is read from its name
  have hname {N : Type} {display : N → String} {iter : List N} {kind : N}
      (hfrom : iter.find? (fun n => display n = asset.assetNamespace) = some kind) :
      asset.assetNamespace = display kind := by
    have hfound := List.find?_some hfrom
    exact (of_decide_eq_true hfound).symm
  cases n with
  | eip155 =>
    refine validateAndBuild_eq_ok hasset hn (fun v asked hfrom hbuild => ?_) h
    obtain ⟨request, address, rfl, haddress, hsender⟩ := evmBuild_eq_ok hbuild
    refine ⟨?_, rfl, address, haddress, hsender⟩
    rw [hname hfrom]
    cases v.namespace_ <;> decide
  | solana =>
    refine validateAndBuild_eq_ok hasset hn (fun v asked hfrom hbuild => ?_) h
    obtain ⟨htoken, transaction, rfl⟩ := solanaBuild_eq_ok hbuild
    refine ⟨?_, rfl, rfl⟩
    rw [hname hfrom, htoken]
    decide
  | tron =>
    refine validateAndBuild_eq_ok hasset hn (fun v asked hfrom hbuild => ?_) h
    obtain ⟨htoken, transaction, rfl⟩ := tronBuild_eq_ok hbuild
    refine ⟨?_, rfl, rfl, rfl⟩
    rw [hname hfrom, htoken]
    decide

variable {calls : BuildCalls} {intents : List PaymentIntent} {result : BuildTransactionResult}

/-- What is built for one of the intents of a request. -/
def builtIntent (k : Checksums) (p : AddressParsers) (engine : Base64Engine) (calls : BuildCalls)
    (i : Nat) (intent : PaymentIntent) : Outcome BuildPosTxsError TransactionRpc :=
  buildTransactionForIntent k p engine (calls.services i) (calls.uuid i) intent

/-- **A request that succeeds**, by its intents. -/
theorem buildTransactions_eq_ok_iff :
    buildTransactions k p engine calls intents = ok result ↔
      intents ≠ [] ∧ intents.mapIdx (builtIntent k p engine calls) = result.transactions.map ok ∧
        result.analytics = intents.zip result.transactions := by
  unfold buildTransactions
  simp only [bind_eq_ok, ensure_eq_ok, exists_const, tryJoinAll_eq_ok_iff, pure_eq, ok.injEq]
  refine and_congr_right fun _ => ?_
  constructor
  · rintro ⟨transactions, hbuilt, rfl⟩
    exact ⟨hbuilt, rfl⟩
  · rintro ⟨hbuilt, hanalytics⟩
    refine ⟨result.transactions, hbuilt, ?_⟩
    rw [← hanalytics]

/-- The intents of a request that succeeds, each with its transaction. -/
theorem getElem?_of_buildTransactions (h : buildTransactions k p engine calls intents = ok result) :
    result.transactions.length = intents.length ∧
      ∀ {i : Nat} {intent : PaymentIntent} {tx : TransactionRpc}, intents[i]? = some intent →
        result.transactions[i]? = some tx → builtIntent k p engine calls i intent = ok tx := by
  obtain ⟨-, hbuilt, -⟩ := buildTransactions_eq_ok_iff.mp h
  constructor
  · have hlength := congrArg List.length hbuilt
    rw [List.length_mapIdx, List.length_map] at hlength
    exact hlength.symm
  · intro i intent tx hintent htx
    have hplace := congrArg (·[i]?) hbuilt
    simp only [List.getElem?_mapIdx, List.getElem?_map, hintent, htx, Option.map_some,
      Option.some.injEq] at hplace
    exact hplace

/-- A request succeeds if it has intents and each of them can be built. -/
theorem exists_buildTransactions_iff :
    (∃ result, buildTransactions k p engine calls intents = ok result) ↔
      intents ≠ [] ∧ ∀ i intent, intents[i]? = some intent →
        ∃ tx, builtIntent k p engine calls i intent = ok tx := by
  constructor
  · rintro ⟨result, h⟩
    refine ⟨(buildTransactions_eq_ok_iff.mp h).1, fun i intent hintent => ?_⟩
    obtain ⟨hlength, hbuilt⟩ := getElem?_of_buildTransactions h
    have hi : i < result.transactions.length := hlength ▸ (List.getElem?_eq_some_iff.mp hintent).1
    exact ⟨_, hbuilt hintent (List.getElem?_eq_getElem hi)⟩
  · rintro ⟨hintents, hall⟩
    have hreturns : ∀ r ∈ intents.mapIdx (builtIntent k p engine calls), ∃ tx, ok tx = r := by
      intro r hr
      obtain ⟨i, hi, rfl⟩ := List.mem_mapIdx.mp hr
      obtain ⟨tx, htx⟩ := hall i intents[i] (List.getElem?_eq_getElem hi)
      exact ⟨tx, htx.symm⟩
    obtain ⟨transactions, htransactions⟩ :
        intents.mapIdx (builtIntent k p engine calls) ∈ Set.range (List.map ok) := by
      rw [Set.range_list_map]
      exact hreturns
    exact ⟨⟨transactions, intents.zip transactions⟩,
      buildTransactions_eq_ok_iff.mpr ⟨hintents, htransactions.symm, rfl⟩⟩

/-- The error of a request without intents, or of one of its intents. -/
theorem of_buildTransactions_eq_err {e : BuildPosTxsError}
    (h : buildTransactions k p engine calls intents = err e) :
    (intents = [] ∧ e = .validation (.invalidRequest "No payment intents found")) ∨
      ∃ i intent, intents[i]? = some intent ∧ builtIntent k p engine calls i intent = err e := by
  rcases bind_eq_err.mp h with hempty | ⟨-, -, h⟩
  · obtain ⟨hnil, rfl⟩ := ensure_eq_err.mp hempty
    exact Or.inl ⟨not_not.mp hnil, rfl⟩
  · rcases bind_eq_err.mp h with hfailed | ⟨_, _, h⟩
    · obtain ⟨i, hi, hr⟩ := List.mem_mapIdx.mp (mem_of_tryJoinAll_eq_err hfailed)
      exact Or.inr ⟨i, intents[i], List.getElem?_eq_getElem hi, hr⟩
    · cases h

/-- No check of an intent panics. -/
theorem validateParams_ne_panic {N : Type} {fromStr : String → Option N}
    {intent : PaymentIntent} : validateParams k p fromStr intent ≠ panic := by
  have hdisassemble : ∀ {f : CryptoUtilsError → BuildPosTxsError} {caip10 : String},
      mapErr f (disassembleCaip10WithNamespace SupportedNamespaces.fromStr
        (SupportedNamespaces.validateAddress p) caip10) ≠ panic :=
    fun h => disassembleCaip10WithNamespace_ne_panic (mapErr_eq_panic.mp h)
  unfold validateParams
  refine bind_ne_panic ofExcept_ne_panic fun asset _ => ?_
  refine bind_ne_panic hdisassemble fun recipient _ => ?_
  refine bind_ne_panic hdisassemble fun sender _ => ?_
  refine bind_ne_panic okOr_ne_panic fun assetNamespace _ => ?_
  refine bind_ne_panic ensure_ne_panic fun _ _ => ?_
  refine bind_ne_panic ensure_ne_panic fun _ _ => ?_
  exact bind_ne_panic okOr_ne_panic fun namespace_ _ => ok_ne_panic

theorem validateAndBuild_ne_panic {N : Type} {n : SupportedNamespaces}
    {fromStr : String → Option N}
    {build : Caip2ChainId → ValidatedPaymentIntent N → Except BuildPosTxsError TransactionParams}
    {uuid : Uuid} {intent : PaymentIntent} :
    validateAndBuild k p engine n fromStr build uuid intent ≠ panic :=
  bind_ne_panic validateParams_ne_panic fun _ _ =>
    bind_ne_panic ofExcept_ne_panic fun _ _ => ok_ne_panic

/-- Nor does what is built for it. -/
theorem buildTransactionForIntent_ne_panic {sv : Services} {uuid : Uuid}
    {intent : PaymentIntent} : buildTransactionForIntent k p engine sv uuid intent ≠ panic := by
  unfold buildTransactionForIntent
  refine bind_ne_panic ofExcept_ne_panic fun asset _ => ?_
  refine bind_ne_panic okOr_ne_panic fun n _ => ?_
  cases n with
  | eip155 => exact validateAndBuild_ne_panic
  | solana => exact validateAndBuild_ne_panic
  | tron => exact validateAndBuild_ne_panic

theorem buildTransactions_ne_panic {calls : BuildCalls} {intents : List PaymentIntent} :
    buildTransactions k p engine calls intents ≠ panic := by
  refine bind_ne_panic ensure_ne_panic fun _ _ => ?_
  refine bind_ne_panic (tryJoinAll_ne_panic fun r hr => ?_) fun _ _ => ok_ne_panic
  obtain ⟨i, hi, rfl⟩ := List.mem_mapIdx.mp hr
  exact buildTransactionForIntent_ne_panic

/-- **Payment requests.**  A request succeeds if it has intents and each of them can be built.  Then
    it returns a transaction for each intent, in their order, that pays it and has an id of its own.
    Otherwise it carries the error of one of its intents, or its own if it has none; it does not
    panic. -/
theorem request_pays_intents (k : Checksums) (p : AddressParsers) (engine : Base64Engine)
    (calls : BuildCalls) (intents : List PaymentIntent) :
    ((∃ result, buildTransactions k p engine calls intents = ok result) ↔
      intents ≠ [] ∧ ∀ i intent, intents[i]? = some intent →
        ∃ tx, builtIntent k p engine calls i intent = ok tx) ∧
    (∀ result, buildTransactions k p engine calls intents = ok result →
      result.transactions.length = intents.length ∧
      result.analytics = intents.zip result.transactions ∧
      ∀ i intent tx, intents[i]? = some intent → result.transactions[i]? = some tx →
        ∃ payment, Pays k (calls.services i) intent tx payment ∧
          tx.id = (TransactionId.new (calls.uuid i) payment.asset.chainId).display engine) ∧
    (∀ e, buildTransactions k p engine calls intents = err e →
      (intents = [] ∧ e = .validation (.invalidRequest "No payment intents found")) ∨
        ∃ i intent, intents[i]? = some intent ∧ builtIntent k p engine calls i intent = err e) ∧
    buildTransactions k p engine calls intents ≠ panic := by
  refine ⟨exists_buildTransactions_iff, ?_, fun e h => of_buildTransactions_eq_err h,
    buildTransactions_ne_panic⟩
  intro result h
  obtain ⟨hlength, hbuilt⟩ := getElem?_of_buildTransactions h
  exact ⟨hlength, (buildTransactions_eq_ok_iff.mp h).2.2, fun i intent tx hintent htx =>
    pays_of_buildTransactionForIntent (hbuilt hintent htx)⟩

end

end BlockchainApi.Pos
