/-
  The route handler (`src/handlers/chain_agnostic/route.rs`, `lifi.rs`): what has to be bridged for
  the first call of a transaction to go through, and the transactions that do it.

  The handler runs in stages, each a function here.

  1.  `readTransfer` finds out what the call transfers: the native token, a token by the call's own
     data, or the first one that a simulation of the call shows.
  2.  `planBridging` compares that with the sender's balance and chooses a source asset
     (`ChainAgnostic.Assets`).
  3.  `bungeeRoute` and `lifiRoute` get a quote and build the bridging transactions.  The first
     bridge is quoted twice: for the missing amount, and for that amount with the fee the first
     quote shows.  The second one is quoted once, and what it answers is asserted to be what was
     asked for.
  4.  `carryOut` adds the initial transaction and stores the item that the status polls read.

  A stage is a `RouteM`: it returns, ends the handler with an error or a response, or panics.
  Nonces are taken on the way (`RouteState.nonces`), and what a bridge is asked is noted
  (`RouteState.questions`).

  What other services answer is part of `RouteEnv`: one answer for each call, so that a statement
  about every environment is one about all answers.  Logging, metrics and analytics are left out.
  An error response of the handler is an exit of its own (`RouteExit.respond`); it carries the
  arguments of the text it formats.
-/
import BlockchainApi.ChainAgnostic.Assets
import BlockchainApi.ChainAgnostic.NonceManager
import BlockchainApi.ChainAgnostic.Status
import BlockchainApi.Utils.Caip

namespace BlockchainApi

open ByteCodec HashMap

/-! ## Requests and responses -/

/-- A call of the initial transaction. -/
structure InitialCall where
  to_ : Address
  value : U256
  input : Bytes
  deriving DecidableEq

/-- `PrepareRequest` and the query parameter that picks the bridge. -/
structure PrepareRequest where
  chainId : String
  from_ : Address
  calls : List InitialCall
  accounts : List String
  useLifi : Bool

/-- `Transaction`. -/
structure Transaction where
  from_ : Address
  to_ : Address
  value : U256
  input : Bytes
  gasLimit : U64
  nonce : U64
  chainId : String
  deriving DecidableEq

/-- `SolanaTransaction`; the transaction itself stays opaque. -/
structure SolanaTransaction where
  from_ : SolanaPubkey
  chainId : String
  transaction : Bytes
  deriving DecidableEq

/-- `Transactions`. -/
inductive Transactions where
  | eip155 (transactions : List Transaction)
  | solana (transactions : List SolanaTransaction)

/-- `FundingMetadata`. -/
structure FundingMetadata where
  chainId : String
  tokenContract : Eip155OrSolanaAddress
  symbol : String
  amount : U256
  bridgingFee : U256
  decimals : UInt8

/-- `InitialTransactionMetadata`. -/
structure InitialTransactionMetadata where
  transferTo : Address
  amount : U256
  tokenContract : Address
  symbol : String
  decimals : UInt8

/-- `PrepareResponseAvailable`, its metadata included. -/
structure PrepareResponseAvailable where
  orchestrationId : String
  initialTransaction : Transaction
  transactions : List Transactions
  fundingFrom : List FundingMetadata
  initialTransactionMetadata : InitialTransactionMetadata
  checkIn : UInt64

/-- `PrepareResponseSuccess`. -/
inductive PrepareResponseSuccess where
  | available (response : PrepareResponseAvailable)
  | notRequired (initialTransaction : Transaction) (transactions : List Transaction)

/-- `BridgingError`. -/
inductive BridgingError where
  | transactionSimulationFailed
  | assetNotSupported
  | insufficientFunds
  | noRoutesAvailable
  deriving DecidableEq

/-- `PrepareResponseError`: the arguments of its reason. -/
inductive PrepareResponseError where
  /-- `The initial transaction (native token transfer) simulation failed due to an error: {e}`. -/
  | nativeSimulationFailed (e : RpcError)
  /-- `The initial transaction simulation failed due to an error: {e}`. -/
  | simulationFailed (e : RpcError)
  /-- `The initial transaction asset {}:{} is not supported for the bridging`. -/
  | assetNotSupported (chainId : String) (contract : Address)
  /-- `The transaction does not change any supported bridging assets`. -/
  | noSupportedAssetChange
  /-- `No supported assets with at least {} amount were found in the address {}`. -/
  | noSufficientAsset (topup : U256) (from_ : Address)
  /-- `The current bridging asset balance on {} is {} less than the required topup amount:{}`. -/
  | balanceLessThanRequired (from_ : Address) (balance required : U256)
  /-- `No routes were found from {}:{} to {}:{} for an initial amount {}`. -/
  | noRoutes (fromChain : String) (fromToken : Address) (toChain : String) (toToken : Address)
      (amount : U256)
  /-- `No routes were found from {}:{} to {}:{} for updated (fee included) amount: {}`. -/
  | noRoutesUpdated (fromChain : String) (fromToken : Address) (toChain : String)
      (toToken : Address) (amount : U256)

/-- The error a refusal carries. -/
def PrepareResponseError.error : PrepareResponseError → BridgingError
  | nativeSimulationFailed _ | simulationFailed _ => .transactionSimulationFailed
  | assetNotSupported _ _ | noSupportedAssetChange => .assetNotSupported
  | noSufficientAsset _ _ | balanceLessThanRequired _ _ _ => .insufficientFunds
  | noRoutes _ _ _ _ _ | noRoutesUpdated _ _ _ _ _ => .noRoutesAvailable

/-- `PrepareResponse`. -/
inductive PrepareResponse where
  | success (response : PrepareResponseSuccess)
  | error (e : PrepareResponseError)

/-! ## What other services answer -/

/-- `Erc20AssetChange`. -/
structure Erc20AssetChange where
  chainId : String
  assetContract : Address
  amount : U256
  receiver : Address

/-- `BungeeApprovalData`. -/
structure BungeeApprovalData where
  allowanceTarget : Address
  approvalTokenAddress : Address
  minimumApprovalAmount : U256
  owner : Address

/-- `BungeeBuildTx`. -/
structure BungeeBuildTx where
  chainId : Nat
  txData : Bytes
  txTarget : Address
  value : U256
  approvalData : Option BungeeApprovalData

/-- `BungeeApprovalTx`. -/
structure BungeeApprovalTx where
  from_ : Address
  to_ : Address
  data : Bytes

/-- What the simulation says of one transaction. -/
structure SimulatedTransaction where
  input : Bytes
  gas : UInt64

/-- The answers on the way through the first bridge. -/
structure BungeeAnswers where
  /-- `get_bridging_quotes` for the top-up. -/
  firstQuotes : Except RpcError (List Value)
  /-- `get_bridging_quotes` for the top-up with the fee. -/
  updatedQuotes : Except RpcError (List Value)
  /-- `build_bridging_tx` for the quote it is sent. -/
  buildBridgingTx : Value → Except RpcError BungeeBuildTx
  checkAllowance : Except RpcError U256
  buildApprovalTx : Except RpcError BungeeApprovalTx
  gasEstimate : Except CryptoUtilsError UInt64
  simulateBundledTransactions : Except RpcError (List SimulatedTransaction)

/-- The quote of the second bridge for a source on Solana. -/
structure LifiQuoteSolana where
  fromAmount : U256
  data : String

/-- The quote of the second bridge for a source on an EVM chain. -/
structure LifiQuoteEip155 where
  fromAmount : U256
  fromToken : Address
  approvalAddress : Address
  chainId : UInt64
  data : Bytes
  from_ : Address
  to_ : Address
  value : U256
  gasLimit : U256

/-- The answers on the way through the second bridge, and the readers of its quotes. -/
structure LifiAnswers where
  quote : Except String Value
  readSolana : Value → Except String LifiQuoteSolana
  readEip155 : Value → Except String LifiQuoteEip155
  decodeBase64 : String → Except String Bytes
  /-- `bincode::deserialize`, which gives the transaction. -/
  decodeTransaction : Bytes → Except String Bytes
  allowance : Except String U256
  /-- The calldata of `approve`. -/
  approveCalldata : Address → U256 → Bytes

/-- Everything a request meets. -/
structure RouteEnv where
  table : AssetTable
  order : Walk TokenOnChain (List Eip155OrSolanaAddress)
  access : Except RpcError Unit
  /-- `transferCall::abi_decode`. -/
  decodeTransferCall : Bytes → Except String (Address × U256)
  /-- `get_assets_changes_from_simulation`. -/
  simulation : Except RpcError (List Erc20AssetChange × UInt64)
  cachedGasEstimation : Except RpcError (Option UInt64)
  fetchNonce : String → Address → FetchedNonce
  /-- `get_erc20_balance` of the sender in the token of the transfer. -/
  erc20Balance : Except CryptoUtilsError U256
  /-- `Address::from_str`. -/
  parseAddress : String → Option Address
  /-- `SolanaPubkey::from_str`. -/
  parseSolanaPubkey : String → Option SolanaPubkey
  /-- `U256::from_str`. -/
  parseU256 : String → Option U256
  balances : SourceBalances
  bungee : BungeeAnswers
  lifi : LifiAnswers
  orchestrationId : String
  /-- Storing the item of the bridging. -/
  irnSet : Except RpcError Unit

/-- What a bridge is asked.  The first bridge is asked three times for one bridging, so its
    questions are noted together with the answers: which quote a transaction is built from, and
    for which amount that quote was given, can then be read off the questions of a run. -/
inductive BridgeQuestion where
  | bungeeQuotes (fromChain : String) (fromToken : Address) (toChain : String) (toToken : Address)
      (fromAmount : U256) (user : Address) (answer : Except RpcError (List Value))
  | buildBridgingTx (route : Value) (answer : Except RpcError BungeeBuildTx)
  | lifiQuote (fromChain toChain : String) (fromToken : Eip155OrSolanaAddress) (toToken : Address)
      (toAmount : U256) (fromAddress : Eip155OrSolanaAddress) (toAddress : Address)

/-! ## Running the handler -/

/-- The nonces taken and the questions asked so far. -/
structure RouteState where
  nonces : NonceManager
  questions : List BridgeQuestion

/-- Why the handler stops before its end. -/
inductive RouteExit where
  | fail (e : RpcError)
  | respond (e : PrepareResponseError)

/-- A stage of the handler. -/
abbrev RouteM := StateT RouteState (Outcome RouteExit)

namespace RouteM

variable {α β : Type}

/-- A result that does not touch the state. -/
def lift (x : Outcome RouteExit α) : RouteM α := fun s => x >>= fun a => .ok (a, s)

/-- `?`. -/
def try_ (x : Except RpcError α) : RouteM α := lift (Outcome.ofExcept .fail x)

/-- Note a question that is asked. -/
def ask (q : BridgeQuestion) : RouteM Unit :=
  fun s => .ok ((), { s with questions := s.questions ++ [q] })

/-- `initialize_nonce`. -/
def initNonce (env : RouteEnv) (chainId : String) (address : Address) : RouteM Unit :=
  fun s => .ok ((), { s with
    nonces := initializeNonce s.nonces (chainId, address) (env.fetchNonce chainId address) })

/-- `get_nonce` and `??`. -/
def nextNonce (chainId : String) (address : Address) : RouteM U64 := fun s =>
  match getNonce s.nonces (chainId, address) with
  | (.ok nonce, nonces) => .ok (nonce, { s with nonces := nonces })
  | (.err (.join text), _) => .err (.fail (.joinError text))
  | (.err (.cryptoUtils e), _) => .err (.fail (.cryptoUtils e))
  | (.panic, _) => .panic

variable {m : RouteM α} {f : α → RouteM β} {x : Outcome RouteExit α} {s s' : RouteState}
  {a a' : α} {b : β}

/-- A stage that returned came from two that did. -/
theorem bind_eq_ok :
    (m >>= f) s = .ok (b, s') ↔ ∃ a s₁, m s = .ok (a, s₁) ∧ f a s₁ = .ok (b, s') := by
  show (m s >>= fun p => f p.1 p.2) = _ ↔ _
  rw [Outcome.bind_eq_ok]
  constructor
  · rintro ⟨⟨a, s₁⟩, hm, hf⟩
    exact ⟨a, s₁, hm, hf⟩
  · rintro ⟨a, s₁, hm, hf⟩
    exact ⟨(a, s₁), hm, hf⟩

@[simp] theorem pure_eq_ok : (pure a : RouteM α) s = .ok (a', s') ↔ a = a' ∧ s = s' := by
  show Outcome.ok (a, s) = _ ↔ _
  rw [Outcome.ok.injEq, Prod.mk.injEq]

@[simp] theorem lift_eq_ok : lift x s = .ok (a, s') ↔ x = .ok a ∧ s = s' := by
  rw [lift, Outcome.bind_eq_ok]
  constructor
  · rintro ⟨b, hx, hb⟩
    cases hb
    exact ⟨hx, rfl⟩
  · rintro ⟨hx, rfl⟩
    exact ⟨a, hx, rfl⟩

@[simp] theorem try_eq_ok {x : Except RpcError α} :
    try_ x s = .ok (a, s') ↔ x = .ok a ∧ s = s' := by
  rw [try_, lift_eq_ok, Outcome.ofExcept_eq_ok]

@[simp] theorem initNonce_eq_ok {env : RouteEnv} {chainId : String} {address : Address}
    {u : Unit} : initNonce env chainId address s = .ok (u, s') ↔
      s' = { s with nonces :=
        initializeNonce s.nonces (chainId, address) (env.fetchNonce chainId address) } := by
  rw [initNonce, Outcome.ok.injEq, Prod.mk.injEq]
  exact ⟨fun h => h.2.symm, fun h => ⟨rfl, h.symm⟩⟩

/-! After a stage that leaves the nonces alone the rest goes on from a known state. -/

@[simp] theorem lift_bind_eq_ok {f : α → RouteM β} :
    (lift x >>= f) s = .ok (b, s') ↔ ∃ a, x = .ok a ∧ f a s = .ok (b, s') := by
  rw [bind_eq_ok]
  constructor
  · rintro ⟨a, s₁, ha, hf⟩
    obtain ⟨hx, rfl⟩ := lift_eq_ok.mp ha
    exact ⟨a, hx, hf⟩
  · rintro ⟨a, hx, hf⟩
    exact ⟨a, s, lift_eq_ok.mpr ⟨hx, rfl⟩, hf⟩

@[simp] theorem try_bind_eq_ok {x : Except RpcError α} :
    (try_ x >>= f) s = .ok (b, s') ↔ ∃ a, x = .ok a ∧ f a s = .ok (b, s') := by
  rw [try_, lift_bind_eq_ok]
  simp only [Outcome.ofExcept_eq_ok]

@[simp] theorem ask_bind_eq_ok {q : BridgeQuestion} {f : Unit → RouteM β} :
    (ask q >>= f) s = .ok (b, s') ↔
      f () { s with questions := s.questions ++ [q] } = .ok (b, s') := Iff.rfl

@[simp] theorem initNonce_bind_eq_ok {env : RouteEnv} {chainId : String} {address : Address}
    {f : Unit → RouteM β} : (initNonce env chainId address >>= f) s = .ok (b, s') ↔
      f () { s with nonces :=
        initializeNonce s.nonces (chainId, address) (env.fetchNonce chainId address) } =
          .ok (b, s') := Iff.rfl

/-- A nonce that was taken. -/
theorem nextNonce_eq_ok {chainId : String} {address : Address} {nonce : U64} :
    nextNonce chainId address s = .ok (nonce, s') ↔
      ∃ nonces, getNonce s.nonces (chainId, address) = (.ok nonce, nonces) ∧
        s' = { s with nonces := nonces } := by
  rw [nextNonce]
  split
  · next n nonces hget =>
    rw [hget, Outcome.ok.injEq, Prod.mk.injEq]
    constructor
    · rintro ⟨rfl, rfl⟩
      exact ⟨nonces, rfl, rfl⟩
    · rintro ⟨nonces', heq, rfl⟩
      cases heq
      exact ⟨rfl, rfl⟩
  · next hget => simp [hget]
  · next hget => simp [hget]
  · next hget => simp [hget]

/-! ### Stages that ask the bridge nothing -/

/-- The stage asks nothing, and what it does does not depend on what was asked before. -/
def Silent (m : RouteM α) : Prop :=
  ∀ s a s', m s = .ok (a, s') → ∀ questions,
    m { s with questions := questions } = .ok (a, { s' with questions := questions })

theorem silent_pure : Silent (pure a : RouteM α) := by
  intro s a s' h questions
  cases h
  rfl

theorem silent_lift : Silent (lift x) := by
  intro s a s' h questions
  obtain ⟨rfl, rfl⟩ := lift_eq_ok.mp h
  rfl

theorem silent_nextNonce {chainId : String} {address : Address} :
    Silent (nextNonce chainId address) := by
  intro s nonce s' h questions
  obtain ⟨nonces, hget, rfl⟩ := nextNonce_eq_ok.mp h
  exact nextNonce_eq_ok.mpr ⟨nonces, hget, rfl⟩

theorem Silent.bind (hm : Silent m) (hf : ∀ a, Silent (f a)) : Silent (m >>= f) := by
  intro s b s' h questions
  obtain ⟨a, s₁, hma, hfa⟩ := bind_eq_ok.mp h
  exact bind_eq_ok.mpr ⟨a, _, hm s a s₁ hma questions, hf a s₁ b s' hfa questions⟩

/-- Such a stage leaves the questions asked as they are. -/
theorem Silent.questions_eq (hm : Silent m) (h : m s = .ok (a, s')) :
    s'.questions = s.questions := by
  have hsame := hm s a s' h s.questions
  rw [show ({ s with questions := s.questions } : RouteState) = s from rfl, h] at hsame
  cases s'
  cases hsame
  rfl

end RouteM

/-! ## What the call transfers -/

/-- `ESTIMATED_GAS_SLIPPAGE`, in percent. -/
def estimatedGasSlippage : UInt64 := 500

/-- An estimated gas with its slippage. -/
def gasWithSlippage (gas : UInt64) : U64 :=
  BitVec.ofNat 64 (gas * (100 + estimatedGasSlippage) / 100).toNat

/-- `decode_erc20_transfer_data`: receiver and amount of a transfer, if the call is one. -/
def decodeErc20TransferData (env : RouteEnv) (data : Bytes) : Option (Address × U256) :=
  -- the selector of `transfer`
  if data.take 4 = [0xa9, 0x05, 0x9c, 0xbb] then (env.decodeTransferCall data).toOption else none

/-- What the initial transaction transfers. -/
structure Transfer where
  native : Bool
  value : U256
  contract : Address
  receiver : Address
  gasUsed : UInt64

/-- Is the contract a bridging asset on the chain? -/
def isSupportedAsset (env : RouteEnv) (chainId : String) (contract : Address) : Bool :=
  (findSupportedBridgingAsset env.table chainId (.eip155 contract)).isSome

/-- The gas of a supported transfer: the cached estimation or a simulation. -/
def transferGas (env : RouteEnv) : Outcome RouteExit UInt64 := do
  match ← Outcome.ofExcept RouteExit.fail env.cachedGasEstimation with
  | some gas => return gas
  | none =>
    match env.simulation with
    | .ok simulation => return simulation.2
    | .error e => .err (.respond (.simulationFailed e))

/-- The transfer of the initial transaction. -/
def readTransfer (env : RouteEnv) (req : PrepareRequest) (call : InitialCall) :
    Outcome RouteExit Transfer :=
  if call.value.toNat > 0 then
    -- a native token transfer
    match env.simulation with
    | .error e => .err (.respond (.nativeSimulationFailed e))
    | .ok simulation =>
      .ok
        { native := true
          value := call.value
          contract := nativeTokenAddress
          receiver := call.to_
          gasUsed := simulation.2 }
  else
    match decodeErc20TransferData env call.input with
    | some (receiver, value) =>
      if isSupportedAsset env req.chainId call.to_ then do
        let gasUsed ← transferGas env
        return { native := false
                 value := value
                 contract := call.to_
                 receiver := receiver
                 gasUsed := gasUsed }
      else .err (.respond (.assetNotSupported req.chainId call.to_))
    | none =>
      match env.simulation with
      | .error e => .err (.respond (.simulationFailed e))
      | .ok simulation =>
        -- the first supported asset the simulation changes
        match simulation.1.find? fun change =>
            isSupportedAsset env change.chainId change.assetContract with
        | none => .err (.respond .noSupportedAssetChange)
        | some change =>
          if change.amount = 0 then .err (.respond .noSupportedAssetChange)
          else
            .ok
              { native := false
                value := change.amount
                contract := change.assetContract
                receiver := change.receiver
                gasUsed := simulation.2 }

/-! ## What has to be bridged, and from where

The top-up is first in units of the token of the transfer. It is converted to the decimals of the
source asset afterwards, which may cut digits off. -/

/-- An account of the request, `splitn(3, ":")`. -/
def splitAccount (account : String) : Outcome RouteExit (String × String × String) :=
  match account.toList.splitOn ':' with
  | namespace_ :: reference :: address :: rest =>
    .ok (String.ofList namespace_, String.ofList reference,
      String.ofList ([':'].intercalate (address :: rest)))
  | [_, _] => .err (.fail (.invalidParameter
      "The account is not a valid CAIP-10 address: missing address"))
  | _ => .err (.fail (.invalidParameter
      "The account is not a valid CAIP-10 address: missing reference"))

/-- The address of a split account. -/
def readAccount (env : RouteEnv) (parts : String × String × String) :
    Outcome RouteExit (Option String × Eip155OrSolanaAddress) :=
  let chainId := parts.1 ++ ":" ++ parts.2.1
  if parts.1 = "eip155" then
    match env.parseAddress parts.2.2 with
    | some address => .ok (some chainId, .eip155 address)
    | none => .err (.fail (.invalidParameter
        "The account is not a valid CAIP-10 address: invalid eip155 address"))
  else if parts.1 = "solana" then
    match env.parseSolanaPubkey parts.2.2 with
    | some address => .ok (some chainId, .solana address)
    | none => .err (.fail (.invalidParameter
        "The account is not a valid CAIP-10 address: invalid solana address"))
  else .err (.fail (.invalidParameter
    ("The account is not a valid CAIP-10 address: invalid namespace: " ++ parts.1)))

/-- The accounts to look at: those of the request, all split before the first is read, then the
    sender on every chain. -/
def readAccounts (env : RouteEnv) (req : PrepareRequest) :
    Outcome RouteExit (List (Option String × Eip155OrSolanaAddress)) := do
  let results ← req.accounts.mapM splitAccount
  let accounts ← results.mapM (readAccount env)
  return accounts ++ [(none, .eip155 req.from_)]

/-- What has to be bridged, and the asset to bridge it from. -/
structure BridgingPlan where
  transfer : Transfer
  /-- `erc20_balance`. -/
  balance : U256
  symbol : String
  decimals : UInt8
  asset : BridgingAsset

namespace BridgingPlan

/-- `erc20_topup_value`, in units of the token of the transfer. -/
def topup (plan : BridgingPlan) : U256 := plan.transfer.value - plan.balance

/-- `erc20_topup_value` after the conversion to the decimals of the source asset. -/
def bridgeTopup (plan : BridgingPlan) : U256 :=
  convertAmount plan.topup plan.decimals plan.asset.decimals

end BridgingPlan

/-- What the source asset is chosen by. -/
def assetQuery (req : PrepareRequest) (transfer : Transfer) (topup : U256) (symbol : String)
    (decimals : UInt8) (accounts : List (Option String × Eip155OrSolanaAddress)) : AssetQuery where
  value := topup
  accounts := accounts
  excludeChainId := req.chainId
  excludeContractAddress := .eip155 transfer.contract
  tokenSymbolPriority := symbol
  amountTokenDecimals := decimals
  onlyTokenSymbol := if transfer.native then some "ETH" else none
  excludeTokenSymbol := if transfer.native then none else some "ETH"

/-- From the balance to the source asset. -/
def planBridging (env : RouteEnv) (req : PrepareRequest) (transfer : Transfer) (balance : U256) :
    Outcome RouteExit BridgingPlan := do
  let topup := transfer.value - balance
  let (symbol, decimals) ← Outcome.okOr
    (findSupportedBridgingAsset env.table req.chainId (.eip155 transfer.contract))
    (.respond (.assetNotSupported req.chainId transfer.contract))
  let accounts ← readAccounts env req
  let found ← (checkBridgingForErc20Transfer env.table env.order env.balances
    (assetQuery req transfer topup symbol decimals accounts)).mapErr .fail
  let asset ← Outcome.okOr found (.respond (.noSufficientAsset topup req.from_))
  return { transfer := transfer
           balance := balance
           symbol := symbol
           decimals := decimals
           asset := asset }

/-! ## The first bridge: two quotes, then the transaction of the second -/

/-- What a bridge comes to: transactions, amount and fee. -/
structure Bridged where
  routes : List Transactions
  bridgedAmount : U256
  finalBridgingFee : U256

/-- `serde_json::from_value::<QuoteRoute>`: an object or a sequence with the one field. -/
def readQuoteRoute : Value → Option String
  | .array [toAmount] => toAmount.asStr
  | route => (route.get "toAmount").bind Value.asStr

/-- The destination amount of a quote, in units of the destination token. -/
def quotedAmount (env : RouteEnv) (route : Value) : Outcome RouteExit U256 := do
  let toAmount ← Outcome.okOr (readQuoteRoute route) (.fail (.serdeJson "QuoteRoute"))
  Outcome.okOr (env.parseU256 toAmount) (.fail (.invalidValue toAmount))

/-- `bridging_fee`: none if more arrives than was asked for. -/
def bridgingFee (topup bridgedAmount : U256) : U256 :=
  if topup < bridgedAmount then 0 else topup - bridgedAmount

/-- `BRIDGING_FEE_SLIPPAGE`, in percent. -/
def bridgingFeeSlippage : Nat := 250

/-- `required_topup_amount`: the top-up, the fee, and the slippage on the fee. -/
def requiredTopupAmount (topup fee : U256) : U256 :=
  fee * BitVec.ofNat 256 bridgingFeeSlippage / 100 + (topup + fee)

/-- The transactions with the gas the simulation found for each of them. -/
def applySimulation : List SimulatedTransaction → List Transaction →
    Outcome RouteExit (List Transaction)
  | [], routes => .ok routes
  | _ :: _, [] => .err (.fail (.simulationFailed "The route index is out of bounds"))
  | simulated :: rest, route :: routes =>
    if simulated.input = route.input then do
      let routes ← applySimulation rest routes
      return { route with gasLimit := gasWithSlippage simulated.gas } :: routes
    else .err (.fail (.simulationFailed
      "The input for the simulation result does not match the input for the transaction"))

/-- The approval transaction, if the allowance is short. -/
def approvalRoutes (env : RouteEnv) (req : PrepareRequest) (plan : BridgingPlan)
    (bridgeTx : BungeeBuildTx) : RouteM (List Transaction) :=
  match bridgeTx.approvalData with
  | none => pure []
  | some approvalData => do
    let allowance ← RouteM.try_ env.bungee.checkAllowance
    if allowance ≤ approvalData.minimumApprovalAmount then
      let approvalTx ← RouteM.try_ env.bungee.buildApprovalTx
      let nonce ← RouteM.nextNonce plan.asset.chainId req.from_
      return [{ from_ := approvalTx.from_
                to_ := approvalTx.to_
                value := 0
                gasLimit := 0
                input := approvalTx.data
                nonce := nonce
                chainId := "eip155:" ++ toString bridgeTx.chainId }]
    else return []

/-- The gas of a bridging transaction with a value, which is not simulated. -/
def estimateNative (env : RouteEnv) (transaction : Transaction) : Outcome RouteExit Transaction :=
  if transaction.value = 0 then .ok transaction
  else do
    let gas ← Outcome.ofExcept (fun e => .fail (.cryptoUtils e)) env.bungee.gasEstimate
    return { transaction with gasLimit := gasWithSlippage gas }

/-- The bridging transaction, before its gas is known. -/
def bungeeBridging (req : PrepareRequest) (bridgeTx : BungeeBuildTx) (nonce : U64) :
    Transaction where
  from_ := req.from_
  to_ := bridgeTx.txTarget
  value := bridgeTx.value
  gasLimit := 0
  input := bridgeTx.txData
  nonce := nonce
  chainId := "eip155:" ++ toString bridgeTx.chainId

/-- The approval and the bridging transaction, with their gas. -/
def bungeeTransactions (env : RouteEnv) (req : PrepareRequest) (plan : BridgingPlan)
    (bridgeTx : BungeeBuildTx) : RouteM (List Transaction) := do
  let approval ← approvalRoutes env req plan bridgeTx
  let nonce ← RouteM.nextNonce plan.asset.chainId req.from_
  let bridgingTransaction ←
    RouteM.lift (estimateNative env (bungeeBridging req bridgeTx nonce))
  let routes := approval ++ [bridgingTransaction]
  -- a native bridging transaction on its own is not simulated
  if routes.length ≠ 1 ∨ bridgingTransaction.gasLimit = 0 then
    let simulated ← RouteM.try_ env.bungee.simulateBundledTransactions
    RouteM.lift (applySimulation simulated routes)
  else return routes

/-- The route through the first bridge. -/
def bungeeRoute (env : RouteEnv) (req : PrepareRequest) (plan : BridgingPlan)
    (bridgeContract : Address) : RouteM Bridged := do
  let quotesFor := fun amount => BridgeQuestion.bungeeQuotes plan.asset.chainId bridgeContract
    req.chainId plan.transfer.contract amount req.from_
  let noRoutes := fun refusal => RouteExit.respond (refusal plan.asset.chainId bridgeContract
    req.chainId plan.transfer.contract)
  RouteM.ask (quotesFor plan.bridgeTopup env.bungee.firstQuotes)
  let quotes ← RouteM.try_ env.bungee.firstQuotes
  let bestRoute ← RouteM.lift (Outcome.okOr quotes.head?
    (noRoutes fun a b c d => .noRoutes a b c d plan.bridgeTopup))
  let quoted ← RouteM.lift (quotedAmount env bestRoute)
  let bridgedAmount := convertAmount quoted plan.decimals plan.asset.decimals
  let required := requiredTopupAmount plan.bridgeTopup (bridgingFee plan.bridgeTopup bridgedAmount)
  RouteM.lift (Outcome.ensure (¬ plan.asset.currentBalance < required)
    (.respond (.balanceLessThanRequired req.from_ plan.asset.currentBalance required)))
  -- quotes for the amount with the fee
  RouteM.ask (quotesFor required env.bungee.updatedQuotes)
  let quotes ← RouteM.try_ env.bungee.updatedQuotes
  let bestRoute ← RouteM.lift (Outcome.okOr quotes.head?
    (noRoutes fun a b c d => .noRoutesUpdated a b c d required))
  let quoted ← RouteM.lift (quotedAmount env bestRoute)
  let bridgedAmount := convertAmount quoted plan.decimals plan.asset.decimals
  RouteM.lift (Outcome.ensure (¬ bridgedAmount < plan.bridgeTopup)
    (.fail .bridgingFinalAmountLess))
  -- the transaction is built from the best quote for the amount with the fee
  RouteM.ask (.buildBridgingTx bestRoute (env.bungee.buildBridgingTx bestRoute))
  let bridgeTx ← RouteM.try_ (env.bungee.buildBridgingTx bestRoute)
  let routes ← bungeeTransactions env req plan bridgeTx
  return { routes := [.eip155 routes]
           bridgedAmount := bridgedAmount
           finalBridgingFee := bridgedAmount - plan.bridgeTopup }

/-! ## The second bridge: one quote, with assertions about it -/

/-- Does the text start like this? -/
def startsWith (start text : String) : Bool := start.toList.isPrefixOf text.toList

/-- `trim_start_matches("eip155:")`: as often as it stands there. -/
def trimEip155 : List Char → List Char
  | 'e' :: 'i' :: 'p' :: '1' :: '5' :: '5' :: ':' :: rest => trimEip155 rest
  | text => text

/-- `caip2_to_lifi_chain_id`. -/
def caip2ToLifiChainId (caip2 : String) : Outcome RouteExit String :=
  if caip2 = "solana:5eykt4UsFv8P8NJdTREpY1vzqKqZKvdp" then .ok "SOL"
  else if startsWith "eip155:" caip2 then .ok (String.ofList (trimEip155 caip2.toList))
  else .err (.fail (.invalidValue caip2))

/-- An error on the way to a quote of the second bridge. -/
def routeInternal (text : String) : RouteExit := .fail (.routeSolana (.internal text))

/-- `U64::from` of a wider number. -/
def toU64 (n : U256) : Outcome RouteExit U64 := do
  Outcome.assert (n.toNat < 2 ^ 64)
  return BitVec.ofNat 64 n.toNat

/-- The route from a source on Solana. -/
def lifiSolana (env : RouteEnv) (plan : BridgingPlan) (quote : Value) :
    Outcome RouteExit Bridged := do
  let quote ← Outcome.ofExcept routeInternal (env.lifi.readSolana quote)
  let data ← Outcome.ofExcept routeInternal (env.lifi.decodeBase64 quote.data)
  let transaction ← Outcome.ofExcept routeInternal (env.lifi.decodeTransaction data)
  match plan.asset.account with
  | .solana account =>
    return { routes := [.solana [{ from_ := account
                                   chainId := plan.asset.chainId
                                   transaction := transaction }]]
             bridgedAmount := quote.fromAmount
             finalBridgingFee := quote.fromAmount - plan.bridgeTopup }
  | .eip155 _ => .panic

/-- The approval transaction, if the allowance is short. -/
def lifiApproval (env : RouteEnv) (quote : LifiQuoteEip155) (chainId : String) :
    RouteM (List Transaction) := do
  let allowance ← RouteM.lift (Outcome.ofExcept routeInternal env.lifi.allowance)
  if allowance < quote.fromAmount then
    -- four times the amount, so that it does not have to be approved too often
    let nonce ← RouteM.nextNonce chainId quote.from_
    return [{ from_ := quote.from_
              to_ := quote.fromToken
              value := 0
              input := env.lifi.approveCalldata quote.approvalAddress (quote.fromAmount * 4)
              gasLimit := 100000
              nonce := nonce
              chainId := chainId }]
  else return []

/-- The route from a source on an EVM chain. -/
def lifiEip155 (env : RouteEnv) (req : PrepareRequest) (plan : BridgingPlan)
    (bridgeContract : Address) (quote : Value) : RouteM Bridged := do
  let quote ← RouteM.lift (Outcome.ofExcept routeInternal (env.lifi.readEip155 quote))
  let chainId := "eip155:" ++ toString quote.chainId.toNat
  RouteM.lift (Outcome.assert (chainId = plan.asset.chainId))
  RouteM.lift (Outcome.assert (quote.from_ = req.from_))
  RouteM.lift (Outcome.assert (bridgeContract = quote.fromToken))
  RouteM.lift (Outcome.assert (bridgeContract ≠ quote.approvalAddress))
  let approval ← lifiApproval env quote chainId
  let nonce ← RouteM.nextNonce chainId quote.from_
  let gasLimit ← RouteM.lift (toU64 quote.gasLimit)
  let bridgingTransaction : Transaction :=
    { from_ := quote.from_
      to_ := quote.to_
      value := quote.value
      input := quote.data
      gasLimit := gasLimit
      nonce := nonce
      chainId := chainId }
  return { routes := [.eip155 (approval ++ [bridgingTransaction])]
           bridgedAmount := quote.fromAmount
           finalBridgingFee := quote.fromAmount - plan.bridgeTopup }

/-- The route through the second bridge. -/
def lifiRoute (env : RouteEnv) (req : PrepareRequest) (plan : BridgingPlan) : RouteM Bridged := do
  let fromChain ← RouteM.lift (caip2ToLifiChainId plan.asset.chainId)
  let toChain ← RouteM.lift (caip2ToLifiChainId req.chainId)
  RouteM.ask (.lifiQuote fromChain toChain plan.asset.contractAddress plan.transfer.contract
    plan.bridgeTopup plan.asset.account req.from_)
  let quote ← RouteM.lift (Outcome.ofExcept routeInternal env.lifi.quote)
  if startsWith "solana:" plan.asset.chainId then
    match plan.asset.contractAddress with
    | .solana _ => RouteM.lift (lifiSolana env plan quote)
    | .eip155 _ => RouteM.lift .panic
  else if startsWith "eip155:" plan.asset.chainId then
    match plan.asset.contractAddress with
    | .eip155 bridgeContract => lifiEip155 env req plan bridgeContract quote
    | .solana _ => RouteM.lift .panic
  else RouteM.lift .panic

/-! ## The handler -/

/-- The bridge a plan is carried out with. -/
def bridgeRoute (env : RouteEnv) (req : PrepareRequest) (plan : BridgingPlan) : RouteM Bridged :=
  match plan.asset.contractAddress, req.useLifi with
  | .eip155 bridgeContract, false => bungeeRoute env req plan bridgeContract
  | _, _ => lifiRoute env req plan

/-- The initial transaction with its nonce. -/
def initialTransaction (req : PrepareRequest) (call : InitialCall) (transfer : Transfer)
    (nonce : U64) : Transaction where
  from_ := req.from_
  to_ := call.to_
  value := call.value
  input := call.input
  gasLimit := gasWithSlippage transfer.gasUsed
  nonce := nonce
  chainId := req.chainId

/-- The response for a bridging that was carried out. -/
def availableResponse (env : RouteEnv) (req : PrepareRequest) (call : InitialCall)
    (plan : BridgingPlan) (bridged : Bridged) (nonce : U64) : PrepareResponseAvailable where
  orchestrationId := env.orchestrationId
  initialTransaction := initialTransaction req call plan.transfer nonce
  transactions := bridged.routes
  fundingFrom := [{ chainId := plan.asset.chainId
                    tokenContract := plan.asset.contractAddress
                    symbol := plan.asset.tokenSymbol
                    amount := bridged.bridgedAmount
                    bridgingFee := bridged.finalBridgingFee
                    decimals := plan.asset.decimals }]
  initialTransactionMetadata := { transferTo := plan.transfer.receiver
                                  amount := plan.transfer.value
                                  tokenContract := plan.transfer.contract
                                  symbol := plan.symbol
                                  decimals := plan.decimals }
  checkIn := statusPollingInterval

/-- The nonce on the source chain is fetched, if it is an EVM chain. -/
def initBridgeNonce (env : RouteEnv) (req : PrepareRequest) (plan : BridgingPlan) : RouteM Unit :=
  if startsWith "eip155:" plan.asset.chainId then
    RouteM.initNonce env plan.asset.chainId req.from_
  else pure ()

/-- `handler_internal`, from the choice of the bridge on. -/
def carryOut (env : RouteEnv) (req : PrepareRequest) (call : InitialCall) (plan : BridgingPlan) :
    RouteM PrepareResponseAvailable := do
  initBridgeNonce env req plan
  let bridged ← bridgeRoute env req plan
  RouteM.try_ env.irnSet
  let nonce ← RouteM.nextNonce req.chainId req.from_
  return availableResponse env req call plan bridged nonce

/-- `handler_internal`, its success responses. -/
def routeHandlerInternal (env : RouteEnv) (req : PrepareRequest) :
    RouteM PrepareResponseSuccess := do
  RouteM.try_ env.access
  let call ← RouteM.lift (Outcome.okOr req.calls.head?
    (.fail (.invalidParameter "The transaction calls are empty")))
  let transfer ← RouteM.lift (readTransfer env req call)
  RouteM.initNonce env req.chainId req.from_
  let balance ← RouteM.lift
    (Outcome.ofExcept (fun e => .fail (.cryptoUtils e)) env.erc20Balance)
  if transfer.value ≤ balance then
    let nonce ← RouteM.nextNonce req.chainId req.from_
    return .notRequired (initialTransaction req call transfer nonce) []
  else
    let plan ← RouteM.lift (planBridging env req transfer balance)
    let response ← carryOut env req call plan
    return .available response

/-- Nothing taken, nothing asked. -/
def routeStart : RouteState := ⟨∅, []⟩

/-- What a request ends with, and the questions it asked on the way. -/
def routeRun (env : RouteEnv) (req : PrepareRequest) :
    Outcome RouteExit (PrepareResponseSuccess × RouteState) :=
  routeHandlerInternal env req routeStart

/-- `handler_v2`. -/
def routeHandler (env : RouteEnv) (req : PrepareRequest) : Outcome RpcError PrepareResponse :=
  match routeRun env req with
  | .ok (response, _) => .ok (.success response)
  | .err (.respond e) => .ok (.error e)
  | .err (.fail e) => .err e
  | .panic => .panic

end BlockchainApi
