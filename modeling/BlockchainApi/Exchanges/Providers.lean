/-
  The exchanges themselves (`handlers/json_rpc/exchanges`: `mod.rs`, `binance.rs`, `coinbase.rs`,
  `test_exchange.rs`), and their list (`get_exchanges.rs`).

  An exchange is enabled by the features of a project, sells the assets of a table of its own, takes
  orders, and says in words of its own how an order stands.  What the exchanges, the registry and
  other crates answer is one `ExchangeApi` for each request.

  1. **What is listed is what is sold** (`catalogue`).  The list and the pay URLs ask the same
     questions (`lists_iff_checked`), an asset that passes them has a currency and a network at the
     exchange, and no two assets have the same ones (`AssetTables.Offers`).  The tables are keyed by
     texts, and texts of contracts are compared in their checksummed form; so an entry that is no
     address is no offer (`arbitrum_not_supported`).
  2. **Two tables.** Where both exchanges sell an asset, they name the same coin, but for one
     contract that the one table calls USDT and the other USDC (`currencies_agree`).
  3. **What an exchange says** becomes one of four statuses (`getBuyStatus`).  A code of Binance
     that is not listed is an unknown status; a transaction of Coinbase has succeeded only with a
     hash.

  That a table is a list of offers is decided entry by entry, once (`Binance.tables_offers`,
  `Coinbase.tables_offers`); everything else is about any table of offers.
-/
import BlockchainApi.Exchanges.PayUrl
import BlockchainApi.Project.Access
import BlockchainApi.Utils.Cors

namespace BlockchainApi

/-! ## Features: what a project may use -/

/-- `FeatureType`. -/
inductive FeatureType where
  | payments
  | fundWallet
  deriving DecidableEq

/-- `get_str("feature_id")`. -/
def FeatureType.featureId : FeatureType → String
  | .payments => "payments"
  | .fundWallet => "fund_from_exchange"

/-- `Display for FeatureType`. -/
def FeatureType.display : FeatureType → String
  | .payments => "Payments"
  | .fundWallet => "Fund Wallet"

/-- `get_feature_type`. -/
def getFeatureType (source : Option String) : FeatureType :=
  if source = some "fund-wallet" then .fundWallet else .payments

/-- `FeatureConfigItem`, with its `ProviderConfig`. -/
structure FeatureConfigItem where
  coinbase : Bool

/-- A `Feature` of a project, with its configuration. -/
structure ConfiguredFeature extends Feature where
  /-- The items, as `serde_json::from_value` reads them. -/
  config : Option (Except String (List FeatureConfigItem))

/-- `is_coinbase_enabled_in_config`. -/
def isCoinbaseEnabledInConfig (feature : ConfiguredFeature) : Bool :=
  match feature.config with
  | some (.ok items) => items.any fun item => item.coinbase
  | some (.error _) => false
  | none => false

/-- `ExchangesConfig`, and the testing project of the server. -/
structure ExchangesConfig where
  testingProjectId : Option String
  allowedProjectIds : Option (List String)

/-- `is_feature_enabled_for_project_id`. -/
def isFeatureEnabledForProjectId (config : ExchangesConfig) (projectId : String)
    (projectFeatures : List ConfiguredFeature) (featureType : FeatureType) :
    Except ExchangeError Unit :=
  if config.testingProjectId = some projectId then .ok ()
  else if config.allowedProjectIds.any fun ids => ids.any fun id => id = projectId then .ok ()
  else if projectFeatures.any fun f => f.id = featureType.featureId && f.isEnabled then .ok ()
  else .error (.featureNotEnabled
    (featureType.display ++ " feature is not enabled for this project"))

/-- A request of a project, with what the registry says of its features. -/
structure Caller where
  projectId : String
  source : Option String
  features : Except String (Option (List ConfiguredFeature))

/-- Why a caller is not let through: the error of the registry, or of the feature. -/
inductive CallerError where
  | internalError (e : ExchangeError)
  | validationError (e : ExchangeError)

/-- `get_enabled_features`. -/
def Caller.getEnabledFeatures (caller : Caller) : Except ExchangeError (List ConfiguredFeature) :=
  match caller.features with
  | .ok features => .ok (features.getD [])
  | .error e => .error (.projectDataError e)

/-- What the handlers begin with. -/
def Caller.authorize (config : ExchangesConfig) (caller : Caller) :
    Except CallerError (FeatureType × List ConfiguredFeature) :=
  let featureType := getFeatureType caller.source
  match caller.getEnabledFeatures with
  | .error e => .error (.internalError e)
  | .ok projectFeatures =>
    match isFeatureEnabledForProjectId config caller.projectId projectFeatures featureType with
    | .error e => .error (.validationError e)
    | .ok () => .ok (featureType, projectFeatures)

/-! ## Exchanges -/

/-- `Exchange`. -/
structure Exchange where
  id : String
  name : String
  imageUrl : Option String
  deriving DecidableEq

namespace ExchangeType

/-- `to_exchange`. -/
def toExchange : ExchangeType → Exchange
  | .binance =>
    ⟨"binance", "Binance", some "https://pay-assets.reown.com/binance_128_128.webp"⟩
  | .coinbase =>
    ⟨"coinbase", "Coinbase", some "https://pay-assets.reown.com/coinbase_128_128.webp"⟩
  | .reownTest => ⟨"reown_test", "Reown Test Exchange",
      some "https://pay-assets.reown.com/reown_test_128_128.webp"⟩

/-- `is_enabled`. -/
def isEnabled (featureType : FeatureType) (projectFeatures : List ConfiguredFeature) :
    ExchangeType → Bool
  | .binance => true
  | .coinbase =>
    if featureType ≠ .fundWallet then false
    else
      match projectFeatures.find? fun f => f.id = featureType.featureId && f.isEnabled with
      | some feature => isCoinbaseEnabledInConfig feature
      | none => false
  | .reownTest => true

end ExchangeType

/-- `Display for ExchangeError`. -/
def ExchangeError.display : ExchangeError → String
  | .configurationError text => "Configuration error: " ++ text
  | .validationError text => "Validation error: " ++ text
  | .getPayUrlError text => "Get pay url error: " ++ text
  | .featureNotEnabled text => "Feature not enabled: " ++ text
  | .exchangeNotEnabled text => "Exchange is not enabled: " ++ text
  | .projectDataError text => "Project data error: " ++ text
  | .internalError text => "Exchange internal error: " ++ text

/-- The two tables of an exchange. -/
structure AssetTables where
  /-- CAIP-19 assets to currencies. -/
  crypto : List (String × String)
  /-- CAIP-2 chains to networks. -/
  networks : List (String × String)

/-- `map_asset_to_binance_format` and `map_asset_to_coinbase_format`. -/
def AssetTables.mapAsset (tables : AssetTables) (asset : Caip19Asset) :
    Except ExchangeError (String × String) :=
  match tables.crypto.lookup asset.display with
  | none => .error (.validationError ("Unsupported asset: " ++ asset.display))
  | some crypto =>
    match tables.networks.lookup asset.chainId.display with
    | none => .error (.validationError ("Unsupported chain ID: " ++ asset.chainId.display))
    | some network => .ok (crypto, network)

/-! ### Binance -/

namespace Binance

/-- `CAIP19_TO_BINANCE_CRYPTO` and `CHAIN_ID_TO_BINANCE_NETWORK`. -/
def tables : AssetTables where
  crypto := [
    ("eip155:1/erc20:0xA0b86991c6218b36c1d19D4a2e9Eb0cE3606eB48", "USDC"),
    ("eip155:137/erc20:0x2791Bca1f2de4661ED88A30C99A7a9449Aa84174", "USDC"),
    ("eip155:8453/erc20:0x833589fCD6eDb6E08f4c7C32D4f71b54bdA02913", "USDC"),
    ("eip155:42161/erc20:0xaf88d065e77c8cC2239327C5EDb3A432268e5831", "USDC"),
    ("eip155:1/slip44:60", "ETH"),
    ("solana:5eykt4UsFv8P8NJdTREpY1vzqKqZKvdp/slip44:501", "SOL"),
    ("eip155:1/erc20:0xdAC17F958D2ee523a2206206994597C13D831ec7", "USDT"),
    ("eip155:42161/erc20:0xFd086bC7CD5C481DCC9C85ebE478A1C0b69FCbb9", "USDT"),
    ("eip155:10/erc20:0x94b008aA00579c1307B0EF2c499aD98a8ce58e58", "USDT"),
    ("eip155:137/erc20:0xc2132D05D31c914a87C6611C10748AEb04B58e8F", "USDT"),
    ("solana:5eykt4UsFv8P8NJdTREpY1vzqKqZKvdp/token:EPjFWdd5AufqSSqeM2qN1xzybapC8G4wEGGkZwyTDt1v",
      "USDC"),
    ("solana:5eykt4UsFv8P8NJdTREpY1vzqKqZKvdp/token:Es9vMFrzaCERmJfrF4H2FYD4KCoNkY11McCe8BenwNYB",
      "USDT"),
    ("eip155:30/erc20:0x2AcC95758f8b5F583470ba265EB685a8F45fC9D5", "RIF")]
  networks := [("eip155:1", "ETH"), ("eip155:137", "MATIC"), ("eip155:8453", "BASE"),
    ("eip155:42161", "ARBITRUM"), ("eip155:10", "OPTIMISM"),
    ("solana:5eykt4UsFv8P8NJdTREpY1vzqKqZKvdp", "SOL"), ("eip155:30", "RSK")]

/-- `is_asset_supported`. -/
def isAssetSupported (asset : Caip19Asset) : Bool := (tables.mapAsset asset).toOption.isSome

/-- `Customization`. -/
structure Customization where
  sendPrimary : Bool
  merchantDisplayName : String
  netReceive : Bool
  lockOrderAttributes : List Int

/-- `PreOrderRequest`, without the fields that are always absent. -/
structure PreOrderRequest where
  externalOrderId : String
  cryptoCurrency : String
  /-- Is the amount in fiat (1) or in crypto (2)? -/
  amountType : Int
  requestedAmount : String
  network : String
  address : String
  customization : Customization

/-- `BinanceResponse`. -/
structure Response (T : Type) where
  success : Option Bool
  code : String
  message : Option String
  data : Option T

/-- How a request to Binance fares. -/
inductive Reply (T : Type) where
  | notConfigured
  /-- It cannot be written or signed, or is not sent. -/
  | notSent (text : String)
  /-- A status that is no success, with the body. -/
  | status (shown body : String)
  | unparsed (text : String)
  | response (r : Response T)

/-- `send_post_request`. -/
def sendPostRequest {T : Type} : Reply T → Except ExchangeError T
  | .notConfigured => .error (.configurationError "Exchange is not available")
  | .notSent text => .error (.getPayUrlError text)
  | .status shown body => .error (.internalError
      ("Binance API request failed with status: " ++ shown ++ ", body: " ++ body))
  | .unparsed text => .error (.internalError ("Failed to parse Binance response: " ++ text))
  | .response r =>
    if r.success = some false then
      .error (.internalError ("Binance API request failed with code: " ++ r.code ++
        ", message: " ++ r.message.getD ""))
    else
      match r.data with
      | some data => .ok data
      | none => .error (.internalError "No data returned from Binance")

/-- `FALLBACK_MERCHANT_NAME`. -/
def fallbackMerchantName : String := " "

/-- The order of `get_buy_url`. -/
def preOrderRequest (projectName : Except String String) (displayF64 : F64 → String)
    (params : GetBuyUrlParams) : Except ExchangeError PreOrderRequest :=
  match tables.mapAsset params.asset with
  | .error e => .error (.validationError e.display)
  | .ok (cryptoCurrency, network) =>
    match projectName with
    | .error e => .error (.projectDataError e)
    | .ok name => .ok {
        externalOrderId := params.sessionId
        cryptoCurrency := cryptoCurrency
        amountType := 2
        requestedAmount := displayF64 params.amount
        network := network
        address := params.recipient
        customization := {
          sendPrimary := true
          merchantDisplayName := if name.isEmpty then fallbackMerchantName else name
          netReceive := true
          lockOrderAttributes := [2, 3] } }

/-- `BinanceOrderStatus`. -/
inductive OrderStatus where
  | init
  | onRampProcessing
  | onRampCompleted
  | offRampProcessing
  | withdrawInit
  | withdrawProcessing
  | completed
  | offRampFailed
  | withdrawAbandoned
  | onRampFailed
  | withdrawFailed
  | failedReserved
  | unknown (value : Nat)
  deriving DecidableEq

/-- `From<usize> for BinanceOrderStatus`. -/
def OrderStatus.ofCode : Nat → OrderStatus
  | 0 => .init
  | 1 => .onRampProcessing
  | 2 => .onRampCompleted
  | 6 => .offRampProcessing
  | 10 => .withdrawInit
  | 11 => .withdrawProcessing
  | 20 => .completed
  | 95 => .offRampFailed
  | 96 => .withdrawAbandoned
  | 97 => .onRampFailed
  | 98 => .withdrawFailed
  | 99 => .failedReserved
  | value => .unknown value

/-- The status that `get_buy_status` makes of it. -/
def OrderStatus.buyStatus : OrderStatus → BuyTransactionStatus
  | .onRampCompleted | .completed => .success
  | .init | .onRampProcessing | .offRampProcessing | .withdrawInit | .withdrawProcessing =>
    .inProgress
  | .offRampFailed | .withdrawAbandoned | .onRampFailed | .withdrawFailed | .failedReserved =>
    .failed
  | .unknown _ => .unknown

/-- `QueryOrderDetailsResponse`. -/
structure QueryOrderDetailsResponse where
  status : Nat
  withdrawTxHash : Option String

/-- `get_buy_status`. -/
def getBuyStatus (reply : Reply QueryOrderDetailsResponse) :
    Except ExchangeError GetBuyStatusResponse :=
  match sendPostRequest reply with
  | .error e => .error e
  | .ok response =>
    .ok ⟨(OrderStatus.ofCode response.status).buyStatus, response.withdrawTxHash⟩

end Binance

/-! ### Coinbase -/

namespace Coinbase

/-- `CAIP19_TO_COINBASE_CRYPTO` and `CHAIN_ID_TO_COINBASE_NETWORK`. -/
def tables : AssetTables where
  crypto := [
    ("eip155:8453/erc20:0x833589fCD6eDb6E08f4c7C32D4f71b54bdA02913", "USDC"),
    ("eip155:10/erc20:0x94b008aA00579c1307B0EF2c499aD98a8ce58e58", "USDC"),
    ("eip155:42161/erc20:0xAf88d065E77C8Ccc2239327C5EDb3A432268e5831", "USDC"),
    ("eip155:137/erc20:0x2791Bca1f2de4661ED88A30C99A7a9449Aa84174", "USDC"),
    ("eip155:1/erc20:0xA0b86991c6218b36c1d19D4a2e9Eb0cE3606eB48", "USDC"),
    ("eip155:1/slip44:60", "ETH"),
    ("eip155:1/erc20:0xdAC17F958D2ee523a2206206994597C13D831ec7", "USDT"),
    ("solana:5eykt4UsFv8P8NJdTREpY1vzqKqZKvdp/token:EPjFWdd5AufqSSqeM2qN1xzybapC8G4wEGGkZwyTDt1v",
      "USDC")]
  networks := [("eip155:8453", "base"), ("eip155:10", "optimism"), ("eip155:42161", "arbitrum"),
    ("eip155:137", "polygon"), ("eip155:1", "ethereum"),
    ("solana:5eykt4UsFv8P8NJdTREpY1vzqKqZKvdp", "solana")]

/-- `is_asset_supported`.  The chain is not looked up. -/
def isAssetSupported (asset : Caip19Asset) : Bool := (tables.crypto.lookup asset.display).isSome

/-- `SessionTokenAddresses`. -/
structure SessionTokenAddresses where
  address : String
  blockchains : List String

/-- `SessionTokenRequest`. -/
structure SessionTokenRequest where
  addresses : List SessionTokenAddresses
  assets : List String

/-- The request of `generate_session_token`. -/
def sessionTokenRequest (crypto network recipient : String) : SessionTokenRequest where
  addresses := [⟨recipient, [network]⟩]
  assets := [crypto]

/-- The bytes of an IPv4 address. -/
def ipv4Octets (ip : String) : Option (List Nat) :=
  match (Delimited.splitn '.' 4 ip.toList).mapM fun part => (String.ofList part).toNat? with
  | some [a, b, c, d] => some [a, b, c, d]
  | _ => none

/-- `should_add_client_ip`: an IPv4 address that is not private, loopback or link-local. -/
def shouldAddClientIp (ip : String) : Bool :=
  match ipv4Octets ip with
  | some (a :: b :: _) => !(a == 10 || a == 172 && 16 ≤ b && b ≤ 31 || a == 192 && b == 168 ||
      a == 127 || a == 169 && b == 254)
  | _ => false

/-- The query of the pay URL. -/
def buyUrlPairs (displayF64 : F64 → String) (params : GetBuyUrlParams)
    (sessionToken crypto network : String) : List (String × String) :=
  [("sessionToken", sessionToken), ("partnerUserId", params.sessionId), ("defaultAsset", crypto),
    ("defaultPaymentMethod", "CRYPTO_ACCOUNT"),
    ("presetCryptoAmount", displayF64 params.amount), ("defaultNetwork", network)] ++
    if shouldAddClientIp params.userIp then [("clientIp", params.userIp)] else []

/-- `CoinbaseTransactionStatus`. -/
inductive TransactionStatus where
  | inProgress
  | success
  | failed
  | created
  deriving DecidableEq

/-- `OnrampTransaction`, as far as it is read. -/
structure OnrampTransaction where
  status : TransactionStatus
  txHash : Option String

/-- What `get_buy_status` makes of a transaction. -/
def OnrampTransaction.buyStatus (transaction : OnrampTransaction) : BuyTransactionStatus :=
  match transaction.status with
  | .success =>
    -- the transaction may be through before its hash is known
    if transaction.txHash.all String.isEmpty then .inProgress else .success
  | .inProgress => .inProgress
  | .failed => .failed
  | .created => .inProgress

/-- `get_buy_status`, on the transactions of the user. -/
def getBuyStatus (transactions : Except ExchangeError (List OnrampTransaction)) :
    Except ExchangeError GetBuyStatusResponse :=
  match transactions with
  | .error e => .error e
  | .ok (transaction :: _) => .ok ⟨transaction.buyStatus, transaction.txHash⟩
  | .ok [] => .ok ⟨.unknown, none⟩

end Coinbase

/-! ### The test exchange -/

namespace TestExchange

/-- How a request to the test exchange fares: not sent, no success, not parsed, or a status with
    the id of a transaction. -/
inductive Reply where
  | notSent (text : String)
  | noSuccess
  | unparsed (text : String)
  | response (status : String) (txid : Option String)

/-- The status that the exchange means; no letter beyond ASCII has one of these as its small
    form. -/
def buyStatus (status : String) : BuyTransactionStatus :=
  let text := String.ofList (lowercase status.toList)
  if text = "success" then .success
  else if text = "pending" ∨ text = "in_progress" then .inProgress
  else if text = "failed" ∨ text = "error" then .failed
  else .unknown

/-- `get_buy_status`. -/
def getBuyStatus : Reply → Except ExchangeError GetBuyStatusResponse
  | .notSent text => .error (.getPayUrlError text)
  | .noSuccess => .ok ⟨.unknown, none⟩
  | .unparsed text => .error (.getPayUrlError ("Failed to parse response: " ++ text))
  | .response status txid => .ok ⟨buyStatus status, txid⟩

end TestExchange

/-! ## The services behind the handlers -/

/-- What the exchanges, the registry and other crates answer to one request. -/
structure ExchangeApi where
  parsers : AddressParsers
  checksums : Checksums
  displayF64 : F64 → String
  f64Bits : F64 → UInt64
  /-- `query_pairs_mut().append_pair`, and `to_string`. -/
  withQuery : String → List (String × String) → String
  /-- The name of a project in the registry. -/
  projectName : String → Except String String
  /-- `create_pre_order`: the link. -/
  preOrder : Binance.PreOrderRequest → Binance.Reply String
  orderDetails : String → Binance.Reply Binance.QueryOrderDetailsResponse
  /-- `fetch_coinbase_credentials`, and `generate_session_token` with them. -/
  coinbaseCredentials : String → Except ExchangeError Unit
  sessionToken : Coinbase.SessionTokenRequest → Except ExchangeError String
  /-- `get_transaction_status` with the credentials of the project. -/
  transactions : String → String → Except ExchangeError (List Coinbase.OnrampTransaction)
  testStatus : String → TestExchange.Reply

namespace ExchangeApi

variable (api : ExchangeApi)

/-- `BinanceExchange::get_buy_url`. -/
def binanceBuyUrl (params : GetBuyUrlParams) : Except ExchangeError String :=
  match Binance.preOrderRequest (api.projectName params.projectId) api.displayF64 params with
  | .error e => .error e
  | .ok request => Binance.sendPostRequest (api.preOrder request)

/-- `CoinbaseExchange::get_buy_url`. -/
def coinbaseBuyUrl (params : GetBuyUrlParams) : Except ExchangeError String :=
  match api.coinbaseCredentials params.projectId with
  | .error e => .error e
  | .ok () =>
    match Coinbase.tables.mapAsset params.asset with
    | .error e => .error e
    | .ok (crypto, network) =>
      match api.sessionToken (Coinbase.sessionTokenRequest crypto network params.recipient) with
      | .error e => .error e
      | .ok token => .ok (api.withQuery "https://pay.coinbase.com/buy/select-asset"
          (Coinbase.buyUrlPairs api.displayF64 params token crypto network))

/-- `get_buy_status` of the exchanges. -/
def getBuyStatus : GetBuyStatus
  | .binance, params => Binance.getBuyStatus (api.orderDetails params.sessionId)
  | .coinbase, params =>
    match api.coinbaseCredentials params.projectId with
    | .error e => .error e
    | .ok () => Coinbase.getBuyStatus (api.transactions params.projectId params.sessionId)
  | .reownTest, params => TestExchange.getBuyStatus (api.testStatus params.sessionId)

/-- The pay URLs of a caller with these features. -/
def payUrlService (featureType : FeatureType) (projectFeatures : List ConfiguredFeature) :
    PayUrlService where
  parsers := api.parsers
  checksums := api.checksums
  isEnabled := ExchangeType.isEnabled featureType projectFeatures
  binanceSupports := Binance.isAssetSupported
  coinbaseSupports := Coinbase.isAssetSupported
  binanceBuyUrl := api.binanceBuyUrl
  coinbaseBuyUrl := api.coinbaseBuyUrl
  displayF64 := api.displayF64
  f64Bits := api.f64Bits

/-- `ExchangeType::is_asset_supported`. -/
def isAssetSupported (exchange : ExchangeType) (asset : Caip19Asset) : Bool :=
  (api.payUrlService .payments []).isAssetSupported exchange asset

end ExchangeApi

/-! ## The list of exchanges, for an asset or for all -/

/-- `get_supported_exchanges`. -/
def getSupportedExchanges (api : ExchangeApi) (asset : Option String) (featureType : FeatureType)
    (projectFeatures : List ConfiguredFeature) : Except ExchangeError (List Exchange) :=
  match asset with
  | some assetStr =>
    match Caip19Asset.parse api.checksums assetStr with
    | .error e => .error (.validationError e.display)
    | .ok asset => .ok ((ExchangeType.iter.filter fun e =>
        api.isAssetSupported e asset && e.isEnabled featureType projectFeatures).map
          ExchangeType.toExchange)
  | none => .ok ((ExchangeType.iter.filter fun e => e.isEnabled featureType projectFeatures).map
      ExchangeType.toExchange)

/-- `GetExchangesRequest`, as far as it is read. -/
structure GetExchangesRequest where
  includeOnly : Option (List String)
  exclude : Option (List String)
  asset : Option String

/-- `GetExchangesResponse`. -/
structure GetExchangesResponse where
  total : Nat
  exchanges : List Exchange

/-- `get_exchanges::handler_internal`; its only error is a `ValidationError`. -/
def getExchanges (api : ExchangeApi) (featureType : FeatureType)
    (projectFeatures : List ConfiguredFeature) (request : GetExchangesRequest) :
    Except String GetExchangesResponse :=
  match getSupportedExchanges api request.asset featureType projectFeatures with
  | .error _ => .ok ⟨0, []⟩
  | .ok allExchanges =>
    match request.includeOnly, request.exclude with
    | some _, some _ => .error "includeOnly and exclude are mutually exclusive"
    | some includeOnly, none =>
      let exchanges := allExchanges.filter fun e => e.id ∈ includeOnly
      .ok ⟨exchanges.length, exchanges⟩
    | none, some exclude =>
      let exchanges := allExchanges.filter fun e => e.id ∉ exclude
      .ok ⟨exchanges.length, exchanges⟩
    | none, none => .ok ⟨allExchanges.length, allExchanges⟩

/-! ## What an exchange sells -/

/-- An asset, split at its first slash, with its currency and network at an exchange. -/
structure Offer where
  chain : String
  asset : String
  crypto : String
  network : String

/-- The asset as the tables spell it. -/
def Offer.text (o : Offer) : String := o.chain ++ "/" ++ o.asset

/-- What Binance sells. -/
def Binance.offers : List Offer := [
  ⟨"eip155:1", "erc20:0xA0b86991c6218b36c1d19D4a2e9Eb0cE3606eB48", "USDC", "ETH"⟩,
  ⟨"eip155:137", "erc20:0x2791Bca1f2de4661ED88A30C99A7a9449Aa84174", "USDC", "MATIC"⟩,
  ⟨"eip155:8453", "erc20:0x833589fCD6eDb6E08f4c7C32D4f71b54bdA02913", "USDC", "BASE"⟩,
  ⟨"eip155:42161", "erc20:0xaf88d065e77c8cC2239327C5EDb3A432268e5831", "USDC", "ARBITRUM"⟩,
  ⟨"eip155:1", "slip44:60", "ETH", "ETH"⟩,
  ⟨"solana:5eykt4UsFv8P8NJdTREpY1vzqKqZKvdp", "slip44:501", "SOL", "SOL"⟩,
  ⟨"eip155:1", "erc20:0xdAC17F958D2ee523a2206206994597C13D831ec7", "USDT", "ETH"⟩,
  ⟨"eip155:42161", "erc20:0xFd086bC7CD5C481DCC9C85ebE478A1C0b69FCbb9", "USDT", "ARBITRUM"⟩,
  ⟨"eip155:10", "erc20:0x94b008aA00579c1307B0EF2c499aD98a8ce58e58", "USDT", "OPTIMISM"⟩,
  ⟨"eip155:137", "erc20:0xc2132D05D31c914a87C6611C10748AEb04B58e8F", "USDT", "MATIC"⟩,
  ⟨"solana:5eykt4UsFv8P8NJdTREpY1vzqKqZKvdp",
    "token:EPjFWdd5AufqSSqeM2qN1xzybapC8G4wEGGkZwyTDt1v", "USDC", "SOL"⟩,
  ⟨"solana:5eykt4UsFv8P8NJdTREpY1vzqKqZKvdp",
    "token:Es9vMFrzaCERmJfrF4H2FYD4KCoNkY11McCe8BenwNYB", "USDT", "SOL"⟩,
  ⟨"eip155:30", "erc20:0x2AcC95758f8b5F583470ba265EB685a8F45fC9D5", "RIF", "RSK"⟩]

/-- What Coinbase sells. -/
def Coinbase.offers : List Offer := [
  ⟨"eip155:8453", "erc20:0x833589fCD6eDb6E08f4c7C32D4f71b54bdA02913", "USDC", "base"⟩,
  ⟨"eip155:10", "erc20:0x94b008aA00579c1307B0EF2c499aD98a8ce58e58", "USDC", "optimism"⟩,
  ⟨"eip155:42161", "erc20:0xAf88d065E77C8Ccc2239327C5EDb3A432268e5831", "USDC", "arbitrum"⟩,
  ⟨"eip155:137", "erc20:0x2791Bca1f2de4661ED88A30C99A7a9449Aa84174", "USDC", "polygon"⟩,
  ⟨"eip155:1", "erc20:0xA0b86991c6218b36c1d19D4a2e9Eb0cE3606eB48", "USDC", "ethereum"⟩,
  ⟨"eip155:1", "slip44:60", "ETH", "ethereum"⟩,
  ⟨"eip155:1", "erc20:0xdAC17F958D2ee523a2206206994597C13D831ec7", "USDT", "ethereum"⟩,
  ⟨"solana:5eykt4UsFv8P8NJdTREpY1vzqKqZKvdp",
    "token:EPjFWdd5AufqSSqeM2qN1xzybapC8G4wEGGkZwyTDt1v", "USDC", "solana"⟩]

/-- The tables hold these offers, each of another coin or on another network. -/
structure AssetTables.Offers (tables : AssetTables) (offers : List Offer) : Prop where
  crypto : tables.crypto = offers.map fun o => (o.text, o.crypto)
  network : ∀ o ∈ offers, tables.networks.lookup o.chain = some o.network
  chain : ∀ o ∈ offers, '/' ∉ o.chain.toList
  nodup : (offers.map fun o => (o.crypto, o.network)).Nodup

theorem Binance.tables_offers : Binance.tables.Offers Binance.offers :=
  ⟨by decide +kernel, by decide +kernel, by decide +kernel, by decide +kernel⟩

theorem Coinbase.tables_offers : Coinbase.tables.Offers Coinbase.offers :=
  ⟨by decide +kernel, by decide +kernel, by decide +kernel, by decide +kernel⟩

namespace AssetTables.Offers

variable {tables : AssetTables} {offers : List Offer} {a a' : Caip19Asset} {crypto network : String}

/-- The chain of an asset stands before its first slash. -/
theorem chain_eq (h : tables.Offers offers) {o : Offer} (ho : o ∈ offers)
    (htext : a.display = o.text) : a.chainId.display = o.chain := by
  have hsplit : a.chainId.display.toList ++ '/' :: a.assetPart =
      o.chain.toList ++ '/' :: o.asset.toList := by
    rw [← Caip19Asset.toList_display, htext, Offer.text]
    simp
  have hfirst := congrArg (List.takeWhile (· ≠ '/')) hsplit
  rw [Delimited.takeWhile_append_cons (Caip19Asset.slash_notMem_chainId a.chainId),
    Delimited.takeWhile_append_cons (h.chain o ho)] at hfirst
  exact String.toList_inj.mp hfirst

/-- **An asset in the table of currencies** is an offer, and has a network. This is what the
    tables are checked for, entry by entry. -/
theorem exists_offer (h : tables.Offers offers)
    (hlookup : tables.crypto.lookup a.display = some crypto) :
    ∃ o ∈ offers, a.display = o.text ∧ o.crypto = crypto ∧
      tables.mapAsset a = .ok (crypto, o.network) := by
  have hentry : (a.display, crypto) ∈ tables.crypto := by
    obtain ⟨l₁, l₂, hl, -⟩ := List.lookup_eq_some_iff.mp hlookup
    rw [hl]
    exact List.mem_append_right _ List.mem_cons_self
  rw [h.crypto, List.mem_map] at hentry
  obtain ⟨o, ho, hpair⟩ := hentry
  obtain ⟨htext, hcrypto⟩ := Prod.mk.inj hpair
  refine ⟨o, ho, htext.symm, hcrypto, ?_⟩
  rw [mapAsset, hlookup]
  simp only [h.chain_eq ho htext.symm, h.network o ho]

theorem exists_offer_of_mapAsset (h : tables.Offers offers)
    (hmap : tables.mapAsset a = .ok (crypto, network)) :
    ∃ o ∈ offers, a.display = o.text ∧ o.crypto = crypto ∧ o.network = network := by
  cases hlookup : tables.crypto.lookup a.display with
  | none =>
    rw [mapAsset, hlookup] at hmap
    cases hmap
  | some crypto' =>
    obtain ⟨o, ho, htext, hcrypto, hmap'⟩ := h.exists_offer hlookup
    cases hmap'.symm.trans hmap
    exact ⟨o, ho, htext, hcrypto, rfl⟩

/-- **No two assets are sold as one coin on one network.** -/
theorem display_inj (h : tables.Offers offers)
    (hmap : tables.mapAsset a = .ok (crypto, network))
    (hmap' : tables.mapAsset a' = .ok (crypto, network)) : a.display = a'.display := by
  obtain ⟨o, ho, htext, rfl, rfl⟩ := h.exists_offer_of_mapAsset hmap
  obtain ⟨o', ho', htext', hcrypto, hnetwork⟩ := h.exists_offer_of_mapAsset hmap'
  have hsame : o' = o := List.inj_on_of_nodup_map h.nodup ho' ho (Prod.ext hcrypto hnetwork)
  rw [htext, htext', hsame]

end AssetTables.Offers

/-- The tables of an exchange; the test exchange takes assets by a list of its own. -/
def ExchangeType.tables : ExchangeType → Option AssetTables
  | .binance => some Binance.tables
  | .coinbase => some Coinbase.tables
  | .reownTest => none

theorem ExchangeType.exists_offers {exchange : ExchangeType} {tables : AssetTables}
    (h : exchange.tables = some tables) : ∃ offers, tables.Offers offers := by
  cases exchange with
  | binance =>
    cases h
    exact ⟨_, Binance.tables_offers⟩
  | coinbase =>
    cases h
    exact ⟨_, Coinbase.tables_offers⟩
  | reownTest => cases h

theorem ExchangeType.id_toExchange (exchange : ExchangeType) :
    exchange.toExchange.id = exchange.id := by
  cases exchange <;> rfl

namespace ExchangeApi

variable {api : ExchangeApi} {featureType : FeatureType} {projectFeatures : List ConfiguredFeature}
variable {exchange : ExchangeType} {asset : Caip19Asset} {tables : AssetTables}

/-- An asset that is supported is in the table of currencies. -/
theorem exists_lookup_of_isAssetSupported (htables : exchange.tables = some tables)
    (h : api.isAssetSupported exchange asset = true) :
    ∃ crypto, tables.crypto.lookup asset.display = some crypto := by
  cases exchange with
  | binance =>
    cases htables
    have hmap : (Binance.tables.mapAsset asset).toOption.isSome = true := h
    cases hlookup : Binance.tables.crypto.lookup asset.display with
    | none =>
      rw [AssetTables.mapAsset, hlookup] at hmap
      cases hmap
    | some crypto => exact ⟨crypto, rfl⟩
  | coinbase =>
    cases htables
    exact Option.isSome_iff_exists.mp h
  | reownTest => cases htables

/-- The list of exchanges for an asset names the exchange. -/
def Lists (api : ExchangeApi) (featureType : FeatureType) (projectFeatures : List ConfiguredFeature)
    (asset exchangeId : String) : Prop :=
  ∃ response, getExchanges api featureType projectFeatures ⟨none, none, some asset⟩ = .ok response ∧
    ∃ e ∈ response.exchanges, e.id = exchangeId

/-- **Who is listed**: the enabled exchanges that support the asset. -/
theorem lists_iff {assetStr exchangeId : String} :
    api.Lists featureType projectFeatures assetStr exchangeId ↔
      ∃ exchange asset, getExchangeById (ExchangeType.isEnabled featureType projectFeatures)
          exchangeId = .ok exchange ∧
        Caip19Asset.parse api.checksums assetStr = .ok asset ∧
          api.isAssetSupported exchange asset = true := by
  rw [Lists, getExchanges, getSupportedExchanges]
  cases hparse : Caip19Asset.parse api.checksums assetStr with
  | error e => simp
  | ok asset =>
    simp only [Except.ok.injEq, exists_eq_left', getExchangeById_eq_ok_iff, List.mem_map,
      List.mem_filter, Bool.and_eq_true]
    constructor
    · rintro ⟨-, ⟨exchange, ⟨-, hsupported, henabled⟩, rfl⟩, rfl⟩
      exact ⟨exchange, asset, ⟨exchange.id_toExchange.symm, henabled⟩, rfl, hsupported⟩
    · rintro ⟨exchange, asset', ⟨rfl, henabled⟩, rfl, hsupported⟩
      exact ⟨_, ⟨exchange, ⟨by cases exchange <;> decide, hsupported, henabled⟩, rfl⟩,
        exchange.id_toExchange⟩

/-- The recipient of a request is an account on the chain of its asset. -/
def OnChain (api : ExchangeApi) (request : GeneratePayUrlRequest) : Prop :=
  ∃ namespace_ chainId address,
    disassembleCaip10 api.parsers request.recipient = .ok (namespace_, chainId, address) ∧
      ∀ asset, Caip19Asset.parse api.checksums request.asset = .ok asset →
        namespace_.display = asset.chainId.namespace_ ∧ chainId = asset.chainId.reference

/-- **The list and the pay URLs ask the same questions.** -/
theorem lists_iff_checked {request : GeneratePayUrlRequest} (hchain : api.OnChain request) :
    api.Lists featureType projectFeatures request.asset request.exchangeId ↔
      ∃ checked, (api.payUrlService featureType projectFeatures).checkRequest request
        = .ok checked := by
  obtain ⟨namespace_, chainId, address, hrecipient, hon⟩ := hchain
  rw [lists_iff]
  constructor
  · rintro ⟨exchange, asset, hexchange, hasset, hsupported⟩
    obtain ⟨hnamespace, hreference⟩ := hon asset hasset
    exact ⟨(exchange, asset, address), PayUrlService.checkRequest_eq_ok_iff.mpr
      ⟨hexchange, hasset, namespace_, chainId, hrecipient, hnamespace, hreference, hsupported⟩⟩
  · rintro ⟨⟨exchange, asset, address'⟩, hchecked⟩
    obtain ⟨hexchange, hasset, -, -, -, -, -, hsupported⟩ :=
      PayUrlService.checkRequest_eq_ok_iff.mp hchecked
    exact ⟨exchange, asset, hexchange, hasset, hsupported⟩

end ExchangeApi

/-! ### Two tables: where they agree on a coin, and where not -/

/-- USDT on Optimism. -/
def usdtOnOptimism : String := "eip155:10/erc20:0x94b008aA00579c1307B0EF2c499aD98a8ce58e58"

/-- Offers of one asset name one currency, but for USDT on Optimism. -/
theorem offers_crypto_eq : ∀ o ∈ Binance.offers, ∀ o' ∈ Coinbase.offers,
    o.chain = o'.chain ∧ o.asset = o'.asset →
      o.crypto = o'.crypto ∨ o.crypto = "USDT" ∧ o'.crypto = "USDC" ∧ o.text = usdtOnOptimism := by
  decide +kernel

/-- **Binance and Coinbase mean the same coin**, except by USDT on Optimism, which Coinbase is
    asked to sell as USDC. -/
theorem currencies_agree {a : Caip19Asset} {crypto crypto' network network' : String}
    (h : Binance.tables.mapAsset a = .ok (crypto, network))
    (h' : Coinbase.tables.mapAsset a = .ok (crypto', network')) :
    crypto = crypto' ∨ crypto = "USDT" ∧ crypto' = "USDC" ∧ a.display = usdtOnOptimism := by
  obtain ⟨o, ho, htext, rfl, -⟩ := Binance.tables_offers.exists_offer_of_mapAsset h
  obtain ⟨o', ho', htext', rfl, -⟩ := Coinbase.tables_offers.exists_offer_of_mapAsset h'
  have hchain : o.chain = o'.chain := by
    rw [← Binance.tables_offers.chain_eq ho htext, ← Coinbase.tables_offers.chain_eq ho' htext']
  have hasset : o.asset = o'.asset := by
    have hsame := htext.symm.trans htext'
    rw [Offer.text, Offer.text, hchain] at hsame
    simpa using hsame
  rw [htext]
  exact offers_crypto_eq o ho o' ho' ⟨hchain, hasset⟩

theorem caip2ReferenceRegex_arbitrum : caip2ReferenceRegex "42161".toList = true := by decide

/-- The entry of Coinbase for USDC on Arbitrum.  Its reference has a digit too many. -/
def coinbaseArbitrumUsdc : Caip19Asset where
  chainId := ⟨"eip155", "42161", caip2NamespaceRegex_eip155, caip2ReferenceRegex_arbitrum⟩
  assetNamespace := "erc20"
  assetReference := "0xAf88d065E77C8Ccc2239327C5EDb3A432268e5831"
  tokenId := none

/-- The only entry of Coinbase on Arbitrum. -/
theorem offers_arbitrum : ∀ o ∈ Coinbase.offers, o.chain = "eip155:42161" →
    o.text = coinbaseArbitrumUsdc.display := by
  decide +kernel

/-- **Coinbase sells nothing on Arbitrum**: its entry is no address, so no asset has that text. -/
theorem arbitrum_not_supported {api : ExchangeApi} (hk : api.checksums.Lawful) {s : String}
    {a : Caip19Asset} (ha : Caip19Asset.parse api.checksums s = .ok a)
    (hchain : a.chainId.display = "eip155:42161") :
    api.isAssetSupported .coinbase a = false := by
  by_contra hsupported
  have htables : ExchangeType.tables .coinbase = some Coinbase.tables := rfl
  obtain ⟨crypto, hlookup⟩ :=
    ExchangeApi.exists_lookup_of_isAssetSupported htables (eq_true_of_ne_false hsupported)
  obtain ⟨o, ho, htext, -⟩ := Coinbase.tables_offers.exists_offer hlookup
  have hentry : a.display = coinbaseArbitrumUsdc.display := by
    rw [htext]
    exact offers_arbitrum o ho ((Coinbase.tables_offers.chain_eq ho htext).symm.trans hchain)
  obtain ⟨raw, -, hraw⟩ := Caip19Asset.parse_eq_ok_iff.mp ha
  have hread := Caip19Asset.parse_display hk hraw
  have hwellFormed : coinbaseArbitrumUsdc.WellFormed :=
    ⟨by decide, by decide, fun tokenId h => by cases h⟩
  have hcontract : coinbaseArbitrumUsdc.IsContract := by
    unfold Caip19Asset.IsContract
    decide
  rw [hentry, Caip19Asset.parse_display_eq hwellFormed.separable,
    Caip19Asset.ofParts_contract_iff hk hcontract] at hread
  obtain ⟨-, address, haddress, -⟩ := hread
  have hnone : readH160 coinbaseArbitrumUsdc.assetReference = none := by decide
  cases hnone.symm.trans haddress

/-- **The catalogue.**  Whatever the project and its features are: an exchange is listed for an
    asset exactly if its pay URL passes the checks for that asset and an account on its chain.  An
    asset that an exchange with tables supports has a currency and a network there that no other
    asset has, so what is ordered is what was asked for; Binance and Coinbase mean the same currency
    by it, except by USDT on Optimism; and Coinbase supports nothing on Arbitrum. -/
theorem catalogue (api : ExchangeApi) (hk : api.checksums.Lawful) :
    (∀ featureType projectFeatures request, api.OnChain request →
      (api.Lists featureType projectFeatures request.asset request.exchangeId ↔
        ∃ checked, (api.payUrlService featureType projectFeatures).checkRequest request
          = .ok checked)) ∧
    (∀ (exchange : ExchangeType) tables s asset, exchange.tables = some tables →
      Caip19Asset.parse api.checksums s = .ok asset →
      api.isAssetSupported exchange asset = true →
      ∃ crypto network, tables.mapAsset asset = .ok (crypto, network) ∧
        ∀ t asset', Caip19Asset.parse api.checksums t = .ok asset' →
          tables.mapAsset asset' = .ok (crypto, network) → asset' = asset) ∧
    (∀ asset crypto crypto' network network',
      Binance.tables.mapAsset asset = .ok (crypto, network) →
      Coinbase.tables.mapAsset asset = .ok (crypto', network') →
      crypto = crypto' ∨ crypto = "USDT" ∧ crypto' = "USDC" ∧ asset.display = usdtOnOptimism) ∧
    ∀ s asset, Caip19Asset.parse api.checksums s = .ok asset →
      asset.chainId.display = "eip155:42161" → api.isAssetSupported .coinbase asset = false := by
  refine ⟨fun _ _ _ hchain => ExchangeApi.lists_iff_checked hchain, ?_,
    fun _ _ _ _ _ h h' => currencies_agree h h',
    fun _ _ hasset hchain => arbitrum_not_supported hk hasset hchain⟩
  intro exchange tables s asset htables hasset hsupported
  obtain ⟨offers, hoffers⟩ := ExchangeType.exists_offers htables
  obtain ⟨crypto, hlookup⟩ := ExchangeApi.exists_lookup_of_isAssetSupported htables hsupported
  obtain ⟨o, -, -, -, hmap⟩ := hoffers.exists_offer hlookup
  refine ⟨crypto, o.network, hmap, fun t asset' hasset' hmap' => ?_⟩
  have hdisplay := hoffers.display_inj hmap' hmap
  -- an asset is what its print is read as
  have hread : Caip19Asset.parse api.checksums asset.display = .ok asset := by
    obtain ⟨raw, -, hraw⟩ := Caip19Asset.parse_eq_ok_iff.mp hasset
    exact Caip19Asset.parse_display hk hraw
  have hread' : Caip19Asset.parse api.checksums asset'.display = .ok asset' := by
    obtain ⟨raw, -, hraw⟩ := Caip19Asset.parse_eq_ok_iff.mp hasset'
    exact Caip19Asset.parse_display hk hraw
  rw [hdisplay, hread] at hread'
  exact (Except.ok.inj hread').symm

/-- Exchanges that answer nothing of their own. -/
def demoExchangeApi : ExchangeApi where
  parsers := ⟨readH160, fun _ => none⟩
  checksums := demoChecksums
  displayF64 := testExchangeService.displayF64
  f64Bits _ := 0
  withQuery url _ := url
  projectName _ := .ok "project"
  preOrder request := .response ⟨some true, "000000", none, some request.externalOrderId⟩
  orderDetails _ := .response ⟨some true, "000000", none, some ⟨20, some "0xabc"⟩⟩
  coinbaseCredentials _ := .error (.configurationError "Coinbase credentials token not configured")
  sessionToken _ := .error (.internalError "")
  transactions _ _ := .ok []
  testStatus _ := .noSuccess

/-- A request for Ether by Binance. -/
def etherRequest : GeneratePayUrlRequest where
  exchangeId := "binance"
  asset := "eip155:1/slip44:60"
  amount := "1"
  recipient := "eip155:1:0x1111111111111111111111111111111111111111"

theorem caip2ReferenceRegex_mainnet : caip2ReferenceRegex "1".toList = true := by decide

/-- Ether on Ethereum. -/
def ether : Caip19Asset where
  chainId := ⟨"eip155", "1", caip2NamespaceRegex_eip155, caip2ReferenceRegex_mainnet⟩
  assetNamespace := "slip44"
  assetReference := "60"
  tokenId := none

theorem parse_ether : Caip19Asset.parse demoChecksums "eip155:1/slip44:60" = .ok ether := rfl

theorem onChain_etherRequest : demoExchangeApi.OnChain etherRequest := by
  have hrecipient : disassembleCaip10 demoExchangeApi.parsers etherRequest.recipient =
      .ok (.eip155, "1", "0x1111111111111111111111111111111111111111") := by decide
  refine ⟨_, _, _, hrecipient, fun asset hasset => ?_⟩
  cases parse_ether.symm.trans hasset
  exact ⟨rfl, rfl⟩

/-- Binance is listed for Ether exactly if the request passes, and sells it as Ether only. -/
theorem catalogue_ether :
    (demoExchangeApi.Lists .payments [] "eip155:1/slip44:60" "binance" ↔
      ∃ checked, (demoExchangeApi.payUrlService .payments []).checkRequest etherRequest
        = .ok checked) ∧
      ∃ crypto network, Binance.tables.mapAsset ether = .ok (crypto, network) ∧
        ∀ t asset', Caip19Asset.parse demoChecksums t = .ok asset' →
          Binance.tables.mapAsset asset' = .ok (crypto, network) → asset' = ether := by
  have hcatalogue := catalogue demoExchangeApi demoChecksums_lawful
  have hsupported : demoExchangeApi.isAssetSupported .binance ether = true := by decide +kernel
  exact ⟨hcatalogue.1 _ _ etherRequest onChain_etherRequest,
    hcatalogue.2.1 .binance _ "eip155:1/slip44:60" ether rfl parse_ether hsupported⟩

end BlockchainApi
