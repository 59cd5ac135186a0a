/-
  The balances of an address (`src/handlers/balance.rs`).

  A request is answered in one of three ways, which are three functions here:

  1. by itself (`earlyBalance`): with an empty list for a project on the denylist, without an
     origin, for a version of the SDK that asks too often, or on the test network of Rootstock; on
     its main network, with what the chain says of each token;
  2. from the cache (`Balances.Cache`), which this module leaves alone;
  3. by asking the balance providers of its namespace one after the other (`freshBalance`).  On
     request, some tokens of the providers' answer are then replaced by what the chain says
     (`forceUpdateToken`, `Balances.ForceUpdate`).

  What providers and chains answer is part of `BalanceWorld`.  Amounts of money are floating point
  numbers; their type `F` stays abstract, with the operations of `ValueFloats` on it, so that
  nothing below depends on how they round.  The value of an amount is computed as the source does
  it, with a power of ten that wraps in 64 bits (`convertTokenAmountToValue`).  Analytics and
  metrics are left out.
-/
import BlockchainApi.Primitives
import BlockchainApi.Utils.Caip

namespace BlockchainApi

open ByteCodec

/-- `SupportedCurrencies`. -/
inductive SupportedCurrencies where
  | btc
  | eth
  | usd
  | eur
  | gbp
  | aud
  | cad
  | inr
  | jpy
  deriving DecidableEq

/-- `BalanceQuantity`. -/
structure BalanceQuantity where
  decimals : String
  numeric : String
  deriving DecidableEq

/-- `BalanceItem`. -/
structure BalanceItem (F : Type) where
  name : String
  symbol : String
  chainId : Option String
  address : Option String
  value : Option F
  price : F
  quantity : BalanceQuantity
  iconUrl : String
  deriving DecidableEq

/-- `BalanceResponseBody`. -/
structure BalanceResponseBody (F : Type) where
  balances : List (BalanceItem F)
  deriving DecidableEq

/-- `FungiblePriceItem`, as far as the handler reads it. -/
structure FungiblePriceItem (F : Type) where
  name : String
  symbol : String
  iconUrl : String
  price : F
  decimals : UInt8

/-- A request: its path, its `BalanceQueryParams` and the headers the handler looks at. -/
structure BalanceRequest where
  address : String
  projectId : String
  currency : SupportedCurrencies
  chainId : Option String
  forceUpdate : Option String
  sv : Option String
  /-- The header `origin`, if it is there and a text. -/
  origin : Option String
  /-- The header `x-sdk-version`, if it is there, and its text, if it is one. -/
  xSdkVersion : Option (Option String)
  deriving DecidableEq

/-- What a balance provider answers. -/
abbrev BalanceProvider (F : Type) := BalanceRequest → Except RpcError (BalanceResponseBody F)

/-- Doubles, as the handler computes with them. -/
structure ValueFloats (F : Type) where
  /-- `0.0`. -/
  zero : F
  /-- `as f64`, of a `u64` or a `u128`. -/
  ofNat : Nat → F
  mul : F → F → F
  div : F → F → F
  /-- `str::parse::<f64>`. -/
  parse : String → Option F

/-- What a request meets. -/
structure BalanceWorld (F : Type) where
  parsers : AddressParsers
  denylistProjectIds : Option (List String)
  /-- `validate_project_access_and_quota`. -/
  access : String → Except RpcError Unit
  testingProjectId : Option String
  /-- `get_balance_provider_for_namespace`. -/
  providers : CaipNamespaces → Except RpcError (List (BalanceProvider F))
  /-- `get_erc20_balance`: chain, contract, wallet and project. -/
  erc20Balance : String → Address → Address → String → Except CryptoUtilsError U256
  /-- The price provider of a namespace: chain, contract and currency. -/
  prices : CaipNamespaces →
    Option (String → String → SupportedCurrencies → Except RpcError (List (FungiblePriceItem F)))
  floats : ValueFloats F

/-- `H160_EMPTY_ADDRESS`. -/
def h160EmptyAddress : Address := .ofNat 20 0xeeeeeeeeeeeeeeeeeeeeeeeeeeeeeeeeeeeeeeee

/-- `EMPTY_BALANCE_RESPONSE_SDK_VERSIONS`. -/
def emptyBalanceResponseSdkVersions : List String := ["1.6.4", "1.6.5"]

/-- `ROOTSTOCK_MAINNET_CHAIN_ID`. -/
def rootstockMainnetChainId : String := "eip155:30"

/-- `ROOTSTOCK_TESTNET_CHAIN_ID`. -/
def rootstockTestnetChainId : String := "eip155:31"

/-- `format_token_amount`: the amount with a decimal point. -/
def formatTokenAmount (amount : U256) (decimals : UInt8) : String :=
  let amountStr := (toString amount.toNat).toList
  if amountStr.length ≤ decimals.toNat then
    String.ofList ("0.".toList ++ List.replicate (decimals.toNat - amountStr.length) '0' ++
      amountStr)
  else
    let integer := amountStr.length - decimals.toNat
    String.ofList (amountStr.take integer ++ '.' :: amountStr.drop integer)

/-- `convert_token_amount_to_value`: what an amount of a token is worth.  The power of ten is that
    of a `u64`, and in a release build it wraps; an amount beyond a `u128` goes through its text. -/
def convertTokenAmountToValue {F : Type} (floats : ValueFloats F) (balance : U256) (price : F)
    (decimals : UInt8) : F :=
  let scalingFactor := floats.ofNat (10 ^ decimals.toNat % 2 ^ 64)
  let amount :=
    if balance.toNat > 2 ^ 128 - 1 then
      match floats.parse (toString balance.toNat) with
      | some parsedBalance => floats.div parsedBalance scalingFactor
      | none => floats.zero
    else floats.div (floats.ofNat balance.toNat) scalingFactor
  floats.mul amount price

/-! ## Rootstock: its tokens are asked of the chain -/

/-- `ROOTSTOCK_MAINNET_TOKENS`. -/
def rootstockMainnetTokens : List String :=
  ["0x2AcC95758f8b5F583470ba265EB685a8F45fC9D5",
    "0x5Db91E24BD32059584bbdB831a901F1199f3D459",
    "0x3A15461d8aE0F0Fb5Fa2629e9DA7D66A794a6e37"]

/-- `RootstockTokenMetadata`. -/
structure RootstockTokenMetadata where
  name : String
  symbol : String
  decimals : UInt8
  iconUrl : String

/-- The icon of RIF and of stRIF. -/
def rifIconUrl : String :=
  "https://coin-images.coingecko.com/coins/images/7460/small/" ++
    "8befc44a46c247e8a3f7fc8abba586b1_%283%29.png"

/-- `get_rootstock_token_metadata`. -/
def getRootstockTokenMetadata (contractAddress : String) : RootstockTokenMetadata :=
  if contractAddress.toLower = "0x2acc95758f8b5f583470ba265eb685a8f45fc9d5" then
    { name := "Rootstock Infrastructure Framework"
      symbol := "RIF"
      decimals := 18
      iconUrl := rifIconUrl }
  else if contractAddress.toLower = "0x5db91e24bd32059584bbdb831a901f1199f3d459" then
    { name := "Staked RIF"
      symbol := "stRIF"
      decimals := 18
      iconUrl := rifIconUrl }
  else if contractAddress.toLower = "0x3a15461d8ae0f0fb5fa2629e9da7d66a794a6e37" then
    { name := "RIF US Dollar"
      symbol := "USDRIF"
      decimals := 18
      iconUrl := "https://assets.coingecko.com/coins/images/6319/small/usdc.png" }
  else { name := "Unknown Token", symbol := "UNKNOWN", decimals := 18, iconUrl := "" }

section

variable {F : Type} (w : BalanceWorld F)

/-- The project that calls to the chains are made for. -/
def rpcProjectId : Outcome RpcError String :=
  Outcome.okOr w.testingProjectId (.invalidConfiguration
    "Missing testing project id in the configuration for the balance RPC lookups")

/-- The price of a token on Rootstock, zero if it cannot be had. -/
def rootstockPrice (currency : SupportedCurrencies) (contractAddress : String) : F :=
  match w.prices .rootstock, disassembleCaip2 rootstockMainnetChainId with
  | some getPrice, .ok (_, chainId) =>
    match getPrice chainId contractAddress currency with
    | .ok fungibles => (fungibles.head?.map FungiblePriceItem.price).getD w.floats.zero
    | .error _ => w.floats.zero
  | _, _ => w.floats.zero

/-- The balance of a token on Rootstock; a token whose balance cannot be had is left out. -/
def rootstockItem (currency : SupportedCurrencies) (projectId : String) (wallet : Address)
    (contractAddress : String) : Option (BalanceItem F) := do
  let contract ← w.parsers.h160FromStr contractAddress
  let balance ← (w.erc20Balance rootstockMainnetChainId contract wallet projectId).toOption
  if balance = 0 then none
  else
    let metadata := getRootstockTokenMetadata contractAddress
    let price := rootstockPrice w currency contractAddress
    some
      { name := metadata.name
        symbol := metadata.symbol
        chainId := some rootstockMainnetChainId
        address := some (rootstockMainnetChainId ++ ":" ++ contractAddress)
        value := some (convertTokenAmountToValue w.floats balance price metadata.decimals)
        price := price
        quantity :=
          { decimals := toString metadata.decimals.toNat
            numeric := formatTokenAmount balance metadata.decimals }
        iconUrl := metadata.iconUrl }

/-- `fetch_rootstock_mainnet_balances`. -/
def fetchRootstockMainnetBalances (address : String) (currency : SupportedCurrencies) :
    Outcome RpcError (BalanceResponseBody F) := do
  let projectId ← rpcProjectId w
  let wallet ← Outcome.okOr (w.parsers.h160FromStr address) .invalidAddress
  return ⟨rootstockMainnetTokens.filterMap (rootstockItem w currency projectId wallet)⟩

/-! ## Before the cache: requests that are answered by themselves -/

/-- The version of the SDK: the query parameter, or the header. -/
def sdkVersion (req : BalanceRequest) : Option String := req.sv.or req.xSdkVersion.join

/-- `handler_internal`, up to the cache: some requests are answered by themselves. -/
def earlyBalance (req : BalanceRequest) : Option (Outcome RpcError (BalanceResponseBody F)) :=
  if w.denylistProjectIds.any (·.contains req.projectId) then some (.ok ⟨[]⟩)
  else if req.origin.getD "" = "" then some (.ok ⟨[]⟩)
  else
    match w.access req.projectId with
    | .error e => some (.err e)
    | .ok _ =>
      -- SDK versions that ask too often
      if req.xSdkVersion.isNone && req.sv.isNone then some (.ok ⟨[]⟩)
      else if (sdkVersion req).any fun version =>
          emptyBalanceResponseSdkVersions.any fun v => v.toList.isSuffixOf version.toList then
        some (.ok ⟨[]⟩)
      else if req.chainId = some rootstockTestnetChainId then some (.ok ⟨[]⟩)
      else if req.chainId = some rootstockMainnetChainId then
        some (fetchRootstockMainnetBalances w req.address req.currency)
      else none

/-! ## From the providers, with the forced updates -/

/-- The namespace of the chain filter. -/
def balanceNamespace (chainId : Option String) : CaipNamespaces :=
  match chainId.map disassembleCaip2 with
  | some (.ok (namespace_, _)) => namespace_
  | _ => .eip155

/-- The answer of the first provider that has one. -/
def firstBalance (req : BalanceRequest) : List (BalanceProvider F) → Option (BalanceResponseBody F)
  | [] => none
  | provider :: providers =>
    match provider req with
    | .ok response => some response
    | .error _ => firstBalance req providers

/-- Update the first item for which the condition holds, if there is one. -/
def updateFirst (p : BalanceItem F → Bool) (f : BalanceItem F → BalanceItem F) :
    List (BalanceItem F) → Option (List (BalanceItem F))
  | [] => none
  | item :: items =>
    if p item then some (f item :: items) else (updateFirst p f items).map (item :: ·)

/-- An item with the balance that the chain says. -/
def withRpcBalance (rpcBalance : U256) (balance : BalanceItem F) : BalanceItem F :=
  let decimals :=
    UInt8.ofNat ((parseUnsigned (2 ^ 8) balance.quantity.decimals.toList).getD 0)
  { balance with
    quantity := { balance.quantity with numeric := formatTokenAmount rpcBalance decimals }
    value := some (convertTokenAmountToValue w.floats rpcBalance balance.price decimals) }

/-- A token that the providers did not list. -/
def newBalance (req : BalanceRequest) (caip10 : String) (namespace_ : CaipNamespaces)
    (chainId : String) (contract : Address) (rpcBalance : U256) :
    Outcome RpcError (BalanceItem F) := do
  let getPrice ← Outcome.okOr (w.prices namespace_) (.unsupportedNamespace namespace_)
  let fungibles ← Outcome.ofExcept id
    (getPrice chainId ("0x" ++ hexEncode contract.bytes) req.currency)
  let tokenInfo ← Outcome.okOr fungibles.head? .balanceProviderError
  return { name := tokenInfo.name
           symbol := tokenInfo.symbol
           chainId := some (namespace_.display ++ ":" ++ chainId)
           address := if contract = h160EmptyAddress then none else some caip10
           value := some
             (convertTokenAmountToValue w.floats rpcBalance tokenInfo.price tokenInfo.decimals)
           price := tokenInfo.price
           quantity :=
             { decimals := toString tokenInfo.decimals.toNat
               numeric := formatTokenAmount rpcBalance tokenInfo.decimals }
           iconUrl := tokenInfo.iconUrl }

/-- One token of the force-update list. -/
def forceUpdateToken (req : BalanceRequest) (projectId : String) (balances : List (BalanceItem F))
    (caip10 : String) : Outcome RpcError (List (BalanceItem F)) := do
  let (namespace_, chainId, contractAddress) ←
    (disassembleCaip10 w.parsers caip10).mapErr fun _ => .invalidAddress
  let contract ← Outcome.okOr (w.parsers.h160FromStr contractAddress) .invalidAddress
  let caip2ChainId := namespace_.display ++ ":" ++ chainId
  let wallet ← Outcome.okOr (w.parsers.h160FromStr req.address) .invalidAddress
  let rpcBalance ← Outcome.ofExcept RpcError.cryptoUtils
    (w.erc20Balance caip2ChainId contract wallet projectId)
  let update := withRpcBalance w rpcBalance
  match updateFirst (fun b => b.address == some caip10) update balances with
  | some updated => return updated
  | none =>
    -- the native token has no address
    let native := if contract = h160EmptyAddress then
        updateFirst (fun b => b.address.isNone && b.chainId == some caip2ChainId) update balances
      else none
    match native with
    | some updated => return updated
    | none => do
      let item ← newBalance w req caip10 namespace_ chainId contract rpcBalance
      return balances ++ [item]

/-- The force-update list, one token after the other. -/
def forceUpdateTokens (req : BalanceRequest) (projectId : String) :
    List (BalanceItem F) → List String → Outcome RpcError (List (BalanceItem F))
  | balances, [] => return balances
  | balances, caip10 :: rest => do
    let balances ← forceUpdateToken w req projectId balances caip10
    forceUpdateTokens req projectId balances rest

/-- `handler_internal`, from the cache on. -/
def freshBalance (req : BalanceRequest) : Outcome RpcError (BalanceResponseBody F) := do
  let namespace_ := balanceNamespace req.chainId
  Outcome.ensure (isAddressValid w.parsers req.address namespace_) .invalidAddress
  let providers ← Outcome.ofExcept id (w.providers namespace_)
  let response ← Outcome.okOr (firstBalance req providers)
    (.balanceTemporarilyUnavailable namespace_)
  match req.forceUpdate with
  | none => return response
  | some forceUpdate => do
    -- only in the namespace of Ethereum
    Outcome.ensure (namespace_ = .eip155) (.unsupportedNamespace namespace_)
    let projectId ← rpcProjectId w
    let balances ← forceUpdateTokens w req projectId response.balances
      ((forceUpdate.toList.splitOn ',').map String.ofList)
    return ⟨balances⟩

end

end BlockchainApi
