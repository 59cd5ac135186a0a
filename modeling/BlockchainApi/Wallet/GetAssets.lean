/-
  `wallet_getAssets` (`src/handlers/json_rpc/wallet/get_assets.rs`).

  The balances of an account are listed by chain.  A token of the two groups USDC and USDT is shown
  on each of its chains with what could be spent there: the balance on that chain and the largest
  one elsewhere, which can be bridged.

  Five passes do this, and each is a function here under its name in the source:

  1.  `groupBalances` sorts the items into the groups and the rest.
  2.  `fillMissingChains` adds an empty item for each supported chain a group has none on.
  3.  `applyAggregateBalanceValue` adds the largest amount elsewhere to each item of a group.
  4.  `filterBalances` keeps what the filters of the request let through, and sorts it.
  5.  `createResponse` converts what is left, item by item, and lists it under its chain.

  Each of them unwraps what it reads, so each can panic: the results are `Outcome`s, and
  `AssetPasses` says of each pass when it returns.

  Floating point numbers, addresses and numbers of other crates are read and printed by functions of
  `AssetsEnv`; `AssetsEnv.Lawful` says what is assumed of them.  A hash map is walked in an order of
  its own, which is part of the environment too.  Metrics are left out.
-/
import BlockchainApi.Balances.Handler

namespace BlockchainApi

open ByteCodec HashMap

/-! ## Requests and answers -/

/-- `AddressOrNative`. -/
inductive AddressOrNative where
  | addressVariant (address : Address)
  | native
  deriving DecidableEq

/-- `AssetType`. -/
inductive AssetType where
  | native
  | erc20
  deriving DecidableEq

/-- `GetAssetsFilters`. -/
structure GetAssetsFilters where
  assetFilter : Option (HashMap U64 (List AddressOrNative))
  assetTypeFilter : Option (List AssetType)
  chainFilter : Option (List U64)

/-- `Erc20Metadata` and `NativeMetadata`, which have the same fields. -/
structure AssetMetadata (F : Type) where
  name : String
  symbol : String
  decimals : UInt8
  iconUrl : String
  price : F
  value : Option F
  deriving DecidableEq

/-- `AssetData`. -/
structure AssetData (F : Type) where
  address : AddressOrNative
  balance : U256
  metadata : AssetMetadata F
  deriving DecidableEq

/-- `Asset`. -/
inductive Asset (F : Type) where
  | erc20 (data : AssetData F)
  | native (data : AssetData F)
  deriving DecidableEq

/-- What is known of an asset. -/
def Asset.data {F : Type} : Asset F → AssetData F
  | erc20 data => data
  | native data => data

/-- `GetAssetsResult`. -/
abbrev GetAssetsResult (F : Type) := HashMap U64 (List (Asset F))

/-- `GetAssetsError`. -/
inductive GetAssetsError where
  | getBalance (e : RpcError)

/-! ## Tokens that are aggregated -/

/-- The keys of `get_erc20_groups`. -/
inductive TokenKey where
  | usdc
  | usdt
  deriving DecidableEq

/-- `CHAIN_ID_OPTIMISM`. -/
def chainIdOptimism : String := "eip155:10"

/-- `CHAIN_ID_BASE`. -/
def chainIdBase : String := "eip155:8453"

/-- `CHAIN_ID_ARBITRUM`. -/
def chainIdArbitrum : String := "eip155:42161"

/-- `SUPPORTED_CHAINS`. -/
def supportedChains : List String := [chainIdOptimism, chainIdBase, chainIdArbitrum]

/-- The contracts of a group. -/
def erc20Contracts : TokenKey → List (String × Address)
  | .usdc =>
    [(chainIdArbitrum, .ofNat 20 0xaf88d065e77c8cC2239327C5EDb3A432268e5831),
      (chainIdOptimism, .ofNat 20 0x0b2C639c533813f4Aa9D7837CAf62653d097Ff85),
      (chainIdBase, .ofNat 20 0x833589fCD6eDb6E08f4c7C32D4f71b54bdA02913)]
  | .usdt =>
    [(chainIdArbitrum, .ofNat 20 0xFd086bC7CD5C481DCC9C85ebE478A1C0b69FCbb9),
      (chainIdOptimism, .ofNat 20 0x94b008aA00579c1307B0EF2c499aD98a8ce58e58)]

/-- `get_erc20_groups`. -/
def getErc20Groups : HashMap TokenKey (HashMap String Address) :=
  ofPairs [(.usdc, ofPairs (erc20Contracts .usdc)), (.usdt, ofPairs (erc20Contracts .usdt))]

/-- `get_erc20_groups()[token_key].get(chain)`. -/
def tokenContractOn (key : TokenKey) (chain : String) : Option Address :=
  (getErc20Groups.lookup key).bind fun contracts => contracts.lookup chain

/-! ## What the passes use -/

/-- The floating point numbers, as far as the passes use them. -/
structure AssetFloats (F : Type) where
  /-- `parse::<f64>()`. -/
  parse : String → Option F
  /-- `to_string`. -/
  display : F → String
  /-- `0.0`. -/
  zero : F
  add : F → F → F
  mul : F → F → F
  max : F → F → F
  /-- `10f64.powf(_)`. -/
  powTen : F → F
  round : F → F
  /-- `as u64`. -/
  asU64 : F → U64
  totalCmp : F → F → Ordering

/-- What the passes ask of other crates, and the orders in which they walk maps. A statement
    about every environment is one about every order. -/
structure AssetsEnv (F : Type) where
  floats : AssetFloats F
  /-- `Address::from_str`. -/
  addressFromStr : String → Option Address
  /-- `Display for Address`. -/
  displayAddress : Address → String
  /-- `U64::from_str`. -/
  u64FromStr : String → Option U64
  groupsOrder : Walk TokenKey (HashMap String Address)
  balancesOrder : Walk TokenKey (List (BalanceItem F))
  filterOrder : Walk U64 (List AddressOrNative)

/-- What is assumed of them: what was printed is read back, and an address is printed without
    colons. -/
structure AssetsEnv.Lawful {F : Type} (env : AssetsEnv F) : Prop where
  parse_display : ∀ x, (env.floats.parse (env.floats.display x)).isSome
  parse_zero : (env.floats.parse "0").isSome
  addressFromStr_display : ∀ a, env.addressFromStr (env.displayAddress a) = some a
  colon_notMem : ∀ a, ':' ∉ (env.displayAddress a).toList
  u64FromStr_toString : ∀ n : U64, env.u64FromStr (toString n.toNat) = some n

/-- `format!("eip155:{chain}")`. -/
def evmChainId (chain : U64) : String := "eip155:" ++ toString chain.toNat

/-- `strip_prefix("eip155:")`. -/
def stripEip155 (chainId : String) : Option String :=
  if chainId.toList.take 7 = "eip155:".toList then some (String.ofList (chainId.toList.drop 7))
  else none

variable {F : Type} {ε : Type}

/-- `or_insert_with(Vec::new).push(_)`. -/
def pushTo {K V : Type} [DecidableEq K] (m : HashMap K (List V)) (k : K) (v : V) :
    HashMap K (List V) :=
  AList.insert k ((m.lookup k).getD [] ++ [v]) m

/-- What `group_balances` collects: the items of each group, and those of no group, both in the
    order of the answer. -/
structure Segregated (F : Type) where
  toAggregateBalance : HashMap TokenKey (List (BalanceItem F))
  notToAggregateBalance : List (BalanceItem F)

section Passes

variable (env : AssetsEnv F)

/-- `get_supported_token_and_chain_pair_key`. -/
def getSupportedTokenAndChainPairKey (chainId : String) (address : AddressOrNative) :
    Option TokenKey :=
  ((env.groupsOrder.entries getErc20Groups).find? fun group =>
    match group.2.lookup chainId, address with
    | some a, .addressVariant address => a = address
    | _, _ => false).map Prod.fst

/-- `convert_caip10_to_address`. -/
def convertCaip10ToAddress (caip10 : String) : Outcome ε Address := do
  let last ← Outcome.unwrap (caip10.toList.splitOn ':').getLast?
  Outcome.unwrap (env.addressFromStr (String.ofList last))

/-- The address of an item, or `Native`. -/
def addressOrNative (balance : BalanceItem F) : Outcome ε AddressOrNative :=
  match balance.address with
  | some a => do
    let address ← convertCaip10ToAddress env a
    return .addressVariant address
  | none => return .native

/-! ### Grouping -/

/-- The group of an item. -/
def tokenKey (balance : BalanceItem F) : Outcome ε (Option TokenKey) := do
  let address ← addressOrNative env balance
  let chainId ← Outcome.unwrap balance.chainId
  return getSupportedTokenAndChainPairKey env chainId address

/-- An item with its group. -/
def keyed (balance : BalanceItem F) : Outcome ε (Option TokenKey × BalanceItem F) := do
  let key ← tokenKey env balance
  return (key, balance)

/-- An item is added to its group, or to the other items. -/
def Segregated.push (s : Segregated F) (balance : Option TokenKey × BalanceItem F) :
    Segregated F :=
  match balance.1 with
  | some key => { s with toAggregateBalance := pushTo s.toAggregateBalance key balance.2 }
  | none => { s with notToAggregateBalance := s.notToAggregateBalance ++ [balance.2] }

/-- `group_balances`. -/
def groupBalances (balances : List (BalanceItem F)) : Outcome ε (Segregated F) :=
  balances.foldlM (fun s balance => do
    let balance ← keyed env balance
    return s.push balance) ⟨∅, []⟩

/-! ### Missing chains -/

/-- The chains of a token on which no item is. -/
def missingChains (key : TokenKey) (balances : List (BalanceItem F)) : List String :=
  supportedChains.filter fun chain =>
    !(balances.any fun b => b.chainId = some chain) && (tokenContractOn key chain).isSome

/-- The item for a missing chain. -/
def missingItem (chain : String) (contract : Address) (template : BalanceItem F) :
    BalanceItem F :=
  { template with
    chainId := some chain
    address := some (chain ++ ":" ++ env.displayAddress contract)
    quantity := { decimals := template.quantity.decimals, numeric := "0" }
    value := some env.floats.zero }

/-- One group in `fill_missing_chains`: it is filled unless it has as many items as there are
    supported chains. -/
def fillGroup (key : TokenKey) (chainPairs : List (BalanceItem F)) :
    Outcome ε (List (BalanceItem F)) :=
  if chainPairs.length ≠ supportedChains.length then
    (missingChains key chainPairs).foldlM (fun pairs chain => do
      let template ← Outcome.unwrap pairs.head?
      let contract ← Outcome.unwrap (tokenContractOn key chain)
      return pairs ++ [missingItem env chain contract template]) chainPairs
  else return chainPairs

/-- `fill_missing_chains`. -/
def fillMissingChains (toAggregateBalance : HashMap TokenKey (List (BalanceItem F))) :
    Outcome ε (HashMap TokenKey (List (BalanceItem F))) :=
  (env.balancesOrder.entries toAggregateBalance).foldlM (fun m group => do
    let chainPairs ← fillGroup env group.1 group.2
    return AList.insert group.1 chainPairs m) toAggregateBalance

/-- `segregate_balances`. -/
def segregateBalances (balance : BalanceResponseBody F) : Outcome ε (Segregated F) := do
  let s ← groupBalances env balance.balances
  let toAggregateBalance ← fillMissingChains env s.toAggregateBalance
  return { s with toAggregateBalance := toAggregateBalance }

/-! ### Aggregation -/

/-- The largest balance at another index. The source compares indices and not items, so an equal
    item at another index counts. -/
def highestOtherValue (currentIndex : Nat) (balances : List (BalanceItem F × Nat)) :
    Outcome ε F :=
  balances.foldlM (fun highest balance =>
    if balance.2 ≠ currentIndex then do
      let value ← Outcome.unwrap (env.floats.parse balance.1.quantity.numeric)
      return env.floats.max value highest
    else return highest) env.floats.zero

/-- An item with its aggregated balance. -/
def withAggregatedValue (current : BalanceItem F) (aggregatedValue : F) : BalanceItem F :=
  { current with
    quantity := { current.quantity with numeric := env.floats.display aggregatedValue }
    value := some (env.floats.mul current.price aggregatedValue) }

/-- One group in `apply_aggregate_balance_value`: each item with the largest amount at another
    index added to its own. -/
def aggregateGroup (balances : List (BalanceItem F)) : Outcome ε (List (BalanceItem F)) :=
  balances.zipIdx.mapM fun current => do
    let currentValue ← Outcome.unwrap (env.floats.parse current.1.quantity.numeric)
    let highest ← highestOtherValue env current.2 balances.zipIdx
    return withAggregatedValue env current.1 (env.floats.add currentValue highest)

/-- `apply_aggregate_balance_value`. -/
def applyAggregateBalanceValue (toAggregateBalance : HashMap TokenKey (List (BalanceItem F))) :
    Outcome ε (List (BalanceItem F)) := do
  let groups ← (env.balancesOrder.entries toAggregateBalance).mapM fun group =>
    aggregateGroup env group.2
  return groups.flatten

/-! ### Filters -/

/-- Does an item have this chain and this address?  The address is read only on this chain. -/
def onChainWithAddress (chain : U64) (address : AddressOrNative) (balance : BalanceItem F) :
    Outcome ε Bool :=
  if balance.chainId = some (evmChainId chain) then do
    let a ← addressOrNative env balance
    return decide (a = address)
  else return false

/-- The items that an entry of the asset filter lets through, added to those before. -/
def extendMatching (balances : List (BalanceItem F)) (chain : U64) (filtered : List (BalanceItem F))
    (address : AddressOrNative) : Outcome ε (List (BalanceItem F)) :=
  balances.foldlM (fun filtered balance => do
    let keep ← onChainWithAddress env chain address balance
    return if keep then filtered ++ [balance] else filtered) filtered

/-- `apply_asset_filter`. -/
def applyAssetFilter (assetFilter : HashMap U64 (List AddressOrNative))
    (balances : List (BalanceItem F)) : Outcome ε (List (BalanceItem F)) :=
  (env.filterOrder.entries assetFilter).foldlM (fun filtered entry =>
    entry.2.foldlM (fun filtered address => extendMatching env balances entry.1 filtered address)
      filtered) []

/-- `apply_chain_filter`. -/
def applyChainFilter (chainFilter : List U64) (balances : List (BalanceItem F)) :
    List (BalanceItem F) :=
  balances.filter fun balance =>
    (chainFilter.map fun chain => some (evmChainId chain)).contains balance.chainId

/-- The type of an item. -/
def assetTypeOf (balance : BalanceItem F) : AssetType :=
  (balance.address.map fun _ => AssetType.erc20).getD .native

/-- `apply_asset_type_filter`. -/
def applyAssetTypeFilter (assetTypeFilter : List AssetType) (balances : List (BalanceItem F)) :
    List (BalanceItem F) :=
  balances.filter fun balance => assetTypeFilter.contains (assetTypeOf balance)

/-- `sort_balances_by_value`: the larger value first, and equal ones as they were. -/
def sortBalancesByValue (balances : List (BalanceItem F)) : List (BalanceItem F) :=
  balances.mergeSort fun b₁ b₂ =>
    env.floats.totalCmp (b₂.value.getD env.floats.zero) (b₁.value.getD env.floats.zero) != .gt

/-- `filter_balances`: an asset filter makes the others redundant. -/
def filterBalances (balances : List (BalanceItem F)) (filters : GetAssetsFilters) :
    Outcome ε (List (BalanceItem F)) :=
  match filters.assetFilter with
  | some assetFilter => do
    let balances ← applyAssetFilter env assetFilter balances
    return sortBalancesByValue env balances
  | none =>
    let balances := (filters.assetTypeFilter.map (applyAssetTypeFilter · balances)).getD balances
    let balances := (filters.chainFilter.map (applyChainFilter · balances)).getD balances
    return sortBalancesByValue env balances

/-! ### The response -/

/-- The key under which an item is listed. -/
def responseKey (balance : BalanceItem F) : Outcome ε U64 := do
  let chainId ← Outcome.unwrap balance.chainId
  let reference ← Outcome.unwrap (stripEip155 chainId)
  Outcome.unwrap (env.u64FromStr reference)

/-- `convert_balance_to_hex`: the amount times the power of ten, rounded, through 64 bits to a
    word. -/
def convertBalanceToHex (quantity : BalanceQuantity) : Outcome ε U256 := do
  let numeric ← Outcome.unwrap (env.floats.parse quantity.numeric)
  let decimals ← Outcome.unwrap (env.floats.parse quantity.decimals)
  return (env.floats.asU64 (env.floats.round
    (env.floats.mul numeric (env.floats.powTen decimals)))).setWidth 256

/-- The decimals of an item, as `u8`. -/
def decimalsOf (balance : BalanceItem F) : Outcome ε UInt8 := do
  let decimals ← Outcome.unwrap (parseUnsigned (2 ^ 8) balance.quantity.decimals.toList)
  return UInt8.ofNat decimals

/-- What is listed for an item. -/
def assetOf (balance : BalanceItem F) : Outcome ε (Asset F) := do
  let assetBalance ← convertBalanceToHex env balance.quantity
  match balance.address with
  | some address =>
    let a ← convertCaip10ToAddress env address
    let decimals ← decimalsOf balance
    return .erc20
      { address := .addressVariant a
        balance := assetBalance
        metadata :=
          { name := balance.name
            symbol := balance.symbol
            decimals := decimals
            iconUrl := balance.iconUrl
            price := balance.price
            value := balance.value } }
  | none =>
    let decimals ← decimalsOf balance
    return .native
      { address := .native
        balance := assetBalance
        metadata :=
          { name := balance.name
            symbol := balance.symbol
            decimals := decimals
            iconUrl := balance.iconUrl
            price := balance.price
            value := balance.value } }

/-- An item as it is listed. -/
def responseEntry (balance : BalanceItem F) : Outcome ε (U64 × Asset F) := do
  let key ← responseKey env balance
  let asset ← assetOf env balance
  return (key, asset)

/-- `create_response`. -/
def createResponse (balances : List (BalanceItem F)) : Outcome ε (GetAssetsResult F) :=
  balances.foldlM (fun result balance => do
    let entry ← responseEntry env balance
    return pushTo result entry.1 entry.2) ∅

/-- `get_assets`: the five passes one after the other, on what the balance handler answered. -/
def getAssets (balance : BalanceResponseBody F) (filters : GetAssetsFilters) :
    Outcome GetAssetsError (GetAssetsResult F) := do
  let segregated ← segregateBalances env balance
  let aggregatedBalances ← applyAggregateBalanceValue env segregated.toAggregateBalance
  let filteredBalances ←
    filterBalances env (aggregatedBalances ++ segregated.notToAggregateBalance) filters
  createResponse env filteredBalances

/-- `handler_internal`: the balances of the account on all chains, in US dollars. -/
def getAssetsHandler
    (balanceHandler : BalanceRequest → Outcome RpcError (BalanceResponseBody F))
    (projectId account : String) (headers : BalanceRequest) (filters : GetAssetsFilters) :
    Outcome GetAssetsError (GetAssetsResult F) := do
  let balance ← (balanceHandler
    { headers with
      address := account
      projectId := projectId
      currency := .usd
      chainId := none
      forceUpdate := none }).mapErr .getBalance
  getAssets env balance filters

end Passes

end BlockchainApi
