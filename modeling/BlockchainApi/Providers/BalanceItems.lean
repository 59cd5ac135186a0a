/-
  What Zerion and Dune make of their answers (`get_balance` of `src/providers/zerion.rs` and
  `src/providers/dune.rs`, and `ChainId` of `src/utils/crypto.rs`).

  Both turn positions into balance items.

  1. **Zerion** names a chain, and the name is looked up in a table: an item has a chain exactly if
     its name is there (`zerion_chainId_isSome_iff`).  Without a chain it has no address either, and
     with one its address starts with it (`zerion_address`).
  2. **Dune** builds the chain of an item from a number, so an item always has one, and its decimals
     are those of a byte (`dune_chainId`).  Where no number is given, it is that of the main
     network.

  The metadata cache answers what it answers (`getMetadata`); what is put into it is left out.  So
  are the requests, of which only the answer matters here.
-/
import BlockchainApi.Balances.Handler
import BlockchainApi.Providers.SolScan

namespace BlockchainApi

/-! ## Names of chains, in the table of `ChainId` -/

/-- The variants of `ChainId`: the names that are read, and the number. -/
def chainIds : List (List String × Nat) :=
  [(["abstract"], 2741), (["ape"], 33139), (["arbitrum"], 42161),
    (["arbitrum-sepolia", "arbitrum_sepolia"], 421614), (["aurora"], 1313161554),
    (["aurora-testnet", "aurora_testnet"], 1313161555), (["avalanche"], 43114),
    (["avalanche-fuji", "avalanche_fuji"], 43113), (["base"], 8453),
    (["base_sepolia_testnet", "base-sepolia-testnet"], 84532), (["berachain"], 80094),
    (["berachain-bepolia", "berachain_bepolia"], 80069),
    (["binance-smart-chain", "binance_smart_chain", "bsc"], 56),
    (["binance-smart-chain-testnet", "bsc-testnet"], 97), (["blast"], 81032), (["celo"], 42220),
    (["cronos"], 25), (["degen"], 666666666), (["ethereum", "mainnet"], 1),
    (["ethereum-holesky", "holesky"], 17000), (["ethereum-hoodi", "hoodi"], 560048),
    (["fantom"], 250), (["xdai", "gnosis", "gnosis_chain", "gnosis-chain", "gnosischain"], 100),
    (["goerli"], 5), (["gravity-alpha"], 1625), (["ink"], 57073), (["kaia"], 8217),
    (["lens"], 232), (["linea"], 59144), (["mantle"], 5000),
    (["mantle-testnet", "mantle_testnet"], 5003), (["monad"], 10143), (["moonbeam"], 1284),
    (["morph-holesky", "morph_holesky"], 2810), (["morph"], 2818), (["optimism"], 10),
    (["optimism-sepolia", "optimism_sepolia"], 11155420), (["polygon"], 137),
    (["polygon-amoy", "polygon_amoy"], 80002), (["polygon-zkevm", "polygon_zkevm"], 1101),
    (["rootstock"], 30), (["rootstock-testnet", "rootstock_testnet"], 31), (["scroll"], 534352),
    (["scroll-sepolia", "scroll_sepolia"], 534351), (["sei"], 1329), (["sepolia"], 11155111),
    (["soneium"], 1868), (["sonic"], 146), (["sonic-testnet", "sonic_testnet"], 57054),
    (["unichain"], 130), (["unichain-sepolia", "unichain_sepolia"], 1301), (["wemix"], 1111),
    (["wemix-testnet", "wemix_testnet"], 1112), (["xrpl-evm", "xrpl_evm"], 1440000),
    (["xrpl-evm-testnet", "xrpl_evm_testnet"], 1449000), (["zero"], 543210),
    (["zero-sepolia", "zero_sepolia", "zero-testnet"], 4457845),
    (["zksync", "zksyncera", "zksync-era"], 324), (["zksync-era-sepolia", "zksync_sepolia"], 300),
    (["zora"], 7777777), (["zora-sepolia", "zora_sepolia"], 999999999)]

/-- `ChainId::to_caip2`. -/
def toCaip2 (chainName : String) : Option String :=
  (chainIds.find? fun chain => chain.1.contains chainName).map fun chain =>
    "eip155:" ++ toString chain.2

variable {F : Type}

/-- `MetadataCache::get_metadata`. -/
abbrev MetadataLookup := String → Except RpcError (Option TokenMetadataCacheItem)

/-! ## Zerion: a chain by its name -/

/-- `ZerionImplementation`. -/
structure ZerionImplementation where
  chainId : String
  address : Option String

/-- `ZerionFungibleInfoAttribute`; of an icon, its URL. -/
structure ZerionFungibleInfoAttribute where
  name : Option String
  symbol : String
  icon : Option String
  implementations : List ZerionImplementation

/-- `ZerionQuantityAttribute`. -/
structure ZerionQuantityAttribute where
  decimals : UInt64
  numeric : String

/-- `ZerionPosition`, with its attributes; of the relationships, the chain. -/
structure ZerionPosition (F : Type) where
  chain : String
  value : Option F
  price : F
  quantity : ZerionQuantityAttribute
  fungibleInfo : ZerionFungibleInfoAttribute

/-- `POLYGON_NATIVE_TOKEN_ADDRESS`. -/
def polygonNativeTokenAddress : String := "0x0000000000000000000000000000000000001010"

/-- `H160_EMPTY_ADDRESS.to_string()`: this type prints only the ends of an address. -/
def h160EmptyAddressText : String := "0xeeee…eeee"

/-- The address of a token on the chain of a position. -/
def zerionTokenAddress (f : ZerionPosition F) : Option String :=
  (f.fungibleInfo.implementations.find? fun impl => impl.chainId == f.chain).bind
    ZerionImplementation.address

/-- The metadata of a position: what the cache has, or else what the answer says. -/
def zerionTokenMetadata (getMetadata : MetadataLookup) (f : ZerionPosition F) :
    TokenMetadataCacheItem :=
  let tokenMetadata : TokenMetadataCacheItem :=
    { name := f.fungibleInfo.name.getD f.fungibleInfo.symbol
      symbol := f.fungibleInfo.symbol
      iconUrl := f.fungibleInfo.icon.getD ""
      decimals := UInt8.ofNat f.quantity.decimals.toNat }
  match toCaip2 f.chain with
  | some chainId =>
    match getMetadata (chainId ++ ":" ++ (zerionTokenAddress f).getD h160EmptyAddressText) with
    | .ok (some cached) => cached
    | _ => tokenMetadata
  | none => tokenMetadata

/-- The item of a position. -/
def zerionBalanceItem (getMetadata : MetadataLookup) (f : ZerionPosition F) : BalanceItem F :=
  let chainId := toCaip2 f.chain
  let tokenMetadata := zerionTokenMetadata getMetadata f
  { name := tokenMetadata.name
    symbol := tokenMetadata.symbol
    chainId := chainId
    address :=
      match zerionTokenAddress f with
      | some addr =>
        if addr = polygonNativeTokenAddress then none
        else chainId.map fun chainId => chainId ++ ":" ++ addr
      | none => none
    value := f.value
    price := f.price
    quantity :=
      { decimals := toString f.quantity.decimals.toNat
        numeric := f.quantity.numeric }
    iconUrl := tokenMetadata.iconUrl }

/-- `ZerionProvider::get_balance`, from the answer on. -/
def zerionGetBalance (getMetadata : MetadataLookup)
    (response : JsonResponse (List (ZerionPosition F))) :
    Except RpcError (BalanceResponseBody F) := do
  if !response.isSuccess then throw .balanceProviderError
  let data ← response.json
  return ⟨data.map (zerionBalanceItem getMetadata)⟩

/-- **An item of Zerion has a chain exactly if the name of its chain is in the table.** Of a
    chain that is not, the item is listed without one. -/
theorem zerion_chainId_isSome_iff {getMetadata : MetadataLookup} {f : ZerionPosition F} :
    (zerionBalanceItem getMetadata f).chainId.isSome ↔
      ∃ chain ∈ chainIds, f.chain ∈ chain.1 := by
  show (toCaip2 f.chain).isSome ↔ _
  rw [toCaip2, Option.isSome_map, List.find?_isSome]
  simp only [List.contains_iff_mem]

/-- The address of an item of Zerion starts with its chain. -/
theorem zerion_address {getMetadata : MetadataLookup} {f : ZerionPosition F} {address : String}
    (h : (zerionBalanceItem getMetadata f).address = some address) :
    ∃ chainId addr, (zerionBalanceItem getMetadata f).chainId = some chainId ∧
      address = chainId ++ ":" ++ addr := by
  change (match zerionTokenAddress f with
    | some addr => if addr = polygonNativeTokenAddress then none
        else (toCaip2 f.chain).map fun chainId => chainId ++ ":" ++ addr
    | none => none) = some address at h
  split at h
  · split at h
    · cases h
    · obtain ⟨chainId, hchain, rfl⟩ := Option.map_eq_some_iff.mp h
      exact ⟨chainId, _, hchain, rfl⟩
  · cases h

/-! ## Dune: a chain by its number -/

/-- `Balance`; of the metadata, the logo. -/
structure DuneBalance (F : Type) where
  chain : String
  chainId : Option UInt64
  address : String
  amount : String
  decimals : Option UInt8
  symbol : Option String
  priceUsd : Option F
  valueUsd : Option F
  tokenMetadata : Option String
  poolSize : Option F
  lowLiquidity : Option Bool

/-- What the conversion asks of other crates and of the language. -/
structure DuneDeps (F : Type) where
  /-- `size <= MIN_POOL_SIZE`. -/
  isSmallPool : F → Bool
  /-- `0.0`. -/
  zero : F
  /-- `U256::from_dec_str`. -/
  fromDecStr : String → Option U256
  /-- `capitalize_first_letter`. -/
  capitalizeFirstLetter : String → String
  getMetadata : MetadataLookup

/-- `NATIVE_TOKEN_ICONS`. -/
def nativeTokenIcons : List (String × String) :=
  [("SOL", "https://cdn.jsdelivr.net/gh/trustwallet/assets@master/" ++
    "blockchains/solana/info/logo.png")]

/-- The chain of a balance; the main network where none is given. -/
def duneCaip2ChainId (namespace_ : CaipNamespaces) (chainId : Option UInt64) :
    Except RpcError String :=
  match chainId with
  | some cid => .ok (namespace_.display ++ ":" ++ toString cid.toNat)
  | none =>
    match namespace_ with
    | .eip155 | .rootstock => .ok (namespace_.display ++ ":1")
    | .solana => .ok (namespace_.display ++ ":5eykt4UsFv8P8NJdTREpY1vzqKqZKvdp")
    | .ton => .error .balanceProviderError

/-- The key of a token in the metadata cache. -/
def duneCaip10TokenAddress (namespace_ : CaipNamespaces) (caip2ChainId address : String) :
    String :=
  if address = "native" then
    match namespace_ with
    | .eip155 | .rootstock => caip2ChainId ++ ":" ++ h160EmptyAddressText
    | .solana => caip2ChainId ++ ":" ++ solanaNativeTokenAddress
    | .ton => ""
  else caip2ChainId ++ ":" ++ address

/-- The metadata of a token; without any, it is taken for spam. -/
def duneTokenMetadata (deps : DuneDeps F) (caip10TokenAddress : String) (f : DuneBalance F)
    (decimals : UInt8) : Option TokenMetadataCacheItem :=
  match deps.getMetadata caip10TokenAddress with
  | .ok (some cached) => some cached
  | .ok none => do
    let symbol ← f.symbol
    let name := if f.address = "native" then deps.capitalizeFirstLetter f.chain else symbol
    let iconUrl ← match f.tokenMetadata with
      | some logo =>
        if logo ≠ "" then some logo
        else if f.address = "native" then some ((nativeTokenIcons.lookup symbol).getD "")
        else some logo
      | none =>
        if f.address = "native" then some ((nativeTokenIcons.lookup symbol).getD "") else none
    return { name := name, symbol := symbol, iconUrl := iconUrl, decimals := decimals }
  | .error _ => none

/-- The item of a balance, unless it is taken for spam. -/
def duneBalanceItem (deps : DuneDeps F) (namespace_ : CaipNamespaces) (f : DuneBalance F) :
    Except RpcError (Option (BalanceItem F)) := do
  if f.poolSize.any deps.isSmallPool || f.lowLiquidity.getD false then return none
  let caip2ChainId ← duneCaip2ChainId namespace_ f.chainId
  let caip10TokenAddress := duneCaip10TokenAddress namespace_ caip2ChainId f.address
  return do
    let decimals ← f.decimals
    let tokenMetadata ← duneTokenMetadata deps caip10TokenAddress f decimals
    return {
      name := tokenMetadata.name
      symbol := tokenMetadata.symbol
      chainId := some caip2ChainId
      address :=
        if f.address = "native" then
          match namespace_ with
          | .eip155 | .rootstock => none
          | .solana => some solanaNativeTokenAddress
          | .ton => none
        else some (caip2ChainId ++ ":" ++ f.address)
      value := f.valueUsd
      price := f.priceUsd.getD deps.zero
      quantity :=
        { decimals := toString decimals.toNat
          numeric := formatTokenAmount ((deps.fromDecStr f.amount).getD 0) decimals }
      iconUrl := tokenMetadata.iconUrl }

/-- `DuneProvider::get_balance`, from the answer on. -/
def duneGetBalance (deps : DuneDeps F) (namespace_ : CaipNamespaces)
    (response : JsonResponse (List (DuneBalance F))) : Except RpcError (BalanceResponseBody F) := do
  if namespace_ = .ton then throw .balanceProviderError
  if !response.isSuccess then throw .balanceProviderError
  let data ← response.json
  let items ← data.mapM (duneBalanceItem deps namespace_)
  return ⟨items.filterMap id⟩

/-- An item that Dune's balance makes has a chain, and its decimals are those of a byte. -/
theorem duneBalanceItem_chainId {deps : DuneDeps F} {f : DuneBalance F} {b : BalanceItem F}
    (h : duneBalanceItem deps .eip155 f = .ok (some b)) :
    ∃ n : UInt64, b.chainId = some ("eip155:" ++ toString n.toNat) ∧
      ∃ decimals : UInt8, b.quantity.decimals = toString decimals.toNat := by
  rw [duneBalanceItem] at h
  split at h
  · cases h
  · cases hchain : duneCaip2ChainId .eip155 f.chainId with
    | error e =>
      rw [hchain] at h
      cases h
    | ok caip2ChainId =>
      rw [hchain] at h
      have hitem := Except.ok.inj h
      obtain ⟨decimals, hdecimals, hitem⟩ := Option.bind_eq_some_iff.mp hitem
      obtain ⟨tokenMetadata, -, hitem⟩ := Option.bind_eq_some_iff.mp hitem
      cases hitem
      -- the chain is written from a number, given or not
      have hnumber : ∃ n : UInt64, caip2ChainId = "eip155:" ++ toString n.toNat := by
        unfold duneCaip2ChainId at hchain
        cases hcid : f.chainId with
        | some cid =>
          rw [hcid] at hchain
          exact ⟨cid, (Except.ok.inj hchain).symm⟩
        | none =>
          rw [hcid] at hchain
          exact ⟨1, (Except.ok.inj hchain).symm⟩
      obtain ⟨n, rfl⟩ := hnumber
      exact ⟨n, rfl, decimals, rfl⟩

/-- **Every item of Dune's answer for an EVM account has a chain**, written as a number, and
    decimals that a byte holds. -/
theorem dune_chainId {deps : DuneDeps F} {response : JsonResponse (List (DuneBalance F))}
    {body : BalanceResponseBody F} (h : duneGetBalance deps .eip155 response = .ok body) :
    ∀ b ∈ body.balances, ∃ n : UInt64, b.chainId = some ("eip155:" ++ toString n.toNat) ∧
      ∃ decimals : UInt8, b.quantity.decimals = toString decimals.toNat := by
  intro b hb
  rw [duneGetBalance, if_neg (by decide)] at h
  split at h
  · cases h
  · obtain ⟨data, -, h⟩ := Except.bind_eq_ok.mp h
    obtain ⟨items, hitems, h⟩ := Except.bind_eq_ok.mp h
    cases h
    -- what is left out is taken for spam
    obtain ⟨item, hitem, rfl⟩ := List.mem_filterMap.mp hb
    obtain ⟨f, -, hf⟩ := Except.exists_of_mem_mapM hitems hitem
    exact duneBalanceItem_chainId hf

end BlockchainApi
