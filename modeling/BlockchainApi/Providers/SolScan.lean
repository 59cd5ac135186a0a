/-
  The tokens of Solana (`src/providers/solscan.rs`, and `TokenMetadataCache` of
  `src/handlers/balance.rs`).

  `get_token_info` asks for the price of the native token first.  For another token it then answers
  from the metadata cache, with that price, or asks upstream for the metadata, which bring the
  price of the token itself.  A background task puts the metadata, without the price, into the
  cache.

  The cache is not SolScan's own.  One `TokenMetadataCache` is handed to every provider, and the
  balance providers put into it what their upstreams say of a token, under the same keys (Dune for
  the balances on Solana).  What they put there is a parameter of the runs here (`others`): any item
  under any key, at any time.

  1. **The lookups** (`tokenPriceRequest`, `getTokenInfo`) as functions of the stores, with what
     Redis does at each access; the history (`getTransactions`) as a loop of lookups.
  2. **What is stored** (`Written`): prices as upstream says them, and metadata as upstream or one
     of the other providers says them.  Every lookup and every task keeps it.
  3. **Two lookups with the same prices stored** end in the same way, whatever metadata are stored
     (`getTokenInfo_agree`); so does a page of the history (`historyTransactions_agree`).
  4. `lookups_agree_iff`: a cached answer is the upstream answer exactly for the tokens that cost as
     much as the native token, and that the other providers describe as SolScan does.
     `demoUsdc_disagrees` is one that costs less, and one that is described in another way.
-/
import BlockchainApi.Error
import BlockchainApi.Utils.Caip
import BlockchainApi.Lib.Expiring
import BlockchainApi.Lib.Transitions
import Mathlib.Data.Set.Basic

namespace BlockchainApi

open Transitions

/-! ## Redis -/

/-- What Redis does at one access. -/
inductive RedisAccess where
  /-- No Redis is configured. -/
  | absent
  | up
  | poolError (text : String)
  /-- The command fails; a value that was to be set may be there all the same. -/
  | commandError (text : String) (applied : Bool)

variable {V : Type}

/-- `get_cache`. -/
def getCache (access : RedisAccess) (store : Expiring.Store String V) (now : Nat) (key : String) :
    Except RpcError (Option V) :=
  match access with
  | .absent => .ok none
  | .up => .ok (store.find now key)
  | .poolError e => .error (.storage ("Error when getting the Redis pool instance " ++ e))
  | .commandError e _ => .error (.storage ("Error when getting cache: " ++ e))

/-- `set_cache`: what it returns, and what is stored afterwards. -/
def setCache (access : RedisAccess) (store : Expiring.Store String V) (key : String) (value : V)
    (expires : Nat) : Except RpcError Unit × Expiring.Store String V :=
  match access with
  | .absent => (.ok (), store)
  | .up => (.ok (), store.put key value expires)
  | .poolError e =>
    (.error (.storage ("Error when getting the Redis pool instance " ++ e)), store)
  | .commandError e applied =>
    (.error (.storage ("Error when seting cache: " ++ e)),
      if applied then store.put key value expires else store)

/-! ## Lookups of prices and of metadata -/

/-- `SOLANA_NATIVE_TOKEN_ADDRESS`. -/
def solanaNativeTokenAddress : String := "So11111111111111111111111111111111111111111"

/-- `SOLANA_SOL_TOKEN_ICON`. -/
def solanaSolTokenIcon : String :=
  "https://cdn.jsdelivr.net/gh/trustwallet/assets@master/blockchains/solana/info/logo.png"

/-- `SOLANA_MAINNET_CHAIN_ID`. -/
def solanaMainnetChainId : String := "solana:5eykt4UsFv8P8NJdTREpY1vzqKqZKvdp"

/-- `PRICING_CACHE_TTL`, in seconds. -/
def pricingCacheTtl : Nat := 60 * 5

/-- `METADATA_CACHE_TTL`, in seconds. -/
def metadataCacheTtl : Nat := 60 * 60 * 24

/-- `format_cache_pricing_key`. -/
def formatCachePricingKey (address : String) : String := "solscan/pricing/" ++ address

/-- `token_metadata_cache_key`. -/
def tokenMetadataCacheKey (caip10TokenAddress : String) : String :=
  "token_metadata/" ++ caip10TokenAddress

/-- `TokenMetaData`. -/
structure TokenMetaData (F : Type) where
  name : Option String
  symbol : String
  decimals : UInt8
  icon : Option String
  price : F

/-- `TokenMetadataCacheItem`.  It is stored as JSON, which gives texts and numbers back as they
    were. -/
structure TokenMetadataCacheItem where
  name : String
  symbol : String
  decimals : UInt8
  iconUrl : String

/-- The floating point numbers, as far as they are used: `as f64`, `10f64.powf`, `/`, `*`,
    `to_string` and `parse`. -/
structure Floats (F : Type) where
  zero : F
  ofNat : Nat → F
  powTen : UInt8 → F
  div : F → F → F
  mul : F → F → F
  display : F → String
  parse : String → Option F
  /-- A number is printed with as many digits as it takes to read it back. -/
  parse_display : ∀ x, parse (display x) = some x

/-- The answer to an HTTP request: its status, and its body as JSON. -/
structure JsonResponse (B : Type) where
  status : Nat
  json : Except RpcError B

/-- `status().is_success()`. -/
def JsonResponse.isSuccess {B : Type} (response : JsonResponse B) : Bool :=
  200 ≤ response.status && response.status < 300

/-- `HistoryDirectionType`. -/
inductive HistoryDirectionType where
  | in_
  | out
  deriving DecidableEq

/-- `to_string`. -/
def HistoryDirectionType.display : HistoryDirectionType → String
  | .in_ => "in"
  | .out => "out"

/-- `HistoryActivityType`. -/
inductive HistoryActivityType where
  | transfer
  | burn
  | mint
  | createAccount
  | closeAccount

/-- `HistoryResponseItem`, as far as it is read. -/
structure HistoryResponseItem where
  blockId : Nat
  transId : String
  activityType : HistoryActivityType
  fromAddress : String
  toAddress : String
  tokenAddress : String
  amount : Nat
  flow : HistoryDirectionType
  time : String

/-- SolScan: what its endpoints answer. -/
structure SolScan (F : Type) where
  floats : Floats F
  /-- `TOKEN_PRICE_URL`: the prices in the answer for a token. -/
  tokenPrice : String → Except RpcError (JsonResponse (List F))
  /-- `TOKEN_METADATA_URL`. -/
  tokenMeta : String → Except RpcError (JsonResponse (TokenMetaData F))
  /-- `ACCOUNT_HISTORY_URL`: account and page. -/
  accountHistory : String → String → Except RpcError (JsonResponse (List HistoryResponseItem))

/-- The two caches, and the background tasks that are to store metadata. -/
structure SolScanState where
  now : Nat
  pricing : Expiring.Store String String
  metadata : Expiring.Store String TokenMetadataCacheItem
  spawned : List (String × TokenMetadataCacheItem)

/-- Nothing stored. -/
def SolScanState.start : SolScanState := ⟨0, .empty, .empty, []⟩

/-- The same prices stored, but no metadata. -/
def SolScanState.withoutMetadata (s : SolScanState) : SolScanState := { s with metadata := .empty }

/-- What Redis does at the accesses of one lookup. -/
structure LookupAccess where
  priceGet : RedisAccess
  priceSet : RedisAccess
  metadataGet : RedisAccess

/-- Redis does what it is asked to. -/
def LookupAccess.up : LookupAccess := ⟨.up, .up, .up⟩

section

variable {F : Type} (p : SolScan F)

/-- `token_price_request`, where upstream is asked: the first price of the answer. -/
def upstreamPrice (address : String) : Except RpcError F := do
  let response ← p.tokenPrice address
  if !response.isSuccess then
    throw (.fungiblePriceProviderError "Token price provider response status is not success")
  else do
    let prices ← response.json
    match prices.head? with
    | some price => return price
    | none =>
      throw (.fungiblePriceProviderError "Empty price response from the provider")

/-- `token_price_request`: the price, and the prices stored afterwards. -/
def tokenPriceRequest (access : LookupAccess) (address : String) (now : Nat)
    (pricing : Expiring.Store String String) : Except RpcError F × Expiring.Store String String :=
  match getCache access.priceGet pricing now (formatCachePricingKey address) with
  | .error e => (.error e, pricing)
  | .ok (some text) => (.ok ((p.floats.parse text).getD p.floats.zero), pricing)
  | .ok none =>
    match upstreamPrice p address with
    | .error e => (.error e, pricing)
    | .ok price =>
      let (result, pricing) := setCache access.priceSet pricing (formatCachePricingKey address)
        (p.floats.display price) (now + pricingCacheTtl)
      (result.map fun _ => price, pricing)

/-- `token_metadata_request`. -/
def tokenMetadataRequest (address : String) : Except RpcError (TokenMetaData F) := do
  let response ← p.tokenMeta address
  if !response.isSuccess then
    throw (.fungiblePriceProviderError "Token metadata provider response status is not success")
  else response.json

/-- The address of a token with its chain. -/
def caip10TokenAddress (address : String) : String := solanaMainnetChainId ++ ":" ++ address

/-- `TokenMetadataCache::get_metadata`, whose errors count as nothing found. -/
def getMetadata (access : RedisAccess) (s : SolScanState) (caip10 : String) :
    Option TokenMetadataCacheItem :=
  match getCache access s.metadata s.now (tokenMetadataCacheKey caip10) with
  | .ok item => item
  | .error _ => none

/-- What is cached of the metadata. -/
def cacheItem (metadata : TokenMetaData F) : TokenMetadataCacheItem where
  name := metadata.name.getD metadata.symbol
  symbol := metadata.symbol
  decimals := metadata.decimals
  iconUrl := metadata.icon.getD ""

/-- The native token, whose metadata never change. -/
def nativeInfo (price : F) : TokenMetaData F where
  name := some "Solana"
  symbol := "SOL"
  decimals := 9
  icon := some solanaSolTokenIcon
  price := price

/-- A token as the cache has it, with a price. -/
def cachedInfo (item : TokenMetadataCacheItem) (price : F) : TokenMetaData F where
  name := some item.name
  symbol := item.symbol
  decimals := item.decimals
  icon := some item.iconUrl
  price := price

/-- `get_token_info`, once the price of the native token is there. -/
def tokenInfoAt (access : LookupAccess) (address : String) (price : F) (s : SolScanState) :
    Except RpcError (TokenMetaData F) × SolScanState :=
  if address = solanaNativeTokenAddress then (.ok (nativeInfo price), s)
  else
    match getMetadata access.metadataGet s (caip10TokenAddress address) with
    | some item => (.ok (cachedInfo item price), s)
    | none =>
      match tokenMetadataRequest p address with
      | .error e => (.error e, s)
      | .ok metadata =>
        let task := (caip10TokenAddress address, cacheItem metadata)
        (.ok metadata, { s with spawned := s.spawned ++ [task] })

/-- `get_token_info`. -/
def getTokenInfo (access : LookupAccess) (address : String) (s : SolScanState) :
    Except RpcError (TokenMetaData F) × SolScanState :=
  let request := tokenPriceRequest p access solanaNativeTokenAddress s.now s.pricing
  let s := { s with pricing := request.2 }
  match request.1 with
  | .error e => (.error e, s)
  | .ok price => tokenInfoAt p access address price s

end

/-! ## The history: one lookup for each item of a page -/

/-- `HistoryTransactionMetadata`, without the application, which is never given here. -/
structure HistoryTransactionMetadata where
  operationType : String
  hash : String
  minedAt : String
  sentFrom : String
  sentTo : String
  status : String
  nonce : Nat
  chain : Option String

/-- `HistoryTransactionFungibleInfo`; the icon is its address. -/
structure HistoryTransactionFungibleInfo where
  name : Option String
  symbol : Option String
  icon : Option String

/-- `HistoryTransactionTransfer`, without the NFT, which is never given here. -/
structure HistoryTransactionTransfer (F : Type) where
  fungibleInfo : Option HistoryTransactionFungibleInfo
  direction : String
  /-- `quantity.numeric`. -/
  quantity : String
  value : Option F
  price : Option F

/-- `HistoryTransaction`. -/
structure HistoryTransaction (F : Type) where
  id : String
  metadata : HistoryTransactionMetadata
  transfers : Option (List (HistoryTransactionTransfer F))

/-- `HistoryResponseBody`. -/
structure HistoryResponseBody (F : Type) where
  data : List (HistoryTransaction F)
  next : Option String

/-- The values of the transfers of a transaction. -/
def HistoryTransaction.values {F : Type} (transaction : HistoryTransaction F) :
    Option (List (Option F)) :=
  transaction.transfers.map (·.map (·.value))

/-- The values of the transactions. -/
def HistoryResponseBody.values {F : Type} (response : HistoryResponseBody F) :
    List (Option (List (Option F))) :=
  response.data.map HistoryTransaction.values

/-- The `operation_type` of an activity. -/
def operationType (flow : HistoryDirectionType) : HistoryActivityType → String
  | .transfer => if flow = .in_ then "receive" else "send"
  | .burn => "burn"
  | .mint => "mint"
  | .createAccount => "execute"
  | .closeAccount => "close"

section

variable {F : Type} (p : SolScan F)

/-- One transaction of the history, from what is known about its token. -/
def historyTransaction (item : HistoryResponseItem) (tokenInfo : TokenMetaData F) :
    HistoryTransaction F :=
  let decimalAmount := p.floats.div (p.floats.ofNat item.amount)
    (p.floats.powTen tokenInfo.decimals)
  { id := toString item.blockId
    metadata :=
      { operationType := operationType item.flow item.activityType
        hash := item.transId
        minedAt := item.time
        sentFrom := item.fromAddress
        sentTo := item.toAddress
        status := "confirmed"
        nonce := 0
        chain := some solanaMainnetChainId }
    transfers := some [
      { fungibleInfo := some
          { name := tokenInfo.name
            symbol := some tokenInfo.symbol
            icon := some (tokenInfo.icon.getD "") }
        direction := item.flow.display
        quantity := p.floats.display decimalAmount
        value := some (p.floats.mul decimalAmount tokenInfo.price)
        price := some tokenInfo.price }] }

/-- The loop over the items of a page, with what Redis does at each lookup. -/
def historyTransactions :
    List (HistoryResponseItem × LookupAccess) → SolScanState →
      Except RpcError (List (HistoryTransaction F)) × SolScanState
  | [], s => (.ok [], s)
  | (item, access) :: rest, s =>
    match getTokenInfo p access item.tokenAddress s with
    | (.error e, s) => (.error e, s)
    | (.ok tokenInfo, s) =>
      let (transactions, s) := historyTransactions rest s
      (transactions.map (historyTransaction p item tokenInfo :: ·), s)

/-- The size of a page. -/
def historyPageSize : Nat := 100

/-- The next page, if this one is full. -/
def nextPage (page : String) (items : List HistoryResponseItem) : Option String :=
  if items ≠ [] ∧ items.length = historyPageSize then
    let number := (parseUnsigned (2 ^ 64) page.toList).getD 1
    some (toString ((number + 1) % 2 ^ 64))
  else none

/-- `get_transactions`, up to the loop: the items of a page. -/
def historyPage (address page : String) : Except RpcError (List HistoryResponseItem) := do
  let response ← p.accountHistory address page
  if !response.isSuccess then throw .transactionProviderError
  else response.json

/-- `get_transactions`: the account, the cursor, and what Redis does at the lookup for each item. -/
def getTransactions (access : Nat → LookupAccess) (address : String) (cursor : Option String)
    (s : SolScanState) : Except RpcError (HistoryResponseBody F) × SolScanState :=
  let page := cursor.getD "1"
  match historyPage p address page with
  | .error e => (.error e, s)
  | .ok items =>
    let (transactions, s) := historyTransactions p
      (items.zipIdx.map fun item => (item.1, access item.2)) s
    (transactions.map fun transactions => ⟨transactions, nextPage page items⟩, s)

end

/-! ## The stores over time

Lookups, background tasks and other providers in any order, and time that goes by between them. -/

/-- What can happen to the stores. -/
inductive SolScanAction where
  /-- A lookup of a token. -/
  | tokenInfo (access : LookupAccess) (address : String)
  /-- A lookup of a price alone. -/
  | tokenPrice (access : LookupAccess) (address : String)
  /-- A background task stores its metadata. -/
  | put (i : Nat)
  /-- A background task fails. -/
  | lose (i : Nat)
  /-- Another provider stores what it says of a token. -/
  | other (caip10 : String) (item : TokenMetadataCacheItem)
  | wait (duration : Nat)

section

variable {F : Type} (p : SolScan F) (others : Set (String × TokenMetadataCacheItem))

/-- One step of the stores. -/
def solScanStep (s : SolScanState) : SolScanAction → Option SolScanState
  | .tokenInfo access address => some (getTokenInfo p access address s).2
  | .tokenPrice access address =>
    some { s with pricing := (tokenPriceRequest p access address s.now s.pricing).2 }
  | .put i =>
    (s.spawned[i]?).map fun task =>
      { s with
        metadata := s.metadata.put (tokenMetadataCacheKey task.1) task.2 (s.now + metadataCacheTtl)
        spawned := s.spawned.eraseIdx i }
  | .lose i => (s.spawned[i]?).map fun _ => { s with spawned := s.spawned.eraseIdx i }
  | .other caip10 item =>
    some { s with
      metadata := s.metadata.put (tokenMetadataCacheKey caip10) item (s.now + metadataCacheTtl) }
  | .wait duration => some { s with now := s.now + duration }

/-- The stores as a machine. -/
def solScanMachine : Machine SolScanState SolScanAction := ⟨solScanStep p⟩

/-- The other providers store these items only. -/
def OthersStore (as : List SolScanAction) : Prop :=
  ∀ caip10 item, .other caip10 item ∈ as → (caip10, item) ∈ others

/-- The stores as earlier calls can have left them, with what the other providers store. -/
def SolScanReachable (s : SolScanState) : Prop :=
  ∃ as, OthersStore others as ∧ (solScanMachine p).run .start as = some s

/-! ## What is stored: the invariant of every run -/

/-- A price as upstream says it, under the key of its token. -/
def PriceEntry (key text : String) : Prop :=
  ∃ address price, key = formatCachePricingKey address ∧ upstreamPrice p address = .ok price ∧
    text = p.floats.display price

/-- Metadata as upstream says them, for the token at its chain. -/
def UpstreamItem (caip10 : String) (item : TokenMetadataCacheItem) : Prop :=
  ∃ address metadata, caip10 = caip10TokenAddress address ∧
    tokenMetadataRequest p address = .ok metadata ∧ item = cacheItem metadata

/-- Metadata under the key of their token, as upstream or another provider says them. -/
def MetadataEntry (key : String) (item : TokenMetadataCacheItem) : Prop :=
  ∃ caip10, key = tokenMetadataCacheKey caip10 ∧
    (UpstreamItem p caip10 item ∨ (caip10, item) ∈ others)

/-- **The invariant**: the prices that are stored are what upstream says, and so are the metadata
    that are going to be; those that are stored can also be another provider's. -/
structure Written (s : SolScanState) : Prop where
  pricing : s.pricing.Holds (PriceEntry p)
  metadata : s.metadata.Holds (MetadataEntry p others)
  spawned : ∀ task ∈ s.spawned, UpstreamItem p task.1 task.2

/-- The same time, and the same prices stored. -/
structure SamePrices (s s' : SolScanState) : Prop where
  now : s.now = s'.now
  pricing : s.pricing = s'.pricing

end

section

variable {F : Type} {p : SolScan F} {others : Set (String × TokenMetadataCacheItem)}
  {access : LookupAccess} {address : String} {s s' : SolScanState}

theorem formatCachePricingKey_injective {address address' : String}
    (h : formatCachePricingKey address = formatCachePricingKey address') : address = address' :=
  (String.append_right_inj _).mp h

theorem tokenMetadataCacheKey_injective {caip10 caip10' : String}
    (h : tokenMetadataCacheKey caip10 = tokenMetadataCacheKey caip10') : caip10 = caip10' :=
  (String.append_right_inj _).mp h

theorem caip10TokenAddress_injective {address address' : String}
    (h : caip10TokenAddress address = caip10TokenAddress address') : address = address' :=
  (String.append_right_inj _).mp h

theorem getCache_holds {V : Type} {P : String → V → Prop} {redis : RedisAccess}
    {store : Expiring.Store String V} {now : Nat} {key : String} {value : V}
    (hstore : store.Holds P)
    (h : getCache redis store now key = .ok (some value)) : P key value := by
  cases redis with
  | absent => cases h
  | up => exact hstore.find (Except.ok.inj h)
  | poolError e => cases h
  | commandError e applied => cases h

theorem setCache_holds {V : Type} {P : String → V → Prop} {store : Expiring.Store String V}
    {key : String} {value : V} (redis : RedisAccess) (expires : Nat) (hstore : store.Holds P)
    (hvalue : P key value) : (setCache redis store key value expires).2.Holds P := by
  cases redis with
  | absent => exact hstore
  | up => exact hstore.put hvalue
  | poolError e => exact hstore
  | commandError e applied =>
    cases applied with
    | false => exact hstore
    | true => exact hstore.put hvalue

theorem written_start : Written p others .start :=
  ⟨Expiring.Store.holds_empty, Expiring.Store.holds_empty, fun _ h => (by cases h)⟩

theorem Written.withoutMetadata (hs : Written p others s) : Written p others s.withoutMetadata :=
  ⟨hs.pricing, Expiring.Store.holds_empty, hs.spawned⟩

/-! ### Prices -/

/-- **A price is the one upstream says**, cached or not. -/
theorem tokenPriceRequest_ok {now : Nat} {pricing : Expiring.Store String String} {price : F}
    (hpricing : pricing.Holds (PriceEntry p))
    (h : (tokenPriceRequest p access address now pricing).1 = .ok price) :
    upstreamPrice p address = .ok price := by
  rw [tokenPriceRequest] at h
  split at h
  · cases h
  · rename_i text hget
    obtain ⟨address', price', hkey, hprice, rfl⟩ := getCache_holds hpricing hget
    rw [p.floats.parse_display] at h
    cases h
    rw [formatCachePricingKey_injective hkey]
    exact hprice
  · split at h
    · cases h
    · rename_i price' hprice
      -- an error of Redis at this point is an error of the request
      dsimp only at h
      cases hset : (setCache access.priceSet pricing (formatCachePricingKey address)
          (p.floats.display price') (now + pricingCacheTtl)).1 with
      | error e =>
        rw [hset] at h
        cases h
      | ok u =>
        rw [hset] at h
        cases h
        exact hprice

/-- What is stored stays right. -/
theorem tokenPriceRequest_pricing {now : Nat} {pricing : Expiring.Store String String}
    (hpricing : pricing.Holds (PriceEntry p)) :
    (tokenPriceRequest p access address now pricing).2.Holds (PriceEntry p) := by
  rw [tokenPriceRequest]
  split
  · exact hpricing
  · exact hpricing
  · split
    · exact hpricing
    · rename_i price hprice
      exact setCache_holds _ _ hpricing ⟨address, price, rfl, hprice, rfl⟩

/-! ### Metadata -/

/-- Metadata from the cache are those upstream says, or those another provider says. -/
theorem getMetadata_ok {redis : RedisAccess} {item : TokenMetadataCacheItem}
    (hs : Written p others s)
    (h : getMetadata redis s (caip10TokenAddress address) = some item) :
    (∃ metadata, tokenMetadataRequest p address = .ok metadata ∧ item = cacheItem metadata) ∨
      (caip10TokenAddress address, item) ∈ others := by
  rw [getMetadata] at h
  split at h
  · rename_i found hget
    rw [h] at hget
    obtain ⟨caip10, hkey, hentry⟩ := getCache_holds hs.metadata hget
    rw [tokenMetadataCacheKey_injective hkey]
    refine hentry.imp_left ?_
    rintro ⟨address', metadata, rfl, hmetadata, hitem⟩
    rw [caip10TokenAddress_injective (tokenMetadataCacheKey_injective hkey)]
    exact ⟨metadata, hmetadata, hitem⟩
  · cases h

/-- **What a lookup can do**, once it has the price of the native token. -/
theorem tokenInfoAt_cases (p : SolScan F) (access : LookupAccess) (address : String) (price : F)
    (s : SolScanState) :
    (address = solanaNativeTokenAddress ∧
      tokenInfoAt p access address price s = (.ok (nativeInfo price), s)) ∨
    (address ≠ solanaNativeTokenAddress ∧ ∃ item,
      getMetadata access.metadataGet s (caip10TokenAddress address) = some item ∧
        tokenInfoAt p access address price s = (.ok (cachedInfo item price), s)) ∨
    (address ≠ solanaNativeTokenAddress ∧ ∃ e, tokenMetadataRequest p address = .error e ∧
      tokenInfoAt p access address price s = (.error e, s)) ∨
    (address ≠ solanaNativeTokenAddress ∧ ∃ metadata,
      tokenMetadataRequest p address = .ok metadata ∧
        tokenInfoAt p access address price s = (.ok metadata, { s with
          spawned := s.spawned ++ [(caip10TokenAddress address, cacheItem metadata)] })) := by
  rw [tokenInfoAt]
  by_cases hnative : address = solanaNativeTokenAddress
  · exact .inl ⟨hnative, if_pos hnative⟩
  · rw [if_neg hnative]
    cases hget : getMetadata access.metadataGet s (caip10TokenAddress address) with
    | some item => exact .inr (.inl ⟨hnative, item, rfl, rfl⟩)
    | none =>
      cases hrequest : tokenMetadataRequest p address with
      | error e => exact .inr (.inr (.inl ⟨hnative, e, rfl, rfl⟩))
      | ok metadata => exact .inr (.inr (.inr ⟨hnative, metadata, rfl, rfl⟩))

/-- A lookup leaves the stores as they are, and spawns at most one task, with the metadata that
    upstream says. -/
theorem tokenInfoAt_state (p : SolScan F) (access : LookupAccess) (address : String) (price : F)
    (s : SolScanState) :
    ∃ tasks, (tokenInfoAt p access address price s).2 = { s with spawned := s.spawned ++ tasks } ∧
      ∀ task ∈ tasks, UpstreamItem p task.1 task.2 := by
  have hnone : s = { s with spawned := s.spawned ++ [] } := by rw [List.append_nil]
  obtain ⟨-, hat⟩ | ⟨-, item, -, hat⟩ | ⟨-, e, -, hat⟩ | ⟨-, metadata, hmetadata, hat⟩ :=
    tokenInfoAt_cases p access address price s
  · exact ⟨[], (congrArg Prod.snd hat).trans hnone, List.forall_mem_nil _⟩
  · exact ⟨[], (congrArg Prod.snd hat).trans hnone, List.forall_mem_nil _⟩
  · exact ⟨[], (congrArg Prod.snd hat).trans hnone, List.forall_mem_nil _⟩
  · exact ⟨[(caip10TokenAddress address, cacheItem metadata)], congrArg Prod.snd hat,
      List.forall_mem_singleton.mpr ⟨address, metadata, rfl, hmetadata, rfl⟩⟩

theorem tokenInfoAt_written {price : F} (hs : Written p others s) :
    Written p others (tokenInfoAt p access address price s).2 := by
  obtain ⟨tasks, hstate, htasks⟩ := tokenInfoAt_state p access address price s
  rw [hstate]
  exact ⟨hs.pricing, hs.metadata, List.forall_mem_append.mpr ⟨hs.spawned, htasks⟩⟩

theorem tokenInfoAt_samePrices {price : F} :
    SamePrices s (tokenInfoAt p access address price s).2 := by
  obtain ⟨tasks, hstate, -⟩ := tokenInfoAt_state p access address price s
  rw [hstate]
  exact ⟨rfl, rfl⟩

/-- The stores after the request for the price of the native token. -/
def afterPrice (p : SolScan F) (access : LookupAccess) (s : SolScanState) : SolScanState :=
  { s with
    pricing := (tokenPriceRequest p access solanaNativeTokenAddress s.now s.pricing).2 }

theorem Written.afterPrice (hs : Written p others s) : Written p others (afterPrice p access s) :=
  ⟨tokenPriceRequest_pricing hs.pricing, hs.metadata, hs.spawned⟩

theorem SamePrices.afterPrice (h : SamePrices s s') :
    SamePrices (afterPrice p access s) (afterPrice p access s') :=
  ⟨h.now, by rw [BlockchainApi.afterPrice, BlockchainApi.afterPrice, h.now, h.pricing]⟩

/-- **A lookup** ends with an error about the price, or goes on with a price that upstream says. -/
theorem getTokenInfo_cases (p : SolScan F) (access : LookupAccess) (address : String)
    (s : SolScanState) :
    (∃ e, (tokenPriceRequest p access solanaNativeTokenAddress s.now s.pricing).1 = .error e ∧
      getTokenInfo p access address s = (.error e, afterPrice p access s)) ∨
    (∃ price,
      (tokenPriceRequest p access solanaNativeTokenAddress s.now s.pricing).1 = .ok price ∧
      getTokenInfo p access address s =
        tokenInfoAt p access address price (afterPrice p access s)) := by
  rw [getTokenInfo]
  cases h : (tokenPriceRequest p access solanaNativeTokenAddress s.now s.pricing).1 with
  | error e => exact .inl ⟨e, rfl, rfl⟩
  | ok price => exact .inr ⟨price, rfl, rfl⟩

theorem getTokenInfo_written (hs : Written p others s) :
    Written p others (getTokenInfo p access address s).2 := by
  obtain ⟨e, -, hinfo⟩ | ⟨price, -, hinfo⟩ := getTokenInfo_cases p access address s
  · rw [hinfo]
    exact hs.afterPrice
  · rw [hinfo]
    exact tokenInfoAt_written hs.afterPrice

/-- **Each step keeps the invariant**, if the other providers store nothing else. -/
theorem written_step {a : SolScanAction} (hs : Written p others s)
    (hother : ∀ caip10 item, a = .other caip10 item → (caip10, item) ∈ others)
    (h : (solScanMachine p).step s a = some s') : Written p others s' := by
  cases a with
  | tokenInfo access address =>
    cases h
    exact getTokenInfo_written hs
  | tokenPrice access address =>
    cases h
    exact ⟨tokenPriceRequest_pricing hs.pricing, hs.metadata, hs.spawned⟩
  | put i =>
    obtain ⟨task, htask, rfl⟩ := Option.map_eq_some_iff.mp h
    constructor
    · exact hs.pricing
    · exact hs.metadata.put
        ⟨task.1, rfl, .inl (hs.spawned task (List.mem_of_getElem? htask))⟩
    · exact fun left hleft => hs.spawned left (List.mem_of_mem_eraseIdx hleft)
  | lose i =>
    obtain ⟨task, -, rfl⟩ := Option.map_eq_some_iff.mp h
    exact ⟨hs.pricing, hs.metadata,
      fun left hleft => hs.spawned left (List.mem_of_mem_eraseIdx hleft)⟩
  | other caip10 item =>
    cases h
    exact ⟨hs.pricing, hs.metadata.put ⟨caip10, rfl, .inr (hother caip10 item rfl)⟩, hs.spawned⟩
  | wait duration =>
    cases h
    exact ⟨hs.pricing, hs.metadata, hs.spawned⟩

/-- The invariant holds after every run, by induction on the steps. -/
theorem written_run {as : List SolScanAction} (hothers : OthersStore others as)
    (hs : Written p others s) (hrun : (solScanMachine p).run s as = some s') :
    Written p others s' := by
  induction as generalizing s with
  | nil =>
    cases hrun
    exact hs
  | cons a as ih =>
    obtain ⟨s₁, hstep, hrest⟩ := Machine.run_cons.mp hrun
    have hs₁ : Written p others s₁ := by
      refine written_step hs ?_ hstep
      rintro caip10 item rfl
      exact hothers caip10 item List.mem_cons_self
    exact ih (fun caip10 item hmem => hothers caip10 item (List.mem_cons_of_mem _ hmem)) hs₁ hrest

/-- **Whatever earlier calls left, it is what upstream or another provider says.** -/
theorem SolScanReachable.written (h : SolScanReachable p others s) : Written p others s := by
  obtain ⟨as, hothers, hrun⟩ := h
  exact written_run hothers written_start hrun

/-! ## With metadata stored and without: where the two lookups part -/

/-- Symbol, decimals and price of a token. -/
def TokenMetaData.facts (info : TokenMetaData F) : String × UInt8 × F :=
  (info.symbol, info.decimals, info.price)

/-- The token costs as much as the native token, if upstream knows both. -/
def PricedAsNative (p : SolScan F) (address : String) : Prop :=
  ∀ price metadata, upstreamPrice p solanaNativeTokenAddress = .ok price →
    tokenMetadataRequest p address = .ok metadata → metadata.price = price

/-- What the other providers say of the token is what SolScan says, if the native token has a price
    upstream: without one, every lookup fails before it comes to the metadata. -/
def DescribedAsUpstream (p : SolScan F) (others : Set (String × TokenMetadataCacheItem))
    (address : String) : Prop :=
  ∀ price item, upstreamPrice p solanaNativeTokenAddress = .ok price →
    (caip10TokenAddress address, item) ∈ others →
      ∃ metadata, tokenMetadataRequest p address = .ok metadata ∧
        item.symbol = metadata.symbol ∧ item.decimals = metadata.decimals

/-- A lookup with the price of the native token, when no metadata are stored. -/
def coldInfo (p : SolScan F) (address : String) (price : F) : Except RpcError (TokenMetaData F) :=
  if address = solanaNativeTokenAddress then .ok (nativeInfo price)
  else tokenMetadataRequest p address

/-- **A lookup gives the facts of the upstream answer**, if the price is right for the token. -/
theorem tokenInfoAt_facts {price : F} (hs : Written p others s)
    (hprice : ∀ metadata, address ≠ solanaNativeTokenAddress →
      tokenMetadataRequest p address = .ok metadata → metadata.price = price)
    (hothers : ∀ item, address ≠ solanaNativeTokenAddress →
      (caip10TokenAddress address, item) ∈ others →
        ∃ metadata, tokenMetadataRequest p address = .ok metadata ∧
          item.symbol = metadata.symbol ∧ item.decimals = metadata.decimals) :
    (tokenInfoAt p access address price s).1.map TokenMetaData.facts =
      (coldInfo p address price).map TokenMetaData.facts := by
  obtain ⟨hnative, hat⟩ | ⟨hne, item, hget, hat⟩ | ⟨hne, e, hrequest, hat⟩ |
    ⟨hne, metadata, hrequest, hat⟩ := tokenInfoAt_cases p access address price s
  · rw [hat, coldInfo, if_pos hnative]
  · -- from the cache: symbol and decimals are upstream's, the price is the given one
    have hitem : ∃ metadata, tokenMetadataRequest p address = .ok metadata ∧
        item.symbol = metadata.symbol ∧ item.decimals = metadata.decimals := by
      rcases getMetadata_ok hs hget with ⟨metadata, hrequest, rfl⟩ | hstored
      · exact ⟨metadata, hrequest, rfl, rfl⟩
      · exact hothers item hne hstored
    obtain ⟨metadata, hrequest, hsymbol, hdecimals⟩ := hitem
    rw [hat, coldInfo, if_neg hne, hrequest, ← hprice metadata hne hrequest]
    show Except.ok (item.symbol, item.decimals, metadata.price) = .ok metadata.facts
    rw [hsymbol, hdecimals]
    rfl
  · rw [hat, coldInfo, if_neg hne, hrequest]
  · rw [hat, coldInfo, if_neg hne, hrequest]

/-- The tokens for which a lookup is right either way. -/
def CacheFits (p : SolScan F) (others : Set (String × TokenMetadataCacheItem))
    (address : String) : Prop :=
  address = solanaNativeTokenAddress ∨
    PricedAsNative p address ∧ DescribedAsUpstream p others address

/-- What a lookup answers about a token, from the price of the native token alone. -/
theorem getTokenInfo_facts (hs : Written p others s) (hfits : CacheFits p others address) :
    (getTokenInfo p access address s).1.map TokenMetaData.facts =
      (tokenPriceRequest p access solanaNativeTokenAddress s.now s.pricing).1.bind fun price =>
        (coldInfo p address price).map TokenMetaData.facts := by
  obtain ⟨e, hrequest, hinfo⟩ | ⟨price, hrequest, hinfo⟩ := getTokenInfo_cases p access address s
  · rw [hinfo, hrequest]
    rfl
  · have hnative : upstreamPrice p solanaNativeTokenAddress = .ok price :=
      tokenPriceRequest_ok hs.pricing hrequest
    rw [hinfo, hrequest]
    refine tokenInfoAt_facts hs.afterPrice (fun metadata hne hmetadata => ?_)
      fun item hne hstored => ?_
    · exact (hfits.resolve_left hne).1 price metadata hnative hmetadata
    · exact (hfits.resolve_left hne).2 price item hnative hstored

/-- **Two lookups with the same prices stored agree** on the facts, whatever metadata are stored. -/
theorem getTokenInfo_agree (hs : Written p others s) (hs' : Written p others s')
    (h : SamePrices s s') (hfits : CacheFits p others address) :
    (getTokenInfo p access address s).1.map TokenMetaData.facts =
      (getTokenInfo p access address s').1.map TokenMetaData.facts := by
  rw [getTokenInfo_facts hs hfits, getTokenInfo_facts hs' hfits, h.now, h.pricing]

/-- A lookup leaves the same prices stored, whatever metadata are. -/
theorem getTokenInfo_samePrices (h : SamePrices s s') :
    SamePrices (getTokenInfo p access address s).2 (getTokenInfo p access address s').2 := by
  -- what a lookup does after the request leaves time and prices as they are
  have hafter : ∀ t : SolScanState,
      SamePrices (afterPrice p access t) (getTokenInfo p access address t).2 := by
    intro t
    obtain ⟨e, -, hinfo⟩ | ⟨price, -, hinfo⟩ := getTokenInfo_cases p access address t
    · rw [hinfo]
      exact ⟨rfl, rfl⟩
    · rw [hinfo]
      exact tokenInfoAt_samePrices
  have hprices : SamePrices (afterPrice p access s) (afterPrice p access s') := h.afterPrice
  exact ⟨(hafter s).now.symm.trans (hprices.now.trans (hafter s').now),
    (hafter s).pricing.symm.trans (hprices.pricing.trans (hafter s').pricing)⟩

/-- The values of a transaction come from the facts of its token. -/
theorem historyTransaction_values {item : HistoryResponseItem} {info info' : TokenMetaData F}
    (h : info.facts = info'.facts) :
    (historyTransaction p item info).values = (historyTransaction p item info').values := by
  obtain ⟨-, hrest⟩ := Prod.mk.inj h
  obtain ⟨hdecimals, hprice⟩ := Prod.mk.inj hrest
  simp only [HistoryTransaction.values, historyTransaction, Option.map_some, List.map_cons,
    List.map_nil, hdecimals, hprice]

/-- The values of a list with one more transaction in front. -/
theorem map_values_cons (transaction : HistoryTransaction F)
    (rest : Except RpcError (List (HistoryTransaction F))) :
    (rest.map (transaction :: ·)).map (List.map HistoryTransaction.values) =
      (rest.map (List.map HistoryTransaction.values)).map (transaction.values :: ·) := by
  cases rest with
  | error e => rfl
  | ok transactions => rfl

/-- **The loop over a page** gives the same values, by induction on the page: the stores differ in
    the metadata alone from item to item. -/
theorem historyTransactions_agree (items : List (HistoryResponseItem × LookupAccess))
    (hs : Written p others s) (hs' : Written p others s') (h : SamePrices s s')
    (hfits : ∀ item ∈ items, CacheFits p others item.1.tokenAddress) :
    (historyTransactions p items s).1.map (List.map HistoryTransaction.values) =
      (historyTransactions p items s').1.map (List.map HistoryTransaction.values) := by
  induction items generalizing s s' with
  | nil => rfl
  | cons item rest ih =>
    obtain ⟨item, access⟩ := item
    obtain ⟨hitem, hrest⟩ := List.forall_mem_cons.mp hfits
    have hagree : (getTokenInfo p access item.tokenAddress s).1.map TokenMetaData.facts =
        (getTokenInfo p access item.tokenAddress s').1.map TokenMetaData.facts :=
      getTokenInfo_agree hs hs' h hitem
    have hw : Written p others (getTokenInfo p access item.tokenAddress s).2 :=
      getTokenInfo_written hs
    have hih := ih hw (getTokenInfo_written hs') (getTokenInfo_samePrices h) hrest
    rw [historyTransactions, historyTransactions]
    rcases hl : getTokenInfo p access item.tokenAddress s with ⟨result, t⟩
    rcases hr : getTokenInfo p access item.tokenAddress s' with ⟨result', t'⟩
    rw [hl, hr] at hagree hih
    -- both lookups fail, or both return the same facts
    cases result with
    | error e =>
      cases result' with
      | error e' => exact congrArg Except.error (Except.error.inj hagree)
      | ok info' => cases hagree
    | ok info =>
      cases result' with
      | error e' => cases hagree
      | ok info' =>
        have hvalues : (historyTransaction p item info).values =
            (historyTransaction p item info').values :=
          historyTransaction_values (Except.ok.inj hagree)
        dsimp only at hih ⊢
        rw [map_values_cons, map_values_cons, hih, hvalues]

/-- The values of a page are those of its transactions. -/
theorem map_body_values (transactions : Except RpcError (List (HistoryTransaction F)))
    (next : Option String) :
    (transactions.map fun data => (⟨data, next⟩ : HistoryResponseBody F)).map
        HistoryResponseBody.values =
      transactions.map (List.map HistoryTransaction.values) := by
  cases transactions with
  | error e => rfl
  | ok data => rfl

/-- **A page of the history** has the same values, whatever metadata are stored. -/
theorem getTransactions_agree {access : Nat → LookupAccess} {wallet : String}
    {cursor : Option String} (hs : Written p others s) (hs' : Written p others s')
    (h : SamePrices s s') (hfits : ∀ items, historyPage p wallet (cursor.getD "1") = .ok items →
      ∀ item ∈ items, CacheFits p others item.tokenAddress) :
    (getTransactions p access wallet cursor s).1.map HistoryResponseBody.values =
      (getTransactions p access wallet cursor s').1.map HistoryResponseBody.values := by
  unfold getTransactions
  dsimp only
  cases hitems : historyPage p wallet (cursor.getD "1") with
  | error e => rfl
  | ok items =>
    have hagree := historyTransactions_agree
      (items.zipIdx.map fun item => (item.1, access item.2)) hs hs' h (by
        intro item hitem
        obtain ⟨indexed, hindexed, rfl⟩ := List.mem_map.mp hitem
        exact hfits items hitems _ (List.fst_mem_of_mem_zipIdx hindexed))
    dsimp only
    rw [map_body_values, map_body_values, hagree]

/-! ## Which tokens the cache is right for

A lookup from the cache has the price of the native token and whatever was stored about the
token; a lookup from upstream has neither. -/

/-- Lookups of these tokens do not depend on what metadata earlier calls, of SolScan or of the other
    providers, left in the cache. -/
structure LookupsAgree (p : SolScan F) (others : Set (String × TokenMetadataCacheItem))
    (tokens : Set String) : Prop where
  /-- The same symbol, decimals and price, or the same error. -/
  facts : ∀ s, SolScanReachable p others s → ∀ access, ∀ address ∈ tokens,
    address ≠ solanaNativeTokenAddress →
      (getTokenInfo p access address s).1.map TokenMetaData.facts =
        (getTokenInfo p access address s.withoutMetadata).1.map TokenMetaData.facts
  /-- The price is the price of the token. -/
  price : ∀ s, SolScanReachable p others s → ∀ access, ∀ address ∈ tokens,
    address ≠ solanaNativeTokenAddress → ∀ info, (getTokenInfo p access address s).1 = .ok info →
      ∃ metadata, tokenMetadataRequest p address = .ok metadata ∧ info.price = metadata.price
  /-- So do pages of the history that have these tokens, and the native one. -/
  history : ∀ s, SolScanReachable p others s → ∀ access wallet cursor,
    (∀ items, historyPage p wallet (cursor.getD "1") = .ok items → ∀ item ∈ items,
      item.tokenAddress = solanaNativeTokenAddress ∨ item.tokenAddress ∈ tokens) →
      (getTransactions p access wallet cursor s).1.map HistoryResponseBody.values =
        (getTransactions p access wallet cursor s.withoutMetadata).1.map HistoryResponseBody.values

/-- A lookup of a token that the cache is right for gives the price of the token. -/
theorem getTokenInfo_price {info : TokenMetaData F} (hs : Written p others s)
    (hne : address ≠ solanaNativeTokenAddress)
    (hfits : PricedAsNative p address ∧ DescribedAsUpstream p others address)
    (h : (getTokenInfo p access address s).1 = .ok info) :
    ∃ metadata, tokenMetadataRequest p address = .ok metadata ∧ info.price = metadata.price := by
  have hfacts : (getTokenInfo p access address s).1.map TokenMetaData.facts = _ :=
    getTokenInfo_facts hs (.inr hfits)
  rw [h] at hfacts
  cases hrequest : (tokenPriceRequest p access solanaNativeTokenAddress s.now s.pricing).1 with
  | error e =>
    rw [hrequest] at hfacts
    cases hfacts
  | ok price =>
    rw [hrequest] at hfacts
    change Except.ok info.facts = (coldInfo p address price).map TokenMetaData.facts at hfacts
    rw [coldInfo, if_neg hne] at hfacts
    cases hmetadata : tokenMetadataRequest p address with
    | error e =>
      rw [hmetadata] at hfacts
      cases hfacts
    | ok metadata =>
      rw [hmetadata] at hfacts
      exact ⟨metadata, rfl, (Prod.mk.inj (Prod.mk.inj (Except.ok.inj hfacts)).2).2⟩

/-- With nothing stored, both are asked for upstream. -/
theorem tokenPriceRequest_empty {price : F} (hprice : upstreamPrice p address = .ok price) :
    tokenPriceRequest p .up address 0 Expiring.Store.empty = (.ok price, Expiring.Store.empty.put
      (formatCachePricingKey address) (p.floats.display price) (0 + pricingCacheTtl)) := by
  simp only [tokenPriceRequest, getCache, LookupAccess.up, Expiring.Store.find_empty, hprice,
    setCache, Except.map]

theorem tokenInfoAt_upstream {price : F} {metadata : TokenMetaData F}
    (hne : address ≠ solanaNativeTokenAddress)
    (hget : getMetadata access.metadataGet s (caip10TokenAddress address) = none)
    (hmetadata : tokenMetadataRequest p address = .ok metadata) :
    tokenInfoAt p access address price s = (.ok metadata,
      { s with spawned := s.spawned ++ [(caip10TokenAddress address, cacheItem metadata)] }) := by
  rw [tokenInfoAt, if_neg hne, hget, hmetadata]

theorem tokenInfoAt_cached {price : F} {item : TokenMetadataCacheItem}
    (hne : address ≠ solanaNativeTokenAddress)
    (hget : getMetadata access.metadataGet s (caip10TokenAddress address) = some item) :
    tokenInfoAt p access address price s = (.ok (cachedInfo item price), s) := by
  rw [tokenInfoAt, if_neg hne, hget]

/-- **The second lookup of a token** answers with the price of the native token. -/
theorem second_lookup {price : F} {metadata : TokenMetaData F}
    (hne : address ≠ solanaNativeTokenAddress)
    (hprice : upstreamPrice p solanaNativeTokenAddress = .ok price)
    (hmetadata : tokenMetadataRequest p address = .ok metadata) :
    ∃ s, SolScanReachable p others s ∧
      (getTokenInfo p .up address s).1 = .ok (cachedInfo (cacheItem metadata) price) := by
  let key := tokenMetadataCacheKey (caip10TokenAddress address)
  let pricing : Expiring.Store String String := Expiring.Store.empty.put
    (formatCachePricingKey solanaNativeTokenAddress) (p.floats.display price) (0 + pricingCacheTtl)
  let task := (caip10TokenAddress address, cacheItem metadata)
  let looked : SolScanState := ⟨0, pricing, .empty, [task]⟩
  let stored : SolScanState :=
    ⟨0, pricing, Expiring.Store.empty.put key task.2 (0 + metadataCacheTtl), []⟩
  have hempty := tokenPriceRequest_empty hprice
  -- the first lookup asks upstream for both, and spawns the task
  have hfirst : (getTokenInfo p .up address .start).2 = looked := by
    obtain ⟨e, herror, -⟩ | ⟨price', hprice', hinfo⟩ := getTokenInfo_cases p .up address .start
    · cases (congrArg Prod.fst hempty).symm.trans herror
    · have hafter : afterPrice p .up .start = ⟨0, pricing, .empty, []⟩ :=
        congrArg (fun request : Except RpcError F × Expiring.Store String String =>
          SolScanState.mk 0 request.2 .empty []) hempty
      rw [hinfo, hafter, tokenInfoAt_upstream hne rfl hmetadata]
      rfl
  have hrun : (solScanMachine p).run .start [.tokenInfo .up address, .put 0] = some stored :=
    Machine.run_cons.mpr ⟨looked, congrArg some hfirst, rfl⟩
  have hothers : OthersStore others [.tokenInfo .up address, .put 0] := by
    intro caip10 item hmem
    simp only [List.mem_cons, reduceCtorEq, List.not_mem_nil, or_false] at hmem
  refine ⟨stored, ⟨_, hothers, hrun⟩, ?_⟩
  -- the second one finds both
  have hpricing : pricing.find 0 (formatCachePricingKey solanaNativeTokenAddress) =
      some (p.floats.display price) := Expiring.Store.find_put_self (by decide)
  have hitem : stored.metadata.find 0 key = some task.2 := Expiring.Store.find_put_self (by decide)
  have hget : getMetadata LookupAccess.up.metadataGet (afterPrice p .up stored)
      (caip10TokenAddress address) = some task.2 := hitem
  have hrequest : (tokenPriceRequest p .up solanaNativeTokenAddress 0 pricing).1 = .ok price := by
    simp only [tokenPriceRequest, getCache, LookupAccess.up, hpricing, p.floats.parse_display,
      Option.getD_some]
  obtain ⟨e, herror, -⟩ | ⟨price', hprice', hinfo⟩ := getTokenInfo_cases p .up address stored
  · cases hrequest.symm.trans herror
  · cases hrequest.symm.trans hprice'
    rw [hinfo, tokenInfoAt_cached hne hget]

/-- **A lookup after another provider** says what that provider says of the token. -/
theorem lookup_after_other {price : F} {item : TokenMetadataCacheItem}
    (hne : address ≠ solanaNativeTokenAddress)
    (hprice : upstreamPrice p solanaNativeTokenAddress = .ok price)
    (hitem : (caip10TokenAddress address, item) ∈ others) :
    ∃ s, SolScanReachable p others s ∧
      (getTokenInfo p .up address s).1 = .ok (cachedInfo item price) ∧
      (getTokenInfo p .up address s.withoutMetadata).1 = tokenMetadataRequest p address := by
  let key := tokenMetadataCacheKey (caip10TokenAddress address)
  let stored : SolScanState :=
    ⟨0, .empty, Expiring.Store.empty.put key item (0 + metadataCacheTtl), []⟩
  -- one step of another provider is a run of the stores
  have hothers : OthersStore others [.other (caip10TokenAddress address) item] := by
    intro caip10 item' hmem
    cases List.mem_singleton.mp hmem
    exact hitem
  refine ⟨stored, ⟨_, hothers, rfl⟩, ?_⟩
  have hrequest : tokenPriceRequest p .up solanaNativeTokenAddress 0 .empty =
      (.ok price, (afterPrice p .up stored).pricing) := by
    rw [tokenPriceRequest_empty hprice]
    exact congrArg (Prod.mk _) (congrArg Prod.snd (tokenPriceRequest_empty hprice)).symm
  have hget : getMetadata LookupAccess.up.metadataGet (afterPrice p .up stored)
      (caip10TokenAddress address) = some item := by
    show Expiring.Store.find _ 0 key = some item
    exact Expiring.Store.find_put_self (by decide)
  constructor
  · -- with the item stored, the lookup answers from it
    obtain ⟨e, herror, -⟩ | ⟨price', hprice', hinfo⟩ := getTokenInfo_cases p .up address stored
    · cases (congrArg Prod.fst hrequest).symm.trans herror
    · cases (congrArg Prod.fst hrequest).symm.trans hprice'
      rw [hinfo, tokenInfoAt_cached hne hget]
  · -- without it, upstream is asked
    obtain ⟨e, herror, -⟩ | ⟨price', hprice', hinfo⟩ :=
      getTokenInfo_cases p .up address stored.withoutMetadata
    · cases (congrArg Prod.fst hrequest).symm.trans herror
    · have hnone : getMetadata LookupAccess.up.metadataGet
          (afterPrice p .up stored.withoutMetadata) (caip10TokenAddress address) = none := rfl
      rw [hinfo]
      cases hmetadata : tokenMetadataRequest p address with
      | error e => rw [tokenInfoAt, if_neg hne, hnone, hmetadata]
      | ok metadata => rw [tokenInfoAt_upstream hne hnone hmetadata]

/-- **Which tokens the cache is right for.**  Lookups of tokens, and the values in the history, are
    the same with metadata in the cache and without, and have the price of the token, exactly if
    each of the tokens costs as much as the native token, and what the other providers store about
    it is what SolScan says. -/
theorem lookups_agree_iff (p : SolScan F) (others : Set (String × TokenMetadataCacheItem))
    (tokens : Set String) :
    LookupsAgree p others tokens ↔
      ∀ address ∈ tokens, address ≠ solanaNativeTokenAddress →
        PricedAsNative p address ∧ DescribedAsUpstream p others address := by
  constructor
  · intro h address haddress hne
    constructor
    · intro price metadata hprice hmetadata
      obtain ⟨s, hs, hinfo⟩ := second_lookup hne hprice hmetadata
      obtain ⟨metadata', hmetadata', heq⟩ := h.price s hs .up address haddress hne _ hinfo
      cases hmetadata.symm.trans hmetadata'
      exact heq.symm
    · intro price item hprice hitem
      obtain ⟨s, hs, hwarm, hcold⟩ := lookup_after_other hne hprice hitem
      have hfacts := h.facts s hs .up address haddress hne
      rw [hwarm, hcold] at hfacts
      -- the warm lookup returns, so the cold one does, with the same symbol and decimals
      cases hmetadata : tokenMetadataRequest p address with
      | error e =>
        rw [hmetadata] at hfacts
        cases hfacts
      | ok metadata =>
        rw [hmetadata] at hfacts
        obtain ⟨hsymbol, hrest⟩ := Prod.mk.inj (Except.ok.inj hfacts)
        exact ⟨metadata, rfl, hsymbol, (Prod.mk.inj hrest).1⟩
  · intro h
    constructor
    · intro s hs access address haddress hne
      exact getTokenInfo_agree hs.written hs.written.withoutMetadata ⟨rfl, rfl⟩
        (.inr (h address haddress hne))
    · intro s hs access address haddress hne info hinfo
      exact getTokenInfo_price hs.written hne (h address haddress hne) hinfo
    · intro s hs access wallet cursor hpage
      refine getTransactions_agree hs.written hs.written.withoutMetadata ⟨rfl, rfl⟩ ?_
      intro items hitems item hitem
      by_cases hnative : item.tokenAddress = solanaNativeTokenAddress
      · exact .inl hnative
      · have htoken := (hpage items hitems item hitem).resolve_left hnative
        exact .inr (h item.tokenAddress htoken hnative)

end

/-! ## Tokens that the cache is wrong for: by price, and by what another provider stored -/

/-- Whole numbers of dollars. -/
def demoFloats : Floats UInt64 where
  zero := 0
  ofNat := UInt64.ofNat
  powTen decimals := UInt64.ofNat (10 ^ decimals.toNat)
  div := (· / ·)
  mul := (· * ·)
  display x := toString x.toNat
  parse text := (parseUnsigned (2 ^ 64) text.toList).map UInt64.ofNat
  parse_display x := by
    rw [parseUnsigned_toString x.toNat_lt, Option.map_some, UInt64.ofNat_toNat]

/-- The address of a stablecoin. -/
def demoUsdc : String := "EPjFWdd5AufqSSqeM2qN1xzybapC8G4wEGGkZwyTDt1v"

/-- The native token at 150 dollars, and the stablecoin at one. -/
def demoSolScan : SolScan UInt64 where
  floats := demoFloats
  tokenPrice address :=
    .ok ⟨200, .ok [if address = solanaNativeTokenAddress then 150 else 1]⟩
  tokenMeta _ := .ok ⟨200, .ok
    { name := some "USD Coin"
      symbol := "USDC"
      decimals := 6
      icon := none
      price := 1 }⟩
  accountHistory _ _ := .ok ⟨200, .ok []⟩

/-- The same, with the native token at one dollar, too. -/
def demoParity : SolScan UInt64 :=
  { demoSolScan with tokenPrice := fun _ => .ok ⟨200, .ok [1]⟩ }

/-- What another provider says of the stablecoin, with other decimals. -/
def demoRedescribed : Set (String × TokenMetadataCacheItem) :=
  {(caip10TokenAddress demoUsdc, ⟨"USDC", "USDC", 9, ""⟩)}

/-- **Two caches that are wrong.**  The second lookup of the stablecoin says 150 dollars, where no
    other provider stores anything; and at the price of the native token a lookup says the decimals
    that another provider stored. -/
theorem demoUsdc_disagrees :
    ¬ LookupsAgree demoSolScan ∅ {demoUsdc} ∧
      ¬ LookupsAgree demoParity demoRedescribed {demoUsdc} := by
  have hne : demoUsdc ≠ solanaNativeTokenAddress := by decide
  constructor
  · intro h
    have hnative : upstreamPrice demoSolScan solanaNativeTokenAddress = .ok 150 := rfl
    obtain ⟨s, hs, hinfo⟩ := second_lookup hne hnative rfl
    obtain ⟨metadata, hmetadata, hprice⟩ := h.price s hs .up demoUsdc rfl hne _ hinfo
    cases hmetadata
    exact absurd hprice (by decide)
  · intro h
    have hnative : upstreamPrice demoParity solanaNativeTokenAddress = .ok 1 := rfl
    obtain ⟨s, hs, hwarm, hcold⟩ := lookup_after_other hne hnative (Set.mem_singleton _)
    have hfacts := h.facts s hs .up demoUsdc rfl hne
    rw [hwarm, hcold] at hfacts
    -- 9 decimals from the cache, 6 from upstream
    have hdecimals := (Prod.mk.inj (Prod.mk.inj (Except.ok.inj hfacts)).2).1
    exact absurd hdecimals (by decide)

end BlockchainApi
