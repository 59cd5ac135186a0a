/-
  The tokens that can be bridged, and the choice of the one to bridge
  (`src/handlers/chain_agnostic/assets.rs`, `mod.rs`).

  The handler asks for the balance of every account in every token the filter lets through, chain by
  chain, in whatever order the hash map yields the chains.  A balance that suffices in the token
  with the symbol of the transfer is taken at once; otherwise the highest one is.

  1. **The loops** (`mem_candidates_iff`).  The three nested loops come to exactly the admissible
     pairs of account and token: a token of the table that the filter lets through, an account that
     is looked at on the token's chain, and the balance that was read for them.  The chains are
     grouped before they are walked, so this needs that the grouping neither loses nor invents a
     token.

  2. **The choice** (`selected_asset_spec`).  It is sound, finds something whenever there is
     something, and is optimal, for every table, every filter and every order of the map.  The rule
     of the inner loop is that of a search for the first or the best (`considerAsset_rule`), whose
     outcome does not depend on the order except among equals.

  Balances of different decimals are compared as amounts, which returns for decimals up to 77 only;
  that the tables have no others is a fact of its own (`AssetTable.Comparable`).  The table's own
  map is a list here, which covers each of its orders.
-/
import BlockchainApi.Error
import BlockchainApi.Lib.Search
import BlockchainApi.Utils.TokenAmount

namespace BlockchainApi

open ByteCodec Decimals HashMap Search

/-- `SolanaPubkey`. -/
abbrev SolanaPubkey := FixedBytes 32

/-- `Eip155OrSolanaAddress`. -/
inductive Eip155OrSolanaAddress where
  | eip155 (address : Address)
  | solana (address : SolanaPubkey)
  deriving DecidableEq

/-- `NATIVE_TOKEN_ADDRESS`. -/
def nativeTokenAddress : Address := .ofNat 20 0xeeeeeeeeeeeeeeeeeeeeeeeeeeeeeeeeeeeeeeee

/-- `AssetEntry`: the decimals of a token and its contract on each chain. -/
structure AssetEntry where
  decimals : UInt8
  contracts : List (String × Eip155OrSolanaAddress)

/-- Tokens by symbol. -/
abbrev AssetTable := List (String × AssetEntry)

/-- `BRIDGING_ASSETS`; the mint of the stable coin on Solana is a constant of another crate. -/
def bridgingAssets (solanaUsdc : SolanaPubkey) : AssetTable :=
  [("USDC",
      { decimals := 6
        contracts :=
          [("eip155:10", .eip155 (.ofNat 20 0x0b2c639c533813f4aa9d7837caf62653d097ff85)),
            ("eip155:8453", .eip155 (.ofNat 20 0x833589fCD6eDb6E08f4c7C32D4f71b54bdA02913)),
            ("eip155:42161", .eip155 (.ofNat 20 0xaf88d065e77c8cC2239327C5EDb3A432268e5831)),
            ("solana:5eykt4UsFv8P8NJdTREpY1vzqKqZKvdp", .solana solanaUsdc)] }),
    ("USDT",
      { decimals := 6
        contracts :=
          [("eip155:10", .eip155 (.ofNat 20 0x94b008aA00579c1307B0EF2c499aD98a8ce58e58)),
            ("eip155:42161", .eip155 (.ofNat 20 0xFd086bC7CD5C481DCC9C85ebE478A1C0b69FCbb9))] }),
    ("USDS",
      { decimals := 18
        contracts :=
          [("eip155:8453", .eip155 (.ofNat 20 0x820c137fa70c8691f0e44dc420a5e53c168921dc))] }),
    ("ETH",
      { decimals := 18
        contracts :=
          [("eip155:10", .eip155 nativeTokenAddress),
            ("eip155:8453", .eip155 nativeTokenAddress),
            ("eip155:42161", .eip155 nativeTokenAddress)] })]

/-- The decimals the comparison accepts. -/
def AssetTable.Comparable (table : AssetTable) : Prop :=
  ∀ entry ∈ table, entry.2.decimals.toNat ≤ 77

theorem bridgingAssets_comparable (solanaUsdc : SolanaPubkey) :
    AssetTable.Comparable (bridgingAssets solanaUsdc) := by
  intro entry hentry
  simp only [bridgingAssets, List.mem_cons, List.not_mem_nil, or_false] at hentry
  rcases hentry with rfl | rfl | rfl | rfl <;> simp

/-- `find_supported_bridging_asset`: symbol and decimals of a contract on a chain. -/
def findSupportedBridgingAsset (table : AssetTable) (chainId : String)
    (contract : Eip155OrSolanaAddress) : Option (String × UInt8) :=
  table.findSome? fun entry =>
    entry.2.contracts.findSome? fun c =>
      if c.1 = chainId ∧ contract = c.2 then some (entry.1, entry.2.decimals) else none

/-- What the table knows has comparable decimals. -/
theorem findSupportedBridgingAsset_comparable {table : AssetTable} {chainId symbol : String}
    {contract : Eip155OrSolanaAddress} {decimals : UInt8} (h : table.Comparable)
    (hfound : findSupportedBridgingAsset table chainId contract = some (symbol, decimals)) :
    decimals.toNat ≤ 77 := by
  obtain ⟨entry, hentry, hcontract⟩ := List.exists_of_findSome?_eq_some hfound
  obtain ⟨c, -, hc⟩ := List.exists_of_findSome?_eq_some hcontract
  split at hc
  · cases hc
    exact h entry hentry
  · cases hc

/-! ## Balances: one question for each account and token of its kind -/

/-- What the chains answer when asked for a balance. -/
structure SourceBalances where
  /-- `get_erc20_balance`, of a contract for an account. -/
  erc20 : String → Address → Address → Except CryptoUtilsError U256
  /-- The associated token account, of an account for a mint. -/
  solana : SolanaPubkey → SolanaPubkey → Except CryptoUtilsError U256

namespace SourceBalances

/-- The balance of an account in a token, where they are of one kind. -/
def ask (balances : SourceBalances) (chainId : String) (account contract : Eip155OrSolanaAddress) :
    Option (Except CryptoUtilsError U256) :=
  match account, contract with
  | .eip155 address, .eip155 contract => some (balances.erc20 chainId contract address)
  | .solana address, .solana mint => some (balances.solana address mint)
  | _, _ => none

/-- Every question is answered. -/
structure Answers (balances : SourceBalances) : Prop where
  erc20 : ∀ chainId contract address,
    ∃ balance, balances.erc20 chainId contract address = .ok balance
  solana : ∀ address mint, ∃ balance, balances.solana address mint = .ok balance

theorem Answers.ask {balances : SourceBalances} (h : balances.Answers) {chainId : String}
    {account contract : Eip155OrSolanaAddress} {answer : Except CryptoUtilsError U256}
    (hask : balances.ask chainId account contract = some answer) :
    ∃ balance, answer = .ok balance := by
  cases account with
  | eip155 address =>
    cases contract with
    | eip155 contract =>
      cases hask
      exact h.erc20 _ _ _
    | solana mint => cases hask
  | solana address =>
    cases contract with
    | eip155 contract => cases hask
    | solana mint =>
      cases hask
      exact h.solana _ _

end SourceBalances

/-- `get_balances_of_all_source_tokens`: every account in every token of its kind. -/
def getBalancesOfAllSourceTokens (balances : SourceBalances)
    (accounts : List Eip155OrSolanaAddress) (chainId : String)
    (tokenAddresses : List Eip155OrSolanaAddress) :
    Outcome RpcError (List (Eip155OrSolanaAddress × Eip155OrSolanaAddress × U256)) :=
  -- a token of the other kind is passed over
  let questions := accounts.flatMap fun account => tokenAddresses.filterMap fun contract =>
    (balances.ask chainId account contract).map fun answer => (account, contract, answer)
  questions.mapM fun question => do
    let balance ← Outcome.ofExcept RpcError.cryptoUtils question.2.2
    return (question.1, question.2.1, balance)

/-- **What the balances are**: one for each account and token of its kind. The chains answer
    every question, so none of them ends the loop. -/
theorem mem_getBalances {balances : SourceBalances} (h : balances.Answers)
    (accounts : List Eip155OrSolanaAddress) (chainId : String)
    (tokenAddresses : List Eip155OrSolanaAddress) :
    ∃ rows, getBalancesOfAllSourceTokens balances accounts chainId tokenAddresses = .ok rows ∧
      ∀ account contract balance, (account, contract, balance) ∈ rows ↔
        account ∈ accounts ∧ contract ∈ tokenAddresses ∧
          balances.ask chainId account contract = some (.ok balance) := by
  -- every question that is asked is answered, so the whole list of rows is known
  have hall : ∀ question ∈ (accounts.flatMap fun account =>
      tokenAddresses.filterMap fun contract =>
        (balances.ask chainId account contract).map fun answer => (account, contract, answer)),
      (do
        let balance ← Outcome.ofExcept RpcError.cryptoUtils question.2.2
        return (question.1, question.2.1, balance)) =
        Outcome.ok (question.1, question.2.1, question.2.2.toOption.getD 0) := by
    intro question hquestion
    obtain ⟨account, -, hquestion⟩ := List.mem_flatMap.mp hquestion
    obtain ⟨contract, -, hasked⟩ := List.mem_filterMap.mp hquestion
    obtain ⟨answer, hanswer, rfl⟩ := Option.map_eq_some_iff.mp hasked
    obtain ⟨balance, rfl⟩ := h.ask hanswer
    rfl
  refine ⟨_, Outcome.mapM_eq_ok hall, fun account contract balance => ?_⟩
  rw [List.mem_map]
  constructor
  · -- a row comes from an account, a contract of its kind, and the answer about them
    rintro ⟨question, hquestion, heq⟩
    obtain ⟨account', haccount, hquestion⟩ := List.mem_flatMap.mp hquestion
    obtain ⟨contract', hcontract, hasked⟩ := List.mem_filterMap.mp hquestion
    obtain ⟨answer, hanswer, rfl⟩ := Option.map_eq_some_iff.mp hasked
    obtain ⟨balance', rfl⟩ := h.ask hanswer
    cases heq
    exact ⟨haccount, hcontract, hanswer⟩
  · -- and they are asked about
    rintro ⟨haccount, hcontract, hask⟩
    refine ⟨(account, contract, .ok balance), List.mem_flatMap.mpr ⟨account, haccount, ?_⟩, rfl⟩
    exact List.mem_filterMap.mpr ⟨contract, hcontract, by rw [hask]; rfl⟩

/-! ## The choice, as the three loops make it -/

/-- `BridgingAsset`. -/
structure BridgingAsset where
  chainId : String
  account : Eip155OrSolanaAddress
  tokenSymbol : String
  contractAddress : Eip155OrSolanaAddress
  decimals : UInt8
  currentBalance : U256
  deriving DecidableEq

/-- The balance as an amount of its token. -/
def BridgingAsset.amount (asset : BridgingAsset) : TokenAmount :=
  ⟨asset.currentBalance, asset.decimals⟩

/-- What `check_bridging_for_erc20_transfer` is asked for. -/
structure AssetQuery where
  value : U256
  /-- Accounts, with the one chain to look at or `none` for every chain of its kind. -/
  accounts : List (Option String × Eip155OrSolanaAddress)
  excludeChainId : String
  excludeContractAddress : Eip155OrSolanaAddress
  tokenSymbolPriority : String
  amountTokenDecimals : UInt8
  onlyTokenSymbol : Option String
  excludeTokenSymbol : Option String

namespace AssetQuery

/-- The required amount. -/
def required (q : AssetQuery) : TokenAmount := ⟨q.value, q.amountTokenDecimals⟩

/-- The filter on tokens. -/
def skips (q : AssetQuery) (symbol chainId : String) (contract : Eip155OrSolanaAddress) : Bool :=
  (chainId == q.excludeChainId && contract == q.excludeContractAddress) ||
    q.onlyTokenSymbol.any (symbol != ·) || q.excludeTokenSymbol.any (symbol == ·)

/-- The accounts to look at on a chain. -/
def accountsOn (q : AssetQuery) (chainId : String) : List Eip155OrSolanaAddress :=
  q.accounts.filterMap fun account =>
    match account.1 with
    | some cid => if cid = chainId then some account.2 else none
    | none => some account.2

end AssetQuery

/-- The key of `contracts_per_chain`. -/
structure TokenOnChain where
  symbol : String
  chainId : String
  decimals : UInt8
  deriving DecidableEq

/-- The tokens the filter lets through, in the order of the table. -/
def admittedTokens (table : AssetTable) (q : AssetQuery) :
    List (TokenOnChain × Eip155OrSolanaAddress) :=
  table.flatMap fun entry => entry.2.contracts.filterMap fun c =>
    if q.skips entry.1 c.1 c.2 then none else some (⟨entry.1, c.1, entry.2.decimals⟩, c.2)

/-- `contracts_per_chain`. -/
def contractsPerChain (table : AssetTable) (q : AssetQuery) :
    HashMap TokenOnChain (List Eip155OrSolanaAddress) :=
  group (admittedTokens table q)

/-- The balances in the tokens of one chain, each with what is known of its token. -/
def sourceAssets (balances : SourceBalances) (q : AssetQuery)
    (entry : TokenOnChain × List Eip155OrSolanaAddress) :
    Outcome RpcError (List BridgingAsset) := do
  let erc20Balances ←
    getBalancesOfAllSourceTokens balances (q.accountsOn entry.1.chainId) entry.1.chainId entry.2
  return erc20Balances.map fun row =>
    { chainId := entry.1.chainId
      account := row.1
      tokenSymbol := entry.1.symbol
      contractAddress := row.2.1
      decimals := entry.1.decimals
      currentBalance := row.2.2 }

/-- The body of the inner loop. -/
def considerAsset (q : AssetQuery) (found : Option BridgingAsset) (asset : BridgingAsset) :
    Outcome RpcError (Found BridgingAsset) := do
  let enough ← asset.amount.ge q.required
  if enough then
    -- the priority asset is used if found
    if asset.tokenSymbol = q.tokenSymbolPriority then return .final asset
    else
      -- or the one with the highest balance
      match found with
      | some existing => do
        let notHigher ← asset.amount.le existing.amount
        return .best (if notHigher then found else some asset)
      | none => return .best (some asset)
  else return .best found

/-- `check_bridging_for_erc20_transfer`. -/
def checkBridgingForErc20Transfer (table : AssetTable)
    (order : Walk TokenOnChain (List Eip155OrSolanaAddress)) (balances : SourceBalances)
    (q : AssetQuery) : Outcome RpcError (Option BridgingAsset) := do
  let found ← searchGroups (considerAsset q) (sourceAssets balances q) none
    (order.entries (contractsPerChain table q))
  return found.answer

/-! ## The candidates: what the loops come to -/

/-- A token of the table that the filter lets through, and its balance in an account that is to be
    looked at on its chain. -/
structure Admissible (table : AssetTable) (balances : SourceBalances) (q : AssetQuery)
    (asset : BridgingAsset) : Prop where
  token : ∃ entry, (asset.tokenSymbol, entry) ∈ table ∧ entry.decimals = asset.decimals ∧
    (asset.chainId, asset.contractAddress) ∈ entry.contracts
  notInitial : ¬ (asset.chainId = q.excludeChainId ∧
    asset.contractAddress = q.excludeContractAddress)
  only : ∀ symbol, q.onlyTokenSymbol = some symbol → asset.tokenSymbol = symbol
  notExcluded : ∀ symbol, q.excludeTokenSymbol = some symbol → asset.tokenSymbol ≠ symbol
  account : (none, asset.account) ∈ q.accounts ∨ (some asset.chainId, asset.account) ∈ q.accounts
  balance : balances.ask asset.chainId asset.account asset.contractAddress =
    some (.ok asset.currentBalance)

variable {table : AssetTable} {balances : SourceBalances} {q : AssetQuery}

theorem skips_eq_false {symbol chainId : String} {contract : Eip155OrSolanaAddress} :
    q.skips symbol chainId contract = false ↔
      ¬ (chainId = q.excludeChainId ∧ contract = q.excludeContractAddress) ∧
        (∀ s, q.onlyTokenSymbol = some s → symbol = s) ∧
        ∀ s, q.excludeTokenSymbol = some s → symbol ≠ s := by
  rw [AssetQuery.skips, Bool.or_eq_false_iff, Bool.or_eq_false_iff, and_assoc,
    Bool.and_eq_false_iff]
  refine and_congr ?_ (and_congr ?_ ?_)
  · rw [beq_eq_false_iff_ne, beq_eq_false_iff_ne, not_and_or]
  · cases q.onlyTokenSymbol <;> simp
  · cases q.excludeTokenSymbol <;> simp

theorem mem_accountsOn {chainId : String} {account : Eip155OrSolanaAddress} :
    account ∈ q.accountsOn chainId ↔
      (none, account) ∈ q.accounts ∨ (some chainId, account) ∈ q.accounts := by
  rw [AssetQuery.accountsOn, List.mem_filterMap]
  constructor
  · rintro ⟨⟨cid, address⟩, hmem, heq⟩
    cases cid with
    | none =>
      cases heq
      exact Or.inl hmem
    | some cid =>
      dsimp only at heq
      split at heq
      · next hcid =>
        cases heq
        exact Or.inr (hcid ▸ hmem)
      · cases heq
  · rintro (hmem | hmem)
    · exact ⟨_, hmem, rfl⟩
    · exact ⟨_, hmem, if_pos rfl⟩

theorem mem_admittedTokens {symbol chainId : String} {decimals : UInt8}
    {contract : Eip155OrSolanaAddress} :
    (⟨symbol, chainId, decimals⟩, contract) ∈ admittedTokens table q ↔
      (∃ entry, (symbol, entry) ∈ table ∧ entry.decimals = decimals ∧
        (chainId, contract) ∈ entry.contracts) ∧ q.skips symbol chainId contract = false := by
  rw [admittedTokens, List.mem_flatMap]
  constructor
  · rintro ⟨entry, hentry, hmem⟩
    obtain ⟨c, hc, hkept⟩ := List.mem_filterMap.mp hmem
    split at hkept
    · cases hkept
    · next hskips =>
      cases hkept
      exact ⟨⟨entry.2, hentry, rfl, hc⟩, by simpa using hskips⟩
  · rintro ⟨⟨entry, hentry, rfl, hc⟩, hskips⟩
    refine ⟨_, hentry, List.mem_filterMap.mpr ⟨_, hc, ?_⟩⟩
    rw [if_neg (by simp [hskips])]

/-- The assets found on one chain. -/
def assetsOn (balances : SourceBalances) (q : AssetQuery)
    (entry : TokenOnChain × List Eip155OrSolanaAddress) : List BridgingAsset :=
  (sourceAssets balances q entry).toOption.getD []

theorem sourceAssets_eq (h : balances.Answers) (q : AssetQuery)
    (entry : TokenOnChain × List Eip155OrSolanaAddress) :
    sourceAssets balances q entry = .ok (assetsOn balances q entry) := by
  obtain ⟨rows, hrows, -⟩ := mem_getBalances h (q.accountsOn entry.1.chainId)
    entry.1.chainId entry.2
  rw [assetsOn, sourceAssets, hrows]
  rfl

theorem mem_assetsOn (h : balances.Answers) {symbol chainId : String} {decimals : UInt8}
    {contracts : List Eip155OrSolanaAddress} {asset : BridgingAsset} :
    asset ∈ assetsOn balances q (⟨symbol, chainId, decimals⟩, contracts) ↔
      asset.tokenSymbol = symbol ∧ asset.chainId = chainId ∧ asset.decimals = decimals ∧
        asset.account ∈ q.accountsOn chainId ∧ asset.contractAddress ∈ contracts ∧
        balances.ask chainId asset.account asset.contractAddress =
          some (.ok asset.currentBalance) := by
  obtain ⟨rows, hrows, hmem⟩ := mem_getBalances h (q.accountsOn chainId) chainId contracts
  rw [assetsOn, sourceAssets, hrows]
  show asset ∈ rows.map _ ↔ _
  rw [List.mem_map]
  constructor
  · rintro ⟨⟨account, contract, balance⟩, hrow, rfl⟩
    exact ⟨rfl, rfl, rfl, (hmem _ _ _).mp hrow⟩
  · rintro ⟨rfl, rfl, rfl, hrest⟩
    exact ⟨_, (hmem _ _ _).mpr hrest, rfl⟩

/-- Everything the loops come to. -/
def candidates (table : AssetTable) (order : Walk TokenOnChain (List Eip155OrSolanaAddress))
    (balances : SourceBalances) (q : AssetQuery) : List BridgingAsset :=
  (order.entries (contractsPerChain table q)).flatMap (assetsOn balances q)

variable {order : Walk TokenOnChain (List Eip155OrSolanaAddress)}

/-- **The loops come to the admissible assets**, whatever the order of the map. -/
theorem mem_candidates_iff (h : balances.Answers) {asset : BridgingAsset} :
    asset ∈ candidates table order balances q ↔ Admissible table balances q asset := by
  rw [candidates, List.mem_flatMap]
  constructor
  · rintro ⟨⟨⟨symbol, chainId, decimals⟩, contracts⟩, hentry, hasset⟩
    obtain ⟨rfl, rfl, rfl, haccount, hcontract, hbalance⟩ := (mem_assetsOn h).mp hasset
    have hlookup := order.mem_entries.mp hentry
    -- the group of the token is an entry of the map, so the token was admitted
    have htoken : (⟨asset.tokenSymbol, asset.chainId, asset.decimals⟩, asset.contractAddress) ∈
        admittedTokens table q := by
      rw [← mem_group, ← contractsPerChain, hlookup]
      exact hcontract
    obtain ⟨htable, hskips⟩ := mem_admittedTokens.mp htoken
    obtain ⟨hinitial, honly, hexcluded⟩ := skips_eq_false.mp hskips
    exact ⟨htable, hinitial, honly, hexcluded, mem_accountsOn.mp haccount, hbalance⟩
  · intro hadmissible
    have hskips := skips_eq_false.mpr
      ⟨hadmissible.notInitial, hadmissible.only, hadmissible.notExcluded⟩
    have htoken := mem_group.mpr (mem_admittedTokens.mpr ⟨hadmissible.token, hskips⟩)
    -- the token is in some group, so its group is not empty
    cases hlookup : (contractsPerChain table q).lookup
        ⟨asset.tokenSymbol, asset.chainId, asset.decimals⟩ with
    | none =>
      rw [← contractsPerChain, hlookup] at htoken
      cases htoken
    | some contracts =>
      rw [← contractsPerChain, hlookup] at htoken
      exact ⟨_, order.mem_entries.mpr hlookup, (mem_assetsOn h).mpr ⟨rfl, rfl, rfl,
        mem_accountsOn.mpr hadmissible.account, htoken, hadmissible.balance⟩⟩

/-! ## The choice is sound and optimal -/

/-- The balance suffices, as a decimal quantity. -/
def Sufficient (q : AssetQuery) (asset : BridgingAsset) : Prop :=
  q.required.value ≤ asset.amount.value

theorem Admissible.decimals_le {asset : BridgingAsset} (htable : table.Comparable)
    (h : Admissible table balances q asset) : asset.decimals ≤ 77 := by
  obtain ⟨entry, hentry, hdecimals, -⟩ := h.token
  rw [UInt8.le_iff_toNat_le, ← hdecimals]
  exact htable _ hentry

/-- **What the inner loop does with each candidate**: it ends the search with one that suffices
    and has the priority symbol, keeps the higher of two that suffice, and passes over the rest. -/
theorem considerAsset_rule (htable : table.Comparable) (hamount : q.amountTokenDecimals ≤ 77)
    (h : balances.Answers) :
    SearchRule (considerAsset q) (candidates table order balances q) (Sufficient q)
      (fun asset => asset.tokenSymbol = q.tokenSymbolPriority) fun asset => asset.amount.value := by
  -- both comparisons are of comparable decimals, so they return
  have hdecimals : ∀ asset ∈ candidates table order balances q, asset.decimals ≤ 77 :=
    fun asset hasset => ((mem_candidates_iff h).mp hasset).decimals_le htable
  have hge : ∀ asset ∈ candidates table order balances q,
      (asset.amount.ge q.required : Outcome RpcError Bool) =
        .ok (decide (q.required.value ≤ asset.amount.value)) :=
    fun asset hasset => TokenAmount.ge_eq (hdecimals asset hasset) hamount
  have henough : ∀ {asset}, Sufficient q asset →
      decide (q.required.value ≤ asset.amount.value) = true := fun h => decide_eq_true h
  refine ⟨?_, ?_, ?_, ?_, ?_⟩
  · -- a balance that does not suffice
    intro best asset hasset hshort
    have hfew : decide (q.required.value ≤ asset.amount.value) = false := decide_eq_false hshort
    rw [considerAsset.eq_def, hge asset hasset, Outcome.ok_bind, hfew]
    rfl
  · -- it suffices in the token with the priority symbol, which ends the search
    intro best asset hasset hsufficient hpriority
    rw [considerAsset.eq_def, hge asset hasset, Outcome.ok_bind, henough hsufficient, if_pos rfl,
      if_pos hpriority]
    rfl
  · -- it is the first that suffices
    intro asset hasset hsufficient hpriority
    rw [considerAsset, hge asset hasset, Outcome.ok_bind, henough hsufficient, if_pos rfl,
      if_neg hpriority]
    rfl
  · -- it is not higher than the best one so far
    intro existing hexisting asset hasset hsufficient hpriority hle
    rw [considerAsset, hge asset hasset, Outcome.ok_bind, henough hsufficient, if_pos rfl,
      if_neg hpriority, TokenAmount.le_eq (hdecimals asset hasset) (hdecimals existing hexisting),
      decide_eq_true hle]
    rfl
  · -- it is higher
    intro existing hexisting asset hasset hsufficient hpriority hlt
    rw [considerAsset, hge asset hasset, Outcome.ok_bind, henough hsufficient, if_pos rfl,
      if_neg hpriority, TokenAmount.le_eq (hdecimals asset hasset) (hdecimals existing hexisting),
      decide_eq_false (not_le.mpr hlt)]
    rfl

/-- **The choice of the source asset is sound and optimal.** Nothing is chosen only if no
    admissible asset suffices. What is chosen is admissible and suffices; it has the priority
    symbol if any admissible asset that suffices has it, and the highest balance of them all
    otherwise. Amounts are compared as decimal quantities. -/
theorem selected_asset_spec (table : AssetTable)
    (order : Walk TokenOnChain (List Eip155OrSolanaAddress)) (balances : SourceBalances)
    (q : AssetQuery) (htable : table.Comparable) (hamount : q.amountTokenDecimals ≤ 77)
    (hbalances : balances.Answers) :
    ∃ found, checkBridgingForErc20Transfer table order balances q = .ok found ∧
      (found = none ↔ ∀ asset, Admissible table balances q asset → ¬ Sufficient q asset) ∧
      ∀ asset, found = some asset →
        Admissible table balances q asset ∧ Sufficient q asset ∧
        ((∃ other, Admissible table balances q other ∧ Sufficient q other ∧
          other.tokenSymbol = q.tokenSymbolPriority) →
          asset.tokenSymbol = q.tokenSymbolPriority) ∧
        ((∀ other, Admissible table balances q other → Sufficient q other →
          other.tokenSymbol ≠ q.tokenSymbolPriority) →
          ∀ other, Admissible table balances q other → Sufficient q other →
            other.amount.value ≤ asset.amount.value) := by
  have hrule : SearchRule (considerAsset q) (candidates table order balances q) (Sufficient q)
      (fun asset => asset.tokenSymbol = q.tokenSymbolPriority) fun asset => asset.amount.value :=
    considerAsset_rule htable hamount hbalances
  obtain ⟨found, hfound, hnone, hsome⟩ := hrule.search_spec
  -- the three loops are one search over all candidates
  have hgroups : searchGroups (considerAsset q) (sourceAssets balances q) none
      (order.entries (contractsPerChain table q)) = .ok found := by
    rw [searchGroups_eq fun entry _ => sourceAssets_eq hbalances q entry]
    exact hfound
  simp only [mem_candidates_iff hbalances] at hnone hsome
  refine ⟨found.answer, ?_, hnone, hsome⟩
  rw [checkBridgingForErc20Transfer, hgroups]
  rfl

/-- Every account holds 100 units of every token. -/
def demoBalances : SourceBalances where
  erc20 _ _ _ := .ok 100
  solana _ _ := .ok 100

theorem demoBalances_answers : demoBalances.Answers :=
  ⟨fun _ _ _ => ⟨100, rfl⟩, fun _ _ => ⟨100, rfl⟩⟩

/-- Some account. -/
def demoSender : Address := .ofNat 20 0x1111111111111111111111111111111111111111

/-- The mint of the stable coin on Solana. -/
def demoMint : SolanaPubkey := .ofNat 32 7

/-- 50 units of USDC are missing on one chain. -/
def demoQuery : AssetQuery where
  value := 50
  accounts := [(none, .eip155 demoSender)]
  excludeChainId := "eip155:10"
  excludeContractAddress := .eip155 (.ofNat 20 0x0b2c639c533813f4aa9d7837caf62653d097ff85)
  tokenSymbolPriority := "USDC"
  amountTokenDecimals := 6
  onlyTokenSymbol := none
  excludeTokenSymbol := some "ETH"

theorem selected_asset_spec_demoQuery :
    ∃ asset, checkBridgingForErc20Transfer (bridgingAssets demoMint) .inOrder demoBalances
        demoQuery = .ok (some asset) ∧ asset.tokenSymbol = "USDC" := by
  obtain ⟨found, hfound, hnone, hsome⟩ := selected_asset_spec (bridgingAssets demoMint) .inOrder
    demoBalances demoQuery (bridgingAssets_comparable demoMint) (by decide) demoBalances_answers
  -- the same token on another chain
  let asset : BridgingAsset :=
    { chainId := "eip155:8453"
      account := .eip155 demoSender
      tokenSymbol := "USDC"
      contractAddress := .eip155 (.ofNat 20 0x833589fCD6eDb6E08f4c7C32D4f71b54bdA02913)
      decimals := 6
      currentBalance := 100 }
  have hadmissible : Admissible (bridgingAssets demoMint) demoBalances demoQuery asset := by
    refine ⟨⟨_, List.mem_cons_self .., rfl, ?_⟩, by decide, fun s hs => (by cases hs), ?_, ?_, rfl⟩
    · exact List.mem_cons_of_mem _ (List.mem_cons_self ..)
    · intro s hs
      cases hs
      decide
    · exact Or.inl (List.mem_singleton.mpr rfl)
  have henough : Sufficient demoQuery asset := by
    show quantity 50 6 ≤ quantity 100 6
    rw [quantity_le_quantity]
    decide
  cases found with
  | none => exact absurd henough (hnone.mp rfl asset hadmissible)
  | some chosen =>
    exact ⟨chosen, hfound, (hsome chosen rfl).2.2.1 ⟨asset, hadmissible, henough, rfl⟩⟩

end BlockchainApi
