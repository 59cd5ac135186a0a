/-
  The passes of `wallet_getAssets`, one lemma each: when a pass returns, and what.

  Each pass of `GetAssets` is a loop whose steps return under a condition, so each gets a lemma of
  one shape: the pass returns if and only if every item meets the condition, and then with a pure
  function of the items.  The conditions are predicates on one item (`Addressed`, `Counted`,
  `Convertible`), and the pure functions are selections and maps on lists.

  1. **Grouping and filling**: `groupBalances_eq_ok_iff`, `fillGroup_eq_ok`, and
     `segregateBalances_returns_iff` with `holds_of_segregateBalances` for both.  A map of groups is
     known by what stands under each key (`Segregated.Holds`), not by the order in which it was
     built.

  2. **Aggregating**: `aggregateGroup_eq_ok_iff`, and `applyAggregateBalanceValue_eq_ok_iff` for all
     groups.

  3. **Filtering**: `filterBalances_eq_ok`, what the filters let through, as one predicate
     (`GetAssetsFilters.Keeps`).

  4. **Listing**: `createResponse_eq_ok_iff`, with `assetOf_eq_ok_iff` for one item.

  Later proofs take the passes apart with these and do not unfold them; which bodies get through all
  of them is the subject of `AssetListing`.
-/
import BlockchainApi.Wallet.GetAssets

namespace BlockchainApi

open ByteCodec HashMap

variable {F : Type} {ε : Type} {env : AssetsEnv F}

/-! ## Reading an item -/

/-- The text behind the last colon. -/
def lastSegment (caip10 : String) : String :=
  String.ofList ((caip10.toList.splitOn ':').getLast (List.splitOn_ne_nil _ _))

/-- The text behind the last colon of a CAIP-10 name is the address. -/
theorem lastSegment_append {chain address : String} (h : ':' ∉ address.toList) :
    lastSegment (chain ++ ":" ++ address) = address := by
  have htext : (chain ++ ":" ++ address).toList = chain.toList ++ ':' :: address.toList := by
    simp
  have hsplit : (chain ++ ":" ++ address).toList.splitOn ':' =
      chain.toList.splitOn ':' ++ [address.toList] := by
    rw [htext, List.splitOn_append_cons_self, List.splitOn_eq_singleton h]
  simp only [lastSegment, hsplit, List.getLast_append_singleton, String.ofList_toList]

theorem convertCaip10ToAddress_eq (caip10 : String) :
    (convertCaip10ToAddress env caip10 : Outcome ε Address) =
      Outcome.unwrap (env.addressFromStr (lastSegment caip10)) := by
  rw [convertCaip10ToAddress, List.getLast?_eq_getLast_of_ne_nil (List.splitOn_ne_nil _ _)]
  rfl

/-- The address of an item, if it has one, can be read. -/
def Addressed (env : AssetsEnv F) (b : BalanceItem F) : Prop :=
  ∀ a, b.address = some a → (env.addressFromStr (lastSegment a)).isSome

/-- The address of an item, as far as it can be read. -/
def addressOf (env : AssetsEnv F) (b : BalanceItem F) : AddressOrNative :=
  ((b.address.bind fun a => env.addressFromStr (lastSegment a)).map .addressVariant).getD .native

/-- The group of an item, as far as it can be read. -/
def keyOf (env : AssetsEnv F) (b : BalanceItem F) : Option TokenKey :=
  b.chainId.bind fun chainId => getSupportedTokenAndChainPairKey env chainId (addressOf env b)

theorem addressOrNative_eq_ok_iff {b : BalanceItem F} {a : AddressOrNative} :
    (addressOrNative env b : Outcome ε AddressOrNative) = .ok a ↔
      Addressed env b ∧ a = addressOf env b := by
  rw [addressOrNative, Addressed, addressOf]
  cases b.address with
  | none =>
    constructor
    · intro h
      exact ⟨fun text htext => absurd htext (Option.some_ne_none text).symm,
        (Outcome.ok.inj h).symm⟩
    · rintro ⟨-, rfl⟩
      rfl
  | some text =>
    simp only [convertCaip10ToAddress_eq, Outcome.bind_eq_ok, Outcome.unwrap_eq_ok,
      Outcome.pure_eq, Outcome.ok.injEq, Option.some.injEq, forall_eq', Option.bind_some]
    cases env.addressFromStr (lastSegment text) with
    | none => simp
    | some address =>
      constructor
      · rintro ⟨read, hread, rfl⟩
        cases hread
        exact ⟨rfl, rfl⟩
      · rintro ⟨-, rfl⟩
        exact ⟨address, rfl, rfl⟩

theorem keyed_eq_ok_iff {b : BalanceItem F} {k : Option TokenKey × BalanceItem F} :
    (keyed env b : Outcome ε _) = .ok k ↔
      (b.chainId.isSome ∧ Addressed env b) ∧ k = (keyOf env b, b) := by
  simp only [keyed, tokenKey, Outcome.bind_eq_ok, Outcome.unwrap_eq_ok, Outcome.pure_eq,
    Outcome.ok.injEq, addressOrNative_eq_ok_iff, keyOf]
  cases b.chainId with
  | none => simp
  | some chainId =>
    constructor
    · rintro ⟨_, ⟨_, ⟨ha, rfl⟩, _, hc, rfl⟩, rfl⟩
      cases hc
      exact ⟨⟨rfl, ha⟩, rfl⟩
    · rintro ⟨⟨-, ha⟩, rfl⟩
      exact ⟨_, ⟨_, ⟨ha, rfl⟩, chainId, rfl, rfl⟩, rfl⟩

/-! ## Grouping -/

/-- The items of a group. -/
def groupOf (env : AssetsEnv F) (balances : List (BalanceItem F)) (key : TokenKey) :
    List (BalanceItem F) :=
  balances.filter fun b => keyOf env b = some key

/-- The items of no group. -/
def ungrouped (env : AssetsEnv F) (balances : List (BalanceItem F)) : List (BalanceItem F) :=
  balances.filter fun b => keyOf env b = none

/-- What is collected from items whose groups are known. -/
theorem foldl_push (items : List (Option TokenKey × BalanceItem F)) :
    items.foldl Segregated.push ⟨∅, []⟩ =
      ⟨group (items.filterMap fun i => i.1.map (·, i.2)),
        (items.filter fun i => i.1 = none).map Prod.snd⟩ := by
  induction items using List.reverseRecOn with
  | nil => rfl
  | append_singleton items i ih =>
    obtain ⟨key, b⟩ := i
    rw [List.foldl_append, ih, List.filterMap_append, List.filter_append]
    cases key with
    | none => simp [Segregated.push]
    | some key => simp [Segregated.push, pushTo, group_concat]

/-- **Grouping** returns when every item has a chain and a readable address. A group holds its
    items in their order, and there is no empty one: a group is made when its first item comes. -/
theorem groupBalances_eq_ok_iff {balances : List (BalanceItem F)} {s : Segregated F} :
    (groupBalances env balances : Outcome ε _) = .ok s ↔
      (∀ b ∈ balances, b.chainId.isSome ∧ Addressed env b) ∧
        s = ⟨group (balances.filterMap fun b => (keyOf env b).map (·, b)),
          ungrouped env balances⟩ := by
  refine (@Outcome.foldlM_record_eq_ok_iff ε _ _ _ (keyed env) Segregated.push balances ⟨∅, []⟩
    s).trans ?_
  have hread : ∀ b, (∃ k, (keyed env b : Outcome ε _) = .ok k) ↔
      b.chainId.isSome ∧ Addressed env b := fun b =>
    ⟨fun ⟨_, hk⟩ => (keyed_eq_ok_iff.mp hk).1, fun h => ⟨_, keyed_eq_ok_iff.mpr ⟨h, rfl⟩⟩⟩
  simp only [hread]
  refine and_congr_right fun hall => ?_
  -- what was read is each item with its group
  have hitems : balances.filterMap (fun b => (keyed env b : Outcome ε _).toOption) =
      balances.map fun b => (keyOf env b, b) := by
    rw [← List.filterMap_eq_map]
    refine List.filterMap_congr fun b hb => ?_
    exact Outcome.toOption_eq_some.mpr (keyed_eq_ok_iff.mpr ⟨hall b hb, rfl⟩)
  rw [hitems, foldl_push, List.filterMap_map, List.filter_map, List.map_map]
  simp [ungrouped, Function.comp_def]

/-! ## Filling -/

/-- The items that are filled in for a group. -/
def filledIn (env : AssetsEnv F) (key : TokenKey) (balances : List (BalanceItem F)) :
    List (BalanceItem F) :=
  match balances with
  | [] => []
  | template :: rest =>
    if rest.length + 1 ≠ supportedChains.length then
      (missingChains key (template :: rest)).filterMap fun chain =>
        (tokenContractOn key chain).map fun contract => missingItem env chain contract template
    else []

theorem isSome_tokenContractOn {key : TokenKey} {chain : String} {balances : List (BalanceItem F)}
    (h : chain ∈ missingChains key balances) : (tokenContractOn key chain).isSome := by
  have hchain := (List.mem_filter.mp h).2
  rw [Bool.and_eq_true] at hchain
  exact hchain.2

/-- **Filling** a group that is not empty: the items before stay where they are, and what is
    filled in comes behind them. An empty group has no item to copy the decimals from. -/
theorem fillGroup_eq_ok {key : TokenKey} {balances : List (BalanceItem F)} (h : balances ≠ []) :
    (fillGroup env key balances : Outcome ε _) =
      .ok (balances ++ filledIn env key balances) := by
  obtain ⟨template, rest, rfl⟩ := List.exists_cons_of_ne_nil h
  -- the first item is the template of each chain, however many items were added before
  have hloop : ∀ chains : List String, (∀ chain ∈ chains, (tokenContractOn key chain).isSome) →
      ∀ added : List (BalanceItem F),
        (chains.foldlM (fun pairs chain => do
          let template ← Outcome.unwrap pairs.head?
          let contract ← Outcome.unwrap (tokenContractOn key chain)
          return pairs ++ [missingItem env chain contract template]) (template :: added) :
            Outcome ε _) =
          .ok (template :: added ++ chains.filterMap fun chain =>
            (tokenContractOn key chain).map fun contract =>
              missingItem env chain contract template) := by
    intro chains
    induction chains with
    | nil =>
      intro _ added
      rw [List.filterMap_nil, List.append_nil]
      rfl
    | cons chain chains ih =>
      intro hchains added
      obtain ⟨hchain, hrest⟩ := List.forall_mem_cons.mp hchains
      obtain ⟨contract, hcontract⟩ := Option.isSome_iff_exists.mp hchain
      rw [List.foldlM_cons, hcontract]
      show List.foldlM _ (template :: (added ++ [missingItem env chain contract template])) _ = _
      rw [ih hrest, List.filterMap_cons_some (by rw [hcontract]; rfl)]
      simp
  rw [fillGroup, filledIn, List.length_cons]
  split
  · exact hloop _ (fun _ => isSome_tokenContractOn) rest
  · rw [List.append_nil]
    rfl

theorem fillMissingChains_eq_ok {m : HashMap TokenKey (List (BalanceItem F))}
    (h : ∀ key balances, m.lookup key = some balances → balances ≠ []) :
    ∃ m', (fillMissingChains env m : Outcome ε _) = .ok m' ∧
      ∀ key, m'.lookup key =
        (m.lookup key).map fun balances => balances ++ filledIn env key balances := by
  refine ⟨_, Outcome.foldlM_eq_ok (g := fun m group =>
    AList.insert group.1 (group.2 ++ filledIn env group.1 group.2) m) (fun s group hgroup => ?_) m,
    fun key => ?_⟩
  · rw [fillGroup_eq_ok (h _ _ (env.balancesOrder.mem_entries.mp hgroup))]
    rfl
  · exact env.balancesOrder.lookup_update
      (fun key balances => balances ++ filledIn env key balances) m key

/-- The groups of a body are filled. -/
theorem exists_filled (env : AssetsEnv F) (balances : List (BalanceItem F)) :
    ∃ m', (fillMissingChains env (group (balances.filterMap fun b => (keyOf env b).map (·, b))) :
        Outcome ε _) = .ok m' ∧
      ∀ key, m'.lookup key =
        ((group (balances.filterMap fun b => (keyOf env b).map (·, b))).lookup key).map
          fun items => items ++ filledIn env key items :=
  fillMissingChains_eq_ok fun _ _ => ne_nil_of_lookup_group

/-- What the first two passes leave: under each key its completed group, and beside them the
    items of no group. -/
structure Segregated.Holds (env : AssetsEnv F) (balances : List (BalanceItem F))
    (s : Segregated F) : Prop where
  rest : s.notToAggregateBalance = ungrouped env balances
  group : ∀ key, (s.toAggregateBalance.lookup key).getD [] =
    groupOf env balances key ++ filledIn env key (groupOf env balances key)

theorem getD_lookup_grouped (balances : List (BalanceItem F)) (key : TokenKey) :
    ((group (balances.filterMap fun b => (keyOf env b).map (·, b))).lookup key).getD [] =
      groupOf env balances key := by
  rw [getD_lookup_group, groupOf]
  induction balances with
  | nil => rfl
  | cons b balances ih =>
    rw [List.filterMap_cons, List.filter_cons]
    cases hkey : keyOf env b with
    | none => simpa using ih
    | some key' =>
      by_cases heq : key' = key
      · simpa [heq] using ih
      · simpa [heq] using ih

/-- **The first two passes** return when every item has a chain and a readable address. -/
theorem segregateBalances_returns_iff {body : BalanceResponseBody F} :
    (∃ s, (segregateBalances env body : Outcome ε _) = .ok s) ↔
      ∀ b ∈ body.balances, b.chainId.isSome ∧ Addressed env b := by
  constructor
  · rintro ⟨s, hs⟩
    obtain ⟨grouped, hgrouped, -⟩ := Outcome.bind_eq_ok.mp hs
    exact (groupBalances_eq_ok_iff.mp hgrouped).1
  · intro h
    obtain ⟨m', hm', -⟩ := exists_filled env body.balances
    refine ⟨_, Outcome.bind_eq_ok.mpr ⟨_, groupBalances_eq_ok_iff.mpr ⟨h, rfl⟩,
      Outcome.bind_eq_ok.mpr ⟨m', hm', rfl⟩⟩⟩

theorem holds_of_segregateBalances {body : BalanceResponseBody F} {s : Segregated F}
    (h : (segregateBalances env body : Outcome ε _) = .ok s) : s.Holds env body.balances := by
  obtain ⟨grouped, hgrouped, h⟩ := Outcome.bind_eq_ok.mp h
  obtain ⟨filled, hfilled, h⟩ := Outcome.bind_eq_ok.mp h
  cases h
  obtain ⟨-, rfl⟩ := groupBalances_eq_ok_iff.mp hgrouped
  obtain ⟨m', hm', hlookup⟩ := exists_filled env body.balances
  cases Outcome.ok.inj (hfilled.symm.trans hm')
  refine ⟨rfl, fun key => ?_⟩
  rw [hlookup, ← getD_lookup_grouped]
  cases (group (body.balances.filterMap fun b => (keyOf env b).map (·, b))).lookup key <;> rfl

/-! ## Aggregating -/

/-- The amount of an item, as far as it can be read. -/
def amountOf (env : AssetsEnv F) (b : BalanceItem F) : F :=
  (env.floats.parse b.quantity.numeric).getD env.floats.zero

/-- The amount of an item can be read. -/
def Counted (env : AssetsEnv F) (b : BalanceItem F) : Prop :=
  (env.floats.parse b.quantity.numeric).isSome

theorem unwrap_parse_eq_ok {b : BalanceItem F} (h : Counted env b) :
    (Outcome.unwrap (env.floats.parse b.quantity.numeric) : Outcome ε F) =
      .ok (amountOf env b) := by
  obtain ⟨x, hx⟩ := Option.isSome_iff_exists.mp h
  rw [amountOf, hx]
  rfl

/-- The largest amount at another index, of amounts that can be read. -/
def largestOther (env : AssetsEnv F) (currentIndex : Nat) (balances : List (BalanceItem F × Nat)) :
    F :=
  balances.foldl (fun highest b =>
    if b.2 ≠ currentIndex then env.floats.max (amountOf env b.1) highest else highest)
    env.floats.zero

/-- A group with its aggregated amounts. -/
def aggregated (env : AssetsEnv F) (balances : List (BalanceItem F)) : List (BalanceItem F) :=
  balances.zipIdx.map fun current =>
    withAggregatedValue env current.1
      (env.floats.add (amountOf env current.1) (largestOther env current.2 balances.zipIdx))

theorem highestOtherValue_eq_ok {currentIndex : Nat} {balances : List (BalanceItem F × Nat)}
    (h : ∀ b ∈ balances, Counted env b.1) :
    (highestOtherValue env currentIndex balances : Outcome ε F) =
      .ok (largestOther env currentIndex balances) := by
  refine Outcome.foldlM_eq_ok (fun highest b hb => ?_) _
  by_cases hindex : b.2 ≠ currentIndex
  · rw [if_pos hindex, if_pos hindex, unwrap_parse_eq_ok (h b hb)]
    rfl
  · rw [if_neg hindex, if_neg hindex]
    rfl

/-- **Aggregating** a group returns when every amount in it can be read, also the amounts of
    items that the filters will drop. -/
theorem aggregateGroup_eq_ok_iff {balances aggregatedBalances : List (BalanceItem F)} :
    (aggregateGroup env balances : Outcome ε _) = .ok aggregatedBalances ↔
      (∀ b ∈ balances, Counted env b) ∧ aggregatedBalances = aggregated env balances := by
  have hreturns : (∀ b ∈ balances, Counted env b) →
      (aggregateGroup env balances : Outcome ε _) = .ok (aggregated env balances) := by
    intro h
    have hzip : ∀ current ∈ balances.zipIdx, Counted env current.1 := fun current hcurrent =>
      h _ (List.fst_mem_of_mem_zipIdx hcurrent)
    refine Outcome.mapM_eq_ok fun current hcurrent => ?_
    rw [unwrap_parse_eq_ok (hzip current hcurrent), highestOtherValue_eq_ok hzip]
    rfl
  constructor
  · intro h
    have hcounted : ∀ b ∈ balances, Counted env b := by
      intro b hb
      obtain ⟨current, hcurrent, rfl⟩ : ∃ current ∈ balances.zipIdx, current.1 = b := by
        rw [← List.zipIdx_map_fst 0 balances] at hb
        exact List.mem_map.mp hb
      obtain ⟨_, hstep⟩ := Outcome.exists_of_mapM_eq_ok h current hcurrent
      obtain ⟨x, hx, -⟩ := Outcome.bind_eq_ok.mp hstep
      exact Option.isSome_iff_exists.mpr ⟨x, Outcome.unwrap_eq_ok.mp hx⟩
    exact ⟨hcounted, Outcome.ok.inj (h.symm.trans (hreturns hcounted))⟩
  · rintro ⟨hcounted, rfl⟩
    exact hreturns hcounted

theorem applyAggregateBalanceValue_eq_ok_iff {m : HashMap TokenKey (List (BalanceItem F))}
    {balances : List (BalanceItem F)} :
    (applyAggregateBalanceValue env m : Outcome ε _) = .ok balances ↔
      (∀ key, ∀ b ∈ (m.lookup key).getD [], Counted env b) ∧
        balances = (env.balancesOrder.entries m).flatMap fun e => aggregated env e.2 := by
  have hgroups : (∀ key, ∀ b ∈ (m.lookup key).getD [], Counted env b) ↔
      ∀ e ∈ env.balancesOrder.entries m, ∀ b ∈ e.2, Counted env b := by
    constructor
    · intro h e he b hb
      refine h e.1 b ?_
      rw [env.balancesOrder.mem_entries.mp he]
      exact hb
    · intro h key b hb
      cases hlookup : m.lookup key with
      | none => rw [hlookup] at hb; exact absurd hb List.not_mem_nil
      | some items =>
        rw [hlookup] at hb
        exact h (key, items) (env.balancesOrder.mem_entries.mpr hlookup) b hb
  rw [applyAggregateBalanceValue, Outcome.bind_eq_ok, hgroups, List.flatMap_def]
  simp only [Outcome.mapM_eq_ok_iff fun _ _ => aggregateGroup_eq_ok_iff]
  constructor
  · rintro ⟨groups, ⟨hcounted, rfl⟩, hbalances⟩
    exact ⟨hcounted, (Outcome.ok.inj hbalances).symm⟩
  · rintro ⟨hcounted, rfl⟩
    exact ⟨_, ⟨hcounted, rfl⟩, rfl⟩

/-! ## Filtering -/

/-- The type of an address. -/
def AddressOrNative.assetType : AddressOrNative → AssetType
  | addressVariant _ => .erc20
  | native => .native

/-- What the filters let through, by chain and address. -/
def GetAssetsFilters.Keeps (filters : GetAssetsFilters) (chainId : Option String)
    (address : AddressOrNative) : Prop :=
  match filters.assetFilter with
  | some assetFilter => ∃ chain addresses, assetFilter.lookup chain = some addresses ∧
      address ∈ addresses ∧ chainId = some (evmChainId chain)
  | none =>
    (∀ types, filters.assetTypeFilter = some types → address.assetType ∈ types) ∧
      ∀ chains, filters.chainFilter = some chains →
        ∃ chain ∈ chains, chainId = some (evmChainId chain)

theorem assetTypeOf_eq {b : BalanceItem F} (h : Addressed env b) :
    assetTypeOf b = (addressOf env b).assetType := by
  rw [assetTypeOf, addressOf]
  cases haddress : b.address with
  | none => rfl
  | some text =>
    obtain ⟨address, ha⟩ := Option.isSome_iff_exists.mp (h text haddress)
    rw [Option.bind_some, ha]
    rfl

theorem onChainWithAddress_eq_ok_iff {chain : U64} {address : AddressOrNative}
    {b : BalanceItem F} {keep : Bool} :
    (onChainWithAddress env chain address b : Outcome ε Bool) = .ok keep ↔
      (b.chainId = some (evmChainId chain) → Addressed env b) ∧
        keep = decide (b.chainId = some (evmChainId chain) ∧ addressOf env b = address) := by
  rw [onChainWithAddress]
  by_cases hchain : b.chainId = some (evmChainId chain)
  · rw [if_pos hchain]
    simp only [hchain, Outcome.bind_eq_ok, addressOrNative_eq_ok_iff, Outcome.pure_eq,
      Outcome.ok.injEq, true_and, forall_const]
    constructor
    · rintro ⟨_, ⟨ha, rfl⟩, rfl⟩
      exact ⟨ha, rfl⟩
    · rintro ⟨ha, rfl⟩
      exact ⟨_, ⟨ha, rfl⟩, rfl⟩
  · rw [if_neg hchain]
    simp [hchain, eq_comm]

/-- The items of an entry of the asset filter. -/
def matching (env : AssetsEnv F) (balances : List (BalanceItem F)) (chain : U64)
    (address : AddressOrNative) : List (BalanceItem F) :=
  balances.filter fun b => b.chainId = some (evmChainId chain) ∧ addressOf env b = address

theorem extendMatching_eq_ok_iff {balances filtered kept : List (BalanceItem F)} {chain : U64}
    {address : AddressOrNative} :
    (extendMatching env balances chain filtered address : Outcome ε _) = .ok kept ↔
      (∀ b ∈ balances, b.chainId = some (evmChainId chain) → Addressed env b) ∧
        kept = filtered ++ matching env balances chain address := by
  rw [extendMatching, Outcome.foldlM_eq_ok_iff
    (P := fun b => b.chainId = some (evmChainId chain) → Addressed env b)
    (g := fun filtered b => if b.chainId = some (evmChainId chain) ∧ addressOf env b = address then
      filtered ++ [b] else filtered)]
  · refine and_congr Iff.rfl ?_
    suffices hfold : ∀ filtered, balances.foldl (fun filtered b =>
        if b.chainId = some (evmChainId chain) ∧ addressOf env b = address then filtered ++ [b]
        else filtered) filtered = filtered ++ matching env balances chain address by rw [hfold]
    induction balances with
    | nil => simp [matching]
    | cons b items ih =>
      intro filtered
      rw [List.foldl_cons, ih, matching, matching, List.filter_cons]
      split <;> simp_all
  · intro filtered b kept
    simp only [Outcome.bind_eq_ok, onChainWithAddress_eq_ok_iff, Outcome.pure_eq,
      Outcome.ok.injEq]
    constructor
    · rintro ⟨_, ⟨ha, rfl⟩, rfl⟩
      exact ⟨ha, by simp only [decide_eq_true_eq]⟩
    · rintro ⟨ha, rfl⟩
      exact ⟨_, ⟨ha, rfl⟩, by simp only [decide_eq_true_eq]⟩

/-- **The asset filter** goes through the items once for each address, and reads the addresses of
    those on the chain. An entry without addresses reads nothing. -/
theorem applyAssetFilter_eq_ok_iff {balances kept : List (BalanceItem F)}
    {assetFilter : HashMap U64 (List AddressOrNative)} :
    (applyAssetFilter env assetFilter balances : Outcome ε _) = .ok kept ↔
      (∀ entry ∈ env.filterOrder.entries assetFilter, entry.2 ≠ [] →
        ∀ b ∈ balances, b.chainId = some (evmChainId entry.1) → Addressed env b) ∧
      kept = (env.filterOrder.entries assetFilter).flatMap fun entry =>
        entry.2.flatMap fun address => matching env balances entry.1 address := by
  rw [applyAssetFilter, Outcome.foldlM_eq_ok_iff
    (P := fun entry => entry.2 ≠ [] →
      ∀ b ∈ balances, b.chainId = some (evmChainId entry.1) → Addressed env b)
    (g := fun filtered entry =>
      filtered ++ entry.2.flatMap fun address => matching env balances entry.1 address)]
  · rw [List.foldl_append_eq_append, List.nil_append, ← List.flatMap_def]
  · intro filtered entry kept
    rw [Outcome.foldlM_eq_ok_iff fun filtered address kept => extendMatching_eq_ok_iff,
      List.foldl_append_eq_append, ← List.flatMap_def]
    refine and_congr_left fun _ => ?_
    constructor
    · intro h hne
      obtain ⟨address, addresses, haddresses⟩ := List.exists_cons_of_ne_nil hne
      exact h address (by rw [haddresses]; exact List.mem_cons_self)
    · intro h address haddress
      exact h (List.ne_nil_of_mem haddress)

/-- A filter that may be absent. -/
theorem mem_optionalFilter {α : Type} {filter : α → List (BalanceItem F) → List (BalanceItem F)}
    {P : α → BalanceItem F → Prop} {b : BalanceItem F}
    (h : ∀ x balances, b ∈ filter x balances ↔ b ∈ balances ∧ P x b) (x : Option α)
    (balances : List (BalanceItem F)) :
    b ∈ (x.map (filter · balances)).getD balances ↔ b ∈ balances ∧ ∀ y, x = some y → P y b := by
  cases x with
  | none => simp
  | some x => simp [h]

theorem mem_applyAssetTypeFilter {b : BalanceItem F} (types : List AssetType)
    (balances : List (BalanceItem F)) :
    b ∈ applyAssetTypeFilter types balances ↔ b ∈ balances ∧ assetTypeOf b ∈ types := by
  rw [applyAssetTypeFilter, List.mem_filter, List.contains_iff_mem]

theorem mem_applyChainFilter {b : BalanceItem F} (chains : List U64)
    (balances : List (BalanceItem F)) :
    b ∈ applyChainFilter chains balances ↔
      b ∈ balances ∧ ∃ chain ∈ chains, b.chainId = some (evmChainId chain) := by
  rw [applyChainFilter, List.mem_filter, List.contains_iff_mem, List.mem_map]
  simp only [eq_comm]

/-- **Filtering** keeps the items that the filters let through. How often, and in which order, is
    left open here; `AssetFilters` counts. -/
theorem filterBalances_eq_ok {balances : List (BalanceItem F)}
    (h : ∀ b ∈ balances, Addressed env b) (filters : GetAssetsFilters) :
    ∃ kept, (filterBalances env balances filters : Outcome ε _) = .ok kept ∧
      ∀ b, b ∈ kept ↔ b ∈ balances ∧ filters.Keeps b.chainId (addressOf env b) := by
  cases hasset : filters.assetFilter with
  | some assetFilter =>
    -- the asset filter is the only one that is applied
    have hfilter : (filterBalances env balances filters : Outcome ε _) = (do
        let balances ← applyAssetFilter env assetFilter balances
        return sortBalancesByValue env balances) := by
      rw [filterBalances, hasset]
    have happly := (@applyAssetFilter_eq_ok_iff F ε env balances _ assetFilter).mpr
      ⟨fun _ _ _ b hb _ => h b hb, rfl⟩
    refine ⟨_, hfilter.trans (by rw [happly]; rfl), fun b => ?_⟩
    simp only [sortBalancesByValue, List.mem_mergeSort, List.mem_flatMap, matching,
      List.mem_filter, decide_eq_true_eq, GetAssetsFilters.Keeps, hasset, Prod.exists,
      env.filterOrder.mem_entries]
    constructor
    · rintro ⟨chain, addresses, hentry, address, haddress, hb, hchain, rfl⟩
      exact ⟨hb, chain, addresses, hentry, haddress, hchain⟩
    · rintro ⟨hb, chain, addresses, hentry, haddress, hchain⟩
      exact ⟨chain, addresses, hentry, _, haddress, hb, hchain, rfl⟩
  | none =>
    -- the other two filters, one after the other
    refine ⟨_, by rw [filterBalances, hasset]; rfl, fun b => ?_⟩
    rw [sortBalancesByValue, List.mem_mergeSort,
      mem_optionalFilter (P := fun chains b => ∃ chain ∈ chains,
        b.chainId = some (evmChainId chain)) mem_applyChainFilter,
      mem_optionalFilter (P := fun types b => assetTypeOf b ∈ types) mem_applyAssetTypeFilter,
      and_assoc]
    refine and_congr_right fun hb => ?_
    rw [assetTypeOf_eq (h b hb), GetAssetsFilters.Keeps, hasset]

/-! ## Listing -/

/-- Everything the response needs of an item can be read: a chain of the namespace `eip155` with a
    64-bit number, the amount, and the decimals both as a floating point number and as a byte. -/
structure Convertible (env : AssetsEnv F) (b : BalanceItem F) : Prop where
  chain : ((b.chainId.bind stripEip155).bind env.u64FromStr).isSome
  counted : Counted env b
  decimals : (env.floats.parse b.quantity.decimals).isSome ∧
    (parseUnsigned (2 ^ 8) b.quantity.decimals.toList).isSome

theorem responseKey_returns_iff {b : BalanceItem F} :
    (∃ key, (responseKey env b : Outcome ε U64) = .ok key) ↔
      ((b.chainId.bind stripEip155).bind env.u64FromStr).isSome := by
  simp only [responseKey, Outcome.bind_eq_ok, Outcome.unwrap_eq_ok]
  rw [Option.isSome_iff_exists]
  simp only [Option.bind_eq_some_iff]
  constructor
  · rintro ⟨key, chainId, hchain, reference, hreference, hkey⟩
    exact ⟨key, reference, ⟨chainId, hchain, hreference⟩, hkey⟩
  · rintro ⟨key, reference, ⟨chainId, hchain, hreference⟩, hkey⟩
    exact ⟨key, chainId, hchain, reference, hreference, hkey⟩

/-- What is listed for an item whose numbers are known. -/
def listedAsset (env : AssetsEnv F) (b : BalanceItem F) (balance : U256) (decimals : UInt8) :
    Asset F :=
  let data : AssetData F :=
    { address := addressOf env b
      balance := balance
      metadata :=
        { name := b.name
          symbol := b.symbol
          decimals := decimals
          iconUrl := b.iconUrl
          price := b.price
          value := b.value } }
  match b.address with
  | some _ => .erc20 data
  | none => .native data

theorem assetOf_eq_ok_iff {b : BalanceItem F} {asset : Asset F} :
    (assetOf env b : Outcome ε (Asset F)) = .ok asset ↔
      Addressed env b ∧ ∃ balance decimals,
        (convertBalanceToHex env b.quantity : Outcome ε U256) = .ok balance ∧
          (decimalsOf b : Outcome ε UInt8) = .ok decimals ∧
            asset = listedAsset env b balance decimals := by
  simp only [assetOf, Outcome.bind_eq_ok]
  cases haddress : b.address with
  | none =>
    -- a native token
    have haddressed : Addressed env b := fun a ha => by rw [haddress] at ha; cases ha
    have hnative : addressOf env b = .native := by rw [addressOf, haddress]; rfl
    simp only [listedAsset, haddress, hnative, Outcome.bind_eq_ok, Outcome.pure_eq,
      Outcome.ok.injEq]
    constructor
    · rintro ⟨balance, hbalance, decimals, hdecimals, rfl⟩
      exact ⟨haddressed, balance, decimals, hbalance, hdecimals, rfl⟩
    · rintro ⟨-, balance, decimals, hbalance, hdecimals, rfl⟩
      exact ⟨balance, hbalance, decimals, hdecimals, rfl⟩
  | some text =>
    -- a contract: the text has to end in an address
    have haddressed : Addressed env b ↔ (env.addressFromStr (lastSegment text)).isSome := by
      simp [Addressed, haddress]
    have haddressOf : ∀ a, env.addressFromStr (lastSegment text) = some a →
        addressOf env b = .addressVariant a := by
      intro a ha
      rw [addressOf, haddress, Option.bind_some, ha]
      rfl
    simp only [listedAsset, haddress, Outcome.bind_eq_ok, convertCaip10ToAddress_eq,
      Outcome.unwrap_eq_ok, Outcome.pure_eq, Outcome.ok.injEq, haddressed]
    constructor
    · rintro ⟨balance, hbalance, a, ha, decimals, hdecimals, rfl⟩
      refine ⟨Option.isSome_iff_exists.mpr ⟨a, ha⟩, balance, decimals, hbalance, hdecimals, ?_⟩
      rw [haddressOf a ha]
    · rintro ⟨hsome, balance, decimals, hbalance, hdecimals, rfl⟩
      obtain ⟨a, ha⟩ := Option.isSome_iff_exists.mp hsome
      refine ⟨balance, hbalance, a, ha, decimals, hdecimals, ?_⟩
      rw [haddressOf a ha]

theorem responseEntry_returns_iff {b : BalanceItem F} :
    (∃ entry, (responseEntry env b : Outcome ε _) = .ok entry) ↔
      Addressed env b ∧ Convertible env b := by
  -- the amount is converted if both numbers can be read
  have hhex : (∃ balance, (convertBalanceToHex env b.quantity : Outcome ε U256) = .ok balance) ↔
      Counted env b ∧ (env.floats.parse b.quantity.decimals).isSome := by
    simp only [convertBalanceToHex, Outcome.bind_eq_ok, Outcome.unwrap_eq_ok, Counted,
      Option.isSome_iff_exists, Outcome.pure_eq, Outcome.ok.injEq]
    constructor
    · rintro ⟨_, x, hx, y, hy, -⟩
      exact ⟨⟨x, hx⟩, y, hy⟩
    · rintro ⟨⟨x, hx⟩, y, hy⟩
      exact ⟨_, x, hx, y, hy, rfl⟩
  -- the decimals are read once more, as a byte
  have hdecimals : (∃ decimals, (decimalsOf b : Outcome ε UInt8) = .ok decimals) ↔
      (parseUnsigned (2 ^ 8) b.quantity.decimals.toList).isSome := by
    simp only [decimalsOf, Outcome.bind_eq_ok, Outcome.unwrap_eq_ok, Option.isSome_iff_exists,
      Outcome.pure_eq, Outcome.ok.injEq]
    constructor
    · rintro ⟨_, d, hd, -⟩
      exact ⟨d, hd⟩
    · rintro ⟨d, hd⟩
      exact ⟨_, d, hd, rfl⟩
  simp only [responseEntry, Outcome.bind_eq_ok, assetOf_eq_ok_iff]
  constructor
  · rintro ⟨_, key, hkey, _, ⟨haddressed, balance, decimals, hb, hd, -⟩, -⟩
    have hnumbers := hhex.mp ⟨balance, hb⟩
    exact ⟨haddressed, responseKey_returns_iff.mp ⟨key, hkey⟩, hnumbers.1, hnumbers.2,
      hdecimals.mp ⟨decimals, hd⟩⟩
  · rintro ⟨haddressed, hchain, hcounted, hparse, hbyte⟩
    obtain ⟨key, hkey⟩ := responseKey_returns_iff.mpr hchain
    obtain ⟨balance, hb⟩ := hhex.mpr ⟨hcounted, hparse⟩
    obtain ⟨decimals, hd⟩ := hdecimals.mpr hbyte
    exact ⟨_, key, hkey, _, ⟨haddressed, balance, decimals, hb, hd, rfl⟩, rfl⟩

/-- **Listing** returns when each item can be converted; under each chain are its items, in the
    order in which they were sorted. -/
theorem createResponse_eq_ok_iff {balances : List (BalanceItem F)} {result : GetAssetsResult F} :
    (createResponse env balances : Outcome ε _) = .ok result ↔
      (∀ b ∈ balances, Addressed env b ∧ Convertible env b) ∧
        result = group (balances.filterMap fun b =>
          (responseEntry env b : Outcome ε (U64 × Asset F)).toOption) := by
  refine (@Outcome.foldlM_record_eq_ok_iff ε _ _ _ (responseEntry env)
    (fun result entry => pushTo result entry.1 entry.2) balances ∅ result).trans ?_
  simp only [responseEntry_returns_iff]
  rfl

end BlockchainApi
