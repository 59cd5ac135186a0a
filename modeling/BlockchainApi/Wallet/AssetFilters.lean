/-
  What the filters of `wallet_getAssets` select (`filter_balances`,
  `src/handlers/json_rpc/wallet/get_assets.rs`).

  A request may filter by assets, by asset types and by chains.  What is to be listed are the items
  that satisfy each filter that is there (`Satisfies`), each as often as it was there, the larger
  value first: `SelectsExactly`, a permutation of a filtered list together with an order.

  The type and the chain filter drop items.  The asset filter goes through its addresses and lists
  the items of each, so an address that is listed twice lists its items twice; and behind it the
  source returns, as if the other filters were redundant, so items that fail them stay.

  1. **Without an asset filter** nothing can go wrong: both other filters are plain selections
     (`optionalFilter_eq`), and sorting is a permutation (`selectsExactly_of_none`).

  2. **With one**, the number of times an item is kept is a count: the walk over the entries of the
     filter is a `List.flatMap`, and its multiplicities are those of `Lib.Multiplicity`.  On a chain
     of the filter an item is listed as often as its address is (`listings_eq`), elsewhere never.

  3. **The condition.** A list is a permutation of the selection exactly if all counts agree
     (`perm_selection_iff`), so exactness comes down to one equation for each item, which
     `listings_exact_iff` turns into `ListsOnce`.  `filterBalances_exact_iff` is the whole.

  The order in which the source walks the map of the filter is a parameter; it does not matter here.
-/
import BlockchainApi.Lib.Multiplicity
import BlockchainApi.Wallet.MissingChains

namespace BlockchainApi

open HashMap

variable {F : Type} {env : AssetsEnv F} {balances : List (BalanceItem F)}

/-! ## The selection: what a request asks for, and when it gets exactly that -/

/-- The asset filter lists the item: its address under its chain. -/
def InAssetFilter (env : AssetsEnv F) (assetFilter : HashMap U64 (List AddressOrNative))
    (b : BalanceItem F) : Prop :=
  ∃ chain addresses, assetFilter.lookup chain = some addresses ∧
    b.chainId = some (evmChainId chain) ∧ Addressed env b ∧ addressOf env b ∈ addresses

/-- The item passes the type filter and the chain filter, if they are there. -/
structure PassesTypeAndChain (filters : GetAssetsFilters) (b : BalanceItem F) : Prop where
  type : ∀ types, filters.assetTypeFilter = some types → assetTypeOf b ∈ types
  chain : ∀ chains, filters.chainFilter = some chains →
    ∃ chain ∈ chains, b.chainId = some (evmChainId chain)

/-- The item satisfies each filter that is there. -/
structure Satisfies (env : AssetsEnv F) (filters : GetAssetsFilters) (b : BalanceItem F) : Prop
    extends PassesTypeAndChain filters b where
  asset : ∀ assetFilter, filters.assetFilter = some assetFilter → InAssetFilter env assetFilter b

open Classical in
/-- What was kept are the items that satisfy the filters, each as often as it was there, sorted
    by their values. The order of items of one value is left open. -/
structure SelectsExactly (env : AssetsEnv F) (filters : GetAssetsFilters)
    (balances kept : List (BalanceItem F)) : Prop where
  perm : kept.Perm (balances.filter fun b => Satisfies env filters b)
  sorted : kept.Pairwise fun b₁ b₂ =>
    env.floats.totalCmp (b₂.value.getD env.floats.zero) (b₁.value.getD env.floats.zero) ≠ .gt

/-- The asset filter, if there is one, lists each item it lets through once, and the other
    filters let the item through. The addresses that it is compared with can be read: an address
    that cannot makes the pass panic. -/
def ListsOnce (env : AssetsEnv F) (filters : GetAssetsFilters) (balances : List (BalanceItem F)) :
    Prop :=
  ∀ assetFilter, filters.assetFilter = some assetFilter →
    ∀ chain addresses, assetFilter.lookup chain = some addresses → addresses ≠ [] →
      ∀ b ∈ balances, b.chainId = some (evmChainId chain) →
        Addressed env b ∧ (addressOf env b ∈ addresses →
          addresses.count (addressOf env b) = 1 ∧ PassesTypeAndChain filters b)

/-! ## Sorting: a permutation, the larger value first -/

theorem perm_sortBalancesByValue : (sortBalancesByValue env balances).Perm balances :=
  List.mergeSort_perm _ _

/-- The values are sorted, as `total_cmp` is a total order. -/
theorem pairwise_sortBalancesByValue [Std.TransCmp env.floats.totalCmp] :
    (sortBalancesByValue env balances).Pairwise fun b₁ b₂ =>
      env.floats.totalCmp (b₂.value.getD env.floats.zero) (b₁.value.getD env.floats.zero) ≠
        .gt := by
  refine (List.pairwise_mergeSort (fun b₁ b₂ b₃ h₁₂ h₂₃ => ?_) (fun b₁ b₂ => ?_) balances).imp
    fun h => bne_iff_ne.mp h
  · rw [bne_iff_ne] at h₁₂ h₂₃ ⊢
    exact Ordering.isLE_iff_ne_gt.mp (Std.TransCmp.isLE_trans (Ordering.isLE_iff_ne_gt.mpr h₂₃)
      (Ordering.isLE_iff_ne_gt.mpr h₁₂))
  · have hswap : env.floats.totalCmp (b₁.value.getD env.floats.zero)
          (b₂.value.getD env.floats.zero) =
        (env.floats.totalCmp (b₂.value.getD env.floats.zero)
          (b₁.value.getD env.floats.zero)).swap := Std.OrientedCmp.eq_swap
    rw [Bool.or_eq_true, bne_iff_ne, bne_iff_ne, hswap]
    cases env.floats.totalCmp (b₂.value.getD env.floats.zero) (b₁.value.getD env.floats.zero) <;>
      simp

/-! ## The type filter and the chain filter: items are dropped, and nothing else -/

open Classical in
/-- A filter that may be absent is one selection: every item passes a filter that is not there. -/
theorem optionalFilter_eq {α : Type} (keep : α → BalanceItem F → Bool) (x : Option α)
    (balances : List (BalanceItem F)) :
    (x.map fun y => balances.filter (keep y)).getD balances =
      balances.filter fun b => ∀ y, x = some y → keep y b := by
  cases x with
  | none => simp
  | some x => simp

theorem chainId_mem_map_iff {chains : List U64} {b : BalanceItem F} :
    b.chainId ∈ chains.map (fun chain => some (evmChainId chain)) ↔
      ∃ chain ∈ chains, b.chainId = some (evmChainId chain) := by
  rw [List.mem_map]
  exact exists_congr fun chain => and_congr_right fun _ => eq_comm

/-- Without an asset filter the selection is exact: two selections in a row are the selection by
    both conditions. -/
theorem selectsExactly_of_none [Std.TransCmp env.floats.totalCmp] {filters : GetAssetsFilters}
    (h : filters.assetFilter = none) :
    SelectsExactly env filters balances (sortBalancesByValue env
      ((filters.chainFilter.map (applyChainFilter ·
        ((filters.assetTypeFilter.map (applyAssetTypeFilter · balances)).getD balances))).getD
          ((filters.assetTypeFilter.map (applyAssetTypeFilter · balances)).getD balances))) := by
  refine ⟨perm_sortBalancesByValue.trans (.of_eq ?_), pairwise_sortBalancesByValue⟩
  unfold applyChainFilter applyAssetTypeFilter
  rw [optionalFilter_eq, optionalFilter_eq, List.filter_filter]
  refine List.filter_congr fun b _ => ?_
  rw [← Bool.decide_and, decide_eq_decide]
  simp only [List.contains_iff_mem, chainId_mem_map_iff]
  constructor
  · rintro ⟨hchain, htype⟩
    exact ⟨⟨htype, hchain⟩, fun _ hasset => by rw [h] at hasset; cases hasset⟩
  · intro hsat
    exact ⟨hsat.chain, hsat.type⟩

/-! ## The asset filter

Its entries are walked chain by chain and address by address. How often that lists an item is a
sum over the entries with the chain of the item, and there is at most one. -/

/-- A chain is known by its CAIP-2 name. -/
theorem evmChainId_injective : Function.Injective evmChainId := by
  intro m n h
  have htext : toString m.toNat = toString n.toNat := by
    have hstrip := congrArg stripEip155 h
    rw [stripEip155_evmChainId, stripEip155_evmChainId] at hstrip
    exact Option.some.inj hstrip
  have hread : parseUnsigned (2 ^ 64) (toString m.toNat).toList = some m.toNat :=
    parseUnsigned_toString m.isLt
  rw [htext, parseUnsigned_toString n.isLt] at hread
  exact (BitVec.eq_of_toNat_eq (Option.some.inj hread)).symm

/-- The item is on the chain, and has the address. -/
def picks (env : AssetsEnv F) (key : U64 × AddressOrNative) (b : BalanceItem F) : Bool :=
  b.chainId = some (evmChainId key.1) ∧ addressOf env b = key.2

/-- How often the asset filter lists an item: once for each time its address stands in an entry
    with its chain. -/
def listings (env : AssetsEnv F) (assetFilter : HashMap U64 (List AddressOrNative))
    (b : BalanceItem F) : Nat :=
  (List.listed (env.filterOrder.entries assetFilter)).countP fun key => picks env key b

variable {assetFilter : HashMap U64 (List AddressOrNative)} {b : BalanceItem F}

/-- What the asset filter selects, as a selection by its chains and addresses. The source nests
    two loops; this is the flat list of the pairs that they come to. -/
theorem flatMap_matching :
    ((env.filterOrder.entries assetFilter).flatMap fun entry =>
      entry.2.flatMap fun address => matching env balances entry.1 address) =
      (List.listed (env.filterOrder.entries assetFilter)).flatMap fun key =>
        balances.filter (picks env key) := by
  simp only [List.listed, List.flatMap_assoc, List.flatMap_map, matching]
  rfl

/-- On a chain of the asset filter, an item is listed as often as its address is. No other entry
    has that chain, since the entries are those of a map. -/
theorem listings_eq {chain : U64} {addresses : List AddressOrNative}
    (hlookup : assetFilter.lookup chain = some addresses)
    (hchain : b.chainId = some (evmChainId chain)) :
    listings env assetFilter b = addresses.count (addressOf env b) := by
  rw [← List.count_listed_of_mem (env.filterOrder.nodup_keys assetFilter)
    (env.filterOrder.mem_entries.mpr hlookup), listings, List.count_eq_countP]
  refine List.countP_congr fun key _ => ?_
  rw [picks, hchain, decide_eq_true_eq, beq_iff_eq, Option.some.injEq, Prod.ext_iff]
  constructor
  · rintro ⟨hname, haddress⟩
    exact ⟨(evmChainId_injective hname).symm, haddress.symm⟩
  · rintro ⟨hkey, haddress⟩
    exact ⟨by rw [hkey], haddress.symm⟩

/-- What no entry has is not listed. -/
theorem listings_eq_zero (h : ∀ chain addresses, assetFilter.lookup chain = some addresses →
    b.chainId = some (evmChainId chain) → addressOf env b ∉ addresses) :
    listings env assetFilter b = 0 := by
  rw [listings, List.countP_eq_zero]
  rintro ⟨chain, address⟩ hkey hpicks
  obtain ⟨entry, hentry, hmem⟩ := List.mem_flatMap.mp hkey
  obtain ⟨_, haddress, heq⟩ := List.mem_map.mp hmem
  cases heq
  rw [picks, decide_eq_true_eq] at hpicks
  refine h entry.1 entry.2 (env.filterOrder.mem_entries.mp hentry) hpicks.1 ?_
  rw [hpicks.2]
  exact haddress

open Classical in
/-- What the asset filter selects are the items that satisfy the filters, if it lists each of
    them once and no other item: two lists are permutations of each other if they agree in every
    count. -/
theorem perm_selection_iff {filters : GetAssetsFilters} :
    ((List.listed (env.filterOrder.entries assetFilter)).flatMap fun key =>
        balances.filter (picks env key)).Perm (balances.filter fun b => Satisfies env filters b) ↔
      ∀ b ∈ balances, listings env assetFilter b = if Satisfies env filters b then 1 else 0 := by
  rw [List.flatMap_filter_perm_iff]
  simp only [decide_eq_true_eq]
  rfl

open Classical in
/-- That is so if and only if it lists each item that it lets through once, and the other filters
    let the item through. -/
theorem listings_exact_iff {filters : GetAssetsFilters}
    (hasset : filters.assetFilter = some assetFilter) :
    (∀ entry ∈ env.filterOrder.entries assetFilter, entry.2 ≠ [] →
        ∀ b ∈ balances, b.chainId = some (evmChainId entry.1) → Addressed env b) ∧
      (∀ b ∈ balances, listings env assetFilter b = if Satisfies env filters b then 1 else 0) ↔
      ListsOnce env filters balances := by
  constructor
  -- an item whose address is listed has a count that is not zero, so it satisfies the filters
  · rintro ⟨hread, hexact⟩ f hf chain addresses hlookup hne b hb hchain
    obtain rfl : assetFilter = f := Option.some.inj (hasset.symm.trans hf)
    have hentry := env.filterOrder.mem_entries.mpr hlookup
    refine ⟨hread _ hentry hne b hb hchain, fun haddress => ?_⟩
    have hpos : addresses.count (addressOf env b) ≠ 0 :=
      Nat.pos_iff_ne_zero.mp (List.count_pos_iff.mpr haddress)
    have hcount := hexact b hb
    rw [listings_eq hlookup hchain] at hcount
    by_cases hsat : Satisfies env filters b
    · rw [if_pos hsat] at hcount
      exact ⟨hcount, hsat.toPassesTypeAndChain⟩
    · rw [if_neg hsat] at hcount
      exact absurd hcount hpos
  · intro h
    have h := h assetFilter hasset
    refine ⟨fun entry hentry hne b hb hchain =>
      (h _ _ (env.filterOrder.mem_entries.mp hentry) hne b hb hchain).1, fun b hb => ?_⟩
    by_cases hsat : Satisfies env filters b
    -- the entry that lists the item lists it once; an item that no entry lists has count zero
    · obtain ⟨chain, addresses, hlookup, hchain, -, haddress⟩ := hsat.asset assetFilter hasset
      rw [if_pos hsat, listings_eq hlookup hchain]
      exact ((h chain addresses hlookup (List.ne_nil_of_mem haddress) b hb hchain).2 haddress).1
    · rw [if_neg hsat]
      refine listings_eq_zero fun chain addresses hlookup hchain haddress => hsat ?_
      obtain ⟨hread, hpass⟩ :=
        h chain addresses hlookup (List.ne_nil_of_mem haddress) b hb hchain
      refine ⟨(hpass haddress).2, fun f hf => ?_⟩
      obtain rfl : assetFilter = f := Option.some.inj (hasset.symm.trans hf)
      exact ⟨chain, addresses, hlookup, hchain, hread, haddress⟩

/-! ## All filters: the source returns behind the asset filter -/

/-- **Filters select exactly** if and only if there is no asset filter, or it lists each item
    that it lets through once and the other filters let that item through. The left side includes
    that the pass returns at all. -/
theorem filterBalances_exact_iff (env : AssetsEnv F) [Std.TransCmp env.floats.totalCmp]
    (balances : List (BalanceItem F)) (filters : GetAssetsFilters) :
    (∃ kept, (filterBalances env balances filters : Outcome GetAssetsError _) = .ok kept ∧
      SelectsExactly env filters balances kept) ↔ ListsOnce env filters balances := by
  cases hasset : filters.assetFilter with
  | none =>
    -- without an asset filter every item is looked at once
    have hrun : (filterBalances env balances filters : Outcome GetAssetsError _) =
        .ok (sortBalancesByValue env ((filters.chainFilter.map (applyChainFilter ·
          ((filters.assetTypeFilter.map (applyAssetTypeFilter · balances)).getD balances))).getD
            ((filters.assetTypeFilter.map (applyAssetTypeFilter · balances)).getD balances))) := by
      rw [filterBalances, hasset]
      rfl
    refine iff_of_true ⟨_, hrun, selectsExactly_of_none hasset⟩ ?_
    intro f hf
    rw [hasset] at hf
    cases hf
  | some assetFilter =>
    -- with one, an item is looked at once for each entry that lists it
    have hrun : ∀ kept, (filterBalances env balances filters : Outcome GetAssetsError _) =
        .ok kept ↔ (∀ entry ∈ env.filterOrder.entries assetFilter, entry.2 ≠ [] →
          ∀ b ∈ balances, b.chainId = some (evmChainId entry.1) → Addressed env b) ∧
        kept = sortBalancesByValue env ((List.listed (env.filterOrder.entries assetFilter)).flatMap
          fun key => balances.filter (picks env key)) := by
      intro kept
      rw [filterBalances, hasset, ← flatMap_matching]
      simp only [Outcome.bind_eq_ok, applyAssetFilter_eq_ok_iff, Outcome.pure_eq,
        Outcome.ok.injEq]
      -- sorting does not change how often an item is there
      constructor
      · rintro ⟨_, ⟨hread, rfl⟩, rfl⟩
        exact ⟨hread, rfl⟩
      · rintro ⟨hread, rfl⟩
        exact ⟨_, ⟨hread, rfl⟩, rfl⟩
    simp only [hrun, and_assoc, exists_and_left, exists_eq_left]
    rw [← listings_exact_iff hasset]
    refine and_congr_right fun _ => ?_
    rw [← perm_selection_iff]
    constructor
    · intro hexact
      exact perm_sortBalancesByValue.symm.trans hexact.perm
    · intro hperm
      exact ⟨perm_sortBalancesByValue.trans hperm, pairwise_sortBalancesByValue⟩

/-! ## Ether on two chains, and an address that is listed twice -/

theorem transCmp_demoWholeFloats :
    Std.TransCmp (demoAssetsEnv demoWholeFloats).floats.totalCmp where
  eq_swap {x y} := @Std.OrientedCmp.eq_swap Nat compare _ x.toNat y.toNat
  isLE_trans {x y z} := @Std.TransCmp.isLE_trans Nat compare _ x.toNat y.toNat z.toNat

/-- Ether on Optimism. -/
def etherItem : BalanceItem U256 := zerionBalanceItem noMetadata (demoPosition "optimism")

/-- Ether on Base. -/
def baseEtherItem : BalanceItem U256 := zerionBalanceItem noMetadata (demoPosition "base")

/-- Native tokens on Optimism, listed so many times. -/
def nativeFilter (times : Nat) : GetAssetsFilters :=
  ⟨some (ofPairs [(10, List.replicate times .native)]), some [.native], none⟩

/-- Of ether on two chains, the filter keeps the one on Optimism. -/
theorem filterBalances_exact_ether :
    ∃ kept, (filterBalances (demoAssetsEnv demoWholeFloats) [etherItem, baseEtherItem]
        (nativeFilter 1) : Outcome GetAssetsError _) = .ok kept ∧
      SelectsExactly (demoAssetsEnv demoWholeFloats) (nativeFilter 1) [etherItem, baseEtherItem]
        kept := by
  have := transCmp_demoWholeFloats
  refine (filterBalances_exact_iff (demoAssetsEnv demoWholeFloats) [etherItem, baseEtherItem]
    (nativeFilter 1)).mpr ?_
  intro assetFilter hasset chain addresses hlookup _ b hb hchain
  cases hasset
  obtain ⟨rfl, rfl⟩ := Prod.mk.inj (List.mem_singleton.mp (mem_of_lookup_ofPairs hlookup))
  rcases List.mem_pair.mp hb with rfl | rfl
  · have hread : Addressed (demoAssetsEnv demoWholeFloats) etherItem := by
      intro a ha
      cases ha
    refine ⟨hread, fun _ => ⟨rfl, fun types htypes => ?_, fun chains hchains => ?_⟩⟩
    · cases htypes
      exact List.mem_singleton.mpr rfl
    · cases hchains
  · -- Base is not listed
    exact absurd hchain (by decide)

/-- **An address that is listed twice** lists its items twice. -/
theorem not_filterBalances_exact :
    ¬ ∀ (balances : List (BalanceItem U256)) (filters : GetAssetsFilters),
      ∃ kept, (filterBalances (demoAssetsEnv demoWholeFloats) balances filters :
          Outcome GetAssetsError _) = .ok kept ∧
        SelectsExactly (demoAssetsEnv demoWholeFloats) filters balances kept := by
  intro h
  obtain ⟨kept, hkept, hexact⟩ := h [etherItem] (nativeFilter 2)
  have htwice : (filterBalances (demoAssetsEnv demoWholeFloats) [etherItem] (nativeFilter 2) :
      Outcome GetAssetsError _) =
        .ok (sortBalancesByValue (demoAssetsEnv demoWholeFloats) [etherItem, etherItem]) := rfl
  obtain rfl := Outcome.ok.inj (hkept.symm.trans htwice)
  have hle := (perm_sortBalancesByValue.symm.trans hexact.perm).length_eq.trans_le
    (List.length_filter_le _ _)
  exact absurd hle (by decide)

end BlockchainApi
