/-
  What `fill_missing_chains` completes (`src/handlers/json_rpc/wallet/get_assets.rs`).

  A token that can be bridged is to be listed on each supported chain on which it has a contract:
  with the items there are, and with an empty item where there is none.  `FillsGroup` is that
  postcondition, of one group: the items stay where they are, every such chain has an item, and what
  is added is at most one empty item a chain.

  The source fills a group only if it does not have as many items as there are supported chains.
  That is a count of items, and the filling goes by chains: three items of one chain are taken for
  one item on each of the three.

  1. **What is filled in, and where it is.** `covers_filledIn`: it completes the chains of a group
     of another size; `emptyOn_of_mem_filledIn`: each of its items is empty and under the contract
     of its chain; `nodup_filledIn`: no chain gets two.

  2. **One group.** `fillsGroup_iff`: a group is completed if and only if it does not have that many
     items, or has one on each chain.  In the second case nothing is filled in, and nothing is
     needed.

  3. **All groups.** `fillMissingChains_fills_iff`, for every map of groups and every order in which
     it is walked.

  The last section is three USDC on one chain, which are not filled, beside two, which are.
-/
import BlockchainApi.Wallet.AssetListing

namespace BlockchainApi

open ByteCodec HashMap

variable {F : Type} {ε : Type} {env : AssetsEnv F} {key : TokenKey}

/-! ## The postcondition: each supported chain with a contract has an item -/

/-- Each supported chain on which the token has a contract has an item. -/
def CoversChains (key : TokenKey) (balances : List (BalanceItem F)) : Prop :=
  ∀ chain ∈ supportedChains, (tokenContractOn key chain).isSome →
    ∃ b ∈ balances, b.chainId = some chain

/-- An empty item of the token, under its contract on the chain of the item. -/
structure EmptyOnChain (env : AssetsEnv F) (key : TokenKey) (b : BalanceItem F) : Prop where
  contract : ∃ chain contract, tokenContractOn key chain = some contract ∧
    b.chainId = some chain ∧ b.address = some (chain ++ ":" ++ env.displayAddress contract)
  numeric : b.quantity.numeric = "0"
  value : b.value = some env.floats.zero

/-- A group is completed: its items stay where they are, and at most one empty item a chain
    follows. Which supported chains get one is fixed by which have a contract and no item. -/
def FillsGroup (env : AssetsEnv F) (key : TokenKey) (balances filled : List (BalanceItem F)) :
    Prop :=
  ∃ added, filled = balances ++ added ∧ CoversChains key filled ∧
    (∀ b ∈ added, EmptyOnChain env key b) ∧ (added.map fun b => b.chainId).Nodup

/-- All groups are completed, and there is no other. -/
def FillsGroups (env : AssetsEnv F) (m filled : HashMap TokenKey (List (BalanceItem F))) : Prop :=
  ∀ key, Option.Rel (FillsGroup env key) (m.lookup key) (filled.lookup key)

/-! ## What is filled in: one empty item for each chain that is missing -/

theorem emptyOn_of_mem_filledIn {balances : List (BalanceItem F)} {b : BalanceItem F}
    (h : b ∈ filledIn env key balances) : EmptyOnChain env key b := by
  obtain ⟨chain, -, contract, hcontract, template, -, rfl⟩ := of_mem_filledIn h
  exact ⟨⟨chain, contract, hcontract, rfl, rfl⟩, rfl, rfl⟩

/-- A group of another size is given an item for each of its missing chains. -/
theorem map_chainId_filledIn {balances : List (BalanceItem F)} (hne : balances ≠ [])
    (hlength : balances.length ≠ supportedChains.length) :
    (filledIn env key balances).map (fun b => b.chainId) =
      (missingChains key balances).map some := by
  obtain ⟨template, rest, rfl⟩ := List.exists_cons_of_ne_nil hne
  rw [List.length_cons] at hlength
  rw [filledIn, if_pos hlength, List.map_filterMap, ← List.filterMap_eq_map]
  refine List.filterMap_congr fun chain hchain => ?_
  obtain ⟨contract, hcontract⟩ := Option.isSome_iff_exists.mp (isSome_tokenContractOn hchain)
  rw [hcontract]
  rfl

/-- No other group is given an item. -/
theorem filledIn_eq_nil {balances : List (BalanceItem F)}
    (h : ¬ (balances ≠ [] ∧ balances.length ≠ supportedChains.length)) :
    filledIn env key balances = [] := by
  cases balances with
  | nil => rfl
  | cons template rest =>
    have hlength : ¬ rest.length + 1 ≠ supportedChains.length := fun hlength =>
      h ⟨List.cons_ne_nil _ _, hlength⟩
    rw [filledIn, if_neg hlength]

theorem nodup_filledIn (balances : List (BalanceItem F)) :
    ((filledIn env key balances).map fun b => b.chainId).Nodup := by
  have hsupported : supportedChains.Nodup := by decide
  by_cases hfilled : balances ≠ [] ∧ balances.length ≠ supportedChains.length
  · rw [map_chainId_filledIn hfilled.1 hfilled.2]
    exact (hsupported.filter _).map (Option.some_injective String)
  · rw [filledIn_eq_nil hfilled]
    exact List.nodup_nil

/-- What is filled in completes the chains of a group of another size: a chain with a contract
    has an item of the group, or is missing and is filled. -/
theorem covers_filledIn {balances : List (BalanceItem F)} (hne : balances ≠ [])
    (hlength : balances.length ≠ supportedChains.length) :
    CoversChains key (balances ++ filledIn env key balances) := by
  intro chain hchain hcontract
  by_cases hthere : ∃ b ∈ balances, b.chainId = some chain
  · obtain ⟨b, hb, hchainId⟩ := hthere
    exact ⟨b, List.mem_append_left _ hb, hchainId⟩
  · have hmissing : chain ∈ missingChains key balances := by
      refine List.mem_filter.mpr ⟨hchain, ?_⟩
      rw [hcontract, Bool.and_true, Bool.not_eq_true', List.any_eq_false]
      intro b hb hchainId
      exact hthere ⟨b, hb, of_decide_eq_true hchainId⟩
    have hadded : some chain ∈ (filledIn env key balances).map fun b => b.chainId := by
      rw [map_chainId_filledIn hne hlength]
      exact List.mem_map_of_mem hmissing
    obtain ⟨b, hb, hchainId⟩ := List.mem_map.mp hadded
    exact ⟨b, List.mem_append_right _ hb, hchainId⟩

/-! ## Which groups are completed

The pass does one of two things to a group, and the case is decided by its length alone. -/

/-- **One group**: it is completed unless it has as many items as there are chains without having
    one on each. A group of that size is left as it is, so it has to be complete already. -/
theorem fillsGroup_iff {balances : List (BalanceItem F)} (hne : balances ≠ []) :
    FillsGroup env key balances (balances ++ filledIn env key balances) ↔
      (balances.length = supportedChains.length → CoversChains key balances) := by
  constructor
  · rintro ⟨added, -, hcovers, -, -⟩ hlength
    have hnil : filledIn env key balances = [] := filledIn_eq_nil fun h => h.2 hlength
    rwa [hnil, List.append_nil] at hcovers
  · intro h
    refine ⟨_, rfl, ?_, fun b hb => emptyOn_of_mem_filledIn hb, nodup_filledIn balances⟩
    by_cases hlength : balances.length = supportedChains.length
    · intro chain hchain hcontract
      obtain ⟨b, hb, hchainId⟩ := h hlength chain hchain hcontract
      exact ⟨b, List.mem_append_left _ hb, hchainId⟩
    · exact covers_filledIn hne hlength

/-- **Missing chains are filled** in all groups if and only if each group with as many items as
    there are supported chains has one on each of them. -/
theorem fillMissingChains_fills_iff (env : AssetsEnv F)
    (m : HashMap TokenKey (List (BalanceItem F)))
    (h : ∀ key balances, m.lookup key = some balances → balances ≠ []) :
    ∃ filled, (fillMissingChains env m : Outcome ε _) = .ok filled ∧
      (FillsGroups env m filled ↔ ∀ key balances, m.lookup key = some balances →
        balances.length = supportedChains.length → CoversChains key balances) := by
  obtain ⟨filled, hfilled, hlookup⟩ := @fillMissingChains_eq_ok F ε env m h
  refine ⟨filled, hfilled, forall_congr' fun key => ?_⟩
  rw [hlookup key]
  cases hgroup : m.lookup key with
  | none => simp
  | some balances =>
    rw [Option.map_some, Option.rel_some_some, fillsGroup_iff (h key balances hgroup)]
    simp

/-! ## Groups of USDC: three items on one chain, and two -/

/-- One USDC on Base. -/
def baseUsdc : BalanceItem U256 where
  name := "USD Coin"
  symbol := "USDC"
  chainId := some chainIdBase
  address := some "eip155:8453:0x833589fcd6edb6e08f4c7c32d4f71b54bda02913"
  value := none
  price := 1
  quantity := ⟨"6", "1"⟩
  iconUrl := ""

/-- USDC on Base alone, in this many items. -/
def onBase (items : Nat) : HashMap TokenKey (List (BalanceItem U256)) :=
  ofPairs [(.usdc, List.replicate items baseUsdc)]

theorem lookup_onBase {items : Nat} {key : TokenKey} {balances : List (BalanceItem U256)}
    (h : (onBase items).lookup key = some balances) : balances = List.replicate items baseUsdc := by
  obtain ⟨-, rfl⟩ := Prod.mk.inj (List.mem_singleton.mp (mem_of_lookup_ofPairs h))
  rfl

theorem fillMissingChains_fills_onBase :
    ∃ filled, (fillMissingChains (demoAssetsEnv demoWholeFloats) (onBase 1) :
        Outcome GetAssetsError _) = .ok filled ∧
      FillsGroups (demoAssetsEnv demoWholeFloats) (onBase 1) filled := by
  obtain ⟨filled, hfilled, hfills⟩ := @fillMissingChains_fills_iff _ GetAssetsError
    (demoAssetsEnv demoWholeFloats) (onBase 1) fun key balances h => by
      rw [lookup_onBase h]
      exact List.cons_ne_nil _ _
  refine ⟨filled, hfilled, hfills.mpr fun key balances h hlength => ?_⟩
  rw [lookup_onBase h] at hlength
  cases hlength

/-- **Three items on one chain are not filled**, although none is on the others. -/
theorem not_fillMissingChains_fills :
    ¬ ∀ m : HashMap TokenKey (List (BalanceItem U256)),
      (∀ key balances, m.lookup key = some balances → balances ≠ []) →
        ∃ filled, (fillMissingChains (demoAssetsEnv demoWholeFloats) m :
            Outcome GetAssetsError _) = .ok filled ∧
          FillsGroups (demoAssetsEnv demoWholeFloats) m filled := by
  intro h
  obtain ⟨filled, hfilled, hfills⟩ := h (onBase 3) fun key balances h => by
    rw [lookup_onBase h]
    exact List.cons_ne_nil _ _
  -- nothing is added
  obtain rfl : filled = onBase 3 := Outcome.ok.inj (hfilled.symm.trans rfl)
  have hgroup : (onBase 3).lookup .usdc = some (List.replicate 3 baseUsdc) := rfl
  have husdc := hfills .usdc
  rw [hgroup, Option.rel_some_some] at husdc
  obtain ⟨-, -, hcovers, -, -⟩ := husdc
  obtain ⟨b, hb, hchain⟩ := hcovers chainIdOptimism (by decide) (by decide)
  rw [List.eq_of_mem_replicate hb] at hchain
  exact absurd hchain (by decide)

end BlockchainApi
