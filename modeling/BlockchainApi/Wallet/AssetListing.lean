/-
  Which balances `wallet_getAssets` can list.

  Every pass of the method unwraps, so a body of balances either gets through all five passes or
  makes one of them panic.  `Listable` is the condition in terms of the body and the filters alone:
  every item has a chain and a readable address, the amounts of grouped items can be read, and what
  the filters keep has a numeric chain, an amount and decimals.

  1. **What is filtered**, from a run of the first three passes (`mem_toFilter`): the groups
     completed and aggregated, and the items of no group.

  2. **What of it needs to be read**, in terms of the body (`counted_completed_iff`,
     `convertible_kept_iff`).  Aggregation changes neither chain nor address, and what is filled in
     has the decimals of the first item of its group, so both come down to items of the body.

  3. **The condition.** `getAssets_of_listable` and `listable_of_getAssets` are its two directions,
     and `getAssetsHandler_returns_iff` puts the balance handler in front.

  4. **What a run lists.** `exists_asset`: every item that is kept has an asset under its chain.

  Zerion answers with positions on chains that have no number in the table of the source, and a body
  with such an item is not `Listable`: the first pass panics on it (`not_getAssets_returns`).
-/
import BlockchainApi.Providers.BalanceItems
import BlockchainApi.Wallet.AssetPasses

namespace BlockchainApi

open ByteCodec HashMap

variable {F : Type} {ε : Type} {env : AssetsEnv F}

/-! ## Which bodies are listed

The condition is stated of the body as the providers answered it. The lemmas below carry it
through the passes in both directions. -/

/-- What a body needs to be listed, each field the unwrap of one pass. -/
structure Listable (env : AssetsEnv F) (body : BalanceResponseBody F)
    (filters : GetAssetsFilters) : Prop where
  located : ∀ b ∈ body.balances, b.chainId.isSome
  addressed : ∀ b ∈ body.balances, Addressed env b
  /-- The amounts of the tokens that are aggregated can be read, kept or not. -/
  counted : ∀ b ∈ body.balances, (keyOf env b).isSome → Counted env b
  /-- What the filters keep can be converted. -/
  convertible : ∀ b ∈ body.balances, filters.Keeps b.chainId (addressOf env b) →
    Convertible env b
  /-- So can the decimals of what is filled in and kept: those of the first item of the group. -/
  filled : ∀ key, ∀ b ∈ filledIn env key (groupOf env body.balances key),
    filters.Keeps b.chainId (addressOf env b) →
      (env.floats.parse b.quantity.decimals).isSome ∧
        (parseUnsigned (2 ^ 8) b.quantity.decimals.toList).isSome

theorem stripEip155_evmChainId (n : U64) :
    stripEip155 (evmChainId n) = some (toString n.toNat) := by
  have hlist : (evmChainId n).toList = "eip155:".toList ++ (toString n.toNat).toList :=
    String.toList_append
  rw [stripEip155, hlist, List.take_left' (by rfl), List.drop_left' (by rfl), if_pos rfl,
    String.ofList_toList]

theorem exists_evmChainId {chain : String} (h : chain ∈ supportedChains) :
    ∃ n : U64, chain = evmChainId n := by
  simp only [supportedChains, List.mem_cons, List.not_mem_nil, or_false] at h
  rcases h with rfl | rfl | rfl
  · exact ⟨10, by decide⟩
  · exact ⟨8453, by decide⟩
  · exact ⟨42161, by decide⟩

/-- An item that is filled in has a supported chain, a contract and no amount. -/
theorem of_mem_filledIn {key : TokenKey} {balances : List (BalanceItem F)} {b : BalanceItem F}
    (h : b ∈ filledIn env key balances) :
    ∃ chain ∈ supportedChains, ∃ contract, tokenContractOn key chain = some contract ∧
      ∃ template, balances.head? = some template ∧
        b = missingItem env chain contract template := by
  cases balances with
  | nil => exact absurd h List.not_mem_nil
  | cons template rest =>
    rw [filledIn] at h
    split at h
    · obtain ⟨chain, hchain, hb⟩ := List.mem_filterMap.mp h
      obtain ⟨contract, hcontract, rfl⟩ := Option.map_eq_some_iff.mp hb
      exact ⟨chain, (List.mem_filter.mp hchain).1, contract, hcontract, template, rfl, rfl⟩
    · exact absurd h List.not_mem_nil

theorem addressed_missingItem (henv : env.Lawful) (chain : String) (contract : Address)
    (template : BalanceItem F) : Addressed env (missingItem env chain contract template) := by
  intro a ha
  cases Option.some.inj ha
  rw [lastSegment_append (henv.colon_notMem contract), henv.addressFromStr_display]
  rfl

/-- Aggregation changes neither chain nor address, and its amounts can be read: it prints them
    itself. -/
theorem convertible_withAggregatedValue_iff (henv : env.Lawful) {b : BalanceItem F} {x : F} :
    Convertible env (withAggregatedValue env b x) ↔
      ((b.chainId.bind stripEip155).bind env.u64FromStr).isSome ∧
        (env.floats.parse b.quantity.decimals).isSome ∧
          (parseUnsigned (2 ^ 8) b.quantity.decimals.toList).isSome :=
  ⟨fun h => ⟨h.chain, h.decimals⟩, fun h => ⟨h.1, henv.parse_display x, h.2⟩⟩

theorem mem_aggregated {balances : List (BalanceItem F)} {c : BalanceItem F} :
    c ∈ aggregated env balances → ∃ b ∈ balances, ∃ x, c = withAggregatedValue env b x := by
  intro h
  obtain ⟨current, hcurrent, rfl⟩ := List.mem_map.mp h
  exact ⟨current.1, List.fst_mem_of_mem_zipIdx hcurrent, _, rfl⟩

theorem exists_mem_aggregated (env : AssetsEnv F) {balances : List (BalanceItem F)}
    {b : BalanceItem F} (h : b ∈ balances) :
    ∃ x, withAggregatedValue env b x ∈ aggregated env balances := by
  rw [← List.zipIdx_map_fst 0 balances] at h
  obtain ⟨current, hcurrent, rfl⟩ := List.mem_map.mp h
  exact ⟨_, List.mem_map.mpr ⟨current, hcurrent, rfl⟩⟩

/-- The items of a group with those that are filled in. -/
def completed (env : AssetsEnv F) (balances : List (BalanceItem F)) (key : TokenKey) :
    List (BalanceItem F) :=
  groupOf env balances key ++ filledIn env key (groupOf env balances key)

/-- What is filtered: the items of completed groups with their aggregated amounts, and the items of
    no group. -/
def ToFilter (env : AssetsEnv F) (balances : List (BalanceItem F)) (c : BalanceItem F) : Prop :=
  (∃ key, c ∈ aggregated env (completed env balances key)) ∨ c ∈ ungrouped env balances

/-- **What is filtered**, from a run of the first three passes: the groups completed and
    aggregated, and the items of no group, whatever the order in which the map of groups is
    walked. -/
theorem mem_toFilter {balances : List (BalanceItem F)} {s : Segregated F}
    (hs : s.Holds env balances) {c : BalanceItem F} :
    c ∈ (env.balancesOrder.entries s.toAggregateBalance).flatMap (fun e => aggregated env e.2) ++
        s.notToAggregateBalance ↔ ToFilter env balances c := by
  rw [List.mem_append, hs.rest, List.mem_flatMap]
  refine or_congr_left ⟨?_, ?_⟩
  · rintro ⟨e, he, hc⟩
    refine ⟨e.1, ?_⟩
    rw [completed, ← hs.group e.1, env.balancesOrder.mem_entries.mp he]
    exact hc
  · rintro ⟨key, hc⟩
    rw [completed, ← hs.group key] at hc
    cases hlookup : s.toAggregateBalance.lookup key with
    | none => rw [hlookup] at hc; exact absurd hc List.not_mem_nil
    | some items =>
      rw [hlookup] at hc
      exact ⟨(key, items), env.balancesOrder.mem_entries.mpr hlookup, hc⟩

theorem mem_groupOf {balances : List (BalanceItem F)} {key : TokenKey} {b : BalanceItem F} :
    b ∈ groupOf env balances key ↔ b ∈ balances ∧ keyOf env b = some key := by
  rw [groupOf, List.mem_filter, decide_eq_true_eq]

theorem addressed_completed (henv : env.Lawful) {balances : List (BalanceItem F)}
    (h : ∀ b ∈ balances, Addressed env b) {key : TokenKey} :
    ∀ b ∈ completed env balances key, Addressed env b := by
  intro b hb
  rcases List.mem_append.mp hb with hb | hb
  · exact h b (mem_groupOf.mp hb).1
  · obtain ⟨chain, -, contract, -, template, -, rfl⟩ := of_mem_filledIn hb
    exact addressed_missingItem henv chain contract template

/-- The amounts that are aggregated can be read if those of the body can: what is filled in has
    the amount zero, which can. -/
theorem counted_completed_iff (henv : env.Lawful) {balances : List (BalanceItem F)} :
    (∀ key, ∀ b ∈ completed env balances key, Counted env b) ↔
      ∀ b ∈ balances, (keyOf env b).isSome → Counted env b := by
  constructor
  · intro h b hb hkey
    obtain ⟨key, hkey⟩ := Option.isSome_iff_exists.mp hkey
    exact h key b (List.mem_append_left _ (mem_groupOf.mpr ⟨hb, hkey⟩))
  · intro h key b hb
    rcases List.mem_append.mp hb with hb | hb
    · obtain ⟨hb, hkey⟩ := mem_groupOf.mp hb
      exact h b hb (Option.isSome_iff_exists.mpr ⟨key, hkey⟩)
    · obtain ⟨chain, -, contract, -, template, -, rfl⟩ := of_mem_filledIn hb
      exact henv.parse_zero

/-- **The last two passes** return when what the filters keep can be converted, of the body and
    of what was filled in. An item of the body may come to the filters aggregated or as it is;
    either way the same texts are read of it. -/
theorem convertible_kept_iff (henv : env.Lawful) {balances : List (BalanceItem F)}
    (hcounted : ∀ b ∈ balances, (keyOf env b).isSome → Counted env b)
    {filters : GetAssetsFilters} :
    (∀ c, ToFilter env balances c → filters.Keeps c.chainId (addressOf env c) →
        Convertible env c) ↔
      (∀ b ∈ balances, filters.Keeps b.chainId (addressOf env b) → Convertible env b) ∧
        ∀ key, ∀ b ∈ filledIn env key (groupOf env balances key),
          filters.Keeps b.chainId (addressOf env b) →
            (env.floats.parse b.quantity.decimals).isSome ∧
              (parseUnsigned (2 ^ 8) b.quantity.decimals.toList).isSome := by
  constructor
  · intro h
    refine ⟨fun b hb hkeeps => ?_, fun key b hb hkeeps => ?_⟩
    · cases hkey : keyOf env b with
      | none =>
        exact h b (.inr (List.mem_filter.mpr ⟨hb, decide_eq_true hkey⟩)) hkeeps
      | some key =>
        obtain ⟨x, hx⟩ := exists_mem_aggregated env
          (List.mem_append_left (filledIn env key (groupOf env balances key))
            (mem_groupOf.mpr ⟨hb, hkey⟩))
        have hconv := h _ (.inl ⟨key, hx⟩) hkeeps
        exact ⟨hconv.chain, hcounted b hb (by rw [hkey]; rfl), hconv.decimals⟩
    · obtain ⟨x, hx⟩ := exists_mem_aggregated env
        (List.mem_append_right (groupOf env balances key) hb)
      exact (h _ (.inl ⟨key, hx⟩) hkeeps).decimals
  · rintro ⟨hbody, hfilled⟩ c hc hkeeps
    rcases hc with ⟨key, hc⟩ | hc
    · obtain ⟨b, hb, x, rfl⟩ := mem_aggregated hc
      rw [convertible_withAggregatedValue_iff henv]
      rcases List.mem_append.mp hb with hb | hb
      · have hconv := hbody b (mem_groupOf.mp hb).1 hkeeps
        exact ⟨hconv.chain, hconv.decimals⟩
      · refine ⟨?_, hfilled key b hb hkeeps⟩
        -- the number of a supported chain can be read
        obtain ⟨chain, hchain, contract, -, template, -, rfl⟩ := of_mem_filledIn hb
        obtain ⟨n, rfl⟩ := exists_evmChainId hchain
        show ((stripEip155 (evmChainId n)).bind env.u64FromStr).isSome
        rw [stripEip155_evmChainId, Option.bind_some, henv.u64FromStr_toString]
        rfl
    · exact hbody c (List.mem_filter.mp hc).1 hkeeps

/-- What is filtered has readable addresses. -/
theorem addressed_toFilter (henv : env.Lawful) {balances : List (BalanceItem F)}
    (h : ∀ b ∈ balances, Addressed env b) {c : BalanceItem F} (hc : ToFilter env balances c) :
    Addressed env c := by
  rcases hc with ⟨key, hc⟩ | hc
  · obtain ⟨b, hb, x, rfl⟩ := mem_aggregated hc
    exact addressed_completed henv h b hb
  · exact h c (List.mem_filter.mp hc).1

/-- The first three passes and the filters, when they return. -/
theorem exists_kept (henv : env.Lawful) {balances : List (BalanceItem F)} {s : Segregated F}
    (hs : s.Holds env balances) (h : ∀ b ∈ balances, Addressed env b) (filters : GetAssetsFilters) :
    ∃ kept, (filterBalances env ((env.balancesOrder.entries s.toAggregateBalance).flatMap
        (fun e => aggregated env e.2) ++ s.notToAggregateBalance) filters :
          Outcome ε _) = .ok kept ∧
      ∀ c, c ∈ kept ↔ ToFilter env balances c ∧ filters.Keeps c.chainId (addressOf env c) := by
  obtain ⟨kept, hkept, hmem⟩ := @filterBalances_eq_ok F ε env _
    (fun c hc => addressed_toFilter henv h ((mem_toFilter hs).mp hc)) filters
  exact ⟨kept, hkept, fun c => by rw [hmem, mem_toFilter hs]⟩

/-- **A run that returned**, pass by pass: what each of the passes found, and the list that was
    kept. -/
theorem of_getAssets_eq_ok (henv : env.Lawful) {body : BalanceResponseBody F}
    {filters : GetAssetsFilters} {result : GetAssetsResult F}
    (h : getAssets env body filters = .ok result) :
    (∀ b ∈ body.balances, b.chainId.isSome ∧ Addressed env b) ∧
      (∀ key, ∀ b ∈ completed env body.balances key, Counted env b) ∧
        ∃ kept, (∀ c, c ∈ kept ↔
            ToFilter env body.balances c ∧ filters.Keeps c.chainId (addressOf env c)) ∧
          (createResponse env kept : Outcome GetAssetsError _) = .ok result := by
  obtain ⟨s, hs, h⟩ := Outcome.bind_eq_ok.mp h
  obtain ⟨_, haggregate, h⟩ := Outcome.bind_eq_ok.mp h
  obtain ⟨hall, rfl⟩ := applyAggregateBalanceValue_eq_ok_iff.mp haggregate
  obtain ⟨_, hfiltered, hresponse⟩ := Outcome.bind_eq_ok.mp h
  have hread := segregateBalances_returns_iff.mp ⟨s, hs⟩
  have hholds := holds_of_segregateBalances hs
  obtain ⟨kept, hkept, hmem⟩ := exists_kept henv hholds (fun b hb => (hread b hb).2) filters
  cases Outcome.ok.inj (hkept.symm.trans hfiltered)
  refine ⟨hread, fun key b hb => hall key b ?_, _, hmem, hresponse⟩
  rw [hholds.group]
  exact hb

/-- A body that is `Listable` is listed. -/
theorem getAssets_of_listable (henv : env.Lawful) {body : BalanceResponseBody F}
    {filters : GetAssetsFilters} (h : Listable env body filters) :
    ∃ result, getAssets env body filters = .ok result := by
  obtain ⟨s, hs⟩ := (@segregateBalances_returns_iff F GetAssetsError env body).mpr
    fun b hb => ⟨h.located b hb, h.addressed b hb⟩
  have hholds := holds_of_segregateBalances hs
  have hcounted : ∀ key, ∀ b ∈ (s.toAggregateBalance.lookup key).getD [], Counted env b := by
    simp only [hholds.group]
    exact (counted_completed_iff henv).mpr h.counted
  have haggregate := (@applyAggregateBalanceValue_eq_ok_iff F GetAssetsError env
    s.toAggregateBalance _).mpr ⟨hcounted, rfl⟩
  obtain ⟨kept, hkept, hmem⟩ := exists_kept henv hholds h.addressed filters
  have hconv := (convertible_kept_iff henv h.counted).mpr ⟨h.convertible, h.filled⟩
  have hresponse := (@createResponse_eq_ok_iff F GetAssetsError env kept _).mpr
    ⟨fun c hc => ⟨addressed_toFilter henv h.addressed ((hmem c).mp hc).1,
      hconv c ((hmem c).mp hc).1 ((hmem c).mp hc).2⟩, rfl⟩
  exact ⟨_, Outcome.bind_eq_ok.mpr ⟨s, hs, Outcome.bind_eq_ok.mpr ⟨_, haggregate,
    Outcome.bind_eq_ok.mpr ⟨kept, hkept, hresponse⟩⟩⟩⟩

/-- And no other body is. -/
theorem listable_of_getAssets (henv : env.Lawful) {body : BalanceResponseBody F}
    {filters : GetAssetsFilters} {result : GetAssetsResult F}
    (h : getAssets env body filters = .ok result) : Listable env body filters := by
  obtain ⟨hread, hcounted, kept, hmem, hresponse⟩ := of_getAssets_eq_ok henv h
  have hcounted := (counted_completed_iff henv).mp hcounted
  have hconv := (createResponse_eq_ok_iff.mp hresponse).1
  obtain ⟨hbody, hfilled⟩ := (convertible_kept_iff henv hcounted).mp fun c hc hkeeps =>
    (hconv c ((hmem c).mpr ⟨hc, hkeeps⟩)).2
  exact ⟨fun b hb => (hread b hb).1, fun b hb => (hread b hb).2, hcounted, hbody, hfilled⟩

/-- **Assets are listed exactly where the body is `Listable`**; everything else is a panic of one of
    the passes. -/
theorem getAssets_returns_iff (henv : env.Lawful) (body : BalanceResponseBody F)
    (filters : GetAssetsFilters) :
    (∃ result, getAssets env body filters = .ok result) ↔ Listable env body filters :=
  ⟨fun ⟨_, h⟩ => listable_of_getAssets henv h, getAssets_of_listable henv⟩

/-- **The method answers exactly where the balance handler does** and its body, for the account on
    all chains and in US dollars, is `Listable`. -/
theorem getAssetsHandler_returns_iff (henv : env.Lawful)
    (balanceHandler : BalanceRequest → Outcome RpcError (BalanceResponseBody F))
    (projectId account : String) (headers : BalanceRequest) (filters : GetAssetsFilters) :
    (∃ result, getAssetsHandler env balanceHandler projectId account headers filters =
        .ok result) ↔
      ∃ body, balanceHandler { headers with
          address := account
          projectId := projectId
          currency := .usd
          chainId := none
          forceUpdate := none } = .ok body ∧ Listable env body filters := by
  constructor
  · rintro ⟨result, h⟩
    obtain ⟨body, hbody, hassets⟩ := Outcome.bind_eq_ok.mp h
    exact ⟨body, Outcome.mapErr_eq_ok.mp hbody, listable_of_getAssets henv hassets⟩
  · rintro ⟨body, hbody, hlistable⟩
    obtain ⟨result, hassets⟩ := getAssets_of_listable henv hlistable
    exact ⟨result, Outcome.bind_eq_ok.mpr ⟨body, Outcome.mapErr_eq_ok.mpr hbody, hassets⟩⟩

/-- **Every item that is kept has an asset** in the response, under its chain. No item is lost
    between the filters and the answer. -/
theorem exists_asset (henv : env.Lawful) {body : BalanceResponseBody F}
    {filters : GetAssetsFilters} {result : GetAssetsResult F}
    (hrun : getAssets env body filters = .ok result) {c : BalanceItem F}
    (hc : ToFilter env body.balances c) (hkeeps : filters.Keeps c.chainId (addressOf env c)) :
    ∃ chain asset, (responseEntry env c : Outcome GetAssetsError _) = .ok (chain, asset) ∧
      asset ∈ (result.lookup chain).getD [] := by
  obtain ⟨-, -, kept, hmem, hresponse⟩ := of_getAssets_eq_ok henv hrun
  obtain ⟨hread, rfl⟩ := createResponse_eq_ok_iff.mp hresponse
  have hkept := (hmem c).mpr ⟨hc, hkeeps⟩
  obtain ⟨⟨chain, asset⟩, hentry⟩ :=
    (@responseEntry_returns_iff F GetAssetsError env c).mpr (hread c hkept)
  refine ⟨chain, asset, hentry, mem_group.mpr (List.mem_filterMap.mpr ⟨c, hkept, ?_⟩)⟩
  exact Outcome.toOption_eq_some.mpr hentry

/-! ## Bodies with and without a panic: ether on chains of the table, and on another -/

/-- Addresses are printed in hex. -/
def demoDisplayAddress (address : Address) : String := "0x" ++ hexEncode address.bytes

/-- And read so. -/
def demoAddressFromStr (text : String) : Option Address :=
  match text.toList with
  | '0' :: 'x' :: digits =>
    match hexDecode (String.ofList digits) with
    | .ok bytes => FixedBytes.ofSlice? 20 bytes
    | .error _ => none
  | _ => none

theorem demoAddressFromStr_display (a : Address) :
    demoAddressFromStr (demoDisplayAddress a) = some a := by
  have htext : (demoDisplayAddress a).toList = '0' :: 'x' :: (hexEncode a.bytes).toList :=
    String.toList_append
  rw [demoAddressFromStr, htext]
  simp only [String.ofList_toList, hexDecode_hexEncode]
  exact FixedBytes.ofSlice?_bytes a

theorem colon_notMem_demoDisplayAddress (a : Address) : ':' ∉ (demoDisplayAddress a).toList := by
  have hdigit : ∀ n < 16, hexDigit n ≠ ':' := by decide
  have htext : (demoDisplayAddress a).toList = '0' :: 'x' :: hexText a.bytes := by
    rw [demoDisplayAddress, String.toList_append, hexEncode_eq, String.toList_ofList,
      String.toList_ofList]
    rfl
  rw [htext, hexText]
  simp only [List.mem_cons, List.mem_flatMap, List.not_mem_nil, or_false, not_or]
  refine ⟨by decide, by decide, ?_⟩
  rintro ⟨b, -, hb⟩
  have hbyte := b.toNat_lt
  rcases hb with hb | hb
  · exact hdigit _ (by omega) hb.symm
  · exact hdigit _ (by omega) hb.symm

/-- An environment over some floating point numbers. -/
def demoAssetsEnv (floats : AssetFloats F) : AssetsEnv F where
  floats := floats
  addressFromStr := demoAddressFromStr
  displayAddress := demoDisplayAddress
  u64FromStr text := (parseUnsigned (2 ^ 64) text.toList).map (BitVec.ofNat 64)
  groupsOrder := .inOrder
  balancesOrder := .inOrder
  filterOrder := .inOrder

theorem demoAssetsEnv_lawful {floats : AssetFloats F}
    (hdisplay : ∀ x, (floats.parse (floats.display x)).isSome)
    (hzero : (floats.parse "0").isSome) : (demoAssetsEnv floats).Lawful where
  parse_display := hdisplay
  parse_zero := hzero
  addressFromStr_display := demoAddressFromStr_display
  colon_notMem := colon_notMem_demoDisplayAddress
  u64FromStr_toString n := by
    dsimp only [demoAssetsEnv]
    rw [parseUnsigned_toString n.isLt, Option.map_some, BitVec.ofNat_toNat, BitVec.setWidth_eq]

/-- Numbers without fractions, as long as they fit. -/
def demoWholeFloats : AssetFloats U256 where
  parse text := (parseUnsigned (2 ^ 256) text.toList).map (BitVec.ofNat 256)
  display x := toString x.toNat
  zero := 0
  add x y := x + y
  mul x y := x * y
  max x y := if x.toNat ≤ y.toNat then y else x
  powTen x := BitVec.ofNat 256 (10 ^ x.toNat)
  round x := x
  asU64 x := if x.toNat < 2 ^ 64 then x.setWidth 64 else BitVec.allOnes 64
  totalCmp x y := compare x.toNat y.toNat

theorem demoWholeFloats_lawful : (demoAssetsEnv demoWholeFloats).Lawful := by
  refine demoAssetsEnv_lawful (fun x => ?_) (by decide)
  dsimp only [demoWholeFloats]
  rw [parseUnsigned_toString x.isLt]
  rfl

/-- Ether on a chain, as Zerion answers. -/
def demoPosition (chain : String) : ZerionPosition U256 where
  chain := chain
  value := none
  price := 3000
  quantity := ⟨18, "1"⟩
  fungibleInfo := ⟨some "Ethereum", "ETH", none, []⟩

/-- No metadata are cached. -/
def noMetadata : MetadataLookup := fun _ => .ok none

/-- No filters. -/
def noFilters : GetAssetsFilters := ⟨none, none, none⟩

/-- A body of items that are in no group and can be converted: no pass has anything to add up or to
    fill in. -/
theorem listable_of_ungrouped {balances : List (BalanceItem F)}
    (hchain : ∀ b ∈ balances, b.chainId.isSome) (haddress : ∀ b ∈ balances, Addressed env b)
    (hkey : ∀ b ∈ balances, keyOf env b = none) (hconv : ∀ b ∈ balances, Convertible env b) :
    Listable env ⟨balances⟩ noFilters := by
  refine ⟨hchain, haddress, fun b hb hgroup => ?_, fun b hb _ => hconv b hb, fun key c hc => ?_⟩
  · rw [hkey b hb] at hgroup
    cases hgroup
  · have hempty : groupOf env balances key = [] := by
      rw [groupOf, List.filter_eq_nil_iff]
      intro b hb
      simp [hkey b hb]
    rw [hempty] at hc
    exact absurd hc List.not_mem_nil

/-- Ether on two chains is listed. -/
theorem getAssets_returns_iff_ether :
    ∃ result, getAssets (demoAssetsEnv demoWholeFloats)
      ⟨[zerionBalanceItem noMetadata (demoPosition "optimism"),
        zerionBalanceItem noMetadata (demoPosition "base")]⟩ noFilters = .ok result := by
  refine (getAssets_returns_iff demoWholeFloats_lawful _ noFilters).mpr
    (listable_of_ungrouped ?_ ?_ ?_ ?_)
  · decide
  · intro b hb a ha
    rcases List.mem_pair.mp hb with rfl | rfl <;> cases ha
  · decide
  · have hcounted : (demoWholeFloats.parse "1").isSome := by decide
    intro b hb
    rcases List.mem_pair.mp hb with rfl | rfl
    · exact ⟨by decide, hcounted, by decide⟩
    · exact ⟨by decide, hcounted, by decide⟩

/-- **A position on a chain whose name is not in the table** is answered by Zerion and makes the
    first pass panic. -/
theorem not_getAssets_returns :
    ¬ ∀ (response : JsonResponse (List (ZerionPosition U256))) (body : BalanceResponseBody U256)
      (filters : GetAssetsFilters), zerionGetBalance noMetadata response = .ok body →
        ∃ result, getAssets (demoAssetsEnv demoWholeFloats) body filters = .ok result := by
  intro h
  obtain ⟨result, hresult⟩ := h ⟨200, .ok [demoPosition "hyperevm"]⟩ _ noFilters rfl
  obtain ⟨s, hs, -⟩ := Outcome.bind_eq_ok.mp hresult
  have hlocated := (segregateBalances_returns_iff.mp ⟨s, hs⟩ _ (List.mem_singleton.mpr rfl)).1
  have hnone : toCaip2 "hyperevm" = none := by decide
  rw [show (zerionBalanceItem noMetadata (demoPosition "hyperevm")).chainId =
    toCaip2 "hyperevm" from rfl, hnone] at hlocated
  cases hlocated

end BlockchainApi
