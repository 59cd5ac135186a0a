/-
  Which balance providers a request is sent to (`src/providers/mod.rs`).

  Each namespace has providers with weights that do not change.  Those above the minimal weight are
  drawn at random (`Lib.Sampling`), those of the minimal weight follow where there is room, and
  those of no weight are left out.

  1. **The repository** (`BalanceRepository`), as `add_balance_provider` builds it.  The weight of a
     kind is the priority that it was last registered with (`weightOf_addBalanceProviders`), and
     providers are found under their kinds (`BalanceRepository.Known`).
  2. **The split by weight** (`splitByWeight_eq`): the fold over the weights is two filters, and a
     kind is in at most one of them.
  3. **The selection** (`balance_selection_spec`): as many different providers as were asked for and
     there are, and the minimal ones last.  It is put together from what the draws return and the
     filter (`ProperSelection.of_high`); a provider of the minimal weight comes only where there is
     room, which is after all others have been drawn.
-/
import BlockchainApi.Providers.Selection
import BlockchainApi.Utils.Caip
import Mathlib.Data.List.Perm.Subperm

namespace BlockchainApi

open Sampling

/-! ## The repository -/

/-- A balance provider: its kind, and what answers requests. -/
structure KindedProvider (G : Type) where
  providerKind : ProviderKind
  getBalance : G

/-- A `BalanceProviderConfig`, and the provider that is built from it, which is of the same
    kind. -/
structure BalanceProviderConfig (G : Type) where
  provider : KindedProvider G
  /-- `supported_namespaces`: namespaces and priorities. -/
  supportedNamespaces : List (CaipNamespaces × PriorityValue)

/-- `ProviderRepository`, as far as balance providers are concerned. -/
structure BalanceRepository (G : Type) where
  balanceProviders : HashMap ProviderKind (KindedProvider G)
  balanceWeightResolver : HashMap CaipNamespaces (HashMap ProviderKind Weight)

section

variable {G D R : Type}

/-- A repository without balance providers. -/
def BalanceRepository.empty : BalanceRepository G := ⟨∅, ∅⟩

/-- One namespace of `add_balance_provider`. -/
def addBalanceWeight (kind : ProviderKind)
    (resolver : HashMap CaipNamespaces (HashMap ProviderKind Weight))
    (row : CaipNamespaces × PriorityValue) :
    HashMap CaipNamespaces (HashMap ProviderKind Weight) :=
  resolver.insert row.1 (((resolver.lookup row.1).getD ∅).insert kind (.new row.2))

/-- `add_balance_provider`. -/
def addBalanceProvider (s : BalanceRepository G) (config : BalanceProviderConfig G) :
    BalanceRepository G where
  balanceProviders := s.balanceProviders.insert config.provider.providerKind config.provider
  balanceWeightResolver := config.supportedNamespaces.foldl
    (addBalanceWeight config.provider.providerKind) s.balanceWeightResolver

/-! ## The selection -/

/-- `Weight::new(Priority::Minimal)`. -/
def minimalWeight : Weight := .new ⟨1, by decide⟩

/-- The providers above the minimal weight, their weights, and the providers of that weight. -/
abbrev SplitProviders (G : Type) : Type :=
  List (ProviderKind × Weight) × List Nat × List (KindedProvider G)

/-- One provider of the fold over the weights. -/
def splitStep (s : BalanceRepository G) (acc : SplitProviders G)
    (row : (_ : ProviderKind) × Weight) : SplitProviders G :=
  match compare row.2.value minimalWeight.value with
  | .gt => (acc.1 ++ [(row.1, row.2)], acc.2.1 ++ [row.2.value], acc.2.2)
  | .eq => (acc.1, acc.2.1, acc.2.2 ++ (s.balanceProviders.lookup row.1).toList)
  | .lt => acc

/-- The fold over the weights. -/
def splitByWeight (s : BalanceRepository G) (rows : List ((_ : ProviderKind) × Weight)) :
    SplitProviders G :=
  rows.foldl (splitStep s) ([], [], [])

/-- The loop of the selection. -/
def balanceDrawing (index : WeightedIndex D R String) (s : BalanceRepository G)
    (namespace_ : CaipNamespaces) (keys : List ProviderKind) (count : Nat) :
    Drawing D R String ProviderKind (KindedProvider G) RpcError where
  index := index
  keys := keys
  find kind := s.balanceProviders.lookup kind
  count := count
  noKey := .weightedProvidersIndex
    ("Failed to get random balance provider for namespace: " ++ namespace_.display)
  updateFailed e :=
    .weightedProvidersIndex ("Failed to update weight in sampling iteration: " ++ e)
  notFound kind := .weightedProvidersIndex
    ("Balance provider not found during the weighted index check: " ++ kind.display)

/-- `get_balance_provider_for_namespace`, with the order in which the map is visited, and the random
    numbers. -/
def getBalanceProviderForNamespace (index : WeightedIndex D R String)
    (order : RowOrder ((_ : ProviderKind) × Weight)) (rng : Nat → R) (s : BalanceRepository G)
    (namespace_ : CaipNamespaces) (maxProviders : Nat) :
    Except RpcError (List (KindedProvider G)) :=
  match s.balanceWeightResolver.lookup namespace_ with
  | none => .error (.unsupportedChain namespace_.display)
  | some providers =>
    if providers.entries.isEmpty then .error (.unsupportedChain namespace_.display)
    else
      let split := splitByWeight s (order.arrange providers.entries)
      let keys := split.1.map Prod.fst
      let nonMinimal := split.2.1
      let minimal := split.2.2
      -- without others, the minimal providers are all there is
      if nonMinimal.isEmpty then .ok (minimal.take maxProviders)
      else
        match index.new nonMinimal with
        | .error _ => .error (.chainTemporarilyUnavailable namespace_.display)
        | .ok dist =>
          let drawing :=
            balanceDrawing index s namespace_ keys (min maxProviders nonMinimal.length)
          match drawing.loop rng drawing.count dist with
          | .error e => .error e
          | .ok providersResult =>
            .ok (providersResult ++ minimal.take (maxProviders - providersResult.length))

/-! ## What a repository keeps -/

variable {s : BalanceRepository G} {kind : ProviderKind} {weight : Weight}
  {resolver : HashMap CaipNamespaces (HashMap ProviderKind Weight)}
  {providers : HashMap ProviderKind Weight} {namespace_ : CaipNamespaces}

/-- The weight of a kind in a namespace. -/
def weightOf (resolver : HashMap CaipNamespaces (HashMap ProviderKind Weight))
    (namespace_ : CaipNamespaces) (kind : ProviderKind) : Option Weight :=
  (resolver.lookup namespace_).bind (·.lookup kind)

/-- A new weight is that of its kind in its namespace. -/
theorem weightOf_addBalanceWeight {row : CaipNamespaces × PriorityValue} {kind' : ProviderKind} :
    weightOf (addBalanceWeight kind' resolver row) namespace_ kind =
      if row.1 = namespace_ ∧ kind' = kind then some (.new row.2)
      else weightOf resolver namespace_ kind := by
  rw [weightOf, addBalanceWeight]
  by_cases hns : row.1 = namespace_
  · subst hns
    rw [AList.lookup_insert, Option.bind_some]
    by_cases hkind : kind' = kind
    · subst hkind
      rw [AList.lookup_insert, if_pos ⟨rfl, rfl⟩]
    · rw [AList.lookup_insert_ne (Ne.symm hkind), if_neg fun h => hkind h.2, weightOf]
      cases resolver.lookup row.1 with
      | none => exact AList.lookup_empty _
      | some old => rfl
  · rw [AList.lookup_insert_ne (Ne.symm hns), if_neg fun h => hns h.1, weightOf]

/-- The namespaces, kinds and priorities of the calls of `add_balance_provider`, one after the
    other. -/
def balanceRegistrations (configs : List (BalanceProviderConfig G)) :
    List (CaipNamespaces × ProviderKind × PriorityValue) :=
  configs.flatMap fun config =>
    config.supportedNamespaces.map fun row => (row.1, config.provider.providerKind, row.2)

/-- The priority that a kind was last registered with in a namespace. -/
def latestPriority (configs : List (BalanceProviderConfig G)) (namespace_ : CaipNamespaces)
    (kind : ProviderKind) : Option PriorityValue :=
  ((balanceRegistrations configs).findRev? fun r => r.1 = namespace_ ∧ r.2.1 = kind).map (·.2.2)

/-- One registration. -/
def registerBalance (resolver : HashMap CaipNamespaces (HashMap ProviderKind Weight))
    (r : CaipNamespaces × ProviderKind × PriorityValue) :
    HashMap CaipNamespaces (HashMap ProviderKind Weight) :=
  addBalanceWeight r.2.1 resolver (r.1, r.2.2)

/-- The weights of a repository are registered one after the other. -/
theorem balanceWeightResolver_eq (configs : List (BalanceProviderConfig G)) :
    (configs.foldl addBalanceProvider .empty).balanceWeightResolver =
      (balanceRegistrations configs).foldl registerBalance ∅ := by
  induction configs using List.reverseRecOn with
  | nil => rfl
  | append_singleton configs config ih =>
    rw [List.foldl_concat, balanceRegistrations, List.flatMap_append, List.foldl_append,
      ← balanceRegistrations, ← ih, List.flatMap_singleton, List.foldl_map]
    rfl

/-- The last registration of a kind in a namespace counts. -/
theorem weightOf_foldl_registerBalance {rs : List (CaipNamespaces × ProviderKind × PriorityValue)} :
    weightOf (rs.foldl registerBalance resolver) namespace_ kind =
      ((rs.findRev? fun r => r.1 = namespace_ ∧ r.2.1 = kind).map fun r => .new r.2.2).or
        (weightOf resolver namespace_ kind) := by
  induction rs generalizing resolver with
  | nil => rfl
  | cons r rs ih =>
    rw [List.foldl_cons, ih, registerBalance, weightOf_addBalanceWeight, List.findRev?]
    cases rs.findRev? fun r => r.1 = namespace_ ∧ r.2.1 = kind with
    | some later => rfl
    | none =>
      dsimp only
      by_cases hr : r.1 = namespace_ ∧ r.2.1 = kind
      · rw [if_pos hr, decide_eq_true hr]
        rfl
      · rw [if_neg hr, decide_eq_false hr]
        rfl

/-- **The weights of a repository** are the priorities that were registered last, for each kind
    in each namespace. -/
theorem weightOf_addBalanceProviders (configs : List (BalanceProviderConfig G)) :
    weightOf (configs.foldl addBalanceProvider .empty).balanceWeightResolver namespace_ kind =
      (latestPriority configs namespace_ kind).map .new := by
  rw [balanceWeightResolver_eq, weightOf_foldl_registerBalance, latestPriority, Option.map_map,
    weightOf, AList.lookup_empty, Option.bind_none, Option.or_none]
  rfl

/-- **The invariant**: providers are found under their kinds, and whoever has a weight is a
    provider. -/
structure BalanceRepository.Known (s : BalanceRepository G) : Prop where
  kinds : ∀ kind provider, s.balanceProviders.lookup kind = some provider →
    provider.providerKind = kind
  weighed : ∀ namespace_ kind weight, weightOf s.balanceWeightResolver namespace_ kind =
    some weight → weight.value ≤ maxPriority ∧ kind ∈ s.balanceProviders

/-- One more provider is found under its kind, and all that were there still are. -/
theorem mem_balanceProviders {configs : List (BalanceProviderConfig G)} :
    kind ∈ (configs.foldl addBalanceProvider .empty).balanceProviders ↔
      ∃ config ∈ configs, config.provider.providerKind = kind := by
  induction configs using List.reverseRecOn with
  | nil => exact iff_of_false (AList.notMem_empty kind) fun ⟨_, h, _⟩ => List.not_mem_nil h
  | append_singleton configs config ih =>
    rw [List.foldl_concat, addBalanceProvider, AList.mem_insert, ih]
    simp only [List.mem_append, List.mem_singleton, or_and_right, exists_or, exists_eq_left]
    rw [or_comm, eq_comm]

/-- **Every repository that is built has the invariant.** -/
theorem balance_repository_known (configs : List (BalanceProviderConfig G)) :
    (configs.foldl addBalanceProvider .empty).Known := by
  constructor
  · -- the last provider of a kind is the one that is found
    induction configs using List.reverseRecOn with
    | nil =>
      intro kind provider h
      rw [List.foldl_nil, BalanceRepository.empty, AList.lookup_empty] at h
      cases h
    | append_singleton configs config ih =>
      intro kind provider h
      rw [List.foldl_concat, addBalanceProvider] at h
      by_cases hkind : kind = config.provider.providerKind
      · subst hkind
        rw [AList.lookup_insert] at h
        cases h
        rfl
      · rw [AList.lookup_insert_ne hkind] at h
        exact ih kind provider h
  · -- a weight comes from a registration, and so does a provider
    intro namespace_ kind weight h
    rw [weightOf_addBalanceProviders, latestPriority, Option.map_map,
      Option.map_eq_some_iff] at h
    obtain ⟨r, hr, rfl⟩ := h
    rw [List.findRev?_eq_find?_reverse] at hr
    have hmem := List.mem_reverse.mp (List.mem_of_find?_eq_some hr)
    obtain ⟨config, hconfig, hrow⟩ := List.mem_flatMap.mp hmem
    obtain ⟨row, -, rfl⟩ := List.mem_map.mp hrow
    have hfound := List.find?_some hr
    have hkind : config.provider.providerKind = kind := (of_decide_eq_true hfound).2
    exact ⟨row.2.2, mem_balanceProviders.mpr ⟨config, hconfig, hkind⟩⟩

/-! ## The split by weight: a fold that is two filters -/

/-- The rows above the minimal weight. -/
def highRows (rows : List ((_ : ProviderKind) × Weight)) : List ((_ : ProviderKind) × Weight) :=
  rows.filter (1 < ·.2.value)

/-- The rows of the minimal weight. -/
def minimalRows (rows : List ((_ : ProviderKind) × Weight)) : List ((_ : ProviderKind) × Weight) :=
  rows.filter (·.2.value = 1)

variable {rows : List ((_ : ProviderKind) × Weight)}

/-- **The fold is two filters.** -/
theorem splitByWeight_eq :
    splitByWeight s rows =
      ((highRows rows).map fun row => (row.1, row.2), (highRows rows).map (·.2.value),
        (minimalRows rows).filterMap fun row => s.balanceProviders.lookup row.1) := by
  induction rows using List.reverseRecOn with
  | nil => rfl
  | append_singleton rows row ih =>
    have hhigh : highRows (rows ++ [row]) = highRows rows ++ [row].filter (1 < ·.2.value) :=
      List.filter_append ..
    have hminimal : minimalRows (rows ++ [row]) =
        minimalRows rows ++ [row].filter (·.2.value = 1) := List.filter_append ..
    rw [splitByWeight, List.foldl_concat, ← splitByWeight, ih, splitStep, hhigh, hminimal,
      List.map_append, List.map_append, List.filterMap_append]
    have hone : minimalWeight.value = 1 := rfl
    rcases Nat.lt_trichotomy row.2.value 1 with h | h | h
    · rw [hone, Nat.compare_eq_lt.mpr h]
      have hnot : ¬ 1 < row.2.value := by omega
      have hne : ¬ row.2.value = 1 := by omega
      simp [hnot, hne]
    · rw [hone, Nat.compare_eq_eq.mpr h]
      cases hfind : s.balanceProviders.lookup row.1 <;> simp [h, hfind]
    · rw [hone, Nat.compare_eq_gt.mpr h]
      have hne : ¬ row.2.value = 1 := by omega
      simp [h, hne]

/-- The rows that have weight are those above the minimal weight and those of it. -/
theorem countP_weighted :
    rows.countP (1 ≤ ·.2.value) = (highRows rows).length + (minimalRows rows).length := by
  rw [highRows, minimalRows, ← List.countP_eq_length_filter, ← List.countP_eq_length_filter]
  induction rows with
  | nil => rfl
  | cons row rows ih =>
    rw [List.countP_cons, List.countP_cons, List.countP_cons, ih]
    rcases Nat.lt_trichotomy row.2.value 1 with h | h | h
    · have hone : ¬ 1 ≤ row.2.value := by omega
      have hhigh : ¬ 1 < row.2.value := by omega
      have hminimal : ¬ row.2.value = 1 := by omega
      simp [hone, hhigh, hminimal]
    · simp [h]
      omega
    · have hone : 1 ≤ row.2.value := by omega
      have hminimal : ¬ row.2.value = 1 := by omega
      simp [hone, h, hminimal]
      omega

/-! ## What the selection returns: the drawn ones, then those of minimal weight -/

/-- **What is expected of a selection**: those above the minimal weight, then those of it. -/
structure ProperSelection (s : BalanceRepository G) (providers : HashMap ProviderKind Weight)
    (maxProviders : Nat) (high low : List (KindedProvider G)) : Prop where
  length_eq : (high ++ low).length =
    min maxProviders (providers.entries.countP (1 ≤ ·.2.value))
  nodup : ((high ++ low).map KindedProvider.providerKind).Nodup
  known : ∀ provider ∈ high ++ low,
    s.balanceProviders.lookup provider.providerKind = some provider
  high_weight : ∀ provider ∈ high, ∃ weight,
    providers.lookup provider.providerKind = some weight ∧ 1 < weight.value
  low_weight : ∀ provider ∈ low, ∃ weight,
    providers.lookup provider.providerKind = some weight ∧ weight.value = 1
  /-- Nobody of the minimal weight is there before all others are. -/
  complete : low ≠ [] → ∀ kind weight, providers.lookup kind = some weight → 1 < weight.value →
    kind ∈ high.map KindedProvider.providerKind

variable {order : RowOrder ((_ : ProviderKind) × Weight)} {maxProviders : Nat}
  {high : List (KindedProvider G)}

/-- The kinds that are found are those that are looked up. -/
theorem map_providerKind_filterMap (hs : s.Known)
    (hrows : ∀ row ∈ rows, row.1 ∈ s.balanceProviders) :
    (rows.filterMap fun row => s.balanceProviders.lookup row.1).map KindedProvider.providerKind =
      rows.map Sigma.fst := by
  induction rows with
  | nil => rfl
  | cons row rows ih =>
    obtain ⟨hrow, hrows⟩ := List.forall_mem_cons.mp hrows
    obtain ⟨provider, hprovider⟩ :=
      Option.isSome_iff_exists.mp (AList.lookup_isSome.mpr hrow)
    rw [List.filterMap_cons, hprovider]
    show provider.providerKind :: _ = _
    rw [ih hrows, hs.kinds row.1 provider hprovider, List.map_cons]

/-- A kind of two rows has one weight. -/
theorem mem_arranged_iff {row : (_ : ProviderKind) × Weight} :
    row ∈ order.arrange providers.entries ↔ providers.lookup row.1 = some row.2 := by
  rw [order.mem_arrange]
  exact AList.mem_lookup_iff.symm

theorem nodup_kinds_filter {p : (_ : ProviderKind) × Weight → Bool} :
    (((order.arrange providers.entries).filter p).map Sigma.fst).Nodup :=
  nodup_arranged_kinds.sublist (List.filter_sublist.map _)

/-- The kinds of a part of the rows are those whose weight is in it. -/
theorem mem_kinds_filter_iff (p : Weight → Prop) [DecidablePred p] :
    kind ∈ ((order.arrange providers.entries).filter fun row => p row.2).map Sigma.fst ↔
      ∃ weight, providers.lookup kind = some weight ∧ p weight := by
  rw [List.mem_map]
  constructor
  · rintro ⟨row, hrow, rfl⟩
    obtain ⟨harranged, hweight⟩ := List.mem_filter.mp hrow
    exact ⟨row.2, mem_arranged_iff.mp harranged, of_decide_eq_true hweight⟩
  · rintro ⟨weight, hlookup, hweight⟩
    refine ⟨⟨kind, weight⟩, List.mem_filter.mpr ⟨?_, decide_eq_true hweight⟩, rfl⟩
    exact mem_arranged_iff.mpr hlookup

theorem mem_highKinds_iff :
    kind ∈ (highRows (order.arrange providers.entries)).map Sigma.fst ↔
      ∃ weight, providers.lookup kind = some weight ∧ 1 < weight.value :=
  mem_kinds_filter_iff (1 < ·.value)

theorem mem_minimalKinds_iff :
    kind ∈ (minimalRows (order.arrange providers.entries)).map Sigma.fst ↔
      ∃ weight, providers.lookup kind = some weight ∧ weight.value = 1 :=
  mem_kinds_filter_iff (·.value = 1)

/-- No kind is in both parts: it has one weight. -/
theorem highKinds_disjoint
    (hhigh : kind ∈ (highRows (order.arrange providers.entries)).map Sigma.fst)
    (hminimal : kind ∈ (minimalRows (order.arrange providers.entries)).map Sigma.fst) :
    False := by
  obtain ⟨weight, hlookup, hweight⟩ := mem_highKinds_iff.mp hhigh
  obtain ⟨weight', hlookup', hweight'⟩ := mem_minimalKinds_iff.mp hminimal
  rw [hlookup] at hlookup'
  cases hlookup'
  omega

/-- Those of the minimal weight, one for each row. -/
theorem map_providerKind_minimal (order : RowOrder ((_ : ProviderKind) × Weight)) (hs : s.Known)
    (hknown : ∀ kind weight, providers.lookup kind = some weight → kind ∈ s.balanceProviders) :
    ((minimalRows (order.arrange providers.entries)).filterMap
      fun row => s.balanceProviders.lookup row.1).map KindedProvider.providerKind =
        (minimalRows (order.arrange providers.entries)).map Sigma.fst :=
  map_providerKind_filterMap hs fun row hrow =>
    hknown row.1 row.2 (mem_arranged_iff.mp (List.mem_of_mem_filter hrow))

/-- Where as many were drawn as there are above the minimal weight, all of those were. -/
theorem mem_high_of_length_le (hnodup : (high.map KindedProvider.providerKind).Nodup)
    (hsubset : high.map KindedProvider.providerKind ⊆
      (highRows (order.arrange providers.entries)).map Sigma.fst)
    (hlength : (highRows (order.arrange providers.entries)).length ≤ high.length)
    {weight : Weight} (hlookup : providers.lookup kind = some weight)
    (hweight : 1 < weight.value) :
    kind ∈ high.map KindedProvider.providerKind := by
  have hall : ((highRows (order.arrange providers.entries)).map Sigma.fst).length ≤
      (high.map KindedProvider.providerKind).length := by
    rwa [List.length_map, List.length_map]
  have hperm := (List.subperm_of_subset hnodup hsubset).perm_of_length_le hall
  exact hperm.mem_iff.mpr (mem_highKinds_iff.mpr ⟨weight, hlookup, hweight⟩)

/-- **The assembly**: whoever was drawn from those above the minimal weight, the selection is
    filled up with those of it. -/
theorem ProperSelection.of_high (hs : s.Known)
    (hknown : ∀ kind weight, providers.lookup kind = some weight → kind ∈ s.balanceProviders)
    (hlength : high.length =
      min maxProviders (highRows (order.arrange providers.entries)).length)
    (hnodup : (high.map KindedProvider.providerKind).Nodup)
    (hhigh : ∀ provider ∈ high, s.balanceProviders.lookup provider.providerKind = some provider ∧
      provider.providerKind ∈ (highRows (order.arrange providers.entries)).map Sigma.fst) :
    ProperSelection s providers maxProviders high
      (((minimalRows (order.arrange providers.entries)).filterMap
        fun row => s.balanceProviders.lookup row.1).take (maxProviders - high.length)) := by
  have hkinds := map_providerKind_minimal order hs hknown
  generalize hminimal : ((minimalRows (order.arrange providers.entries)).filterMap
    fun row => s.balanceProviders.lookup row.1) = minimal at hkinds ⊢
  have hminimalLength : minimal.length =
      (minimalRows (order.arrange providers.entries)).length := by
    have hlengths := congrArg List.length hkinds
    rwa [List.length_map, List.length_map] at hlengths
  have hminimalKind : ∀ provider ∈ minimal,
      provider.providerKind ∈ (minimalRows (order.arrange providers.entries)).map Sigma.fst :=
    fun provider h => hkinds ▸ List.mem_map_of_mem h
  have hsubset : high.map KindedProvider.providerKind ⊆
      (highRows (order.arrange providers.entries)).map Sigma.fst := by
    intro kind hkind
    obtain ⟨provider, hprovider, rfl⟩ := List.mem_map.mp hkind
    exact (hhigh provider hprovider).2
  constructor
  · have hperm : (order.arrange providers.entries).countP (1 ≤ ·.2.value) =
        providers.entries.countP (1 ≤ ·.2.value) := (order.perm _).countP_eq _
    rw [← hperm, countP_weighted, List.length_append, List.length_take, hminimalLength]
    omega
  · rw [List.map_append, List.nodup_append]
    refine ⟨hnodup, ?_, ?_⟩
    · rw [List.map_take, hkinds]
      exact nodup_kinds_filter.sublist (List.take_sublist _ _)
    · rintro _ hfirst _ hsecond rfl
      obtain ⟨provider, hprovider, hkind⟩ := List.mem_map.mp hsecond
      exact highKinds_disjoint (hsubset hfirst)
        (hkind ▸ hminimalKind provider (List.mem_of_mem_take hprovider))
  · intro provider hprovider
    rcases List.mem_append.mp hprovider with h | h
    · exact (hhigh provider h).1
    · have hfound := List.mem_of_mem_take h
      rw [← hminimal] at hfound
      obtain ⟨row, -, hrow⟩ := List.mem_filterMap.mp hfound
      rw [hs.kinds row.1 provider hrow]
      exact hrow
  · exact fun provider h => mem_highKinds_iff.mp (hhigh provider h).2
  · exact fun provider h => mem_minimalKinds_iff.mp (hminimalKind provider (List.mem_of_mem_take h))
  · intro hlow kind weight hlookup hweight
    -- there was room left, so all rows above the minimal weight were drawn
    have hroom : maxProviders - high.length ≠ 0 := by
      intro hzero
      rw [hzero, List.take_zero] at hlow
      exact hlow rfl
    exact mem_high_of_length_le hnodup hsubset (by omega) hlookup hweight

variable {index : WeightedIndex D R String} {weights : D → List Nat}

/-- **The draws** from those above the minimal weight. -/
theorem balanceDrawing_loop (hlaws : Lawful index weights maxPriority) (hs : s.Known)
    (hknown : ∀ kind weight, providers.lookup kind = some weight →
      weight.value ≤ maxPriority ∧ kind ∈ s.balanceProviders)
    (hsome : highRows (order.arrange providers.entries) ≠ []) (namespace_ : CaipNamespaces)
    (rng : Nat → R) (maxProviders : Nat) :
    let above := highRows (order.arrange providers.entries)
    let drawing := balanceDrawing index s namespace_ (above.map Sigma.fst)
      (min maxProviders above.length)
    ∃ dist high, index.new (above.map (·.2.value)) = .ok dist ∧
      drawing.loop rng drawing.count dist = .ok high ∧
      high.length = min maxProviders above.length ∧
      (high.map KindedProvider.providerKind).Nodup ∧
      ∀ provider ∈ high, s.balanceProviders.lookup provider.providerKind = some provider ∧
        provider.providerKind ∈ above.map Sigma.fst := by
  intro above drawing
  have hweight : ∀ row ∈ above, 1 < row.2.value ∧ row.2.value ≤ maxPriority ∧
      row.1 ∈ s.balanceProviders := by
    intro row hrow
    obtain ⟨harranged, hweight⟩ := List.mem_filter.mp hrow
    exact ⟨of_decide_eq_true hweight, hknown row.1 row.2 (mem_arranged_iff.mp harranged)⟩
  have hpos : ∀ w ∈ above.map (·.2.value), 0 < w := by
    intro w hw
    obtain ⟨row, hrow, rfl⟩ := List.mem_map.mp hw
    exact Nat.zero_lt_of_lt (hweight row hrow).1
  have hle : ∀ w ∈ above.map (·.2.value), w ≤ maxPriority := by
    intro w hw
    obtain ⟨row, hrow, rfl⟩ := List.mem_map.mp hw
    exact (hweight row hrow).2.1
  have hlength : (above.map (·.2.value)).length = above.length := List.length_map _
  obtain ⟨first, hfirst⟩ := List.exists_mem_of_ne_nil above hsome
  obtain ⟨dist, hnew, hweights⟩ := hlaws.new _ hle
    ⟨first.2.value, List.mem_map_of_mem hfirst, Nat.zero_lt_of_lt (hweight first hfirst).1⟩
  -- every row can be drawn
  have hfound : ∀ i < (above.map (·.2.value)).length, ∃ provider, drawing.Entry i provider := by
    intro i hi
    rw [hlength] at hi
    obtain ⟨-, -, hmem⟩ := hweight above[i] (List.getElem_mem hi)
    obtain ⟨provider, hprovider⟩ :=
      Option.isSome_iff_exists.mp (AList.lookup_isSome.mpr hmem)
    refine ⟨provider, above[i].1, ?_, hprovider⟩
    show (above.map Sigma.fst)[i]? = _
    rw [List.getElem?_map, List.getElem?_eq_getElem hi, Option.map_some]
  have hat : drawing.At weights (above.map (·.2.value)) [] drawing.count dist :=
    .start hweights ((Nat.min_le_right _ _).trans hlength.ge)
  obtain ⟨indices, high, hloop, hlen, hdrawn, hnodup, -⟩ :=
    Drawing.loop_spec rng hlaws hpos hle hfound hat
  refine ⟨dist, high, hnew, hloop, hdrawn.length_eq.symm.trans hlen,
    Drawing.nodup_entries hdrawn hnodup nodup_kinds_filter hs.kinds, ?_⟩
  intro provider hprovider
  obtain ⟨i, -, kind, hkey, hfind⟩ := Drawing.exists_index hdrawn provider hprovider
  rw [hs.kinds kind provider hfind]
  exact ⟨hfind, List.mem_of_getElem? hkey⟩

/-- **The selection from a repository** with the invariant. -/
theorem getBalanceProviderForNamespace_spec (hlaws : Lawful index weights maxPriority)
    (hs : s.Known) (hns : s.balanceWeightResolver.lookup namespace_ = some providers)
    (hkind : kind ∈ providers) (order : RowOrder ((_ : ProviderKind) × Weight)) (rng : Nat → R)
    (maxProviders : Nat) :
    ∃ high low, getBalanceProviderForNamespace index order rng s namespace_ maxProviders =
        .ok (high ++ low) ∧
      ProperSelection s providers maxProviders high low := by
  have hknown : ∀ kind weight, providers.lookup kind = some weight →
      weight.value ≤ maxPriority ∧ kind ∈ s.balanceProviders := by
    intro kind weight h
    refine hs.weighed namespace_ kind weight ?_
    rw [weightOf, hns, Option.bind_some, h]
  have hempty : providers.entries.isEmpty = false := by
    rw [List.isEmpty_eq_false_iff]
    exact entries_ne_nil hkind
  rw [getBalanceProviderForNamespace, hns]
  dsimp only
  rw [hempty, if_neg Bool.false_ne_true, splitByWeight_eq]
  dsimp only
  have hkeys : ((highRows (order.arrange providers.entries)).map
      fun row => (row.1, row.2)).map Prod.fst =
        (highRows (order.arrange providers.entries)).map Sigma.fst := List.map_map
  rw [hkeys]
  -- nobody is above the minimal weight, so nothing is drawn; or there is somebody to draw
  by_cases hnone : highRows (order.arrange providers.entries) = []
  · rw [hnone, List.map_nil, List.isEmpty_nil, if_pos rfl]
    refine ⟨[], _, rfl, ?_⟩
    refine .of_high hs (fun kind weight h => (hknown kind weight h).2) ?_ List.nodup_nil
      fun _ h => absurd h List.not_mem_nil
    rw [hnone]
    exact (Nat.min_zero _).symm
  · obtain ⟨dist, high, hnew, hloop, hlength, hnodup, hhigh⟩ :=
      balanceDrawing_loop hlaws hs hknown hnone namespace_ rng maxProviders
    have hsome : ((highRows (order.arrange providers.entries)).map (·.2.value)).isEmpty =
        false := by
      rw [List.isEmpty_eq_false_iff]
      exact fun h => hnone (List.map_eq_nil_iff.mp h)
    rw [hsome, if_neg Bool.false_ne_true, hnew, List.length_map]
    dsimp only
    refine ⟨high, _, ?_, .of_high hs (fun kind weight h => (hknown kind weight h).2) hlength hnodup
      hhigh⟩
    rw [hloop]

/-- A namespace that somebody is registered for has a kind. -/
theorem exists_latestPriority {configs : List (BalanceProviderConfig G)}
    (h : ∃ config ∈ configs, namespace_ ∈ config.supportedNamespaces.map Prod.fst) :
    ∃ kind priority, latestPriority configs namespace_ kind = some priority := by
  obtain ⟨config, hconfig, hns⟩ := h
  obtain ⟨row, hrow, rfl⟩ := List.mem_map.mp hns
  have hmem : (row.1, config.provider.providerKind, row.2) ∈ balanceRegistrations configs :=
    List.mem_flatMap.mpr ⟨config, hconfig, List.mem_map.mpr ⟨row, hrow, rfl⟩⟩
  refine ⟨config.provider.providerKind, ?_⟩
  rw [latestPriority, List.findRev?_eq_find?_reverse, ← Option.isSome_iff_exists,
    Option.isSome_map, List.find?_isSome]
  exact ⟨_, List.mem_reverse.mpr hmem, decide_eq_true ⟨rfl, rfl⟩⟩

/-- **The selection of balance providers.**  Whoever was registered, whatever is asked for and
    whatever the random numbers: for a namespace that somebody is registered for, the selection
    returns different providers that have weight, as many as were asked for or all of them, and
    those of the minimal weight only after all others. -/
theorem balance_selection_spec (hlaws : Lawful index weights maxPriority)
    (configs : List (BalanceProviderConfig G))
    (hregistered : ∃ config ∈ configs, namespace_ ∈ config.supportedNamespaces.map Prod.fst)
    (order : RowOrder ((_ : ProviderKind) × Weight)) (rng : Nat → R) (maxProviders : Nat) :
    ∃ providers high low,
      (∀ kind, providers.lookup kind = (latestPriority configs namespace_ kind).map .new) ∧
      getBalanceProviderForNamespace index order rng (configs.foldl addBalanceProvider .empty)
        namespace_ maxProviders = .ok (high ++ low) ∧
      ProperSelection (configs.foldl addBalanceProvider .empty) providers maxProviders
        high low := by
  obtain ⟨kind, priority, hpriority⟩ := exists_latestPriority hregistered
  have hlookup : ∀ kind, weightOf
      (configs.foldl addBalanceProvider .empty).balanceWeightResolver namespace_ kind =
        (latestPriority configs namespace_ kind).map .new :=
    fun _ => weightOf_addBalanceProviders configs
  cases hns : (configs.foldl addBalanceProvider .empty).balanceWeightResolver.lookup
    namespace_ with
  | none =>
    -- somebody is registered for the namespace
    have hnone := hlookup kind
    rw [weightOf, hns, hpriority] at hnone
    cases hnone
  | some providers =>
    have hproviders : ∀ kind, providers.lookup kind =
        (latestPriority configs namespace_ kind).map .new := by
      intro kind
      rw [← hlookup kind, weightOf, hns, Option.bind_some]
    have hkind : kind ∈ providers := by
      rw [← AList.lookup_isSome, hproviders kind, hpriority]
      rfl
    obtain ⟨high, low, hselected, hproper⟩ := getBalanceProviderForNamespace_spec hlaws
      (balance_repository_known configs) hns hkind order rng maxProviders
    exact ⟨providers, high, low, hproviders, hselected, hproper⟩

/-- The providers that are registered for Ethereum: Dune with high and Zerion with minimal
    priority. -/
def demoBalanceConfigs : List (BalanceProviderConfig Unit) :=
  [⟨⟨.zerion, ()⟩, [(.eip155, ⟨1, by decide⟩)]⟩,
    ⟨⟨.dune, ()⟩, [(.eip155, ⟨75, by decide⟩), (.solana, ⟨75, by decide⟩)]⟩]

/-- The selection of two of the two. -/
theorem balance_selection_spec_demo :
    ∃ high low, getBalanceProviderForNamespace cumulative .stored id
        (demoBalanceConfigs.foldl addBalanceProvider .empty) .eip155 2 = .ok (high ++ low) ∧
      ((high ++ low).map KindedProvider.providerKind).Nodup := by
  obtain ⟨_, high, low, -, hselected, hproper⟩ :=
    balance_selection_spec (lawful_cumulative maxPriority) demoBalanceConfigs
      ⟨_, List.mem_cons_self .., List.mem_cons_self ..⟩ .stored id 2
  exact ⟨high, low, hselected, hproper.nodup⟩

example : (getBalanceProviderForNamespace cumulative .stored id
    (demoBalanceConfigs.foldl addBalanceProvider .empty) .eip155 2).map
      (·.map KindedProvider.providerKind) = .ok [.dune, .zerion] := by decide

end

end BlockchainApi
