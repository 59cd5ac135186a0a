/-
  Which RPC providers a request is sent to (`src/providers/mod.rs`).

  Each chain has providers with weights.  A request draws some of them without replacement
  (`Lib.Sampling`), by weight, and looks each up among the providers.

  1. **The repository** (`ProviderRepository`): providers by kind, and weights by chain and kind.
     It is built by `add_rpc_provider`, and weights change as providers fail; both are steps of one
     machine (`repositoryMachine`).
  2. **The invariant** (`Known`): each kind with a weight is a provider, no chain is without
     providers, and weights are in bounds.  A step changes the weights of some chains, and each of
     them keeps the invariant on its own (`Weighs.insert`).
  3. **Who is registered** (`lists_iff_registered`): the kinds that a chain lists are those of the
     registrations that named it, whatever updates came in between.
  4. `rpc_selection_spec`: the selection succeeds with as many different providers of the chain as
     were asked for and there are, whatever the random numbers.  What is assumed of the weighted
     index is assumed for weights up to the bound only.
-/
import BlockchainApi.Error
import BlockchainApi.Lib.Sampling
import BlockchainApi.Lib.Table
import BlockchainApi.Lib.Transitions

namespace BlockchainApi

open Sampling Transitions

/-! ## Kinds of providers, printed and read -/

/-- `ProviderKind`. -/
inductive ProviderKind where
  | aurora
  | arbitrum
  | pokt
  | binance
  | bungee
  | zkSync
  | publicnode
  | base
  | zora
  | zerion
  | coinbase
  | oneInch
  | quicknode
  | near
  | mantle
  | solScan
  | unichain
  | morph
  | tenderly
  | dune
  | wemix
  | drpc
  | syndica
  | allnodes
  | meld
  | monad
  | sui
  | hiro
  | callStatic
  | moonbeam
  | blast
  | rootstock
  | lifi
  | trongrid
  | toncenter
  | xrpl
  | generic (name : String)
  deriving DecidableEq

/-- `ProviderKind::fmt`. -/
def ProviderKind.display : ProviderKind → String
  | .aurora => "Aurora"
  | .arbitrum => "Arbitrum"
  | .pokt => "Pokt"
  | .binance => "Binance"
  | .bungee => "Bungee"
  | .zkSync => "zkSync"
  | .publicnode => "Publicnode"
  | .base => "Base"
  | .zora => "Zora"
  | .zerion => "Zerion"
  | .coinbase => "Coinbase"
  | .oneInch => "OneInch"
  | .quicknode => "Quicknode"
  | .near => "Near"
  | .mantle => "Mantle"
  | .solScan => "SolScan"
  | .unichain => "Unichain"
  | .morph => "Morph"
  | .tenderly => "Tenderly"
  | .dune => "Dune"
  | .wemix => "Wemix"
  | .drpc => "Drpc"
  | .syndica => "Syndica"
  | .allnodes => "Allnodes"
  | .meld => "Meld"
  | .monad => "Monad"
  | .sui => "Sui"
  | .hiro => "Hiro"
  | .callStatic => "CallStatic"
  | .moonbeam => "Moonbeam"
  | .blast => "Blast"
  | .rootstock => "Rootstock"
  | .lifi => "Lifi"
  | .trongrid => "Trongrid"
  | .toncenter => "Toncenter"
  | .xrpl => "Xrpl"
  | .generic name => name

/-- `ProviderKind::from_str`; there is no entry for Lifi. -/
def ProviderKind.fromStr : String → ProviderKind
  | "Aurora" => .aurora
  | "Arbitrum" => .arbitrum
  | "Pokt" => .pokt
  | "Binance" => .binance
  | "Bungee" => .bungee
  | "zkSync" => .zkSync
  | "Publicnode" => .publicnode
  | "Base" => .base
  | "Zora" => .zora
  | "Zerion" => .zerion
  | "Coinbase" => .coinbase
  | "OneInch" => .oneInch
  | "Quicknode" => .quicknode
  | "Near" => .near
  | "Mantle" => .mantle
  | "SolScan" => .solScan
  | "Unichain" => .unichain
  | "Morph" => .morph
  | "Tenderly" => .tenderly
  | "Dune" => .dune
  | "Wemix" => .wemix
  | "Drpc" => .drpc
  | "Syndica" => .syndica
  | "Allnodes" => .allnodes
  | "Meld" => .meld
  | "Monad" => .monad
  | "Sui" => .sui
  | "Hiro" => .hiro
  | "CallStatic" => .callStatic
  | "Moonbeam" => .moonbeam
  | "Blast" => .blast
  | "Rootstock" => .rootstock
  | "Trongrid" => .trongrid
  | "Toncenter" => .toncenter
  | "Xrpl" => .xrpl
  | name => .generic name

/-- Kinds are read as they are printed, but for Lifi and names that are those of other kinds. -/
theorem ProviderKind.fromStr_display {kind : ProviderKind} (hlifi : kind ≠ .lifi)
    (hgeneric : ∀ name, kind ≠ .generic name) : ProviderKind.fromStr kind.display = kind := by
  cases kind with
  | generic name => exact absurd rfl (hgeneric name)
  | lifi => exact absurd rfl hlifi
  | _ => rfl

/-! ## Weights -/

/-- `MAX_PRIORITY`. -/
def maxPriority : Nat := 100

/-- `PriorityValue`. -/
def PriorityValue : Type := { value : Nat // value ≤ maxPriority }

/-- `Weight`. -/
structure Weight where
  value : Nat
  priority : PriorityValue

/-- `Weight::new`. -/
def Weight.new (priority : PriorityValue) : Weight := ⟨priority.1, priority⟩

/-- `Weight::update_value`, in 64 bits. -/
def Weight.updateValue (weight : Weight) (value : Nat) : Weight :=
  { weight with value := value * weight.priority.1 % 2 ^ 64 / (maxPriority / 2) }

/-- No weight is above the highest chain weight times the highest priority. -/
def weightBound : Nat := 20000

/-! ## The repository: how it is built, and what changes in it -/

/-- A provider, as far as it is the same at each call. -/
structure RpcProvider where
  providerKind : ProviderKind
  /-- The status of its responses that `is_rate_limited` looks for. -/
  rateLimitStatus : Nat
  deriving DecidableEq

/-- A `ProviderConfig`, and the provider that is built from it, which is of the same kind. -/
structure RpcProviderConfig where
  provider : RpcProvider
  /-- `supported_chains`: chains and priorities. -/
  supportedChains : List (String × PriorityValue)

/-- `ProviderRepository`, as far as RPC providers are concerned. -/
structure ProviderRepository where
  rpcProviders : HashMap ProviderKind RpcProvider
  rpcWeightResolver : HashMap String (HashMap ProviderKind Weight)

/-- A repository without providers. -/
def ProviderRepository.empty : ProviderRepository := ⟨∅, ∅⟩

/-- One chain of `add_rpc_provider`. -/
def addWeight (kind : ProviderKind) (resolver : HashMap String (HashMap ProviderKind Weight))
    (chain : String × PriorityValue) : HashMap String (HashMap ProviderKind Weight) :=
  resolver.insert chain.1 (((resolver.lookup chain.1).getD ∅).insert kind (.new chain.2))

/-- `add_rpc_provider`. -/
def addRpcProvider (s : ProviderRepository) (config : RpcProviderConfig) : ProviderRepository where
  rpcProviders := s.rpcProviders.insert config.provider.providerKind config.provider
  rpcWeightResolver :=
    config.supportedChains.foldl (addWeight config.provider.providerKind) s.rpcWeightResolver

/-- `weights::update_values`, for one provider on one chain; without a weight nothing happens. -/
def updateChainWeight (s : ProviderRepository) (chainId : String) (kind : ProviderKind)
    (chainWeight : Nat) : ProviderRepository :=
  match s.rpcWeightResolver.lookup chainId with
  | none => s
  | some providers =>
    match providers.lookup kind with
    | none => s
    | some weight =>
      { s with
        rpcWeightResolver := s.rpcWeightResolver.insert chainId
          (providers.insert kind (weight.updateValue chainWeight)) }

/-- What happens to a repository. -/
inductive RepositoryAction where
  | addRpcProvider (config : RpcProviderConfig)
  | updateChainWeight (chainId : String) (kind : ProviderKind) (chainWeight : Nat)

/-- A repository as a machine. -/
def repositoryMachine : Machine ProviderRepository RepositoryAction where
  step s
    | .addRpcProvider config => some (addRpcProvider s config)
    | .updateChainWeight chainId kind chainWeight =>
      some (updateChainWeight s chainId kind chainWeight)

/-- An update keeps the weight it changes in bounds. -/
def KeepsBound (s : ProviderRepository) : RepositoryAction → Prop
  | .addRpcProvider _ => True
  | .updateChainWeight chainId kind chainWeight =>
    ∀ providers weight, s.rpcWeightResolver.lookup chainId = some providers →
      providers.lookup kind = some weight → (weight.updateValue chainWeight).value ≤ weightBound

/-! ## The selection -/

section

variable {D R : Type}

/-- The loop of the selection: the kinds of a chain, which are looked up in the repository. -/
def rpcDrawing (index : WeightedIndex D R String) (s : ProviderRepository) (chainId : String)
    (keys : List ProviderKind) (count : Nat) :
    Drawing D R String ProviderKind RpcProvider RpcError where
  index := index
  keys := keys
  find kind := s.rpcProviders.lookup kind
  count := count
  noKey := .weightedProvidersIndex ("Failed to get random provider for chain_id: " ++ chainId)
  updateFailed e :=
    .weightedProvidersIndex ("Failed to update weight in sampling iteration: " ++ e)
  notFound kind := .weightedProvidersIndex
    ("Provider not found during the weighted index check: " ++ kind.display)

/-- `get_rpc_provider_for_chain_id`, with the order in which the map is visited, and the random
    numbers. -/
def getRpcProviderForChainId (index : WeightedIndex D R String)
    (order : RowOrder ((_ : ProviderKind) × Weight)) (rng : Nat → R) (s : ProviderRepository)
    (chainId : String) (maxProviders : Nat) : Except RpcError (List RpcProvider) :=
  match s.rpcWeightResolver.lookup chainId with
  | none => .error (.unsupportedChain chainId)
  | some providers =>
    if providers.entries.isEmpty then .error (.unsupportedChain chainId)
    else
      let rows := order.arrange providers.entries
      let weights := rows.map fun row => max row.2.value 1
      let nonZeroWeightProviders := weights.countP (0 < ·)
      match index.new weights with
      | .error _ => .error (.chainTemporarilyUnavailable chainId)
      | .ok dist =>
        let drawing := rpcDrawing index s chainId (rows.map Sigma.fst)
          (min maxProviders nonZeroWeightProviders)
        drawing.loop rng drawing.count dist

end

/-! ## What a repository keeps: the invariant, chain by chain -/

/-- The kind is that of a provider, and the weight is in bounds. -/
def Rated (providers : HashMap ProviderKind RpcProvider) (kind : ProviderKind) (weight : Weight) :
    Prop :=
  weight.value ≤ weightBound ∧
    ∃ provider, providers.lookup kind = some provider ∧ provider.providerKind = kind

/-- Every chain has weights, and they satisfy the condition. -/
def Weighs (P : ProviderKind → Weight → Prop)
    (resolver : HashMap String (HashMap ProviderKind Weight)) : Prop :=
  ∀ chainId providers, resolver.lookup chainId = some providers →
    (∃ kind, kind ∈ providers) ∧ ∀ kind weight, providers.lookup kind = some weight → P kind weight

/-- **The invariant.** -/
structure ProviderRepository.Known (s : ProviderRepository) : Prop where
  kinds : ∀ kind provider, s.rpcProviders.lookup kind = some provider → provider.providerKind = kind
  weighs : Weighs (Rated s.rpcProviders) s.rpcWeightResolver

variable {P Q : ProviderKind → Weight → Prop} {s s' : ProviderRepository}
  {resolver : HashMap String (HashMap ProviderKind Weight)}
  {providers : HashMap ProviderKind Weight} {kind : ProviderKind} {weight : Weight}
  {chainId : String}

theorem Weighs.imp (h : Weighs P resolver) (himp : ∀ kind weight, P kind weight → Q kind weight) :
    Weighs Q resolver := by
  intro chainId providers hproviders
  obtain ⟨hsome, hall⟩ := h chainId providers hproviders
  exact ⟨hsome, fun kind weight hweight => himp kind weight (hall kind weight hweight)⟩

/-- Another weight, or the first one, for a kind on a chain. -/
theorem Weighs.insert (h : Weighs P resolver)
    (hproviders : ∀ kind weight, providers.lookup kind = some weight → P kind weight)
    (hweight : P kind weight) :
    Weighs P (AList.insert chainId (AList.insert kind weight providers) resolver) := by
  intro chainId' providers' hlookup
  by_cases hchain : chainId' = chainId
  · subst hchain
    rw [AList.lookup_insert] at hlookup
    cases hlookup
    refine ⟨⟨kind, (AList.mem_insert _).mpr (.inl rfl)⟩, fun kind' weight' hlookup' => ?_⟩
    by_cases hkind : kind' = kind
    · subst hkind
      rw [AList.lookup_insert] at hlookup'
      cases hlookup'
      exact hweight
    · rw [AList.lookup_insert_ne hkind] at hlookup'
      exact hproviders kind' weight' hlookup'
  · rw [AList.lookup_insert_ne hchain] at hlookup
    exact h chainId' providers' hlookup

/-- A chain that `add_rpc_provider` adds a weight for. -/
theorem Weighs.addWeight (h : Weighs P resolver) (chain : String × PriorityValue)
    (hnew : P kind (.new chain.2)) : Weighs P (addWeight kind resolver chain) := by
  refine h.insert (fun kind' weight' hlookup => ?_) hnew
  cases hold : resolver.lookup chain.1 with
  | none =>
    rw [hold, Option.getD_none, AList.lookup_empty] at hlookup
    cases hlookup
  | some providers =>
    rw [hold, Option.getD_some] at hlookup
    exact (h chain.1 providers hold).2 kind' weight' hlookup

/-- The chains one after the other. -/
theorem Weighs.foldl_addWeight (chains : List (String × PriorityValue)) (h : Weighs P resolver)
    (hnew : ∀ priority, P kind (.new priority)) :
    Weighs P (chains.foldl (BlockchainApi.addWeight kind) resolver) := by
  induction chains generalizing resolver with
  | nil => exact h
  | cons chain chains ih => exact ih (h.addWeight chain (hnew chain.2))

theorem known_empty : ProviderRepository.empty.Known := by
  constructor
  · intro kind provider h
    rw [ProviderRepository.empty, AList.lookup_empty] at h
    cases h
  · intro chainId providers h
    rw [ProviderRepository.empty, AList.lookup_empty] at h
    cases h

/-- A new provider takes the place of one of its kind, and keeps it. -/
theorem known_addRpcProvider (hs : s.Known) (config : RpcProviderConfig) :
    (addRpcProvider s config).Known := by
  have hself : (addRpcProvider s config).rpcProviders.lookup config.provider.providerKind =
      some config.provider := AList.lookup_insert _
  have hother : ∀ kind, kind ≠ config.provider.providerKind →
      (addRpcProvider s config).rpcProviders.lookup kind = s.rpcProviders.lookup kind :=
    fun kind hne => AList.lookup_insert_ne hne
  constructor
  · intro kind provider h
    by_cases hkind : kind = config.provider.providerKind
    · subst hkind
      rw [hself] at h
      cases h
      rfl
    · rw [hother kind hkind] at h
      exact hs.kinds kind provider h
  · refine Weighs.foldl_addWeight _ (hs.weighs.imp fun kind weight hrated => ⟨hrated.1, ?_⟩) ?_
    · by_cases hkind : kind = config.provider.providerKind
      · exact ⟨config.provider, hkind ▸ hself, hkind.symm⟩
      · rw [hother kind hkind]
        exact hrated.2
    · intro priority
      exact ⟨priority.2.trans (by decide), config.provider, hself, rfl⟩

/-- An update that keeps the bound. -/
theorem known_updateChainWeight {chainWeight : Nat} (hs : s.Known)
    (hbound : KeepsBound s (.updateChainWeight chainId kind chainWeight)) :
    (updateChainWeight s chainId kind chainWeight).Known := by
  rw [updateChainWeight]
  cases hproviders : s.rpcWeightResolver.lookup chainId with
  | none => exact hs
  | some providers =>
    dsimp only
    cases hweight : providers.lookup kind with
    | none => exact hs
    | some weight =>
      have hold := (hs.weighs chainId providers hproviders).2
      have hrated : Rated s.rpcProviders kind (weight.updateValue chainWeight) :=
        ⟨hbound providers weight hproviders hweight, (hold kind weight hweight).2⟩
      exact ⟨hs.kinds, hs.weighs.insert hold hrated⟩

/-- **Each step keeps the invariant.** -/
theorem known_repository_step {a : RepositoryAction} (hs : s.Known) (hbound : KeepsBound s a)
    (h : repositoryMachine.step s a = some s') : s'.Known := by
  cases a with
  | addRpcProvider config =>
    cases h
    exact known_addRpcProvider hs config
  | updateChainWeight chainId kind chainWeight =>
    cases h
    exact known_updateChainWeight hs hbound

/-! ## Who is registered: no update adds or removes a kind -/

/-- The kind has a weight on the chain. -/
def Lists (resolver : HashMap String (HashMap ProviderKind Weight)) (chainId : String)
    (kind : ProviderKind) : Prop :=
  kind ∈ (resolver.lookup chainId).getD ∅

/-- One of the registrations is of a provider of the kind, with the chain among those it
    supports. -/
def Registered (as : List RepositoryAction) (chainId : String) (kind : ProviderKind) : Prop :=
  ∃ config, .addRpcProvider config ∈ as ∧ config.provider.providerKind = kind ∧
    chainId ∈ config.supportedChains.map Prod.fst

theorem lists_insert {chainId' : String} {kind' : ProviderKind} :
    Lists (AList.insert chainId (AList.insert kind weight providers) resolver) chainId' kind' ↔
      if chainId' = chainId then kind' = kind ∨ kind' ∈ providers
      else Lists resolver chainId' kind' := by
  by_cases hchain : chainId' = chainId
  · subst hchain
    rw [if_pos rfl, Lists, AList.lookup_insert, Option.getD_some]
    exact AList.mem_insert _
  · rw [if_neg hchain, Lists, AList.lookup_insert_ne hchain]
    rfl

theorem lists_addWeight {chain : String × PriorityValue} {kind' : ProviderKind} :
    Lists (addWeight kind resolver chain) chainId kind' ↔
      Lists resolver chainId kind' ∨ kind = kind' ∧ chainId = chain.1 := by
  rw [addWeight, lists_insert]
  split
  · next hchain =>
    subst hchain
    rw [or_comm, and_iff_left rfl, eq_comm]
    rfl
  · next hchain => exact (or_iff_left fun h => hchain h.2).symm

theorem lists_foldl_addWeight {chains : List (String × PriorityValue)} {kind' : ProviderKind} :
    Lists (chains.foldl (addWeight kind) resolver) chainId kind' ↔
      Lists resolver chainId kind' ∨ kind = kind' ∧ chainId ∈ chains.map Prod.fst := by
  induction chains generalizing resolver with
  | nil => exact (or_iff_left fun h => List.not_mem_nil h.2).symm
  | cons chain chains ih =>
    rw [List.foldl_cons, ih, lists_addWeight, or_assoc, List.map_cons, List.mem_cons, and_or_left]

/-- A weight is updated where there is one. -/
theorem lists_updateChainWeight {chainWeight : Nat} {chainId' : String} {kind' : ProviderKind} :
    Lists (updateChainWeight s chainId kind chainWeight).rpcWeightResolver chainId' kind' ↔
      Lists s.rpcWeightResolver chainId' kind' := by
  rw [updateChainWeight]
  cases hproviders : s.rpcWeightResolver.lookup chainId with
  | none => rfl
  | some providers =>
    dsimp only
    cases hweight : providers.lookup kind with
    | none => rfl
    | some weight =>
      have hkind : kind ∈ providers := AList.lookup_isSome.mp (by rw [hweight]; rfl)
      dsimp only
      rw [lists_insert]
      split
      · next hchain =>
        subst hchain
        rw [Lists, hproviders, Option.getD_some]
        exact or_iff_right_of_imp fun h => h ▸ hkind
      · rfl

/-- **The kinds that a chain lists are those registered for it.** -/
theorem lists_iff_registered {as : List RepositoryAction}
    (hrun : repositoryMachine.run .empty as = some s) :
    Lists s.rpcWeightResolver chainId kind ↔ Registered as chainId kind := by
  induction as using List.reverseRecOn generalizing s with
  | nil =>
    cases hrun
    exact iff_of_false (AList.notMem_empty kind) fun ⟨_, h, _⟩ => List.not_mem_nil h
  | append_singleton as a ih =>
    obtain ⟨u, hu, hstep⟩ := Machine.run_concat.mp hrun
    have hearlier := ih hu
    simp only [Registered, List.mem_append, List.mem_singleton, or_and_right,
      exists_or] at hearlier ⊢
    rw [← hearlier]
    cases a with
    | addRpcProvider config =>
      cases hstep
      simp only [RepositoryAction.addRpcProvider.injEq, exists_eq_left]
      exact lists_foldl_addWeight
    | updateChainWeight chainId' kind' chainWeight =>
      cases hstep
      simp only [reduceCtorEq, false_and, exists_false, or_false]
      exact lists_updateChainWeight

/-! ## What the selection returns, from a repository with the invariant -/

section

variable {D R : Type} {index : WeightedIndex D R String}
  {order : RowOrder ((_ : ProviderKind) × Weight)}

/-- The kinds of a chain, in the order in which they are visited. -/
theorem arranged_kind {i : Nat}
    (hi : i < ((order.arrange providers.entries).map Sigma.fst).length) :
    ∃ kind weight, ((order.arrange providers.entries).map Sigma.fst)[i]? = some kind ∧
      providers.lookup kind = some weight := by
  rw [List.length_map] at hi
  have hmem : (order.arrange providers.entries)[i] ∈ providers.entries :=
    order.mem_arrange.mp (List.getElem_mem hi)
  refine ⟨_, _, ?_, AList.mem_lookup_iff.mpr hmem⟩
  rw [List.getElem?_map, List.getElem?_eq_getElem hi, Option.map_some]
  rfl

theorem nodup_arranged_kinds : ((order.arrange providers.entries).map Sigma.fst).Nodup :=
  ((order.perm providers.entries).map Sigma.fst).nodup_iff.mpr providers.keys_nodup

theorem length_arranged : (order.arrange providers.entries).length = HashMap.size providers :=
  (order.perm providers.entries).length_eq

/-- A chain that lists a kind has entries. -/
theorem entries_ne_nil (hkind : kind ∈ providers) : providers.entries ≠ [] := by
  intro hnil
  have hkeys : kind ∈ providers.keys := AList.mem_keys.mp hkind
  rw [AList.keys, hnil] at hkeys
  cases hkeys

/-- The weights that are drawn from: none is zero, and all are in bounds. -/
theorem arranged_weight {w : Nat}
    (hrated : ∀ kind weight, providers.lookup kind = some weight → Rated s.rpcProviders kind weight)
    (hw : w ∈ (order.arrange providers.entries).map fun row => max row.2.value 1) :
    0 < w ∧ w ≤ weightBound := by
  obtain ⟨row, hrow, rfl⟩ := List.mem_map.mp hw
  have hlookup := AList.mem_lookup_iff.mpr (order.mem_arrange.mp hrow)
  exact ⟨Nat.lt_of_lt_of_le Nat.one_pos (Nat.le_max_right _ _),
    Nat.max_le.mpr ⟨(hrated row.1 row.2 hlookup).1, by decide⟩⟩

/-- Every kind of a chain can be drawn. -/
theorem exists_rpcDrawing_entry {i count : Nat}
    (hrated : ∀ kind weight, providers.lookup kind = some weight → Rated s.rpcProviders kind weight)
    (hi : i < (order.arrange providers.entries).length) :
    ∃ provider, (rpcDrawing index s chainId ((order.arrange providers.entries).map Sigma.fst)
      count).Entry i provider := by
  obtain ⟨kind, weight, hkey, hlookup⟩ :=
    arranged_kind (Nat.lt_of_lt_of_eq hi (List.length_map _).symm)
  obtain ⟨-, provider, hprovider, -⟩ := hrated kind weight hlookup
  exact ⟨provider, kind, hkey, hprovider⟩

/-- What is drawn is a provider of the chain. -/
theorem rpcDrawing_entry {i count : Nat} {provider : RpcProvider} (hs : s.Known)
    (h : (rpcDrawing index s chainId ((order.arrange providers.entries).map Sigma.fst) count).Entry
      i provider) :
    s.rpcProviders.lookup provider.providerKind = some provider ∧
      provider.providerKind ∈ providers := by
  obtain ⟨kind, hkey, hfind⟩ := h
  have hi := (List.getElem?_eq_some_iff.mp hkey).1
  obtain ⟨kind', weight, hkind', hweight⟩ := arranged_kind hi
  cases hkey.symm.trans hkind'
  rw [hs.kinds kind provider hfind]
  exact ⟨hfind, AList.lookup_isSome.mp (Option.isSome_iff_exists.mpr ⟨weight, hweight⟩)⟩

/-- **The selection from a repository** with the invariant. -/
theorem getRpcProviderForChainId_spec {weights : D → List Nat}
    (hlaws : Lawful index weights weightBound) (hs : s.Known)
    (hchain : s.rpcWeightResolver.lookup chainId = some providers)
    (order : RowOrder ((_ : ProviderKind) × Weight)) (rng : Nat → R) (maxProviders : Nat) :
    ∃ selected, getRpcProviderForChainId index order rng s chainId maxProviders = .ok selected ∧
      selected.length = min maxProviders (HashMap.size providers) ∧
      (selected.map RpcProvider.providerKind).Nodup ∧
      ∀ provider ∈ selected, s.rpcProviders.lookup provider.providerKind = some provider ∧
        provider.providerKind ∈ providers := by
  obtain ⟨⟨kind, hkind⟩, hrated⟩ := hs.weighs chainId providers hchain
  have hentries : providers.entries ≠ [] := entries_ne_nil hkind
  let rows := order.arrange providers.entries
  let ws := rows.map fun row => max row.2.value 1
  have hlength : ws.length = HashMap.size providers := (List.length_map _).trans length_arranged
  have hpos : ∀ w ∈ ws, 0 < w := fun w hw => (arranged_weight hrated hw).1
  have hle : ∀ w ∈ ws, w ≤ weightBound := fun w hw => (arranged_weight hrated hw).2
  have hcount : ws.countP (0 < ·) = HashMap.size providers :=
    (List.countP_eq_length.mpr fun w hw => decide_eq_true (hpos w hw)).trans hlength
  have hsize : 0 < ws.length := hlength ▸ List.length_pos_of_ne_nil hentries
  obtain ⟨dist, hnew, hweights⟩ := hlaws.new ws hle ⟨ws[0], List.getElem_mem hsize,
    hpos _ (List.getElem_mem hsize)⟩
  -- the loop draws from all of them
  let drawing := rpcDrawing index s chainId (rows.map Sigma.fst)
    (min maxProviders (ws.countP (0 < ·)))
  have hat : drawing.At weights ws [] drawing.count dist :=
    .start hweights ((Nat.min_le_right _ _).trans (hcount.trans hlength.symm).le)
  have hfound : ∀ i < ws.length, ∃ provider, drawing.Entry i provider := fun i hi =>
    exists_rpcDrawing_entry hrated (Nat.lt_of_lt_of_eq hi (List.length_map _))
  obtain ⟨indices, selected, hloop, hlen, hdrawn, hnodup, -⟩ :=
    Drawing.loop_spec rng hlaws hpos hle hfound hat
  refine ⟨selected, ?_, ?_, ?_, ?_⟩
  · rw [getRpcProviderForChainId, hchain]
    dsimp only
    rw [if_neg (by simpa using hentries)]
    show (match index.new ws with | .error _ => _ | .ok dist => _) = _
    rw [hnew]
    exact hloop
  · rw [← hdrawn.length_eq, hlen]
    exact congrArg (min maxProviders) hcount
  · exact Drawing.nodup_entries hdrawn hnodup nodup_arranged_kinds hs.kinds
  · intro provider hprovider
    obtain ⟨i, -, hentry⟩ := Drawing.exists_index hdrawn provider hprovider
    exact rpcDrawing_entry hs hentry

/-- Every repository that is built and updated within bounds has the invariant. -/
theorem repository_known {as : List RepositoryAction}
    (hrun : repositoryMachine.run .empty as = some s)
    (hwithin : repositoryMachine.Within KeepsBound .empty as) : s.Known :=
  Machine.run_induction (fun hs hbound h => known_repository_step hs hbound h) hwithin hrun
    known_empty

/-- **The selection of RPC providers.**  However the repository was built and its weights were
    updated, within their bound, and whatever the random numbers: for a chain with providers, the
    selection returns as many of those registered for it as were asked for, or all of them, no two
    the same. -/
theorem rpc_selection_spec {weights : D → List Nat} (hlaws : Lawful index weights weightBound)
    {as : List RepositoryAction} (hrun : repositoryMachine.run .empty as = some s)
    (hwithin : repositoryMachine.Within KeepsBound .empty as)
    (hchain : s.rpcWeightResolver.lookup chainId = some providers)
    (order : RowOrder ((_ : ProviderKind) × Weight)) (rng : Nat → R) (maxProviders : Nat) :
    (∀ kind, kind ∈ providers ↔ Registered as chainId kind) ∧
      ∃ selected, getRpcProviderForChainId index order rng s chainId maxProviders = .ok selected ∧
        selected.length = min maxProviders (HashMap.size providers) ∧
        (selected.map RpcProvider.providerKind).Nodup ∧
        ∀ provider ∈ selected, s.rpcProviders.lookup provider.providerKind = some provider ∧
          provider.providerKind ∈ providers := by
  constructor
  · intro kind
    rw [← lists_iff_registered hrun, Lists, hchain, Option.getD_some]
  · exact getRpcProviderForChainId_spec hlaws (repository_known hrun hwithin) hchain order rng
      maxProviders

/-- A provider of a kind, which answers too many requests with 429. -/
def demoRpcProvider (kind : ProviderKind) : RpcProvider := ⟨kind, 429⟩

/-- Two providers on one chain, one of which fails on every request after a while. -/
def demoRepositoryRun : List RepositoryAction :=
  [.addRpcProvider ⟨demoRpcProvider .publicnode, [("eip155:8453", ⟨50, by decide⟩)]⟩,
    .addRpcProvider ⟨demoRpcProvider .quicknode, [("eip155:8453", ⟨25, by decide⟩)]⟩,
    .updateChainWeight "eip155:8453" .publicnode 0]

/-- The repository after the run. -/
def demoRepository : ProviderRepository :=
  updateChainWeight (addRpcProvider (addRpcProvider .empty
    ⟨demoRpcProvider .publicnode, [("eip155:8453", ⟨50, by decide⟩)]⟩)
    ⟨demoRpcProvider .quicknode, [("eip155:8453", ⟨25, by decide⟩)]⟩) "eip155:8453" .publicnode 0

theorem demoRepositoryRun_within :
    repositoryMachine.Within KeepsBound .empty demoRepositoryRun := by
  refine ⟨trivial, fun s hs => ⟨trivial, fun s' hs' => ⟨?_, fun _ _ => trivial⟩⟩⟩
  intro providers weight _ _
  rw [Weight.updateValue, Nat.zero_mul]
  exact Nat.zero_le _

/-- The selection of two of the two. -/
theorem rpc_selection_spec_demo :
    ∃ selected, getRpcProviderForChainId cumulative .stored id demoRepository "eip155:8453" 5 =
      .ok selected ∧ selected.length = 2 := by
  have hrun : repositoryMachine.run .empty demoRepositoryRun = some demoRepository := rfl
  have hsize :
      (demoRepository.rpcWeightResolver.lookup "eip155:8453").map HashMap.size = some 2 := by
    decide +kernel
  obtain ⟨providers, hproviders, hsize⟩ := Option.map_eq_some_iff.mp hsize
  obtain ⟨-, selected, hselected, hlength, -⟩ := rpc_selection_spec
    (lawful_cumulative weightBound) hrun demoRepositoryRun_within hproviders .stored id 5
  exact ⟨selected, hselected, hlength.trans (by rw [hsize]; rfl)⟩

end

end BlockchainApi
