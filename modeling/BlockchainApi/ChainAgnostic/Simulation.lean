/-
  The storage that a simulation of a transfer overrides (`src/handlers/chain_agnostic/mod.rs`).

  Before a transfer is simulated, the sender gets a balance in each bridging asset of the chain: the
  slot of his balance in the asset's contract is overridden.  The loop over the assets collects the
  slots in one map, and gives each contract a copy of all that was collected so far
  (`Lib.Accumulation`).

  1. **When it ends well, and with which map** (`simulationStateOverrides_eq_ok_iff`).  The loop
     stops at an EVM asset without a slot on the chain; the induction is on the assets that are
     left, for any map collected before (`foldlM_overrideAsset_eq_ok_iff`).
  2. **When the map is exact** (`simulatesExactly_iff`).  Each contract has its own slot and no
     other exactly if all assets of the chain keep balances in the same slot, and assets of one
     contract have one balance.  This is the general fact about accumulated maps, read through the
     hash: two balances are in one slot only if the slots have one number (`CollisionFree`).
  3. **What the simulation tells** (`getAssetsChangesFromSimulation_eq_ok_iff`): the transfers of
     tokens in its answer, and the gas.

  The table is a list without two assets of one name, in any order.
-/
import BlockchainApi.ChainAgnostic.Route
import BlockchainApi.Lib.Accumulation
import BlockchainApi.Lib.Table

namespace BlockchainApi

open ByteCodec Accumulation

/-! ## The table, with the slots of its assets -/

/-- A static map, which has no key twice. -/
abbrev PhfMap (V : Type) : Type := Table (String × V) String Prod.fst

/-- `SimulationParams`. -/
structure SimulationParams where
  /-- The slot of the balances, on each chain. -/
  balanceStorageSlots : PhfMap UInt64
  balance : U128

/-- `AssetEntry`, with what the simulation needs. -/
structure SimulatedAsset extends AssetEntry where
  simulation : SimulationParams

/-- The assets by symbol. -/
abbrev SimulatedTable : Type := PhfMap SimulatedAsset

/-- The contract of an asset on a chain. -/
def contractOn (chainId : String) (entry : String × SimulatedAsset) :
    Option (String × Eip155OrSolanaAddress) :=
  (entry.2.contracts.find? (·.1 = chainId)).map fun c => (entry.1, c.2)

/-- `get_bridging_assets_contracts_for_chain`. -/
def getBridgingAssetsContractsForChain (table : SimulatedTable) (chainId : String) :
    List (String × Eip155OrSolanaAddress) :=
  table.rows.filterMap (contractOn chainId)

/-- `get_simulation_params_for_asset`. -/
def getSimulationParamsForAsset (table : SimulatedTable) (assetName : String) :
    Option SimulationParams :=
  (table.find? assetName).map (·.2.simulation)

/-! ## The overrides, as the loop collects them -/

/-- `compute_simulation_balance`: the balance in the low half of a word. -/
def computeSimulationBalance (balance : U128) : B256 where
  bytes := List.replicate 16 0 ++ toBe 16 balance.toNat
  length_eq := by rw [List.length_append, List.length_replicate, length_toBe]

/-- `compute_simulation_storage_slot`: the hash of the address and the number of the slot, each in a
    word. -/
def computeSimulationStorageSlot (keccak256 : Bytes → B256) (address : Address)
    (slotNumber : UInt64) : B256 :=
  keccak256 (List.replicate 12 0 ++ address.bytes ++
    (List.replicate 24 0 ++ toBe 8 slotNumber.toNat))

section

variable (keccak256 : Bytes → B256) (table : SimulatedTable) (chainId : String) (sender : Address)

/-- One asset of the loop. -/
def overrideAsset (acc : Accumulated Address B256 B256)
    (asset : String × Eip155OrSolanaAddress) : Except RpcError (Accumulated Address B256 B256) :=
  match asset.2 with
  | .solana _ => .ok acc
  | .eip155 contract =>
    match getSimulationParamsForAsset table asset.1 with
    | none => .ok acc
    | some params =>
      match params.balanceStorageSlots.find? chainId with
      | none => .error (.invalidConfiguration
          ("Contract balance storage slot for simulation is not present for " ++ asset.1 ++
            " on " ++ chainId))
      | some (_, slot) =>
        let accountState := acc.2.insert (computeSimulationStorageSlot keccak256 sender slot)
          (computeSimulationBalance params.balance)
        .ok (acc.1.insert contract accountState, accountState)

/-- The state overrides of `get_assets_changes_from_simulation`. -/
def simulationStateOverrides : Except RpcError (HashMap Address (HashMap B256 B256)) :=
  ((getBridgingAssetsContractsForChain table chainId).foldlM
    (overrideAsset keccak256 table chainId sender) (∅, ∅)).map Prod.fst

end

/-! ## The simulation -/

/-- `AssetChangeType`. -/
inductive AssetChangeType where
  | transfer
  | mint
  | burn
  deriving DecidableEq

/-- `TokenStandard`. -/
inductive TokenStandard where
  | erc20
  | erc721
  | nativeCurrency
  deriving DecidableEq

/-- `AssetChange`, with the parts of its `TokenInfo` that are read. -/
structure AssetChange where
  assetType : AssetChangeType
  to_ : Option Address
  rawAmount : U256
  standard : TokenStandard
  contractAddress : Option Address

/-- `SimulationResponse`, as far as it is read. -/
structure SimulationResponse where
  gas : UInt64
  assetChanges : Option (List AssetChange)

/-- A transfer of a token to somebody. -/
def erc20AssetChange (chainId : String) (change : AssetChange) : Option Erc20AssetChange :=
  match change.assetType, change.standard, change.to_, change.contractAddress with
  | .transfer, .erc20, some receiver, some assetContract =>
    some { chainId, assetContract, amount := change.rawAmount, receiver }
  | _, _, _, _ => none

/-- `get_assets_changes_from_simulation`; the simulation is another service. -/
def getAssetsChangesFromSimulation (keccak256 : Bytes → B256) (table : SimulatedTable)
    (simulateTransaction : String → Address → Address → Bytes →
      HashMap Address (HashMap B256 B256) → Except RpcError SimulationResponse)
    (chainId : String) (sender receiver : Address) (input : Bytes) :
    Except RpcError (List Erc20AssetChange × UInt64) := do
  let stateOverrides ← simulationStateOverrides keccak256 table chainId sender
  let response ← simulateTransaction chainId sender receiver input stateOverrides
  match response.assetChanges with
  | none => return ([], response.gas)
  | some changes => return (changes.filterMap (erc20AssetChange chainId), response.gas)

/-! ## When the overrides are exact

The loop over the assets is reduced to a fold over what each EVM asset writes; the rest is said
of such folds in general. -/

/-- The contract and the parameters of an asset on an EVM chain. -/
def evmAsset (chainId : String) (entry : String × SimulatedAsset) :
    Option (Address × SimulationParams) :=
  match contractOn chainId entry with
  | some (_, .eip155 contract) => some (contract, entry.2.simulation)
  | _ => none

/-- The EVM assets of a chain. -/
def evmAssets (table : SimulatedTable) (chainId : String) : List (Address × SimulationParams) :=
  table.rows.filterMap (evmAsset chainId)

/-- The slot of the balances of an asset. -/
def SimulationParams.slotOn (params : SimulationParams) (chainId : String) : Option UInt64 :=
  (params.balanceStorageSlots.find? chainId).map Prod.snd

/-- No two balances share a slot. -/
def CollisionFree (keccak256 : Bytes → B256) : Prop :=
  ∀ address address' slot slot', computeSimulationStorageSlot keccak256 address slot =
    computeSimulationStorageSlot keccak256 address' slot' → address = address' ∧ slot = slot'

/-- **What is expected of the overrides**: each EVM asset of the chain has the slot of the sender's
    balance overridden with the simulated balance, and no other. -/
def SimulatesExactly (keccak256 : Bytes → B256) (table : SimulatedTable) (chainId : String)
    (sender : Address) (overrides : HashMap Address (HashMap B256 B256)) : Prop :=
  ∀ asset ∈ evmAssets table chainId, ∃ slot accountState,
    asset.2.slotOn chainId = some slot ∧
    overrides.lookup asset.1 = some accountState ∧
    HoldsOnly accountState (computeSimulationStorageSlot keccak256 sender slot)
      (computeSimulationBalance asset.2.balance)

variable {keccak256 : Bytes → B256} {table : SimulatedTable} {chainId : String} {sender : Address}
  {overrides : HashMap Address (HashMap B256 B256)}

theorem computeSimulationBalance_inj {b b' : U128} :
    computeSimulationBalance b = computeSimulationBalance b' ↔ b = b' := by
  constructor
  · intro h
    have hbytes := List.append_cancel_left (congrArg FixedBytes.bytes h)
    have hnat := congrArg ofBe hbytes
    rw [ofBe_toBe_of_lt b.isLt, ofBe_toBe_of_lt b'.isLt] at hnat
    exact BitVec.eq_of_toNat_eq hnat
  · rintro rfl
    rfl

/-- What the loop writes for an asset that has a slot. -/
def balanceWrite (keccak256 : Bytes → B256) (chainId : String) (sender : Address)
    (asset : Address × SimulationParams) : Write Address B256 B256 where
  owner := asset.1
  slot := computeSimulationStorageSlot keccak256 sender ((asset.2.slotOn chainId).getD 0)
  value := computeSimulationBalance asset.2.balance

/-- The parameters that are found by its name are those of the asset. -/
theorem getSimulationParamsForAsset_of_mem {entry : String × SimulatedAsset}
    (h : entry ∈ table.rows) : getSimulationParamsForAsset table entry.1 =
      some entry.2.simulation := by
  rw [getSimulationParamsForAsset, Table.find?_eq_some.mpr ⟨h, rfl⟩]
  rfl

/-- **One asset**: those of other kinds of chains are passed over, and an asset without a slot ends
    the loop. -/
theorem overrideAsset_eip155 {entry : String × SimulatedAsset} {contract : Address}
    {acc acc' : Accumulated Address B256 B256} (h : entry ∈ table.rows) :
    overrideAsset keccak256 table chainId sender acc (entry.1, .eip155 contract) = .ok acc' ↔
      (entry.2.simulation.slotOn chainId).isSome ∧
        acc' = step acc (balanceWrite keccak256 chainId sender
          (contract, entry.2.simulation)) := by
  rw [overrideAsset, getSimulationParamsForAsset_of_mem h]
  dsimp only
  rw [balanceWrite, SimulationParams.slotOn]
  cases entry.2.simulation.balanceStorageSlots.find? chainId with
  | none => exact iff_of_false (fun h => nomatch h) fun h => nomatch h.1
  | some row =>
    constructor
    · intro hok
      cases hok
      exact ⟨rfl, rfl⟩
    · rintro ⟨-, rfl⟩
      rfl

/-- **The loop** ends well if every asset has a slot, and has accumulated their writes then. -/
theorem foldlM_overrideAsset_eq_ok_iff {rows : List (String × SimulatedAsset)}
    {acc acc' : Accumulated Address B256 B256} (hrows : ∀ entry ∈ rows, entry ∈ table.rows) :
    (rows.filterMap (contractOn chainId)).foldlM (overrideAsset keccak256 table chainId sender)
        acc = .ok acc' ↔
      (∀ asset ∈ rows.filterMap (evmAsset chainId), (asset.2.slotOn chainId).isSome) ∧
        acc' = ((rows.filterMap (evmAsset chainId)).map
          (balanceWrite keccak256 chainId sender)).foldl step acc := by
  -- the induction is on the assets that are left, for any map collected before
  induction rows generalizing acc with
  | nil =>
    rw [List.filterMap_nil, List.filterMap_nil]
    constructor
    · intro h
      cases h
      exact ⟨fun _ h => absurd h List.not_mem_nil, rfl⟩
    · rintro ⟨-, rfl⟩
      rfl
  | cons entry rows ih =>
    obtain ⟨hentry, hrows⟩ := List.forall_mem_cons.mp hrows
    rw [List.filterMap_cons, List.filterMap_cons]
    cases hcontract : contractOn chainId entry with
    | none =>
      -- the asset is not on the chain
      rw [evmAsset, hcontract]
      exact ih hrows
    | some asset =>
      have hname : asset.1 = entry.1 := by
        obtain ⟨c, -, rfl⟩ := Option.map_eq_some_iff.mp hcontract
        rfl
      obtain ⟨name, address⟩ := asset
      subst hname
      rw [evmAsset, hcontract]
      cases address with
      | solana mint =>
        -- the loop passes over it
        dsimp only
        rw [List.foldlM_cons]
        exact ih hrows
      | eip155 contract =>
        -- its slot is added, if it has one
        dsimp only
        rw [Except.foldlM_cons_eq_ok, List.forall_mem_cons, List.map_cons, List.foldl_cons]
        constructor
        · rintro ⟨acc₁, hstep, hrest⟩
          obtain ⟨hslot, rfl⟩ := (overrideAsset_eip155 hentry).mp hstep
          obtain ⟨hslots, rfl⟩ := (ih hrows).mp hrest
          exact ⟨⟨hslot, hslots⟩, rfl⟩
        · rintro ⟨⟨hslot, hslots⟩, rfl⟩
          exact ⟨_, (overrideAsset_eip155 hentry).mpr ⟨hslot, rfl⟩,
            (ih hrows).mpr ⟨hslots, rfl⟩⟩

/-- **When overrides are built, and which.** -/
theorem simulationStateOverrides_eq_ok_iff :
    simulationStateOverrides keccak256 table chainId sender = .ok overrides ↔
      (∀ asset ∈ evmAssets table chainId, (asset.2.slotOn chainId).isSome) ∧
        overrides = (accumulate ((evmAssets table chainId).map
          (balanceWrite keccak256 chainId sender))).1 := by
  have hrows : ∀ entry ∈ table.rows, entry ∈ table.rows := fun _ h => h
  rw [simulationStateOverrides, getBridgingAssetsContractsForChain, Except.map_eq_ok]
  constructor
  · rintro ⟨acc, hloop, rfl⟩
    obtain ⟨hslots, rfl⟩ := (foldlM_overrideAsset_eq_ok_iff hrows).mp hloop
    exact ⟨hslots, rfl⟩
  · rintro ⟨hslots, rfl⟩
    exact ⟨_, (foldlM_overrideAsset_eq_ok_iff hrows).mpr ⟨hslots, rfl⟩, rfl⟩

/-- Two assets with slots have one slot exactly if what is written for them is in one slot. -/
theorem balanceWrite_slot_inj (hkeccak : CollisionFree keccak256)
    {asset other : Address × SimulationParams} (hasset : (asset.2.slotOn chainId).isSome)
    (hother : (other.2.slotOn chainId).isSome) :
    (balanceWrite keccak256 chainId sender asset).slot =
        (balanceWrite keccak256 chainId sender other).slot ↔
      asset.2.slotOn chainId = other.2.slotOn chainId := by
  obtain ⟨slot, hslot⟩ := Option.isSome_iff_exists.mp hasset
  obtain ⟨slot', hslot'⟩ := Option.isSome_iff_exists.mp hother
  rw [balanceWrite, balanceWrite, hslot, hslot', Option.getD_some, Option.getD_some,
    Option.some_inj]
  constructor
  · intro h
    exact (hkeccak _ _ _ _ h).2
  · rintro rfl
    rfl

/-- The overrides are exact if what was accumulated is. -/
theorem simulatesExactly_iff_exact
    (hslots : ∀ asset ∈ evmAssets table chainId, (asset.2.slotOn chainId).isSome) :
    SimulatesExactly keccak256 table chainId sender
      (accumulate ((evmAssets table chainId).map (balanceWrite keccak256 chainId sender))).1 ↔
        Exact ((evmAssets table chainId).map (balanceWrite keccak256 chainId sender)) := by
  rw [Exact, List.forall_mem_map]
  refine forall₂_congr fun asset hasset => ?_
  obtain ⟨slot, hslot⟩ := Option.isSome_iff_exists.mp (hslots asset hasset)
  rw [hslot, exists_comm, balanceWrite, hslot]
  exact exists_congr fun accountState =>
    ⟨fun ⟨_, hsome, hrest⟩ => Option.some.inj hsome ▸ hrest, fun hrest => ⟨slot, rfl, hrest⟩⟩

/-- **When the overrides are exact**: all assets of the chain keep the balances in one slot, and
    assets of one contract have one balance. -/
theorem simulatesExactly_iff (hkeccak : CollisionFree keccak256)
    (h : simulationStateOverrides keccak256 table chainId sender = .ok overrides) :
    SimulatesExactly keccak256 table chainId sender overrides ↔
      (∀ asset ∈ evmAssets table chainId, ∀ other ∈ evmAssets table chainId,
        asset.2.slotOn chainId = other.2.slotOn chainId) ∧
      ∀ asset ∈ evmAssets table chainId, ∀ other ∈ evmAssets table chainId,
        asset.1 = other.1 → asset.2.balance = other.2.balance := by
  obtain ⟨hslots, rfl⟩ := simulationStateOverrides_eq_ok_iff.mp h
  rw [simulatesExactly_iff_exact hslots, exact_iff]
  simp only [List.forall_mem_map]
  refine and_congr ?_ ?_
  · exact forall₂_congr fun asset hasset => forall₂_congr fun other hother =>
      balanceWrite_slot_inj hkeccak (hslots asset hasset) (hslots other hother)
  · exact forall₂_congr fun asset _ => forall₂_congr fun other _ =>
      imp_congr_right fun _ => computeSimulationBalance_inj

/-! ## What the simulation tells -/

/-- **A change that is told** is a transfer of a token to somebody, with its amount. -/
theorem mem_erc20AssetChanges_iff {changes : List AssetChange} {told : Erc20AssetChange} :
    told ∈ changes.filterMap (erc20AssetChange chainId) ↔
      told.chainId = chainId ∧ ∃ change ∈ changes, change.assetType = .transfer ∧
        change.standard = .erc20 ∧ change.to_ = some told.receiver ∧
          change.contractAddress = some told.assetContract ∧ change.rawAmount = told.amount := by
  rw [List.mem_filterMap]
  constructor
  · rintro ⟨⟨assetType, to_, rawAmount, standard, contractAddress⟩, hchange, htold⟩
    rw [erc20AssetChange] at htold
    split at htold
    · cases htold
      rename_i htype hstandard hto hcontract
      exact ⟨rfl, _, hchange, htype, hstandard, hto, hcontract, rfl⟩
    · cases htold
  · rintro ⟨hchain, ⟨_, _, _, _, _⟩, hchange, rfl, rfl, rfl, rfl, rfl⟩
    exact ⟨_, hchange, by rw [erc20AssetChange, ← hchain]⟩

/-- **What is told of a transaction**: it is simulated under the overrides of all assets of its
    chain, and the answer has its transfers of tokens and its gas. -/
theorem getAssetsChangesFromSimulation_eq_ok_iff
    {simulateTransaction : String → Address → Address → Bytes →
      HashMap Address (HashMap B256 B256) → Except RpcError SimulationResponse}
    {receiver : Address} {input : Bytes} {told : List Erc20AssetChange} {gas : UInt64} :
    getAssetsChangesFromSimulation keccak256 table simulateTransaction chainId sender receiver
        input = .ok (told, gas) ↔
      ∃ overrides response,
        simulationStateOverrides keccak256 table chainId sender = .ok overrides ∧
          simulateTransaction chainId sender receiver input overrides = .ok response ∧
            told = (response.assetChanges.getD []).filterMap (erc20AssetChange chainId) ∧
              gas = response.gas := by
  rw [getAssetsChangesFromSimulation, Except.bind_eq_ok]
  refine exists_congr fun overrides => ?_
  rw [Except.bind_eq_ok]
  constructor
  · rintro ⟨hoverrides, response, hresponse, h⟩
    refine ⟨response, hoverrides, hresponse, ?_⟩
    -- an answer without the list of changes counts as one with none
    cases hchanges : response.assetChanges with
    | none =>
      rw [hchanges] at h
      cases h
      exact ⟨rfl, rfl⟩
    | some changes =>
      rw [hchanges] at h
      cases h
      exact ⟨rfl, rfl⟩
  · rintro ⟨response, hoverrides, hresponse, rfl, rfl⟩
    refine ⟨hoverrides, response, hresponse, ?_⟩
    cases response.assetChanges with
    | none => rfl
    | some changes => rfl

/-! ## The assets of the service -/

/-- The simulation parameters of the table of the service. -/
def bridgingSimulation : String → SimulationParams
  | "USDC" =>
    { balanceStorageSlots :=
        ⟨[("eip155:10", 9), ("eip155:8453", 9), ("eip155:42161", 9)], by decide⟩
      balance := 99000000000 }
  | "USDT" =>
    { balanceStorageSlots := ⟨[("eip155:10", 0), ("eip155:42161", 51)], by decide⟩
      balance := 99000000000 }
  | "USDS" =>
    { balanceStorageSlots := ⟨[("eip155:8453", 2)], by decide⟩
      balance := 99000000000000000000000 }
  | _ =>
    { balanceStorageSlots :=
        ⟨[("eip155:10", 0), ("eip155:8453", 0), ("eip155:42161", 0)], by decide⟩
      balance := 99000000000000000000000 }

/-- `BRIDGING_ASSETS`. -/
def simulatedBridgingAssets (solanaUsdc : SolanaPubkey) : SimulatedTable where
  rows := (bridgingAssets solanaUsdc).map fun entry =>
    (entry.1, { entry.2 with simulation := bridgingSimulation entry.1 })
  unique := by
    rw [List.map_map]
    show ["USDC", "USDT", "USDS", "ETH"].Nodup
    decide

/-- A hash that keeps the address and the slot apart. -/
def demoKeccak (input : Bytes) : B256 :=
  .ofNat 32 (ofBe ((input.drop 12).take 20) * 256 ^ 8 + ofBe (input.drop 56))

theorem computeSimulationStorageSlot_demo (address : Address) (slot : UInt64) :
    computeSimulationStorageSlot demoKeccak address slot =
      .ofNat 32 (ofBe address.bytes * 256 ^ 8 + slot.toNat) := by
  have hdrop : ((List.replicate 12 (0 : UInt8) ++ address.bytes ++
      (List.replicate 24 0 ++ toBe 8 slot.toNat)).drop 12).take 20 = address.bytes := by
    rw [List.append_assoc, List.drop_left' List.length_replicate,
      List.take_left' address.length_eq]
  have hlow : (List.replicate 12 (0 : UInt8) ++ address.bytes ++
      (List.replicate 24 0 ++ toBe 8 slot.toNat)).drop 56 = toBe 8 slot.toNat := by
    rw [← List.append_assoc]
    refine List.drop_left' ?_
    rw [List.length_append, List.length_append, List.length_replicate, List.length_replicate,
      address.length_eq]
  rw [computeSimulationStorageSlot, demoKeccak, hdrop, hlow, ofBe_toBe_of_lt slot.toNat_lt]

theorem collisionFree_demoKeccak : CollisionFree demoKeccak := by
  intro address address' slot slot' h
  rw [computeSimulationStorageSlot_demo, computeSimulationStorageSlot_demo] at h
  have haddress := ofBe_lt address.bytes
  have haddress' := ofBe_lt address'.bytes
  rw [address.length_eq] at haddress
  rw [address'.length_eq] at haddress'
  have hslot := slot.toNat_lt
  have hslot' := slot'.toNat_lt
  -- both numbers fit in a word
  have hnat := congrArg (fun word => ofBe word.bytes) h
  simp only [FixedBytes.ofNat, ofBe_toBe] at hnat
  rw [Nat.mod_eq_of_lt (by omega), Nat.mod_eq_of_lt (by omega)] at hnat
  have hbytes : ofBe address.bytes = ofBe address'.bytes := by omega
  refine ⟨FixedBytes.ext ?_, UInt64.toNat_inj.mp (by omega)⟩
  rw [← toBe_ofBe address.bytes, ← toBe_ofBe address'.bytes, hbytes, address.length_eq,
    address'.length_eq]

/-- Two tokens on one chain, whose contracts keep the balances in the slot of the same number. -/
def demoSimulatedTable : SimulatedTable where
  rows :=
    [("USDC",
      { decimals := 6
        contracts := [("eip155:10", .eip155 (.ofNat 20 0x0b2c639c533813f4aa9d7837caf62653d097ff85))]
        simulation := bridgingSimulation "USDC" }),
     ("USDC.e",
      { decimals := 6
        contracts := [("eip155:10", .eip155 (.ofNat 20 0x7f5c764cbc14f9669b88837ca1490cca17c31607))]
        simulation := bridgingSimulation "USDC" })]
  unique := by
    show ["USDC", "USDC.e"].Nodup
    decide

/-- Both contracts get that one slot, and nothing else. -/
theorem simulatesExactly_iff_demo :
    SimulatesExactly demoKeccak demoSimulatedTable "eip155:10" (.ofNat 20 1)
      (accumulate ((evmAssets demoSimulatedTable "eip155:10").map
        (balanceWrite demoKeccak "eip155:10" (.ofNat 20 1)))).1 :=
  (simulatesExactly_iff collisionFree_demoKeccak
    (simulationStateOverrides_eq_ok_iff.mpr ⟨by decide +kernel, rfl⟩)).mpr
      ⟨by decide +kernel, by decide +kernel⟩

/-- On Optimism, the loop gives the second and the third asset the slots of those before. -/
theorem not_simulatesExactly :
    ¬ ∀ overrides, simulationStateOverrides demoKeccak (simulatedBridgingAssets (.ofNat 32 7))
        "eip155:10" (.ofNat 20 1) = .ok overrides →
      SimulatesExactly demoKeccak (simulatedBridgingAssets (.ofNat 32 7)) "eip155:10" (.ofNat 20 1)
        overrides := by
  intro hclaim
  have hslots : ∀ asset ∈ evmAssets (simulatedBridgingAssets (.ofNat 32 7)) "eip155:10",
      (asset.2.slotOn "eip155:10").isSome := by decide +kernel
  have hexact := (simulatesExactly_iff_exact hslots).mp
    (hclaim _ (simulationStateOverrides_eq_ok_iff.mpr ⟨hslots, rfl⟩))
  have hslot := hexact.slot_eq
  revert hslot
  decide +kernel

end BlockchainApi
