/-
  ENSIP-11 coin types (`convert_evm_chain_id_to_coin_type` and `convert_coin_type_to_evm_chain_id`,
  `src/utils/crypto.rs`), and what they are to a name.

  1. **Numbers.** A chain id below `2 ^ 31` has one coin type, its own with the top bit set, except
     for mainnet, and comes back from it.  The other conversion forgets the top bit, so a chain has
     a second number that is taken for its coin type, and mainnet a third one; the check of
     supported coin types looks at the chain alone.  A coin type comes back from its chain if and
     only if it is canonical (`comesBack_iff`).

  2. **Pairs.** Two supported coin types are told apart if and only if both are canonical
     (`coinTypesRight_iff`).

  3. **Runs.** The addresses of a name are kept by coin type.  In a run of requests about canonical
     coin types all of them are canonical (`canonicalCoinTypes_step`), so no name has addresses
     under two coin types of one chain (`coin_types_iff`).  A registration adds the coin type of
     mainnet by itself.
-/
import BlockchainApi.Names.Authorization
import BlockchainApi.Names.Registration

namespace BlockchainApi

/-! ## The conversions, and the coin types that come back -/

/-- `convert_evm_chain_id_to_coin_type`; 60 is the coin type of mainnet. -/
def convertEvmChainIdToCoinType (chainId : UInt32) : UInt32 :=
  if chainId = 1 then 60 else 0x80000000 ||| chainId

/-- The coin type of mainnet, or another one with the top bit, but not that of chain 1. -/
def CanonicalCoinType (coinType : UInt32) : Prop :=
  coinType = 60 ∨ 2 ^ 31 ≤ coinType.toNat ∧ coinType ≠ 0x80000001

/-- A coin type comes back from its chain id. -/
def ComesBack (coinType : UInt32) : Prop :=
  convertEvmChainIdToCoinType (convertCoinTypeToEvmChainId coinType) = coinType

/-- **Two coin types are told apart**: both come back, so they are of different chains unless they
    are the same. -/
structure CoinTypesRight (c c' : UInt32) : Prop where
  left : ComesBack c
  right : ComesBack c'
  injective : convertCoinTypeToEvmChainId c = convertCoinTypeToEvmChainId c' → c = c'

variable {c c' chainId : UInt32}

theorem toNat_convertCoinType (hc : c ≠ 60) :
    (convertCoinTypeToEvmChainId c).toNat = c.toNat % 2 ^ 31 := by
  rw [convertCoinTypeToEvmChainId, if_neg hc, UInt32.toNat_and, Nat.and_comm]
  exact Nat.and_two_pow_sub_one_eq_mod c.toNat 31

theorem toNat_convertEvmChainId (hone : chainId ≠ 1) (hlt : chainId.toNat < 2 ^ 31) :
    (convertEvmChainIdToCoinType chainId).toNat = 2 ^ 31 + chainId.toNat := by
  rw [convertEvmChainIdToCoinType, if_neg hone, UInt32.toNat_or]
  exact (Nat.two_pow_add_eq_or_of_lt hlt 1).symm

/-- **A chain id** below `2 ^ 31` comes back from its coin type. -/
theorem convertCoinType_convertEvmChainId (hlt : chainId.toNat < 2 ^ 31) :
    convertCoinTypeToEvmChainId (convertEvmChainIdToCoinType chainId) = chainId := by
  by_cases hone : chainId = 1
  · rw [hone]
    rfl
  · have hcoin := toNat_convertEvmChainId hone hlt
    have hne : convertEvmChainIdToCoinType chainId ≠ 60 := by
      intro heq
      rw [heq] at hcoin
      have hsixty : (60 : UInt32).toNat = 60 := rfl
      omega
    apply UInt32.toNat_inj.mp
    rw [toNat_convertCoinType hne, hcoin]
    omega

/-- **A coin type** comes back from its chain id if and only if it is canonical: the conversion
    to a chain id forgets the top bit, and the one back sets it, but for mainnet. -/
theorem comesBack_iff : ComesBack c ↔ CanonicalCoinType c := by
  unfold ComesBack CanonicalCoinType
  -- the coin type of mainnet comes back by a case of its own
  by_cases hmainnet : c = 60
  · rw [hmainnet]
    exact ⟨fun _ => .inl rfl, fun _ => rfl⟩
  · have hchain := toNat_convertCoinType hmainnet
    rw [or_iff_right hmainnet]
    by_cases hone : convertCoinTypeToEvmChainId c = 1
    · -- chain 1 gives the coin type of mainnet
      have hone' : c.toNat % 2 ^ 31 = 1 := by
        rw [← hchain, hone]
        rfl
      rw [hone]
      refine ⟨fun h => absurd h.symm hmainnet, fun ⟨hle, hne⟩ => absurd ?_ hne⟩
      apply UInt32.toNat_inj.mp
      have hlt := c.toNat_lt
      have hnat : (0x80000001 : UInt32).toNat = 2 ^ 31 + 1 := rfl
      omega
    · -- any other chain is shifted up and down again, which loses what is above bit 31
      have hcoin := toNat_convertEvmChainId hone (by omega)
      constructor
      · intro h
        rw [h] at hcoin
        refine ⟨by omega, ?_⟩
        rintro rfl
        exact hone rfl
      · rintro ⟨hle, -⟩
        apply UInt32.toNat_inj.mp
        have hlt := c.toNat_lt
        omega

/-- **Canonical coin types are told apart**, and no others. -/
theorem coinTypesRight_iff : CoinTypesRight c c' ↔ CanonicalCoinType c ∧ CanonicalCoinType c' := by
  rw [← comesBack_iff, ← comesBack_iff]
  refine ⟨fun h => ⟨h.left, h.right⟩, fun ⟨h, h'⟩ => ⟨h, h', fun hsame => ?_⟩⟩
  rw [← h, hsame, h']

/-! ## Runs of the names service -/

/-- A request to an endpoint, with what the answer depends on.  What it looks up before it writes
    may be older than what it writes to. -/
structure NameCall where
  verify : Verify
  pool : Pool
  now : UInt64
  seen : Store
  request : RegisterRequest
  endpoint : NamesService.NameEndpoint

/-- The decision about a request. -/
def NameCall.decision (svc : NamesService) (call : NameCall) : Outcome Early NameOperation :=
  svc.decision call.verify call.pool call.seen call.now call.request call.endpoint

/-- The names service as a machine: a request that is refused leaves the store. -/
def nameCalls (svc : NamesService) : Transitions.Machine Store NameCall where
  step s call := some (respond call.pool s (call.decision svc)).2

/-- The coin type that a request is about.  Mainnet is registered with it. -/
def NameCall.IsAbout (svc : NamesService) (call : NameCall) (coinType : UInt32) : Prop :=
  match call.endpoint with
  | .register => call.request.coinType = coinType
  | .updateAddress _ => ∃ payload,
      svc.fromStr UpdateAddressPayload.deserialize call.request.message = .ok payload ∧
        payload.coinType = coinType
  | .updateAttributes _ => False

/-- A request is about no supported coin type that is not canonical. -/
def NameCall.Canonical (svc : NamesService) (call : NameCall) : Prop :=
  ∀ coinType, call.IsAbout svc coinType → isCoinTypeSupported coinType = true →
    CanonicalCoinType coinType

/-- All addresses are under canonical coin types. -/
def Store.CanonicalCoinTypes (s : Store) : Prop :=
  ∀ a ∈ s.addresses.rows, CanonicalCoinType (coinTypeOf a.chainId)

/-- **No two addresses for one chain**: no two coin types of a name are of the same chain. -/
def OneAddressPerChain (addresses : ENSIP11AddressesMap) : Prop :=
  ∀ c c' a a', addresses.lookup c = some a → addresses.lookup c' = some a' →
    convertCoinTypeToEvmChainId c = convertCoinTypeToEvmChainId c' → c = c'

/-! ## What a request writes, and under which coin types -/

/-- The coin types that an operation writes under. -/
def NameOperation.HasCoinType : NameOperation → UInt32 → Prop
  | .register _ _ addresses, c => ∃ a, addresses.lookup c = some a
  | .updateAddress _ coinType _, c => coinType = c
  | .updateAttributes _ _, _ => False

variable {svc : NamesService} {pool : Pool} {s s' t : Store} {call : NameCall} {op : NameOperation}
  {a : AddressRow} {calls : List NameCall}

theorem Pool.write_eq_ok {ε α : Type} {failed : SqlxError → ε} {result : Except ε α} {x : α}
    (h : pool.write failed result = .ok x) : result = .ok x := by
  rw [Pool.write] at h
  split at h
  · cases h
  · exact h

/-- A row that is there after an operation was there, or is under one of its coin types. -/
theorem NameOperation.mem_execute (h : a ∈ (op.execute pool s).2.addresses.rows) :
    a ∈ s.addresses.rows ∨ ∃ c, op.HasCoinType c ∧ a.chainId = chainIdOf c := by
  cases op with
  | register name attributes addresses =>
    -- a registration writes the addresses of the message
    rw [execute] at h
    split at h
    · exact .inl h
    · rename_i inserted hinsert
      obtain ⟨-, s₁, hname, hloop⟩ := Store.insertName_eq_ok (Pool.write_eq_ok hinsert)
      obtain ⟨-, -, _, rfl⟩ := Store.insertNameRow_eq_ok.mp hname
      rcases ((Store.mem_insertNameAddresses hloop).2 a).mp h with ⟨ha, -⟩ | ⟨e, he, rfl⟩
      · exact .inl ha
      · exact .inr ⟨e.1, ⟨e.2, AList.mem_lookup_iff.mpr he⟩, rfl⟩
  | updateAddress name coinType address =>
    -- an update writes one
    rw [execute] at h
    split at h
    · exact .inl h
    · rename_i written updated hupsert
      obtain ⟨-, hhas, hresult⟩ := Store.insertOrUpdateAddress_eq_ok.mp (Pool.write_eq_ok hupsert)
      cases hresult
      rcases (Store.mem_putAddress (h := hhas)).mp h with ⟨ha, -⟩ | rfl
      · exact .inl ha
      · exact .inr ⟨coinType, rfl, rfl⟩
  | updateAttributes name attributes =>
    -- and attributes touch no address
    rw [execute] at h
    split at h
    · exact .inl h
    · rename_i written updated hupdate
      have hok := Pool.write_eq_ok hupdate
      rw [Store.updateNameAttributes] at hok
      split at hok
      · cases hok
        exact .inl h
      · cases hok

/-- **What an accepted request writes under**: mainnet, or the coin type that it is about, which is
    supported. -/
theorem NameCall.coinType_of_decision (h : call.decision svc = .ok op) {c : UInt32}
    (hc : op.HasCoinType c) : c = 60 ∨ call.IsAbout svc c ∧ isCoinTypeSupported c = true := by
  unfold decision NamesService.decision at h
  unfold IsAbout
  cases hendpoint : call.endpoint with
  | register =>
    -- the coin type of the payload was checked, and the one of mainnet is added
    rw [hendpoint] at h
    obtain ⟨payload, hchecks, -, -, rfl⟩ := NamesService.registerDecision_eq_ok.mp h
    obtain ⟨a, ha⟩ := hc
    rw [lookup_registerAddresses] at ha
    split at ha
    · rename_i hcoin
      rcases hcoin with rfl | hcoin
      · simp only [NamesService.registerChecks, Outcome.bind_eq_ok, Outcome.ensure_eq_ok] at hchecks
        obtain ⟨-, -, -, -, -, -, -, -, -, -, -, hsupported, -⟩ := hchecks
        exact .inr ⟨rfl, hsupported⟩
      · exact .inl hcoin
    · cases ha
  | updateAddress name =>
    rw [hendpoint] at h
    obtain ⟨payload, ⟨hparse, -, hsupported, -⟩, -, rfl⟩ :=
      NamesService.updateAddressDecision_eq_ok.mp h
    cases hc
    exact .inr ⟨⟨payload, hparse, rfl⟩, hsupported⟩
  | updateAttributes name =>
    -- attributes have no coin type
    rw [hendpoint] at h
    obtain ⟨payload, found, owner, a, -, -, -, -, -, -, -, -, -, -, rfl⟩ :=
      NamesService.updateAttributesDecision_eq_ok.mp h
    exact absurd hc id

/-- **A request about canonical coin types** keeps the addresses under canonical ones. -/
theorem canonicalCoinTypes_step (hs : s.CanonicalCoinTypes) (hcall : call.Canonical svc)
    (h : (nameCalls svc).step s call = some s') : s'.CanonicalCoinTypes := by
  cases h
  intro a ha
  cases hdecision : call.decision svc with
  | ok op =>
    rw [hdecision] at ha
    rcases NameOperation.mem_execute ha with ha | ⟨c, hc, hchain⟩
    · exact hs a ha
    · rw [hchain, coinTypeOf_chainIdOf]
      rcases NameCall.coinType_of_decision hdecision hc with rfl | ⟨habout, hsupported⟩
      · exact .inl rfl
      · exact hcall c habout hsupported
  | err e =>
    rw [hdecision] at ha
    cases e <;> exact hs a ha
  | panic =>
    rw [hdecision] at ha
    exact hs a ha

/-- Where all addresses are under canonical coin types, no two are for one chain. -/
theorem oneAddressPerChain_of_canonical (hs : s.CanonicalCoinTypes) (order : RowOrder AddressRow)
    (name : String) : OneAddressPerChain (s.getAddressesByName order name) := by
  intro c c' a a' ha ha' hchain
  obtain ⟨row, hrow, rfl, -⟩ := Store.lookup_getAddressesByName ha
  obtain ⟨row', hrow', rfl, -⟩ := Store.lookup_getAddressesByName ha'
  exact (coinTypesRight_iff.mpr ⟨hs row (Store.mem_addressRows.mp hrow).1,
    hs row' (Store.mem_addressRows.mp hrow').1⟩).injective hchain

/-- **ENSIP-11 coin types.**  Chain ids come back; two supported coin types are told apart if and
    only if both are canonical; and after every run of requests about canonical coin types, no name
    has addresses under two coin types of one chain. -/
theorem coin_types_iff (svc : NamesService) (hs : s.CanonicalCoinTypes)
    (hcalls : ∀ call ∈ calls, call.Canonical svc) (hrun : (nameCalls svc).run s calls = some t) :
    (∀ chainId : UInt32, chainId.toNat < 2 ^ 31 →
        convertCoinTypeToEvmChainId (convertEvmChainIdToCoinType chainId) = chainId) ∧
      (∀ c c', isCoinTypeSupported c = true → isCoinTypeSupported c' = true →
        (CoinTypesRight c c' ↔ CanonicalCoinType c ∧ CanonicalCoinType c')) ∧
      ∀ order name, OneAddressPerChain (t.getAddressesByName order name) := by
  refine ⟨fun _ => convertCoinType_convertEvmChainId, fun _ _ _ _ => coinTypesRight_iff, ?_⟩
  have hwithin : (nameCalls svc).Within (fun _ call => call.Canonical svc) s calls :=
    Transitions.Machine.within_of_forall hcalls
  exact oneAddressPerChain_of_canonical (Transitions.Machine.run_induction
    (fun hs hcall h => canonicalCoinTypes_step hs hcall h) hwithin hrun hs)

/-- A registration, and the service that reads it. -/
private def daveRegistration : String :=
  "\x7b\"name\":\"dave.wct.id\",\"timestamp\":1000\x7d"

private def daveService : NamesService := .reading [(daveRegistration, .object
  [("name", .string "dave.wct.id"), ("timestamp", .int 1000)])]

/-- The registration under a coin type. -/
private def daveCall (coinType : UInt32) : NameCall where
  verify _ _ _ _ := .ok true
  pool := .reliable 0
  now := 1000
  seen := .empty
  request := ⟨daveRegistration, "0x01", coinType, "0x1111111111111111111111111111111111111111"⟩
  endpoint := .register

/-- A name on Polygon and mainnet. -/
theorem coin_types_of_dave :
    ∃ t, (nameCalls daveService).run .empty [daveCall 0x80000089] = some t ∧
      t.names.has "dave.wct.id" = true ∧
      (∀ chainId : UInt32, chainId.toNat < 2 ^ 31 →
        convertCoinTypeToEvmChainId (convertEvmChainIdToCoinType chainId) = chainId) ∧
      (∀ c c', isCoinTypeSupported c = true → isCoinTypeSupported c' = true →
        (CoinTypesRight c c' ↔ CanonicalCoinType c ∧ CanonicalCoinType c')) ∧
      ∀ order name, OneAddressPerChain (t.getAddressesByName order name) := by
  have hrun : ∃ t, (nameCalls daveService).run .empty [daveCall 0x80000089] = some t ∧
      t.names.has "dave.wct.id" = true := ⟨_, rfl, rfl⟩
  obtain ⟨t, ht, hhas⟩ := hrun
  have hcalls : ∀ call ∈ [daveCall 0x80000089], call.Canonical daveService := by
    intro call hmem c habout _
    rw [List.mem_singleton.mp hmem] at habout
    cases habout
    exact .inr ⟨by decide, by decide⟩
  have hempty : Store.empty.CanonicalCoinTypes := fun a ha => absurd ha List.not_mem_nil
  exact ⟨t, ht, hhas, coin_types_iff daveService hempty hcalls ht⟩

/-- **Coin type 10** is accepted and does not come back; and **coin type 1** is accepted, and a name
    registered with it has two addresses for mainnet. -/
theorem not_coin_types :
    (¬ ∀ c c', isCoinTypeSupported c = true → isCoinTypeSupported c' = true →
      CoinTypesRight c c') ∧
    ∃ t, (nameCalls daveService).run .empty [daveCall 1] = some t ∧
      ¬ ∀ order name, OneAddressPerChain (t.getAddressesByName order name) := by
  refine ⟨fun h => ?_, _, rfl, fun h => ?_⟩
  · have hten : convertEvmChainIdToCoinType (convertCoinTypeToEvmChainId 10) = 10 :=
      (h 10 10 (by decide) (by decide)).left
    exact absurd hten (by decide)
  · exact absurd (h .stored "dave.wct.id" 1 60 _ _ rfl rfl rfl) (by decide)

end BlockchainApi
