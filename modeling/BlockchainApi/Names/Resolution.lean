/-
  Forward and reverse resolution of names.

  The store takes registrations, address updates and deletions, and attribute updates, each as one
  call of `database/helpers.rs` (`namesStore`).  A run is any sequence of these calls.

  1. **Updates** (`updates_followed_iff`).  The primary key of `addresses` and the conflict target
     of the upsert both contain the address.  So a new address for a coin type is another row, the
     old one stays, and the map that a lookup folds the rows into shows one of the two.  An update
     is followed exactly when it finds no other address under its coin type.  The invariant of the
     runs is that chain ids are the texts of coin types (`CanonicalChainIds`), so that rows with one
     coin type have one chain id.

  2. **Reverse lookup** (`reverse_resolution_iff`).  Writers store the text they were given,
     whatever its spelling; the reverse endpoint compares with the text it is asked for, the
     identity endpoint with the checksummed one, and the join returns a name once for each coin
     type.  Both agree with the forward direction exactly when the spelling is the one asked for,
     and for the endpoint no name has it twice.  This is about one store, whatever led to it.

  The failing inputs are stores that a few calls lead to from the empty one.
-/
import BlockchainApi.Lib.Transitions
import BlockchainApi.Names.Profile

namespace BlockchainApi

/-! ## The store and its operations: one call is one step -/

/-- The calls that change the store: those of the handlers, and the deletion of an address, which
    so far only the database tests make.  The deletion of a whole name (`delete_name`), which they
    make, too, is left out. -/
inductive StoreOp where
  | register (now : Nat) (name : String) (attributes : Attributes) (addresses : ENSIP11AddressesMap)
  | updateAddress (now : Nat) (name : String) (coinType : UInt32) (address : String)
  | deleteAddress (order : RowOrder AddressRow) (name : String) (coinType : UInt32)
      (address : String)
  | updateAttributes (now : Nat) (name : String) (attributes : Attributes)

/-- A call that fails leaves the store, and is no step. -/
def Store.apply (s : Store) : StoreOp → Option Store
  | .register now name attributes addresses =>
    (s.insertName now name attributes .eip155 addresses).toOption
  | .updateAddress now name coinType address =>
    (s.insertOrUpdateAddress now name .eip155 (chainIdOf coinType) address).toOption.map Prod.fst
  | .deleteAddress order name coinType address =>
    (s.deleteAddress order name .eip155 (chainIdOf coinType) address).toOption
  | .updateAttributes now name attributes =>
    (s.updateNameAttributes now name attributes).toOption.map Prod.fst

/-- The store as a machine. -/
def namesStore : Transitions.Machine Store StoreOp := ⟨Store.apply⟩

namespace Store

variable {s s' : Store} {now : Nat} {name : String} {coinType : UInt32} {address : String}
variable {op : StoreOp}

/-- What a call can do. -/
inductive Applied (s : Store) : StoreOp → Store → Prop where
  | register {now : Nat} {name : String} {attributes : Attributes}
      {addresses : ENSIP11AddressesMap} {s' : Store}
      (hinsert : s.insertName now name attributes .eip155 addresses = .ok s') :
      Applied s (.register now name attributes addresses) s'
  | updateAddress {now : Nat} {name : String} {coinType : UInt32} {address : String}
      (hfits : fitsAddressColumns name (chainIdOf coinType) address = true)
      (hname : s.names.has name = true) :
      Applied s (.updateAddress now name coinType address)
        (s.putAddress ⟨.eip155, chainIdOf coinType, address, name, now⟩ hname)
  | deleteAddress {order : RowOrder AddressRow} {name : String} {coinType : UInt32}
      {address : String} (hcheck : deleteAddressCheck (s.getAddressesByName order name) = .ok ()) :
      Applied s (.deleteAddress order name coinType address)
        (s.deleteAddressRow name .eip155 (chainIdOf coinType) address)
  | updateAttributes {now : Nat} {name : String} {attributes : Attributes}
      (hname : s.names.has name = true) :
      Applied s (.updateAttributes now name attributes) (s.putAttributes now name attributes)

/-- **Inversion of a call.** One case for each kind of call, with what it has checked; a call
    that fails is no step. -/
theorem step_cases (h : namesStore.step s op = some s') : s.Applied op s' := by
  cases op with
  | register now name attributes addresses =>
    -- an operation that fails is no step
    cases hinsert : s.insertName now name attributes .eip155 addresses with
    | error e => simp [namesStore, apply, hinsert, Except.toOption] at h
    | ok s₁ =>
      simp only [namesStore, apply, hinsert, Except.toOption, Option.some.injEq] at h
      exact h ▸ .register hinsert
  | updateAddress now name coinType address =>
    cases hupsert : s.insertOrUpdateAddress now name .eip155 (chainIdOf coinType) address with
    | error e => simp [namesStore, apply, hupsert, Except.toOption] at h
    | ok result =>
      simp only [namesStore, apply, hupsert, Except.toOption, Option.map_some,
        Option.some.injEq] at h
      obtain ⟨hfits, hname, rfl⟩ := insertOrUpdateAddress_eq_ok.mp hupsert
      exact h ▸ .updateAddress hfits hname
  | deleteAddress order name coinType address =>
    simp only [namesStore, apply, deleteAddress] at h
    cases hcheck : deleteAddressCheck (s.getAddressesByName order name) with
    | error e => rw [hcheck] at h; cases h
    | ok u =>
      rw [hcheck] at h
      cases h
      exact .deleteAddress hcheck
  | updateAttributes now name attributes =>
    simp only [namesStore, apply, updateNameAttributes] at h
    split at h
    · next hname => cases h; exact .updateAttributes hname
    · cases h

/-! ## Updates: the row that is written, and the rows that stay -/

/-- Rows whose chain id is the text of a coin type: all that the calls write. -/
def CanonicalChainIds (s : Store) : Prop :=
  ∀ a ∈ s.addresses.rows, chainIdOf (coinTypeOf a.chainId) = a.chainId

theorem canonical_putAddress {row : AddressRow} {h : s.names.has row.name = true}
    (hrow : row.chainId = chainIdOf coinType) (hs : s.CanonicalChainIds) :
    (s.putAddress row h).CanonicalChainIds := by
  intro a ha
  rcases mem_putAddress.mp ha with ⟨ha, -⟩ | rfl
  · exact hs a ha
  · rw [hrow, coinTypeOf_chainIdOf]

/-- **Every call keeps the chain ids canonical**: a case for each call that writes rows. -/
theorem canonical_step (hs : s.CanonicalChainIds) (h : namesStore.step s op = some s') :
    s'.CanonicalChainIds := by
  cases step_cases h with
  | register hinsert =>
    refine insertName_induction hinsert ?_ fun s c address hhas hs => canonical_putAddress rfl hs
    intro s₁ hs₁
    obtain ⟨-, -, -, rfl⟩ := insertNameRow_eq_ok.mp hs₁
    exact hs
  | updateAddress hfits hname => exact canonical_putAddress rfl hs
  | deleteAddress hcheck => exact fun a ha => hs a (Table.mem_delete.mp ha).1
  | updateAttributes hname => exact hs

/-- The rows of a name that are read as a coin type. -/
def addressesFor (s : Store) (name : String) (coinType : UInt32) : List AddressRow :=
  s.addresses.rows.filter fun a => a.name = name ∧ coinTypeOf a.chainId = coinType

theorem mem_addressesFor {a : AddressRow} :
    a ∈ s.addressesFor name coinType ↔
      a ∈ s.addresses.rows ∧ a.name = name ∧ coinTypeOf a.chainId = coinType := by
  simp [addressesFor]

/-- What an update of the address of a coin type should lead to. -/
structure UpdateFollowed (s s' : Store) (name : String) (coinType : UInt32) (address : String) :
    Prop where
  /-- The name has exactly one address for the coin type. -/
  single : ∃ a, s'.addressesFor name coinType = [a]
  /-- Looking the name up returns the new address. -/
  forward : ∀ order, ∃ found a, s'.getNameAndAddressesByName order name = .ok found ∧
    found.addresses.lookup coinType = some a ∧ a.address = address
  /-- A previous address of the coin type no longer resolves to the name. -/
  reverse : ∀ previous ∈ s.addressesFor name coinType, previous.address ≠ address →
    ∀ order, ∀ n ∈ s'.getNamesByAddress order previous.address, n.name ≠ name

/-- A successful address update is followed. -/
def FollowsUpdate (s : Store) : StoreOp → Prop
  | .updateAddress now name coinType address =>
    ∀ s', namesStore.step s (.updateAddress now name coinType address) = some s' →
      UpdateFollowed s s' name coinType address
  | _ => True

/-- An address update finds no other address under its coin type. -/
def FindsNoOther (s : Store) : StoreOp → Prop
  | .updateAddress _ name coinType address =>
    fitsAddressColumns name (chainIdOf coinType) address = true →
      ∀ a ∈ s.addressesFor name coinType, a.address = address
  | _ => True

variable {row : AddressRow} {h : s.names.has row.name = true}

/-- The row that an upsert leaves is there under its coin type. -/
theorem mem_addressesFor_putAddress (hrow : row.chainId = chainIdOf coinType) :
    row ∈ (s.putAddress row h).addressesFor row.name coinType := by
  refine mem_addressesFor.mpr ⟨mem_putAddress.mpr (.inr rfl), rfl, ?_⟩
  rw [hrow, coinTypeOf_chainIdOf]

/-- An upsert replaces nothing but its own row. -/
theorem mem_addressesFor_of_ne {a : AddressRow} (ha : a ∈ s.addressesFor row.name coinType)
    (hne : a.address ≠ row.address) :
    a ∈ (s.putAddress row h).addressesFor row.name coinType := by
  obtain ⟨hmem, hname, hcoin⟩ := mem_addressesFor.mp ha
  refine mem_addressesFor.mpr ⟨mem_putAddress.mpr (.inl ⟨hmem, ?_⟩), hname, hcoin⟩
  intro hkey
  simp only [AddressRow.key, Prod.mk.injEq] at hkey
  exact hne hkey.2.2.2

/-- With no other address under the coin type, the upsert leaves its row alone there. -/
theorem addressesFor_putAddress_eq (hrow : row.chainId = chainIdOf coinType)
    (hs : s.CanonicalChainIds)
    (hsame : ∀ a ∈ s.addressesFor row.name coinType, a.address = row.address) :
    (s.putAddress row h).addressesFor row.name coinType = [row] := by
  obtain ⟨hmem, -, hcoin⟩ := mem_addressesFor.mp (mem_addressesFor_putAddress (h := h) hrow)
  refine Table.filter_eq_singleton hmem (by simp [hcoin]) fun x hx hpx => ?_
  simp only [decide_eq_true_eq] at hpx
  rcases mem_putAddress.mp hx with ⟨hx, hkey⟩ | hx
  · -- a row of the store has the address already, so it is the one that was written
    have haddress : x.address = row.address := hsame x (mem_addressesFor.mpr ⟨hx, hpx⟩)
    have hchain : x.chainId = row.chainId := by rw [← hs x hx, hpx.2, hrow]
    have hnamespace : x.namespace_ = row.namespace_ := by
      cases x.namespace_
      cases row.namespace_
      rfl
    refine absurd ?_ hkey
    simp only [AddressRow.key, haddress, hchain, hnamespace, hpx.1]
  · exact hx

/-- **When an update is followed**: the rows of the name under the coin type are the one that was
    written, and nothing else. -/
theorem updateFollowed_iff (hrow : row.chainId = chainIdOf coinType) (hs : s.CanonicalChainIds) :
    UpdateFollowed s (s.putAddress row h) row.name coinType row.address ↔
      ∀ a ∈ s.addressesFor row.name coinType, a.address = row.address := by
  have hnew := mem_addressesFor_putAddress (h := h) hrow
  constructor
  · intro hfollowed a ha
    by_contra hne
    have hold := mem_addressesFor_of_ne (h := h) ha hne
    obtain ⟨b, hb⟩ := hfollowed.single
    rw [hb, List.mem_singleton] at hold hnew
    rw [hold, ← hnew] at hne
    exact hne rfl
  · intro hsame
    have hrows := addressesFor_putAddress_eq (h := h) hrow hs hsame
    refine ⟨⟨_, hrows⟩, fun order => ?_, fun previous hprevious hne => ?_⟩
    · have hhas : (s.putAddress row h).names.has row.name = true := h
      obtain ⟨found, hfound, -, haddresses⟩ := getNameAndAddressesByName_of_has order hhas
      obtain ⟨hmem, hname, hcoin⟩ := mem_addressesFor.mp hnew
      obtain ⟨a, ha⟩ := exists_lookup_getAddressesByName order
        (mem_addressRows.mpr ⟨hmem, hname⟩)
      rw [hcoin] at ha
      obtain ⟨x, hx, hxcoin, rfl⟩ := lookup_getAddressesByName ha
      have hxrow : x ∈ (s.putAddress row h).addressesFor row.name coinType :=
        mem_addressesFor.mpr ⟨(mem_addressRows.mp hx).1, (mem_addressRows.mp hx).2, hxcoin⟩
      rw [hrows, List.mem_singleton] at hxrow
      exact ⟨found, x.nameAddress, hfound, haddresses ▸ ha, by rw [hxrow]; rfl⟩
    · exact absurd (hsame previous hprevious) hne

/-- One call: the condition is on the state before it. -/
theorem followsUpdate_iff (hs : s.CanonicalChainIds) : s.FollowsUpdate op ↔ s.FindsNoOther op := by
  cases op with
  | updateAddress now name coinType address =>
    constructor
    · intro hfollows hfits
      by_cases hname : s.names.has name = true
      · have hstep : namesStore.step s (.updateAddress now name coinType address) =
            some (s.putAddress ⟨.eip155, chainIdOf coinType, address, name, now⟩ hname) := by
          show (s.insertOrUpdateAddress now name .eip155 (chainIdOf coinType) address).toOption.map
            Prod.fst = _
          rw [insertOrUpdateAddress_eq_ok.mpr ⟨hfits, hname, rfl⟩]
          rfl
        exact (updateFollowed_iff rfl hs).mp (hfollows _ hstep)
      · -- a name that is not registered has no addresses
        intro a ha
        obtain ⟨hmem, hname', -⟩ := mem_addressesFor.mp ha
        exact absurd (hname' ▸ s.foreignKey a hmem) hname
    · intro hnone s' hstep
      cases step_cases hstep with
      | updateAddress hfits hname => exact (updateFollowed_iff rfl hs).mpr (hnone hfits)
  | register now name attributes addresses => exact Iff.rfl
  | deleteAddress order name coinType address => exact Iff.rfl
  | updateAttributes now name attributes => exact Iff.rfl

end Store

/-- **Name resolution follows updates** in a run from the empty store exactly when each address
    update finds no other address under its coin type. -/
theorem updates_followed_iff (ops : List StoreOp) :
    namesStore.Within Store.FollowsUpdate Store.empty ops ↔
      namesStore.Within Store.FindsNoOther Store.empty ops :=
  Transitions.Machine.within_congr (fun hs h => Store.canonical_step hs h)
    (fun hs => Store.followsUpdate_iff hs) (P := Store.CanonicalChainIds)
    (fun _ ha => absurd ha List.not_mem_nil)

/-- **The failing input.**  A name registered to one address, and its coin type 60 updated to
    another: both rows stand, and the update is not followed. -/
theorem address_update_keeps_old_row :
    ∃ s s',
      namesStore.step Store.empty (.register 0 "alice.wct.id" ∅ (HashMap.ofPairs
        [(60, ⟨"0x1111111111111111111111111111111111111111", none⟩)])) = some s ∧
      namesStore.step s (.updateAddress 1 "alice.wct.id" 60
        "0x2222222222222222222222222222222222222222") = some s' ∧
      ¬ Store.UpdateFollowed s s' "alice.wct.id" 60
        "0x2222222222222222222222222222222222222222" := by
  have hrun : ∃ s s',
      namesStore.step Store.empty (.register 0 "alice.wct.id" ∅ (HashMap.ofPairs
        [(60, ⟨"0x1111111111111111111111111111111111111111", none⟩)])) = some s ∧
      namesStore.step s (.updateAddress 1 "alice.wct.id" 60
        "0x2222222222222222222222222222222222222222") = some s' ∧
      s'.addressesFor "alice.wct.id" 60 =
        [⟨.eip155, "60", "0x1111111111111111111111111111111111111111", "alice.wct.id", 0⟩,
          ⟨.eip155, "60", "0x2222222222222222222222222222222222222222", "alice.wct.id", 1⟩] :=
    ⟨_, _, rfl, rfl, rfl⟩
  obtain ⟨s, s', hregister, hupdate, hrows⟩ := hrun
  refine ⟨s, s', hregister, hupdate, fun hfollowed => ?_⟩
  obtain ⟨a, ha⟩ := hfollowed.single
  rw [hrows] at ha
  cases ha

/-! ## Reverse lookup: from a text to names

Forward, an address denotes an account; backward, a text is compared. The two are connected by
which rows have which text. -/

/-- `reverse::handler_internal`. -/
def reverse (pool : Pool) (s : Store) (address : String) (apiVersion : Option Nat) :
    Outcome RpcError NameReply :=
  match pool.query (.ok (s.getNamesByAddress pool.nameOrder address)) with
  | .error _ => .ok (.failure 500 "")
  | .ok names =>
    if names = [] then
      if apiVersion = some 2 then .ok .emptyResponse else .err .nameByAddressNotFound
    else
      match names.mapM fun name => pool.lookup s name.name with
      | .ok result => .ok (.names result)
      | .error _ => .ok (.failure 500 "")

/-- The names a reply lists; 404 is the reply for none. -/
def listedNames : Outcome RpcError NameReply → Option (List String)
  | .ok (.names result) => some (result.map NameAndAddresses.name)
  | .ok .emptyResponse => some []
  | .err .nameByAddressNotFound => some []
  | _ => none

/-- `IdentityQueryParams`. -/
structure IdentityQueryParams where
  projectId : String
  useCache : Option Bool

/-- `IdentityResponse`. -/
structure IdentityResponse where
  name : Option String
  avatar : Option String
  resolvedAt : Option Nat

/-- `IdentityLookupSource`. -/
inductive IdentityLookupSource where
  | cache
  | rpc
  | local
  deriving DecidableEq

/-- What the identity lookup takes from the configuration, the cache, the chain and other crates. -/
structure IdentityService where
  testingProjectId : Option String
  /-- `to_checksum(_, None)`. -/
  toChecksum : Address → String
  identityCache : Option (String → Except String (Option IdentityResponse))
  lookupIdentityRpc : Address → Except RpcError IdentityResponse

namespace IdentityService

/-- `enable_cache`. -/
def enableCache (id : IdentityService) (query : IdentityQueryParams) : Except RpcError Bool :=
  match query.useCache with
  | none => .ok true
  | some useCache =>
    match id.testingProjectId with
    | none => .error (.invalidParameter "Use of `use_cache` parameter is disabled")
    | some testingProjectId =>
      if testingProjectId = query.projectId then .ok useCache
      else .error (.invalidParameter ("The project ID " ++ query.projectId ++
        " is not allowed to use `use_cache` parameter"))

/-- What the cache has, if it is used. -/
def cached (id : IdentityService) (query : IdentityQueryParams) (address : Address) :
    Except RpcError (Option IdentityResponse) := do
  if ← id.enableCache query then
    match id.identityCache with
    | none => return none
    | some cache =>
      match cache (id.toChecksum address ++ "-v1") with
      | .ok value => return value
      | .error text => throw (.storage text)
  else return none

/-- `lookup_identity`, without the write to the cache. -/
def lookupIdentity (id : IdentityService) (pool : Pool) (s : Store) (query : IdentityQueryParams)
    (address : Address) : Except RpcError (IdentityLookupSource × IdentityResponse) := do
  match ← id.cached query address with
  | some response => return (.cache, response)
  | none =>
    let res ← id.lookupIdentityRpc address
    if res.name = none then
      match pool.query (.ok (s.getNamesByAddress pool.nameOrder (id.toChecksum address))) with
      | .error _ => throw .internalNameResolverError
      | .ok [] => return (.rpc, res)
      | .ok (first :: _) =>
        return (.local, { res with
          name := some first.name
          avatar := first.attributes.bind fun attributes => attributes.lookup "avatar" })
    else return (.rpc, res)

end IdentityService

section Agreement

variable (h160FromStr : String → Option Address) {s : Store} {account : Address}
variable {pool : Pool} {addressOrder : RowOrder AddressRow} {nameOrder : RowOrder NameRow}
variable {now : Nat} {asked : String} {apiVersion : Option Nat}

/-- The name has a stored address that denotes the account. -/
def Store.HasAddress (s : Store) (account : Address) (name : String) : Prop :=
  ∃ a ∈ s.addresses.rows, a.name = name ∧ h160FromStr a.address = some account

variable {h160FromStr}

/-- The rows whose address is the text. -/
def Store.rowsOf (s : Store) (address : String) : List AddressRow :=
  s.addresses.rows.filter fun a => a.address = address

theorem Store.mem_rowsOf {address : String} {a : AddressRow} :
    a ∈ s.rowsOf address ↔ a ∈ s.addresses.rows ∧ a.address = address := by
  simp [Store.rowsOf]

/-- The join finds the name of every row. -/
theorem Store.filterMap_find?_names {rows : List AddressRow}
    (h : ∀ a ∈ rows, s.names.has a.name = true) :
    (rows.filterMap fun a => s.names.find? a.name).map NameRow.name = rows.map AddressRow.name := by
  induction rows with
  | nil => rfl
  | cons a rows ih =>
    obtain ⟨row, hrow, hname⟩ := Table.has_iff.mp (h a (List.mem_cons_self ..))
    have hfind : s.names.find? a.name = some row := Table.find?_eq_some.mpr ⟨hrow, hname⟩
    rw [List.filterMap_cons, hfind, List.map_cons, List.map_cons, hname,
      ih fun b hb => h b (List.mem_cons_of_mem _ hb)]

/-- **The names the query returns**: one for each row with the text. -/
theorem Store.names_getNamesByAddress (order : RowOrder NameRow) (s : Store) (address : String) :
    ((s.getNamesByAddress order address).map NameRow.name).Perm
      ((s.rowsOf address).map AddressRow.name) := by
  have hperm := (order.perm ((s.rowsOf address).filterMap fun a => s.names.find? a.name)).map
    NameRow.name
  rwa [filterMap_find?_names fun a ha => s.foreignKey a (mem_rowsOf.mp ha).1] at hperm

/-- Names that are registered are all looked up. -/
theorem mapM_lookup (now : Nat) (addressOrder : RowOrder AddressRow) (nameOrder : RowOrder NameRow)
    {names : List NameRow} (h : ∀ n ∈ names, s.names.has n.name = true) :
    ∃ result, (names.mapM fun n => (Pool.answering now addressOrder nameOrder).lookup s n.name)
        = .ok result ∧
      result.map NameAndAddresses.name = names.map NameRow.name := by
  induction names with
  | nil => exact ⟨[], rfl, rfl⟩
  | cons n names ih =>
    obtain ⟨found, hfound, hname, -⟩ := Store.getNameAndAddressesByName_of_has
      addressOrder (h n (List.mem_cons_self ..))
    obtain ⟨result, hresult, hnames⟩ := ih fun m hm => h m (List.mem_cons_of_mem _ hm)
    have hlookup : (Pool.answering now addressOrder nameOrder).lookup s n.name = .ok found := hfound
    refine ⟨found :: result, ?_, by rw [List.map_cons, List.map_cons, hname, hnames]⟩
    rw [List.mapM_cons, hlookup, hresult]
    rfl

theorem Store.has_of_mem_getNamesByAddress {order : RowOrder NameRow} {address : String}
    {n : NameRow} (h : n ∈ s.getNamesByAddress order address) : s.names.has n.name = true := by
  obtain ⟨a, -, hfind⟩ := List.mem_filterMap.mp (order.mem_arrange.mp h)
  exact Table.has_iff.mpr ⟨n, (Table.find?_eq_some.mp hfind).1, rfl⟩

/-- **What the reverse endpoint lists**: the name of each row with the text, once for each row. -/
theorem listedNames_reverse (s : Store) (now : Nat) (addressOrder : RowOrder AddressRow)
    (nameOrder : RowOrder NameRow) (asked : String) (apiVersion : Option Nat) :
    ∃ listed,
      listedNames (reverse (.answering now addressOrder nameOrder) s asked apiVersion)
        = some listed ∧
      listed.Perm ((s.rowsOf asked).map AddressRow.name) := by
  have hnames := Store.names_getNamesByAddress nameOrder s asked
  have hquery : ∀ r : List NameRow, (Pool.answering now addressOrder nameOrder).query (.ok r)
      = .ok r := fun r => rfl
  have horder : (Pool.answering now addressOrder nameOrder).nameOrder = nameOrder := rfl
  rw [reverse, hquery, horder]
  by_cases hempty : s.getNamesByAddress nameOrder asked = []
  · rw [hempty] at hnames
    refine ⟨[], ?_, hnames⟩
    by_cases hversion : apiVersion = some 2 <;> simp [hempty, hversion, listedNames]
  · have hhas : ∀ n ∈ s.getNamesByAddress nameOrder asked, s.names.has n.name = true :=
      fun n hn => Store.has_of_mem_getNamesByAddress hn
    obtain ⟨result, hresult, hresultNames⟩ := mapM_lookup now addressOrder nameOrder hhas
    refine ⟨result.map NameAndAddresses.name, ?_, ?_⟩
    · simp only [if_neg hempty]
      rw [hresult]
      rfl
    · rw [hresultNames]
      exact hnames

/-- The names are those with an address that denotes the account, each once. -/
def ListsExactly (h160FromStr : String → Option Address) (s : Store) (account : Address)
    (listed : Option (List String)) : Prop :=
  ∃ names, listed = some names ∧ names.Nodup ∧
    ∀ name, name ∈ names ↔ s.HasAddress h160FromStr account name

/-- **The reverse endpoint** lists exactly the names of the account when each has it in the
    spelling that is asked for, and under one coin type only. -/
theorem reverse_listsExactly_iff (hasked : h160FromStr asked = some account) :
    ListsExactly h160FromStr s account
        (listedNames (reverse (.answering now addressOrder nameOrder) s asked apiVersion)) ↔
      (∀ name, s.HasAddress h160FromStr account name → ∃ a ∈ s.rowsOf asked, a.name = name) ∧
        ∀ a ∈ s.rowsOf asked, ∀ b ∈ s.rowsOf asked, a.name = b.name → a = b := by
  obtain ⟨listed, hlisted, hperm⟩ := listedNames_reverse s now addressOrder nameOrder
    asked apiVersion
  -- a name is listed for each row with the text that was asked for
  have hmem : ∀ name, name ∈ listed ↔ ∃ a ∈ s.rowsOf asked, a.name = name := by
    intro name
    rw [hperm.mem_iff, List.mem_map]
  -- and twice if it has two such rows
  have hnodup : listed.Nodup ↔
      ∀ a ∈ s.rowsOf asked, ∀ b ∈ s.rowsOf asked, a.name = b.name → a = b := by
    rw [hperm.nodup_iff]
    constructor
    · intro h a ha b hb
      exact List.inj_on_of_nodup_map h ha hb
    · intro h
      exact List.Nodup.map_on h (s.addresses.nodup_rows.filter _)
  rw [ListsExactly, hlisted]
  constructor
  · rintro ⟨names, hnames, hdistinct, hall⟩
    cases hnames
    exact ⟨fun name hname => (hmem name).mp ((hall name).mpr hname), hnodup.mp hdistinct⟩
  · rintro ⟨hspelled, honce⟩
    refine ⟨listed, rfl, hnodup.mpr honce, fun name => ⟨fun hname => ?_, fun hname => ?_⟩⟩
    · obtain ⟨a, ha, hname⟩ := (hmem name).mp hname
      obtain ⟨hrow, haddress⟩ := Store.mem_rowsOf.mp ha
      exact ⟨a, hrow, hname, haddress ▸ hasked⟩
    · exact (hmem name).mpr (hspelled name hname)

/-- The lookup returns a name of the account, or none if it has none. -/
def ReturnsOneOf (h160FromStr : String → Option Address) (s : Store) (account : Address)
    (result : Except RpcError (IdentityLookupSource × IdentityResponse)) : Prop :=
  ∃ source response, result = .ok (source, response) ∧
    match response.name with
    | some name => s.HasAddress h160FromStr account name
    | none => ∀ name, ¬ s.HasAddress h160FromStr account name

variable {id : IdentityService} {query : IdentityQueryParams} {res : IdentityResponse}

/-- Without a cached record and an ENS name, the lookup shows the first name of the checksummed
    address, in the order in which the database returns the rows. -/
theorem name_lookupIdentity (s : Store) (now : Nat) (addressOrder : RowOrder AddressRow)
    (nameOrder : RowOrder NameRow) (huncached : id.cached query account = .ok none)
    (hens : id.lookupIdentityRpc account = .ok res) (hname : res.name = none) :
    ∃ source response,
      id.lookupIdentity (.answering now addressOrder nameOrder) s query account
        = .ok (source, response) ∧
      response.name =
        (s.getNamesByAddress nameOrder (id.toChecksum account)).head?.map NameRow.name := by
  have hquery : ∀ r : List NameRow, (Pool.answering now addressOrder nameOrder).query (.ok r)
      = .ok r := fun r => rfl
  have horder : (Pool.answering now addressOrder nameOrder).nameOrder = nameOrder := rfl
  rw [IdentityService.lookupIdentity, huncached]
  simp only [Bind.bind, Except.bind, hens, if_pos hname, hquery, horder]
  cases hnames : s.getNamesByAddress nameOrder (id.toChecksum account) with
  | nil => exact ⟨.rpc, res, rfl, hname⟩
  | cons first rest => exact ⟨.local, _, rfl, rfl⟩

/-- **The identity lookup** returns one of the names of the account, if there is one, when one of
    them has it in the checksummed spelling. -/
theorem identity_returnsOneOf_iff (hchecksum : h160FromStr (id.toChecksum account) = some account)
    (huncached : id.cached query account = .ok none)
    (hens : id.lookupIdentityRpc account = .ok res) (hname : res.name = none) :
    ReturnsOneOf h160FromStr s account
        (id.lookupIdentity (.answering now addressOrder nameOrder) s query account) ↔
      ((∃ name, s.HasAddress h160FromStr account name) →
        s.rowsOf (id.toChecksum account) ≠ []) := by
  obtain ⟨source, response, hresult, hresponse⟩ := name_lookupIdentity s now addressOrder
    nameOrder huncached hens hname
  have hnames := Store.names_getNamesByAddress nameOrder s (id.toChecksum account)
  rw [ReturnsOneOf, hresult]
  cases hlist : s.getNamesByAddress nameOrder (id.toChecksum account) with
  | nil =>
    -- the query finds nothing: the lookup returns no name
    rw [hlist] at hnames hresponse
    have hrows : s.rowsOf (id.toChecksum account) = [] :=
      List.map_eq_nil_iff.mp hnames.nil_eq.symm
    constructor
    · rintro ⟨source', response', heq, hmatch⟩ ⟨name, hhas⟩
      cases heq
      rw [hresponse] at hmatch
      exact absurd hhas (hmatch name)
    · intro hspelled
      refine ⟨source, response, rfl, ?_⟩
      rw [hresponse]
      exact fun name hhas => hspelled ⟨name, hhas⟩ hrows
  | cons first rest =>
    -- the first name is that of a row with the checksummed address
    rw [hlist] at hnames hresponse
    have hfirst : first.name ∈ (s.rowsOf (id.toChecksum account)).map AddressRow.name :=
      hnames.mem_iff.mp (List.mem_cons_self ..)
    obtain ⟨a, ha, haname⟩ := List.mem_map.mp hfirst
    constructor
    · intro _ _ hrows
      rw [hrows] at ha
      exact absurd ha List.not_mem_nil
    · intro _
      refine ⟨source, response, rfl, ?_⟩
      rw [hresponse]
      obtain ⟨hrow, haddress⟩ := Store.mem_rowsOf.mp ha
      exact ⟨a, hrow, haname, haddress ▸ hchecksum⟩

/-- **Reverse resolution agrees with forward resolution** in a store, for an account and a
    spelling of it: the reverse endpoint exactly when every name of the account has it in that
    spelling and under one coin type only, the identity lookup exactly when one of them has it in
    the checksummed spelling. -/
theorem reverse_resolution_iff (hasked : h160FromStr asked = some account)
    (hchecksum : h160FromStr (id.toChecksum account) = some account)
    (huncached : id.cached query account = .ok none)
    (hens : id.lookupIdentityRpc account = .ok res) (hname : res.name = none) :
    (ListsExactly h160FromStr s account
        (listedNames (reverse (.answering now addressOrder nameOrder) s asked apiVersion)) ↔
      (∀ name, s.HasAddress h160FromStr account name → ∃ a ∈ s.rowsOf asked, a.name = name) ∧
        ∀ a ∈ s.rowsOf asked, ∀ b ∈ s.rowsOf asked, a.name = b.name → a = b) ∧
    (ReturnsOneOf h160FromStr s account
        (id.lookupIdentity (.answering now addressOrder nameOrder) s query account) ↔
      ((∃ name, s.HasAddress h160FromStr account name) →
        s.rowsOf (id.toChecksum account) ≠ [])) :=
  ⟨reverse_listsExactly_iff hasked, identity_returnsOneOf_iff hchecksum huncached hens hname⟩

end Agreement

/-- No cache, no ENS names; the checksum of an address without letters. -/
def IdentityService.withoutEns : IdentityService where
  testingProjectId := none
  toChecksum address := "0x" ++ hexEncode address.bytes
  identityCache := none
  lookupIdentityRpc := fun _ => .ok ⟨none, none, some 0⟩

/-- Alice registers on chain 137, so under two coin types; Bob's address is updated to a text
    without the `0x`. -/
private def twoSpellings : List StoreOp :=
  [.register 0 "alice.wct.id" ∅
      (registerAddresses ⟨"", "", 0x80000089, "0x1111111111111111111111111111111111111111"⟩),
    .register 1 "bob.wct.id" ∅
      (registerAddresses ⟨"", "", 60, "0x3333333333333333333333333333333333333333"⟩),
    .updateAddress 2 "bob.wct.id" 60 "2222222222222222222222222222222222222222"]

private def aliceAccount : Address := .ofNat 20 0x1111111111111111111111111111111111111111

private def bobAccount : Address := .ofNat 20 0x2222222222222222222222222222222222222222

/-- **The failing input.**  The reverse endpoint lists Alice's name twice, and the identity lookup
    of Bob's new account does not find his name. -/
theorem reverse_lookup_disagrees :
    ∃ s, namesStore.run Store.empty twoSpellings = some s ∧
      ¬ ListsExactly h160OfHex s aliceAccount (listedNames
        (reverse (.reliable 0) s "0x1111111111111111111111111111111111111111" none)) ∧
      ¬ ReturnsOneOf h160OfHex s bobAccount
        (IdentityService.withoutEns.lookupIdentity (.reliable 0) s ⟨"", none⟩ bobAccount) := by
  have hrun : ∃ s, namesStore.run Store.empty twoSpellings = some s ∧
      listedNames (reverse (.reliable 0) s "0x1111111111111111111111111111111111111111" none)
        = some ["alice.wct.id", "alice.wct.id"] ∧
      IdentityService.withoutEns.lookupIdentity (.reliable 0) s ⟨"", none⟩ bobAccount
        = .ok (.rpc, ⟨none, none, some 0⟩) ∧
      s.rowsOf "2222222222222222222222222222222222222222" = [⟨.eip155, "60",
        "2222222222222222222222222222222222222222", "bob.wct.id", 2⟩] :=
    ⟨_, rfl, rfl, rfl, rfl⟩
  obtain ⟨s, hops, hlisted, hidentity, hrows⟩ := hrun
  refine ⟨s, hops, ?_, ?_⟩
  · rintro ⟨names, hnames, hdistinct, -⟩
    rw [hlisted] at hnames
    cases hnames
    exact absurd hdistinct (by decide)
  · rintro ⟨source, response, hresult, hmatch⟩
    rw [hidentity] at hresult
    cases hresult
    have hrow := List.mem_singleton_self (⟨.eip155, "60",
      "2222222222222222222222222222222222222222", "bob.wct.id", 2⟩ : AddressRow)
    rw [← hrows] at hrow
    exact hmatch "bob.wct.id" ⟨_, (Store.mem_rowsOf.mp hrow).1, rfl, by rfl⟩

/-- The agreement at Alice's account, in that store. -/
theorem reverse_resolution_of_alice :
    ∃ s, namesStore.run Store.empty twoSpellings = some s ∧
      (ListsExactly h160OfHex s aliceAccount (listedNames
          (reverse (.reliable 0) s "0x1111111111111111111111111111111111111111" none)) ↔
        (∀ name, s.HasAddress h160OfHex aliceAccount name →
            ∃ a ∈ s.rowsOf "0x1111111111111111111111111111111111111111", a.name = name) ∧
          ∀ a ∈ s.rowsOf "0x1111111111111111111111111111111111111111",
            ∀ b ∈ s.rowsOf "0x1111111111111111111111111111111111111111",
              a.name = b.name → a = b) ∧
      (ReturnsOneOf h160OfHex s aliceAccount
          (IdentityService.withoutEns.lookupIdentity (.reliable 0) s ⟨"", none⟩ aliceAccount) ↔
        ((∃ name, s.HasAddress h160OfHex aliceAccount name) →
          s.rowsOf (IdentityService.withoutEns.toChecksum aliceAccount) ≠ [])) := by
  have hrun : ∃ s, namesStore.run Store.empty twoSpellings = some s := ⟨_, rfl⟩
  obtain ⟨s, hops⟩ := hrun
  exact ⟨s, hops, reverse_resolution_iff rfl rfl rfl rfl rfl⟩

end BlockchainApi
