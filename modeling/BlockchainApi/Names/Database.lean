/-
  The names store: the tables `names` and `addresses` of the migrations and the queries of
  `src/database/helpers.rs` on them.

  The primary keys are those of the `Table`s and the foreign key is a field of `Store`, so every
  store in this development satisfies the constraints.  A helper that violates one returns the error
  of the database and no store.

  1. **Statements.** Each SQL statement is a function under its own name, with the columns' lengths
     and the check constraints in the guards.  The conflict target of the upsert contains the
     address, so the row that is updated has the address already (`putAddress`).

  2. **Queries.** The loop of `get_addresses_by_name` folds rows into a map by coin type, so of two
     rows with one coin type the map shows one.  Queries without `ORDER BY` take a `RowOrder`.

  3. **Helpers**, in the order of the source: each `?` is a step of `Except`.  `insert_name` is one
     transaction of several statements, and `insertName_induction` is its rule: what the insert of
     the name establishes and the upserts of its addresses keep.

  Times are whatever `NOW()` returns, a number.  An `hstore` is the map it was written from; that it
  is read so by the database is proved in `Names.AttributesStorage`.
-/
import BlockchainApi.Lib.Table
import BlockchainApi.Utils.Caip

namespace BlockchainApi

/-! ## Rows: the columns of the two tables -/

/-- `SupportedNamespaces`. -/
inductive SupportedNamespaces where
  | eip155
  deriving DecidableEq

/-- The attributes of a name. -/
abbrev Attributes := HashMap String String

/-- A row of `names`, and what the queries return of it (`types::Name`). -/
structure NameRow where
  name : String
  registeredAt : Nat
  updatedAt : Nat
  attributes : Option Attributes
  deriving DecidableEq

/-- A row of `addresses`. -/
structure AddressRow where
  namespace_ : SupportedNamespaces
  chainId : String
  address : String
  name : String
  createdAt : Nat
  deriving DecidableEq

/-- `PRIMARY KEY (name, namespace, chain_id, address)`. -/
def AddressRow.key (r : AddressRow) : String × SupportedNamespaces × String × String :=
  (r.name, r.namespace_, r.chainId, r.address)

/-- The store.  `addresses.name REFERENCES names (name)`. -/
structure Store where
  names : Table NameRow String NameRow.name
  addresses : Table AddressRow (String × SupportedNamespaces × String × String) AddressRow.key
  foreignKey : ∀ a ∈ addresses.rows, names.has a.name = true

/-- `types::Address`. -/
structure NameAddress where
  address : String
  createdAt : Option Nat
  deriving DecidableEq

/-- `ENSIP11AddressesMap`. -/
abbrev ENSIP11AddressesMap := HashMap UInt32 NameAddress

/-- `NameAndAddresses`. -/
structure NameAndAddresses where
  name : String
  registeredAt : Nat
  updatedAt : Nat
  attributes : Option Attributes
  addresses : ENSIP11AddressesMap
  deriving DecidableEq

/-- `[a-z0-9.-]`. -/
def isNameChar (c : Char) : Bool := ('a' ≤ c && c ≤ 'z') || c.isDigit || c == '.' || c == '-'

/-- `row.chain_id.parse::<u32>().unwrap_or_default()`. -/
def coinTypeOf (chainId : String) : UInt32 :=
  match parseUnsigned (2 ^ 32) chainId.toList with
  | some n => UInt32.ofNat n
  | none => 0

/-- `format!("{}", coin_type)`. -/
def chainIdOf (coinType : UInt32) : String := toString coinType.toNat

/-- **A coin type is read back as it was written.** Digits of a number that fits 32 bits are read
    as that number. -/
@[simp] theorem coinTypeOf_chainIdOf (coinType : UInt32) :
    coinTypeOf (chainIdOf coinType) = coinType := by
  have hlt : coinType.toNat < 2 ^ 32 := coinType.toNat_lt
  rw [coinTypeOf, chainIdOf, parseUnsigned_toString hlt]
  exact UInt32.ofNat_toNat

namespace Store

/-! ## Statements: what each writes, or why it is refused -/

/-- The empty store. -/
def empty : Store := ⟨.empty, .empty, by simp⟩

/-- The rows of `addresses` with the name. -/
def addressRows (s : Store) (name : String) : List AddressRow :=
  s.addresses.rows.filter fun a => a.name = name

theorem mem_addressRows {s : Store} {name : String} {a : AddressRow} :
    a ∈ s.addressRows name ↔ a ∈ s.addresses.rows ∧ a.name = name := by
  simp [addressRows]

/-- `INSERT INTO names (name, attributes)`. -/
def insertNameRow (s : Store) (now : Nat) (name : String) (attributes : Attributes) :
    Except SqlxError Store :=
  if isVarchar 255 name = false then
    .error (.database "value too long for type character varying(255)")
  else if name.toList.all isNameChar = false then
    .error (.database "new row for relation \"names\" violates check constraint \"ens_name_standard\"")
  else if h : s.names.has name = false then
    .ok { s with
      names := s.names.append ⟨name, now, now, some attributes⟩ h
      foreignKey := fun a ha => Table.has_append.mpr (.inl (s.foreignKey a ha)) }
  else
    .error (.database "duplicate key value violates unique constraint \"names_pkey\"")

/-- The row that `INSERT INTO addresses … ON CONFLICT (name, namespace, chain_id, address) DO
    UPDATE SET address = EXCLUDED.address, created_at = NOW()` leaves.  The address is part of the
    conflict target, so the row that is updated already has it. -/
def putAddress (s : Store) (row : AddressRow) (h : s.names.has row.name = true) : Store where
  names := s.names
  addresses := s.addresses.upsert row
    (fun old => { old with address := row.address, createdAt := row.createdAt })
    (by
      intro old hold
      simp only [AddressRow.key, Prod.mk.injEq] at hold ⊢
      exact ⟨hold.1, hold.2.1, hold.2.2.1, trivial⟩)
  foreignKey := by
    intro a ha
    rcases Table.mem_upsert.mp ha with ⟨ha, -⟩ | ⟨old, hold, -, rfl⟩ | ⟨-, rfl⟩
    · exact s.foreignKey a ha
    · exact s.foreignKey old hold
    · exact h

/-- **What an upsert of an address leaves**: the other rows, and the row itself. -/
theorem mem_putAddress {s : Store} {row x : AddressRow} {h : s.names.has row.name = true} :
    x ∈ (s.putAddress row h).addresses.rows ↔
      (x ∈ s.addresses.rows ∧ x.key ≠ row.key) ∨ x = row := by
  have hmerge : ∀ old : AddressRow, old.key = row.key →
      { old with address := row.address, createdAt := row.createdAt } = row := by
    intro old hold
    simp only [AddressRow.key, Prod.mk.injEq] at hold
    obtain ⟨hname, hnamespace, hchain, -⟩ := hold
    cases old
    cases row
    simp_all
  rw [putAddress, Table.mem_upsert]
  constructor
  · rintro (hx | ⟨old, -, hkey, rfl⟩ | ⟨-, hx⟩)
    · exact .inl hx
    · exact .inr (hmerge old hkey)
    · exact .inr hx
  · rintro (hx | rfl)
    · exact .inl hx
    · by_cases hhas : s.addresses.has x.key = false
      · exact .inr (.inr ⟨hhas, rfl⟩)
      · rw [Bool.not_eq_false, Table.has_iff] at hhas
        obtain ⟨old, hold, hkey⟩ := hhas
        exact .inr (.inl ⟨old, hold, hkey, hmerge old hkey⟩)

@[simp] theorem names_putAddress {s : Store} {row : AddressRow} {h : s.names.has row.name = true} :
    (s.putAddress row h).names = s.names := rfl

/-- The texts fit the columns of `addresses`. -/
def fitsAddressColumns (name chainId address : String) : Bool :=
  isVarchar 255 name && isVarchar 255 chainId && isVarchar 255 address

/-- `insert_or_update_address`. -/
def insertOrUpdateAddress (s : Store) (now : Nat) (name : String) (namespace_ : SupportedNamespaces)
    (chainId address : String) : Except SqlxError (Store × ENSIP11AddressesMap) :=
  if fitsAddressColumns name chainId address = false then
    .error (.database "value too long for type character varying(255)")
  else if h : s.names.has name = true then
    .ok (s.putAddress ⟨namespace_, chainId, address, name, now⟩ h,
      HashMap.ofPairs [(coinTypeOf chainId, ⟨address, some now⟩)])
  else
    .error (.database
      "insert or update on table \"addresses\" violates foreign key constraint \"addresses_name_fkey\"")

/-- `UPDATE names SET attributes = $2, updated_at = NOW() WHERE name = $1`. -/
def putAttributes (s : Store) (now : Nat) (name : String) (attributes : Attributes) : Store where
  names := s.names.update (fun n => n.name = name)
    (fun n => { n with attributes := some attributes, updatedAt := now }) (fun _ => rfl)
  addresses := s.addresses
  foreignKey := fun a ha => Table.has_update.trans (s.foreignKey a ha)

@[simp] theorem has_putAttributes {s : Store} {now : Nat} {name other : String}
    {attributes : Attributes} :
    (s.putAttributes now name attributes).names.has other = s.names.has other := by
  rw [putAttributes, Table.has_update]

/-- `update_name_attributes`. -/
def updateNameAttributes (s : Store) (now : Nat) (name : String) (attributes : Attributes) :
    Except SqlxError (Store × Attributes) :=
  if s.names.has name = true then .ok (s.putAttributes now name attributes, attributes)
  else .error .rowNotFound

/-- `DELETE FROM addresses WHERE name = $1 AND namespace = $2 AND chain_id = $3 AND
    address = $4`. -/
def deleteAddressRow (s : Store) (name : String) (namespace_ : SupportedNamespaces)
    (chainId address : String) : Store where
  names := s.names
  addresses := s.addresses.delete fun a => a.key = (name, namespace_, chainId, address)
  foreignKey := fun a ha => s.foreignKey a (Table.mem_delete.mp ha).1

/-! ## Queries: rows in some order, folded into maps -/

/-- `get_name`. -/
def getName (s : Store) (name : String) : Except SqlxError NameRow :=
  match s.names.find? name with
  | some row => .ok row
  | none => .error .rowNotFound

/-- `get_names_by_address`: one row of the join for each address row. -/
def getNamesByAddress (order : RowOrder NameRow) (s : Store) (address : String) : List NameRow :=
  order.arrange
    ((s.addresses.rows.filter fun a => a.address = address).filterMap fun a => s.names.find? a.name)

end Store

/-- The loop of `get_addresses_by_name` over the rows: a later row replaces an earlier one of its
    coin type. -/
def addressesMap (rows : List AddressRow) : ENSIP11AddressesMap :=
  HashMap.ofPairs ((rows.filter fun a => a.namespace_ = .eip155).map fun a =>
    (coinTypeOf a.chainId, ⟨a.address, some a.createdAt⟩))

/-- What the rows say of an address. -/
def AddressRow.nameAddress (a : AddressRow) : NameAddress := ⟨a.address, some a.createdAt⟩

theorem addressesMap_eq (rows : List AddressRow) :
    addressesMap rows =
      HashMap.ofPairs (rows.map fun a => (coinTypeOf a.chainId, a.nameAddress)) := by
  have hall : (rows.filter fun a => a.namespace_ = .eip155) = rows :=
    List.filter_eq_self.mpr fun a _ => by cases a.namespace_; rfl
  rw [addressesMap, hall]
  rfl

/-- An entry of the map is the address of a row with its coin type. -/
theorem lookup_addressesMap {rows : List AddressRow} {coinType : UInt32} {v : NameAddress}
    (h : (addressesMap rows).lookup coinType = some v) :
    ∃ a ∈ rows, coinTypeOf a.chainId = coinType ∧ a.nameAddress = v := by
  rw [addressesMap_eq] at h
  obtain ⟨a, ha, hpair⟩ := List.mem_map.mp (HashMap.mem_of_lookup_ofPairs h)
  simp only [Prod.mk.injEq] at hpair
  exact ⟨a, ha, hpair⟩

theorem exists_lookup_addressesMap {rows : List AddressRow} {a : AddressRow} (h : a ∈ rows) :
    ∃ v, (addressesMap rows).lookup (coinTypeOf a.chainId) = some v := by
  rw [addressesMap_eq]
  have hpair : (coinTypeOf a.chainId, a.nameAddress) ∈
      rows.map fun a => (coinTypeOf a.chainId, a.nameAddress) := List.mem_map.mpr ⟨a, h, rfl⟩
  obtain ⟨v, hv, -⟩ := HashMap.exists_lookup_ofPairs hpair
  exact ⟨v, hv⟩

/-- **The map has one entry** when there are rows and all of them are under one coin type,
    however many addresses they hold. -/
theorem size_addressesMap_eq_one_iff {rows : List AddressRow} :
    (addressesMap rows).size = 1 ↔
      ∃ c, (∃ a ∈ rows, coinTypeOf a.chainId = c) ∧ ∀ a ∈ rows, coinTypeOf a.chainId = c := by
  rw [addressesMap_eq, HashMap.size_ofPairs_eq_one_iff]
  simp

namespace Store

/-- `get_addresses_by_name`. -/
def getAddressesByName (order : RowOrder AddressRow) (s : Store) (name : String) :
    ENSIP11AddressesMap :=
  addressesMap (order.arrange (s.addressRows name))

theorem lookup_getAddressesByName {order : RowOrder AddressRow} {s : Store} {name : String}
    {coinType : UInt32} {v : NameAddress}
    (h : (s.getAddressesByName order name).lookup coinType = some v) :
    ∃ a ∈ s.addressRows name, coinTypeOf a.chainId = coinType ∧ a.nameAddress = v := by
  obtain ⟨a, ha, hv⟩ := lookup_addressesMap h
  exact ⟨a, order.mem_arrange.mp ha, hv⟩

theorem exists_lookup_getAddressesByName (order : RowOrder AddressRow) {s : Store} {name : String}
    {a : AddressRow} (h : a ∈ s.addressRows name) :
    ∃ v, (s.getAddressesByName order name).lookup (coinTypeOf a.chainId) = some v :=
  exists_lookup_addressesMap (order.mem_arrange.mpr h)

/-- `get_name_and_addresses_by_name`. -/
def getNameAndAddressesByName (order : RowOrder AddressRow) (s : Store) (name : String) :
    Except SqlxError NameAndAddresses := do
  let result ← s.getName name
  return {
    name := result.name
    registeredAt := result.registeredAt
    updatedAt := result.updatedAt
    attributes := result.attributes
    addresses := s.getAddressesByName order name }

/-- A registered name is found, with its addresses. -/
theorem getNameAndAddressesByName_of_has (order : RowOrder AddressRow) {s : Store} {name : String}
    (h : s.names.has name = true) :
    ∃ found, s.getNameAndAddressesByName order name = .ok found ∧ found.name = name ∧
      found.addresses = s.getAddressesByName order name := by
  obtain ⟨row, hrow, hname⟩ := Table.has_iff.mp h
  have hfind : s.names.find? name = some row := Table.find?_eq_some.mpr ⟨hrow, hname⟩
  rw [getNameAndAddressesByName, getName, hfind]
  exact ⟨_, rfl, hname, rfl⟩

/-- The body of the loop of `insert_name`. -/
def insertNameAddress (now : Nat) (name : String) (namespace_ : SupportedNamespaces) (s : Store)
    (a : (_ : UInt32) × NameAddress) : Except SqlxError Store := do
  let (s, _) ← s.insertOrUpdateAddress now name namespace_ (chainIdOf a.1) a.2.address
  return s

/-- `insert_name`: the name, then its addresses, in one transaction. -/
def insertName (s : Store) (now : Nat) (name : String) (attributes : Attributes)
    (namespace_ : SupportedNamespaces) (addresses : ENSIP11AddressesMap) :
    Except DatabaseError Store :=
  if addresses.entries = [] then
    .error (.badArgument "At least one address is required for the new name")
  else
    let inserted : Except SqlxError Store := do
      let s ← s.insertNameRow now name attributes
      addresses.entries.foldlM (insertNameAddress now name namespace_) s
    inserted.mapError .sqlxError

/-- The check of `delete_address`, on the addresses it has counted. -/
def deleteAddressCheck (current : ENSIP11AddressesMap) : Except DatabaseError Unit :=
  if current.size = 1 then
    .error (.addressRequired "At least one address is required to exist for the name")
  else .ok ()

/-- `delete_address`: a count in one query, a `DELETE` in another. -/
def deleteAddress (order : RowOrder AddressRow) (s : Store) (name : String)
    (namespace_ : SupportedNamespaces) (chainId address : String) : Except DatabaseError Store := do
  deleteAddressCheck (s.getAddressesByName order name)
  return s.deleteAddressRow name namespace_ chainId address

/-! ## What the helpers do when they succeed, in the form later proofs use -/

variable {s s' : Store} {now : Nat} {name : String} {namespace_ : SupportedNamespaces}
variable {chainId address : String} {attributes : Attributes}

/-- **A successful upsert.** -/
theorem insertOrUpdateAddress_eq_ok {result : Store × ENSIP11AddressesMap} :
    s.insertOrUpdateAddress now name namespace_ chainId address = .ok result ↔
      fitsAddressColumns name chainId address = true ∧ ∃ h : s.names.has name = true,
        (s.putAddress ⟨namespace_, chainId, address, name, now⟩ h,
          HashMap.ofPairs [(coinTypeOf chainId, ⟨address, some now⟩)]) = result := by
  rw [insertOrUpdateAddress]
  by_cases hfits : fitsAddressColumns name chainId address = false
  · simp [hfits]
  · rw [if_neg hfits]
    rw [Bool.not_eq_false] at hfits
    by_cases hname : s.names.has name = true
    · simp [hname, hfits]
    · simp [hname]

/-- **A successful insert of a name row.** -/
theorem insertNameRow_eq_ok :
    s.insertNameRow now name attributes = .ok s' ↔
      isVarchar 255 name = true ∧ name.toList.all isNameChar = true ∧
        ∃ h : s.names.has name = false,
          { s with
            names := s.names.append ⟨name, now, now, some attributes⟩ h
            foreignKey := fun a ha => Table.has_append.mpr (.inl (s.foreignKey a ha)) } = s' := by
  rw [insertNameRow]
  by_cases hvarchar : isVarchar 255 name = false
  · simp [hvarchar]
  · rw [if_neg hvarchar]
    rw [Bool.not_eq_false] at hvarchar
    by_cases hchars : name.toList.all isNameChar = false
    · rw [if_pos hchars, hchars]
      simp
    · rw [if_neg hchars]
      rw [Bool.not_eq_false] at hchars
      by_cases hname : s.names.has name = false
      · simp [hname, hvarchar, hchars]
      · simp [hname]

/-- **A successful registration** inserts its name, then its addresses. All of it is one
    transaction, so a failure leaves the store as it was. -/
theorem insertName_eq_ok {addresses : ENSIP11AddressesMap}
    (h : s.insertName now name attributes namespace_ addresses = .ok s') :
    addresses.entries ≠ [] ∧ ∃ s₁, s.insertNameRow now name attributes = .ok s₁ ∧
      addresses.entries.foldlM (insertNameAddress now name namespace_) s₁ = .ok s' := by
  rw [insertName] at h
  split at h
  · cases h
  · next hsome =>
    obtain ⟨s₁, hinsert, hloop⟩ := Except.bind_eq_ok.mp (Except.mapError_eq_ok.mp h)
    exact ⟨hsome, s₁, hinsert, hloop⟩

/-- What the insert of the name establishes and the upserts of its addresses keep. -/
theorem insertName_induction {addresses : ENSIP11AddressesMap} {P : Store → Prop}
    (h : s.insertName now name attributes namespace_ addresses = .ok s')
    (hname : ∀ s₁, s.insertNameRow now name attributes = .ok s₁ → P s₁)
    (haddress : ∀ (s : Store) (c : UInt32) (address : String) (hs : s.names.has name = true), P s →
      P (s.putAddress ⟨namespace_, chainIdOf c, address, name, now⟩ hs)) : P s' := by
  obtain ⟨-, s₁, hinsert, hloop⟩ := insertName_eq_ok h
  refine Except.foldlM_induction (P := P) ?_ hloop (hname s₁ hinsert)
  intro s a s' hs hstep
  rw [insertNameAddress] at hstep
  cases hupsert : s.insertOrUpdateAddress now name namespace_ (chainIdOf a.1) a.2.address with
  | error e =>
    rw [hupsert] at hstep
    cases hstep
  | ok result =>
    rw [hupsert] at hstep
    cases hstep
    obtain ⟨-, hhas, rfl⟩ := insertOrUpdateAddress_eq_ok.mp hupsert
    exact haddress s a.1 a.2.address hhas hs

end Store

end BlockchainApi
