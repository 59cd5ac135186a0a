/-
  Deletion of addresses.

  `delete_address` is meant to keep at least one address for a name.  It counts the addresses in one
  query and deletes in another, and what it counts is the map by coin type, not the rows.

  1. **The check** (`deleteAddressCheck_eq_ok`) passes when the name has rows under two coin types,
     or none.  So it is stricter than its purpose: two addresses under one coin type count as one.

  2. **The race** (`deletions_keep_addresses`).  Between the count of a deletion and its `DELETE`
     other deletions may run.  The machine takes a deletion in these two steps, and all other calls
     in one.  Names keep their addresses in every run whose deletions would still pass their check
     at the moment of their `DELETE`; two deletions that both count first may leave a name without
     addresses (`two_deletions_leave_no_address`).  All other calls give addresses or leave them.

  3. **A deletion alone** (`deletion_alone_iff`) is refused whenever all rows of the name are under
     one coin type, however many they are.

  That the last address is kept is an invariant of the store (`NamesHaveAddresses`), and not a
  constraint of the tables.
-/
import BlockchainApi.Names.Registration

namespace BlockchainApi

/-! ## Deletions in two steps: the count, and the `DELETE` -/

/-- What a deletion has left to do. -/
structure PendingDeletion where
  name : String
  namespace_ : SupportedNamespaces
  chainId : String
  address : String
  deriving DecidableEq

/-- The row that the deletion is about. -/
def PendingDeletion.key (d : PendingDeletion) : String × SupportedNamespaces × String × String :=
  (d.name, d.namespace_, d.chainId, d.address)

/-- The store, and the deletions that have counted. -/
structure Deletions where
  store : Store
  pending : List PendingDeletion

inductive DeletionAction where
  /-- `get_addresses_by_name`, and the check. -/
  | count (order : RowOrder AddressRow) (d : PendingDeletion)
  /-- The `DELETE` of a deletion. -/
  | delete (i : Nat)
  /-- The `DELETE` of a deletion fails. -/
  | fail (i : Nat)
  /-- Another call that writes. -/
  | write (op : StoreOp)

def Deletions.step (s : Deletions) : DeletionAction → Option Deletions
  | .count order d =>
    match Store.deleteAddressCheck (s.store.getAddressesByName order d.name) with
    | .ok _ => some { s with pending := s.pending ++ [d] }
    | .error _ => some s
  | .delete i => s.pending[i]?.map fun d =>
    ⟨s.store.deleteAddressRow d.name d.namespace_ d.chainId d.address, s.pending.eraseIdx i⟩
  | .fail i => some { s with pending := s.pending.eraseIdx i }
  | .write (.deleteAddress ..) => none
  | .write op => (s.store.apply op).map fun store => { s with store }

/-- The deletions as a machine. -/
def deletions : Transitions.Machine Deletions DeletionAction := ⟨Deletions.step⟩

/-- **A deletion alone** is `delete_address`: its check and its statement, with nothing in
    between. -/
theorem run_deletion_alone {s s' : Store} {order : RowOrder AddressRow} {d : PendingDeletion} :
    s.deleteAddress order d.name d.namespace_ d.chainId d.address = .ok s' ↔
      deletions.run ⟨s, []⟩ [.count order d, .delete 0] = some ⟨s', []⟩ := by
  rw [Store.deleteAddress]
  cases hcheck : Store.deleteAddressCheck (s.getAddressesByName order d.name) with
  | ok u =>
    -- the check passes, and the deletion waits for its statement
    have hcount : deletions.step ⟨s, []⟩ (.count order d) = some ⟨s, [d]⟩ := by
      simp only [deletions, Deletions.step, hcheck, List.nil_append]
    rw [Transitions.Machine.run_cons]
    constructor
    · intro h
      cases h
      exact ⟨_, hcount, rfl⟩
    · rintro ⟨t, ht, hrun⟩
      rw [hcount] at ht
      cases ht
      cases hrun
      rfl
  | error e =>
    -- the check fails, and there is nothing to run
    have hcount : deletions.step ⟨s, []⟩ (.count order d) = some ⟨s, []⟩ := by
      simp only [deletions, Deletions.step, hcheck]
    rw [Transitions.Machine.run_cons]
    constructor
    · intro h
      cases h
    · rintro ⟨t, ht, hrun⟩
      rw [hcount] at ht
      cases ht
      cases hrun

/-! ## The check, and the calls that cannot take an address away -/

namespace Store

variable {s s' : Store} {order : RowOrder AddressRow} {name : String}

/-- **The check of a deletion** passes when the name has rows under two coin types, or none. -/
theorem deleteAddressCheck_eq_ok :
    deleteAddressCheck (s.getAddressesByName order name) = .ok () ↔
      (∃ a ∈ s.addressRows name, ∃ b ∈ s.addressRows name,
          coinTypeOf a.chainId ≠ coinTypeOf b.chainId) ∨ s.addressRows name = [] := by
  -- the order of the rows does not matter
  have hmem : ∀ a, a ∈ order.arrange (s.addressRows name) ↔ a ∈ s.addressRows name :=
    fun a => order.mem_arrange
  -- the map has one entry if all rows have one coin type
  have hsize : (s.getAddressesByName order name).size = 1 ↔ ∃ c,
      (∃ a ∈ s.addressRows name, coinTypeOf a.chainId = c) ∧
        ∀ a ∈ s.addressRows name, coinTypeOf a.chainId = c := by
    rw [getAddressesByName, size_addressesMap_eq_one_iff]
    simp only [hmem]
  rw [deleteAddressCheck]
  constructor
  · -- two coin types, or no row at all
    intro h
    split at h
    · cases h
    · next hmany =>
      rw [hsize] at hmany
      by_contra hone
      rw [not_or] at hone
      obtain ⟨a, ha⟩ := List.exists_mem_of_ne_nil _ hone.2
      refine hmany ⟨coinTypeOf a.chainId, ⟨a, ha, rfl⟩, fun b hb => ?_⟩
      by_contra hne
      exact hone.1 ⟨b, hb, a, ha, hne⟩
  · intro h
    have hmany : ¬ (s.getAddressesByName order name).size = 1 := by
      rw [hsize]
      rintro ⟨c, ⟨x, hx, -⟩, hall⟩
      rcases h with ⟨a, ha, b, hb, hne⟩ | hnil
      · exact hne ((hall a ha).trans (hall b hb).symm)
      · rw [hnil] at hx
        cases hx
    rw [if_neg hmany]

/-- Every registered name has an address. -/
def NamesHaveAddresses (s : Store) : Prop :=
  ∀ name, s.names.has name = true → s.addressRows name ≠ []

theorem addressRows_ne_nil_iff :
    s.addressRows name ≠ [] ↔ ∃ a ∈ s.addresses.rows, a.name = name := by
  constructor
  · intro h
    obtain ⟨a, ha⟩ := List.exists_mem_of_ne_nil _ h
    exact ⟨a, mem_addressRows.mp ha⟩
  · rintro ⟨a, ha⟩
    exact List.ne_nil_of_mem (mem_addressRows.mpr ha)

theorem mem_addressRows_deleteAddressRow {d : PendingDeletion} {a : AddressRow} :
    a ∈ (s.deleteAddressRow d.name d.namespace_ d.chainId d.address).addressRows name ↔
      a ∈ s.addressRows name ∧ a.key ≠ d.key := by
  rw [mem_addressRows, mem_addressRows, deleteAddressRow, Table.mem_delete, decide_eq_false_iff_not,
    and_right_comm]
  rfl

/-- **A `DELETE` leaves a name its addresses** while the check would still pass: of rows under
    two coin types, one row can go. -/
theorem namesHaveAddresses_delete {d : PendingDeletion} (hs : s.NamesHaveAddresses)
    (hcheck : deleteAddressCheck (s.getAddressesByName order d.name) = .ok ()) :
    (s.deleteAddressRow d.name d.namespace_ d.chainId d.address).NamesHaveAddresses := by
  intro name hname
  have hrows := hs name hname
  have hleft : ∃ a ∈ s.addressRows name, a.key ≠ d.key := by
    by_cases hd : name = d.name
    · subst hd
      rcases deleteAddressCheck_eq_ok.mp hcheck with ⟨a, ha, b, hb, hne⟩ | hnil
      · -- at most one of the two rows has the chain id of the `DELETE`
        by_cases hchain : a.chainId = d.chainId
        · refine ⟨b, hb, fun hkey => hne ?_⟩
          have hb' : b.chainId = d.chainId := congrArg (fun k => k.2.2.1) hkey
          rw [hchain, hb']
        · refine ⟨a, ha, fun hkey => hchain ?_⟩
          exact congrArg (fun k => k.2.2.1) hkey
      · exact absurd hnil hrows
    · obtain ⟨a, ha⟩ := List.exists_mem_of_ne_nil _ hrows
      refine ⟨a, ha, fun hkey => hd ?_⟩
      have haName : a.name = name := (mem_addressRows.mp ha).2
      rw [← haName]
      exact congrArg Prod.fst hkey
  obtain ⟨a, ha, hkey⟩ := hleft
  exact List.ne_nil_of_mem (mem_addressRows_deleteAddressRow.mpr ⟨ha, hkey⟩)

/-- An upsert leaves every name its addresses. -/
theorem namesHaveAddresses_putAddress {row : AddressRow} {h : s.names.has row.name = true}
    (hs : ∀ name, name ≠ row.name → s.names.has name = true → s.addressRows name ≠ []) :
    (s.putAddress row h).NamesHaveAddresses := by
  intro name hname
  rw [addressRows_ne_nil_iff]
  by_cases hrow : name = row.name
  · exact ⟨row, mem_putAddress.mpr (.inr rfl), hrow.symm⟩
  · obtain ⟨a, hmem, haName⟩ := addressRows_ne_nil_iff.mp (hs name hrow hname)
    refine ⟨a, mem_putAddress.mpr (.inl ⟨hmem, ?_⟩), haName⟩
    intro hkey
    have hsame : a.name = row.name := congrArg Prod.fst hkey
    exact hrow (haName.symm.trans hsame)

/-- A registration gives its name an address. -/
theorem namesHaveAddresses_insertName {now : Nat} {attributes : Attributes}
    {addresses : ENSIP11AddressesMap} (hs : s.NamesHaveAddresses)
    (h : s.insertName now name attributes .eip155 addresses = .ok s') : s'.NamesHaveAddresses := by
  obtain ⟨hsome, s₁, hinsert, hloop⟩ := insertName_eq_ok h
  obtain ⟨-, -, hnew, rfl⟩ := insertNameRow_eq_ok.mp hinsert
  obtain ⟨hnames, hrows⟩ := mem_insertNameAddresses hloop
  intro other hother
  rw [addressRows_ne_nil_iff]
  by_cases hname : other = name
  · subst hname
    obtain ⟨e, he⟩ := List.exists_mem_of_ne_nil _ hsome
    exact ⟨_, (hrows _).mpr (.inr ⟨e, he, rfl⟩), rfl⟩
  · rw [hnames] at hother
    have hold : s.names.has other = true := by
      rcases (Table.has_append (h := hnew)).mp hother with hold | hrow
      · exact hold
      · exact absurd hrow.symm hname
    obtain ⟨a, hmem, haName⟩ := addressRows_ne_nil_iff.mp (hs other hold)
    refine ⟨a, (hrows a).mpr (.inl ⟨hmem, ?_⟩), haName⟩
    intro e _ hkey
    have hsame : a.name = name := congrArg Prod.fst hkey
    exact hname (haName.symm.trans hsame)

/-- **Every call but a deletion** leaves every name an address. -/
theorem namesHaveAddresses_write {op : StoreOp} (hs : s.NamesHaveAddresses)
    (hop : ∀ order name coinType address, op ≠ .deleteAddress order name coinType address)
    (h : namesStore.step s op = some s') : s'.NamesHaveAddresses := by
  cases step_cases h with
  | register hinsert => exact namesHaveAddresses_insertName hs hinsert
  | updateAddress hfits hname =>
    exact namesHaveAddresses_putAddress fun other _ hother => hs other hother
  | deleteAddress hcheck => exact absurd rfl (hop _ _ _ _)
  | updateAttributes hname =>
    intro other hother
    rw [has_putAttributes] at hother
    exact hs other hother

end Store

/-! ## Runs: when a check still holds at its `DELETE` -/

/-- A `DELETE` finds a state in which its deletion would still pass the check. -/
def Deletions.CheckStillPasses (s : Deletions) : DeletionAction → Prop
  | .delete i => ∀ d, s.pending[i]? = some d →
    Store.deleteAddressCheck (s.store.getAddressesByName .stored d.name) = .ok ()
  | _ => True

/-- **A step keeps the addresses of all names** when its check still passes. -/
theorem Deletions.namesHaveAddresses_step {s s' : Deletions} {a : DeletionAction}
    (hs : s.store.NamesHaveAddresses) (hcheck : s.CheckStillPasses a)
    (h : deletions.step s a = some s') : s'.store.NamesHaveAddresses := by
  cases a with
  | count order d =>
    -- a check writes nothing
    simp only [deletions, Deletions.step] at h
    split at h
    · cases h
      exact hs
    · cases h
      exact hs
  | delete i =>
    -- the check would still pass on the rows that are there now
    obtain ⟨d, hd, rfl⟩ := Option.map_eq_some_iff.mp h
    exact Store.namesHaveAddresses_delete hs (hcheck d hd)
  | fail i =>
    cases h
    exact hs
  | write op =>
    -- a write of a handler is a step of the store, and no deletion
    have hwrite : ∃ store, namesStore.step s.store op = some store ∧ s' = { s with store } ∧
        ∀ order name coinType address, op ≠ .deleteAddress order name coinType address := by
      cases op with
      | deleteAddress order name coinType address => cases h
      | register now name attributes addresses =>
        obtain ⟨store, hstore, rfl⟩ := Option.map_eq_some_iff.mp h
        exact ⟨store, hstore, rfl, by intros; simp⟩
      | updateAddress now name coinType address =>
        obtain ⟨store, hstore, rfl⟩ := Option.map_eq_some_iff.mp h
        exact ⟨store, hstore, rfl, by intros; simp⟩
      | updateAttributes now name attributes =>
        obtain ⟨store, hstore, rfl⟩ := Option.map_eq_some_iff.mp h
        exact ⟨store, hstore, rfl, by intros; simp⟩
    obtain ⟨store, hstore, rfl, hop⟩ := hwrite
    exact Store.namesHaveAddresses_write hs hop hstore

/-- A deletion that would leave the name an address is not refused. -/
def Store.AllowsDeletion (s : Store) (order : RowOrder AddressRow) (d : PendingDeletion) : Prop :=
  (s.deleteAddressRow d.name d.namespace_ d.chainId d.address).addressRows d.name ≠ [] →
    Store.deleteAddressCheck (s.getAddressesByName order d.name) = .ok ()

/-- **A deletion alone** is handled so exactly when the name has rows under two coin types, or no
    row but the one that goes. -/
theorem deletion_alone_iff (s : Store) (order : RowOrder AddressRow) (d : PendingDeletion) :
    s.AllowsDeletion order d ↔
      (∃ a ∈ s.addressRows d.name, ∃ b ∈ s.addressRows d.name,
          coinTypeOf a.chainId ≠ coinTypeOf b.chainId) ∨
        ∀ a ∈ s.addressRows d.name, a.key = d.key := by
  rw [Store.AllowsDeletion, Store.deleteAddressCheck_eq_ok]
  constructor
  · intro h
    by_cases hleft : ∀ a ∈ s.addressRows d.name, a.key = d.key
    · exact .inr hleft
    · push Not at hleft
      obtain ⟨a, ha, hkey⟩ := hleft
      rcases h (List.ne_nil_of_mem (Store.mem_addressRows_deleteAddressRow.mpr ⟨ha, hkey⟩)) with
        htwo | hnil
      · exact .inl htwo
      · rw [hnil] at ha
        cases ha
  · rintro (htwo | hleft) hstays
    · exact .inl htwo
    · obtain ⟨a, ha⟩ := List.exists_mem_of_ne_nil _ hstays
      obtain ⟨hmem, hkey⟩ := Store.mem_addressRows_deleteAddressRow.mp ha
      exact absurd (hleft a hmem) hkey

/-- **Names keep an address**: in every state of a run in which each `DELETE` would still pass its
    check; and a deletion alone that would leave one is let through exactly when the name has rows
    under two coin types, or no row but the one that goes. -/
theorem deletions_keep_addresses {start s : Deletions} {actions : List DeletionAction}
    (hstart : start.store.NamesHaveAddresses)
    (hchecks : deletions.Within Deletions.CheckStillPasses start actions)
    (hrun : deletions.run start actions = some s) :
    s.store.NamesHaveAddresses ∧
      ∀ (alone : Store) (order : RowOrder AddressRow) (d : PendingDeletion),
        alone.AllowsDeletion order d ↔
          (∃ a ∈ alone.addressRows d.name, ∃ b ∈ alone.addressRows d.name,
              coinTypeOf a.chainId ≠ coinTypeOf b.chainId) ∨
            ∀ a ∈ alone.addressRows d.name, a.key = d.key := by
  refine ⟨?_, deletion_alone_iff⟩
  exact Transitions.Machine.run_induction (P := fun s => s.store.NamesHaveAddresses)
    Deletions.namesHaveAddresses_step hchecks hrun hstart

/-- Alice is registered on chain 137, so under two coin types. -/
private def aliceRegistered : DeletionAction :=
  .write (.register 0 "alice.wct.id" ∅
    (registerAddresses ⟨"", "", 0x80000089, "0x1111111111111111111111111111111111111111"⟩))

private def aliceDeletion (chainId : String) : PendingDeletion :=
  ⟨"alice.wct.id", .eip155, chainId, "0x1111111111111111111111111111111111111111"⟩

/-- **The failing input.**  Two deletions count two addresses each, and then delete them; and a
    deletion is refused where two rows are under one coin type. -/
theorem two_deletions_leave_no_address :
    (∃ s, deletions.run ⟨.empty, []⟩ [aliceRegistered,
        .count .stored (aliceDeletion "60"), .count .stored (aliceDeletion "2147483785"),
        .delete 0, .delete 0] = some s ∧
      s.store.names.has "alice.wct.id" = true ∧ s.store.addressRows "alice.wct.id" = []) ∧
    ∃ s, deletions.run ⟨.empty, []⟩ [
        .write (.register 0 "bob.wct.id" ∅
          (registerAddresses ⟨"", "", 60, "0x3333333333333333333333333333333333333333"⟩)),
        .write (.updateAddress 1 "bob.wct.id" 60 "0x4444444444444444444444444444444444444444")]
        = some s ∧
      ¬ s.store.AllowsDeletion .stored
        ⟨"bob.wct.id", .eip155, "60", "0x3333333333333333333333333333333333333333"⟩ := by
  refine ⟨⟨_, rfl, rfl, rfl⟩, ?_⟩
  -- the update gave the name a second address of the same coin type
  have hrun : ∃ s, deletions.run ⟨.empty, []⟩ [
        .write (.register 0 "bob.wct.id" ∅
          (registerAddresses ⟨"", "", 60, "0x3333333333333333333333333333333333333333"⟩)),
        .write (.updateAddress 1 "bob.wct.id" 60 "0x4444444444444444444444444444444444444444")]
        = some s ∧
      s.store.addressRows "bob.wct.id" =
        [⟨.eip155, "60", "0x3333333333333333333333333333333333333333", "bob.wct.id", 0⟩,
          ⟨.eip155, "60", "0x4444444444444444444444444444444444444444", "bob.wct.id", 1⟩] :=
    ⟨_, rfl, rfl⟩
  obtain ⟨s, hs, hrows⟩ := hrun
  refine ⟨s, hs, fun hallows => ?_⟩
  rcases (deletion_alone_iff _ _ _).mp hallows with ⟨a, ha, b, hb, hne⟩ | hall
  · rw [hrows] at ha hb
    simp only [List.mem_cons, List.not_mem_nil, or_false] at ha hb
    rcases ha with rfl | rfl <;> rcases hb with rfl | rfl <;> exact hne rfl
  · have hkey := hall ⟨.eip155, "60", "0x4444444444444444444444444444444444444444", "bob.wct.id", 1⟩
      (by rw [hrows]; simp)
    exact absurd hkey (by decide)

/-- A run of one deletion after the other keeps an address. -/
theorem alice_keeps_an_address :
    ∃ s, deletions.run ⟨.empty, []⟩ [aliceRegistered,
        .count .stored (aliceDeletion "60"), .delete 0,
        .count .stored (aliceDeletion "2147483785")] = some s ∧
      s.store.NamesHaveAddresses := by
  have hrun : ∃ s, deletions.run ⟨.empty, []⟩ [aliceRegistered,
        .count .stored (aliceDeletion "60"), .delete 0,
        .count .stored (aliceDeletion "2147483785")] = some s := ⟨_, rfl⟩
  obtain ⟨s, hs⟩ := hrun
  refine ⟨s, hs, (deletions_keep_addresses ?_ ?_ hs).1⟩
  · intro name hname
    cases hname
  · refine ⟨trivial, fun s₁ h₁ => ⟨trivial, fun s₂ h₂ => ⟨?_, ?_⟩⟩⟩
    swap
    · intro s₃ _
      exact ⟨trivial, fun _ _ => trivial⟩
    intro d hd
    cases h₁
    cases h₂
    cases hd
    rfl

end BlockchainApi
