/-
  Concurrent registrations.

  `register::handler_internal` looks the name up, and only later inserts it.  So two requests for
  one name may both pass the lookup; what decides between them is the insert transaction of
  `insert_name`, and there the primary key of `names`.

  1. **The steps.** Here a request is followed through its steps (`Registry`).  It is received and
     checked, lookup included, in one step.  Then its transaction inserts the name, inserts the
     addresses one by one, and commits.  Until the commit no other session sees its rows; a second
     insert of the same name waits for the transaction that holds the key, and fails if that one has
     committed.  Last, the name is looked up again for the response.  At any point before the commit
     the database can fail the request, which rolls its transaction back; the handler may also lose
     the answer of a commit that went through.

  2. **One step, seen from one name.** Every step leaves the rows of a name as they are and commits
     no request for it, or it is the commit of one (`Effect`, `step_effect`).  Other calls are
     assumed to spare the name.

  3. **The invariant** (`Decided`): nobody has the name and it is not stored, or it has a winner,
     the only committed request for it, and what is stored of the name is all of that request
     (`decided_step`).

  So a name has one winner (`single_winner`): in every interleaving at most one request succeeds,
  and once the name exists all that is stored for it is one request's.
-/
import BlockchainApi.Names.Resolution

namespace BlockchainApi

/-! ## The insert transaction: what it sees, and what it adds -/

/-- What a registration's transaction sees: its own rows over the committed store. -/
def RegisterPayload.view (payload : RegisterPayload) (now : Nat) (s : Store)
    (written : List ((_ : UInt32) × NameAddress)) : Except SqlxError Store := do
  let s ← s.insertNameRow now payload.name (payload.attributes.getD ∅)
  written.foldlM (Store.insertNameAddress now payload.name .eip155) s

/-- The row of `addresses` that an entry of the map is written to. -/
def addressRow (now : Nat) (name : String) (e : (_ : UInt32) × NameAddress) : AddressRow :=
  ⟨.eip155, chainIdOf e.1, e.2.address, name, now⟩

/-- A lookup after an insert. -/
theorem lookup_insert_eq {a : NameAddress} {addresses : ENSIP11AddressesMap} (c k : UInt32) :
    (AList.insert k a addresses).lookup c = if c = k then some a else addresses.lookup c := by
  by_cases hc : c = k
  · rw [hc, AList.lookup_insert, if_pos rfl]
  · rw [AList.lookup_insert_ne hc, if_neg hc]

/-- The addresses of a new name are under the request's coin type and under coin type 60. -/
theorem lookup_registerAddresses (request : RegisterRequest) (c : UInt32) :
    (registerAddresses request).lookup c =
      if c = request.coinType ∨ c = 60 then some ⟨request.address, none⟩ else none := by
  have hsingle : (HashMap.ofPairs [(request.coinType, (⟨request.address, none⟩ : NameAddress))])
      = AList.insert request.coinType ⟨request.address, none⟩ ∅ := rfl
  have hempty : ∀ k, (∅ : ENSIP11AddressesMap).lookup k = none := fun _ => rfl
  rw [registerAddresses]
  simp only [hsingle, lookup_insert_eq, hempty]
  by_cases hsixty : 60 = request.coinType
  · rw [if_pos hsixty, if_neg (by simp), lookup_insert_eq, hempty, ← hsixty]
    simp only [or_self]
  · rw [if_neg hsixty, if_pos rfl, lookup_insert_eq, lookup_insert_eq, hempty]
    by_cases hc : c = 60 <;> by_cases hcoin : c = request.coinType <;> simp [hc, hcoin]

theorem mem_registerAddresses {request : RegisterRequest} {e : (_ : UInt32) × NameAddress} :
    e ∈ (registerAddresses request).entries ↔
      (e.1 = request.coinType ∨ e.1 = 60) ∧ e.2 = ⟨request.address, none⟩ := by
  rw [← AList.mem_lookup_iff, lookup_registerAddresses, Option.mem_def]
  by_cases hc : e.1 = request.coinType ∨ e.1 = 60
  · rw [if_pos hc, Option.some.injEq, and_iff_right hc, eq_comm]
  · rw [if_neg hc]
    simp [hc]

/-- **With all its addresses written, the transaction has done what `insert_name` does**, in
    whatever order it has written them. -/
theorem view_registerAddresses (payload : RegisterPayload) (now : Nat) (s : Store)
    (request : RegisterRequest) :
    s.insertName now payload.name (payload.attributes.getD ∅) .eip155 (registerAddresses request) =
      (payload.view now s (registerAddresses request).entries).mapError .sqlxError := by
  have hsome : (⟨60, ⟨request.address, none⟩⟩ : (_ : UInt32) × NameAddress) ∈
      (registerAddresses request).entries := mem_registerAddresses.mpr ⟨.inr rfl, rfl⟩
  rw [Store.insertName, if_neg (List.ne_nil_of_mem hsome)]
  rfl

namespace Store

variable {s s' : Store} {now : Nat} {name : String} {payload : RegisterPayload}
variable {written : List ((_ : UInt32) × NameAddress)}

/-- One insert of an address. -/
theorem insertNameAddress_eq_ok {e : (_ : UInt32) × NameAddress}
    (h : insertNameAddress now name .eip155 s e = .ok s') :
    s'.names = s.names ∧ ∀ x, x ∈ s'.addresses.rows ↔
      (x ∈ s.addresses.rows ∧ x.key ≠ (addressRow now name e).key) ∨ x = addressRow now name e := by
  rw [insertNameAddress] at h
  cases hupsert : s.insertOrUpdateAddress now name .eip155 (chainIdOf e.1) e.2.address with
  | error err => rw [hupsert] at h; cases h
  | ok result =>
    rw [hupsert] at h
    cases h
    obtain ⟨-, hhas, rfl⟩ := insertOrUpdateAddress_eq_ok.mp hupsert
    exact ⟨rfl, fun x => mem_putAddress (h := hhas)⟩

/-- **What the loop over the addresses leaves**: the rows with other keys, and its own. -/
theorem mem_insertNameAddresses :
    ∀ {s s' : Store}, written.foldlM (insertNameAddress now name .eip155) s = .ok s' →
      s'.names = s.names ∧ ∀ x, x ∈ s'.addresses.rows ↔
        (x ∈ s.addresses.rows ∧ ∀ e ∈ written, x.key ≠ (addressRow now name e).key) ∨
          ∃ e ∈ written, x = addressRow now name e := by
  -- the induction is on the entries that are left to write
  induction written with
  | nil =>
    intro s s' h
    cases h
    simp
  | cons e written ih =>
    intro s s' h
    rw [List.foldlM_cons] at h
    cases hfirst : insertNameAddress now name .eip155 s e with
    | error err => rw [hfirst] at h; cases h
    | ok s₁ =>
      rw [hfirst] at h
      obtain ⟨hnames₁, hrows₁⟩ := insertNameAddress_eq_ok hfirst
      obtain ⟨hnames, hrows⟩ := ih h
      refine ⟨hnames.trans hnames₁, fun x => ?_⟩
      rw [hrows, hrows₁]
      constructor
      · -- a row is an old one, that of the first entry, or that of a later one
        rintro (⟨⟨hx, hkey⟩ | rfl, hkeys⟩ | ⟨e', he', rfl⟩)
        · exact .inl ⟨hx, List.forall_mem_cons.mpr ⟨hkey, hkeys⟩⟩
        · exact .inr ⟨e, List.mem_cons_self .., rfl⟩
        · exact .inr ⟨e', List.mem_cons_of_mem _ he', rfl⟩
      · rintro (⟨hx, hkeys⟩ | ⟨e', he', rfl⟩)
        · obtain ⟨hkey, hkeys⟩ := List.forall_mem_cons.mp hkeys
          exact .inl ⟨.inl ⟨hx, hkey⟩, hkeys⟩
        · rcases List.mem_cons.mp he' with rfl | he'
          · -- a later entry with the same key writes the same row again
            by_cases hlater : ∃ e ∈ written, addressRow now name e' = addressRow now name e
            · exact .inr hlater
            · refine .inl ⟨.inr rfl, fun e he hkey => hlater ⟨e, he, ?_⟩⟩
              simp only [AddressRow.key, addressRow, Prod.mk.injEq] at hkey
              simp only [addressRow, hkey.2.2.1, hkey.2.2.2]
          · exact .inr ⟨e', he', rfl⟩

/-- **What a registration's transaction adds to the store**: its name, and a row for each of its
    addresses. -/
theorem view_eq_ok (h : payload.view now s written = .ok s') :
    s.names.has payload.name = false ∧
      (∀ x, x ∈ s'.names.rows ↔ x ∈ s.names.rows ∨
        x = ⟨payload.name, now, now, some (payload.attributes.getD ∅)⟩) ∧
      ∀ x, x ∈ s'.addresses.rows ↔ x ∈ s.addresses.rows ∨
        ∃ e ∈ written, x = addressRow now payload.name e := by
  rw [RegisterPayload.view] at h
  cases hinsert : s.insertNameRow now payload.name (payload.attributes.getD ∅) with
  | error e => rw [hinsert] at h; cases h
  | ok s₁ =>
    rw [hinsert] at h
    obtain ⟨-, -, habsent, rfl⟩ := insertNameRow_eq_ok.mp hinsert
    obtain ⟨hnames, hrows⟩ := mem_insertNameAddresses h
    refine ⟨habsent, fun x => ?_, fun x => ?_⟩
    · rw [hnames]
      exact Table.mem_append (h := habsent)
    · rw [hrows]
      refine or_congr_left ⟨And.left, fun hx => ⟨hx, fun e _ hkey => ?_⟩⟩
      -- rows of the store are of names that exist
      have hname : x.name = payload.name := by
        simp only [AddressRow.key, addressRow, Prod.mk.injEq] at hkey
        exact hkey.1
      have hhas := s.foreignKey x hx
      rw [hname, habsent] at hhas
      cases hhas

end Store

/-! ## Requests on their way: phases, and what can happen in each -/

/-- A request that passed the checks. -/
structure AdmittedRequest (svc : NamesService) where
  request : RegisterRequest
  payload : RegisterPayload
  checked : svc.registerChecks request = .ok payload

/-- Where an admitted request is. -/
inductive Phase where
  /-- About to insert. -/
  | waiting
  /-- In its transaction: the name is inserted, and these addresses. -/
  | inserting (now : Nat) (written : List ((_ : UInt32) × NameAddress))
  /-- About to look its name up. -/
  | committed (now : Nat)
  | answered (committedAt : Option Nat) (reply : Outcome RpcError NameReply)

/-- A request that has arrived. -/
inductive Registration (svc : NamesService) where
  | refused (request : RegisterRequest) (reply : Outcome RpcError NameReply)
  | admitted (req : AdmittedRequest svc) (phase : Phase)

/-- The committed store, and the requests in the order of their arrival. -/
structure Registry (svc : NamesService) where
  store : Store
  requests : List (Registration svc)

/-- The time of the transaction, once it is committed. -/
def Phase.committedAt : Phase → Option Nat
  | .committed now => some now
  | .answered committedAt _ => committedAt
  | _ => none

/-- Does the transaction hold the key of its name? -/
def Phase.isInserting : Phase → Bool
  | .inserting _ _ => true
  | _ => false

/-- The reply of a handler that has a statement fail. -/
def insertFailed : Outcome RpcError NameReply := .ok (.failure 500 "")

/-- The reply after the insert. -/
def registeredReply (pool : Pool) (s : Store) (name : String) : Outcome RpcError NameReply :=
  match pool.lookup s name with
  | .ok found => .ok (.nameAndAddresses found)
  | .error .rowNotFound => .err (.nameRegistrationError
    "Name was not found in the database after the registration")
  | .error (.database _) => .ok (.failure 500 "")

/-- What can happen to an admitted request. -/
inductive PhaseAction where
  /-- `BEGIN` and `INSERT INTO names`. -/
  | insertName (now : Nat)
  /-- The insert of the address of a coin type. -/
  | insertAddress (coinType : UInt32)
  /-- `COMMIT`; its answer may be lost. -/
  | commit (heard : Bool)
  /-- `get_name_and_addresses_by_name`, and the response. -/
  | respond (pool : Pool)
  /-- The database fails the request, which rolls it back. -/
  | fail

/-- One step of an admitted request.  `held`: another transaction holds the key of the name. -/
def Phase.step {svc : NamesService} (req : AdmittedRequest svc) (held : Bool) (s : Store) :
    Phase → PhaseAction → Option (Phase × Store)
  | .waiting, .insertName now =>
    if held then none
    else
      match req.payload.view now s [] with
      | .ok _ => some (.inserting now [], s)
      | .error _ => some (.answered none insertFailed, s)
  | .inserting now written, .insertAddress coinType => do
    let address ← (registerAddresses req.request).lookup coinType
    if ⟨coinType, address⟩ ∈ written then none
    else
      match req.payload.view now s (written ++ [⟨coinType, address⟩]) with
      | .ok _ => some (.inserting now (written ++ [⟨coinType, address⟩]), s)
      | .error _ => some (.answered none insertFailed, s)
  | .inserting now written, .commit heard =>
    if written.Perm (registerAddresses req.request).entries then
      match req.payload.view now s written with
      | .ok s' => some (if heard then .committed now else .answered (some now) insertFailed, s')
      | .error _ => some (.answered none insertFailed, s)
    else none
  | .committed now, .respond pool =>
    some (.answered (some now) (registeredReply pool s req.payload.name), s)
  | .waiting, .fail => some (.answered none insertFailed, s)
  | .inserting _ _, .fail => some (.answered none insertFailed, s)
  | _, _ => none

namespace NamesService

variable (svc : NamesService)

/-- The checks before the lookup, and what they have read. -/
def parsed (request : RegisterRequest) : Outcome Early (AdmittedRequest svc) :=
  match h : svc.registerChecks request with
  | .ok payload => .ok ⟨request, payload, h⟩
  | .err e => .err e
  | .panic => .panic

/-- The decision of `register::handler_internal` at the arrival of the request. -/
def admission (verify : Verify) (pool : Pool) (s : Store) (now : UInt64)
    (request : RegisterRequest) :
    Outcome Early (AdmittedRequest svc) := do
  let req ← svc.parsed request
  let _ ← svc.registerDecision verify pool s now request
  return req

/-- A request arrives. -/
def receive (verify : Verify) (pool : Pool) (s : Store) (now : UInt64) (request : RegisterRequest) :
    Registration svc :=
  match svc.admission verify pool s now request with
  | .ok req => .admitted req .waiting
  | .err (.error e) => .refused request (.err e)
  | .err (.reply r) => .refused request (.ok r)
  | .panic => .refused request .panic

end NamesService

inductive RegistryAction where
  | receive (verify : Verify) (pool : Pool) (now : UInt64) (request : RegisterRequest)
  | advance (i : Nat) (a : PhaseAction)
  /-- A call that changes the store and is no registration. -/
  | other (op : StoreOp)

namespace Registry

variable {svc : NamesService}

/-- Does another transaction hold the key of the name? -/
def held (r : Registry svc) (name : String) : Bool :=
  r.requests.any fun q =>
    match q with
    | .admitted req phase => phase.isInserting && req.payload.name = name
    | .refused _ _ => false

def step (r : Registry svc) : RegistryAction → Option (Registry svc)
  | .receive verify pool now request =>
    some { r with requests := r.requests ++ [svc.receive verify pool r.store now request] }
  | .advance i a =>
    match r.requests[i]? with
    | some (.admitted req phase) =>
      (phase.step req (r.held req.payload.name) r.store a).map fun next =>
        ⟨next.2, r.requests.set i (.admitted req next.1)⟩
    | _ => none
  | .other (.register ..) => none
  | .other op => (r.store.apply op).map fun store => { r with store }

end Registry

/-- The registrations as a machine. -/
def registrations (svc : NamesService) : Transitions.Machine (Registry svc) RegistryAction :=
  ⟨Registry.step⟩

/-! ## What a step leaves of a name: calls about other names -/

/-- The name a call is about. -/
def StoreOp.name : StoreOp → String
  | .register _ name _ _ => name
  | .updateAddress _ name _ _ => name
  | .deleteAddress _ name _ _ => name
  | .updateAttributes _ name _ => name

/-- The calls of others are about other names. -/
def RegistryAction.Spares (name : String) : RegistryAction → Prop
  | .other op => op.name ≠ name
  | _ => True

namespace Store

variable {s s' s'' : Store} {name : String}

/-- The two stores hold the same rows of the name. -/
structure SameFor (name : String) (s s' : Store) : Prop where
  names : ∀ row, row.name = name → (row ∈ s'.names.rows ↔ row ∈ s.names.rows)
  addresses : ∀ a, a.name = name → (a ∈ s'.addresses.rows ↔ a ∈ s.addresses.rows)

theorem SameFor.refl (s : Store) : SameFor name s s := ⟨fun _ _ => Iff.rfl, fun _ _ => Iff.rfl⟩

theorem SameFor.trans (h : SameFor name s s') (h' : SameFor name s' s'') : SameFor name s s'' where
  names row hrow := (h'.names row hrow).trans (h.names row hrow)
  addresses a ha := (h'.addresses a ha).trans (h.addresses a ha)

theorem SameFor.has_eq (h : SameFor name s s') : s'.names.has name = s.names.has name := by
  rw [Bool.eq_iff_iff, Table.has_iff, Table.has_iff]
  constructor
  · rintro ⟨row, hrow, hname⟩
    exact ⟨row, (h.names row hname).mp hrow, hname⟩
  · rintro ⟨row, hrow, hname⟩
    exact ⟨row, (h.names row hname).mpr hrow, hname⟩

theorem sameFor_putAddress {row : AddressRow} {h : s.names.has row.name = true}
    (hne : row.name ≠ name) : SameFor name s (s.putAddress row h) where
  names _ _ := Iff.rfl
  addresses a ha := by
    rw [mem_putAddress]
    constructor
    · rintro (⟨hmem, -⟩ | rfl)
      · exact hmem
      · exact absurd ha hne
    · intro hmem
      refine .inl ⟨hmem, fun hkey => hne ?_⟩
      simp only [AddressRow.key, Prod.mk.injEq] at hkey
      rw [← hkey.1, ha]

/-- **A call about another name leaves the name alone.** -/
theorem sameFor_step {op : StoreOp} (h : namesStore.step s op = some s') (hne : op.name ≠ name) :
    SameFor name s s' := by
  cases step_cases h with
  | register hinsert =>
    -- the new name is another one, and so are its addresses
    refine insertName_induction hinsert ?_ fun s₁ c address hhas hs => ?_
    · intro s₁ hs₁
      obtain ⟨-, -, hnew, rfl⟩ := insertNameRow_eq_ok.mp hs₁
      refine ⟨fun row hrow => ?_, fun _ _ => Iff.rfl⟩
      refine (Table.mem_append (h := hnew)).trans (or_iff_left fun hrow' => hne ?_)
      rw [← hrow, hrow']
      rfl
    · exact hs.trans (sameFor_putAddress hne)
  | updateAddress hfits hname => exact sameFor_putAddress hne
  | deleteAddress hcheck =>
    refine ⟨fun _ _ => Iff.rfl, fun a ha => ?_⟩
    refine Table.mem_delete.trans (and_iff_left ?_)
    have hkey : a.key.1 ≠ _ := fun hname => hne (hname.symm.trans ha)
    exact decide_eq_false fun heq => hkey (congrArg Prod.fst heq)
  | @updateAttributes now other attributes hname =>
    -- the rows of another name are not updated
    refine ⟨fun row hrow => ?_, fun _ _ => Iff.rfl⟩
    have hkept : ¬ (decide (row.name = other) = true) := by
      intro heq
      exact hne ((of_decide_eq_true heq).symm.trans hrow)
    rw [putAttributes, Table.mem_update]
    constructor
    · rintro ⟨n, hn, rfl⟩
      split at hkept
      · next heq => exact absurd heq hkept
      · next hdiffers => rwa [if_neg hdiffers]
    · intro hmem
      exact ⟨row, hmem, if_neg hkept⟩

/-- A transaction leaves the other names alone. -/
theorem sameFor_view {payload : RegisterPayload} {now : Nat}
    {written : List ((_ : UInt32) × NameAddress)} (h : payload.view now s written = .ok s')
    (hne : payload.name ≠ name) : SameFor name s s' := by
  obtain ⟨-, hnames, haddresses⟩ := view_eq_ok h
  refine ⟨fun row hrow => (hnames row).trans (or_iff_left ?_),
    fun a ha => (haddresses a).trans (or_iff_left ?_)⟩
  · rintro rfl
    exact hne hrow
  · rintro ⟨e, -, rfl⟩
    exact hne ha

end Store

/-! ## One winner

The commit is the only step that counts. Before it a request has changed nothing that others see,
and after it only its answer is open. -/

namespace Registration

variable {svc : NamesService}

def request : Registration svc → RegisterRequest
  | .refused request _ => request
  | .admitted req _ => req.request

/-- Is it a request for the name? -/
def IsFor (q : Registration svc) (name : String) : Prop :=
  ∃ payload, svc.registerChecks q.request = .ok payload ∧ payload.name = name

def reply? : Registration svc → Option (Outcome RpcError NameReply)
  | .refused _ reply => some reply
  | .admitted _ (.answered _ reply) => some reply
  | .admitted _ _ => none

/-- Has it returned success? -/
def Succeeds (q : Registration svc) : Prop :=
  ∃ found, q.reply? = some (.ok (.nameAndAddresses found))

/-- The request whose transaction is committed, and the time of the transaction. -/
def committed? : Registration svc → Option (AdmittedRequest svc × Nat)
  | .refused _ _ => none
  | .admitted req phase => phase.committedAt.map fun now => (req, now)

theorem isFor_of_committed {q : Registration svc} {req : AdmittedRequest svc} {now : Nat}
    {name : String} (h : q.committed? = some (req, now)) :
    q.IsFor name ↔ req.payload.name = name := by
  cases q with
  | refused request reply => cases h
  | admitted req' phase =>
    obtain ⟨t, -, heq⟩ := Option.map_eq_some_iff.mp h
    cases heq
    constructor
    · rintro ⟨payload, hpayload, hname⟩
      have hchecked := req.checked
      rw [show svc.registerChecks req.request = .ok payload from hpayload] at hchecked
      cases hchecked
      exact hname
    · intro hname
      exact ⟨req.payload, req.checked, hname⟩

end Registration

section PhaseSteps

variable {svc : NamesService} {req : AdmittedRequest svc} {held : Bool}
variable {s s' : Store} {phase phase' : Phase} {a : PhaseAction}

theorem not_succeeds_insertFailed (committedAt : Option Nat) :
    ¬ (Registration.admitted req (.answered committedAt insertFailed)).Succeeds := by
  rintro ⟨found, hfound⟩
  cases hfound

theorem not_succeeds_inserting (now : Nat) (written : List ((_ : UInt32) × NameAddress)) :
    ¬ (Registration.admitted req (.inserting now written)).Succeeds := by
  rintro ⟨found, hfound⟩
  cases hfound

/-- Before its transaction, a request changes nothing and is not answered with success. -/
theorem Phase.step_waiting (h : Phase.step req held s .waiting a = some (phase', s')) :
    s' = s ∧ phase'.committedAt = none ∧ ¬ (Registration.admitted req phase').Succeeds := by
  cases a with
  | insertName now =>
    simp only [Phase.step] at h
    split at h
    · cases h
    · split at h
      · cases h
        exact ⟨rfl, rfl, not_succeeds_inserting _ _⟩
      · cases h
        exact ⟨rfl, rfl, not_succeeds_insertFailed _⟩
  | fail =>
    cases h
    exact ⟨rfl, rfl, not_succeeds_insertFailed _⟩
  | insertAddress coinType => cases h
  | commit heard => cases h
  | respond pool => cases h

/-- Inside its transaction, it does the same until the commit. -/
theorem Phase.step_inserting {now : Nat} {written : List ((_ : UInt32) × NameAddress)}
    (h : Phase.step req held s (.inserting now written) a = some (phase', s')) :
    (s' = s ∧ phase'.committedAt = none ∧ ¬ (Registration.admitted req phase').Succeeds) ∨
    written.Perm (registerAddresses req.request).entries ∧
      req.payload.view now s written = .ok s' ∧ phase'.committedAt = some now := by
  cases a with
  | insertAddress coinType =>
    simp only [Phase.step] at h
    obtain ⟨address, -, h⟩ := Option.bind_eq_some_iff.mp h
    split at h
    · cases h
    · split at h
      · cases h
        exact .inl ⟨rfl, rfl, not_succeeds_inserting _ _⟩
      · cases h
        exact .inl ⟨rfl, rfl, not_succeeds_insertFailed _⟩
  | commit heard =>
    simp only [Phase.step] at h
    split at h
    · next hperm =>
      split at h
      · next hview =>
        cases h
        refine .inr ⟨hperm, hview, ?_⟩
        cases heard <;> rfl
      · cases h
        exact .inl ⟨rfl, rfl, not_succeeds_insertFailed _⟩
    · cases h
  | fail =>
    cases h
    exact .inl ⟨rfl, rfl, not_succeeds_insertFailed _⟩
  | insertName now => cases h
  | respond pool => cases h

/-- **A step of an admitted request** leaves the store and is no answer of success, unless the
    request is committed already; or it is the commit. -/
theorem Phase.step_cases (h : phase.step req held s a = some (phase', s')) :
    (s' = s ∧ phase'.committedAt = phase.committedAt ∧
      ((Registration.admitted req phase').Succeeds → phase.committedAt.isSome = true)) ∨
    ∃ now written, written.Perm (registerAddresses req.request).entries ∧
      req.payload.view now s written = .ok s' ∧ phase'.committedAt = some now := by
  cases phase with
  | waiting =>
    obtain ⟨hs, hcommitted, hsilent⟩ := Phase.step_waiting h
    exact .inl ⟨hs, hcommitted, fun hsucceeds => absurd hsucceeds hsilent⟩
  | inserting now written =>
    rcases Phase.step_inserting h with ⟨hs, hcommitted, hsilent⟩ | hcommit
    · exact .inl ⟨hs, hcommitted, fun hsucceeds => absurd hsucceeds hsilent⟩
    · exact .inr ⟨now, written, hcommit⟩
  | committed now =>
    cases a with
    | respond pool =>
      cases h
      exact .inl ⟨rfl, rfl, fun _ => rfl⟩
    | insertName now => cases h
    | insertAddress coinType => cases h
    | commit heard => cases h
    | fail => cases h
  | answered committedAt reply => cases h

end PhaseSteps

namespace NamesService

variable {svc : NamesService} {verify : Verify} {pool : Pool} {s : Store} {now : UInt64}
variable {request : RegisterRequest}

/-- A refusal is an error. -/
theorem registerDecision_ne_reply {r : NameReply} :
    svc.registerDecision verify pool s now request ≠ .err (.reply r) := by
  intro h
  simp only [registerDecision, registerChecks, registerAuthorize, checkSignature,
    Outcome.bind_eq_err, Outcome.ensure_eq_err, Outcome.okOr_eq_err, Outcome.ofExcept_eq_err,
    Outcome.pure_eq, reduceCtorEq, and_false, exists_false, or_false, false_or] at h
  obtain ⟨payload, -, -, u, -, -, u', -, project, -, hverify⟩ := h
  cases hresult : verify request.message request.signature request.address
      (chainIdCaip2 request.coinType) with
  | ok valid => simp [hresult] at hverify
  | err e => simp [hresult] at hverify
  | panic => simp [hresult] at hverify

/-- **A request that arrives** is not committed, and has not succeeded. -/
theorem receive_fresh :
    (svc.receive verify pool s now request).committed? = none ∧
      ¬ (svc.receive verify pool s now request).Succeeds := by
  rw [receive]
  split
  · refine ⟨rfl, ?_⟩
    rintro ⟨found, hfound⟩
    cases hfound
  · refine ⟨rfl, ?_⟩
    rintro ⟨found, hfound⟩
    cases hfound
  · next r hadmit =>
    -- the checks answer with errors only
    exfalso
    rw [admission, Outcome.bind_eq_err] at hadmit
    rcases hadmit with hparsed | ⟨req, -, hdecision⟩
    · rw [parsed] at hparsed
      split at hparsed
      · cases hparsed
      · next e herr =>
        cases hparsed
        have hdecision : svc.registerDecision verify pool s now request = .err (.reply r) := by
          rw [registerDecision, herr]
          rfl
        exact registerDecision_ne_reply hdecision
      · cases hparsed
    · rw [Outcome.bind_eq_err] at hdecision
      rcases hdecision with hdecision | ⟨op, -, hreturn⟩
      · exact registerDecision_ne_reply hdecision
      · cases hreturn
  · refine ⟨rfl, ?_⟩
    rintro ⟨found, hfound⟩
    cases hfound

end NamesService

namespace Registry

variable {svc : NamesService} {r r' : Registry svc} {name : String} {a : RegistryAction}

/-- The request whose transaction is committed, at an index. -/
def committedAt (r : Registry svc) (i : Nat) : Option (AdmittedRequest svc × Nat) :=
  r.requests[i]?.bind Registration.committed?

/-- The request at the index is for the name, and has succeeded. -/
def SucceededFor (r : Registry svc) (name : String) (i : Nat) : Prop :=
  ∃ q, r.requests[i]? = some q ∧ q.IsFor name ∧ q.Succeeds

/-- **The winner** of a name: the only committed request for it, and all that is stored of it,
    attributes and addresses. -/
structure Winner (r : Registry svc) (name : String) (i : Nat) (req : AdmittedRequest svc)
    (now : Nat) : Prop where
  committed : r.committedAt i = some (req, now)
  isFor : req.payload.name = name
  only : ∀ j req' now', r.committedAt j = some (req', now') → req'.payload.name = name → j = i
  names : ∀ row, row ∈ r.store.names.rows ∧ row.name = name ↔
    row = ⟨name, now, now, some (req.payload.attributes.getD ∅)⟩
  addresses : ∀ a, a ∈ r.store.addresses.rows ∧ a.name = name ↔
    ∃ c, (c = req.request.coinType ∨ c = 60) ∧
      a = ⟨.eip155, chainIdOf c, req.request.address, name, now⟩

/-- Nobody has the name, and it is not stored; or it has a winner. -/
def Decided (r : Registry svc) (name : String) : Prop :=
  (r.store.names.has name = false ∧
      ∀ i req now, r.committedAt i = some (req, now) → req.payload.name ≠ name) ∨
    ∃ i req now, r.Winner name i req now

/-- Success is returned after a commit only. -/
def AnswersCommitted (r : Registry svc) : Prop :=
  ∀ q ∈ r.requests, q.Succeeds → ∃ req now, q.committed? = some (req, now)

/-- **A step commits no request for the name, and leaves its rows**; or it is the commit of
    one. -/
inductive Effect (name : String) (r r' : Registry svc) : Prop where
  | keeps (hcommitted : ∀ i req now, req.payload.name = name →
        (r'.committedAt i = some (req, now) ↔ r.committedAt i = some (req, now)))
      (hstore : r.store.SameFor name r'.store)
  | commits (i : Nat) (req : AdmittedRequest svc) (now : Nat)
      (written : List ((_ : UInt32) × NameAddress)) (hname : req.payload.name = name)
      (hcommitted : ∀ j, r'.committedAt j = if j = i then some (req, now) else r.committedAt j)
      (hperm : written.Perm (registerAddresses req.request).entries)
      (hview : req.payload.view now r.store written = .ok r'.store)

theorem committedAt_set {requests : List (Registration svc)} {s s' : Store} {i : Nat}
    {q q' : Registration svc} (hq : requests[i]? = some q) (j : Nat) :
    (⟨s', requests.set i q'⟩ : Registry svc).committedAt j =
      if j = i then q'.committed? else (⟨s, requests⟩ : Registry svc).committedAt j := by
  have hlt : i < requests.length := (List.getElem?_eq_some_iff.mp hq).1
  rw [committedAt, committedAt, List.getElem?_set]
  by_cases hj : j = i
  · rw [if_pos hj.symm, if_pos hlt, if_pos hj]
    rfl
  · rw [if_neg (Ne.symm hj), if_neg hj]

theorem committedAt_concat {requests : List (Registration svc)} {s s' : Store}
    {q : Registration svc} (hq : q.committed? = none) (i : Nat) :
    (⟨s', requests ++ [q]⟩ : Registry svc).committedAt i =
      (⟨s, requests⟩ : Registry svc).committedAt i := by
  rw [committedAt, committedAt]
  by_cases hlt : i < requests.length
  · rw [List.getElem?_append_left hlt]
  · rw [List.getElem?_append_right (Nat.le_of_not_lt hlt), List.getElem?_eq_none (l := requests)
      (Nat.le_of_not_lt hlt)]
    cases hindex : i - requests.length with
    | zero => exact hq
    | succ n => rfl

/-- **Inversion of a step.** -/
theorem step_cases (h : r.step a = some r') :
    (∃ q, q.committed? = none ∧ ¬ q.Succeeds ∧ r' = ⟨r.store, r.requests ++ [q]⟩) ∨
    (∃ i req phase b phase' store, r.requests[i]? = some (.admitted req phase) ∧
      phase.step req (r.held req.payload.name) r.store b = some (phase', store) ∧
      r' = ⟨store, r.requests.set i (.admitted req phase')⟩) ∨
    ∃ op store, a = .other op ∧ namesStore.step r.store op = some store ∧
      r' = ⟨store, r.requests⟩ := by
  cases a with
  | receive verify pool now request =>
    cases h
    have hfresh : (svc.receive verify pool r.store now request).committed? = none ∧
        ¬ (svc.receive verify pool r.store now request).Succeeds := NamesService.receive_fresh
    exact .inl ⟨_, hfresh.1, hfresh.2, rfl⟩
  | advance i b =>
    simp only [step] at h
    split at h
    · next req phase hq =>
      obtain ⟨⟨phase', store⟩, hphase, rfl⟩ := Option.map_eq_some_iff.mp h
      exact .inr (.inl ⟨i, req, phase, b, phase', store, hq, hphase, rfl⟩)
    · cases h
  | other op =>
    refine .inr (.inr ⟨op, ?_⟩)
    cases op with
    | register now name attributes addresses => cases h
    | updateAddress now name coinType address =>
      obtain ⟨store, hstore, rfl⟩ := Option.map_eq_some_iff.mp h
      exact ⟨store, rfl, hstore, rfl⟩
    | deleteAddress order name coinType address =>
      obtain ⟨store, hstore, rfl⟩ := Option.map_eq_some_iff.mp h
      exact ⟨store, rfl, hstore, rfl⟩
    | updateAttributes now name attributes =>
      obtain ⟨store, hstore, rfl⟩ := Option.map_eq_some_iff.mp h
      exact ⟨store, rfl, hstore, rfl⟩

/-- **The effect of a step on a name** that the others spare. -/
theorem step_effect (h : r.step a = some r') (hspares : a.Spares name) : r.Effect name r' := by
  rcases step_cases h with ⟨q, hq, -, rfl⟩ |
      ⟨i, req, phase, b, phase', store, hq, hphase, rfl⟩ | ⟨op, store, rfl, hstore, rfl⟩
  · -- a request that has just come in has committed nothing
    exact .keeps (fun i req now _ => by rw [committedAt_concat (s := r.store) hq]) (.refl _)
  · -- a request goes on: what is committed by the others stays
    have hset : ∀ j,
        (⟨store, r.requests.set i (.admitted req phase')⟩ : Registry svc).committedAt j =
          if j = i then (Registration.admitted req phase').committed? else r.committedAt j :=
      committedAt_set hq
    have hbefore : r.committedAt i = phase.committedAt.map fun now => (req, now) := by
      rw [committedAt, hq]
      rfl
    rcases Phase.step_cases hphase with ⟨rfl, hcommitted, -⟩ | ⟨now, written, hperm, hview, hnow⟩
    · -- the request is where it was, as far as its transaction goes
      refine .keeps (fun j req' now _ => ?_) (.refl _)
      rw [hset]
      by_cases hj : j = i
      · rw [if_pos hj, hj, hbefore]
        simp only [Registration.committed?, hcommitted]
      · rw [if_neg hj]
    · -- its transaction commits
      have hafter : (Registration.admitted req phase').committed? = some (req, now) := by
        simp only [Registration.committed?, hnow, Option.map_some]
      simp only [hafter] at hset
      by_cases hname : req.payload.name = name
      · exact .commits i req now written hname hset hperm hview
      · -- the commit of a request for another name
        refine .keeps (fun j req' now' hreq' => ?_) (Store.sameFor_view hview hname)
        rw [hset]
        by_cases hj : j = i
        · rw [if_pos hj, hj, hbefore]
          constructor
          · intro heq
            cases heq
            exact absurd hreq' hname
          · intro heq
            obtain ⟨t, -, heq⟩ := Option.map_eq_some_iff.mp heq
            cases heq
            exact absurd hreq' hname
        · rw [if_neg hj]
  · -- another operation leaves the requests, and the name
    exact .keeps (fun _ _ _ _ => Iff.rfl) (Store.sameFor_step hstore hspares)

theorem answersCommitted_step (hr : r.AnswersCommitted) (h : r.step a = some r') :
    r'.AnswersCommitted := by
  intro p hp hsucceeds
  rcases step_cases h with ⟨q, -, hfresh, rfl⟩ |
      ⟨i, req, phase, b, phase', store, hq, hphase, rfl⟩ | ⟨op, store, -, -, rfl⟩
  · rcases List.mem_append.mp hp with hp | hp
    · exact hr p hp hsucceeds
    · rw [List.mem_singleton.mp hp] at hsucceeds
      exact absurd hsucceeds hfresh
  · rcases List.mem_or_eq_of_mem_set hp with hp | rfl
    · exact hr p hp hsucceeds
    · have hcommitted : ∃ now, phase'.committedAt = some now := by
        rcases Phase.step_cases hphase with ⟨-, hsame, hanswer⟩ | ⟨now, written, -, -, hnow⟩
        · rw [hsame]
          exact Option.isSome_iff_exists.mp (hanswer hsucceeds)
        · exact ⟨now, hnow⟩
      obtain ⟨now, hnow⟩ := hcommitted
      exact ⟨req, now, by simp only [Registration.committed?, hnow, Option.map_some]⟩
  · exact hr p hp hsucceeds

/-- **The commit of a request** makes it the winner. -/
theorem winner_of_commit {i : Nat} {req : AdmittedRequest svc} {now : Nat}
    {written : List ((_ : UInt32) × NameAddress)} (hname : req.payload.name = name)
    (hcommitted : ∀ j, r'.committedAt j = if j = i then some (req, now) else r.committedAt j)
    (hperm : written.Perm (registerAddresses req.request).entries)
    (hview : req.payload.view now r.store written = .ok r'.store)
    (hnone : ∀ i req now, r.committedAt i = some (req, now) → req.payload.name ≠ name) :
    r'.Winner name i req now := by
  obtain ⟨habsent, hnames, haddresses⟩ := Store.view_eq_ok hview
  rw [hname] at habsent hnames haddresses
  refine ⟨by rw [hcommitted, if_pos rfl], hname, ?_, ?_, ?_⟩
  · -- nobody else has committed the name
    intro j req' now' hj hreq'
    by_contra hne
    rw [hcommitted, if_neg hne] at hj
    exact hnone j req' now' hj hreq'
  · -- its row is the one that was inserted, since there was none
    intro row
    rw [hnames]
    constructor
    · rintro ⟨hrow | rfl, hrowName⟩
      · exact absurd hrowName (Table.has_eq_false_iff.mp habsent row hrow)
      · rfl
    · rintro rfl
      exact ⟨.inr rfl, rfl⟩
  · -- and so are its addresses: an old one would be of a name that is there
    intro a
    rw [haddresses]
    constructor
    · rintro ⟨ha | ⟨e, he, rfl⟩, haName⟩
      · have hhas := r.store.foreignKey a ha
        rw [haName, habsent] at hhas
        cases hhas
      · obtain ⟨hcoin, haddress⟩ := mem_registerAddresses.mp (hperm.mem_iff.mp he)
        exact ⟨e.1, hcoin, by rw [addressRow, haddress]⟩
    · rintro ⟨c, hc, rfl⟩
      refine ⟨.inr ⟨⟨c, ⟨req.request.address, none⟩⟩, ?_, rfl⟩, rfl⟩
      exact hperm.mem_iff.mpr (mem_registerAddresses.mpr ⟨hc, rfl⟩)

/-- A winner stays while nothing about its name changes. -/
theorem winner_of_keeps {i : Nat} {req : AdmittedRequest svc} {now : Nat}
    (hwinner : r.Winner name i req now)
    (hcommitted : ∀ i req now, req.payload.name = name →
      (r'.committedAt i = some (req, now) ↔ r.committedAt i = some (req, now)))
    (hstore : r.store.SameFor name r'.store) : r'.Winner name i req now where
  committed := (hcommitted i req now hwinner.isFor).mpr hwinner.committed
  isFor := hwinner.isFor
  only j req' now' hj hreq' := hwinner.only j req' now' ((hcommitted j req' now' hreq').mp hj) hreq'
  names row := by
    rw [← hwinner.names row]
    exact and_congr_left fun hrow => hstore.names row hrow
  addresses a := by
    rw [← hwinner.addresses a]
    exact and_congr_left fun ha => hstore.addresses a ha

/-- **A step keeps a name decided**: a winner stays, as a second insert of the name fails; and a
    commit where there is no winner makes one. -/
theorem decided_step (hr : r.Decided name) (h : r.step a = some r') (hspares : a.Spares name) :
    r'.Decided name := by
  cases step_effect h hspares with
  | keeps hcommitted hstore =>
    rcases hr with ⟨habsent, hnone⟩ | ⟨i, req, now, hwinner⟩
    · refine .inl ⟨hstore.has_eq.trans habsent, fun i req now hi hname => ?_⟩
      exact hnone i req now ((hcommitted i req now hname).mp hi) hname
    · exact .inr ⟨i, req, now, winner_of_keeps hwinner hcommitted hstore⟩
  | commits i req now written hname hcommitted hperm hview =>
    rcases hr with ⟨-, hnone⟩ | ⟨j, req', now', hwinner⟩
    · exact .inr ⟨i, req, now, winner_of_commit hname hcommitted hperm hview hnone⟩
    · -- the name exists, so its key refuses the transaction
      have habsent := (Store.view_eq_ok hview).1
      rw [hname] at habsent
      have hrow := ((hwinner.names _).mpr rfl).1
      exact absurd rfl (Table.has_eq_false_iff.mp habsent _ hrow)

/-- Who has succeeded for the name is its winner. -/
theorem Winner.index_of_succeeded {i j : Nat} {req : AdmittedRequest svc} {now : Nat}
    (hwinner : r.Winner name i req now) (hr : r.AnswersCommitted) (h : r.SucceededFor name j) :
    j = i := by
  obtain ⟨q, hq, hfor, hsucceeds⟩ := h
  obtain ⟨req', now', hcommitted⟩ := hr q (List.mem_of_getElem? hq) hsucceeds
  have hj : r.committedAt j = some (req', now') := by
    rw [committedAt, hq]
    exact hcommitted
  exact hwinner.only j req' now' hj ((Registration.isFor_of_committed hcommitted).mp hfor)

/-- Without a committed request nobody has succeeded. -/
theorem not_succeeded (hnone : ∀ i req now, r.committedAt i = some (req, now) →
      req.payload.name ≠ name) (hr : r.AnswersCommitted) (i : Nat) : ¬ r.SucceededFor name i := by
  rintro ⟨q, hq, hfor, hsucceeds⟩
  obtain ⟨req, now, hcommitted⟩ := hr q (List.mem_of_getElem? hq) hsucceeds
  have hi : r.committedAt i = some (req, now) := by
    rw [committedAt, hq]
    exact hcommitted
  exact hnone i req now hi ((Registration.isFor_of_committed hcommitted).mp hfor)

/-- Without requests nobody has a claim to a name that is not stored. -/
theorem decided_of_empty (hrequests : r.requests = [])
    (habsent : r.store.names.has name = false) : r.Decided name := by
  refine .inl ⟨habsent, fun i req now hi => ?_⟩
  rw [committedAt, hrequests] at hi
  cases hi

theorem answersCommitted_of_empty (hrequests : r.requests = []) : r.AnswersCommitted := by
  intro q hq
  rw [hrequests] at hq
  cases hq

/-- By the foreign key, a name that is not stored has no addresses. -/
theorem addressRows_eq_nil (habsent : r.store.names.has name = false) :
    r.store.addressRows name = [] := by
  rw [List.eq_nil_iff_forall_not_mem]
  intro a ha
  obtain ⟨hmem, hname⟩ := Store.mem_addressRows.mp ha
  have hhas := r.store.foreignKey a hmem
  rw [hname, habsent] at hhas
  cases hhas

end Registry

/-- **A name has one winner.**  However the requests interleave, if the other calls spare a name
    that is not stored at the start, at most one request for it succeeds; once the name exists,
    one request is its winner, and what is stored of the name is all of that request and nothing
    of another; until then nothing is. -/
theorem single_winner (svc : NamesService) {start r : Registry svc} {actions : List RegistryAction}
    {name : String} (hstart : start.requests = []) (habsent : start.store.names.has name = false)
    (hspares : ∀ a ∈ actions, a.Spares name)
    (hrun : (registrations svc).run start actions = some r) :
    (∀ i j, r.SucceededFor name i → r.SucceededFor name j → i = j) ∧
      (r.store.names.has name = true →
        ∃ i req now, r.Winner name i req now ∧ ∀ j, r.SucceededFor name j → j = i) ∧
      (r.store.names.has name = false →
        r.store.addressRows name = [] ∧ ∀ i, ¬ r.SucceededFor name i) := by
  -- two invariants of the run: the name is decided at most once, and who succeeds has committed
  have hinvariant : r.Decided name ∧ r.AnswersCommitted :=
    Transitions.Machine.run_induction (P := fun r => r.Decided name ∧ r.AnswersCommitted)
      (fun hr hspares h => ⟨Registry.decided_step hr.1 h hspares,
        Registry.answersCommitted_step hr.2 h⟩)
      (Transitions.Machine.within_of_forall hspares) hrun
      ⟨Registry.decided_of_empty hstart habsent, Registry.answersCommitted_of_empty hstart⟩
  obtain ⟨⟨hnot, hnone⟩ | ⟨i, req, now, hwinner⟩, hanswers⟩ := hinvariant
  · -- nobody has committed the name
    refine ⟨?_, ?_, ?_⟩
    · intro i j hi
      exact absurd hi (Registry.not_succeeded hnone hanswers i)
    · intro hhas
      rw [hnot] at hhas
      cases hhas
    · intro _
      exact ⟨Registry.addressRows_eq_nil hnot, Registry.not_succeeded hnone hanswers⟩
  · -- somebody has
    have hhas : r.store.names.has name = true :=
      Table.has_iff.mpr ⟨_, (hwinner.names _).mpr rfl⟩
    refine ⟨?_, ?_, ?_⟩
    · intro j k hj hk
      rw [hwinner.index_of_succeeded hanswers hj, hwinner.index_of_succeeded hanswers hk]
    · intro _
      exact ⟨i, req, now, hwinner, fun j hj => hwinner.index_of_succeeded hanswers hj⟩
    · intro hnot
      rw [hhas] at hnot
      cases hnot

/-- Two accounts register one name; the message is the same text. -/
private def contested : String :=
  "\x7b\"name\":\"alice.wct.id\",\"timestamp\":1000\x7d"

private def contestedService : NamesService := .reading [(contested, .object
  [("name", .string "alice.wct.id"), ("timestamp", .int 1000)])]

private def contender (coinType : UInt32) (address : String) : RegistryAction :=
  .receive (fun _ _ _ _ => .ok true) (.reliable 0) 1000 ⟨contested, "0x01", coinType, address⟩

/-- Both pass the lookup; the second inserts after the first has committed. -/
private def race : List RegistryAction :=
  [contender 0x80000089 "0x1111111111111111111111111111111111111111",
    contender 60 "0x2222222222222222222222222222222222222222",
    .advance 0 (.insertName 5), .advance 0 (.insertAddress 60),
    .advance 0 (.insertAddress 0x80000089), .advance 0 (.commit true),
    .advance 1 (.insertName 6), .advance 0 (.respond (.reliable 7))]

/-- The race has a winner, and the name exists. -/
theorem race_has_single_winner :
    ∃ r, (registrations contestedService).run ⟨Store.empty, []⟩ race = some r ∧
      r.store.names.has "alice.wct.id" = true ∧
      (∀ i j, r.SucceededFor "alice.wct.id" i → r.SucceededFor "alice.wct.id" j → i = j) ∧
      (r.store.names.has "alice.wct.id" = true →
        ∃ i req now, r.Winner "alice.wct.id" i req now ∧
          ∀ j, r.SucceededFor "alice.wct.id" j → j = i) ∧
      (r.store.names.has "alice.wct.id" = false →
        r.store.addressRows "alice.wct.id" = [] ∧ ∀ i, ¬ r.SucceededFor "alice.wct.id" i) := by
  have hrun : ∃ r, (registrations contestedService).run ⟨Store.empty, []⟩ race = some r ∧
      r.store.names.has "alice.wct.id" = true := ⟨_, rfl, rfl⟩
  obtain ⟨r, hr, hhas⟩ := hrun
  have hspares : ∀ a ∈ race, a.Spares "alice.wct.id" := by
    simp [race, contender, RegistryAction.Spares]
  exact ⟨r, hr, hhas, single_winner contestedService rfl rfl hspares hr⟩

end BlockchainApi
