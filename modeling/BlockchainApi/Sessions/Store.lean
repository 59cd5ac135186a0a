/-
  The session store and the requests that share it (`src/handlers/sessions/create.rs`, `context.rs`,
  `revoke.rs`, `cosign.rs`).

  Permission items live in a hash, under the account's address and the permission control
  identifier.  Every handler is a short process of atomic gets and sets: create sets a new item
  under an identifier it draws; activate and revoke get an item, change one field of it and set the
  whole item back; co-sign gets an item and looks at its revocation time.  Nothing locks an item
  between a get and a set.

  * `granted_terms_immutable`: whatever the interleaving, the granted part of an item never changes.
    The contract behind it (`sessionContract`) is that everything written back was read from a
    version of the item that create had stored; an identifier is drawn once, so there is one such
    request for each key.

  * `revoked_for_good`: revocations are final in exactly the runs in which no revoke request sets an
    item between the get of an activate request that found it unrevoked and that request's set.  The
    invariant behind it (`RevocationInvariant`) relates the state to the trace of the gets and sets
    before it.  From left to right, such a set leaves the item unrevoked after the revoke request
    has returned (`exists_unrevoked_of_overtaken`); from right to left, the invariant is kept step
    by step.  `resurrectingRun` is a run with a revocation in between.

  Serializing an item and reading it back is the identity here.  What a handler checks before it
  touches the store, and a store that does not answer, are covered by the failing step.
-/
import BlockchainApi.Lib.SharedStore
import BlockchainApi.Sessions.Cosign

namespace BlockchainApi

open ByteCodec SharedStore

/-- Address and permission control identifier. -/
abbrev ItemKey := String × String

/-- What create draws at random or reads off the clock. -/
structure DrawnPermission where
  pci : String
  createdAt : Nat
  verificationKey : String
  signingKey : String

/-- A request to one of the session handlers. -/
inductive SessionRequest where
  | create (address projectId : String) (apiVersion : Option Nat) (payload : NewPermissionPayload)
      (drawn : DrawnPermission)
  | activate (address : String) (payload : ActivatePermissionPayload)
  | revoke (address : String) (payload : PermissionRevokeRequest) (now : Nat)
  | coSign (address pci : String)

/-- What a handler answers, or, for co-sign, what it goes on with. -/
inductive SessionReply where
  | created (pci publicKey : String)
  | activated
  | revoked
  | unrevoked (item : StoragePermissionsItem)

/-- What is left of a request. -/
abbrev SessionProcess := Process ItemKey StoragePermissionsItem RpcError SessionReply

/-! ## The handlers, each a process of gets and sets -/

/-- The item create stores. -/
def createdItem (projectId : String) (payload : NewPermissionPayload) (drawn : DrawnPermission) :
    StoragePermissionsItem where
  pci := drawn.pci
  expiry := payload.expiry
  createdAt := drawn.createdAt
  projectId := projectId
  signer := payload.signer
  permissions := payload.permissions
  policies := payload.policies
  context := none
  verificationKey := drawn.verificationKey
  signingKey := drawn.signingKey
  revokedAt := none

/-- The public key in the answer: plain hex since version 2, hex of the hex before. -/
def publicKeyFor (apiVersion : Option Nat) (verificationKey : String) : String :=
  match apiVersion with
  | some 2 => "0x" ++ verificationKey
  | _ => "0x" ++ hexEncode verificationKey.toUTF8.data.toList

/-- `create::handler_internal`. -/
def createHandler (address projectId : String) (apiVersion : Option Nat)
    (payload : NewPermissionPayload) (drawn : DrawnPermission) : SessionProcess :=
  .set (address, drawn.pci) (createdItem projectId payload drawn)
    (.ret (.created drawn.pci (publicKeyFor apiVersion drawn.verificationKey)))

/-- `context::handler_internal`. -/
def activateHandler (address : String) (payload : ActivatePermissionPayload) : SessionProcess :=
  .get (address, payload.pci) fun
    | none => .throw (.permissionNotFound address payload.pci)
    | some item =>
      .set (address, payload.pci) { item with context := some payload.context } (.ret .activated)

/-- `revoke::handler_internal`. -/
def revokeHandler (address : String) (payload : PermissionRevokeRequest) (now : Nat) :
    SessionProcess :=
  .get (address, payload.pci) fun
    | none => .throw (.permissionNotFound address payload.pci)
    | some item =>
      if item.revokedAt.isSome then .throw (.revokedPermission payload.pci)
      else .set (address, payload.pci) { item with revokedAt := some now } (.ret .revoked)

/-- `cosign::handler_internal`, up to the revocation check. -/
def coSignHandler (address pci : String) : SessionProcess :=
  .get (address, pci) fun
    | none => .throw (.permissionNotFound address pci)
    | some item =>
      if item.revokedAt.isSome then .throw (.revokedPermission pci) else .ret (.unrevoked item)

namespace SessionRequest

/-- The process that serves a request. -/
def program : SessionRequest → SessionProcess
  | create address projectId apiVersion payload drawn =>
    createHandler address projectId apiVersion payload drawn
  | activate address payload => activateHandler address payload
  | revoke address payload now => revokeHandler address payload now
  | coSign address pci => coSignHandler address pci

/-- The one key a request is about. -/
def key : SessionRequest → ItemKey
  | create address _ _ _ drawn => (address, drawn.pci)
  | activate address payload => (address, payload.pci)
  | revoke address payload _ => (address, payload.pci)
  | coSign address pci => (address, pci)

/-- The identifier a create request draws. -/
def drawnPci : SessionRequest → Option String
  | create _ _ _ _ drawn => some drawn.pci
  | _ => none

end SessionRequest

/-- The handlers over one store.  An identifier is drawn at most once. -/
def sessionSystem :
    System SessionRequest ItemKey StoragePermissionsItem RpcError SessionReply where
  program := SessionRequest.program
  admits history q :=
    match q.drawnPci with
    | some pci => !(history.filterMap SessionRequest.drawnPci).contains pci
    | none => true

/-- A state of the store. -/
abbrev SessionState := State SessionRequest ItemKey StoragePermissionsItem RpcError SessionReply

/-- A step of some request. -/
abbrev SessionAction := Action SessionRequest RpcError

/-- Nothing stored, no request received. -/
def emptyStore : SessionState where
  store _ := none
  requests := []

/-- **The co-sign handler passes the revocation check only on an item that is not revoked**: what
    it loads is what the process here goes on with. -/
theorem coSignHandler_of_loadRequest {deps : CosignDeps} {env : CosignEnv}
    {address projectId : String} {request : CoSignRequest} {loaded : LoadedRequest}
    (h : loadRequest deps env address projectId request = .ok loaded) :
    ∃ next, coSignHandler address request.pci = .get (address, request.pci) next ∧
      next (some loaded.item) = .ret (.unrevoked loaded.item) := by
  obtain ⟨-, hrevoked, -⟩ := loadRequest_eq_ok h
  refine ⟨_, rfl, ?_⟩
  simp only [hrevoked, Option.isSome_none, Bool.false_eq_true, if_false]

/-! ## Identifiers are drawn once, so a key belongs to one create request -/

/-- No two requests draw the same identifier. -/
def DrawnOnce (history : List SessionRequest) : Prop :=
  history.Pairwise fun q q' => ∀ pci, q.drawnPci = some pci → q'.drawnPci ≠ some pci

theorem drawnOnce_step {s s' : SessionState} {a : SessionAction} (hs : DrawnOnce s.history)
    (h : sessionSystem.step s a = some s') : DrawnOnce s'.history := by
  cases System.step_cases h with
  | @receive q hadmits =>
    show DrawnOnce ((s.requests ++ [(q, _)]).map Prod.fst)
    rw [List.map_append]
    refine List.pairwise_append.mpr ⟨hs, List.pairwise_singleton _ _, ?_⟩
    intro q' hq' q'' hq'' pci hpci hpci'
    obtain rfl := List.mem_singleton.mp hq''
    simp only [sessionSystem, hpci', Bool.not_eq_true', List.contains_eq_mem,
      decide_eq_false_iff_not] at hadmits
    exact hadmits (List.mem_filterMap.mpr ⟨q', hq', hpci⟩)
  | get hi => exact (State.history_resume hi).symm ▸ hs
  | @set i q k v next hi =>
    have hhist : ((s.put k v).resume i q next).history = s.history :=
      State.history_resume (s := s.put k v) hi
    exact hhist.symm ▸ hs
  | fail hi => exact (State.history_resume hi).symm ▸ hs

theorem drawnOnce_run {s : SessionState} {as : List SessionAction}
    (h : sessionSystem.run emptyStore as = some s) : DrawnOnce s.history :=
  System.run_induction (P := fun s => DrawnOnce s.history)
    (fun hs _ hstep => drawnOnce_step hs hstep) h (System.within_true _ as) List.Pairwise.nil

/-- The request that drew an identifier is the only one at its place. -/
theorem DrawnOnce.index_unique {history : List SessionRequest} (hd : DrawnOnce history) {i j : Nat}
    {q q' : SessionRequest} {pci : String} (hi : history[i]? = some q) (hj : history[j]? = some q')
    (hq : q.drawnPci = some pci) (hq' : q'.drawnPci = some pci) : i = j := by
  obtain ⟨hilt, rfl⟩ := List.getElem?_eq_some_iff.mp hi
  obtain ⟨hjlt, rfl⟩ := List.getElem?_eq_some_iff.mp hj
  rcases Nat.lt_trichotomy i j with hlt | heq | hgt
  · exact absurd hq' (List.pairwise_iff_getElem.mp hd i j hilt hjlt hlt pci hq)
  · exact heq
  · exact absurd hq (List.pairwise_iff_getElem.mp hd j i hjlt hilt hgt pci hq')

theorem DrawnOnce.unique {history : List SessionRequest} (hd : DrawnOnce history)
    {q q' : SessionRequest} {pci : String} (hmem : q ∈ history) (hmem' : q' ∈ history)
    (hq : q.drawnPci = some pci) (hq' : q'.drawnPci = some pci) : q = q' := by
  obtain ⟨i, hi⟩ := List.mem_iff_getElem?.mp hmem
  obtain ⟨j, hj⟩ := List.mem_iff_getElem?.mp hmem'
  obtain rfl := hd.index_unique hi hj hq hq'
  exact Option.some.inj (hi.symm.trans hj)

/-! ## What every request guarantees

The contract of the handlers, in the form that `SharedStore.contract_run` asks for. -/

/-- The granted part of an item: everything but its context and its revocation time. -/
def StoragePermissionsItem.terms (item : StoragePermissionsItem) : StoragePermissionsItem :=
  { item with context := none, revokedAt := none }

/-- The item is revoked. -/
def Revoked (item : StoragePermissionsItem) : Prop := item.revokedAt.isSome = true

namespace SessionRequest

/-- The item a create request grants. -/
def grantedItem : SessionRequest → Option StoragePermissionsItem
  | create _ projectId _ payload drawn => some (createdItem projectId payload drawn)
  | _ => none

/-- Only a create request grants, and its key holds the identifier it drew. -/
theorem drawnPci_of_grantedItem {q : SessionRequest} {item : StoragePermissionsItem}
    (h : q.grantedItem = some item) : q.drawnPci = some q.key.2 := by
  cases q with
  | create => rfl
  | activate => cases h
  | revoke => cases h
  | coSign => cases h

theorem key_of_drawnPci {q : SessionRequest} {pci : String} (h : q.drawnPci = some pci) :
    q.key.2 = pci := by
  cases q with
  | create => exact Option.some.inj h
  | activate => cases h
  | revoke => cases h
  | coSign => cases h

/-- The request revokes an item. -/
def Revokes : SessionRequest → Prop
  | revoke _ _ _ => True
  | _ => False

/-- The request stores an item. -/
def Writes : SessionRequest → Prop
  | coSign _ _ => False
  | _ => True

end SessionRequest

/-- Some create request received so far has granted the item, up to context and revocation. -/
def Granted (w : World SessionRequest ItemKey) (k : ItemKey) (item : StoragePermissionsItem) :
    Prop :=
  ∃ q ∈ w.history, q.key = k ∧ ∃ granted, q.grantedItem = some granted ∧ item.terms = granted.terms

/-- What a request guarantees of what it stores. -/
structure Guarantees (w : World SessionRequest ItemKey) (q : SessionRequest) (k : ItemKey)
    (item : StoragePermissionsItem) : Prop where
  key : k = q.key
  granted : Granted w k item
  /-- Only create stores under a key nothing is stored under. -/
  stored : q.drawnPci = none → w.stored k
  fresh : q.drawnPci.isSome → ¬ Revoked item
  revoked : q.Revokes → Revoked item
  writes : q.Writes

theorem Granted.mono {w w' : World SessionRequest ItemKey} {k : ItemKey}
    {item : StoragePermissionsItem} (hw : w.Le w') (h : Granted w k item) : Granted w' k item := by
  obtain ⟨q, hq, hkey, hgranted⟩ := h
  exact ⟨q, hw.1.mem hq, hkey, hgranted⟩

/-- The contract of the session handlers: what is stored was granted, and nobody stores but what
    it may. -/
def sessionContract : Contract SessionRequest ItemKey StoragePermissionsItem where
  rely := Granted
  guarantee := Guarantees
  rely_mono := Granted.mono
  guarantee_mono hw h :=
    ⟨h.key, h.granted.mono hw, fun hq => hw.2 _ (h.stored hq), h.fresh, h.revoked, h.writes⟩
  rely_of_guarantee _ h := h.granted

/-- **Every handler keeps the contract**: a case for each of the four, and in each the get and
    the set. -/
theorem program_keeps (w : World SessionRequest ItemKey) (q : SessionRequest)
    (hq : q ∈ w.history) : sessionContract.Keeps q (sessionSystem.program q) w := by
  cases q with
  | create address projectId apiVersion payload drawn =>
    -- a new item, drawn by this request
    exact ⟨⟨rfl, ⟨_, hq, rfl, _, rfl, rfl⟩, fun h => (nomatch h), fun _ h => (nomatch h),
      fun h => h.elim, trivial⟩, trivial⟩
  | activate address payload =>
    -- the item that was read, with its terms
    intro w' hw stored hstored
    cases stored with
    | none => trivial
    | some item =>
      obtain ⟨hkey, q', hq', hkey', granted, hgranted, hterms⟩ := hstored item rfl
      exact ⟨⟨rfl, ⟨q', hq', hkey', granted, hgranted, hterms⟩, fun _ => hkey,
        fun h => (nomatch h), fun h => h.elim, trivial⟩, trivial⟩
  | revoke address payload now =>
    -- the same, unless it is revoked already
    intro w' hw stored hstored
    cases stored with
    | none => trivial
    | some item =>
      obtain ⟨hkey, q', hq', hkey', granted, hgranted, hterms⟩ := hstored item rfl
      show sessionContract.Keeps _ (if item.revokedAt.isSome = true then _ else _) w'
      split
      · trivial
      · exact ⟨⟨rfl, ⟨q', hq', hkey', granted, hgranted, hterms⟩, fun _ => hkey,
          fun h => (nomatch h), fun _ => rfl, trivial⟩, trivial⟩
  | coSign address pci =>
    -- nothing is written
    intro w' hw stored hstored
    cases stored with
    | none => trivial
    | some item =>
      show sessionContract.Keeps _ (if item.revokedAt.isSome = true then _ else _) w'
      split <;> trivial

theorem holds_emptyStore : sessionContract.Holds emptyStore :=
  ⟨fun _ _ h => (nomatch h), fun _ _ h => (nomatch h)⟩

theorem holds_run {s : SessionState} {as : List SessionAction}
    (h : sessionSystem.run emptyStore as = some s) : sessionContract.Holds s :=
  Contract.contract_run program_keeps holds_emptyStore h

/-! ## The granted part of an item never changes -/

/-- What is stored under a key has the terms of the one create request that drew it. -/
theorem Granted.terms_eq {w : World SessionRequest ItemKey} (hd : DrawnOnce w.history)
    {k : ItemKey} {item item' : StoragePermissionsItem} (h : Granted w k item)
    (h' : Granted w k item') : item'.terms = item.terms := by
  obtain ⟨q, hq, rfl, granted, hgranted, hterms⟩ := h
  obtain ⟨q', hq', hkey, granted', hgranted', hterms'⟩ := h'
  have hpci := SessionRequest.drawnPci_of_grantedItem hgranted
  have hpci' := SessionRequest.drawnPci_of_grantedItem hgranted'
  rw [hkey] at hpci'
  obtain rfl := hd.unique hq hq' hpci hpci'
  obtain rfl := Option.some.inj (hgranted.symm.trans hgranted')
  rw [hterms, hterms']

/-- A step changes the store only under the key of the request that moves. -/
theorem step_frame {s s' : SessionState} {a : SessionAction} (hs : sessionContract.Holds s)
    (h : sessionSystem.step s a = some s') {k : ItemKey} (hk : s'.store k ≠ s.store k) :
    ∃ i q p, a = .advance i ∧ s.requests[i]? = some (q, p) ∧ q.key = k := by
  cases System.step_cases h with
  | receive hadmits => exact absurd rfl hk
  | get hi => exact absurd rfl hk
  | @set i q k' v next hi =>
    have hkeeps := hs.requests q _ (List.mem_of_getElem? hi)
    by_cases hkk : k = k'
    · subst hkk
      exact ⟨i, q, _, rfl, hi, hkeeps.1.key.symm⟩
    · rw [State.store_resume, State.store_put_of_ne hkk] at hk
      exact absurd rfl hk
  | fail hi => exact absurd rfl hk

/-- **The granted part of an item never changes.** Whatever the requests and the order of their
    steps, an item that is stored stays stored with the same terms, those of the create request
    for its key, and no step changes an item of another key than its request's. -/
theorem granted_terms_immutable {as bs : List SessionAction} {s t : SessionState}
    (hs : sessionSystem.run emptyStore as = some s) (ht : sessionSystem.run s bs = some t) :
    (∀ k item, s.store k = some item → Granted s.world k item ∧
      ∃ item', t.store k = some item' ∧ item'.terms = item.terms) ∧
    (∀ a u k, sessionSystem.step s a = some u → u.store k ≠ s.store k →
      ∃ i q p, a = .advance i ∧ s.requests[i]? = some (q, p) ∧ q.key = k) := by
  have hholds := holds_run hs
  have hholds' : sessionContract.Holds t := Contract.contract_run program_keeps hholds ht
  have hdrawn : DrawnOnce t.history :=
    System.run_induction (P := fun s => DrawnOnce s.history)
      (fun hs _ hstep => drawnOnce_step hs hstep) ht (System.within_true _ bs) (drawnOnce_run hs)
  have hworld : s.world.Le t.world :=
    ⟨System.history_grows_run ht, fun k hk => System.isSome_store_run ht hk⟩
  refine ⟨fun k item hitem => ⟨hholds.stored k item hitem, ?_⟩,
    fun a u k hstep hk => step_frame hholds hstep hk⟩
  have hsome : (t.store k).isSome := hworld.2 k (by show (s.store k).isSome; rw [hitem]; rfl)
  obtain ⟨item', hitem'⟩ := Option.isSome_iff_exists.mp hsome
  exact ⟨item', hitem',
    ((hholds.stored k item hitem).mono hworld).terms_eq hdrawn (hholds'.stored k item' hitem')⟩

/-- A permission for one day, granted to the demo account. -/
def demoCreate : SessionRequest :=
  .create demoAccount "demo" none
    { expiry := 4102444800
      signer := { type := "keys", data := .array [] }
      permissions := [allowancePermission "0x0"]
      policies := [] }
    { pci := demoPci
      createdAt := 1735689600
      verificationKey := demoVerificationKey
      signingKey := demoSigningKey }

/-- Its activation, with a context of twenty bytes. -/
def demoActivate : SessionRequest :=
  .activate demoAccount
    { pci := demoPci
      expiry := 4102444800
      signer := { type := "keys", data := .array [] }
      permissions := []
      policies := []
      context := ownableValidatorAddress.bytes }

/-- Its revocation. -/
def demoRevoke : SessionRequest := .revoke demoAccount { pci := demoPci } 1750000000

/-- Create the item, then activate it. -/
def createRun : List SessionAction := [.receive demoCreate, .advance 0]

def activateRun : List SessionAction := [.receive demoActivate, .advance 1, .advance 1]

theorem granted_terms_immutable_activateRun :
    ∃ s t item item', sessionSystem.run emptyStore createRun = some s ∧
      sessionSystem.run s activateRun = some t ∧
      s.store (demoAccount, demoPci) = some item ∧ item.context = none ∧
      t.store (demoAccount, demoPci) = some item' ∧ item'.context.isSome ∧
      item'.terms = item.terms := by
  obtain ⟨s, hs⟩ : ∃ s, sessionSystem.run emptyStore createRun = some s := ⟨_, rfl⟩
  obtain ⟨t, ht⟩ : ∃ t, sessionSystem.run s activateRun = some t := by cases hs; exact ⟨_, rfl⟩
  obtain ⟨item, hitem, hcontext⟩ : ∃ item, s.store (demoAccount, demoPci) = some item ∧
      item.context = none := by cases hs; exact ⟨_, rfl, rfl⟩
  obtain ⟨-, item', hitem', hterms⟩ := (granted_terms_immutable hs ht).1 _ item hitem
  have hactivated : item'.context.isSome := by
    cases hs
    cases ht
    cases hitem'
    rfl
  exact ⟨s, t, item, item', hs, ht, hitem, hcontext, hitem', hactivated, hterms⟩

/-! ## Create never overwrites

A create request sets a key that it has just drawn. Nothing is stored there before, and no other
request can set it, since it would have had to get it first. -/

/-- A create request has nothing under its key until it stores its item, and then it is over. -/
def CreatesFresh (s : SessionState) : Prop :=
  ∀ (i : Nat) (q : SessionRequest) (p : SessionProcess), s.requests[i]? = some (q, p) →
    q.drawnPci.isSome → (∃ r, p = .ret r) ∨ (∃ e, p = .throw e) ∨
      (p = q.program ∧ s.store q.key = none)

/-- The process of a create request does not get, and returns after its set. -/
theorem create_program {q : SessionRequest} (hq : q.drawnPci.isSome) :
    ∃ item reply, q.program = .set q.key item (.ret reply) := by
  cases q with
  | create => exact ⟨_, _, rfl⟩
  | activate => cases hq
  | revoke => cases hq
  | coSign => cases hq

/-- What the runs of the session handlers keep. -/
structure SessionInvariant (s : SessionState) : Prop where
  holds : sessionContract.Holds s
  drawnOnce : DrawnOnce s.history
  createsFresh : CreatesFresh s

theorem getElem?_history {s : SessionState} {i : Nat} {q : SessionRequest} {p : SessionProcess}
    (h : s.requests[i]? = some (q, p)) : s.history[i]? = some q := by
  rw [State.history, List.getElem?_map, h]
  rfl

/-- A create request does not get. -/
theorem CreatesFresh.drawnPci_of_get {s : SessionState} (hs : CreatesFresh s) {i : Nat}
    {q : SessionRequest} {k : ItemKey} {next : Option StoragePermissionsItem → SessionProcess}
    (hi : s.requests[i]? = some (q, .get k next)) : q.drawnPci = none := by
  by_contra hne
  have hq : q.drawnPci.isSome := Option.isSome_iff_ne_none.mpr hne
  rcases hs i q _ hi hq with ⟨r, hr⟩ | ⟨e, he⟩ | ⟨hprogram, -⟩
  · cases hr
  · cases he
  · obtain ⟨item, reply, hset⟩ := create_program hq
    rw [hset] at hprogram
    cases hprogram

/-- A create request that is about to set has nothing under its key, and then returns. -/
theorem CreatesFresh.of_set {s : SessionState} (hs : CreatesFresh s) {i : Nat}
    {q : SessionRequest} {k : ItemKey} {item : StoragePermissionsItem} {next : SessionProcess}
    (hi : s.requests[i]? = some (q, .set k item next)) (hq : q.drawnPci.isSome) :
    k = q.key ∧ s.store k = none ∧ ∃ reply, next = .ret reply := by
  rcases hs i q _ hi hq with ⟨r, hr⟩ | ⟨e, he⟩ | ⟨hprogram, hnone⟩
  · cases hr
  · cases he
  · obtain ⟨item', reply, hset⟩ := create_program hq
    rw [hset] at hprogram
    cases hprogram
    exact ⟨rfl, hnone, reply, rfl⟩

/-- A new identifier has nothing stored under it: what is stored comes from an earlier create
    request with the same identifier. -/
theorem store_eq_none_of_drawn {s : SessionState} (hholds : sessionContract.Holds s)
    {q : SessionRequest} {pci : String} (hdrawn : DrawnOnce (s.history ++ [q]))
    (hpci : q.drawnPci = some pci) : s.store q.key = none := by
  by_contra hstored
  obtain ⟨item, hitem⟩ := Option.ne_none_iff_exists'.mp hstored
  obtain ⟨q', hq', hkey, granted, hgranted, -⟩ := hholds.stored _ _ hitem
  have hpci' := SessionRequest.drawnPci_of_grantedItem hgranted
  rw [hkey, SessionRequest.key_of_drawnPci hpci] at hpci'
  exact (List.pairwise_append.mp hdrawn).2.2 q' hq' q (List.mem_singleton.mpr rfl) pci hpci' hpci

/-- Where nothing is stored under the key of a create request, no other request sets it. -/
theorem key_ne_of_set {s : SessionState} (hholds : sessionContract.Holds s)
    (hdrawn : DrawnOnce s.history) {i j : Nat} {q q' : SessionRequest} {p : SessionProcess}
    {k : ItemKey} {item : StoragePermissionsItem} {next : SessionProcess} {pci : String}
    (hi : s.requests[i]? = some (q', .set k item next)) (hj : s.requests[j]? = some (q, p))
    (hij : i ≠ j) (hpci : q.drawnPci = some pci) (hnone : s.store q.key = none) : q.key ≠ k := by
  have hguarantee := (hholds.requests q' _ (List.mem_of_getElem? hi)).1
  intro hkey
  cases hpci' : q'.drawnPci with
  | none =>
    have hstored : (s.store k).isSome := hguarantee.stored hpci'
    rw [← hkey, hnone] at hstored
    cases hstored
  | some pci' =>
    have hsame : pci' = pci := by
      rw [← SessionRequest.key_of_drawnPci hpci', ← SessionRequest.key_of_drawnPci hpci, hkey,
        hguarantee.key]
    exact hij (hdrawn.index_unique (getElem?_history hi) (getElem?_history hj)
      (hsame ▸ hpci') hpci)

theorem createsFresh_step {s s' : SessionState} {a : SessionAction} (hs : SessionInvariant s)
    (h : sessionSystem.step s a = some s') : CreatesFresh s' := by
  obtain ⟨hholds, hdrawn, hfresh⟩ := hs
  intro j q p hj hq
  obtain ⟨pci, hpci⟩ := Option.isSome_iff_exists.mp hq
  cases System.step_cases h with
  | @receive q' hadmits =>
    -- a new request has a new identifier, under which nothing is stored
    have hdrawn' := drawnOnce_step hdrawn h
    rw [List.getElem?_append] at hj
    split at hj
    · exact hfresh j q p hj hq
    · next hlen =>
      obtain ⟨rfl, rfl⟩ := Prod.mk.inj (List.mem_singleton.mp (List.mem_of_getElem? hj))
      have hhist : DrawnOnce (s.history ++ [q]) := by
        simpa only [State.history, List.map_append, List.map_cons, List.map_nil] using hdrawn'
      exact Or.inr (Or.inr ⟨rfl, store_eq_none_of_drawn hholds hhist hpci⟩)
  | get hi =>
    -- a create never reads
    rcases State.getElem?_resume hj with ⟨rfl, rfl, rfl⟩ | ⟨-, hj⟩
    · rw [hfresh.drawnPci_of_get hi] at hpci
      cases hpci
    · exact hfresh j q p hj hq
  | @set i q' k item next hi =>
    rcases State.getElem?_resume (s := s.put k item) hj with ⟨rfl, rfl, rfl⟩ | ⟨hij, hj⟩
    · exact Or.inl (hfresh.of_set hi hq).2.2
    · -- another request has set something, under another key
      rcases hfresh j q p hj hq with hr | he | ⟨hprogram, hnone⟩
      · exact Or.inl hr
      · exact Or.inr (Or.inl he)
      · refine Or.inr (Or.inr ⟨hprogram, ?_⟩)
        have hne : q.key ≠ k := key_ne_of_set hholds hdrawn hi hj hij hpci hnone
        rw [State.store_resume, State.store_put_of_ne hne]
        exact hnone
  | fail hi =>
    rcases State.getElem?_resume hj with ⟨rfl, rfl, rfl⟩ | ⟨-, hj⟩
    · exact Or.inr (Or.inl ⟨_, rfl⟩)
    · exact hfresh j q p hj hq

/-- **One step keeps the invariant.** -/
theorem sessionInvariant_step {s s' : SessionState} {a : SessionAction} (hs : SessionInvariant s)
    (h : sessionSystem.step s a = some s') : SessionInvariant s' :=
  ⟨Contract.holds_step program_keeps hs.holds h, drawnOnce_step hs.drawnOnce h,
    createsFresh_step hs h⟩

theorem sessionInvariant_emptyStore : SessionInvariant emptyStore :=
  ⟨holds_emptyStore, List.Pairwise.nil, fun _ _ _ h => (nomatch h)⟩

/-! ## What is left of a request

  Every handler gets at most once and sets at most once, and it returns with its set.  So what is
  left of a request is all of it, its one set, or nothing. -/

namespace SessionRequest

/-- The request activates an item. -/
def Activates : SessionRequest → Prop
  | activate _ _ => True
  | _ => False

/-- The process is left of the request. -/
def Left (q : SessionRequest) : SessionProcess → Prop
  | .get k next => q.program = .get k next
  | .set _ _ next => ∃ reply, next = .ret reply
  | _ => True

theorem left_program (q : SessionRequest) : q.Left q.program := by
  cases q with
  | create => exact ⟨_, rfl⟩
  | activate => rfl
  | revoke => rfl
  | coSign => rfl

/-- Whatever a request gets, its one set or nothing is left of it. -/
theorem left_of_get {q : SessionRequest} {k : ItemKey}
    {next : Option StoragePermissionsItem → SessionProcess} (h : q.program = .get k next)
    (stored : Option StoragePermissionsItem) : q.Left (next stored) := by
  cases q with
  | create => cases h
  | activate =>
    cases h
    cases stored with
    | none => trivial
    | some item => exact ⟨_, rfl⟩
  | revoke address payload now =>
    cases h
    cases stored with
    | none => trivial
    | some item =>
      show Left _ (if item.revokedAt.isSome = true then _ else _)
      split
      · trivial
      · exact ⟨_, rfl⟩
  | coSign address pci =>
    cases h
    cases stored with
    | none => trivial
    | some item =>
      show Left _ (if item.revokedAt.isSome = true then _ else _)
      split <;> trivial

/-- An activate request that has got an item goes on to set it, with the revocation time it got. -/
theorem set_of_get {q : SessionRequest} {k : ItemKey}
    {next : Option StoragePermissionsItem → SessionProcess} (h : q.program = .get k next)
    (hq : q.Activates) (stored : StoragePermissionsItem) :
    ∃ item, next (some stored) = .set k item (.ret .activated) ∧
      item.revokedAt = stored.revokedAt := by
  cases q with
  | activate => cases h; exact ⟨_, rfl, rfl⟩
  | create => exact hq.elim
  | revoke => exact hq.elim
  | coSign => exact hq.elim

end SessionRequest

/-- What is left of each request is of its handler's shape. -/
def WellShaped (s : SessionState) : Prop :=
  ∀ (i : Nat) (q : SessionRequest) (p : SessionProcess), s.requests[i]? = some (q, p) → q.Left p

theorem wellShaped_step {s s' : SessionState} {a : SessionAction} (hs : WellShaped s)
    (h : sessionSystem.step s a = some s') : WellShaped s' := by
  intro j q p hj
  cases System.step_cases h with
  | @receive q' hadmits =>
    rw [List.getElem?_append] at hj
    split at hj
    · exact hs j q p hj
    · obtain ⟨rfl, rfl⟩ := Prod.mk.inj (List.mem_singleton.mp (List.mem_of_getElem? hj))
      exact q.left_program
  | @get i q' k next hi =>
    rcases State.getElem?_resume hj with ⟨rfl, rfl, rfl⟩ | ⟨-, hj⟩
    · exact SessionRequest.left_of_get (hs _ _ _ hi) _
    · exact hs j q p hj
  | @set i q' k item next hi =>
    rcases State.getElem?_resume (s := s.put k item) hj with ⟨rfl, rfl, rfl⟩ | ⟨-, hj⟩
    · obtain ⟨reply, rfl⟩ := hs _ _ _ hi
      trivial
    · exact hs j q p hj
  | fail hi =>
    rcases State.getElem?_resume hj with ⟨rfl, rfl, rfl⟩ | ⟨-, hj⟩
    · trivial
    · exact hs j q p hj

theorem wellShaped_run {s : SessionState} {as : List SessionAction}
    (h : sessionSystem.run emptyStore as = some s) : WellShaped s :=
  System.run_induction (P := WellShaped) (fun hs _ hstep => wellShaped_step hs hstep) h
    (System.within_true _ as) (fun _ _ _ hi => (nomatch hi))

/-! ## Revocation

  Only the interleaving decides whether a revocation lasts.  An activate request sets back the
  revocation time it got; if it got none, and a revoke request sets the item before the activate
  request does, the revocation is lost (`Overtaken`).  The invariant of a run without that order of
  accesses is `ReadsRemembered`: the item each activate request is about to set was got before, in
  the trace; if it was got revoked then it still is, and if it was got unrevoked and is revoked by
  now, then a revoke request has set it in between. -/

/-- An access to the store by one of the session requests. -/
abbrev SessionAccess := Access SessionRequest ItemKey StoragePermissionsItem

/-- Between an activate request's get of an unrevoked item and its set, a revoke request has set
    the item. -/
def Overtaken (trace : List SessionAccess) : Prop :=
  ∃ (i j : Nat) (activate revoke : SessionRequest) (k : ItemKey)
    (item item' item'' : StoragePermissionsItem),
    activate.Activates ∧ revoke.Revokes ∧ ¬ Revoked item ∧
    [.got i activate k (some item), .put j revoke k item', .put i activate k item''].Sublist trace

theorem Overtaken.mono {es es' : List SessionAccess} (h : Overtaken es) (hsub : es.Sublist es') :
    Overtaken es' := by
  obtain ⟨i, j, q, q', k, item, item', item'', hq, hq', hitem, hsub'⟩ := h
  exact ⟨i, j, q, q', k, item, item', item'', hq, hq', hitem, hsub'.trans hsub⟩

/-- The item that each activate request is about to set was got before. -/
def ReadsRemembered (es : List SessionAccess) (s : SessionState) : Prop :=
  ∀ (i : Nat) (q : SessionRequest) (k : ItemKey) (item : StoragePermissionsItem)
    (next : SessionProcess), s.requests[i]? = some (q, .set k item next) → q.Activates →
    ∃ stored, item.revokedAt = stored.revokedAt ∧
      [.got i q k (some stored)].Sublist es ∧
      (Revoked stored → s.Holds Revoked k) ∧
      (¬ Revoked stored → s.Holds Revoked k → ∃ j q' item', q'.Revokes ∧
        [.got i q k (some stored), .put j q' k item'].Sublist es)

/-- Where no activate request has been overtaken, nothing takes a revocation back. -/
theorem respects_of_not_overtaken {es : List SessionAccess} {s : SessionState} {a : SessionAction}
    (hs : SessionInvariant s) (hreads : ReadsRemembered es s)
    (hno : ¬ Overtaken (es ++ (s.access a).toList)) : Respects Revoked s a := by
  cases a with
  | receive q => trivial
  | fail i e => trivial
  | advance i =>
    intro q k item next hi hrevoked
    have hguarantee := (hs.holds.requests q _ (List.mem_of_getElem? hi)).1
    cases hq : q with
    | create address projectId apiVersion payload drawn =>
      subst hq
      obtain ⟨stored, hstored, -⟩ := hrevoked
      rw [(hs.createsFresh.of_set hi rfl).2.1] at hstored
      cases hstored
    | activate address payload =>
      have hactivates : q.Activates := hq ▸ trivial
      obtain ⟨stored, htime, -, -, hunrevoked⟩ := hreads i q k item next hi hactivates
      by_contra hitem
      have hstored : ¬ Revoked stored := fun h => hitem (by rwa [Revoked, htime])
      obtain ⟨j, q', item', hrevokes, hsub⟩ := hunrevoked hstored hrevoked
      -- its set is the access that completes the pattern
      refine hno ⟨i, j, q, q', k, stored, item', item, hactivates, hrevokes, hstored, ?_⟩
      simp only [State.access, hi, Option.toList_some]
      exact List.Sublist.append hsub (List.Sublist.refl _)
    | revoke address payload now => exact hguarantee.revoked (hq ▸ trivial)
    | coSign address pci =>
      subst hq
      exact hguarantee.writes.elim

/-- Where the item was not revoked and is after a set, a revoke request has set it. -/
theorem revokes_of_newly_revoked {es : List SessionAccess} {s : SessionState} {i : Nat}
    {q : SessionRequest} {k : ItemKey} {item : StoragePermissionsItem} {next : SessionProcess}
    (hs : SessionInvariant s) (hreads : ReadsRemembered es s)
    (hi : s.requests[i]? = some (q, .set k item next)) (hitem : Revoked item)
    (hbefore : ¬ s.Holds Revoked k) : q.Revokes := by
  have hguarantee := (hs.holds.requests q _ (List.mem_of_getElem? hi)).1
  cases hq : q with
  | create address projectId apiVersion payload drawn =>
    exact (hguarantee.fresh (by rw [hq]; rfl) hitem).elim
  | activate address payload =>
    obtain ⟨stored, htime, -, hstored, -⟩ := hreads i q k item next hi (hq ▸ trivial)
    exact (hbefore (hstored (by rwa [Revoked, ← htime]))).elim
  | revoke address payload now => trivial
  | coSign address pci =>
    subst hq
    exact hguarantee.writes.elim

/-- What a request that does not move got stays remembered; only the store may have changed under
    it, and then by a revoke request. -/
theorem remembered_of_waiting {es : List SessionAccess} {s s' : SessionState} {a : SessionAction}
    (hrespects : Respects Revoked s a) (h : sessionSystem.step s a = some s')
    (hreads : ReadsRemembered es s) {i : Nat} {q : SessionRequest} {k : ItemKey}
    {item : StoragePermissionsItem} {next : SessionProcess}
    (hi : s.requests[i]? = some (q, .set k item next)) (hq : q.Activates)
    (hnew : s'.Holds Revoked k → ¬ s.Holds Revoked k →
      ∃ j q' item', q'.Revokes ∧ s.access a = some (.put j q' k item')) :
    ∃ stored, item.revokedAt = stored.revokedAt ∧
      [.got i q k (some stored)].Sublist (es ++ (s.access a).toList) ∧
      (Revoked stored → s'.Holds Revoked k) ∧
      (¬ Revoked stored → s'.Holds Revoked k → ∃ j q' item', q'.Revokes ∧
        [.got i q k (some stored), .put j q' k item'].Sublist (es ++ (s.access a).toList)) := by
  have hgrows : es.Sublist (es ++ (s.access a).toList) := List.sublist_append_left ..
  obtain ⟨stored, htime, hgot, hrevoked, hunrevoked⟩ := hreads i q k item next hi hq
  refine ⟨stored, htime, hgot.trans hgrows,
    fun hst => holds_step_of_respects hrespects h (hrevoked hst), fun hst hholds => ?_⟩
  by_cases hbefore : s.Holds Revoked k
  · obtain ⟨j, q', item', hq', hsub⟩ := hunrevoked hst hbefore
    exact ⟨j, q', item', hq', hsub.trans hgrows⟩
  · obtain ⟨j, q', item', hq', hput⟩ := hnew hholds hbefore
    rw [hput]
    exact ⟨j, q', item', hq', hgot.append (List.Sublist.refl _)⟩

/-- **One step remembers what the activate requests got**: a case for each kind of step, and in
    each the request that moves and those that wait. A get puts what it found at the end of the
    trace; a set of a revoked item over an unrevoked one is that of a revoke request. -/
theorem readsRemembered_step {es : List SessionAccess} {s s' : SessionState} {a : SessionAction}
    (hs : SessionInvariant s) (hshape : WellShaped s) (hreads : ReadsRemembered es s)
    (hno : ¬ Overtaken (es ++ (s.access a).toList)) (h : sessionSystem.step s a = some s') :
    ReadsRemembered (es ++ (s.access a).toList) s' := by
  have hrespects := respects_of_not_overtaken hs hreads hno
  intro j q k item next hj hq
  cases System.step_cases h with
  | @receive q' hadmits =>
    -- a new request has read nothing yet
    rw [List.getElem?_append] at hj
    split at hj
    · exact remembered_of_waiting hrespects h hreads hj hq fun hh hb => (hb hh).elim
    · obtain ⟨rfl, hprogram⟩ := Prod.mk.inj (List.mem_singleton.mp (List.mem_of_getElem? hj))
      cases q with
      | activate => cases hprogram
      | create => exact hq.elim
      | revoke => exact hq.elim
      | coSign => exact hq.elim
  | @get i q' k' next' hi =>
    rcases State.getElem?_resume hj with ⟨rfl, rfl, hnext⟩ | ⟨-, hj⟩
    · -- the activate request has just got the item
      have hprogram : q.program = .get k' next' := hshape i q _ hi
      cases hstored : s.store k' with
      | none =>
        rw [hstored] at hnext
        cases q with
        | activate => cases hprogram; cases hnext
        | create => exact hq.elim
        | revoke => exact hq.elim
        | coSign => exact hq.elim
      | some stored =>
        obtain ⟨item', hset, htime⟩ := SessionRequest.set_of_get hprogram hq stored
        rw [hstored, hset] at hnext
        cases hnext
        refine ⟨stored, htime, ?_, fun hst => ⟨stored, hstored, hst⟩, ?_⟩
        · simp only [State.access, hi, hstored, Option.toList_some]
          exact List.sublist_append_right ..
        · rintro hst ⟨stored', hstored', hst'⟩
          rw [State.store_resume, hstored] at hstored'
          cases hstored'
          exact absurd hst' hst
    · exact remembered_of_waiting hrespects h hreads hj hq fun hh hb => (hb hh).elim
  | @set i q' k' item' next' hi =>
    -- another request sets an item; if that revokes this one, its set is remembered
    rcases State.getElem?_resume (s := s.put k' item') hj with ⟨rfl, rfl, hnext⟩ | ⟨-, hj⟩
    · obtain ⟨reply, hreply⟩ := hshape i q _ hi
      rw [hreply] at hnext
      cases hnext
    · refine remembered_of_waiting hrespects h hreads hj hq fun hh hb => ?_
      by_cases hk : k = k'
      · subst hk
        obtain ⟨stored, hstored, hrevoked⟩ := hh
        rw [State.store_resume, State.store_put_self] at hstored
        cases hstored
        exact ⟨i, q', item', revokes_of_newly_revoked hs hreads hi hrevoked hb,
          by simp only [State.access, hi]⟩
      · obtain ⟨stored, hstored, hrevoked⟩ := hh
        rw [State.store_resume, State.store_put_of_ne hk] at hstored
        exact (hb ⟨stored, hstored, hrevoked⟩).elim
  | fail hi =>
    rcases State.getElem?_resume hj with ⟨rfl, rfl, hnext⟩ | ⟨-, hj⟩
    · cases hnext
    · exact remembered_of_waiting hrespects h hreads hj hq fun hh hb => (hb hh).elim

/-- The key of a revoke request. -/
def revokeKey : SessionRequest → Option ItemKey
  | .revoke address payload _ => some (address, payload.pci)
  | _ => none

/-- **A revoke request returns only after it has stored the item revoked.** -/
theorem revoke_establishes (q : SessionRequest) (k : ItemKey) (hq : revokeKey q = some k) :
    (sessionSystem.program q).Establishes Revoked k := by
  cases q with
  | revoke address payload now =>
    cases hq
    intro stored
    cases stored with
    | none => trivial
    | some item =>
      show Process.Establishes Revoked _ (if item.revokedAt.isSome = true then _ else _)
      split
      · trivial
      · exact Or.inl ⟨rfl, rfl⟩
  | create => cases hq
  | activate => cases hq
  | coSign => cases hq

/-- What a run keeps in which no activate request is overtaken: the invariant of the handlers,
    the shape of what is left of each request, the reads that are remembered, and the revocations
    so far. -/
structure RevocationInvariant (es : List SessionAccess) (s : SessionState) : Prop where
  session : SessionInvariant s
  shape : WellShaped s
  reads : ReadsRemembered es s
  established : s.Established Revoked revokeKey

theorem revocationInvariant_step {es : List SessionAccess} {s s' : SessionState}
    {a : SessionAction} (hs : RevocationInvariant es s)
    (hno : ¬ Overtaken (es ++ (s.access a).toList)) (h : sessionSystem.step s a = some s') :
    RevocationInvariant (es ++ (s.access a).toList) s' where
  session := sessionInvariant_step hs.session h
  shape := wellShaped_step hs.shape h
  reads := readsRemembered_step hs.session hs.shape hs.reads hno h
  established := established_step revoke_establishes
    (respects_of_not_overtaken hs.session hs.reads hno) h hs.established

/-- **A whole run** without an overtaken activate request. -/
theorem revocationInvariant_run {as : List SessionAction} {s : SessionState}
    (hrun : sessionSystem.run emptyStore as = some s)
    (hno : ¬ Overtaken (sessionSystem.trace emptyStore as)) :
    RevocationInvariant (sessionSystem.trace emptyStore as) s := by
  have hstart : RevocationInvariant [] emptyStore :=
    ⟨sessionInvariant_emptyStore, fun _ _ _ h => (nomatch h), fun _ _ _ _ _ h => (nomatch h),
      fun _ _ _ h => (nomatch h)⟩
  -- the condition is about the whole trace, so the induction carries it as a premise
  refine trace_induction (I := fun es u => ¬ Overtaken es → RevocationInvariant es u)
    (fun {es u a u'} hu hstep hno' => ?_) hrun (fun _ => hstart) hno
  have hbefore := hu fun h => hno' (h.mono (List.sublist_append_left ..))
  exact revocationInvariant_step hbefore hno' hstep

/-- Every revoke request that has returned has left its item revoked, and a co-sign request that
    reads the item now is refused. -/
def RevocationsFinal (s : SessionState) : Prop :=
  ∀ address payload now reply, (.revoke address payload now, .ret reply) ∈ s.requests →
    (∃ item, s.store (address, payload.pci) = some item ∧ Revoked item) ∧
    ∀ (i : Nat) (u : SessionState),
      s.requests[i]? = some (.coSign address payload.pci, coSignHandler address payload.pci) →
      sessionSystem.step s (.advance i) = some u →
      u.requests[i]? = some (.coSign address payload.pci,
        .throw (.revokedPermission payload.pci))

theorem revocationsFinal_of_established {s : SessionState}
    (hs : s.Established Revoked revokeKey) : RevocationsFinal s := by
  intro address payload now reply hdone
  have hrevoked : s.Holds Revoked (address, payload.pci) :=
    (hs _ _ _ hdone rfl).resolve_left id
  refine ⟨hrevoked, fun i u hi hstep => ?_⟩
  obtain ⟨item, hitem, hitemRevoked⟩ := hrevoked
  simp only [System.step, hi, coSignHandler, Option.some.injEq] at hstep
  subst hstep
  rw [getElem?_resume_self hi, hitem]
  have hsome : item.revokedAt.isSome = true := hitemRevoked
  simp only [hsome, if_true]

/-- **An overtaken activate request takes a revocation back**: right after its set the revoke
    request has returned and the item is not revoked. The trace gives the three steps in their
    order; the revoke request returns with its set, and the activate request sets what it got. -/
theorem exists_unrevoked_of_overtaken {as : List SessionAction}
    (h : Overtaken (sessionSystem.trace emptyStore as)) :
    ∃ bs s, bs <+: as ∧ sessionSystem.run emptyStore bs = some s ∧ ¬ RevocationsFinal s := by
  obtain ⟨i, j, q, q', k, item, item', item'', hq, hq', hitem, hsub⟩ := h
  obtain ⟨bs₁, a₁, cs₁, s₁, s₁', rfl, hrun₁, hstep₁, hacc₁, hsub⟩ := exists_of_sublist_trace hsub
  obtain ⟨bs₂, a₂, cs₂, s₂, s₂', rfl, hrun₂, hstep₂, hacc₂, hsub⟩ := exists_of_sublist_trace hsub
  obtain ⟨bs₃, a₃, cs₃, s₃, s₃', rfl, hrun₃, hstep₃, hacc₃, -⟩ := exists_of_sublist_trace hsub
  have hprefix₁ : sessionSystem.run emptyStore (bs₁ ++ [a₁]) = some s₁' :=
    System.run_append.mpr ⟨s₁, hrun₁, by rw [System.run, hstep₁]; rfl⟩
  have hbefore₂ : sessionSystem.run emptyStore (bs₁ ++ [a₁] ++ bs₂) = some s₂ :=
    System.run_append.mpr ⟨s₁', hprefix₁, hrun₂⟩
  have hprefix₂ : sessionSystem.run emptyStore (bs₁ ++ [a₁] ++ bs₂ ++ [a₂]) = some s₂' :=
    System.run_append.mpr ⟨s₂, hbefore₂, by rw [System.run, hstep₂]; rfl⟩
  have hprefix₃ : sessionSystem.run emptyStore (bs₁ ++ [a₁] ++ bs₂ ++ [a₂] ++ (bs₃ ++ [a₃])) =
      some s₃' :=
    System.run_append.mpr ⟨s₂', hprefix₂, System.run_append.mpr
      ⟨s₃, hrun₃, by rw [System.run, hstep₃]; rfl⟩⟩
  -- after its get, the activate request has one set left, of the unrevoked item
  obtain ⟨rfl, hgot, next₁, hi₁, rfl⟩ := step_of_got hstep₁ hacc₁
  obtain ⟨written, hset, htime⟩ :=
    SessionRequest.set_of_get (wellShaped_run hrun₁ i q _ hi₁) hq item
  rw [hset] at hprefix₁ hrun₂
  have hpending : (s₁.resume i q (.set k written (.ret .activated))).requests[i]? =
      some (q, (.set k written (.ret .activated) : SessionProcess)) :=
    getElem?_resume_self hi₁
  -- the revoke request returns with its set
  obtain ⟨rfl, next₂, hi₂, rfl⟩ := step_of_put hstep₂ hacc₂
  obtain ⟨reply, rfl⟩ := wellShaped_run hbefore₂ j q' _ hi₂
  have hreturned : ((s₂.put k item').resume j q' (.ret reply)).requests[j]? =
      some (q', (.ret reply : SessionProcess)) :=
    getElem?_resume_self hi₂
  -- and the activate request makes the set it had left
  obtain ⟨rfl, next₃, hi₃, rfl⟩ := step_of_put hstep₃ hacc₃
  have hthrough : sessionSystem.run (s₁.resume i q (.set k written (.ret .activated)))
      (bs₂ ++ [.advance j] ++ bs₃) = some s₃ :=
    System.run_append.mpr ⟨_, System.run_append.mpr
      ⟨s₂, hrun₂, by rw [System.run, hstep₂]; rfl⟩, hrun₃⟩
  have hlast : item'' = written := by
    rcases lastSet_run hthrough hpending with hsame | ⟨p, hover, hsame⟩
    · rw [hi₃] at hsame
      cases hsame
      rfl
    · rw [hi₃] at hsame
      cases hsame
      exact hover.elim
  have hrest : sessionSystem.run ((s₂.put k item').resume j q' (.ret reply))
      (bs₃ ++ [.advance i]) = some ((s₃.put k item'').resume i q next₃) :=
    System.run_append.mpr ⟨s₃, hrun₃, by rw [System.run, hstep₃]; rfl⟩
  have hkept : ((s₃.put k item'').resume i q next₃).requests[j]? = some (q', .ret reply) :=
    isOver_run trivial hrest hreturned
  refine ⟨_, _, ⟨cs₃, ?_⟩, hprefix₃, fun hfinal => ?_⟩
  · simp only [List.append_assoc, List.cons_append, List.nil_append]
  have hkey : k = q'.key :=
    ((holds_run hbefore₂).requests q' _ (List.mem_of_getElem? hi₂)).1.key
  cases q' with
  | revoke address payload now =>
    obtain ⟨⟨stored, hstored, hrevoked⟩, -⟩ :=
      hfinal address payload now reply (List.mem_of_getElem? hkept)
    rw [State.store_resume, show (address, payload.pci) = k from hkey.symm,
      State.store_put_self] at hstored
    cases hstored
    refine hitem ?_
    rw [Revoked, ← htime, ← hlast]
    exact hrevoked
  | create => exact hq'.elim
  | activate => exact hq'.elim
  | coSign => exact hq'.elim

/-- **When a revocation is final.**  In a run of any number of requests, revocations are final in
    every state if and only if no revoke request sets an item between the get of an activate
    request that found the item unrevoked and that request's set. -/
theorem revoked_for_good (as : List SessionAction) :
    (∀ bs s, bs <+: as → sessionSystem.run emptyStore bs = some s → RevocationsFinal s) ↔
      ¬ Overtaken (sessionSystem.trace emptyStore as) := by
  constructor
  · intro hfinal hovertaken
    obtain ⟨bs, s, hprefix, hrun, hnot⟩ := exists_unrevoked_of_overtaken hovertaken
    exact hnot (hfinal bs s hprefix hrun)
  · rintro hno bs s ⟨cs, rfl⟩ hrun
    have hno' : ¬ Overtaken (sessionSystem.trace emptyStore bs) := by
      intro h
      refine hno ?_
      rw [trace_append hrun]
      exact h.mono (List.sublist_append_left ..)
    exact revocationsFinal_of_established (revocationInvariant_run hrun hno').established

/-- A co-sign request for the demo item. -/
def demoCoSign : SessionRequest := .coSign demoAccount demoPci

/-- The activate request gets the item, the revoke request gets it and stores it revoked, the
    activate request stores what it got, and a co-sign request comes last. -/
def resurrectingRun : List SessionAction :=
  [.receive demoCreate, .advance 0, .receive demoActivate, .advance 1, .receive demoRevoke,
    .advance 2, .advance 2, .advance 1, .receive demoCoSign, .advance 3]

/-- After the revoke request has returned, the item is stored unrevoked and co-sign goes on. -/
theorem resurrectingRun_unrevokes :
    ∃ t item, sessionSystem.run emptyStore resurrectingRun = some t ∧
      t.requests[2]? = some (demoRevoke, .ret .revoked) ∧
      t.store (demoAccount, demoPci) = some item ∧ ¬ Revoked item ∧
      t.requests[3]? = some (demoCoSign, .ret (.unrevoked item)) :=
  ⟨_, _, rfl, rfl, rfl, (fun h => nomatch h), rfl⟩

end BlockchainApi
