/-
  The spellings of an account, and the permissions found under them.

  A CAIP-10 address may be written in capital or small hex digits, and the session endpoints accept
  either.  They do not bring it into one form: the text in the path is the key of the store
  (`src/handlers/sessions/`).  The wallet methods write the key themselves, from an address that is
  twenty bytes (`src/handlers/json_rpc/wallet/prepare_calls.rs`, `send_prepared_calls.rs`):
  `to_checksum` of it for the co-signer, its `Display` for the context.

  `answersTo_iff` compares the six sites.  After any run in which create has returned, the
  permission answers under the very text it was created under, and under no other text of the same
  account; the wallet methods find it if that text is the checksummed one.  The two keys of one
  prepared call are equal.

  * A handler that reads the store gets first, so what it finds is decided by one lookup
    (`answersNotFound_get_iff`, `getSessionContext_notFound_iff`).
  * What is stored under a drawn identifier has the key of the request that drew it
    (`isSome_store_iff`).
-/
import BlockchainApi.Wallet.SendPreparedCalls

namespace BlockchainApi

open ByteCodec SharedStore

/-! ## Spellings: texts, and the account they stand for -/

/-- The chain and the twenty bytes that an EVM account's CAIP-10 text stands for. -/
def accountOf (p : AddressParsers) (spelling : String) : Option (String × Address) :=
  match disassembleCaip10 p spelling with
  | .ok (.eip155, chain, address) => (p.h160FromStr address).map fun account => (chain, account)
  | _ => none

/-- Two texts that the endpoints accept for one account. -/
def SameAccount (p : AddressParsers) (spelling spelling' : String) : Prop :=
  ∃ account, accountOf p spelling = some account ∧ accountOf p spelling' = some account

/-- `{caip2_identifier}:{to_checksum}`. -/
def checksummedAccount (deps : SendPreparedCallsDeps) (chainId : U64) (account : Address) :
    String :=
  caip2Identifier chainId ++ ":" ++ deps.toChecksum account

/-- `PrepareCallsRequestItem`, as far as the store is asked. -/
structure PrepareCallsRequestItem where
  /-- `from`. -/
  sender : Address
  chainId : U64
  /-- `capabilities.permissions.context`. -/
  context : Uuid

/-- The account's name in the store, as `prepare_calls::handler_internal` writes it. -/
def prepareCallsAddress (deps : SendPreparedCallsDeps) (item : PrepareCallsRequestItem) : String :=
  caip2Identifier item.chainId ++ ":" ++ deps.displayAddress item.sender

/-! ## What a handler finds: one lookup, under one text -/

/-- The permissions of an account, under one spelling. -/
def permissionsOf (t : SessionState) (spelling : String) :
    String → Option StoragePermissionsItem :=
  fun pci => t.store (spelling, pci)

/-- `hget` on the items of a state. -/
def hgetFrom (toVec : StoragePermissionsItem → Bytes) (t : SessionState) (address pci : String) :
    Except String (Option Bytes) :=
  .ok ((permissionsOf t address pci).map toVec)

/-- The handler gets, and ends there: no such permission. -/
def AnswersNotFound (t : SessionState) : SessionProcess → Prop
  | .get k next => ∃ address pci, next (t.store k) = .throw (.permissionNotFound address pci)
  | _ => False

/-- The permission is one and the same under a second spelling, at every session endpoint: what
    is answered under the one text is answered under the other. -/
structure AnswersTo (deps : SendPreparedCallsDeps) (toVec : StoragePermissionsItem → Bytes)
    (t : SessionState) (address : String) (pci : Uuid) (spelling : String) : Prop where
  listed : permissionsOf t spelling = permissionsOf t address
  found : getSessionContext deps spelling pci (hgetFrom toVec t spelling pci.display)
    ≠ .err (.permissionNotFound spelling pci)
  activated : ∀ payload : ActivatePermissionPayload, payload.pci = pci.display →
    ¬ AnswersNotFound t (activateHandler spelling payload)
  revoked : ∀ now, ¬ AnswersNotFound t (revokeHandler spelling { pci := pci.display } now)
  coSigned : ¬ AnswersNotFound t (coSignHandler spelling pci.display)

/-- The wallet methods find the permission of an account. -/
structure ServesWallet (deps : SendPreparedCallsDeps) (toVec : StoragePermissionsItem → Bytes)
    (t : SessionState) (pci : Uuid) (chainId : U64) (account : Address) : Prop where
  prepared : ∀ item : PrepareCallsRequestItem, item.sender = account → item.chainId = chainId →
    item.context = pci →
    getSessionContext deps (prepareCallsAddress deps item) item.context
        (hgetFrom toVec t (prepareCallsAddress deps item) item.context.display)
      ≠ .err (.permissionNotFound (prepareCallsAddress deps item) item.context)
  coSigned : ∀ item : SendPreparedCallsRequestItem, item.preparedCalls.data.sender = account →
    item.preparedCalls.chainId = chainId → item.context = pci →
    ¬ AnswersNotFound t (coSignHandler (coSignAddress deps item) (coSignRequestOf item).pci)
  sent : ∀ item : SendPreparedCallsRequestItem, item.preparedCalls.data.sender = account →
    item.preparedCalls.chainId = chainId → item.context = pci →
    contextOfItem deps (accountAddress deps item) item.context
        (hgetFrom toVec t (accountAddress deps item) item.context.display)
      ≠ .err .permissionNotFound

variable {t : SessionState} {deps : SendPreparedCallsDeps}
  {toVec : StoragePermissionsItem → Bytes}

/-- A handler that gives up on nothing, and only then, answers by the lookup. All of them get
    first. -/
theorem answersNotFound_get_iff {k : ItemKey}
    {next : Option StoragePermissionsItem → SessionProcess}
    (hnone : ∃ address pci, next none = .throw (.permissionNotFound address pci))
    (hsome : ∀ item address pci, next (some item) ≠ .throw (.permissionNotFound address pci)) :
    AnswersNotFound t (.get k next) ↔ t.store k = none := by
  show (∃ address pci, next (t.store k) = .throw (.permissionNotFound address pci)) ↔ _
  cases t.store k with
  | none => exact ⟨fun _ => rfl, fun _ => hnone⟩
  | some item =>
    constructor
    · rintro ⟨address, pci, h⟩
      exact absurd h (hsome item address pci)
    · exact nofun

theorem activate_answersNotFound_iff (address : String) (payload : ActivatePermissionPayload) :
    AnswersNotFound t (activateHandler address payload)
      ↔ t.store (address, payload.pci) = none :=
  answersNotFound_get_iff ⟨_, _, rfl⟩ fun _ _ _ => nofun

theorem revoke_answersNotFound_iff (address : String) (payload : PermissionRevokeRequest)
    (now : Nat) :
    AnswersNotFound t (revokeHandler address payload now)
      ↔ t.store (address, payload.pci) = none := by
  refine answersNotFound_get_iff ⟨_, _, rfl⟩ fun item _ _ => ?_
  dsimp only
  split <;> exact nofun

theorem coSign_answersNotFound_iff (address pci : String) :
    AnswersNotFound t (coSignHandler address pci) ↔ t.store (address, pci) = none := by
  refine answersNotFound_get_iff ⟨_, _, rfl⟩ fun item _ _ => ?_
  dsimp only
  split <;> exact nofun

/-- Reading a context fails for want of the permission only where nothing is stored; an item that
    does not deserialize is another error. -/
theorem getSessionContext_notFound_iff (address : String) (pci : Uuid) :
    getSessionContext deps address pci (hgetFrom toVec t address pci.display)
        = .err (.permissionNotFound address pci)
      ↔ t.store (address, pci.display) = none := by
  simp only [getSessionContext, hgetFrom, permissionsOf, Outcome.ofExcept, Outcome.ok_bind]
  cases t.store (address, pci.display) with
  | none => exact ⟨fun _ => rfl, fun _ => rfl⟩
  | some item =>
    simp only [Option.map_some, Outcome.okOr, Outcome.ok_bind, reduceCtorEq, iff_false]
    cases deps.cosign.itemFromSlice (toVec item) with
    | ok read =>
      intro h
      cases h
    | error text =>
      intro h
      cases h

theorem contextOfItem_notFound_iff (address : String) (pci : Uuid) :
    contextOfItem deps address pci (hgetFrom toVec t address pci.display) = .err .permissionNotFound
      ↔ t.store (address, pci.display) = none := by
  simp only [contextOfItem, getSessionContext, hgetFrom, permissionsOf, Outcome.ofExcept,
    Outcome.ok_bind]
  cases t.store (address, pci.display) with
  | none => exact ⟨fun _ => rfl, fun _ => rfl⟩
  | some item =>
    simp only [Option.map_some, Outcome.okOr, Outcome.ok_bind, reduceCtorEq, iff_false]
    cases deps.cosign.itemFromSlice (toVec item) with
    | ok read => cases hcontext : read.context <;> simp [Outcome.ok_bind, hcontext]
    | error text =>
      intro h
      cases h

/-! ## What a run has stored, and under which texts -/

/-- The key of a create request. -/
def createKey : SessionRequest → Option ItemKey
  | .create address _ _ _ drawn => some (address, drawn.pci)
  | _ => none

/-- A create request returns only after it has stored an item. -/
theorem create_establishes (q : SessionRequest) (k : ItemKey) (hq : createKey q = some k) :
    (sessionSystem.program q).Establishes (fun _ => True) k := by
  cases q with
  | create address projectId apiVersion payload drawn =>
    cases hq
    exact Or.inl ⟨rfl, trivial⟩
  | activate => cases hq
  | revoke => cases hq
  | coSign => cases hq

/-- Storing anything respects that something is stored. -/
theorem respects_stored (s : SessionState) (a : SessionAction) :
    Respects (fun _ : StoragePermissionsItem => True) s a := by
  cases a with
  | receive q => trivial
  | advance i => exact fun _ _ _ _ _ _ => trivial
  | fail i e => trivial

variable {as : List SessionAction} {address projectId : String} {apiVersion : Option Nat}
  {payload : NewPermissionPayload} {drawn : DrawnPermission} {reply : SessionReply}

/-- **A created permission is stored under the text it was created under, and nowhere else.** The
    identifier is drawn once, and whatever is stored under it was put there by the request that
    drew it or over an item of that request. -/
theorem isSome_store_iff (hrun : sessionSystem.run emptyStore as = some t)
    (hdone : (.create address projectId apiVersion payload drawn, .ret reply) ∈ t.requests)
    (spelling : String) : (t.store (spelling, drawn.pci)).isSome ↔ spelling = address := by
  constructor
  · intro hstored
    obtain ⟨item, hitem⟩ := Option.isSome_iff_exists.mp hstored
    obtain ⟨q, hq, hkey, granted, hgranted, -⟩ := (holds_run hrun).stored _ _ hitem
    have hpci : q.drawnPci = some drawn.pci := by
      rw [SessionRequest.drawnPci_of_grantedItem hgranted, hkey]
    have hcreate : .create address projectId apiVersion payload drawn ∈ t.history :=
      List.mem_map.mpr ⟨_, hdone, rfl⟩
    -- the identifier was drawn once, so the item is the one of this create request
    obtain rfl := (drawnOnce_run hrun).unique hq hcreate hpci rfl
    exact (congrArg Prod.fst hkey).symm
  · rintro rfl
    have hwithin : sessionSystem.Within (Respects fun _ => True) emptyStore as :=
      System.within_of_steps fun _ a _ u _ _ => respects_stored u a
    obtain ⟨item, hitem, -⟩ :=
      established_run create_establishes rfl hrun hwithin hdone rfl
    rw [hitem]
    rfl

/-- What is stored under the identifier is found where the text is that of the create request. -/
theorem store_ne_none_iff (hrun : sessionSystem.run emptyStore as = some t)
    (hdone : (.create address projectId apiVersion payload drawn, .ret reply) ∈ t.requests)
    {pci : Uuid} (hpci : drawn.pci = pci.display) (spelling : String) :
    t.store (spelling, pci.display) ≠ none ↔ spelling = address := by
  rw [← hpci, ← isSome_store_iff hrun hdone spelling, Option.isSome_iff_ne_none]

/-! ## The six sites: four endpoints, and two lookups of the wallet methods -/

/-- Inside one item of `wallet_sendPreparedCalls` the co-signer and the reader of the context ask
    for the same key. -/
theorem coSignAddress_eq_accountAddress (hdisplay : ∀ a, deps.displayAddress a = deps.toChecksum a)
    (item : SendPreparedCallsRequestItem) : coSignAddress deps item = accountAddress deps item := by
  rw [coSignAddress, accountAddress, hdisplay]

/-- The session endpoints find the permission where something is stored. -/
theorem answersTo_of_store_ne_none {spelling : String} {pci : Uuid}
    (hlisted : permissionsOf t spelling = permissionsOf t address)
    (h : t.store (spelling, pci.display) ≠ none) :
    AnswersTo deps toVec t address pci spelling where
  listed := hlisted
  found := (getSessionContext_notFound_iff spelling pci).not.mpr h
  activated payload hpayload :=
    (activate_answersNotFound_iff spelling payload).not.mpr (hpayload ▸ h)
  revoked now := (revoke_answersNotFound_iff spelling { pci := pci.display } now).not.mpr h
  coSigned := (coSign_answersNotFound_iff spelling pci.display).not.mpr h

/-- The wallet methods find it where something is stored under the checksummed text. -/
theorem servesWallet_iff (hdisplay : ∀ a, deps.displayAddress a = deps.toChecksum a) (pci : Uuid)
    (chainId : U64) (account : Address) :
    ServesWallet deps toVec t pci chainId account
      ↔ t.store (checksummedAccount deps chainId account, pci.display) ≠ none := by
  have hprepare : ∀ item : PrepareCallsRequestItem,
      prepareCallsAddress deps item = checksummedAccount deps item.chainId item.sender := by
    intro item
    rw [prepareCallsAddress, checksummedAccount, hdisplay]
  constructor
  · intro h
    have hprepared := h.prepared { sender := account, chainId, context := pci } rfl rfl rfl
    rw [hprepare] at hprepared
    exact (getSessionContext_notFound_iff _ pci).not.mp hprepared
  · intro h
    refine ⟨?_, ?_, ?_⟩
    · rintro item rfl rfl rfl
      rw [hprepare]
      exact (getSessionContext_notFound_iff _ _).not.mpr h
    · rintro item rfl rfl rfl
      exact (coSign_answersNotFound_iff _ _).not.mpr h
    · rintro item rfl rfl rfl
      rw [← coSignAddress_eq_accountAddress hdisplay]
      exact (contextOfItem_notFound_iff _ _).not.mpr h

/-- **Under which spellings a permission answers**, in the state after any run in which it was
    created: at the session endpoints under the text it was created under, and in the wallet
    methods if that text is the checksummed one.  Every prepared call has one key. -/
theorem answersTo_iff (hdisplay : ∀ a, deps.displayAddress a = deps.toChecksum a)
    (hrun : sessionSystem.run emptyStore as = some t)
    (hdone : (.create address projectId apiVersion payload drawn, .ret reply) ∈ t.requests)
    {pci : Uuid} (hpci : drawn.pci = pci.display) :
    (∀ spelling, AnswersTo deps toVec t address pci spelling ↔ spelling = address) ∧
    (∀ chainId account, ServesWallet deps toVec t pci chainId account
      ↔ checksummedAccount deps chainId account = address) ∧
    (∀ item, coSignAddress deps item = accountAddress deps item) := by
  refine ⟨fun spelling => ?_, fun chainId account => ?_,
    coSignAddress_eq_accountAddress hdisplay⟩
  · constructor
    · intro h
      exact (store_ne_none_iff hrun hdone hpci spelling).mp
        ((coSign_answersNotFound_iff spelling pci.display).not.mp h.coSigned)
    · rintro rfl
      exact answersTo_of_store_ne_none rfl ((store_ne_none_iff hrun hdone hpci _).mpr rfl)
  · rw [servesWallet_iff hdisplay, store_ne_none_iff hrun hdone hpci]

/-- An address with letters in it, and the text of it that has the EIP-55 checksum. -/
def letteredAddress : Address := FixedBytes.ofNat 20 0x2e65bafa07238666c3b239e94f32dad3cdd6498d

def checksummedText : String := "eip155:1:0x2E65BAfA07238666c3b239E94F32DaD3cDD6498D"

/-- The same account in small letters. -/
def smallText : String := "eip155:1:0x2e65bafa07238666c3b239e94f32dad3cdd6498d"

/-- `to_checksum(None)` on that address, and on addresses without letters. -/
def letteredChecksum (address : Address) : String :=
  if address = letteredAddress then "0x2E65BAfA07238666c3b239E94F32DaD3cDD6498D"
  else "0x" ++ hexEncode address.bytes

/-- The identifier of the demonstrations. -/
def drawnUuid : Uuid := FixedBytes.ofNat 16 0x01890a5dac96774bbcceb302099a8057

/-- What create draws. -/
def letteredDrawn : DrawnPermission where
  pci := demoPci
  createdAt := 1735689600
  verificationKey := demoVerificationKey
  signingKey := demoSigningKey

/-- A session without permissions. -/
def letteredPayload : NewPermissionPayload where
  expiry := 4102444800
  signer := { type := "keys", data := .array [] }
  permissions := []
  policies := []

/-- The item of that session as it is stored. -/
def letteredItemJson (_ : StoragePermissionsItem) : Bytes :=
  ("\x7b\"pci\":\"01890a5d-ac96-774b-bcce-b302099a8057\",\"expiry\":4102444800," ++
    "\"createdAt\":1735689600,\"projectId\":\"demo\"," ++
    "\"signer\":\x7b\"type\":\"keys\",\"data\":[]\x7d,\"permissions\":[]," ++
    "\"policies\":[],\"context\":null,\"verificationKey\":\"" ++ demoVerificationKey ++
    "\",\"signingKey\":\"" ++ demoSigningKey ++ "\",\"revokedAt\":null\x7d").toUTF8.data.toList

/-- The functions of the demonstrations, with that checksum and knowing that item. -/
def letteredDeps : SendPreparedCallsDeps :=
  let item := createdItem "demo" letteredPayload letteredDrawn
  { demoSendDeps with
    cosign := demoDeps (letteredItemJson item) item
    toChecksum := letteredChecksum
    displayAddress := letteredChecksum }

/-- The session, created under a text. -/
def createUnder (spelling : String) : SessionRequest :=
  .create spelling "demo" none letteredPayload letteredDrawn

/-- Created under the checksummed text, the permission answers under it, and the wallet methods
    find it. -/
theorem answersTo_iff_checksummed :
    ∃ t,
      sessionSystem.run emptyStore [.receive (createUnder checksummedText), .advance 0] = some t ∧
      AnswersTo letteredDeps letteredItemJson t checksummedText drawnUuid checksummedText ∧
      ServesWallet letteredDeps letteredItemJson t drawnUuid 1 letteredAddress ∧
      ¬ AnswersTo letteredDeps letteredItemJson t checksummedText drawnUuid smallText := by
  obtain ⟨t, ht⟩ : ∃ t,
      sessionSystem.run emptyStore [.receive (createUnder checksummedText), .advance 0] = some t :=
    ⟨_, rfl⟩
  have hdone : (createUnder checksummedText, .ret (.created demoPci
      (publicKeyFor none demoVerificationKey))) ∈ t.requests := by
    cases ht
    exact List.mem_singleton.mpr rfl
  have hpci : letteredDrawn.pci = drawnUuid.display := by decide
  obtain ⟨hanswers, hserves, -⟩ :=
    @answersTo_iff t letteredDeps letteredItemJson _ _ _ _ _ _ _ (fun _ => rfl) ht hdone _ hpci
  exact ⟨t, ht, (hanswers _).mpr rfl, (hserves 1 letteredAddress).mpr (by decide),
    (hanswers smallText).not.mpr (by decide)⟩

/-- **Created in small letters, a permission is not the account's**: the checksummed text stands for
    the same account, and neither the endpoints under that text nor the wallet methods find it. -/
theorem not_answersTo :
    ∃ t reply,
      sessionSystem.run emptyStore [.receive (createUnder smallText), .advance 0] = some t ∧
      (createUnder smallText, .ret reply) ∈ t.requests ∧
      SameAccount letteredDeps.cosign.parsers smallText checksummedText ∧
      accountOf letteredDeps.cosign.parsers smallText
        = some (toString (1 : U64).toNat, letteredAddress) ∧
      ¬ AnswersTo letteredDeps letteredItemJson t smallText drawnUuid checksummedText ∧
      ¬ ServesWallet letteredDeps letteredItemJson t drawnUuid 1 letteredAddress := by
  have hsmall : accountOf demoParsers smallText = some ("1", letteredAddress) := by decide
  have hchecksummed : accountOf demoParsers checksummedText = some ("1", letteredAddress) := by
    decide
  refine ⟨_, _, rfl, List.mem_singleton.mpr rfl, ⟨_, hsmall, hchecksummed⟩, hsmall, ?_, ?_⟩
  · intro h
    exact h.coSigned ⟨checksummedText, drawnUuid.display, rfl⟩
  · intro h
    exact (servesWallet_iff (fun _ => rfl) drawnUuid 1 letteredAddress).mp h (by rfl)

end BlockchainApi
