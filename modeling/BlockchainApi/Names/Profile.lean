/-
  The name endpoints: registration, update of an address, update of the attributes
  (`handlers/profile/{register,address,attributes}.rs`).

  Each handler reads the store, checks the request, and writes at most once, at its end.  So it is
  modelled in two parts: a decision, which returns the write or the reply that refuses it, and the
  write.  A refused request leaves the store as it was (`respond_store`).

  1. **Shared parts.** All three verify the signature on the chain of a coin type (`checkSignature`)
     and two of them check the owner of the name (`checkOwner`), by a loop over the addresses of a
     coin type that refuses at the first which is not the signer's.

  2. **Decisions.** They have one inversion lemma each (`registerDecision_eq_ok`,
     `updateAddressDecision_eq_ok`, `updateAttributesDecision_eq_ok`), which lists the checks in the
     order of the source.  Later proofs use these and do not unfold the handlers.

  3. **Coin types.** An address update carries two of them, the request's and the signed payload's.
     The signature is verified on the chain of the payload's, the owner is looked up under the
     request's (`update_verified_as_owner_iff`); an attributes update uses the request's for both.

  A registration takes any error of its lookup for an absent name, as the source does.
-/
import BlockchainApi.Names.Payload

namespace BlockchainApi

/-- What the name handlers take from the configuration and from other crates. -/
structure NamesService where
  allowedZones : Option (List String)
  testingProjectId : Option String
  /-- `serde_json::from_str::<Value>`, which keeps every field of an object. -/
  parseJson : String → Except String Value
  /-- `H160::from_str`. -/
  h160FromStr : String → Option Address

/-- `verify_message_signature`: message, signature, address, chain. -/
abbrev Verify := String → String → String → String → Outcome CryptoUtilsError Bool

/-- The database as one request meets it: it may fail to answer queries, fail to write, and
    return rows in any order. -/
structure Pool where
  now : Nat
  addressOrder : RowOrder AddressRow
  nameOrder : RowOrder NameRow
  /-- Queries fail with this text. -/
  queryError : Option String
  /-- Statements that write fail with this text. -/
  writeError : Option String

namespace Pool

/-- A query against the pool. -/
def query {α : Type} (pool : Pool) (result : Except SqlxError α) : Except SqlxError α :=
  match pool.queryError with
  | some text => .error (.database text)
  | none => result

/-- A statement against the pool. -/
def write {ε α : Type} (pool : Pool) (failed : SqlxError → ε) (result : Except ε α) : Except ε α :=
  match pool.writeError with
  | some text => .error (failed (.database text))
  | none => result

/-- `get_name_and_addresses_by_name` against the pool. -/
def lookup (pool : Pool) (s : Store) (name : String) : Except SqlxError NameAndAddresses :=
  pool.query (s.getNameAndAddressesByName pool.addressOrder name)

theorem lookup_eq_ok {pool : Pool} {s : Store} {name : String} {found : NameAndAddresses}
    (h : pool.lookup s name = .ok found) :
    found.addresses = s.getAddressesByName pool.addressOrder name ∧ s.names.has name = true := by
  rw [lookup, query] at h
  split at h
  · cases h
  · rw [Store.getNameAndAddressesByName, Store.getName] at h
    split at h
    · next row hrow =>
      cases h
      obtain ⟨hmem, hname⟩ := Table.find?_eq_some.mp hrow
      exact ⟨rfl, Table.has_iff.mpr ⟨row, hmem, hname⟩⟩
    · cases h

end Pool

/-- The bodies of the responses. -/
inductive NameReply where
  | nameAndAddresses (found : NameAndAddresses)
  | addresses (updated : ENSIP11AddressesMap)
  | attributes (updated : Attributes)
  | names (found : List NameAndAddresses)
  | emptyResponse
  /-- A status other than 200, with a text. -/
  | failure (status : Nat) (text : String)

/-- How a handler ends before it writes. -/
inductive Early where
  | error (e : RpcError)
  | reply (r : NameReply)

/-- The write a handler decides on. -/
inductive NameOperation where
  | register (name : String) (attributes : Attributes) (addresses : ENSIP11AddressesMap)
  | updateAddress (name : String) (coinType : UInt32) (address : String)
  | updateAttributes (name : String) (attributes : Attributes)

/-! ## Parts the handlers share: the message, the signature, the owner -/

namespace NamesService

variable (svc : NamesService)

/-- `serde_json::from_str::<T>(raw_payload)`. -/
def fromStr {α : Type} (deserialize : Value → Except String α) (message : String) :
    Except String α :=
  svc.parseJson message >>= deserialize

/-- The signature check, on the chain of a coin type. -/
def checkSignature (verify : Verify) (request : RegisterRequest) (coinType : UInt32) :
    Outcome Early Unit := do
  let _ ← Outcome.okOr svc.testingProjectId (.error (.invalidConfiguration
    "Missing testing project id in the configuration for eip1271 lookups"))
  let valid ←
    match verify request.message request.signature request.address (chainIdCaip2 coinType) with
    | .ok valid => Outcome.ok valid
    | .err _ => .err (.error (.signatureValidationError "Invalid signature"))
    | .panic => .panic
  Outcome.ensure valid (.error (.signatureValidationError "Signature verification error"))

/-- The body of the ownership loop. -/
def checkOwnerStep (owner : Address) (coinType : UInt32) (authorized : Bool)
    (a : (_ : UInt32) × NameAddress) : Outcome Early Bool :=
  if a.1 = coinType then
    match svc.h160FromStr a.2.address with
    | none => .err (.error .invalidAddress)
    | some nameOwner =>
      if owner ≠ nameOwner then .err (.error .nameOwnerValidationError) else .ok true
  else .ok authorized

/-- The loop that checks the ownership of the name, over the addresses of a coin type. -/
def checkOwner (owner : Address) (coinType : UInt32) (addresses : ENSIP11AddressesMap) :
    Outcome Early Unit := do
  let authorized ← addresses.entries.foldlM (svc.checkOwnerStep owner coinType) false
  Outcome.ensure authorized (.error .nameOwnerValidationError)

variable {svc}

theorem checkSignature_eq_ok {verify : Verify} {request : RegisterRequest} {coinType : UInt32}
    {u : Unit} :
    svc.checkSignature verify request coinType = .ok u ↔
      svc.testingProjectId.isSome = true ∧
        verify request.message request.signature request.address (chainIdCaip2 coinType)
          = .ok true := by
  rw [checkSignature, Outcome.bind_eq_ok]
  simp only [Outcome.okOr_eq_ok]
  cases verify request.message request.signature request.address (chainIdCaip2 coinType) with
  | ok valid => simp [Option.isSome_iff_exists]
  | err e => simp
  | panic => simp

/-- The loop returns when each address of the coin type is the owner's. -/
theorem foldlM_checkOwnerStep {owner : Address} {coinType : UInt32}
    {entries : List ((_ : UInt32) × NameAddress)} {authorized result : Bool} :
    entries.foldlM (svc.checkOwnerStep owner coinType) authorized = .ok result ↔
      (∀ a ∈ entries, a.1 = coinType → svc.h160FromStr a.2.address = some owner) ∧
        result = (authorized || entries.any fun a => a.1 = coinType) := by
  induction entries generalizing authorized with
  | nil => simp [eq_comm]
  | cons a entries ih =>
    rw [List.foldlM_cons, Outcome.bind_eq_ok]
    simp only [ih, checkOwnerStep]
    by_cases hcoin : a.1 = coinType
    · rw [if_pos hcoin]
      cases hparse : svc.h160FromStr a.2.address with
      | none => simp [hcoin, hparse]
      | some nameOwner =>
        by_cases howner : owner = nameOwner
        · subst howner; simp [hcoin, hparse]
        · simp [hcoin, hparse, howner, eq_comm]
    · simp [hcoin]

/-- **The ownership check**: the coin type has an address, and it is the owner's. The map has one
    address for a coin type, so the loop has at most one turn that matters. -/
theorem checkOwner_eq_ok {owner : Address} {coinType : UInt32} {addresses : ENSIP11AddressesMap}
    {u : Unit} :
    svc.checkOwner owner coinType addresses = .ok u ↔
      ∃ a, addresses.lookup coinType = some a ∧ svc.h160FromStr a.address = some owner := by
  rw [checkOwner, Outcome.bind_eq_ok]
  simp only [foldlM_checkOwnerStep, Outcome.ensure_eq_ok]
  constructor
  · rintro ⟨authorized, ⟨hall, rfl⟩, hany⟩
    simp only [Bool.false_or, List.any_eq_true, decide_eq_true_eq] at hany
    obtain ⟨⟨c, a⟩, hmem, rfl⟩ := hany
    exact ⟨a, AList.mem_lookup_iff.mpr hmem, hall _ hmem rfl⟩
  · rintro ⟨a, hlookup, hparse⟩
    have hmem : (⟨coinType, a⟩ : (_ : UInt32) × NameAddress) ∈ addresses.entries :=
      AList.mem_lookup_iff.mp hlookup
    refine ⟨true, ⟨?_, ?_⟩, rfl⟩
    · rintro ⟨c, b⟩ hb rfl
      have hlookup' := AList.mem_lookup_iff.mpr hb
      rw [Option.mem_def, hlookup, Option.some.injEq] at hlookup'
      exact hlookup' ▸ hparse
    · simp only [Bool.false_or]
      exact (List.any_eq_true.mpr ⟨_, hmem, by simp⟩).symm

/-! ## Registration: checks, a lookup, and the addresses of a new name -/

variable (svc)

/-- The checks of the registration before it looks the name up. -/
def registerChecks (request : RegisterRequest) : Outcome Early RegisterPayload := do
  let allowedZones ← Outcome.okOr svc.allowedZones
    (.error (.invalidConfiguration "Names allowed zones are not defined"))
  let payload ← Outcome.ofExcept (fun e => Early.error (.serdeJson e))
    (svc.fromStr RegisterPayload.deserialize request.message)
  Outcome.ensure (isNameFormatCorrect payload.name) (.error (.invalidNameFormat payload.name))
  Outcome.ensure (isNameLengthCorrect payload.name) (.error (.invalidNameLength payload.name))
  Outcome.ensure (isNameInAllowedZones payload.name allowedZones)
    (.error (.invalidNameZone payload.name))
  Outcome.ensure (isCoinTypeSupported request.coinType)
    (.error (.unsupportedCoinType request.coinType))
  return payload

/-- The checks of the registration after it has looked the name up. -/
def registerAuthorize (verify : Verify) (now : UInt64) (request : RegisterRequest)
    (payload : RegisterPayload) : Outcome Early Unit := do
  Outcome.ensure (isTimestampWithinInterval now payload.timestamp unixtimestampSyncThreshold)
    (.error (.expiredTimestamp payload.timestamp))
  Outcome.ensure
    (payload.attributes.all fun attributes =>
      checkAttributes attributes supportedAttributes attributesValueMaxLength)
    (.error .unsupportedNameAttribute)
  svc.checkSignature verify request request.coinType

end NamesService

/-- The addresses of a new name: the request's coin type, and coin type 60 if it is another one. -/
def registerAddresses (request : RegisterRequest) : ENSIP11AddressesMap :=
  let addresses : ENSIP11AddressesMap :=
    HashMap.ofPairs [(request.coinType, ⟨request.address, none⟩)]
  if addresses.lookup 60 = none then AList.insert 60 ⟨request.address, none⟩ addresses
  else addresses

/-- The write of a registration. -/
def RegisterPayload.operation (payload : RegisterPayload) (request : RegisterRequest) :
    NameOperation :=
  .register payload.name (payload.attributes.getD ∅) (registerAddresses request)

namespace NamesService

variable (svc : NamesService)

/-- `register::handler_internal` up to its write. Any error of the lookup counts as an absent
    name, a failure of the database included. -/
def registerDecision (verify : Verify) (pool : Pool) (s : Store) (now : UInt64)
    (request : RegisterRequest) : Outcome Early NameOperation := do
  let payload ← svc.registerChecks request
  Outcome.ensure ((pool.lookup s payload.name).isOk = false)
    (.error (.nameAlreadyRegistered payload.name))
  svc.registerAuthorize verify now request payload
  return payload.operation request

/-! ## Updates, of an address and of the attributes -/

/-- `address::handler_internal` up to its write. -/
def updateAddressDecision (verify : Verify) (pool : Pool) (s : Store) (now : UInt64) (name : String)
    (request : RegisterRequest) : Outcome Early NameOperation := do
  let payload ← Outcome.ofExcept (fun e => Early.error (.serdeJson e))
    (svc.fromStr UpdateAddressPayload.deserialize request.message)
  Outcome.ensure (isCoinTypeSupported request.coinType)
    (.error (.unsupportedCoinType request.coinType))
  Outcome.ensure (isCoinTypeSupported payload.coinType)
    (.error (.unsupportedCoinType payload.coinType))
  Outcome.ensure (svc.h160FromStr payload.address).isSome (.error .invalidAddress)
  let found ← Outcome.ofExcept
    (fun e => match e with
      | .rowNotFound => Early.error (.nameNotRegistered name)
      | .database _ => Early.reply (.failure 500 "Name lookup database error"))
    (pool.lookup s name)
  Outcome.ensure (isTimestampWithinInterval now payload.timestamp unixtimestampSyncThreshold)
    (.error (.expiredTimestamp payload.timestamp))
  let owner ← Outcome.okOr (svc.h160FromStr request.address) (.error .invalidAddress)
  svc.checkSignature verify request payload.coinType
  svc.checkOwner owner request.coinType found.addresses
  return .updateAddress name payload.coinType payload.address

/-- `attributes::handler_internal` up to its write. -/
def updateAttributesDecision (verify : Verify) (pool : Pool) (s : Store) (now : UInt64)
    (name : String) (request : RegisterRequest) : Outcome Early NameOperation := do
  let payload ← Outcome.ofExcept (fun e => Early.error (.serdeJson e))
    (svc.fromStr UpdateAttributesPayload.deserialize request.message)
  Outcome.ensure (isCoinTypeSupported request.coinType)
    (.error (.unsupportedCoinType request.coinType))
  let found ← Outcome.ofExcept (fun _ => Early.error (.nameNotRegistered name)) (pool.lookup s name)
  Outcome.ensure (isTimestampWithinInterval now payload.timestamp unixtimestampSyncThreshold)
    (.error (.expiredTimestamp payload.timestamp))
  let owner ← Outcome.okOr (svc.h160FromStr request.address) (.error .invalidAddress)
  svc.checkSignature verify request request.coinType
  svc.checkOwner owner request.coinType found.addresses
  Outcome.ensure (checkAttributes payload.attributes supportedAttributes attributesValueMaxLength)
    (.error .unsupportedNameAttribute)
  return .updateAttributes name payload.attributes

variable {svc} {verify : Verify} {pool : Pool} {s : Store} {now : UInt64} {name : String}
variable {request : RegisterRequest} {op : NameOperation}

/-- **What the registration checks.** -/
theorem registerDecision_eq_ok :
    svc.registerDecision verify pool s now request = .ok op ↔
      ∃ payload, svc.registerChecks request = .ok payload ∧
        (pool.lookup s payload.name).isOk = false ∧
        svc.registerAuthorize verify now request payload = .ok () ∧
        payload.operation request = op := by
  simp only [registerDecision, Outcome.bind_eq_ok, Outcome.ensure_eq_ok, Outcome.pure_eq,
    Outcome.ok.injEq, Unique.exists_iff, PUnit.default_eq_unit]

/-- Is the request refused by none of the checks of an address update but that of the
    signature? -/
def AdmitsAddressUpdate (svc : NamesService) (pool : Pool) (s : Store) (now : UInt64)
    (name : String) (request : RegisterRequest) (payload : UpdateAddressPayload) : Prop :=
  svc.fromStr UpdateAddressPayload.deserialize request.message = .ok payload ∧
    isCoinTypeSupported request.coinType = true ∧ isCoinTypeSupported payload.coinType = true ∧
    (svc.h160FromStr payload.address).isSome = true ∧
    isTimestampWithinInterval now payload.timestamp unixtimestampSyncThreshold = true ∧
    svc.testingProjectId.isSome = true ∧
    ∃ found owner a, pool.lookup s name = .ok found ∧
      svc.h160FromStr request.address = some owner ∧
      found.addresses.lookup request.coinType = some a ∧ svc.h160FromStr a.address = some owner

/-- **What an address update checks.** -/
theorem updateAddressDecision_eq_ok :
    svc.updateAddressDecision verify pool s now name request = .ok op ↔
      ∃ payload, svc.AdmitsAddressUpdate pool s now name request payload ∧
        verify request.message request.signature request.address (chainIdCaip2 payload.coinType)
          = .ok true ∧
        .updateAddress name payload.coinType payload.address = op := by
  simp only [updateAddressDecision, AdmitsAddressUpdate, Outcome.bind_eq_ok, Outcome.ensure_eq_ok,
    Outcome.ofExcept_eq_ok, Outcome.okOr_eq_ok, checkSignature_eq_ok, checkOwner_eq_ok,
    Outcome.pure_eq, Outcome.ok.injEq, exists_const]
  constructor
  · rintro ⟨payload, hparse, hcoin, hpayloadCoin, haddress, found, hfound, htime, owner, howner,
      ⟨hproject, hverify⟩, ⟨a, ha, haowner⟩, rfl⟩
    exact ⟨payload, ⟨hparse, hcoin, hpayloadCoin, haddress, htime, hproject, found, owner, a,
      hfound, howner, ha, haowner⟩, hverify, rfl⟩
  · rintro ⟨payload, ⟨hparse, hcoin, hpayloadCoin, haddress, htime, hproject, found, owner, a,
      hfound, howner, ha, haowner⟩, hverify, rfl⟩
    exact ⟨payload, hparse, hcoin, hpayloadCoin, haddress, found, hfound, htime, owner, howner,
      ⟨hproject, hverify⟩, ⟨a, ha, haowner⟩, rfl⟩

/-- **What an attributes update checks.** -/
theorem updateAttributesDecision_eq_ok :
    svc.updateAttributesDecision verify pool s now name request = .ok op ↔
      ∃ payload found owner a,
        svc.fromStr UpdateAttributesPayload.deserialize request.message = .ok payload ∧
        isCoinTypeSupported request.coinType = true ∧ pool.lookup s name = .ok found ∧
        isTimestampWithinInterval now payload.timestamp unixtimestampSyncThreshold = true ∧
        svc.h160FromStr request.address = some owner ∧ svc.testingProjectId.isSome = true ∧
        verify request.message request.signature request.address (chainIdCaip2 request.coinType)
          = .ok true ∧
        found.addresses.lookup request.coinType = some a ∧
        svc.h160FromStr a.address = some owner ∧
        checkAttributes payload.attributes supportedAttributes attributesValueMaxLength = true ∧
        .updateAttributes name payload.attributes = op := by
  simp only [updateAttributesDecision, Outcome.bind_eq_ok, Outcome.ensure_eq_ok,
    Outcome.ofExcept_eq_ok, Outcome.okOr_eq_ok, checkSignature_eq_ok, checkOwner_eq_ok,
    Outcome.pure_eq, Outcome.ok.injEq, exists_const]
  constructor
  · rintro ⟨payload, hparse, hcoin, found, hfound, htime, owner, howner, ⟨hproject, hverify⟩,
      ⟨a, ha, haowner⟩, hattributes, rfl⟩
    exact ⟨payload, found, owner, a, hparse, hcoin, hfound, htime, howner, hproject, hverify, ha,
      haowner, hattributes, rfl⟩
  · rintro ⟨payload, found, owner, a, hparse, hcoin, hfound, htime, howner, hproject, hverify, ha,
      haowner, hattributes, rfl⟩
    exact ⟨payload, hparse, hcoin, found, hfound, htime, owner, howner, ⟨hproject, hverify⟩,
      ⟨a, ha, haowner⟩, hattributes, rfl⟩

end NamesService

/-! ## The handlers: a decision and its write -/

/-- `Display for DatabaseError`. -/
def DatabaseError.display : DatabaseError → String
  | .sqlxError .rowNotFound =>
    "sqlx error: no rows returned by a query that expected to return at least one row"
  | .sqlxError (.database text) => "sqlx error: error returned from database: " ++ text
  | .badArgument text => "Bad argument were provided for the database helper: " ++ text
  | .addressRequired text => "Address required: " ++ text

/-- What the handlers do once they have decided. -/
def NameOperation.execute (pool : Pool) (s : Store) :
    NameOperation → Outcome RpcError NameReply × Store
  | .register name attributes addresses =>
    match pool.write .sqlxError (s.insertName pool.now name attributes .eip155 addresses) with
    | .error _ => (.ok (.failure 500 ""), s)
    | .ok inserted =>
      (match pool.lookup inserted name with
        | .ok found => .ok (.nameAndAddresses found)
        | .error .rowNotFound => .err (.nameRegistrationError
          "Name was not found in the database after the registration")
        | .error (.database _) => .ok (.failure 500 ""), inserted)
  | .updateAddress name coinType address =>
    match pool.write id
        (s.insertOrUpdateAddress pool.now name .eip155 (chainIdOf coinType) address) with
    | .error _ => (.ok (.failure 500 "Failed to update address"), s)
    | .ok (written, updated) => (.ok (.addresses updated), written)
  | .updateAttributes name attributes =>
    match pool.write id (s.updateNameAttributes pool.now name attributes) with
    | .error e =>
      (.ok (.failure 500 ("Failed to update attributes: " ++ (DatabaseError.sqlxError e).display)),
        s)
    | .ok (written, updated) => (.ok (.attributes updated), written)

/-- A handler: the decision, then its write. -/
def respond (pool : Pool) (s : Store) :
    Outcome Early NameOperation → Outcome RpcError NameReply × Store
  | .ok op => op.execute pool s
  | .err (.error e) => (.err e, s)
  | .err (.reply r) => (.ok r, s)
  | .panic => (.panic, s)

/-- A refused request leaves the store as it was. -/
theorem respond_store {pool : Pool} {s : Store} {decision : Outcome Early NameOperation}
    (h : (respond pool s decision).2 ≠ s) : ∃ op, decision = .ok op := by
  match decision, h with
  | .ok op, _ => exact ⟨op, rfl⟩
  | .err (.error e), h => exact absurd rfl h
  | .err (.reply r), h => exact absurd rfl h
  | .panic, h => exact absurd rfl h

/-- A database that answers every query, in some order. -/
def Pool.answering (now : Nat) (addressOrder : RowOrder AddressRow) (nameOrder : RowOrder NameRow) :
    Pool :=
  ⟨now, addressOrder, nameOrder, none, none⟩

/-- A database that answers every query, in the order of its rows. -/
def Pool.reliable (now : Nat) : Pool := .answering now .stored .stored

namespace NamesService

/-- A service for the zone `wct.id` whose parser knows the given messages. -/
def reading (messages : List (String × Value)) : NamesService where
  allowedZones := some ["wct.id"]
  testingProjectId := some "test"
  parseJson text :=
    match messages.find? fun m => m.1 = text with
    | some m => .ok m.2
    | none => .error "expected value"
  h160FromStr := h160OfHex

/-- `register::handler_internal`. -/
def register (svc : NamesService) (verify : Verify) (pool : Pool) (s : Store) (now : UInt64)
    (request : RegisterRequest) : Outcome RpcError NameReply × Store :=
  respond pool s (svc.registerDecision verify pool s now request)

/-- `address::handler_internal`. -/
def updateAddress (svc : NamesService) (verify : Verify) (pool : Pool) (s : Store) (now : UInt64)
    (name : String) (request : RegisterRequest) : Outcome RpcError NameReply × Store :=
  respond pool s (svc.updateAddressDecision verify pool s now name request)

/-- `attributes::handler_internal`. -/
def updateAttributes (svc : NamesService) (verify : Verify) (pool : Pool) (s : Store)
    (now : UInt64) (name : String) (request : RegisterRequest) :
    Outcome RpcError NameReply × Store :=
  respond pool s (svc.updateAttributesDecision verify pool s now name request)

end NamesService

end BlockchainApi
