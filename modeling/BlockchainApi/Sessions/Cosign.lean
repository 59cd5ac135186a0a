/-
  The co-sign handler (`src/handlers/sessions/cosign.rs`).

  The handler runs in three stages.  `loadRequest` checks the account in the path, asks the entry
  point for the hash of the packed operation, reads the permission item from the store, refuses a
  revoked or expired one, and extracts the execution batch from the operation's call data.
  `authorize` puts the permission checks behind it.  `sign` signs the hash with the key of the item,
  whatever the batch is: what is signed is what `authorize` lets through.

  1. **Which batches.** `coSign_covered` says which batches are let through, permission type by
     permission type, in both directions: what is known of every batch that is signed, and that
     nothing else is asked of a batch.  The two demonstrations of it are an item with only an
     allowance, which has a contract call signed, and an item with only a contract-call permission,
     which has a transfer signed.

  2. **What is signed.** `signsHashOf_of_coSign`: the hash that the entry point gives for the packed
     form of the operation in the request, as an EIP-191 message.

  3. **How much.** `signed_within_allowance_iff` says for which batches the allowances bound the
     true total: those whose sum fits 256 bits, and those that are refused anyway.  Two transfers of
     `2 ^ 255` wei have the sum zero.

  Other services answer through `CosignEnv`, functions of other crates come in as `CosignDeps`.  The
  demonstrations run on a store of one item, whose signature is a real one.
-/
import BlockchainApi.Sessions.PermissionChecks

namespace BlockchainApi

open ByteCodec

/-! ## Items and requests

A permission item is stored whole, as JSON, under the account's CAIP-10 address and the permission
control identifier (`pci`).  The four handlers of `src/handlers/sessions` read and write the same
item. -/

/-- `StoragePermissionsItem`: what was granted, to whom, until when, the keys, and since when it
    is revoked, if it is. -/
structure StoragePermissionsItem where
  pci : String
  expiry : Nat
  createdAt : Nat
  projectId : String
  signer : PermissionTypeData
  permissions : List PermissionTypeData
  policies : List PermissionTypeData
  context : Option Bytes
  verificationKey : String
  signingKey : String
  revokedAt : Option Nat

/-- `NewPermissionPayload`. -/
structure NewPermissionPayload where
  expiry : Nat
  signer : PermissionTypeData
  permissions : List PermissionTypeData
  policies : List PermissionTypeData

/-- `ActivatePermissionPayload`. -/
structure ActivatePermissionPayload where
  pci : String
  expiry : Nat
  signer : PermissionTypeData
  permissions : List PermissionTypeData
  policies : List PermissionTypeData
  context : Bytes

/-- `PermissionRevokeRequest`. -/
structure PermissionRevokeRequest where
  pci : String

/-- `CoSignRequest`. -/
structure CoSignRequest where
  pci : String
  userOp : UserOperation

/-! ## The co-signer's surroundings: what it asks others -/

/-- `SigningKey`. -/
structure SigningKey where
  secret : B256

/-- Functions of other crates the handler calls. -/
structure CosignDeps where
  execute : ExecuteCodecs
  parsers : AddressParsers
  permissions : PermissionDecoders
  /-- `serde_json::from_slice::<StoragePermissionsItem>`. -/
  itemFromSlice : Bytes → Except String StoragePermissionsItem
  keccak256 : Bytes → B256
  /-- `SigningKey::from_bytes`, on a slice of the right length. -/
  signingKeyFromBytes : B256 → Except String SigningKey
  /-- `LocalWallet::sign_hash`. -/
  signHash : SigningKey → B256 → Except String EthSignature
  /-- `ethers::abi::encode` at `bytes[]`. -/
  bytesArray : AbiCodec (List Bytes)

/-- What the services around the handler answer. -/
structure CosignEnv where
  /-- `validate_project_access_and_quota`. -/
  validateProject : String → Except RpcError Unit
  testingProjectId : Option String
  /-- `getUserOpHash` of the entry point, called for a project on a chain. -/
  getUserOpHash : (rpcProjectId chainId : String) → (contract : Address) → PackedUserOperation →
    Except CryptoUtilsError B256
  /-- `hget` of the store, when one is configured. -/
  irn : Option (String → String → Except String (Option Bytes))
  /-- Seconds since the epoch. -/
  now : Nat

/-- `ENTRY_POINT_V07_CONTRACT_ADDRESS`. -/
def entryPointV07ContractAddress : Address :=
  FixedBytes.ofNat 20 0x0000000071727De22E5E9d8BAf0edAc6f37da032

/-- What the handler holds when it comes to the permission checks. -/
structure LoadedRequest where
  item : StoragePermissionsItem
  batch : List ExecutionTransaction
  eip191UserOpHash : Bytes

/-- `handler_internal`, up to the permission checks. The hash comes before the item is read, so
    an entry point that does not answer hides whether there is one. -/
def loadRequest (deps : CosignDeps) (env : CosignEnv) (caip10Address projectId : String)
    (request : CoSignRequest) : Outcome RpcError LoadedRequest := do
  Outcome.ofExcept id (env.validateProject projectId)
  -- the CAIP-10 address
  let (ns, chainId, address) ←
    Outcome.mapErr RpcError.cryptoUtils (disassembleCaip10 deps.parsers caip10Address)
  Outcome.ensure (ns = .eip155) (.unsupportedNamespace ns)
  Outcome.ensure (isAddressValid deps.parsers address ns) .invalidAddress
  let chainIdUint ← Outcome.okOr (parseUnsigned (2 ^ 64) chainId.toList)
    (.invalidChainIdFormat chainId)
  Outcome.ensure (chainIdIsSupported chainIdUint) (.unsupportedChain chainId)
  -- the hash of the operation
  let rpcProjectId ← Outcome.okOr env.testingProjectId (.invalidConfiguration
    "Missing testing project id in the configuration for the cosigner RPC calls")
  let userOpHash ← Outcome.ofExcept RpcError.cryptoUtils
    (env.getUserOpHash rpcProjectId (ns.display ++ ":" ++ chainId) entryPointV07ContractAddress
      request.userOp.getPacked)
  let eip191UserOpHash := toEip191Message userOpHash.bytes
  -- the item
  let hget ← Outcome.okOr env.irn .irnNotConfigured
  let stored ← Outcome.ofExcept RpcError.storage (hget caip10Address request.pci)
  let stored ← Outcome.okOr stored (.permissionNotFound caip10Address request.pci)
  let item ← Outcome.ofExcept RpcError.serdeJson (deps.itemFromSlice stored)
  Outcome.ensure (item.revokedAt = none) (.revokedPermission request.pci)
  Outcome.ensure (¬ item.expiry < env.now) (.permissionExpired request.pci)
  let batch ← extractExecutionBatchComponents deps.execute request.userOp.callData
  return { item, batch, eip191UserOpHash }

/-- `handler_internal`, up to the point where it signs. -/
def authorize (deps : CosignDeps) (env : CosignEnv) (caip10Address projectId : String)
    (request : CoSignRequest) : Outcome RpcError LoadedRequest := do
  let loaded ← loadRequest deps env caip10Address projectId request
  permissionChecks deps.permissions loaded.batch loaded.item.permissions
  return loaded

/-- The signing key of an item. -/
def signingKeyOf (deps : CosignDeps) (signingKeyBytes : Bytes) : Outcome RpcError SigningKey :=
  match FixedBytes.ofSlice? 32 signingKeyBytes with
  | some key => Outcome.ofExcept RpcError.keyFormatError (deps.signingKeyFromBytes key)
  -- `into()` a generic array asserts the length
  | none => .panic

/-- The rest of `handler_internal`; the result is the body of the response. -/
def sign (deps : CosignDeps) (request : CoSignRequest) (loaded : LoadedRequest) :
    Outcome RpcError Value := do
  let permissionContext ← Outcome.okOr loaded.item.context
    (.permissionContextNotUpdated request.pci)
  let signingKeyBytes ← Outcome.ofExcept RpcError.wrongHexFormat (hexDecode loaded.item.signingKey)
  let signer ← signingKeyOf deps signingKeyBytes
  let signature ← Outcome.ofExcept RpcError.signatureFormatError
    (deps.signHash signer (deps.keccak256 loaded.eip191UserOpHash))
  let packedSignature := packSignature signature
  if h : 20 ≤ permissionContext.length then
    let validatorAddress := FixedBytes.front 20 permissionContext h
    let concatenatedSignature :=
      if isOwnableValidatorAddress validatorAddress then
        request.userOp.signature ++ packedSignature
      else abiEncodeTwoBytesArrays deps.bytesArray packedSignature request.userOp.signature
    return .object [("signature", .string ("0x" ++ hexEncode concatenatedSignature))]
  else .err (.permissionContextNotUpdated request.pci)

/-- `handler_internal`. -/
def coSign (deps : CosignDeps) (env : CosignEnv) (caip10Address projectId : String)
    (request : CoSignRequest) : Outcome RpcError Value := do
  let loaded ← authorize deps env caip10Address projectId request
  sign deps request loaded

/-! ## What is signed has been authorized

The stages are taken apart by their `bind`s: a response has come through all three. -/

variable {deps : CosignDeps} {env : CosignEnv} {caip10Address projectId : String}
variable {request : CoSignRequest} {loaded : LoadedRequest}

theorem authorize_eq_ok_iff :
    authorize deps env caip10Address projectId request = .ok loaded ↔
      loadRequest deps env caip10Address projectId request = .ok loaded ∧
      permissionChecks deps.permissions loaded.batch loaded.item.permissions = .ok () := by
  unfold authorize
  rw [Outcome.bind_eq_ok]
  constructor
  · rintro ⟨loaded', hload, hrest⟩
    obtain ⟨⟨⟩, hchecks, hret⟩ := Outcome.bind_eq_ok.mp hrest
    cases hret
    exact ⟨hload, hchecks⟩
  · rintro ⟨hload, hchecks⟩
    exact ⟨loaded, hload, Outcome.bind_eq_ok.mpr ⟨(), hchecks, rfl⟩⟩

/-- **A signature is only given on what was authorized**: the item was loaded, neither revoked
    nor expired, and the checks passed for its permissions. -/
theorem authorized_of_coSign {response : Value}
    (h : coSign deps env caip10Address projectId request = .ok response) :
    ∃ loaded, authorize deps env caip10Address projectId request = .ok loaded ∧
      sign deps request loaded = .ok response :=
  Outcome.bind_eq_ok.mp h

/-- The body of a response holds the signature in hex. -/
theorem response_of_sign {response : Value} (h : sign deps request loaded = .ok response) :
    ∃ bytes, response = .object [("signature", .string ("0x" ++ hexEncode bytes))] := by
  unfold sign at h
  simp only [Outcome.bind_eq_ok] at h
  obtain ⟨context, -, key, -, signer, -, signature, -, h⟩ := h
  split at h
  · exact ⟨_, (Outcome.ok.inj h).symm⟩
  · cases h

/-- **What is loaded**: the item stored under the account and the identifier of the request,
    neither revoked nor expired, and the executions of the operation's call data. Each `?` of the
    source is one step of the proof. -/
theorem loadRequest_eq_ok
    (h : loadRequest deps env caip10Address projectId request = .ok loaded) :
    (∃ hget stored, env.irn = some hget ∧ hget caip10Address request.pci = .ok (some stored) ∧
      deps.itemFromSlice stored = .ok loaded.item) ∧
    loaded.item.revokedAt = none ∧ env.now ≤ loaded.item.expiry ∧
    extractExecutionBatchComponents deps.execute request.userOp.callData = .ok loaded.batch := by
  unfold loadRequest at h
  simp only [Outcome.bind_eq_ok, Outcome.ofExcept_eq_ok, Outcome.mapErr_eq_ok, Outcome.okOr_eq_ok,
    Outcome.ensure_eq_ok] at h
  obtain ⟨-, -, ⟨ns, chainId, address⟩, -, h⟩ := h
  simp only [Outcome.pure_eq, Outcome.ok.injEq] at h
  obtain ⟨-, -, -, -, -, -, -, -, -, -, -, -, hget, hirn, stored, hstored, bytes, rfl, item,
    hitem, -, hrevoked, -, hexpiry, batch, hbatch, rfl⟩ := h
  exact ⟨⟨hget, bytes, hirn, hstored, hitem⟩, hrevoked, Nat.le_of_not_lt hexpiry, hbatch⟩

/-! ## What is signed

  The hash in the signature is the one the entry point gave for the packed operation: the packed
  form of the request's operation is the only one the handler asks about. -/

/-- The response holds a signature on the hash of the packed operation, as an EIP-191 message. -/
def SignsHashOf (deps : CosignDeps) (env : CosignEnv) (packed : PackedUserOperation)
    (userSignature : Bytes) (response : Value) : Prop :=
  ∃ rpcProjectId caip2 userOpHash key signature concatenated,
    env.testingProjectId = some rpcProjectId ∧
    env.getUserOpHash rpcProjectId caip2 entryPointV07ContractAddress packed = .ok userOpHash ∧
    deps.signHash key (deps.keccak256 (toEip191Message userOpHash.bytes)) = .ok signature ∧
    (concatenated = userSignature ++ packSignature signature ∨ concatenated =
      abiEncodeTwoBytesArrays deps.bytesArray (packSignature signature) userSignature) ∧
    response = .object [("signature", .string ("0x" ++ hexEncode concatenated))]

/-- The hash a loaded request holds. -/
theorem hash_of_loadRequest
    (h : loadRequest deps env caip10Address projectId request = .ok loaded) :
    ∃ rpcProjectId caip2 userOpHash, env.testingProjectId = some rpcProjectId ∧
      env.getUserOpHash rpcProjectId caip2 entryPointV07ContractAddress request.userOp.getPacked
        = .ok userOpHash ∧
      loaded.eip191UserOpHash = toEip191Message userOpHash.bytes := by
  unfold loadRequest at h
  simp only [Outcome.bind_eq_ok, Outcome.ofExcept_eq_ok, Outcome.mapErr_eq_ok, Outcome.okOr_eq_ok,
    Outcome.ensure_eq_ok] at h
  obtain ⟨-, -, ⟨ns, chainId, address⟩, -, h⟩ := h
  simp only [Outcome.pure_eq, Outcome.ok.injEq] at h
  obtain ⟨-, -, -, -, -, -, -, -, rpcProjectId, hproject, userOpHash, hhash, -, -, -, -, -, -, -,
    -, -, -, -, -, -, -, rfl⟩ := h
  exact ⟨rpcProjectId, _, userOpHash, hproject, hhash, rfl⟩

/-- The signature in a response. -/
theorem signature_of_sign {response : Value} (h : sign deps request loaded = .ok response) :
    ∃ key signature concatenated,
      deps.signHash key (deps.keccak256 loaded.eip191UserOpHash) = .ok signature ∧
      (concatenated = request.userOp.signature ++ packSignature signature ∨ concatenated =
        abiEncodeTwoBytesArrays deps.bytesArray (packSignature signature)
          request.userOp.signature) ∧
      response = .object [("signature", .string ("0x" ++ hexEncode concatenated))] := by
  unfold sign at h
  simp only [Outcome.bind_eq_ok, Outcome.ofExcept_eq_ok] at h
  obtain ⟨context, -, bytes, -, key, -, signature, hsignature, h⟩ := h
  split at h
  · refine ⟨key, signature, _, hsignature, ?_, (Outcome.ok.inj h).symm⟩
    -- the two layouts of the signatures
    split
    · exact Or.inl rfl
    · exact Or.inr rfl
  · cases h

/-- **What is signed** is the hash of the packed form of the operation in the request. -/
theorem signsHashOf_of_coSign {response : Value}
    (h : coSign deps env caip10Address projectId request = .ok response) :
    SignsHashOf deps env request.userOp.getPacked request.userOp.signature response := by
  obtain ⟨loaded, hauthorize, hsign⟩ := authorized_of_coSign h
  obtain ⟨hload, -⟩ := authorize_eq_ok_iff.mp hauthorize
  obtain ⟨rpcProjectId, caip2, userOpHash, hproject, hhash, heip191⟩ := hash_of_loadRequest hload
  obtain ⟨key, signature, concatenated, hsignature, hlayout, hresponse⟩ := signature_of_sign hsign
  rw [heip191] at hsignature
  exact ⟨rpcProjectId, caip2, userOpHash, key, signature, concatenated, hproject, hhash,
    hsignature, hlayout, hresponse⟩

/-! ## An item with one permission

  The demonstrations of this module, and those of the modules that co-sign through it, run on a
  store of one item with one permission.  They differ in the permission and in the context the
  item was activated with, so both are parameters here. -/

/-- `eip155:1:0x11…11`. -/
def demoAccount : String := "eip155:1:0x1111111111111111111111111111111111111111"

/-- The identifier of the item below. -/
def demoPci : String := "01890a5d-ac96-774b-bcce-b302099a8057"

/-- The secret key of thirty-two bytes `0x01`. -/
def demoSigningKey : String := "0101010101010101010101010101010101010101010101010101010101010101"

/-- Its public key. -/
def demoVerificationKey : String :=
  "041b84c5567b126440995d3ed5aaba0565d71e1834604819ff9c17f5e9d5dd078f" ++
    "70beaf8f588b541507fed6a642c5ab42dfdf8120a7f639de5122d47a69a8e8d1"

/-- An item with one permission, activated with this context. -/
def demoItemWith (permission : PermissionTypeData) (context : Bytes) : StoragePermissionsItem where
  pci := demoPci
  expiry := 4102444800
  createdAt := 1735689600
  projectId := "demo"
  signer := { type := "keys", data := .array [] }
  permissions := [permission]
  policies := []
  context := some context
  verificationKey := demoVerificationKey
  signingKey := demoSigningKey
  revokedAt := none

/-- An item whose only permission is an allowance of zero. -/
def demoItem (context : Bytes) : StoragePermissionsItem :=
  demoItemWith (allowancePermission "0x0") context

/-- An item with one permission as it is stored, from the text of the permission. -/
def demoItemJsonWith (permission : String) (context : Bytes) : Bytes :=
  ("\x7b\"pci\":\"01890a5d-ac96-774b-bcce-b302099a8057\",\"expiry\":4102444800," ++
    "\"createdAt\":1735689600,\"projectId\":\"demo\"," ++
    "\"signer\":\x7b\"type\":\"keys\",\"data\":[]\x7d,\"permissions\":[" ++ permission ++
    "],\"policies\":[],\"context\":\"0x" ++ hexEncode context ++
    "\",\"verificationKey\":\"" ++ demoVerificationKey ++ "\",\"signingKey\":\"" ++
    demoSigningKey ++ "\",\"revokedAt\":null\x7d").toUTF8.data.toList

/-- The item with the allowance of zero as it is stored. -/
def demoItemJson (context : Bytes) : Bytes :=
  demoItemJsonWith ("\x7b\"type\":\"native-token-recurring-allowance\",\"data\":" ++
    "\x7b\"allowance\":\"0x0\",\"start\":0,\"period\":86400\x7d\x7d") context

/-- The item, activated for the OwnableValidator. -/
def zeroAllowanceItem : StoragePermissionsItem := demoItem ownableValidatorAddress.bytes

/-- Addresses as `0x` and forty hex digits. -/
def demoParsers : AddressParsers where
  h160FromStr s := jsonAddress (.string s)
  bs58Decode _ := none

/-- The signature of the key above on the hash of the demonstrations. -/
def demoEthSignature : EthSignature where
  r := 0xc8a64cfdb20010a136058cea1091a33117a9b8848d59725bb98b51718bc0bd83
  s := 0x37cd1fe655d018e0bfd2314b20ed660c306ff87e85195bad83815e6c508c212c
  v := 28

/-- The contract ABI, and functions that know one stored item and the hash it signs. -/
def demoDeps (json : Bytes) (item : StoragePermissionsItem) : CosignDeps where
  execute := standardExecuteCodecs
  parsers := demoParsers
  permissions := jsonPermissionDecoders
  itemFromSlice bytes := if bytes = json then .ok item else .error "expected value"
  keccak256 _ :=
    FixedBytes.ofNat 32 0x5e4106618209740b9f773a94c5667b9659a7a4e2691c7c8a78336e9889a6be07
  signingKeyFromBytes key := .ok ⟨key⟩
  signHash _ _ := .ok demoEthSignature
  bytesArray := AbiCodec.standard bytesArrayAbi

theorem itemFromSlice_demo (json : Bytes) (item : StoragePermissionsItem) :
    (demoDeps json item).itemFromSlice json = .ok item :=
  if_pos rfl

/-- A store that holds one item, in 2025. -/
def demoEnv (json : Bytes) : CosignEnv where
  validateProject _ := .ok ()
  testingProjectId := some "testing"
  getUserOpHash _ _ _ _ := .ok (FixedBytes.ofNat 32 0)
  irn := some fun address pci =>
    .ok (if address = demoAccount ∧ pci = demoPci then some json else none)
  now := 1750000000

/-- A request to co-sign an operation that runs these executions as a batch. -/
def demoRequest (batch : List ExecutionTransaction) : CoSignRequest where
  pci := demoPci
  userOp :=
    { sender := FixedBytes.ofNat 20 0x1111111111111111111111111111111111111111
      nonce := 0
      callData := batchCalldata standardExecuteCodecs (FixedBytes.ofNat 31 0) batch
      callGasLimit := 0
      verificationGasLimit := 0
      preVerificationGas := 0
      maxPriorityFeePerGas := 0
      maxFeePerGas := 0
      signature := []
      factory := none
      factoryData := none
      paymaster := none
      paymasterVerificationGasLimit := none
      paymasterPostOpGasLimit := none
      paymasterData := none }

/-- What the handler holds after loading the request. -/
def demoLoaded (item : StoragePermissionsItem) (batch : List ExecutionTransaction) :
    LoadedRequest where
  item := item
  batch := batch
  eip191UserOpHash := toEip191Message (FixedBytes.ofNat 32 0).bytes

theorem loadRequest_demo (json : Bytes) {item : StoragePermissionsItem}
    (hrevoked : item.revokedAt = none) (hexpiry : ¬ item.expiry < 1750000000)
    (batch : List ExecutionTransaction) :
    loadRequest (demoDeps json item) (demoEnv json) demoAccount "demo" (demoRequest batch)
      = .ok (demoLoaded item batch) := by
  have hparsers : (demoDeps json item).parsers = demoParsers := rfl
  have hcaip : disassembleCaip10 demoParsers demoAccount
      = .ok (.eip155, "1", "0x1111111111111111111111111111111111111111") := by decide
  have haddress : isAddressValid demoParsers "0x1111111111111111111111111111111111111111" .eip155
      = true := by decide
  have hchain : parseUnsigned (2 ^ 64) "1".toList = some 1 := by decide
  have hsupported : chainIdIsSupported 1 = true := by decide
  have hitem := itemFromSlice_demo json item
  have hbatch : extractExecutionBatchComponents (demoDeps json item).execute
      (batchCalldata standardExecuteCodecs (FixedBytes.ofNat 31 0) batch) = .ok batch :=
    extract_batchCalldata standardExecuteCodecs_lawful _ _
  simp only [loadRequest, hparsers, hcaip, haddress, hchain, hsupported, demoEnv, demoRequest,
    Outcome.ofExcept, Outcome.okOr, Outcome.mapErr, Outcome.ensure, Outcome.ok_bind,
    and_self, if_true, hitem, hrevoked, hexpiry, not_false_eq_true, hbatch]
  rfl

/-- The zero allowance, as it is stored. -/
def zeroAllowanceDeps : CosignDeps :=
  demoDeps (demoItemJson ownableValidatorAddress.bytes) zeroAllowanceItem

def zeroAllowanceEnv : CosignEnv := demoEnv (demoItemJson ownableValidatorAddress.bytes)

def zeroAllowanceLoaded (batch : List ExecutionTransaction) : LoadedRequest :=
  demoLoaded zeroAllowanceItem batch

theorem loadRequest_zeroAllowance (batch : List ExecutionTransaction) :
    loadRequest zeroAllowanceDeps zeroAllowanceEnv demoAccount "demo" (demoRequest batch)
      = .ok (zeroAllowanceLoaded batch) :=
  loadRequest_demo (demoItemJson ownableValidatorAddress.bytes) rfl (by decide) batch

/-- What is signed for an item that is ready to sign. -/
theorem sign_demo (json : Bytes) (permission : PermissionTypeData) {context : Bytes}
    (hlength : 20 ≤ context.length) (batch : List ExecutionTransaction) :
    sign (demoDeps json (demoItemWith permission context)) (demoRequest batch)
        (demoLoaded (demoItemWith permission context) batch)
      = .ok (.object [("signature", .string ("0x" ++ hexEncode
          (if isOwnableValidatorAddress (FixedBytes.front 20 context hlength) then
            packSignature demoEthSignature
          else abiEncodeTwoBytesArrays (AbiCodec.standard bytesArrayAbi)
            (packSignature demoEthSignature) [])))]) := by
  have hkey : hexDecode demoSigningKey = .ok (List.replicate 32 0x01) := by decide
  have hslice : FixedBytes.ofSlice? 32 (List.replicate 32 0x01)
      = some ⟨List.replicate 32 0x01, rfl⟩ := rfl
  simp only [sign, signingKeyOf, demoLoaded, demoItemWith, Outcome.okOr, Outcome.ok_bind, hkey,
    hslice, Outcome.ofExcept, dif_pos hlength]
  rfl

theorem coSign_zeroAllowance {batch : List ExecutionTransaction}
    (hchecks : permissionChecks jsonPermissionDecoders batch [allowancePermission "0x0"] = .ok ()) :
    ∃ response, coSign zeroAllowanceDeps zeroAllowanceEnv demoAccount "demo" (demoRequest batch)
      = .ok response := by
  have hlength : 20 ≤ ownableValidatorAddress.bytes.length := Nat.le_refl 20
  exact ⟨_, Outcome.bind_eq_ok.mpr ⟨zeroAllowanceLoaded batch,
    authorize_eq_ok_iff.mpr ⟨loadRequest_zeroAllowance batch, hchecks⟩,
    sign_demo _ (allowancePermission "0x0") hlength batch⟩⟩

/-- The text of a contract-call permission for `0x11…11`. -/
def contractCallJson : String :=
  "\x7b\"type\":\"contract-call\",\"data\":\x7b\"address\":" ++
    "\"0x1111111111111111111111111111111111111111\",\"abi\":[],\"functions\":[]\x7d\x7d"

/-- An item whose only permission is to call `0x11…11`, activated for the OwnableValidator. -/
def contractCallItem : StoragePermissionsItem :=
  demoItemWith (contractCallPermission oneTarget) ownableValidatorAddress.bytes

/-- That item, as it is stored. -/
def contractCallItemJson : Bytes := demoItemJsonWith contractCallJson ownableValidatorAddress.bytes

def contractCallDeps : CosignDeps := demoDeps contractCallItemJson contractCallItem

def contractCallEnv : CosignEnv := demoEnv contractCallItemJson

theorem loadRequest_contractCall (batch : List ExecutionTransaction) :
    loadRequest contractCallDeps contractCallEnv demoAccount "demo" (demoRequest batch)
      = .ok (demoLoaded contractCallItem batch) :=
  loadRequest_demo contractCallItemJson rfl (by decide) batch

theorem coSign_contractCall {batch : List ExecutionTransaction}
    (hchecks : permissionChecks jsonPermissionDecoders batch [contractCallPermission oneTarget]
      = .ok ()) :
    ∃ response, coSign contractCallDeps contractCallEnv demoAccount "demo" (demoRequest batch)
      = .ok response := by
  have hlength : 20 ≤ ownableValidatorAddress.bytes.length := Nat.le_refl 20
  exact ⟨_, Outcome.bind_eq_ok.mpr ⟨demoLoaded contractCallItem batch,
    authorize_eq_ok_iff.mpr ⟨loadRequest_contractCall batch, hchecks⟩,
    sign_demo _ (contractCallPermission oneTarget) hlength batch⟩⟩

/-! ## Coverage: each execution against the permissions of its kind -/

/-- Every execution is authorised by some permission: a call by a contract-call permission for its
    target, native value by an allowance that accepted the batch. -/
def Covered (d : PermissionDecoders) (permissions : List PermissionTypeData)
    (batch : List ExecutionTransaction) : Prop :=
  (∀ tx ∈ batch, tx.callData ≠ [] → ∃ p ∈ permissions, IsContractCallFor d tx.address p) ∧
  ((∃ tx ∈ batch, tx.value ≠ 0) → ∃ p ∈ permissions, IsAllowanceWith d
    (fun data => nativeTokenTransferPermissionCheck batch data = .ok ()) p)

/-- A batch of one call to `0x11…11`, without value. -/
def unpaidCall : List ExecutionTransaction :=
  [{ address := FixedBytes.ofNat 20 0x1111111111111111111111111111111111111111
     value := 0
     callData := [0xde, 0xad] }]

/-- A batch of one transfer of one wei to `0x22…22`, an address no permission names. -/
def paidTransfer : List ExecutionTransaction :=
  [{ address := FixedBytes.ofNat 20 0x2222222222222222222222222222222222222222
     value := 1
     callData := [] }]

/-- An item without any contract-call permission has a contract call signed, and an item without
    any allowance has a transfer of the native token signed. -/
theorem unpaidCall_not_covered :
    ((∃ response, coSign zeroAllowanceDeps zeroAllowanceEnv demoAccount "demo"
      (demoRequest unpaidCall) = .ok response) ∧
    loadRequest zeroAllowanceDeps zeroAllowanceEnv demoAccount "demo" (demoRequest unpaidCall)
      = .ok (zeroAllowanceLoaded unpaidCall) ∧
    ¬ Covered zeroAllowanceDeps.permissions zeroAllowanceItem.permissions unpaidCall) ∧
    ((∃ response, coSign contractCallDeps contractCallEnv demoAccount "demo"
      (demoRequest paidTransfer) = .ok response) ∧
    loadRequest contractCallDeps contractCallEnv demoAccount "demo" (demoRequest paidTransfer)
      = .ok (demoLoaded contractCallItem paidTransfer) ∧
    ¬ Covered contractCallDeps.permissions contractCallItem.permissions paidTransfer) := by
  refine ⟨⟨coSign_zeroAllowance (by decide), loadRequest_zeroAllowance unpaidCall, ?_⟩,
    ⟨coSign_contractCall (by decide), loadRequest_contractCall paidTransfer, ?_⟩⟩
  · intro hcovered
    obtain ⟨p, hp, htype, -⟩ := hcovered.1 _ (List.mem_singleton.mpr rfl) (by decide)
    obtain rfl := List.mem_singleton.mp hp
    exact absurd htype (by decide)
  · intro hcovered
    obtain ⟨p, hp, htype, -⟩ := hcovered.2 ⟨_, List.mem_singleton.mpr rfl, by decide⟩
    obtain rfl := List.mem_singleton.mp hp
    exact absurd htype (by decide)

/-- **Which batches the handler goes on to sign.**  The batch is what the call data decodes to.  It
    is let through exactly when the item has permissions, all of them are well formed, and each
    type of permission the item has is respected; a type it does not have restricts nothing. -/
theorem coSign_covered :
    (loadRequest deps env caip10Address projectId request = .ok loaded →
      extractExecutionBatchComponents deps.execute request.userOp.callData = .ok loaded.batch) ∧
    (authorize deps env caip10Address projectId request = .ok loaded ↔
      loadRequest deps env caip10Address projectId request = .ok loaded ∧
      loaded.item.permissions ≠ [] ∧
      (∀ p ∈ loaded.item.permissions, WellFormed deps.permissions p) ∧
      ((∃ p ∈ loaded.item.permissions, p.type = "contract-call") →
        ∀ tx ∈ loaded.batch, tx.callData ≠ [] →
          ∃ p ∈ loaded.item.permissions, IsContractCallFor deps.permissions tx.address p) ∧
      ((∃ p ∈ loaded.item.permissions, p.type = "native-token-recurring-allowance") →
        ∃ p ∈ loaded.item.permissions, IsAllowanceWith deps.permissions
          (fun data => nativeTokenTransferPermissionCheck loaded.batch data = .ok ()) p)) := by
  refine ⟨fun hload => (loadRequest_eq_ok hload).2.2.2, ?_⟩
  rw [authorize_eq_ok_iff]
  exact and_congr_right fun _ => permissionChecks_eq_ok_iff_types

/-! ## The allowance bound: the computed sum, and the true one -/

/-- Some allowance of the item is at least the exact sum of the batch. -/
def WithinSomeAllowance (d : PermissionDecoders) (permissions : List PermissionTypeData)
    (batch : List ExecutionTransaction) : Prop :=
  ∃ p ∈ permissions, IsAllowanceWith d (fun data => exactSum batch ≤ data.allowance.toNat) p

/-- Every allowance of the item is below the sum of the batch, reduced to 256 bits. -/
def BelowReducedSum (d : PermissionDecoders) (permissions : List PermissionTypeData)
    (batch : List ExecutionTransaction) : Prop :=
  ∀ p ∈ permissions, ∀ data, p.type = "native-token-recurring-allowance" →
    d.allowance p.data = .ok data → data.allowance.toNat < exactSum batch % 2 ^ 256

/-- The item restricts contract calls, and the batch calls an address it does not name. -/
def CallsElsewhere (d : PermissionDecoders) (permissions : List PermissionTypeData)
    (batch : List ExecutionTransaction) : Prop :=
  (∃ p ∈ permissions, p.type = "contract-call") ∧
    ∃ tx ∈ batch, tx.callData ≠ [] ∧ ¬ ∃ p ∈ permissions, IsContractCallFor d tx.address p

/-- The allowance check compares the reduced sum. -/
theorem check_eq_ok_iff_reduced (batch : List ExecutionTransaction)
    (data : NativeTokenAllowancePermissionData) :
    nativeTokenTransferPermissionCheck batch data = .ok () ↔
      exactSum batch % 2 ^ 256 ≤ data.allowance.toNat := by
  rw [nativeTokenTransferPermissionCheck_eq_ok_iff, BitVec.le_def, toNat_extractValuesSum]

theorem exists_allowance_reduced_iff {d : PermissionDecoders} {ps : List PermissionTypeData}
    {batch : List ExecutionTransaction} :
    (∃ p ∈ ps, IsAllowanceWith d
      (fun data => nativeTokenTransferPermissionCheck batch data = .ok ()) p) ↔
      ¬ BelowReducedSum d ps batch := by
  unfold BelowReducedSum IsAllowanceWith
  simp only [check_eq_ok_iff_reduced]
  push Not
  constructor
  · rintro ⟨p, hp, htype, data, hdata, hle⟩
    exact ⟨p, hp, data, htype, hdata, hle⟩
  · rintro ⟨p, hp, data, htype, hdata, hle⟩
    exact ⟨p, hp, htype, data, hdata, hle⟩

/-- Why an item with allowances refuses a batch: every allowance is below the sum as it is
    computed, or a contract call goes elsewhere. -/
theorem permissionChecks_ne_ok_iff {d : PermissionDecoders} {ps : List PermissionTypeData}
    {batch : List ExecutionTransaction}
    (hallow : ∃ p ∈ ps, p.type = "native-token-recurring-allowance") :
    permissionChecks d batch ps ≠ .ok () ↔
      BelowReducedSum d ps batch ∨ (∃ p ∈ ps, ¬ WellFormed d p) ∨ CallsElsewhere d ps batch := by
  have hne : ps ≠ [] := by
    rintro rfl
    simp at hallow
  rw [ne_eq, permissionChecks_eq_ok_iff_types, exists_allowance_reduced_iff]
  simp only [hne, hallow, ne_eq, not_false_eq_true, true_and, true_imp_iff, CallsElsewhere]
  constructor
  · intro h
    by_contra hno
    push Not at hno
    obtain ⟨hbelow, hwf, hcalls⟩ := hno
    exact h ⟨hwf, fun hcall tx htx hdata => hcalls hcall tx htx hdata, hbelow⟩
  · rintro (hbelow | ⟨p, hp, hmal⟩ | ⟨hcall, tx, htx, hdata, hnone⟩) ⟨hwf, hcalls, hnot⟩
    · exact hnot hbelow
    · exact hmal (hwf p hp)
    · exact hnone (hcalls hcall tx htx hdata)

/-- **When the allowances bound what is signed.** They do when the exact sum fits 256 bits; when
    it does not, only if the batch is refused anyway, for the reduced sum or for a target. -/
theorem signed_within_allowance_iff
    (hload : loadRequest deps env caip10Address projectId request = .ok loaded)
    (hallow : ∃ p ∈ loaded.item.permissions, p.type = "native-token-recurring-allowance") :
    (authorize deps env caip10Address projectId request = .ok loaded →
      WithinSomeAllowance deps.permissions loaded.item.permissions loaded.batch) ↔
    exactSum loaded.batch < 2 ^ 256 ∨
      BelowReducedSum deps.permissions loaded.item.permissions loaded.batch ∨
      (∃ p ∈ loaded.item.permissions, ¬ WellFormed deps.permissions p) ∨
      CallsElsewhere deps.permissions loaded.item.permissions loaded.batch := by
  rw [← permissionChecks_ne_ok_iff hallow, authorize_eq_ok_iff]
  simp only [hload, true_and]
  by_cases hfits : exactSum loaded.batch < 2 ^ 256
  · -- the computed sum is the exact one
    refine iff_of_true (fun hchecks => ?_) (Or.inl hfits)
    obtain ⟨-, -, -, hallowed⟩ := permissionChecks_eq_ok_iff_types.mp hchecks
    obtain ⟨p, hp, htype, data, hdata, hcheck⟩ := hallowed hallow
    rw [check_eq_ok_iff_reduced, Nat.mod_eq_of_lt hfits] at hcheck
    exact ⟨p, hp, htype, data, hdata, hcheck⟩
  · -- no allowance reaches the exact sum
    have hnot : ¬ WithinSomeAllowance deps.permissions loaded.item.permissions loaded.batch := by
      rintro ⟨p, -, -, data, -, hle⟩
      exact hfits (Nat.lt_of_le_of_lt hle data.allowance.isLt)
    simp only [hnot, hfits, false_or, imp_false, ne_eq]

/-- Two transfers of `2 ^ 255` wei. -/
def wrappingTransfers : List ExecutionTransaction :=
  List.replicate 2
    { address := FixedBytes.ofNat 20 0x2222222222222222222222222222222222222222
      value := BitVec.ofNat 256 (2 ^ 255)
      callData := [] }

theorem signed_within_allowance_iff_wrappingTransfers :
    (authorize zeroAllowanceDeps zeroAllowanceEnv demoAccount "demo" (demoRequest wrappingTransfers)
        = .ok (zeroAllowanceLoaded wrappingTransfers) →
      WithinSomeAllowance zeroAllowanceDeps.permissions zeroAllowanceItem.permissions
        wrappingTransfers) ↔
    exactSum wrappingTransfers < 2 ^ 256 ∨
      BelowReducedSum zeroAllowanceDeps.permissions zeroAllowanceItem.permissions
        wrappingTransfers ∨
      (∃ p ∈ zeroAllowanceItem.permissions, ¬ WellFormed zeroAllowanceDeps.permissions p) ∨
      CallsElsewhere zeroAllowanceDeps.permissions zeroAllowanceItem.permissions
        wrappingTransfers :=
  signed_within_allowance_iff (loadRequest_zeroAllowance wrappingTransfers)
    ⟨_, List.mem_singleton.mpr rfl, rfl⟩

/-- Transfers of `2 ^ 256` wei in total are signed under an allowance of zero. -/
theorem wrappingTransfers_exceed_allowance :
    (∃ response, coSign zeroAllowanceDeps zeroAllowanceEnv demoAccount "demo"
      (demoRequest wrappingTransfers) = .ok response) ∧
    loadRequest zeroAllowanceDeps zeroAllowanceEnv demoAccount "demo"
      (demoRequest wrappingTransfers) = .ok (zeroAllowanceLoaded wrappingTransfers) ∧
    exactSum wrappingTransfers = 2 ^ 256 ∧
    ¬ WithinSomeAllowance zeroAllowanceDeps.permissions zeroAllowanceItem.permissions
      wrappingTransfers := by
  have hsum : exactSum wrappingTransfers = 2 ^ 256 := by decide
  refine ⟨coSign_zeroAllowance (by decide), loadRequest_zeroAllowance wrappingTransfers, hsum, ?_⟩
  rintro ⟨p, -, -, data, -, hle⟩
  rw [hsum] at hle
  exact absurd data.allowance.isLt (Nat.not_lt.mpr hle)

end BlockchainApi
