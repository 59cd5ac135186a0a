/-
  The handler of `wallet_sendPreparedCalls` (`src/handlers/json_rpc/wallet/send_prepared_calls.rs`).

  The handler takes the items of a request one by one.  For each it has the operation co-signed,
  reads the permission context from the store, encodes the co-signed signature for the session in
  it, and hands the operation to the bundler.  Every step can fail, and a failure ends the request:
  the items before it have been submitted by then, and their call ids are lost to the caller.

  1. **The handler** is a `Handler` over `WalletServices`: the store, the chain and the bundler
     answer as they like, and differently each time; what is handed to the co-signer and to the
     bundler is the trace.

  2. **One item.** `ItemTrace` lists how an item can end and what it leaves behind;
     `emits_sendPreparedCallsItem` proves it of every world.

  3. **A request** is a loop over its items, so its trace is made of theirs by the loop rule.
     `sendPreparedCalls_batch` says what a request leaves behind at the bundler, however it ends.

  4. **The operation.** `coSigned_is_submitted_iff` compares what the co-signer got, and what hash
     was signed, with what the bundler got.

  The runs at the end are of the whole handler, with the co-signer of `Sessions.Cosign` inside.
-/
import BlockchainApi.Wallet.PrepareCalls
import BlockchainApi.Wallet.UserOperation

namespace BlockchainApi

open ByteCodec Handler

/-! ## Requests, answers and errors, and the world of the handler -/

/-- `PreparedCalls`; its type is always `user-operation-v07`. -/
structure PreparedCalls where
  data : UserOperationV07
  chainId : U64

/-- `SendPreparedCallsRequestItem`. -/
structure SendPreparedCallsRequestItem where
  preparedCalls : PreparedCalls
  signature : Bytes
  context : Uuid

/-- `CallIdInner`. -/
structure CallId where
  chainId : U64
  userOpHash : Bytes
  deriving DecidableEq

/-- `InternalGetSessionContextError`. -/
inductive InternalGetSessionContextError where
  | storage (text : String)
  | deserializing (text : String)

/-- `GetSessionContextError`. -/
inductive GetSessionContextError where
  | permissionNotFound (address : String) (pci : Uuid)
  | internalGetSessionContextError (e : InternalGetSessionContextError)

/-- `SendPreparedCallsInternalError`, as far as the handler returns it. -/
inductive SendPreparedCallsInternalError where
  | irnNotConfigured
  /-- The text is the response of the error. -/
  | cosign (e : RpcError)
  | cosignUnsuccessful (body : Except String Bytes)
  | cosignReadResponse (text : String)
  | cosignParseResponse (text : String)
  | cosignResponseMissingSignature
  | cosignResponseSignatureNotString
  | cosignResponseSignatureNotHex (e : FromHexError)
  | getSessionContextError (e : InternalGetSessionContextError)

/-- `SendPreparedCallsError`, as far as the handler returns it. -/
inductive SendPreparedCallsError where
  /-- The text is the response of the error. -/
  | cosign (e : RpcError)
  | permissionNotFound
  | pciNotFound
  | permissionContextUnsupportedModeUse
  | splitPermissionsContextAndCheckValidator (e : PrepareCallsError)
  | decodeSmartSessionSignature (e : PrepareCallsError)
  | encodeUseOrEnableSmartSessionSignature (e : PrepareCallsError)
  | sendUserOperation (text : String)
  | internalError (e : SendPreparedCallsInternalError)

/-- Functions of other crates the handler calls. -/
structure SendPreparedCallsDeps where
  cosign : CosignDeps
  sessions : SmartSessionDeps
  /-- `serde_json::to_vec`, as `Json` uses it for a response. -/
  toVec : Value → Bytes
  /-- `serde_json::from_slice::<Value>`. -/
  fromSlice : Bytes → Except String Value
  /-- `to_checksum(None)`. -/
  toChecksum : Address → String
  /-- `Display` of an `AccountAddress`. -/
  displayAddress : Address → String
  /-- `EntryPointConfig::address`, at version 0.7. -/
  entryPointAddress : U64 → Address

/-- What the services around the handler answer, and how the world goes on. -/
structure WalletServices (W : Type) where
  /-- What the co-sign handler finds when it is called. -/
  cosignEnv : W → CosignEnv × W
  /-- `hget` of the store, when one is configured. -/
  irn : Option (String → String → W → Except String (Option Bytes) × W)
  /-- `isPermissionEnabled`, through the provider at a URL. -/
  isPermissionEnabled : String → B256 → Address → W → Except String Bool × W
  /-- `send_user_operation`, through the bundler at a URL. -/
  sendUserOperation : String → Address → UserOperationV07 → W → Except String Bytes × W

/-- An operation handed to the bundler, and what came back. -/
structure Submission where
  bundlerUrl : String
  entryPoint : Address
  userOp : UserOperationV07
  answer : Except String Bytes

/-- What leaves the handler. -/
inductive WalletEvent where
  /-- A call of the co-sign handler, and what it returned. -/
  | coSign (caip10Address projectId : String) (request : CoSignRequest)
      (answer : Outcome RpcError Value)
  | submit (s : Submission)

/-! ## The handler, in the order of the source -/

/-- `caip2_identifier`. -/
def caip2Identifier (chainId : U64) : String := "eip155:" ++ toString chainId.toNat

/-- The provider's URL. -/
def providerUrl (chainId : U64) (projectId : String) : String :=
  "https://rpc.walletconnect.org/v1?chainId=" ++ caip2Identifier chainId ++ "&projectId=" ++
    projectId ++ "&source=wallet_send_prepared_calls"

/-- The bundler's URL. -/
def bundlerUrl (chainId : U64) (projectId : String) : String :=
  "https://rpc.walletconnect.org/v1/bundler?chainId=" ++ caip2Identifier chainId ++
    "&projectId=" ++ projectId ++ "&bundler=pimlico"

/-- The signature in a response of the co-signer. -/
def readCosignResponse (deps : SendPreparedCallsDeps) (status : Nat) (body : Bytes) :
    Outcome SendPreparedCallsError Bytes := do
  Outcome.ensure (200 ≤ status ∧ status < 300) (.internalError (.cosignUnsuccessful (toBytes body)))
  let bytes ← Outcome.ofExcept (fun e => .internalError (.cosignReadResponse e)) (toBytes body)
  let responseJson ← Outcome.ofExcept (fun e => .internalError (.cosignParseResponse e))
    (deps.fromSlice bytes)
  let signature ← Outcome.okOr (responseJson.get "signature")
    (.internalError .cosignResponseMissingSignature)
  let signature ← Outcome.okOr signature.asStr (.internalError .cosignResponseSignatureNotString)
  let signatureHex := String.ofList (trimHexPrefix signature.toList)
  Outcome.ofExcept (fun e => .internalError (.cosignResponseSignatureNotHex e))
    (hexDecode signatureHex)

/-- The signature the co-signer gave, or the error its own error becomes. -/
def cosignSignature (deps : SendPreparedCallsDeps) :
    Outcome RpcError Value → Outcome SendPreparedCallsError Bytes
  | .ok response => readCosignResponse deps 200 (deps.toVec response)
  | .err e =>
    if 500 ≤ e.status ∧ e.status < 600 then .err (.internalError (.cosign e)) else .err (.cosign e)
  | .panic => .panic

/-- `get_session_context`, on what the store answered. -/
def getSessionContext (deps : SendPreparedCallsDeps) (address : String) (pci : Uuid)
    (stored : Except String (Option Bytes)) : Outcome GetSessionContextError (Option Bytes) := do
  let stored ← Outcome.ofExcept (fun e => .internalGetSessionContextError (.storage e)) stored
  let stored ← Outcome.okOr stored (.permissionNotFound address pci)
  let item ← Outcome.ofExcept (fun e => .internalGetSessionContextError (.deserializing e))
    (deps.cosign.itemFromSlice stored)
  return item.context

/-- The context of an item, or the error of the handler. -/
def contextOfItem (deps : SendPreparedCallsDeps) (address : String) (pci : Uuid)
    (stored : Except String (Option Bytes)) : Outcome SendPreparedCallsError Bytes :=
  match getSessionContext deps address pci stored with
  | .ok (some context) => .ok context
  | .ok none => .err .pciNotFound
  | .err (.permissionNotFound _ _) => .err .permissionNotFound
  | .err (.internalGetSessionContextError e) => .err (.internalError (.getSessionContextError e))
  | .panic => .panic

/-- The permission id and the session in a context. -/
def sessionOfContext (d : SmartSessionDeps) (accountType : AccountType) (context : Bytes) :
    Outcome SendPreparedCallsError (B256 × EnableSessionData) := do
  let (_, signature) ← Outcome.mapErr .splitPermissionsContextAndCheckValidator
    (splitPermissionsContextAndCheckValidator d context)
  let decoded ← Outcome.mapErr .decodeSmartSessionSignature
    (decodeSmartSessionSignature d signature accountType)
  match decoded.mode with
  | .enable | .unsafeEnable => do
    let enableSessionData ← Outcome.unwrap decoded.enableSessionData
    return (decoded.permissionId, enableSessionData)
  | .use => .err .permissionContextUnsupportedModeUse

/-- The request to the co-signer. -/
def coSignRequestOf (item : SendPreparedCallsRequestItem) : CoSignRequest where
  pci := item.context.display
  userOp := coSignUserOperation item.preparedCalls.data item.signature

/-- The co-signer's name for the account. -/
def coSignAddress (deps : SendPreparedCallsDeps) (item : SendPreparedCallsRequestItem) : String :=
  caip2Identifier item.preparedCalls.chainId ++ ":" ++
    deps.toChecksum item.preparedCalls.data.sender

/-- The account's name in the store. -/
def accountAddress (deps : SendPreparedCallsDeps) (item : SendPreparedCallsRequestItem) : String :=
  caip2Identifier item.preparedCalls.chainId ++ ":" ++
    deps.displayAddress item.preparedCalls.data.sender

variable {W : Type}

/-- One turn of the loop of `handler_internal`. -/
def sendPreparedCallsItem (deps : SendPreparedCallsDeps) (services : WalletServices W)
    (projectId : String) (item : SendPreparedCallsRequestItem) :
    Handler W WalletEvent SendPreparedCallsError CallId := do
  let data := item.preparedCalls.data
  let chainId := item.preparedCalls.chainId
  let env ← ask services.cosignEnv
  let cosigned := coSign deps.cosign env (coSignAddress deps item) projectId (coSignRequestOf item)
  emit (.coSign (coSignAddress deps item) projectId (coSignRequestOf item) cosigned)
  let signature ← lift (cosignSignature deps cosigned)
  let accountType := AccountType.safe
  let hget ← lift (Outcome.okOr services.irn (.internalError .irnNotConfigured))
  let stored ← ask (hget (accountAddress deps item) item.context.display)
  let context ← lift (contextOfItem deps (accountAddress deps item) item.context stored)
  let (permissionId, enableSessionData) ← lift (sessionOfContext deps.sessions accountType context)
  let sessionEnabled ← ask
    (services.isPermissionEnabled (providerUrl chainId projectId) permissionId data.sender)
  let signature ← lift (Outcome.mapErr .encodeUseOrEnableSmartSessionSignature
    (encodeUseOrEnableSmartSessionSignature deps.sessions (fun _ _ => sessionEnabled) permissionId
      data.sender accountType signature enableSessionData))
  let userOp := { data with signature }
  let answer ← ask (services.sendUserOperation (bundlerUrl chainId projectId)
    (deps.entryPointAddress chainId) userOp)
  emit (.submit
    { bundlerUrl := bundlerUrl chainId projectId
      entryPoint := deps.entryPointAddress chainId
      userOp
      answer })
  let userOpHash ← lift (Outcome.ofExcept .sendUserOperation answer)
  return { chainId, userOpHash }

/-- `handler_internal`. -/
def sendPreparedCalls (deps : SendPreparedCallsDeps) (services : WalletServices W)
    (projectId : String) (request : List SendPreparedCallsRequestItem) :
    Handler W WalletEvent SendPreparedCallsError (List CallId) :=
  forEach (sendPreparedCallsItem deps services projectId) request

/-! ## The context of an item: found, read, and decoded -/

/-- The context of an item that is found and read. -/
theorem contextOfItem_of_item {deps : SendPreparedCallsDeps} {address : String} {pci : Uuid}
    {stored context : Bytes} {item : StoragePermissionsItem}
    (hitem : deps.cosign.itemFromSlice stored = .ok item) (hcontext : item.context = some context) :
    contextOfItem deps address pci (.ok (some stored)) = .ok context := by
  have hget : getSessionContext deps address pci (.ok (some stored)) = .ok (some context) := by
    rw [getSessionContext, Outcome.ofExcept, Outcome.ok_bind, Outcome.okOr, Outcome.ok_bind, hitem,
      Outcome.ofExcept, Outcome.ok_bind, hcontext]
    rfl
  rw [contextOfItem, hget]

/-- **A context made by the encoder holds the session it was made for**, unless the account is a
    Kernel one; so what is sent is signed for the session that was prepared. -/
theorem sessionOfContext_encoded {d : SmartSessionDeps} (hd : d.Lawful) {accountType : AccountType}
    (h : accountType ≠ .kernel) {signature bytes : Bytes} {enableSessionData : EnableSessionData}
    (hencode : encodeEnableSignature d accountType signature enableSessionData = .ok bytes) :
    sessionOfContext d accountType (d.smartSessionsAddress.bytes ++ bytes)
      = .ok (permissionIdOf d enableSessionData.enableSession.sessionToEnable,
          enableSessionData) := by
  have hback : EncodedComesBack d accountType signature enableSessionData :=
    (encodedComesBack_iff hd).mpr h
  obtain ⟨bytes', hencode', hdecode⟩ := hback
  obtain rfl := Outcome.ok.inj (hencode.symm.trans hencode')
  have hsplit : splitPermissionsContextAndCheckValidator d (d.smartSessionsAddress.bytes ++ bytes)
      = .ok (d.smartSessionsAddress, bytes) :=
    splitPermissionsContext_eq_ok_iff.mpr ⟨rfl, rfl⟩
  rw [sessionOfContext, hsplit, Outcome.mapErr, Outcome.ok_bind]
  dsimp only
  rw [hdecode]
  rfl

/-! ## The co-signer's response: a signature in hex, in a body of bounded length -/

variable {deps : SendPreparedCallsDeps} {projectId : String}

/-- A signature written in hex is read back, if its response is not too long. -/
theorem readCosignResponse_hexEncode {body cosigned : Bytes} {response : Value}
    (hsize : body.length ≤ providerResponseMaxBytes) (hread : deps.fromSlice body = .ok response)
    (hget : response.get "signature" = some (.string ("0x" ++ hexEncode cosigned))) :
    readCosignResponse deps 200 body = .ok cosigned := by
  simp only [readCosignResponse, toBytes, if_pos hsize, hread, hget, Value.asStr, Outcome.ensure,
    Outcome.ofExcept, Outcome.okOr, Outcome.ok_bind, trimHexPrefix_hexEncode, hexDecode_hexEncode]
  rfl

/-- **Whatever the co-signer signs is read back**: of the errors about its response none can
    occur, unless the response is too long. -/
theorem cosignSignature_of_coSign (hjson : ∀ v, deps.fromSlice (deps.toVec v) = .ok v)
    {env : CosignEnv} {address : String} {request : CoSignRequest} {response : Value}
    (h : coSign deps.cosign env address projectId request = .ok response)
    (hsize : (deps.toVec response).length ≤ providerResponseMaxBytes) :
    ∃ cosigned, cosignSignature deps (coSign deps.cosign env address projectId request)
      = .ok cosigned := by
  obtain ⟨loaded, -, hsign⟩ := authorized_of_coSign h
  obtain ⟨cosigned, hresponse⟩ := response_of_sign hsign
  rw [h]
  exact ⟨cosigned, readCosignResponse_hexEncode hsize (hjson response) (by rw [hresponse]; rfl)⟩

/-! ## An item that gets to the bundler -/

/-- The submission of an item. -/
def submissionOf (deps : SendPreparedCallsDeps) (projectId : String)
    (item : SendPreparedCallsRequestItem) (signature : Bytes) (answer : Except String Bytes) :
    Submission where
  bundlerUrl := bundlerUrl item.preparedCalls.chainId projectId
  entryPoint := deps.entryPointAddress item.preparedCalls.chainId
  userOp := { item.preparedCalls.data with signature }
  answer

/-- What the co-signer returns for an item, where it finds `env`. -/
def coSignAnswer (deps : SendPreparedCallsDeps) (projectId : String)
    (item : SendPreparedCallsRequestItem) (env : CosignEnv) : Outcome RpcError Value :=
  coSign deps.cosign env (coSignAddress deps item) projectId (coSignRequestOf item)

/-- The item's call of the co-signer. -/
def coSigned (deps : SendPreparedCallsDeps) (projectId : String)
    (item : SendPreparedCallsRequestItem) (env : CosignEnv) : WalletEvent :=
  .coSign (coSignAddress deps item) projectId (coSignRequestOf item)
    (coSignAnswer deps projectId item env)

/-- How an item ends, given the bundler's answer. -/
def callIdOf (item : SendPreparedCallsRequestItem) (answer : Except String Bytes) :
    Outcome SendPreparedCallsError CallId :=
  match answer with
  | .ok userOpHash => .ok { chainId := item.preparedCalls.chainId, userOpHash }
  | .error text => .err (.sendUserOperation text)

/-- **A turn of the loop in which nothing fails before the bundler answers**: its trace is the
    call of the co-signer and the submission, and its end is what the bundler's answer becomes. -/
theorem sendPreparedCallsItem_run {services : WalletServices W}
    {item : SendPreparedCallsRequestItem} {w w₁ w₂ w₃ w₄ : W} {env : CosignEnv}
    {cosigned context signature : Bytes} {hget : String → String → W → _ × W}
    {stored answer : Except String _} {sessionEnabled : Except String Bool}
    {permissionId : B256} {enableSessionData : EnableSessionData}
    (henv : services.cosignEnv w = (env, w₁))
    (hcosign : cosignSignature deps (coSign deps.cosign env (coSignAddress deps item) projectId
      (coSignRequestOf item)) = .ok cosigned)
    (hirn : services.irn = some hget)
    (hstored : hget (accountAddress deps item) item.context.display w₁ = (stored, w₂))
    (hcontext : contextOfItem deps (accountAddress deps item) item.context stored = .ok context)
    (hsession : sessionOfContext deps.sessions .safe context
      = .ok (permissionId, enableSessionData))
    (henabled : services.isPermissionEnabled (providerUrl item.preparedCalls.chainId projectId)
      permissionId item.preparedCalls.data.sender w₂ = (sessionEnabled, w₃))
    (hsignature : encodeUseOrEnableSmartSessionSignature deps.sessions (fun _ _ => sessionEnabled)
      permissionId item.preparedCalls.data.sender .safe cosigned enableSessionData = .ok signature)
    (hanswer : services.sendUserOperation (bundlerUrl item.preparedCalls.chainId projectId)
      (deps.entryPointAddress item.preparedCalls.chainId)
      { item.preparedCalls.data with signature } w₃ = (answer, w₄)) :
    sendPreparedCallsItem deps services projectId item w
      = ⟨callIdOf item answer, w₄, [coSigned deps projectId item env,
          .submit (submissionOf deps projectId item signature answer)]⟩ := by
  unfold sendPreparedCallsItem
  rw [run_ask_bind, henv, run_emit_bind]
  dsimp only
  rw [run_lift_bind hcosign, hirn, Outcome.okOr, run_lift_bind rfl, run_ask_bind, hstored,
    run_lift_bind hcontext, run_lift_bind hsession]
  dsimp only
  rw [run_ask_bind, henabled, hsignature, Outcome.mapErr, run_lift_bind rfl, run_ask_bind, hanswer,
    run_emit_bind]
  cases answer with
  | ok userOpHash => rfl
  | error text => rfl

/-! ## What one item leaves behind

At most two events: a call of the co-signer, and behind it a submission. Every error cuts the
trace at one of these places. -/

/-- The co-signer signed for the item where it found `env`. -/
def CoSignedIn (deps : SendPreparedCallsDeps) (projectId : String)
    (item : SendPreparedCallsRequestItem) (env : CosignEnv) : Prop :=
  ∃ response, coSignAnswer deps projectId item env = .ok response

/-- How an item can end, and what it leaves behind: it is handed to the co-signer, and, if that
    one signs, to the bundler at most once. -/
inductive ItemTrace (deps : SendPreparedCallsDeps) (services : WalletServices W)
    (projectId : String) (item : SendPreparedCallsRequestItem) :
    Outcome SendPreparedCallsError CallId → List WalletEvent → Prop where
  | unsubmitted {o} (w : W) (ho : o.isOk = false) : ItemTrace deps services projectId item o
      [coSigned deps projectId item (services.cosignEnv w).1]
  | refused (w : W) (signature : Bytes) (text : String)
      (hsigned : CoSignedIn deps projectId item (services.cosignEnv w).1) :
      ItemTrace deps services projectId item (.err (.sendUserOperation text))
        [coSigned deps projectId item (services.cosignEnv w).1,
          .submit (submissionOf deps projectId item signature (.error text))]
  | accepted (w : W) (signature userOpHash : Bytes)
      (hsigned : CoSignedIn deps projectId item (services.cosignEnv w).1) :
      ItemTrace deps services projectId item
        (.ok { chainId := item.preparedCalls.chainId, userOpHash })
        [coSigned deps projectId item (services.cosignEnv w).1,
          .submit (submissionOf deps projectId item signature (.ok userOpHash))]

/-- A signature is read only from a response of the co-signer. -/
theorem exists_response_of_cosignSignature {answer : Outcome RpcError Value} {signature : Bytes}
    (h : cosignSignature deps answer = .ok signature) : ∃ response, answer = .ok response := by
  cases answer with
  | ok response => exact ⟨response, rfl⟩
  | err e =>
    simp only [cosignSignature] at h
    split at h <;> cases h
  | panic => cases h

/-- **What one item leaves behind**, whatever the services answer: a step of the rule for each
    call of the handler, in the order of the source. -/
theorem emits_sendPreparedCallsItem (deps : SendPreparedCallsDeps) (services : WalletServices W)
    (projectId : String) (item : SendPreparedCallsRequestItem) :
    Emits (sendPreparedCallsItem deps services projectId item)
      (ItemTrace deps services projectId item) := by
  unfold sendPreparedCallsItem
  refine emits_answer_bind fun w => ?_
  refine emits_emit_bind ?_
  -- up to the bundler only the call of the co-signer is in the trace
  have hstop : ∀ o : Outcome SendPreparedCallsError CallId, o.isOk = false →
      ItemTrace deps services projectId item o
        [coSigned deps projectId item (services.cosignEnv w).1] := fun o => .unsubmitted w
  refine emits_lift_bind (fun signature hsignature => ?_) (fun e => hstop _ rfl) (hstop _ rfl)
  have hsigned : CoSignedIn deps projectId item (services.cosignEnv w).1 :=
    exists_response_of_cosignSignature hsignature
  refine emits_lift_bind (fun hget _ => ?_) (fun e => hstop _ rfl) (hstop _ rfl)
  refine emits_ask_bind fun stored => ?_
  refine emits_lift_bind (fun context _ => ?_) (fun e => hstop _ rfl) (hstop _ rfl)
  refine emits_lift_bind (fun session _ => ?_) (fun e => hstop _ rfl) (hstop _ rfl)
  refine emits_ask_bind fun sessionEnabled => ?_
  refine emits_lift_bind (fun signature _ => ?_) (fun e => hstop _ rfl) (hstop _ rfl)
  refine emits_ask_bind fun answer => ?_
  refine emits_emit_bind ?_
  cases answer with
  | ok userOpHash => exact fun _ => .accepted w signature userOpHash hsigned
  | error text => exact fun _ => .refused w signature text hsigned

/-! ## A request, run: a world in which every item gets to the bundler -/

theorem encodeEnableSignature_standard (accountType : AccountType) (signature : Bytes)
    (enableSessionData : EnableSessionData) :
    encodeEnableSignature standardSmartSession accountType signature enableSessionData
      = .ok (0x01 :: FastLz.literals (encodeEnableSignatureBeforeCompress standardSmartSession
          accountType signature enableSessionData)) :=
  rfl

/-- The demo session as a permission context. -/
def demoContext : Bytes :=
  standardSmartSession.smartSessionsAddress.bytes ++ 0x01 ::
    FastLz.literals (encodeEnableSignatureBeforeCompress standardSmartSession .safe [] demoSession)

/-- What the co-signer adds to an empty signature. -/
def demoCosigned : Bytes :=
  abiEncodeTwoBytesArrays (AbiCodec.standard bytesArrayAbi) (packSignature demoEthSignature) []

/-- The response of the co-signer. -/
def demoResponse : Value := .object [("signature", .string ("0x" ++ hexEncode demoCosigned))]

/-- Its text. -/
def demoResponseText : Bytes :=
  "\x7b\"signature\":\"0x".toUTF8.data.toList ++ ((hexEncode demoCosigned).toUTF8.data.toList ++
    "\"\x7d".toUTF8.data.toList)

/-- A parser that knows one text. -/
def parsesOnly {α : Type} (text : Bytes) (value : α) (bytes : Bytes) : Except String α :=
  if bytes = text then .ok value else .error "expected value"

theorem parsesOnly_self {α : Type} (text : Bytes) (value : α) :
    parsesOnly text value text = .ok value :=
  if_pos rfl

/-- The functions of the demonstrations, and functions that know that response. -/
def demoSendDeps : SendPreparedCallsDeps where
  cosign := demoDeps (demoItemJson demoContext) (demoItem demoContext)
  sessions := standardSmartSession
  toVec _ := demoResponseText
  fromSlice := parsesOnly demoResponseText demoResponse
  -- the demo account has no letter in its address
  toChecksum address := "0x" ++ hexEncode address.bytes
  displayAddress address := "0x" ++ hexEncode address.bytes
  entryPointAddress _ := entryPointV07ContractAddress

/-- A store that holds the demo item, a chain on which its session is enabled, and a bundler that
    gives the answers of a list. -/
def demoServices : WalletServices (List (Except String Bytes)) where
  cosignEnv w := (demoEnv (demoItemJson demoContext), w)
  irn := some fun address pci w =>
    (.ok (if address = demoAccount ∧ pci = demoPci then some (demoItemJson demoContext) else none),
      w)
  isPermissionEnabled _ _ _ w := (.ok true, w)
  sendUserOperation _ _ _ w :=
    match w with
    | [] => (.error "connection refused", [])
    | answer :: answers => (answer, answers)

/-- An item with one call without value, and this gas limit. -/
def demoSendItem (callGasLimit : U256) : SendPreparedCallsRequestItem where
  preparedCalls :=
    { data :=
        { sender := FixedBytes.ofNat 20 0x1111111111111111111111111111111111111111
          nonce := 0
          factory := none
          factoryData := none
          callData := batchCalldata standardExecuteCodecs (FixedBytes.ofNat 31 0) unpaidCall
          callGasLimit := callGasLimit
          verificationGasLimit := 0
          preVerificationGas := 0
          maxFeePerGas := 0
          maxPriorityFeePerGas := 0
          paymaster := none
          paymasterVerificationGasLimit := none
          paymasterPostOpGasLimit := none
          paymasterData := none
          signature := [] }
      chainId := 1 }
  signature := []
  context := FixedBytes.ofNat 16 0x01890a5dac96774bbcceb302099a8057

theorem coSignAddress_demo (callGasLimit : U256) :
    coSignAddress demoSendDeps (demoSendItem callGasLimit) = demoAccount := by
  show caip2Identifier 1 ++ ":" ++ ("0x" ++ hexEncode
    (FixedBytes.ofNat 20 0x1111111111111111111111111111111111111111).bytes) = demoAccount
  decide

/-- A gas limit without low bytes is handed over as zero. -/
theorem coSignRequestOf_demo {callGasLimit : U256} (h : lowU128 callGasLimit = 0) :
    coSignRequestOf (demoSendItem callGasLimit) = demoRequest unpaidCall := by
  have hpci : Uuid.display (FixedBytes.ofNat 16 0x01890a5dac96774bbcceb302099a8057) = demoPci := by
    decide
  have hzero : lowU128 0 = 0 := by decide
  simp only [coSignRequestOf, demoSendItem, coSignUserOperation, demoRequest, h, hpci, hzero,
    wholeU256_eq, Option.map_none]

theorem fromSlice_demo : demoSendDeps.fromSlice demoResponseText = .ok demoResponse := by
  have hfrom : demoSendDeps.fromSlice = parsesOnly demoResponseText demoResponse := rfl
  rw [hfrom]
  exact parsesOnly_self demoResponseText demoResponse

/-- The co-signer signs, and its signature is read. -/
theorem cosignSignature_demo :
    cosignSignature demoSendDeps (coSign demoSendDeps.cosign (demoEnv (demoItemJson demoContext))
      demoAccount "demo" (demoRequest unpaidCall)) = .ok demoCosigned := by
  have hlength : 20 ≤ demoContext.length := by
    rw [demoContext, List.length_append, FixedBytes.length_bytes]
    omega
  have hvalidator : FixedBytes.front 20 demoContext hlength
      = standardSmartSession.smartSessionsAddress := FixedBytes.front_append _ _ _
  have hsign := sign_demo (demoItemJson demoContext) (allowancePermission "0x0") hlength unpaidCall
  rw [hvalidator, if_neg (by decide)] at hsign
  have hchecks : permissionChecks jsonPermissionDecoders unpaidCall [allowancePermission "0x0"]
      = .ok () := by decide
  have hcoSign : coSign demoSendDeps.cosign (demoEnv (demoItemJson demoContext)) demoAccount "demo"
      (demoRequest unpaidCall) = .ok demoResponse :=
    Outcome.bind_eq_ok.mpr ⟨demoLoaded (demoItem demoContext) unpaidCall,
      authorize_eq_ok_iff.mpr ⟨loadRequest_demo _ rfl (by decide) _, hchecks⟩, hsign⟩
  have hsize : demoResponseText.length ≤ providerResponseMaxBytes := by
    have hcosigned : demoCosigned.length = 288 := by decide +kernel
    rw [demoResponseText, List.length_append, List.length_append, length_toUTF8_hexEncode,
      hcosigned]
    decide
  have hget : demoResponse.get "signature" = some (.string ("0x" ++ hexEncode demoCosigned)) := rfl
  rw [hcoSign]
  exact readCosignResponse_hexEncode hsize fromSlice_demo hget

/-- The context of the stored item is read. -/
theorem contextOfItem_demo (address : String) (pci : Uuid) :
    contextOfItem demoSendDeps address pci (.ok (some (demoItemJson demoContext)))
      = .ok demoContext :=
  contextOfItem_of_item (itemFromSlice_demo (demoItemJson demoContext) (demoItem demoContext)) rfl

/-- The session in it is the demo session. -/
theorem sessionOfContext_demo :
    sessionOfContext standardSmartSession .safe demoContext
      = .ok (permissionIdOf standardSmartSession demoSession.enableSession.sessionToEnable,
          demoSession) := by
  unfold demoContext
  exact sessionOfContext_encoded standardSmartSession_lawful (by decide)
    (encodeEnableSignature_standard .safe [] demoSession)

/-- The signature that is submitted: the session is enabled already. -/
def demoSignature : Bytes :=
  standardSmartSession.encodeUseSignature
    (permissionIdOf standardSmartSession demoSession.enableSession.sessionToEnable) demoCosigned

/-- The co-signed signature has the format of the session's validator. -/
theorem encodeUseOrEnable_demo (permissionId : B256) (address : Address) :
    encodeUseOrEnableSmartSessionSignature standardSmartSession (fun _ _ => .ok true) permissionId
      address .safe demoCosigned demoSession
      = .ok (standardSmartSession.encodeUseSignature permissionId demoCosigned) := by
  have hvalidator : isOwnableValidatorAddress
      demoSession.enableSession.sessionToEnable.sessionValidator = false := by decide
  have hformat : standardSmartSession.signatures.decode demoCosigned
      = .ok [packSignature demoEthSignature, []] := by
    have hcodec : standardSmartSession.signatures = AbiCodec.standard bytesArrayAbi := rfl
    rw [hcodec, demoCosigned]
    exact decode_abiEncodeTwoBytesArrays (AbiCodec.standard_roundTrips bytesArrayAbi) _ _
  have hconvert : decodeAndConvertSignatureFormat standardSmartSession demoCosigned
      demoSession.enableSession.sessionToEnable.sessionValidator = .ok demoCosigned := by
    rw [decodeAndConvertSignatureFormat, hvalidator, if_neg Bool.false_ne_true, hformat]
  rw [encodeUseOrEnableSmartSessionSignature, Outcome.ofExcept, Outcome.ok_bind]
  dsimp only
  rw [hconvert]
  rfl

/-- **The item, run**: it is co-signed and submitted, and ends as the bundler answers. -/
theorem sendPreparedCallsItem_demo {callGasLimit : U256} (h : lowU128 callGasLimit = 0)
    (answer : Except String Bytes) (answers : List (Except String Bytes)) :
    sendPreparedCallsItem demoSendDeps demoServices "demo" (demoSendItem callGasLimit)
        (answer :: answers)
      = ⟨callIdOf (demoSendItem callGasLimit) answer, answers,
          [coSigned demoSendDeps "demo" (demoSendItem callGasLimit)
              (demoEnv (demoItemJson demoContext)),
            .submit (submissionOf demoSendDeps "demo" (demoSendItem callGasLimit) demoSignature
              answer)]⟩ := by
  have hcosign := cosignSignature_demo
  rw [← coSignAddress_demo callGasLimit, ← coSignRequestOf_demo h] at hcosign
  have hstored :
      (Except.ok (if accountAddress demoSendDeps (demoSendItem callGasLimit) = demoAccount ∧
        (demoSendItem callGasLimit).context.display = demoPci then some (demoItemJson demoContext)
        else none) : Except String (Option Bytes)) = .ok (some (demoItemJson demoContext)) := by
    rw [if_pos ⟨coSignAddress_demo callGasLimit,
      congrArg CoSignRequest.pci (coSignRequestOf_demo h)⟩]
  have henv : demoServices.cosignEnv (answer :: answers)
      = (demoEnv (demoItemJson demoContext), answer :: answers) := rfl
  exact sendPreparedCallsItem_run henv hcosign rfl
    (congrArg (fun stored => (stored, answer :: answers)) hstored) (contextOfItem_demo _ _)
    sessionOfContext_demo rfl (encodeUseOrEnable_demo _ _) rfl

/-- The hash the bundler answers with. -/
def demoUserOpHash : Bytes := List.replicate 32 0xab

/-! ## What a request leaves behind at the bundler

The submissions are what counts; whether a call id reaches the caller depends on the items
behind. -/

/-- The submissions in a trace, in order. -/
def submissions (trace : List WalletEvent) : List Submission :=
  trace.filterMap fun
    | .coSign _ _ _ _ => none
    | .submit s => some s

/-- The items were submitted and accepted, one after the other, under these call ids. -/
inductive AllAccepted (deps : SendPreparedCallsDeps) (projectId : String) :
    List SendPreparedCallsRequestItem → List Submission → List CallId → Prop where
  | nil : AllAccepted deps projectId [] [] []
  | cons {item items ss callIds} (signature userOpHash : Bytes)
      (h : AllAccepted deps projectId items ss callIds) :
      AllAccepted deps projectId (item :: items)
        (submissionOf deps projectId item signature (.ok userOpHash) :: ss)
        ({ chainId := item.preparedCalls.chainId, userOpHash } :: callIds)

/-- The item was not submitted, or its submission was answered with an error. -/
def NotAccepted (deps : SendPreparedCallsDeps) (projectId : String)
    (item : SendPreparedCallsRequestItem) (submitted : List Submission) : Prop :=
  submitted = [] ∨
    ∃ signature text, submitted = [submissionOf deps projectId item signature (.error text)]

/-- How a request ends and what has been submitted by then: everything, or what stands before the
    item that failed. -/
def BatchOutcome (deps : SendPreparedCallsDeps) (projectId : String)
    (items : List SendPreparedCallsRequestItem) (submitted : List Submission) :
    Outcome SendPreparedCallsError (List CallId) → Prop
  | .ok callIds => AllAccepted deps projectId items submitted callIds
  | _ => ∃ done item rest accepted callIds last,
      items = done ++ item :: rest ∧ submitted = accepted ++ last ∧
      AllAccepted deps projectId done accepted callIds ∧ NotAccepted deps projectId item last

theorem submissions_append (t t' : List WalletEvent) :
    submissions (t ++ t') = submissions t ++ submissions t' :=
  List.filterMap_append

variable {services : WalletServices W}

/-- The items a loop has completed were accepted, one by one: a turn returns only after the
    bundler has accepted. -/
theorem allAccepted_of_completed {items : List SendPreparedCallsRequestItem}
    {callIds : List CallId} {trace : List WalletEvent}
    (h : Completed (ItemTrace deps services projectId) items callIds trace) :
    AllAccepted deps projectId items (submissions trace) callIds := by
  induction h with
  | nil => exact .nil
  | cons hi _ ih =>
    rw [submissions_append]
    cases hi with
    | unsubmitted _ ho => cases ho
    | accepted w signature userOpHash _ => exact .cons signature userOpHash ih

/-- The item that stops a loop was not accepted. -/
theorem notAccepted_of_stopped {item : SendPreparedCallsRequestItem}
    {o : Outcome SendPreparedCallsError CallId} {trace : List WalletEvent}
    (h : ItemTrace deps services projectId item o trace) (ho : o.isOk = false) :
    NotAccepted deps projectId item (submissions trace) := by
  cases h with
  | unsubmitted _ _ => exact Or.inl rfl
  | refused _ signature text _ => exact Or.inr ⟨signature, text, rfl⟩
  | accepted _ signature userOpHash _ => cases ho

/-- **What a request leaves behind at the bundler.**  When the handler returns, every item has been
    submitted once and accepted, and the call ids are returned in order.  When it fails, exactly
    the items before the failing one have been submitted and accepted, and of the failing one there
    is at most one submission that was answered with an error. -/
theorem sendPreparedCalls_batch (deps : SendPreparedCallsDeps) (services : WalletServices W)
    (projectId : String) (items : List SendPreparedCallsRequestItem) (w : W) :
    BatchOutcome deps projectId items
      (submissions (sendPreparedCalls deps services projectId items w).trace)
      (sendPreparedCalls deps services projectId items w).outcome := by
  have htrace := emits_forEach (emits_sendPreparedCallsItem deps services projectId) items w
  change LoopTrace _ items (sendPreparedCalls deps services projectId items w).outcome
    (sendPreparedCalls deps services projectId items w).trace at htrace
  generalize (sendPreparedCalls deps services projectId items w).outcome = outcome at htrace
  generalize (sendPreparedCalls deps services projectId items w).trace = trace at htrace
  cases htrace with
  | returned h => exact allAccepted_of_completed h
  | failed h hi =>
    exact ⟨_, _, _, _, _, _, rfl, submissions_append _ _, allAccepted_of_completed h,
      notAccepted_of_stopped hi rfl⟩
  | panicked h hi =>
    exact ⟨_, _, _, _, _, _, rfl, submissions_append _ _, allAccepted_of_completed h,
      notAccepted_of_stopped hi rfl⟩

/-- Two items, of which the bundler accepts the first and refuses the second: the request fails,
    and the first one has been submitted. -/
theorem secondRefused_firstSubmitted :
    ∃ r, sendPreparedCalls demoSendDeps demoServices "demo" [demoSendItem 0, demoSendItem 0]
        [.ok demoUserOpHash, .error "AA25 invalid account nonce"] = r ∧
      r.outcome = .err (.sendUserOperation "AA25 invalid account nonce") ∧
      ∃ s ∈ submissions r.trace, s.answer = .ok demoUserOpHash := by
  have hzero : lowU128 0 = 0 := by decide
  have hfirst := sendPreparedCallsItem_demo hzero (.ok demoUserOpHash)
    [.error "AA25 invalid account nonce"]
  have hsecond := sendPreparedCallsItem_demo hzero (.error "AA25 invalid account nonce") []
  exact ⟨_, run_forEach_ok hfirst (run_forEach_err hsecond []), rfl, _, List.mem_cons_self .., rfl⟩

/-! ## What is co-signed and what is submitted -/

/-- Right before a submission stands the co-signing of its item, which has given a signature. The
    trace is cut into the traces of its items, and in each of them this is so. -/
theorem coSigned_before_submit {items : List SendPreparedCallsRequestItem}
    {blocks : List (List WalletEvent)}
    (hblocks : ∀ b ∈ blocks, ∃ item ∈ items, ∃ o, ItemTrace deps services projectId item o b)
    {s : Submission} {later : List WalletEvent} : ∀ {earlier : List WalletEvent},
    blocks.flatten = earlier ++ .submit s :: later →
    ∃ item ∈ items, ∃ before w signature answer,
      earlier = before ++ [coSigned deps projectId item (services.cosignEnv w).1] ∧
      CoSignedIn deps projectId item (services.cosignEnv w).1 ∧
      s = submissionOf deps projectId item signature answer := by
  induction blocks with
  | nil =>
    intro earlier h
    simp at h
  | cons b blocks ih =>
    intro earlier h
    obtain ⟨⟨item, hitem, o, hb⟩, hblocks⟩ := List.forall_mem_cons.mp hblocks
    -- a submission in a later block
    have hlater : ∀ (front : List WalletEvent) {earlier' : List WalletEvent},
        blocks.flatten = earlier' ++ .submit s :: later →
        ∃ item ∈ items, ∃ before w signature answer,
          front ++ earlier' = before ++ [coSigned deps projectId item (services.cosignEnv w).1] ∧
          CoSignedIn deps projectId item (services.cosignEnv w).1 ∧
          s = submissionOf deps projectId item signature answer := by
      intro front earlier' hrest
      obtain ⟨item', hitem', before, w, signature, answer, rfl, hs⟩ := ih hblocks hrest
      exact ⟨item', hitem', front ++ before, w, signature, answer,
        (List.append_assoc _ _ _).symm, hs⟩
    -- a block of the item's co-signing and its submission
    have hpair : ∀ w signature answer,
        CoSignedIn deps projectId item (services.cosignEnv w).1 →
        coSigned deps projectId item (services.cosignEnv w).1 ::
          .submit (submissionOf deps projectId item signature answer)
          :: blocks.flatten = earlier ++ .submit s :: later →
        ∃ item ∈ items, ∃ before w signature answer,
          earlier = before ++ [coSigned deps projectId item (services.cosignEnv w).1] ∧
          CoSignedIn deps projectId item (services.cosignEnv w).1 ∧
          s = submissionOf deps projectId item signature answer := by
      intro w signature answer hsigned h
      match earlier, h with
      | [e], h =>
        simp only [List.cons_append, List.nil_append, List.cons.injEq,
          WalletEvent.submit.injEq] at h
        obtain ⟨rfl, rfl, -⟩ := h
        exact ⟨item, hitem, [], w, signature, answer, rfl, hsigned, rfl⟩
      | e :: e' :: earlier', h =>
        simp only [List.cons_append, List.cons.injEq] at h
        exact hlater [e, e'] h.2.2
    cases hb with
    | unsubmitted w ho =>
      match earlier, h with
      | e :: earlier', h =>
        simp only [List.flatten_cons, List.cons_append, List.nil_append, List.cons.injEq] at h
        exact hlater [e] h.2
    | refused w signature text hsigned => exact hpair w signature _ hsigned h
    | accepted w signature userOpHash hsigned => exact hpair w signature _ hsigned h

theorem agrees_withSignature {u : UserOperation} {op : UserOperationV07} {signature : Bytes} :
    Agrees u { op with signature } ↔ Agrees u op :=
  ⟨fun h => { h with }, fun h => { h with }⟩

theorem packedAgrees_withSignature {p : PackedUserOperation} {op : UserOperationV07}
    {signature : Bytes} : PackedAgrees p { op with signature } ↔ PackedAgrees p op :=
  ⟨fun h => { h with }, fun h => { h with }⟩

/-- **When what is co-signed is what is submitted**: every submission comes right after a call of
    the co-signer for its item, which answered with a signature on the hash of the packed form of
    the operation it was called with.  That operation and its packed form agree with the one
    submitted exactly when the operation of the item fits the packing. -/
theorem coSigned_is_submitted_iff (deps : SendPreparedCallsDeps) (services : WalletServices W)
    (projectId : String) (items : List SendPreparedCallsRequestItem) (w : W)
    {earlier later : List WalletEvent} {s : Submission}
    (h : (sendPreparedCalls deps services projectId items w).trace
      = earlier ++ .submit s :: later) :
    ∃ item ∈ items, ∃ before request response w',
      earlier = before ++ [.coSign (coSignAddress deps item) projectId request (.ok response)] ∧
      coSign deps.cosign (services.cosignEnv w').1 (coSignAddress deps item) projectId request
        = .ok response ∧
      SignsHashOf deps.cosign (services.cosignEnv w').1 request.userOp.getPacked
        request.userOp.signature response ∧
      ((Agrees request.userOp s.userOp ∧ PackedAgrees request.userOp.getPacked s.userOp) ↔
        FitsPacking item.preparedCalls.data) := by
  have htrace := emits_forEach (emits_sendPreparedCallsItem deps services projectId) items w
  obtain ⟨blocks, hflatten, hblocks⟩ := htrace.blocks
  obtain ⟨item, hitem, before, w', signature, answer, hearlier, ⟨response, hresponse⟩, rfl⟩ :=
    coSigned_before_submit hblocks (hflatten.symm.trans h)
  rw [coSigned, hresponse] at hearlier
  refine ⟨item, hitem, before, coSignRequestOf item, response, w', hearlier, hresponse,
    signsHashOf_of_coSign hresponse, ?_⟩
  rw [← coSignUserOperation_agrees_iff item.preparedCalls.data item.signature]
  exact and_congr agrees_withSignature packedAgrees_withSignature

theorem sendPreparedCalls_demo {callGasLimit : U256} (h : lowU128 callGasLimit = 0) :
    sendPreparedCalls demoSendDeps demoServices "demo" [demoSendItem callGasLimit]
        [.ok demoUserOpHash]
      = ⟨.ok [{ chainId := 1, userOpHash := demoUserOpHash }], [],
          [coSigned demoSendDeps "demo" (demoSendItem callGasLimit)
              (demoEnv (demoItemJson demoContext))] ++
            .submit (submissionOf demoSendDeps "demo" (demoSendItem callGasLimit) demoSignature
              (.ok demoUserOpHash)) :: []⟩ :=
  run_forEach_ok (sendPreparedCallsItem_demo h (.ok demoUserOpHash) []) (run_forEach_nil _ _)

theorem coSigned_is_submitted_iff_demo :
    ∃ before request response,
      [coSigned demoSendDeps "demo" (demoSendItem 0) (demoEnv (demoItemJson demoContext))]
        = before ++ [.coSign (coSignAddress demoSendDeps (demoSendItem 0)) "demo" request
            (.ok response)] ∧
      SignsHashOf demoSendDeps.cosign (demoEnv (demoItemJson demoContext))
        request.userOp.getPacked request.userOp.signature response ∧
      Agrees request.userOp
        { (demoSendItem 0).preparedCalls.data with signature := demoSignature } ∧
      PackedAgrees request.userOp.getPacked
        { (demoSendItem 0).preparedCalls.data with signature := demoSignature } := by
  have hlow : lowU128 0 = 0 := by decide
  have hrun := congrArg Ran.trace (sendPreparedCalls_demo hlow)
  obtain ⟨item, hitem, before, request, response, w', hearlier, -, hsigns, hagrees⟩ :=
    coSigned_is_submitted_iff demoSendDeps demoServices "demo" [demoSendItem 0]
      [.ok demoUserOpHash] hrun
  obtain rfl := List.mem_singleton.mp hitem
  have hzero : (0 : U256).toNat < 2 ^ 128 := by decide
  have hnone : ∀ x ∈ (none : Option U256), x.toNat < 2 ^ 128 := nofun
  have hgroups : GroupsComplete (demoSendItem 0).preparedCalls.data := by constructor <;> decide
  have hfits : FitsPacking (demoSendItem 0).preparedCalls.data :=
    ⟨⟨hzero, hzero, hzero, hzero, hnone, hnone⟩, hgroups⟩
  exact ⟨before, request, response, hearlier, hsigns, hagrees.mpr hfits⟩

/-- A gas limit with nothing in its low sixteen bytes. -/
def wideGasLimit : U256 := BitVec.ofNat 256 (2 ^ 128)

/-- A call gas limit of `2 ^ 128` is co-signed as zero and submitted as it is. -/
theorem wideGasLimit_coSigned_as_zero :
    ∃ r request answer s, sendPreparedCalls demoSendDeps demoServices "demo"
        [demoSendItem wideGasLimit] [.ok demoUserOpHash] = r ∧
      r.outcome.isOk = true ∧
      r.trace = [.coSign demoAccount "demo" request answer, .submit s] ∧
      request.userOp.callGasLimit = 0 ∧ s.userOp.callGasLimit = wideGasLimit ∧
      ¬ Agrees request.userOp s.userOp := by
  have hzero : lowU128 wideGasLimit = 0 := by decide
  have hne : (lowU128 wideGasLimit).toNat ≠ wideGasLimit.toNat := by decide
  refine ⟨_, coSignRequestOf (demoSendItem wideGasLimit),
    coSignAnswer demoSendDeps "demo" (demoSendItem wideGasLimit)
      (demoEnv (demoItemJson demoContext)),
    submissionOf demoSendDeps "demo" (demoSendItem wideGasLimit) demoSignature (.ok demoUserOpHash),
    sendPreparedCalls_demo hzero, rfl, ?_, hzero, rfl, fun h => hne h.callGasLimit⟩
  rw [← coSignAddress_demo wideGasLimit]
  rfl

end BlockchainApi
