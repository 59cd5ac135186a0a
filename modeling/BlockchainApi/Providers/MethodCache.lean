/-
  Methods that the proxy answers by itself (`src/utils/json_rpc_cache.rs`).

  Three methods say something about the chain that follows from its id.  `eth_chainId` is kept in
  memory under a key of the method and the chain; all requests share that memory, and each may be
  cut between its look-up and its insert, or given up.

  1. **Without a memory** (`methodAnswer`) a request has one answer, which its method, its id and
     the chain determine, or none.
  2. **With one**, what is found under a key is what would be computed: keys of different chains
     differ, and whoever writes under a key computes the same number for it.  So a request is served
     whatever the others do (`serves_isCachedResponse`, by `Lib.Memo`), and nothing has to be said
     about the order.
  3.  `method_answers`: whatever the order, a request that is done was answered as if there were no
     memory, and `eth_chainId` and `net_version` name the same number, in hex digits and in decimal
     ones.
-/
import BlockchainApi.Lib.Memo
import BlockchainApi.Providers.Proxy
import BlockchainApi.Utils.Caip2

namespace BlockchainApi

open SharedStore ByteCodec

/-! ## The methods -/

/-- `CachedMethods`. -/
inductive CachedMethods where
  | ethChainId
  | netListening
  | netVersion
  deriving DecidableEq

namespace CachedMethods

/-- `Display for CachedMethods`. -/
def display : CachedMethods → String
  | ethChainId => "eth_chainId"
  | netListening => "net_listening"
  | netVersion => "net_version"

/-- `str::parse::<CachedMethods>`. -/
def parse : String → Option CachedMethods
  | "eth_chainId" => some ethChainId
  | "net_listening" => some netListening
  | "net_version" => some netVersion
  | _ => none

theorem parse_display (method : CachedMethods) : parse method.display = some method := by
  cases method <;> rfl

end CachedMethods

/-- `JsonRpcRequest`. -/
structure JsonRpcRequest where
  id : Value
  jsonrpc : String
  method : String
  params : Value

/-- `JsonRpcResult`. -/
structure JsonRpcResult where
  id : Value
  jsonrpc : String
  result : Value

/-- `JsonRpcResult::new`. -/
def JsonRpcResult.new (id result : Value) : JsonRpcResult := ⟨id, "2.0", result⟩

/-- `construct_mem_cache_key`. -/
def constructMemCacheKey (method caip2ChainId : String) : String :=
  "rpc_cache:" ++ method ++ ":" ++ caip2ChainId

/-- `get_evm_chain_id_bytes`. -/
def getEvmChainIdBytes (chainId : String) : Option String :=
  (parseUnsigned (2 ^ 64) chainId.toList).map fun chainIdBytes => "0x" ++ lowerHex chainIdBytes

/-- A request at the memory. -/
abbrev MethodProcess := Process String String Unit (Option JsonRpcResult)

/-- `handle_eth_chain_id`. -/
def handleEthChainId (caip2ChainId : String) (request : JsonRpcRequest) : MethodProcess :=
  match disassembleCaip2 caip2ChainId with
  | .ok (_, chainId) =>
    memoize (constructMemCacheKey CachedMethods.ethChainId.display caip2ChainId)
      (getEvmChainIdBytes chainId)
      fun chainIdBytes => chainIdBytes.map fun bytes => .new request.id (.string bytes)
  | _ => .ret none

/-- `handle_net_listening`. -/
def handleNetListening (request : JsonRpcRequest) : MethodProcess :=
  .ret (some (.new request.id (.bool true)))

/-- `handle_net_version`. -/
def handleNetVersion (caip2ChainId : String) (request : JsonRpcRequest) : MethodProcess :=
  match disassembleCaip2 caip2ChainId with
  | .ok (_, chainId) => .ret (some (.new request.id (.string chainId)))
  | _ => .ret none

/-- `is_cached_response`. -/
def isCachedResponse (caip2ChainId : String) (request : JsonRpcRequest) : MethodProcess :=
  match CachedMethods.parse request.method with
  | some .ethChainId => handleEthChainId caip2ChainId request
  | some .netListening => handleNetListening request
  | some .netVersion => handleNetVersion caip2ChainId request
  | none => .ret none

/-- The requests that share the memory. -/
def methodSystem : System (String × JsonRpcRequest) String String Unit (Option JsonRpcResult) where
  program q := isCachedResponse q.1 q.2
  admits _ _ := true

/-! ## Without a memory, and why the memory makes no difference -/

/-- What a method says of a chain. -/
def methodResult (caip2ChainId : String) : CachedMethods → Option Value
  | .netListening => some (.bool true)
  | .netVersion =>
    (disassembleCaip2 caip2ChainId).toOption.map fun parts => .string parts.2
  | .ethChainId =>
    (disassembleCaip2 caip2ChainId).toOption.bind fun parts =>
      (getEvmChainIdBytes parts.2).map Value.string

/-- **The answer to a request**, if the proxy gives one by itself. -/
def methodAnswer (caip2ChainId : String) (request : JsonRpcRequest) : Option JsonRpcResult :=
  (CachedMethods.parse request.method).bind fun method =>
    (methodResult caip2ChainId method).map fun result => .new request.id result

theorem methodAnswer_eq {caip2ChainId : String} {request : JsonRpcRequest} {method : CachedMethods}
    (h : CachedMethods.parse request.method = some method) :
    methodAnswer caip2ChainId request =
      (methodResult caip2ChainId method).map fun result => .new request.id result := by
  rw [methodAnswer, h]
  rfl

/-- What may be found in the memory: the number of a chain, under the key of `eth_chainId`. -/
def ChainIdStored (key value : String) : Prop :=
  ∀ caip2ChainId,
    key = constructMemCacheKey CachedMethods.ethChainId.display caip2ChainId →
      methodResult caip2ChainId .ethChainId = some (.string value)

theorem constructMemCacheKey_injective (method : String) :
    Function.Injective (constructMemCacheKey method) := by
  intro a b h
  exact String.append_right_inj _ |>.mp h

/-- The method with a memory: what is found is what would be computed. -/
theorem serves_handleEthChainId (caip2ChainId : String) (request : JsonRpcRequest) :
    Serves ChainIdStored (fun r => r = (methodResult caip2ChainId .ethChainId).map fun result =>
      .new request.id result) (handleEthChainId caip2ChainId request) := by
  have hresult : methodResult caip2ChainId .ethChainId =
      (disassembleCaip2 caip2ChainId).toOption.bind fun parts =>
        (getEvmChainIdBytes parts.2).map Value.string := rfl
  rw [handleEthChainId, hresult]
  cases hparts : disassembleCaip2 caip2ChainId with
  | ok parts =>
    rw [hparts] at hresult
    refine serves_memoize ?_ (fun v hv => ?_) fun v hv other hkey => ?_
    · show _ = Option.map _ ((getEvmChainIdBytes parts.2).map Value.string)
      cases getEvmChainIdBytes parts.2 <;> rfl
    · have hstored := hv caip2ChainId rfl
      rw [hresult] at hstored
      obtain ⟨bytes, hbytes, heq⟩ := Option.map_eq_some_iff.mp hstored
      cases heq
      exact hbytes
    · obtain rfl := constructMemCacheKey_injective _ hkey
      rw [hresult]
      exact Option.map_eq_some_iff.mpr ⟨v, hv, rfl⟩
  | err e => rfl
  | panic => rfl

/-- **A request is served**: it returns the answer without a memory. -/
theorem serves_isCachedResponse (caip2ChainId : String) (request : JsonRpcRequest) :
    Serves ChainIdStored (fun r => r = methodAnswer caip2ChainId request)
      (isCachedResponse caip2ChainId request) := by
  rw [isCachedResponse]
  cases hmethod : CachedMethods.parse request.method with
  | none =>
    show none = methodAnswer caip2ChainId request
    rw [methodAnswer, hmethod]
    rfl
  | some method =>
    rw [methodAnswer_eq hmethod]
    cases method with
    | netListening => rfl
    | netVersion =>
      show Serves _ _ (handleNetVersion caip2ChainId request)
      rw [handleNetVersion, methodResult]
      cases disassembleCaip2 caip2ChainId <;> rfl
    | ethChainId => exact serves_handleEthChainId caip2ChainId request

/-- **The two methods that name the chain** name the same number. -/
theorem methodResult_agree {caip2ChainId chainIdBytes : String}
    (h : methodResult caip2ChainId .ethChainId = some (.string chainIdBytes)) :
    ∃ chainId n, methodResult caip2ChainId .netVersion = some (.string chainId) ∧
      parseUnsigned (2 ^ 64) chainId.toList = some n ∧ chainIdBytes = "0x" ++ lowerHex n := by
  obtain ⟨parts, hparts, hbytes⟩ := Option.bind_eq_some_iff.mp h
  obtain ⟨bytes, hbytes, heq⟩ := Option.map_eq_some_iff.mp hbytes
  obtain ⟨n, hn, rfl⟩ := Option.map_eq_some_iff.mp hbytes
  cases heq
  refine ⟨parts.2, n, ?_, hn, rfl⟩
  rw [methodResult, hparts]
  rfl

/-- A state of the memory and of its requests. -/
abbrev MethodState :=
  SharedStore.State (String × JsonRpcRequest) String String Unit (Option JsonRpcResult)

/-- Nothing in memory, nothing asked. -/
def methodStart : MethodState := ⟨fun _ => none, []⟩

/-- A request for a chain is done, with an answer or none. -/
def MethodDone (s : MethodState) (caip2ChainId : String) (request : JsonRpcRequest)
    (answer : Option JsonRpcResult) : Prop :=
  ((caip2ChainId, request), .ret answer) ∈ s.requests

/-- What is done in a run is answered as without a memory. -/
theorem answer_of_done {as : List (SharedStore.Action (String × JsonRpcRequest) Unit)}
    {s : MethodState} (hrun : methodSystem.run methodStart as = some s) {caip2ChainId : String}
    {request : JsonRpcRequest} {answer : Option JsonRpcResult}
    (hdone : MethodDone s caip2ChainId request answer) :
    answer = methodAnswer caip2ChainId request := by
  have hstart : Served ChainIdStored (fun q r => r = methodAnswer q.1 q.2) methodStart :=
    ⟨fun _ _ h => (by cases h), fun _ _ h => (by cases h)⟩
  exact (served_run (fun q => serves_isCachedResponse q.1 q.2) hstart hrun).requests _ _ hdone

/-- **Methods that the proxy answers by itself.**  In every run, a request that is done has the
    answer it would have without a memory; and where `eth_chainId` has an answer, `net_version` has
    the same number. -/
theorem method_answers {as : List (SharedStore.Action (String × JsonRpcRequest) Unit)}
    {s : MethodState} (hrun : methodSystem.run methodStart as = some s) :
    (∀ caip2ChainId request answer, MethodDone s caip2ChainId request answer →
      answer = methodAnswer caip2ChainId request) ∧
    ∀ caip2ChainId hexRequest request answer answer',
      CachedMethods.parse hexRequest.method = some .ethChainId →
      CachedMethods.parse request.method = some .netVersion →
      MethodDone s caip2ChainId hexRequest (some answer) →
      MethodDone s caip2ChainId request answer' →
        ∃ chainId n, parseUnsigned (2 ^ 64) chainId.toList = some n ∧
          answer = .new hexRequest.id (.string ("0x" ++ lowerHex n)) ∧
          answer' = some (.new request.id (.string chainId)) := by
  refine ⟨fun _ _ _ => answer_of_done hrun, ?_⟩
  intro caip2ChainId hexRequest request answer answer' hhex hdecimal hdone hdone'
  have hanswer := answer_of_done hrun hdone
  have hanswer' := answer_of_done hrun hdone'
  rw [methodAnswer_eq hhex] at hanswer
  rw [methodAnswer_eq hdecimal] at hanswer'
  obtain ⟨value, hvalue, rfl⟩ := Option.map_eq_some_iff.mp hanswer.symm
  -- the answer is a text, and of the shape that the other method reads off
  obtain ⟨parts, hparts, hbytes⟩ := Option.bind_eq_some_iff.mp hvalue
  obtain ⟨bytes, -, rfl⟩ := Option.map_eq_some_iff.mp hbytes
  obtain ⟨chainId, n, hversion, hn, rfl⟩ := methodResult_agree hvalue
  rw [hversion] at hanswer'
  exact ⟨chainId, n, hn, rfl, hanswer'⟩

/-- The response of the proxy to what it answers by itself. -/
def methodResponse (parseRequest : Bytes → Option JsonRpcRequest)
    (serialize : JsonRpcResult → Bytes) (body : Bytes) (query : RpcQueryParams) :
    Option (Except RpcError Response) :=
  (parseRequest body).bind fun request =>
    (methodAnswer query.chainId request).map fun answer =>
      .ok (answerWith 200 (serialize answer))

/-- Such a request goes to no provider. -/
theorem rpcCall_methodResponse {D R : Type} {w : ProxyWorld D R} {query : RpcQueryParams}
    {parseRequest : Bytes → Option JsonRpcRequest} {serialize : JsonRpcResult → Bytes}
    {body : Bytes} {request : JsonRpcRequest} {answer : JsonRpcResult}
    (hw : w.cachedResponse = methodResponse parseRequest serialize body)
    (hrequest : parseRequest body = some request)
    (hanswer : methodAnswer query.chainId request = some answer) :
    rpcCall w query = (.ok (answerWith 200 (serialize answer)), []) := by
  rw [rpcCall, hw, methodResponse, hrequest, Option.bind_some, hanswer]
  rfl

private def chainIdRequest (id : Int) : JsonRpcRequest := ⟨.int id, "2.0", "eth_chainId", .null⟩

private def versionRequest : JsonRpcRequest := ⟨.int 3, "2.0", "net_version", .null⟩

/-- Two requests look at the empty memory before one of them has stored its value. -/
theorem method_answers_polygon : ∃ s, methodSystem.run methodStart
      [.receive ("eip155:137", chainIdRequest 1), .receive ("eip155:137", chainIdRequest 2),
        .advance 0, .advance 1, .advance 0, .receive ("eip155:137", versionRequest)] = some s ∧
    MethodDone s "eip155:137" (chainIdRequest 1) (some (.new (.int 1) (.string "0x89"))) ∧
    ∃ chainId n, parseUnsigned (2 ^ 64) chainId.toList = some n ∧
      JsonRpcResult.new (.int 1) (.string "0x89") = .new (.int 1) (.string ("0x" ++ lowerHex n)) ∧
      some (JsonRpcResult.new (.int 3) (.string "137")) =
        some (.new (.int 3) (.string chainId)) := by
  have hrun : ∃ s, methodSystem.run methodStart
        [.receive ("eip155:137", chainIdRequest 1), .receive ("eip155:137", chainIdRequest 2),
          .advance 0, .advance 1, .advance 0, .receive ("eip155:137", versionRequest)] = some s ∧
      MethodDone s "eip155:137" (chainIdRequest 1) (some (.new (.int 1) (.string "0x89"))) ∧
      MethodDone s "eip155:137" versionRequest (some (.new (.int 3) (.string "137"))) := by
    refine ⟨_, rfl, ?_, ?_⟩
    · exact List.mem_cons_self ..
    · exact List.mem_cons_of_mem _ (List.mem_cons_of_mem _ (List.mem_cons_self ..))
  obtain ⟨s, hrun, hdone, hdone'⟩ := hrun
  exact ⟨s, hrun, hdone, (method_answers hrun).2 _ _ _ _ _ rfl rfl hdone hdone'⟩

end BlockchainApi
