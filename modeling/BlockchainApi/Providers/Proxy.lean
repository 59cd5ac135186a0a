/-
  RPC requests and their providers (`src/handlers/proxy.rs`, with the message patterns of
  `src/providers/mod.rs`).

  A request is sent to one provider after the other until one gives a final answer.  A request of a
  session on some chains goes to a provider of its own first, and to the others if that fails.

  1. **The messages** of errors that another provider might not have.  They are found by what their
     text contains.
  2. **One call** (`rpcProviderCall`), **one turn of the loop** (`proxyAttempt`) and the loop
     (`retryLoop`, over `Lib.Retry`); the shortcut of sessions (`sessionAnswer`), and the request as
     a whole (`rpcCall`).  What a provider answers to a request is part of `ProxyWorld`.
  3. **What is final** (`Final`), in words that do not follow the code.  One turn answers exactly
     with a final outcome (`proxyAttempt_eq_some`), so `retry_loop_spec` is the general fact about
     such loops: the loop returns the first final answer, and calls no provider after it.
  4. `session_refines_iff`: the shortcut returns what the loop would have returned exactly if the
     answer is not an error that another provider might not have, and can be read.  The shortcut
     never looks at the body.
  5. `rpcCallLoop_called`: with the selection in front of it, the loop calls no provider twice.
-/
import BlockchainApi.Lib.Retry
import BlockchainApi.Providers.Selection

namespace BlockchainApi

open ByteCodec Sampling

/-! ## Messages of errors, and the patterns they are searched for -/

/-- `contains`. -/
def containsText (text pattern : String) : Bool :=
  text.toList.tails.any fun rest => pattern.toList.isPrefixOf rest

/-- One of the patterns is in the text. -/
def containsAny (patterns : List String) (text : String) : Bool :=
  patterns.any (containsText text)

/-- `NODE_ERROR_PATTERNS`. -/
def nodeErrorPatterns : List String :=
  ["cannot unmarshal", "Go value", "deserialization error", "node error", "try again later",
    "header not found"]

/-- `RATE_LIMITED_ERROR_PATTERNS`. -/
def rateLimitedErrorPatterns : List String :=
  ["quota exceed", "exceeded quota", "rate limit", "rate-limit", "paid", "upgrade plan",
    "subscription", "compute units for this month", "compute units exceeded", "your plan",
    "current plan", "you reached", "no matched providers found"]

/-- `is_node_error_rpc_message`. -/
def isNodeErrorRpcMessage : String → Bool := containsAny nodeErrorPatterns

/-- `is_rate_limited_error_rpc_message`. -/
def isRateLimitedErrorRpcMessage : String → Bool := containsAny rateLimitedErrorPatterns

/-- `is_internal_error_rpc_code`. -/
def isInternalErrorRpcCode (errorCode : Int) : Bool := -32099 ≤ errorCode && errorCode ≤ -32000

/-! ## Calls: one provider, one turn, the loop -/

/-- A response.  Reading its body may fail half way. -/
structure Response where
  status : Nat
  headers : List (String × String)
  body : Option Bytes

/-- The error of a JSON-RPC response. -/
structure JsonRpcError where
  code : Int
  message : String

/-- `jsonrpc::Response`, as far as it is read. -/
structure JsonRpcResponse where
  error : Option JsonRpcError

/-- What comes of `provider.proxy`. -/
inductive ProxyOutcome where
  /-- No response in time. -/
  | elapsed
  | failed (e : RpcError)
  | responded (response : Response)

/-- `PROVIDER_PROXY_MAX_CALLS`. -/
def providerProxyMaxCalls : Nat := 5

/-- `DEFAULT_CONTENT_TYPE`. -/
def defaultContentType : String × String := ("content-type", "application/json")

/-- The body, if it can be read and is not too long. -/
def readBody (body : Option Bytes) : Option Bytes := body.bind fun bytes => (toBytes bytes).toOption

/-- `is_success`. -/
def isSuccess (status : Nat) : Bool := 200 ≤ status && status < 300

/-- `is_server_error`. -/
def isServerError (status : Nat) : Bool := 500 ≤ status && status < 600

/-- `rpc_provider_call`: what is neither OK nor a bad request, or says that there were too many
    requests, counts as unavailable. -/
def rpcProviderCall (provider : RpcProvider) : ProxyOutcome → Except RpcError Response
  | .elapsed => .error .proxyTimeoutError
  | .failed e => .error e
  | .responded response =>
    let response :=
      if response.status = provider.rateLimitStatus then { response with status := 503 }
      else response
    if response.status = 200 ∨ response.status = 400 then .ok response
    else .ok { response with status := 503 }

/-- An error for which the loop goes on to another provider. -/
def goesOn (response : JsonRpcResponse) : Bool :=
  response.error.any fun error =>
    isInternalErrorRpcCode error.code &&
      (isRateLimitedErrorRpcMessage error.message || isNodeErrorRpcMessage error.message)

section

-- `serde_json::from_slice::<jsonrpc::Response>`
variable (parse : Bytes → Option JsonRpcResponse)

/-- One turn of the loop of `rpc_call`: the answer to the request, or `none` to go on. -/
def proxyAttempt : Except RpcError Response → Option Response
  | .error _ => none
  | .ok response =>
    if isSuccess response.status || response.status = 400 then
      match readBody response.body with
      | none => none
      | some bodyBytes =>
        if (parse bodyBytes).any goesOn then none
        else some ⟨response.status, [defaultContentType], some bodyBytes⟩
    else none

/-- The loop of `rpc_call`: what it returns, and the providers it calls. -/
def retryLoop (call : RpcProvider → Except RpcError Response) (chainId : String)
    (providers : List RpcProvider) : Except RpcError Response × List RpcProvider :=
  let tried := Retry.run (fun provider => proxyAttempt parse (call provider)) providers
  (tried.1.elim (.error (.chainTemporarilyUnavailable chainId)) .ok, tried.2)

end

/-! ## Requests: the shortcut, then the loop -/

/-- `RpcQueryParams`, as far as it is read. -/
structure RpcQueryParams where
  chainId : String
  projectId : String
  providerId : Option String
  sessionId : Option String

/-- What a request meets. -/
structure ProxyWorld (D R : Type) where
  /-- `is_cached_response`: the response that some methods are answered with at once. -/
  cachedResponse : RpcQueryParams → Option (Except RpcError Response)
  parse : Bytes → Option JsonRpcResponse
  repository : ProviderRepository
  testingProjectId : Option String
  index : WeightedIndex D R String
  order : RowOrder ((_ : ProviderKind) × Weight)
  rng : Nat → R
  /-- What comes of the call for a session. -/
  sessionOutcome : RpcProvider → ProxyOutcome
  /-- What comes of the calls of the loop. -/
  outcome : RpcProvider → ProxyOutcome

/-- The providers that requests of sessions go to. -/
def sessionProviderKind : String → Option ProviderKind
  | "eip155:10" => some .quicknode
  | "eip155:8453" => some .publicnode
  | "eip155:42161" => some .publicnode
  | _ => none

/-- The response to a request of a session, unless it is an error of the server. -/
def sessionAnswer : Except RpcError Response → Option Response
  | .ok response => if isServerError response.status then none else some response
  | .error _ => none

section

variable {D R : Type} (w : ProxyWorld D R) (query : RpcQueryParams)

/-- The provider that the request goes to first, if any. -/
def sessionProvider : Except RpcError (Option RpcProvider) :=
  match query.sessionId.bind fun _ => sessionProviderKind query.chainId with
  | none => .ok none
  | some kind =>
    match w.repository.rpcProviders.lookup kind with
    | none => .error (.unsupportedProvider kind.display)
    | some provider => .ok (some provider)

/-- The providers of the loop: the one that is asked for, in tests, or a selection. -/
def proxyProviders : Except RpcError (List RpcProvider) :=
  match query.providerId with
  | none => getRpcProviderForChainId w.index w.order w.rng w.repository query.chainId
      providerProxyMaxCalls
  | some providerId =>
    match w.repository.rpcProviders.lookup (.fromStr providerId) with
    | none => .error (.unsupportedProvider providerId)
    | some provider =>
      match w.testingProjectId with
      | none => .error (.invalidParameter
          "RPC_PROXY_TESTING_PROJECT_ID should be configured for this type of request")
      | some testingProjectId =>
        if testingProjectId = query.projectId then .ok [provider]
        else .error (.invalidParameter ("The project ID " ++ query.projectId ++
          " is not allowed to use the exact provider request"))

/-- `rpc_call`, from the loop on. -/
def rpcCallLoop : Except RpcError Response × List RpcProvider :=
  match proxyProviders w query with
  | .error e => (.error e, [])
  | .ok providers =>
    retryLoop w.parse (fun provider => rpcProviderCall provider (w.outcome provider)) query.chainId
      providers

/-- `rpc_call`: what it returns, and the providers it calls. -/
def rpcCall : Except RpcError Response × List RpcProvider :=
  match w.cachedResponse query with
  | some response => (response, [])
  | none =>
    match sessionProvider w query with
    | .error e => (.error e, [])
    | .ok none => rpcCallLoop w query
    | .ok (some provider) =>
      match sessionAnswer (rpcProviderCall provider (w.sessionOutcome provider)) with
      | some response => (.ok response, [provider])
      | none => ((rpcCallLoop w query).1, provider :: (rpcCallLoop w query).2)

end

/-! ## What is final, in words that do not follow the code -/

/-- An error that another provider might not have: an internal one, whose message speaks of limits
    or of the node. -/
def ProviderError (error : JsonRpcError) : Prop :=
  (-32099 ≤ error.code ∧ error.code ≤ -32000) ∧
    ∃ pattern ∈ rateLimitedErrorPatterns ++ nodeErrorPatterns,
      pattern.toList <:+: error.message.toList

/-- A body that is to be returned: it can be read, and is not such an error. -/
def Returnable (parse : Bytes → Option JsonRpcResponse) (body : Option Bytes) (bytes : Bytes) :
    Prop :=
  body = some bytes ∧ bytes.length ≤ providerResponseMaxBytes ∧
    ∀ response error, parse bytes = some response → response.error = some error →
      ¬ ProviderError error

/-- **A final outcome**: a success or a bad request, whose body is to be returned. -/
def Final (parse : Bytes → Option JsonRpcResponse) (outcome : Except RpcError Response)
    (status : Nat) (bytes : Bytes) : Prop :=
  ∃ response, outcome = .ok response ∧ response.status = status ∧
    ((200 ≤ status ∧ status < 300) ∨ status = 400) ∧ Returnable parse response.body bytes

/-- The answer with a status and a body. -/
def answerWith (status : Nat) (bytes : Bytes) : Response :=
  ⟨status, [defaultContentType], some bytes⟩

theorem containsText_iff {text pattern : String} :
    containsText text pattern = true ↔ pattern.toList <:+: text.toList := by
  rw [containsText, List.any_eq_true, List.infix_iff_prefix_suffix]
  constructor
  · rintro ⟨rest, hrest, hprefix⟩
    exact ⟨rest, List.isPrefixOf_iff_prefix.mp hprefix, (List.mem_tails _ _).mp hrest⟩
  · rintro ⟨rest, hprefix, hsuffix⟩
    exact ⟨rest, (List.mem_tails _ _).mpr hsuffix, List.isPrefixOf_iff_prefix.mpr hprefix⟩

theorem containsAny_iff {patterns : List String} {text : String} :
    containsAny patterns text = true ↔ ∃ pattern ∈ patterns, pattern.toList <:+: text.toList := by
  rw [containsAny, List.any_eq_true]
  exact exists_congr fun pattern => and_congr_right fun _ => containsText_iff

theorem goesOn_iff {response : JsonRpcResponse} :
    goesOn response = true ↔ ∃ error, response.error = some error ∧ ProviderError error := by
  rw [goesOn, Option.any_eq_true]
  refine exists_congr fun error => and_congr_right fun _ => ?_
  rw [ProviderError, isInternalErrorRpcCode, isRateLimitedErrorRpcMessage, isNodeErrorRpcMessage,
    Bool.and_eq_true, Bool.and_eq_true, Bool.or_eq_true, decide_eq_true_iff, decide_eq_true_iff,
    containsAny_iff, containsAny_iff]
  simp only [List.mem_append, or_and_right, exists_or]

theorem readBody_eq_some {body : Option Bytes} {bytes : Bytes} :
    readBody body = some bytes ↔ body = some bytes ∧ bytes.length ≤ providerResponseMaxBytes := by
  rw [readBody, Option.bind_eq_some_iff]
  constructor
  · rintro ⟨read, hread, hbytes⟩
    rw [toBytes] at hbytes
    split at hbytes
    · rename_i hlength
      cases hbytes
      exact ⟨hread, hlength⟩
    · cases hbytes
  · rintro ⟨hread, hlength⟩
    refine ⟨bytes, hread, ?_⟩
    rw [toBytes, if_pos hlength]
    rfl

section

variable {parse : Bytes → Option JsonRpcResponse} {outcome : Except RpcError Response}

/-- A body is returned or makes the loop go on. -/
theorem returnable_iff {body : Option Bytes} {bytes : Bytes} :
    Returnable parse body bytes ↔
      readBody body = some bytes ∧ (parse bytes).any goesOn = false := by
  rw [Returnable, readBody_eq_some, and_assoc]
  refine and_congr_right fun _ => and_congr_right fun _ => ?_
  rw [← Bool.not_eq_true, Option.any_eq_true]
  constructor
  · rintro hnot ⟨response, hparse, hgoes⟩
    obtain ⟨error, herror, hprovider⟩ := goesOn_iff.mp hgoes
    exact hnot response error hparse herror hprovider
  · intro hnot response error hparse herror hprovider
    exact hnot ⟨response, hparse, goesOn_iff.mpr ⟨error, herror, hprovider⟩⟩

/-- **One turn of the loop** answers exactly with a final outcome. -/
theorem proxyAttempt_eq_some {answer : Response} :
    proxyAttempt parse outcome = some answer ↔
      ∃ status bytes, Final parse outcome status bytes ∧ answer = answerWith status bytes := by
  cases outcome with
  | error e =>
    -- an error is no outcome that is final
    refine iff_of_false (fun h => (by cases h)) ?_
    rintro ⟨status, bytes, ⟨response, h, -⟩, -⟩
    cases h
  | ok response =>
    -- the two tests of the status are the ranges of the statement
    have hstatus : (isSuccess response.status || response.status = 400) = true ↔
        (200 ≤ response.status ∧ response.status < 300) ∨ response.status = 400 := by
      rw [isSuccess, Bool.or_eq_true, Bool.and_eq_true, decide_eq_true_iff, decide_eq_true_iff,
        decide_eq_true_iff]
    rw [proxyAttempt]
    constructor
    · intro h
      split at h
      · rename_i haccepted
        split at h
        · cases h
        · rename_i bytes hbytes
          split at h
          · cases h
          · rename_i hgoes
            cases h
            exact ⟨response.status, bytes, ⟨response, rfl, rfl, hstatus.mp haccepted,
              returnable_iff.mpr ⟨hbytes, by simpa using hgoes⟩⟩, rfl⟩
      · cases h
    · rintro ⟨status, bytes, ⟨response', hok, rfl, haccepted, hreturnable⟩, rfl⟩
      cases hok
      obtain ⟨hbytes, hgoes⟩ := returnable_iff.mp hreturnable
      rw [if_pos (hstatus.mpr haccepted), hbytes]
      dsimp only
      rw [hgoes]
      rfl

theorem proxyAttempt_eq_none :
    proxyAttempt parse outcome = none ↔ ∀ status bytes, ¬ Final parse outcome status bytes := by
  rw [Option.eq_none_iff_forall_ne_some]
  constructor
  · intro h status bytes hfinal
    exact h _ (proxyAttempt_eq_some.mpr ⟨status, bytes, hfinal, rfl⟩)
  · intro h answer hanswer
    obtain ⟨status, bytes, hfinal, -⟩ := proxyAttempt_eq_some.mp hanswer
    exact h status bytes hfinal

end

/-! ## The loop returns the first final answer -/

section

variable {parse : Bytes → Option JsonRpcResponse} {call : RpcProvider → Except RpcError Response}
  {chainId : String} {providers : List RpcProvider}

/-- **The loop over the providers.**  It returns the first final answer, after which it calls no
    other provider; it says that the chain is unavailable exactly if no outcome is final; and the
    providers it calls are the first of the list, in order. -/
theorem retry_loop_spec (parse : Bytes → Option JsonRpcResponse)
    (call : RpcProvider → Except RpcError Response) (chainId : String)
    (providers : List RpcProvider) :
    (∀ before provider after status bytes, providers = before ++ provider :: after →
      (∀ other ∈ before, ∀ status bytes, ¬ Final parse (call other) status bytes) →
      Final parse (call provider) status bytes →
        retryLoop parse call chainId providers =
          (.ok (answerWith status bytes), before ++ [provider])) ∧
    ((retryLoop parse call chainId providers).1 = .error (.chainTemporarilyUnavailable chainId) ↔
      ∀ provider ∈ providers, ∀ status bytes, ¬ Final parse (call provider) status bytes) ∧
    (retryLoop parse call chainId providers).2 <+: providers := by
  refine ⟨?_, ?_, Retry.run_tried⟩
  · rintro before provider after status bytes rfl hbefore hfinal
    have hfirst := Retry.run_of_first after
      (fun other hother => proxyAttempt_eq_none.mpr (hbefore other hother))
      (proxyAttempt_eq_some.mpr ⟨status, bytes, hfinal, rfl⟩)
    rw [retryLoop, hfirst]
    rfl
  · have hnone : (∀ provider ∈ providers, proxyAttempt parse (call provider) = none) ↔
        ∀ provider ∈ providers, ∀ status bytes, ¬ Final parse (call provider) status bytes :=
      forall₂_congr fun _ _ => proxyAttempt_eq_none
    rw [← hnone, ← Retry.run_eq_none, retryLoop]
    dsimp only
    cases (Retry.run (fun provider => proxyAttempt parse (call provider)) providers).1 with
    | none => exact iff_of_true rfl rfl
    | some answer => exact iff_of_false (fun h => (by cases h)) (fun h => (by cases h))

/-- An answer comes from a call. -/
theorem retryLoop_called {answer : Response}
    (h : (retryLoop parse call chainId providers).1 = .ok answer) :
    (retryLoop parse call chainId providers).2 ≠ [] := by
  rw [retryLoop] at h ⊢
  rcases Retry.run_spec (fun provider => proxyAttempt parse (call provider)) providers with
    ⟨-, hrun⟩ | ⟨before, provider, after, a, -, -, -, hrun⟩
  · rw [hrun] at h
    cases h
  · rw [hrun]
    exact List.append_ne_nil_of_right_ne_nil _ (List.cons_ne_nil _ _)

/-- The loop answers with a final outcome of the first provider. -/
theorem retryLoop_first {provider : RpcProvider} {answer : Response}
    (h : proxyAttempt parse (call provider) = some answer) (others : List RpcProvider) :
    (retryLoop parse call chainId (provider :: others)).1 = .ok answer := by
  rw [retryLoop, Retry.run, h]
  rfl

end

/-! ## The shortcut of sessions, compared with the loop

The shortcut passes on what it gets, the loop looks into the body first. -/

section

variable {D R : Type} {w : ProxyWorld D R} {query : RpcQueryParams} {provider : RpcProvider}
  {parse : Bytes → Option JsonRpcResponse}

/-- The shortcut returns what the loop would have returned: whenever a request ends after the call
    for the session, the loop returns the same status and body if its first provider has the same
    outcome. -/
def SessionRefines (w : ProxyWorld D R) (query : RpcQueryParams) (provider : RpcProvider) : Prop :=
  ∀ response, rpcCall w query = (.ok response, [provider]) →
    ∀ call, call provider = rpcProviderCall provider (w.sessionOutcome provider) → ∀ others,
      ∃ answer, (retryLoop w.parse call query.chainId (provider :: others)).1 = .ok answer ∧
        answer.status = response.status ∧ answer.body = response.body

/-- A response of a provider that says OK or bad request can be read, and is no error that another
    provider might not have. -/
def SoundOutcome (parse : Bytes → Option JsonRpcResponse) (provider : RpcProvider)
    (outcome : ProxyOutcome) : Prop :=
  ∀ response, outcome = .responded response → (response.status = 200 ∨ response.status = 400) →
    response.status ≠ provider.rateLimitStatus → ∃ bytes, Returnable parse response.body bytes

/-- A response that says OK or bad request is passed on as it is. -/
theorem rpcProviderCall_responded {response : Response}
    (hstatus : response.status = 200 ∨ response.status = 400)
    (hlimit : response.status ≠ provider.rateLimitStatus) :
    rpcProviderCall provider (.responded response) = .ok response := by
  rw [rpcProviderCall, if_neg hlimit]
  exact if_pos hstatus

/-- **What the shortcut returns**: responses that say OK or bad request. -/
theorem sessionAnswer_eq_some {outcome : ProxyOutcome} {response : Response} :
    sessionAnswer (rpcProviderCall provider outcome) = some response ↔
      outcome = .responded response ∧ (response.status = 200 ∨ response.status = 400) ∧
        response.status ≠ provider.rateLimitStatus := by
  constructor
  · intro h
    cases outcome with
    -- without a response the loop is next
    | elapsed => cases h
    | failed e => cases h
    | responded received =>
      by_cases hlimit : received.status = provider.rateLimitStatus
      · rw [rpcProviderCall, if_pos hlimit] at h
        cases h
      · by_cases hstatus : received.status = 200 ∨ received.status = 400
        · rw [rpcProviderCall_responded hstatus hlimit, sessionAnswer] at h
          split at h
          · cases h
          · cases h
            exact ⟨rfl, hstatus, hlimit⟩
        · rw [rpcProviderCall, if_neg hlimit, if_neg hstatus] at h
          cases h
  · rintro ⟨rfl, hstatus, hlimit⟩
    rw [rpcProviderCall_responded hstatus hlimit, sessionAnswer, if_neg]
    rcases hstatus with hstatus | hstatus
    · rw [hstatus]
      decide
    · rw [hstatus]
      decide

/-- The provider of a session, if it is there. -/
theorem sessionProvider_eq {kind : ProviderKind}
    (hkind : (query.sessionId.bind fun _ => sessionProviderKind query.chainId) = some kind)
    (hprovider : w.repository.rpcProviders.lookup kind = some provider) :
    sessionProvider w query = .ok (some provider) := by
  rw [sessionProvider, hkind]
  dsimp only
  rw [hprovider]

/-- A request of a session ends after its own call exactly if the shortcut returns. -/
theorem rpcCall_session {response : Response} (hcached : w.cachedResponse query = none)
    (hsession : sessionProvider w query = .ok (some provider)) :
    rpcCall w query = (.ok response, [provider]) ↔
      sessionAnswer (rpcProviderCall provider (w.sessionOutcome provider)) = some response := by
  rw [rpcCall, hcached, hsession]
  dsimp only
  cases hanswer : sessionAnswer (rpcProviderCall provider (w.sessionOutcome provider)) with
  | some answer =>
    constructor
    · rintro h
      cases h
      rfl
    · rintro h
      cases h
      rfl
  | none =>
    refine iff_of_false (fun h => ?_) (fun h => (by cases h))
    -- the loop would have to answer without a call
    obtain ⟨hok, hcalled⟩ := Prod.mk.inj h
    obtain ⟨-, hnil⟩ := List.cons.inj hcalled
    rw [rpcCallLoop] at hok hnil
    cases hproviders : proxyProviders w query with
    | error e =>
      rw [hproviders] at hok
      cases hok
    | ok providers =>
      rw [hproviders] at hok hnil
      exact retryLoop_called hok hnil

/-- **When the shortcut refines the loop**: exactly if what the provider of the session answers
    with OK or a bad request can be read, and is no error that another provider might not have. -/
theorem session_refines_iff (hcached : w.cachedResponse query = none)
    (hsession : sessionProvider w query = .ok (some provider)) :
    SessionRefines w query provider ↔
      SoundOutcome w.parse provider (w.sessionOutcome provider) := by
  constructor
  · intro h response houtcome hstatus hlimit
    have hcall : rpcProviderCall provider (.responded response) = .ok response :=
      rpcProviderCall_responded hstatus hlimit
    have hreturned := (rpcCall_session hcached hsession).mpr
      (sessionAnswer_eq_some.mpr ⟨houtcome, hstatus, hlimit⟩)
    -- the loop with this provider alone
    obtain ⟨answer, hanswer, -⟩ := h response hreturned
      (fun _ => rpcProviderCall provider (w.sessionOutcome provider)) rfl []
    rw [retryLoop, Retry.run, houtcome, hcall] at hanswer
    cases hattempt : proxyAttempt w.parse (.ok response) with
    | none =>
      rw [hattempt] at hanswer
      cases hanswer
    | some final =>
      obtain ⟨status, bytes, ⟨response', hok, -, -, hreturnable⟩, -⟩ :=
        proxyAttempt_eq_some.mp hattempt
      cases hok
      exact ⟨bytes, hreturnable⟩
  · intro h response hreturned call hcall others
    obtain ⟨houtcome, hstatus, hlimit⟩ :=
      sessionAnswer_eq_some.mp ((rpcCall_session hcached hsession).mp hreturned)
    obtain ⟨bytes, hreturnable⟩ := h response houtcome hstatus hlimit
    rw [houtcome, rpcProviderCall_responded hstatus hlimit] at hcall
    have haccepted : (200 ≤ response.status ∧ response.status < 300) ∨ response.status = 400 := by
      omega
    have hattempt : proxyAttempt w.parse (call provider) =
        some (answerWith response.status bytes) :=
      proxyAttempt_eq_some.mpr ⟨_, bytes, ⟨response, hcall, rfl, haccepted, hreturnable⟩, rfl⟩
    exact ⟨_, retryLoop_first hattempt others, rfl, hreturnable.1.symm⟩

/-! ## The loop and the selection that feeds it -/

/-- What the loop is given: different providers, and not too many. -/
theorem proxyProviders_spec {weights : D → List Nat} {providers : List RpcProvider}
    (hlaws : Lawful w.index weights weightBound) (hs : w.repository.Known)
    (h : proxyProviders w query = .ok providers) :
    (providers.map RpcProvider.providerKind).Nodup ∧ providers.length ≤ providerProxyMaxCalls := by
  rw [proxyProviders] at h
  cases hid : query.providerId with
  | none =>
    -- a selection from the repository
    rw [hid] at h
    dsimp only at h
    cases hchain : w.repository.rpcWeightResolver.lookup query.chainId with
    | none =>
      rw [getRpcProviderForChainId, hchain] at h
      cases h
    | some kinds =>
      obtain ⟨selected, hselected, hlength, hnodup, -⟩ := getRpcProviderForChainId_spec hlaws hs
        hchain w.order w.rng providerProxyMaxCalls
      rw [hselected] at h
      cases h
      exact ⟨hnodup, hlength ▸ Nat.min_le_left _ _⟩
  | some providerId =>
    -- the one provider that a test asks for
    rw [hid] at h
    dsimp only at h
    split at h
    · cases h
    · split at h
      · cases h
      · split at h
        · cases h
          exact ⟨List.nodup_singleton _, (by decide : 1 ≤ 5)⟩
        · cases h

/-- **The loop calls no provider twice**, and not more than five. -/
theorem rpcCallLoop_called {weights : D → List Nat} (hlaws : Lawful w.index weights weightBound)
    (hs : w.repository.Known) :
    ((rpcCallLoop w query).2.map RpcProvider.providerKind).Nodup ∧
      (rpcCallLoop w query).2.length ≤ providerProxyMaxCalls := by
  rw [rpcCallLoop]
  cases hproviders : proxyProviders w query with
  | error e => exact ⟨List.nodup_nil, Nat.zero_le _⟩
  | ok providers =>
    obtain ⟨hnodup, hlength⟩ := proxyProviders_spec hlaws hs hproviders
    have htried : (retryLoop w.parse (fun provider => rpcProviderCall provider (w.outcome provider))
        query.chainId providers).2 <+: providers := Retry.run_tried
    exact ⟨hnodup.sublist (htried.sublist.map _), htried.length_le.trans hlength⟩

end

/-! ## A rate limit that reaches the client -/

/-- A response with status 200 and a body of one byte. -/
def demoRpcResponse (byte : UInt8) : Response := ⟨200, [], some [byte]⟩

/-- A reader for which a body of 1 is an error about a rate limit, and others are results. -/
def demoParse (bytes : Bytes) : Option JsonRpcResponse :=
  if bytes = [1] then some ⟨some ⟨-32005, "daily rate limit reached"⟩⟩ else some ⟨none⟩

/-- The provider of sessions on Base answers with a body of one byte. -/
def demoProxyWorld (byte : UInt8) : ProxyWorld (List Nat) Nat where
  cachedResponse _ := none
  parse := demoParse
  repository := demoRepository
  testingProjectId := none
  index := cumulative
  order := .stored
  rng := id
  sessionOutcome _ := .responded (demoRpcResponse byte)
  outcome _ := .responded (demoRpcResponse byte)

/-- A request of a session on Base. -/
def demoRpcQuery : RpcQueryParams := ⟨"eip155:8453", "project", none, some "session"⟩

theorem demoRpcQuery_session (byte : UInt8) :
    sessionProvider (demoProxyWorld byte) demoRpcQuery =
      .ok (some (demoRpcProvider .publicnode)) := by
  have hlookup : demoRepository.rpcProviders.lookup .publicnode =
      some (demoRpcProvider .publicnode) := by decide +kernel
  exact sessionProvider_eq (by decide +kernel) hlookup

/-- A result. -/
theorem session_refines_iff_demo :
    SessionRefines (demoProxyWorld 0) demoRpcQuery (demoRpcProvider .publicnode) := by
  refine (session_refines_iff rfl (demoRpcQuery_session 0)).mpr fun response hresponse _ _ => ?_
  cases hresponse
  refine ⟨[0], rfl, by decide, fun response error hparse herror => ?_⟩
  cases hparse
  cases herror

/-- The error about the rate limit is returned, although the loop would have gone on. -/
theorem demoRateLimit_not_refined :
    ¬ SessionRefines (demoProxyWorld 1) demoRpcQuery (demoRpcProvider .publicnode) := by
  intro h
  have hcall : rpcProviderCall (demoRpcProvider .publicnode) (.responded (demoRpcResponse 1)) =
      .ok (demoRpcResponse 1) := rpcProviderCall_responded (.inl rfl) (by decide)
  have hreturned : rpcCall (demoProxyWorld 1) demoRpcQuery =
      (.ok (demoRpcResponse 1), [demoRpcProvider .publicnode]) :=
    (rpcCall_session rfl (demoRpcQuery_session 1)).mpr (congrArg sessionAnswer hcall)
  obtain ⟨answer, hanswer, -⟩ := h (demoRpcResponse 1) hreturned (fun _ => .ok (demoRpcResponse 1))
    hcall.symm []
  have hgoes : proxyAttempt (demoProxyWorld 1).parse (.ok (demoRpcResponse 1)) = none := by
    decide +kernel
  rw [retryLoop, Retry.run, hgoes] at hanswer
  cases hanswer

end BlockchainApi
