/-
  The identity endpoint over time (`handlers/identity.rs`): ENS, the names store and the cache of
  identities.

  A lookup asks ENS, notes the time, and asks the names store if ENS has no name; the response goes
  to the cache for a day, in the background, and to the client with a `Cache-Control` that is
  counted from the noted time.  Lookups run side by side while names are registered, moved and
  deleted (`namesStore`), and the cache may fail, forget or evict.

  1. **The service.** `identityService` is an instance of `Lib.ReadThrough`: the work on a request
     has two phases, one that waits for ENS and one that waits for the database.  With nothing in
     between it is the lookup of `Names.Resolution` (`lookupIdentity_run`).

  2. **Bounded staleness** (`identity_bounded_staleness`).  A response that was looked up shows what
     ENS or the store says at that moment; one from the cache what they said less than a day ago,
     plus the delay of the write.  Both have the noted time, and no HTTP cache that obeys the header
     keeps them for more than a day after it.  The contract behind it is `identityContract`.

  3. **Deletion** (`deleted_name_disappears`).  Once an address is gone from a name, lookups stop
     showing the name at once, cached responses after a day and that delay, and HTTP caches after a
     day.  A name that is registered is not registered again, so only an update brings an address
     back (`Store.Gone.step`).  The run at the end deletes an address a moment after it was looked
     up.
-/
import BlockchainApi.Lib.ReadThrough
import BlockchainApi.Names.Resolution
import BlockchainApi.Project.CircuitBreaker

namespace BlockchainApi

open ReadThrough

/-! ## The handler: the access check, the lookup, and the header -/

/-- Nanoseconds of a second. -/
def nanosPerSecond : Nat := 1000000000

/-- `CACHE_TTL`, in seconds. -/
def identityCacheTtl : Nat := 60 * 60 * 24

/-- `CACHE_TTL_DELTA` and `CACHE_TTL_STD`. -/
def identityCacheTtlDelta : Nat := identityCacheTtl * nanosPerSecond

/-- `ttl_from_resolved_at`: what is left of a day, and zero after it. -/
def ttlFromResolvedAt (resolvedAt now : Nat) : Nat := resolvedAt + identityCacheTtlDelta - now

/-- `ttl_secs` of a response. -/
def IdentityResponse.ttlSecs (res : IdentityResponse) (now : Nat) : Nat :=
  ((res.resolvedAt.map fun resolvedAt => ttlFromResolvedAt resolvedAt now).getD
    (60 * 60 * nanosPerSecond)) / nanosPerSecond

/-- The header `Cache-Control`. -/
def cacheControl (ttlSecs : Nat) : String :=
  "public, max-age=" ++ toString ttlSecs ++ ", s-maxage=" ++ toString ttlSecs

/-- `build_empty_identity_response_with_cache`. -/
def emptyIdentityResponse (now : Nat) : IdentityResponse := ⟨none, none, some now⟩

/-- `handler_internal`: the access check, the lookup, and what the address is taken for. -/
def identityHandler (access : Except RpcError Unit) (isSolanaAddress : String → Bool)
    (parse : String → Option Address)
    (lookup : Address → Except RpcError (IdentityLookupSource × IdentityResponse)) (now : Nat)
    (address : String) : Except RpcError (String × IdentityResponse) := do
  access
  if isSolanaAddress address then
    return (cacheControl (60 * 60), emptyIdentityResponse now)
  match parse address with
  | none => throw .invalidAddress
  | some address =>
    let (_, res) ← lookup address
    return (cacheControl (res.ttlSecs now), res)

/-! ## Lookups as a service with a cache -/

/-- The arguments of `lookup_identity`. -/
structure IdentityRequest where
  query : IdentityQueryParams
  address : Address

/-- What a lookup waits for. -/
inductive IdentityPhase where
  | rpc
  | names (res : IdentityResponse)

/-- What a lookup is told: a name and an avatar by ENS, or the state of the database. -/
inductive IdentityTold where
  | rpc (answer : Except RpcError (Option String × Option String))
  | names (pool : Pool)

/-- The response with the first local name, if there is one. -/
def localIdentity (res : IdentityResponse) : List NameRow → IdentityLookupSource × IdentityResponse
  | [] => (.rpc, res)
  | first :: _ =>
    (.local, { res with
      name := some first.name
      avatar := first.attributes.bind fun attributes => attributes.lookup "avatar" })

/-- One phase of `lookup_identity` after a miss: what ENS says ends it or leads to the database,
    and what the database says ends it. -/
def resumeIdentity (id : IdentityService) (w : Store) (now : Nat) (request : IdentityRequest) :
    IdentityPhase → IdentityTold →
      Progress IdentityPhase RpcError (IdentityLookupSource × IdentityResponse)
  | .rpc, .rpc (.error e) => .done (.error e)
  | .rpc, .rpc (.ok (name, avatar)) =>
    -- `resolved_at` is the time at which ENS has answered
    if name = none then .more (.names ⟨name, avatar, some now⟩)
    else .done (.ok (.rpc, ⟨name, avatar, some now⟩))
  | .names res, .names pool =>
    match pool.query (.ok (w.getNamesByAddress pool.nameOrder (id.toChecksum request.address))) with
    | .error _ => .done (.error .internalNameResolverError)
    | .ok names => .done (.ok (localIdentity res names))
  | phase, _ => .more phase

/-- `lookup_identity`, with the write to the cache. -/
def identityService (id : IdentityService) :
    Service Store StoreOp IdentityRequest String (IdentityLookupSource × IdentityResponse) RpcError
      StorageError IdentityPhase IdentityTold where
  act := Store.apply
  early _ _ request :=
    match id.enableCache request.query with
    | .error e => some (.error e)
    | .ok _ => none
  reads request := id.enableCache request.query = .ok true && id.identityCache.isSome
  writes request := id.enableCache request.query = .ok true && id.identityCache.isSome
  key request := id.toChecksum request.address ++ "-v1"
  fault
    | .deserialize text => some (.storage text)
    | .other text => some (.storage text)
  readBack value := (.cache, value.2)
  begin _ _ _ := .ok .rpc
  resume w now request phase told := (w, resumeIdentity id w now request phase told)
  lifetime := identityCacheTtlDelta

section Service

variable {id : IdentityService}

/-- The moment of a lookup: what the cache finds, and what ENS answers. -/
def IdentityService.at (id : IdentityService)
    (s : State Store IdentityRequest String (IdentityLookupSource × IdentityResponse) RpcError
      IdentityPhase)
    (answer : Except RpcError (Option String × Option String)) : IdentityService :=
  { id with
    identityCache := id.identityCache.map fun _ key =>
      .ok ((s.store.find s.now key).map fun entry => entry.value.2)
    lookupIdentityRpc := fun _ =>
      answer.map fun (name, avatar) => ⟨name, avatar, some s.now⟩ }

/-- The state of the service. -/
abbrev IdentityState :=
  State Store IdentityRequest String (IdentityLookupSource × IdentityResponse) RpcError
    IdentityPhase

theorem cached_at (s : IdentityState) (answer : Except RpcError (Option String × Option String))
    {request : IdentityRequest} {enabled : Bool}
    (henable : id.enableCache request.query = .ok enabled) :
    (id.at s answer).cached request.query request.address =
      ((identityService id).read s request none).map fun found =>
        found.map fun entry => entry.value.2 := by
  have henable' : (id.at s answer).enableCache request.query = .ok enabled := henable
  rw [IdentityService.cached, henable', Service.read]
  cases enabled with
  | false => simp [identityService, henable, Except.map]; rfl
  | true =>
    cases hcache : id.identityCache with
    | none => simp [identityService, hcache, Except.map, IdentityService.at]
    | some cache =>
      simp [identityService, henable, hcache, Except.map, IdentityService.at]; rfl

/-- The work on a new request, once ENS has answered and then the database. -/
theorem lookupIdentity_work (s : IdentityState)
    (answer : Except RpcError (Option String × Option String)) (pool : Pool)
    (request : IdentityRequest) (huncached : (id.at s answer).cached request.query request.address
      = .ok none) :
    (id.at s answer).lookupIdentity pool s.world request.query request.address =
      match resumeIdentity id s.world s.now request .rpc (.rpc answer) with
      | .done result => result
      | .more phase =>
        match resumeIdentity id s.world s.now request phase (.names pool) with
        | .done result => result
        | .more _ => .error .internalNameResolverError := by
  rw [IdentityService.lookupIdentity, huncached]
  rcases answer with e | ⟨name, avatar⟩
  · rfl
  · cases name with
    | some name => rfl
    | none =>
      have hchecksum : (id.at s (.ok (none, avatar))).toChecksum = id.toChecksum := rfl
      simp only [resumeIdentity, IdentityService.at, Except.map, bind, Except.bind, if_true]
      cases pool.query (.ok (s.world.getNamesByAddress pool.nameOrder
        (id.toChecksum request.address))) with
      | error e => rfl
      | ok names => cases names <;> rfl

/-- A read without a fault is no error. -/
theorem read_none_ne_error (s : IdentityState) (request : IdentityRequest) (e : RpcError) :
    (identityService id).read s request none ≠ .error e := by
  rw [Service.read]
  split <;> exact nofun

variable (id) in
/-- The work on a new request goes on. -/
theorem run_resume (s : IdentityState) (request : IdentityRequest) (phase : IdentityPhase)
    (told : IdentityTold) :
    (identityService id).machine.step
        { s with working := s.working ++ [⟨request, s.now, phase⟩] }
        (.resume s.working.length told) =
      some (match resumeIdentity id s.world s.now request phase told with
        | .more phase' => { s with working := s.working ++ [⟨request, s.now, phase'⟩] }
        | .done result =>
          { s.answer request result (.direct s.now) with
            spawned := s.spawned ++
              (identityService id).toStore ⟨request, s.now, phase⟩ s.now result }) := by
  have hresume : (identityService id).resume s.world s.now request phase told =
      (s.world, resumeIdentity id s.world s.now request phase told) := rfl
  rw [Service.machine_step, Service.step]
  simp only [List.getElem?_concat_length, Option.map_some, Service.advance, hresume]
  cases resumeIdentity id s.world s.now request phase told with
  | more phase' => simp
  | done result => simp [State.answer, List.eraseIdx_append_of_length_le]

variable (id) in
/-- The database is the last to be asked. -/
theorem resumeIdentity_names (w : Store) (now : Nat) (request : IdentityRequest)
    (res : IdentityResponse) (pool : Pool) :
    ∃ result, resumeIdentity id w now request (.names res) (.names pool) = .done result := by
  rw [resumeIdentity]
  split
  · exact ⟨_, rfl⟩
  · exact ⟨_, rfl⟩

theorem resumeIdentity_rpc_more {w : Store} {now : Nat} {request : IdentityRequest}
    {answer : Except RpcError (Option String × Option String)} {phase : IdentityPhase}
    (h : resumeIdentity id w now request .rpc (.rpc answer) = .more phase) :
    ∃ avatar, answer = .ok (none, avatar) ∧ phase = .names ⟨none, avatar, some now⟩ := by
  rcases answer with e | ⟨name, avatar⟩
  · cases h
  · rw [resumeIdentity] at h
    split at h
    · next hname =>
      cases h
      exact ⟨avatar, by rw [hname], by rw [hname]⟩
    · cases h

/-- A lookup that the cache does not answer, with nothing in between. -/
theorem lookupIdentity_run_of_miss (s : IdentityState)
    (answer : Except RpcError (Option String × Option String)) (pool : Pool)
    (request : IdentityRequest)
    (hearly : (identityService id).early s.world s.now request = none)
    (hread : (identityService id).read s request none = .ok none)
    (hcached : (id.at s answer).cached request.query request.address = .ok none) :
    ∃ as t source, as <+: [.receive request none, .resume s.working.length (.rpc answer),
        .resume s.working.length (.names pool)] ∧
      (identityService id).machine.run s as = some t ∧
      t.answers = s.answers ++ [⟨request,
        (id.at s answer).lookupIdentity pool s.world request.query request.address, source,
        s.now⟩] := by
  have hreceive : (identityService id).machine.step s (.receive request none) =
      some { s with working := s.working ++ [⟨request, s.now, .rpc⟩] } := by
    show some ((identityService id).receive s request none) = _
    rw [Service.receive, hearly, hread]
    rfl
  have hlookup := lookupIdentity_work s answer pool request hcached
  have hens := run_resume id s request .rpc (.rpc answer)
  cases hphase : resumeIdentity id s.world s.now request .rpc (.rpc answer) with
  | done result =>
    -- ENS has a name, or its error ends the request
    rw [hphase] at hens hlookup
    refine ⟨[.receive request none, .resume s.working.length (.rpc answer)], _,
      .direct s.now, ⟨_, rfl⟩, Transitions.Machine.run_cons.mpr ⟨_, hreceive,
        Transitions.Machine.run_cons.mpr ⟨_, hens, rfl⟩⟩, ?_⟩
    rw [hlookup]
    rfl
  | more phase =>
    -- ENS has none, so the store of names is asked
    obtain ⟨avatar, -, rfl⟩ := resumeIdentity_rpc_more hphase
    have hnames := run_resume id s request (.names ⟨none, avatar, some s.now⟩)
      (.names pool)
    obtain ⟨result, hresult⟩ := resumeIdentity_names id s.world s.now request
      ⟨none, avatar, some s.now⟩ pool
    rw [hphase] at hens hlookup
    simp only [hresult] at hnames hlookup
    refine ⟨_, _, .direct s.now, List.prefix_rfl, Transitions.Machine.run_cons.mpr ⟨_, hreceive,
      Transitions.Machine.run_cons.mpr ⟨_, hens,
        Transitions.Machine.run_cons.mpr ⟨_, hnames, rfl⟩⟩⟩, ?_⟩
    rw [hlookup]
    rfl

/-- **A lookup with nothing in between** is `lookup_identity` on what the cache, ENS and the
    database have. -/
theorem lookupIdentity_run (s : IdentityState)
    (answer : Except RpcError (Option String × Option String)) (pool : Pool)
    (request : IdentityRequest) :
    ∃ as t source, as <+: [.receive request none, .resume s.working.length (.rpc answer),
        .resume s.working.length (.names pool)] ∧
      (identityService id).machine.run s as = some t ∧
      t.answers = s.answers ++ [⟨request,
        (id.at s answer).lookupIdentity pool s.world request.query request.address, source,
        s.now⟩] := by
  have hreceive : (identityService id).machine.step s (.receive request none) =
      some ((identityService id).receive s request none) := rfl
  cases henable : id.enableCache request.query with
  | error e =>
    -- the request is refused before the cache
    have hearly : (identityService id).early s.world s.now request = some (.error e) := by
      simp [identityService, henable]
    have hlookup : (id.at s answer).lookupIdentity pool s.world request.query request.address =
        .error e := by
      have henable' : (id.at s answer).enableCache request.query = .error e := henable
      rw [IdentityService.lookupIdentity, IdentityService.cached, henable']
      rfl
    refine ⟨[.receive request none], _, .direct s.now, ⟨_, rfl⟩,
      Transitions.Machine.run_cons.mpr ⟨_, hreceive, rfl⟩, ?_⟩
    rw [Service.receive, hearly, hlookup]
    rfl
  | ok enabled =>
    have hearly : (identityService id).early s.world s.now request = none := by
      simp [identityService, henable]
    have hcached := cached_at s answer henable
    cases hread : (identityService id).read s request none with
    | error e => exact absurd hread (read_none_ne_error s request e)
    | ok found =>
      rw [hread] at hcached
      cases found with
      | some entry =>
        -- the cache has the answer
        have hlookup : (id.at s answer).lookupIdentity pool s.world request.query
            request.address = .ok (.cache, entry.value.2) := by
          rw [IdentityService.lookupIdentity, hcached]
          rfl
        refine ⟨[.receive request none], _, .cached entry, ⟨_, rfl⟩,
          Transitions.Machine.run_cons.mpr ⟨_, hreceive, rfl⟩, ?_⟩
        rw [Service.receive, hearly, hread, hlookup]
        rfl
      | none => exact lookupIdentity_run_of_miss s answer pool request hearly hread hcached

end Service

/-! ## What responses show

ENS is known by what is assumed of it at a time, the store by the calls that were made on it. -/

/-- What is assumed of ENS and of the store, each at a time. -/
structure IdentityWorld where
  ens : Nat → Address → Option String × Option String → Prop
  held : Nat → Store → Prop

/-- The first name of an address in the store, with its avatar. -/
def FirstName (w : Store) (address : String) (res : IdentityResponse) : Prop :=
  ∃ order first rest, w.getNamesByAddress order address = first :: rest ∧
    res.name = some first.name ∧
      res.avatar = first.attributes.bind fun attributes => attributes.lookup "avatar"

/-- **What a response shows**: what ENS says of the address at the noted time, which is now if it
    is a name, or the first name of the address in the store now. -/
def Shows (world : IdentityWorld) (id : IdentityService) (address : Address) (now : Nat)
    (res : IdentityResponse) : Prop :=
  (∃ resolved, res.resolvedAt = some resolved ∧ world.ens resolved address (res.name, res.avatar) ∧
      (res.name ≠ none → resolved = now)) ∨
    ∃ w, world.held now w ∧ FirstName w (id.toChecksum address) res

/-- A response that was worked out from a time on. -/
structure Resolved (world : IdentityWorld) (id : IdentityService) (request : IdentityRequest)
    (started now : Nat) (res : IdentityResponse) : Prop where
  resolvedAt : ∃ resolved, res.resolvedAt = some resolved ∧ started ≤ resolved ∧ resolved ≤ now
  shows : Shows world id request.address now res

/-- What a lookup waits for, once ENS has no name. -/
def WaitsFor (world : IdentityWorld) (request : IdentityRequest) (started now : Nat) :
    IdentityPhase → Prop
  | .rpc => True
  | .names res => res.name = none ∧ ∃ resolved, res.resolvedAt = some resolved ∧
      started ≤ resolved ∧ resolved ≤ now ∧
        world.ens resolved request.address (res.name, res.avatar)

/-- ENS and the store at a time. -/
def TellsOf (world : IdentityWorld) (now : Nat) (request : IdentityRequest) : IdentityTold → Prop
  | .rpc (.ok answer) => world.ens now request.address answer
  | _ => True

section Contract

variable {id : IdentityService} {world : IdentityWorld} {w : Store} {request : IdentityRequest}
  {started now : Nat} {phase : IdentityPhase} {told : IdentityTold}

/-- ENS has no name, and the database is asked next. -/
theorem waitsFor_of_more (htold : TellsOf world now request told) (hstarted : started ≤ now)
    (hphase : WaitsFor world request started now phase) {phase' : IdentityPhase}
    (h : resumeIdentity id w now request phase told = .more phase') :
    WaitsFor world request started now phase' := by
  unfold resumeIdentity at h
  split at h
  · cases h
  · next name avatar =>
    split at h
    · next hname =>
      cases h
      exact ⟨hname, now, rfl, hstarted, Nat.le_refl _, htold⟩
    · cases h
  · split at h <;> cases h
  · cases h
    exact hphase

/-- **A lookup that is done** shows what it was told. -/
theorem resolved_of_done (hheld : world.held now w) (htold : TellsOf world now request told)
    (hstarted : started ≤ now) (hphase : WaitsFor world request started now phase)
    {source : IdentityLookupSource} {res : IdentityResponse}
    (h : resumeIdentity id w now request phase told = .done (.ok (source, res))) :
    Resolved world id request started now res ∧ source ≠ .cache := by
  unfold resumeIdentity at h
  split at h
  · cases h
  · -- ENS has answered with a name
    next name avatar =>
    split at h
    · cases h
    · cases h
      exact ⟨⟨⟨now, rfl, hstarted, Nat.le_refl _⟩, .inl ⟨now, rfl, htold, fun _ => rfl⟩⟩,
        by decide⟩
  · -- the store of names is asked after ENS
    next waiting pool =>
    obtain ⟨hnone, resolved, hresolved, hfrom, hto, hens⟩ := hphase
    split at h
    · cases h
    · next names hquery =>
      have hnames : names = w.getNamesByAddress pool.nameOrder (id.toChecksum request.address) := by
        rw [Pool.query] at hquery
        split at hquery
        · cases hquery
        · exact (Except.ok.inj hquery).symm
      cases hlist : names with
      | nil =>
        -- it has none either
        rw [hlist] at h
        cases h
        exact ⟨⟨⟨resolved, hresolved, hfrom, hto⟩,
          .inl ⟨resolved, hresolved, hens, fun h => absurd hnone h⟩⟩, by decide⟩
      | cons first rest =>
        -- its first one is shown
        rw [hlist] at h
        cases h
        exact ⟨⟨⟨resolved, hresolved, hfrom, hto⟩,
          .inr ⟨w, hheld, pool.nameOrder, first, rest, hnames ▸ hlist, rfl, rfl⟩⟩, by decide⟩
  · cases h

/-- The contract of lookups, for what is assumed of ENS and the store. -/
def identityContract (id : IdentityService) (world : IdentityWorld) :
    Contract (identityService id) where
  world := world.held
  told := TellsOf world
  working := WaitsFor world
  right request started now result :=
    ∀ source res, result = .ok (source, res) →
      Resolved world id request started now res ∧ source ≠ .cache
  working_wait {q started now later phase} hle hphase := by
    cases phase with
    | rpc => trivial
    | names res =>
      obtain ⟨hnone, resolved, hresolved, hfrom, hto, hens⟩ := hphase
      exact ⟨hnone, resolved, hresolved, hfrom, hto.trans hle, hens⟩
  early_right {w now q result} _ hearly source res heq := by
    subst heq
    simp only [identityService] at hearly
    split at hearly <;> cases hearly
  fault_right _ _ _ h := by cases h
  refused_right _ _ h := by cases h
  begin_working _ _ h := by
    cases h
    trivial
  more_working _ htold hstarted hphase hresume :=
    waitsFor_of_more htold hstarted hphase (Prod.mk.inj hresume).2
  done_right hheld htold hstarted hphase hresume source res hok := by
    subst hok
    exact resolved_of_done hheld htold hstarted hphase (Prod.mk.inj hresume).2

end Contract

/-! ## Bounded staleness, of every response of a run -/

/-- **A header** is counted from the noted time. -/
theorem ttlSecs_le {res : IdentityResponse} {resolved : Nat} (h : res.resolvedAt = some resolved)
    (now : Nat) :
    now + res.ttlSecs now * nanosPerSecond ≤ max now (resolved + identityCacheTtlDelta) := by
  have hfloor : res.ttlSecs now * nanosPerSecond ≤ ttlFromResolvedAt resolved now := by
    rw [IdentityResponse.ttlSecs, h]
    exact Nat.div_mul_le_self ..
  rw [ttlFromResolvedAt] at hfloor
  omega

/-- What can happen to the endpoint, the store and the cache. -/
abbrev IdentityAction := Action StoreOp IdentityRequest String StorageError IdentityTold

section Staleness

variable {id : IdentityService} {world : IdentityWorld} {delay : Nat} {s : IdentityState}
  {as : List IdentityAction}

/-- The runs of the endpoint and the store, from nothing stored. -/
def IdentityRun (id : IdentityService) (world : IdentityWorld) (delay : Nat)
    (as : List IdentityAction) (s : IdentityState) :
    Prop :=
  (identityService id).machine.Within
      (fun s a => (identityContract id world).Admits s a ∧ Prompt delay s a) (.start .empty) as ∧
    (identityService id).machine.run (.start .empty) as = some s

/-- The keys of the cache tell addresses apart. -/
theorem address_of_key (hchecksum : Function.Injective id.toChecksum) {q q' : IdentityRequest}
    (h : (identityService id).key q = (identityService id).key q') : q.address = q'.address := by
  have hkey : id.toChecksum q.address ++ "-v1" = id.toChecksum q'.address ++ "-v1" := h
  exact hchecksum (String.append_left_inj _ |>.mp hkey)

/-- **How old a response is**: it notes when ENS was asked, and shows what was so at some time. -/
structure Staleness (world : IdentityWorld) (id : IdentityService) (delay : Nat)
    (a : Answer IdentityRequest (IdentityLookupSource × IdentityResponse) RpcError)
    (source : IdentityLookupSource) (res : IdentityResponse) (resolved seen : Nat) : Prop where
  noted : res.resolvedAt = some resolved
  resolved_le : resolved ≤ seen
  seen_le : seen ≤ a.time
  /-- ENS was asked while the request was worked on. -/
  started_le : ∀ started, a.source = .direct started → started ≤ resolved
  /-- What is not from the cache was worked out, and what is from the cache was found there. -/
  source_iff : source = .cache ↔ ∃ entry, a.source = .cached entry
  shows : Shows world id a.request.address seen res
  /-- A lookup shows what is so now. -/
  looked_up : source ≠ .cache → seen = a.time
  /-- The cache is not read by requests that turn it off, and not after a day and the delay of the
      write. -/
  cached : source = .cache → a.request.query.useCache ≠ some false ∧
    a.time < resolved + delay + identityCacheTtlDelta
  /-- The handler serves it with a header that keeps it for no more than a day from the noted
      time. -/
  header : ∀ access isSolanaAddress parse text now cacheHeader shown,
    parse text = some a.request.address → isSolanaAddress text = false →
      identityHandler access isSolanaAddress parse (fun _ => a.result) now text =
        .ok (cacheHeader, shown) →
      shown = res ∧ ∃ ttlSecs, cacheHeader = cacheControl ttlSecs ∧
        now + ttlSecs * nanosPerSecond ≤ max now (resolved + identityCacheTtlDelta)

variable {a : Answer IdentityRequest (IdentityLookupSource × IdentityResponse) RpcError}
  {source : IdentityLookupSource} {res : IdentityResponse}

/-- A request that turns the cache off does not read it. -/
theorem useCache_of_reads {request : IdentityRequest}
    (h : (identityService id).reads request = true) : request.query.useCache ≠ some false := by
  intro hoff
  simp only [identityService, IdentityService.enableCache, hoff] at h
  split at h
  · simp at h
  · split at h <;> simp at h

/-- **What the handler serves** is what the lookup answered, with a header counted from the noted
    time. -/
theorem header_of_handler {resolved : Nat} (hok : a.result = .ok (source, res))
    (hresolved : res.resolvedAt = some resolved) {access : Except RpcError Unit}
    {isSolanaAddress : String → Bool} {parse : String → Option Address} {text : String} {now : Nat}
    {cacheHeader : String} {shown : IdentityResponse} (hparse : parse text = some a.request.address)
    (hnot : isSolanaAddress text = false)
    (h : identityHandler access isSolanaAddress parse (fun _ => a.result) now text =
      .ok (cacheHeader, shown)) :
    shown = res ∧ ∃ ttlSecs, cacheHeader = cacheControl ttlSecs ∧
      now + ttlSecs * nanosPerSecond ≤ max now (resolved + identityCacheTtlDelta) := by
  rw [identityHandler, hnot, hparse, hok] at h
  cases access with
  | error e => cases h
  | ok u =>
    cases h
    exact ⟨rfl, _, rfl, ttlSecs_le hresolved now⟩

/-- What the contract says of a response. -/
theorem staleness_of_meets (hchecksum : Function.Injective id.toChecksum)
    (hmeets : (identityContract id world).Meets delay a) (hok : a.result = .ok (source, res)) :
    ∃ resolved seen, Staleness world id delay a source res resolved seen := by
  rw [Contract.Meets] at hmeets
  cases hsource : a.source with
  | direct started =>
    -- the answer was looked up for this request
    rw [hsource] at hmeets
    obtain ⟨⟨⟨resolved, hresolved, hfrom, hto⟩, hshows⟩, hne⟩ := hmeets.2 source res hok
    refine ⟨resolved, a.time, hresolved, hto, Nat.le_refl _, ?_, ?_, hshows, fun _ => rfl,
      fun h => absurd h hne, ?_⟩
    · rintro started' heq
      cases hsource.symm.trans heq
      exact hfrom
    · refine iff_of_false hne ?_
      rintro ⟨entry, heq⟩
      cases hsource.symm.trans heq
    · intro access isSolanaAddress parse text now cacheHeader shown hparse hnot h
      exact header_of_handler hok hresolved hparse hnot h
  | cached entry =>
    -- the answer was stored by an earlier one, which was looked up
    rw [hsource] at hmeets
    obtain ⟨hresult, hreads, hkey, hstored, hcompleted, hfresh⟩ := hmeets
    have hresult' := hok.symm.trans hresult
    obtain ⟨⟨⟨resolved, hresolved, hfrom, hto⟩, hshows⟩, -⟩ := hstored.right _ _ rfl
    have haddress := address_of_key hchecksum hkey
    have hlifetime : (identityService id).lifetime = identityCacheTtlDelta := rfl
    cases hresult'
    refine ⟨resolved, entry.completed, hresolved, hto, hcompleted, ?_, ?_, haddress ▸ hshows,
      fun h => absurd rfl h, fun _ => ⟨useCache_of_reads hreads, by omega⟩, ?_⟩
    · rintro started heq
      cases hsource.symm.trans heq
    · exact iff_of_true rfl ⟨entry, hsource⟩
    · intro access isSolanaAddress parse text now cacheHeader shown hparse hnot h
      exact header_of_handler hok hresolved hparse hnot h

end Staleness

/-! ## Deletion: the runs before and after it -/

/-- A registered name without a row for an address. -/
structure Store.Gone (w : Store) (name address : String) : Prop where
  registered : w.names.has name = true
  gone : ∀ row ∈ w.addresses.rows, row.address = address → row.name ≠ name

/-- A call gives the address to the name. -/
def Gives (name address : String) : StoreOp → Prop
  | .updateAddress _ name' _ address' => name' = name ∧ address' = address
  | _ => False

theorem Store.Gone.putAddress {w : Store} {name address : String} (hw : w.Gone name address)
    {row : AddressRow} {h : w.names.has row.name = true}
    (hrow : row.name ≠ name ∨ row.address ≠ address) :
    (w.putAddress row h).Gone name address := by
  refine ⟨hw.registered, fun x hx haddress hname => ?_⟩
  rcases mem_putAddress.mp hx with ⟨hx, -⟩ | rfl
  · exact hw.gone x hx haddress hname
  · exact hrow.elim (fun h => h hname) fun h => h haddress

/-- **A name that is registered** is not registered again, so only an update brings an address
    back: a case for each call. -/
theorem Store.Gone.step {w w' : Store} {name address : String} {op : StoreOp}
    (hw : w.Gone name address) (hop : ¬ Gives name address op)
    (h : namesStore.step w op = some w') : w'.Gone name address := by
  cases Store.step_cases h with
  | @register now name' attributes addresses _ hinsert =>
    have hne : name' ≠ name := by
      rintro rfl
      obtain ⟨-, w₁, hrow, -⟩ := insertName_eq_ok hinsert
      obtain ⟨-, -, hnew, -⟩ := insertNameRow_eq_ok.mp hrow
      exact Bool.noConfusion (hnew.symm.trans hw.registered)
    refine insertName_induction (P := fun w => w.Gone name address) hinsert ?_
      fun w c address' hs hw => hw.putAddress (.inl hne)
    intro w₁ hrow
    obtain ⟨-, -, hnew, rfl⟩ := insertNameRow_eq_ok.mp hrow
    exact ⟨(Table.has_append (h := hnew)).mpr (.inl hw.registered), hw.gone⟩
  | @updateAddress now name' coinType address' hfits hname =>
    refine hw.putAddress ?_
    by_contra hboth
    obtain ⟨hn, ha⟩ := not_or.mp hboth
    exact hop ⟨not_not.mp hn, not_not.mp ha⟩
  | deleteAddress hcheck =>
    exact ⟨hw.registered, fun row hrow => hw.gone row (Table.mem_delete.mp hrow).1⟩
  | updateAttributes hname =>
    exact ⟨has_putAttributes.trans hw.registered, hw.gone⟩

theorem Store.Gone.not_firstName {w : Store} {name address : String} (hw : w.Gone name address)
    {res : IdentityResponse} (hres : FirstName w address res) : res.name ≠ some name := by
  obtain ⟨order, first, rest, hlist, hname, -⟩ := hres
  have hmem : first ∈ w.getNamesByAddress order address := hlist ▸ List.mem_cons_self ..
  obtain ⟨row, hrow, hfind⟩ := List.mem_filterMap.mp (order.mem_arrange.mp hmem)
  obtain ⟨hrow, haddress⟩ := mem_rowsOf.mp hrow
  obtain ⟨-, hfirst⟩ := Table.find?_eq_some.mp hfind
  rw [hname]
  intro heq
  exact hw.gone row hrow haddress (hfirst.symm.trans (Option.some.inj heq))

section Deletion

variable {id : IdentityService} {delay : Nat} {s t : IdentityState} {account : Address}
  {name : String} {before after : List IdentityAction}

/-- ENS does not give the name to the account, and no update gives the address back. -/
def NotGiven (name address : String) (account : Address) (s : IdentityState) :
    IdentityAction → Prop
  | .act op => ¬ Gives name address op
  | .resume i (.rpc (.ok answer)) =>
    ∀ work, s.working[i]? = some work → work.request.address = account → answer.1 ≠ some name
  | _ => True

/-- What holds of ENS and the store after a deletion. -/
def afterDeletion (id : IdentityService) (account : Address) (name : String) (deleted : Nat) :
    IdentityWorld where
  ens now address answer := now ≤ deleted ∨ (address = account → answer.1 ≠ some name)
  held now w := now ≤ deleted ∨ w.Gone name (id.toChecksum account)

/-- Only calls change the store. -/
theorem world_step {a : IdentityAction}
    (h : (identityService id).machine.step s a = some t) :
    t.world = s.world ∨ ∃ op, a = .act op ∧ namesStore.step s.world op = some t.world := by
  cases a with
  | receive q fault =>
    -- only an operation on the store of names changes it
    cases h
    exact .inl Service.world_receive
  | resume i x =>
    obtain ⟨work, -, rfl⟩ := Option.map_eq_some_iff.mp h
    left
    unfold Service.advance
    split
    · next w phase hresume => exact (Prod.mk.inj hresume).1.symm
    · next w result hresume => exact (Prod.mk.inj hresume).1.symm
  | put i =>
    obtain ⟨entry, -, rfl⟩ := Option.map_eq_some_iff.mp h
    exact .inl rfl
  | lose i =>
    obtain ⟨entry, -, rfl⟩ := Option.map_eq_some_iff.mp h
    exact .inl rfl
  | evict k =>
    cases h
    exact .inl rfl
  | act op =>
    obtain ⟨w, hop, rfl⟩ := Option.map_eq_some_iff.mp h
    exact .inr ⟨op, rfl, hop⟩
  | wait duration =>
    cases h
    exact .inl rfl

/-- The run before a deletion and the run after it: the second begins with entries and requests
    of the first, which is why the cache may show the name for a while. -/
theorem identityRun_of_deletion
    (hbefore : (identityService id).machine.run (.start .empty) before = some s)
    (hafter : (identityService id).machine.run s after = some t)
    (hprompt : (identityService id).machine.Within (Prompt delay) (.start .empty)
      (before ++ after))
    (hgone : s.world.Gone name (id.toChecksum account))
    (hnew : (identityService id).machine.Within (NotGiven name (id.toChecksum account) account) s
      after) :
    IdentityRun id (afterDeletion id account name s.now) delay (before ++ after) t := by
  refine ⟨?_, Transitions.Machine.run_append.mpr ⟨s, hbefore, hafter⟩⟩
  have hadmits : (identityService id).machine.Within
      (identityContract id (afterDeletion id account name s.now)).Admits (.start .empty)
      (before ++ after) := by
    refine (Transitions.Machine.within_append hbefore).mpr ⟨?_, ?_⟩
    · -- before the deletion nothing is assumed
      refine (Service.within_now_le hbefore).2.imp_of_kept (P := fun _ => True)
        (fun _ _ _ => trivial) (fun _ hle => ?_) trivial
      refine ⟨.inl hle, fun i x _ work _ => ?_⟩
      rcases x with (e | answer) | pool
      · trivial
      · exact .inl hle
      · trivial
    · -- after it, the store keeps the name away from the account, and ENS is assumed to
      refine hnew.imp_of_kept (P := fun u => u.world.Gone name (id.toChecksum account))
        (fun {u a u'} hu hcond hstep => ?_) (fun {u a} hu hcond => ?_) hgone
      · rcases world_step hstep with hsame | ⟨op, rfl, hop⟩
        · rwa [hsame]
        · exact hu.step hcond hop
      · refine ⟨.inr hu, fun i x ha work hwork => ?_⟩
        subst ha
        rcases x with (e | answer) | pool
        · trivial
        · exact .inr (hcond work hwork)
        · trivial
  exact hadmits.and hprompt

/-- **A deleted name disappears.**  Once an address is gone from a name, lookups do not show the
    name to it any more, the cache not after a day and the delay of the write, and no HTTP cache
    after a day, unless the address is given back. -/
theorem deleted_name_disappears (hchecksum : Function.Injective id.toChecksum)
    (hbefore : (identityService id).machine.run (.start .empty) before = some s)
    (hafter : (identityService id).machine.run s after = some t)
    (hprompt : (identityService id).machine.Within (Prompt delay) (.start .empty)
      (before ++ after))
    (hgone : s.world.Gone name (id.toChecksum account))
    (hnew : (identityService id).machine.Within (NotGiven name (id.toChecksum account) account) s
      after)
    {a : Answer IdentityRequest (IdentityLookupSource × IdentityResponse) RpcError}
    (ha : a ∈ t.answers) (haccount : a.request.address = account)
    {source : IdentityLookupSource} {res : IdentityResponse}
    (hok : a.result = .ok (source, res)) (hname : res.name = some name) :
    (source ≠ .cache → a.time ≤ s.now) ∧
      (source = .cache → a.time < s.now + delay + identityCacheTtlDelta) ∧
      ∀ access isSolanaAddress parse text now cacheHeader shown,
        parse text = some account → isSolanaAddress text = false →
          identityHandler access isSolanaAddress parse (fun _ => a.result) now text =
            .ok (cacheHeader, shown) →
          ∃ ttlSecs, cacheHeader = cacheControl ttlSecs ∧
            now + ttlSecs * nanosPerSecond ≤ max now (s.now + identityCacheTtlDelta) := by
  -- the run is one of a world in which the name is gone after the deletion
  have hrun := identityRun_of_deletion hbefore hafter hprompt hgone hnew
  obtain ⟨resolved, seen, hstale⟩ :=
    staleness_of_meets hchecksum ((Contract.known_run hrun.1 hrun.2).answers a ha) hok
  have hseen : seen ≤ s.now := by
    rcases hstale.shows with ⟨resolved', hresolved', hens, hnow⟩ | ⟨w, hheld, hfirst⟩
    · -- a name of ENS is noted as it is found
      obtain rfl := hnow (by rw [hname]; exact nofun)
      exact hens.resolve_right fun h => h haccount hname
    · rw [haccount] at hfirst
      exact hheld.resolve_right fun hw => hw.not_firstName hfirst hname
  have hresolved : resolved ≤ s.now := hstale.resolved_le.trans hseen
  refine ⟨fun h => hstale.looked_up h ▸ hseen, fun h => ?_, ?_⟩
  · have hcached := (hstale.cached h).2
    omega
  · intro access isSolanaAddress parse text now cacheHeader shown hparse hnot hserved
    obtain ⟨-, ttlSecs, hheader, hle⟩ := hstale.header access isSolanaAddress parse text now
      cacheHeader shown (haccount ▸ hparse) hnot hserved
    exact ⟨ttlSecs, hheader, by omega⟩

end Deletion

/-! ## A run: looked up, and then deleted -/

/-- A service with a cache; the checksum of an address without letters. -/
private def cachingService : IdentityService :=
  { IdentityService.withoutEns with identityCache := some fun _ => .ok none }

private theorem cachingService_toChecksum : Function.Injective cachingService.toChecksum := by
  intro a b h
  have hhex : hexEncode a.bytes = hexEncode b.bytes := String.append_right_inj _ |>.mp h
  have hbytes := congrArg hexDecode hhex
  rw [hexDecode_hexEncode, hexDecode_hexEncode] at hbytes
  exact ByteCodec.FixedBytes.ext (Except.ok.inj hbytes)

private def firstAccount : Address := .ofNat 20 0x1111111111111111111111111111111111111111

private def firstRequest : IdentityRequest := ⟨⟨"", none⟩, firstAccount⟩

/-- Alice registers two addresses, the first of them is looked up, and a moment later deleted. -/
private def lookedUpThenDeleted : List IdentityAction :=
  [.act (.register 0 "alice.wct.id" ∅ (HashMap.ofPairs
      [(60, ⟨"0x1111111111111111111111111111111111111111", none⟩),
        (0x80000089, ⟨"0x2222222222222222222222222222222222222222", none⟩)])),
    .wait 5, .receive firstRequest none, .resume 0 (.rpc (.ok (none, none))), .wait 1,
    .resume 0 (.names (.reliable 0)), .put 0, .wait 1,
    .act (.deleteAddress .stored "alice.wct.id" 60 "0x1111111111111111111111111111111111111111")]

/-- ENS knows nothing. -/
private def withoutEnsNames : IdentityWorld := ⟨fun _ _ answer => answer.1 = none, fun _ _ => True⟩

private theorem identityRun_lookedUpThenDeleted {s : IdentityState}
    (hrun : (identityService cachingService).machine.run (.start .empty) lookedUpThenDeleted
      = some s) :
    IdentityRun cachingService withoutEnsNames s.now lookedUpThenDeleted s := by
  have hens : ∀ a ∈ lookedUpThenDeleted, ∀ i answer, a = .resume i (.rpc (.ok answer)) →
      answer.1 = none := by
    intro a ha i answer heq
    subst heq
    simp only [lookedUpThenDeleted, List.mem_cons, List.not_mem_nil, reduceCtorEq, or_false,
      false_or, Action.resume.injEq, IdentityTold.rpc.injEq, Except.ok.injEq, and_false] at ha
    rw [ha.2]
  refine ⟨?_, hrun⟩
  refine Transitions.Machine.Within.and ?_ (prompt_of_run hrun)
  refine (Transitions.Machine.within_of_forall hens).imp_of_kept (P := fun _ => True)
    (fun _ _ _ => trivial) (fun {u a} _ htold => ?_) trivial
  refine ⟨trivial, fun i x ha work _ => ?_⟩
  rcases x with (e | answer) | pool
  · trivial
  · exact htold i answer ha
  · trivial

/-- A moment after the deletion the cache still shows the name. -/
theorem deleted_name_still_cached :
    ∃ s t a,
      (identityService cachingService).machine.run (.start .empty) lookedUpThenDeleted = some s ∧
      (identityService cachingService).machine.run s [.receive firstRequest none] = some t ∧
      a ∈ t.answers ∧ a.result = .ok (.cache, ⟨some "alice.wct.id", none, some 5⟩) ∧
      s.world.Gone "alice.wct.id" (cachingService.toChecksum firstAccount) ∧
      a.time < s.now + t.now + identityCacheTtlDelta := by
  -- the run is computed once, with what is needed of its states
  have hrun : ∃ s, (identityService cachingService).machine.run (.start .empty)
        lookedUpThenDeleted = some s ∧
      s.world.names.has "alice.wct.id" = true ∧
      s.world.addresses.rows = [⟨.eip155, "2147483785",
        "0x2222222222222222222222222222222222222222", "alice.wct.id", 0⟩] ∧
      ∃ t, (identityService cachingService).machine.run s [.receive firstRequest none] = some t ∧
        ∃ entry, t.answers = s.answers ++
          [⟨firstRequest, .ok (.cache, ⟨some "alice.wct.id", none, some 5⟩), .cached entry, 7⟩] :=
    ⟨_, rfl, rfl, rfl, _, rfl, _, rfl⟩
  obtain ⟨s, hbefore, hregistered, hrows, t, hafter, entry, hanswers⟩ := hrun
  have hgone : s.world.Gone "alice.wct.id" (cachingService.toChecksum firstAccount) := by
    refine ⟨hregistered, fun row hrow haddress => ?_⟩
    rw [hrows, List.mem_singleton] at hrow
    subst hrow
    exact absurd haddress (by decide)
  have ha : ⟨firstRequest, .ok (.cache, ⟨some "alice.wct.id", none, some 5⟩), .cached entry, 7⟩ ∈
      t.answers := hanswers ▸ List.mem_append_right _ (List.mem_singleton_self _)
  have hdeleted := deleted_name_disappears cachingService_toChecksum hbefore hafter
    (prompt_of_run (Transitions.Machine.run_append.mpr ⟨s, hbefore, hafter⟩)) hgone
    ⟨trivial, fun _ _ => trivial⟩ ha rfl rfl rfl
  exact ⟨s, t, _, hbefore, hafter, ha, rfl, hgone, hdeleted.2.1 rfl⟩

end BlockchainApi
