/-
  Access of projects (`state.rs`, `project/mod.rs`, `project/storage/mod.rs`): the registry, its
  cache and its circuit breaker, and what handlers decide from them.

  A lookup of project data reads the cache first.  After a miss it is refused while the circuit is
  open (`isCircuitOpen`), and else waits for the registry; whatever the registry says of a project,
  that there is none included, goes to the cache.  Handlers take a refused lookup for permission.

  1. **The cache key** (`buildCacheKey_injective`): requests for different data, or of different
     projects, never share an entry, whatever their ids.

  2. **The service** (`projectService`) is an instance of `Lib.ReadThrough`, with the counter of the
     circuit breaker as its world.  `receive_eq_beforeRegistry` connects it with the lookup of
     `CircuitBreaker`.

  3. **The contract** (`projectContract`): a result rests on what the registry said at a time, on a
     failure of it, or on the cache being out of order.

  4. **Decisions.** `access_follows_registry`: once the registry has settled on a project, every
     decision follows it after the lifetime of the cache and the delay of its write, except that the
     check is skipped while the registry fails and for a cooldown after it, and that the cache may
     be out of order.

  The run at the end disables a project whose data is still in the cache.
-/
import BlockchainApi.Lib.ReadThrough
import BlockchainApi.Project.CircuitBreaker

namespace BlockchainApi

open ReadThrough

/-! ## Project data, and the key it is cached under -/

/-- `ProjectKey`. -/
structure ProjectKey where
  value : String
  isValid : Bool
  deriving DecidableEq

/-- `ProjectData`. -/
structure ProjectData where
  uuid : String
  creator : String
  name : String
  pushUrl : Option String
  keys : List ProjectKey
  isEnabled : Bool
  isVerifyEnabled : Bool
  isRateLimited : Bool
  allowedOrigins : List String
  verifiedDomains : List String
  bundleIds : List String
  packageNames : List String
  deriving DecidableEq

/-- `PlanLimits`. -/
structure PlanLimits where
  tier : String
  isAboveRpcLimit : Bool
  isAboveMauLimit : Bool
  deriving DecidableEq

/-- `Feature`. -/
structure Feature where
  id : String
  isEnabled : Bool
  deriving DecidableEq

/-- `ProjectDataResponse`. -/
structure ProjectDataResponse where
  data : ProjectData
  limits : Option PlanLimits
  features : Option (List Feature)
  deriving DecidableEq

/-- `ProjectDataWithLimits`. -/
structure ProjectDataWithLimits where
  data : ProjectData
  limits : PlanLimits

/-- `ProjectDataRequest`. -/
structure ProjectDataRequest where
  id : String
  includeLimits : Bool
  includeFeatures : Bool
  deriving DecidableEq

/-- Limits that no one is above. -/
def PlanLimits.none : PlanLimits := ⟨"", false, false⟩

/-- The answer of `fetch_registry` without a client. -/
def localProject (request : ProjectDataRequest) : ProjectDataResponse where
  data :=
    { uuid := "", creator := "", name := "", pushUrl := Option.none
      keys := [⟨request.id, true⟩]
      isEnabled := true, isVerifyEnabled := false, isRateLimited := false
      allowedOrigins := [], verifiedDomains := [], bundleIds := [], packageNames := [] }
  limits := some .none
  features := Option.none

/-- `flags` of a request: one bit for the limits, one for the features. -/
def ProjectDataRequest.flags (request : ProjectDataRequest) : Nat :=
  request.includeLimits.toNat ||| request.includeFeatures.toNat <<< 1

/-- `build_cache_key`. -/
def buildCacheKey (request : ProjectDataRequest) : String :=
  "project-data-v3/" ++ request.id ++ "/" ++ toString request.flags

theorem flags_eq (request : ProjectDataRequest) :
    request.flags = request.includeLimits.toNat + 2 * request.includeFeatures.toNat := by
  obtain ⟨id, limits, features⟩ := request
  cases limits <;> cases features <;> simp [ProjectDataRequest.flags]

/-- A last digit can be told from what stands before it, so the flags at the end of a key are the
    flags. -/
theorem append_digit_inj {a b : String} {m n : Nat} (hm : m < 10) (hn : n < 10)
    (h : a ++ toString m = b ++ toString n) : a = b ∧ m = n := by
  have hdigit : ∀ k < 10, (toString k).toList = [k.digitChar] := by
    intro k hk
    rw [Nat.toString_eq_ofList_toDigits, String.toList_ofList, Nat.toDigits_of_lt_base hk]
  have hlist := congrArg String.toList h
  simp only [String.toList_append, hdigit m hm, hdigit n hn] at hlist
  obtain ⟨htext, hlast⟩ := List.append_inj' hlist rfl
  refine ⟨String.toList_inj.mp htext, ?_⟩
  have hchar : m.digitChar = n.digitChar := by simpa using hlast
  have hinj : ∀ i < 10, ∀ j < 10, Nat.digitChar i = Nat.digitChar j → i = j := by decide
  exact hinj m hm n hn hchar

theorem flags_lt (request : ProjectDataRequest) : request.flags < 10 := by
  have := Bool.toNat_lt request.includeLimits
  have := Bool.toNat_lt request.includeFeatures
  rw [flags_eq]
  omega

theorem flags_injective {a b : ProjectDataRequest} (h : a.flags = b.flags) :
    a.includeLimits = b.includeLimits ∧ a.includeFeatures = b.includeFeatures := by
  rw [flags_eq, flags_eq] at h
  have hbits : ∀ l f l' f' : Bool, l.toNat + 2 * f.toNat = l'.toNat + 2 * f'.toNat →
      l = l' ∧ f = f' := by decide
  exact hbits _ _ _ _ h

/-- **The cache keeps requests apart**, whatever their ids. So an entry is about the request that
    it is found for. -/
theorem buildCacheKey_injective : Function.Injective buildCacheKey := by
  intro a b h
  -- the flags are the last character, so what is left are the ids
  obtain ⟨hids, hflags⟩ := append_digit_inj (flags_lt a) (flags_lt b) h
  have hid : a.id = b.id :=
    String.append_right_inj _ |>.mp (String.append_left_inj _ |>.mp hids)
  obtain ⟨hlimits, hfeatures⟩ := flags_injective hflags
  cases a
  cases b
  cases hid
  cases hlimits
  cases hfeatures
  rfl

/-! ## Lookups as a service with a cache -/

/-- The registry of project data. -/
abbrev ProjectDataRegistry := ProjectRegistry ProjectDataRequest ProjectDataResponse

/-- What a lookup ends in. -/
abbrev ProjectLookup := Except RpcError (ProjectDataResult ProjectDataResponse)

/-- `project_data_internal`, with the counter of the circuit breaker as the world and the write to
    the cache. -/
def projectService (r : ProjectDataRegistry) (cacheTtl : Nat) :
    Service UInt64 Empty ProjectDataRequest String (ProjectDataResult ProjectDataResponse) RpcError
      StorageError Unit (Except RegistryError (Option ProjectDataResponse)) where
  act _ b := b.elim
  early _ _ _ := none
  reads _ := r.hasCache
  writes _ := r.hasCache
  key := buildCacheKey
  fault
    | .deserialize _ => none
    | .other text => some (.storage text)
  readBack := id
  begin counter now _ :=
    if isCircuitOpen r counter now then .error registryUnavailable else .ok ()
  resume counter now request _ answer :=
    let (counter, result) := afterRegistry counter now (fetchRegistry r request answer)
    (counter, .done (result.map Prod.snd))
  lifetime := cacheTtl

/-- The state of the service. -/
abbrev ProjectState :=
  State UInt64 ProjectDataRequest String (ProjectDataResult ProjectDataResponse) RpcError Unit

/-- The steps of the service. -/
abbrev ProjectAction :=
  Action Empty ProjectDataRequest String StorageError
    (Except RegistryError (Option ProjectDataResponse))

/-- What a lookup gets from the cache. -/
def gotFromCache (s : ProjectState) (request : ProjectDataRequest) (fault : Option StorageError) :
    Except StorageError (Option (ProjectDataResult ProjectDataResponse)) :=
  match fault with
  | some e => .error e
  | none => .ok ((s.store.find s.now (buildCacheKey request)).map Entry.value)

variable {r : ProjectDataRegistry} {cacheTtl : Nat} {s t : ProjectState}
  {request : ProjectDataRequest} {fault : Option StorageError}

/-- A miss leads to the circuit breaker. -/
theorem receive_of_miss (h : (projectService r cacheTtl).read s request fault = .ok none) :
    (projectService r cacheTtl).receive s request fault =
      if isCircuitOpen r s.world s.now then
        s.answer request (.error registryUnavailable) (.direct s.now)
      else { s with working := s.working ++ [⟨request, s.now, ()⟩] } := by
  have hearly : (projectService r cacheTtl).early s.world s.now request = none := rfl
  have hbegin : (projectService r cacheTtl).begin s.world s.now request =
      if isCircuitOpen r s.world s.now then .error registryUnavailable else .ok () := rfl
  rw [Service.receive_of_miss hearly h, hbegin]
  cases isCircuitOpen r s.world s.now with
  | true => rfl
  | false => rfl

/-- **The service does what the lookup does** up to the call of the registry. -/
theorem receive_eq_beforeRegistry :
    match beforeRegistry r s.world (gotFromCache s request fault) s.now with
    | some result => ∃ source, (projectService r cacheTtl).receive s request fault =
        s.answer request (result.map Prod.snd) source
    | none => (projectService r cacheTtl).receive s request fault =
        { s with working := s.working ++ [⟨request, s.now, ()⟩] } := by
  -- without an entry the breaker decides whether the registry is asked
  have hmiss : fetchCache r (gotFromCache s request fault) = .ok none →
      (projectService r cacheTtl).read s request fault = .ok none →
      match beforeRegistry r s.world (gotFromCache s request fault) s.now with
      | some result => ∃ source, (projectService r cacheTtl).receive s request fault =
          s.answer request (result.map Prod.snd) source
      | none => (projectService r cacheTtl).receive s request fault =
          { s with working := s.working ++ [⟨request, s.now, ()⟩] } := by
    intro hgot hread
    have hbefore : beforeRegistry r s.world (gotFromCache s request fault) s.now =
        if isCircuitOpen r s.world s.now then some (.error registryUnavailable) else none := by
      rw [beforeRegistry, hgot]
    rw [hbefore, receive_of_miss hread]
    cases isCircuitOpen r s.world s.now with
    | true => exact ⟨_, rfl⟩
    -- no cache is configured
    | false => rfl
  cases hcache : r.hasCache with
  | false =>
    exact hmiss (by simp [fetchCache, hcache]) (by simp [Service.read, projectService, hcache])
  | true =>
    cases fault with
    | some e =>
      cases e with
      | deserialize text =>
        -- an entry that cannot be read counts as none
        exact hmiss (by simp [fetchCache, hcache, gotFromCache, ProjectStorage.fetch])
          (by simp [Service.read, projectService, hcache])
      | other text =>
        -- a cache that fails ends the request
        have hread : (projectService r cacheTtl).read s request (some (.other text)) =
            .error (.storage text) := by simp [Service.read, projectService, hcache]
        have hearly : (projectService r cacheTtl).early s.world s.now request = none := rfl
        simp only [beforeRegistry, fetchCache, hcache, gotFromCache, ProjectStorage.fetch, if_true]
        exact ⟨_, Service.receive_of_fault hearly hread⟩
    | none =>
      cases hfind : s.store.find s.now (buildCacheKey request) with
      | none =>
        exact hmiss (by simp [fetchCache, hcache, gotFromCache, ProjectStorage.fetch, hfind])
          (by simp [Service.read, projectService, hcache, hfind])
      | some entry =>
        -- the entry is the answer
        have hread : (projectService r cacheTtl).read s request none = .ok (some entry) := by
          simp [Service.read, projectService, hcache, hfind]
        have hearly : (projectService r cacheTtl).early s.world s.now request = none := rfl
        simp only [beforeRegistry, fetchCache, hcache, gotFromCache, ProjectStorage.fetch, hfind,
          Option.map_some, if_true]
        exact ⟨_, Service.receive_of_hit hearly hread⟩

/-! ## Decisions: the four checks that handlers make -/

/-- The errors of an access check: `RpcError::QuotaLimitReached`, `RpcError::Cerberus` with its
    text, and those of the lookup. -/
inductive ProjectAccessError where
  | rpc (e : RpcError)
  | cerberus (text : String)
  | quotaLimitReached
  deriving DecidableEq

/-- `ProjectData::validate_access` of the registry crate. -/
abbrev ValidateAccess := ProjectData → String → Option String → Except String Unit

/-- `Registry::project_data`, from the result of the lookup. -/
def projectData (result : ProjectLookup) : Except RpcError ProjectDataWithLimits :=
  match result with
  | .error e => .error e
  | .ok (.error e) => .error (.projectData e.text)
  | .ok (.ok project) => .ok ⟨project.data, project.limits.getD .none⟩

/-- `get_project_data_validated`. -/
def getProjectDataValidated (validateAccess : ValidateAccess) (id : String)
    (result : ProjectLookup) : Except ProjectAccessError ProjectDataWithLimits :=
  match projectData result with
  | .error e => .error (.rpc e)
  | .ok project =>
    match validateAccess project.data id none with
    | .error text => .error (.cerberus text)
    | .ok () => .ok project

/-- `validate_project_quota`. -/
def validateProjectQuota (project : ProjectDataWithLimits) : Except ProjectAccessError Unit :=
  if project.limits.isAboveRpcLimit = false then .ok () else .error .quotaLimitReached

/-- `validate_project_access`. -/
def validateProjectAccess (validateProjectId : Bool) (validateAccess : ValidateAccess)
    (id : String) (result : ProjectLookup) : Except ProjectAccessError Unit :=
  if validateProjectId = false then .ok ()
  else
    match getProjectDataValidated validateAccess id result with
    | .ok _ => .ok ()
    | .error e => if e = .rpc registryUnavailable then .ok () else .error e

/-- `validate_project_access_and_quota`. -/
def validateProjectAccessAndQuota (validateProjectId : Bool) (validateAccess : ValidateAccess)
    (id : String) (result : ProjectLookup) : Except ProjectAccessError Unit :=
  if validateProjectId = false then .ok ()
  else
    match getProjectDataValidated validateAccess id result with
    | .ok project => validateProjectQuota project
    | .error e => if e = .rpc registryUnavailable then .ok () else .error e

/-- The request of `Registry::project_data`. -/
def projectDataRequest (id : String) : ProjectDataRequest := ⟨id, true, false⟩

/-! ## What decisions rest on

The registry may change its mind at any time. What is assumed of it is a relation between times
and what it says then. -/

/-- What is assumed of the registry: when it fails, and what it says of a project at a time. -/
structure RegistryWorld where
  fails : Nat → Prop
  tells : Nat → ProjectDataRequest → ProjectDataResult ProjectDataResponse → Prop

/-- The circuit opened not long ago. -/
def RegistryWorld.FailedShortlyBefore (world : RegistryWorld) (r : ProjectDataRegistry)
    (now : Nat) : Prop :=
  ∃ failed, world.fails failed ∧ failed ≤ now ∧
    now < failed + r.circuitCooldown + nanosPerMilli

/-- The counter is the time of a failure, as long as milliseconds can be counted. -/
def RegistryWorld.Counted (world : RegistryWorld) (now : Nat) (counter : UInt64) : Prop :=
  now < 2 ^ 64 * nanosPerMilli ∧
    (counter = 0 ∨ ∃ failed, world.fails failed ∧ failed ≤ now ∧ counter = asMillis failed)

/-- An open circuit is the trace of a failure. -/
theorem failedShortlyBefore_of_open {world : RegistryWorld} {now : Nat} {counter : UInt64}
    (hcounted : world.Counted now counter) (hopen : isCircuitOpen r counter now = true) :
    world.FailedShortlyBefore r now := by
  obtain ⟨hnow, hcounter⟩ := hcounted
  rw [isCircuitOpen, Bool.and_eq_true, Bool.and_eq_true, bne_iff_ne, bne_iff_ne,
    decide_eq_true_iff] at hopen
  obtain ⟨⟨-, hne⟩, hlt⟩ := hopen
  obtain ⟨failed, hfails, hle, rfl⟩ := hcounter.resolve_left hne
  refine ⟨failed, hfails, hle, ?_⟩
  rw [toNat_asMillis hnow, toNat_asMillis (hle.trans_lt hnow), ProjectRegistry.circuitCooldown,
    asMillis_fromMillis] at hlt
  unfold ProjectRegistry.circuitCooldown fromMillis
  unfold nanosPerMilli at hlt ⊢
  omega

/-- What a lookup is told is as assumed. -/
def RegistryWorld.Tells (world : RegistryWorld) (r : ProjectDataRegistry) (now : Nat)
    (request : ProjectDataRequest) (answer : Except RegistryError (Option ProjectDataResponse)) :
    Prop :=
  (∀ text, fetchRegistry r request answer = .error (.other text) → world.fails now) ∧
    ∀ counter source data,
      (afterRegistry counter now (fetchRegistry r request answer)).2 = .ok (source, data) →
        world.tells now request data

/-- A result rests on what the registry said, on a failure, or on the cache being out of order. -/
def RegistryWorld.RestsOn (world : RegistryWorld) (r : ProjectDataRegistry)
    (request : ProjectDataRequest) (now : Nat) : ProjectLookup → Prop
  | .ok data => world.tells now request data
  | .error e =>
    e = registryUnavailable ∧ world.FailedShortlyBefore r now ∨ ∃ text, e = .storage text

/-- **A result of the registry**, or its failure. -/
theorem restsOn_afterRegistry {world : RegistryWorld} {now : Nat} {counter : UInt64}
    {answer : Except RegistryError (Option ProjectDataResponse)}
    (htold : world.Tells r now request answer) :
    world.RestsOn r request now
      ((afterRegistry counter now (fetchRegistry r request answer)).2.map Prod.snd) := by
  obtain ⟨hfails, htells⟩ := htold
  cases hafter : (afterRegistry counter now (fetchRegistry r request answer)).2 with
  | ok pair => exact htells counter pair.1 pair.2 hafter
  | error e =>
    -- only a failure that is not of the configuration is an error
    rcases hfetch : fetchRegistry r request answer with (text | text) | (- | data)
    · simp [hfetch, afterRegistry] at hafter
    · rw [hfetch] at hafter
      cases hafter
      have hcooldown : now < now + r.circuitCooldown + nanosPerMilli := by
        unfold nanosPerMilli
        omega
      exact .inl ⟨rfl, now, hfails text hfetch, Nat.le_refl _, hcooldown⟩
    · simp [hfetch, afterRegistry] at hafter
    · simp [hfetch, afterRegistry] at hafter

/-- The contract of lookups. -/
def projectContract (r : ProjectDataRegistry) (cacheTtl : Nat) (world : RegistryWorld) :
    Contract (projectService r cacheTtl) where
  world := world.Counted
  told := world.Tells r
  working _ _ _ _ := True
  right request _ now := world.RestsOn r request now
  working_wait _ _ := trivial
  early_right _ h := by cases h
  fault_right {now q f e} h := by
    cases f with
    | deserialize text => cases h
    | other text =>
      cases h
      exact .inr ⟨text, rfl⟩
  refused_right {w now q e} hcounted _ h := by
    simp only [projectService] at h
    split at h
    · next hopen =>
      cases h
      exact .inl ⟨rfl, failedShortlyBefore_of_open hcounted hopen⟩
    · cases h
  begin_working _ _ _ := trivial
  more_working _ _ _ _ h := by cases h
  done_right {w w' now q started phase x result} _ htold _ _ h :=
    (Progress.done.inj (Prod.mk.inj h).2) ▸ restsOn_afterRegistry htold

/-! ## Runs: what every answer of a run rests on -/

/-- What lookups are told in a step is as assumed. -/
def RegistryWorld.Told (world : RegistryWorld) (r : ProjectDataRegistry) (s : ProjectState)
    (a : ProjectAction) : Prop :=
  ∀ i x, a = .resume i x → ∀ work, s.working[i]? = some work → world.Tells r s.now work.request x

/-- The runs of the lookups, from an empty cache and a closed circuit. -/
def RegistryRun (r : ProjectDataRegistry) (cacheTtl : Nat) (world : RegistryWorld) (delay : Nat)
    (as : List ProjectAction) (s : ProjectState) : Prop :=
  (projectService r cacheTtl).machine.Within
      (fun s a => world.Told r s a ∧ Prompt delay s a) (.start 0) as ∧
    (projectService r cacheTtl).machine.run (.start 0) as = some s

section Runs

variable {world : RegistryWorld} {delay : Nat} {as : List ProjectAction} {a : ProjectAction}

/-- The counter is the time of a failure. -/
def RegistryWorld.Counter (world : RegistryWorld) (s : ProjectState) : Prop :=
  s.world = 0 ∨ ∃ failed, world.fails failed ∧ failed ≤ s.now ∧ s.world = asMillis failed

/-- The counter after an answer. -/
theorem counter_afterRegistry (counter : UInt64) (now : Nat)
    (answer : Except RegistryError (Option ProjectDataResponse)) :
    (afterRegistry counter now answer).1 = counter ∨
      ∃ text, answer = .error (.other text) ∧
        (afterRegistry counter now answer).1 = asMillis now := by
  rcases answer with (text | text) | (- | data)
  · exact .inl rfl
  · exact .inr ⟨text, rfl, rfl⟩
  · exact .inl rfl
  · exact .inl rfl

/-- **Each step keeps the counter**: only a failure sets it, to the time of the failure. -/
theorem counter_step (hs : world.Counter s) (htold : world.Told r s a)
    (h : (projectService r cacheTtl).machine.step s a = some t) : world.Counter t := by
  have hnow := Service.now_le_step h
  -- a step that leaves the breaker keeps what is known of it
  have hkept : t.world = s.world → world.Counter t := by
    intro hworld
    rw [RegistryWorld.Counter, hworld]
    exact hs.imp_right fun ⟨failed, hfails, hle, hcounter⟩ =>
      ⟨failed, hfails, hle.trans hnow, hcounter⟩
  cases a with
  | receive q fault =>
    cases h
    exact hkept Service.world_receive
  | resume i x =>
    -- only an answer of the registry moves it
    obtain ⟨work, hi, rfl⟩ := Option.map_eq_some_iff.mp h
    have hworld : ((projectService r cacheTtl).advance s i work x).world =
        (afterRegistry s.world s.now (fetchRegistry r work.request x)).1 := rfl
    rcases counter_afterRegistry s.world s.now (fetchRegistry r work.request x) with
      hsame | ⟨text, hfailed, hset⟩
    · exact hkept (hworld.trans hsame)
    · exact .inr ⟨s.now, (htold i x rfl work hi).1 text hfailed, hnow, hworld.trans hset⟩
  | put i =>
    obtain ⟨entry, -, rfl⟩ := Option.map_eq_some_iff.mp h
    exact hkept rfl
  | lose i =>
    obtain ⟨entry, -, rfl⟩ := Option.map_eq_some_iff.mp h
    exact hkept rfl
  | evict k =>
    cases h
    exact hkept rfl
  | act b => exact b.elim
  | wait duration =>
    cases h
    exact hkept rfl

/-- **What is known in a run**, as long as milliseconds can be counted. -/
theorem known_of_registryRun (hrun : RegistryRun r cacheTtl world delay as s)
    (hclock : s.now < 2 ^ 64 * nanosPerMilli) :
    (projectContract r cacheTtl world).Known delay s := by
  have hwithin := hrun.1.and (Service.within_now_le hrun.2).2
  refine Contract.known_run (hwithin.imp_of_kept (P := world.Counter)
    (fun hs hcond h => counter_step hs hcond.1.1 h) (fun {u a} hu hcond => ?_) (.inl rfl)) hrun.2
  exact ⟨⟨⟨hcond.2.trans_lt hclock, hu⟩, hcond.1.1⟩, hcond.1.2⟩

/-- **What an answer rests on**: something the registry said not long ago, a failure of it, or
    the cache being out of order. The age of what was said is bounded by lifetime and delay. -/
theorem restsOn_of_meets
    {a : Answer ProjectDataRequest (ProjectDataResult ProjectDataResponse) RpcError}
    (h : (projectContract r cacheTtl world).Meets delay a) :
    ∃ seen, world.RestsOn r a.request seen a.result ∧
      (seen = a.time ∨ (∃ data, a.result = .ok data) ∧ a.time < seen + delay + cacheTtl) := by
  rw [Contract.Meets] at h
  cases hsource : a.source with
  | direct started =>
    rw [hsource] at h
    exact ⟨a.time, h.2, .inl rfl⟩
  | cached entry =>
    rw [hsource] at h
    obtain ⟨hresult, -, hkey, hstored, -, hfresh⟩ := h
    have hrequest : entry.writer = a.request := buildCacheKey_injective hkey
    have hright : world.RestsOn r entry.writer entry.completed (.ok entry.value) := hstored.right
    have hordered := hstored.ordered
    have hlifetime : (projectService r cacheTtl).lifetime = cacheTtl := rfl
    refine ⟨entry.completed, ?_, .inr ⟨⟨_, hresult⟩, by omega⟩⟩
    rw [hresult, ← hrequest]
    exact hright

/-- A check of access. -/
abbrev ProjectCheck :=
  Bool → ValidateAccess → String → ProjectLookup → Except ProjectAccessError Unit

theorem check_unavailable {check : ProjectCheck} {validateAccess : ValidateAccess} {id : String}
    (hcheck : check = validateProjectAccess ∨ check = validateProjectAccessAndQuota) :
    check true validateAccess id (.error registryUnavailable) = .ok () := by
  -- the texts of the errors are not compared letter by letter
  rcases hcheck with rfl | rfl
  · simp only [validateProjectAccess, getProjectDataValidated, projectData, Bool.true_eq_false,
      if_false, if_true]
  · simp only [validateProjectAccessAndQuota, getProjectDataValidated, projectData,
      Bool.true_eq_false, if_false, if_true]

theorem check_storage {check : ProjectCheck} {validateAccess : ValidateAccess} {id text : String}
    (hcheck : check = validateProjectAccess ∨ check = validateProjectAccessAndQuota) :
    check true validateAccess id (.error (.storage text)) = .error (.rpc (.storage text)) := by
  rcases hcheck with rfl | rfl <;> rfl

/-- **Access follows the registry.**  Once all that the registry says of a project leads to one
    verdict, every decision is that verdict after the lifetime of the cache and the delay of its
    write, but for two cases: the check is skipped when the registry has just failed or did less
    than a cooldown (and a millisecond) ago, and it fails when the cache does. -/
theorem access_follows_registry {check : ProjectCheck}
    (hcheck : check = validateProjectAccess ∨ check = validateProjectAccessAndQuota)
    {validateAccess : ValidateAccess} {id : String} {verdict : Except ProjectAccessError Unit}
    {since : Nat} (hrun : RegistryRun r cacheTtl world delay as s)
    (hclock : s.now < 2 ^ 64 * nanosPerMilli)
    (hsettled : ∀ now data, since ≤ now → world.tells now (projectDataRequest id) data →
      check true validateAccess id (.ok data) = verdict)
    {a : Answer ProjectDataRequest (ProjectDataResult ProjectDataResponse) RpcError}
    (ha : a ∈ s.answers) (hrequest : a.request = projectDataRequest id)
    (htime : since + delay + cacheTtl ≤ a.time) :
    check true validateAccess id a.result = verdict ∨
      check true validateAccess id a.result = .ok () ∧ world.FailedShortlyBefore r a.time ∨
        ∃ text, check true validateAccess id a.result = .error (.rpc (.storage text)) := by
  obtain ⟨seen, hrests, hseen⟩ :=
    restsOn_of_meets ((known_of_registryRun hrun hclock).answers a ha)
  rw [hrequest] at hrests
  cases hresult : a.result with
  | ok data =>
    -- the data are what the registry said at a time after which the verdict is settled
    rw [hresult] at hrests
    exact .inl (hsettled seen data (by omega) hrests)
  | error e =>
    -- an error is of the breaker or of the cache, and says nothing of the registry
    rw [hresult] at hrests hseen
    have hnow : seen = a.time := hseen.resolve_right fun h => by
      obtain ⟨data, hdata⟩ := h.1
      cases hdata
    rcases hrests with ⟨rfl, hfailed⟩ | ⟨text, rfl⟩
    · exact .inr (.inl ⟨check_unavailable hcheck, hnow ▸ hfailed⟩)
    · exact .inr (.inr ⟨text, check_storage hcheck⟩)

end Runs

/-! ## A run: a project is disabled while it is cached -/

/-- The checks of the registry crate, without origins. -/
def validateKeys : ValidateAccess := fun project id _ =>
  if project.isEnabled = false then .error "Project is disabled"
  else if project.keys.any (fun key => key.value = id && key.isValid) then .ok ()
  else .error "Invalid project key"

/-- A registry with a cache, and a cooldown of a second. -/
private def cachedRegistry : ProjectDataRegistry := ⟨true, true, 1000, localProject⟩

/-- A project, enabled or not. -/
private def projectOne (isEnabled : Bool) : ProjectDataResponse :=
  let project := localProject (projectDataRequest "one")
  { project with data := { project.data with isEnabled } }

/-- The project is looked up, and its data is stored. -/
private def lookedUpOnce : List ProjectAction :=
  [.receive (projectDataRequest "one") none, .resume 0 (.ok (some (projectOne true))), .put 0]

/-- The project has been disabled when its data is gone from the cache. -/
private def lookedUpAgain : List ProjectAction :=
  [.wait 1000, .receive (projectDataRequest "one") none,
    .resume 0 (.ok (some (projectOne false)))]

/-- A registry that never fails, and says from a time on that the project is disabled. -/
private def disabledFrom (since : Nat) : RegistryWorld where
  fails _ := False
  tells now _ data := since ≤ now → data = .ok (projectOne false)

private theorem lookedUp_run : ∃ s t,
    (projectService cachedRegistry 300).machine.run (.start 0) lookedUpOnce = some s ∧
    (projectService cachedRegistry 300).machine.run s lookedUpAgain = some t ∧
    s.now = 0 ∧ t.now = 1000 ∧
    ∃ a ∈ t.answers, a.request = projectDataRequest "one" ∧ a.time = 1000 ∧
      a.result = .ok (.ok (projectOne false)) :=
  ⟨_, _, rfl, rfl, rfl, rfl, _, List.mem_append_right _ (List.mem_singleton_self _), rfl, rfl, rfl⟩

private theorem tells_projectOne {now : Nat} {request : ProjectDataRequest} {isEnabled : Bool}
    (h : 100 ≤ now → isEnabled = false) :
    (disabledFrom 100).Tells cachedRegistry now request (.ok (some (projectOne isEnabled))) := by
  refine ⟨fun _ hfailed => (by cases hfailed), fun counter source data hdata hle => ?_⟩
  cases hdata
  rw [h hle]

private theorem registryRun_lookedUp {s t : ProjectState}
    (hfirst : (projectService cachedRegistry 300).machine.run (.start 0) lookedUpOnce = some s)
    (hsecond : (projectService cachedRegistry 300).machine.run s lookedUpAgain = some t)
    (hnow : s.now = 0) :
    RegistryRun cachedRegistry 300 (disabledFrom 100) 0 (lookedUpOnce ++ lookedUpAgain) t := by
  refine ⟨(Transitions.Machine.within_append hfirst).mpr ⟨.and ?_ ?_, .and ?_ ?_⟩,
    Transitions.Machine.run_append.mpr ⟨s, hfirst, hsecond⟩⟩
  · -- nothing is assumed at the start
    have hall : ∀ a ∈ lookedUpOnce, ∀ i x, a = .resume i x → x = .ok (some (projectOne true)) := by
      simp [lookedUpOnce]
    refine ((Transitions.Machine.within_of_forall hall).and
      (Service.within_now_le hfirst).2).imp_of_kept (P := fun _ => True) (fun _ _ _ => trivial)
      (fun {u a} _ hcond => ?_) trivial
    rintro i x rfl work -
    obtain rfl := hcond.1 i x rfl
    exact tells_projectOne fun hle => by have := hcond.2; omega
  · exact hnow ▸ prompt_of_run hfirst
  · have hall : ∀ a ∈ lookedUpAgain, ∀ i x, a = .resume i x →
        x = .ok (some (projectOne false)) := by
      simp [lookedUpAgain]
    refine (Transitions.Machine.within_of_forall hall).imp_of_kept (P := fun _ => True)
      (fun _ _ _ => trivial) (fun {u a} _ hcond => ?_) trivial
    rintro i x rfl work -
    obtain rfl := hcond i x rfl
    exact tells_projectOne fun _ => rfl
  · have hall : ∀ a ∈ lookedUpAgain, ∀ i, a ≠ .put i := by simp [lookedUpAgain]
    exact (Transitions.Machine.within_of_forall hall).imp_of_kept (P := fun _ => True)
      (fun _ _ _ => trivial) (fun _ hcond i hput => absurd hput (hcond i)) trivial

/-- The disabled project is refused, although the cache has let it pass before. -/
theorem disabled_project_refused :
    ∃ s a, (projectService cachedRegistry 300).machine.run (.start 0)
        (lookedUpOnce ++ lookedUpAgain) = some s ∧ a ∈ s.answers ∧ a.time = 1000 ∧
      validateProjectAccess true validateKeys "one" a.result =
        .error (.cerberus "Project is disabled") := by
  obtain ⟨s, t, hfirst, hsecond, hs, ht, a, ha, hrequest, htime, hresult⟩ := lookedUp_run
  have hrun := registryRun_lookedUp hfirst hsecond hs
  have hsettled : ∀ now data, 100 ≤ now →
      (disabledFrom 100).tells now (projectDataRequest "one") data →
      validateProjectAccess true validateKeys "one" (.ok data) =
        .error (.cerberus "Project is disabled") := by
    intro now data hle hdata
    rw [hdata hle]
    rfl
  have hanswer := access_follows_registry (.inl rfl) hrun (by rw [ht]; decide) hsettled ha
    hrequest (by rw [htime]; decide)
  refine ⟨t, a, hrun.2, ha, htime, ?_⟩
  rcases hanswer with hrefused | ⟨-, failed, hfails, -⟩ | ⟨text, hstorage⟩
  · exact hrefused
  · -- this registry never fails
    exact hfails.elim
  · -- and what it told is no error of the cache
    rw [hresult] at hstorage
    cases hstorage

end BlockchainApi
