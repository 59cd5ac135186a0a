/-
  The circuit breaker of the project registry (`Registry`, `src/project/mod.rs`).

  A lookup that misses the cache calls the registry, unless the registry failed a short time ago.
  The time of the last failure is one atomic counter, kept as whole milliseconds since the start,
  and zero stands for no failure.

  1. **Lookups in two halves.** Lookups run side by side: each is cut where it waits for the
     registry (`beforeRegistry`, `afterRegistry`), and the two halves of all of them take turns, at
     clock readings that do not decrease.  `breaker` is that machine.  What a lookup finds in the
     cache is left open, so that nothing is said here about what is put into it.

  2. **The invariant** (`breaker_run`): the counter is the time of the most recent failure, if there
     is one.  A failure in the first millisecond sets it to zero, and is forgotten.

  3. **Whole milliseconds** (`sub_lt_fromMillis_iff`): comparing times cut to milliseconds differs
     from comparing the times only where they are a cooldown apart up to a millisecond, so that a
     cooldown may end within a millisecond before its time.

  4. **In all other cases the breaker is right**, as long as the milliseconds can be counted in 64
     bits (`circuit_timing_iff`).
-/
import BlockchainApi.Lib.Transitions
import BlockchainApi.Error

namespace BlockchainApi

/-! ## Durations, in nanoseconds and in milliseconds -/

/-- Nanoseconds of a millisecond. -/
def nanosPerMilli : Nat := 1000000

/-- `Duration::from_millis`, in nanoseconds. -/
def fromMillis (ms : UInt64) : Nat := ms.toNat * nanosPerMilli

/-- `Duration::as_millis`, as 64 bits. -/
def asMillis (duration : Nat) : UInt64 := UInt64.ofNat (duration / nanosPerMilli)

/-! ## Lookups, cut where they wait for the registry -/

/-- `ProjectDataError`. -/
inductive ProjectDataError where
  | notFound
  | registryConfigError
  | registryTemporarilyUnavailable
  deriving DecidableEq, Repr

/-- The text of the error. -/
def ProjectDataError.text : ProjectDataError → String
  | notFound => "Project not found in registry"
  | registryConfigError => "Registry configuration error"
  | registryTemporarilyUnavailable => "Registry is temporarily unavailable"

/-- `RegistryError`: all but `Config` are one. -/
inductive RegistryError where
  | config (text : String)
  | other (text : String)

/-- `StorageError`: all but `Deserialize` are one. -/
inductive StorageError where
  | deserialize (text : String)
  | other (text : String)

/-- `ResponseSource`. -/
inductive ResponseSource where
  | cache
  | registry
  deriving DecidableEq, Repr

/-- `ProjectDataResult`. -/
abbrev ProjectDataResult (D : Type) := Except ProjectDataError D

/-- `Registry`, without the counter. -/
structure ProjectRegistry (Q D : Type) where
  hasClient : Bool
  hasCache : Bool
  circuitCooldownMs : UInt64
  /-- The answer without a client. -/
  localProject : Q → D

variable {Q D : Type}

/-- `circuit_cooldown`, in nanoseconds. -/
def ProjectRegistry.circuitCooldown (r : ProjectRegistry Q D) : Nat :=
  fromMillis r.circuitCooldownMs

/-- `is_circuit_open`, at a time since the start: a counter of zero is a closed circuit. -/
def isCircuitOpen (r : ProjectRegistry Q D) (circuitLastErrorMs : UInt64) (elapsed : Nat) : Bool :=
  r.circuitCooldown != 0 && circuitLastErrorMs != 0 &&
    (asMillis elapsed).toNat - circuitLastErrorMs.toNat < (asMillis r.circuitCooldown).toNat

/-- `ProjectStorage::fetch`. -/
def ProjectStorage.fetch (got : Except StorageError (Option (ProjectDataResult D))) :
    Except StorageError (Option (ProjectDataResult D)) :=
  match got with
  | .ok data => .ok data
  | .error (.deserialize _) => .ok none
  | .error (.other e) => .error (.other e)

/-- What the cache has, if there is one. -/
def fetchCache (r : ProjectRegistry Q D)
    (got : Except StorageError (Option (ProjectDataResult D))) :
    Except StorageError (Option (ProjectDataResult D)) :=
  if r.hasCache then ProjectStorage.fetch got else .ok none

/-- `fetch_registry`. -/
def fetchRegistry (r : ProjectRegistry Q D) (request : Q)
    (answer : Except RegistryError (Option D)) : Except RegistryError (Option D) :=
  if r.hasClient then answer else .ok (some (r.localProject request))

/-- The error of a refused lookup. -/
def registryUnavailable : RpcError :=
  .projectData ProjectDataError.registryTemporarilyUnavailable.text

/-- `project_data_internal`, up to the call of the registry; `none` is that call. -/
def beforeRegistry (r : ProjectRegistry Q D) (circuitLastErrorMs : UInt64)
    (got : Except StorageError (Option (ProjectDataResult D))) (elapsed : Nat) :
    Option (Except RpcError (ResponseSource × ProjectDataResult D)) :=
  match fetchCache r got with
  | .error (.deserialize e) => some (.error (.storage e))
  | .error (.other e) => some (.error (.storage e))
  | .ok (some data) => some (.ok (.cache, data))
  | .ok none =>
    if isCircuitOpen r circuitLastErrorMs elapsed then some (.error registryUnavailable)
    else none

/-- `project_data_internal` from there on, with the counter. -/
def afterRegistry (circuitLastErrorMs : UInt64) (elapsed : Nat)
    (data : Except RegistryError (Option D)) :
    UInt64 × Except RpcError (ResponseSource × ProjectDataResult D) :=
  match data with
  | .ok (some data) => (circuitLastErrorMs, .ok (.registry, .ok data))
  | .ok none => (circuitLastErrorMs, .ok (.registry, .error .notFound))
  | .error (.config _) => (circuitLastErrorMs, .ok (.registry, .error .registryConfigError))
  | .error (.other _) => (asMillis elapsed, .error registryUnavailable)

/-! ## Runs: the two halves of any number of lookups -/

/-- The counter, the last reading of the clock, and the requests that wait for the registry. -/
structure BreakerState (Q : Type) where
  circuitLastErrorMs : UInt64
  clock : Nat
  waiting : List Q

/-- Nothing has happened. -/
def BreakerState.start : BreakerState Q := ⟨0, 0, []⟩

/-- One half of a lookup, at a time. -/
inductive BreakerAction (Q D : Type) where
  | lookup (request : Q) (got : Except StorageError (Option (ProjectDataResult D))) (elapsed : Nat)
  | answer (request : Q) (answer : Except RegistryError (Option D)) (elapsed : Nat)

/-- The registry and all its lookups. -/
def breaker [DecidableEq Q] (r : ProjectRegistry Q D) :
    Transitions.Machine (BreakerState Q) (BreakerAction Q D) where
  step s
    | .lookup request got elapsed =>
      if s.clock ≤ elapsed then
        match beforeRegistry r s.circuitLastErrorMs got elapsed with
        | some _ => some ⟨s.circuitLastErrorMs, elapsed, s.waiting⟩
        | none => some ⟨s.circuitLastErrorMs, elapsed, request :: s.waiting⟩
      else none
    | .answer request answer elapsed =>
      if s.clock ≤ elapsed ∧ request ∈ s.waiting then
        some ⟨(afterRegistry s.circuitLastErrorMs elapsed (fetchRegistry r request answer)).1,
          elapsed, s.waiting.erase request⟩
      else none

/-! ## What the breaker should do, in terms of the times of failures -/

/-- When the registry fails. -/
def failedAt (r : ProjectRegistry Q D) : BreakerAction Q D → Option Nat
  | .answer _ (.error (.other _)) elapsed => if r.hasClient then some elapsed else none
  | _ => none

/-- The most recent failure of a run. -/
def lastFailure (r : ProjectRegistry Q D) (actions : List (BreakerAction Q D)) : Option Nat :=
  (actions.filterMap (failedAt r)).getLast?

/-- **A lookup should be refused**: the most recent failure was less than a cooldown ago. -/
def ShouldRefuse (r : ProjectRegistry Q D) (actions : List (BreakerAction Q D)) (elapsed : Nat) :
    Prop :=
  ∃ failed, lastFailure r actions = some failed ∧ elapsed - failed < r.circuitCooldown

/-- **A lookup is refused**, without a call of the registry. -/
def Refuses (r : ProjectRegistry Q D) (s : BreakerState Q)
    (got : Except StorageError (Option (ProjectDataResult D))) (elapsed : Nat) : Prop :=
  beforeRegistry r s.circuitLastErrorMs got elapsed = some (.error registryUnavailable)

/-! ## Times in milliseconds: what is lost when they are cut -/

theorem toNat_asMillis {duration : Nat} (h : duration < 2 ^ 64 * nanosPerMilli) :
    (asMillis duration).toNat = duration / nanosPerMilli := by
  rw [asMillis, UInt64.toNat_ofNat']
  exact Nat.mod_eq_of_lt (Nat.div_lt_of_lt_mul (by rwa [Nat.mul_comm]))

/-- A cooldown is whole milliseconds. -/
theorem asMillis_fromMillis (ms : UInt64) : asMillis (fromMillis ms) = ms := by
  rw [asMillis, fromMillis, Nat.mul_div_cancel _ (by decide), UInt64.ofNat_toNat]

/-- Where whole milliseconds can be told apart from times: not if they are a cooldown apart. -/
theorem sub_lt_fromMillis_iff {failed elapsed : Nat} {cooldown : UInt64} (hle : failed ≤ elapsed) :
    elapsed - failed < fromMillis cooldown ↔
      elapsed / nanosPerMilli - failed / nanosPerMilli < cooldown.toNat ∨
        elapsed / nanosPerMilli - failed / nanosPerMilli = cooldown.toNat ∧
          elapsed % nanosPerMilli < failed % nanosPerMilli := by
  unfold fromMillis nanosPerMilli
  omega

/-! ## What a run keeps: the counter is the last failure -/

section Breaker

variable {r : ProjectRegistry Q D} {s s' : BreakerState Q} {a : BreakerAction Q D}
  {actions : List (BreakerAction Q D)} {request : Q} {elapsed : Nat}
  {got : Except StorageError (Option (ProjectDataResult D))}

theorem isCircuitOpen_iff {last : UInt64} (hcooldown : 0 < r.circuitCooldownMs) :
    isCircuitOpen r last elapsed = true ↔
      last ≠ 0 ∧ (asMillis elapsed).toNat - last.toNat < r.circuitCooldownMs.toNat := by
  have hpos : 0 < r.circuitCooldownMs.toNat := UInt64.lt_iff_toNat_lt.mp hcooldown
  have hne : r.circuitCooldown ≠ 0 := by
    unfold ProjectRegistry.circuitCooldown fromMillis nanosPerMilli
    omega
  rw [isCircuitOpen, Bool.and_eq_true, Bool.and_eq_true, bne_iff_ne, bne_iff_ne, decide_eq_true_iff,
    and_iff_right hne, ProjectRegistry.circuitCooldown, asMillis_fromMillis]

/-- A lookup that misses the cache is refused if the circuit is open. -/
theorem refuses_iff (hmisses : fetchCache r got = .ok none) :
    Refuses r s got elapsed ↔ isCircuitOpen r s.circuitLastErrorMs elapsed = true := by
  rw [Refuses, beforeRegistry, hmisses]
  dsimp only
  by_cases hopen : isCircuitOpen r s.circuitLastErrorMs elapsed = true
  · rw [if_pos hopen]
    exact iff_of_true rfl hopen
  · rw [if_neg hopen]
    exact iff_of_false nofun hopen

/-- An answer is a failure, and then the counter is set, or it is none. -/
theorem afterRegistry_counter (last : UInt64) (request : Q)
    (answer : Except RegistryError (Option D)) (elapsed : Nat) :
    failedAt r (.answer request answer elapsed) = none ∧
        (afterRegistry last elapsed (fetchRegistry r request answer)).1 = last ∨
      failedAt r (.answer request answer elapsed) = some elapsed ∧
        (afterRegistry last elapsed (fetchRegistry r request answer)).1 = asMillis elapsed := by
  rw [fetchRegistry]
  by_cases hclient : r.hasClient = true
  · rw [if_pos hclient]
    rcases answer with (e | e) | (- | data)
    · exact .inl ⟨rfl, rfl⟩
    · exact .inr ⟨if_pos hclient, rfl⟩
    · exact .inl ⟨rfl, rfl⟩
    · exact .inl ⟨rfl, rfl⟩
  · rw [if_neg hclient]
    rcases answer with (e | e) | answer
    · exact .inl ⟨rfl, rfl⟩
    · exact .inl ⟨if_neg hclient, rfl⟩
    · exact .inl ⟨rfl, rfl⟩

theorem lastFailure_concat : lastFailure r (actions ++ [a]) =
    (failedAt r a).or (lastFailure r actions) := by
  rw [lastFailure, List.filterMap_append, lastFailure]
  cases hfailed : failedAt r a with
  | none =>
    rw [List.filterMap_cons_none hfailed, List.filterMap_nil, List.append_nil, Option.none_or]
  | some t =>
    rw [List.filterMap_cons_some hfailed, List.filterMap_nil, List.getLast?_concat, Option.some_or]

variable [DecidableEq Q]

/-- **One step**: time goes on, and the counter is the time of a failure, or is what it was. -/
theorem breaker_step (h : (breaker r).step s a = some s') :
    s.clock ≤ s'.clock ∧
      (failedAt r a = none ∧ s'.circuitLastErrorMs = s.circuitLastErrorMs ∨
        failedAt r a = some s'.clock ∧ s'.circuitLastErrorMs = asMillis s'.clock) := by
  cases a with
  | lookup request got elapsed =>
    rw [breaker] at h
    dsimp only at h
    split at h
    · rename_i hclock
      split at h
      · cases h
        exact ⟨hclock, .inl ⟨rfl, rfl⟩⟩
      · cases h
        exact ⟨hclock, .inl ⟨rfl, rfl⟩⟩
    · cases h
  | answer request answer elapsed =>
    rw [breaker] at h
    dsimp only at h
    split at h
    · rename_i hclock
      cases h
      exact ⟨hclock.1, afterRegistry_counter _ _ _ _⟩
    · cases h

/-- **What a run keeps**: the counter is the time of the most recent failure, if there is one,
    and that is over. Induction on the run, one half of a lookup at a time. -/
theorem breaker_run (hrun : (breaker r).run .start actions = some s) :
    s.circuitLastErrorMs = (lastFailure r actions).elim 0 asMillis ∧
      ∀ failed, lastFailure r actions = some failed → failed ≤ s.clock := by
  induction actions using List.reverseRecOn generalizing s with
  | nil =>
    cases hrun
    exact ⟨rfl, fun _ h => by cases h⟩
  | append_singleton actions a ih =>
    obtain ⟨u, hu, hstep⟩ := Transitions.Machine.run_concat.mp hrun
    obtain ⟨hlast, hbefore⟩ := ih hu
    obtain ⟨hclock, ⟨hfailed, hkept⟩ | ⟨hfailed, hset⟩⟩ := breaker_step hstep
    · rw [lastFailure_concat, hfailed, Option.none_or]
      exact ⟨hkept.trans hlast, fun failed h => (hbefore failed h).trans hclock⟩
    · rw [lastFailure_concat, hfailed, Option.some_or]
      exact ⟨hset, fun failed h => (Option.some.inj h).symm.le⟩

/-! ## Where the breaker is right -/

/-- **The condition**: if the most recent failure is less than a cooldown ago, it was not in the
    first millisecond, and is less than a cooldown ago in whole milliseconds too. -/
def TimesTellApart (r : ProjectRegistry Q D) (actions : List (BreakerAction Q D)) (elapsed : Nat) :
    Prop :=
  ∀ failed, lastFailure r actions = some failed → elapsed - failed < r.circuitCooldown →
    nanosPerMilli ≤ failed ∧
      elapsed / nanosPerMilli - failed / nanosPerMilli ≠ r.circuitCooldownMs.toNat

/-- **The circuit breaker.**  In every run, a lookup that misses the cache is refused exactly if the
    registry failed less than a cooldown ago, if and only if such a failure was not in the first
    millisecond, and is less than a cooldown ago in whole milliseconds too. -/
theorem circuit_timing_iff (r : ProjectRegistry Q D) (hcooldown : 0 < r.circuitCooldownMs)
    (actions : List (BreakerAction Q D)) (s : BreakerState Q)
    (hrun : (breaker r).run .start actions = some s)
    (got : Except StorageError (Option (ProjectDataResult D)))
    (hmisses : fetchCache r got = .ok none) (elapsed : Nat) (hclock : s.clock ≤ elapsed)
    (hcounted : elapsed < 2 ^ 64 * nanosPerMilli) :
    (Refuses r s got elapsed ↔ ShouldRefuse r actions elapsed) ↔
      TimesTellApart r actions elapsed := by
  obtain ⟨hlast, hbefore⟩ := breaker_run hrun
  rw [refuses_iff hmisses, isCircuitOpen_iff hcooldown, hlast, ShouldRefuse, TimesTellApart]
  cases hfailure : lastFailure r actions with
  -- without a failure nothing is refused, and nothing should be
  | none => simp
  | some failed =>
    have hle := (hbefore failed hfailure).trans hclock
    have hmillis := toNat_asMillis (hle.trans_lt hcounted)
    -- zero milliseconds stand for no failure
    have hzero : asMillis failed ≠ 0 ↔ nanosPerMilli ≤ failed := by
      rw [Ne, ← UInt64.toNat_inj, hmillis, UInt64.toNat_zero]
      unfold nanosPerMilli
      omega
    simp only [Option.elim_some, Option.some.injEq, exists_eq_left', forall_eq']
    rw [hzero, hmillis, toNat_asMillis hcounted, ProjectRegistry.circuitCooldown,
      sub_lt_fromMillis_iff hle]
    generalize elapsed / nanosPerMilli - failed / nanosPerMilli = between
    constructor
    · intro hright hrecent
      obtain ⟨hfirst, hlt⟩ := hright.mpr hrecent
      exact ⟨hfirst, hlt.ne⟩
    · -- outside the two excluded cases both tests say the same
      intro hcond
      constructor
      · exact fun h => .inl h.2
      · intro hrecent
        obtain ⟨hfirst, hne⟩ := hcond hrecent
        exact ⟨hfirst, hrecent.resolve_right fun h => hne h.1⟩

end Breaker

/-- A registry that waits a second after a failure. -/
def oneSecond : ProjectRegistry Unit Unit := ⟨true, false, 1000, id⟩

/-- It fails at a time. -/
def failAt (failed : Nat) : List (BreakerAction Unit Unit) :=
  [.lookup () (.ok none) 0, .answer () (.error (.other "timeout")) failed]

/-- It fails after five milliseconds, and a lookup a millisecond later is refused. -/
theorem circuit_timing_five :
    Refuses oneSecond ⟨5, 5 * nanosPerMilli, []⟩ (.ok none) (6 * nanosPerMilli) := by
  have hright := circuit_timing_iff oneSecond (by decide) (failAt (5 * nanosPerMilli)) _ rfl
    (.ok none) rfl (6 * nanosPerMilli) (by decide) (by decide)
  refine (hright.mpr fun failed hfailed _ => ?_).mpr ⟨5 * nanosPerMilli, rfl, by decide⟩
  cases hfailed
  decide

/-- It fails after half a millisecond, and a lookup a millisecond later calls it again. -/
theorem not_circuit_timing : ¬ ∀ (r : ProjectRegistry Unit Unit) (_ : 0 < r.circuitCooldownMs)
    (actions : List (BreakerAction Unit Unit)) (s : BreakerState Unit)
    (_ : (breaker r).run .start actions = some s)
    (got : Except StorageError (Option (ProjectDataResult Unit)))
    (_ : fetchCache r got = .ok none) (elapsed : Nat) (_ : s.clock ≤ elapsed)
    (_ : elapsed < 2 ^ 64 * nanosPerMilli),
      Refuses r s got elapsed ↔ ShouldRefuse r actions elapsed := by
  intro h
  have hrefuses := (h oneSecond (by decide) (failAt 500000) ⟨0, 500000, []⟩ rfl (.ok none) rfl
    (1500000) (by decide) (by decide)).mpr ⟨500000, rfl, by decide⟩
  rw [refuses_iff rfl] at hrefuses
  exact absurd hrefuses (by decide)

end BlockchainApi
