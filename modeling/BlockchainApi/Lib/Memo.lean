/-
  Caches of computed values, shared by processes.

  The system is that of `Lib.SharedStore`: requests run at the same time, each a sequence of atomic
  gets and sets, and any of them may be given up where it stands.  What such a cache is for is that
  a value found in it may be taken for a computed one.

  1. **One process.** `Serves rely good` says of a process that it stores only what `rely` allows
     and returns only what `good` allows, as long as it finds only what `rely` allows.  It is
     defined along the process, one clause for each kind of access.

  2. **All of them.** If every request runs such a process then every run of the system keeps it so
     (`served_step`, `served_run`), whatever the interleaving and whichever requests are given up:
     everything found in the cache may be relied on, and every result is good.

  3. **The usual process.** `memoize` looks a value up, computes it after a miss, and stores it.
     `serves_memoize`: it serves, if what is computed may be relied on and what may be relied on is
     good.
-/
import BlockchainApi.Lib.SharedStore

namespace SharedStore

variable {Q K V E R : Type}

/-- The process returns only good results and stores only reliable values, if it finds those. A
    request that fails returns nothing and has nothing to answer for. -/
def Serves (rely : K → V → Prop) (good : R → Prop) : Process K V E R → Prop
  | .ret r => good r
  | .throw _ => True
  | .get k next => ∀ v, (∀ x, v = some x → rely k x) → Serves rely good (next v)
  | .set k v next => rely k v ∧ Serves rely good next

/-- Everything stored is reliable, and every request is served. -/
structure Served (rely : K → V → Prop) (good : Q → R → Prop) (s : State Q K V E R) : Prop where
  stored : ∀ k v, s.store k = some v → rely k v
  requests : ∀ q p, (q, p) ∈ s.requests → Serves rely (good q) p

variable {rely : K → V → Prop} {good : Q → R → Prop} {s s' t : State Q K V E R}

/-- What is left of one request is replaced. -/
theorem Served.resume (hs : Served rely good s) {i : Nat} {q : Q} {p : Process K V E R}
    (hp : Serves rely (good q) p) : Served rely good (s.resume i q p) := by
  refine ⟨hs.stored, fun q' p' hmem => ?_⟩
  rcases State.mem_resume hmem with hmem | ⟨rfl, rfl⟩
  · exact hs.requests q' p' hmem
  · exact hp

variable [DecidableEq K] {sys : System Q K V E R} {a : Action Q E}

theorem Served.put (hs : Served rely good s) {k : K} {v : V} (hv : rely k v) :
    Served rely good (s.put k v) := by
  refine ⟨fun k' v' hv' => ?_, hs.requests⟩
  by_cases hk : k' = k
  · subst hk
    rw [State.store_put_self] at hv'
    exact Option.some.inj hv' ▸ hv
  · rw [State.store_put_of_ne hk] at hv'
    exact hs.stored k' v' hv'

/-- **One step.** Whatever it is, those that are done were served, and those on their way will
    be. -/
theorem served_step (hprogram : ∀ q, Serves rely (good q) (sys.program q))
    (hs : Served rely good s) (h : sys.step s a = some s') : Served rely good s' := by
  cases System.step_cases h with
  | @receive q hadmits =>
    refine ⟨hs.stored, fun q' p hmem => ?_⟩
    rcases List.mem_append.mp hmem with hmem | hmem
    · exact hs.requests q' p hmem
    · cases List.mem_singleton.mp hmem
      exact hprogram q
  | @get i q k next hi =>
    have hserves := hs.requests q _ (List.mem_of_getElem? hi)
    exact hs.resume (hserves _ fun x hx => hs.stored k x hx)
  | @set i q k v next hi =>
    obtain ⟨hrely, hnext⟩ := hs.requests q _ (List.mem_of_getElem? hi)
    exact (hs.put hrely).resume hnext
  | fail hi => exact hs.resume trivial

/-- **Every run** keeps the cache reliable and the results good, by induction on its steps. -/
theorem served_run (hprogram : ∀ q, Serves rely (good q) (sys.program q))
    {as : List (Action Q E)} (hs : Served rely good s) (h : sys.run s as = some t) :
    Served rely good t :=
  System.run_induction (fun hs _ hstep => served_step hprogram hs hstep) h
    (System.within_true s as) hs

/-! ## Memoized values -/

/-- Look a value up, and after a miss compute it and store it.  Where there is no value, nothing is
    stored. -/
def memoize (k : K) (compute : Option V) (result : Option V → R) : Process K V E R :=
  .get k fun
    | some v => .ret (result (some v))
    | none => match compute with
      | some v => .set k v (.ret (result (some v)))
      | none => .ret (result none)

omit [DecidableEq K] in
/-- **A memoized value** is the computed one, if only that is ever found. It does not matter how
    often the value is computed, or which of the computations is stored last. -/
theorem serves_memoize {k : K} {compute : Option V} {result : Option V → R} {good : R → Prop}
    (hgood : good (result compute)) (hfound : ∀ v, rely k v → compute = some v)
    (hrely : ∀ v, compute = some v → rely k v) :
    Serves rely good (memoize (E := E) k compute result) := by
  intro found hok
  cases found with
  | some v =>
    show good (result (some v))
    rwa [← hfound v (hok v rfl)]
  | none =>
    cases compute with
    | some v => exact ⟨hrely v rfl, hgood⟩
    | none => exact hgood

end SharedStore
