/-
  Requests that share a store, one atomic get or set at a time.

  A request runs as a `Process`: a sequential program of gets and sets that ends in a result or an
  error.  The requests of a `System` run concurrently; a step of the system receives a request, lets
  one process do its next get or set, or makes one fail where it stands.  A run is any list of such
  steps, so a statement about all runs is a statement about all interleavings.

  Two rules carry invariants from the processes to the runs, and a third one speaks of the past.

  * `contract_run`: every process keeps a contract when what it gets satisfies the contract; then
    everything stored satisfies it.  A contract may speak of the requests received so far and of the
    keys stored so far, and holds on as they become more.

  * `established_run`: a process cannot return before it has set a value with some property; if no
    step of the run replaces a value with the property by one without it, then once the process has
    returned the store holds a value with the property.

  * `trace_induction`: an invariant may relate the state to what was read and stored before it, in
    order (`trace`).  That is how a statement says that something was, or was not, stored between a
    get of one request and a set of the same request; `exists_of_sublist_trace` finds the steps of
    the run again that made the accesses.

  Runs may be restricted by a condition on their steps (`Within`).  What a step can do is said once,
  in `step_cases`, and every rule is proved from it.
-/
import Mathlib.Data.List.Basic

namespace SharedStore

/-- The rest of a request: gets and sets, then a result or an error. -/
inductive Process (K V E R : Type) where
  | ret (r : R)
  | throw (e : E)
  | get (k : K) (next : Option V → Process K V E R)
  | set (k : K) (v : V) (next : Process K V E R)

/-- Which requests may come in after those received before, and what each of them runs. -/
structure System (Q K V E R : Type) where
  program : Q → Process K V E R
  admits : List Q → Q → Bool

/-- The store, and every request received so far with what is left of it. -/
structure State (Q K V E R : Type) where
  store : K → Option V
  requests : List (Q × Process K V E R)

/-- A step of the system. -/
inductive Action (Q E : Type) where
  | receive (q : Q)
  | advance (i : Nat)
  | fail (i : Nat) (e : E)

variable {Q K V E R : Type}

namespace State

/-- The requests received so far. -/
def history (s : State Q K V E R) : List Q := s.requests.map Prod.fst

/-- Request `i`, which is `q`, has `p` left to do. -/
def resume (s : State Q K V E R) (i : Nat) (q : Q) (p : Process K V E R) : State Q K V E R :=
  { s with requests := s.requests.set i (q, p) }

/-- Store a value. -/
def put [DecidableEq K] (s : State Q K V E R) (k : K) (v : V) : State Q K V E R :=
  { s with store := Function.update s.store k (some v) }

variable {s : State Q K V E R} {i : Nat} {q q' : Q} {p p' : Process K V E R}

@[simp] theorem store_resume : (s.resume i q p).store = s.store := rfl

/-- The requests are those from before, or the one that moved. -/
theorem mem_resume (h : (q', p') ∈ (s.resume i q p).requests) :
    (q', p') ∈ s.requests ∨ (q' = q ∧ p' = p) :=
  (List.mem_or_eq_of_mem_set h).imp_right Prod.mk.inj

theorem history_resume (hi : s.requests[i]? = some (q, p)) :
    (s.resume i q p').history = s.history := by
  obtain ⟨hlt, hget⟩ := List.getElem?_eq_some_iff.mp hi
  have hhist : i < s.history.length := by rwa [history, List.length_map]
  have hfst : s.history[i] = q := by
    simp only [history, List.getElem_map, hget]
  rw [history, resume, List.map_set, ← history]
  exact hfst ▸ List.set_getElem_self _

/-- The request at a place is the one from before, or the one that moved. -/
theorem getElem?_resume {j : Nat} (h : (s.resume i q p).requests[j]? = some (q', p')) :
    (i = j ∧ q' = q ∧ p' = p) ∨ (i ≠ j ∧ s.requests[j]? = some (q', p')) := by
  rw [resume, List.getElem?_set] at h
  split at h
  · next hij =>
    split at h
    · cases h
      exact Or.inl ⟨hij, rfl, rfl⟩
    · cases h
  · next hij => exact Or.inr ⟨hij, h⟩

variable [DecidableEq K]

theorem store_put_self (k : K) (v : V) : (s.put k v).store k = some v :=
  Function.update_self ..

theorem store_put_of_ne {k k' : K} {v : V} (h : k' ≠ k) : (s.put k v).store k' = s.store k' :=
  Function.update_of_ne h ..

end State

namespace System

variable [DecidableEq K] (sys : System Q K V E R)

/-- One step. -/
def step (s : State Q K V E R) : Action Q E → Option (State Q K V E R)
  | .receive q =>
    if sys.admits s.history q then
      some { s with requests := s.requests ++ [(q, sys.program q)] }
    else none
  | .advance i =>
    match s.requests[i]? with
    | some (q, .get k next) => some (s.resume i q (next (s.store k)))
    | some (q, .set k v next) => some ((s.put k v).resume i q next)
    | _ => none
  | .fail i e =>
    match s.requests[i]? with
    | some (q, .get _ _) | some (q, .set _ _ _) => some (s.resume i q (.throw e))
    | _ => none

/-- A run: the steps one after the other. -/
def run (s : State Q K V E R) : List (Action Q E) → Option (State Q K V E R)
  | [] => some s
  | a :: as => (sys.step s a).bind fun s' => run s' as

/-- Every step of the run meets the condition in the state it is taken in. -/
def Within (cond : State Q K V E R → Action Q E → Prop) (s : State Q K V E R) :
    List (Action Q E) → Prop
  | [] => True
  | a :: as => cond s a ∧
    match sys.step s a with
    | some s' => Within cond s' as
    | none => True

/-- What a step can do. -/
inductive Stepped (s : State Q K V E R) : Action Q E → State Q K V E R → Prop where
  | receive {q} (hadmits : sys.admits s.history q = true) :
      Stepped s (.receive q) { s with requests := s.requests ++ [(q, sys.program q)] }
  | get {i q k next} (hi : s.requests[i]? = some (q, .get k next)) :
      Stepped s (.advance i) (s.resume i q (next (s.store k)))
  | set {i q k v next} (hi : s.requests[i]? = some (q, .set k v next)) :
      Stepped s (.advance i) ((s.put k v).resume i q next)
  | fail {i q p e} (hi : s.requests[i]? = some (q, p)) :
      Stepped s (.fail i e) (s.resume i q (.throw e))

variable {sys} {s s' t : State Q K V E R} {a : Action Q E}

/-- **Inversion of a step.** A new request, a get or a set of one that is on its way, or a
    failure; each case has the program it was at and the state it leaves. -/
theorem step_cases (h : sys.step s a = some s') : sys.Stepped s a s' := by
  cases a with
  | receive q =>
    simp only [step] at h
    split at h
    · next hadmits => cases h; exact .receive hadmits
    · cases h
  | advance i =>
    simp only [step] at h
    split at h
    · next q k next hi => cases h; exact .get hi
    · next q k v next hi => cases h; exact .set hi
    · cases h
  | fail i e =>
    simp only [step] at h
    split at h
    · next q k next hi => cases h; exact .fail hi
    · next q k v next hi => cases h; exact .fail hi
    · cases h

theorem Within.tail {cond : State Q K V E R → Action Q E → Prop} {as : List (Action Q E)}
    (h : sys.Within cond s (a :: as)) (hstep : sys.step s a = some s') :
    sys.Within cond s' as := by
  have htail := h.2
  rw [hstep] at htail
  exact htail

/-- **Induction along a run**: what holds at the start and is kept by each step holds at the end. -/
theorem run_induction {cond : State Q K V E R → Action Q E → Prop} {P : State Q K V E R → Prop}
    (hstep : ∀ {s a s'}, P s → cond s a → sys.step s a = some s' → P s') :
    ∀ {as : List (Action Q E)} {s : State Q K V E R}, sys.run s as = some t →
      sys.Within cond s as → P s → P t := by
  intro as
  induction as with
  | nil =>
    intro s hrun _ hs
    cases hrun
    exact hs
  | cons a as ih =>
    intro s hrun hwithin hs
    obtain ⟨s', hs', hrun'⟩ := Option.bind_eq_some_iff.mp hrun
    exact ih hrun' (hwithin.tail hs') (hstep hs hwithin.1 hs')

/-- A condition that follows from another one wherever an invariant holds. -/
theorem Within.mono {cond cond' : State Q K V E R → Action Q E → Prop}
    {P : State Q K V E R → Prop} (hstep : ∀ {s a s'}, P s → sys.step s a = some s' → P s')
    (hcond : ∀ {s a}, P s → cond s a → cond' s a) :
    ∀ {as : List (Action Q E)} {s : State Q K V E R}, P s → sys.Within cond s as →
      sys.Within cond' s as := by
  intro as
  induction as with
  | nil => exact fun _ _ => trivial
  | cons a as ih =>
    intro s hs hwithin
    refine ⟨hcond hs hwithin.1, ?_⟩
    split
    · next s' hs' => exact ih (hstep hs hs') (hwithin.tail hs')
    · trivial

/-- A run without a condition. -/
theorem within_true (s : State Q K V E R) (as : List (Action Q E)) :
    sys.Within (fun _ _ => True) s as := by
  induction as generalizing s with
  | nil => trivial
  | cons a as ih =>
    refine ⟨trivial, ?_⟩
    split
    · exact ih _
    · trivial

/-- The run up to some point, and the rest of it. -/
theorem run_append {as bs : List (Action Q E)} :
    sys.run s (as ++ bs) = some t ↔ ∃ u, sys.run s as = some u ∧ sys.run u bs = some t := by
  induction as generalizing s with
  | nil => simp [run]
  | cons a as ih =>
    simp only [List.cons_append, run, Option.bind_eq_some_iff, ih]
    constructor
    · rintro ⟨s', hstep, u, hu, ht⟩
      exact ⟨u, ⟨s', hstep, hu⟩, ht⟩
    · rintro ⟨u, ⟨s', hstep, hu⟩, ht⟩
      exact ⟨s', hstep, u, hu, ht⟩

theorem Within.of_append {cond : State Q K V E R → Action Q E → Prop} {as bs : List (Action Q E)}
    (h : sys.Within cond s (as ++ bs)) (hrun : sys.run s as = some t) :
    sys.Within cond s as ∧ sys.Within cond t bs := by
  induction as generalizing s with
  | nil =>
    cases hrun
    exact ⟨trivial, h⟩
  | cons a as ih =>
    obtain ⟨s', hstep, hrest⟩ := Option.bind_eq_some_iff.mp hrun
    obtain ⟨hfront, hback⟩ := ih (h.tail hstep) hrest
    refine ⟨⟨h.1, ?_⟩, hback⟩
    rw [hstep]
    exact hfront

/-- A condition that holds at each step of a run. -/
theorem within_of_steps {cond : State Q K V E R → Action Q E → Prop} {as : List (Action Q E)}
    (h : ∀ bs a cs u, as = bs ++ a :: cs → sys.run s bs = some u → cond u a) :
    sys.Within cond s as := by
  induction as generalizing s with
  | nil => trivial
  | cons a as ih =>
    refine ⟨h [] a as s rfl rfl, ?_⟩
    split
    · next s' hstep =>
      refine ih fun bs b cs u heq hrun => ?_
      subst heq
      refine h (a :: bs) b cs u rfl ?_
      show (sys.step s a).bind _ = some u
      rw [hstep]
      exact hrun
    · trivial

/-! ## What a step leaves alone: requests are not forgotten, and keys not deleted -/

/-- Requests are never forgotten. -/
theorem history_grows (h : sys.step s a = some s') : s.history <+: s'.history := by
  cases step_cases h with
  | receive hadmits => simp [State.history]
  | get hi => exact (State.history_resume hi).symm ▸ List.prefix_rfl
  | @set i q k v next hi =>
    have hhist : ((s.put k v).resume i q next).history = s.history :=
      State.history_resume (s := s.put k v) hi
    exact hhist.symm ▸ List.prefix_rfl
  | fail hi => exact (State.history_resume hi).symm ▸ List.prefix_rfl

theorem history_grows_run {as : List (Action Q E)} (h : sys.run s as = some t) :
    s.history <+: t.history :=
  run_induction (P := fun u => s.history <+: u.history)
    (fun hs _ hstep => hs.trans (history_grows hstep)) h (within_true s as) (List.prefix_refl _)

/-- Nothing is ever deleted. -/
theorem isSome_store_step {k : K} (h : sys.step s a = some s') (hk : (s.store k).isSome) :
    (s'.store k).isSome := by
  cases step_cases h with
  | receive hadmits => exact hk
  | get hi => exact hk
  | @set i q k' v next hi =>
    rw [State.store_resume]
    by_cases hkk : k = k'
    · subst hkk; rw [State.store_put_self]; rfl
    · rw [State.store_put_of_ne hkk]; exact hk
  | fail hi => exact hk

theorem isSome_store_run {as : List (Action Q E)} {k : K} (h : sys.run s as = some t)
    (hk : (s.store k).isSome) : (t.store k).isSome :=
  run_induction (P := fun u => (u.store k).isSome)
    (fun hs _ hstep => isSome_store_step hstep hs) h (within_true s as) hk

end System

/-! ## Contracts

What is relied on and what is guaranteed may depend on the requests and the keys so far. Both
only grow, so a contract that holds on in later worlds is kept while other requests move. -/

/-- What only grows along a run: the requests received and the keys stored. -/
structure World (Q K : Type) where
  history : List Q
  stored : K → Prop

/-- The second world is the first one or a later one. -/
def World.Le (w w' : World Q K) : Prop :=
  w.history <+: w'.history ∧ ∀ k, w.stored k → w'.stored k

theorem World.Le.refl (w : World Q K) : w.Le w := ⟨List.prefix_rfl, fun _ h => h⟩

theorem World.Le.trans {w w' w'' : World Q K} (h : w.Le w') (h' : w'.Le w'') : w.Le w'' :=
  ⟨h.1.trans h'.1, fun k hk => h'.2 k (h.2 k hk)⟩

/-- The world of a state. -/
def State.world (s : State Q K V E R) : World Q K where
  history := s.history
  stored k := (s.store k).isSome

/-- What stored values satisfy (`rely`) and what each request may store (`guarantee`). -/
structure Contract (Q K V : Type) where
  rely : World Q K → K → V → Prop
  guarantee : World Q K → Q → K → V → Prop
  rely_mono : ∀ {w w' k v}, w.Le w' → rely w k v → rely w' k v
  guarantee_mono : ∀ {w w' q k v}, w.Le w' → guarantee w q k v → guarantee w' q k v
  rely_of_guarantee : ∀ {w q k v}, q ∈ w.history → guarantee w q k v → rely w k v

namespace Contract

variable (C : Contract Q K V)

/-- The process stores only what it may, whatever it gets, as long as that is relied on. It is
    defined along the process, and a get is answered by any value that is relied on in a later
    world. -/
def Keeps (q : Q) : Process K V E R → World Q K → Prop
  | .ret _, _ => True
  | .throw _, _ => True
  | .get k next, w => ∀ w', w.Le w' → ∀ v, (∀ x, v = some x → w'.stored k ∧ C.rely w' k x) →
      Keeps q (next v) w'
  | .set k v next, w => C.guarantee w q k v ∧ Keeps q next w

/-- Everything stored is relied on, and every request keeps the contract. -/
structure Holds (s : State Q K V E R) : Prop where
  stored : ∀ k v, s.store k = some v → C.rely s.world k v
  requests : ∀ q p, (q, p) ∈ s.requests → C.Keeps q p s.world

variable {C} {s s' t : State Q K V E R} {a : Action Q E}

theorem Keeps.mono {q : Q} {p : Process K V E R} {w w' : World Q K} (hw : w.Le w')
    (hk : C.Keeps q p w) : C.Keeps q p w' := by
  induction p with
  | ret r => trivial
  | throw e => trivial
  | get k next ih => exact fun w'' hw' v hv => hk w'' (hw.trans hw') v hv
  | set k v next ih => exact ⟨C.guarantee_mono hw hk.1, ih hk.2⟩

/-- What is stored and the other requests keep the contract when one request moves on. -/
theorem Holds.resume {i : Nat} {q : Q} {p p' : Process K V E R} (hs : C.Holds s)
    (hi : s.requests[i]? = some (q, p)) (hp' : C.Keeps q p' s.world) :
    C.Holds (s.resume i q p') := by
  have hworld : (s.resume i q p').world = s.world := by
    rw [State.world, State.history_resume hi, State.store_resume, State.world]
  refine ⟨fun k v hv => hworld ▸ hs.stored k v hv, fun q' p'' hmem => hworld ▸ ?_⟩
  rcases State.mem_resume hmem with hmem | ⟨rfl, rfl⟩
  · exact hs.requests q' p'' hmem
  · exact hp'

variable [DecidableEq K] {sys : System Q K V E R}

theorem world_le_put (s : State Q K V E R) (k : K) (v : V) : s.world.Le (s.put k v).world := by
  refine ⟨List.prefix_rfl, fun k' hk' => ?_⟩
  show ((s.put k v).store k').isSome
  by_cases hkk : k' = k
  · subst hkk; rw [State.store_put_self]; rfl
  · rw [State.store_put_of_ne hkk]; exact hk'

theorem Holds.put {k : K} {v : V} (hs : C.Holds s) (hv : C.rely s.world k v) :
    C.Holds (s.put k v) := by
  have hle := world_le_put s k v
  refine ⟨fun k' v' hv' => C.rely_mono hle ?_, fun q p hmem => (hs.requests q p hmem).mono hle⟩
  by_cases hkk : k' = k
  · subst hkk
    rw [State.store_put_self, Option.some.injEq] at hv'
    exact hv' ▸ hv
  · rw [State.store_put_of_ne hkk] at hv'
    exact hs.stored k' v' hv'

/-- **One step keeps the contract.** -/
theorem holds_step (hprogram : ∀ w q, q ∈ w.history → C.Keeps q (sys.program q) w)
    (hs : C.Holds s) (h : sys.step s a = some s') : C.Holds s' := by
  cases System.step_cases h with
  | @receive q hadmits =>
    have hle : s.world.Le { s with requests := s.requests ++ [(q, sys.program q)] }.world :=
      ⟨System.history_grows h, fun _ hk => hk⟩
    refine ⟨fun k v hv => C.rely_mono hle (hs.stored k v hv), fun q' p hmem => ?_⟩
    rcases List.mem_append.mp hmem with hmem | hmem
    · exact (hs.requests q' p hmem).mono hle
    · cases List.mem_singleton.mp hmem
      exact hprogram _ q (by simp [State.world, State.history])
  | @get i q k next hi =>
    have hkeeps := hs.requests q _ (List.mem_of_getElem? hi)
    refine hs.resume hi (hkeeps _ (World.Le.refl _) _ fun x hx => ⟨?_, hs.stored k x hx⟩)
    show (s.store k).isSome
    rw [hx]; rfl
  | @set i q k v next hi =>
    have hmem := List.mem_of_getElem? hi
    obtain ⟨hguarantee, hnext⟩ := hs.requests q _ hmem
    have hq : q ∈ s.world.history := List.mem_map_of_mem hmem
    exact (hs.put (C.rely_of_guarantee hq hguarantee)).resume hi (hnext.mono (world_le_put s k v))
  | fail hi => exact hs.resume hi trivial

/-- **A whole run keeps the contract**, by induction on its steps. -/
theorem contract_run (hprogram : ∀ w q, q ∈ w.history → C.Keeps q (sys.program q) w)
    {as : List (Action Q E)} (hs : C.Holds s) (h : sys.run s as = some t) : C.Holds t :=
  System.run_induction (fun hs _ hstep => holds_step hprogram hs hstep) h
    (System.within_true s as) hs

end Contract

/-! ## What a returned request has established

A request that returns has made a certain set; whether its effect is still there depends on the
sets of the others. -/

/-- The store holds a value with the property under the key. -/
def State.Holds (s : State Q K V E R) (P : V → Prop) (k : K) : Prop :=
  ∃ v, s.store k = some v ∧ P v

/-- The process does not return before it has set a value with the property under the key. -/
def Process.Establishes (P : V → Prop) (k : K) : Process K V E R → Prop
  | .ret _ => False
  | .throw _ => True
  | .get _ next => ∀ v, (next v).Establishes P k
  | .set k' v next => (k' = k ∧ P v) ∨ next.Establishes P k

/-- The step does not replace a value with the property by one without it. A condition on the
    state and the action before the step. -/
def Respects (P : V → Prop) (s : State Q K V E R) : Action Q E → Prop
  | .advance i => ∀ q k v next, s.requests[i]? = some (q, .set k v next) → s.Holds P k → P v
  | _ => True

variable [DecidableEq K] {P : V → Prop} {k : K} {sys : System Q K V E R}
variable {s s' t : State Q K V E R} {a : Action Q E}

/-- **A property that is respected stays.** -/
theorem holds_step_of_respects (hrespects : Respects P s a) (h : sys.step s a = some s')
    (hs : s.Holds P k) : s'.Holds P k := by
  cases System.step_cases h with
  | receive hadmits => exact hs
  | get hi => exact hs
  | @set i q k' v next hi =>
    by_cases hkk : k = k'
    · subst hkk
      exact ⟨v, State.store_put_self k v, hrespects q k v next hi hs⟩
    · obtain ⟨w, hw, hPw⟩ := hs
      exact ⟨w, (State.store_put_of_ne hkk).trans hw, hPw⟩
  | fail hi => exact hs

/-- Every request that is to establish the property has done so, or still has to. -/
def State.Established (P : V → Prop) (key : Q → Option K) (s : State Q K V E R) : Prop :=
  ∀ q p k, (q, p) ∈ s.requests → key q = some k → p.Establishes P k ∨ s.Holds P k

/-- **One step**: the request that moved has come closer to establishing the property. -/
theorem established_step {key : Q → Option K}
    (hprogram : ∀ q k, key q = some k → (sys.program q).Establishes P k)
    (hrespects : Respects P s a) (h : sys.step s a = some s') (hs : s.Established P key) :
    s'.Established P key := by
  have hstays : ∀ {k}, s.Holds P k → s'.Holds P k :=
    fun hk => holds_step_of_respects hrespects h hk
  intro q' p k hmem hkey
  cases System.step_cases h with
  | @receive q hadmits =>
    -- a new program establishes it
    rcases List.mem_append.mp hmem with hmem | hmem
    · exact (hs q' p k hmem hkey).imp_right hstays
    · cases List.mem_singleton.mp hmem
      exact Or.inl (hprogram q' k hkey)
  | @get i q k' next hi =>
    -- what is left after the get still does
    rcases State.mem_resume hmem with hmem | ⟨rfl, rfl⟩
    · exact (hs q' p k hmem hkey).imp_right hstays
    · exact (hs q' _ k (List.mem_of_getElem? hi) hkey).imp (fun hest => hest _) hstays
  | @set i q k' v next hi =>
    -- it has just been established, or is still to be
    rcases State.mem_resume hmem with hmem | ⟨rfl, rfl⟩
    · exact (hs q' p k hmem hkey).imp_right hstays
    · rcases hs q' _ k (List.mem_of_getElem? hi) hkey with (⟨rfl, hP⟩ | hest) | hk
      · exact Or.inr ⟨v, State.store_put_self k' v, hP⟩
      · exact Or.inl hest
      · exact Or.inr (hstays hk)
  | fail hi =>
    rcases State.mem_resume hmem with hmem | ⟨rfl, rfl⟩
    · exact (hs q' p k hmem hkey).imp_right hstays
    · exact Or.inl trivial

/-- **A whole run**: once such a request has returned, the store holds the property, if every
    step respected it. -/
theorem established_run {key : Q → Option K}
    (hprogram : ∀ q k, key q = some k → (sys.program q).Establishes P k)
    {as : List (Action Q E)} (hempty : s.requests = []) (h : sys.run s as = some t)
    (hwithin : sys.Within (Respects P) s as) {q : Q} {r : R} (hret : (q, .ret r) ∈ t.requests)
    (hkey : key q = some k) : t.Holds P k := by
  have hstart : s.Established P key := by
    intro q p k hmem
    rw [hempty] at hmem
    cases hmem
  have hend : t.Established P key :=
    System.run_induction (fun hs hrespects hstep => established_step hprogram hrespects hstep hs)
      h hwithin hstart
  exact (hend q _ k hret hkey).resolve_left id

/-! ## The accesses of a run

  A step makes at most one access.  The trace of a run is the list of its accesses, so the order
  in which the requests came to the store is the order in the list, and `List.Sublist` says that
  some accesses were made in an order, whatever came between them. -/

/-- What a step reads or stores, and for which request. -/
inductive Access (Q K V : Type) where
  | got (i : Nat) (q : Q) (k : K) (v : Option V)
  | put (i : Nat) (q : Q) (k : K) (v : V)

/-- The access a step makes, if it makes one. -/
def State.access (s : State Q K V E R) : Action Q E → Option (Access Q K V)
  | .advance i =>
    match s.requests[i]? with
    | some (q, .get k _) => some (.got i q k (s.store k))
    | some (q, .set k v _) => some (.put i q k v)
    | _ => none
  | _ => none

/-- The accesses of a run, in order. -/
def System.trace (sys : System Q K V E R) (s : State Q K V E R) :
    List (Action Q E) → List (Access Q K V)
  | [] => []
  | a :: as =>
    match sys.step s a with
    | some s' => (s.access a).toList ++ sys.trace s' as
    | none => []

theorem trace_cons {as : List (Action Q E)} (h : sys.step s a = some s') :
    sys.trace s (a :: as) = (s.access a).toList ++ sys.trace s' as := by
  rw [System.trace, h]

theorem trace_append {as bs : List (Action Q E)} (h : sys.run s as = some t) :
    sys.trace s (as ++ bs) = sys.trace s as ++ sys.trace t bs := by
  induction as generalizing s with
  | nil => cases h; rfl
  | cons a as ih =>
    obtain ⟨s', hstep, hrest⟩ := Option.bind_eq_some_iff.mp h
    rw [List.cons_append, trace_cons hstep, trace_cons hstep, ih hrest, List.append_assoc]

/-- **Induction along a run that remembers its accesses.** The invariant relates the accesses so
    far to the state, and a step adds at most one of them. -/
theorem trace_induction {I : List (Access Q K V) → State Q K V E R → Prop}
    (hstep : ∀ {es s a s'}, I es s → sys.step s a = some s' → I (es ++ (s.access a).toList) s')
    {as : List (Action Q E)} (h : sys.run s as = some t) (hs : I [] s) :
    I (sys.trace s as) t := by
  suffices hmain : ∀ es s, I es s → sys.run s as = some t → I (es ++ sys.trace s as) t from
    hmain [] s hs h
  clear hs h
  induction as with
  | nil =>
    intro es s hs h
    cases h
    rwa [System.trace, List.append_nil]
  | cons a as ih =>
    intro es s hs h
    obtain ⟨s', hs', hrest⟩ := Option.bind_eq_some_iff.mp h
    rw [trace_cons hs', ← List.append_assoc]
    exact ih _ s' (hstep hs hs') hrest

/-- The step of a run that made an access, with the later accesses after it. Applied again to the
    rest, it finds the steps of several accesses in their order. -/
theorem exists_of_sublist_trace {as : List (Action Q E)} {e : Access Q K V}
    {es : List (Access Q K V)} (h : (e :: es).Sublist (sys.trace s as)) :
    ∃ bs a cs u u', as = bs ++ a :: cs ∧ sys.run s bs = some u ∧ sys.step u a = some u' ∧
      u.access a = some e ∧ es.Sublist (sys.trace u' cs) := by
  induction as generalizing s with
  | nil => cases h
  | cons a as ih =>
    rw [System.trace] at h
    split at h
    · next s' hstep =>
      rcases hacc : s.access a with _ | e'
      · rw [hacc] at h
        obtain ⟨bs, b, cs, u, u', rfl, hrun, hrest⟩ := ih h
        exact ⟨a :: bs, b, cs, u, u', rfl, Option.bind_eq_some_iff.mpr ⟨s', hstep, hrun⟩, hrest⟩
      · rw [hacc] at h
        rcases List.sublist_cons_iff.mp h with h | ⟨es', heq, h⟩
        · obtain ⟨bs, b, cs, u, u', rfl, hrun, hrest⟩ := ih h
          exact ⟨a :: bs, b, cs, u, u', rfl, Option.bind_eq_some_iff.mpr ⟨s', hstep, hrun⟩, hrest⟩
        · cases heq
          exact ⟨[], a, as, s, s', rfl, rfl, hstep, hacc, h⟩
    · cases h

/-- A step that gets: the request goes on with what is stored. -/
theorem step_of_got {i : Nat} {q : Q} {v : Option V} (h : sys.step s a = some s')
    (hacc : s.access a = some (.got i q k v)) :
    a = .advance i ∧ v = s.store k ∧ ∃ next, s.requests[i]? = some (q, .get k next) ∧
      s' = s.resume i q (next v) := by
  cases System.step_cases h with
  | receive hadmits => cases hacc
  | get hi =>
    simp only [State.access, hi, Option.some.injEq, Access.got.injEq] at hacc
    obtain ⟨rfl, rfl, rfl, rfl⟩ := hacc
    exact ⟨rfl, rfl, _, hi, rfl⟩
  | set hi =>
    simp only [State.access, hi, Option.some.injEq, reduceCtorEq] at hacc
  | fail hi => cases hacc

/-- A step that sets: the value is stored, and the request goes on. -/
theorem step_of_put {i : Nat} {q : Q} {v : V} (h : sys.step s a = some s')
    (hacc : s.access a = some (.put i q k v)) :
    a = .advance i ∧ ∃ next, s.requests[i]? = some (q, .set k v next) ∧
      s' = (s.put k v).resume i q next := by
  cases System.step_cases h with
  | receive hadmits => cases hacc
  | get hi =>
    simp only [State.access, hi, Option.some.injEq, reduceCtorEq] at hacc
  | set hi =>
    simp only [State.access, hi, Option.some.injEq, Access.put.injEq] at hacc
    obtain ⟨rfl, rfl, rfl, rfl⟩ := hacc
    exact ⟨rfl, _, hi, rfl⟩
  | fail hi => cases hacc

/-! ## A request that has come to its last set

It waits there while others move, and what it sets in the end is what it had in hand. -/

/-- Nothing is left of the request. -/
def Process.IsOver : Process K V E R → Prop
  | .ret _ => True
  | .throw _ => True
  | _ => False

omit [DecidableEq K] in
theorem getElem?_resume_of_ne {i j : Nat} {q : Q} {p : Process K V E R} (h : i ≠ j) :
    (s.resume i q p).requests[j]? = s.requests[j]? :=
  List.getElem?_set_ne h

omit [DecidableEq K] in
theorem getElem?_resume_self {i : Nat} {q q' : Q} {p p' : Process K V E R}
    (h : s.requests[i]? = some (q, p)) : (s.resume i q' p').requests[i]? = some (q', p') :=
  List.getElem?_set_self (List.getElem?_eq_some_iff.mp h).1

/-- The other requests wait while one moves. -/
theorem waits_step {i : Nat} {q : Q} {p : Process K V E R}
    (hi : s.requests[i]? = some (q, p)) (h : sys.step s a = some s')
    (ha : a ≠ .advance i) (hfail : ∀ e, a ≠ .fail i e) : s'.requests[i]? = some (q, p) := by
  have hlt : i < s.requests.length := (List.getElem?_eq_some_iff.mp hi).1
  cases System.step_cases h with
  | receive hadmits => exact (List.getElem?_append_left hlt).trans hi
  | @get j _ _ _ hj =>
    exact (getElem?_resume_of_ne fun heq : j = i => ha (congrArg _ heq)).trans hi
  | @set j _ k v _ hj =>
    exact (getElem?_resume_of_ne (s := s.put k v) fun heq : j = i => ha (congrArg _ heq)).trans hi
  | @fail j _ _ e hj =>
    exact (getElem?_resume_of_ne fun heq : j = i =>
      hfail e (congrArg (Action.fail · e) heq)).trans hi

/-- A request that is over stays as it is. -/
theorem isOver_run {as : List (Action Q E)} {i : Nat} {q : Q} {p : Process K V E R}
    (hover : p.IsOver) (h : sys.run s as = some t) (hi : s.requests[i]? = some (q, p)) :
    t.requests[i]? = some (q, p) := by
  refine System.run_induction (P := fun u => u.requests[i]? = some (q, p))
    (fun {u a u'} hu _ hstep => ?_) h (System.within_true s as) hi
  refine waits_step hu hstep ?_ ?_
  · rintro rfl
    cases p <;> first | exact hover.elim | simp only [System.step, hu, reduceCtorEq] at hstep
  · rintro e rfl
    cases p <;> first | exact hover.elim | simp only [System.step, hu, reduceCtorEq] at hstep

/-- A request at its last set has that set left until it is over. -/
theorem lastSet_run {as : List (Action Q E)} {i : Nat} {q : Q} {v : V} {r : R}
    (h : sys.run s as = some t) (hi : s.requests[i]? = some (q, .set k v (.ret r))) :
    t.requests[i]? = some (q, .set k v (.ret r)) ∨
      ∃ p : Process K V E R, p.IsOver ∧ t.requests[i]? = some (q, p) := by
  refine System.run_induction (P := fun u => u.requests[i]? = some (q, .set k v (.ret r)) ∨
    ∃ p : Process K V E R, p.IsOver ∧ u.requests[i]? = some (q, p))
    (fun {u a u'} hu _ hstep => ?_) h (System.within_true s as) (Or.inl hi)
  rcases hu with hu | ⟨p, hover, hu⟩
  · by_cases ha : a = .advance i
    · subst ha
      simp only [System.step, hu, Option.some.injEq] at hstep
      subst hstep
      exact Or.inr ⟨.ret r, trivial, getElem?_resume_self (s := u.put k v) hu⟩
    by_cases hfail : ∃ e, a = .fail i e
    · obtain ⟨e, rfl⟩ := hfail
      simp only [System.step, hu, Option.some.injEq] at hstep
      subst hstep
      exact Or.inr ⟨.throw e, trivial, getElem?_resume_self hu⟩
    · exact Or.inl (waits_step hu hstep ha (not_exists.mp hfail))
  · have hrun : sys.run u [a] = some u' := by rw [System.run, hstep]; rfl
    exact Or.inr ⟨p, hover, isOver_run hover hrun hu⟩

end SharedStore
