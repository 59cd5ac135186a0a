/-
  Machines that take one action at a time, and what their runs keep.

  A `Machine` says which state an action leads to, or that the action cannot be taken in a state.  A
  run is any list of actions, so a machine whose actions name the party that acts has every
  interleaving of the parties among its runs.

  1. **Invariants.** `run_induction` carries an invariant along a run, once each step keeps it;
     `run_invariant` is its form for all runs from a start, and `run_history` that for statements
     about the actions taken so far.

  2. **Conditions on steps.** `Within cond` restricts a run to steps that meet a condition in the
     state they are taken in.  `within_congr` compares two conditions on the steps of one run, under
     an invariant, and `Within.imp_of_kept` derives one condition from another together with what
     the other one keeps.

  3. **Simulation.** A `Simulation` answers each step of one machine by a run of another; then it
     answers each run, and what the second machine keeps is kept by the first one as well.

  Runs are lists of actions and not of states: the states follow from them.
-/
import Mathlib.Data.List.Basic
import Mathlib.Data.List.Induction

namespace Transitions

/-- What each action does in each state; `none` where it cannot be taken. -/
structure Machine (S A : Type) where
  step : S → A → Option S

variable {S A T B : Type}

namespace Machine

variable (M : Machine S A)

/-- The actions one after the other. -/
def run (s : S) : List A → Option S
  | [] => some s
  | a :: as => (M.step s a).bind fun s' => run s' as

/-- Every step of the run meets the condition in the state it is taken in. What comes after an
    action that cannot be taken does not matter. -/
def Within (cond : S → A → Prop) (s : S) : List A → Prop
  | [] => True
  | a :: as => cond s a ∧ ∀ s', M.step s a = some s' → Within cond s' as

variable {M} {s s' t : S} {a : A} {as bs : List A} {cond cond' : S → A → Prop}

@[simp] theorem run_nil : M.run s [] = some s := rfl

theorem run_cons : M.run s (a :: as) = some t ↔ ∃ s', M.step s a = some s' ∧ M.run s' as = some t :=
  Option.bind_eq_some_iff

/-- A run in two parts. -/
theorem run_append :
    M.run s (as ++ bs) = some t ↔ ∃ u, M.run s as = some u ∧ M.run u bs = some t := by
  induction as generalizing s with
  | nil => simp
  | cons a as ih =>
    rw [List.cons_append, run_cons]
    constructor
    · rintro ⟨s', hstep, hrest⟩
      obtain ⟨u, hu, ht⟩ := ih.mp hrest
      exact ⟨u, run_cons.mpr ⟨s', hstep, hu⟩, ht⟩
    · rintro ⟨u, hu, ht⟩
      obtain ⟨s', hstep, hrest⟩ := run_cons.mp hu
      exact ⟨s', hstep, ih.mpr ⟨u, hrest, ht⟩⟩

theorem run_concat :
    M.run s (as ++ [a]) = some t ↔ ∃ u, M.run s as = some u ∧ M.step u a = some t := by
  rw [run_append]
  constructor
  · rintro ⟨u, hu, hlast⟩
    obtain ⟨t', hstep, ht'⟩ := run_cons.mp hlast
    cases ht'
    exact ⟨u, hu, hstep⟩
  · rintro ⟨u, hu, hstep⟩
    exact ⟨u, hu, run_cons.mpr ⟨t, hstep, rfl⟩⟩

theorem within_true (s : S) (as : List A) : M.Within (fun _ _ => True) s as := by
  induction as generalizing s with
  | nil => trivial
  | cons a as ih => exact ⟨trivial, fun s' _ => ih s'⟩

theorem within_of_forall {P : A → Prop} (h : ∀ a ∈ as, P a) : M.Within (fun _ => P) s as := by
  induction as generalizing s with
  | nil => trivial
  | cons a as ih =>
    obtain ⟨ha, has⟩ := List.forall_mem_cons.mp h
    exact ⟨ha, fun s' _ => ih has⟩

theorem Within.and (h : M.Within cond s as) (h' : M.Within cond' s as) :
    M.Within (fun s a => cond s a ∧ cond' s a) s as := by
  induction as generalizing s with
  | nil => trivial
  | cons a as ih => exact ⟨⟨h.1, h'.1⟩, fun s' hs' => ih (h.2 s' hs') (h'.2 s' hs')⟩

/-- The condition of the last step of a run. -/
theorem Within.last (h : M.Within cond s (as ++ [a])) (hrun : M.run s as = some t) : cond t a := by
  induction as generalizing s with
  | nil =>
    cases hrun
    exact h.1
  | cons b as ih =>
    obtain ⟨s', hs', hrest⟩ := run_cons.mp hrun
    exact ih (h.2 s' hs') hrest

/-- **Induction along a run**: what holds at the start and is kept by each step holds at the end.
    The steps are those that meet a condition on the state before. -/
theorem run_induction {P : S → Prop}
    (hstep : ∀ {s a s'}, P s → cond s a → M.step s a = some s' → P s')
    (hwithin : M.Within cond s as) (hrun : M.run s as = some t) (hs : P s) : P t := by
  induction as generalizing s with
  | nil => cases hrun; exact hs
  | cons a as ih =>
    obtain ⟨s', hs', hrest⟩ := run_cons.mp hrun
    exact ih (hwithin.2 s' hs') hrest (hstep hs hwithin.1 hs')

/-- **An invariant of every run.** -/
theorem run_invariant {P : S → Prop} (hstep : ∀ {s a s'}, P s → M.step s a = some s' → P s')
    (hrun : M.run s as = some t) (hs : P s) : P t := by
  have hwithin : M.Within (fun _ _ => True) s as := within_true s as
  exact run_induction (fun hs _ h => hstep hs h) hwithin hrun hs

/-- **An invariant of the run so far**: what holds of no steps, and is kept by one more step. The
    induction is on the run from its end. -/
theorem run_history {P : List A → S → Prop} (hnil : P [] s)
    (hstep : ∀ {bs u a v}, P bs u → M.step u a = some v → P (bs ++ [a]) v)
    (hrun : M.run s as = some t) : P as t := by
  induction as using List.reverseRecOn generalizing t with
  | nil =>
    cases hrun
    exact hnil
  | append_singleton bs a ih =>
    obtain ⟨u, hu, hlast⟩ := run_concat.mp hrun
    exact hstep (ih hu) hlast

/-- **Two conditions that agree wherever an invariant holds** restrict the same runs; every step
    keeps the invariant. -/
theorem within_congr {P : S → Prop} (hstep : ∀ {s a s'}, P s → M.step s a = some s' → P s')
    (hcond : ∀ {s a}, P s → (cond s a ↔ cond' s a)) (hs : P s) :
    M.Within cond s as ↔ M.Within cond' s as := by
  induction as generalizing s with
  | nil => exact Iff.rfl
  | cons a as ih =>
    refine and_congr (hcond hs) (forall_congr' fun s' => ?_)
    exact forall_congr' fun h => ih (hstep hs h)

theorem Within.imp {P : S → Prop} (hstep : ∀ {s a s'}, P s → M.step s a = some s' → P s')
    (hcond : ∀ {s a}, P s → cond s a → cond' s a) (hs : P s) (h : M.Within cond s as) :
    M.Within cond' s as := by
  induction as generalizing s with
  | nil => trivial
  | cons a as ih => exact ⟨hcond hs h.1, fun s' hs' => ih (hstep hs hs') (h.2 s' hs')⟩

/-- A condition that follows from another one along a run, with what the other one keeps. -/
theorem Within.imp_of_kept {P : S → Prop}
    (hstep : ∀ {s a s'}, P s → cond s a → M.step s a = some s' → P s')
    (hcond : ∀ {s a}, P s → cond s a → cond' s a) (hs : P s) (h : M.Within cond s as) :
    M.Within cond' s as := by
  induction as generalizing s with
  | nil => trivial
  | cons a as ih =>
    exact ⟨hcond hs h.1, fun s' hs' => ih (hstep hs h.1 hs') (h.2 s' hs')⟩

/-- The steps of a run in two parts. -/
theorem within_append (hrun : M.run s as = some t) :
    M.Within cond s (as ++ bs) ↔ M.Within cond s as ∧ M.Within cond t bs := by
  induction as generalizing s with
  | nil =>
    cases hrun
    exact (and_iff_right trivial).symm
  | cons a as ih =>
    obtain ⟨s', hs', hrest⟩ := run_cons.mp hrun
    rw [List.cons_append]
    constructor
    · rintro ⟨ha, hwithin⟩
      obtain ⟨has, hbs⟩ := (ih hrest).mp (hwithin s' hs')
      refine ⟨⟨ha, fun u hu => ?_⟩, hbs⟩
      cases hs'.symm.trans hu
      exact has
    · rintro ⟨⟨ha, has⟩, hbs⟩
      refine ⟨ha, fun u hu => ?_⟩
      cases hs'.symm.trans hu
      exact (ih hrest).mpr ⟨has s' hs', hbs⟩

end Machine

/-! ## Simulation: a machine seen as another one -/

/-- Each step of `M`, in the states of an invariant, is a run of `N` on what `view` sees; a step
    that changes nothing there is an empty run. -/
structure Simulation (M : Machine S A) (N : Machine T B) where
  view : S → T
  inv : S → Prop
  actions : S → A → List B
  inv_step : ∀ {s a s'}, inv s → M.step s a = some s' → inv s'
  run_step : ∀ {s a s'}, inv s → M.step s a = some s' →
    N.run (view s) (actions s a) = some (view s')

namespace Simulation

variable {M : Machine S A} {N : Machine T B} (sim : Simulation M N) {s t : S} {as : List A}

/-- **A simulated run.** -/
theorem run (hrun : M.run s as = some t) (hs : sim.inv s) :
    ∃ bs, N.run (sim.view s) bs = some (sim.view t) := by
  induction as generalizing s with
  | nil => cases hrun; exact ⟨[], rfl⟩
  | cons a as ih =>
    obtain ⟨s', hstep, hrest⟩ := Machine.run_cons.mp hrun
    obtain ⟨bs, hbs⟩ := ih hrest (sim.inv_step hs hstep)
    exact ⟨sim.actions s a ++ bs, Machine.run_append.mpr ⟨_, sim.run_step hs hstep, hbs⟩⟩

/-- An invariant of the simulated machine holds of what the other one shows. -/
theorem invariant {P : T → Prop} (hstep : ∀ {u b u'}, P u → N.step u b = some u' → P u')
    (hrun : M.run s as = some t) (hs : sim.inv s) (hP : P (sim.view s)) : P (sim.view t) := by
  obtain ⟨bs, hbs⟩ := sim.run hrun hs
  exact Machine.run_invariant hstep hbs hP

end Simulation

end Transitions
