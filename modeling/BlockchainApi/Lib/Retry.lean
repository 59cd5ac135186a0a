/-
  Trying one after the other until one succeeds.

  `run` goes through a list of things to try, and says two things at once: what came out, and which
  ones were tried, in order.  Nothing is known of a trial but whether it succeeds and with what, so
  the trials may be calls to services, readings of a text, or anything else.

  `run_spec` is all there is to know, by induction on the list: either all were tried and none
  succeeded, or those up to the first that does, and that one is the last that was tried.  Two
  corollaries are what users ask for: nothing comes out only if nothing succeeds (`run_eq_none`),
  and those tried are the first of the list, each once (`run_tried`).  The second one is what counts
  when a trial costs something.
-/
import Mathlib.Data.List.Basic

namespace Retry

variable {P A : Type}

/-- Try one after the other: the first success, and the ones that were tried. What stands behind
    the first success is not looked at. -/
def run (attempt : P → Option A) : List P → Option A × List P
  | [] => (none, [])
  | p :: ps =>
    match attempt p with
    | some a => (some a, [p])
    | none => ((run attempt ps).1, p :: (run attempt ps).2)

variable {attempt : P → Option A} {ps before after : List P} {p : P} {a : A}

/-- A success after failures. -/
theorem run_of_first (after : List P) (hbefore : ∀ q ∈ before, attempt q = none)
    (hp : attempt p = some a) :
    run attempt (before ++ p :: after) = (some a, before ++ [p]) := by
  induction before with
  | nil => rw [List.nil_append, run, hp, List.nil_append]
  | cons q before ih =>
    obtain ⟨hq, hrest⟩ := List.forall_mem_cons.mp hbefore
    rw [List.cons_append, run, hq, ih hrest, List.cons_append]

/-- **What comes of trying**, by induction on the list: a first success splits the list into
    failures before it and a rest that was not tried. -/
theorem run_spec (attempt : P → Option A) (ps : List P) :
    ((∀ p ∈ ps, attempt p = none) ∧ run attempt ps = (none, ps)) ∨
    (∃ before p after a, ps = before ++ p :: after ∧ (∀ q ∈ before, attempt q = none) ∧
      attempt p = some a ∧ run attempt ps = (some a, before ++ [p])) := by
  induction ps with
  | nil => exact .inl ⟨fun _ h => (by cases h), rfl⟩
  | cons p ps ih =>
    cases hp : attempt p with
    | some a =>
      refine .inr ⟨[], p, ps, a, rfl, fun _ h => (by cases h), hp, ?_⟩
      rw [run, hp, List.nil_append]
    | none =>
      rcases ih with ⟨hall, hrun⟩ | ⟨before, q, after, a, rfl, hbefore, hq, -⟩
      · refine .inl ⟨List.forall_mem_cons.mpr ⟨hp, hall⟩, ?_⟩
        rw [run, hp, hrun]
      · have hfailed : ∀ r ∈ p :: before, attempt r = none :=
          List.forall_mem_cons.mpr ⟨hp, hbefore⟩
        exact .inr ⟨p :: before, q, after, a, rfl, hfailed, hq,
          run_of_first after hfailed hq⟩

/-- Nothing comes out if nothing succeeds. -/
theorem run_eq_none : (run attempt ps).1 = none ↔ ∀ p ∈ ps, attempt p = none := by
  rcases run_spec attempt ps with ⟨hall, hrun⟩ | ⟨before, p, after, a, rfl, -, hp, hrun⟩
  · rw [hrun]
    exact iff_of_true rfl hall
  · rw [hrun]
    refine iff_of_false (Option.some_ne_none a) fun hall => ?_
    rw [hall p (List.mem_append_right _ (List.mem_cons_self ..))] at hp
    cases hp

/-- **Those tried are the first of the list**, each once: a prefix, which is the whole list if
    nothing succeeds. -/
theorem run_tried : (run attempt ps).2 <+: ps := by
  rcases run_spec attempt ps with ⟨-, hrun⟩ | ⟨before, p, after, a, rfl, -, -, hrun⟩
  · exact hrun.symm ▸ List.prefix_refl ps
  · rw [hrun]
    exact ⟨after, by rw [List.append_assoc, List.singleton_append]⟩

end Retry
