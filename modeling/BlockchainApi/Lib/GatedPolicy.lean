/-
  Policies made of grants, each kind of grant gating the requests it is about.

  A grant has a kind, and it covers some demands.  A request makes demands of every kind.  A list of
  grants *accepts* the request when, for each kind of which it holds a grant, every demand of that
  kind is covered by some grant of that kind.  Grants of one kind are alternatives to each other; a
  kind of which the list holds no grant restricts nothing.

  Three things follow for every such policy, and they are what its users ask about:

  * Acceptance only depends on which grants are in the list (`accepts_congr`), hence not on their
    order (`accepts_perm`).

  * One more grant of a kind that is there keeps a request accepted (`Accepts.insert`).

  * Acceptance is not monotone in the grants, all the same: the first grant of a kind switches the
    gate of that kind on, and the request is still accepted exactly when that grant alone covers all
    demands of its kind (`accepts_insert_of_absent`).

  Kinds, grants and demands are arbitrary types; nothing is computed here.
-/
import Mathlib.Data.List.Basic

namespace Gated

universe u v w

/-- What kind a grant is of, and which demands of that kind it covers. -/
structure Policy (Kind : Type u) (Grant : Type v) (Demand : Type w) where
  kind : Grant → Kind
  covers : Grant → Demand → Prop

namespace Policy

variable {Kind : Type u} {Grant : Type v} {Demand : Type w}
variable (P : Policy Kind Grant Demand)

/-- The list holds a grant of the kind. -/
def Present (gs : List Grant) (k : Kind) : Prop := ∃ g ∈ gs, P.kind g = k

/-- Some grant of the kind covers the demand. -/
def Covered (gs : List Grant) (k : Kind) (d : Demand) : Prop :=
  ∃ g ∈ gs, P.kind g = k ∧ P.covers g d

/-- Every kind that is present has all its demands covered, each by some grant of the kind.
    Nothing is asked of the kinds that are not present. -/
def Accepts (gs : List Grant) (demands : Kind → List Demand) : Prop :=
  ∀ k, P.Present gs k → ∀ d ∈ demands k, P.Covered gs k d

variable {P} {gs hs : List Grant} {g : Grant} {k : Kind} {d : Demand}
variable {demands : Kind → List Demand}

theorem present_congr (h : ∀ g, g ∈ gs ↔ g ∈ hs) : P.Present gs k ↔ P.Present hs k :=
  exists_congr fun g => and_congr_left fun _ => h g

theorem covered_congr (h : ∀ g, g ∈ gs ↔ g ∈ hs) : P.Covered gs k d ↔ P.Covered hs k d :=
  exists_congr fun g => and_congr_left fun _ => h g

/-- **Acceptance only depends on which grants are there.** Neither their order nor how often they
    stand in the list matters. -/
theorem accepts_congr (h : ∀ g, g ∈ gs ↔ g ∈ hs) : P.Accepts gs demands ↔ P.Accepts hs demands :=
  forall_congr' fun _ => imp_congr (present_congr h)
    (forall_congr' fun _ => imp_congr_right fun _ => covered_congr h)

/-- The order of the grants does not matter. -/
theorem accepts_perm (h : gs.Perm hs) : P.Accepts gs demands ↔ P.Accepts hs demands :=
  accepts_congr fun _ => h.mem_iff

/-- Where the grant stands does not matter. -/
theorem accepts_insert_iff_cons {l r : List Grant} :
    P.Accepts (l ++ g :: r) demands ↔ P.Accepts (g :: (l ++ r)) demands :=
  accepts_perm List.perm_middle

theorem Covered.cons (h : P.Covered gs k d) : P.Covered (g :: gs) k d := by
  obtain ⟨g', hg', hkind, hcovers⟩ := h
  exact ⟨g', List.mem_cons_of_mem g hg', hkind, hcovers⟩

/-- Nothing new is present, except the kind of the new grant. -/
theorem present_cons : P.Present (g :: gs) k ↔ P.kind g = k ∨ P.Present gs k := by
  simp only [Present, List.mem_cons, exists_eq_or_imp]

theorem covered_cons :
    P.Covered (g :: gs) k d ↔ (P.kind g = k ∧ P.covers g d) ∨ P.Covered gs k d := by
  simp only [Covered, List.mem_cons, exists_eq_or_imp]

/-- **One more alternative keeps a request accepted**, if its kind is there already: what was
    covered stays covered. -/
theorem Accepts.insert {l r : List Grant} (h : P.Accepts (l ++ r) demands)
    (hpresent : P.Present (l ++ r) (P.kind g)) : P.Accepts (l ++ g :: r) demands := by
  rw [accepts_insert_iff_cons]
  intro k hk d hd
  rcases present_cons.mp hk with rfl | hk
  · exact (h _ hpresent d hd).cons
  · exact (h k hk d hd).cons

/-- **The first grant of a kind has to cover all demands of the kind alone.** The other kinds are
    as they were. -/
theorem accepts_insert_of_absent {l r : List Grant} (habsent : ¬ P.Present (l ++ r) (P.kind g)) :
    P.Accepts (l ++ g :: r) demands ↔
      P.Accepts (l ++ r) demands ∧ ∀ d ∈ demands (P.kind g), P.covers g d := by
  have hnot : ∀ d, ¬ P.Covered (l ++ r) (P.kind g) d := by
    rintro d ⟨g', hg', hkind, -⟩
    exact habsent ⟨g', hg', hkind⟩
  rw [accepts_insert_iff_cons]
  constructor
  · intro h
    refine ⟨fun k hk d hd => ?_, fun d hd => ?_⟩
    · rcases covered_cons.mp (h k (present_cons.mpr (Or.inr hk)) d hd) with ⟨hkind, -⟩ | hcov
      · exact absurd (hkind ▸ hk) habsent
      · exact hcov
    · rcases covered_cons.mp (h _ (present_cons.mpr (Or.inl rfl)) d hd) with ⟨-, hcov⟩ | hcov
      · exact hcov
      · exact absurd hcov (hnot d)
  · rintro ⟨h, hown⟩ k hk d hd
    rw [covered_cons]
    rcases present_cons.mp hk with rfl | hk
    · exact Or.inl ⟨rfl, hown d hd⟩
    · exact Or.inr (h k hk d hd)

end Policy

end Gated
