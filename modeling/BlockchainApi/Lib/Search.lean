/-
  Searching a list for the best item, with a way to stop early.

  The search goes through the items in order.  At each one it either ends with an answer
  (`Found.final`) or goes on with the best item so far (`Found.best`).  `searchGroups` does the same
  over groups that have to be fetched first, each of which may fail.

  1. **Groups are one list.** If all groups can be fetched, searching them is searching what they
     hold one after the other (`searchGroups_eq`).

  2. **No panics.** `search_safe` and `searchGroups_safe`: a search of safe steps is safe, and what
     it answers has the property that all items have.

  3. **What it finds.** A `SearchRule` says what a step is meant to do: leave out items that do not
     suffice, stop at a preferred one, and keep the one with the highest rank otherwise.  Its
     invariant is `IsBest`, for the items seen so far.  Then the search finds nothing only if no
     item suffices, and what it finds does not depend on the order of the items, up to items of
     equal rank (`search_spec`).

  All inductions are on the list, with the best item so far general.
-/
import BlockchainApi.Lib.Outcome
import Mathlib.Order.Lattice

namespace Search

/-- What a search has come to. -/
inductive Found (α : Type) where
  | final (a : α)
  | best (a : Option α)

/-- The answer of a search that is over. -/
def Found.answer {α : Type} : Found α → Option α
  | final a => some a
  | best a => a

variable {ε α γ β : Type}

/-- Go through the items with the best one so far. -/
def search (step : Option α → α → Outcome ε (Found α)) :
    Option α → List α → Outcome ε (Found α)
  | best, [] => .ok (.best best)
  | best, a :: as => do
    match ← step best a with
    | .final a => return .final a
    | .best best => search step best as

/-- The same over groups of items, fetched one after the other. -/
def searchGroups (step : Option α → α → Outcome ε (Found α)) (fetch : γ → Outcome ε (List α)) :
    Option α → List γ → Outcome ε (Found α)
  | best, [] => .ok (.best best)
  | best, g :: gs => do
    let items ← fetch g
    match ← search step best items with
    | .final a => return .final a
    | .best best => searchGroups step fetch best gs

theorem search_append {step : Option α → α → Outcome ε (Found α)} {best : Option α}
    {as bs : List α} :
    search step best (as ++ bs) = search step best as >>= fun found =>
      match found with
      | .final a => .ok (.final a)
      | .best best => search step best bs := by
  induction as generalizing best with
  | nil => rfl
  | cons a as ih =>
    rw [List.cons_append, search, search, bind_assoc]
    congr 1
    funext found
    cases found with
    | final a => rfl
    | best best => exact ih

/-- **Groups that can all be fetched** are searched like one list: a search that stops does not
    look at the rest of its group, nor at the groups behind it. -/
theorem searchGroups_eq {step : Option α → α → Outcome ε (Found α)}
    {fetch : γ → Outcome ε (List α)} {items : γ → List α} {gs : List γ}
    (h : ∀ g ∈ gs, fetch g = .ok (items g)) (best : Option α) :
    searchGroups step fetch best gs = search step best (gs.flatMap items) := by
  induction gs generalizing best with
  | nil => rfl
  | cons g gs ih =>
    obtain ⟨hg, hgs⟩ := List.forall_mem_cons.mp h
    rw [searchGroups, hg, Outcome.ok_bind, List.flatMap_cons, search_append]
    congr 1
    funext found
    cases found with
    | final a => rfl
    | best best => exact ih hgs best

/-- What a search answers it started with, or a step took it from the items. -/
theorem search_sound {step : Option α → α → Outcome ε (Found α)} {P : α → Prop}
    (hstep : ∀ best a found b, step best a = .ok found → found.answer = some b →
      best = some b ∨ b = a ∧ P a) {items : List α} {best : Option α} {found : Found α} {b : α}
    (h : search step best items = .ok found) (hanswer : found.answer = some b) :
    best = some b ∨ P b := by
  induction items generalizing best with
  | nil =>
    cases h
    exact Or.inl hanswer
  | cons a items ih =>
    obtain ⟨next, hnext, hrest⟩ := Outcome.bind_eq_ok.mp h
    have hback : ∀ c, next.answer = some c → c = b → best = some b ∨ P b := by
      rintro c hc rfl
      rcases hstep best a next c hnext hc with hbest | ⟨rfl, hP⟩
      · exact Or.inl hbest
      · exact Or.inr hP
    cases next with
    | final c =>
      cases hrest
      exact hback c rfl (Option.some.inj hanswer)
    | best best' =>
      rcases ih hrest with hbest | hP
      · exact hback b hbest rfl
      · exact Or.inr hP

theorem searchGroups_sound {step : Option α → α → Outcome ε (Found α)}
    {fetch : γ → Outcome ε (List α)} {P : α → Prop}
    (hstep : ∀ best a found b, step best a = .ok found → found.answer = some b →
      best = some b ∨ b = a ∧ P a) {gs : List γ} {best : Option α} {found : Found α} {b : α}
    (h : searchGroups step fetch best gs = .ok found) (hanswer : found.answer = some b) :
    best = some b ∨ P b := by
  induction gs generalizing best with
  | nil =>
    cases h
    exact Or.inl hanswer
  | cons g gs ih =>
    obtain ⟨items, -, h⟩ := Outcome.bind_eq_ok.mp h
    obtain ⟨next, hnext, hrest⟩ := Outcome.bind_eq_ok.mp h
    cases next with
    | final c =>
      cases hrest
      exact search_sound hstep hnext hanswer
    | best best' =>
      rcases ih hrest with hbest | hP
      · exact search_sound hstep hnext hbest
      · exact Or.inr hP

/-! ## Searches that do not panic: a property of all items is one of the answer -/

/-- The outcome is no panic, and what is answered has the property. -/
def SafeFound (P : α → Prop) (x : Outcome ε (Found α)) : Prop :=
  x ≠ .panic ∧ ∀ found b, x = .ok found → found.answer = some b → P b

/-- A step is safe from a best item with the property, on an item with it. -/
def SafeStep (step : Option α → α → Outcome ε (Found α)) (P : α → Prop) : Prop :=
  ∀ best a, (∀ b, best = some b → P b) → P a → SafeFound P (step best a)

/-- Going on from what was found, safely: with a final item there is nothing left to do. -/
theorem SafeFound.bind {P : α → Prop} {x : Outcome ε (Found α)}
    {rest : Option α → Outcome ε (Found α)} (hx : SafeFound P x)
    (hrest : ∀ best, (∀ b, best = some b → P b) → SafeFound P (rest best)) :
    SafeFound P (x >>= fun found =>
      match found with
      | .final a => .ok (.final a)
      | .best best => rest best) := by
  cases x with
  | panic => exact absurd rfl hx.1
  | err e => exact ⟨nofun, fun _ _ h => (nomatch h)⟩
  | ok found =>
    cases found with
    | final a => exact ⟨nofun, fun found b h hanswer => hx.2 found b h hanswer⟩
    | best best => exact hrest best fun b hb => hx.2 _ b rfl hb

/-- **A search is safe** if its steps are and all items have the property. -/
theorem search_safe {step : Option α → α → Outcome ε (Found α)} {P : α → Prop}
    (hstep : SafeStep step P) {items : List α} (hitems : ∀ a ∈ items, P a) {best : Option α}
    (hbest : ∀ b, best = some b → P b) : SafeFound P (search step best items) := by
  induction items generalizing best with
  | nil =>
    refine ⟨nofun, fun found b h hanswer => ?_⟩
    cases h
    exact hbest b hanswer
  | cons a items ih =>
    obtain ⟨ha, hitems⟩ := List.forall_mem_cons.mp hitems
    exact (hstep best a hbest ha).bind fun best hbest => ih hitems hbest

theorem searchGroups_safe {step : Option α → α → Outcome ε (Found α)}
    {fetch : γ → Outcome ε (List α)} {P : α → Prop} (hstep : SafeStep step P) {gs : List γ}
    (hfetch : ∀ g ∈ gs, fetch g ≠ .panic)
    (hitems : ∀ g ∈ gs, ∀ items, fetch g = .ok items → ∀ a ∈ items, P a) {best : Option α}
    (hbest : ∀ b, best = some b → P b) : SafeFound P (searchGroups step fetch best gs) := by
  induction gs generalizing best with
  | nil =>
    refine ⟨nofun, fun found b h hanswer => ?_⟩
    cases h
    exact hbest b hanswer
  | cons g gs ih =>
    obtain ⟨hfetch, hfetchAll⟩ := List.forall_mem_cons.mp hfetch
    obtain ⟨hg, hgs⟩ := List.forall_mem_cons.mp hitems
    rw [searchGroups]
    cases hx : fetch g with
    | panic => exact absurd hx hfetch
    | err e => exact ⟨nofun, fun _ _ h => (nomatch h)⟩
    | ok items =>
      exact (search_safe hstep (hg items hx) hbest).bind fun best hbest =>
        ih hfetchAll hgs hbest

/-! ## What a search finds: a preferred item, or one of the highest rank -/

/-- What one step of the search is to do with the items of a list. -/
structure SearchRule [LinearOrder β] (step : Option α → α → Outcome ε (Found α))
    (items : List α) (sufficient preferred : α → Prop) (rank : α → β) : Prop where
  skip : ∀ best, ∀ a ∈ items, ¬ sufficient a → step best a = .ok (.best best)
  stop : ∀ best, ∀ a ∈ items, sufficient a → preferred a → step best a = .ok (.final a)
  first : ∀ a ∈ items, sufficient a → ¬ preferred a → step none a = .ok (.best (some a))
  keep : ∀ b ∈ items, ∀ a ∈ items, sufficient a → ¬ preferred a → rank a ≤ rank b →
    step (some b) a = .ok (.best (some b))
  replace : ∀ b ∈ items, ∀ a ∈ items, sufficient a → ¬ preferred a → rank b < rank a →
    step (some b) a = .ok (.best (some a))

/-- The best of the items seen: none if none suffices, else one of the highest rank among those
    that do. -/
def IsBest [LinearOrder β] (seen : List α) (sufficient : α → Prop) (rank : α → β) :
    Option α → Prop
  | none => ∀ a ∈ seen, ¬ sufficient a
  | some b => b ∈ seen ∧ sufficient b ∧ ∀ a ∈ seen, sufficient a → rank a ≤ rank b

variable [LinearOrder β] {step : Option α → α → Outcome ε (Found α)} {items : List α}
  {sufficient preferred : α → Prop} {rank : α → β}

/-- **One step keeps the best item**, or stops at a preferred one. The cases are those of the
    rule: the item does not suffice, is preferred, is better, or is not. -/
theorem SearchRule.step_spec (h : SearchRule step items sufficient preferred rank)
    {seen : List α} {best : Option α} {a : α} (hseen : seen ⊆ items) (ha : a ∈ items)
    (hbest : IsBest seen sufficient rank best) :
    (sufficient a ∧ preferred a ∧ step best a = .ok (.final a)) ∨
      ¬ (sufficient a ∧ preferred a) ∧
        ∃ best', step best a = .ok (.best best') ∧ IsBest (seen ++ [a]) sufficient rank best' := by
  by_cases hsufficient : sufficient a
  · by_cases hpreferred : preferred a
    · exact Or.inl ⟨hsufficient, hpreferred, h.stop best a ha hsufficient hpreferred⟩
    refine Or.inr ⟨fun hboth => hpreferred hboth.2, ?_⟩
    cases best with
    | none =>
      -- the first item that suffices is the best so far
      refine ⟨some a, h.first a ha hsufficient hpreferred, by simp, hsufficient,
        fun c hc hsc => ?_⟩
      rcases List.mem_append.mp hc with hc | hc
      · exact absurd hsc (hbest c hc)
      · exact (List.mem_singleton.mp hc ▸ le_refl _ : rank c ≤ rank a)
    | some b =>
      -- of two that suffice, the higher one
      obtain ⟨hb, hsb, hmax⟩ := hbest
      rcases le_or_gt (rank a) (rank b) with hle | hlt
      · refine ⟨some b, h.keep b (hseen hb) a ha hsufficient hpreferred hle,
          List.mem_append_left _ hb, hsb, fun c hc hsc => ?_⟩
        rcases List.mem_append.mp hc with hc | hc
        · exact hmax c hc hsc
        · exact (List.mem_singleton.mp hc ▸ hle : rank c ≤ rank b)
      · refine ⟨some a, h.replace b (hseen hb) a ha hsufficient hpreferred hlt, by simp,
          hsufficient, fun c hc hsc => ?_⟩
        rcases List.mem_append.mp hc with hc | hc
        · exact le_trans (hmax c hc hsc) (le_of_lt hlt)
        · exact (List.mem_singleton.mp hc ▸ le_refl _ : rank c ≤ rank a)
  · -- an item that does not suffice changes nothing
    refine Or.inr ⟨fun hboth => hsufficient hboth.1, best, h.skip best a ha hsufficient, ?_⟩
    cases best with
    | none =>
      intro c hc
      rcases List.mem_append.mp hc with hc | hc
      · exact hbest c hc
      · exact List.mem_singleton.mp hc ▸ hsufficient
    | some b =>
      refine ⟨List.mem_append_left _ hbest.1, hbest.2.1, fun c hc hsc => ?_⟩
      rcases List.mem_append.mp hc with hc | hc
      · exact hbest.2.2 c hc hsc
      · exact absurd (List.mem_singleton.mp hc ▸ hsc) hsufficient

/-- The search from the middle of the list on. -/
theorem SearchRule.search_from (h : SearchRule step items sufficient preferred rank)
    (rest : List α) : ∀ {seen : List α} {best : Option α}, items = seen ++ rest →
      IsBest seen sufficient rank best → (∀ a ∈ seen, sufficient a → ¬ preferred a) →
      (∃ a ∈ items, sufficient a ∧ preferred a ∧ search step best rest = .ok (.final a)) ∨
        (∀ a ∈ items, sufficient a → ¬ preferred a) ∧
          ∃ best', search step best rest = .ok (.best best') ∧
            IsBest items sufficient rank best' := by
  induction rest with
  | nil =>
    intro seen best hitems hbest hnone
    rw [List.append_nil] at hitems
    exact Or.inr ⟨hitems ▸ hnone, best, rfl, hitems ▸ hbest⟩
  | cons a rest ih =>
    intro seen best hitems hbest hnone
    have hseen : seen ⊆ items := fun c hc => hitems ▸ List.mem_append_left _ hc
    have ha : a ∈ items := hitems ▸ List.mem_append_right _ (List.mem_cons_self ..)
    rw [search]
    rcases h.step_spec hseen ha hbest with ⟨hsa, hpa, hstep⟩ | ⟨hnot, best', hstep, hbest'⟩
    · exact Or.inl ⟨a, ha, hsa, hpa, by rw [hstep]; rfl⟩
    · have hsplit : items = (seen ++ [a]) ++ rest := by
        rw [hitems, List.append_assoc, List.singleton_append]
      rw [hstep, Outcome.ok_bind]
      refine ih hsplit hbest' fun c hc hsc hpc => ?_
      rcases List.mem_append.mp hc with hc | hc
      · exact hnone c hc hsc hpc
      · obtain rfl := List.mem_singleton.mp hc
        exact hnot ⟨hsc, hpc⟩

/-- **What a search finds**: nothing only if no item suffices, a preferred item if there is one,
    and otherwise one of the highest rank. -/
theorem SearchRule.search_spec (h : SearchRule step items sufficient preferred rank) :
    ∃ found, search step none items = .ok found ∧
      (found.answer = none ↔ ∀ a ∈ items, ¬ sufficient a) ∧
      ∀ a, found.answer = some a → a ∈ items ∧ sufficient a ∧
        ((∃ b ∈ items, sufficient b ∧ preferred b) → preferred a) ∧
        ((∀ b ∈ items, sufficient b → ¬ preferred b) →
          ∀ b ∈ items, sufficient b → rank b ≤ rank a) := by
  have hstart : items = [] ++ items := rfl
  have hbest : IsBest [] sufficient rank none := fun a ha => by cases ha
  rcases h.search_from items hstart hbest (fun a ha => by cases ha) with
    ⟨a, ha, hsa, hpa, hfinal⟩ | ⟨hnone, best, hbest, hisBest⟩
  · refine ⟨.final a, hfinal, ?_, fun b hb => ?_⟩
    · exact iff_of_false (fun heq => Option.some_ne_none a heq) (fun hall => hall a ha hsa)
    · cases hb
      exact ⟨ha, hsa, fun _ => hpa, fun hall => absurd hpa (hall a ha hsa)⟩
  · refine ⟨.best best, hbest, ?_, fun b hb => ?_⟩
    · cases best with
      | none => exact iff_of_true rfl hisBest
      | some b =>
        exact iff_of_false (fun heq => Option.some_ne_none b heq)
          (fun hall => hall b hisBest.1 hisBest.2.1)
    · obtain rfl : best = some b := hb
      obtain ⟨hb, hsb, hmax⟩ := hisBest
      refine ⟨hb, hsb, ?_, fun _ => hmax⟩
      rintro ⟨c, hc, hsc, hpc⟩
      exact absurd hpc (hnone c hc hsc)

end Search
