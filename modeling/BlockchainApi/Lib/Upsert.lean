/-
  Lists that are updated in place, or extended.

  A request updates an item that it covers, if there is one, and appends a new item otherwise.
  Requests and items have keys; a request covers items of its key only, but it need not cover each
  of them.  `Rules` holds what updating and appending may do, and what they keep: an update keeps
  the key of an item, and a new item has the key of its request.  A `Step` is one request, a `Run` a
  list of them; both are relations, so a list that is updated by any method is covered.

  1. **Places.** `Run.getElem?_of_ne`, `Run.exists_key`: a run leaves the items of other keys where
     they are, as they are, and appends items of the keys it was asked for.

  2. **One key.** `Run.own`: the items of one key go their own way, under the requests of that key.
     So a question about one key is a question about a list of items that all have it.

  3. **One item.** `Run.length_singleton_iff`, `Run.exists_appends`: a run leaves one item where
     there was one if and only if all requests cover it; where there was none, the first request
     appends one.

  4. **What it holds then.** `Run.touched`: that item was written by a request of the key.
-/
import Mathlib.Data.List.Basic

namespace Upsert

/-- What requests do to items. Covering is decided by the item as it is now, so an update may
    change what the next request covers. -/
structure Rules (B R κ : Type) where
  keyOf : B → κ
  key : R → κ
  Covers : R → B → Prop
  /-- The request turns the first item into the second. -/
  Updates : R → B → B → Prop
  /-- The request appends this item. -/
  Appends : R → B → Prop
  keyOf_of_covers : ∀ {r b}, Covers r b → keyOf b = key r
  keyOf_of_updates : ∀ {r b b'}, Updates r b b' → keyOf b' = keyOf b
  covers_of_updates : ∀ {r r' b b'}, Updates r b b' → (Covers r' b' ↔ Covers r' b)
  keyOf_of_appends : ∀ {r b}, Appends r b → keyOf b = key r

variable {B R κ : Type} (rules : Rules B R κ)

/-- One request. -/
inductive Step : List B → R → List B → Prop
  | update {before after : List B} {b b' : B} {r : R} : rules.Covers r b → rules.Updates r b b' →
      Step (before ++ b :: after) r (before ++ b' :: after)
  | append {items : List B} {b : B} {r : R} : (∀ c ∈ items, ¬ rules.Covers r c) →
      rules.Appends r b → Step items r (items ++ [b])

/-- The requests one after the other. -/
inductive Run : List B → List R → List B → Prop
  | nil {items : List B} : Run items [] items
  | cons {items items' items'' : List B} {r : R} {rs : List R} : Step rules items r items' →
      Run items' rs items'' → Run items (r :: rs) items''

variable {rules} {items items' : List B} {r : R} {rs : List R} {b : B} {i : ℕ} {k : κ}

/-! ## Places: an item that is there stays where it is -/

theorem Step.length_le (h : Step rules items r items') : items.length ≤ items'.length := by
  cases h with
  | update => simp
  | append => simp

theorem Run.length_le (h : Run rules items rs items') : items.length ≤ items'.length := by
  induction h with
  | nil => exact Nat.le_refl _
  | cons hstep _ ih => exact Nat.le_trans hstep.length_le ih

/-- An item keeps its place and what updates keep, and stays as it is if the request has another
    key. -/
theorem Step.getElem?_eq {α : Type} (f : B → α)
    (hf : ∀ {r b b'}, rules.Updates r b b' → f b' = f b) (h : Step rules items r items')
    (hb : items[i]? = some b) :
    ∃ b', items'[i]? = some b' ∧ f b' = f b ∧ (rules.keyOf b ≠ rules.key r → b' = b) := by
  cases h with
  | @update before after c c' _ hcovers hupdates =>
    rcases Nat.lt_trichotomy i before.length with hlt | rfl | hgt
    · rw [List.getElem?_append_left hlt] at hb ⊢
      exact ⟨b, hb, rfl, fun _ => rfl⟩
    · rw [List.getElem?_append_right (Nat.le_refl _), Nat.sub_self, List.getElem?_cons_zero] at hb ⊢
      obtain rfl := Option.some.inj hb
      exact ⟨c', rfl, hf hupdates, fun hne =>
        absurd (rules.keyOf_of_covers hcovers) hne⟩
    · obtain ⟨j, hj⟩ := Nat.exists_eq_add_of_lt hgt
      have hj : i - before.length = j + 1 := by omega
      rw [List.getElem?_append_right (Nat.le_of_lt hgt), hj, List.getElem?_cons_succ] at hb ⊢
      exact ⟨b, hb, rfl, fun _ => rfl⟩
  | append _ _ =>
    have hlt := (List.getElem?_eq_some_iff.mp hb).1
    rw [List.getElem?_append_left hlt]
    exact ⟨b, hb, rfl, fun _ => rfl⟩

/-- An item keeps its place and what updates keep. -/
theorem Run.getElem?_eq {α : Type} (f : B → α)
    (hf : ∀ {r b b'}, rules.Updates r b b' → f b' = f b) (h : Run rules items rs items')
    (hb : items[i]? = some b) : ∃ b', items'[i]? = some b' ∧ f b' = f b := by
  induction h generalizing b with
  | nil => exact ⟨b, hb, rfl⟩
  | cons hstep _ ih =>
    obtain ⟨b₁, hb₁, heq₁, -⟩ := hstep.getElem?_eq f hf hb
    obtain ⟨b₂, hb₂, heq₂⟩ := ih hb₁
    exact ⟨b₂, hb₂, heq₂.trans heq₁⟩

/-- **The items of other keys stay where they are**, and as they are: an update keeps the places,
    and what is appended comes last. -/
theorem Run.getElem?_of_ne (h : Run rules items rs items') (hb : items[i]? = some b)
    (hne : ∀ r ∈ rs, rules.keyOf b ≠ rules.key r) : items'[i]? = some b := by
  induction h with
  | nil => exact hb
  | cons hstep _ ih =>
    obtain ⟨hfirst, hrest⟩ := List.forall_mem_cons.mp hne
    obtain ⟨b₁, hb₁, -, heq⟩ := hstep.getElem?_eq rules.keyOf rules.keyOf_of_updates hb
    rw [heq hfirst] at hb₁
    exact ih hb₁ hrest

/-- **What is appended** has the key of a request. -/
theorem Run.exists_key (h : Run rules items rs items') (hi : items.length ≤ i)
    (hb : items'[i]? = some b) : ∃ r ∈ rs, rules.keyOf b = rules.key r := by
  induction h with
  | nil =>
    rw [List.getElem?_eq_none hi] at hb
    cases hb
  | @cons items items₁ _ r rs hstep hrun ih =>
    by_cases hi₁ : items₁.length ≤ i
    · obtain ⟨r', hr', hkey⟩ := ih hi₁ hb
      exact ⟨r', List.mem_cons_of_mem _ hr', hkey⟩
    · cases hstep with
      | update =>
        rw [List.length_append, List.length_cons] at hi hi₁
        exact absurd hi hi₁
      | @append _ c _ _ happends =>
        rw [List.length_append, List.length_singleton] at hi₁
        have hlast : (items ++ [c])[i]? = some c := by
          rw [show i = items.length by omega, List.getElem?_concat_length]
        obtain ⟨b', hb', hkey⟩ := hrun.getElem?_eq rules.keyOf rules.keyOf_of_updates hlast
        obtain rfl := Option.some.inj (hb'.symm.trans hb)
        exact ⟨r, List.mem_cons_self, hkey.trans (rules.keyOf_of_appends happends)⟩

/-! ## The items of one key, among themselves -/

/-- The items of a key. -/
def own [DecidableEq κ] (rules : Rules B R κ) (k : κ) (items : List B) : List B :=
  items.filter fun b => rules.keyOf b = k

variable [DecidableEq κ]

/-- A request of another key leaves them alone, and one of this key treats them as all items: it
    covers none of the others. -/
theorem Step.own (h : Step rules items r items') (k : κ) :
    (rules.key r = k → Step rules (own rules k items) r (own rules k items')) ∧
      (rules.key r ≠ k → own rules k items' = own rules k items) := by
  unfold Upsert.own
  cases h with
  | @update before after b b' _ hcovers hupdates =>
    have hb : rules.keyOf b = rules.key r := rules.keyOf_of_covers hcovers
    have hb' : rules.keyOf b' = rules.key r := (rules.keyOf_of_updates hupdates).trans hb
    constructor
    · intro hk
      rw [List.filter_append, List.filter_append, List.filter_cons_of_pos (by simp [hb, hk]),
        List.filter_cons_of_pos (by simp [hb', hk])]
      exact .update hcovers hupdates
    · intro hk
      rw [List.filter_append, List.filter_append, List.filter_cons_of_neg (by simp [hb', hk]),
        List.filter_cons_of_neg (by simp [hb, hk])]
  | @append _ b _ hnone happends =>
    have hb : rules.keyOf b = rules.key r := rules.keyOf_of_appends happends
    constructor
    · intro hk
      rw [List.filter_append, List.filter_cons_of_pos (by simp [hb, hk]), List.filter_nil]
      exact .append (fun c hc => hnone c (List.mem_filter.mp hc).1) happends
    · intro hk
      rw [List.filter_append, List.filter_cons_of_neg (by simp [hb, hk]), List.filter_nil,
        List.append_nil]

/-- **The items of a key go their own way**, under the requests of that key. Induction on the
    run. -/
theorem Run.own (h : Run rules items rs items') (k : κ) :
    Run rules (own rules k items) (rs.filter fun r => rules.key r = k)
      (own rules k items') := by
  induction h with
  | nil => exact .nil
  | @cons _ _ _ r rs hstep _ ih =>
    obtain ⟨hsame, hother⟩ := hstep.own k
    by_cases hk : rules.key r = k
    · rw [List.filter_cons_of_pos (by simp [hk])]
      exact .cons (hsame hk) ih
    · rw [List.filter_cons_of_neg (by simp [hk]), ← hother hk]
      exact ih

/-! ## One item: when a run neither loses nor doubles it -/

omit [DecidableEq κ] in
/-- **One item stays the only one** if and only if all requests cover it. The first request that
    does not cover it appends a second one, and no request ever takes an item away. -/
theorem Run.length_singleton_iff (h : Run rules [b] rs items') :
    items'.length = 1 ↔ ∀ r ∈ rs, rules.Covers r b := by
  induction rs generalizing b with
  | nil =>
    cases h
    simp
  | cons r rs ih =>
    cases h with
    | cons hstep hrun =>
      generalize hitems : [b] = items at hstep
      cases hstep with
      | @update before after c c' _ hcovers hupdates =>
        obtain ⟨rfl, hrest⟩ : before = [] ∧ [b] = c :: after := by
          cases before with
          | nil => exact ⟨rfl, hitems⟩
          | cons x before => simp at hitems
        obtain ⟨rfl, rfl⟩ := List.cons.inj hrest
        rw [List.nil_append] at hrun
        rw [ih hrun, List.forall_mem_cons]
        simp only [rules.covers_of_updates hupdates, hcovers, true_and]
      | append hnone _ =>
        subst hitems
        refine iff_of_false (fun hone => ?_) fun hall => ?_
        · have hle := hrun.length_le
          rw [hone] at hle
          exact absurd hle (by simp)
        · exact hnone b (List.mem_singleton_self b) (hall r List.mem_cons_self)

omit [DecidableEq κ] in
/-- Where there is no item, the first request appends one. -/
theorem Run.exists_appends (h : Run rules [] (r :: rs) items') :
    ∃ b, rules.Appends r b ∧ Run rules [b] rs items' := by
  cases h with
  | cons hstep hrun =>
    generalize hitems : [] = items at hstep
    cases hstep with
    | update => simp at hitems
    | @append _ b _ _ happends =>
      subst hitems
      exact ⟨b, happends, hrun⟩

omit [DecidableEq κ] in
/-- One item that requests have left was written by one of them. -/
theorem Run.touched (h : Run rules items rs items') (hne : rs ≠ []) (hone : items'.length = 1) :
    ∃ r ∈ rs, ∃ b', items' = [b'] ∧ ((∃ b, rules.Updates r b b') ∨ rules.Appends r b') := by
  induction h with
  | nil => exact absurd rfl hne
  | @cons items items₁ items' r rs hstep hrun ih =>
    by_cases hrs : rs = []
    · subst hrs
      cases hrun
      cases hstep with
      | @update before after b b' _ _ hupdates =>
        rw [List.length_append, List.length_cons] at hone
        obtain rfl := List.length_eq_zero_iff.mp (show before.length = 0 by omega)
        obtain rfl := List.length_eq_zero_iff.mp (show after.length = 0 by omega)
        exact ⟨r, List.mem_cons_self, b', rfl, .inl ⟨b, hupdates⟩⟩
      | @append _ b _ _ happends =>
        rw [List.length_append, List.length_singleton] at hone
        obtain rfl := List.length_eq_zero_iff.mp (show items.length = 0 by omega)
        exact ⟨r, List.mem_cons_self, b, rfl, .inr happends⟩
    · obtain ⟨r', hr', hb'⟩ := ih hrs hone
      exact ⟨r', List.mem_cons_of_mem _ hr', hb'⟩

end Upsert
