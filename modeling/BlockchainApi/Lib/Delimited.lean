/-
  Texts with a separator: splitting them, and when the parts determine the text.

  `splitn` cuts at most `n - 1` times and leaves the separators behind the last cut alone, as the
  function of that name does in several standard libraries; `List.splitOn` cuts everywhere, and
  `splitOnce` cuts once, at a separator of any length.  All are about lists over any type.

  1. **What is proved of each** is the same: the parts of a split are exactly the texts without
     separator whose join is the text (`splitn_eq_cons_cons_iff`, `splitOn_eq_pair_iff`,
     `splitOn_eq_triple_iff`).  So a text that was joined from such parts is taken apart into them
     again, and two lists of parts with one join are the same.  The proofs cut at the first
     separator and go on with the rest.

  2. **How many parts there are** (`splitn_two_cases`, `splitn_three_cases`): a case for each
     number, with the parts named, for readers that accept one number of parts only.

  3. **One part.** `Run p least most s` is its grammar: so many elements, all of a class.  It is
     what an anchored pattern `^[…]{least,most}$` accepts (`matchesRun_iff`).  A run of a class
     without the separator can be joined and split again.
-/
import Mathlib.Data.List.TakeWhile

namespace Delimited

variable {α : Type} [DecidableEq α] {sep : α} {s a b c rest : List α}

/-! ## Cutting a bounded number of times: the last part keeps the separators that are left -/

/-- `splitn`: at most that many parts, the last of which keeps the separators that are left. -/
def splitn (sep : α) : Nat → List α → List (List α)
  | 0, _ => []
  | 1, s => [s]
  | n + 2, s =>
    match s.dropWhile (· ≠ sep) with
    | [] => [s]
    | _ :: rest => s.takeWhile (· ≠ sep) :: splitn sep (n + 1) rest

@[simp] theorem splitn_one : splitn sep 1 s = [s] := rfl

theorem takeWhile_append_cons (h : sep ∉ a) : (a ++ sep :: rest).takeWhile (· ≠ sep) = a := by
  induction a with
  | nil => simp
  | cons x a ih =>
    obtain ⟨hx, ha⟩ := List.ne_and_not_mem_of_not_mem_cons h
    rw [List.cons_append, List.takeWhile_cons_of_pos (by simpa using hx.symm), ih ha]

theorem dropWhile_append_cons (h : sep ∉ a) :
    (a ++ sep :: rest).dropWhile (· ≠ sep) = sep :: rest := by
  induction a with
  | nil => simp
  | cons x a ih =>
    obtain ⟨hx, ha⟩ := List.ne_and_not_mem_of_not_mem_cons h
    rw [List.cons_append, List.dropWhile_cons_of_pos (by simpa using hx.symm), ih ha]

/-- The first separator is where the first part ends. -/
theorem splitn_append_cons (h : sep ∉ a) (n : Nat) :
    splitn sep (n + 2) (a ++ sep :: rest) = a :: splitn sep (n + 1) rest := by
  rw [splitn, dropWhile_append_cons h, takeWhile_append_cons h]

/-- Without a separator there is one part. -/
theorem splitn_of_notMem (h : sep ∉ s) (n : Nat) : splitn sep (n + 1) s = [s] := by
  cases n with
  | zero => rfl
  | succ n =>
    have hdrop : s.dropWhile (· ≠ sep) = [] := by
      rw [List.dropWhile_eq_nil_iff]
      intro x hx
      simpa using fun heq : x = sep => h (heq ▸ hx)
    rw [splitn, hdrop]

/-- **The first cut**: the first part has no separator, and what is behind it is cut further.
    With this the statements about two and three parts are unfoldings. -/
theorem splitn_eq_cons_cons_iff {n : Nat} {parts : List (List α)} :
    splitn sep (n + 2) s = a :: b :: parts ↔
      sep ∉ a ∧ ∃ rest, s = a ++ sep :: rest ∧ splitn sep (n + 1) rest = b :: parts := by
  constructor
  · intro h
    by_cases hs : sep ∈ s
    · obtain ⟨x, rest, rfl, hx⟩ := List.eq_append_cons_of_mem hs
      rw [splitn_append_cons hx] at h
      obtain ⟨rfl, hparts⟩ := List.cons.inj h
      exact ⟨hx, rest, rfl, hparts⟩
    · rw [splitn_of_notMem hs] at h
      cases h
  · rintro ⟨ha, rest, rfl, h⟩
    rw [splitn_append_cons ha, h]

theorem splitn_two_eq_pair_iff : splitn sep 2 s = [a, b] ↔ sep ∉ a ∧ s = a ++ sep :: b := by
  rw [splitn_eq_cons_cons_iff]
  simp only [Nat.zero_add, splitn_one, List.cons.injEq, and_true, exists_eq_right]

theorem splitn_three_eq_triple_iff :
    splitn sep 3 s = [a, b, c] ↔ sep ∉ a ∧ sep ∉ b ∧ s = a ++ sep :: (b ++ sep :: c) := by
  rw [splitn_eq_cons_cons_iff]
  constructor
  · rintro ⟨ha, rest, rfl, hrest⟩
    obtain ⟨hb, rfl⟩ := splitn_two_eq_pair_iff.mp hrest
    exact ⟨ha, hb, rfl⟩
  · rintro ⟨ha, hb, rfl⟩
    exact ⟨ha, _, rfl, splitn_two_eq_pair_iff.mpr ⟨hb, rfl⟩⟩

/-- At most two parts: one, or two. -/
theorem splitn_two_cases (sep : α) (s : List α) :
    sep ∉ s ∧ splitn sep 2 s = [s] ∨
      ∃ a b, sep ∉ a ∧ s = a ++ sep :: b ∧ splitn sep 2 s = [a, b] := by
  by_cases h : sep ∈ s
  · obtain ⟨a, b, rfl, ha⟩ := List.eq_append_cons_of_mem h
    exact .inr ⟨a, b, ha, rfl, splitn_two_eq_pair_iff.mpr ⟨ha, rfl⟩⟩
  · exact .inl ⟨h, splitn_of_notMem h 1⟩

/-- At most three parts: one, two or three. -/
theorem splitn_three_cases (sep : α) (s : List α) :
    splitn sep 3 s = [s] ∨ (∃ a b, splitn sep 3 s = [a, b]) ∨
      ∃ a b c, s = a ++ sep :: (b ++ sep :: c) ∧ splitn sep 3 s = [a, b, c] := by
  by_cases h : sep ∈ s
  · obtain ⟨a, rest, rfl, ha⟩ := List.eq_append_cons_of_mem h
    rw [splitn_append_cons ha]
    obtain ⟨-, hrest⟩ | ⟨b, c, -, rfl, hrest⟩ := splitn_two_cases sep rest
    · exact .inr (.inl ⟨a, rest, by rw [hrest]⟩)
    · exact .inr (.inr ⟨a, b, c, rfl, by rw [hrest]⟩)
  · exact .inl (splitn_of_notMem h 2)

/-! ## Cutting everywhere: the number of parts is one more than that of the separators -/

theorem splitOn_eq_singleton_iff : s.splitOn sep = [a] ↔ sep ∉ s ∧ s = a := by
  constructor
  · intro h
    by_cases hs : sep ∈ s
    · obtain ⟨x, rest, rfl, hx⟩ := List.eq_append_cons_of_mem hs
      rw [List.splitOn_append_cons_self_of_not_mem hx] at h
      exact absurd (List.cons.inj h).2 (List.splitOn_ne_nil _ _)
    · rw [List.splitOn_eq_singleton hs] at h
      exact ⟨hs, (List.cons.inj h).1⟩
  · rintro ⟨hs, rfl⟩
    exact List.splitOn_eq_singleton hs

/-- **The first cut** of a text that is cut everywhere. -/
theorem splitOn_eq_cons_cons_iff {parts : List (List α)} :
    s.splitOn sep = a :: b :: parts ↔
      sep ∉ a ∧ ∃ rest, s = a ++ sep :: rest ∧ rest.splitOn sep = b :: parts := by
  constructor
  · intro h
    by_cases hs : sep ∈ s
    · obtain ⟨x, rest, rfl, hx⟩ := List.eq_append_cons_of_mem hs
      rw [List.splitOn_append_cons_self_of_not_mem hx] at h
      obtain ⟨rfl, hparts⟩ := List.cons.inj h
      exact ⟨hx, rest, rfl, hparts⟩
    · rw [List.splitOn_eq_singleton hs] at h
      cases h
  · rintro ⟨ha, rest, rfl, h⟩
    rw [List.splitOn_append_cons_self_of_not_mem ha, h]

theorem splitOn_eq_pair_iff :
    s.splitOn sep = [a, b] ↔ sep ∉ a ∧ sep ∉ b ∧ s = a ++ sep :: b := by
  rw [splitOn_eq_cons_cons_iff]
  simp only [splitOn_eq_singleton_iff]
  constructor
  · rintro ⟨ha, rest, rfl, hb, rfl⟩
    exact ⟨ha, hb, rfl⟩
  · rintro ⟨ha, hb, rfl⟩
    exact ⟨ha, _, rfl, hb, rfl⟩

theorem splitOn_eq_triple_iff :
    s.splitOn sep = [a, b, c] ↔
      sep ∉ a ∧ sep ∉ b ∧ sep ∉ c ∧ s = a ++ sep :: (b ++ sep :: c) := by
  rw [splitOn_eq_cons_cons_iff]
  simp only [splitOn_eq_pair_iff]
  constructor
  · rintro ⟨ha, rest, rfl, hb, hc, rfl⟩
    exact ⟨ha, hb, hc, rfl⟩
  · rintro ⟨ha, hb, hc, rfl⟩
    exact ⟨ha, _, rfl, hb, hc, rfl⟩

/-! ## Cutting once at a text, which may be longer than one element -/

/-- `split_once`: what is in front of the first occurrence of the text, and what is behind it.
    The second part may contain the text again. -/
def splitOnce (pat : List α) : List α → Option (List α × List α)
  | [] => if pat = [] then some ([], []) else none
  | x :: s =>
    if pat.isPrefixOf (x :: s) then some ([], (x :: s).drop pat.length)
    else (splitOnce pat s).map fun p => (x :: p.1, p.2)

/-- The text stands between the two parts. -/
theorem eq_of_splitOnce {pat : List α} : ∀ {s a b : List α}, splitOnce pat s = some (a, b) →
    s = a ++ (pat ++ b) := by
  intro s
  induction s with
  | nil =>
    intro a b h
    rw [splitOnce] at h
    split at h
    · rename_i hpat
      cases h
      rw [hpat]
      rfl
    · cases h
  | cons x s ih =>
    intro a b h
    rw [splitOnce] at h
    split at h
    · rename_i hprefix
      cases h
      exact (List.prefix_iff_eq_append.mp (List.isPrefixOf_iff_prefix.mp hprefix)).symm
    · obtain ⟨⟨a', b'⟩, hrest, heq⟩ := Option.map_eq_some_iff.mp h
      cases heq
      rw [ih hrest]
      rfl

/-- What has not even the first element of the text in it is the first part: no occurrence can
    begin inside of it. -/
theorem splitOnce_append {x : α} (pat b : List α) (h : x ∉ a) :
    splitOnce (x :: pat) (a ++ (x :: pat ++ b)) = some (a, b) := by
  induction a with
  | nil =>
    have hprefix : (x :: pat).isPrefixOf (x :: (pat ++ b)) = true :=
      List.isPrefixOf_iff_prefix.mpr ⟨b, rfl⟩
    rw [List.nil_append, List.cons_append, splitOnce, if_pos hprefix, List.length_cons,
      List.drop_succ_cons, List.drop_left]
  | cons y a ih =>
    obtain ⟨hy, ha⟩ := List.ne_and_not_mem_of_not_mem_cons h
    have hprefix : ¬ (x :: pat).isPrefixOf (y :: (a ++ (x :: pat ++ b))) = true := by
      rw [List.isPrefixOf_iff_prefix]
      exact fun hpre => hy (List.cons_prefix_cons.mp hpre).1
    rw [List.cons_append, splitOnce, if_neg hprefix, ih ha]
    rfl

/-- There is no occurrence. -/
theorem splitOnce_eq_none_iff {x : α} {pat : List α} :
    splitOnce (x :: pat) s = none ↔ ¬ x :: pat <:+: s := by
  induction s with
  | nil => simp [splitOnce]
  | cons y s ih =>
    rw [splitOnce, List.infix_cons_iff, not_or]
    by_cases hprefix : (x :: pat).isPrefixOf (y :: s) = true
    · rw [if_pos hprefix]
      simp [List.isPrefixOf_iff_prefix.mp hprefix]
    · rw [if_neg hprefix, Option.map_eq_none_iff, ih, ← List.isPrefixOf_iff_prefix]
      exact (and_iff_right hprefix).symm

/-- At one element, the first part does not have it. -/
theorem splitOnce_singleton_eq_some_iff :
    splitOnce [sep] s = some (a, b) ↔ sep ∉ a ∧ s = a ++ sep :: b := by
  constructor
  · intro h
    have hs := eq_of_splitOnce h
    refine ⟨fun hmem => ?_, hs⟩
    -- an earlier occurrence would have been the first
    obtain ⟨c, d, rfl, hc⟩ := List.eq_append_cons_of_mem hmem
    have hearlier := splitOnce_append [] (d ++ sep :: b) hc
    rw [hs, List.append_assoc, List.cons_append] at h
    have hsame := (Prod.mk.inj (Option.some.inj (h.symm.trans hearlier))).1
    exact absurd (List.append_right_eq_self.mp hsame) (List.cons_ne_nil _ _)
  · rintro ⟨ha, rfl⟩
    exact splitOnce_append [] b ha

/-! ## One part: so many elements of a class -/

/-- An anchored pattern of one class, `^[…]{least,most}$`. -/
def matchesRun (p : α → Bool) (least most : Nat) (s : List α) : Bool :=
  least ≤ s.length && s.length ≤ most && s.all p

/-- From `least` to `most` elements, all with the property. -/
structure Run (P : α → Prop) (least most : Nat) (s : List α) : Prop where
  least_le : least ≤ s.length
  le_most : s.length ≤ most
  all : ∀ x ∈ s, P x

omit [DecidableEq α] in
/-- An anchored pattern of one class accepts exactly the runs. -/
theorem matchesRun_iff {p : α → Bool} {P : α → Prop} (h : ∀ x, p x = true ↔ P x)
    {least most : Nat} : matchesRun p least most s = true ↔ Run P least most s := by
  simp only [matchesRun, Bool.and_eq_true, decide_eq_true_eq, List.all_eq_true, h]
  exact ⟨fun h => ⟨h.1.1, h.1.2, h.2⟩, fun h => ⟨⟨h.least_le, h.le_most⟩, h.all⟩⟩

omit [DecidableEq α] in
/-- A run has no separator of another class. -/
theorem Run.notMem {P : α → Prop} {least most : Nat} (h : Run P least most s) (hsep : ¬ P sep) :
    sep ∉ s := fun hmem => hsep (h.all sep hmem)

end Delimited
