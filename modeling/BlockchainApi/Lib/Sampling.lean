/-
  Drawing without replacement from a weighted index.

  A weighted index draws an index at random, each with a chance that is proportional to its weight.
  To draw several different ones, each index drawn gets weight zero.  An index without any weight
  left cannot be, so the last draw leaves the weights as they are.

  1. **The index** (`WeightedIndex`) is a parameter; `Lawful` says what is known about it: it can be
     made of weights that are not all zero, it draws an index that has weight, and it keeps to this
     when a weight changes.  Nothing is said about chances.  `cumulative` is an index that satisfies
     the laws.

  2. **The weights after some draws** (`zeroed`): what has been drawn has weight zero, the rest has
     the weight it had.  So what has weight left has not been drawn (`not_mem_of_pos`), and some
     weight is left as long as not all has been drawn (`exists_pos_zeroed`).

  3. **The loop** (`Drawing.loop`) looks up what each index stands for.  Its invariant is `At`: some
     different indices have been drawn, and the index at hand is one for the weights after them.
     `Drawing.loop_spec`, by induction on the draws to go: it returns as many different entries as
     it is asked for, whatever the random numbers.
-/
import Mathlib.Algebra.GroupWithZero.Nat
import Mathlib.Data.List.Nodup
import Mathlib.Data.List.Perm.Subperm

namespace Sampling

variable {D R E K P ε : Type}

/-- A weighted index; `D` is a distribution and `R` what a draw takes from the random numbers. -/
structure WeightedIndex (D R E : Type) where
  new : List Nat → Except E D
  sample : D → R → Nat
  updateWeights : D → List (Nat × Nat) → Except E D

/-- **The laws**, for weights up to a bound: an index of weights that are not all zero can be made,
    draws an index that has weight, and keeps to these laws when a weight changes. -/
structure Lawful (wi : WeightedIndex D R E) (weights : D → List Nat) (bound : Nat) : Prop where
  new : ∀ ws, (∀ w ∈ ws, w ≤ bound) → (∃ w ∈ ws, 0 < w) → ∃ d, wi.new ws = .ok d ∧ weights d = ws
  sample : ∀ d r, (∃ w ∈ weights d, 0 < w) → ∃ w, (weights d)[wi.sample d r]? = some w ∧ 0 < w
  update : ∀ d i w, i < (weights d).length → (∀ x ∈ (weights d).set i w, x ≤ bound) →
    (∃ x ∈ (weights d).set i w, 0 < x) →
      ∃ d', wi.updateWeights d [(i, w)] = .ok d' ∧ weights d' = (weights d).set i w

/-! ### An index that satisfies the laws: the cumulative weights -/

/-- The index whose interval of the cumulative weights a number is in. -/
def residueIndex : List Nat → Nat → Nat
  | [], _ => 0
  | w :: ws, r => if r < w then 0 else residueIndex ws (r - w) + 1

/-- The index over the cumulative weights; a random number is reduced modulo their sum. -/
def cumulative : WeightedIndex (List Nat) Nat String where
  new ws := if ws.sum = 0 then .error "All weights are zero." else .ok ws
  sample ws r := residueIndex ws (r % ws.sum)
  updateWeights ws changes :=
    let updated := changes.foldl (fun ws change => ws.set change.1 change.2) ws
    if updated.sum = 0 then .error "All weights are zero." else .ok updated

theorem getElem?_residueIndex {ws : List Nat} {r : Nat} (h : r < ws.sum) :
    ∃ w, ws[residueIndex ws r]? = some w ∧ 0 < w := by
  induction ws generalizing r with
  | nil => exact absurd h (Nat.not_lt_zero r)
  | cons w ws ih =>
    rw [residueIndex]
    by_cases hr : r < w
    · rw [if_pos hr]
      exact ⟨w, rfl, by omega⟩
    · rw [if_neg hr, List.getElem?_cons_succ]
      rw [List.sum_cons] at h
      exact ih (by omega)

theorem lawful_cumulative (bound : Nat) : Lawful cumulative id bound where
  new ws _ hpos := ⟨ws, if_neg (Nat.ne_of_gt (List.sum_pos_iff_exists_pos_nat.mpr hpos)), rfl⟩
  sample _ r hpos :=
    getElem?_residueIndex (Nat.mod_lt r (List.sum_pos_iff_exists_pos_nat.mpr hpos))
  update d i w _ _ hpos :=
    ⟨d.set i w, if_neg (Nat.ne_of_gt (List.sum_pos_iff_exists_pos_nat.mpr hpos)), rfl⟩

/-! ## Weights after some draws: zero for what has been drawn -/

/-- The weights, zero for what has been drawn. -/
def zeroed (ws : List Nat) (drawn : List Nat) : List Nat :=
  ws.mapIdx fun i w => if i ∈ drawn then 0 else w

variable {ws drawn : List Nat} {i w bound : Nat}

theorem zeroed_nil : zeroed ws [] = ws := by
  refine List.ext_getElem? fun j => ?_
  rw [zeroed, List.getElem?_mapIdx]
  cases ws[j]? with
  | none => rfl
  | some w => rfl

theorem length_zeroed : (zeroed ws drawn).length = ws.length := List.length_mapIdx

/-- One more drawn. -/
theorem set_zeroed : (zeroed ws drawn).set i 0 = zeroed ws (i :: drawn) := by
  refine List.ext_getElem? fun j => ?_
  rw [zeroed, zeroed, List.getElem?_set, List.getElem?_mapIdx, List.getElem?_mapIdx,
    List.length_mapIdx]
  by_cases hij : i = j
  · subst hij
    rw [if_pos rfl]
    by_cases hi : i < ws.length
    · rw [if_pos hi, List.getElem?_eq_getElem hi]
      simp
    · rw [if_neg hi, List.getElem?_eq_none (Nat.le_of_not_lt hi)]
      rfl
  · rw [if_neg hij]
    congr 1
    funext w
    simp [Ne.symm hij]

/-- What has weight left has not been drawn. -/
theorem not_mem_of_pos (h : (zeroed ws drawn)[i]? = some w) (hw : 0 < w) :
    i < ws.length ∧ i ∉ drawn := by
  have hi : i < (zeroed ws drawn).length := (List.getElem?_eq_some_iff.mp h).1
  rw [length_zeroed] at hi
  refine ⟨hi, fun hmem => ?_⟩
  rw [zeroed, List.getElem?_mapIdx, List.getElem?_eq_getElem hi, Option.map_some,
    if_pos hmem] at h
  cases h
  exact absurd hw (Nat.lt_irrefl 0)

theorem zeroed_le (h : ∀ w ∈ ws, w ≤ bound) : ∀ w ∈ zeroed ws drawn, w ≤ bound := by
  intro w hw
  obtain ⟨j, hj, rfl⟩ := List.mem_mapIdx.mp hw
  split
  · exact Nat.zero_le _
  · exact h _ (List.getElem_mem hj)

/-- **Some weight is left** as long as not all has been drawn: there are more indices than have
    been drawn, and each has weight. -/
theorem exists_pos_zeroed (hpos : ∀ w ∈ ws, 0 < w) (hlt : drawn.length < ws.length) :
    ∃ w ∈ zeroed ws drawn, 0 < w := by
  -- an index that has not been drawn
  obtain ⟨j, hj, hundrawn⟩ : ∃ j, j < ws.length ∧ j ∉ drawn := by
    by_contra hall
    have hsubset : List.range ws.length ⊆ drawn := by
      intro j hj
      by_contra hundrawn
      exact hall ⟨j, List.mem_range.mp hj, hundrawn⟩
    have hlength := (List.subperm_of_subset List.nodup_range hsubset).length_le
    rw [List.length_range] at hlength
    omega
  refine ⟨ws[j], List.mem_mapIdx.mpr ⟨j, hj, if_neg hundrawn⟩, hpos _ (List.getElem_mem hj)⟩

/-! ## The loop: draw, look up, and take the weight away -/

/-- What the loop draws from, and the errors it can end with. -/
structure Drawing (D R E K P ε : Type) where
  index : WeightedIndex D R E
  /-- What the indices stand for. -/
  keys : List K
  find : K → Option P
  /-- How many entries to draw. -/
  count : Nat
  noKey : ε
  updateFailed : E → ε
  notFound : K → ε

namespace Drawing

variable (dr : Drawing D R E K P ε)

/-- Take the weight of what was drawn away, but not at the last draw: not all weights may be
    zero. -/
def withoutDrawn (i drawn : Nat) (d : D) : Except ε D :=
  if i < dr.count - 1 then (dr.index.updateWeights d [(drawn, 0)]).mapError dr.updateFailed
  else .ok d

/-- The rest of the loop, with `k` draws to go. -/
def loop (rng : Nat → R) : Nat → D → Except ε (List P)
  | 0, _ => .ok []
  | k + 1, d => do
    let i := dr.count - (k + 1)
    let drawn := dr.index.sample d (rng i)
    let key ← (dr.keys[drawn]?).elim (.error dr.noKey) .ok
    let d ← dr.withoutDrawn i drawn d
    let entry ← (dr.find key).elim (.error (dr.notFound key)) .ok
    let rest ← loop rng k d
    return entry :: rest

variable {dr} {weights : D → List Nat} {rng : Nat → R} {d : D}

/-- The loop is at a point where some indices have been drawn and `k` draws are to go: the
    indices differ, and the index at hand is one for the weights that are left. -/
structure At (dr : Drawing D R E K P ε) (weights : D → List Nat) (ws drawn : List Nat) (k : Nat)
    (d : D) : Prop where
  weights_eq : weights d = zeroed ws drawn
  nodup : drawn.Nodup
  lt : ∀ i ∈ drawn, i < ws.length
  count_eq : drawn.length + k = dr.count
  count_le : dr.count ≤ ws.length

/-- The start: nothing has been drawn. -/
theorem At.start (hweights : weights d = ws) (hcount : dr.count ≤ ws.length) :
    dr.At weights ws [] dr.count d :=
  ⟨hweights.trans zeroed_nil.symm, List.nodup_nil, fun _ hi => (by cases hi), Nat.zero_add _,
    hcount⟩

/-- **One draw** gives an index that has not been drawn, since only those have weight. -/
theorem At.sample {k : Nat} (h : dr.At weights ws drawn (k + 1) d)
    (hlaws : Lawful dr.index weights bound) (hpos : ∀ w ∈ ws, 0 < w) (r : R) :
    dr.index.sample d r < ws.length ∧ dr.index.sample d r ∉ drawn := by
  have hlt : drawn.length < ws.length := by have := h.count_eq; have := h.count_le; omega
  have hleft : ∃ w ∈ weights d, 0 < w := h.weights_eq ▸ exists_pos_zeroed hpos hlt
  obtain ⟨w, hw, hwpos⟩ := hlaws.sample d r hleft
  rw [h.weights_eq] at hw
  exact not_mem_of_pos hw hwpos

/-- **Taking the weight** of an index away, unless it is the last draw. There is another index
    with weight left, as long as one more draw is to go. -/
theorem At.update {k : Nat} (h : dr.At weights ws drawn (k + 2) d)
    (hlaws : Lawful dr.index weights bound) (hpos : ∀ w ∈ ws, 0 < w) (hle : ∀ w ∈ ws, w ≤ bound)
    (hi : i < ws.length) (hundrawn : i ∉ drawn) :
    ∃ d', dr.index.updateWeights d [(i, 0)] = .ok d' ∧
      dr.At weights ws (i :: drawn) (k + 1) d' := by
  have hcount := h.count_eq
  have hcountle := h.count_le
  have hset : (weights d).set i 0 = zeroed ws (i :: drawn) := by rw [h.weights_eq, set_zeroed]
  have hlength : (weights d).length = ws.length := by rw [h.weights_eq, length_zeroed]
  have hlt : (i :: drawn).length < ws.length := by rw [List.length_cons]; omega
  obtain ⟨d', hd', hweights⟩ := hlaws.update d i 0 (hlength.symm ▸ hi)
    (hset.symm ▸ zeroed_le hle) (hset.symm ▸ exists_pos_zeroed hpos hlt)
  refine ⟨d', hd', hweights.trans hset, List.nodup_cons.mpr ⟨hundrawn, h.nodup⟩,
    List.forall_mem_cons.mpr ⟨hi, h.lt⟩, ?_, hcountle⟩
  rw [List.length_cons]
  omega

/-- An index stands for an entry. -/
def Entry (dr : Drawing D R E K P ε) (i : Nat) (entry : P) : Prop :=
  ∃ key, dr.keys[i]? = some key ∧ dr.find key = some entry

/-- What the loop does at a draw that goes well. -/
theorem loop_succ {k drawn : Nat} {key : K} {entry : P} {d' : D} {rest : List P}
    (hdrawn : dr.index.sample d (rng (dr.count - (k + 1))) = drawn)
    (hkey : dr.keys[drawn]? = some key) (hentry : dr.find key = some entry)
    (hupdate : dr.withoutDrawn (dr.count - (k + 1)) drawn d = .ok d')
    (hrest : dr.loop rng k d' = .ok rest) : dr.loop rng (k + 1) d = .ok (entry :: rest) := by
  rw [loop, hdrawn, hkey, hupdate]
  show ((dr.find key).elim (.error (dr.notFound key)) .ok >>= fun entry =>
    dr.loop rng k d' >>= fun rest => pure (entry :: rest)) = _
  rw [hentry]
  show (dr.loop rng k d' >>= fun rest => pure (entry :: rest)) = _
  rw [hrest]
  rfl

/-- **What the loop returns**: entries of different indices, none of them drawn before. Induction
    on the draws to go, with the indices drawn so far general. -/
theorem loop_spec (rng : Nat → R) {k : Nat} (hlaws : Lawful dr.index weights bound)
    (hpos : ∀ w ∈ ws, 0 < w) (hle : ∀ w ∈ ws, w ≤ bound)
    (hfound : ∀ i < ws.length, ∃ entry, dr.Entry i entry) (h : dr.At weights ws drawn k d) :
    ∃ indices entries, dr.loop rng k d = .ok entries ∧ indices.length = k ∧
      List.Forall₂ dr.Entry indices entries ∧ indices.Nodup ∧ ∀ i ∈ indices, i ∉ drawn := by
  induction k generalizing drawn d with
  | zero => exact ⟨[], [], rfl, rfl, .nil, List.nodup_nil, fun _ hi => (by cases hi)⟩
  | succ k ih =>
    have hcount := h.count_eq
    obtain ⟨hi, hundrawn⟩ := h.sample hlaws hpos (rng (dr.count - (k + 1)))
    generalize hdrawn : dr.index.sample d (rng (dr.count - (k + 1))) = i at hi hundrawn
    obtain ⟨entry, key, hkey, hentry⟩ := hfound i hi
    cases k with
    | zero =>
      -- the last draw keeps the weights
      have hupdate : dr.withoutDrawn (dr.count - (0 + 1)) i d = .ok d :=
        if_neg (Nat.lt_irrefl _)
      refine ⟨[i], [entry], loop_succ hdrawn hkey hentry hupdate rfl, rfl,
        .cons ⟨key, hkey, hentry⟩ .nil, List.nodup_singleton i, ?_⟩
      exact List.forall_mem_singleton.mpr hundrawn
    | succ k =>
      obtain ⟨d', hd', hat⟩ := h.update hlaws hpos hle hi hundrawn
      obtain ⟨indices, entries, hloop, hlength, hentries, hnodup, hfresh⟩ := ih hat
      have hupdate : dr.withoutDrawn (dr.count - (k + 1 + 1)) i d = .ok d' := by
        rw [withoutDrawn, if_pos (by omega), hd']
        rfl
      refine ⟨i :: indices, entry :: entries, loop_succ hdrawn hkey hentry hupdate hloop,
        by rw [List.length_cons, hlength], .cons ⟨key, hkey, hentry⟩ hentries,
        List.nodup_cons.mpr ⟨fun hmem => hfresh i hmem (List.mem_cons_self ..), hnodup⟩, ?_⟩
      refine List.forall_mem_cons.mpr ⟨hundrawn, fun j hj hmem => ?_⟩
      exact hfresh j hj (List.mem_cons_of_mem _ hmem)

theorem exists_index {indices : List Nat} {entries : List P}
    (hentries : List.Forall₂ dr.Entry indices entries) :
    ∀ entry ∈ entries, ∃ i ∈ indices, dr.Entry i entry := by
  induction hentries with
  | nil => exact fun _ h => (by cases h)
  | @cons i entry _ _ hentry _ ih =>
    refine List.forall_mem_cons.mpr ⟨⟨i, List.mem_cons_self .., hentry⟩, fun other hother => ?_⟩
    obtain ⟨j, hj, hentry'⟩ := ih other hother
    exact ⟨j, List.mem_cons_of_mem _ hj, hentry'⟩

/-- **Entries of different indices are different**, if the keys are and each entry tells its key. -/
theorem nodup_entries {indices : List Nat} {entries : List P} {f : P → K}
    (hentries : List.Forall₂ dr.Entry indices entries) (hindices : indices.Nodup)
    (hkeys : dr.keys.Nodup) (hf : ∀ key entry, dr.find key = some entry → f entry = key) :
    (entries.map f).Nodup := by
  have hkey : ∀ {i entry}, dr.Entry i entry → dr.keys[i]? = some (f entry) := by
    rintro i entry ⟨key, hkey, hfound⟩
    rw [hkey, hf key entry hfound]
  induction hentries with
  | nil => exact List.nodup_nil
  | @cons i entry indices entries hentry hrest ih =>
    obtain ⟨hi, hindices⟩ := List.nodup_cons.mp hindices
    refine List.nodup_cons.mpr ⟨fun hmem => ?_, ih hindices⟩
    -- another entry with the same key would have the same index
    obtain ⟨other, hother, heq⟩ := List.mem_map.mp hmem
    obtain ⟨j, hj, hentry'⟩ := exists_index hrest other hother
    have hij : i = j := by
      refine (List.getElem?_inj (List.getElem?_eq_some_iff.mp (hkey hentry)).1 hkeys).mp ?_
      rw [hkey hentry, hkey hentry', heq]
    exact hi (hij ▸ hj)

end Drawing

end Sampling
