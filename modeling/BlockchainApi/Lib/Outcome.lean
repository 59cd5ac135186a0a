/-
  Calls that end in three ways, and request handlers that leave a trace.

  1. **Outcomes.** `Outcome ε α` is the result of a call in a language with both error values and
     panics: a value, an error returned to the caller, or a panic.  Errors and panics both cut the
     rest of the call, so `bind` is the `?` operator.  The inversion lemmas (`bind_eq_ok`,
     `bind_eq_err`, `bind_eq_panic`) say which step a result came from; later proofs take calls
     apart with them instead of unfolding.  The same goes for the primitives (`ensure`, `slice`,
     `unwrap`, `assert`), which have one lemma for each way they end, in the simp set.

  2. **Loops.** `mapM` and `foldlM` are the loops of the source with `?` inside.  `mapM_eq_ok_iff`
     and `foldlM_eq_ok_iff` are their rules where each step returns under a condition of its own:
     the loop returns under all of the conditions, and then with what the pure loop computes.
     `mapM_ne_panic` and `foldlM_ne_panic` are the rules against panics.

  3. **Calls that run at the same time.** `tryJoinAll` takes the order in which they end as an
     argument; that it is all or nothing does not depend on it (`tryJoinAll_eq_ok_iff`).

  4. **Handlers.** `Handler W Ev ε α` is a call that also talks to an outside world `W` (other
     services, whose answers it does not control) and leaves a trace of events `Ev`.  `Emits m P` is
     its Hoare rule: whatever the world, the outcome and the trace of `m` satisfy `P`.  The rules
     compose along `bind` and along loops; `LoopTrace` is what a `for` loop with early exit can
     leave behind: the traces of the items it completed, then possibly the trace of the item that
     stopped it.

  Calls that cannot panic are `Except`, and their lemmas stand in a section of their own.
-/

/-! ## Outcomes -/

/-- How a call ends: with a value, with an error for the caller, or in a panic, which nobody
    catches and which has no value of its own. -/
inductive Outcome (ε α : Type) where
  | ok (a : α)
  | err (e : ε)
  | panic
  deriving DecidableEq, Repr

namespace Outcome

variable {ε δ α β : Type}

/-- Errors and panics cut the rest of the call. -/
protected def bind (x : Outcome ε α) (f : α → Outcome ε β) : Outcome ε β :=
  match x with
  | ok a => f a
  | err e => err e
  | panic => panic

instance : Monad (Outcome ε) where
  pure := ok
  bind := Outcome.bind

@[simp] theorem pure_eq (a : α) : (pure a : Outcome ε α) = ok a := rfl

@[simp] theorem ok_bind (a : α) (f : α → Outcome ε β) : (ok a >>= f) = f a := rfl

@[simp] theorem err_bind (e : ε) (f : α → Outcome ε β) : (err e >>= f) = err e := rfl

@[simp] theorem panic_bind (f : α → Outcome ε β) : ((panic : Outcome ε α) >>= f) = panic := rfl

instance : LawfulMonad (Outcome ε) :=
  LawfulMonad.mk' (Outcome ε) (fun x => by cases x <;> rfl) (fun _ _ => rfl)
    (fun x _ _ => by cases x <;> rfl)

/-- A call that returned came from two that did. -/
theorem bind_eq_ok {x : Outcome ε α} {f : α → Outcome ε β} {b : β} :
    (x >>= f) = ok b ↔ ∃ a, x = ok a ∧ f a = ok b := by
  cases x <;> simp

/-- An error comes from the first call, or from the second after the first returned. -/
theorem bind_eq_err {x : Outcome ε α} {f : α → Outcome ε β} {e : ε} :
    (x >>= f) = err e ↔ x = err e ∨ ∃ a, x = ok a ∧ f a = err e := by
  cases x <;> simp

/-- A panic comes from the first call, or from the second after the first returned. -/
theorem bind_eq_panic {x : Outcome ε α} {f : α → Outcome ε β} :
    (x >>= f) = panic ↔ x = panic ∨ ∃ a, x = ok a ∧ f a = panic := by
  cases x <;> simp

theorem ok_ne_panic {a : α} : (ok a : Outcome ε α) ≠ panic := by
  intro h
  cases h

theorem err_ne_panic {e : ε} : (err e : Outcome ε α) ≠ panic := by
  intro h
  cases h

/-- **Sequencing without panics.** The second call has to be safe only for what the first one can
    return. -/
theorem bind_ne_panic {x : Outcome ε α} {f : α → Outcome ε β} (hx : x ≠ panic)
    (hf : ∀ a, x = ok a → f a ≠ panic) : (x >>= f) ≠ panic := by
  rw [ne_eq, bind_eq_panic]
  rintro (h | ⟨a, ha, h⟩)
  · exact hx h
  · exact hf a ha h

/-- Did the call return a value? -/
def isOk : Outcome ε α → Bool
  | ok _ => true
  | _ => false

theorem isOk_iff {x : Outcome ε α} : x.isOk = true ↔ ∃ a, x = ok a := by
  cases x <;> simp [isOk]

/-- `ok_or`: the value, or the given error. -/
def okOr (x : Option α) (e : ε) : Outcome ε α :=
  match x with
  | some a => ok a
  | none => err e

/-- `map_err` on a call that cannot panic. -/
def ofExcept (f : δ → ε) : Except δ α → Outcome ε α
  | .ok a => ok a
  | .error e => err (f e)

/-- `map_err`. -/
def mapErr (f : δ → ε) : Outcome δ α → Outcome ε α
  | ok a => ok a
  | err e => err (f e)
  | panic => panic

/-- `if !c { return Err(e) }`. -/
def ensure (c : Prop) [Decidable c] (e : ε) : Outcome ε Unit := if c then ok () else err e

/-- `&xs[n..]`: panics past the end. -/
def sliceFrom {ι : Type} (xs : List ι) (n : Nat) : Outcome ε (List ι) :=
  if n ≤ xs.length then ok (xs.drop n) else panic

/-- `&xs[start..stop]`: panics unless the bounds are in order and in range. -/
def slice {ι : Type} (xs : List ι) (start stop : Nat) : Outcome ε (List ι) :=
  if start ≤ stop ∧ stop ≤ xs.length then ok ((xs.take stop).drop start) else panic

/-- `assert!`. -/
def assert (c : Prop) [Decidable c] : Outcome ε Unit := if c then ok () else panic

/-- `Option::unwrap`. -/
def unwrap : Option α → Outcome ε α
  | some a => ok a
  | none => panic

/-- `ok`: the value, if there is one. -/
def toOption : Outcome ε α → Option α
  | ok a => some a
  | _ => none

@[simp] theorem ensure_eq_ok {c : Prop} [Decidable c] {e : ε} {u : Unit} :
    ensure c e = ok u ↔ c := by
  by_cases h : c <;> simp [ensure, h]

@[simp] theorem ensure_eq_err {c : Prop} [Decidable c] {e e' : ε} :
    ensure c e = err e' ↔ ¬ c ∧ e = e' := by
  by_cases h : c <;> simp [ensure, h]

@[simp] theorem ensure_ne_panic {c : Prop} [Decidable c] {e : ε} : ensure c e ≠ panic := by
  by_cases h : c <;> simp [ensure, h]

@[simp] theorem sliceFrom_eq_ok {ι : Type} {xs ys : List ι} {n : Nat} :
    (sliceFrom xs n : Outcome ε (List ι)) = ok ys ↔ n ≤ xs.length ∧ xs.drop n = ys := by
  by_cases h : n ≤ xs.length <;> simp [sliceFrom, h]

@[simp] theorem sliceFrom_eq_panic {ι : Type} {xs : List ι} {n : Nat} :
    (sliceFrom xs n : Outcome ε (List ι)) = panic ↔ xs.length < n := by
  by_cases h : n ≤ xs.length
  · simp [sliceFrom, h]
  · simp [sliceFrom, h, Nat.lt_of_not_le h]

@[simp] theorem slice_eq_panic {ι : Type} {xs : List ι} {start stop : Nat} :
    (slice xs start stop : Outcome ε (List ι)) = panic ↔ ¬ (start ≤ stop ∧ stop ≤ xs.length) := by
  by_cases h : start ≤ stop ∧ stop ≤ xs.length <;> simp [slice, h]

@[simp] theorem assert_eq_ok {c : Prop} [Decidable c] {u : Unit} :
    (assert c : Outcome ε Unit) = ok u ↔ c := by
  by_cases h : c <;> simp [assert, h]

@[simp] theorem assert_eq_panic {c : Prop} [Decidable c] :
    (assert c : Outcome ε Unit) = panic ↔ ¬ c := by
  by_cases h : c <;> simp [assert, h]

@[simp] theorem unwrap_eq_ok {x : Option α} {a : α} :
    (unwrap x : Outcome ε α) = ok a ↔ x = some a := by
  cases x <;> simp [unwrap]

@[simp] theorem unwrap_eq_panic {x : Option α} : (unwrap x : Outcome ε α) = panic ↔ x = none := by
  cases x <;> simp [unwrap]

@[simp] theorem toOption_eq_some {x : Outcome ε α} {a : α} : x.toOption = some a ↔ x = ok a := by
  cases x <;> simp [toOption]

@[simp] theorem okOr_eq_ok {x : Option α} {e : ε} {a : α} : okOr x e = ok a ↔ x = some a := by
  cases x <;> simp [okOr]

@[simp] theorem okOr_eq_err {x : Option α} {e e' : ε} : okOr x e = err e' ↔ x = none ∧ e = e' := by
  cases x <;> simp [okOr]

@[simp] theorem okOr_ne_panic {x : Option α} {e : ε} : okOr x e ≠ panic := by
  cases x <;> simp [okOr]

@[simp] theorem ofExcept_eq_ok {f : δ → ε} {x : Except δ α} {a : α} :
    ofExcept f x = ok a ↔ x = .ok a := by
  cases x <;> simp [ofExcept]

@[simp] theorem ofExcept_eq_err {f : δ → ε} {x : Except δ α} {e : ε} :
    ofExcept f x = err e ↔ ∃ d, x = .error d ∧ f d = e := by
  cases x <;> simp [ofExcept]

@[simp] theorem ofExcept_ne_panic {f : δ → ε} {x : Except δ α} : ofExcept f x ≠ panic := by
  cases x <;> simp [ofExcept]

@[simp] theorem mapErr_eq_ok {f : δ → ε} {x : Outcome δ α} {a : α} :
    mapErr f x = ok a ↔ x = ok a := by
  cases x <;> simp [mapErr]

@[simp] theorem mapErr_eq_panic {f : δ → ε} {x : Outcome δ α} : mapErr f x = panic ↔ x = panic := by
  cases x <;> simp [mapErr]

/-- A loop of calls that do not panic does not panic. -/
theorem mapM_ne_panic {ι : Type} {f : ι → Outcome ε β} {items : List ι}
    (h : ∀ i ∈ items, f i ≠ panic) : items.mapM f ≠ panic := by
  induction items with
  | nil => simp
  | cons i items ih =>
    rw [List.mapM_cons]
    refine bind_ne_panic (h i (List.mem_cons_self ..)) fun b _ => ?_
    refine bind_ne_panic (ih fun j hj => h j (List.mem_cons_of_mem _ hj)) fun bs _ => ?_
    exact nofun

/-- A loop of calls that all return. -/
theorem mapM_eq_ok {ι : Type} {f : ι → Outcome ε β} {g : ι → β} {items : List ι}
    (h : ∀ i ∈ items, f i = ok (g i)) : items.mapM f = ok (items.map g) := by
  induction items with
  | nil => rfl
  | cons i items ih =>
    obtain ⟨hi, hitems⟩ := List.forall_mem_cons.mp h
    rw [List.mapM_cons, hi, ok_bind, ih hitems]
    rfl

/-- A loop that returned did so at each item. -/
theorem exists_of_mapM_eq_ok {ι : Type} {f : ι → Outcome ε β} {items : List ι} {bs : List β}
    (h : items.mapM f = ok bs) : ∀ i ∈ items, ∃ b, f i = ok b := by
  induction items generalizing bs with
  | nil => exact fun i hi => absurd hi List.not_mem_nil
  | cons i items ih =>
    rw [List.mapM_cons] at h
    obtain ⟨b, hb, h⟩ := bind_eq_ok.mp h
    obtain ⟨bs, hbs, -⟩ := bind_eq_ok.mp h
    exact List.forall_mem_cons.mpr ⟨⟨b, hb⟩, ih hbs⟩

/-- **A loop of calls that return under a condition** returns under all of them, and then with
    the values that the calls return. The right side has no monad left in it. -/
theorem mapM_eq_ok_iff {ι : Type} {f : ι → Outcome ε β} {g : ι → β} {P : ι → Prop}
    {items : List ι} {bs : List β} (h : ∀ i b, f i = ok b ↔ P i ∧ b = g i) :
    items.mapM f = ok bs ↔ (∀ i ∈ items, P i) ∧ bs = items.map g := by
  have hreturns : (∀ i ∈ items, P i) → items.mapM f = ok (items.map g) := fun hall =>
    mapM_eq_ok fun i hi => (h i _).mpr ⟨hall i hi, rfl⟩
  constructor
  · intro hrun
    have hall : ∀ i ∈ items, P i := by
      intro i hi
      obtain ⟨b, hb⟩ := exists_of_mapM_eq_ok hrun i hi
      exact ((h i b).mp hb).1
    exact ⟨hall, ok.inj (hrun.symm.trans (hreturns hall))⟩
  · rintro ⟨hall, rfl⟩
    exact hreturns hall

/-- **A loop of calls that each return for one item only.** -/
theorem mapM_eq_ok_iff_eq_map {ι : Type} {f : ι → Outcome ε β} {g : β → ι} {items : List ι}
    {bs : List β} (h : ∀ i b, f i = ok b ↔ i = g b) : items.mapM f = ok bs ↔ items = bs.map g := by
  induction items generalizing bs with
  | nil =>
    rw [List.mapM_nil, eq_comm, List.nil_eq, List.map_eq_nil_iff]
    exact ⟨ok.inj, congrArg ok⟩
  | cons i items ih =>
    rw [List.mapM_cons, bind_eq_ok]
    simp only [bind_eq_ok, pure_eq, h, ih]
    constructor
    · rintro ⟨b, rfl, bs', rfl, hbs⟩
      cases hbs
      rfl
    · intro hmap
      obtain ⟨b, bs', rfl, rfl, rfl⟩ := List.map_eq_cons_iff.mp hmap.symm
      exact ⟨b, rfl, bs', rfl, rfl⟩

/-- What a loop returned came from its items. -/
theorem exists_of_mem_mapM {ι : Type} {f : ι → Outcome ε β} {items : List ι} {bs : List β}
    (h : items.mapM f = ok bs) {b : β} (hb : b ∈ bs) : ∃ i ∈ items, f i = ok b := by
  induction items generalizing bs with
  | nil =>
    cases h
    cases hb
  | cons i items ih =>
    rw [List.mapM_cons] at h
    obtain ⟨b', hb', h⟩ := bind_eq_ok.mp h
    obtain ⟨bs', hbs', h⟩ := bind_eq_ok.mp h
    cases h
    rcases List.mem_cons.mp hb with rfl | hb
    · exact ⟨i, List.mem_cons_self .., hb'⟩
    · obtain ⟨j, hj, hfj⟩ := ih hbs' hb
      exact ⟨j, List.mem_cons_of_mem _ hj, hfj⟩

/-- `try_join_all`: calls that run at the same time, with the order in which they end. The first
    one to fail ends them all, and its error is the error of the group. -/
def tryJoinAll (order : List Nat) (results : List (Outcome ε α)) : Outcome ε (List α) :=
  match (order.filterMap (results[·]?)).find? (! ·.isOk) with
  | some failed => failed >>= fun _ => ok []
  | none => results.mapM id

theorem mapM_id_eq_ok_iff {results : List (Outcome ε α)} {as : List α} :
    results.mapM id = ok as ↔ results = as.map ok := by
  induction results generalizing as with
  | nil =>
    rw [List.mapM_nil, pure_eq, ok.injEq, eq_comm, eq_comm (a := []), List.map_eq_nil_iff]
  | cons r results ih =>
    rw [List.mapM_cons, bind_eq_ok, eq_comm, List.map_eq_cons_iff]
    constructor
    · rintro ⟨a, ha, h⟩
      obtain ⟨as', has', h⟩ := bind_eq_ok.mp h
      cases h
      exact ⟨a, as', rfl, ha.symm, (ih.mp has').symm⟩
    · rintro ⟨a, as', rfl, ha, has'⟩
      refine ⟨a, ha.symm, ?_⟩
      rw [ih.mpr has'.symm]
      rfl

/-- **All or nothing**, whatever the order: the group returns if each of its calls does, with
    their values in the order in which the calls were listed, not in which they ended. -/
theorem tryJoinAll_eq_ok_iff {order : List Nat} {results : List (Outcome ε α)} {as : List α} :
    tryJoinAll order results = ok as ↔ results = as.map ok := by
  unfold tryJoinAll
  split
  · next failed hfound =>
    have hfailed := List.find?_some hfound
    have hmem : failed ∈ results := by
      obtain ⟨i, -, hi⟩ := List.mem_filterMap.mp (List.mem_of_find?_eq_some hfound)
      exact List.mem_of_getElem? hi
    constructor
    · intro h
      obtain ⟨a, rfl, -⟩ := bind_eq_ok.mp h
      cases hfailed
    · rintro rfl
      obtain ⟨a, -, rfl⟩ := List.mem_map.mp hmem
      cases hfailed
  · exact mapM_id_eq_ok_iff

theorem mem_of_mapM_id_eq_err {results : List (Outcome ε α)} {e : ε}
    (h : results.mapM id = err e) : err e ∈ results := by
  induction results with
  | nil => cases h
  | cons r results ih =>
    rw [List.mapM_cons] at h
    rcases bind_eq_err.mp h with hr | ⟨a, -, h⟩
    · exact List.mem_cons.mpr (Or.inl hr.symm)
    · rcases bind_eq_err.mp h with hrest | ⟨as, -, h⟩
      · exact List.mem_cons_of_mem _ (ih hrest)
      · cases h

/-- The error of a group is the error of one of its calls. -/
theorem mem_of_tryJoinAll_eq_err {order : List Nat} {results : List (Outcome ε α)} {e : ε}
    (h : tryJoinAll order results = err e) : err e ∈ results := by
  unfold tryJoinAll at h
  split at h
  · next failed hfound =>
    have hmem : failed ∈ results := by
      obtain ⟨i, -, hi⟩ := List.mem_filterMap.mp (List.mem_of_find?_eq_some hfound)
      exact List.mem_of_getElem? hi
    rcases bind_eq_err.mp h with rfl | ⟨a, -, h⟩
    · exact hmem
    · cases h
  · exact mem_of_mapM_id_eq_err h

/-- **Nothing panics** if no part does. -/
theorem tryJoinAll_ne_panic {order : List Nat} {results : List (Outcome ε α)}
    (h : ∀ r ∈ results, r ≠ panic) : tryJoinAll order results ≠ panic := by
  unfold tryJoinAll
  split
  · next failed hfound =>
    have hmem : failed ∈ results := by
      obtain ⟨i, -, hi⟩ := List.mem_filterMap.mp (List.mem_of_find?_eq_some hfound)
      exact List.mem_of_getElem? hi
    exact bind_ne_panic (h failed hmem) fun _ _ => ok_ne_panic
  · exact mapM_ne_panic h

/-- A loop with an accumulator whose steps all return. -/
theorem foldlM_eq_ok {ι σ : Type} {body : σ → ι → Outcome ε σ} {g : σ → ι → σ} {items : List ι}
    (h : ∀ s, ∀ i ∈ items, body s i = ok (g s i)) (s : σ) :
    items.foldlM body s = ok (items.foldl g s) := by
  induction items generalizing s with
  | nil => rfl
  | cons i items ih =>
    rw [List.foldlM_cons, h s i (List.mem_cons_self ..), ok_bind,
      ih fun s j hj => h s j (List.mem_cons_of_mem _ hj)]
    rfl

/-- A loop with an accumulator whose steps do not panic. -/
theorem foldlM_ne_panic {ι σ : Type} {body : σ → ι → Outcome ε σ} {items : List ι}
    (h : ∀ s i, body s i ≠ panic) {s : σ} : items.foldlM body s ≠ panic := by
  induction items generalizing s with
  | nil => exact ok_ne_panic
  | cons i items ih =>
    rw [List.foldlM_cons]
    exact bind_ne_panic (h s i) fun _ _ => ih

/-- A loop whose steps all return, and keep an invariant. The invariant may be needed for the
    steps to return. -/
theorem exists_foldlM_eq_ok {ι σ : Type} {body : σ → ι → Outcome ε σ} {P : σ → Prop}
    {items : List ι} (h : ∀ s, ∀ i ∈ items, P s → ∃ s', body s i = ok s' ∧ P s') {s : σ}
    (hs : P s) : ∃ s', items.foldlM body s = ok s' ∧ P s' := by
  induction items generalizing s with
  | nil => exact ⟨s, rfl, hs⟩
  | cons i items ih =>
    obtain ⟨s₁, hfirst, hs₁⟩ := h s i List.mem_cons_self hs
    obtain ⟨s', hrest, hs'⟩ := ih (fun s j hj => h s j (List.mem_cons_of_mem _ hj)) hs₁
    exact ⟨s', by rw [List.foldlM_cons, hfirst, ok_bind, hrest], hs'⟩

/-- **A loop whose steps return under a condition** returns under all of them. -/
theorem foldlM_eq_ok_iff {ι σ : Type} {body : σ → ι → Outcome ε σ} {g : σ → ι → σ} {P : ι → Prop}
    {items : List ι} (h : ∀ s i s', body s i = ok s' ↔ P i ∧ s' = g s i) {s s' : σ} :
    items.foldlM body s = ok s' ↔ (∀ i ∈ items, P i) ∧ s' = items.foldl g s := by
  induction items generalizing s with
  | nil => simp [eq_comm]
  | cons i items ih =>
    rw [List.foldlM_cons, bind_eq_ok, List.forall_mem_cons, List.foldl_cons]
    simp only [h, ih, and_assoc, exists_and_left, exists_eq_left]

/-- **A loop that parses each item and records it.**  It returns when every item parses, and then
    with all of them recorded in order. -/
theorem foldlM_record_eq_ok_iff {ι σ : Type} {parse : ι → Outcome ε β} {record : σ → β → σ}
    (items : List ι) (s s' : σ) :
    items.foldlM (fun s i => parse i >>= fun b => ok (record s b)) s = ok s' ↔
      (∀ i ∈ items, ∃ b, parse i = ok b) ∧
        s' = (items.filterMap fun i => (parse i).toOption).foldl record s := by
  induction items generalizing s with
  | nil => simp [eq_comm]
  | cons i items ih =>
    rw [List.foldlM_cons]
    cases h : parse i with
    | ok b =>
      simp only [ok_bind, ih, List.forall_mem_cons, h, ok.injEq, exists_eq', true_and,
        List.filterMap_cons, toOption, List.foldl_cons]
    | err e => simp [h]
    | panic => simp [h]

end Outcome

/-! ## Calls that do not panic

`Except` has its own `bind`, so the inversion lemmas are stated again for it; where a call of
this kind stands in an `Outcome`, it comes in by `ofExcept`. -/

namespace Except

variable {ε δ α β σ : Type}

/-- A call that returned came from two that did. -/
theorem bind_eq_ok {x : Except ε α} {f : α → Except ε β} {b : β} :
    (x >>= f) = .ok b ↔ ∃ a, x = .ok a ∧ f a = .ok b := by
  cases x with
  | error e => simp [bind, Except.bind]
  | ok a => simp [bind, Except.bind]

theorem mapError_eq_ok {x : Except δ α} {e : δ → ε} {a : α} :
    x.mapError e = .ok a ↔ x = .ok a := by
  cases x <;> constructor <;> intro h <;> cases h <;> rfl

theorem toOption_eq_some {x : Except ε α} {a : α} : x.toOption = some a ↔ x = .ok a := by
  cases x <;> simp [Except.toOption]

theorem map_eq_ok {x : Except ε α} {f : α → β} {b : β} :
    x.map f = .ok b ↔ ∃ a, x = .ok a ∧ f a = b := by
  cases x with
  | error e => simp [Except.map]
  | ok a => simp [Except.map]

/-- A call that checks first and returned passed the check. -/
theorem ite_error_eq_ok {c : Prop} [Decidable c] {e : ε} {x : Except ε α} {a : α} :
    (if c then .error e else x) = .ok a ↔ ¬ c ∧ x = .ok a := by
  by_cases hc : c <;> simp [hc]

/-- So did one whose errors are told in other words. -/
theorem mapError_bind_eq_ok {x : Except δ α} {e : δ → ε} {f : α → Except ε β} {b : β} :
    (x.mapError e >>= f) = .ok b ↔ ∃ a, x = .ok a ∧ f a = .ok b := by
  simp only [bind_eq_ok, mapError_eq_ok]

/-- **A loop** that ends well took its first step and went on from there. -/
theorem foldlM_cons_eq_ok {f : σ → α → Except ε σ} {a : α} {items : List α} {s s' : σ} :
    (a :: items).foldlM f s = .ok s' ↔ ∃ s₁, f s a = .ok s₁ ∧ items.foldlM f s₁ = .ok s' := by
  rw [List.foldlM_cons, bind_eq_ok]

/-- What each step of a loop keeps, a loop that ends well keeps. Nothing is said of a loop that
    stops with an error. -/
theorem foldlM_induction {f : σ → α → Except ε σ} {P : σ → Prop}
    (hstep : ∀ {s a s'}, P s → f s a = .ok s' → P s') {items : List α} :
    ∀ {s s' : σ}, items.foldlM f s = .ok s' → P s → P s' := by
  induction items with
  | nil =>
    intro s s' h hs
    cases h
    exact hs
  | cons a items ih =>
    intro s s' h hs
    obtain ⟨s₁, hfirst, hrest⟩ := foldlM_cons_eq_ok.mp h
    exact ih hrest (hstep hs hfirst)

/-- **What a map collects** comes from one of its items. -/
theorem exists_of_mem_mapM {f : α → Except ε β} {items : List α} {bs : List β} {b : β}
    (h : items.mapM f = .ok bs) (hb : b ∈ bs) : ∃ a ∈ items, f a = .ok b := by
  induction items generalizing bs with
  | nil =>
    cases h
    exact absurd hb List.not_mem_nil
  | cons a items ih =>
    rw [List.mapM_cons] at h
    obtain ⟨first, hfirst, h⟩ := bind_eq_ok.mp h
    obtain ⟨rest, hrest, h⟩ := bind_eq_ok.mp h
    cases h
    rcases List.mem_cons.mp hb with rfl | hb
    · exact ⟨a, List.mem_cons_self, hfirst⟩
    · obtain ⟨a', ha', hb'⟩ := ih hrest hb
      exact ⟨a', List.mem_cons_of_mem a ha', hb'⟩

end Except

/-! ## Handlers that leave a trace

The world answers each question once and changes as it does, so that two questions with the same
text may have different answers. -/

/-- What running a handler leaves: its outcome, the world after it, and the events it caused. -/
structure Ran (W Ev ε α : Type) where
  outcome : Outcome ε α
  world : W
  trace : List Ev

/-- A call that talks to a world it does not control: it gets the world as it is, and leaves
    another one together with the events it caused. -/
def Handler (W Ev ε α : Type) := W → Ran W Ev ε α

namespace Handler

variable {W Ev ε α β ι : Type}

/-- Run a second call after a first that left `r`, keeping the events of both. An error or a
    panic of the first keeps its events and ends the whole. -/
def andThen (r : Ran W Ev ε α) (f : α → Handler W Ev ε β) : Ran W Ev ε β :=
  match r.outcome with
  | .ok a => ⟨(f a r.world).outcome, (f a r.world).world, r.trace ++ (f a r.world).trace⟩
  | .err e => ⟨.err e, r.world, r.trace⟩
  | .panic => ⟨.panic, r.world, r.trace⟩

instance : Monad (Handler W Ev ε) where
  pure a w := ⟨.ok a, w, []⟩
  bind m f w := andThen (m w) f

/-- Ask the world; asking leaves no event by itself. -/
def ask (f : W → α × W) : Handler W Ev ε α := fun w => ⟨.ok (f w).1, (f w).2, []⟩

/-- Record an event. -/
def emit (ev : Ev) : Handler W Ev ε Unit := fun w => ⟨.ok (), w, [ev]⟩

/-- A call that does not touch the world. -/
def lift (x : Outcome ε α) : Handler W Ev ε α := fun w => ⟨x, w, []⟩

/-- `for item in items { … push(…) }` with `?` exits: stop at the first item that fails, and keep
    the events up to there. -/
def forEach (body : ι → Handler W Ev ε α) : List ι → Handler W Ev ε (List α)
  | [] => pure []
  | i :: is => do
    let a ← body i
    let as ← forEach body is
    pure (a :: as)

/-! ### Rules: a postcondition for each way to put calls together -/

/-- Whatever the world, the outcome and the trace of `m` satisfy `P`. -/
def Emits (m : Handler W Ev ε α) (P : Outcome ε α → List Ev → Prop) : Prop :=
  ∀ w, P (m w).outcome (m w).trace

variable {P : Outcome ε α → List Ev → Prop} {Q : Outcome ε β → List Ev → Prop}

theorem emits_pure {a : α} (h : P (.ok a) []) : Emits (pure a : Handler W Ev ε α) P :=
  fun _ => h

/-- **Sequencing.** The first call returned and the second ran after it, or the first stopped;
    the trace is that of both or of the first. -/
theorem emits_bind {m : Handler W Ev ε α} {f : α → Handler W Ev ε β} (hm : Emits m P)
    (hok : ∀ a t, P (.ok a) t → Emits (f a) fun o t' => Q o (t ++ t'))
    (herr : ∀ e t, P (.err e) t → Q (.err e) t) (hpanic : ∀ t, P .panic t → Q .panic t) :
    Emits (m >>= f) Q := by
  intro w
  have hw := hm w
  show Q (andThen (m w) f).outcome (andThen (m w) f).trace
  unfold andThen
  cases ho : (m w).outcome with
  | ok a => rw [ho] at hw; exact hok a _ hw (m w).world
  | err e => rw [ho] at hw; exact herr e _ hw
  | panic => rw [ho] at hw; exact hpanic _ hw

/-- A step that touches neither world nor trace in front of the rest. -/
theorem emits_lift_bind {x : Outcome ε α} {f : α → Handler W Ev ε β}
    (hok : ∀ a, x = .ok a → Emits (f a) Q) (herr : ∀ e, Q (.err e) []) (hpanic : Q .panic []) :
    Emits (lift x >>= f) Q :=
  emits_bind (P := fun o t => o = x ∧ t = []) (fun _ => ⟨rfl, rfl⟩)
    (fun a _ h => by obtain ⟨ha, rfl⟩ := h; exact hok a ha.symm)
    (fun e _ h => by obtain ⟨-, rfl⟩ := h; exact herr e)
    (fun _ h => by obtain ⟨-, rfl⟩ := h; exact hpanic)

/-- A question to the world in front of the rest, with the answer the world has. -/
theorem emits_answer_bind {q : W → α × W} {f : α → Handler W Ev ε β}
    (h : ∀ w, Emits (f (q w).1) Q) : Emits (ask q >>= f) Q :=
  emits_bind (P := fun o t => (∃ w, o = .ok (q w).1) ∧ t = []) (fun w => ⟨⟨w, rfl⟩, rfl⟩)
    (fun a _ hP => by obtain ⟨⟨w, hw⟩, rfl⟩ := hP; cases hw; exact h w)
    (fun _ _ hP => by obtain ⟨⟨_, h⟩, -⟩ := hP; cases h)
    (fun _ hP => by obtain ⟨⟨_, h⟩, -⟩ := hP; cases h)

/-- A question to the world in front of the rest: any answer may come. -/
theorem emits_ask_bind {q : W → α × W} {f : α → Handler W Ev ε β} (h : ∀ a, Emits (f a) Q) :
    Emits (ask q >>= f) Q :=
  emits_answer_bind fun _ => h _

/-- An event in front of the rest. -/
theorem emits_emit_bind {ev : Ev} {f : Unit → Handler W Ev ε β}
    (h : Emits (f ()) fun o t => Q o (ev :: t)) : Emits (emit ev >>= f) Q :=
  emits_bind (P := fun o t => o = .ok () ∧ t = [ev]) (fun _ => ⟨rfl, rfl⟩)
    (fun _ _ hP => by obtain ⟨-, rfl⟩ := hP; exact h)
    (fun _ _ hP => by obtain ⟨h, -⟩ := hP; cases h)
    (fun _ hP => by obtain ⟨h, -⟩ := hP; cases h)

/-! ### Runs

What a run of a handler is, step by step, when the world is known. -/

theorem run_ask_bind (q : W → α × W) (f : α → Handler W Ev ε β) (w : W) :
    (ask q >>= f) w = f (q w).1 (q w).2 := rfl

theorem run_emit_bind (ev : Ev) (f : Unit → Handler W Ev ε β) (w : W) :
    (emit ev >>= f) w = ⟨(f () w).outcome, (f () w).world, ev :: (f () w).trace⟩ := rfl

theorem run_lift_bind {x : Outcome ε α} {a : α} (h : x = .ok a) (f : α → Handler W Ev ε β) (w : W) :
    (lift x >>= f) w = f a w := by
  rw [h]
  rfl

theorem run_forEach_nil (body : ι → Handler W Ev ε α) (w : W) :
    forEach body [] w = ⟨.ok [], w, []⟩ := rfl

/-- A loop stops at an item that fails. -/
theorem run_forEach_err {body : ι → Handler W Ev ε α} {i : ι} {w w' : W} {e : ε} {t : List Ev}
    (h : body i w = ⟨.err e, w', t⟩) (is : List ι) :
    forEach body (i :: is) w = ⟨.err e, w', t⟩ := by
  show andThen (body i w) _ = _
  rw [h]
  rfl

/-- A loop goes on after an item that returns. -/
theorem run_forEach_ok {body : ι → Handler W Ev ε α} {i : ι} {is : List ι} {w w' w'' : W} {a : α}
    {t ts : List Ev} {o : Outcome ε (List α)} (h : body i w = ⟨.ok a, w', t⟩)
    (hrest : forEach body is w' = ⟨o, w'', ts⟩) :
    forEach body (i :: is) w = ⟨o >>= fun as => .ok (a :: as), w'', t ++ ts⟩ := by
  show andThen (body i w) (fun a => forEach body is >>= fun as => pure (a :: as)) = _
  rw [h]
  show Ran.mk (andThen (forEach body is w') _).outcome (andThen (forEach body is w') _).world
    (t ++ (andThen (forEach body is w') _).trace) = _
  rw [hrest]
  cases o with
  | ok as =>
    show Ran.mk (.ok (a :: as)) w'' (t ++ (ts ++ [])) = _
    rw [List.append_nil]
    rfl
  | err e => rfl
  | panic => rfl

/-! ### Loops with early exit -/

/-- Every item ran and returned: what they returned, and their traces one after the other. -/
inductive Completed (P : ι → Outcome ε α → List Ev → Prop) : List ι → List α → List Ev → Prop where
  | nil : Completed P [] [] []
  | cons {i a t is as ts} (hi : P i (.ok a) t) (h : Completed P is as ts) :
      Completed P (i :: is) (a :: as) (t ++ ts)

/-- What a loop over the items can leave, when running item `i` leaves `P i`: all items returned,
    or those before the one that stopped it, and that one. -/
inductive LoopTrace (P : ι → Outcome ε α → List Ev → Prop) :
    List ι → Outcome ε (List α) → List Ev → Prop where
  | returned {items as ts} (h : Completed P items as ts) : LoopTrace P items (.ok as) ts
  | failed {done i rest as ts e t} (h : Completed P done as ts) (hi : P i (.err e) t) :
      LoopTrace P (done ++ i :: rest) (.err e) (ts ++ t)
  | panicked {done i rest as ts t} (h : Completed P done as ts) (hi : P i .panic t) :
      LoopTrace P (done ++ i :: rest) .panic (ts ++ t)

/-- One more item in front of a loop. -/
theorem LoopTrace.cons {P : ι → Outcome ε α → List Ev → Prop} {i : ι} {a : α} {t ts : List Ev}
    {items : List ι} {o : Outcome ε (List α)} (hi : P i (.ok a) t) (h : LoopTrace P items o ts) :
    LoopTrace P (i :: items) (o >>= fun as => .ok (a :: as)) (t ++ ts) := by
  cases h with
  | returned h => exact .returned (.cons hi h)
  | failed h hj =>
    rw [← List.append_assoc]
    exact .failed (.cons hi h) hj
  | panicked h hj =>
    rw [← List.append_assoc]
    exact .panicked (.cons hi h) hj

/-- The trace of a loop is made of traces of its items. -/
theorem Completed.blocks {P : ι → Outcome ε α → List Ev → Prop} {items : List ι} {as : List α}
    {ts : List Ev} (h : Completed P items as ts) :
    ∃ blocks : List (List Ev), ts = blocks.flatten ∧ ∀ b ∈ blocks, ∃ i ∈ items, ∃ o, P i o b := by
  induction h with
  | nil => exact ⟨[], rfl, by simp⟩
  | @cons i a t is as ts hi _ ih =>
    obtain ⟨blocks, rfl, hblocks⟩ := ih
    refine ⟨t :: blocks, rfl, List.forall_mem_cons.mpr ⟨⟨i, List.mem_cons_self .., _, hi⟩, ?_⟩⟩
    intro b hb
    obtain ⟨j, hj, o, hP⟩ := hblocks b hb
    exact ⟨j, List.mem_cons_of_mem _ hj, o, hP⟩

theorem LoopTrace.blocks {P : ι → Outcome ε α → List Ev → Prop} {items : List ι}
    {o : Outcome ε (List α)} {trace : List Ev} (h : LoopTrace P items o trace) :
    ∃ blocks : List (List Ev),
      trace = blocks.flatten ∧ ∀ b ∈ blocks, ∃ i ∈ items, ∃ o, P i o b := by
  -- the trace of the item that stopped the loop is one more block
  have hstop : ∀ {done : List ι} {i : ι} {rest : List ι} {as : List α} {o : Outcome ε α}
      {ts t : List Ev}, Completed P done as ts → P i o t → ∃ blocks : List (List Ev),
        ts ++ t = blocks.flatten ∧ ∀ b ∈ blocks, ∃ j ∈ done ++ i :: rest, ∃ o, P j o b := by
    intro done i rest as o ts t hdone hi
    obtain ⟨blocks, rfl, hblocks⟩ := hdone.blocks
    refine ⟨blocks ++ [t], by simp, List.forall_mem_append.mpr ⟨fun b hb => ?_, ?_⟩⟩
    · obtain ⟨j, hj, o, hP⟩ := hblocks b hb
      exact ⟨j, List.mem_append_left _ hj, o, hP⟩
    · exact List.forall_mem_singleton.mpr
        ⟨i, List.mem_append_right _ (List.mem_cons_self ..), o, hi⟩
  cases h with
  | returned h => exact h.blocks
  | failed h hi => exact hstop h hi
  | panicked h hi => exact hstop h hi

/-- **The loop rule**: induction on the items, one step per item. What a single item leaves is
    all that is asked for; the order of the items is the order of their traces. -/
theorem emits_forEach {body : ι → Handler W Ev ε α} {P : ι → Outcome ε α → List Ev → Prop}
    (hbody : ∀ i, Emits (body i) (P i)) :
    ∀ items, Emits (forEach body items) (LoopTrace P items) := by
  intro items
  induction items with
  | nil => exact emits_pure (.returned .nil)
  | cons i is ih =>
    refine emits_bind (hbody i) (fun a t ha => ?_) (fun e t h => ?_) (fun t h => ?_)
    · refine emits_bind ih (fun as ts has => ?_) (fun e ts h => h.cons ha) (fun ts h => h.cons ha)
      refine emits_pure ?_
      show LoopTrace P (i :: is) (.ok (a :: as)) (t ++ (ts ++ []))
      rw [List.append_nil]
      exact has.cons ha
    · show LoopTrace P ([] ++ i :: is) (.err e) ([] ++ t)
      exact .failed .nil h
    · show LoopTrace P ([] ++ i :: is) .panic ([] ++ t)
      exact .panicked .nil h

end Handler
