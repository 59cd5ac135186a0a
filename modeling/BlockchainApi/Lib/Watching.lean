/-
  Calls that ask a world questions while the world changes.

  A `Call` asks one question after the other and ends with a result; what it asks next may depend on
  the answers so far.  A `World` says which answers a question can get, what the world may be after
  it, and how the world moves by itself.  Any number of calls are under way at the same time, each
  `Step` answers one question of one of them or moves the world, and a `Run` is any number of steps,
  so a statement about all runs is one about all interleavings of the calls and the world.

  1. **What a call keeps to.** `Keeps` is a property of a program: the questions it may ask, and
     what its result tells about the world at the time it is given.  It is defined along the
     program, and holds on in every later world (`Keeps.later`).

  2. **Along a run.** `kept_run`: what each program keeps to, each call of a run keeps to.  What the
     result of a call tells is about the world as it was then; if it is a fact that lasts, it holds
     from then on (`tells_run`).

  3. **How much is asked.** `asked_run`: each call asks at most as many questions of a kind as its
     program does, by a budget that every step leaves or uses up.
-/
import Mathlib.Data.List.Count
import Mathlib.Logic.Relation

namespace Watching

/-- What is left of a call. -/
inductive Call (M : Type) (R : M → Type) (A : Type) where
  | done (a : A)
  | ask (m : M) (next : R m → Call M R A)

/-- How questions are answered, and how the world moves. -/
structure World (W M : Type) (R : M → Type) where
  Answers : W → (m : M) → R m → W → Prop
  Moves : W → W → Prop

/-- The world, the calls received so far, and the questions asked so far with the place of their
    call. -/
structure State (W Q M : Type) (R : M → Type) (A : Type) where
  world : W
  calls : List (Q × Call M R A)
  asked : List (Nat × M)

variable {W Q M A B : Type} {R : M → Type}

/-- A call with its result told in other words. -/
def Call.map (f : A → B) : Call M R A → Call M R B
  | .done a => .done (f a)
  | .ask m next => .ask m fun r => (next r).map f

/-- One change of the world. -/
inductive World.Changes (world : World W M R) : W → W → Prop where
  | answer {w m r w'} (h : world.Answers w m r w') : Changes world w w'
  | move {w w'} (h : world.Moves w w') : Changes world w w'

/-- Any number of changes. -/
def World.Later (world : World W M R) : W → W → Prop := Relation.ReflTransGen world.Changes

/-- A step: a call comes in, a question is answered, or the world moves. -/
inductive Step (world : World W M R) (program : Q → Call M R A) :
    State W Q M R A → State W Q M R A → Prop where
  | receive {s : State W Q M R A} (q : Q) :
      Step world program s { s with calls := s.calls ++ [(q, program q)] }
  | answer {s : State W Q M R A} {i : Nat} {q : Q} {m : M} {next : R m → Call M R A} {r : R m}
      {w : W} (hi : s.calls[i]? = some (q, .ask m next)) (h : world.Answers s.world m r w) :
      Step world program s ⟨w, s.calls.set i (q, next r), s.asked ++ [(i, m)]⟩
  | move {s : State W Q M R A} {w : W} (h : world.Moves s.world w) :
      Step world program s { s with world := w }

/-- A run. -/
def Run (world : World W M R) (program : Q → Call M R A) :
    State W Q M R A → State W Q M R A → Prop :=
  Relation.ReflTransGen (Step world program)

/-- Nothing has been asked for. -/
def State.start (w : W) : State W Q M R A := ⟨w, [], []⟩

/-! ## What a call keeps to: what it may ask, and what its result tells -/

/-- From a world on, the call asks only what it may ask, and its result tells what it should.
    Between its questions the world may have moved. -/
def Keeps (world : World W M R) (may : W → M → Prop) (tells : W → A → Prop) :
    Call M R A → W → Prop
  | .done a, w => ∀ w', world.Later w w' → tells w' a
  | .ask m next, w => ∀ w₁, world.Later w w₁ →
      may w₁ m ∧ ∀ r w₂, world.Answers w₁ m r w₂ → Keeps world may tells (next r) w₂

variable {world : World W M R} {program : Q → Call M R A} {s t u : State W Q M R A}
  {may : Q → W → M → Prop} {tells : Q → W → A → Prop}

theorem Keeps.later {may : W → M → Prop} {tells : W → A → Prop} {call : Call M R A} {w w' : W}
    (h : Keeps world may tells call w) (hw : world.Later w w') : Keeps world may tells call w' := by
  cases call with
  | done a => exact fun w'' hw' => h w'' (hw.trans hw')
  | ask m next => exact fun w₁ hw₁ => h w₁ (hw.trans hw₁)

/-- A call with its result told in other words. -/
theorem Keeps.map {may : W → M → Prop} {tells : W → B → Prop} {f : A → B} {call : Call M R A}
    {w : W} (h : Keeps world may (fun w a => tells w (f a)) call w) :
    Keeps world may tells (call.map f) w := by
  induction call generalizing w with
  | done a => exact h
  | ask m next ih => exact fun w₁ hw₁ => ⟨(h w₁ hw₁).1, fun r w₂ hr => ih r ((h w₁ hw₁).2 r w₂ hr)⟩

/-- What may always be asked, and always be told. -/
theorem keeps_of_forall {may : W → M → Prop} {tells : W → A → Prop} (hmay : ∀ w m, may w m)
    (htells : ∀ w a, tells w a) (call : Call M R A) (w : W) : Keeps world may tells call w := by
  induction call generalizing w with
  | done a => exact fun w' _ => htells w' a
  | ask m next ih => exact fun w₁ _ => ⟨hmay w₁ m, fun r w₂ _ => ih r w₂⟩

/-- What is told weakens. -/
theorem Keeps.imp {may : W → M → Prop} {tells tells' : W → A → Prop} {call : Call M R A} {w : W}
    (h : Keeps world may tells call w) (himp : ∀ w a, tells w a → tells' w a) :
    Keeps world may tells' call w := by
  induction call generalizing w with
  | done a => exact fun w' hw' => himp w' a (h w' hw')
  | ask m next ih => exact fun w₁ hw₁ => ⟨(h w₁ hw₁).1, fun r w₂ hr => ih r ((h w₁ hw₁).2 r w₂ hr)⟩

/-! ## Along a run: calls take turns, and the world moves on -/

theorem Step.later (h : Step world program s t) : world.Later s.world t.world := by
  cases h with
  | receive q => exact .refl
  | answer hi h => exact .single (.answer h)
  | move h => exact .single (.move h)

theorem Run.later (h : Run world program s t) : world.Later s.world t.world := by
  induction h with
  | refl => exact .refl
  | tail _ hstep ih => exact ih.trans hstep.later

/-- A run of a world is one of each world that answers and moves more freely. -/
theorem Run.mono {world' : World W M R}
    (hanswers : ∀ {w m r w'}, world.Answers w m r w' → world'.Answers w m r w')
    (hmoves : ∀ {w w'}, world.Moves w w' → world'.Moves w w') (h : Run world program s t) :
    Run world' program s t := by
  refine Relation.ReflTransGen.mono (fun s t hstep => ?_) s t h
  cases hstep with
  | receive q => exact .receive q
  | answer hi h => exact .answer hi (hanswers h)
  | move h => exact .move (hmoves h)

/-- A call keeps its place. -/
theorem Step.place (h : Step world program s t) {j : Nat} {q : Q} {call : Call M R A}
    (hj : s.calls[j]? = some (q, call)) : ∃ call', t.calls[j]? = some (q, call') := by
  cases h with
  | receive q' =>
    refine ⟨call, ?_⟩
    rw [List.getElem?_append_left (List.getElem?_eq_some_iff.mp hj).1]
    exact hj
  | @answer i q' m next r w hi h =>
    rw [List.getElem?_set]
    split
    · next hij =>
      subst hij
      rw [hi] at hj
      cases hj
      refine ⟨next r, ?_⟩
      rw [if_pos (List.getElem?_eq_some_iff.mp hi).1]
    · exact ⟨call, hj⟩
  | move h => exact ⟨call, hj⟩

/-- How many questions of a kind a call has asked. -/
def State.askedBy (s : State W Q M R A) (kind : M → Bool) (j : Nat) : Nat :=
  s.asked.countP fun e => e.1 == j && kind e.2

/-- The call at a place after a step: it was there before, it has just come in, or it has just been
    answered. -/
inductive Step.Place (world : World W M R) (program : Q → Call M R A) (s t : State W Q M R A)
    (j : Nat) (q : Q) : Call M R A → Prop where
  | before {call} (h : s.calls[j]? = some (q, call))
      (hasked : ∀ kind, t.askedBy kind j = s.askedBy kind j) : Place world program s t j q call
  | received (h : j = s.calls.length) (hasked : t.asked = s.asked) :
      Place world program s t j q (program q)
  | answered {m next r} (h : s.calls[j]? = some (q, .ask m next))
      (hanswer : world.Answers s.world m r t.world) (hasked : t.asked = s.asked ++ [(j, m)]) :
      Place world program s t j q (next r)

/-- Every step leaves the call at a place as it is, brings it in, or answers its question. -/
theorem Step.place_cases (h : Step world program s t) {j : Nat} {q : Q} {call : Call M R A}
    (hj : t.calls[j]? = some (q, call)) : Step.Place world program s t j q call := by
  cases h with
  | receive q' =>
    rw [List.getElem?_append] at hj
    split at hj
    · exact .before hj fun _ => rfl
    · next hlt =>
      obtain ⟨hzero, hget⟩ := List.getElem?_eq_some_iff.mp hj
      have hplace : j = s.calls.length := by
        rw [List.length_singleton] at hzero
        omega
      subst hplace
      simp only [Nat.sub_self, List.getElem_cons_zero] at hget
      cases hget
      exact .received rfl rfl
  | @answer i q' m next r w hi h =>
    rw [List.getElem?_set] at hj
    split at hj
    · next hij =>
      subst hij
      rw [if_pos (List.getElem?_eq_some_iff.mp hi).1] at hj
      cases hj
      exact .answered hi h rfl
    · next hij =>
      refine .before hj fun kind => ?_
      -- the question of another call does not count
      rw [State.askedBy, List.countP_append, List.countP_singleton, if_neg]
      · rfl
      · rw [Bool.and_eq_true, beq_iff_eq]
        exact fun h => hij h.1
  | move h => exact .before hj fun _ => rfl

/-- **What a call of a run keeps to**, if it came in after the run began. Induction on the run: a
    call that does not move is in a later world, and one that moves has had one answer. -/
theorem kept_run
    (hprogram : ∀ q w, world.Later s.world w → Keeps world (may q) (tells q) (program q) w)
    (hrun : Run world program s t) {j : Nat} {q : Q} {call : Call M R A}
    (hj : s.calls.length ≤ j) (hcall : t.calls[j]? = some (q, call)) :
    Keeps world (may q) (tells q) call t.world := by
  induction hrun generalizing q call with
  | refl => exact absurd (List.getElem?_eq_some_iff.mp hcall).1 (by omega)
  | tail hrest hstep ih =>
    cases hstep.place_cases hcall with
    | before hbefore => exact (ih hbefore).later hstep.later
    | received => exact hprogram q _ ((Run.later hrest).trans hstep.later)
    | answered hbefore hanswer => exact (ih hbefore _ .refl).2 _ _ hanswer

/-- What the result of a call tells holds of the world from then on. -/
theorem tells_run
    (hprogram : ∀ q w, world.Later s.world w → Keeps world (may q) (tells q) (program q) w)
    (hrun : Run world program s t) {j : Nat} {q : Q} {a : A} (hj : s.calls.length ≤ j)
    (hdone : t.calls[j]? = some (q, .done a)) : tells q t.world a :=
  kept_run hprogram hrun hj hdone _ .refl

/-- A call comes in. -/
theorem run_receive (world : World W M R) (program : Q → Call M R A) (s : State W Q M R A) (q : Q) :
    Run world program s { s with calls := s.calls ++ [(q, program q)] } :=
  .single (.receive q)

/-- The call that came in last is answered. -/
theorem run_answer_last {calls : List (Q × Call M R A)} {q : Q} {m : M} {next : R m → Call M R A}
    {r : R m} {w : W} {call : Call M R A} (hcalls : s.calls = calls ++ [(q, .ask m next)])
    (h : world.Answers s.world m r w) (hcall : next r = call) :
    Run world program s ⟨w, calls ++ [(q, call)], s.asked ++ [(calls.length, m)]⟩ := by
  subst hcall
  have hplace : s.calls[calls.length]? = some (q, .ask m next) := by
    rw [hcalls, List.getElem?_concat_length]
  have hset : s.calls.set calls.length (q, next r) = calls ++ [(q, next r)] := by
    rw [hcalls, List.set_append_right _ _ (Nat.le_refl _), Nat.sub_self, List.set_cons_zero]
  have hstep : Step world program s ⟨w, s.calls.set calls.length (q, next r), _⟩ :=
    .answer hplace h
  rw [hset] at hstep
  exact .single hstep

/-! ## The questions: who asked them, and how many of a kind -/

/-- Every question was asked by a call. -/
def State.Placed (s : State W Q M R A) : Prop := ∀ e ∈ s.asked, e.1 < s.calls.length

theorem placed_start (w : W) : (State.start w : State W Q M R A).Placed :=
  fun _ he => absurd he List.not_mem_nil

theorem Step.placed (h : Step world program s t) (hs : s.Placed) : t.Placed := by
  intro e he
  cases h with
  | receive q =>
    rw [List.length_append]
    exact Nat.lt_of_lt_of_le (hs e he) (Nat.le_add_right _ _)
  | answer hi h =>
    rw [List.length_set]
    rcases List.mem_append.mp he with he | he
    · exact hs e he
    · cases List.mem_singleton.mp he
      exact (List.getElem?_eq_some_iff.mp hi).1
  | move h => exact hs e he

theorem Run.placed (h : Run world program s t) (hs : s.Placed) : t.Placed := by
  induction h with
  | refl => exact hs
  | tail _ hstep ih => exact hstep.placed ih

/-- **What a call of a run asks**, if it came in after the run began. -/
theorem may_run
    (hprogram : ∀ q w, world.Later s.world w → Keeps world (may q) (tells q) (program q) w)
    (hs : s.Placed) (hrun : Run world program s t) {j : Nat} {m : M} (hj : s.calls.length ≤ j)
    (hasked : (j, m) ∈ t.asked) :
    ∃ q call w, t.calls[j]? = some (q, call) ∧ world.Later s.world w ∧ may q w m := by
  induction hrun with
  | refl => exact absurd (hs _ hasked) (by omega)
  | @tail t u hrest hstep ih =>
    have hkept (hasked : (j, m) ∈ t.asked) :
        ∃ q call w, u.calls[j]? = some (q, call) ∧ world.Later s.world w ∧ may q w m := by
      obtain ⟨q, call, w, hplace, hw, hmay⟩ := ih hasked
      obtain ⟨call', hplace'⟩ := hstep.place hplace
      exact ⟨q, call', w, hplace', hw, hmay⟩
    cases hstep with
    | receive q => exact hkept hasked
    | @answer i q m' next r w hi h =>
      rcases List.mem_append.mp hasked with hasked | hasked
      · exact hkept hasked
      · cases List.mem_singleton.mp hasked
        refine ⟨q, next r, t.world, ?_, Run.later hrest, ?_⟩
        · rw [List.getElem?_set_self (List.getElem?_eq_some_iff.mp hi).1]
        · exact ((kept_run hprogram hrest hj hi) _ .refl).1
    | move h => exact hkept hasked

/-- The call asks at most so many questions of a kind. -/
def AtMost (kind : M → Bool) : Call M R A → Nat → Prop
  | .done _, _ => True
  | .ask m next, n => (kind m = true → 0 < n) ∧
      ∀ r, AtMost kind (next r) (if kind m = true then n - 1 else n)

theorem AtMost.map {kind : M → Bool} {f : A → B} {call : Call M R A} {n : Nat}
    (h : AtMost kind call n) : AtMost kind (call.map f) n := by
  induction call generalizing n with
  | done a => trivial
  | ask m next ih => exact ⟨h.1, fun r => ih r (h.2 r)⟩

/-- Each call of a run has asked, and has left to ask, at most so many questions of a kind. -/
theorem budget_run {kind : M → Bool} {n : Nat} (hprogram : ∀ q, AtMost kind (program q) n)
    {w : W} (hrun : Run world program (.start w) t) {j : Nat} {q : Q} {call : Call M R A}
    (hcall : t.calls[j]? = some (q, call)) :
    ∃ k, t.askedBy kind j + k ≤ n ∧ AtMost kind call k := by
  induction hrun generalizing q call with
  | refl => cases hcall
  | @tail t u hrest hstep ih =>
    cases hstep.place_cases hcall with
    | before hbefore hasked =>
      rw [hasked]
      exact ih hbefore
    | received hj hasked =>
      refine ⟨n, ?_, hprogram q⟩
      -- nothing has been asked from a place that was free
      have hnone : u.askedBy kind j = 0 := by
        rw [State.askedBy, hasked, List.countP_eq_zero]
        intro e he hkind
        have hplace := Run.placed hrest (placed_start w) e he
        rw [Bool.and_eq_true, beq_iff_eq] at hkind
        omega
      omega
    | @answered m next r hbefore hanswer hasked =>
      obtain ⟨k, hk, hleft⟩ := ih hbefore
      have hcount : u.askedBy kind j = t.askedBy kind j + if kind m = true then 1 else 0 := by
        rw [State.askedBy, hasked, List.countP_append, List.countP_singleton]
        simp only [beq_self_eq_true, Bool.true_and, State.askedBy]
      refine ⟨_, ?_, hleft.2 r⟩
      have hpositive := hleft.1
      split at hcount
      · next hkind =>
        have := hpositive hkind
        rw [if_pos hkind]
        omega
      · next hkind =>
        rw [if_neg hkind]
        omega

/-- **How much is asked**: no call of a run asks more questions of a kind than its program may,
    however the calls interleave. -/
theorem asked_run {kind : M → Bool} {n : Nat} (hprogram : ∀ q, AtMost kind (program q) n) {w : W}
    (hrun : Run world program (.start w) t) (j : Nat) : t.askedBy kind j ≤ n := by
  cases hcall : t.calls[j]? with
  | some placed =>
    obtain ⟨q, call⟩ := placed
    obtain ⟨k, hk, -⟩ := budget_run hprogram hrun hcall
    omega
  | none =>
    have hlength := List.getElem?_eq_none_iff.mp hcall
    have hnone : t.askedBy kind j = 0 := by
      rw [State.askedBy, List.countP_eq_zero]
      intro e he hkind
      have hplace := Run.placed hrun (placed_start w) e he
      rw [Bool.and_eq_true, beq_iff_eq] at hkind
      omega
    omega

end Watching
