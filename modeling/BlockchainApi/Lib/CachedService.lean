/-
  A service that answers from a cache when it can, and fills it in the background.

  A request is answered at once (`early`), or from the cache if there is a live entry under its key,
  or else its answer is computed; then a background task stores the answer for a limited time.
  Requests and tasks take turns in any order, a task may fail, and the cache may be out of reach for
  a request.  Computing a request may depend on a world `W` that differs each time.

  1. **The machine.** `Service` says what a service does with its requests, `step` what one action
     does to the state, and the runs are those of `Lib.Transitions`.  An entry remembers the request
     it was computed for (`Entry.writer`), and an answer where it comes from (`Source`).  No step
     looks at either; they are there to speak about.

  2. **The invariant** (`Known`): entries and tasks hold what was computed earlier, and an entry is
     under the key of its request.  So whatever a request finds was computed for a request with the
     same key (`Known.lookup`).

  3. **Coherence.** The cache is `Coherent` if every answer from it was computed earlier, for a
     request that counts as the same.  `coherent_iff` says when: at each hit the entry has to come
     from such a request, and nothing else can go wrong.  Each step is decided on its own
     (`coherent_step`).
-/
import BlockchainApi.Lib.Expiring
import BlockchainApi.Lib.Outcome
import BlockchainApi.Lib.Transitions

namespace CachedService

open Expiring Transitions

/-- What a store gives back for what was put into it: the same, or nothing that can be read. -/
structure Readback (V : Type) where
  decode : V → Option V
  faithful : ∀ v v', decode v = some v' → v' = v

/-- A store that gives everything back. -/
def Readback.exact (V : Type) : Readback V := ⟨some, fun _ _ h => (Option.some.inj h).symm⟩

/-- What a service does with its requests. -/
structure Service (W Q K V E : Type) where
  /-- The answer to a request for which neither the cache nor a computation is needed. -/
  early : W → Q → Option (Outcome E V)
  /-- May the request be answered from the cache? -/
  reads : Q → Bool
  key : Q → K
  compute : W → Q → Outcome E V
  readback : Readback V
  lifetime : Nat

/-- What is stored under a key. -/
structure Entry (Q V : Type) where
  value : V
  /-- The request that the value was computed for. -/
  writer : Q

/-- Where an answer comes from. -/
inductive Source (Q : Type) where
  | early
  | computed
  | cached (writer : Q)

/-- An answer that was given. -/
structure Answer (Q V E : Type) where
  request : Q
  result : Outcome E V
  source : Source Q

/-- The store, the requests in work, the tasks that are to store something, and the answers so
    far. -/
structure State (Q K V E : Type) where
  now : Nat
  store : Store K (Entry Q V)
  computing : List Q
  spawned : List (Q × V)
  answers : List (Answer Q V E)

/-- Nothing stored, nothing answered. -/
def State.start (Q K V E : Type) : State Q K V E := ⟨0, .empty, [], [], []⟩

/-- The steps. -/
inductive Action (W Q : Type) where
  /-- A request comes in, and the cache may be out of reach. -/
  | receive (w : W) (q : Q) (reachable : Bool)
  /-- A request in work is done. -/
  | compute (w : W) (i : Nat)
  /-- A task stores its value. -/
  | put (i : Nat)
  /-- A task fails. -/
  | lose (i : Nat)
  | wait (duration : Nat)

variable {W Q K V E : Type}

/-- One more answer. -/
def State.answer (s : State Q K V E) (q : Q) (result : Outcome E V) (source : Source Q) :
    State Q K V E :=
  { s with answers := s.answers ++ [⟨q, result, source⟩] }

namespace Service

variable (sv : Service W Q K V E)

/-- What a request finds in the cache, and whom it was computed for. -/
def lookup (s : State Q K V E) (q : Q) (reachable : Bool) : Option (Q × V) :=
  if sv.reads q && reachable then
    (s.store.find s.now (sv.key q)).bind fun entry =>
      (sv.readback.decode entry.value).map fun value => (entry.writer, value)
  else none

variable [DecidableEq K]

/-- One step. -/
def step (s : State Q K V E) : Action W Q → Option (State Q K V E)
  | .receive w q reachable =>
    match sv.early w q with
    | some result => some (s.answer q result .early)
    | none =>
      match sv.lookup s q reachable with
      | some (writer, value) => some (s.answer q (.ok value) (.cached writer))
      | none => some { s with computing := s.computing ++ [q] }
  | .compute w i =>
    (s.computing[i]?).map fun q =>
      { s.answer q (sv.compute w q) .computed with
        computing := s.computing.eraseIdx i
        spawned := s.spawned ++ ((sv.compute w q).toOption.map fun value => (q, value)).toList }
  | .put i =>
    (s.spawned[i]?).map fun task =>
      { s with
        store := s.store.put (sv.key task.1) ⟨task.2, task.1⟩ (s.now + sv.lifetime)
        spawned := s.spawned.eraseIdx i }
  | .lose i => (s.spawned[i]?).map fun _ => { s with spawned := s.spawned.eraseIdx i }
  | .wait duration => some { s with now := s.now + duration }

/-- The service as a machine. -/
def machine : Machine (State Q K V E) (Action W Q) := ⟨sv.step⟩

theorem machine_step (s : State Q K V E) (a : Action W Q) :
    sv.machine.step s a = sv.step s a := rfl

/-! ## What is stored was computed: the invariant, and what a request finds -/

/-- An answer that was computed for a request. -/
def ComputedFor (answers : List (Answer Q V E)) (q : Q) (value : V) : Prop :=
  ∃ b ∈ answers, b.request = q ∧ b.result = .ok value ∧ b.source = .computed

omit [DecidableEq K] in
theorem ComputedFor.concat {answers : List (Answer Q V E)} {q : Q} {value : V}
    (h : ComputedFor answers q value) (a : Answer Q V E) :
    ComputedFor (answers ++ [a]) q value := by
  obtain ⟨b, hb, hrest⟩ := h
  exact ⟨b, List.mem_append_left _ hb, hrest⟩

/-- **The invariant**: entries and tasks hold what was computed, and an entry is under the key of
    its request. Answers are only ever added, so what was computed stays so. -/
structure Known (s : State Q K V E) : Prop where
  stored : s.store.Holds fun k entry =>
    sv.key entry.writer = k ∧ ComputedFor s.answers entry.writer entry.value
  spawned : ∀ task ∈ s.spawned, ComputedFor s.answers task.1 task.2

variable {sv} {s s' t : State Q K V E} {a : Action W Q}

omit [DecidableEq K] in
theorem known_start : sv.Known (State.start Q K V E) :=
  ⟨Store.holds_empty, fun _ h => (by cases h)⟩

omit [DecidableEq K] in
/-- An answer more changes nothing. -/
theorem Known.answer (h : sv.Known s) (q : Q) (result : Outcome E V) (source : Source Q) :
    sv.Known (s.answer q result source) := by
  constructor
  · exact h.stored.imp fun k entry hentry => ⟨hentry.1, hentry.2.concat _⟩
  · exact fun task htask => (h.spawned task htask).concat _

/-- **Each step keeps the invariant**: a case for each action. Only a computation that is done
    adds a task, and only a task adds an entry. -/
theorem known_step (hs : sv.Known s) (h : sv.machine.step s a = some s') : sv.Known s' := by
  cases a with
  | receive w q reachable =>
    rw [machine_step, step] at h
    split at h
    · cases h
      exact hs.answer _ _ _
    · split at h
      · cases h
        exact hs.answer _ _ _
      · cases h
        exact ⟨hs.stored, hs.spawned⟩
  | compute w i =>
    obtain ⟨q, hq, rfl⟩ := Option.map_eq_some_iff.mp h
    have hanswered := hs.answer q (sv.compute w q) .computed
    refine ⟨hanswered.stored, fun task htask => ?_⟩
    rcases List.mem_append.mp htask with htask | htask
    · exact hanswered.spawned task htask
    · -- the new task holds what was just answered
      obtain ⟨value, hvalue, rfl⟩ := Option.map_eq_some_iff.mp (Option.mem_toList.mp htask)
      exact ⟨_, List.mem_append_right _ (List.mem_singleton_self _), rfl,
        Outcome.toOption_eq_some.mp hvalue, rfl⟩
  | put i =>
    -- what is stored was spawned with its answer
    obtain ⟨task, htask, rfl⟩ := Option.map_eq_some_iff.mp h
    constructor
    · exact hs.stored.put ⟨rfl, hs.spawned task (List.mem_of_getElem? htask)⟩
    · exact fun other hother => hs.spawned other (List.mem_of_mem_eraseIdx hother)
  | lose i =>
    obtain ⟨task, -, rfl⟩ := Option.map_eq_some_iff.mp h
    exact ⟨hs.stored, fun other hother => hs.spawned other (List.mem_of_mem_eraseIdx hother)⟩
  | wait duration =>
    cases h
    exact ⟨hs.stored, hs.spawned⟩

omit [DecidableEq K] in
/-- **What a request finds** was computed for a request with the same key. -/
theorem Known.lookup (hs : sv.Known s) {q writer : Q} {reachable : Bool} {value : V}
    (h : sv.lookup s q reachable = some (writer, value)) :
    sv.key writer = sv.key q ∧ ComputedFor s.answers writer value := by
  rw [Service.lookup] at h
  split at h
  · obtain ⟨entry, hlive, h⟩ := Option.bind_eq_some_iff.mp h
    obtain ⟨value', hdecode, heq⟩ := Option.map_eq_some_iff.mp h
    cases heq
    obtain rfl := sv.readback.faithful _ _ hdecode
    exact hs.stored.find hlive
  · cases h

/-! ## Coherence

Two requests with one key need not count as the same. Whether a run ever confuses two of them
depends on which one stored the entry that is live at the hit. -/

/-- **Every answer from the cache** was computed earlier, for a request that counts as the same. -/
def Coherent (same : Q → Q → Prop) (answers : List (Answer Q V E)) : Prop :=
  ∀ (i : Nat) (a : Answer Q V E), answers[i]? = some a → ∀ writer, a.source = .cached writer →
    same writer a.request ∧ ∃ (j : Nat) (b : Answer Q V E), j < i ∧ answers[j]? = some b ∧
      b.request = writer ∧ b.result = a.result ∧ b.source = .computed

/-- A hit finds an entry of a request that agrees with this one. -/
def HitsAgree (sv : Service W Q K V E) (agrees : Q → Q → Prop) (s : State Q K V E) :
    Action W Q → Prop
  | .receive w q reachable => sv.early w q = none →
    ∀ writer value, sv.lookup s q reachable = some (writer, value) → agrees writer q
  | _ => True

variable {same agrees : Q → Q → Prop}

omit [DecidableEq K] in
/-- One more answer. -/
theorem coherent_concat {answers : List (Answer Q V E)} {a : Answer Q V E} :
    Coherent same (answers ++ [a]) ↔ Coherent same answers ∧
      ∀ writer, a.source = .cached writer → same writer a.request ∧
        ∃ b ∈ answers, b.request = writer ∧ b.result = a.result ∧ b.source = .computed := by
  constructor
  · -- answers before the new one have their source before it, too
    intro h
    constructor
    · intro i b hb writer hsource
      have hi : i < answers.length := (List.getElem?_eq_some_iff.mp hb).1
      obtain ⟨hsame, j, c, hj, hc, hrest⟩ :=
        h i b (by rw [List.getElem?_append_left hi]; exact hb) writer hsource
      rw [List.getElem?_append_left (Nat.lt_trans hj hi)] at hc
      exact ⟨hsame, j, c, hj, hc, hrest⟩
    · intro writer hsource
      obtain ⟨hsame, j, b, hj, hb, hrest⟩ :=
        h answers.length a (by rw [List.getElem?_concat_length]) writer hsource
      rw [List.getElem?_append_left hj] at hb
      exact ⟨hsame, b, List.mem_of_getElem? hb, hrest⟩
  · -- an earlier answer, or the new one
    rintro ⟨hbefore, hlast⟩ i b hb writer hsource
    rcases Nat.lt_or_ge i answers.length with hi | hi
    · rw [List.getElem?_append_left hi] at hb
      obtain ⟨hsame, j, c, hj, hc, hrest⟩ := hbefore i b hb writer hsource
      exact ⟨hsame, j, c, hj, by rwa [List.getElem?_append_left (Nat.lt_trans hj hi)], hrest⟩
    · have hib := (List.getElem?_eq_some_iff.mp hb).1
      rw [List.length_append, List.length_singleton] at hib
      obtain rfl : i = answers.length := by omega
      rw [List.getElem?_concat_length] at hb
      cases hb
      obtain ⟨hsame, c, hc, hrest⟩ := hlast writer hsource
      obtain ⟨j, hj, hget⟩ := List.getElem_of_mem hc
      refine ⟨hsame, j, c, hj, ?_, hrest⟩
      rw [List.getElem?_append_left hj, List.getElem?_eq_getElem hj, hget]

omit [DecidableEq K] in
theorem coherent_answer {q : Q} {result : Outcome E V} {source : Source Q}
    (h : ∀ writer, source ≠ .cached writer) :
    Coherent same (s.answer q result source).answers ↔ Coherent same s.answers := by
  rw [State.answer, coherent_concat]
  exact and_iff_left fun writer hsource => absurd hsource (h writer)

/-- **A step keeps the cache coherent** exactly if a hit finds what it should. A step that is no
    hit gives no answer from the cache. -/
theorem coherent_step (hagrees : ∀ w q, sv.key w = sv.key q → (agrees w q ↔ same w q))
    (hs : sv.Known s) (h : sv.machine.step s a = some s') :
    Coherent same s'.answers ↔ Coherent same s.answers ∧ sv.HitsAgree agrees s a := by
  cases a with
  | receive w q reachable =>
    rw [machine_step, step] at h
    cases hearly : sv.early w q with
    | some result =>
      -- a request that is answered by itself has no source
      rw [hearly] at h
      cases h
      rw [coherent_answer fun writer hsource => by cases hsource]
      exact (and_iff_left fun hnone => by rw [hearly] at hnone; cases hnone).symm
    | none =>
      -- a miss answers nothing yet
      rw [hearly] at h
      cases hlookup : sv.lookup s q reachable with
      | none =>
        rw [hlookup] at h
        cases h
        exact (and_iff_left fun _ writer value hsome => by rw [hlookup] at hsome; cases hsome).symm
      | some found =>
        -- a hit is the one answer that has a writer
        obtain ⟨writer, value⟩ := found
        rw [hlookup] at h
        cases h
        obtain ⟨hkey, hcomputed⟩ := hs.lookup hlookup
        rw [State.answer, coherent_concat]
        refine and_congr_right fun _ => ?_
        constructor
        · intro hlast _ writer' value' hsome
          rw [hlookup] at hsome
          cases hsome
          exact (hagrees writer q hkey).mpr (hlast writer rfl).1
        · intro hhit writer' hsource
          cases hsource
          exact ⟨(hagrees writer q hkey).mp (hhit hearly writer value hlookup), hcomputed⟩
  | compute w i =>
    obtain ⟨q, -, rfl⟩ := Option.map_eq_some_iff.mp h
    exact (coherent_answer fun writer hsource => by cases hsource).trans
      (and_iff_left trivial).symm
  | put i =>
    obtain ⟨task, -, rfl⟩ := Option.map_eq_some_iff.mp h
    exact (and_iff_left trivial).symm
  | lose i =>
    obtain ⟨task, -, rfl⟩ := Option.map_eq_some_iff.mp h
    exact (and_iff_left trivial).symm
  | wait duration =>
    cases h
    exact (and_iff_left trivial).symm

/-- **When a run leaves the cache coherent**: if each of its hits agrees. Induction along the
    run, with the invariant beside it. -/
theorem coherent_iff (hagrees : ∀ w q, sv.key w = sv.key q → (agrees w q ↔ same w q))
    {as : List (Action W Q)} (hs : sv.Known s) (h : sv.machine.run s as = some t) :
    Coherent same t.answers ↔
      Coherent same s.answers ∧ sv.machine.Within (sv.HitsAgree agrees) s as := by
  induction as generalizing s with
  | nil =>
    cases h
    exact (and_iff_left trivial).symm
  | cons a as ih =>
    obtain ⟨s', hstep, hrest⟩ := Machine.run_cons.mp h
    rw [ih (known_step hs hstep) hrest, coherent_step hagrees hs hstep, and_assoc]
    refine and_congr_right fun _ => and_congr_right fun _ => ?_
    constructor
    · intro hwithin u hu
      cases hstep.symm.trans hu
      exact hwithin
    · exact fun hall => hall s' hstep

end Service

end CachedService
