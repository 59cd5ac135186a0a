/-
  A read-through cache in time.

  A request is answered at once, or from the cache, or else its answer is worked out in phases:
  between two of them other requests run, the world changes, and time goes by.  An answer that was
  worked out may be stored by a task of its own, later or never, and stays for a fixed lifetime from
  when it is stored, unless the cache evicts it before.  Not every request may read the cache, and
  not every one may fill it.

  1. **The machine.** `Service` holds the functions of the code, `Action` what can happen next: a
     request comes in, a phase ends with what it was told, a value is stored or dropped, an entry is
     evicted, the world changes, time passes.  An entry remembers its work, and an answer its
     source.  No step looks at either.

  2. **Contracts.** A `Contract` states what the phases keep and what a result is right for, given
     what is assumed of the world and of what the phases are told.  It is about one request alone.

  3. **All runs.** Then in every run (`known_run`) a direct answer is right when it is given, and a
     cached one was right when it was worked out, for a request with the same key that may fill the
     cache; and where every value is stored within `delay` of the start of its work, a cached answer
     is younger than that delay and a lifetime.  The invariant is `Known`; evicting an entry keeps
     it, as every entry is right, found or not.
-/
import BlockchainApi.Lib.Expiring
import BlockchainApi.Lib.Transitions

namespace ReadThrough

open Expiring Transitions

/-- What one phase of the work leads to: another phase, or a result. -/
inductive Progress (P E V : Type) where
  | more (phase : P)
  | done (result : Except E V)

/-- A service with a cache: a world `W` that actions `B` change, requests `Q`, keys `K`, values `V`,
    errors `E`, faults `F` of the cache, phases `P` of the work, and what they are told, `X`. -/
structure Service (W B Q K V E F P X : Type) where
  act : W → B → Option W
  /-- The answer to a request that needs neither the cache nor work. -/
  early : W → Nat → Q → Option (Except E V)
  /-- May the request be answered from the cache? -/
  reads : Q → Bool
  /-- May its answer be stored? -/
  writes : Q → Bool
  key : Q → K
  /-- A read that fails is an error of the request, or is taken for a miss. -/
  fault : F → Option E
  /-- What is made of a stored value. -/
  readBack : V → V
  /-- The first phase of the work, or why it is refused. -/
  begin : W → Nat → Q → Except E P
  resume : W → Nat → Q → P → X → W × Progress P E V
  lifetime : Nat

/-- A value, and the work that it comes from. -/
structure Entry (Q V : Type) where
  value : V
  writer : Q
  started : Nat
  completed : Nat

/-- A request in work. -/
structure Work (Q P : Type) where
  request : Q
  started : Nat
  phase : P

/-- Where an answer comes from. -/
inductive Source (Q V : Type) where
  | direct (started : Nat)
  | cached (entry : Entry Q V)

/-- An answer that was given. -/
structure Answer (Q V E : Type) where
  request : Q
  result : Except E V
  source : Source Q V
  time : Nat

/-- The world, the clock, the cache, the requests in work, the values that are to be stored, and
    the answers so far. -/
structure State (W Q K V E P : Type) where
  world : W
  now : Nat
  store : Store K (Entry Q V)
  working : List (Work Q P)
  spawned : List (Entry Q V)
  answers : List (Answer Q V E)

/-- The steps. -/
inductive Action (B Q K F X : Type) where
  /-- A request comes in; the read of the cache may fail. -/
  | receive (q : Q) (fault : Option F)
  /-- The work on a request goes on. -/
  | resume (i : Nat) (x : X)
  /-- A value is stored. -/
  | put (i : Nat)
  /-- A value is not stored. -/
  | lose (i : Nat)
  /-- The cache gives up what it has under a key, before its time is up. -/
  | evict (k : K)
  | act (b : B)
  | wait (duration : Nat)

variable {W B Q K V E F P X : Type}

/-- Nothing stored, nothing answered. -/
def State.start (w : W) : State W Q K V E P := ⟨w, 0, .empty, [], [], []⟩

/-- One more answer, now. -/
def State.answer (s : State W Q K V E P) (q : Q) (result : Except E V) (source : Source Q V) :
    State W Q K V E P :=
  { s with answers := s.answers ++ [⟨q, result, source, s.now⟩] }

namespace Service

variable (sv : Service W B Q K V E F P X)

/-- What a request reads in the cache. -/
def read (s : State W Q K V E P) (q : Q) (fault : Option F) : Except E (Option (Entry Q V)) :=
  if sv.reads q then
    match fault with
    | none => .ok (s.store.find s.now (sv.key q))
    | some f => match sv.fault f with
      | some e => .error e
      | none => .ok none
  else .ok none

/-- A request comes in. -/
def receive (s : State W Q K V E P) (q : Q) (fault : Option F) : State W Q K V E P :=
  match sv.early s.world s.now q with
  | some result => s.answer q result (.direct s.now)
  | none =>
    match sv.read s q fault with
    | .error e => s.answer q (.error e) (.direct s.now)
    | .ok (some entry) => s.answer q (.ok (sv.readBack entry.value)) (.cached entry)
    | .ok none =>
      match sv.begin s.world s.now q with
      | .error e => s.answer q (.error e) (.direct s.now)
      | .ok phase => { s with working := s.working ++ [⟨q, s.now, phase⟩] }

/-- What is to be stored when some work is done. -/
def toStore (work : Work Q P) (now : Nat) (result : Except E V) : List (Entry Q V) :=
  match result with
  | .ok value => if sv.writes work.request then [⟨value, work.request, work.started, now⟩] else []
  | .error _ => []

/-- The work at place `i` goes on. -/
def advance (s : State W Q K V E P) (i : Nat) (work : Work Q P) (x : X) : State W Q K V E P :=
  match sv.resume s.world s.now work.request work.phase x with
  | (w, .more phase) => { s with world := w, working := s.working.set i { work with phase } }
  | (w, .done result) =>
    { s.answer work.request result (.direct work.started) with
      world := w
      working := s.working.eraseIdx i
      spawned := s.spawned ++ sv.toStore work s.now result }

variable [DecidableEq K]

/-- One step. -/
def step (s : State W Q K V E P) : Action B Q K F X → Option (State W Q K V E P)
  | .receive q fault => some (sv.receive s q fault)
  | .resume i x => (s.working[i]?).map fun work => sv.advance s i work x
  | .put i =>
    (s.spawned[i]?).map fun entry =>
      { s with
        store := s.store.put (sv.key entry.writer) entry (s.now + sv.lifetime)
        spawned := s.spawned.eraseIdx i }
  | .lose i => (s.spawned[i]?).map fun _ => { s with spawned := s.spawned.eraseIdx i }
  | .evict k => some { s with store := s.store.evict k }
  | .act b => (sv.act s.world b).map fun w => { s with world := w }
  | .wait duration => some { s with now := s.now + duration }

/-- The service as a machine. -/
def machine : Machine (State W Q K V E P) (Action B Q K F X) := ⟨sv.step⟩

theorem machine_step (s : State W Q K V E P) (a : Action B Q K F X) :
    sv.machine.step s a = sv.step s a := rfl

variable {sv} {s s' t : State W Q K V E P} {a : Action B Q K F X} {as : List (Action B Q K F X)}

omit [DecidableEq K] in
/-- A request that is not in the cache. -/
theorem receive_of_miss {q : Q} {fault : Option F} (hearly : sv.early s.world s.now q = none)
    (hread : sv.read s q fault = .ok none) :
    sv.receive s q fault =
      match sv.begin s.world s.now q with
      | .error e => s.answer q (.error e) (.direct s.now)
      | .ok phase => { s with working := s.working ++ [⟨q, s.now, phase⟩] } := by
  rw [receive, hearly, hread]

omit [DecidableEq K] in
/-- A request that is in the cache. -/
theorem receive_of_hit {q : Q} {fault : Option F} {entry : Entry Q V}
    (hearly : sv.early s.world s.now q = none) (hread : sv.read s q fault = .ok (some entry)) :
    sv.receive s q fault = s.answer q (.ok (sv.readBack entry.value)) (.cached entry) := by
  rw [receive, hearly, hread]

omit [DecidableEq K] in
/-- A request whose read of the cache fails. -/
theorem receive_of_fault {q : Q} {fault : Option F} {e : E}
    (hearly : sv.early s.world s.now q = none) (hread : sv.read s q fault = .error e) :
    sv.receive s q fault = s.answer q (.error e) (.direct s.now) := by
  rw [receive, hearly, hread]

omit [DecidableEq K] in
@[simp] theorem now_receive {q : Q} {fault : Option F} : (sv.receive s q fault).now = s.now := by
  unfold receive
  split
  · rfl
  · split
    · rfl
    · rfl
    · split <;> rfl

omit [DecidableEq K] in
@[simp] theorem now_advance {i : Nat} {work : Work Q P} {x : X} :
    (sv.advance s i work x).now = s.now := by
  unfold advance
  split <;> rfl

omit [DecidableEq K] in
@[simp] theorem world_receive {q : Q} {fault : Option F} :
    (sv.receive s q fault).world = s.world := by
  unfold receive
  split
  · rfl
  · split
    · rfl
    · rfl
    · split <;> rfl

/-- Time goes on. -/
theorem now_le_step (h : sv.machine.step s a = some s') : s.now ≤ s'.now := by
  rw [machine_step] at h
  cases a with
  | receive q fault =>
    cases h
    exact Nat.le_of_eq now_receive.symm
  | resume i x =>
    obtain ⟨work, -, rfl⟩ := Option.map_eq_some_iff.mp h
    exact Nat.le_of_eq now_advance.symm
  | put i =>
    obtain ⟨entry, -, rfl⟩ := Option.map_eq_some_iff.mp h
    exact Nat.le_refl _
  | lose i =>
    obtain ⟨entry, -, rfl⟩ := Option.map_eq_some_iff.mp h
    exact Nat.le_refl _
  | evict k =>
    cases h
    exact Nat.le_refl _
  | act b =>
    obtain ⟨w, -, rfl⟩ := Option.map_eq_some_iff.mp h
    exact Nat.le_refl _
  | wait duration =>
    cases h
    exact Nat.le_add_right ..

/-- Every step of a run is taken before its end. -/
theorem within_now_le (hrun : sv.machine.run s as = some t) :
    s.now ≤ t.now ∧ sv.machine.Within (fun u _ => u.now ≤ t.now) s as := by
  induction as generalizing s with
  | nil =>
    cases hrun
    exact ⟨Nat.le_refl _, trivial⟩
  | cons a as ih =>
    obtain ⟨s', hs', hrest⟩ := Machine.run_cons.mp hrun
    obtain ⟨hle, hwithin⟩ := ih hrest
    refine ⟨Nat.le_trans (now_le_step hs') hle, Nat.le_trans (now_le_step hs') hle,
      fun u hu => ?_⟩
    cases hs'.symm.trans hu
    exact hwithin

end Service

/-! ## Contracts: from one request to all runs

The assumptions may speak of the time, so that what a phase is told may be right at that moment
only. What a result is right for may speak of the time its work started and the time it was done. -/

/-- What the phases of a service keep, and what its results are right for. A phase that waits
    stays right, since the request may be left where it is for any time. -/
structure Contract (sv : Service W B Q K V E F P X) where
  /-- Assumed of the world at a time. -/
  world : Nat → W → Prop
  /-- Assumed of what a phase is told at a time. -/
  told : Nat → Q → X → Prop
  /-- A phase of some work at a time, with the time at which the work started. -/
  working : Q → Nat → Nat → P → Prop
  /-- A result, with the times at which its work started and was done. -/
  right : Q → Nat → Nat → Except E V → Prop
  working_wait : ∀ {q started now later phase}, now ≤ later →
    working q started now phase → working q started later phase
  early_right : ∀ {w now q result}, world now w → sv.early w now q = some result →
    right q now now result
  fault_right : ∀ {now q f e}, sv.fault f = some e → right q now now (.error e)
  refused_right : ∀ {w now q e}, world now w → sv.early w now q = none →
    sv.begin w now q = .error e → right q now now (.error e)
  begin_working : ∀ {w now q phase}, world now w → sv.early w now q = none →
    sv.begin w now q = .ok phase → working q now now phase
  more_working : ∀ {w w' now q started phase x phase'}, world now w → told now q x →
    started ≤ now → working q started now phase →
    sv.resume w now q phase x = (w', .more phase') → working q started now phase'
  done_right : ∀ {w w' now q started phase x result}, world now w → told now q x →
    started ≤ now → working q started now phase →
    sv.resume w now q phase x = (w', .done result) → right q started now result

namespace Contract

variable {sv : Service W B Q K V E F P X} (C : Contract sv) (delay : Nat)

/-- A step meets the assumptions. -/
def Admits (s : State W Q K V E P) (a : Action B Q K F X) : Prop :=
  C.world s.now s.world ∧
    ∀ i x, a = .resume i x → ∀ work, s.working[i]? = some work → C.told s.now work.request x

/-- Where a value may come from: some work that filled the cache. -/
structure Stored (entry : Entry Q V) : Prop where
  writes : sv.writes entry.writer = true
  ordered : entry.started ≤ entry.completed
  right : C.right entry.writer entry.started entry.completed (.ok entry.value)

/-- **What an answer is right for.** A direct one is right itself; one from the cache has a
    source, whose work was right when it was done, and an age. -/
def Meets (a : Answer Q V E) : Prop :=
  match a.source with
  | .direct started => started ≤ a.time ∧ C.right a.request started a.time a.result
  | .cached entry =>
    a.result = .ok (sv.readBack entry.value) ∧ sv.reads a.request = true ∧
      sv.key entry.writer = sv.key a.request ∧ C.Stored entry ∧ entry.completed ≤ a.time ∧
      a.time < entry.started + delay + sv.lifetime

/-- **The invariant**: requests in work are in a phase that is right, values to be stored and
    entries come from work that was, and every answer so far meets the contract. -/
structure Known (s : State W Q K V E P) : Prop where
  stored : ∀ k entry expires, s.store k = some (entry, expires) →
    sv.key entry.writer = k ∧ C.Stored entry ∧ entry.completed ≤ s.now ∧
      expires ≤ entry.started + delay + sv.lifetime
  spawned : ∀ entry ∈ s.spawned, C.Stored entry ∧ entry.completed ≤ s.now
  working : ∀ work ∈ s.working, work.started ≤ s.now ∧
    C.working work.request work.started s.now work.phase
  answers : ∀ a ∈ s.answers, C.Meets delay a

end Contract

/-- Every value is stored within `delay` of the start of its work. It is a condition on the steps
    that store, and nothing is asked of the others. -/
def Prompt (delay : Nat) (s : State W Q K V E P) (a : Action B Q K F X) : Prop :=
  ∀ i, a = .put i → ∀ entry, s.spawned[i]? = some entry → s.now ≤ entry.started + delay

/-- A run is prompt to within its own length. -/
theorem prompt_of_run [DecidableEq K] {sv : Service W B Q K V E F P X} {s t : State W Q K V E P}
    {as : List (Action B Q K F X)} (hrun : sv.machine.run s as = some t) :
    sv.machine.Within (Prompt t.now) s as :=
  (Service.within_now_le hrun).2.imp_of_kept (P := fun _ => True) (fun _ _ _ => trivial)
    (fun _ hnow _ _ entry _ => Nat.le_trans hnow (Nat.le_add_left t.now entry.started)) trivial

namespace Contract

variable {sv : Service W B Q K V E F P X} {C : Contract sv} {delay : Nat}
variable {s s' t : State W Q K V E P} {a : Action B Q K F X} {q : Q}

theorem known_start (w : W) : C.Known delay (.start w) :=
  ⟨fun _ _ _ h => (by cases h), fun _ h => (by cases h), fun _ h => (by cases h),
    fun _ h => (by cases h)⟩

/-- One more answer. -/
theorem Known.answer (hs : C.Known delay s) {result : Except E V} {source : Source Q V}
    (h : C.Meets delay ⟨q, result, source, s.now⟩) :
    C.Known delay (s.answer q result source) := by
  refine ⟨hs.stored, hs.spawned, hs.working, fun a ha => ?_⟩
  rcases List.mem_append.mp ha with ha | ha
  · exact hs.answers a ha
  · exact List.mem_singleton.mp ha ▸ h

/-- What a request reads is live, and under its key. -/
theorem Known.read_hit (hs : C.Known delay s) {fault : Option F} {entry : Entry Q V}
    (h : sv.read s q fault = .ok (some entry)) :
    sv.reads q = true ∧ sv.key entry.writer = sv.key q ∧ C.Stored entry ∧
      entry.completed ≤ s.now ∧ s.now < entry.started + delay + sv.lifetime := by
  unfold Service.read at h
  split at h
  · next hreads =>
    cases fault with
    | none =>
      obtain ⟨expires, hentry, hlive⟩ := Store.find_eq_some_iff.mp (Except.ok.inj h)
      obtain ⟨hkey, hstored, hcompleted, hexpires⟩ := hs.stored _ entry expires hentry
      exact ⟨hreads, hkey, hstored, hcompleted, by omega⟩
    | some f => cases hf : sv.fault f <;> simp [hf] at h
  · simp at h

/-- A read that fails is a fault that counts. -/
theorem read_error {fault : Option F} {e : E} (h : sv.read s q fault = .error e) :
    ∃ f, sv.fault f = some e := by
  unfold Service.read at h
  split at h
  · cases fault with
    | none => simp at h
    | some f =>
      cases hf : sv.fault f with
      | none => simp [hf] at h
      | some e' =>
        simp only [hf, Except.error.injEq] at h
        exact ⟨f, h ▸ hf⟩
  · simp at h

/-- **A request comes in**: it is answered early, by a fault or a hit, is refused, or its work
    begins. -/
theorem known_receive (hs : C.Known delay s) (hworld : C.world s.now s.world)
    (fault : Option F) : C.Known delay (sv.receive s q fault) := by
  rw [Service.receive]
  split
  · next result hearly => exact hs.answer ⟨Nat.le_refl _, C.early_right hworld hearly⟩
  · next hearly =>
    split
    · next e hread =>
      obtain ⟨f, hf⟩ := read_error hread
      exact hs.answer ⟨Nat.le_refl _, C.fault_right hf⟩
    · next entry hread =>
      obtain ⟨hreads, hkey, hstored, hcompleted, hfresh⟩ := hs.read_hit hread
      exact hs.answer ⟨rfl, hreads, hkey, hstored, hcompleted, hfresh⟩
    · split
      · next e hbegin => exact hs.answer ⟨Nat.le_refl _, C.refused_right hworld hearly hbegin⟩
      · next phase hbegin =>
        refine ⟨hs.stored, hs.spawned, fun work hwork => ?_, hs.answers⟩
        rcases List.mem_append.mp hwork with hwork | hwork
        · exact hs.working work hwork
        · obtain rfl := List.mem_singleton.mp hwork
          exact ⟨Nat.le_refl _, C.begin_working hworld hearly hbegin⟩

/-- A value that is to be stored is the result of its work. -/
theorem stored_of_mem_toStore {work : Work Q P} {now : Nat} {result : Except E V}
    {entry : Entry Q V} (hstarted : work.started ≤ now)
    (hright : C.right work.request work.started now result)
    (h : entry ∈ sv.toStore work now result) : C.Stored entry ∧ entry.completed = now := by
  unfold Service.toStore at h
  split at h
  · split at h
    · next value hwrites =>
      obtain rfl := List.mem_singleton.mp h
      exact ⟨⟨hwrites, hstarted, hright⟩, rfl⟩
    · cases h
  · cases h

/-- **The work on a request goes on**: to another phase, or to a result, which is an answer and
    may be stored. -/
theorem known_advance (hs : C.Known delay s) (hworld : C.world s.now s.world) {i : Nat} {x : X}
    {work : Work Q P} (hi : s.working[i]? = some work) (htold : C.told s.now work.request x) :
    C.Known delay (sv.advance s i work x) := by
  obtain ⟨hstarted, hworking⟩ := hs.working work (List.mem_of_getElem? hi)
  rw [Service.advance]
  split
  · next w phase hresume =>
    refine ⟨hs.stored, hs.spawned, fun other hother => ?_, hs.answers⟩
    rcases List.mem_or_eq_of_mem_set hother with hother | rfl
    · exact hs.working other hother
    · exact ⟨hstarted, C.more_working hworld htold hstarted hworking hresume⟩
  · next w result hresume =>
    have hright := C.done_right hworld htold hstarted hworking hresume
    have hanswered : C.Known delay (s.answer work.request result (.direct work.started)) :=
      hs.answer ⟨hstarted, hright⟩
    refine ⟨hs.stored, fun entry hentry => ?_, fun other hother => ?_, hanswered.answers⟩
    · rcases List.mem_append.mp hentry with hentry | hentry
      · exact hs.spawned entry hentry
      · obtain ⟨hstored, hcompleted⟩ := stored_of_mem_toStore hstarted hright hentry
        exact ⟨hstored, Nat.le_of_eq hcompleted⟩
    · exact hs.working other (List.mem_of_mem_eraseIdx hother)

variable [DecidableEq K]

/-- **Each step keeps the invariant**, a case for each action. -/
theorem known_step (hs : C.Known delay s) (hcond : C.Admits s a ∧ Prompt delay s a)
    (h : sv.machine.step s a = some s') : C.Known delay s' := by
  obtain ⟨⟨hworld, htold⟩, hprompt⟩ := hcond
  rw [Service.machine_step] at h
  cases a with
  | receive q fault =>
    cases h
    exact known_receive hs hworld fault
  | resume i x =>
    -- what a work learns is true of the world it is told in
    obtain ⟨work, hi, rfl⟩ := Option.map_eq_some_iff.mp h
    exact known_advance hs hworld hi (htold i x rfl work hi)
  | put i =>
    obtain ⟨entry, hi, rfl⟩ := Option.map_eq_some_iff.mp h
    obtain ⟨hstored, hcompleted⟩ := hs.spawned entry (List.mem_of_getElem? hi)
    refine ⟨fun k other expires hother => ?_, fun other hother => ?_, hs.working, hs.answers⟩
    · rcases Store.eq_or_eq_of_put hother with ⟨rfl, heq⟩ | hother
      · -- the time starts now, which is not long after the start of the work
        cases heq
        have hnow := hprompt i rfl entry hi
        exact ⟨rfl, hstored, hcompleted, by omega⟩
      · exact hs.stored k other expires hother
    · exact hs.spawned other (List.mem_of_mem_eraseIdx hother)
  | lose i =>
    obtain ⟨entry, -, rfl⟩ := Option.map_eq_some_iff.mp h
    exact ⟨hs.stored, fun other hother => hs.spawned other (List.mem_of_mem_eraseIdx hother),
      hs.working, hs.answers⟩
  | evict k =>
    cases h
    exact ⟨fun k' entry expires hentry => hs.stored k' entry expires (Store.eq_of_evict hentry),
      hs.spawned, hs.working, hs.answers⟩
  | act b =>
    obtain ⟨w, -, rfl⟩ := Option.map_eq_some_iff.mp h
    exact ⟨hs.stored, hs.spawned, hs.working, hs.answers⟩
  | wait duration =>
    -- time makes nothing younger, and the bounds are upper ones
    cases h
    have hlater : s.now ≤ s.now + duration := Nat.le_add_right ..
    refine ⟨fun k entry expires hentry => ?_, fun entry hentry => ?_, fun work hwork => ?_,
      hs.answers⟩
    · obtain ⟨hkey, hstored, hcompleted, hexpires⟩ := hs.stored k entry expires hentry
      exact ⟨hkey, hstored, Nat.le_trans hcompleted hlater, hexpires⟩
    · obtain ⟨hstored, hcompleted⟩ := hs.spawned entry hentry
      exact ⟨hstored, Nat.le_trans hcompleted hlater⟩
    · obtain ⟨hstarted, hworking⟩ := hs.working work hwork
      exact ⟨Nat.le_trans hstarted hlater, C.working_wait hlater hworking⟩

/-- **Every run keeps the invariant.** -/
theorem known_run {as : List (Action B Q K F X)} {w : W}
    (hwithin : sv.machine.Within (fun s a => C.Admits s a ∧ Prompt delay s a) (.start w) as)
    (hrun : sv.machine.run (.start w) as = some s) : C.Known delay s :=
  Machine.run_induction (fun hs hcond h => known_step hs hcond h) hwithin hrun (known_start w)

end Contract

end ReadThrough
