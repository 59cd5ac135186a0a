/-
  The nonces of one bundle (`src/handlers/chain_agnostic/nonce_manager.rs`).

  The manager keeps, for each chain and address, either the task that fetches the account's nonce or
  the next nonce to hand out.  A key that is initialised again keeps what it has; the first nonce
  taken turns the task into a counter.

  1. **Counting.** The invariant (`Counting`) names two numbers for each key: what was fetched for
     it and how many nonces it has handed out.  The entry of the key is determined by them, a task
     as long as the count is zero and a counter afterwards.  The two operations keep it: `learn` and
     `take` say what they do to the two numbers.

  2. **Sequences of calls.** `getNonce_kth`: the k-th nonce taken for a key is the fetched one plus
     k, whatever other calls come in between.  The induction is on the calls, from any state with
     the invariant, so it runs through `answersFor_from`, which starts counting anywhere.

  A get of a key that was never initialised panics in the source, and so does a second await of a
  task; neither happens when every get follows an initialisation (`Counting.getNonce_ne_panic`).
  Nonces are 64-bit and the counter wraps, so the last theorem names the bound.
-/
import BlockchainApi.Error
import BlockchainApi.Lib.Outcome

namespace BlockchainApi

/-- Chain and address. -/
abbrev NonceKey := String × Address

/-- What a task that fetches a nonce ends with: the task itself can fail, or the call in it. -/
abbrev FetchedNonce := Except String (Except CryptoUtilsError U64)

/-- `NonceState`.  A task that has been awaited once has nothing left to give. -/
inductive NonceState where
  | pending (handle : Option FetchedNonce)
  | ready (nonce : U64)

/-- `NonceManager`. -/
abbrev NonceManager := HashMap NonceKey NonceState

/-- The errors of `get_nonce`. -/
inductive NonceError where
  | join (text : String)
  | cryptoUtils (e : CryptoUtilsError)
  deriving DecidableEq

/-- `initialize_nonce`, with what the spawned task is going to fetch. -/
def initializeNonce (m : NonceManager) (key : NonceKey) (fetched : FetchedNonce) : NonceManager :=
  if (m.lookup key).isSome then m else AList.insert key (.pending (some fetched)) m

/-- `get_nonce`: the nonce, and the manager afterwards. -/
def getNonce (m : NonceManager) (key : NonceKey) : Outcome NonceError U64 × NonceManager :=
  match m.lookup key with
  | none => (.panic, m)
  | some (.ready current) => (.ok current, AList.insert key (.ready (current + 1)) m)
  | some (.pending (some (.ok (.ok current)))) =>
    (.ok current, AList.insert key (.ready (current + 1)) m)
  | some (.pending (some (.ok (.error e)))) =>
    (.err (.cryptoUtils e), AList.insert key (.pending none) m)
  | some (.pending (some (.error text))) => (.err (.join text), AList.insert key (.pending none) m)
  -- a task cannot be awaited again
  | some (.pending none) => (.panic, m)

/-! ## Counting: two numbers for each key determine its entry -/

/-- What was fetched for each key, and how many nonces each key has handed out. -/
def Counting (m : NonceManager) (base : NonceKey → Option FetchedNonce) (taken : NonceKey → Nat) :
    Prop :=
  ∀ key, match base key, taken key with
    | none, n => n = 0 ∧ m.lookup key = none
    | some fetched, 0 => m.lookup key = some (.pending (some fetched))
    | some fetched, n + 1 => ∃ b : U64, fetched = .ok (.ok b) ∧
        m.lookup key = some (.ready (b + BitVec.ofNat 64 (n + 1)))

/-- Nothing fetched, nothing taken. -/
theorem counting_empty : Counting ∅ (fun _ => none) (fun _ => 0) :=
  fun _ => ⟨rfl, AList.lookup_empty _⟩

/-- What is known of the bases after a key is initialised. -/
def learn (base : NonceKey → Option FetchedNonce) (key : NonceKey) (fetched : FetchedNonce) :
    NonceKey → Option FetchedNonce :=
  Function.update base key (some ((base key).getD fetched))

variable {m m' : NonceManager} {base : NonceKey → Option FetchedNonce} {taken : NonceKey → Nat}
  {key key' : NonceKey} {fetched : FetchedNonce} {n : U64}

theorem learn_self : learn base key fetched key = some ((base key).getD fetched) :=
  Function.update_self ..

theorem learn_of_ne (h : key' ≠ key) : learn base key fetched key' = base key' :=
  Function.update_of_ne h ..

theorem isSome_learn : (learn base key fetched key').isSome ↔ (base key').isSome ∨ key' = key := by
  by_cases hkk : key' = key
  · subst hkk
    rw [learn_self]
    exact iff_of_true rfl (Or.inr rfl)
  · rw [learn_of_ne hkk]
    exact (or_iff_left hkk).symm

/-- What is known after a key is initialised was known before, or was fetched for it. -/
theorem of_learn_eq_some {fetched' : FetchedNonce}
    (h : learn base key fetched key' = some fetched') :
    base key' = some fetched' ∨ key' = key ∧ fetched' = fetched := by
  by_cases hkk : key' = key
  · subst hkk
    rw [learn_self, Option.some.injEq] at h
    cases hbase : base key' with
    | none =>
      rw [hbase, Option.getD_none] at h
      exact Or.inr ⟨rfl, h.symm⟩
    | some known =>
      rw [hbase, Option.getD_some] at h
      exact Or.inl (h ▸ rfl)
  · rw [learn_of_ne hkk] at h
    exact Or.inl h

/-- A key that is known stays as it is. -/
theorem Counting.isSome_lookup (h : Counting m base taken) :
    (m.lookup key).isSome = (base key).isSome := by
  have hkey := h key
  cases hbase : base key with
  | none =>
    rw [hbase] at hkey
    rw [hkey.2]
    rfl
  | some fetched =>
    cases htaken : taken key with
    | zero =>
      rw [hbase, htaken] at hkey
      rw [show m.lookup key = _ from hkey]
      rfl
    | succ n =>
      rw [hbase, htaken] at hkey
      obtain ⟨b, -, hlookup⟩ := hkey
      rw [hlookup]
      rfl

/-- **Initialising** fetches for a new key and changes nothing for a known one, whatever has been
    taken for it. -/
theorem Counting.initializeNonce (h : Counting m base taken) (key : NonceKey)
    (fetched : FetchedNonce) :
    Counting (initializeNonce m key fetched) (learn base key fetched) taken := by
  rw [BlockchainApi.initializeNonce, h.isSome_lookup]
  cases hbase : base key with
  | some known =>
    -- a key that is known keeps what it has
    have hsame : learn base key fetched = base := by
      rw [learn, hbase, Option.getD_some, ← hbase, Function.update_eq_self]
    rw [hsame]
    exact h
  | none =>
    -- a new key gets its task; the entries of all others are as before
    intro key'
    show match learn base key fetched key', taken key' with
      | none, n => n = 0 ∧ (AList.insert key _ m).lookup key' = none
      | some fetched, 0 => (AList.insert key _ m).lookup key' = some (.pending (some fetched))
      | some fetched, n + 1 => ∃ b : U64, fetched = .ok (.ok b) ∧
          (AList.insert key _ m).lookup key' = some (.ready (b + BitVec.ofNat 64 (n + 1)))
    have hkey := h key'
    by_cases hkk : key' = key
    · subst hkk
      rw [hbase] at hkey
      rw [learn_self, hbase, hkey.1]
      exact AList.lookup_insert _
    · rw [learn_of_ne hkk, AList.lookup_insert_ne hkk]
      exact hkey

/-- One more nonce taken for a key. -/
def take (taken : NonceKey → Nat) (key : NonceKey) : NonceKey → Nat :=
  Function.update taken key (taken key + 1)

theorem take_self : take taken key key = taken key + 1 := Function.update_self ..

theorem take_of_ne (h : key' ≠ key) : take taken key key' = taken key' := Function.update_of_ne h ..

/-- A counter that has moved on by one. -/
theorem Counting.insert_ready (h : Counting m base taken) {b : U64}
    (hbase : base key = some (.ok (.ok b))) :
    Counting (AList.insert key (.ready (b + BitVec.ofNat 64 (taken key) + 1)) m) base
      (take taken key) := by
  intro key'
  by_cases hkk : key' = key
  · subst hkk
    rw [hbase, take_self]
    refine ⟨b, rfl, ?_⟩
    have hsucc : BitVec.ofNat 64 (taken key' + 1) = BitVec.ofNat 64 (taken key') + 1 := by
      rw [BitVec.ofNat_add]
      rfl
    rw [AList.lookup_insert, hsucc, BitVec.add_assoc]
  · rw [take_of_ne hkk, AList.lookup_insert_ne hkk]
    exact h key'

/-- **Taking a nonce**: a key whose base was fetched hands out the next number. -/
theorem Counting.getNonce_eq (h : Counting m base taken) {b : U64}
    (hbase : base key = some (.ok (.ok b))) :
    ∃ m', getNonce m key = (.ok (b + BitVec.ofNat 64 (taken key)), m') ∧
      Counting m' base (take taken key) := by
  have hkey := h key
  rw [hbase] at hkey
  refine ⟨_, ?_, h.insert_ready hbase⟩
  cases htaken : taken key with
  | zero =>
    rw [htaken] at hkey
    have hlookup : m.lookup key = some (.pending (some (.ok (.ok b)))) := hkey
    have hzero : b + BitVec.ofNat 64 0 = b := BitVec.add_zero b
    rw [getNonce, hlookup, hzero]
  | succ n =>
    rw [htaken] at hkey
    obtain ⟨b', hb', hlookup⟩ := hkey
    cases hb'
    rw [getNonce, hlookup]

/-- **A nonce that was handed out** is the fetched one and as many more as were taken before. -/
theorem Counting.of_getNonce (h : Counting m base taken) (hget : getNonce m key = (.ok n, m')) :
    ∃ b, base key = some (.ok (.ok b)) ∧ n = b + BitVec.ofNat 64 (taken key) ∧
      Counting m' base (take taken key) := by
  -- a key that hands out a nonce was initialised, and its fetch succeeded
  have hbase : ∃ b, base key = some (.ok (.ok b)) := by
    have hkey := h key
    cases hbase : base key with
    | none =>
      rw [hbase] at hkey
      rw [getNonce, hkey.2] at hget
      cases hget
    | some fetched =>
      cases htaken : taken key with
      | succ i =>
        -- it is a counter already
        rw [hbase, htaken] at hkey
        obtain ⟨b, rfl, -⟩ := hkey
        exact ⟨b, rfl⟩
      | zero =>
        -- it is a task, which is awaited
        rw [hbase, htaken] at hkey
        have hlookup : m.lookup key = some (.pending (some fetched)) := hkey
        rw [getNonce, hlookup] at hget
        cases fetched with
        | error text => cases hget
        | ok result =>
          cases result with
          | error e => cases hget
          | ok b => exact ⟨b, rfl⟩
  obtain ⟨b, hb⟩ := hbase
  obtain ⟨m'', hget', hcounting⟩ := h.getNonce_eq hb
  rw [hget] at hget'
  cases hget'
  exact ⟨b, hb, rfl, hcounting⟩

/-- **A key that was initialised** does not make the manager panic. -/
theorem Counting.getNonce_ne_panic (h : Counting m base taken) (hkey : (m.lookup key).isSome) :
    (getNonce m key).1 ≠ .panic := by
  rw [h.isSome_lookup] at hkey
  obtain ⟨fetched, hbase⟩ := Option.isSome_iff_exists.mp hkey
  have hstate := h key
  rw [hbase] at hstate
  cases htaken : taken key with
  | succ n =>
    rw [htaken] at hstate
    obtain ⟨b, -, hlookup⟩ := hstate
    rw [getNonce, hlookup]
    exact nofun
  | zero =>
    rw [htaken] at hstate
    have hlookup : m.lookup key = some (.pending (some fetched)) := hstate
    rw [getNonce, hlookup]
    match fetched with
    | .error text => exact nofun
    | .ok (.error e) => exact nofun
    | .ok (.ok b) => exact nofun

/-- A key that was initialised stays so. -/
theorem isSome_lookup_initializeNonce (hkey : (m.lookup key').isSome) :
    ((initializeNonce m key fetched).lookup key').isSome := by
  rw [initializeNonce]
  split
  · exact hkey
  · next hnone =>
    rw [AList.lookup_insert_ne (by rintro rfl; exact hnone hkey)]
    exact hkey

theorem isSome_lookup_initializeNonce_self :
    ((initializeNonce m key fetched).lookup key).isSome := by
  rw [initializeNonce]
  split
  · assumption
  · rw [AList.lookup_insert]
    rfl

theorem isSome_lookup_getNonce (hkey : (m.lookup key').isSome) :
    ((getNonce m key).2.lookup key').isSome := by
  have hinsert : ∀ state, ((AList.insert key state m).lookup key').isSome := by
    intro state
    by_cases hkk : key' = key
    · rw [hkk, AList.lookup_insert]
      rfl
    · rw [AList.lookup_insert_ne hkk]
      exact hkey
  rw [getNonce.eq_def]
  split
  · exact hkey
  · exact hinsert _
  · exact hinsert _
  · exact hinsert _
  · exact hinsert _
  · exact hkey

/-! ## Sequences of calls: what is in between belongs to other keys, or is another initialisation -/

/-- A call of the manager. -/
inductive NonceCall where
  | init (key : NonceKey) (fetched : FetchedNonce)
  | get (key : NonceKey)

/-- The answers to the gets of a sequence of calls, in order. -/
def nonceAnswers (m : NonceManager) : List NonceCall → List (NonceKey × Outcome NonceError U64)
  | [] => []
  | .init key fetched :: calls => nonceAnswers (initializeNonce m key fetched) calls
  | .get key :: calls =>
    (key, (getNonce m key).1) :: nonceAnswers (getNonce m key).2 calls

/-- What the first initialisation of a key fetches. -/
def baseNonce (key : NonceKey) : List NonceCall → Option FetchedNonce
  | [] => none
  | .init key' fetched :: calls => if key' = key then some fetched else baseNonce key calls
  | .get _ :: calls => baseNonce key calls

theorem mem_of_baseNonce {key : NonceKey} {fetched : FetchedNonce} {calls : List NonceCall}
    (h : baseNonce key calls = some fetched) : .init key fetched ∈ calls := by
  induction calls with
  | nil => cases h
  | cons call calls ih =>
    cases call with
    | get key' => exact List.mem_cons_of_mem _ (ih h)
    | init key' fetched' =>
      rw [baseNonce] at h
      split at h
      · next hkey =>
        cases h
        exact hkey ▸ List.mem_cons_self ..
      · exact List.mem_cons_of_mem _ (ih h)

/-- The first fetch counts, be it before the calls or among them. -/
theorem learn_or_baseNonce {key₀ : NonceKey} {calls : List NonceCall} :
    (learn base key₀ fetched key).or (baseNonce key calls) =
      (base key).or (baseNonce key (.init key₀ fetched :: calls)) := by
  rw [baseNonce]
  by_cases hkk : key₀ = key
  · subst hkk
    rw [learn_self, if_pos rfl]
    cases base key₀ with
    | none => rfl
    | some known => rfl
  · rw [learn_of_ne (Ne.symm hkk), if_neg hkk]

/-- Every get comes after an initialisation of its key, given the keys initialised before. -/
def GetsFollow (known : NonceKey → Prop) : List NonceCall → Prop
  | [] => True
  | .init key _ :: calls => GetsFollow (fun key' => known key' ∨ key' = key) calls
  | .get key :: calls => known key ∧ GetsFollow known calls

/-- The answers to the gets of one key. -/
def answersFor (key : NonceKey) (answers : List (NonceKey × Outcome NonceError U64)) :
    List (Outcome NonceError U64) :=
  (answers.filter fun answer => answer.1 = key).map Prod.snd

variable {answer : Outcome NonceError U64} {answers : List (NonceKey × Outcome NonceError U64)}

theorem answersFor_cons_self : answersFor key ((key, answer) :: answers) =
    answer :: answersFor key answers := by
  rw [answersFor, List.filter_cons_of_pos (by simp), List.map_cons, answersFor]

theorem answersFor_cons_of_ne (h : key' ≠ key) :
    answersFor key ((key', answer) :: answers) = answersFor key answers := by
  rw [answersFor, List.filter_cons_of_neg (by simpa using h), answersFor]

/-- **The nonces of a key, from any point on**: they count on from what was taken. -/
theorem answersFor_from (calls : List NonceCall) : ∀ {m base taken}, Counting m base taken →
    GetsFollow (fun key => (base key).isSome) calls →
    (∀ key fetched, base key = some fetched ∨ .init key fetched ∈ calls →
      ∃ b, fetched = .ok (.ok b)) →
    ∀ (key : NonceKey) (k : Nat) (answer : Outcome NonceError U64),
      (answersFor key (nonceAnswers m calls))[k]? = some answer →
      ∃ b, ((base key).or (baseNonce key calls)) = some (.ok (.ok b)) ∧
        answer = .ok (b + BitVec.ofNat 64 (taken key + k)) := by
  -- the induction is on the calls, for any state that counts
  induction calls with
  | nil =>
    intro m base taken _ _ _ key k answer hanswer
    cases hanswer
  | cons call calls ih =>
    intro m base taken hcounting hfollow hfetched key k answer hanswer
    cases call with
    | init key₀ fetched =>
      -- no answer; what the initialisation fetches is learnt
      have hfollow' : GetsFollow (fun key' => (learn base key₀ fetched key').isSome = true)
          calls := (funext fun _ => propext isSome_learn) ▸ hfollow
      have hfetched' : ∀ key' fetched',
          learn base key₀ fetched key' = some fetched' ∨ .init key' fetched' ∈ calls →
            ∃ b, fetched' = .ok (.ok b) := by
        rintro key' fetched' (hlearn | hlater)
        · rcases of_learn_eq_some hlearn with hbase | ⟨rfl, rfl⟩
          · exact hfetched key' fetched' (Or.inl hbase)
          · exact hfetched key' fetched' (Or.inr (List.mem_cons_self ..))
        · exact hfetched key' fetched' (Or.inr (List.mem_cons_of_mem _ hlater))
      obtain ⟨b, hb, hvalue⟩ :=
        ih (hcounting.initializeNonce key₀ fetched) hfollow' hfetched' key k answer hanswer
      exact ⟨b, learn_or_baseNonce.symm.trans hb, hvalue⟩
    | get key₀ =>
      -- one answer; the rest counts on from one more
      obtain ⟨hsome, hfollow'⟩ := hfollow
      obtain ⟨fetched, hbase⟩ := Option.isSome_iff_exists.mp hsome
      obtain ⟨b₀, rfl⟩ := hfetched key₀ fetched (Or.inl hbase)
      obtain ⟨m', hget, hcounting'⟩ := hcounting.getNonce_eq hbase
      have hrest := ih hcounting' hfollow' fun key' fetched' hcase =>
        hfetched key' fetched' (hcase.imp_right (List.mem_cons_of_mem _))
      rw [nonceAnswers, hget] at hanswer
      have hskip : baseNonce key (.get key₀ :: calls) = baseNonce key calls := rfl
      rw [hskip]
      -- the answer is one for the key, or for another one
      by_cases hkk : key₀ = key
      · subst hkk
        rw [answersFor_cons_self] at hanswer
        cases k with
        | zero =>
          cases hanswer
          exact ⟨b₀, by rw [hbase]; rfl, rfl⟩
        | succ k =>
          obtain ⟨b, hb, hvalue⟩ := hrest key₀ k answer hanswer
          refine ⟨b, hb, ?_⟩
          rw [hvalue, take_self]
          congr 3
          omega
      · rw [answersFor_cons_of_ne hkk] at hanswer
        obtain ⟨b, hb, hvalue⟩ := hrest key k answer hanswer
        rw [take_of_ne (Ne.symm hkk)] at hvalue
        exact ⟨b, hb, hvalue⟩

/-- There are not more answers than calls. -/
theorem length_answersFor_le (key : NonceKey) (m : NonceManager) (calls : List NonceCall) :
    (answersFor key (nonceAnswers m calls)).length ≤ calls.length := by
  have hanswers : ∀ m, (nonceAnswers m calls).length ≤ calls.length := by
    induction calls with
    | nil => exact fun _ => Nat.le_refl _
    | cons call calls ih =>
      intro m
      cases call with
      | init key fetched => exact (ih _).trans (Nat.le_succ _)
      | get key => exact Nat.succ_le_succ (ih _)
  rw [answersFor, List.length_map]
  exact (List.length_filter_le _ _).trans (hanswers m)

/-- **The k-th nonce of a key.**  In any sequence of calls in which every get follows an
    initialisation of its key and every fetch succeeds, the k-th nonce taken for a key is the one
    its first initialisation fetched plus k, as long as that fits 64 bits. -/
theorem getNonce_kth {calls : List NonceCall} (hfollow : GetsFollow (fun _ => False) calls)
    (hfetched : ∀ key fetched, .init key fetched ∈ calls → ∃ b : U64, fetched = .ok (.ok b) ∧
      b.toNat < 2 ^ 64 - calls.length) (key : NonceKey) (k : Nat) (answer : Outcome NonceError U64)
    (hanswer : (answersFor key (nonceAnswers ∅ calls))[k]? = some answer) :
    ∃ b n : U64, baseNonce key calls = some (.ok (.ok b)) ∧ answer = .ok n ∧
      n.toNat = b.toNat + k := by
  -- nothing is initialised at first, so everything comes from the calls
  have hfetched' : ∀ key fetched, (fun _ => none : NonceKey → Option FetchedNonce) key =
      some fetched ∨ .init key fetched ∈ calls → ∃ b, fetched = .ok (.ok b) := by
    rintro key fetched (hnone | hmem)
    · cases hnone
    · obtain ⟨b, hb, -⟩ := hfetched key fetched hmem
      exact ⟨b, hb⟩
  have hfollow' : GetsFollow
      (fun key => ((fun _ => none : NonceKey → Option FetchedNonce) key).isSome = true) calls := by
    simpa using hfollow
  obtain ⟨b, hb, hvalue⟩ :=
    answersFor_from calls counting_empty hfollow' hfetched' key k answer hanswer
  rw [Option.none_or] at hb
  have hsmall : b.toNat < 2 ^ 64 - calls.length := by
    obtain ⟨b', hb', hlt⟩ := hfetched key _ (mem_of_baseNonce hb)
    cases hb'
    exact hlt
  -- there are not more nonces than calls, so the counter has not wrapped
  have hk : k < calls.length :=
    lt_of_lt_of_le (List.getElem?_eq_some_iff.mp hanswer).1 (length_answersFor_le key ∅ calls)
  refine ⟨b, _, hb, hvalue, ?_⟩
  rw [BitVec.toNat_add, BitVec.toNat_ofNat, Nat.zero_add]
  omega

end BlockchainApi
