/-
  The bridging status and the polls that share it (`src/handlers/chain_agnostic/status.rs`).

  A poll gets the item of its orchestration id.  A verdict that is already there is answered at
  once.  Otherwise the poll asks the destination chain for the wallet's balance, looks at the clock,
  and either stores a verdict (completed, or an error after the timeout) or answers that the
  bridging is pending.  Nothing locks the item between the get and the set.

  1. **How far a poll is.** `PollStage` lists where a poll can be: it has started, it has decided,
     it has answered, or it has failed.  A decided poll carries a verdict that its own readings
     support (`StatusPoll.Supports`), and one reading does not support both verdicts.

  2. **The invariant** (`statusInvariant_step`).  Whatever the interleaving, every poll is at one of
     its stages and the terms of an item never change.  One step is one poll's; the others keep
     their stage because they depend on the store through the terms only (`PollStage.mono`).

  3. **Finality** (`status_final_iff`).  The verdicts of a run are final exactly when no poll comes
     to its set after a verdict has been stored that its own balance reading contradicts.  Forwards,
     such a poll overturns what is stored (`noLateVerdict_iff`).  Backwards, two properties are
     carried along the run: what polls have answered is stored (`AnswersHold`), and what is stored
     stays (`Settled`).

  4. **The race.** `timeoutRun` is a run in which two polls read the item pending on either side of
     the timeout, and the second verdict replaces the first.

  Serializing an item and reading it back is the identity here.  What a poll checks before it
  touches the store, and a store that does not answer, are covered by the failing step; a set that
  is applied although its answer gets lost is part of what a poll may meet.
-/
import BlockchainApi.Error
import BlockchainApi.Lib.SharedStore

namespace BlockchainApi

open ByteCodec SharedStore

/-! ## The item of a bridging

The route handler stores one item for each bridging, under its orchestration id, with the status
pending; the polls are the only ones to write it afterwards. -/

/-- `BRIDGING_TIMEOUT`, in seconds. -/
def bridgingTimeout : UInt64 := 1800

/-- `STATUS_POLLING_INTERVAL`, in milliseconds. -/
def statusPollingInterval : UInt64 := 3000

/-- `BridgingStatus`. -/
inductive BridgingStatus where
  | pending
  | completed
  | error
  deriving DecidableEq, Repr

/-- `StorageBridgingItem`: whose balance is watched, in which token, the balance when the bridging
    was asked for and the one that completes it. -/
structure StorageBridgingItem where
  createdAt : UInt64
  chainId : String
  wallet : Address
  contract : Address
  amountCurrent : U256
  amountExpected : U256
  status : BridgingStatus
  errorReason : Option String
  deriving DecidableEq

/-- `StatusResponse`. -/
inductive StatusResponse where
  | pending (createdAt checkIn : UInt64)
  | completed (createdAt : UInt64)
  | error (createdAt : UInt64) (error : String)
  deriving DecidableEq

/-- The status a response tells. -/
def StatusResponse.status : StatusResponse → BridgingStatus
  | pending _ _ => .pending
  | completed _ => .completed
  | error _ _ => .error

/-- The response to an item. -/
def StorageBridgingItem.response (item : StorageBridgingItem) : StatusResponse :=
  match item.status with
  | .pending => .pending item.createdAt statusPollingInterval
  | .completed => .completed item.createdAt
  | .error => .error item.createdAt (item.errorReason.getD "")

@[simp] theorem StorageBridgingItem.status_response (item : StorageBridgingItem) :
    item.response.status = item.status := by
  cases hstatus : item.status <;> simp [response, hstatus, StatusResponse.status]

/-- A status poll: what it asks for, and what it is going to read outside the store. -/
structure StatusPoll where
  orchestrationId : String
  /-- `get_erc20_balance` of the wallet on the destination chain. -/
  walletBalance : Except CryptoUtilsError U256
  /-- Seconds since the epoch when it looks at the clock. -/
  now : UInt64
  /-- The answer to its set, which the store may have applied either way. -/
  saved : Except RpcError Unit

/-- What is left of a poll. -/
abbrev StatusProcess := Process String StorageBridgingItem RpcError StatusResponse

/-- Store the item, then answer it. -/
def StatusPoll.save (q : StatusPoll) (item : StorageBridgingItem) : StatusProcess :=
  .set q.orchestrationId item
    (match q.saved with
      | .ok () => .ret item.response
      | .error e => .throw e)

/-- `status::handler_internal`. -/
def statusHandler (q : StatusPoll) : StatusProcess :=
  .get q.orchestrationId fun
    | none => .throw (.orchestrationIdNotFound q.orchestrationId)
    | some item =>
      match item.status with
      -- a verdict is answered without checking the balance
      | .completed | .error => .ret item.response
      | .pending =>
        match q.walletBalance with
        | .error e => .throw (.cryptoUtils e)
        | .ok balance =>
          if item.amountExpected ≤ balance then q.save { item with status := .completed }
          else if item.createdAt + bridgingTimeout < q.now then
            q.save { item with status := .error, errorReason := some "Bridging timeout" }
          else .ret item.response

/-- The polls over one store. -/
def statusSystem : System StatusPoll String StorageBridgingItem RpcError StatusResponse where
  program := statusHandler
  admits _ _ := true

/-- A state of the store and the polls. -/
abbrev StatusState := State StatusPoll String StorageBridgingItem RpcError StatusResponse

/-- A step of some poll. -/
abbrev StatusAction := Action StatusPoll RpcError

/-! ## How far a poll is

A poll is a program of gets and sets. Its stages say which continuation of that program is left,
and what of the store and of its own readings the continuation carries. -/

/-- The poll's balance reading supports the verdict on the item. -/
def StatusPoll.Supports (q : StatusPoll) (item : StorageBridgingItem) (verdict : BridgingStatus) :
    Prop :=
  ∃ balance, q.walletBalance = .ok balance ∧
    match verdict with
    | .completed => item.amountExpected ≤ balance
    | .error => ¬ item.amountExpected ≤ balance
    | .pending => False

/-- Where a poll can be while the store holds what it holds. From the get on it carries an item
    with the terms of the one that is stored. -/
inductive PollStage (store : String → Option StorageBridgingItem) (q : StatusPoll) :
    StatusProcess → Prop where
  | started : PollStage store q (statusHandler q)
  | decided {stored item : StorageBridgingItem} (hstored : store q.orchestrationId = some stored)
      (hterms : item.amountExpected = stored.amountExpected)
      (hsupports : q.Supports item item.status) : PollStage store q (q.save item)
  | answered (r : StatusResponse) : PollStage store q (.ret r)
  | failed (e : RpcError) : PollStage store q (.throw e)

/-- A verdict on an item is supported by one side of the balance reading only. -/
theorem StatusPoll.Supports.unique {q : StatusPoll} {item : StorageBridgingItem}
    {verdict verdict' : BridgingStatus} (h : q.Supports item verdict)
    (h' : q.Supports item verdict') : verdict = verdict' := by
  obtain ⟨balance, hbalance, hside⟩ := h
  obtain ⟨balance', hbalance', hside'⟩ := h'
  rw [hbalance, Except.ok.injEq] at hbalance'
  subst hbalance'
  cases verdict <;> cases verdict' <;> first | rfl | contradiction

/-- Only the terms of the item matter. -/
theorem StatusPoll.Supports.congr {q : StatusPoll} {item item' : StorageBridgingItem}
    {verdict : BridgingStatus} (h : q.Supports item verdict)
    (hterms : item'.amountExpected = item.amountExpected) : q.Supports item' verdict := by
  simp only [Supports, hterms] at *
  exact h

/-- **What a poll does with the item it got.** It is at one of its stages then, and if it answers
    at once, it answers the status that is stored. -/
theorem pollStage_get (store : String → Option StorageBridgingItem) {q : StatusPoll} {k : String}
    {next : Option StorageBridgingItem → StatusProcess} (h : statusHandler q = .get k next) :
    k = q.orchestrationId ∧ PollStage store q (next (store k)) ∧
      ∀ r, next (store k) = .ret r →
        ∃ stored, store k = some stored ∧ stored.status = r.status := by
  rw [statusHandler, Process.get.injEq] at h
  obtain ⟨rfl, rfl⟩ := h
  refine ⟨rfl, ?_⟩
  cases hstored : store q.orchestrationId with
  -- there is no item: the poll fails
  | none => exact ⟨.failed _, fun _ hr => by cases hr⟩
  | some item =>
    -- a poll that answers at once answers the status it got
    have hanswer : ∀ r, Process.ret item.response = (.ret r : StatusProcess) →
        ∃ stored, some item = some stored ∧ stored.status = r.status := by
      intro r hr
      cases hr
      exact ⟨item, rfl, item.status_response.symm⟩
    dsimp only
    split
    · -- completed
      exact ⟨.answered _, hanswer⟩
    · -- error
      exact ⟨.answered _, hanswer⟩
    · -- pending: the balance is read
      split
      · exact ⟨.failed _, fun _ hr => by cases hr⟩
      · next balance hbalance =>
        split
        · next hreached =>
          exact ⟨.decided hstored rfl ⟨balance, hbalance, hreached⟩, fun _ hr => by cases hr⟩
        · next hshort =>
          split
          · -- short of the amount, and past the timeout
            exact ⟨.decided hstored rfl ⟨balance, hbalance, hshort⟩, fun _ hr => by cases hr⟩
          · -- short of the amount, and still in time
            exact ⟨.answered _, hanswer⟩

/-- A poll that is about to set is a poll that has decided. -/
theorem PollStage.of_set {store : String → Option StorageBridgingItem} {q : StatusPoll}
    {k : String} {item : StorageBridgingItem} {next : StatusProcess}
    (h : PollStage store q (.set k item next)) :
    k = q.orchestrationId ∧ q.Supports item item.status ∧ PollStage store q next ∧
      (∃ stored, store k = some stored ∧ item.amountExpected = stored.amountExpected) ∧
      ∀ r, next = .ret r → r.status = item.status := by
  generalize hp : Process.set k item next = p at h
  cases h with
  | started => cases hp
  | answered r => cases hp
  | failed e => cases hp
  | @decided stored item' hstored hterms hsupports =>
    rw [StatusPoll.save, Process.set.injEq] at hp
    obtain ⟨rfl, rfl, rfl⟩ := hp
    refine ⟨rfl, hsupports, ?_, ⟨stored, hstored, hterms⟩, fun r hr => ?_⟩
    · split
      · exact .answered _
      · exact .failed _
    · split at hr
      · cases hr
        exact item.status_response
      · cases hr

/-- A poll that is about to get has just started. -/
theorem PollStage.of_get {store : String → Option StorageBridgingItem} {q : StatusPoll}
    {k : String} {next : Option StorageBridgingItem → StatusProcess}
    (h : PollStage store q (.get k next)) : statusHandler q = .get k next := by
  generalize hp : Process.get k next = p at h
  cases h with
  | started => rfl
  | decided hstored hterms hsupports => cases hp
  | answered r => cases hp
  | failed e => cases hp

/-- A store whose items keep their terms. -/
theorem PollStage.mono {store store' : String → Option StorageBridgingItem} {q : StatusPoll}
    {p : StatusProcess} (h : PollStage store q p)
    (hterms : ∀ k stored, store k = some stored →
      ∃ stored', store' k = some stored' ∧ stored'.amountExpected = stored.amountExpected) :
    PollStage store' q p := by
  cases h with
  | started => exact .started
  | answered r => exact .answered r
  | failed e => exact .failed e
  | decided hstored heq hsupports =>
    obtain ⟨stored', hstored', heq'⟩ := hterms _ _ hstored
    exact .decided hstored' (heq.trans heq'.symm) hsupports

/-! ## The invariant of all runs: a step moves one poll, the others keep their stage -/

/-- Every poll is at one of its stages. -/
def StatusInvariant (s : StatusState) : Prop :=
  ∀ q p, (q, p) ∈ s.requests → PollStage s.store q p

/-- **A step keeps the terms of every item.** -/
theorem terms_step {s s' : StatusState} {a : StatusAction} (hs : StatusInvariant s)
    (h : statusSystem.step s a = some s') (k : String) (stored : StorageBridgingItem)
    (hstored : s.store k = some stored) :
    ∃ stored', s'.store k = some stored' ∧ stored'.amountExpected = stored.amountExpected := by
  cases System.step_cases h with
  | receive hadmits => exact ⟨stored, hstored, rfl⟩
  | get hi => exact ⟨stored, hstored, rfl⟩
  | fail hi => exact ⟨stored, hstored, rfl⟩
  | @set i q k' item next hi =>
    obtain ⟨-, -, -, ⟨before, hbefore, hterms⟩, -⟩ := (hs q _ (List.mem_of_getElem? hi)).of_set
    rw [State.store_resume]
    by_cases hkk : k = k'
    · subst hkk
      rw [hstored, Option.some.injEq] at hbefore
      subst hbefore
      exact ⟨item, State.store_put_self k item, hterms⟩
    · exact ⟨stored, (State.store_put_of_ne hkk).trans hstored, rfl⟩

/-- **One step keeps the invariant.** -/
theorem statusInvariant_step {s s' : StatusState} {a : StatusAction} (hs : StatusInvariant s)
    (h : statusSystem.step s a = some s') : StatusInvariant s' := by
  have hterms := terms_step hs h
  intro q' p' hmem
  cases System.step_cases h with
  | @receive q hadmits =>
    rcases List.mem_append.mp hmem with hmem | hmem
    · exact hs q' p' hmem
    · cases List.mem_singleton.mp hmem
      exact .started
  | @get i q k next hi =>
    rcases State.mem_resume hmem with hmem | ⟨rfl, rfl⟩
    · exact hs q' p' hmem
    · exact (pollStage_get s.store (hs q' _ (List.mem_of_getElem? hi)).of_get).2.1
  | @set i q k item next hi =>
    rcases State.mem_resume hmem with hmem | ⟨rfl, rfl⟩
    · exact (hs q' p' hmem).mono hterms
    · exact (hs q' _ (List.mem_of_getElem? hi)).of_set.2.2.1.mono hterms
  | fail hi =>
    rcases State.mem_resume hmem with hmem | ⟨rfl, rfl⟩
    · exact hs q' p' hmem
    · exact .failed _

theorem statusInvariant_run {s t : StatusState} {as : List StatusAction} (hs : StatusInvariant s)
    (h : statusSystem.run s as = some t) : StatusInvariant t :=
  System.run_induction (fun hs _ hstep => statusInvariant_step hs hstep) h
    (System.within_true s as) hs

theorem statusInvariant_start {s : StatusState} (hs : s.requests = []) : StatusInvariant s := by
  intro q p hmem
  rw [hs] at hmem
  cases hmem

/-! ## Verdicts, and what overturns them

A verdict can be lost in one way only: a poll that got the item pending stores the other verdict. -/

/-- Completed and error. -/
def BridgingStatus.IsVerdict (v : BridgingStatus) : Prop := v ≠ .pending

/-- The item has this status. -/
def HasStatus (v : BridgingStatus) (item : StorageBridgingItem) : Prop := item.status = v

/-- A poll that is about to store its verdict does not find a verdict there that its own balance
    reading contradicts. -/
def NoLateVerdict (s : StatusState) : StatusAction → Prop
  | .advance i =>
    match s.requests[i]? with
    | some (q, .set k _ _) =>
      ∀ stored, s.store k = some stored → stored.status.IsVerdict →
        q.Supports stored stored.status
    | _ => True
  | _ => True

/-- **Only such a poll overturns a verdict.** A poll that sets the verdict that is there already,
    or one that sets it on a pending item, takes nothing back. -/
theorem noLateVerdict_iff {s : StatusState} {a : StatusAction} (hs : StatusInvariant s) :
    NoLateVerdict s a ↔ ∀ v : BridgingStatus, v.IsVerdict → Respects (HasStatus v) s a := by
  cases a with
  -- a new poll and a failing one set nothing
  | receive q => exact ⟨fun _ _ _ => trivial, fun _ => trivial⟩
  | fail i e => exact ⟨fun _ _ _ => trivial, fun _ => trivial⟩
  | advance i =>
    constructor
    · -- what is stored is supported by the same reading as what is set, so they agree
      intro hlate v hv q k item next hi hholds
      obtain ⟨stored, hstored, rfl⟩ := hholds
      simp only [NoLateVerdict, hi] at hlate
      obtain ⟨-, hsupports, -, ⟨before, hbefore, hterms⟩, -⟩ :=
        (hs q _ (List.mem_of_getElem? hi)).of_set
      rw [hstored, Option.some.injEq] at hbefore
      subst hbefore
      exact hsupports.unique ((hlate stored hstored hv).congr hterms)
    · -- what is set agrees with what is stored, so the reading supports that, too
      intro hrespects
      simp only [NoLateVerdict]
      split
      · next q k item next hi =>
        intro stored hstored hv
        obtain ⟨-, hsupports, -, ⟨before, hbefore, hterms⟩, -⟩ :=
          (hs q _ (List.mem_of_getElem? hi)).of_set
        rw [hstored, Option.some.injEq] at hbefore
        subst hbefore
        have hsame : item.status = stored.status :=
          hrespects _ hv q k item next hi ⟨stored, hstored, rfl⟩
        rw [← hsame]
        exact hsupports.congr hterms.symm
      · trivial

/-- What a poll has answered is what the store holds, once it is a verdict. -/
def AnswersHold (s : StatusState) : Prop :=
  ∀ q r, (q, .ret r) ∈ s.requests → r.status.IsVerdict →
    s.Holds (HasStatus r.status) q.orchestrationId

/-- **One step keeps the answers true**, if it overturns no verdict. -/
theorem answersHold_step {s s' : StatusState} {a : StatusAction} (hs : StatusInvariant s)
    (hanswers : AnswersHold s) (hlate : NoLateVerdict s a)
    (h : statusSystem.step s a = some s') : AnswersHold s' := by
  have hstays : ∀ {v : BridgingStatus} {k : String}, v.IsVerdict → s.Holds (HasStatus v) k →
      s'.Holds (HasStatus v) k :=
    fun hv hk => holds_step_of_respects ((noLateVerdict_iff hs).mp hlate _ hv) h hk
  intro q' r hmem hv
  cases System.step_cases h with
  | @receive q hadmits =>
    rcases List.mem_append.mp hmem with hmem | hmem
    · exact hstays hv (hanswers q' r hmem hv)
    · cases List.mem_singleton.mp hmem
  | @get i q k next hi =>
    rcases State.mem_resume hmem with hmem | ⟨rfl, hr⟩
    · exact hstays hv (hanswers q' r hmem hv)
    · -- the poll answered what it got
      have hget := (hs q' _ (List.mem_of_getElem? hi)).of_get
      obtain ⟨rfl, -, hanswer⟩ := pollStage_get s.store hget
      exact hanswer r hr.symm
  | @set i q k item next hi =>
    rcases State.mem_resume hmem with hmem | ⟨rfl, hr⟩
    · exact hstays hv (hanswers q' r hmem hv)
    · -- the poll answered what it set
      obtain ⟨rfl, -, -, -, hstatus⟩ := (hs q' _ (List.mem_of_getElem? hi)).of_set
      exact ⟨item, State.store_put_self _ item, (hstatus r hr.symm).symm⟩
  | fail hi =>
    rcases State.mem_resume hmem with hmem | ⟨-, hr⟩
    · exact hstays hv (hanswers q' r hmem hv)
    · cases hr

/-- From some point on: the item keeps its verdict, and the polls that start later answer it.
    Polls that started earlier may still answer that the bridging is pending. -/
structure Settled (from_ : Nat) (k : String) (v : BridgingStatus) (s : StatusState) : Prop where
  stored : s.Holds (HasStatus v) k
  later : ∀ (i : Nat) (q : StatusPoll) (p : StatusProcess), from_ ≤ i →
    s.requests[i]? = some (q, p) → q.orchestrationId = k →
      p = statusHandler q ∨ (∃ r, p = .ret r ∧ r.status = v) ∨ ∃ e, p = .throw e

/-- A poll that gets a verdict answers it. -/
theorem statusHandler_of_verdict {q : StatusPoll} {k : String} {item : StorageBridgingItem}
    {next : Option StorageBridgingItem → StatusProcess} (h : statusHandler q = .get k next)
    (hv : item.status.IsVerdict) : next (some item) = .ret item.response := by
  rw [statusHandler, Process.get.injEq] at h
  obtain ⟨-, rfl⟩ := h
  cases hstatus : item.status with
  | completed => simp only [hstatus]
  | error => simp only [hstatus]
  | pending => exact absurd hstatus hv

/-- **One step keeps what is settled**, if it overturns no verdict. -/
theorem settled_step {s s' : StatusState} {a : StatusAction} {n : Nat} {k : String}
    {v : BridgingStatus} (hs : StatusInvariant s) (hv : v.IsVerdict)
    (hsettled : Settled n k v s) (hlate : NoLateVerdict s a)
    (h : statusSystem.step s a = some s') : Settled n k v s' := by
  refine ⟨holds_step_of_respects ((noLateVerdict_iff hs).mp hlate v hv) h hsettled.stored, ?_⟩
  intro j q' p' hj hmem hk
  cases System.step_cases h with
  | @receive q hadmits =>
    -- a new poll has just started
    rw [List.getElem?_append] at hmem
    split at hmem
    · exact hsettled.later j q' p' hj hmem hk
    · obtain ⟨rfl, rfl⟩ := Prod.mk.inj (List.mem_singleton.mp (List.mem_of_getElem? hmem))
      exact Or.inl rfl
  | @get i q key next hi =>
    rcases State.getElem?_resume hmem with ⟨rfl, rfl, rfl⟩ | ⟨-, hmem⟩
    · -- the item it gets has its verdict
      have hget := (hs q' _ (List.mem_of_getElem? hi)).of_get
      obtain ⟨rfl, -, -⟩ := pollStage_get s.store hget
      obtain ⟨item, hitem, rfl⟩ := hsettled.stored
      rw [hk, hitem, statusHandler_of_verdict hget hv]
      exact Or.inr (Or.inl ⟨item.response, rfl, item.status_response⟩)
    · exact hsettled.later j q' p' hj hmem hk
  | @set i q key item next hi =>
    rcases State.getElem?_resume (s := s.put key item) hmem with ⟨rfl, rfl, rfl⟩ | ⟨-, hmem⟩
    · -- a poll that started later has nothing to set
      rcases hsettled.later i q' _ hj hi hk with hstart | ⟨r, hr, -⟩ | ⟨e, he⟩
      · cases hstart
      · cases hr
      · cases he
    · exact hsettled.later j q' p' hj hmem hk
  | fail hi =>
    rcases State.getElem?_resume hmem with ⟨rfl, rfl, rfl⟩ | ⟨-, hmem⟩
    · exact Or.inr (Or.inr ⟨_, rfl⟩)
    · exact hsettled.later j q' p' hj hmem hk

/-- Some poll has answered this status. -/
def Answered (v : BridgingStatus) (k : String) (s : StatusState) : Prop :=
  ∃ q r, (q, .ret r) ∈ s.requests ∧ q.orchestrationId = k ∧ r.status = v

/-- **The verdicts of a run are final**: once a verdict is stored or answered, it stays stored, and
    a poll that starts later answers nothing else. -/
def VerdictsFinal (s : StatusState) (as : List StatusAction) : Prop :=
  ∀ bs cs ds u t, as = bs ++ cs ++ ds → statusSystem.run s bs = some u →
    statusSystem.run u cs = some t → ∀ (k : String) (v : BridgingStatus), v.IsVerdict →
      u.Holds (HasStatus v) k ∨ Answered v k u →
      t.Holds (HasStatus v) k ∧
        ∀ (i : Nat) q r, u.requests.length ≤ i → t.requests[i]? = some (q, .ret r) →
          q.orchestrationId = k → r.status = v

/-- What has been answered is stored, as long as no verdict is overturned. -/
theorem answersHold_run {s t : StatusState} {as : List StatusAction} (hs : s.requests = [])
    (hrun : statusSystem.run s as = some t) (hwithin : statusSystem.Within NoLateVerdict s as) :
    AnswersHold t := by
  have hstart : AnswersHold s := by
    intro q r hmem
    rw [hs] at hmem
    cases hmem
  have hend : StatusInvariant t ∧ AnswersHold t :=
    System.run_induction (P := fun u => StatusInvariant u ∧ AnswersHold u)
      (fun hu hlate hstep => ⟨statusInvariant_step hu.1 hstep,
        answersHold_step hu.1 hu.2 hlate hstep⟩)
      hrun hwithin ⟨statusInvariant_start hs, hstart⟩
  exact hend.2

/-- What is settled stays settled along a run. -/
theorem settled_run {s t : StatusState} {as : List StatusAction} {k : String} {v : BridgingStatus}
    (hs : StatusInvariant s) (hv : v.IsVerdict) (hstored : s.Holds (HasStatus v) k)
    (hrun : statusSystem.run s as = some t) (hwithin : statusSystem.Within NoLateVerdict s as) :
    Settled s.requests.length k v t := by
  have hstart : Settled s.requests.length k v s := by
    refine ⟨hstored, fun i q p hi hmem _ => ?_⟩
    have hlt := (List.getElem?_eq_some_iff.mp hmem).1
    omega
  have hend : StatusInvariant t ∧ Settled s.requests.length k v t :=
    System.run_induction (P := fun u => StatusInvariant u ∧ Settled s.requests.length k v u)
      (fun hu hlate hstep => ⟨statusInvariant_step hu.1 hstep,
        settled_step hu.1 hv hu.2 hlate hstep⟩)
      hrun hwithin ⟨hs, hstart⟩
  exact hend.2

/-- **When verdicts are final.**  From any store, the verdicts of a run of polls are final exactly
    when no poll of the run comes to its set after a verdict that its own balance reading
    contradicts. -/
theorem status_final_iff {s t : StatusState} {as : List StatusAction} (hs : s.requests = [])
    (hrun : statusSystem.run s as = some t) :
    VerdictsFinal s as ↔ statusSystem.Within NoLateVerdict s as := by
  constructor
  · -- a set that changes a verdict would be a step of the run after which the verdict is not final
    intro hfinal
    refine System.within_of_steps fun bs a cs u heq hu => ?_
    have hinv : StatusInvariant u := statusInvariant_run (statusInvariant_start hs) hu
    refine (noLateVerdict_iff hinv).mpr fun v hv => ?_
    cases a with
    | receive q => trivial
    | fail i e => trivial
    | advance i =>
      intro q k item next hi hholds
      have hstep : statusSystem.run u [.advance i] = some ((u.put k item).resume i q next) := by
        simp only [System.run, System.step, hi, Option.bind_some]
      have hsplit : as = bs ++ [.advance i] ++ cs := by
        rw [heq, List.append_assoc, List.singleton_append]
      obtain ⟨⟨stored, hstored, hstatus⟩, -⟩ :=
        hfinal bs [.advance i] cs u _ hsplit hu hstep k v hv (Or.inl hholds)
      rw [State.store_resume, State.store_put_self, Option.some.injEq] at hstored
      exact hstored ▸ hstatus
  · -- what is stored or answered before is stored, and settled from there on
    intro hwithin bs cs ds u t' heq hu ht' k v hv hverdict
    subst heq
    obtain ⟨t'', hbscs, -⟩ := System.run_append.mp hrun
    obtain ⟨hfront, -⟩ := System.Within.of_append hwithin hbscs
    obtain ⟨hbs, hcs⟩ := System.Within.of_append hfront hu
    have hstored : u.Holds (HasStatus v) k := by
      rcases hverdict with hstored | ⟨q, r, hmem, rfl, rfl⟩
      · exact hstored
      · exact answersHold_run hs hu hbs q r hmem hv
    have hinv : StatusInvariant u := statusInvariant_run (statusInvariant_start hs) hu
    have hsettled := settled_run hinv hv hstored ht' hcs
    refine ⟨hsettled.stored, fun i q r hi hmem hk => ?_⟩
    rcases hsettled.later i q _ hi hmem hk with hstart | ⟨r', hr', hstatus⟩ | ⟨e, he⟩
    · cases hstart
    · cases hr'
      exact hstatus
    · cases he

/-! ## Two polls on either side of the timeout -/

/-- A bridging of 100 units, stored when the wallet had 40. -/
def demoBridgingItem : StorageBridgingItem where
  createdAt := 1750000000
  chainId := "eip155:10"
  wallet := .ofNat 20 0x1111111111111111111111111111111111111111
  contract := .ofNat 20 0x2222222222222222222222222222222222222222
  amountCurrent := 40
  amountExpected := 100
  status := .pending
  errorReason := none

/-- Nothing but that item stored. -/
def demoBridgingStore : StatusState :=
  State.put { store := fun _ => none, requests := [] } "demo" demoBridgingItem

/-- A poll that reads this balance at this time. -/
def demoPoll (balance : U256) (now : UInt64) : StatusPoll :=
  { orchestrationId := "demo", walletBalance := .ok balance, now := now, saved := .ok () }

/-- One poll sees the funds arrive and completes the bridging; a later one gets the verdict. -/
def arrivalRun : List StatusAction :=
  [.receive (demoPoll 100 1750000900), .advance 0, .advance 0,
    .receive (demoPoll 40 1750009000), .advance 1]

theorem status_final_iff_arrivalRun : VerdictsFinal demoBridgingStore arrivalRun := by
  obtain ⟨t, ht⟩ : ∃ t, statusSystem.run demoBridgingStore arrivalRun = some t := ⟨_, rfl⟩
  refine (status_final_iff rfl ht).mpr ⟨trivial, trivial, ?_, trivial, trivial, trivial⟩
  -- the one set finds the item pending
  intro stored hstored hverdict
  cases hstored
  exact absurd rfl hverdict

/-- Both polls get the pending item.  The first reads its balance before the funds arrive and the
    clock after the timeout, the second sees the funds; the second stores and answers first. -/
def timeoutRun : List StatusAction :=
  [.receive (demoPoll 40 1750001801), .receive (demoPoll 100 1750001800), .advance 0, .advance 1,
    .advance 1, .advance 0, .receive (demoPoll 100 1750001900), .advance 2]

/-- After the answer that the bridging is completed, the item is stored as an error, and a poll
    that starts later answers the error. -/
theorem timeoutRun_overturns :
    (∃ t, statusSystem.run demoBridgingStore timeoutRun = some t) ∧
      ¬ VerdictsFinal demoBridgingStore timeoutRun := by
  refine ⟨⟨_, rfl⟩, fun hfinal => ?_⟩
  obtain ⟨-, hlater⟩ := hfinal (timeoutRun.take 5) (timeoutRun.drop 5) [] _ _ rfl rfl rfl "demo"
    .completed (fun h => by cases h)
    (Or.inr ⟨_, .completed 1750000000, List.mem_of_getElem? (i := 1) rfl, rfl, rfl⟩)
  cases hlater 2 _ (.error 1750000000 "Bridging timeout") (by decide) rfl rfl

end BlockchainApi
