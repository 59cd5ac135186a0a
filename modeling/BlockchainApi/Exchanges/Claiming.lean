/-
  Whose row it is: `claim_due_batch`, and the calls that give a row back.

  A claim locks the rows it returns, for 15 minutes.  So once a reconciler has claimed a row, no
  other claim should return it until the reconciler has finished it or the 15 minutes are over.

  1. **Rows that rest.** What keeps claims off a row up to some deadline is that the row is not due
     until then (`RestsUntil`).  A lock makes it so, a marking and an expiry make it so for good,
     and a claim takes no row that rests.  That it is the right notion is `excludes_iff`: of a row
     that does not rest there is a claim that returns it, one that skips all other rows.
  2. **Calls that free a row** (`Frees`).  A touch clears the lock whoever makes it, and from then
     on only the backoff of 5 minutes keeps claims off.  A call that frees nothing keeps a row at
     rest (`restsUntil_after`), and one that does leaves it due at the deadline (`isDue_after`).
  3. **Exclusion.** `claimed_row_is_held` is what remains: the row is the reconciler's as long as
     nobody else's touch reaches it while it is pending, up to 5 minutes before the lock ends.  The
     induction is on the run after the claim, and the reconciler's own steps are told apart from
     those of others (`FreedByOther`).
-/
import BlockchainApi.Exchanges.Reconciliation

namespace BlockchainApi

/-! ## Rows that rest: not due before a deadline -/

namespace ExchangeTransaction

variable {row : ExchangeTransaction} {now deadline : Nat}

/-- The row is not due before the deadline is over. -/
def RestsUntil (row : ExchangeTransaction) (deadline : Nat) : Prop :=
  ∀ now ≤ deadline, row.isDue now = false

/-- A row that is not pending is never due. -/
theorem restsUntil_of_finished (h : row.status ≠ .pending) : row.RestsUntil deadline := by
  intro now _
  by_contra hdue
  exact h (isDue_iff.mp (eq_true_of_ne_false hdue)).1

/-- A locked row rests for 15 minutes. -/
theorem restsUntil_lock (h : deadline ≤ now + minutes lockExpirationMinutes) :
    (row.lock now).RestsUntil deadline := by
  intro later hlater
  by_contra hdue
  have hpast := (isDue_iff.mp (eq_true_of_ne_false hdue)).2.1
  have hover : now + minutes lockExpirationMinutes < later := by simpa [lock, isPast] using hpast
  omega

/-- A row that is touched rests for 5 minutes. -/
theorem restsUntil_touch (h : deadline ≤ now + minutes checkBackoffMinutes) :
    (row.touch now).RestsUntil deadline := by
  intro later hlater
  by_contra hdue
  have hpast := (isDue_iff.mp (eq_true_of_ne_false hdue)).2.2.1
  have hover : now + minutes checkBackoffMinutes < later := by simpa [touch, isPast] using hpast
  omega

/-- It rests no longer, if it is pending and old enough. -/
theorem isDue_touch (hpending : row.status = .pending)
    (hold : row.createdAt + hours minClaimAgeHours < deadline)
    (hnow : now + minutes checkBackoffMinutes < deadline) :
    (row.touch now).isDue deadline = true := by
  refine isDue_iff.mpr ⟨hpending, rfl, ?_, hold⟩
  simpa [touch, isPast] using hnow

end ExchangeTransaction

/-! ## Calls, and the one that ends the rest of a row -/

namespace LedgerCall

variable {db : DbCall} {ledger : Ledger} {call : LedgerCall} {row : ExchangeTransaction}
variable {deadline : Nat}

/-- The call clears the lock of a pending row, and the backoff ends before the deadline. -/
def Frees (db : DbCall) (row : ExchangeTransaction) (deadline : Nat) : LedgerCall → Prop
  | .touch exchangeId sessionId =>
    row.sessionId = sessionId ∧ isStored exchangeId = true ∧ db.goesThrough none = true ∧
      row.status = .pending ∧ db.now + minutes checkBackoffMinutes < deadline
  | _ => False

/-- **A row that rests** goes on resting, unless the call frees it. The cases are those of what a
    call can do to a row; a claim takes no row that rests, so it can only come after the
    deadline. -/
theorem restsUntil_after (hrests : row.RestsUntil deadline) (h : ¬ call.Frees db row deadline) :
    (call.after db ledger row).RestsUntil deadline := by
  rcases after_cases db ledger call row with hkept | ⟨m, -, -, -, hmark⟩ |
      ⟨exchangeId, rfl, hstored, hgoes, htouch⟩ | ⟨hdue, hlock⟩ | ⟨-, hexpire⟩
  · -- it is kept
    rw [hkept]
    exact hrests
  · -- it is marked, and finished
    rw [hmark]
    refine ExchangeTransaction.restsUntil_of_finished ?_
    cases m <;> simp [Marking.on, ExchangeTransaction.mark, Marking.status]
  · -- it is touched: the backoff outlasts the deadline, or the row is finished anyway
    rw [htouch]
    by_cases hpending : row.status = .pending
    · have hsoon : deadline ≤ db.now + minutes checkBackoffMinutes := by
        by_contra hlate
        exact h ⟨rfl, hstored, hgoes, hpending, not_le.mp hlate⟩
      exact ExchangeTransaction.restsUntil_touch hsoon
    · exact ExchangeTransaction.restsUntil_of_finished hpending
  · -- a row that is taken is due, so the deadline is over
    have hover : deadline < db.now := by
      by_contra hnot
      rw [hrests db.now (not_lt.mp hnot)] at hdue
      cases hdue
    have hlater : deadline ≤ db.now + minutes lockExpirationMinutes := by omega
    rw [hlock]
    exact ExchangeTransaction.restsUntil_lock hlater
  · -- it has expired
    rw [hexpire]
    refine ExchangeTransaction.restsUntil_of_finished ?_
    simp [ExchangeTransaction.expire]

/-- A call that frees a row leaves it due at the deadline. -/
theorem isDue_after (hold : row.createdAt + hours minClaimAgeHours < deadline)
    (h : call.Frees db row deadline) : (call.after db ledger row).isDue deadline = true := by
  cases call with
  | touch exchangeId sessionId =>
    obtain ⟨hsession, hstored, hgoes, hpending, hnow⟩ := h
    rw [after, if_pos ⟨hsession, hstored, hgoes⟩]
    exact ExchangeTransaction.isDue_touch hpending hold hnow
  | create tx => cases h
  | mark m => cases h
  | claim order skipped maxClaim => cases h
  | expire maxAgeHours => cases h

end LedgerCall

/-! ## Exclusion: the claims of other reconcilers -/

namespace Exchanges

variable {s s' : Exchanges} {a : ExchangeAction} {sessionId : String} {deadline w : Nat}
variable {row : ExchangeTransaction}

/-- No `claim_due_batch` up to the deadline returns the row of the session. -/
def Excludes (s : Exchanges) (sessionId : String) (deadline : Nat) : Prop :=
  ∀ db order skipped batch, db.now ≤ deadline →
    (claimDueBatch db s.ledger order skipped claimBatchSize).1 = .ok batch →
      ∀ row ∈ batch, row.sessionId ≠ sessionId

/-- The reconciler's own mark or touch of the row of the session. -/
def Finishes (s : Exchanges) (w : Nat) (sessionId : String) : ExchangeAction → Prop
  | .process v _ _ => v = w ∧ ∃ row rest, s.workers w = .processing row rest ∧
      row.sessionId = sessionId
  | _ => False

/-- The step frees the row of the session. -/
def Frees (s : Exchanges) (sessionId : String) (deadline : Nat) (a : ExchangeAction) : Prop :=
  ∃ db call, s.callOf a = some (db, call) ∧
    ∃ row ∈ s.ledger.rows, row.sessionId = sessionId ∧ call.Frees db row deadline

/-- Somebody else than the reconciler frees it. -/
def FreedByOther (s : Exchanges) (w : Nat) (sessionId : String) (deadline : Nat)
    (a : ExchangeAction) : Prop :=
  s.Frees sessionId deadline a ∧ ¬ s.Finishes w sessionId a

/-- **No claim returns a row** exactly as long as it rests: a claim that skips all other rows
    returns it when it is due. -/
theorem excludes_iff (hrow : row ∈ s.ledger.rows) :
    s.Excludes row.sessionId deadline ↔ row.RestsUntil deadline := by
  constructor
  · -- a row that is due is returned by the claim that skips all others
    intro hexcludes now hnow
    by_contra hnot
    have hdue : row.isDue now = true := eq_true_of_ne_false hnot
    have hselected : s.ledger.rows.filter (fun r =>
        r.isDue now && !decide (r.sessionId ≠ row.sessionId)) = [row] := by
      refine Table.filter_eq_singleton hrow (by simp [hdue]) fun x hx hselected => ?_
      have hsession : x.sessionId = row.sessionId := by
        rw [Bool.and_eq_true] at hselected
        simpa using hselected.2
      exact Table.eq_of_key_eq hx hrow hsession
    have hcandidates : s.ledger.candidates now .stored
        (fun id => decide (id ≠ row.sessionId)) claimBatchSize = [row] := by
      have hstored : RowOrder.stored.arrange s.ledger.rows = s.ledger.rows := rfl
      rw [Ledger.candidates, hstored, hselected]
      rfl
    have hclaimed : row.lock now ∈
        (s.ledger.claimDueBatch now .stored (fun id => decide (id ≠ row.sessionId))
          claimBatchSize).2 := by
      rw [Ledger.mem_claimed, hcandidates]
      exact ⟨row, List.mem_singleton_self row, rfl⟩
    exact hexcludes (.ok now) .stored _ _ hnow rfl _ hclaimed rfl
  · -- a row that a claim returns was due
    intro hrests db order skipped batch hnow hbatch x hx hsession
    obtain ⟨-, r, hr, rfl⟩ := mem_of_claimed hbatch hx
    obtain ⟨hmem, hdue⟩ := Ledger.mem_candidates hr
    have hsame : r = row := Table.eq_of_key_eq hmem hrow hsession
    rw [hsame, hrests db.now hnow] at hdue
    cases hdue

/-- **A step keeps claims off a row** unless it frees the row. -/
theorem excludes_step (h : exchanges.step s a = some s') (hrow : row ∈ s.ledger.rows)
    (hexcludes : s.Excludes row.sessionId deadline) (hkept : ¬ s.Frees row.sessionId deadline a) :
    s'.Excludes row.sessionId deadline := by
  rw [excludes_iff hrow] at hexcludes
  have hledger := ledger_step h
  cases hcall : s.callOf a with
  | none =>
    rw [hcall] at hledger
    exact (excludes_iff (hledger ▸ hrow)).mpr hexcludes
  | some call =>
    rw [hcall] at hledger
    have hafter : call.2.after call.1 s.ledger row ∈ s'.ledger.rows := by
      rw [hledger]
      exact LedgerCall.mem_apply.mpr (.inl ⟨row, hrow, rfl⟩)
    have hrests : (call.2.after call.1 s.ledger row).RestsUntil deadline :=
      LedgerCall.restsUntil_after hexcludes fun hfrees =>
        hkept ⟨call.1, call.2, hcall, row, hrow, rfl, hfrees⟩
    rw [← LedgerCall.sessionId_after]
    exact (excludes_iff hafter).mpr hrests

/-- A step that frees a row lets a claim return it at the deadline. -/
theorem not_excludes_step (h : exchanges.step s a = some s') (hrow : row ∈ s.ledger.rows)
    (hold : row.createdAt + hours minClaimAgeHours < deadline)
    (hfrees : s.Frees row.sessionId deadline a) : ¬ s'.Excludes row.sessionId deadline := by
  obtain ⟨db, call, hcall, r, hr, hsession, hfrees⟩ := hfrees
  have hsame : r = row := Table.eq_of_key_eq hr hrow hsession
  subst hsame
  have hledger := ledger_step h
  rw [hcall] at hledger
  have hafter : call.after db s.ledger r ∈ s'.ledger.rows := by
    rw [hledger]
    exact LedgerCall.mem_apply.mpr (.inl ⟨r, hr, rfl⟩)
  have hdue : (call.after db s.ledger r).isDue deadline = true := LedgerCall.isDue_after hold hfrees
  intro hexcludes
  rw [← LedgerCall.sessionId_after, excludes_iff hafter] at hexcludes
  rw [hexcludes deadline le_rfl] at hdue
  cases hdue

/-- The row of a session stays. -/
theorem exists_row_step (h : exchanges.step s a = some s')
    (hrow : ∃ row ∈ s.ledger.rows, row.sessionId = sessionId) :
    ∃ row ∈ s'.ledger.rows, row.sessionId = sessionId := by
  obtain ⟨row, hrow, hsession⟩ := hrow
  obtain ⟨row', hrow', hsession', -⟩ := mem_ledger_step h hrow
  exact ⟨row', hrow', hsession'.trans hsession⟩

/-- **A claim** keeps other claims off the rows it returns. -/
theorem excludes_claim {db : DbCall} {order : RowOrder ExchangeTransaction}
    {skipped : String → Bool} {batch : List ExchangeTransaction}
    (hstep : exchanges.step s (.claim w db order skipped) = some s')
    (hbatch : (claimDueBatch db s.ledger order skipped claimBatchSize).1 = .ok batch)
    (hrow : row ∈ batch) :
    row ∈ s'.ledger.rows ∧
      s'.Excludes row.sessionId (db.now + minutes lockExpirationMinutes) := by
  obtain ⟨hstatement, r, hr, rfl⟩ := mem_of_claimed hbatch hrow
  have hafter : (LedgerCall.claim order skipped claimBatchSize).after db s.ledger r =
      r.lock db.now := if_pos ⟨hstatement, hr⟩
  have hmem : r.lock db.now ∈ s'.ledger.rows := by
    rw [ledger_step hstep]
    exact LedgerCall.mem_apply.mpr (.inl ⟨r, (Ledger.mem_candidates hr).1, hafter⟩)
  exact ⟨hmem, (excludes_iff hmem).mpr (ExchangeTransaction.restsUntil_lock le_rfl)⟩

end Exchanges

/-- **A claimed row is held**: from the claim on, as long as the reconciler has not finished the
    row, no claim of the next 15 minutes returns it, in any run in which nobody else frees it.
    Freeing is what matters: a step that frees a row from which claims are kept off lets a claim
    return it before the deadline is over, and any other step keeps claims off. -/
theorem claimed_row_is_held {s₀ s₁ : Exchanges} {w : Nat} {db : DbCall}
    {order : RowOrder ExchangeTransaction} {skipped : String → Bool}
    {batch : List ExchangeTransaction} {row : ExchangeTransaction}
    (hclaim : exchanges.step s₀ (.claim w db order skipped) = some s₁)
    (hbatch : (claimDueBatch db s₀.ledger order skipped claimBatchSize).1 = .ok batch)
    (hrow : row ∈ batch) :
    (∀ actions s₂, exchanges.run s₁ actions = some s₂ →
        exchanges.Within (fun s a => ¬ s.Finishes w row.sessionId a) s₁ actions →
        exchanges.Within (fun s a => ¬ s.FreedByOther w row.sessionId
          (db.now + minutes lockExpirationMinutes) a) s₁ actions →
        s₂.Excludes row.sessionId (db.now + minutes lockExpirationMinutes)) ∧
      ∀ s a s' r deadline, exchanges.step s a = some s' → r ∈ s.ledger.rows →
        r.createdAt + hours minClaimAgeHours < deadline → s.Excludes r.sessionId deadline →
          (s'.Excludes r.sessionId deadline ↔ ¬ s.Frees r.sessionId deadline a) := by
  obtain ⟨hmem, hexcludes⟩ := Exchanges.excludes_claim hclaim hbatch hrow
  constructor
  · intro actions s₂ hrun hunfinished hothers
    have hend : (∃ r ∈ s₂.ledger.rows, r.sessionId = row.sessionId) ∧
        s₂.Excludes row.sessionId (db.now + minutes lockExpirationMinutes) := by
      refine Transitions.Machine.run_induction (P := fun s : Exchanges =>
        (∃ r ∈ s.ledger.rows, r.sessionId = row.sessionId) ∧
          s.Excludes row.sessionId (db.now + minutes lockExpirationMinutes))
        ?_ (hunfinished.and hothers) hrun ⟨⟨row, hmem, rfl⟩, hexcludes⟩
      rintro s a s' ⟨hthere, hexcludes⟩ ⟨hunfinished, hother⟩ hstep
      refine ⟨Exchanges.exists_row_step hstep hthere, ?_⟩
      obtain ⟨r, hr, hsession⟩ := hthere
      rw [← hsession] at hexcludes hunfinished hother ⊢
      -- what is not freed by another is not freed, as the reconciler has not finished
      exact Exchanges.excludes_step hstep hr hexcludes fun hfrees => hother ⟨hfrees, hunfinished⟩
    exact hend.2
  · intro s a s' r deadline hstep hr hold hexcludes
    constructor
    · intro hkept hfrees
      exact Exchanges.not_excludes_step hstep hr hold hfrees hkept
    · exact Exchanges.excludes_step hstep hr hexcludes

/-! ## A row that two reconcilers hold

A status request of a user touches the row that a reconciler has locked. -/

/-- A user asks Binance, and its transaction is in progress. -/
private def pollAt (now : Nat) : ExchangeAction :=
  .poll (.ok now) (fun _ => true) (fun _ _ => .ok ⟨.inProgress, none⟩) "project"
    ⟨"binance", sessionIdOf binanceTransaction.sessionId⟩

/-- The transaction of Binance, claimed after 4 hours. -/
private def claimAfterFourHours : List ExchangeAction :=
  [.create (.ok 0) binanceTransaction, .claim 0 (.ok (hours 4)) .stored fun _ => false]

/-- **The failing input.**  A user asks one minute after the claim; 6 minutes later another
    reconciler claims the row that the first one is still about to process. -/
theorem poll_lets_another_claim :
    ∃ s₁ s₂ s₃ row row', exchanges.run .start claimAfterFourHours = some s₁ ∧
      s₁.workers 0 = .processing row [] ∧
      exchanges.run s₁ [pollAt (hours 4 + minutes 1)] = some s₂ ∧
      exchanges.step s₂ (.claim 1 (.ok (hours 4 + minutes 7)) .stored fun _ => false) = some s₃ ∧
      s₃.workers 0 = .processing row [] ∧ s₃.workers 1 = .processing row' [] ∧
      row'.sessionId = row.sessionId ∧
      ¬ s₂.Excludes row.sessionId (hours 4 + minutes lockExpirationMinutes) := by
  have hrun : ∃ s₁ s₂ s₃ row row', exchanges.run .start claimAfterFourHours = some s₁ ∧
      s₁.workers 0 = .processing row [] ∧
      exchanges.run s₁ [pollAt (hours 4 + minutes 1)] = some s₂ ∧
      exchanges.step s₂ (.claim 1 (.ok (hours 4 + minutes 7)) .stored fun _ => false) = some s₃ ∧
      s₃.workers 0 = .processing row [] ∧ s₃.workers 1 = .processing row' [] ∧
      row'.sessionId = row.sessionId ∧
      (claimDueBatch (.ok (hours 4 + minutes 7)) s₂.ledger .stored (fun _ => false)
        claimBatchSize).1 = .ok [row'] :=
    ⟨_, _, _, _, _, rfl, rfl, rfl, rfl, rfl, rfl, rfl, rfl⟩
  obtain ⟨s₁, s₂, s₃, row, row', hs₁, hfirst, hs₂, hs₃, hstill, hsecond, hsession, hbatch⟩ := hrun
  refine ⟨s₁, s₂, s₃, row, row', hs₁, hfirst, hs₂, hs₃, hstill, hsecond, hsession, ?_⟩
  intro hexcludes
  have hnow : hours 4 + minutes 7 ≤ hours 4 + minutes lockExpirationMinutes := by decide
  exact hexcludes (.ok (hours 4 + minutes 7)) .stored (fun _ => false) [row'] hnow hbatch row'
    (List.mem_singleton_self row') hsession

/-- A user who asks 11 minutes after the claim lets nobody in: the backoff outlasts the lock. -/
theorem late_poll_lets_nobody_claim :
    ∃ s₁ s₂ row, exchanges.run .start claimAfterFourHours = some s₁ ∧
      s₁.workers 0 = .processing row [] ∧
      exchanges.run s₁ [pollAt (hours 4 + minutes 11)] = some s₂ ∧
      s₂.Excludes row.sessionId (hours 4 + minutes lockExpirationMinutes) := by
  have hrun : ∃ s₀ s₁ s₂ row,
      exchanges.run .start [.create (.ok 0) binanceTransaction] = some s₀ ∧
      exchanges.step s₀ (.claim 0 (.ok (hours 4)) .stored fun _ => false) = some s₁ ∧
      (claimDueBatch (.ok (hours 4)) s₀.ledger .stored (fun _ => false) claimBatchSize).1 =
        .ok [row] ∧
      s₁.workers 0 = .processing row [] ∧
      exchanges.run s₁ [pollAt (hours 4 + minutes 11)] = some s₂ ∧
      s₁.callOf (pollAt (hours 4 + minutes 11)) = some (.ok (hours 4 + minutes 11),
        .touch "binance" (sessionIdOf binanceTransaction.sessionId)) :=
    ⟨_, _, _, _, rfl, rfl, rfl, rfl, rfl, rfl⟩
  obtain ⟨s₀, s₁, s₂, row, hs₀, hclaim, hbatch, hworker, hs₂, hcall⟩ := hrun
  have hs₁ : exchanges.run .start claimAfterFourHours = some s₁ :=
    Transitions.Machine.run_concat.mpr ⟨s₀, hs₀, hclaim⟩
  refine ⟨s₁, s₂, row, hs₁, hworker, hs₂, ?_⟩
  refine (claimed_row_is_held hclaim hbatch (List.mem_singleton_self row)).1 _ s₂ hs₂
    ⟨fun h => h, fun _ _ => trivial⟩ ⟨?_, fun _ _ => trivial⟩
  rintro ⟨⟨db, call, hcall', r, -, -, hfrees⟩, -⟩
  rw [hcall] at hcall'
  cases hcall'
  -- the deadline of the lock is before the end of the backoff
  have hnow : ¬ hours 4 + minutes 11 + minutes checkBackoffMinutes <
      hours 4 + minutes lockExpirationMinutes := by decide
  exact hnow hfrees.2.2.2.2

end BlockchainApi
