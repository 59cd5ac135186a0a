/-
  Who writes to the exchange ledger: status requests of users
  (`handlers/json_rpc/exchanges/get_exchange_buy_status.rs`) and the reconciler
  (`handlers/json_rpc/exchanges/reconciler.rs`).

  Both ask an exchange for the status of a session and turn its answer into one call on the ledger
  (`GetBuyStatusResponse.call`).  What an exchange answers is not constrained.

  1. **Status requests.** The exchange that is asked is the one the request names
     (`GetExchangeBuyStatusRequest.Asks`), and what the call on the ledger returns is ignored.
  2. **The reconciler.** A worker claims a batch, goes through it row by row, and expires old rows
     at the end.  For each row it asks the exchange of the row; a row
     without a project, or of an exchange that it does not ask, it gives up.
  3. **The whole.** In `exchanges`, users create transactions and ask for their status, and any
     number of reconcilers work on the same ledger.  Each step is one call on the ledger, at a time
     of its own, and may fail; so the runs of `exchanges` are the interleavings.  `onLedger` shows
     each run as a run of `ledgerCalls`, and carries the row invariant over.
  4. **The result** (`ledger_invariant`) is that invariant, and what it gives the reconciler:
     whatever it has processed is finished or released.  For that a second invariant is needed, that
     the rows a reconciler holds are still rows of the ledger (`HoldsLedgerRows`).
-/
import BlockchainApi.Exchanges.Transactions

namespace BlockchainApi

/-! ## Answers of the exchanges -/

/-- `BuyTransactionStatus`. -/
inductive BuyTransactionStatus where
  | unknown
  | inProgress
  | success
  | failed
  deriving DecidableEq

/-- The outcome of an order that has one. -/
def BuyTransactionStatus.outcome : BuyTransactionStatus → Option TxStatus
  | .success => some .succeeded
  | .failed => some .failed
  | _ => none

/-- `GetBuyStatusResponse` and `GetExchangeBuyStatusResponse`. -/
structure GetBuyStatusResponse where
  status : BuyTransactionStatus
  txHash : Option String

/-- `GetBuyStatusParams`. -/
structure GetBuyStatusParams where
  projectId : String
  sessionId : String

/-- `ExchangeError`. -/
inductive ExchangeError where
  | configurationError (text : String)
  | validationError (text : String)
  | getPayUrlError (text : String)
  | featureNotEnabled (text : String)
  | exchangeNotEnabled (text : String)
  | projectDataError (text : String)
  | internalError (text : String)

/-- `get_buy_status` of the exchanges. -/
abbrev GetBuyStatus :=
  ExchangeType → GetBuyStatusParams → Except ExchangeError GetBuyStatusResponse

/-- The call that an answer leads to. -/
def GetBuyStatusResponse.call (response : GetBuyStatusResponse) (exchangeId sessionId : String) :
    LedgerCall :=
  match response.status with
  | .success => .mark (.succeeded sessionId exchangeId response.txHash)
  | .failed => .mark (.failed sessionId exchangeId (some "provider_failed") response.txHash)
  | _ => .touch exchangeId sessionId

/-! ## Status requests: what a user asks, and of whom -/

/-- `GetExchangeBuyStatusRequest`. -/
structure GetExchangeBuyStatusRequest where
  exchangeId : String
  sessionId : String

/-- `GetExchangeBuyStatusError`. -/
inductive GetExchangeBuyStatusError where
  | validationError (text : String)
  | exchangeNotFound (e : ExchangeError)
  /-- `Unable to get exchange buy status: {e:?}`. -/
  | internalError (e : ExchangeError)

/-- `MAX_SESSION_ID_LENGTH`. -/
def maxSessionIdLength : Nat := 50

/-- `get_exchange_by_id`; whether an exchange is enabled depends on the features of the project. -/
def getExchangeById (isEnabled : ExchangeType → Bool) (id : String) :
    Except ExchangeError ExchangeType :=
  match ExchangeType.fromId id with
  | none => .error (.validationError ("Exchange " ++ id ++ " not found"))
  | some exchange =>
    if isEnabled exchange then .ok exchange
    else .error (.exchangeNotEnabled ("Exchange " ++ id ++ " is not enabled"))

/-- `get_exchange_by_id` finds the enabled exchange of the id. -/
theorem getExchangeById_eq_ok_iff {isEnabled : ExchangeType → Bool} {id : String}
    {exchange : ExchangeType} :
    getExchangeById isEnabled id = .ok exchange ↔
      exchange.id = id ∧ isEnabled exchange = true := by
  rw [getExchangeById, ← ExchangeType.fromId_eq_some_iff]
  cases ExchangeType.fromId id with
  | none => simp
  | some found =>
    by_cases henabled : isEnabled found = true
    · simp only [henabled, if_true, Except.ok.injEq, Option.some.injEq]
      constructor
      · rintro rfl
        exact ⟨rfl, henabled⟩
      · rintro ⟨rfl, -⟩
        rfl
    · simp only [henabled, Bool.false_eq_true, if_false, reduceCtorEq, Option.some.injEq, false_iff]
      rintro ⟨rfl, h⟩
      exact henabled h

/-- The answer that `get_exchange_buy_status::handler_internal` returns. -/
def buyStatus (isEnabled : ExchangeType → Bool) (getBuyStatus : GetBuyStatus) (projectId : String)
    (request : GetExchangeBuyStatusRequest) :
    Except GetExchangeBuyStatusError GetBuyStatusResponse :=
  match getExchangeById isEnabled request.exchangeId with
  | .error e => .error (.exchangeNotFound e)
  | .ok exchange =>
    if request.sessionId.isEmpty || maxSessionIdLength < request.sessionId.utf8ByteSize then
      .error (.validationError "Invalid session ID")
    else
      match getBuyStatus exchange ⟨projectId, request.sessionId⟩ with
      | .ok response => .ok response
      | .error (.validationError text) => .error (.validationError text)
      | .error e => .error (.internalError e)

/-- `get_exchange_buy_status::handler_internal`.  What the call on the ledger returns is ignored. -/
def getExchangeBuyStatus (isEnabled : ExchangeType → Bool) (getBuyStatus : GetBuyStatus)
    (projectId : String) (request : GetExchangeBuyStatusRequest) (db : DbCall) (ledger : Ledger) :
    Except GetExchangeBuyStatusError GetBuyStatusResponse × Ledger :=
  match buyStatus isEnabled getBuyStatus projectId request with
  | .ok response =>
    (.ok response, (response.call request.exchangeId request.sessionId).apply db ledger)
  | .error e => (.error e, ledger)

/-- The request is let through to an exchange: that is the one asked. -/
def GetExchangeBuyStatusRequest.Asks (isEnabled : ExchangeType → Bool)
    (request : GetExchangeBuyStatusRequest) (exchange : ExchangeType) : Prop :=
  getExchangeById isEnabled request.exchangeId = .ok exchange ∧
    (request.sessionId.isEmpty || maxSessionIdLength < request.sessionId.utf8ByteSize) = false

/-- **An answer** is the one that the exchange asked has given, about the session of the request
    and for the project of the caller. -/
theorem buyStatus_eq_ok {isEnabled : ExchangeType → Bool} {getBuyStatus : GetBuyStatus}
    {projectId : String} {request : GetExchangeBuyStatusRequest} {response : GetBuyStatusResponse} :
    buyStatus isEnabled getBuyStatus projectId request = .ok response ↔
      ∃ exchange, request.Asks isEnabled exchange ∧
        getBuyStatus exchange ⟨projectId, request.sessionId⟩ = .ok response := by
  rw [buyStatus]
  cases hexchange : getExchangeById isEnabled request.exchangeId with
  | error e => simp [GetExchangeBuyStatusRequest.Asks, hexchange]
  | ok exchange =>
    simp only [GetExchangeBuyStatusRequest.Asks, hexchange, Except.ok.injEq]
    cases hsession : (request.sessionId.isEmpty ||
        decide (maxSessionIdLength < request.sessionId.utf8ByteSize)) with
    | true => simp
    | false =>
      simp only [Bool.false_eq_true, if_false, and_true, exists_eq_left']
      cases getBuyStatus exchange ⟨projectId, request.sessionId⟩ with
      | ok answer => simp
      | error e => cases e <;> simp

/-! ## The reconciler: where it is in its loop -/

/-- `CLAIM_BATCH_SIZE`. -/
def claimBatchSize : Nat := 200

/-- `EXPIRE_PENDING_AFTER_HOURS`. -/
def expirePendingAfterHours : Nat := 12

/-- The call that the reconciler ends the processing of a row with. -/
def reconcileCall (getBuyStatus : GetBuyStatus) (row : ExchangeTransaction) : LedgerCall :=
  let giveUp := LedgerCall.mark
    (.failed row.sessionId row.exchangeId (some "provider_failed") none)
  match row.projectId with
  | none => giveUp
  | some projectId =>
    let ask := fun exchange =>
      match getBuyStatus exchange ⟨projectId, row.sessionId⟩ with
      | .ok response => response.call row.exchangeId row.sessionId
      | .error _ => .touch row.exchangeId row.sessionId
    match ExchangeType.fromId row.exchangeId with
    | some .coinbase => ask .coinbase
    | some .binance => ask .binance
    | _ => giveUp

/-- Where a reconciler is in its loop. -/
inductive Worker where
  | idle
  /-- About to finish a row, with the rest of the batch to come. -/
  | processing (row : ExchangeTransaction) (rest : List ExchangeTransaction)
  | expiring

namespace Worker

/-- After the claim. -/
def claimed : Except DatabaseError (List ExchangeTransaction) → Worker
  | .ok (row :: rest) => .processing row rest
  | _ => .idle

/-- After a row. -/
def next : List ExchangeTransaction → Worker
  | row :: rest => .processing row rest
  | [] => .expiring

/-- The rows it has not finished. -/
def rows : Worker → List ExchangeTransaction
  | .processing row rest => row :: rest
  | _ => []

theorem mem_rows_claimed {result : Except DatabaseError (List ExchangeTransaction)}
    {row : ExchangeTransaction} :
    row ∈ (claimed result).rows ↔ ∃ batch, result = .ok batch ∧ row ∈ batch := by
  match result with
  | .ok [] => simp [claimed, rows]
  | .ok (first :: rest) => simp [claimed, rows]
  | .error e => simp [claimed, rows]

@[simp] theorem rows_next (rest : List ExchangeTransaction) : (next rest).rows = rest := by
  cases rest <;> rfl

end Worker

/-! ## The whole: users and reconcilers on one ledger -/

/-- The ledger, and the reconcilers. -/
structure Exchanges where
  ledger : Ledger
  workers : Nat → Worker

inductive ExchangeAction where
  | create (db : DbCall) (tx : NewExchangeTransaction)
  | poll (db : DbCall) (isEnabled : ExchangeType → Bool) (getBuyStatus : GetBuyStatus)
    (projectId : String) (request : GetExchangeBuyStatusRequest)
  | claim (w : Nat) (db : DbCall) (order : RowOrder ExchangeTransaction) (skipped : String → Bool)
  | process (w : Nat) (db : DbCall) (getBuyStatus : GetBuyStatus)
  | expire (w : Nat) (db : DbCall)
  /-- A reconciler stops, and starts again. -/
  | restart (w : Nat)

namespace Exchanges

/-- Nothing yet. -/
def start : Exchanges := ⟨.empty, fun _ => .idle⟩

def step (s : Exchanges) : ExchangeAction → Option Exchanges
  | .create db tx => some { s with ledger := (createTransaction db s.ledger tx).2 }
  | .poll db isEnabled getBuyStatus projectId request =>
    some { s with
      ledger := (getExchangeBuyStatus isEnabled getBuyStatus projectId request db s.ledger).2 }
  | .claim w db order skipped =>
    match s.workers w with
    | .idle =>
      let (result, ledger) := claimDueBatch db s.ledger order skipped claimBatchSize
      some ⟨ledger, Function.update s.workers w (.claimed result)⟩
    | _ => none
  | .process w db getBuyStatus =>
    match s.workers w with
    | .processing row rest =>
      some ⟨(reconcileCall getBuyStatus row).apply db s.ledger,
        Function.update s.workers w (.next rest)⟩
    | _ => none
  | .expire w db =>
    match s.workers w with
    | .expiring =>
      some ⟨(expireOldPending db s.ledger expirePendingAfterHours).2,
        Function.update s.workers w .idle⟩
    | _ => none
  | .restart w => some { s with workers := Function.update s.workers w .idle }

/-- The call on the ledger that a step makes. -/
def callOf (s : Exchanges) : ExchangeAction → Option (DbCall × LedgerCall)
  | .create db tx => some (db, .create tx)
  | .poll db isEnabled getBuyStatus projectId request =>
    (buyStatus isEnabled getBuyStatus projectId request).toOption.map fun response =>
      (db, response.call request.exchangeId request.sessionId)
  | .claim _ db order skipped => some (db, .claim order skipped claimBatchSize)
  | .process w db getBuyStatus =>
    match s.workers w with
    | .processing row _ => some (db, reconcileCall getBuyStatus row)
    | _ => none
  | .expire _ db => some (db, .expire expirePendingAfterHours)
  | .restart _ => none

end Exchanges

/-- Users and reconcilers as a machine. -/
def exchanges : Transitions.Machine Exchanges ExchangeAction := ⟨Exchanges.step⟩

namespace Exchanges

variable {s s' : Exchanges} {a : ExchangeAction}

/-- A reconciler that is at a row can finish it. -/
theorem step_process {w : Nat} {row : ExchangeTransaction} {rest : List ExchangeTransaction}
    (hworker : s.workers w = .processing row rest) (db : DbCall) (getBuyStatus : GetBuyStatus) :
    exchanges.step s (.process w db getBuyStatus) =
      some ⟨(reconcileCall getBuyStatus row).apply db s.ledger,
        Function.update s.workers w (.next rest)⟩ := by
  simp only [exchanges, step, hworker]

/-- **A step is its call**, as far as the ledger goes. -/
theorem ledger_step (h : exchanges.step s a = some s') :
    s'.ledger = match s.callOf a with
      | some (db, call) => call.apply db s.ledger
      | none => s.ledger := by
  cases a with
  | create db tx =>
    cases h
    rfl
  | poll db isEnabled getBuyStatus projectId request =>
    cases h
    simp only [callOf, getExchangeBuyStatus]
    cases buyStatus isEnabled getBuyStatus projectId request with
    | ok response => rfl
    | error e => rfl
  | claim w db order skipped =>
    -- a reconciler that is not where the step starts does not take it
    simp only [exchanges, step] at h
    split at h
    · cases h
      rfl
    · cases h
  | process w db getBuyStatus =>
    simp only [exchanges, step] at h
    split at h
    · next row rest hworker =>
      cases h
      simp only [callOf, hworker]
    · cases h
  | expire w db =>
    simp only [exchanges, step] at h
    split at h
    · cases h
      rfl
    · cases h
  | restart w =>
    cases h
    rfl

/-- **Every run is a run of calls on the ledger.** -/
def onLedger : Transitions.Simulation exchanges ledgerCalls where
  view s := s.ledger
  inv _ := True
  actions s a := (s.callOf a).toList
  inv_step _ _ := trivial
  run_step {s a s'} _ h := by
    rw [ledger_step h]
    cases s.callOf a with
    | none => rfl
    | some call => rfl

/-- The rows of a state. -/
theorem mem_ledger_step (h : exchanges.step s a = some s') {row : ExchangeTransaction}
    (hrow : row ∈ s.ledger.rows) :
    ∃ row' ∈ s'.ledger.rows, row'.sessionId = row.sessionId ∧ row'.exchangeId = row.exchangeId := by
  rw [ledger_step h]
  cases s.callOf a with
  | none => exact ⟨row, hrow, rfl, rfl⟩
  | some call =>
    exact ⟨_, LedgerCall.mem_apply.mpr (.inl ⟨row, hrow, rfl⟩), LedgerCall.sessionId_after,
      LedgerCall.exchangeId_after⟩

/-- A reconciler that moves on leaves the others. -/
theorem mem_rows_update {workers : Nat → Worker} {v w : Nat} {worker : Worker}
    {row : ExchangeTransaction} (h : row ∈ (Function.update workers v worker w).rows) :
    row ∈ (workers w).rows ∨ w = v ∧ row ∈ worker.rows := by
  by_cases hw : w = v
  · rw [hw, Function.update_self] at h
    exact .inr ⟨hw, h⟩
  · rw [Function.update_of_ne hw] at h
    exact .inl h

/-- **A reconciler's rows** are those it had, or those it has claimed. -/
theorem mem_rows_step (h : exchanges.step s a = some s') {w : Nat} {row : ExchangeTransaction}
    (hrow : row ∈ (s'.workers w).rows) :
    row ∈ (s.workers w).rows ∨ ∃ db order skipped batch, a = .claim w db order skipped ∧
      (claimDueBatch db s.ledger order skipped claimBatchSize).1 = .ok batch ∧ row ∈ batch := by
  cases a with
  | create db tx =>
    cases h
    exact .inl hrow
  | poll db isEnabled getBuyStatus projectId request =>
    cases h
    exact .inl hrow
  | claim v db order skipped =>
    simp only [exchanges, step] at h
    split at h
    · cases h
      rcases mem_rows_update hrow with hold | ⟨rfl, hnew⟩
      · exact .inl hold
      · -- the rows of a worker that has just claimed are its batch
        obtain ⟨batch, hbatch, hmem⟩ := Worker.mem_rows_claimed.mp hnew
        exact .inr ⟨db, order, skipped, batch, rfl, hbatch, hmem⟩
    · cases h
  | process v db getBuyStatus =>
    simp only [exchanges, step] at h
    split at h
    · next first rest hworker =>
      cases h
      rcases mem_rows_update hrow with hold | ⟨rfl, hnew⟩
      · exact .inl hold
      · -- a worker that moves on has the rest of its batch
        rw [Worker.rows_next] at hnew
        rw [hworker]
        exact .inl (List.mem_cons_of_mem _ hnew)
    · cases h
  | expire v db =>
    simp only [exchanges, step] at h
    split at h
    · cases h
      rcases mem_rows_update hrow with hold | ⟨-, hnew⟩
      · exact .inl hold
      · cases hnew
    · cases h
  | restart v =>
    -- it stops and has none
    cases h
    rcases mem_rows_update hrow with hold | ⟨-, hnew⟩
    · exact .inl hold
    · cases hnew

/-- The rows that reconcilers hold are rows of the ledger. -/
def HoldsLedgerRows (s : Exchanges) : Prop :=
  ∀ w, ∀ row ∈ (s.workers w).rows,
    ∃ r ∈ s.ledger.rows, r.sessionId = row.sessionId ∧ r.exchangeId = row.exchangeId

theorem mem_of_claimed {db : DbCall} {ledger : Ledger} {order : RowOrder ExchangeTransaction}
    {skipped : String → Bool} {maxClaim : Nat} {batch : List ExchangeTransaction}
    {row : ExchangeTransaction} (h : (claimDueBatch db ledger order skipped maxClaim).1 = .ok batch)
    (hrow : row ∈ batch) :
    db.statementError = none ∧
      ∃ r ∈ ledger.candidates db.now order skipped maxClaim, r.lock db.now = row := by
  rw [claimDueBatch] at h
  cases hstatement : db.statementError with
  | some text =>
    rw [hstatement] at h
    cases h
  | none =>
    rw [hstatement] at h
    cases h
    exact ⟨rfl, Ledger.mem_claimed.mp hrow⟩

theorem holdsLedgerRows_step (hs : s.HoldsLedgerRows) (h : exchanges.step s a = some s') :
    s'.HoldsLedgerRows := by
  intro w row hrow
  have hbefore : ∃ r ∈ s.ledger.rows,
      r.sessionId = row.sessionId ∧ r.exchangeId = row.exchangeId := by
    rcases mem_rows_step h hrow with hold | ⟨db, order, skipped, batch, -, hbatch, hmem⟩
    · exact hs w row hold
    · obtain ⟨-, r, hr, rfl⟩ := mem_of_claimed hbatch hmem
      exact ⟨r, (Ledger.mem_candidates hr).1, rfl, rfl⟩
  obtain ⟨r, hr, hsession, hexchange⟩ := hbefore
  obtain ⟨r', hr', hsession', hexchange'⟩ := mem_ledger_step h hr
  exact ⟨r', hr', hsession'.trans hsession, hexchange'.trans hexchange⟩

end Exchanges

/-- Finished, or pending and free to be claimed. -/
def ExchangeTransaction.IsReconciled (row : ExchangeTransaction) : Prop :=
  row.status = .succeeded ∨ row.status = .failed ∨ (row.status = .pending ∧ row.lockedAt = none)

/-- The call that ends the processing of a row is a marking or a touch of its session. -/
theorem reconcileCall_cases (getBuyStatus : GetBuyStatus) (row : ExchangeTransaction) :
    (∃ m : Marking, reconcileCall getBuyStatus row = .mark m ∧ m.sessionId = row.sessionId ∧
        m.exchangeId = row.exchangeId) ∨
      reconcileCall getBuyStatus row = .touch row.exchangeId row.sessionId := by
  -- an answer ends in a marking of the row or in a touch of it
  have hcall : ∀ response : GetBuyStatusResponse,
      (∃ m : Marking, response.call row.exchangeId row.sessionId = .mark m ∧
          m.sessionId = row.sessionId ∧ m.exchangeId = row.exchangeId) ∨
        response.call row.exchangeId row.sessionId = .touch row.exchangeId row.sessionId := by
    intro response
    rw [GetBuyStatusResponse.call]
    split
    · exact .inl ⟨_, rfl, rfl, rfl⟩
    · exact .inl ⟨_, rfl, rfl, rfl⟩
    · exact .inr rfl
  rw [reconcileCall]
  split
  · -- no project: the row is given up
    exact .inl ⟨_, rfl, rfl, rfl⟩
  · split
    · dsimp only
      split
      · exact hcall _
      · exact .inr rfl
    · dsimp only
      split
      · exact hcall _
      · exact .inr rfl
    · exact .inl ⟨_, rfl, rfl, rfl⟩

/-- **A row that is processed** with success is reconciled. -/
theorem reconciled_of_returns {db : DbCall} {ledger : Ledger} {getBuyStatus : GetBuyStatus}
    {row r : ExchangeTransaction} (hr : r ∈ ledger.rows) (hsession : r.sessionId = row.sessionId)
    (hexchange : r.exchangeId = row.exchangeId) (hwellFormed : r.WellFormed)
    (hreturns : (reconcileCall getBuyStatus row).returns db ledger = .ok ()) :
    ∃ r' ∈ ((reconcileCall getBuyStatus row).apply db ledger).rows,
      r'.sessionId = row.sessionId ∧ r'.IsReconciled := by
  have hstored : isStored row.exchangeId = true := hexchange ▸ hwellFormed.stored
  refine ⟨_, LedgerCall.mem_apply.mpr (.inl ⟨r, hr, rfl⟩), ?_, ?_⟩
  · rw [LedgerCall.sessionId_after, hsession]
  · rcases reconcileCall_cases getBuyStatus row with ⟨m, hcall, hmsession, hmexchange⟩ | hcall
    · rw [hcall] at hreturns ⊢
      have hgoes := LedgerCall.goesThrough_of_returns_mark (hmexchange ▸ hstored) hreturns
      rw [LedgerCall.after, if_pos ⟨hsession.trans hmsession.symm, hgoes⟩]
      cases m with
      | succeeded sessionId exchangeId txHash => exact .inl rfl
      | failed sessionId exchangeId failureReason txHash => exact .inr (.inl rfl)
    · rw [hcall] at hreturns ⊢
      have hgoes := LedgerCall.goesThrough_of_returns_touch hstored hreturns
      rw [LedgerCall.after, if_pos ⟨hsession, hstored, hgoes⟩]
      cases hstatus : r.status with
      | pending => exact .inr (.inr ⟨hstatus, rfl⟩)
      | succeeded => exact .inl hstatus
      | failed => exact .inr (.inl hstatus)

/-- **The ledger invariant.**  From the empty ledger every sequence of calls leaves well-formed
    rows: completed exactly when they are finished, without a failure reason when they succeeded,
    and of an exchange that stores transactions.  So in every run of users and reconcilers a row
    that a reconciler processes is reconciled, if the call that ends the processing succeeds. -/
theorem ledger_invariant :
    (∀ calls ledger, ledgerCalls.run .empty calls = some ledger →
        ∀ row ∈ ledger.rows, row.WellFormed) ∧
      ∀ actions s, exchanges.run .start actions = some s →
        ∀ w row rest db getBuyStatus, s.workers w = .processing row rest →
          (reconcileCall getBuyStatus row).returns db s.ledger = .ok () →
            ∃ s', exchanges.step s (.process w db getBuyStatus) = some s' ∧
              ∃ r ∈ s'.ledger.rows, r.sessionId = row.sessionId ∧ r.IsReconciled := by
  have hempty : ∀ row ∈ (Table.empty : Ledger).rows, row.WellFormed := by simp
  refine ⟨fun calls ledger h => Ledger.wellFormed_run hempty h, ?_⟩
  intro actions s hrun w row rest db getBuyStatus hworker hreturns
  -- the run is one of calls on the ledger, so its rows are well formed
  have hwellFormed : ∀ row ∈ s.ledger.rows, row.WellFormed :=
    Exchanges.onLedger.invariant (P := fun ledger : Ledger => ∀ row ∈ ledger.rows, row.WellFormed)
      Ledger.wellFormed_step hrun trivial hempty
  -- and the rows of its reconcilers are rows of the ledger
  have hholds : s.HoldsLedgerRows := by
    refine Transitions.Machine.run_invariant (P := Exchanges.HoldsLedgerRows)
      Exchanges.holdsLedgerRows_step hrun fun v row hrow => ?_
    cases hrow
  have hrow : row ∈ (s.workers w).rows := by
    rw [hworker]
    exact List.mem_cons_self
  obtain ⟨r, hr, hsession, hexchange⟩ := hholds w row hrow
  obtain ⟨r', hr', hsession', hreconciled⟩ :=
    reconciled_of_returns hr hsession hexchange (hwellFormed r hr) hreturns
  exact ⟨_, Exchanges.step_process hworker db getBuyStatus, r', hr', hsession', hreconciled⟩

/-- A call at a time that goes through. -/
def DbCall.ok (now : Nat) : DbCall := ⟨now, none, none, none, .committed⟩

/-- A transaction of Binance. -/
def binanceTransaction : NewExchangeTransaction where
  sessionId := .ofNat 16 1
  exchangeId := "binance"
  projectId := some "project"
  asset := none
  amount := none
  recipient := none
  payUrl := none

/-- Four hours later it is claimed, found in progress, and released. -/
theorem binance_transaction_is_released :
    ∃ s row s' r, exchanges.run .start [.create (.ok 0) binanceTransaction,
        .claim 0 (.ok (hours 4)) .stored (fun _ => false)] = some s ∧
      s.workers 0 = .processing row [] ∧
      exchanges.step s (.process 0 (.ok (hours 4 + 1)) fun _ _ => .ok ⟨.inProgress, none⟩)
        = some s' ∧
      r ∈ s'.ledger.rows ∧ r.sessionId = row.sessionId ∧ r.IsReconciled := by
  have hrun : ∃ s row, exchanges.run .start [.create (.ok 0) binanceTransaction,
        .claim 0 (.ok (hours 4)) .stored (fun _ => false)] = some s ∧
      s.workers 0 = .processing row [] ∧
      (reconcileCall (fun _ _ => .ok ⟨.inProgress, none⟩) row).returns (.ok (hours 4 + 1)) s.ledger
        = .ok () := ⟨_, _, rfl, rfl, rfl⟩
  obtain ⟨s, row, hs, hworker, hreturns⟩ := hrun
  obtain ⟨s', hstep, r, hr, hsession, hreconciled⟩ :=
    ledger_invariant.2 _ s hs 0 row [] (.ok (hours 4 + 1)) _ hworker hreturns
  exact ⟨s, row, s', r, hs, hworker, hstep, hr, hsession, hreconciled⟩

end BlockchainApi
