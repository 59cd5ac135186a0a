/-
  The calls that write to the exchange ledger (`handlers/json_rpc/exchanges/transactions.rs`).

  Each wrapper looks the exchange id up, does nothing if that exchange stores no transactions, and
  else runs one statement and the analytics event in a transaction.  A `DbCall` says at which moment
  a call runs and how it fares; a transaction that does not commit leaves the ledger.

  1. **Calls.** The five wrappers are one inductive type (`LedgerCall`), so that a run of the ledger
     is a list of calls, each with its `DbCall`.
  2. **What a call does** is said once, row by row (`mem_apply`): a row of the ledger becomes its
     `after`, and a `create` may add a row.  `after_cases` lists what a row can become: it is kept,
     marked, touched, locked or expired, each with the guards under which that happens.
  3. **The row invariant** (`Ledger.wellFormed_run`).  A row is completed exactly when it is
     finished, has no failure reason when it succeeded, and is of an exchange that stores
     transactions.

  Every invariant below, and in the modules that follow, is a case split over `after`.  None of them
  looks at a statement again.
-/
import BlockchainApi.Exchanges.Ledger
import BlockchainApi.Lib.Transitions

namespace BlockchainApi

/-! ## Exchanges -/

/-- `ExchangeType`. -/
inductive ExchangeType where
  | binance
  | coinbase
  | reownTest
  deriving DecidableEq

namespace ExchangeType

/-- `provider().id()`. -/
def id : ExchangeType → String
  | .binance => "binance"
  | .coinbase => "coinbase"
  | .reownTest => "reown_test"

/-- `iter`. -/
def iter : List ExchangeType := [.binance, .coinbase, .reownTest]

/-- `from_id`. -/
def fromId (id : String) : Option ExchangeType := iter.find? fun e => e.id = id

/-- `is_transaction_storage_enabled`. -/
def isTransactionStorageEnabled : ExchangeType → Bool
  | .binance => true
  | .coinbase => true
  | .reownTest => false

/-- The id belongs to the exchange only. -/
theorem fromId_eq_some_iff {id : String} {exchange : ExchangeType} :
    fromId id = some exchange ↔ exchange.id = id := by
  constructor
  · intro h
    rw [fromId] at h
    have hid := List.find?_some h
    simpa using hid
  · rintro rfl
    cases exchange <;> rfl

end ExchangeType

/-- Is it the id of an exchange whose transactions are stored? -/
def isStored (exchangeId : String) : Bool :=
  (ExchangeType.fromId exchangeId).any ExchangeType.isTransactionStorageEnabled

/-! ## Calls: a statement and an event in one transaction -/

/-- How a `COMMIT` ends. -/
inductive CommitResult where
  | committed
  | rolledBack (text : String)
  /-- The transaction is committed, but the answer is an error. -/
  | unheard (text : String)

/-- One call as the database and the analytics meet it. -/
structure DbCall where
  now : Nat
  beginError : Option String
  statementError : Option String
  /-- `exchange_transaction_event` refuses the event. -/
  eventError : Option String
  commit : CommitResult

namespace DbCall

variable (db : DbCall)

/-- Does a transaction with this event reach the ledger? -/
def goesThrough (eventError : Option String) : Bool :=
  db.beginError.isNone && db.statementError.isNone && eventError.isNone &&
    match db.commit with
    | .rolledBack _ => false
    | _ => true

/-- `begin`, the statement, the event, `commit`. -/
def transaction (ledger : Ledger) (eventError : Option String)
    (statement : Except DatabaseError Ledger) : Except DatabaseError Unit × Ledger :=
  match db.beginError, db.statementError, statement, eventError with
  | some text, _, _, _ => (.error (.sqlxError (.database text)), ledger)
  | none, some text, _, _ => (.error (.sqlxError (.database text)), ledger)
  | none, none, .error e, _ => (.error e, ledger)
  | none, none, .ok _, some text => (.error (.badArgument text), ledger)
  | none, none, .ok written, none =>
    match db.commit with
    | .committed => (.ok (), written)
    | .rolledBack text => (.error (.sqlxError (.database text)), ledger)
    | .unheard text => (.error (.sqlxError (.database text)), written)

variable {db} {ledger : Ledger} {eventError : Option String}
variable {statement : Except DatabaseError Ledger}

/-- A call that reaches the ledger leaves what its statement leaves. -/
theorem transaction_snd :
    (db.transaction ledger eventError statement).2 =
      if db.goesThrough eventError then statement.toOption.getD ledger else ledger := by
  cases hbegin : db.beginError with
  | some text => simp [transaction, goesThrough, hbegin]
  | none =>
    cases hstatement : db.statementError with
    | some text => simp [transaction, goesThrough, hbegin, hstatement]
    | none =>
      cases statement with
      | error e => simp [transaction, hbegin, hstatement, Except.toOption]
      | ok written =>
        cases eventError with
        | some text => simp [transaction, goesThrough, hbegin, hstatement]
        | none =>
          cases hcommit : db.commit <;>
            simp [transaction, goesThrough, hbegin, hstatement, hcommit, Except.toOption]

/-- A call that reports success has reached the ledger. -/
theorem transaction_fst_ok (h : (db.transaction ledger eventError statement).1 = .ok ()) :
    db.goesThrough eventError = true ∧ ∃ written, statement = .ok written := by
  cases hbegin : db.beginError with
  | some text => simp [transaction, hbegin] at h
  | none =>
    cases hstatement : db.statementError with
    | some text => simp [transaction, hbegin, hstatement] at h
    | none =>
      cases statement with
      | error e => simp [transaction, hbegin, hstatement] at h
      | ok written =>
        cases eventError with
        | some text => simp [transaction, hbegin, hstatement] at h
        | none =>
          cases hcommit : db.commit with
          | rolledBack text => simp [transaction, hbegin, hstatement, hcommit] at h
          | unheard text => simp [transaction, hbegin, hstatement, hcommit] at h
          | committed => simp [goesThrough, hbegin, hstatement, hcommit]

/-- The check of the exchange id that the wrappers share. -/
def ifStored (exchangeId : String) (ledger : Ledger) (call : Except DatabaseError Unit × Ledger) :
    Except DatabaseError Unit × Ledger :=
  match ExchangeType.fromId exchangeId with
  | none => (.error (.badArgument "Invalid exchange id"), ledger)
  | some exchange =>
    if exchange.isTransactionStorageEnabled = false then (.ok (), ledger) else call

theorem ifStored_of_isStored {exchangeId : String} {call : Except DatabaseError Unit × Ledger}
    (h : isStored exchangeId = true) :
    ifStored exchangeId ledger call = call := by
  obtain ⟨exchange, hexchange, henabled⟩ := (Option.any_eq_true _ _).mp h
  rw [ifStored, hexchange]
  simp only [henabled, Bool.true_eq_false, if_false]

theorem ifStored_snd {exchangeId : String} {call : Except DatabaseError Unit × Ledger} :
    (ifStored exchangeId ledger call).2 = if isStored exchangeId then call.2 else ledger := by
  by_cases h : isStored exchangeId = true
  · rw [ifStored_of_isStored h, if_pos h]
  · rw [if_neg h, ifStored]
    cases hexchange : ExchangeType.fromId exchangeId with
    | none => rfl
    | some exchange =>
      have hdisabled : exchange.isTransactionStorageEnabled = false := by
        simpa [isStored, hexchange] using h
      simp only [hdisabled, if_true]

/-- **What a wrapper leaves**: the statement's ledger, if the exchange stores transactions and the
    call reaches the ledger. -/
theorem ifStored_transaction_snd {exchangeId : String} :
    (ifStored exchangeId ledger (db.transaction ledger eventError statement)).2 =
      if isStored exchangeId = true ∧ db.goesThrough eventError = true then
        statement.toOption.getD ledger
      else ledger := by
  rw [ifStored_snd, transaction_snd]
  by_cases hstored : isStored exchangeId = true
  · by_cases hgoes : db.goesThrough eventError = true
    · rw [if_pos hstored, if_pos hgoes, if_pos ⟨hstored, hgoes⟩]
    · rw [if_pos hstored, if_neg hgoes, if_neg fun h => hgoes h.2]
  · rw [if_neg hstored, if_neg fun h => hstored h.1]

end DbCall

/-- What a wrapper writes with `update_status`. -/
inductive Marking where
  | succeeded (sessionId exchangeId : String) (txHash : Option String)
  | failed (sessionId exchangeId : String) (failureReason txHash : Option String)
  deriving DecidableEq

namespace Marking

def sessionId : Marking → String
  | .succeeded sessionId _ _ => sessionId
  | .failed sessionId _ _ _ => sessionId

def exchangeId : Marking → String
  | .succeeded _ exchangeId _ => exchangeId
  | .failed _ exchangeId _ _ => exchangeId

def status : Marking → TxStatus
  | .succeeded .. => .succeeded
  | .failed .. => .failed

def txHash : Marking → Option String
  | .succeeded _ _ txHash => txHash
  | .failed _ _ _ txHash => txHash

def failureReason : Marking → Option String
  | .succeeded .. => none
  | .failed _ _ failureReason _ => failureReason

/-- The row it leaves. -/
def on (m : Marking) (now : Nat) (row : ExchangeTransaction) : ExchangeTransaction :=
  row.mark now m.status m.txHash m.failureReason

/-- Its texts fit the columns. -/
def fits (m : Marking) : Bool :=
  m.failureReason.all (isVarchar 64) && m.txHash.all (isVarchar 255)

/-- Does it reach the ledger, if there is a row? -/
def goesThrough (m : Marking) (db : DbCall) : Bool :=
  isStored m.exchangeId && db.goesThrough db.eventError && m.fits

end Marking

/-- `create`. -/
def createTransaction (db : DbCall) (ledger : Ledger) (tx : NewExchangeTransaction) :
    Except DatabaseError Unit × Ledger :=
  DbCall.ifStored tx.exchangeId ledger <| db.transaction ledger db.eventError <|
    (ledger.insertNew db.now tx).map Prod.fst

/-- The body that `mark_succeeded` and `mark_failed` share. -/
def markStatus (db : DbCall) (ledger : Ledger) (sessionId exchangeId : String) (status : TxStatus)
    (txHash failureReason : Option String) : Except DatabaseError Unit × Ledger :=
  DbCall.ifStored exchangeId ledger <| db.transaction ledger db.eventError <|
    (ledger.updateStatus db.now sessionId status txHash failureReason).map Prod.fst

/-- `mark_succeeded`. -/
def markSucceeded (db : DbCall) (ledger : Ledger) (sessionId exchangeId : String)
    (txHash : Option String) : Except DatabaseError Unit × Ledger :=
  markStatus db ledger sessionId exchangeId .succeeded txHash none

/-- `mark_failed`. -/
def markFailed (db : DbCall) (ledger : Ledger) (sessionId exchangeId : String)
    (failureReason txHash : Option String) : Except DatabaseError Unit × Ledger :=
  markStatus db ledger sessionId exchangeId .failed txHash failureReason

/-- The call that writes a marking. -/
def Marking.write (db : DbCall) (ledger : Ledger) : Marking → Except DatabaseError Unit × Ledger
  | .succeeded sessionId exchangeId txHash => markSucceeded db ledger sessionId exchangeId txHash
  | .failed sessionId exchangeId failureReason txHash =>
    markFailed db ledger sessionId exchangeId failureReason txHash

theorem Marking.write_eq (m : Marking) (db : DbCall) (ledger : Ledger) :
    m.write db ledger
      = markStatus db ledger m.sessionId m.exchangeId m.status m.txHash m.failureReason := by
  cases m <;> rfl

/-- `touch_pending`. -/
def touchPending (db : DbCall) (ledger : Ledger) (exchangeId sessionId : String) :
    Except DatabaseError Unit × Ledger :=
  DbCall.ifStored exchangeId ledger <| db.transaction ledger none <|
    .ok (ledger.touchNonTerminal db.now sessionId)

/-- `claim_due_batch` on the pool. -/
def claimDueBatch (db : DbCall) (ledger : Ledger) (order : RowOrder ExchangeTransaction)
    (skipped : String → Bool) (maxClaim : Nat) :
    Except DatabaseError (List ExchangeTransaction) × Ledger :=
  match db.statementError with
  | some text => (.error (.sqlxError (.database text)), ledger)
  | none =>
    let claimed := ledger.claimDueBatch db.now order skipped maxClaim
    (.ok claimed.2, claimed.1)

/-- `expire_old_pending` on the pool. -/
def expireOldPending (db : DbCall) (ledger : Ledger) (maxAgeHours : Nat) :
    Except DatabaseError Nat × Ledger :=
  match db.statementError with
  | some text => (.error (.sqlxError (.database text)), ledger)
  | none =>
    let expired := ledger.expireOldPending db.now maxAgeHours
    (.ok expired.2, expired.1)

/-- The calls that write to the ledger. -/
inductive LedgerCall where
  | create (tx : NewExchangeTransaction)
  | mark (m : Marking)
  | touch (exchangeId sessionId : String)
  | claim (order : RowOrder ExchangeTransaction) (skipped : String → Bool) (maxClaim : Nat)
  | expire (maxAgeHours : Nat)

namespace LedgerCall

/-- The ledger after a call. -/
def apply (db : DbCall) (ledger : Ledger) : LedgerCall → Ledger
  | .create tx => (createTransaction db ledger tx).2
  | .mark m => (m.write db ledger).2
  | .touch exchangeId sessionId => (touchPending db ledger exchangeId sessionId).2
  | .claim order skipped maxClaim => (claimDueBatch db ledger order skipped maxClaim).2
  | .expire maxAgeHours => (expireOldPending db ledger maxAgeHours).2

/-- What becomes of a row. -/
def after (db : DbCall) (ledger : Ledger) : LedgerCall → ExchangeTransaction → ExchangeTransaction
  | .create _, row => row
  | .mark m, row => if row.sessionId = m.sessionId ∧ m.goesThrough db then m.on db.now row else row
  | .touch exchangeId sessionId, row =>
    if row.sessionId = sessionId ∧ isStored exchangeId ∧ db.goesThrough none then row.touch db.now
    else row
  | .claim order skipped maxClaim, row =>
    if db.statementError = none ∧ row ∈ ledger.candidates db.now order skipped maxClaim then
      row.lock db.now
    else row
  | .expire maxAgeHours, row =>
    if db.statementError = none ∧ row.isExpired db.now maxAgeHours then row.expire db.now else row

/-- The row that a call adds. -/
def created (db : DbCall) (ledger : Ledger) : LedgerCall → Option ExchangeTransaction
  | .create tx =>
    if isStored tx.exchangeId ∧ db.goesThrough db.eventError ∧ (tx.row db.now).fitsColumns ∧
        ledger.has (sessionIdOf tx.sessionId) = false then
      some (tx.row db.now)
    else none
  | _ => none

variable {db : DbCall} {ledger : Ledger} {call : LedgerCall} {row x : ExchangeTransaction}

@[simp] theorem sessionId_after : (call.after db ledger row).sessionId = row.sessionId := by
  cases call <;> simp only [after, Marking.on] <;> (try split) <;> rfl

@[simp] theorem exchangeId_after : (call.after db ledger row).exchangeId = row.exchangeId := by
  cases call <;> simp only [after, Marking.on] <;> (try split) <;> rfl

/-- **What becomes of a row**: it is kept, marked, touched, locked or expired. -/
theorem after_cases (db : DbCall) (ledger : Ledger) (call : LedgerCall)
    (row : ExchangeTransaction) :
    call.after db ledger row = row ∨
    (∃ m, call = .mark m ∧ row.sessionId = m.sessionId ∧ m.goesThrough db = true ∧
      call.after db ledger row = m.on db.now row) ∨
    (∃ exchangeId, call = .touch exchangeId row.sessionId ∧ isStored exchangeId = true ∧
      db.goesThrough none = true ∧ call.after db ledger row = row.touch db.now) ∨
    (row.isDue db.now = true ∧ call.after db ledger row = row.lock db.now) ∨
    (row.status = .pending ∧ call.after db ledger row = row.expire db.now) := by
  cases call with
  | create tx => exact .inl rfl
  | mark m =>
    by_cases hreached : row.sessionId = m.sessionId ∧ m.goesThrough db = true
    · exact .inr (.inl ⟨m, rfl, hreached.1, hreached.2, if_pos hreached⟩)
    · -- another session, or a transaction that does not commit
      exact .inl (if_neg hreached)
  | touch exchangeId sessionId =>
    by_cases hreached : row.sessionId = sessionId ∧ isStored exchangeId = true ∧
        db.goesThrough none = true
    · obtain ⟨rfl, hstored, hgoes⟩ := hreached
      exact .inr (.inr (.inl ⟨exchangeId, rfl, hstored, hgoes, if_pos ⟨rfl, hstored, hgoes⟩⟩))
    · exact .inl (if_neg hreached)
  | claim order skipped maxClaim =>
    by_cases htaken : db.statementError = none ∧
        row ∈ ledger.candidates db.now order skipped maxClaim
    · -- a row is claimed only if it is due
      have hdue := (Ledger.mem_candidates htaken.2).2
      exact .inr (.inr (.inr (.inl ⟨hdue, if_pos htaken⟩)))
    · exact .inl (if_neg htaken)
  | expire maxAgeHours =>
    by_cases htaken : db.statementError = none ∧ row.isExpired db.now maxAgeHours = true
    · -- and expired only if it is pending
      have hpending := ExchangeTransaction.pending_of_isExpired htaken.2
      exact .inr (.inr (.inr (.inr ⟨hpending, if_pos htaken⟩)))
    · exact .inl (if_neg htaken)

/-- A call that changes no row. -/
theorem mem_of_after_eq (hkept : ∀ row ∈ ledger.rows, call.after db ledger row = row) :
    x ∈ ledger.rows ↔ ∃ row ∈ ledger.rows, call.after db ledger row = x := by
  constructor
  · intro hx
    exact ⟨x, hx, hkept x hx⟩
  · rintro ⟨row, hrow, rfl⟩
    rwa [hkept row hrow]

/-- What a marking leaves. -/
theorem mem_apply_mark {m : Marking} :
    x ∈ ((LedgerCall.mark m).apply db ledger).rows ↔
      ∃ row ∈ ledger.rows, (LedgerCall.mark m).after db ledger row = x := by
  have hmissed (hno : ∀ row ∈ ledger.rows, ¬ (row.sessionId = m.sessionId ∧ m.goesThrough db)) :
      x ∈ ledger.rows ↔ ∃ row ∈ ledger.rows, (LedgerCall.mark m).after db ledger row = x :=
    mem_of_after_eq fun row hrow => if_neg (hno row hrow)
  simp only [apply, Marking.write_eq, markStatus, DbCall.ifStored_transaction_snd]
  by_cases hreaches : isStored m.exchangeId = true ∧ db.goesThrough db.eventError = true
  · rw [if_pos hreaches]
    have hthrough : m.goesThrough db = m.fits := by
      rw [Marking.goesThrough, hreaches.1, hreaches.2, Bool.true_and, Bool.true_and]
    cases hupdate : ledger.updateStatus db.now m.sessionId m.status m.txHash m.failureReason with
    | ok result =>
      obtain ⟨row, hrow, hsession, hfits, rfl⟩ := Ledger.updateStatus_eq_ok.mp hupdate
      have hfits' : m.fits = true := hfits
      simp only [Except.map, Except.toOption, Option.getD_some, Ledger.mem_change, after,
        hthrough, hfits', and_true, Marking.on]
    | error e =>
      -- no row of the session, or texts that do not fit
      refine hmissed fun row hrow => ?_
      rintro ⟨hsession, hfits⟩
      rw [hthrough] at hfits
      have hfits' : (row.mark db.now m.status m.txHash m.failureReason).fitsOutcome = true := hfits
      have hok := Ledger.updateStatus_eq_ok.mpr ⟨row, hrow, hsession, hfits', rfl⟩
      rw [hupdate] at hok
      cases hok
  · rw [if_neg hreaches]
    refine hmissed fun row _ => ?_
    rintro ⟨-, hgoes⟩
    rw [Marking.goesThrough, Bool.and_eq_true, Bool.and_eq_true] at hgoes
    exact hreaches hgoes.1

/-- What a touch leaves. -/
theorem mem_apply_touch {exchangeId sessionId : String} :
    x ∈ ((LedgerCall.touch exchangeId sessionId).apply db ledger).rows ↔
      ∃ row ∈ ledger.rows, (LedgerCall.touch exchangeId sessionId).after db ledger row = x := by
  simp only [apply, touchPending, DbCall.ifStored_transaction_snd]
  by_cases hreaches : isStored exchangeId = true ∧ db.goesThrough none = true
  · rw [if_pos hreaches]
    simp only [Except.toOption, Option.getD_some, Ledger.touchNonTerminal, Ledger.mem_change,
      after, hreaches, and_true]
  · rw [if_neg hreaches]
    exact mem_of_after_eq fun row _ => if_neg fun h => hreaches h.2

/-- What a claim leaves. -/
theorem mem_apply_claim {order : RowOrder ExchangeTransaction} {skipped : String → Bool}
    {maxClaim : Nat} :
    x ∈ ((LedgerCall.claim order skipped maxClaim).apply db ledger).rows ↔
      ∃ row ∈ ledger.rows, (LedgerCall.claim order skipped maxClaim).after db ledger row = x := by
  simp only [apply, claimDueBatch]
  cases hstatement : db.statementError with
  | none =>
    simp only [after, hstatement, true_and]
    exact Ledger.mem_claimDueBatch
  | some text =>
    refine mem_of_after_eq fun row _ => if_neg ?_
    rintro ⟨hnone, -⟩
    rw [hstatement] at hnone
    cases hnone

/-- What an expiry leaves. -/
theorem mem_apply_expire {maxAgeHours : Nat} :
    x ∈ ((LedgerCall.expire maxAgeHours).apply db ledger).rows ↔
      ∃ row ∈ ledger.rows, (LedgerCall.expire maxAgeHours).after db ledger row = x := by
  simp only [apply, expireOldPending]
  cases hstatement : db.statementError with
  | none =>
    simp only [after, hstatement, true_and]
    exact Ledger.mem_expireOldPending
  | some text =>
    refine mem_of_after_eq fun row _ => if_neg ?_
    rintro ⟨hnone, -⟩
    rw [hstatement] at hnone
    cases hnone

/-- What a `create` leaves. -/
theorem mem_apply_create {tx : NewExchangeTransaction} :
    x ∈ ((LedgerCall.create tx).apply db ledger).rows ↔
      x ∈ ledger.rows ∨ (LedgerCall.create tx).created db ledger = some x := by
  have hmissed (hno : (LedgerCall.create tx).created db ledger = none) :
      x ∈ ledger.rows ↔ x ∈ ledger.rows ∨ (LedgerCall.create tx).created db ledger = some x := by
    rw [hno]
    simp
  simp only [apply, createTransaction, DbCall.ifStored_transaction_snd]
  by_cases hreaches : isStored tx.exchangeId = true ∧ db.goesThrough db.eventError = true
  · rw [if_pos hreaches]
    cases hinsert : ledger.insertNew db.now tx with
    | ok result =>
      obtain ⟨hfits, hnew, rfl⟩ := Ledger.insertNew_eq_ok.mp hinsert
      simp only [Except.map, Except.toOption, Option.getD_some, Table.mem_append]
      rw [created, if_pos ⟨hreaches.1, hreaches.2, hfits, hnew⟩, Option.some.injEq,
        eq_comm (a := x)]
    | error e =>
      refine hmissed (if_neg ?_)
      rintro ⟨-, -, hfits, hnew⟩
      have hok := Ledger.insertNew_eq_ok.mpr ⟨hfits, hnew, rfl⟩
      rw [hinsert] at hok
      cases hok
  · rw [if_neg hreaches]
    exact hmissed (if_neg fun h => hreaches ⟨h.1, h.2.1⟩)

/-- **What a call leaves**: each row as its `after`, and the row it adds. -/
theorem mem_apply : x ∈ (call.apply db ledger).rows ↔
    (∃ row ∈ ledger.rows, call.after db ledger row = x) ∨ call.created db ledger = some x := by
  cases call with
  | create tx => simp only [mem_apply_create, after, exists_eq_right]
  | mark m => simp only [mem_apply_mark, created, reduceCtorEq, or_false]
  | touch exchangeId sessionId => simp only [mem_apply_touch, created, reduceCtorEq, or_false]
  | claim order skipped maxClaim => simp only [mem_apply_claim, created, reduceCtorEq, or_false]
  | expire maxAgeHours => simp only [mem_apply_expire, created, reduceCtorEq, or_false]

/-- A row that a call adds is pending and free, and its session is new. -/
theorem created_eq_some (h : call.created db ledger = some x) :
    ∃ tx, call = .create tx ∧ x = tx.row db.now ∧ isStored x.exchangeId = true ∧
      ledger.has x.sessionId = false := by
  cases call with
  | create tx =>
    rw [created] at h
    split at h
    · next hcond =>
      cases h
      exact ⟨tx, rfl, rfl, hcond.1, hcond.2.2.2⟩
    · cases h
  | mark m => cases h
  | touch exchangeId sessionId => cases h
  | claim order skipped maxClaim => cases h
  | expire maxAgeHours => cases h

/-- What the caller is told. -/
def returns (db : DbCall) (ledger : Ledger) : LedgerCall → Except DatabaseError Unit
  | .create tx => (createTransaction db ledger tx).1
  | .mark m => (m.write db ledger).1
  | .touch exchangeId sessionId => (touchPending db ledger exchangeId sessionId).1
  | .claim order skipped maxClaim =>
    (claimDueBatch db ledger order skipped maxClaim).1.map fun _ => ()
  | .expire maxAgeHours => (expireOldPending db ledger maxAgeHours).1.map fun _ => ()

/-- A marking that reports success has gone through, if the exchange stores transactions. -/
theorem goesThrough_of_returns_mark {m : Marking} (hstored : isStored m.exchangeId = true)
    (h : (LedgerCall.mark m).returns db ledger = .ok ()) : m.goesThrough db = true := by
  rw [returns, Marking.write_eq, markStatus, DbCall.ifStored_of_isStored hstored] at h
  obtain ⟨hgoes, written, hwritten⟩ := DbCall.transaction_fst_ok h
  rw [Marking.goesThrough, hstored, hgoes, Bool.true_and, Bool.true_and]
  cases hupdate : ledger.updateStatus db.now m.sessionId m.status m.txHash m.failureReason with
  | ok result =>
    obtain ⟨row, -, -, hfits, -⟩ := Ledger.updateStatus_eq_ok.mp hupdate
    exact hfits
  | error e =>
    rw [hupdate] at hwritten
    cases hwritten

/-- So has a touch. -/
theorem goesThrough_of_returns_touch {exchangeId sessionId : String}
    (hstored : isStored exchangeId = true)
    (h : (LedgerCall.touch exchangeId sessionId).returns db ledger = .ok ()) :
    db.goesThrough none = true := by
  rw [returns, touchPending, DbCall.ifStored_of_isStored hstored] at h
  exact (DbCall.transaction_fst_ok h).1

end LedgerCall

/-- The ledger as a machine. -/
def ledgerCalls : Transitions.Machine Ledger (DbCall × LedgerCall) :=
  ⟨fun ledger call => some (call.2.apply call.1 ledger)⟩

/-! ## The row invariant: each change of a row keeps it -/

/-- The invariant of the rows. -/
structure ExchangeTransaction.WellFormed (row : ExchangeTransaction) : Prop where
  completed : row.completedAt.isSome = true ↔ row.status = .succeeded ∨ row.status = .failed
  noReason : row.status = .succeeded → row.failureReason = none
  stored : isStored row.exchangeId = true

namespace ExchangeTransaction.WellFormed

variable {row : ExchangeTransaction} {now : Nat}

theorem on (h : row.WellFormed) (m : Marking) : (m.on now row).WellFormed := by
  refine ⟨?_, ?_, h.stored⟩
  · cases m <;> simp [Marking.on, ExchangeTransaction.mark, Marking.status]
  · cases m <;> simp [Marking.on, ExchangeTransaction.mark, Marking.status, Marking.failureReason]

theorem touch (h : row.WellFormed) : (row.touch now).WellFormed :=
  ⟨h.completed, h.noReason, h.stored⟩

theorem lock (h : row.WellFormed) : (row.lock now).WellFormed :=
  ⟨h.completed, h.noReason, h.stored⟩

theorem expire (h : row.WellFormed) : (row.expire now).WellFormed := by
  refine ⟨?_, ?_, h.stored⟩
  · simp [ExchangeTransaction.expire]
  · intro hsucceeded
    cases hsucceeded

end ExchangeTransaction.WellFormed

/-- A row keeps the invariant. -/
theorem LedgerCall.wellFormed_after {db : DbCall} {ledger : Ledger} {call : LedgerCall}
    {row : ExchangeTransaction} (h : row.WellFormed) : (call.after db ledger row).WellFormed := by
  rcases after_cases db ledger call row with hkept | ⟨m, -, -, -, hmark⟩ |
      ⟨exchangeId, -, -, -, htouch⟩ | ⟨-, hlock⟩ | ⟨-, hexpire⟩
  · rw [hkept]
    exact h
  · rw [hmark]
    exact h.on m
  · rw [htouch]
    exact h.touch
  · rw [hlock]
    exact h.lock
  · rw [hexpire]
    exact h.expire

/-- **A call keeps the invariant.** -/
theorem Ledger.wellFormed_step {ledger ledger' : Ledger} {call : DbCall × LedgerCall}
    (hrows : ∀ row ∈ ledger.rows, row.WellFormed)
    (h : ledgerCalls.step ledger call = some ledger') :
    ∀ row ∈ ledger'.rows, row.WellFormed := by
  cases h
  intro x hx
  rcases LedgerCall.mem_apply.mp hx with ⟨row, hrow, rfl⟩ | hcreated
  · exact LedgerCall.wellFormed_after (hrows row hrow)
  · obtain ⟨tx, -, rfl, hstored, -⟩ := LedgerCall.created_eq_some hcreated
    exact ⟨by simp [NewExchangeTransaction.row], by simp [NewExchangeTransaction.row], hstored⟩

/-- **The invariant of every run.** -/
theorem Ledger.wellFormed_run {ledger ledger' : Ledger} {calls : List (DbCall × LedgerCall)}
    (hrows : ∀ row ∈ ledger.rows, row.WellFormed)
    (h : ledgerCalls.run ledger calls = some ledger') :
    ∀ row ∈ ledger'.rows, row.WellFormed :=
  Transitions.Machine.run_invariant
    (P := fun ledger : Ledger => ∀ row ∈ ledger.rows, row.WellFormed)
    Ledger.wellFormed_step h hrows

end BlockchainApi
