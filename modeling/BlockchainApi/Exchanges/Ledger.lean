/-
  The ledger of exchange transactions: the table of the migration
  `init-exchange_reconciliation_ledger` and the statements of `database/exchange_reconciliation.rs`.

  The table is keyed by the session id; the serial id of the rows, which the statements use for the
  same purpose, is left out.  An amount is the bits of its double.

  Every statement but the insert is an update of some rows.  So a statement is written in two parts,
  and both are used on their own afterwards:

  1. what it does to a row (`mark`, `touch`, `lock`, `expire`), with the `WHERE` it does it under
     (`isDue`, `isExpired`);
  2. which rows of the table it takes (`change` for those of one session, `candidates` for a claim).

  What a statement leaves is then said row by row, by membership (`mem_change`, `mem_claimDueBatch`,
  `mem_expireOldPending`).  The order in which the database returns rows that its `ORDER BY` leaves
  equal, and the rows it skips because another transaction holds them, are arguments of a claim.  A
  statement that the database refuses is an error with the database's text.
-/
import BlockchainApi.Error
import BlockchainApi.Lib.Table
import Mathlib.Data.List.Sort

namespace BlockchainApi

/-! ## Rows -/

/-- `TxStatus`. -/
inductive TxStatus where
  | pending
  | succeeded
  | failed
  deriving DecidableEq

/-- `ExchangeTransaction`. -/
structure ExchangeTransaction where
  sessionId : String
  exchangeId : String
  projectId : Option String
  asset : Option String
  amount : Option UInt64
  recipient : Option String
  payUrl : Option String
  status : TxStatus
  failureReason : Option String
  txHash : Option String
  createdAt : Nat
  updatedAt : Nat
  lastCheckedAt : Option Nat
  completedAt : Option Nat
  lockedAt : Option Nat
  deriving DecidableEq

/-- `NewExchangeTransaction`.  The session id is a fresh UUID, written without its dashes. -/
structure NewExchangeTransaction where
  sessionId : Uuid
  exchangeId : String
  projectId : Option String
  asset : Option String
  amount : Option UInt64
  recipient : Option String
  payUrl : Option String

/-- `Uuid::new_v4().to_string().replace("-", "")`. -/
def sessionIdOf (id : Uuid) : String := hexEncode id.bytes

/-- `exchange_reconciliation_ledger`. -/
abbrev Ledger := Table ExchangeTransaction String ExchangeTransaction.sessionId

/-- `LOCK_EXPIRATION_MINUTES`. -/
def lockExpirationMinutes : Nat := 15

/-- `CHECK_BACKOFF_MINUTES`. -/
def checkBackoffMinutes : Nat := 5

/-- `MIN_CLAIM_AGE_HOURS`. -/
def minClaimAgeHours : Nat := 3

namespace ExchangeTransaction

variable (now : Nat) (row : ExchangeTransaction)

/-! ## What the statements do to a row, and which rows they take -/

/-- `update_status`, for one of the two outcomes. -/
def mark (status : TxStatus) (txHash failureReason : Option String) : ExchangeTransaction :=
  { row with
    status
    txHash
    failureReason
    lastCheckedAt := some now
    completedAt := if status = .succeeded ∨ status = .failed then some now else none
    updatedAt := now
    lockedAt := none }

/-- `touch_non_terminal`. -/
def touch : ExchangeTransaction :=
  { row with lastCheckedAt := some now, updatedAt := now, lockedAt := none }

/-- The update of `claim_due_batch`. -/
def lock : ExchangeTransaction := { row with lockedAt := some now, updatedAt := now }

/-- The update of `expire_old_pending`. -/
def expire : ExchangeTransaction :=
  { row with
    status := .failed
    failureReason := some (row.failureReason.getD "expired")
    completedAt := some now
    updatedAt := now }

@[simp] theorem sessionId_mark (now : Nat) {status : TxStatus}
    {txHash failureReason : Option String} (row : ExchangeTransaction) :
    (row.mark now status txHash failureReason).sessionId = row.sessionId := rfl

@[simp] theorem sessionId_touch : (row.touch now).sessionId = row.sessionId := rfl

@[simp] theorem sessionId_lock : (row.lock now).sessionId = row.sessionId := rfl

@[simp] theorem sessionId_expire : (row.expire now).sessionId = row.sessionId := rfl

/-- `t IS NULL OR t < NOW() - interval`. -/
def isPast (t : Option Nat) (interval : Nat) : Bool :=
  match t with
  | none => true
  | some t => t + interval < now

/-- The `WHERE` of `claim_due_batch`. -/
def isDue : Bool :=
  row.status = .pending && isPast now row.lockedAt (minutes lockExpirationMinutes) &&
    isPast now row.lastCheckedAt (minutes checkBackoffMinutes) &&
    row.createdAt + hours minClaimAgeHours < now

/-- The `WHERE` of `expire_old_pending`. -/
def isExpired (maxAgeHours : Nat) : Bool :=
  row.status = .pending && row.createdAt + hours maxAgeHours < now &&
    isPast now row.lockedAt (minutes 20)

variable {now row} in
theorem isDue_iff : row.isDue now = true ↔ row.status = .pending ∧
    isPast now row.lockedAt (minutes lockExpirationMinutes) = true ∧
      isPast now row.lastCheckedAt (minutes checkBackoffMinutes) = true ∧
        row.createdAt + hours minClaimAgeHours < now := by
  simp [isDue, and_assoc]

variable {now row} in
/-- Only pending rows expire. -/
theorem pending_of_isExpired {maxAgeHours : Nat} (h : row.isExpired now maxAgeHours = true) :
    row.status = .pending := by
  simp only [isExpired, Bool.and_eq_true, decide_eq_true_eq] at h
  exact h.1.1

/-- `ORDER BY last_checked_at NULLS FIRST, created_at ASC`. -/
def isBefore (a b : ExchangeTransaction) : Bool :=
  match a.lastCheckedAt, b.lastCheckedAt with
  | none, none => a.createdAt ≤ b.createdAt
  | none, some _ => true
  | some _, none => false
  | some s, some t => s < t || (s = t && a.createdAt ≤ b.createdAt)

/-- The texts fit the columns that an insert writes. -/
def fitsColumns : Bool :=
  isVarchar 64 row.exchangeId && row.projectId.all (isVarchar 255) &&
    row.asset.all (isVarchar 255) && row.recipient.all (isVarchar 255)

/-- The texts fit the columns that `update_status` writes. -/
def fitsOutcome : Bool := row.failureReason.all (isVarchar 64) && row.txHash.all (isVarchar 255)

end ExchangeTransaction

/-- The row of a new transaction. -/
def NewExchangeTransaction.row (tx : NewExchangeTransaction) (now : Nat) : ExchangeTransaction where
  sessionId := sessionIdOf tx.sessionId
  exchangeId := tx.exchangeId
  projectId := tx.projectId
  asset := tx.asset
  amount := tx.amount
  recipient := tx.recipient
  payUrl := tx.payUrl
  status := .pending
  failureReason := none
  txHash := none
  createdAt := now
  updatedAt := now
  lastCheckedAt := none
  completedAt := none
  lockedAt := none

/-! ## Statements, on the whole table -/

namespace Ledger

open ExchangeTransaction

variable (ledger : Ledger) (now : Nat)

/-- `insert_new`. -/
def insertNew (tx : NewExchangeTransaction) :
    Except DatabaseError (Ledger × ExchangeTransaction) :=
  if (tx.row now).fitsColumns = false then
    .error (.sqlxError (.database "value too long for type character varying"))
  else
    match ledger.insert (tx.row now) with
    | some inserted => .ok (inserted, tx.row now)
    | none => .error (.sqlxError (.database
      "duplicate key value violates unique constraint \"exchange_reconciliation_ledger_session_id_key\""))

/-- The rows of a session, changed. -/
def change (sessionId : String) (f : ExchangeTransaction → ExchangeTransaction)
    (hf : ∀ row, (f row).sessionId = row.sessionId) : Ledger :=
  ledger.update (fun row => row.sessionId = sessionId) f hf

/-- `update_status`. -/
def updateStatus (sessionId : String) (status : TxStatus) (txHash failureReason : Option String) :
    Except DatabaseError (Ledger × ExchangeTransaction) :=
  match ledger.find? sessionId with
  | none => .error (.sqlxError .rowNotFound)
  | some row =>
    if (row.mark now status txHash failureReason).fitsOutcome = false then
      .error (.sqlxError (.database "value too long for type character varying"))
    else
      .ok (ledger.change sessionId (fun row => row.mark now status txHash failureReason)
        (sessionId_mark now), row.mark now status txHash failureReason)

/-- `touch_non_terminal`.  A session without a row is no error. -/
def touchNonTerminal (sessionId : String) : Ledger :=
  ledger.change sessionId (touch now) (sessionId_touch now)

/-- The candidates of `claim_due_batch`.  Rows that another transaction holds are skipped; rows
    that the order leaves equal come in any order. -/
def candidates (order : RowOrder ExchangeTransaction) (skipped : String → Bool) (maxClaim : Nat) :
    List ExchangeTransaction :=
  (((order.arrange ledger.rows).filter fun row =>
    row.isDue now && !skipped row.sessionId).insertionSort fun a b => isBefore a b).take maxClaim

/-- `claim_due_batch`. -/
def claimDueBatch (order : RowOrder ExchangeTransaction) (skipped : String → Bool)
    (maxClaim : Nat) : Ledger × List ExchangeTransaction :=
  let batch := ledger.candidates now order skipped maxClaim
  (ledger.update (fun row => batch.any fun c => c.sessionId = row.sessionId) (lock now)
      (sessionId_lock now),
    order.arrange (batch.map (lock now)))

/-- `expire_old_pending`. -/
def expireOldPending (maxAgeHours : Nat) : Ledger × Nat :=
  (ledger.update (fun row => row.isExpired now maxAgeHours) (expire now)
      (sessionId_expire now),
    (ledger.rows.filter fun row => row.isExpired now maxAgeHours).length)

/-! ## What they leave, row by row -/

variable {ledger} {now} {row x : ExchangeTransaction} {sessionId : String}

/-- Only the rows of the session change. -/
theorem mem_change {f : ExchangeTransaction → ExchangeTransaction}
    {hf : ∀ row, (f row).sessionId = row.sessionId} :
    x ∈ (ledger.change sessionId f hf).rows ↔
      ∃ row ∈ ledger.rows, (if row.sessionId = sessionId then f row else row) = x := by
  simp only [change, Table.mem_update, decide_eq_true_eq]

/-- A candidate is a row that is due. -/
theorem mem_candidates {order : RowOrder ExchangeTransaction} {skipped : String → Bool}
    {maxClaim : Nat} (h : row ∈ ledger.candidates now order skipped maxClaim) :
    row ∈ ledger.rows ∧ row.isDue now = true := by
  have hfiltered := (List.mem_insertionSort _).mp (List.mem_of_mem_take h)
  obtain ⟨hmem, hdue⟩ := List.mem_filter.mp hfiltered
  rw [Bool.and_eq_true] at hdue
  exact ⟨order.mem_arrange.mp hmem, hdue.1⟩

/-- **The rows a claim returns** are the due ones it has taken, locked. They are returned as they
    are stored afterwards, with the lock. -/
theorem mem_claimed {order : RowOrder ExchangeTransaction} {skipped : String → Bool}
    {maxClaim : Nat} :
    x ∈ (ledger.claimDueBatch now order skipped maxClaim).2 ↔
      ∃ row ∈ ledger.candidates now order skipped maxClaim, row.lock now = x := by
  rw [claimDueBatch, order.mem_arrange, List.mem_map]

/-- **What a claim leaves.** -/
theorem mem_claimDueBatch {order : RowOrder ExchangeTransaction} {skipped : String → Bool}
    {maxClaim : Nat} :
    x ∈ (ledger.claimDueBatch now order skipped maxClaim).1.rows ↔
      ∃ row ∈ ledger.rows,
        (if row ∈ ledger.candidates now order skipped maxClaim then row.lock now else row) = x := by
  simp only [claimDueBatch, Table.mem_update]
  -- a candidate of the session is the row itself
  have hany : ∀ row ∈ ledger.rows,
      ((ledger.candidates now order skipped maxClaim).any fun c => c.sessionId = row.sessionId) =
        decide (row ∈ ledger.candidates now order skipped maxClaim) := by
    intro row hrow
    rw [Bool.eq_iff_iff, List.any_eq_true, decide_eq_true_eq]
    constructor
    · rintro ⟨c, hc, hsame⟩
      rwa [← Table.eq_of_key_eq (mem_candidates hc).1 hrow (of_decide_eq_true hsame)]
    · intro hc
      exact ⟨row, hc, decide_eq_true rfl⟩
  constructor
  · rintro ⟨row, hrow, rfl⟩
    exact ⟨row, hrow, by simp only [hany row hrow, decide_eq_true_eq]⟩
  · rintro ⟨row, hrow, rfl⟩
    exact ⟨row, hrow, by simp only [hany row hrow, decide_eq_true_eq]⟩

/-- **What an expiry leaves.** -/
theorem mem_expireOldPending {maxAgeHours : Nat} :
    x ∈ (ledger.expireOldPending now maxAgeHours).1.rows ↔
      ∃ row ∈ ledger.rows, (if row.isExpired now maxAgeHours then row.expire now else row) = x := by
  simp only [expireOldPending, Table.mem_update]

/-- **A status that is written.** -/
theorem updateStatus_eq_ok {status : TxStatus} {txHash failureReason : Option String}
    {result : Ledger × ExchangeTransaction} :
    ledger.updateStatus now sessionId status txHash failureReason = .ok result ↔
      ∃ row ∈ ledger.rows, row.sessionId = sessionId ∧
        (row.mark now status txHash failureReason).fitsOutcome = true ∧
        (ledger.change sessionId (fun row => row.mark now status txHash failureReason)
          (sessionId_mark now), row.mark now status txHash failureReason) = result := by
  rw [updateStatus]
  cases hfind : ledger.find? sessionId with
  | none =>
    -- no row of the session: an error on one side, nothing to name on the other
    have habsent := Table.has_eq_false_iff.mp (Table.find?_eq_none.mp hfind)
    constructor
    · intro h
      cases h
    · rintro ⟨row, hrow, hsession, -⟩
      exact absurd hsession (habsent row hrow)
  | some row =>
    obtain ⟨hrow, hsession⟩ := Table.find?_eq_some.mp hfind
    constructor
    · intro h
      by_cases hfits : (row.mark now status txHash failureReason).fitsOutcome = true
      · simp only [hfits, Bool.true_eq_false, if_false, Except.ok.injEq] at h
        exact ⟨row, hrow, hsession, hfits, h⟩
      · simp [hfits] at h
    · -- a session has one row, so it is the one that was found
      rintro ⟨row', hrow', hsession', hfits, rfl⟩
      have hsame : row = row' := Table.eq_of_key_eq hrow hrow' (hsession.trans hsession'.symm)
      subst hsame
      simp only [hfits, Bool.true_eq_false, if_false]

/-- **A transaction that is inserted.** -/
theorem insertNew_eq_ok {tx : NewExchangeTransaction} {result : Ledger × ExchangeTransaction} :
    ledger.insertNew now tx = .ok result ↔ (tx.row now).fitsColumns = true ∧
      ∃ hnew : ledger.has (tx.row now).sessionId = false,
        (ledger.append (tx.row now) hnew, tx.row now) = result := by
  rw [insertNew]
  by_cases hfits : (tx.row now).fitsColumns = true
  · simp only [hfits, Bool.true_eq_false, if_false, true_and]
    by_cases hnew : ledger.has (tx.row now).sessionId = false
    · rw [Table.insert_eq_some.mpr ⟨hnew, rfl⟩]
      simp [hnew]
    · rw [Table.insert_eq_none.mpr (by simpa using hnew)]
      simp [hnew]
  · simp [hfits]

end Ledger

end BlockchainApi
