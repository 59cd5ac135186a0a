/-
  Who may settle a transaction (`handlers/json_rpc/exchanges/get_exchange_buy_status.rs`,
  `transactions.rs`, `database/exchange_reconciliation.rs`).

  `update_status` selects its row by the session id alone: not by its status, and not by its
  exchange.

  1. **Finished rows** (`finished_rows_stay_iff`).  A claim and an expiry take pending rows only,
     and a touch leaves the outcome; but a marking overwrites whatever it finds.  So finished rows
     stay as they are exactly in the runs in which no report of the other outcome reaches one.
     `Reports` says who reports what: an exchange that a user asks, an exchange that a reconciler
     asks, or a reconciler that gives a row up.  It speaks of answers of exchanges and not of calls
     on the ledger; `reports_iff` connects the two.

  2. **The exchange of a row** (`settled_by_own_exchange`).  A user names the exchange that is
     asked, so the answer of one exchange may be written to a row of another.  It is not, if each
     request that gets an answer names the exchange of the row: then whatever happens to a row is
     what the answer of its own exchange makes of it.  For one request the condition is also needed
     (`settlesOwn_iff`).

  Each part ends with a run that breaks it: a reconciler that writes down an answer from before the
  success was reported, and a user who asks one exchange about the session of another.
-/
import BlockchainApi.Exchanges.Reconciliation

namespace BlockchainApi

/-! ## Finished rows: only a report of the other outcome changes one -/

/-- Succeeded or failed. -/
def ExchangeTransaction.IsFinished (row : ExchangeTransaction) : Prop :=
  row.status = .succeeded ∨ row.status = .failed

/-- The outcome of a finished row. -/
def ExchangeTransaction.outcome (row : ExchangeTransaction) :
    Option Nat × Option String × Option String :=
  (row.completedAt, row.txHash, row.failureReason)

theorem ExchangeTransaction.IsFinished.not_pending {row : ExchangeTransaction}
    (h : row.IsFinished) : row.status ≠ .pending := by
  intro hpending
  rcases h with h | h
  · rw [hpending] at h
    cases h
  · rw [hpending] at h
    cases h

/-- **A call that is no marking** leaves a finished row its status and its outcome. A claim and
    an expiry do not take it, and a touch writes neither. -/
theorem LedgerCall.after_of_finished {db : DbCall} {ledger : Ledger} {call : LedgerCall}
    {row : ExchangeTransaction} (hfinished : row.IsFinished) (hcall : ∀ m, call ≠ .mark m) :
    (call.after db ledger row).status = row.status ∧
      (call.after db ledger row).outcome = row.outcome := by
  rcases after_cases db ledger call row with hkept | ⟨m, hmark, -⟩ |
      ⟨exchangeId, -, -, -, htouch⟩ | ⟨hdue, -⟩ | ⟨hpending, -⟩
  · rw [hkept]
    exact ⟨rfl, rfl⟩
  · exact absurd hmark (hcall m)
  · rw [htouch]
    exact ⟨rfl, rfl⟩
  · exact absurd (ExchangeTransaction.isDue_iff.mp hdue).1 hfinished.not_pending
  · exact absurd hpending hfinished.not_pending

namespace Exchanges

variable {s s' : Exchanges} {a : ExchangeAction}

/-- A marking of this exchange, with this hash, reaches the ledger. -/
def MarkingGoesThrough (db : DbCall) (exchangeId : String) (txHash : Option String) : Prop :=
  isStored exchangeId = true ∧ db.goesThrough db.eventError = true ∧ txHash.all (isVarchar 255)

/-- The step reports the outcome of a session to the ledger. -/
inductive Reports (s : Exchanges) : ExchangeAction → String → TxStatus → Prop where
  /-- A user asks, and the exchange has an outcome. -/
  | poll {db isEnabled getBuyStatus projectId request exchange response outcome}
      (hasks : request.Asks isEnabled exchange)
      (hanswer : getBuyStatus exchange ⟨projectId, request.sessionId⟩ = .ok response)
      (houtcome : response.status.outcome = some outcome)
      (hgoes : MarkingGoesThrough db request.exchangeId response.txHash) :
      Reports s (.poll db isEnabled getBuyStatus projectId request) request.sessionId outcome
  /-- A reconciler asks the exchange of the row, and it has an outcome. -/
  | process {w db getBuyStatus row rest exchange projectId response outcome}
      (hworker : s.workers w = .processing row rest) (hproject : row.projectId = some projectId)
      (hexchange : exchange.id = row.exchangeId) (hasked : exchange ≠ .reownTest)
      (hanswer : getBuyStatus exchange ⟨projectId, row.sessionId⟩ = .ok response)
      (houtcome : response.status.outcome = some outcome)
      (hgoes : MarkingGoesThrough db row.exchangeId response.txHash) :
      Reports s (.process w db getBuyStatus) row.sessionId outcome
  /-- A reconciler finds nobody to ask. -/
  | giveUp {w db getBuyStatus row rest}
      (hworker : s.workers w = .processing row rest)
      (hnobody : row.projectId = none ∨
        ∀ exchange : ExchangeType, exchange.id = row.exchangeId → exchange = .reownTest)
      (hgoes : MarkingGoesThrough db row.exchangeId none) :
      Reports s (.process w db getBuyStatus) row.sessionId .failed

/-- A finished row keeps its status; and its outcome, unless the same outcome is reported again. -/
def KeepsFinished (s : Exchanges) (a : ExchangeAction) : Prop :=
  ∀ s', exchanges.step s a = some s' → ∀ row ∈ s.ledger.rows, row.IsFinished →
    ∃ row' ∈ s'.ledger.rows, row'.sessionId = row.sessionId ∧ row'.status = row.status ∧
      (row'.outcome = row.outcome ∨ s.Reports a row.sessionId row.status)

/-- No report of the other outcome reaches a finished row. -/
def NoContraryReport (s : Exchanges) (a : ExchangeAction) : Prop :=
  ∀ sessionId outcome, s.Reports a sessionId outcome →
    ∀ row ∈ s.ledger.rows, row.sessionId = sessionId → row.IsFinished → outcome = row.status

theorem goesThrough_iff {m : Marking} {db : DbCall}
    (hreason : m.failureReason.all (isVarchar 64) = true) :
    m.goesThrough db = true ↔ MarkingGoesThrough db m.exchangeId m.txHash := by
  simp only [Marking.goesThrough, Marking.fits, hreason, Bool.true_and, Bool.and_eq_true, and_assoc,
    MarkingGoesThrough]

theorem goesThrough_failed_iff {sessionId exchangeId : String} {txHash : Option String}
    {db : DbCall} :
    (Marking.failed sessionId exchangeId (some "provider_failed") txHash).goesThrough db = true ↔
      MarkingGoesThrough db exchangeId txHash := by
  have hreason : (some "provider_failed").all (isVarchar 64) = true := by decide
  exact goesThrough_iff hreason

/-- The marking of an answer that has an outcome. -/
theorem exists_mark_iff {response : GetBuyStatusResponse} {exchangeId sessionId sessionId' : String}
    {outcome : TxStatus} {db : DbCall} :
    (∃ m, response.call exchangeId sessionId = .mark m ∧ m.goesThrough db = true ∧
      m.sessionId = sessionId' ∧ m.status = outcome) ↔
      sessionId = sessionId' ∧ response.status.outcome = some outcome ∧
        MarkingGoesThrough db exchangeId response.txHash := by
  obtain ⟨status, txHash⟩ := response
  cases status with
  -- neither of these two is an outcome, and the call is a touch
  | unknown => simp [GetBuyStatusResponse.call, BuyTransactionStatus.outcome]
  | inProgress => simp [GetBuyStatusResponse.call, BuyTransactionStatus.outcome]
  | success =>
    constructor
    · rintro ⟨m, hcall, hgoes, hsession, hstatus⟩
      cases hcall
      exact ⟨hsession, congrArg some hstatus, (goesThrough_iff rfl).mp hgoes⟩
    · rintro ⟨rfl, houtcome, hgoes⟩
      cases houtcome
      exact ⟨.succeeded sessionId exchangeId txHash, rfl, (goesThrough_iff rfl).mpr hgoes, rfl, rfl⟩
  | failed =>
    constructor
    · rintro ⟨m, hcall, hgoes, hsession, hstatus⟩
      cases hcall
      exact ⟨hsession, congrArg some hstatus, goesThrough_failed_iff.mp hgoes⟩
    · rintro ⟨rfl, houtcome, hgoes⟩
      cases houtcome
      exact ⟨.failed sessionId exchangeId (some "provider_failed") txHash, rfl,
        goesThrough_failed_iff.mpr hgoes, rfl, rfl⟩

/-- A row of an exchange that a reconciler asks, and of a project: what it marks is what the
    exchange answers. -/
theorem reconcileCall_of_asked {getBuyStatus : GetBuyStatus} {row : ExchangeTransaction}
    {exchange : ExchangeType} {projectId : String} {m : Marking}
    (hid : exchange.id = row.exchangeId) (hasked : exchange ≠ .reownTest)
    (hproject : row.projectId = some projectId) :
    reconcileCall getBuyStatus row = .mark m ↔
      ∃ response, getBuyStatus exchange ⟨projectId, row.sessionId⟩ = .ok response ∧
        response.call row.exchangeId row.sessionId = .mark m := by
  have hfrom := ExchangeType.fromId_eq_some_iff.mpr hid
  cases exchange with
  | reownTest => exact absurd rfl hasked
  | binance =>
    simp only [reconcileCall, hproject, hfrom]
    cases getBuyStatus .binance ⟨projectId, row.sessionId⟩ <;> simp
  | coinbase =>
    simp only [reconcileCall, hproject, hfrom]
    cases getBuyStatus .coinbase ⟨projectId, row.sessionId⟩ <;> simp

/-- Any other row it gives up. -/
theorem reconcileCall_of_nobody {getBuyStatus : GetBuyStatus} {row : ExchangeTransaction}
    (hnobody : row.projectId = none ∨
      ∀ exchange : ExchangeType, exchange.id = row.exchangeId → exchange = .reownTest) :
    reconcileCall getBuyStatus row =
      .mark (.failed row.sessionId row.exchangeId (some "provider_failed") none) := by
  cases hproject : row.projectId with
  | none => simp only [reconcileCall, hproject]
  | some projectId =>
    have hnobody := hnobody.resolve_left (by rw [hproject]; exact Option.some_ne_none _)
    cases hfrom : ExchangeType.fromId row.exchangeId with
    | none => simp only [reconcileCall, hproject, hfrom]
    | some exchange =>
      obtain rfl := hnobody exchange (ExchangeType.fromId_eq_some_iff.mp hfrom)
      simp only [reconcileCall, hproject, hfrom]

/-- What a reconciler reports of a row: the answer of its exchange, or that it gives the row up. -/
theorem reconcileCall_eq_mark_iff {getBuyStatus : GetBuyStatus} {row : ExchangeTransaction}
    {m : Marking} :
    reconcileCall getBuyStatus row = .mark m ↔
      (∃ exchange projectId response, row.projectId = some projectId ∧
        exchange.id = row.exchangeId ∧ exchange ≠ .reownTest ∧
        getBuyStatus exchange ⟨projectId, row.sessionId⟩ = .ok response ∧
        response.call row.exchangeId row.sessionId = .mark m) ∨
      ((row.projectId = none ∨
        ∀ exchange : ExchangeType, exchange.id = row.exchangeId → exchange = .reownTest) ∧
        m = .failed row.sessionId row.exchangeId (some "provider_failed") none) := by
  constructor
  · intro hmark
    by_cases hnobody : row.projectId = none ∨
        ∀ exchange : ExchangeType, exchange.id = row.exchangeId → exchange = .reownTest
    · rw [reconcileCall_of_nobody hnobody] at hmark
      exact .inr ⟨hnobody, (LedgerCall.mark.inj hmark).symm⟩
    · push Not at hnobody
      obtain ⟨hproject, exchange, hid, hasked⟩ := hnobody
      obtain ⟨projectId, hproject⟩ := Option.ne_none_iff_exists'.mp hproject
      obtain ⟨response, hanswer, hcall⟩ := (reconcileCall_of_asked hid hasked hproject).mp hmark
      exact .inl ⟨exchange, projectId, response, hproject, hid, hasked, hanswer, hcall⟩
  · rintro (⟨exchange, projectId, response, hproject, hid, hasked, hanswer, hcall⟩ | ⟨hnobody, rfl⟩)
    · exact (reconcileCall_of_asked hid hasked hproject).mpr ⟨response, hanswer, hcall⟩
    · exact reconcileCall_of_nobody hnobody

/-- **A report is a marking that goes through.** -/
theorem reports_iff {sessionId : String} {outcome : TxStatus} :
    s.Reports a sessionId outcome ↔
      ∃ db m, s.callOf a = some (db, .mark m) ∧ m.goesThrough db = true ∧
        m.sessionId = sessionId ∧ m.status = outcome := by
  constructor
  · rintro (⟨hasks, hanswer, houtcome, hgoes⟩ |
      ⟨hworker, hproject, hexchange, hasked, hanswer, houtcome, hgoes⟩ |
      ⟨hworker, hnobody, hgoes⟩)
    · -- a user asks
      obtain ⟨m, hcall, hmark⟩ := exists_mark_iff.mpr ⟨rfl, houtcome, hgoes⟩
      refine ⟨_, m, ?_, hmark⟩
      rw [callOf, buyStatus_eq_ok.mpr ⟨_, hasks, hanswer⟩, ← hcall]
      rfl
    · -- a reconciler asks
      obtain ⟨m, hcall, hmark⟩ := exists_mark_iff.mpr ⟨rfl, houtcome, hgoes⟩
      refine ⟨_, m, ?_, hmark⟩
      simp only [callOf, hworker, reconcileCall_eq_mark_iff.mpr
        (.inl ⟨_, _, _, hproject, hexchange, hasked, hanswer, hcall⟩)]
    · -- it has nobody to ask
      refine ⟨_, .failed _ _ (some "provider_failed") none, ?_,
        goesThrough_failed_iff.mpr hgoes, rfl, rfl⟩
      simp only [callOf, hworker, reconcileCall_eq_mark_iff.mpr (.inr ⟨hnobody, rfl⟩)]
  · -- only a status request and the processing of a row can be a marking
    rintro ⟨db, m, hcall, hgoes, rfl, rfl⟩
    cases a with
    | create db tx => cases hcall
    | claim w db order skipped => cases hcall
    | expire w db => cases hcall
    | restart w => cases hcall
    | poll db isEnabled getBuyStatus projectId request =>
      rw [callOf] at hcall
      cases hresponse : buyStatus isEnabled getBuyStatus projectId request with
      | error e =>
        rw [hresponse] at hcall
        cases hcall
      | ok response =>
        rw [hresponse] at hcall
        obtain ⟨rfl, hmark⟩ := Prod.mk.inj (Option.some.inj hcall)
        obtain ⟨exchange, hasks, hanswer⟩ := buyStatus_eq_ok.mp hresponse
        obtain ⟨hsession, houtcome, hthrough⟩ := exists_mark_iff.mp ⟨m, hmark, hgoes, rfl, rfl⟩
        rw [← hsession]
        exact .poll hasks hanswer houtcome hthrough
    | process w db getBuyStatus =>
      rw [callOf] at hcall
      split at hcall
      · next row rest hworker =>
        obtain ⟨rfl, hmark⟩ := Prod.mk.inj (Option.some.inj hcall)
        rcases reconcileCall_eq_mark_iff.mp hmark with
          ⟨exchange, projectId, response, hproject, hid, hasked, hanswer, hcall⟩ | ⟨hnobody, rfl⟩
        · obtain ⟨hsession, houtcome, hthrough⟩ := exists_mark_iff.mp ⟨m, hcall, hgoes, rfl, rfl⟩
          rw [← hsession]
          exact .process hworker hproject hid hasked hanswer houtcome hthrough
        · exact .giveUp hworker hnobody (goesThrough_failed_iff.mp hgoes)
      · cases hcall

/-- A step whose call is a marking can be taken. -/
theorem exists_step_of_mark {db : DbCall} {m : Marking} (h : s.callOf a = some (db, .mark m)) :
    ∃ s', exchanges.step s a = some s' := by
  cases a with
  | create db tx => cases h
  | poll db isEnabled getBuyStatus projectId request => exact ⟨_, rfl⟩
  | claim w db order skipped => cases h
  | process w db getBuyStatus =>
    simp only [callOf] at h
    split at h
    · next hworker => exact ⟨_, step_process hworker db getBuyStatus⟩
    · cases h
  | expire w db => cases h
  | restart w => cases h

/-- **One step** keeps the finished rows exactly when it makes no contrary report. -/
theorem keepsFinished_iff : s.KeepsFinished a ↔ s.NoContraryReport a := by
  constructor
  · intro hkeeps sessionId outcome hreports row hrow hsession hfinished
    obtain ⟨db, m, hcall, hgoes, rfl, rfl⟩ := reports_iff.mp hreports
    obtain ⟨s', hstep⟩ := exists_step_of_mark hcall
    obtain ⟨row', hrow', hsession', hstatus, -⟩ := hkeeps s' hstep row hrow hfinished
    have hledger := ledger_step hstep
    simp only [hcall] at hledger
    -- the row of the session is now the one that was marked
    have hmarked : m.on db.now row ∈ s'.ledger.rows := by
      rw [hledger, LedgerCall.mem_apply_mark]
      exact ⟨row, hrow, if_pos ⟨hsession, hgoes⟩⟩
    have hsame : m.on db.now row = row' := Table.eq_of_key_eq hmarked hrow' hsession'.symm
    rw [← hstatus, ← hsame]
    rfl
  · intro hno s' hstep row hrow hfinished
    rw [ledger_step hstep]
    cases hcall : s.callOf a with
    | none => exact ⟨row, hrow, rfl, rfl, .inl rfl⟩
    | some dbCall =>
      obtain ⟨db, call⟩ := dbCall
      refine ⟨call.after db s.ledger row, LedgerCall.mem_apply.mpr (.inl ⟨row, hrow, rfl⟩),
        LedgerCall.sessionId_after, ?_⟩
      by_cases hmark : ∃ m, call = .mark m
      · obtain ⟨m, rfl⟩ := hmark
        by_cases hreached : row.sessionId = m.sessionId ∧ m.goesThrough db = true
        · have hreports : s.Reports a row.sessionId m.status :=
            reports_iff.mpr ⟨db, m, hcall, hreached.2, hreached.1.symm, rfl⟩
          have hstatus := hno _ _ hreports row hrow rfl hfinished
          rw [LedgerCall.after, if_pos hreached]
          exact ⟨hstatus, .inr (hstatus ▸ hreports)⟩
        · rw [LedgerCall.after, if_neg hreached]
          exact ⟨rfl, .inl rfl⟩
      · have hkept : (call.after db s.ledger row).status = row.status ∧
            (call.after db s.ledger row).outcome = row.outcome :=
          LedgerCall.after_of_finished hfinished fun m hm => hmark ⟨m, hm⟩
        exact ⟨hkept.1, .inl hkept.2⟩

end Exchanges

/-- **Finished transactions stay finished** in a run, with their outcome, exactly when no report of
    the other outcome reaches one. -/
theorem finished_rows_stay_iff (s : Exchanges) (actions : List ExchangeAction) :
    exchanges.Within Exchanges.KeepsFinished s actions ↔
      exchanges.Within Exchanges.NoContraryReport s actions :=
  Transitions.Machine.within_congr (P := fun _ => True) (fun _ _ => trivial)
    (fun _ => Exchanges.keepsFinished_iff) trivial

/-- A user's report of success, and a reconciler's answer from before it. -/
private def staleAnswer : List ExchangeAction :=
  [.create (.ok 0) binanceTransaction,
    .claim 0 (.ok (hours 4)) .stored (fun _ => false),
    .poll (.ok (hours 4 + 1)) (fun _ => true) (fun _ _ => .ok ⟨.success, some "0xabc"⟩) "project"
      ⟨"binance", sessionIdOf binanceTransaction.sessionId⟩]

/-- **The failing input.**  The transaction has succeeded; the reconciler marks it as failed. -/
theorem stale_answer_overturns :
    (∃ s s' row row', exchanges.run .start staleAnswer = some s ∧ row ∈ s.ledger.rows ∧
      row.status = .succeeded ∧ row.txHash = some "0xabc" ∧
      exchanges.step s (.process 0 (.ok (hours 4 + 2)) fun _ _ => .ok ⟨.failed, none⟩) = some s' ∧
      row' ∈ s'.ledger.rows ∧ row'.sessionId = row.sessionId ∧ row'.status = .failed ∧
      row'.txHash = none ∧ row'.failureReason = some "provider_failed") ∧
    ¬ exchanges.Within Exchanges.KeepsFinished .start (staleAnswer ++
      [.process 0 (.ok (hours 4 + 2)) fun _ _ => .ok ⟨.failed, none⟩]) := by
  have hrun : ∃ s s' row row', exchanges.run .start staleAnswer = some s ∧ row ∈ s.ledger.rows ∧
      row.status = .succeeded ∧ row.txHash = some "0xabc" ∧
      exchanges.step s (.process 0 (.ok (hours 4 + 2)) fun _ _ => .ok ⟨.failed, none⟩) = some s' ∧
      row' ∈ s'.ledger.rows ∧ row'.sessionId = row.sessionId ∧ row'.status = .failed ∧
      row'.txHash = none ∧ row'.failureReason = some "provider_failed" :=
    ⟨_, _, _, _, rfl, List.mem_singleton_self _, rfl, rfl, rfl, List.mem_singleton_self _, rfl, rfl,
      rfl, rfl⟩
  refine ⟨hrun, fun hkeeps => ?_⟩
  obtain ⟨s, s', row, row', hs, hrow, hstatus, -, hstep, hrow', hsession, hfailed, -⟩ := hrun
  obtain ⟨kept, hkept, hkeptSession, hkeptStatus, -⟩ :=
    hkeeps.last hs s' hstep row hrow (.inl hstatus)
  have hsame : kept = row' := Table.eq_of_key_eq hkept hrow' (hkeptSession.trans hsession.symm)
  rw [hsame, hfailed, hstatus] at hkeptStatus
  cases hkeptStatus

/-! ## The exchange of a row: which one was asked

Only status requests are looked at here. A reconciler takes the exchange from the row. -/

/-- A status request, with the answers that the exchanges would give and the moment of its
    call. -/
structure StatusRequest where
  db : DbCall
  isEnabled : ExchangeType → Bool
  getBuyStatus : GetBuyStatus
  projectId : String
  request : GetExchangeBuyStatusRequest

/-- The status requests as a machine on the ledger. -/
def statusRequests : Transitions.Machine Ledger StatusRequest :=
  ⟨fun ledger r =>
    some (getExchangeBuyStatus r.isEnabled r.getBuyStatus r.projectId r.request r.db ledger).2⟩

namespace StatusRequest

/-- The exchange that is asked gives an answer. -/
def IsAnswered (r : StatusRequest) : Prop :=
  ∃ exchange response, r.request.Asks r.isEnabled exchange ∧
    r.getBuyStatus exchange ⟨r.projectId, r.request.sessionId⟩ = .ok response

/-- A request that gets an answer names the exchange of the row of its session, if its own exchange
    stores transactions. -/
def NamesOwnExchange (ledger : Ledger) (r : StatusRequest) : Prop :=
  r.IsAnswered → isStored r.request.exchangeId = true →
    ∀ row ∈ ledger.rows, row.sessionId = r.request.sessionId →
      row.exchangeId = r.request.exchangeId

/-- A row that the request changes is changed by its own exchange: that one was asked, about the
    row's session, and the row is what its answer makes of it. -/
def SettlesOwn (ledger : Ledger) (r : StatusRequest) : Prop :=
  ∀ ledger', statusRequests.step ledger r = some ledger' →
    ∀ row ∈ ledger.rows, row ∉ ledger'.rows →
      ∃ exchange response, r.request.Asks r.isEnabled exchange ∧ exchange.id = row.exchangeId ∧
        r.getBuyStatus exchange ⟨r.projectId, row.sessionId⟩ = .ok response ∧
        (response.call exchange.id row.sessionId).after r.db ledger row ∈ ledger'.rows

/-- The call of an answer changes rows of its session only, and if its exchange stores
    transactions. -/
theorem after_call {response : GetBuyStatusResponse} {exchangeId sessionId : String} {db : DbCall}
    {ledger : Ledger} {row : ExchangeTransaction}
    (h : ¬ (row.sessionId = sessionId ∧ isStored exchangeId = true)) :
    (response.call exchangeId sessionId).after db ledger row = row := by
  have hmark : ∀ m : Marking, m.sessionId = sessionId → m.exchangeId = exchangeId →
      (LedgerCall.mark m).after db ledger row = row := by
    intro m hsession hexchange
    refine if_neg ?_
    rintro ⟨hrow, hgoes⟩
    rw [Marking.goesThrough, Bool.and_eq_true, Bool.and_eq_true, hexchange] at hgoes
    exact h ⟨hrow.trans hsession, hgoes.1.1⟩
  rw [GetBuyStatusResponse.call]
  split
  · exact hmark _ rfl rfl
  · exact hmark _ rfl rfl
  · exact if_neg fun hreached => h ⟨hreached.1, hreached.2.1⟩

variable {ledger ledger' : Ledger} {r : StatusRequest}

/-- The exchange asked is the one that the request names. -/
theorem id_of_asks {isEnabled : ExchangeType → Bool} {request : GetExchangeBuyStatusRequest}
    {exchange : ExchangeType} (h : request.Asks isEnabled exchange) :
    exchange.id = request.exchangeId :=
  (getExchangeById_eq_ok_iff.mp h.1).1

/-- **One request** that names the exchange of the row lets only that exchange change it. -/
theorem settlesOwn_of_namesOwn (h : NamesOwnExchange ledger r) : SettlesOwn ledger r := by
  intro ledger' hstep row hrow hchanged
  cases hstep
  rw [getExchangeBuyStatus] at hchanged ⊢
  cases hanswer : buyStatus r.isEnabled r.getBuyStatus r.projectId r.request with
  | error e =>
    rw [hanswer] at hchanged
    exact absurd hrow hchanged
  | ok response =>
    rw [hanswer] at hchanged
    obtain ⟨exchange, hasks, hresponse⟩ := buyStatus_eq_ok.mp hanswer
    have hafter : (response.call r.request.exchangeId r.request.sessionId).after r.db ledger row ∈
        ((response.call r.request.exchangeId r.request.sessionId).apply r.db ledger).rows :=
      LedgerCall.mem_apply.mpr (.inl ⟨row, hrow, rfl⟩)
    -- the row has changed, so it is a row of the session of the request
    by_cases hreached : row.sessionId = r.request.sessionId ∧ isStored r.request.exchangeId = true
    · obtain ⟨hsession, hstored⟩ := hreached
      have hown := h ⟨exchange, response, hasks, hresponse⟩ hstored row hrow hsession
      refine ⟨exchange, response, hasks, (id_of_asks hasks).trans hown.symm, ?_, ?_⟩
      · rw [hsession]
        exact hresponse
      · rw [id_of_asks hasks, hsession]
        exact hafter
    · rw [after_call hreached] at hafter
      exact absurd hafter hchanged

/-- **Whatever the exchanges answer**, a request has a row changed by its own exchange only exactly
    when it is not let through, or its exchange stores nothing, or it names the exchange of the
    row. -/
theorem settlesOwn_iff (ledger : Ledger) (isEnabled : ExchangeType → Bool) (projectId : String)
    (request : GetExchangeBuyStatusRequest) :
    (∀ db getBuyStatus, SettlesOwn ledger ⟨db, isEnabled, getBuyStatus, projectId, request⟩) ↔
      ((∃ exchange, request.Asks isEnabled exchange) → isStored request.exchangeId = true →
        ∀ row ∈ ledger.rows, row.sessionId = request.sessionId →
          row.exchangeId = request.exchangeId) := by
  constructor
  · rintro hsettles ⟨exchange, hasks⟩ hstored row hrow hsession
    -- a touch at a later moment is seen in the row
    have hanswer : buyStatus isEnabled (fun _ _ => .ok ⟨.inProgress, none⟩) projectId request =
        .ok ⟨.inProgress, none⟩ := buyStatus_eq_ok.mpr ⟨exchange, hasks, rfl⟩
    have hstep : statusRequests.step ledger ⟨.ok (row.updatedAt + 1), isEnabled,
        fun _ _ => .ok ⟨.inProgress, none⟩, projectId, request⟩ = some
          ((LedgerCall.touch request.exchangeId request.sessionId).apply (.ok (row.updatedAt + 1))
            ledger) := by
      simp only [statusRequests, getExchangeBuyStatus, hanswer]
      rfl
    have htouched : row.touch (row.updatedAt + 1) ∈
        ((LedgerCall.touch request.exchangeId request.sessionId).apply (.ok (row.updatedAt + 1))
          ledger).rows := by
      rw [LedgerCall.mem_apply_touch]
      exact ⟨row, hrow, if_pos ⟨hsession, hstored, rfl⟩⟩
    have hchanged : row ∉
        ((LedgerCall.touch request.exchangeId request.sessionId).apply (.ok (row.updatedAt + 1))
          ledger).rows := by
      intro hkept
      have hsame : row = row.touch (row.updatedAt + 1) := Table.eq_of_key_eq hkept htouched rfl
      have hupdated : row.updatedAt = row.updatedAt + 1 :=
        congrArg ExchangeTransaction.updatedAt hsame
      omega
    obtain ⟨asked, -, hasked, hid, -⟩ := hsettles _ _ _ hstep row hrow hchanged
    rw [← hid]
    exact id_of_asks hasked
  · intro hown db getBuyStatus
    refine settlesOwn_of_namesOwn ?_
    rintro ⟨exchange, response, hasks, -⟩
    exact hown ⟨exchange, hasks⟩

end StatusRequest

/-- **A row is settled by its own exchange**: in a run of status requests every change of a row is
    what the answer of its own exchange, the one asked, makes of it, if every request that gets an
    answer names the exchange of its row; and a request that does not, and is let through, is
    written to the row for some answer. -/
theorem settled_by_own_exchange {ledger : Ledger} {requests : List StatusRequest}
    (hown : statusRequests.Within StatusRequest.NamesOwnExchange ledger requests) :
    statusRequests.Within StatusRequest.SettlesOwn ledger requests ∧
      ∀ (ledger : Ledger) (isEnabled : ExchangeType → Bool) (projectId : String)
        (request : GetExchangeBuyStatusRequest),
        (∀ db getBuyStatus,
            StatusRequest.SettlesOwn ledger ⟨db, isEnabled, getBuyStatus, projectId, request⟩) ↔
          ((∃ exchange, request.Asks isEnabled exchange) →
            isStored request.exchangeId = true →
              ∀ row ∈ ledger.rows, row.sessionId = request.sessionId →
                row.exchangeId = request.exchangeId) := by
  refine ⟨?_, StatusRequest.settlesOwn_iff⟩
  exact Transitions.Machine.Within.imp (P := fun _ => True) (fun _ _ => trivial)
    (fun _ => StatusRequest.settlesOwn_of_namesOwn) trivial hown

/-- A request for the transaction of Binance that asks the given exchange. -/
private def askAbout (exchangeId : String) : StatusRequest where
  db := .ok 1
  isEnabled _ := true
  getBuyStatus _ _ := .ok ⟨.success, some "0xabc"⟩
  projectId := "project"
  request := ⟨exchangeId, sessionIdOf binanceTransaction.sessionId⟩

/-- **The failing input.**  Coinbase reports the success of a session of that name, and the
    transaction of Binance has succeeded. -/
theorem settled_by_another_exchange :
    ∃ ledger ledger' row row',
      ledgerCalls.run .empty [(.ok 0, .create binanceTransaction)] = some ledger ∧
      statusRequests.step ledger (askAbout "coinbase") = some ledger' ∧
      row ∈ ledger.rows ∧ row.exchangeId = "binance" ∧ row.status = .pending ∧
      row' ∈ ledger'.rows ∧ row'.sessionId = row.sessionId ∧ row'.status = .succeeded ∧
      ¬ statusRequests.Within StatusRequest.SettlesOwn ledger [askAbout "coinbase"] := by
  have hstep : ∃ ledger ledger' row row',
      ledgerCalls.run .empty [(.ok 0, .create binanceTransaction)] = some ledger ∧
      statusRequests.step ledger (askAbout "coinbase") = some ledger' ∧
      row ∈ ledger.rows ∧ row.exchangeId = "binance" ∧ row.status = .pending ∧
      row' ∈ ledger'.rows ∧ row'.sessionId = row.sessionId ∧ row'.status = .succeeded :=
    ⟨_, _, _, _, rfl, rfl, List.mem_singleton_self _, rfl, rfl, List.mem_singleton_self _, rfl, rfl⟩
  obtain ⟨ledger, ledger', row, row', hrun, hstep, hrow, hexchange, hpending, hrow', hsession,
    hsucceeded⟩ := hstep
  refine ⟨ledger, ledger', row, row', hrun, hstep, hrow, hexchange, hpending, hrow', hsession,
    hsucceeded, fun hsettles => ?_⟩
  -- the row of the session is another one now
  have hchanged : row ∉ ledger'.rows := by
    intro hkept
    have hsame : row = row' := Table.eq_of_key_eq hkept hrow' hsession.symm
    rw [hsame, hsucceeded] at hpending
    cases hpending
  obtain ⟨asked, -, hasked, hid, -⟩ := hsettles.1 ledger' hstep row hrow hchanged
  -- the exchange that was asked is the one that the request names
  have hcoinbase : asked.id = "coinbase" := StatusRequest.id_of_asks hasked
  rw [hid, hexchange] at hcoinbase
  exact absurd hcoinbase (by decide)

/-- A request that asks Binance about its transaction. -/
theorem settled_by_binance :
    ∃ ledger, ledgerCalls.run .empty [(.ok 0, .create binanceTransaction)] = some ledger ∧
      statusRequests.Within StatusRequest.SettlesOwn ledger [askAbout "binance"] := by
  have hrun : ∃ ledger row,
      ledgerCalls.run .empty [(.ok 0, .create binanceTransaction)] = some ledger ∧
      ledger.rows = [row] ∧ row.exchangeId = "binance" := ⟨_, _, rfl, rfl, rfl⟩
  obtain ⟨ledger, row, hrun, hrows, hexchange⟩ := hrun
  have hown : statusRequests.Within StatusRequest.NamesOwnExchange ledger
      [askAbout "binance"] := by
    refine ⟨?_, fun _ _ => trivial⟩
    intro _ _ row' hrow' _
    rw [hrows, List.mem_singleton] at hrow'
    rw [hrow', hexchange]
    rfl
  exact ⟨ledger, hrun, (settled_by_own_exchange hown).1⟩

end BlockchainApi
