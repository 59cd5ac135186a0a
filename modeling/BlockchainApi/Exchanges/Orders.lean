/-
  What becomes of an order that a user was answered with.

  The answer of `get_exchange_url` is a URL and a session.  Whatever users, exchanges and
  reconcilers do afterwards, the ledger keeps one row of that session, with the order that it was
  answered for; a row that is finished is never pending again; and a reconciler that comes to expire
  old transactions finishes a row that has been pending for 12 hours and that nobody has locked.
  (Nothing is expired in a round of the reconciler that claims no row.)

  1.  `exists_order_of_answer`: the answer is given after the transaction is committed, so its row
     is there.
  2.  `hasOrder_step`, `hasOrder_run`: no call removes a row or changes what it says of its order,
     and a finished row is finished after every call (`LedgerCall.isFinished_after`), if with
     another outcome perhaps.
  3.  `finished_of_expire`: the `WHERE` of the expiry, read as a condition on the age and the lock
     of the row.
-/
import BlockchainApi.Exchanges.Purchases

namespace BlockchainApi

/-- **The row of an answer**: the order that the pay URL was asked for. -/
structure OrderOf (db : DbCall) (caller : Caller) (request : GeneratePayUrlRequest)
    (response : GeneratePayUrlResponse) (row : ExchangeTransaction) : Prop where
  sessionId : row.sessionId = response.sessionId
  exchangeId : row.exchangeId = request.exchangeId
  projectId : row.projectId = some caller.projectId
  asset : row.asset = some request.asset
  payUrl : row.payUrl = some response.url
  createdAt : row.createdAt = db.now

section

variable {config : ExchangesConfig} {api : ExchangeApi} {caller : Caller} {userIp : String}
variable {sessionId : Uuid} {db : DbCall} {request : GeneratePayUrlRequest}
variable {response : GeneratePayUrlResponse} {ledger : Ledger} {row row' : ExchangeTransaction}

theorem OrderOf.of_sameOrder (h : OrderOf db caller request response row)
    (hsame : SameOrder row row') : OrderOf db caller request response row' :=
  ⟨hsame.sessionId.trans h.sessionId, hsame.exchangeId.trans h.exchangeId,
    hsame.projectId.trans h.projectId, hsame.asset.trans h.asset, hsame.payUrl.trans h.payUrl,
    hsame.createdAt.trans h.createdAt⟩

/-- **An answer is in the ledger** when it is given, if the exchange stores transactions. -/
theorem exists_order_of_answer
    (hanswer : (payUrlHandler config api caller userIp sessionId db ledger request).1
      = .ok (.ok response))
    (hstored : isStored request.exchangeId = true) :
    ∃ row ∈ (payUrlHandler config api caller userIp sessionId db ledger request).2.rows,
      OrderOf db caller request response row := by
  rw [payUrlHandler] at hanswer ⊢
  cases hauthorize : caller.authorize config with
  | error e =>
    rw [hauthorize] at hanswer
    cases hanswer
  | ok features =>
    obtain ⟨featureType, projectFeatures⟩ := features
    rw [hauthorize] at hanswer
    have haccepted := Except.ok.inj hanswer
    obtain ⟨exchange, params, hparams, -, hsession, hcreate⟩ :=
      PayUrlService.getExchangeUrl_eq_ok haccepted
    obtain ⟨asset, address, amount, -, -, rfl⟩ := PayUrlService.buyUrlParams_eq_ok_iff.mp hparams
    have hrow := (PayUrlService.mem_of_createTransaction hcreate).2 hstored
    exact ⟨_, hrow, hsession.symm, rfl, rfl, rfl, rfl, rfl⟩

/-- A finished row is finished after every call, with one outcome or the other. -/
theorem LedgerCall.isFinished_after {call : LedgerCall} (hfinished : row.IsFinished) :
    (call.after db ledger row).IsFinished := by
  by_cases hcall : ∃ m, call = .mark m
  · obtain ⟨m, rfl⟩ := hcall
    rw [after]
    split
    · cases m with
      | succeeded sessionId exchangeId txHash => exact .inl rfl
      | failed sessionId exchangeId failureReason txHash => exact .inr rfl
    · exact hfinished
  · have hstatus : (call.after db ledger row).status = row.status :=
      (after_of_finished hfinished fun m h => hcall ⟨m, h⟩).1
    rw [ExchangeTransaction.IsFinished, hstatus]
    exact hfinished

end

namespace Exchanges

variable {config : ExchangesConfig} {s s' t : Exchanges} {a : PurchaseAction}
variable {row : ExchangeTransaction} {db : DbCall}

/-- The order of the row is there, and finished if the row was. -/
def HasOrder (s : Exchanges) (row : ExchangeTransaction) : Prop :=
  ∃ row' ∈ s.ledger.rows, SameOrder row row' ∧ (row.IsFinished → row'.IsFinished)

theorem hasOrder_step (hs : s.HasOrder row) (h : (purchases config).step s a = some s') :
    s'.HasOrder row := by
  obtain ⟨held, hheld, hsame, hstays⟩ := hs
  rcases ledger_step_purchases h with hledger | ⟨db, call, -, hledger⟩
  · refine ⟨held, ?_, hsame, hstays⟩
    rwa [hledger]
  · have hafter : call.after db s.ledger held ∈ s'.ledger.rows := by
      rw [hledger]
      exact LedgerCall.mem_apply.mpr (.inl ⟨held, hheld, rfl⟩)
    exact ⟨_, hafter, hsame.trans (LedgerCall.sameOrder_after ..),
      fun hfinished => LedgerCall.isFinished_after (hstays hfinished)⟩

/-- **A row is kept**, and stays finished. -/
theorem hasOrder_run {actions : List PurchaseAction} (hrow : row ∈ s.ledger.rows)
    (hrun : (purchases config).run s actions = some t) : t.HasOrder row :=
  Transitions.Machine.run_invariant (P := fun s : Exchanges => s.HasOrder row) hasOrder_step hrun
    ⟨row, hrow, .refl row, fun hfinished => hfinished⟩

/-- **A reconciler that expires old transactions** leaves this one finished. -/
theorem finished_of_expire {w : Nat} (h : (purchases config).step s (.expire w db) = some s')
    (hrow : row ∈ s.ledger.rows) (hstatement : db.statementError = none)
    (hold : row.createdAt + hours expirePendingAfterHours < db.now)
    (hunlocked : ExchangeTransaction.isPast db.now row.lockedAt (minutes 20) = true) :
    ∃ row' ∈ s'.ledger.rows, SameOrder row row' ∧ row'.IsFinished := by
  have hstep : exchanges.step s (.expire w db) = some s' := step_purchases h
  have hledger : s'.ledger = (LedgerCall.expire expirePendingAfterHours).apply db s.ledger :=
    ledger_step hstep
  refine ⟨(LedgerCall.expire expirePendingAfterHours).after db s.ledger row, ?_,
    LedgerCall.sameOrder_after .., ?_⟩
  · rw [hledger]
    exact LedgerCall.mem_apply.mpr (.inl ⟨row, hrow, rfl⟩)
  · cases hstatus : row.status with
    | pending =>
      have hexpired : row.isExpired db.now expirePendingAfterHours = true := by
        simp only [ExchangeTransaction.isExpired, Bool.and_eq_true, decide_eq_true_eq]
        exact ⟨⟨hstatus, hold⟩, hunlocked⟩
      rw [LedgerCall.after, if_pos ⟨hstatement, hexpired⟩]
      exact .inr rfl
    | succeeded => exact LedgerCall.isFinished_after (.inl hstatus)
    | failed => exact LedgerCall.isFinished_after (.inr hstatus)

end Exchanges

/-- **Orders are kept, and end.**  Once a user has been answered with a URL and a session by an
    exchange that stores transactions, then in every run from there the ledger has one row of the
    session, and it is the order.  Once the row is finished, it is finished for good; and it is
    finished for good once a reconciler comes to expire old transactions more than 12 hours after
    the answer, if nobody has locked the row in the last 20 minutes. -/
theorem orders_kept_and_end {config : ExchangesConfig} {api : ExchangeApi} {caller : Caller}
    {userIp : String} {sessionId : Uuid} {db : DbCall} {request : GeneratePayUrlRequest}
    {response : GeneratePayUrlResponse} {s u : Exchanges} {between : List PurchaseAction}
    (hanswer : (payUrlHandler config api caller userIp sessionId db s.ledger request).1
      = .ok (.ok response))
    (hstored : isStored request.exchangeId = true)
    (hrun : (purchases config).run s (.buy db api caller userIp sessionId request :: between)
      = some u) :
    ∃ row ∈ u.ledger.rows, OrderOf db caller request response row ∧
      (∀ other ∈ u.ledger.rows, other.sessionId = response.sessionId → other = row) ∧
      (row.IsFinished → ∀ later t, (purchases config).run u later = some t →
        ∃ row' ∈ t.ledger.rows, OrderOf db caller request response row' ∧ row'.IsFinished) ∧
      ∀ w dbEnd later t, (purchases config).run u (.expire w dbEnd :: later) = some t →
        dbEnd.statementError = none → db.now + hours expirePendingAfterHours < dbEnd.now →
        ExchangeTransaction.isPast dbEnd.now row.lockedAt (minutes 20) = true →
          ∃ row' ∈ t.ledger.rows, OrderOf db caller request response row' ∧ row'.IsFinished := by
  obtain ⟨s₁, hbuy, hbetween⟩ := Transitions.Machine.run_cons.mp hrun
  cases hbuy
  obtain ⟨first, hfirst, horder⟩ := exists_order_of_answer hanswer hstored
  have hkept : u.HasOrder first := Exchanges.hasOrder_run hfirst hbetween
  obtain ⟨row, hrow, hsame, -⟩ := hkept
  have hrowOrder := horder.of_sameOrder hsame
  -- what has been finished stays so in every run
  have hstays : ∀ (v : Exchanges) (r : ExchangeTransaction), r ∈ v.ledger.rows →
      SameOrder row r → r.IsFinished → ∀ later t, (purchases config).run v later = some t →
        ∃ row' ∈ t.ledger.rows, OrderOf db caller request response row' ∧ row'.IsFinished := by
    intro v r hr hsame' hfinished later t hlater
    obtain ⟨row', hrow', hsame'', hstill⟩ := Exchanges.hasOrder_run hr hlater
    exact ⟨row', hrow', hrowOrder.of_sameOrder (hsame'.trans hsame''), hstill hfinished⟩
  refine ⟨row, hrow, hrowOrder, fun other hother hsession => ?_, hstays u row hrow (.refl row), ?_⟩
  · exact Table.eq_of_key_eq hother hrow (hsession.trans hrowOrder.sessionId.symm)
  · intro w dbEnd later t hend hstatement hold hunlocked
    obtain ⟨v, hexpire, hlater⟩ := Transitions.Machine.run_cons.mp hend
    have hage : row.createdAt + hours expirePendingAfterHours < dbEnd.now := by
      rwa [hrowOrder.createdAt]
    obtain ⟨r, hr, hsame', hfinished⟩ :=
      Exchanges.finished_of_expire hexpire hrow hstatement hage hunlocked
    exact hstays v r hr hsame' hfinished later t hlater

/-- Binance does not answer any more. -/
def silentExchangeApi : ExchangeApi :=
  { demoExchangeApi with orderDetails := fun _ => .notSent "" }

theorem payUrlHandler_buyEther :
    (payUrlHandler testingConfig demoExchangeApi ⟨"project", none, .ok none⟩ "127.0.0.1"
        (.ofNat 16 1) (.ok 0) .empty etherRequest).1 =
      .ok (.ok ⟨sessionIdOf (.ofNat 16 1), sessionIdOf (.ofNat 16 1)⟩) := by
  obtain ⟨amount, hparams⟩ := exists_params_etherRequest
  have hauthorize : Caller.authorize testingConfig ⟨"project", none, .ok none⟩ =
      .ok (.payments, []) := rfl
  rw [payUrlHandler, hauthorize]
  refine congrArg Except.ok ?_
  show ((demoExchangeApi.payUrlService .payments []).getExchangeUrl
    ⟨"project", "127.0.0.1", .ofNat 16 1⟩ (.ok 0) .empty etherRequest).1 = _
  have hurl : (demoExchangeApi.payUrlService .payments []).getBuyUrl .binance
      ⟨"project", ether, amount, "0x1111111111111111111111111111111111111111",
        sessionIdOf (.ofNat 16 1), "127.0.0.1"⟩ = .ok (sessionIdOf (.ofNat 16 1)) := rfl
  have hcreate : createTransaction (.ok 0) .empty etherTransaction =
      (.ok (), (createTransaction (.ok 0) .empty etherTransaction).2) := rfl
  have htx : (demoExchangeApi.payUrlService .payments []).newTransaction
      ⟨"project", "127.0.0.1", .ofNat 16 1⟩ etherRequest
      ⟨"project", ether, amount, "0x1111111111111111111111111111111111111111",
        sessionIdOf (.ofNat 16 1), "127.0.0.1"⟩ (sessionIdOf (.ofNat 16 1)) =
      etherTransaction := rfl
  rw [PayUrlService.getExchangeUrl, hparams]
  simp only [hurl]
  rw [htx, hcreate]

/-- An order that Binance says nothing of is claimed and released after 13 hours; then it ends. -/
theorem orders_kept_and_end_ether :
    ∃ u t row, (purchases testingConfig).run .start [buyEther,
        .claim 0 (.ok (hours 13)) .stored (fun _ => false),
        .process 0 (.ok (hours 13 + 1)) silentExchangeApi] = some u ∧
      (purchases testingConfig).run u [.expire 0 (.ok (hours 13 + 2))] = some t ∧
      row ∈ t.ledger.rows ∧ row.sessionId = sessionIdOf (.ofNat 16 1) ∧ row.IsFinished := by
  -- the run itself is computed; the bounds on the hours are decided
  have hrun : ∃ s₁ u t, exchanges.step .start (.create (.ok 0) etherTransaction) = some s₁ ∧
      (purchases testingConfig).run s₁ [.claim 0 (.ok (hours 13)) .stored (fun _ => false),
        .process 0 (.ok (hours 13 + 1)) silentExchangeApi] = some u ∧
      (purchases testingConfig).run u [.expire 0 (.ok (hours 13 + 2))] = some t ∧
      ∀ row ∈ u.ledger.rows, row.lockedAt = none := by
    refine ⟨_, _, _, rfl, rfl, rfl, fun row hrow => ?_⟩
    cases List.mem_singleton.mp hrow
    rfl
  obtain ⟨s₁, u, t, hcreate, hbetween, hend, hunlocked⟩ := hrun
  obtain ⟨s₁', hbuy⟩ : ∃ s₁', (purchases testingConfig).step .start buyEther = some s₁' :=
    ⟨_, rfl⟩
  have hsame := Exchanges.step_purchases hbuy
  rw [onExchanges_buyEther] at hsame
  cases hcreate.symm.trans hsame
  have hrun := Transitions.Machine.run_cons.mpr ⟨s₁, hbuy, hbetween⟩
  obtain ⟨row, hrow, -, -, -, hends⟩ := orders_kept_and_end payUrlHandler_buyEther rfl hrun
  -- the row was released, so the lock is no obstacle
  have hlock : ExchangeTransaction.isPast (hours 13 + 2) row.lockedAt (minutes 20) = true := by
    rw [hunlocked row hrow]
    rfl
  obtain ⟨row', hrow', horder, hfinished⟩ := hends 0 _ [] t hend rfl (by decide) hlock
  exact ⟨u, t, row', hrun, hend, hrow', horder.sessionId, hfinished⟩

end BlockchainApi
