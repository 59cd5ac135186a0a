/-
  Purchases, from the pay URL to the end of the transaction.

  `purchases` are the handlers and the reconcilers together, with whatever the exchanges, the
  registry and the database answer at each step.  A run of it is a run of `exchanges`
  (`onExchanges`), whose statements on single rows carry over.

  The ledger is kept by statements that know little of what they settle: a marking finds its row by
  the session alone, and anybody may ask about a session.  `purchases_accounted` is what can be read
  off it all the same: each row is an order that stands at its exchange, and each outcome is what an
  exchange said of that session, or the end of the 12 hours.

  1. **Orders.** Some action of the run has bought the row (`Bought`): a caller who may buy at the
     exchange asked for this asset, and the exchange answered with the link of an order for it
     (`Placed`).
  2. **Outcomes.** An answer that ends an order is a report of its exchange (`ExchangeApi.Reports`),
     in that exchange's own words.
  3. **Accounts.** `Accounted` says for each status of a row which action of the run has given it.
     What a row says of its order no call changes (`SameOrder`), and an account stays one as the run
     goes on (`Accounted.mono`).
  4. **Steps.** `Audit` is the invariant of the run so far: all rows bought and accounted for, and
     those that reconcilers hold still in the ledger.  `audit_step` is by the calls an action can
     make (`Calls`), one lemma for each.
-/
import BlockchainApi.Exchanges.Providers
import BlockchainApi.Exchanges.Settlement

namespace BlockchainApi

/-! ## The handlers, with their access check -/

/-- `get_exchange_url::handler`. -/
def payUrlHandler (config : ExchangesConfig) (api : ExchangeApi) (caller : Caller)
    (userIp : String) (sessionId : Uuid) (db : DbCall) (ledger : Ledger)
    (request : GeneratePayUrlRequest) :
    Except CallerError (Outcome GetExchangeUrlError GeneratePayUrlResponse) × Ledger :=
  match caller.authorize config with
  | .error e => (.error e, ledger)
  | .ok (featureType, projectFeatures) =>
    let result := (api.payUrlService featureType projectFeatures).getExchangeUrl
      ⟨caller.projectId, userIp, sessionId⟩ db ledger request
    (.ok result.1, result.2)

/-- `get_exchange_buy_status::handler`. -/
def buyStatusHandler (config : ExchangesConfig) (api : ExchangeApi) (caller : Caller) (db : DbCall)
    (ledger : Ledger) (request : GetExchangeBuyStatusRequest) :
    Except CallerError (Except GetExchangeBuyStatusError GetBuyStatusResponse) × Ledger :=
  match caller.authorize config with
  | .error e => (.error e, ledger)
  | .ok (featureType, projectFeatures) =>
    let result := getExchangeBuyStatus (ExchangeType.isEnabled featureType projectFeatures)
      api.getBuyStatus caller.projectId request db ledger
    (.ok result.1, result.2)

/-! ## The machine: handlers and reconcilers, as a run of `exchanges` -/

inductive PurchaseAction where
  | buy (db : DbCall) (api : ExchangeApi) (caller : Caller) (userIp : String) (sessionId : Uuid)
    (request : GeneratePayUrlRequest)
  | poll (db : DbCall) (api : ExchangeApi) (caller : Caller) (request : GetExchangeBuyStatusRequest)
  | claim (w : Nat) (db : DbCall) (order : RowOrder ExchangeTransaction) (skipped : String → Bool)
  | process (w : Nat) (db : DbCall) (api : ExchangeApi)
  | expire (w : Nat) (db : DbCall)
  | restart (w : Nat)

namespace PurchaseAction

def step (config : ExchangesConfig) (s : Exchanges) : PurchaseAction → Option Exchanges
  | .buy db api caller userIp sessionId request => some { s with
      ledger := (payUrlHandler config api caller userIp sessionId db s.ledger request).2 }
  | .poll db api caller request => some { s with
      ledger := (buyStatusHandler config api caller db s.ledger request).2 }
  | .claim w db order skipped => exchanges.step s (.claim w db order skipped)
  | .process w db api => exchanges.step s (.process w db api.getBuyStatus)
  | .expire w db => exchanges.step s (.expire w db)
  | .restart w => exchanges.step s (.restart w)

/-- The transaction that a pay URL is stored as. -/
def newTransaction (api : ExchangeApi) (featureType : FeatureType)
    (projectFeatures : List ConfiguredFeature) (ctx : PayUrlContext)
    (request : GeneratePayUrlRequest) : Option NewExchangeTransaction :=
  let svc := api.payUrlService featureType projectFeatures
  match svc.buyUrlParams ctx request with
  | .ok (exchange, params) =>
    match svc.getBuyUrl exchange params with
    | .ok url => some (svc.newTransaction ctx request params url)
    | .error _ => none
  | _ => none

/-- The same as an action of `exchanges`. -/
def onExchanges (config : ExchangesConfig) : PurchaseAction → Option ExchangeAction
  | .buy db api caller userIp sessionId request =>
    match caller.authorize config with
    | .ok (featureType, projectFeatures) =>
      (newTransaction api featureType projectFeatures ⟨caller.projectId, userIp, sessionId⟩
        request).map (.create db)
    | .error _ => none
  | .poll db api caller request =>
    match caller.authorize config with
    | .ok (featureType, projectFeatures) =>
      some (.poll db (ExchangeType.isEnabled featureType projectFeatures) api.getBuyStatus
        caller.projectId request)
    | .error _ => none
  | .claim w db order skipped => some (.claim w db order skipped)
  | .process w db api => some (.process w db api.getBuyStatus)
  | .expire w db => some (.expire w db)
  | .restart w => some (.restart w)

/-- A transaction is stored for parameters that are checked, and for the URL that was got. -/
theorem newTransaction_eq_some {api : ExchangeApi} {featureType : FeatureType}
    {projectFeatures : List ConfiguredFeature} {ctx : PayUrlContext}
    {request : GeneratePayUrlRequest} {tx : NewExchangeTransaction}
    (h : newTransaction api featureType projectFeatures ctx request = some tx) :
    ∃ exchange params url,
      (api.payUrlService featureType projectFeatures).buyUrlParams ctx request
        = .ok (exchange, params) ∧
      (api.payUrlService featureType projectFeatures).getBuyUrl exchange params = .ok url ∧
      tx = (api.payUrlService featureType projectFeatures).newTransaction ctx request params
        url := by
  rw [newTransaction] at h
  split at h
  · next exchange params hparams =>
    split at h
    · next url hurl =>
      cases h
      exact ⟨exchange, params, url, hparams, hurl, rfl⟩
    · cases h
  · cases h

/-- What a pay URL leaves in the ledger. -/
theorem getExchangeUrl_snd {api : ExchangeApi} {featureType : FeatureType}
    {projectFeatures : List ConfiguredFeature} {ctx : PayUrlContext} {db : DbCall} {ledger : Ledger}
    {request : GeneratePayUrlRequest} :
    ((api.payUrlService featureType projectFeatures).getExchangeUrl ctx db ledger request).2 =
      match newTransaction api featureType projectFeatures ctx request with
      | some tx => (createTransaction db ledger tx).2
      | none => ledger := by
  simp only [PayUrlService.getExchangeUrl, newTransaction]
  cases (api.payUrlService featureType projectFeatures).buyUrlParams ctx request with
  | err e => rfl
  | panic => rfl
  | ok asked =>
    obtain ⟨exchange, params⟩ := asked
    dsimp only
    cases (api.payUrlService featureType projectFeatures).getBuyUrl exchange params with
    | error e => cases e <;> rfl
    | ok url =>
      dsimp only
      cases createTransaction db ledger
          ((api.payUrlService featureType projectFeatures).newTransaction ctx request params
            url) with
      | mk result stored => cases result <;> rfl

end PurchaseAction

/-- Handlers and reconcilers as a machine. -/
def purchases (config : ExchangesConfig) : Transitions.Machine Exchanges PurchaseAction :=
  ⟨PurchaseAction.step config⟩

namespace Exchanges

variable {config : ExchangesConfig} {s s' : Exchanges} {a : PurchaseAction}

/-- **A purchase is a step of the exchanges**, or leaves everything: a caller who is not let
    through, or who gets no URL, writes nothing. -/
theorem step_purchases (h : (purchases config).step s a = some s') :
    match a.onExchanges config with
    | some b => exchanges.step s b = some s'
    | none => s' = s := by
  cases a with
  | buy db api caller userIp sessionId request =>
    cases h
    simp only [PurchaseAction.onExchanges, payUrlHandler]
    cases caller.authorize config with
    -- a caller who is not let through changes nothing
    | error e => rfl
    | ok features =>
      obtain ⟨featureType, projectFeatures⟩ := features
      simp only [PurchaseAction.getExchangeUrl_snd]
      cases PurchaseAction.newTransaction api featureType projectFeatures
          ⟨caller.projectId, userIp, sessionId⟩ request with
      | none => rfl
      | some tx => rfl
  | poll db api caller request =>
    cases h
    simp only [PurchaseAction.onExchanges, buyStatusHandler]
    cases caller.authorize config with
    | error e => rfl
    | ok features => rfl
  | claim w db order skipped => exact h
  | process w db api => exact h
  | expire w db => exact h
  | restart w => exact h

/-- **Every run of purchases is a run of the exchanges.** -/
def onExchanges (config : ExchangesConfig) :
    Transitions.Simulation (purchases config) exchanges where
  view s := s
  inv _ := True
  actions _ a := (a.onExchanges config).toList
  inv_step _ _ := trivial
  run_step {s a s'} _ h := by
    have hstep := step_purchases h
    cases hb : a.onExchanges config with
    | none =>
      rw [hb] at hstep
      cases hstep
      rfl
    | some b =>
      rw [hb] at hstep
      exact Transitions.Machine.run_cons.mpr ⟨s', hstep, rfl⟩

end Exchanges

/-! ## Orders: a pay URL stands for one at the exchange -/

/-- **An order stands at the exchange**: for the currency and the network of the asset, the amount,
    the recipient and the session, and the URL is what the exchange answered, or leads to it. -/
inductive ExchangeApi.Placed (api : ExchangeApi) (params : GetBuyUrlParams) (url : String) :
    ExchangeType → Prop where
  | binance {crypto network : String} {order : Binance.PreOrderRequest}
      {response : Binance.Response String}
      (hmap : Binance.tables.mapAsset params.asset = .ok (crypto, network))
      (hcrypto : order.cryptoCurrency = crypto) (hnetwork : order.network = network)
      (hid : order.externalOrderId = params.sessionId) (haddress : order.address = params.recipient)
      (hamount : order.amountType = 2 ∧ order.requestedAmount = api.displayF64 params.amount)
      (hplaced : api.preOrder order = .response response) (hurl : response.data = some url) :
      Placed api params url .binance
  | coinbase {crypto network token : String}
      (hmap : Coinbase.tables.mapAsset params.asset = .ok (crypto, network))
      (htoken : api.sessionToken ⟨[⟨params.recipient, [network]⟩], [crypto]⟩ = .ok token)
      (hurl : url = api.withQuery "https://pay.coinbase.com/buy/select-asset"
        (Coinbase.buyUrlPairs api.displayF64 params token crypto network)) :
      Placed api params url .coinbase

/-- What is sent through comes as data. -/
theorem Binance.sendPostRequest_eq_ok {T : Type} {reply : Binance.Reply T} {data : T}
    (h : Binance.sendPostRequest reply = .ok data) :
    ∃ r, reply = .response r ∧ r.success ≠ some false ∧ r.data = some data := by
  cases reply with
  | notConfigured => cases h
  | notSent text => cases h
  | status shown body => cases h
  | unparsed text => cases h
  | response r =>
    rw [sendPostRequest] at h
    split at h
    · cases h
    · next hsuccess =>
      split at h
      · next found hdata =>
        cases h
        exact ⟨r, rfl, hsuccess, hdata⟩
      · cases h

namespace ExchangeApi

variable {api : ExchangeApi} {params : GetBuyUrlParams} {url : String}

/-- A pay URL of Binance is the link of an order. -/
theorem placed_of_binanceBuyUrl (h : api.binanceBuyUrl params = .ok url) :
    api.Placed params url .binance := by
  rw [binanceBuyUrl, Binance.preOrderRequest] at h
  cases hmap : Binance.tables.mapAsset params.asset with
  | error e =>
    rw [hmap] at h
    cases h
  | ok found =>
    obtain ⟨crypto, network⟩ := found
    rw [hmap] at h
    cases hname : api.projectName params.projectId with
    | error e =>
      rw [hname] at h
      cases h
    | ok name =>
      rw [hname] at h
      obtain ⟨response, hplaced, -, hdata⟩ := Binance.sendPostRequest_eq_ok h
      exact .binance hmap rfl rfl rfl rfl ⟨rfl, rfl⟩ hplaced hdata

/-- A pay URL of Coinbase carries the token of a session for the order. -/
theorem placed_of_coinbaseBuyUrl (h : api.coinbaseBuyUrl params = .ok url) :
    api.Placed params url .coinbase := by
  rw [coinbaseBuyUrl] at h
  cases hcredentials : api.coinbaseCredentials params.projectId with
  | error e =>
    rw [hcredentials] at h
    cases h
  | ok u =>
    rw [hcredentials] at h
    cases hmap : Coinbase.tables.mapAsset params.asset with
    | error e =>
      rw [hmap] at h
      cases h
    | ok found =>
      obtain ⟨crypto, network⟩ := found
      rw [hmap] at h
      dsimp only at h
      cases htoken : api.sessionToken
          (Coinbase.sessionTokenRequest crypto network params.recipient) with
      | error e =>
        rw [htoken] at h
        cases h
      | ok token =>
        rw [htoken] at h
        exact .coinbase hmap htoken (Except.ok.inj h).symm

/-- **A pay URL** comes with an order, unless it is one of the test exchange. -/
theorem placed_of_getBuyUrl {featureType : FeatureType} {projectFeatures : List ConfiguredFeature}
    {exchange : ExchangeType} (hexchange : exchange ≠ .reownTest)
    (h : (api.payUrlService featureType projectFeatures).getBuyUrl exchange params = .ok url) :
    api.Placed params url exchange := by
  cases exchange with
  | binance => exact placed_of_binanceBuyUrl h
  | coinbase => exact placed_of_coinbaseBuyUrl h
  | reownTest => exact absurd rfl hexchange

end ExchangeApi

/-- The row of an order: a caller who may buy at the exchange asked for this asset there. -/
structure IsOrder (config : ExchangesConfig) (api : ExchangeApi) (caller : Caller)
    (request : GeneratePayUrlRequest) (exchange : ExchangeType) (params : GetBuyUrlParams)
    (url : String) (row : ExchangeTransaction) : Prop where
  authorized : ∃ featureType projectFeatures,
    caller.authorize config = .ok (featureType, projectFeatures) ∧
      exchange.isEnabled featureType projectFeatures = true
  exchangeId : row.exchangeId = exchange.id
  asset : row.asset = some request.asset
  parsed : Caip19Asset.parse api.checksums request.asset = .ok params.asset
  projectId : row.projectId = some caller.projectId
  recipient : row.recipient = some params.recipient
  amount : row.amount = some (api.f64Bits params.amount)
  sessionId : row.sessionId = params.sessionId
  payUrl : row.payUrl = some url
  placed : api.Placed params url exchange

/-- **Somebody bought it** in a step of the run. -/
def Bought (config : ExchangesConfig) (past : List PurchaseAction) (row : ExchangeTransaction) :
    Prop :=
  ∃ db api caller userIp sessionId request exchange params url,
    PurchaseAction.buy db api caller userIp sessionId request ∈ past ∧ row.createdAt = db.now ∧
      IsOrder config api caller request exchange params url row

/-! ## Outcomes: an answer that ends an order, in the words of its exchange -/

/-- **An exchange says how an order has ended**, with the hash of its transaction. -/
inductive ExchangeApi.Reports (api : ExchangeApi) (projectId sessionId : String) :
    ExchangeType → TxStatus → Option String → Prop where
  | binanceSucceeded {r : Binance.Response Binance.QueryOrderDetailsResponse}
      {details : Binance.QueryOrderDetailsResponse}
      (hreply : api.orderDetails sessionId = .response r) (hdata : r.data = some details)
      (hcode : details.status ∈ [2, 20]) :
      Reports api projectId sessionId .binance .succeeded details.withdrawTxHash
  | binanceFailed {r : Binance.Response Binance.QueryOrderDetailsResponse}
      {details : Binance.QueryOrderDetailsResponse}
      (hreply : api.orderDetails sessionId = .response r) (hdata : r.data = some details)
      (hcode : details.status ∈ [95, 96, 97, 98, 99]) :
      Reports api projectId sessionId .binance .failed details.withdrawTxHash
  | coinbaseSucceeded {transaction : Coinbase.OnrampTransaction}
      {rest : List Coinbase.OnrampTransaction} {hash : String}
      (hreply : api.transactions projectId sessionId = .ok (transaction :: rest))
      (hstatus : transaction.status = .success) (hhash : transaction.txHash = some hash)
      (hne : hash ≠ "") :
      Reports api projectId sessionId .coinbase .succeeded (some hash)
  | coinbaseFailed {transaction : Coinbase.OnrampTransaction}
      {rest : List Coinbase.OnrampTransaction}
      (hreply : api.transactions projectId sessionId = .ok (transaction :: rest))
      (hstatus : transaction.status = .failed) :
      Reports api projectId sessionId .coinbase .failed transaction.txHash

/-- The codes of Binance that end an order. -/
theorem Binance.OrderStatus.buyStatus_ofCode (code : Nat) :
    ((ofCode code).buyStatus = .success ↔ code ∈ [2, 20]) ∧
      ((ofCode code).buyStatus = .failed ↔ code ∈ [95, 96, 97, 98, 99]) := by
  unfold ofCode
  split <;> simp_all [buyStatus]

/-- The transactions of Coinbase that end an order: a success needs a hash. -/
theorem Coinbase.OnrampTransaction.buyStatus_eq (transaction : Coinbase.OnrampTransaction) :
    (transaction.buyStatus = .success ↔
      transaction.status = .success ∧ ∃ hash, transaction.txHash = some hash ∧ hash ≠ "") ∧
      (transaction.buyStatus = .failed ↔ transaction.status = .failed) := by
  obtain ⟨status, _ | hash⟩ := transaction <;> cases status <;>
    simp [buyStatus, String.isEmpty_iff]
  by_cases hempty : hash = "" <;> simp [hempty]

/-- The reason that is stored with an outcome. -/
def reasonOf (status : TxStatus) : Option String :=
  if status = .failed then some "provider_failed" else none

/-- The answers that become markings. -/
theorem GetBuyStatusResponse.call_eq_mark {response : GetBuyStatusResponse}
    {exchangeId sessionId : String} {m : Marking}
    (h : response.call exchangeId sessionId = .mark m) :
    (m.sessionId = sessionId ∧ m.exchangeId = exchangeId) ∧ m.txHash = response.txHash ∧
      m.failureReason = reasonOf m.status ∧
        (response.status = .success ∧ m.status = .succeeded ∨
          response.status = .failed ∧ m.status = .failed) := by
  rw [call] at h
  cases hstatus : response.status with
  | success =>
    rw [hstatus] at h
    cases h
    exact ⟨⟨rfl, rfl⟩, rfl, rfl, .inl ⟨rfl, rfl⟩⟩
  | failed =>
    rw [hstatus] at h
    cases h
    exact ⟨⟨rfl, rfl⟩, rfl, rfl, .inr ⟨rfl, rfl⟩⟩
  | unknown =>
    rw [hstatus] at h
    cases h
  | inProgress =>
    rw [hstatus] at h
    cases h

/-- A call that writes an answer down: the row is marked, or touched. -/
def LedgerCall.IsAnswer (call : LedgerCall) : Prop :=
  (∃ m, call = .mark m) ∨ ∃ exchangeId sessionId, call = .touch exchangeId sessionId

theorem LedgerCall.IsAnswer.ne_create {call : LedgerCall} (h : call.IsAnswer)
    {tx : NewExchangeTransaction} : call ≠ .create tx := by
  rcases h with ⟨m, rfl⟩ | ⟨exchangeId, sessionId, rfl⟩ <;> exact nofun

theorem LedgerCall.IsAnswer.ne_expire {call : LedgerCall} (h : call.IsAnswer)
    {maxAgeHours : Nat} : call ≠ .expire maxAgeHours := by
  rcases h with ⟨m, rfl⟩ | ⟨exchangeId, sessionId, rfl⟩ <;> exact nofun

theorem GetBuyStatusResponse.isAnswer_call (response : GetBuyStatusResponse)
    (exchangeId sessionId : String) : (response.call exchangeId sessionId).IsAnswer := by
  rw [call]
  split
  · exact .inl ⟨_, rfl⟩
  · exact .inl ⟨_, rfl⟩
  · exact .inr ⟨_, _, rfl⟩

theorem isAnswer_reconcileCall (getBuyStatus : GetBuyStatus) (row : ExchangeTransaction) :
    (reconcileCall getBuyStatus row).IsAnswer := by
  rcases reconcileCall_cases getBuyStatus row with ⟨m, hmark, -⟩ | htouch
  · exact .inl ⟨m, hmark⟩
  · exact .inr ⟨_, _, htouch⟩

namespace ExchangeApi

variable {api : ExchangeApi} {projectId sessionId : String} {response : GetBuyStatusResponse}
variable {status : TxStatus}

/-- What Binance says with an answer that ends the order. -/
theorem reports_binance
    (h : Binance.getBuyStatus (api.orderDetails sessionId) = .ok response)
    (hstatus : response.status = .success ∧ status = .succeeded ∨
      response.status = .failed ∧ status = .failed) :
    api.Reports projectId sessionId .binance status response.txHash := by
  rw [Binance.getBuyStatus] at h
  cases hsent : Binance.sendPostRequest (api.orderDetails sessionId) with
  | error e =>
    rw [hsent] at h
    cases h
  | ok details =>
    rw [hsent] at h
    cases h
    obtain ⟨r, hreply, -, hdata⟩ := Binance.sendPostRequest_eq_ok hsent
    have hcodes := Binance.OrderStatus.buyStatus_ofCode details.status
    rcases hstatus with ⟨hsuccess, rfl⟩ | ⟨hfailed, rfl⟩
    · exact .binanceSucceeded hreply hdata (hcodes.1.mp hsuccess)
    · exact .binanceFailed hreply hdata (hcodes.2.mp hfailed)

/-- What Coinbase says with an answer that ends the order. -/
theorem reports_coinbase
    (h : Coinbase.getBuyStatus (api.transactions projectId sessionId) = .ok response)
    (hstatus : response.status = .success ∧ status = .succeeded ∨
      response.status = .failed ∧ status = .failed) :
    api.Reports projectId sessionId .coinbase status response.txHash := by
  cases hreply : api.transactions projectId sessionId with
  | error e =>
    rw [hreply] at h
    cases h
  | ok transactions =>
    rw [hreply] at h
    cases transactions with
    | nil =>
      cases h
      rcases hstatus with ⟨hstatus, -⟩ | ⟨hstatus, -⟩ <;> cases hstatus
    | cons transaction rest =>
      cases h
      have hstatuses := transaction.buyStatus_eq
      rcases hstatus with ⟨hsuccess, rfl⟩ | ⟨hfailed, rfl⟩
      · obtain ⟨hstatus, hash, hhash, hne⟩ := hstatuses.1.mp hsuccess
        show api.Reports projectId sessionId .coinbase .succeeded transaction.txHash
        rw [hhash]
        exact .coinbaseSucceeded hreply hstatus hhash hne
      · exact .coinbaseFailed hreply (hstatuses.2.mp hfailed)

/-- **An answer that ends an order** is a report. -/
theorem reports_of_getBuyStatus {exchange : ExchangeType} (hexchange : exchange ≠ .reownTest)
    (h : api.getBuyStatus exchange ⟨projectId, sessionId⟩ = .ok response)
    (hstatus : response.status = .success ∧ status = .succeeded ∨
      response.status = .failed ∧ status = .failed) :
    api.Reports projectId sessionId exchange status response.txHash := by
  cases exchange with
  | binance => exact reports_binance h hstatus
  | coinbase =>
    rw [getBuyStatus] at h
    cases hcredentials : api.coinbaseCredentials projectId with
    | error e =>
      rw [hcredentials] at h
      cases h
    | ok u =>
      rw [hcredentials] at h
      exact reports_coinbase h hstatus
  | reownTest => exact absurd rfl hexchange

end ExchangeApi

/-! ## Accounts: which action has given a row its status -/

/-- Two rows of one order; no call on the ledger changes what a row says of it. -/
structure SameOrder (row row' : ExchangeTransaction) : Prop where
  sessionId : row'.sessionId = row.sessionId
  exchangeId : row'.exchangeId = row.exchangeId
  projectId : row'.projectId = row.projectId
  asset : row'.asset = row.asset
  amount : row'.amount = row.amount
  recipient : row'.recipient = row.recipient
  payUrl : row'.payUrl = row.payUrl
  createdAt : row'.createdAt = row.createdAt

theorem SameOrder.refl (row : ExchangeTransaction) : SameOrder row row :=
  ⟨rfl, rfl, rfl, rfl, rfl, rfl, rfl, rfl⟩

theorem SameOrder.symm {row row' : ExchangeTransaction} (h : SameOrder row row') :
    SameOrder row' row :=
  ⟨h.sessionId.symm, h.exchangeId.symm, h.projectId.symm, h.asset.symm, h.amount.symm,
    h.recipient.symm, h.payUrl.symm, h.createdAt.symm⟩

theorem SameOrder.trans {row row' row'' : ExchangeTransaction} (h : SameOrder row row')
    (h' : SameOrder row' row'') : SameOrder row row'' :=
  ⟨h'.sessionId.trans h.sessionId, h'.exchangeId.trans h.exchangeId,
    h'.projectId.trans h.projectId, h'.asset.trans h.asset, h'.amount.trans h.amount,
    h'.recipient.trans h.recipient, h'.payUrl.trans h.payUrl, h'.createdAt.trans h.createdAt⟩

theorem LedgerCall.sameOrder_after (db : DbCall) (ledger : Ledger) (call : LedgerCall)
    (row : ExchangeTransaction) : SameOrder row (call.after db ledger row) := by
  rcases after_cases db ledger call row with hkept | ⟨m, -, -, -, hmark⟩ |
      ⟨exchangeId, -, -, -, htouch⟩ | ⟨-, hlock⟩ | ⟨-, hexpire⟩
  · rw [hkept]
    exact .refl row
  · rw [hmark]
    exact ⟨rfl, rfl, rfl, rfl, rfl, rfl, rfl, rfl⟩
  · rw [htouch]
    exact ⟨rfl, rfl, rfl, rfl, rfl, rfl, rfl, rfl⟩
  · rw [hlock]
    exact ⟨rfl, rfl, rfl, rfl, rfl, rfl, rfl, rfl⟩
  · rw [hexpire]
    exact ⟨rfl, rfl, rfl, rfl, rfl, rfl, rfl, rfl⟩

/-- A row tells what the exchange reported at that moment. -/
structure IsReport (db : DbCall) (api : ExchangeApi) (projectId : String) (exchange : ExchangeType)
    (row : ExchangeTransaction) : Prop where
  report : api.Reports projectId row.sessionId exchange row.status row.txHash
  reason : row.failureReason = reasonOf row.status
  completedAt : row.completedAt = some db.now

/-- **How a row has come to its status**: it is pending, with no outcome; an exchange reported the
    outcome to somebody who asked it about this session, or the exchange of the row to a reconciler;
    or a reconciler has given it up. -/
inductive Accounted (config : ExchangesConfig) (past : List PurchaseAction)
    (row : ExchangeTransaction) : Prop where
  | pending (hstatus : row.status = .pending) (houtcome : row.outcome = (none, none, none))
  | polled {db : DbCall} {api : ExchangeApi} {caller : Caller}
      {request : GetExchangeBuyStatusRequest} {exchange : ExchangeType}
      (hmem : PurchaseAction.poll db api caller request ∈ past)
      (hsession : request.sessionId = row.sessionId) (hexchange : request.exchangeId = exchange.id)
      (hauthorized : ∃ featureType projectFeatures,
        caller.authorize config = .ok (featureType, projectFeatures) ∧
          exchange.isEnabled featureType projectFeatures = true)
      (hreport : IsReport db api caller.projectId exchange row)
  | reconciled {w : Nat} {db : DbCall} {api : ExchangeApi} {exchange : ExchangeType}
      {projectId : String} (hmem : PurchaseAction.process w db api ∈ past)
      (hexchange : row.exchangeId = exchange.id) (hproject : row.projectId = some projectId)
      (hreport : IsReport db api projectId exchange row)
  | expired {w : Nat} {db : DbCall} (hmem : PurchaseAction.expire w db ∈ past)
      (hstatus : row.status = .failed)
      (houtcome : row.outcome = (some db.now, none, some "expired"))
      (hage : row.createdAt + hours expirePendingAfterHours < db.now)

section

variable {config : ExchangesConfig} {past past' : List PurchaseAction}
variable {row row' : ExchangeTransaction}

theorem Bought.mono (h : Bought config past row) (hpast : past ⊆ past')
    (hsame : SameOrder row row') : Bought config past' row' := by
  obtain ⟨db, api, caller, userIp, sessionId, request, exchange, params, url, hmem, hcreated,
    horder⟩ := h
  refine ⟨db, api, caller, userIp, sessionId, request, exchange, params, url, hpast hmem,
    hsame.createdAt.trans hcreated, ?_⟩
  exact
    { authorized := horder.authorized
      exchangeId := hsame.exchangeId.trans horder.exchangeId
      asset := hsame.asset.trans horder.asset
      parsed := horder.parsed
      projectId := hsame.projectId.trans horder.projectId
      recipient := hsame.recipient.trans horder.recipient
      amount := hsame.amount.trans horder.amount
      sessionId := hsame.sessionId.trans horder.sessionId
      payUrl := hsame.payUrl.trans horder.payUrl
      placed := horder.placed }

/-- What is bought is bought by a project, and not at the test exchange. -/
theorem Bought.exists_exchange (h : Bought config past row) :
    ∃ (exchange : ExchangeType) (projectId : String), row.exchangeId = exchange.id ∧
      row.projectId = some projectId ∧ exchange ≠ .reownTest := by
  obtain ⟨db, api, caller, userIp, sessionId, request, exchange, params, url, -, -, horder⟩ := h
  refine ⟨exchange, caller.projectId, horder.exchangeId, horder.projectId, ?_⟩
  rintro rfl
  cases horder.placed

theorem Accounted.mono (h : Accounted config past row) (hpast : past ⊆ past')
    (hsame : SameOrder row row') (hstatus : row'.status = row.status)
    (houtcome : row'.outcome = row.outcome) : Accounted config past' row' := by
  obtain ⟨hcompleted, hhash, hreason⟩ :
      row'.completedAt = row.completedAt ∧ row'.txHash = row.txHash ∧
        row'.failureReason = row.failureReason := by
    simpa [ExchangeTransaction.outcome] using houtcome
  -- a report speaks of the session, the status and the outcome only
  have hreport : ∀ {db api projectId exchange}, IsReport db api projectId exchange row →
      IsReport db api projectId exchange row' := by
    intro db api projectId exchange hold
    refine ⟨?_, ?_, hcompleted.trans hold.completedAt⟩
    · rw [hsame.sessionId, hstatus, hhash]
      exact hold.report
    · rw [hstatus, hreason]
      exact hold.reason
  cases h with
  | pending hpending hnone => exact .pending (hstatus.trans hpending) (houtcome.trans hnone)
  | polled hmem hsession hexchange hauthorized hold =>
    exact .polled (hpast hmem) (hsession.trans hsame.sessionId.symm) hexchange hauthorized
      (hreport hold)
  | reconciled hmem hexchange hproject hold =>
    exact .reconciled (hpast hmem) (hsame.exchangeId.trans hexchange)
      (hsame.projectId.trans hproject) (hreport hold)
  | expired hmem hfailed hold hage =>
    refine .expired (hpast hmem) (hstatus.trans hfailed) (houtcome.trans hold) ?_
    rwa [hsame.createdAt]

/-- A pending row has no outcome. -/
theorem Accounted.outcome_of_pending (h : Accounted config past row)
    (hpending : row.status = .pending) : row.outcome = (none, none, none) := by
  have hreported : ∀ {db api projectId exchange}, ¬ IsReport db api projectId exchange row := by
    intro db api projectId exchange hreport
    have hreports := hreport.report
    rw [hpending] at hreports
    cases hreports
  cases h with
  | pending _ hnone => exact hnone
  | polled _ _ _ _ hreport => exact absurd hreport hreported
  | reconciled _ _ _ hreport => exact absurd hreport hreported
  | expired _ hfailed _ _ =>
    rw [hpending] at hfailed
    cases hfailed

end

/-! ## Steps: one lemma for each call, and the invariant of the run -/

namespace Exchanges

variable {config : ExchangesConfig} {past : List PurchaseAction} {s s' : Exchanges}

/-- The rows that reconcilers hold are orders of the ledger. -/
def HoldsOrders (s : Exchanges) : Prop :=
  ∀ w, ∀ row ∈ (s.workers w).rows, ∃ r ∈ s.ledger.rows, SameOrder r row

/-- Every order of the ledger is still there after a step. -/
theorem exists_sameOrder_step {b : ExchangeAction} (h : exchanges.step s b = some s')
    {row : ExchangeTransaction} (hrow : row ∈ s.ledger.rows) :
    ∃ row' ∈ s'.ledger.rows, SameOrder row row' := by
  rw [ledger_step h]
  cases s.callOf b with
  | none => exact ⟨row, hrow, .refl row⟩
  | some call =>
    exact ⟨_, LedgerCall.mem_apply.mpr (.inl ⟨row, hrow, rfl⟩),
      LedgerCall.sameOrder_after _ _ _ row⟩

theorem holdsOrders_step {b : ExchangeAction} (hs : s.HoldsOrders)
    (h : exchanges.step s b = some s') : s'.HoldsOrders := by
  intro w row hrow
  have hbefore : ∃ r ∈ s.ledger.rows, SameOrder r row := by
    rcases mem_rows_step h hrow with hold | ⟨db, order, skipped, batch, -, hbatch, hmem⟩
    · exact hs w row hold
    · obtain ⟨-, r, hr, rfl⟩ := mem_of_claimed hbatch hmem
      exact ⟨r, (Ledger.mem_candidates hr).1, rfl, rfl, rfl, rfl, rfl, rfl, rfl, rfl⟩
  obtain ⟨r, hr, hsame⟩ := hbefore
  obtain ⟨r', hr', hsame'⟩ := exists_sameOrder_step h hr
  exact ⟨r', hr', hsame'.symm.trans hsame⟩

/-- **The call on the ledger** that an action makes. -/
inductive Calls (config : ExchangesConfig) (s : Exchanges) (db : DbCall) :
    PurchaseAction → LedgerCall → Prop where
  | buy {api : ExchangeApi} {caller : Caller} {userIp : String} {sessionId : Uuid}
      {request : GeneratePayUrlRequest} {featureType : FeatureType}
      {projectFeatures : List ConfiguredFeature} {tx : NewExchangeTransaction}
      (hauthorize : caller.authorize config = .ok (featureType, projectFeatures))
      (htx : PurchaseAction.newTransaction api featureType projectFeatures
        ⟨caller.projectId, userIp, sessionId⟩ request = some tx) :
      Calls config s db (.buy db api caller userIp sessionId request) (.create tx)
  | poll {api : ExchangeApi} {caller : Caller} {request : GetExchangeBuyStatusRequest}
      {featureType : FeatureType} {projectFeatures : List ConfiguredFeature}
      {response : GetBuyStatusResponse} {call : LedgerCall}
      (hauthorize : caller.authorize config = .ok (featureType, projectFeatures))
      (hanswer : buyStatus (ExchangeType.isEnabled featureType projectFeatures) api.getBuyStatus
        caller.projectId request = .ok response)
      (hcall : response.call request.exchangeId request.sessionId = call) :
      Calls config s db (.poll db api caller request) call
  | claim {w : Nat} {order : RowOrder ExchangeTransaction} {skipped : String → Bool} :
      Calls config s db (.claim w db order skipped) (.claim order skipped claimBatchSize)
  | process {w : Nat} {api : ExchangeApi} {held : ExchangeTransaction}
      {rest : List ExchangeTransaction} {call : LedgerCall}
      (hworker : s.workers w = .processing held rest)
      (hcall : reconcileCall api.getBuyStatus held = call) :
      Calls config s db (.process w db api) call
  | expire {w : Nat} : Calls config s db (.expire w db) (.expire expirePendingAfterHours)

theorem calls_of_callOf {a : PurchaseAction} {b : ExchangeAction} {db : DbCall}
    {call : LedgerCall} (hb : a.onExchanges config = some b) (h : s.callOf b = some (db, call)) :
    s.Calls config db a call := by
  cases a with
  | buy db' api caller userIp sessionId request =>
    rw [PurchaseAction.onExchanges] at hb
    split at hb
    · next featureType projectFeatures hauthorize =>
      obtain ⟨tx, htx, rfl⟩ := Option.map_eq_some_iff.mp hb
      cases h
      exact .buy hauthorize htx
    · cases hb
  | poll db' api caller request =>
    rw [PurchaseAction.onExchanges] at hb
    split at hb
    · next featureType projectFeatures hauthorize =>
      cases hb
      obtain ⟨response, hanswer, hpair⟩ := Option.map_eq_some_iff.mp h
      obtain ⟨rfl, hcall⟩ := Prod.mk.inj hpair
      rw [Except.toOption_eq_some] at hanswer
      exact .poll hauthorize hanswer hcall
    · cases hb
  | claim w db' order skipped =>
    cases hb
    cases h
    exact .claim
  | process w db' api =>
    cases hb
    rw [callOf] at h
    split at h
    · next held rest hworker =>
      obtain ⟨rfl, hcall⟩ := Prod.mk.inj (Option.some.inj h)
      exact .process hworker hcall
    · cases h
  | expire w db' =>
    cases hb
    cases h
    exact .expire
  | restart w =>
    -- a restart makes no call
    cases hb
    cases h

/-- **What a step does to the ledger**: nothing, or the call of its action. -/
theorem ledger_step_purchases {a : PurchaseAction} (h : (purchases config).step s a = some s') :
    s'.ledger = s.ledger ∨
      ∃ db call, s.Calls config db a call ∧ s'.ledger = call.apply db s.ledger := by
  have hstep := step_purchases h
  cases hb : a.onExchanges config with
  | none =>
    rw [hb] at hstep
    rw [hstep]
    exact .inl rfl
  | some b =>
    rw [hb] at hstep
    have hledger := ledger_step hstep
    cases hcall : s.callOf b with
    | none =>
      rw [hcall] at hledger
      exact .inl hledger
    | some called =>
      obtain ⟨db, call⟩ := called
      rw [hcall] at hledger
      exact .inr ⟨db, call, calls_of_callOf hb hcall, hledger⟩

theorem holdsOrders_step_purchases {a : PurchaseAction} (hs : s.HoldsOrders)
    (h : (purchases config).step s a = some s') : s'.HoldsOrders := by
  have hstep := step_purchases h
  cases hb : a.onExchanges config with
  | none =>
    rw [hb] at hstep
    rwa [hstep]
  | some b =>
    rw [hb] at hstep
    exact holdsOrders_step hs hstep

/-- The rows are well formed, as in every run of the exchanges. -/
theorem wellFormed_purchases {actions : List PurchaseAction}
    (hrun : (purchases config).run .start actions = some s) :
    ∀ row ∈ s.ledger.rows, row.WellFormed := by
  obtain ⟨actions', hrun'⟩ := (onExchanges config).run hrun trivial
  exact onLedger.invariant (P := fun ledger : Ledger => ∀ row ∈ ledger.rows, row.WellFormed)
    Ledger.wellFormed_step hrun' trivial fun row hrow => by cases hrow

/-- **The invariant of the run so far.** -/
structure Audit (config : ExchangesConfig) (past : List PurchaseAction) (s : Exchanges) : Prop where
  rows : ∀ row ∈ s.ledger.rows, Bought config past row ∧ Accounted config past row
  held : s.HoldsOrders

end Exchanges

section

variable {config : ExchangesConfig} {past past' : List PurchaseAction} {s s' : Exchanges}
variable {a : PurchaseAction} {row : ExchangeTransaction} {db : DbCall}

/-- The row that a report leaves. -/
theorem isReport_on {api : ExchangeApi} {projectId : String} {exchange : ExchangeType} {m : Marking}
    (hreport : api.Reports projectId row.sessionId exchange m.status m.txHash)
    (hreason : m.failureReason = reasonOf m.status) :
    IsReport db api projectId exchange (m.on db.now row) := by
  refine ⟨hreport, hreason, ?_⟩
  cases m <;> rfl

/-- **A row that a user's request marks.** -/
theorem accounted_of_poll {api : ExchangeApi} {caller : Caller}
    {request : GetExchangeBuyStatusRequest} {featureType : FeatureType}
    {projectFeatures : List ConfiguredFeature} {response : GetBuyStatusResponse} {m : Marking}
    (hmem : PurchaseAction.poll db api caller request ∈ past)
    (hauthorize : caller.authorize config = .ok (featureType, projectFeatures))
    (hanswer : buyStatus (ExchangeType.isEnabled featureType projectFeatures) api.getBuyStatus
      caller.projectId request = .ok response)
    (hcall : response.call request.exchangeId request.sessionId = .mark m)
    (hsession : row.sessionId = m.sessionId) (hgoes : m.goesThrough db = true) :
    Accounted config past (m.on db.now row) := by
  obtain ⟨⟨hmsession, hmexchange⟩, hhash, hreason, hstatus⟩ :=
    GetBuyStatusResponse.call_eq_mark hcall
  obtain ⟨exchange, ⟨hasked, -⟩, hresponse⟩ := buyStatus_eq_ok.mp hanswer
  obtain ⟨hid, henabled⟩ := getExchangeById_eq_ok_iff.mp hasked
  have hstored : isStored exchange.id = true := by
    rw [Marking.goesThrough, Bool.and_eq_true, Bool.and_eq_true, hmexchange, ← hid] at hgoes
    exact hgoes.1.1
  have hexchange : exchange ≠ .reownTest := by
    rintro rfl
    cases hstored
  have hsame : request.sessionId = row.sessionId := (hsession.trans hmsession).symm
  have hreports := ExchangeApi.reports_of_getBuyStatus hexchange hresponse hstatus
  rw [← hhash, hsame] at hreports
  exact .polled hmem hsame hid.symm ⟨featureType, projectFeatures, hauthorize, henabled⟩
    (isReport_on hreports hreason)

/-- **A row that a reconciler marks.** -/
theorem accounted_of_process {w : Nat} {api : ExchangeApi} {held : ExchangeTransaction}
    {m : Marking}
    (hmem : PurchaseAction.process w db api ∈ past) (hbought : Bought config past row)
    (hheld : SameOrder row held) (hcall : reconcileCall api.getBuyStatus held = .mark m) :
    Accounted config past (m.on db.now row) := by
  obtain ⟨exchange, projectId, hexchange, hproject, htest⟩ := hbought.exists_exchange
  obtain ⟨response, hanswer, hresponse⟩ :=
    (Exchanges.reconcileCall_of_asked (hheld.exchangeId.trans hexchange).symm htest
      (hheld.projectId.trans hproject)).mp hcall
  obtain ⟨-, hhash, hreason, hstatus⟩ := GetBuyStatusResponse.call_eq_mark hresponse
  have hreports := ExchangeApi.reports_of_getBuyStatus htest hanswer hstatus
  rw [← hhash, hheld.sessionId] at hreports
  exact .reconciled hmem hexchange hproject (isReport_on hreports hreason)

/-- **A row that is new** is what somebody has just bought. -/
theorem bought_of_create {tx : NewExchangeTransaction} (h : s.Calls config db a (.create tx))
    (hstored : isStored tx.exchangeId = true) (hmem : a ∈ past) :
    Bought config past (tx.row db.now) := by
  cases h with
  | buy hauthorize htx =>
    rename_i api caller userIp sessionId request featureType projectFeatures
    obtain ⟨exchange, params, url, hparams, hurl, rfl⟩ := PurchaseAction.newTransaction_eq_some htx
    obtain ⟨asset, address, amount, hcheck, -, rfl⟩ :=
      PayUrlService.buyUrlParams_eq_ok_iff.mp hparams
    obtain ⟨hasked, hasset, -, -, -, -, -, -⟩ := PayUrlService.checkRequest_eq_ok_iff.mp hcheck
    obtain ⟨hid, henabled⟩ := getExchangeById_eq_ok_iff.mp hasked
    -- the test exchange stores nothing
    have htest : exchange ≠ .reownTest := by
      rintro rfl
      have hnot : isStored request.exchangeId = true := hstored
      rw [← hid] at hnot
      cases hnot
    refine ⟨db, api, caller, userIp, sessionId, request, exchange,
      ⟨caller.projectId, asset, amount, address, sessionIdOf sessionId, userIp⟩, url, hmem, rfl, ?_⟩
    exact
      { authorized := ⟨featureType, projectFeatures, hauthorize, henabled⟩
        exchangeId := hid.symm
        asset := rfl
        parsed := hasset
        projectId := rfl
        recipient := rfl
        amount := rfl
        sessionId := rfl
        payUrl := rfl
        placed := ExchangeApi.placed_of_getBuyUrl htest hurl }
  | poll _ _ hcall => exact absurd hcall (GetBuyStatusResponse.isAnswer_call _ _ _).ne_create
  | process _ hcall => exact absurd hcall (isAnswer_reconcileCall _ _).ne_create

/-- **A row that is marked** is accounted for by the step that marks it. -/
theorem accounted_of_mark {m : Marking} (haudit : s.Audit config past)
    (h : s.Calls config db a (.mark m)) (hmem : a ∈ past') (hpast : past ⊆ past')
    (hrow : row ∈ s.ledger.rows) (hsession : row.sessionId = m.sessionId)
    (hgoes : m.goesThrough db = true) : Accounted config past' (m.on db.now row) := by
  cases h with
  | poll hauthorize hanswer hcall =>
    exact accounted_of_poll hmem hauthorize hanswer hcall hsession hgoes
  | process hworker hcall =>
    rename_i w api held rest
    have hheld : held ∈ (s.workers w).rows := by
      rw [hworker]
      exact List.mem_cons_self
    obtain ⟨r, hr, hsame⟩ := haudit.held w held hheld
    -- the row of the session is the one that the reconciler holds
    have hmarked : m.sessionId = held.sessionId := by
      rcases reconcileCall_cases api.getBuyStatus held with ⟨m', hm', hsession', -⟩ | htouch
      · cases hm'.symm.trans hcall
        exact hsession'
      · cases htouch.symm.trans hcall
    have heq : r = row :=
      Table.eq_of_key_eq hr hrow ((hsame.sessionId.symm.trans hmarked.symm).trans hsession.symm)
    subst heq
    exact accounted_of_process hmem ((haudit.rows r hr).1.mono hpast (.refl r)) hsame hcall

/-- **A row that expires** is accounted for by the reconciler that gives it up. -/
theorem accounted_of_expire {maxAgeHours : Nat} (hold : Accounted config past row)
    (h : s.Calls config db a (.expire maxAgeHours)) (hmem : a ∈ past')
    (hexpired : row.isExpired db.now maxAgeHours = true) :
    Accounted config past' (row.expire db.now) := by
  cases h with
  | poll _ _ hcall => exact absurd hcall (GetBuyStatusResponse.isAnswer_call _ _ _).ne_expire
  | process _ hcall => exact absurd hcall (isAnswer_reconcileCall _ _).ne_expire
  | expire =>
    have hage : row.createdAt + hours expirePendingAfterHours < db.now := by
      simp only [ExchangeTransaction.isExpired, Bool.and_eq_true, decide_eq_true_eq] at hexpired
      exact hexpired.1.2
    have hnone := hold.outcome_of_pending (ExchangeTransaction.pending_of_isExpired hexpired)
    obtain ⟨-, hhash, hreason⟩ : row.completedAt = none ∧ row.txHash = none ∧
        row.failureReason = none := by
      simpa [ExchangeTransaction.outcome] using hnone
    refine .expired hmem rfl ?_ hage
    simp only [ExchangeTransaction.outcome, ExchangeTransaction.expire, hhash, hreason,
      Option.getD_none]

/-- **One row of the ledger** after a step that makes a call. -/
theorem accounted_after {call : LedgerCall} (haudit : s.Audit config past)
    (h : s.Calls config db a call) (hmem : a ∈ past') (hpast : past ⊆ past')
    (hrow : row ∈ s.ledger.rows) : Accounted config past' (call.after db s.ledger row) := by
  have hold := (haudit.rows row hrow).2
  -- a row that keeps order, status and outcome keeps its account
  have hkept : ∀ row', SameOrder row row' → row'.status = row.status →
      row'.outcome = row.outcome → Accounted config past' row' :=
    fun row' hsame hstatus houtcome => hold.mono hpast hsame hstatus houtcome
  have hunchanged := hkept row (.refl row) rfl rfl
  cases call with
  | create tx => exact hunchanged
  | mark m =>
    -- a row that is marked gets a new account, from the answer that marks it
    by_cases hreached : row.sessionId = m.sessionId ∧ m.goesThrough db = true
    · rw [LedgerCall.after, if_pos hreached]
      exact accounted_of_mark haudit h hmem hpast hrow hreached.1 hreached.2
    · rw [LedgerCall.after, if_neg hreached]
      exact hunchanged
  | touch exchangeId sessionId =>
    -- a touch and a lock leave status and outcome
    rw [LedgerCall.after]
    split
    · exact hkept _ ⟨rfl, rfl, rfl, rfl, rfl, rfl, rfl, rfl⟩ rfl rfl
    · exact hunchanged
  | claim order skipped maxClaim =>
    rw [LedgerCall.after]
    split
    · exact hkept _ ⟨rfl, rfl, rfl, rfl, rfl, rfl, rfl, rfl⟩ rfl rfl
    · exact hunchanged
  | expire maxAgeHours =>
    -- so does an expiry of other rows
    rw [LedgerCall.after]
    split
    · next hexpired => exact accounted_of_expire hold h hmem hexpired.2
    · exact hunchanged

/-- **A step keeps the accounts.** -/
theorem audit_step (haudit : s.Audit config past) (h : (purchases config).step s a = some s') :
    s'.Audit config (past ++ [a]) := by
  have hmem : a ∈ past ++ [a] := List.mem_append_right _ List.mem_cons_self
  have hpast : past ⊆ past ++ [a] := List.subset_append_left ..
  refine ⟨fun x hx => ?_, Exchanges.holdsOrders_step_purchases haudit.held h⟩
  rcases Exchanges.ledger_step_purchases h with hledger | ⟨db, call, hcalls, hledger⟩
  · rw [hledger] at hx
    obtain ⟨hbought, haccounted⟩ := haudit.rows x hx
    exact ⟨hbought.mono hpast (.refl x), haccounted.mono hpast (.refl x) rfl rfl⟩
  · rw [hledger] at hx
    rcases LedgerCall.mem_apply.mp hx with ⟨row, hrow, rfl⟩ | hcreated
    · exact ⟨(haudit.rows row hrow).1.mono hpast (LedgerCall.sameOrder_after ..),
        accounted_after haudit hcalls hmem hpast hrow⟩
    · obtain ⟨tx, rfl, rfl, hstored, -⟩ := LedgerCall.created_eq_some hcreated
      exact ⟨bought_of_create hcalls hstored hmem, .pending rfl rfl⟩

end

/-- **Every row of the ledger can be accounted for.**  In every run of users and reconcilers,
    whatever the exchanges, the registry and the database answer: a row is an order that stands at
    its exchange, for the currency and the network of its asset, its recipient, amount and session,
    and that a caller bought who may buy there.  It is pending, without an outcome; or its outcome
    is what an exchange reported of that session, to a user who may use it or the row's own exchange
    to a reconciler; or a reconciler gave it up after 12 hours.  It is completed exactly when it is
    finished. -/
theorem purchases_accounted {config : ExchangesConfig} {actions : List PurchaseAction}
    {s : Exchanges} (hrun : (purchases config).run .start actions = some s) :
    ∀ row ∈ s.ledger.rows,
      row.WellFormed ∧ Bought config actions row ∧ Accounted config actions row := by
  have hstart : Exchanges.start.Audit config [] := by
    refine ⟨fun row hrow => ?_, fun w row hrow => ?_⟩
    · cases hrow
    · cases hrow
  have haudit : s.Audit config actions :=
    Transitions.Machine.run_history (P := Exchanges.Audit config) hstart audit_step hrun
  intro row hrow
  exact ⟨Exchanges.wellFormed_purchases hrun row hrow, haudit.rows row hrow⟩

/-- The testing project of the server may buy. -/
def testingConfig : ExchangesConfig := ⟨some "project", none⟩

/-- It buys Ether by Binance. -/
def buyEther : PurchaseAction :=
  .buy (.ok 0) demoExchangeApi ⟨"project", none, .ok none⟩ "127.0.0.1" (.ofNat 16 1) etherRequest

/-- The transaction that is stored. -/
def etherTransaction : NewExchangeTransaction where
  sessionId := .ofNat 16 1
  exchangeId := "binance"
  projectId := some "project"
  asset := some "eip155:1/slip44:60"
  amount := some 0
  recipient := some "0x1111111111111111111111111111111111111111"
  payUrl := some (sessionIdOf (.ofNat 16 1))

/-- What Binance is asked for. -/
theorem exists_params_etherRequest :
    ∃ amount, (demoExchangeApi.payUrlService .payments []).buyUrlParams
      ⟨"project", "127.0.0.1", .ofNat 16 1⟩ etherRequest =
        .ok (.binance, ⟨"project", ether, amount, "0x1111111111111111111111111111111111111111",
          sessionIdOf (.ofNat 16 1), "127.0.0.1"⟩) := by
  have hread : FloatText.read etherRequest.amount.toList
      = some (.number ⟨false, ['1'], [], by decide, by decide⟩ 0) := by decide
  have hamount : parseAmount etherRequest.amount = .ok _ :=
    parseAmount_eq_ok_iff.mpr (.inl ⟨_, FloatText.read_eq_some_iff.mp hread, rfl⟩)
  have hrecipient : disassembleCaip10 demoExchangeApi.parsers etherRequest.recipient =
      .ok (.eip155, "1", "0x1111111111111111111111111111111111111111") := by decide
  have hsupported : demoExchangeApi.isAssetSupported .binance ether = true := by decide +kernel
  refine ⟨_, PayUrlService.buyUrlParams_eq_ok_iff.mpr ⟨ether, _, _, ?_, hamount, rfl⟩⟩
  exact PayUrlService.checkRequest_eq_ok_iff.mpr
    ⟨rfl, parse_ether, _, _, hrecipient, rfl, rfl, hsupported⟩

theorem onExchanges_buyEther :
    buyEther.onExchanges testingConfig = some (.create (.ok 0) etherTransaction) := by
  have htx : PurchaseAction.newTransaction demoExchangeApi .payments []
      ⟨"project", "127.0.0.1", .ofNat 16 1⟩ etherRequest = some etherTransaction := by
    obtain ⟨amount, hparams⟩ := exists_params_etherRequest
    rw [PurchaseAction.newTransaction, hparams]
    rfl
  have hauthorize : Caller.authorize testingConfig ⟨"project", none, .ok none⟩ =
      .ok (.payments, []) := rfl
  rw [buyEther, PurchaseAction.onExchanges, hauthorize]
  exact congrArg (Option.map (ExchangeAction.create (.ok 0))) htx

/-- It is claimed four hours later, and Binance says that it has been completed. -/
def etherPurchase : List PurchaseAction :=
  [buyEther, .claim 0 (.ok (hours 4)) .stored fun _ => false,
    .process 0 (.ok (hours 4 + 1)) demoExchangeApi]

/-- The row of that order, accounted for. -/
theorem purchases_accounted_ether :
    ∃ s row, (purchases testingConfig).run .start etherPurchase = some s ∧ row ∈ s.ledger.rows ∧
      (row.status = .succeeded ∧ row.txHash = some "0xabc") ∧
      row.WellFormed ∧ Bought testingConfig etherPurchase row ∧
        Accounted testingConfig etherPurchase row := by
  have hrun : ∃ s₁ s row, exchanges.step .start (.create (.ok 0) etherTransaction) = some s₁ ∧
      (purchases testingConfig).run s₁ etherPurchase.tail = some s ∧ row ∈ s.ledger.rows ∧
      row.status = .succeeded ∧ row.txHash = some "0xabc" :=
    ⟨_, _, _, rfl, rfl, List.mem_cons_self, rfl, rfl⟩
  obtain ⟨s₁, s, row, hcreate, hrest, hrow, houtcome⟩ := hrun
  obtain ⟨s₁', hbuy⟩ : ∃ s₁', (purchases testingConfig).step .start buyEther = some s₁' :=
    ⟨_, rfl⟩
  have hsame := Exchanges.step_purchases hbuy
  rw [onExchanges_buyEther] at hsame
  cases hcreate.symm.trans hsame
  have hpurchase : (purchases testingConfig).run .start etherPurchase = some s :=
    Transitions.Machine.run_cons.mpr ⟨s₁, hbuy, hrest⟩
  exact ⟨s, row, hpurchase, hrow, houtcome, purchases_accounted hpurchase row hrow⟩

end BlockchainApi
