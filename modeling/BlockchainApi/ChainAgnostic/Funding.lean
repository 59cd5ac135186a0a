/-
  What an available route promises about funds (`src/handlers/chain_agnostic/route.rs`).

  The handler converts the top-up to the decimals of the source token, gets quotes for it, and
  offers a route when the numbers work out.  This module takes the handler apart and says when the
  offer is good.

  1. **The handler taken apart.** A run with a route is one that made a plan and carried it out
     (`routeRun_available`), and the plan is determined by the request (`Plans.unique`).  What the
     bridges returned is then known stage by stage (`bungeeRoute_eq_ok`, `lifiRoute_spec`).

  2. **The quote of a transaction.** The questions a run asked say which quote the bridging
     transaction is built from (`BuiltFrom`), and for which amount that quote was given (`DealOf`).

  3. **Sufficiency** (`route_sufficient_iff`).  What the first bridge delivers is enough for the
     initial transaction, whatever the quotes, exactly if the conversion of the top-up cuts nothing
     off.  If it does cut, a quote over the top-up without its last digits is accepted
     (`acceptedQuotes_cutOff`).

  4. **The contract of the funds** (`funding_contract_iff`).  Sender, source amount, requested
     amount and fee of a route are what they should be exactly under conditions that each path
     leaves unchecked in its own way: the first bridge is not told which account has the funds, and
     the second one reports amounts in the decimals of another token.
-/
import BlockchainApi.ChainAgnostic.Route

namespace BlockchainApi

open ByteCodec Decimals HashMap Search

/-! ## The source asset: its balance covers the top-up -/

/-- The comparison returns only for decimals it accepts. -/
theorem TokenAmount.of_ge_eq_true {a b : TokenAmount}
    (h : (a.ge b : Outcome RpcError Bool) = .ok true) :
    b.value ≤ a.value ∧ a.decimals ≤ 77 ∧ b.decimals ≤ 77 := by
  have hdecimals : a.decimals ≤ 77 ∧ b.decimals ≤ 77 := by
    obtain ⟨_, hcompare, -⟩ := Outcome.bind_eq_ok.mp h
    obtain ⟨_, ha, hcompare⟩ := Outcome.bind_eq_ok.mp hcompare
    obtain ⟨_, hb, -⟩ := Outcome.bind_eq_ok.mp hcompare
    exact ⟨Outcome.assert_eq_ok.mp ha, Outcome.assert_eq_ok.mp hb⟩
  rw [TokenAmount.ge_eq hdecimals.1 hdecimals.2, Outcome.ok.injEq, decide_eq_true_iff] at h
  exact ⟨h, hdecimals⟩

/-- A balance that suffices, in decimals that can be compared. -/
def Covers (q : AssetQuery) (asset : BridgingAsset) : Prop :=
  Sufficient q asset ∧ asset.decimals ≤ 77 ∧ q.amountTokenDecimals ≤ 77

/-- An asset that the inner loop takes suffices. -/
theorem considerAsset_sound {q : AssetQuery} {best : Option BridgingAsset} {asset b : BridgingAsset}
    {found : Found BridgingAsset} (h : considerAsset q best asset = .ok found)
    (hanswer : found.answer = some b) : best = some b ∨ b = asset ∧ Covers q asset := by
  rw [considerAsset.eq_def, Outcome.bind_eq_ok] at h
  obtain ⟨enough, henough, h⟩ := h
  cases enough with
  | false =>
    -- the balance does not suffice
    cases h
    exact Or.inl hanswer
  | true =>
    have hcovers : Covers q asset := TokenAmount.of_ge_eq_true henough
    rw [if_pos rfl] at h
    split at h
    · -- it has the priority symbol
      cases h
      cases hanswer
      exact Or.inr ⟨rfl, hcovers⟩
    · -- it is compared with the best one so far
      cases best with
      | none =>
        cases h
        cases hanswer
        exact Or.inr ⟨rfl, hcovers⟩
      | some existing =>
        obtain ⟨notHigher, -, h⟩ := Outcome.bind_eq_ok.mp h
        cases h
        cases notHigher with
        | true => exact Or.inl hanswer
        | false =>
          cases hanswer
          exact Or.inr ⟨rfl, hcovers⟩

/-- **A chosen asset suffices**, also where the table has decimals that cannot be compared: a
    comparison that does not return ends the search without a choice. -/
theorem checkBridging_covers {table : AssetTable}
    {order : Walk TokenOnChain (List Eip155OrSolanaAddress)} {balances : SourceBalances}
    {q : AssetQuery} {asset : BridgingAsset}
    (h : checkBridgingForErc20Transfer table order balances q = .ok (some asset)) :
    Covers q asset := by
  rw [checkBridgingForErc20Transfer, Outcome.bind_eq_ok] at h
  obtain ⟨found, hfound, h⟩ := h
  have hanswer : found.answer = some asset := by
    rw [Outcome.pure_eq, Outcome.ok.injEq] at h
    exact h
  rcases searchGroups_sound (fun _ _ _ _ => considerAsset_sound) hfound hanswer with hnone | hsome
  · cases hnone
  · exact hsome

/-! ## The handler taken apart: a plan, and its execution -/

/-- A plan that the handler comes to for the request. -/
structure Plans (env : RouteEnv) (req : PrepareRequest) (call : InitialCall)
    (plan : BridgingPlan) : Prop where
  access : env.access = .ok ()
  calls : req.calls.head? = some call
  transfer : readTransfer env req call = .ok plan.transfer
  balance : env.erc20Balance = .ok plan.balance
  short : ¬ plan.transfer.value ≤ plan.balance
  token : findSupportedBridgingAsset env.table req.chainId (.eip155 plan.transfer.contract) =
    some (plan.symbol, plan.decimals)
  accounts : ∃ accounts, readAccounts env req = .ok accounts ∧
    checkBridgingForErc20Transfer env.table env.order env.balances (assetQuery req plan.transfer
      plan.topup plan.symbol plan.decimals accounts) = .ok (some plan.asset)

theorem planBridging_eq_ok {env : RouteEnv} {req : PrepareRequest} {transfer : Transfer}
    {balance : U256} {plan : BridgingPlan} :
    planBridging env req transfer balance = .ok plan ↔
      plan.transfer = transfer ∧ plan.balance = balance ∧
        findSupportedBridgingAsset env.table req.chainId (.eip155 transfer.contract) =
          some (plan.symbol, plan.decimals) ∧
        ∃ accounts, readAccounts env req = .ok accounts ∧
          checkBridgingForErc20Transfer env.table env.order env.balances (assetQuery req transfer
            (transfer.value - balance) plan.symbol plan.decimals accounts) =
              .ok (some plan.asset) := by
  rw [planBridging]
  simp only [Outcome.bind_eq_ok, Outcome.okOr_eq_ok, Outcome.mapErr_eq_ok, Outcome.pure_eq,
    Outcome.ok.injEq]
  constructor
  · rintro ⟨⟨symbol, decimals⟩, htoken, accounts, haccounts, found, hfound, asset, rfl, rfl⟩
    exact ⟨rfl, rfl, htoken, accounts, haccounts, hfound⟩
  · rintro ⟨rfl, rfl, htoken, accounts, haccounts, hfound⟩
    exact ⟨_, htoken, accounts, haccounts, _, hfound, _, rfl, rfl⟩

/-- The state in which a plan is carried out. -/
def planned (env : RouteEnv) (req : PrepareRequest) : RouteState :=
  ⟨initializeNonce ∅ (req.chainId, req.from_) (env.fetchNonce req.chainId req.from_), []⟩

/-- **An available route** comes from a plan that was carried out. -/
theorem routeRun_available {env : RouteEnv} {req : PrepareRequest}
    {r : PrepareResponseAvailable} {s : RouteState} :
    routeRun env req = .ok (.available r, s) ↔ ∃ call plan, Plans env req call plan ∧
      carryOut env req call plan (planned env req) = .ok (r, s) := by
  rw [routeRun, routeHandlerInternal]
  simp only [RouteM.lift_bind_eq_ok, RouteM.try_bind_eq_ok, RouteM.initNonce_bind_eq_ok,
    Outcome.okOr_eq_ok, Outcome.ofExcept_eq_ok]
  constructor
  · rintro ⟨_, haccess, call, hcall, transfer, htransfer, balance, hbalance, h⟩
    split at h
    · -- the balance covers the transfer, so nothing is bridged
      obtain ⟨_, _, -, h⟩ := RouteM.bind_eq_ok.mp h
      cases h
    · next hshort =>
      obtain ⟨plan, hplan, h⟩ := RouteM.lift_bind_eq_ok.mp h
      obtain ⟨response, _, hcarry, h⟩ := RouteM.bind_eq_ok.mp h
      cases h
      obtain ⟨rfl, rfl, htoken, haccounts⟩ := planBridging_eq_ok.mp hplan
      exact ⟨call, plan, ⟨haccess, hcall, htransfer, hbalance, hshort, htoken, haccounts⟩, hcarry⟩
  · rintro ⟨call, plan, hplans, hcarry⟩
    refine ⟨(), hplans.access, call, hplans.calls, _, hplans.transfer, _, hplans.balance, ?_⟩
    rw [if_neg hplans.short]
    have hplan : planBridging env req plan.transfer plan.balance = .ok plan :=
      planBridging_eq_ok.mpr ⟨rfl, rfl, hplans.token, hplans.accounts⟩
    exact RouteM.lift_bind_eq_ok.mpr ⟨plan, hplan, RouteM.bind_eq_ok.mpr ⟨_, _, hcarry, rfl⟩⟩

/-- The state in which the bridge is asked: the source chain's nonce is known, too. -/
def bridging (env : RouteEnv) (req : PrepareRequest) (plan : BridgingPlan) (s : RouteState) :
    RouteState :=
  if startsWith "eip155:" plan.asset.chainId then
    { s with
      nonces := initializeNonce s.nonces (plan.asset.chainId, req.from_)
        (env.fetchNonce plan.asset.chainId req.from_) }
  else s

theorem bridging_questions {env : RouteEnv} {req : PrepareRequest} {plan : BridgingPlan}
    {s : RouteState} : (bridging env req plan s).questions = s.questions := by
  rw [bridging]
  split <;> rfl

theorem initBridgeNonce_eq_ok {env : RouteEnv} {req : PrepareRequest} {plan : BridgingPlan}
    {s s' : RouteState} {u : Unit} :
    initBridgeNonce env req plan s = .ok (u, s') ↔ s' = bridging env req plan s := by
  rw [initBridgeNonce, bridging]
  split
  · exact RouteM.initNonce_eq_ok
  · rw [RouteM.pure_eq_ok]
    exact ⟨fun h => h.2.symm, fun h => ⟨rfl, h.symm⟩⟩

/-- **A plan is carried out** if the bridge has a route; the initial transaction gets its nonce
    last. -/
theorem carryOut_eq_ok {env : RouteEnv} {req : PrepareRequest} {call : InitialCall}
    {plan : BridgingPlan} {r : PrepareResponseAvailable} {s s' : RouteState} :
    carryOut env req call plan s = .ok (r, s') ↔ ∃ bridged s₁ nonce,
      bridgeRoute env req plan (bridging env req plan s) = .ok (bridged, s₁) ∧
        env.irnSet = .ok () ∧ RouteM.nextNonce req.chainId req.from_ s₁ = .ok (nonce, s') ∧
        r = availableResponse env req call plan bridged nonce := by
  rw [carryOut]
  simp only [RouteM.bind_eq_ok, RouteM.try_eq_ok, RouteM.pure_eq_ok, initBridgeNonce_eq_ok]
  constructor
  · rintro ⟨_, _, rfl, bridged, s₁, hbridged, _, _, ⟨hset, rfl⟩, nonce, _, hnonce, rfl, rfl⟩
    exact ⟨bridged, s₁, nonce, hbridged, hset, hnonce, rfl⟩
  · rintro ⟨bridged, s₁, nonce, hbridged, hset, hnonce, rfl⟩
    exact ⟨(), _, rfl, bridged, s₁, hbridged, (), s₁, ⟨hset, rfl⟩, nonce, s', hnonce, rfl, rfl⟩

namespace Plans

variable {env : RouteEnv} {req : PrepareRequest} {call : InitialCall} {plan : BridgingPlan}

/-- There is one plan for a request. -/
theorem unique {call' : InitialCall} {plan' : BridgingPlan} (h : Plans env req call plan)
    (h' : Plans env req call' plan') : call = call' ∧ plan = plan' := by
  obtain ⟨transfer, balance, symbol, decimals, asset⟩ := plan
  obtain ⟨transfer', balance', symbol', decimals', asset'⟩ := plan'
  obtain ⟨-, hcall, htransfer, hbalance, -, htoken, accounts, haccounts, hasset⟩ := h
  obtain ⟨-, hcall', htransfer', hbalance', -, htoken', accounts', haccounts', hasset'⟩ := h'
  cases hcall.symm.trans hcall'
  cases htransfer.symm.trans htransfer'
  cases hbalance.symm.trans hbalance'
  cases htoken.symm.trans htoken'
  cases haccounts.symm.trans haccounts'
  cases hasset.symm.trans hasset'
  exact ⟨rfl, rfl⟩

/-- The top-up does not wrap. -/
theorem toNat_topup (h : Plans env req call plan) :
    plan.topup.toNat = plan.transfer.value.toNat - plan.balance.toNat ∧
      plan.balance.toNat < plan.transfer.value.toNat := by
  have hlt : plan.balance.toNat < plan.transfer.value.toNat :=
    Nat.lt_of_not_le fun hle => h.short (BitVec.le_def.mpr hle)
  refine ⟨?_, hlt⟩
  rw [BridgingPlan.topup, BitVec.toNat_sub_of_le (BitVec.le_def.mpr hlt.le)]

/-- The source asset is worth the top-up. -/
theorem sufficient (h : Plans env req call plan) :
    quantity plan.topup.toNat plan.decimals.toNat ≤
      quantity plan.asset.currentBalance.toNat plan.asset.decimals.toNat := by
  obtain ⟨accounts, -, hfound⟩ := h.accounts
  have hsufficient := (checkBridging_covers hfound).1
  rw [Sufficient, TokenAmount.value, TokenAmount.value] at hsufficient
  exact hsufficient

/-- Its decimals and those of the transfer can be compared. -/
theorem decimals_le (h : Plans env req call plan) :
    plan.asset.decimals ≤ 77 ∧ plan.decimals ≤ 77 := by
  obtain ⟨accounts, -, hfound⟩ := h.accounts
  exact (checkBridging_covers hfound).2

/-- **The converted top-up** is the top-up in units of the source token, and the balance covers
    it. -/
theorem toNat_bridgeTopup (h : Plans env req call plan) :
    plan.bridgeTopup.toNat =
        rescale plan.topup.toNat plan.decimals.toNat plan.asset.decimals.toNat ∧
      plan.bridgeTopup ≤ plan.asset.currentBalance := by
  have hcovered : rescale plan.topup.toNat plan.decimals.toNat plan.asset.decimals.toNat ≤
      plan.asset.currentBalance.toNat :=
    quantity_le_quantity.mp (quantity_rescale_le.trans h.sufficient)
  have hvalue : plan.bridgeTopup.toNat =
      rescale plan.topup.toNat plan.decimals.toNat plan.asset.decimals.toNat := by
    rw [BridgingPlan.bridgeTopup]
    rcases Nat.lt_or_ge plan.asset.decimals.toNat plan.decimals.toNat with hlt | hle
    · exact toNat_convertAmount_of_lt h.decimals_le.2 (UInt8.lt_iff_toNat_lt.mpr hlt)
    · -- the product cannot wrap: the balance is larger
      rw [toNat_convertAmount_of_le (UInt8.le_iff_toNat_le.mpr hle),
        Nat.mod_eq_of_lt (lt_of_le_of_lt hcovered plan.asset.currentBalance.isLt)]
  refine ⟨hvalue, ?_⟩
  rw [BitVec.le_def, hvalue]
  exact hcovered

end Plans

/-! ## The first bridge -/

namespace BridgingPlan

/-- A quoted amount in units of the source token, as the handler converts it. -/
def bridged (plan : BridgingPlan) (quoted : U256) : U256 :=
  convertAmount quoted plan.decimals plan.asset.decimals

/-- What the second quotes are asked for, given the first. -/
def required (plan : BridgingPlan) (first : U256) : U256 :=
  requiredTopupAmount plan.bridgeTopup (bridgingFee plan.bridgeTopup (plan.bridged first))

/-- A question for quotes of the first bridge. -/
def bungeeQuestion (plan : BridgingPlan) (req : PrepareRequest) (bridgeContract : Address)
    (amount : U256) (answer : Except RpcError (List Value)) : BridgeQuestion :=
  .bungeeQuotes plan.asset.chainId bridgeContract req.chainId plan.transfer.contract amount
    req.from_ answer

/-- What the first bridge is asked: for quotes of the top-up, for quotes of the amount with the
    fee, and to build a transaction from the best of these. -/
def bungeeQuestions (plan : BridgingPlan) (env : RouteEnv) (req : PrepareRequest)
    (bridgeContract : Address) (first : U256) (route : Value) : List BridgeQuestion :=
  [plan.bungeeQuestion req bridgeContract plan.bridgeTopup env.bungee.firstQuotes,
    plan.bungeeQuestion req bridgeContract (plan.required first) env.bungee.updatedQuotes,
    .buildBridgingTx route (env.bungee.buildBridgingTx route)]

end BridgingPlan

/-- The best of the quotes says this destination amount. -/
def Quotes (env : RouteEnv) (quotes : Except RpcError (List Value)) (amount : U256) : Prop :=
  ∃ route rest, quotes = .ok (route :: rest) ∧ quotedAmount env route = .ok amount

theorem Quotes.unique {env : RouteEnv} {quotes : Except RpcError (List Value)}
    {amount amount' : U256}
    (h : Quotes env quotes amount) (h' : Quotes env quotes amount') : amount = amount' := by
  obtain ⟨route, rest, hquotes, hamount⟩ := h
  obtain ⟨route', rest', hquotes', hamount'⟩ := h'
  cases hquotes.symm.trans hquotes'
  cases hamount.symm.trans hamount'
  rfl

/-- Two quotes that the handler accepts, and the second of them. -/
structure AcceptedQuotes (env : RouteEnv) (plan : BridgingPlan) (first : U256) (route : Value)
    (delivered : U256) : Prop where
  quotedFirst : Quotes env env.bungee.firstQuotes first
  affordable : ¬ plan.asset.currentBalance < plan.required first
  best : ∃ rest, env.bungee.updatedQuotes = .ok (route :: rest)
  quotedDelivered : quotedAmount env route = .ok delivered
  enough : ¬ plan.bridged delivered < plan.bridgeTopup

theorem AcceptedQuotes.quotes {env : RouteEnv} {plan : BridgingPlan} {first delivered : U256}
    {route : Value} (h : AcceptedQuotes env plan first route delivered) :
    Quotes env env.bungee.updatedQuotes delivered := by
  obtain ⟨rest, hbest⟩ := h.best
  exact ⟨route, rest, hbest, h.quotedDelivered⟩

theorem exists_rest_of_head? {quotes : List Value} {route : Value}
    (hhead : quotes.head? = some route) : ∃ rest, quotes = route :: rest := by
  cases quotes with
  | nil => cases hhead
  | cons first rest =>
    cases hhead
    exact ⟨rest, rfl⟩

/-- **The first bridge** returns a route exactly for two quotes it accepts, and then builds the
    transactions. -/
theorem bungeeRoute_eq_ok {env : RouteEnv} {req : PrepareRequest} {plan : BridgingPlan}
    {bridgeContract : Address} {s s' : RouteState} {bridged : Bridged} :
    bungeeRoute env req plan bridgeContract s = .ok (bridged, s') ↔
      ∃ first route delivered bridgeTx routes, AcceptedQuotes env plan first route delivered ∧
        env.bungee.buildBridgingTx route = .ok bridgeTx ∧
        bungeeTransactions env req plan bridgeTx { s with questions := s.questions ++
          (plan.bungeeQuestions env req bridgeContract first route) } = .ok (routes, s') ∧
        bridged = { routes := [.eip155 routes]
                    bridgedAmount := plan.bridged delivered
                    finalBridgingFee := plan.bridged delivered - plan.bridgeTopup } := by
  rw [bungeeRoute]
  simp only [RouteM.ask_bind_eq_ok, RouteM.try_bind_eq_ok, RouteM.lift_bind_eq_ok,
    Outcome.okOr_eq_ok, Outcome.ensure_eq_ok]
  constructor
  · -- the stages in their order, each with what it returned
    rintro ⟨quotes, hquotes, quote, hquote, first, hfirst, _, haffordable, updated, hupdated, route,
      hroute, delivered, hdelivered, _, henough, bridgeTx, hbuild, h⟩
    obtain ⟨routes, _, hroutes, h⟩ := RouteM.bind_eq_ok.mp h
    obtain ⟨rfl, rfl⟩ := RouteM.pure_eq_ok.mp h
    obtain ⟨rest, rfl⟩ := exists_rest_of_head? hquote
    obtain ⟨rest', rfl⟩ := exists_rest_of_head? hroute
    rw [List.append_assoc, List.append_assoc] at hroutes
    exact ⟨first, route, delivered, bridgeTx, routes,
      ⟨⟨quote, rest, hquotes, hfirst⟩, haffordable, ⟨rest', hupdated⟩, hdelivered, henough⟩, hbuild,
      hroutes, rfl⟩
  · -- and the stages return what the accepted quotes say
    rintro ⟨first, route, delivered, bridgeTx, routes, ⟨⟨quote, rest, hquotes, hfirst⟩, haffordable,
      ⟨rest', hupdated⟩, hdelivered, henough⟩, hbuild, hroutes, rfl⟩
    refine ⟨_, hquotes, quote, rfl, first, hfirst, (), haffordable, _, hupdated, route, rfl,
      delivered, hdelivered, (), henough, bridgeTx, hbuild, ?_⟩
    rw [List.append_assoc, List.append_assoc]
    exact RouteM.bind_eq_ok.mpr ⟨routes, _, hroutes, rfl⟩

/-! ## The transactions of the first bridge -/

/-- The simulation changes nothing but the gas. -/
theorem applySimulation_map {α : Type} {f : Transaction → α}
    (hf : ∀ t gas, f { t with gasLimit := gas } = f t) {simulated : List SimulatedTransaction} :
    ∀ {routes routes' : List Transaction}, applySimulation simulated routes = .ok routes' →
      routes'.map f = routes.map f := by
  induction simulated with
  | nil =>
    intro routes routes' h
    cases h
    rfl
  | cons result rest ih =>
    intro routes routes' h
    cases routes with
    | nil => cases h
    | cons route routes =>
      rw [applySimulation] at h
      split at h
      · obtain ⟨routes₁, hrest, h⟩ := Outcome.bind_eq_ok.mp h
        cases h
        rw [List.map_cons, List.map_cons, hf, ih hrest]
      · cases h

theorem estimateNative_map {α : Type} {f : Transaction → α}
    (hf : ∀ t gas, f { t with gasLimit := gas } = f t) {env : RouteEnv} {t t' : Transaction}
    (h : estimateNative env t = .ok t') : f t' = f t := by
  rw [estimateNative] at h
  split at h
  · cases h
    rfl
  · obtain ⟨gas, -, h⟩ := Outcome.bind_eq_ok.mp h
    cases h
    exact hf _ _

/-- **The transactions of the first bridge**, up to their gas: the approval, if there is one, and
    the bridging transaction with the next nonce. -/
theorem bungeeTransactions_spec {env : RouteEnv} {req : PrepareRequest} {plan : BridgingPlan}
    {bridgeTx : BungeeBuildTx} {s s' : RouteState} {routes : List Transaction}
    (h : bungeeTransactions env req plan bridgeTx s = .ok (routes, s')) :
    ∃ approval s₁ nonce, approvalRoutes env req plan bridgeTx s = .ok (approval, s₁) ∧
      RouteM.nextNonce plan.asset.chainId req.from_ s₁ = .ok (nonce, s') ∧
      ∀ {α : Type} (f : Transaction → α), (∀ t gas, f { t with gasLimit := gas } = f t) →
        routes.map f = (approval ++ [bungeeBridging req bridgeTx nonce]).map f := by
  rw [bungeeTransactions] at h
  obtain ⟨approval, s₁, happroval, h⟩ := RouteM.bind_eq_ok.mp h
  obtain ⟨nonce, s₂, hnonce, h⟩ := RouteM.bind_eq_ok.mp h
  obtain ⟨t, ht, h⟩ := RouteM.lift_bind_eq_ok.mp h
  have hlast : ∀ {α : Type} (f : Transaction → α), (∀ t gas, f { t with gasLimit := gas } = f t) →
      (approval ++ [t]).map f = (approval ++ [bungeeBridging req bridgeTx nonce]).map f := by
    intro α f hf
    rw [List.map_append, List.map_append, List.map_singleton, List.map_singleton,
      estimateNative_map hf ht]
  split at h
  · obtain ⟨simulated, -, h⟩ := RouteM.try_bind_eq_ok.mp h
    obtain ⟨happlied, rfl⟩ := RouteM.lift_eq_ok.mp h
    exact ⟨approval, s₁, nonce, happroval, hnonce,
      fun f hf => (applySimulation_map hf happlied).trans (hlast f hf)⟩
  · obtain ⟨rfl, rfl⟩ := RouteM.pure_eq_ok.mp h
    exact ⟨approval, s₁, nonce, happroval, hnonce, fun f hf => hlast f hf⟩

/-- The bridging transaction on an EVM chain, the last one of a bundle. -/
def bridgingTransaction : List Transactions → Option Transaction
  | [.eip155 transactions] => transactions.getLast?
  | _ => none

/-- **The quote a bridging transaction is built from**: the one that was sent to the first bridge,
    which answered with the target, the value, the data and the chain of the transaction. -/
structure BuiltFrom (questions : List BridgeQuestion) (t : Transaction) (route : Value)
    (bridgeTx : BungeeBuildTx) : Prop where
  asked : .buildBridgingTx route (.ok bridgeTx) ∈ questions
  to_ : t.to_ = bridgeTx.txTarget
  value : t.value = bridgeTx.value
  input : t.input = bridgeTx.txData
  chainId : t.chainId = "eip155:" ++ toString bridgeTx.chainId

/-- The last transaction is the bridging one: the sender of the request sends what the bridge
    built. -/
theorem bungeeTransactions_last {env : RouteEnv} {req : PrepareRequest} {plan : BridgingPlan}
    {bridgeTx : BungeeBuildTx} {s s' : RouteState} {routes : List Transaction}
    (h : bungeeTransactions env req plan bridgeTx s = .ok (routes, s')) :
    ∃ t, routes.getLast? = some t ∧ t.from_ = req.from_ ∧ t.to_ = bridgeTx.txTarget ∧
      t.value = bridgeTx.value ∧ t.input = bridgeTx.txData ∧
      t.chainId = "eip155:" ++ toString bridgeTx.chainId := by
  obtain ⟨approval, s₁, nonce, -, -, hroutes⟩ := bungeeTransactions_spec h
  let parts := fun t : Transaction => (t.from_, t.to_, t.value, t.input, t.chainId)
  have hlast : (routes.map parts).getLast? =
      some (parts (bungeeBridging req bridgeTx nonce)) := by
    rw [hroutes parts fun _ _ => rfl, List.map_append, List.map_singleton, List.getLast?_concat]
  rw [List.getLast?_map, Option.map_eq_some_iff] at hlast
  obtain ⟨t, ht, hparts⟩ := hlast
  simp only [parts, bungeeBridging, Prod.mk.injEq] at hparts
  obtain ⟨hfrom, hto, hvalue, hinput, hchain⟩ := hparts
  exact ⟨t, ht, hfrom, hto, hvalue, hinput, hchain⟩

/-! ## What the first bridge delivers -/

/-- The request takes the first bridge. -/
def TakesBungee (req : PrepareRequest) (plan : BridgingPlan) : Prop :=
  req.useLifi = false ∧ ∃ bridgeContract, plan.asset.contractAddress = .eip155 bridgeContract

theorem bridgeRoute_of_not_takesBungee {env : RouteEnv} {req : PrepareRequest} {plan : BridgingPlan}
    (h : ¬ TakesBungee req plan) : bridgeRoute env req plan = lifiRoute env req plan := by
  rw [bridgeRoute.eq_def]
  split
  · next contract hcontract hlifi => exact absurd ⟨hlifi, contract, hcontract⟩ h
  · rfl

/-- **An available route of the first bridge.** -/
theorem bungee_available {env : RouteEnv} {req : PrepareRequest} {call : InitialCall}
    {plan : BridgingPlan} (hplan : Plans env req call plan) (hpath : TakesBungee req plan)
    {r : PrepareResponseAvailable} {s : RouteState} :
    routeRun env req = .ok (.available r, s) ↔
      ∃ bridgeContract bridged s₁ nonce, plan.asset.contractAddress = .eip155 bridgeContract ∧
        bungeeRoute env req plan bridgeContract (bridging env req plan (planned env req)) =
          .ok (bridged, s₁) ∧ env.irnSet = .ok () ∧
        RouteM.nextNonce req.chainId req.from_ s₁ = .ok (nonce, s) ∧
        r = availableResponse env req call plan bridged nonce := by
  obtain ⟨hlifi, bridgeContract, hcontract⟩ := hpath
  have hbridge : bridgeRoute env req plan = bungeeRoute env req plan bridgeContract := by
    rw [bridgeRoute, hcontract, hlifi]
  rw [routeRun_available]
  constructor
  · rintro ⟨call', plan', hplan', hcarry⟩
    obtain ⟨rfl, rfl⟩ := hplan'.unique hplan
    obtain ⟨bridged, s₁, nonce, hbridged, hset, hnonce, rfl⟩ := carryOut_eq_ok.mp hcarry
    exact ⟨bridgeContract, bridged, s₁, nonce, hcontract, hbridge ▸ hbridged, hset, hnonce, rfl⟩
  · rintro ⟨contract, bridged, s₁, nonce, hcontract', hbridged, hset, hnonce, rfl⟩
    rw [hcontract] at hcontract'
    cases hcontract'
    exact ⟨call, plan, hplan, carryOut_eq_ok.mpr ⟨bridged, s₁, nonce, hbridge ▸ hbridged, hset,
      hnonce, rfl⟩⟩

/-- The environment with other quotes of the first bridge, and what it builds from them. -/
def RouteEnv.withQuotes (env : RouteEnv) (first updated : Except RpcError (List Value))
    (build : Value → Except RpcError BungeeBuildTx) : RouteEnv :=
  { env with bungee := { env.bungee with
      firstQuotes := first
      updatedQuotes := updated
      buildBridgingTx := build } }

/-- The plan does not depend on the quotes. -/
theorem Plans.withQuotes {env : RouteEnv} {req : PrepareRequest} {call : InitialCall}
    {plan : BridgingPlan} (h : Plans env req call plan)
    (first updated : Except RpcError (List Value))
    (build : Value → Except RpcError BungeeBuildTx) :
    Plans (env.withQuotes first updated build) req call plan :=
  ⟨h.access, h.calls, h.transfer, h.balance, h.short, h.token, h.accounts⟩

/-- Building the transactions asks the bridge for no other quote. -/
theorem silent_bungeeTransactions {env : RouteEnv} {req : PrepareRequest} {plan : BridgingPlan}
    {bridgeTx : BungeeBuildTx} : RouteM.Silent (bungeeTransactions env req plan bridgeTx) := by
  have happroval : RouteM.Silent (approvalRoutes env req plan bridgeTx) := by
    rw [approvalRoutes]
    split
    · exact RouteM.silent_pure
    · refine RouteM.silent_lift.bind fun allowance => ?_
      split
      · exact RouteM.silent_lift.bind fun approvalTx =>
          RouteM.silent_nextNonce.bind fun nonce => RouteM.silent_pure
      · exact RouteM.silent_pure
  refine happroval.bind fun approval => RouteM.silent_nextNonce.bind fun nonce =>
    RouteM.silent_lift.bind fun bridgingTransaction => ?_
  dsimp only
  split
  · exact RouteM.silent_lift.bind fun simulated => RouteM.silent_lift
  · exact RouteM.silent_pure

/-- **Other quotes that are accepted** lead to an available route as well, if the same transaction
    is built from them. -/
theorem bungee_available_of_quotes {env : RouteEnv} {req : PrepareRequest} {call : InitialCall}
    {plan : BridgingPlan} (hplan : Plans env req call plan) (hpath : TakesBungee req plan)
    {first updated : Except RpcError (List Value)} {build : Value → Except RpcError BungeeBuildTx}
    {r : PrepareResponseAvailable} {s : RouteState}
    (h : routeRun (env.withQuotes first updated build) req = .ok (.available r, s)) :
    ∃ build', ∀ {first' updated' : Except RpcError (List Value)} {quoted delivered : U256}
      {route : Value},
      AcceptedQuotes (env.withQuotes first' updated' build') plan quoted route delivered →
        ∃ r' s',
          routeRun (env.withQuotes first' updated' build') req = .ok (.available r', s') := by
  obtain ⟨bridgeContract, bridged, s₁, nonce, hcontract, hbridged, hset, hnonce, -⟩ :=
    (bungee_available (hplan.withQuotes first updated build) hpath).mp h
  obtain ⟨_, _, _, bridgeTx, routes, -, -, hroutes, -⟩ := bungeeRoute_eq_ok.mp hbridged
  -- whatever the quote, the bridge builds the transaction of the run that is known
  let build' : Value → Except RpcError BungeeBuildTx := fun _ => .ok bridgeTx
  refine ⟨build', fun {first' updated' quoted delivered route} haccepted => ?_⟩
  let env' := env.withQuotes first' updated' build'
  let start := bridging env req plan (planned env req)
  let questions := start.questions ++ plan.bungeeQuestions env' req bridgeContract quoted route
  have hroutes' : bungeeTransactions env' req plan bridgeTx { start with questions := questions } =
      .ok (routes, { s₁ with questions := questions }) :=
    silent_bungeeTransactions _ _ _ hroutes questions
  have hnonce' : RouteM.nextNonce req.chainId req.from_ { s₁ with questions := questions } =
      .ok (nonce, { s with questions := questions }) :=
    RouteM.silent_nextNonce _ _ _ hnonce questions
  have hbridged' : bungeeRoute env' req plan bridgeContract start =
      .ok (_, { s₁ with questions := questions }) :=
    bungeeRoute_eq_ok.mpr
      ⟨quoted, route, delivered, bridgeTx, routes, haccepted, rfl, hroutes', rfl⟩
  exact ⟨_, _, (bungee_available (hplan.withQuotes first' updated' build') hpath).mpr
    ⟨bridgeContract, _, _, nonce, hcontract, hbridged', hset, hnonce', rfl⟩⟩

/-- **What a run of the first bridge asked**, and what its bridging transaction is built from. -/
theorem bungee_built {env : RouteEnv} {req : PrepareRequest} {call : InitialCall}
    {plan : BridgingPlan} (hplan : Plans env req call plan) (hpath : TakesBungee req plan)
    {r : PrepareResponseAvailable} {s : RouteState}
    (h : routeRun env req = .ok (.available r, s)) :
    ∃ bridgeContract first route delivered bridgeTx t,
      AcceptedQuotes env plan first route delivered ∧
        env.bungee.buildBridgingTx route = .ok bridgeTx ∧
        s.questions = plan.bungeeQuestions env req bridgeContract first route ∧
        bridgingTransaction r.transactions = some t ∧ t.from_ = req.from_ ∧
        BuiltFrom s.questions t route bridgeTx ∧
        r.fundingFrom.map FundingMetadata.bridgingFee =
          [plan.bridged delivered - plan.bridgeTopup] := by
  obtain ⟨bridgeContract, bridged, s₁, nonce, -, hbridged, -, hnonce, rfl⟩ :=
    (bungee_available hplan hpath).mp h
  obtain ⟨first, route, delivered, bridgeTx, routes, haccepted, hbuild, hroutes, rfl⟩ :=
    bungeeRoute_eq_ok.mp hbridged
  obtain ⟨t, ht, hfrom, hto, hvalue, hinput, hchain⟩ := bungeeTransactions_last hroutes
  -- after the bridge was asked to build, nothing else is asked
  have hquestions : s.questions = plan.bungeeQuestions env req bridgeContract first route := by
    rw [RouteM.silent_nextNonce.questions_eq hnonce, silent_bungeeTransactions.questions_eq hroutes,
      bridging_questions]
    rfl
  have hasked : .buildBridgingTx route (.ok bridgeTx) ∈ s.questions := by
    rw [hquestions, BridgingPlan.bungeeQuestions, hbuild]
    simp
  exact ⟨bridgeContract, first, route, delivered, bridgeTx, t, haccepted, hbuild, hquestions, ht,
    hfrom, ⟨hasked, hto, hvalue, hinput, hchain⟩, rfl⟩

/-- One transaction is built in a run of the first bridge. -/
theorem BuiltFrom.route_eq {env : RouteEnv} {req : PrepareRequest} {plan : BridgingPlan}
    {bridgeContract : Address} {first : U256} {route route' : Value} {t : Transaction}
    {bridgeTx : BungeeBuildTx}
    (h : BuiltFrom (plan.bungeeQuestions env req bridgeContract first route) t route' bridgeTx) :
    route' = route := by
  have hasked := h.asked
  rw [BridgingPlan.bungeeQuestions] at hasked
  simp only [BridgingPlan.bungeeQuestion, List.mem_cons, reduceCtorEq, List.not_mem_nil, or_false,
    false_or, BridgeQuestion.buildBridgingTx.injEq] at hasked
  exact hasked.1

/-- The handler converts a quote to at most what it is worth. -/
theorem toNat_bridged_le {env : RouteEnv} {req : PrepareRequest} {call : InitialCall}
    {plan : BridgingPlan} (h : Plans env req call plan) (quoted : U256) :
    (plan.bridged quoted).toNat ≤
      rescale quoted.toNat plan.decimals.toNat plan.asset.decimals.toNat := by
  rw [BridgingPlan.bridged]
  rcases Nat.lt_or_ge plan.asset.decimals.toNat plan.decimals.toNat with hlt | hle
  · rw [toNat_convertAmount_of_lt h.decimals_le.2 (UInt8.lt_iff_toNat_lt.mpr hlt)]
  · rw [toNat_convertAmount_of_le (UInt8.le_iff_toNat_le.mpr hle)]
    exact Nat.mod_le _ _

/-- The conversion of the top-up to the source token cuts nothing off. -/
def ExactTopup (plan : BridgingPlan) : Prop :=
  plan.decimals ≤ plan.asset.decimals ∨
    10 ^ (plan.decimals.toNat - plan.asset.decimals.toNat) ∣ plan.topup.toNat

/-- Quotes that say the top-up without its cut-off fraction are accepted. -/
theorem acceptedQuotes_cutOff {env : RouteEnv} {req : PrepareRequest} {call : InitialCall}
    {plan : BridgingPlan} (h : Plans env req call plan) (hinexact : ¬ ExactTopup plan)
    (hparse : ∀ n : U256, env.parseU256 (toString n.toNat) = some n) :
    ∃ (quotes : Except RpcError (List Value)) (quoted : U256) (route : Value),
      quoted < plan.topup ∧ ∀ build,
        AcceptedQuotes (env.withQuotes quotes quotes build) plan quoted route quoted := by
  obtain ⟨hgt, hndvd⟩ := not_or.mp hinexact
  have hlt : plan.asset.decimals.toNat < plan.decimals.toNat :=
    Nat.lt_of_not_le fun hle => hgt (UInt8.le_iff_toNat_le.mpr hle)
  -- the top-up without the digits that the conversion cuts off
  have hpow := Nat.div_mul_le_self plan.topup.toNat
    (10 ^ (plan.decimals.toNat - plan.asset.decimals.toNat))
  let cut := plan.topup.toNat / 10 ^ (plan.decimals.toNat - plan.asset.decimals.toNat) *
    10 ^ (plan.decimals.toNat - plan.asset.decimals.toNat)
  have hcut : cut < plan.topup.toNat :=
    lt_of_le_of_ne hpow fun heq => hndvd (Dvd.intro_left _ heq)
  let quoted : U256 := BitVec.ofNat 256 cut
  have hquoted : quoted.toNat = cut := by
    rw [BitVec.toNat_ofNat, Nat.mod_eq_of_lt (hcut.trans plan.topup.isLt)]
  -- it converts to the same amount as the top-up, so there is no fee
  have hbridged : plan.bridged quoted = plan.bridgeTopup := by
    apply BitVec.eq_of_toNat_eq
    rw [h.toNat_bridgeTopup.1, BridgingPlan.bridged,
      toNat_convertAmount_of_lt h.decimals_le.2 (UInt8.lt_iff_toNat_lt.mpr hlt), hquoted,
      rescale_mul_of_lt hlt, rescale_of_lt hlt]
  have hrequired : plan.required quoted = plan.bridgeTopup := by
    rw [BridgingPlan.required, hbridged, bridgingFee, if_neg (BitVec.lt_irrefl _), BitVec.sub_self,
      requiredTopupAmount, BitVec.zero_mul, BitVec.add_zero, BitVec.zero_udiv, BitVec.zero_add]
  -- a quote that says this amount
  let route : Value := .object [("toAmount", .string (toString cut))]
  have hroute : quotedAmount env route = .ok quoted := by
    rw [quotedAmount]
    show Outcome.okOr (env.parseU256 (toString cut)) _ = _
    rw [← hquoted, hparse]
    rfl
  refine ⟨.ok [route], quoted, route, ?_, fun build =>
    ⟨⟨route, [], rfl, hroute⟩, ?_, ⟨[], rfl⟩, hroute, ?_⟩⟩
  · rw [BitVec.lt_def, hquoted]
    exact hcut
  · rw [hrequired]
    exact BitVec.not_lt.mpr h.toNat_bridgeTopup.2
  · rw [hbridged]
    exact BitVec.lt_irrefl _

/-- The response has a bridging transaction, and the quote it is built from brings the balance to
    the value of the transfer. -/
def Funded (env : RouteEnv) (plan : BridgingPlan) (r : PrepareResponseAvailable)
    (s : RouteState) : Prop :=
  ∃ t route bridgeTx delivered, bridgingTransaction r.transactions = some t ∧
    BuiltFrom s.questions t route bridgeTx ∧ quotedAmount env route = .ok delivered ∧
    plan.transfer.value.toNat ≤ plan.balance.toNat + delivered.toNat

/-- **When a route of the first bridge is sufficient.**  Whatever the quotes and what is built from
    them, the balance and what the quote of the bridging transaction delivers cover the transfer,
    exactly if the conversion of the top-up to the decimals of the source token cuts nothing
    off. -/
theorem route_sufficient_iff {env : RouteEnv} {req : PrepareRequest} {call : InitialCall}
    {plan : BridgingPlan} (hplan : Plans env req call plan) (hpath : TakesBungee req plan)
    (hparse : ∀ n : U256, env.parseU256 (toString n.toNat) = some n) :
    (∀ first updated build r s,
        routeRun (env.withQuotes first updated build) req = .ok (.available r, s) →
          Funded (env.withQuotes first updated build) plan r s) ↔
      ((∃ first updated build r s,
          routeRun (env.withQuotes first updated build) req = .ok (.available r, s)) →
        ExactTopup plan) := by
  obtain ⟨htopup, hshort⟩ := hplan.toNat_topup
  constructor
  · rintro hfunded ⟨first, updated, build, r, s, h⟩
    by_contra hinexact
    obtain ⟨quotes, quoted, route, hlt, haccepted⟩ := acceptedQuotes_cutOff hplan hinexact hparse
    obtain ⟨build', hother⟩ := bungee_available_of_quotes hplan hpath h
    obtain ⟨r', s', h'⟩ := hother (haccepted build')
    obtain ⟨t, route', bridgeTx, delivered, -, hbuilt, hdelivered, hcovered⟩ :=
      hfunded quotes quotes build' r' s' h'
    -- the run was offered for one quote, the one that is cut off
    obtain ⟨contract, first', best, delivered', _, _, haccepted', -, hquestions, -⟩ :=
      bungee_built (hplan.withQuotes quotes quotes build') hpath h'
    rw [hquestions] at hbuilt
    obtain rfl := hbuilt.route_eq
    obtain ⟨rest, hbest⟩ := (haccepted build').best
    obtain ⟨rest', hbest'⟩ := haccepted'.best
    cases hbest.symm.trans hbest'
    cases (haccepted build').quotedDelivered.symm.trans hdelivered
    have hless : quoted.toNat < plan.topup.toNat := BitVec.lt_def.mp hlt
    omega
  · intro hexact first updated build r s h
    obtain ⟨_, _, route, delivered, bridgeTx, t, haccepted, -, -, ht, -, hbuilt, -⟩ :=
      bungee_built (hplan.withQuotes first updated build) hpath h
    refine ⟨t, route, bridgeTx, delivered, ht, hbuilt, haccepted.quotedDelivered, ?_⟩
    have henough : rescale plan.topup.toNat plan.decimals.toNat plan.asset.decimals.toNat ≤
        rescale delivered.toNat plan.decimals.toNat plan.asset.decimals.toNat := by
      rw [← hplan.toNat_bridgeTopup.1]
      exact (BitVec.le_def.mp (BitVec.not_lt.mp haccepted.enough)).trans
        (toNat_bridged_le hplan delivered)
    have hdelivered : plan.topup.toNat ≤ delivered.toNat :=
      le_of_rescale_le
        ((hexact ⟨first, updated, build, r, s, h⟩).imp_left UInt8.le_iff_toNat_le.mp) henough
    omega

/-- The contract of USDS on Base, which has 18 decimals. -/
def demoUsds : Address := .ofNat 20 0x820c137fa70c8691f0e44dc420a5e53c168921dc

/-- The contract of USDT on Arbitrum, which has 6 decimals. -/
def demoUsdt : Address := .ofNat 20 0xFd086bC7CD5C481DCC9C85ebE478A1C0b69FCbb9

/-- A quote of the first bridge over 10 USDS. -/
def demoQuote : Value := .object [("toAmount", .string "10000000000000000000")]

/-- The first bridge, with both quotes over 10 USDS. -/
def demoBungee : BungeeAnswers where
  firstQuotes := .ok [demoQuote]
  updatedQuotes := .ok [demoQuote]
  buildBridgingTx _ := .ok
    { chainId := 42161
      txData := []
      txTarget := .ofNat 20 9
      value := 0
      approvalData := none }
  checkAllowance := .ok 0
  buildApprovalTx := .ok { from_ := demoSender, to_ := demoUsdt, data := [1] }
  gasEstimate := .ok 21000
  simulateBundledTransactions := .ok [⟨[], 21000⟩]

/-- The second bridge, with a quote over a source amount on Arbitrum. -/
def demoLifi (fromAmount : U256) : LifiAnswers where
  quote := .ok .null
  readSolana _ := .error "no transaction"
  readEip155 _ := .ok
    { fromAmount := fromAmount
      fromToken := demoUsdt
      approvalAddress := .ofNat 20 8
      chainId := 42161
      data := []
      from_ := demoSender
      to_ := .ofNat 20 8
      value := 0
      gasLimit := 21000 }
  decodeBase64 _ := .error "no data"
  decodeTransaction _ := .error "no transaction"
  allowance := .ok fromAmount
  approveCalldata _ _ := [2]

/-- The sender transfers some amount and holds none of the token, and 20000000 units of every
    other. -/
def demoRouteEnv (amount fromAmount : U256) : RouteEnv where
  table := bridgingAssets demoMint
  order := .inOrder
  access := .ok ()
  decodeTransferCall _ := .ok (.ofNat 20 5, amount)
  simulation := .ok ([], 50000)
  cachedGasEstimation := .ok (some 50000)
  fetchNonce _ _ := .ok (.ok 7)
  erc20Balance := .ok 0
  parseAddress _ := none
  parseSolanaPubkey _ := none
  parseU256 text := (parseUnsigned (2 ^ 256) text.toList).map (BitVec.ofNat 256)
  balances := { erc20 := fun _ _ _ => .ok 20000000, solana := fun _ _ => .ok 20000000 }
  bungee := demoBungee
  lifi := demoLifi fromAmount
  orchestrationId := "orchestration"
  irnSet := .ok ()

/-- A transfer of USDS on Base. -/
def demoUsdsCall : InitialCall := ⟨demoUsds, 0, [0xa9, 0x05, 0x9c, 0xbb]⟩

/-- The request for it. -/
def demoUsdsRequest : PrepareRequest where
  chainId := "eip155:8453"
  from_ := demoSender
  calls := [demoUsdsCall]
  accounts := []
  useLifi := false

/-- USDT on Arbitrum is chosen for it. -/
def demoUsdsPlan (amount : U256) : BridgingPlan where
  transfer :=
    { native := false
      value := amount
      contract := demoUsds
      receiver := .ofNat 20 5
      gasUsed := 50000 }
  balance := 0
  symbol := "USDS"
  decimals := 18
  asset :=
    { chainId := "eip155:42161"
      account := .eip155 demoSender
      tokenSymbol := "USDT"
      contractAddress := .eip155 demoUsdt
      decimals := 6
      currentBalance := 20000000 }

theorem demoUsdsPlan_takesBungee (amount : U256) :
    TakesBungee demoUsdsRequest (demoUsdsPlan amount) :=
  ⟨rfl, demoUsdt, rfl⟩

theorem demoRouteEnv_parseU256 (amount fromAmount n : U256) :
    (demoRouteEnv amount fromAmount).parseU256 (toString n.toNat) = some n := by
  show (parseUnsigned (2 ^ 256) (toString n.toNat).toList).map (BitVec.ofNat 256) = some n
  rw [parseUnsigned_toString n.isLt, Option.map_some, BitVec.ofNat_toNat, BitVec.setWidth_eq]

/-- The plan is that of the request, through either bridge, if its asset is the one chosen. -/
theorem demoUsdsPlan_plans {amount fromAmount : U256} {useLifi : Bool} (hshort : ¬ amount ≤ 0)
    (hasset : ∃ accounts, readAccounts (demoRouteEnv amount fromAmount) demoUsdsRequest =
      .ok accounts ∧
        checkBridgingForErc20Transfer (bridgingAssets demoMint) .inOrder
          (demoRouteEnv amount fromAmount).balances (assetQuery demoUsdsRequest
            (demoUsdsPlan amount).transfer (demoUsdsPlan amount).topup "USDS" 18 accounts) =
          .ok (some (demoUsdsPlan amount).asset)) :
    Plans (demoRouteEnv amount fromAmount) { demoUsdsRequest with useLifi := useLifi }
      demoUsdsCall (demoUsdsPlan amount) where
  access := rfl
  calls := rfl
  transfer := rfl
  balance := rfl
  short := hshort
  token := by
    show findSupportedBridgingAsset (bridgingAssets demoMint) "eip155:8453" (.eip155 demoUsds) =
      some ("USDS", 18)
    decide +kernel
  accounts := hasset

/-- 10 USDS. -/
theorem demoUsds_plans :
    Plans (demoRouteEnv 10000000000000000000 0) demoUsdsRequest demoUsdsCall
      (demoUsdsPlan 10000000000000000000) :=
  demoUsdsPlan_plans (by decide) ⟨_, rfl, by decide +kernel⟩

/-- The route of a response that offers one. -/
def offered : Outcome RouteExit (PrepareResponseSuccess × RouteState) →
    Option (PrepareResponseAvailable × RouteState)
  | .ok (.available r, s) => some (r, s)
  | _ => none

theorem exists_of_isSome_offered {x : Outcome RouteExit (PrepareResponseSuccess × RouteState)}
    (h : (offered x).isSome) : ∃ r s, x = .ok (.available r, s) := by
  rw [offered.eq_def] at h
  split at h
  · exact ⟨_, _, rfl⟩
  · cases h

theorem demoUsds_offered :
    (offered (routeRun (demoRouteEnv 10000000000000000000 0) demoUsdsRequest)).isSome := by
  decide +kernel

theorem route_sufficient_iff_demoUsds :
    ∃ r s, routeRun (demoRouteEnv 10000000000000000000 0) demoUsdsRequest = .ok (.available r, s) ∧
      Funded (demoRouteEnv 10000000000000000000 0) (demoUsdsPlan 10000000000000000000) r s := by
  obtain ⟨r, s, h⟩ := exists_of_isSome_offered demoUsds_offered
  have hexact : ExactTopup (demoUsdsPlan 10000000000000000000) := Or.inr (by decide)
  exact ⟨r, s, h, (route_sufficient_iff demoUsds_plans (demoUsdsPlan_takesBungee _)
    (demoRouteEnv_parseU256 _ _)).mpr (fun _ => hexact) (.ok [demoQuote]) (.ok [demoQuote])
      demoBungee.buildBridgingTx r s h⟩

/-- 10.000000999999999999 USDS: the fraction beyond 6 decimals is cut off. -/
theorem demoUsds_fraction_plans :
    Plans (demoRouteEnv 10000000999999999999 0) demoUsdsRequest demoUsdsCall
      (demoUsdsPlan 10000000999999999999) :=
  demoUsdsPlan_plans (by decide) ⟨_, rfl, by decide +kernel⟩

/-- **A route that is not sufficient**: 10 USDS are delivered for a transfer of
    10.000000999999999999, and nothing is there before. -/
theorem demoUsds_not_funded :
    ¬ ∀ env req call plan r s, Plans env req call plan → TakesBungee req plan →
      routeRun env req = .ok (.available r, s) → Funded env plan r s := by
  intro hall
  have hoffered : (offered (routeRun (demoRouteEnv 10000000999999999999 0)
      demoUsdsRequest)).isSome := by decide +kernel
  obtain ⟨r, s, h⟩ := exists_of_isSome_offered hoffered
  obtain ⟨t, route, bridgeTx, delivered, -, hbuilt, hamount, hcovered⟩ :=
    hall _ _ _ _ r s demoUsds_fraction_plans (demoUsdsPlan_takesBungee _) h
  obtain ⟨_, _, _, _, _, _, haccepted, -, hquestions, -⟩ :=
    bungee_built demoUsds_fraction_plans (demoUsdsPlan_takesBungee _) h
  rw [hquestions] at hbuilt
  obtain rfl := hbuilt.route_eq
  obtain ⟨rest, hroute⟩ := haccepted.best
  cases hroute
  have hten : quotedAmount (demoRouteEnv 10000000999999999999 0) demoQuote =
      .ok 10000000000000000000 := Outcome.toOption_eq_some.mp (by decide +kernel)
  cases hamount.symm.trans hten
  exact absurd hcovered (by decide)

/-! ## Who sends the bridging transaction -/

/-- The account that the bridging transaction, the last one of a bundle, is sent from. -/
def bridgingSender : List Transactions → Option Eip155OrSolanaAddress
  | [.eip155 transactions] => transactions.getLast?.map fun t => .eip155 t.from_
  | [.solana transactions] => transactions.getLast?.map fun t => .solana t.from_
  | _ => none

/-! ## The second bridge -/

/-- The source amount that the second bridge quotes. -/
def lifiFromAmount (env : RouteEnv) (plan : BridgingPlan) : Option U256 :=
  match env.lifi.quote, plan.asset.contractAddress with
  | .ok quote, .solana _ => (env.lifi.readSolana quote).toOption.map LifiQuoteSolana.fromAmount
  | .ok quote, .eip155 _ => (env.lifi.readEip155 quote).toOption.map LifiQuoteEip155.fromAmount
  | .error _, _ => none

/-- The question for a quote of the second bridge. -/
def BridgingPlan.lifiQuestion (plan : BridgingPlan) (req : PrepareRequest)
    (fromChain toChain : String) : BridgeQuestion :=
  .lifiQuote fromChain toChain plan.asset.contractAddress plan.transfer.contract plan.bridgeTopup
    plan.asset.account req.from_

/-- What the second bridge comes to, whatever the kind of the source. -/
structure LifiBridged (env : RouteEnv) (req : PrepareRequest) (plan : BridgingPlan)
    (bridged : Bridged) (fromAmount : U256) (sender : Eip155OrSolanaAddress) : Prop where
  quoted : lifiFromAmount env plan = some fromAmount
  amount : bridged.bridgedAmount = fromAmount
  fee : bridged.finalBridgingFee = fromAmount - plan.bridgeTopup
  sends : bridgingSender bridged.routes = some sender
  evm : ∀ contract, plan.asset.contractAddress = .eip155 contract → sender = .eip155 req.from_
  solana : ∀ mint, plan.asset.contractAddress = .solana mint → sender = plan.asset.account

/-- A source on Solana: the account with the balance sends. -/
theorem lifiSolana_spec {env : RouteEnv} {req : PrepareRequest} {plan : BridgingPlan}
    {quote : Value} {mint : SolanaPubkey} {bridged : Bridged} (hquote : env.lifi.quote = .ok quote)
    (hmint : plan.asset.contractAddress = .solana mint)
    (h : lifiSolana env plan quote = .ok bridged) :
    ∃ fromAmount sender, LifiBridged env req plan bridged fromAmount sender := by
  rw [lifiSolana] at h
  simp only [Outcome.bind_eq_ok, Outcome.ofExcept_eq_ok] at h
  obtain ⟨read, hread, data, -, transaction, -, h⟩ := h
  split at h
  · next account haccount =>
    cases h
    refine ⟨read.fromAmount, .solana account, ?_, rfl, rfl, rfl, ?_, fun _ _ => haccount.symm⟩
    · rw [lifiFromAmount, hquote, hmint]
      show (env.lifi.readSolana quote).toOption.map _ = _
      rw [hread]
      rfl
    · intro contract hcontract
      rw [hmint] at hcontract
      cases hcontract
  · cases h

/-- A source on an EVM chain: the sender of the request sends, which the handler insists on. -/
theorem lifiEip155_spec {env : RouteEnv} {req : PrepareRequest} {plan : BridgingPlan}
    {quote : Value} {contract : Address} {bridged : Bridged} {s s' : RouteState}
    (hquote : env.lifi.quote = .ok quote)
    (hcontract : plan.asset.contractAddress = .eip155 contract)
    (h : lifiEip155 env req plan contract quote s = .ok (bridged, s')) :
    ∃ fromAmount sender, LifiBridged env req plan bridged fromAmount sender := by
  rw [lifiEip155] at h
  simp only [RouteM.lift_bind_eq_ok, Outcome.ofExcept_eq_ok, Outcome.assert_eq_ok] at h
  obtain ⟨read, hread, _, -, _, hfrom, _, -, _, -, h⟩ := h
  obtain ⟨approval, s₁, -, h⟩ := RouteM.bind_eq_ok.mp h
  obtain ⟨nonce, s₂, -, h⟩ := RouteM.bind_eq_ok.mp h
  obtain ⟨gasLimit, -, h⟩ := RouteM.lift_bind_eq_ok.mp h
  obtain ⟨rfl, -⟩ := RouteM.pure_eq_ok.mp h
  refine ⟨read.fromAmount, .eip155 req.from_, ?_, rfl, rfl, ?_, fun _ _ => rfl, ?_⟩
  · rw [lifiFromAmount, hquote, hcontract]
    show (env.lifi.readEip155 quote).toOption.map _ = _
    rw [hread]
    rfl
  · rw [bridgingSender, List.getLast?_concat, Option.map_some, hfrom]
  · intro mint hmint
    rw [hcontract] at hmint
    cases hmint

theorem silent_lifiEip155 {env : RouteEnv} {req : PrepareRequest} {plan : BridgingPlan}
    {quote : Value} {contract : Address} :
    RouteM.Silent (lifiEip155 env req plan contract quote) := by
  have happroval : ∀ quote chainId, RouteM.Silent (lifiApproval env quote chainId) := by
    intro quote chainId
    refine RouteM.silent_lift.bind fun allowance => ?_
    split
    · exact RouteM.silent_nextNonce.bind fun nonce => RouteM.silent_pure
    · exact RouteM.silent_pure
  exact RouteM.silent_lift.bind fun read => RouteM.silent_lift.bind fun _ =>
    RouteM.silent_lift.bind fun _ => RouteM.silent_lift.bind fun _ =>
    RouteM.silent_lift.bind fun _ => (happroval _ _).bind fun approval =>
    RouteM.silent_nextNonce.bind fun nonce => RouteM.silent_lift.bind fun gasLimit =>
    RouteM.silent_pure

/-- **The second bridge** is asked once, for the top-up. -/
theorem lifiRoute_spec {env : RouteEnv} {req : PrepareRequest} {plan : BridgingPlan}
    {s s' : RouteState} {bridged : Bridged}
    (h : lifiRoute env req plan s = .ok (bridged, s')) :
    ∃ fromChain toChain fromAmount sender,
      s'.questions = s.questions ++ [plan.lifiQuestion req fromChain toChain] ∧
        LifiBridged env req plan bridged fromAmount sender := by
  rw [lifiRoute] at h
  simp only [RouteM.lift_bind_eq_ok, RouteM.ask_bind_eq_ok, Outcome.ofExcept_eq_ok] at h
  obtain ⟨fromChain, -, toChain, -, quote, hquote, h⟩ := h
  split at h
  · -- from Solana: a contract on an EVM chain is an error
    cases hcontract : plan.asset.contractAddress with
    | eip155 contract =>
      rw [hcontract] at h
      cases (RouteM.lift_eq_ok.mp h).1
    | solana mint =>
      rw [hcontract] at h
      obtain ⟨hsolana, rfl⟩ := RouteM.lift_eq_ok.mp h
      obtain ⟨fromAmount, sender, hbridged⟩ := lifiSolana_spec hquote hcontract hsolana
      exact ⟨fromChain, toChain, fromAmount, sender, by rw [BridgingPlan.lifiQuestion, hcontract],
        hbridged⟩
  · -- from an EVM chain: a mint is an error, and so is any other chain
    split at h
    · cases hcontract : plan.asset.contractAddress with
      | eip155 contract =>
        rw [hcontract] at h
        obtain ⟨fromAmount, sender, hbridged⟩ := lifiEip155_spec hquote hcontract h
        refine ⟨fromChain, toChain, fromAmount, sender, ?_, hbridged⟩
        rw [silent_lifiEip155.questions_eq h, BridgingPlan.lifiQuestion, hcontract]
      | solana mint =>
        rw [hcontract] at h
        cases (RouteM.lift_eq_ok.mp h).1
    · cases (RouteM.lift_eq_ok.mp h).1

/-! ## The funding contract -/

/-- What a bridging amounts to. -/
structure BridgeDeal where
  /-- Who sends the bridging transaction. -/
  sender : Eip155OrSolanaAddress
  /-- The source amount, in units of the source token. -/
  spent : U256
  /-- The amount the bridge is asked for. -/
  asked : U256
  /-- The decimals of the token in which the bridge takes that amount. -/
  askedDecimals : UInt8
  /-- The destination amount, in units of the token of the transfer. -/
  delivered : U256

/-- **The deal behind a route**, read off its transactions and what the bridge was asked.  The first
    bridge is asked for a source amount; the one that is spent is that for which the quote of the
    bridging transaction was given, and what is delivered is what this quote says.  The second
    bridge is asked for the destination amount. -/
inductive DealOf (env : RouteEnv) (req : PrepareRequest) (plan : BridgingPlan)
    (r : PrepareResponseAvailable) : List BridgeQuestion → BridgeDeal → Prop where
  | bungee {bridgeContract : Address} {asked spent delivered : U256}
      {answer : Except RpcError (List Value)} {route : Value} {rest : List Value}
      {bridgeTx : BungeeBuildTx} {questions : List BridgeQuestion} {t : Transaction}
      (hquestions : questions = [plan.bungeeQuestion req bridgeContract asked answer,
        plan.bungeeQuestion req bridgeContract spent (.ok (route :: rest)),
        .buildBridgingTx route (.ok bridgeTx)])
      (ht : bridgingTransaction r.transactions = some t)
      (hbuilt : BuiltFrom questions t route bridgeTx)
      (hdelivered : quotedAmount env route = .ok delivered) :
      DealOf env req plan r questions
        ⟨.eip155 t.from_, spent, asked, plan.asset.decimals, delivered⟩
  | lifi {fromChain toChain : String} {fromToken fromAddress sender : Eip155OrSolanaAddress}
      {toToken toAddress : Address} {asked spent : U256}
      (hsender : bridgingSender r.transactions = some sender)
      (hspent : lifiFromAmount env plan = some spent) :
      DealOf env req plan r
        [.lifiQuote fromChain toChain fromToken toToken asked fromAddress toAddress]
        ⟨sender, spent, asked, plan.decimals, asked⟩

/-- **The funding contract** of a deal and the fee that is reported for it. -/
structure FundingContract (plan : BridgingPlan) (deal : BridgeDeal) (fee : U256) : Prop where
  /-- The account that was chosen for its balance sends. -/
  sender : deal.sender = plan.asset.account
  /-- The balance covers what is spent. -/
  affordable : deal.spent ≤ plan.asset.currentBalance
  /-- The bridge is asked for the top-up in units of the token it takes the amount in. -/
  unit : deal.asked.toNat =
    rescale plan.topup.toNat plan.decimals.toNat deal.askedDecimals.toNat
  /-- The fee is what is spent and not delivered. -/
  fee : quantity fee.toNat plan.asset.decimals.toNat =
    quantity deal.spent.toNat plan.asset.decimals.toNat -
      quantity deal.delivered.toNat plan.decimals.toNat

/-- What the first bridge leaves to chance: the account, and that the quotes make the surplus over
    the top-up, which is reported as the fee, equal to the fee. -/
structure BungeeFunds (env : RouteEnv) (req : PrepareRequest) (plan : BridgingPlan) : Prop where
  sender : plan.asset.account = .eip155 req.from_
  quotes : ∃ first delivered, Quotes env env.bungee.firstQuotes first ∧
    Quotes env env.bungee.updatedQuotes delivered ∧
    (plan.decimals.toNat ≤ plan.asset.decimals.toNat ∨
      10 ^ (plan.decimals.toNat - plan.asset.decimals.toNat) ∣ delivered.toNat) ∧
    2 * rescale delivered.toNat plan.decimals.toNat plan.asset.decimals.toNat =
      (plan.required first).toNat + plan.bridgeTopup.toNat

/-- What the second bridge leaves to chance: the account on an EVM chain, equal decimals, and a
    source amount between the top-up and the balance. -/
structure LifiFunds (env : RouteEnv) (req : PrepareRequest) (plan : BridgingPlan) : Prop where
  sender : ∀ contract, plan.asset.contractAddress = .eip155 contract →
    plan.asset.account = .eip155 req.from_
  decimals : plan.decimals = plan.asset.decimals
  fromAmount : ∃ fromAmount, lifiFromAmount env plan = some fromAmount ∧
    plan.bridgeTopup ≤ fromAmount ∧ fromAmount ≤ plan.asset.currentBalance

/-- **The fee of the first bridge.**  The surplus of the delivered amount over the top-up is what
    is spent and not delivered only for quotes that say so. -/
theorem bungee_fee_iff {env : RouteEnv} {req : PrepareRequest} {call : InitialCall}
    {plan : BridgingPlan} (h : Plans env req call plan) {spent delivered : U256}
    (henough : plan.bridgeTopup ≤ plan.bridged delivered) :
    quantity (plan.bridged delivered - plan.bridgeTopup).toNat plan.asset.decimals.toNat =
        quantity spent.toNat plan.asset.decimals.toNat -
          quantity delivered.toNat plan.decimals.toNat ↔
      (plan.decimals.toNat ≤ plan.asset.decimals.toNat ∨
        10 ^ (plan.decimals.toNat - plan.asset.decimals.toNat) ∣ delivered.toNat) ∧
        2 * rescale delivered.toNat plan.decimals.toNat plan.asset.decimals.toNat =
          spent.toNat + plan.bridgeTopup.toNat := by
  have hle : plan.bridgeTopup.toNat ≤ (plan.bridged delivered).toNat := BitVec.le_def.mp henough
  have hbridged : (plan.bridged delivered).toNat =
      rescale delivered.toNat plan.decimals.toNat plan.asset.decimals.toNat % 2 ^ 256 := by
    rw [BridgingPlan.bridged]
    rcases Nat.lt_or_ge plan.asset.decimals.toNat plan.decimals.toNat with hlt | hge
    · rw [← toNat_convertAmount_of_lt h.decimals_le.2 (UInt8.lt_iff_toNat_lt.mpr hlt),
        Nat.mod_eq_of_lt (BitVec.isLt _)]
    · exact toNat_convertAmount_of_le (UInt8.le_iff_toNat_le.mpr hge)
  have hspent : spent.toNat < 2 ^ 256 := spent.isLt
  have htopup : plan.bridgeTopup.toNat < 2 ^ 256 := plan.bridgeTopup.isLt
  rw [eq_sub_iff_add_eq, add_comm, quantity_add_eq_iff, BitVec.toNat_sub_of_le henough]
  refine and_congr_right fun _ => ?_
  -- an amount that wraps would be more than both sums can be
  omega

/-- **A route of the first bridge and its deal.** -/
theorem bungee_funding_iff {env : RouteEnv} {req : PrepareRequest} {call : InitialCall}
    {plan : BridgingPlan} (hplan : Plans env req call plan) (hpath : TakesBungee req plan)
    {r : PrepareResponseAvailable} {s : RouteState}
    (h : routeRun env req = .ok (.available r, s)) :
    ∃ deal fee, DealOf env req plan r s.questions deal ∧
      r.fundingFrom.map FundingMetadata.bridgingFee = [fee] ∧
      (FundingContract plan deal fee ↔ BungeeFunds env req plan) := by
  obtain ⟨bridgeContract, first, route, delivered, bridgeTx, t, haccepted, hbuild, hquestions, ht,
    hsender, hbuilt, hreported⟩ := bungee_built hplan hpath h
  obtain ⟨rest, hbest⟩ := haccepted.best
  have henough := BitVec.not_lt.mp haccepted.enough
  -- the deal is read off the three questions and their answers
  have hdeal : DealOf env req plan r s.questions
      ⟨.eip155 t.from_, plan.required first, plan.bridgeTopup, plan.asset.decimals, delivered⟩ := by
    have hall := hquestions
    rw [BridgingPlan.bungeeQuestions, hbest, hbuild] at hall
    exact .bungee hall ht hbuilt haccepted.quotedDelivered
  rw [hsender] at hdeal
  refine ⟨_, _, hdeal, hreported, ?_⟩
  constructor
  · -- the amounts are always as expected; what is left is the sender and the fee
    rintro ⟨hfrom, -, -, hfee⟩
    exact ⟨hfrom.symm, first, delivered, haccepted.quotedFirst, haccepted.quotes,
      (bungee_fee_iff hplan henough).mp hfee⟩
  · rintro ⟨hfrom, first', delivered', hfirst, hdelivered, hfee⟩
    obtain rfl := hfirst.unique haccepted.quotedFirst
    obtain rfl := hdelivered.unique haccepted.quotes
    exact ⟨hfrom.symm, BitVec.not_lt.mp haccepted.affordable, hplan.toNat_bridgeTopup.1,
      (bungee_fee_iff hplan henough).mpr hfee⟩

/-- The second bridge is asked in its own unit only for a source token of the same decimals. -/
theorem lifi_unit_iff {env : RouteEnv} {req : PrepareRequest} {call : InitialCall}
    {plan : BridgingPlan} (h : Plans env req call plan) :
    plan.bridgeTopup.toNat = rescale plan.topup.toNat plan.decimals.toNat plan.decimals.toNat ↔
      plan.decimals = plan.asset.decimals := by
  obtain ⟨htopup, hshort⟩ := h.toNat_topup
  rw [h.toNat_bridgeTopup.1, rescale_of_le (Nat.le_refl _), Nat.sub_self, pow_zero, Nat.mul_one,
    rescale_eq_self_iff (by omega), UInt8.toNat_inj]

/-- The difference that is reported as the fee of the second bridge wraps below the top-up. -/
theorem lifi_fee_iff {plan : BridgingPlan} (hdecimals : plan.decimals = plan.asset.decimals)
    {fromAmount : U256} :
    quantity (fromAmount - plan.bridgeTopup).toNat plan.asset.decimals.toNat =
        quantity fromAmount.toNat plan.asset.decimals.toNat -
          quantity plan.bridgeTopup.toNat plan.decimals.toNat ↔
      plan.bridgeTopup ≤ fromAmount := by
  rw [eq_sub_iff_add_eq, add_comm, quantity_add_eq_iff, hdecimals, rescale_of_le (Nat.le_refl _),
    Nat.sub_self, pow_zero, Nat.mul_one, BitVec.le_def]
  constructor
  · rintro ⟨-, hsum⟩
    omega
  · intro hle
    refine ⟨Or.inl (Nat.le_refl _), ?_⟩
    rw [BitVec.toNat_sub_of_le (BitVec.le_def.mpr hle)]
    omega

/-- **A route of the second bridge and its deal.** -/
theorem lifi_funding_iff {env : RouteEnv} {req : PrepareRequest} {call : InitialCall}
    {plan : BridgingPlan} (hplan : Plans env req call plan) (hpath : ¬ TakesBungee req plan)
    {r : PrepareResponseAvailable} {s : RouteState}
    (h : routeRun env req = .ok (.available r, s)) :
    ∃ deal fee, DealOf env req plan r s.questions deal ∧
      r.fundingFrom.map FundingMetadata.bridgingFee = [fee] ∧
      (FundingContract plan deal fee ↔ LifiFunds env req plan) := by
  obtain ⟨call', plan', hplan', hcarry⟩ := routeRun_available.mp h
  obtain ⟨rfl, rfl⟩ := hplan.unique hplan'
  obtain ⟨bridged, s₁, nonce, hroute, -, hnonce, rfl⟩ := carryOut_eq_ok.mp hcarry
  rw [bridgeRoute_of_not_takesBungee hpath] at hroute
  obtain ⟨fromChain, toChain, fromAmount, sender, hquestions, hbridged⟩ := lifiRoute_spec hroute
  have hs : s.questions = [plan.lifiQuestion req fromChain toChain] := by
    rw [RouteM.silent_nextNonce.questions_eq hnonce, hquestions, bridging_questions]
    rfl
  -- from Solana the sender is the account that holds the asset; from an EVM chain it is the
  -- requester
  have hsender : sender = plan.asset.account ↔ ∀ contract,
      plan.asset.contractAddress = .eip155 contract → plan.asset.account = .eip155 req.from_ := by
    constructor
    · rintro rfl
      exact hbridged.evm
    · intro hevm
      cases hcontract : plan.asset.contractAddress with
      | eip155 contract => rw [hbridged.evm contract hcontract, hevm contract hcontract]
      | solana mint => exact hbridged.solana mint hcontract
  refine ⟨⟨sender, fromAmount, plan.bridgeTopup, plan.decimals, plan.bridgeTopup⟩, _,
    hs ▸ .lifi hbridged.sends hbridged.quoted, rfl, ?_⟩
  constructor
  · -- the unit is right exactly if the decimals agree, and the fee is compared in that unit
    rintro ⟨hfrom, haffordable, hunit, hfee⟩
    have hdecimals := (lifi_unit_iff hplan).mp hunit
    rw [hbridged.fee, lifi_fee_iff hdecimals] at hfee
    exact ⟨hsender.mp hfrom, hdecimals, fromAmount, hbridged.quoted, hfee, haffordable⟩
  · rintro ⟨hevm, hdecimals, fromAmount', hquoted, hle, haffordable⟩
    cases hquoted.symm.trans hbridged.quoted
    refine ⟨hsender.mpr hevm, haffordable, (lifi_unit_iff hplan).mpr hdecimals, ?_⟩
    rw [hbridged.fee]
    exact (lifi_fee_iff hdecimals).mpr hle

/-- **When a route keeps the funding contract.**  Every available route has a deal behind it, and
    the deal keeps the contract exactly if what its bridge leaves unchecked turns out well. -/
theorem funding_contract_iff {env : RouteEnv} {req : PrepareRequest}
    {r : PrepareResponseAvailable} {s : RouteState}
    (h : routeRun env req = .ok (.available r, s)) :
    ∃ call plan deal fee, Plans env req call plan ∧ DealOf env req plan r s.questions deal ∧
      r.fundingFrom.map FundingMetadata.bridgingFee = [fee] ∧
      (FundingContract plan deal fee ↔
        (TakesBungee req plan → BungeeFunds env req plan) ∧
          (¬ TakesBungee req plan → LifiFunds env req plan)) := by
  obtain ⟨call, plan, hplan, -⟩ := routeRun_available.mp h
  by_cases hpath : TakesBungee req plan
  · obtain ⟨deal, fee, hdeal, hfee, hiff⟩ := bungee_funding_iff hplan hpath h
    refine ⟨call, plan, deal, fee, hplan, hdeal, hfee, hiff.trans ?_⟩
    exact ⟨fun hfunds => ⟨fun _ => hfunds, fun hnot => absurd hpath hnot⟩,
      fun hboth => hboth.1 hpath⟩
  · obtain ⟨deal, fee, hdeal, hfee, hiff⟩ := lifi_funding_iff hplan hpath h
    refine ⟨call, plan, deal, fee, hplan, hdeal, hfee, hiff.trans ?_⟩
    exact ⟨fun hfunds => ⟨fun hbungee => absurd hbungee hpath, fun _ => hfunds⟩,
      fun hboth => hboth.2 hpath⟩

/-- Without a fee the first bridge keeps the contract. -/
theorem funding_contract_iff_demoUsds :
    ∃ r s deal fee,
      routeRun (demoRouteEnv 10000000000000000000 0) demoUsdsRequest = .ok (.available r, s) ∧
        DealOf (demoRouteEnv 10000000000000000000 0) demoUsdsRequest
          (demoUsdsPlan 10000000000000000000) r s.questions deal ∧
        FundingContract (demoUsdsPlan 10000000000000000000) deal fee := by
  obtain ⟨r, s, h⟩ := exists_of_isSome_offered demoUsds_offered
  obtain ⟨call, plan, deal, fee, hplan, hdeal, -, hiff⟩ := funding_contract_iff h
  obtain ⟨-, rfl⟩ := demoUsds_plans.unique hplan
  have hquote : Quotes (demoRouteEnv 10000000000000000000 0) (.ok [demoQuote])
      10000000000000000000 := ⟨demoQuote, [], rfl, Outcome.toOption_eq_some.mp (by decide +kernel)⟩
  have hfunds : BungeeFunds (demoRouteEnv 10000000000000000000 0) demoUsdsRequest
      (demoUsdsPlan 10000000000000000000) :=
    ⟨rfl, _, _, hquote, hquote, Or.inr (by decide), by decide⟩
  exact ⟨r, s, deal, fee, h, hdeal,
    hiff.mpr ⟨fun _ => hfunds, fun hnot => absurd (demoUsdsPlan_takesBungee _) hnot⟩⟩

/-- The same request through the second bridge. -/
def demoLifiRequest : PrepareRequest := { demoUsdsRequest with useLifi := true }

theorem demoLifi_plans :
    Plans (demoRouteEnv 10000000000000000000 1) demoLifiRequest demoUsdsCall
      (demoUsdsPlan 10000000000000000000) :=
  demoUsdsPlan_plans (by decide) ⟨_, rfl, by decide +kernel⟩

/-- **A route that breaks the contract**: for 10 USDS the second bridge is asked for 10000000
    units of USDS, which is the top-up in units of USDT; it takes 1 unit of USDT for them, and the
    fee wraps around. -/
theorem demoLifi_breaks_contract :
    ¬ ∀ env req call plan r s deal fee, Plans env req call plan →
      routeRun env req = .ok (.available r, s) → DealOf env req plan r s.questions deal →
      r.fundingFrom.map FundingMetadata.bridgingFee = [fee] → FundingContract plan deal fee := by
  intro hall
  have hoffered : (offered (routeRun (demoRouteEnv 10000000000000000000 1)
      demoLifiRequest)).isSome := by decide +kernel
  obtain ⟨r, s, h⟩ := exists_of_isSome_offered hoffered
  have hpath : ¬ TakesBungee demoLifiRequest (demoUsdsPlan 10000000000000000000) :=
    fun hpath => Bool.noConfusion hpath.1
  obtain ⟨deal, fee, hdeal, hfee, hiff⟩ := lifi_funding_iff demoLifi_plans hpath h
  have hfunds := hiff.mp (hall _ _ _ _ r s deal fee demoLifi_plans h hdeal hfee)
  exact absurd hfunds.decimals (by decide)

end BlockchainApi
