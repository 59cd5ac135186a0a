/-
  The nonces of the transactions that a route returns (`src/handlers/chain_agnostic/route.rs`,
  `nonce_manager.rs`).

  The transactions are to be sent in the order approval, bridging, initial, and the handler takes
  their nonces in that order.  Sender and chain of a transaction come from the answers of the
  bridge, the nonces from what the handler asked for, so the bridge has to name the chain and the
  sender it was asked for (`NamesSource`); the second bridge is checked for it.

  1.  `Tracks`: the manager has fetched what the environment answers, and has handed out so many
     nonces for each key.  This is the invariant of the stages.
  2.  `Numbered`: a list of transactions has just these nonces, counted on from what was taken.  Two
     numbered lists append when the second starts where the first has ended, which is how the stages
     are put together.
  3.  Each stage of the handler numbers its transactions (`approvalRoutes_numbered` and on), and
     puts them in the order they are to be sent (`InOrder`).
  4.  `bundle_nonces`: any sequence of calls of the manager, and every route.  The nonces of one
     sender on one chain are the sublist of its key (`Numbered.noncesFor`); they are consecutive
     numbers as long as they fit 64 bits.
-/
import BlockchainApi.ChainAgnostic.Funding

namespace BlockchainApi

open ByteCodec HashMap

/-! ## What has been taken: the invariant, and lists that count on from it -/

/-- The manager knows nothing but what the environment answers, and has handed out so many nonces
    for each key. -/
def Tracks (env : RouteEnv) (s : RouteState) (taken : NonceKey → Nat) : Prop :=
  ∃ base, Counting s.nonces base taken ∧
    ∀ key fetched, base key = some fetched → fetched = env.fetchNonce key.1 key.2

/-- The key of a transaction, and its nonce. -/
def Transaction.mark (t : Transaction) : NonceKey × U64 := ((t.chainId, t.from_), t.nonce)

/-- Nonces for these keys, counted on from what was taken. -/
inductive Numbered (env : RouteEnv) :
    (NonceKey → Nat) → List (NonceKey × U64) → (NonceKey → Nat) → Prop where
  | nil {taken : NonceKey → Nat} : Numbered env taken [] taken
  | cons {taken taken' : NonceKey → Nat} {key : NonceKey} {base : U64}
      {marks : List (NonceKey × U64)} (hbase : env.fetchNonce key.1 key.2 = .ok (.ok base))
      (hrest : Numbered env (take taken key) marks taken') :
      Numbered env taken ((key, base + BitVec.ofNat 64 (taken key)) :: marks) taken'

variable {env : RouteEnv} {req : PrepareRequest} {s s' : RouteState}
  {taken taken' taken'' : NonceKey → Nat} {marks marks' : List (NonceKey × U64)}

theorem tracks_planned : Tracks env (planned env req) fun _ => 0 := by
  refine ⟨_, counting_empty.initializeNonce _ _, fun key fetched hfetched => ?_⟩
  by_cases hkey : key = (req.chainId, req.from_)
  · rw [hkey, learn_self] at hfetched
    cases hfetched
    rw [hkey]
    rfl
  · rw [learn_of_ne hkey] at hfetched
    cases hfetched

/-- Initialising a key again, or another one, takes nothing. -/
theorem Tracks.bridging {plan : BridgingPlan} (h : Tracks env s taken) :
    Tracks env (bridging env req plan s) taken := by
  obtain ⟨base, hcounting, hbase⟩ := h
  rw [BlockchainApi.bridging]
  split
  · refine ⟨_, hcounting.initializeNonce _ _, fun key fetched hfetched => ?_⟩
    by_cases hkey : key = (plan.asset.chainId, req.from_)
    · rw [hkey, learn_self, Option.some.injEq] at hfetched
      rw [← hfetched, hkey]
      cases hknown : base (plan.asset.chainId, req.from_) with
      | none => rfl
      | some known => exact hbase _ known hknown
    · rw [learn_of_ne hkey] at hfetched
      exact hbase key fetched hfetched
  · exact ⟨base, hcounting, hbase⟩

theorem Tracks.ask (h : Tracks env s taken) (questions : List BridgeQuestion) :
    Tracks env { s with questions := questions } taken := h

/-- **A nonce that is taken** is the next one of its key, and one more has been taken then; the
    counts of other keys are as before. -/
theorem Tracks.nextNonce {chainId : String} {address : Address} {nonce : U64}
    (h : Tracks env s taken) (hnext : RouteM.nextNonce chainId address s = .ok (nonce, s')) :
    Numbered env taken [((chainId, address), nonce)] (take taken (chainId, address)) ∧
      Tracks env s' (take taken (chainId, address)) := by
  obtain ⟨base, hcounting, hbase⟩ := h
  obtain ⟨nonces, hget, rfl⟩ := RouteM.nextNonce_eq_ok.mp hnext
  obtain ⟨b, hb, rfl, hcounting'⟩ := hcounting.of_getNonce hget
  exact ⟨.cons (hbase _ _ hb).symm .nil, base, hcounting', hbase⟩

theorem Numbered.append (h : Numbered env taken marks taken')
    (h' : Numbered env taken' marks' taken'') : Numbered env taken (marks ++ marks') taken'' := by
  induction h with
  | nil => exact h'
  | cons hbase _ ih => exact .cons hbase (ih h')

/-- The nonces for one key. -/
def noncesFor (key : NonceKey) (marks : List (NonceKey × U64)) : List U64 :=
  (marks.filter fun mark => mark.1 = key).map Prod.snd

/-- **The nonces for a key** count on from what was taken for it. -/
theorem Numbered.noncesFor (h : Numbered env taken marks taken') (key : NonceKey) :
    ∃ base : U64, (noncesFor key marks ≠ [] → env.fetchNonce key.1 key.2 = .ok (.ok base)) ∧
      BlockchainApi.noncesFor key marks =
        (List.range' (taken key) (BlockchainApi.noncesFor key marks).length).map
          fun i => base + BitVec.ofNat 64 i := by
  induction h with
  | nil => exact ⟨0, fun hne => absurd rfl hne, rfl⟩
  | @cons taken taken' key' base' marks hbase hrest ih =>
    obtain ⟨base, hfetched, hnonces⟩ := ih
    by_cases hkey : key' = key
    · subst hkey
      have hcons : ∀ n, BlockchainApi.noncesFor key' ((key', n) :: marks) =
          n :: BlockchainApi.noncesFor key' marks := by
        intro n
        rw [BlockchainApi.noncesFor, List.filter_cons_of_pos (by simp), List.map_cons]
        rfl
      refine ⟨base', fun _ => hbase, ?_⟩
      rw [hcons, List.length_cons, List.range'_succ, List.map_cons]
      congr 1
      cases hmarks : BlockchainApi.noncesFor key' marks with
      | nil => rfl
      | cons n rest =>
        -- the rest counts from the same nonce
        have hsame := hbase.symm.trans (hfetched (by rw [hmarks]; exact List.cons_ne_nil _ _))
        cases hsame
        rw [hmarks, take_self] at hnonces
        exact hnonces
    · have hskip : ∀ n, BlockchainApi.noncesFor key ((key', n) :: marks) =
          BlockchainApi.noncesFor key marks := by
        intro n
        rw [BlockchainApi.noncesFor, List.filter_cons_of_neg (by simpa using hkey)]
        rfl
      rw [take_of_ne (Ne.symm hkey)] at hnonces
      refine ⟨base, ?_, ?_⟩
      · rw [hskip]
        exact hfetched
      · rw [hskip]
        exact hnonces

/-! ## What the stages take

One lemma for each function that takes nonces. Each says what its transactions are numbered with
and leaves the manager in a state that is tracked. -/

/-- The first bridge answers for the source chain and the sender it was asked for; for the chain
    it is enough that it does so for the quote the transaction is built from. -/
structure NamesSource (env : RouteEnv) (req : PrepareRequest) (plan : BridgingPlan) : Prop where
  chain : ∀ route rest bridgeTx, env.bungee.updatedQuotes = .ok (route :: rest) →
    env.bungee.buildBridgingTx route = .ok bridgeTx →
      "eip155:" ++ toString bridgeTx.chainId = plan.asset.chainId
  sender : ∀ approvalTx, env.bungee.buildApprovalTx = .ok approvalTx → approvalTx.from_ = req.from_

/-- What a transaction does. -/
def Transaction.purpose (t : Transaction) : Address × Bytes := (t.to_, t.input)

/-- **The order of the transactions of a bridging**: an approval, if there is one, and then the
    bridging; a bridging on Solana has none on an EVM chain. -/
inductive InOrder (env : RouteEnv) : List (Address × Bytes) → Prop where
  | bungee {route : Value} {rest : List Value} {bridgeTx : BungeeBuildTx}
      (hbest : env.bungee.updatedQuotes = .ok (route :: rest))
      (hbuild : env.bungee.buildBridgingTx route = .ok bridgeTx) :
      InOrder env [(bridgeTx.txTarget, bridgeTx.txData)]
  | bungeeApproved {route : Value} {rest : List Value} {bridgeTx : BungeeBuildTx}
      {approvalTx : BungeeApprovalTx} (hbest : env.bungee.updatedQuotes = .ok (route :: rest))
      (hbuild : env.bungee.buildBridgingTx route = .ok bridgeTx)
      (happroval : env.bungee.buildApprovalTx = .ok approvalTx) :
      InOrder env [(approvalTx.to_, approvalTx.data), (bridgeTx.txTarget, bridgeTx.txData)]
  | lifi {value : Value} {quote : LifiQuoteEip155} (hquote : env.lifi.quote = .ok value)
      (hread : env.lifi.readEip155 value = .ok quote) : InOrder env [(quote.to_, quote.data)]
  | lifiApproved {value : Value} {quote : LifiQuoteEip155} (hquote : env.lifi.quote = .ok value)
      (hread : env.lifi.readEip155 value = .ok quote) :
      InOrder env [(quote.fromToken,
        env.lifi.approveCalldata quote.approvalAddress (quote.fromAmount * 4)),
        (quote.to_, quote.data)]
  | solana : InOrder env []

variable {plan : BridgingPlan} {call : InitialCall}

/-- The approval of the first bridge. -/
theorem approvalRoutes_numbered (h : Tracks env s taken) (hnames : NamesSource env req plan)
    {route : Value} {rest : List Value} (hbest : env.bungee.updatedQuotes = .ok (route :: rest))
    {bridgeTx : BungeeBuildTx} (hbuild : env.bungee.buildBridgingTx route = .ok bridgeTx)
    {approval : List Transaction}
    (hrun : approvalRoutes env req plan bridgeTx s = .ok (approval, s')) :
    ∃ taken', Numbered env taken (approval.map Transaction.mark) taken' ∧ Tracks env s' taken' ∧
      InOrder env (approval.map Transaction.purpose ++ [(bridgeTx.txTarget, bridgeTx.txData)]) := by
  -- without an approval transaction no nonce is taken
  have hnone : approval = [] ∧ s = s' → ∃ taken',
      Numbered env taken (approval.map Transaction.mark) taken' ∧ Tracks env s' taken' ∧
        InOrder env (approval.map Transaction.purpose ++
          [(bridgeTx.txTarget, bridgeTx.txData)]) := by
    rintro ⟨rfl, rfl⟩
    exact ⟨taken, .nil, h, .bungee hbest hbuild⟩
  rw [approvalRoutes.eq_def] at hrun
  cases happroval : bridgeTx.approvalData with
  | none =>
    rw [happroval] at hrun
    obtain ⟨rfl, rfl⟩ := RouteM.pure_eq_ok.mp hrun
    exact hnone ⟨rfl, rfl⟩
  | some approvalData =>
    rw [happroval] at hrun
    obtain ⟨allowance, -, hrun⟩ := RouteM.try_bind_eq_ok.mp hrun
    split at hrun
    · -- the allowance is short: the approval takes a nonce of the sender on the source chain
      obtain ⟨approvalTx, htx, hrun⟩ := RouteM.try_bind_eq_ok.mp hrun
      obtain ⟨nonce, s₁, hnonce, hrun⟩ := RouteM.bind_eq_ok.mp hrun
      obtain ⟨rfl, rfl⟩ := RouteM.pure_eq_ok.mp hrun
      obtain ⟨hnumbered, htracks⟩ := h.nextNonce hnonce
      refine ⟨_, ?_, htracks, .bungeeApproved hbest hbuild htx⟩
      rw [List.map_singleton, Transaction.mark, hnames.chain _ _ _ hbest hbuild,
        hnames.sender _ htx]
      exact hnumbered
    · -- the allowance covers the amount
      obtain ⟨rfl, rfl⟩ := RouteM.pure_eq_ok.mp hrun
      exact hnone ⟨rfl, rfl⟩

/-- **The first bridge** takes the nonce of the approval first, and then that of the bridging. -/
theorem bungeeRoute_numbered (h : Tracks env s taken) (hnames : NamesSource env req plan)
    {bridgeContract : Address} {bridged : Bridged}
    (hrun : bungeeRoute env req plan bridgeContract s = .ok (bridged, s')) :
    ∃ taken' transactions, bridged.routes = [.eip155 transactions] ∧
      Numbered env taken (transactions.map Transaction.mark) taken' ∧ Tracks env s' taken' ∧
      InOrder env (transactions.map Transaction.purpose) := by
  obtain ⟨_, route, _, bridgeTx, routes, haccepted, hbuild, hroutes, rfl⟩ :=
    bungeeRoute_eq_ok.mp hrun
  obtain ⟨rest, hbest⟩ := haccepted.best
  obtain ⟨approval, s₁, nonce, happroval, hnonce, hmap⟩ := bungeeTransactions_spec hroutes
  obtain ⟨taken₁, hnumbered, htracks, horder⟩ :=
    approvalRoutes_numbered (h.ask _) hnames hbest hbuild happroval
  obtain ⟨hlast, htracks'⟩ := htracks.nextNonce hnonce
  refine ⟨_, routes, rfl, ?_, htracks', ?_⟩
  · rw [hmap Transaction.mark fun _ _ => rfl, List.map_append, List.map_singleton,
      Transaction.mark, bungeeBridging, hnames.chain _ _ _ hbest hbuild]
    exact hnumbered.append hlast
  · rw [hmap Transaction.purpose fun _ _ => rfl, List.map_append, List.map_singleton]
    exact horder

/-- The approval of the second bridge. -/
theorem lifiApproval_numbered (h : Tracks env s taken) {value : Value} {quote : LifiQuoteEip155}
    (hquote : env.lifi.quote = .ok value) (hread : env.lifi.readEip155 value = .ok quote)
    {chainId : String} {approval : List Transaction}
    (hrun : lifiApproval env quote chainId s = .ok (approval, s')) :
    ∃ taken', Numbered env taken (approval.map Transaction.mark) taken' ∧ Tracks env s' taken' ∧
      InOrder env (approval.map Transaction.purpose ++ [(quote.to_, quote.data)]) := by
  rw [lifiApproval] at hrun
  obtain ⟨allowance, -, hrun⟩ := RouteM.lift_bind_eq_ok.mp hrun
  split at hrun
  · obtain ⟨nonce, s₁, hnonce, hrun⟩ := RouteM.bind_eq_ok.mp hrun
    obtain ⟨rfl, rfl⟩ := RouteM.pure_eq_ok.mp hrun
    obtain ⟨hnumbered, htracks⟩ := h.nextNonce hnonce
    exact ⟨_, hnumbered, htracks, .lifiApproved hquote hread⟩
  · obtain ⟨rfl, rfl⟩ := RouteM.pure_eq_ok.mp hrun
    exact ⟨taken, .nil, h, .lifi hquote hread⟩

/-- **The second bridge**, from an EVM chain, takes them in the same order. -/
theorem lifiEip155_numbered (h : Tracks env s taken) {value : Value}
    (hquote : env.lifi.quote = .ok value) {contract : Address} {bridged : Bridged}
    (hrun : lifiEip155 env req plan contract value s = .ok (bridged, s')) :
    ∃ taken' transactions, bridged.routes = [.eip155 transactions] ∧
      Numbered env taken (transactions.map Transaction.mark) taken' ∧ Tracks env s' taken' ∧
      InOrder env (transactions.map Transaction.purpose) := by
  rw [lifiEip155] at hrun
  simp only [RouteM.lift_bind_eq_ok, Outcome.ofExcept_eq_ok, Outcome.assert_eq_ok] at hrun
  obtain ⟨quote, hread, _, -, _, -, _, -, _, -, hrun⟩ := hrun
  obtain ⟨approval, s₁, happroval, hrun⟩ := RouteM.bind_eq_ok.mp hrun
  obtain ⟨nonce, s₂, hnonce, hrun⟩ := RouteM.bind_eq_ok.mp hrun
  obtain ⟨gasLimit, -, hrun⟩ := RouteM.lift_bind_eq_ok.mp hrun
  obtain ⟨rfl, rfl⟩ := RouteM.pure_eq_ok.mp hrun
  obtain ⟨taken₁, hnumbered, htracks, horder⟩ := lifiApproval_numbered h hquote hread happroval
  obtain ⟨hlast, htracks'⟩ := htracks.nextNonce hnonce
  refine ⟨_, _, rfl, ?_, htracks', ?_⟩
  · rw [List.map_append, List.map_singleton, Transaction.mark]
    exact hnumbered.append hlast
  · rw [List.map_append, List.map_singleton]
    exact horder

/-- The transactions on EVM chains. -/
def evmTransactions (routes : List Transactions) : List Transaction :=
  routes.flatMap fun
    | .eip155 transactions => transactions
    | .solana _ => []

/-- A bridging on Solana takes no nonce. -/
theorem lifiSolana_evmTransactions {value : Value} {bridged : Bridged}
    (h : lifiSolana env plan value = .ok bridged) : evmTransactions bridged.routes = [] := by
  rw [lifiSolana] at h
  simp only [Outcome.bind_eq_ok, Outcome.ofExcept_eq_ok] at h
  obtain ⟨_, _, _, _, _, _, h⟩ := h
  split at h
  · cases h
    rfl
  · cases h

/-- **Either bridge** numbers its transactions in the order they are to be sent. -/
theorem bridgeRoute_numbered (h : Tracks env s taken) (hnames : NamesSource env req plan)
    {bridged : Bridged} (hrun : bridgeRoute env req plan s = .ok (bridged, s')) :
    ∃ taken', Numbered env taken ((evmTransactions bridged.routes).map Transaction.mark) taken' ∧
      Tracks env s' taken' ∧
      InOrder env ((evmTransactions bridged.routes).map Transaction.purpose) := by
  -- a bridging on an EVM chain is one list of transactions
  have hevm : (∃ taken' transactions, bridged.routes = [.eip155 transactions] ∧
      Numbered env taken (transactions.map Transaction.mark) taken' ∧ Tracks env s' taken' ∧
      InOrder env (transactions.map Transaction.purpose)) → ∃ taken',
        Numbered env taken ((evmTransactions bridged.routes).map Transaction.mark) taken' ∧
        Tracks env s' taken' ∧
        InOrder env ((evmTransactions bridged.routes).map Transaction.purpose) := by
    rintro ⟨taken', transactions, hroutes, hnumbered, htracks, horder⟩
    have htransactions : evmTransactions bridged.routes = transactions := by
      rw [hroutes]
      exact List.append_nil _
    rw [htransactions]
    exact ⟨taken', hnumbered, htracks, horder⟩
  -- a bridging on Solana has no EVM transaction and takes no nonce
  have hsolana : evmTransactions bridged.routes = [] → Tracks env s' taken → ∃ taken',
      Numbered env taken ((evmTransactions bridged.routes).map Transaction.mark) taken' ∧
        Tracks env s' taken' ∧
        InOrder env ((evmTransactions bridged.routes).map Transaction.purpose) := by
    intro hnone htracks
    rw [hnone]
    exact ⟨taken, .nil, htracks, .solana⟩
  -- the first bridge, or the second one, which splits on the chain of the source
  by_cases hpath : TakesBungee req plan
  · obtain ⟨hlifi, bridgeContract, hcontract⟩ := hpath
    rw [bridgeRoute, hcontract, hlifi] at hrun
    exact hevm (bungeeRoute_numbered h hnames hrun)
  · rw [bridgeRoute_of_not_takesBungee hpath, lifiRoute] at hrun
    simp only [RouteM.lift_bind_eq_ok, RouteM.ask_bind_eq_ok, Outcome.ofExcept_eq_ok] at hrun
    obtain ⟨fromChain, -, toChain, -, quote, hquote, hrun⟩ := hrun
    cases hcontract : plan.asset.contractAddress with
    | eip155 contract =>
      rw [hcontract] at hrun
      split at hrun
      · cases (RouteM.lift_eq_ok.mp hrun).1
      · split at hrun
        · exact hevm (lifiEip155_numbered (h.ask _) hquote hrun)
        · cases (RouteM.lift_eq_ok.mp hrun).1
    | solana mint =>
      rw [hcontract] at hrun
      split at hrun
      · obtain ⟨hbridged, rfl⟩ := RouteM.lift_eq_ok.mp hrun
        exact hsolana (lifiSolana_evmTransactions hbridged) (h.ask _)
      · split at hrun
        · cases (RouteM.lift_eq_ok.mp hrun).1
        · cases (RouteM.lift_eq_ok.mp hrun).1

/-! ## The bundle -/

/-- All EVM transactions of a response, in the order they are to be sent. -/
def bundle : PrepareResponseSuccess → List Transaction
  | .available r => evmTransactions r.transactions ++ [r.initialTransaction]
  | .notRequired initialTransaction transactions => transactions ++ [initialTransaction]

/-- What comes before the initial transaction is in order. -/
def BridgesInOrder (env : RouteEnv) : PrepareResponseSuccess → Prop
  | .available r => InOrder env ((evmTransactions r.transactions).map Transaction.purpose)
  | .notRequired _ transactions => transactions = []

/-- A response without bridging. -/
theorem routeRun_notRequired {initial : Transaction} {transactions : List Transaction}
    (h : routeRun env req = .ok (.notRequired initial transactions, s)) :
    ∃ call transfer nonce, RouteM.nextNonce req.chainId req.from_ (planned env req) =
        .ok (nonce, s) ∧ initial = initialTransaction req call transfer nonce ∧
      transactions = [] := by
  rw [routeRun, routeHandlerInternal] at h
  simp only [RouteM.lift_bind_eq_ok, RouteM.try_bind_eq_ok, RouteM.initNonce_bind_eq_ok] at h
  obtain ⟨_, -, call, -, transfer, -, balance, -, h⟩ := h
  split at h
  · obtain ⟨nonce, s₁, hnonce, h⟩ := RouteM.bind_eq_ok.mp h
    cases h
    exact ⟨call, transfer, nonce, hnonce, rfl, rfl⟩
  · obtain ⟨plan, -, h⟩ := RouteM.lift_bind_eq_ok.mp h
    obtain ⟨response, _, -, h⟩ := RouteM.bind_eq_ok.mp h
    cases h

/-- **The transactions of a response** are numbered in the order they are to be sent. -/
theorem routeRun_numbered {response : PrepareResponseSuccess}
    (h : routeRun env req = .ok (response, s))
    (hnames : ∀ call plan, Plans env req call plan → NamesSource env req plan) :
    BridgesInOrder env response ∧
      ∃ taken, Numbered env (fun _ => 0) ((bundle response).map Transaction.mark) taken := by
  cases response with
  | notRequired initial transactions =>
    obtain ⟨call, transfer, nonce, hnonce, rfl, rfl⟩ := routeRun_notRequired h
    obtain ⟨hnumbered, -⟩ := tracks_planned.nextNonce hnonce
    exact ⟨rfl, _, hnumbered⟩
  | available r =>
    obtain ⟨call, plan, hplan, hcarry⟩ := routeRun_available.mp h
    obtain ⟨bridged, s₁, nonce, hbridged, -, hnonce, rfl⟩ := carryOut_eq_ok.mp hcarry
    obtain ⟨taken, hnumbered, htracks, horder⟩ :=
      bridgeRoute_numbered tracks_planned.bridging (hnames call plan hplan) hbridged
    obtain ⟨hlast, -⟩ := htracks.nextNonce hnonce
    refine ⟨horder, take taken (req.chainId, req.from_), ?_⟩
    rw [bundle, List.map_append]
    exact hnumbered.append hlast

/-- The nonces of the transactions of one sender on one chain. -/
def noncesOf (chainId : String) (sender : Address) (transactions : List Transaction) : List U64 :=
  (transactions.filter fun t => t.chainId = chainId ∧ t.from_ = sender).map Transaction.nonce

theorem noncesOf_eq {chainId : String} {sender : Address} {transactions : List Transaction} :
    noncesOf chainId sender transactions =
      noncesFor (chainId, sender) (transactions.map Transaction.mark) := by
  rw [noncesOf, noncesFor, List.filter_map, List.map_map]
  congr 1
  apply List.filter_congr
  intro t _
  simp [Transaction.mark]

/-- Numbers counted on from a nonce, as long as they fit 64 bits. -/
theorem map_toNat_counted {base : U64} {count : Nat} (h : base.toNat + count ≤ 2 ^ 64) :
    ((List.range' 0 count).map fun i => base + BitVec.ofNat 64 i).map BitVec.toNat =
      List.range' base.toNat count := by
  rw [List.map_map, List.range'_eq_map_range, List.range'_eq_map_range, List.map_map]
  apply List.map_congr_left
  intro i hi
  have hlt : i < count := List.mem_range.mp hi
  show (base + BitVec.ofNat 64 (0 + i)).toNat = base.toNat + i
  rw [BitVec.toNat_add, BitVec.toNat_ofNat, Nat.zero_add, Nat.mod_eq_of_lt (by omega : i < 2 ^ 64),
    Nat.mod_eq_of_lt (by omega)]

/-- **Nonces.**  In any sequence of calls of the manager in which every get follows an
    initialisation of its key and every fetch succeeds, the k-th nonce taken for a key is the one
    its first initialisation fetched plus k.  So the transactions of every response, in the order
    approval, bridging, initial, have consecutive nonces for each sender and chain. -/
theorem bundle_nonces :
    (∀ calls : List NonceCall, GetsFollow (fun _ => False) calls →
      (∀ key fetched, .init key fetched ∈ calls → ∃ b : U64, fetched = .ok (.ok b) ∧
        b.toNat < 2 ^ 64 - calls.length) →
      ∀ (key : NonceKey) (k : Nat) (answer : Outcome NonceError U64),
        (answersFor key (nonceAnswers ∅ calls))[k]? = some answer →
        ∃ b n : U64, baseNonce key calls = some (.ok (.ok b)) ∧ answer = .ok n ∧
          n.toNat = b.toNat + k) ∧
    ∀ env req response s, routeRun env req = .ok (response, s) →
      (∀ call plan, Plans env req call plan → NamesSource env req plan) →
      BridgesInOrder env response ∧ ∀ chainId sender, ∃ base : U64,
        (noncesOf chainId sender (bundle response) ≠ [] →
          env.fetchNonce chainId sender = .ok (.ok base)) ∧
        (base.toNat + (noncesOf chainId sender (bundle response)).length ≤ 2 ^ 64 →
          (noncesOf chainId sender (bundle response)).map BitVec.toNat =
            List.range' base.toNat (noncesOf chainId sender (bundle response)).length) := by
  -- the manager on its own, then the transactions of a route
  refine ⟨fun calls hfollow hfetched => getNonce_kth hfollow hfetched,
    fun env req response s h hnames => ?_⟩
  obtain ⟨horder, taken, hnumbered⟩ := routeRun_numbered h hnames
  refine ⟨horder, fun chainId sender => ?_⟩
  obtain ⟨base, hbase, hnonces⟩ := hnumbered.noncesFor (chainId, sender)
  rw [← noncesOf_eq] at hbase hnonces
  refine ⟨base, hbase, fun hfits => ?_⟩
  rw [← map_toNat_counted hfits, ← hnonces]

/-- A key that is initialised twice. -/
def demoCalls : List NonceCall :=
  [.init ("eip155:10", demoSender) (.ok (.ok 7)), .get ("eip155:10", demoSender),
    .init ("eip155:10", demoSender) (.ok (.ok 9)), .get ("eip155:10", demoSender)]

theorem demoUsds_namesSource (call : InitialCall) (plan : BridgingPlan)
    (h : Plans (demoRouteEnv 10000000000000000000 0) demoUsdsRequest call plan) :
    NamesSource (demoRouteEnv 10000000000000000000 0) demoUsdsRequest plan := by
  obtain ⟨-, rfl⟩ := demoUsds_plans.unique h
  constructor
  · intro route rest bridgeTx _ hbuild
    cases hbuild
    decide +kernel
  · intro approvalTx hanswer
    cases hanswer
    rfl

theorem bundle_nonces_demoUsds :
    (∃ b n : U64, baseNonce ("eip155:10", demoSender) demoCalls = some (.ok (.ok b)) ∧
        n.toNat = b.toNat + 1) ∧
      ∃ r s, routeRun (demoRouteEnv 10000000000000000000 0) demoUsdsRequest =
          .ok (.available r, s) ∧
        BridgesInOrder (demoRouteEnv 10000000000000000000 0) (.available r) := by
  constructor
  · have hfetched : ∀ key fetched, .init key fetched ∈ demoCalls →
        ∃ b : U64, fetched = .ok (.ok b) ∧ b.toNat < 2 ^ 64 - demoCalls.length := by
      intro key fetched hmem
      simp only [demoCalls, List.mem_cons, NonceCall.init.injEq, reduceCtorEq, List.not_mem_nil,
        false_or, or_false] at hmem
      rcases hmem with ⟨-, rfl⟩ | ⟨-, rfl⟩
      · exact ⟨7, rfl, by decide⟩
      · exact ⟨9, rfl, by decide⟩
    have hfollow : GetsFollow (fun _ => False) demoCalls :=
      ⟨Or.inr rfl, Or.inl (Or.inr rfl), trivial⟩
    obtain ⟨b, n, hb, -, hn⟩ := bundle_nonces.1 demoCalls hfollow hfetched
      ("eip155:10", demoSender) 1 (.ok 8) (by decide +kernel)
    exact ⟨b, n, hb, hn⟩
  · obtain ⟨r, s, h⟩ := exists_of_isSome_offered demoUsds_offered
    exact ⟨r, s, h, (bundle_nonces.2 _ _ _ _ h demoUsds_namesSource).1⟩

end BlockchainApi
