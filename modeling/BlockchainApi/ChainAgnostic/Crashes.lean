/-
  Which answers crash the route handler (`src/handlers/chain_agnostic/route.rs`).

  The handler asserts what it expects of a quote of the second bridge, and takes nonces and
  addresses out of options that it expects to be filled.

  1.  `Safe`: a stage does not panic from a state with an invariant, and keeps the invariant.  The
     invariant is that the nonces of some keys have been initialised (`Tended`), and with it every
     stage up to the bridges, and the first bridge, are safe (`safe_bungeeRoute`).  Safe stages in
     sequence are safe (`Safe.bind`), so the proofs follow the code line by line.
  2.  `listed_of_plans`: what the selection picks is a token of the table and an account of the same
     kind, so the options that depend on this are filled.
  3.  `lifiEip155_eq_panic_iff`: the rest depends on the quote, which is the bridge's own.  The
     handler asks for a quote for the account with the balance, and insists on one for the sender;
     it asks about the table's name for the native token, and insists that the answer has it, too.
     What is narrowed to 64 bits comes last, so a quote that does not fit them crashes only if all
     stages before it returned (`ReadyToBridge`).
  4.  `routeHandler_eq_panic_iff`, for the second version of the endpoint.
-/
import BlockchainApi.ChainAgnostic.Bundle

namespace BlockchainApi

open ByteCodec HashMap Search

/-! ## Stages that do not panic -/

namespace RouteM

variable {α β : Type} {m : RouteM α} {f : α → RouteM β} {x : Outcome RouteExit α}
  {s : RouteState} {I : RouteState → Prop}

/-- A panic comes from the first stage, or from the second after the first returned. -/
theorem bind_eq_panic :
    (m >>= f) s = .panic ↔ m s = .panic ∨ ∃ a s₁, m s = .ok (a, s₁) ∧ f a s₁ = .panic := by
  show (m s >>= fun p => f p.1 p.2) = _ ↔ _
  rw [Outcome.bind_eq_panic]
  constructor
  · rintro (h | ⟨⟨a, s₁⟩, hm, hf⟩)
    · exact Or.inl h
    · exact Or.inr ⟨a, s₁, hm, hf⟩
  · rintro (h | ⟨a, s₁, hm, hf⟩)
    · exact Or.inl h
    · exact Or.inr ⟨(a, s₁), hm, hf⟩

@[simp] theorem lift_eq_panic : lift x s = .panic ↔ x = .panic := by
  rw [lift, Outcome.bind_eq_panic]
  simp

theorem lift_bind_eq_panic :
    (lift x >>= f) s = .panic ↔ x = .panic ∨ ∃ a, x = .ok a ∧ f a s = .panic := by
  rw [bind_eq_panic, lift_eq_panic]
  simp only [lift_eq_ok]
  constructor
  · rintro (h | ⟨a, _, ⟨ha, rfl⟩, hf⟩)
    · exact Or.inl h
    · exact Or.inr ⟨a, ha, hf⟩
  · rintro (h | ⟨a, ha, hf⟩)
    · exact Or.inl h
    · exact Or.inr ⟨a, s, ⟨ha, rfl⟩, hf⟩

theorem try_bind_eq_panic {x : Except RpcError α} :
    (try_ x >>= f) s = .panic ↔ ∃ a, x = .ok a ∧ f a s = .panic := by
  rw [try_, lift_bind_eq_panic]
  simp

theorem assert_bind_eq_panic {c : Prop} [Decidable c] {f : Unit → RouteM β} :
    (lift (Outcome.assert c) >>= f) s = .panic ↔ (c → f () s = .panic) := by
  rw [lift_bind_eq_panic, Outcome.assert_eq_panic]
  by_cases h : c
  · simp only [h, not_true_eq_false, false_or, true_implies, Outcome.assert_eq_ok, true_and]
    exact ⟨fun ⟨_, hpanic⟩ => hpanic, fun hpanic => ⟨(), hpanic⟩⟩
  · exact iff_of_true (Or.inl h) fun hc => absurd hc h

theorem ask_bind_eq_panic {q : BridgeQuestion} {f : Unit → RouteM β} :
    (ask q >>= f) s = .panic ↔
      f () { s with questions := s.questions ++ [q] } = .panic := Iff.rfl

/-- From a state with the invariant the stage does not panic, and what it leaves has it, too. -/
def Safe (I : RouteState → Prop) (m : RouteM α) : Prop :=
  ∀ s, I s → m s ≠ .panic ∧ ∀ a s', m s = .ok (a, s') → I s'

theorem safe_pure {a : α} : Safe I (pure a : RouteM α) := by
  refine fun s hs => ⟨Outcome.ok_ne_panic, fun a' s' h => ?_⟩
  obtain ⟨-, rfl⟩ := pure_eq_ok.mp h
  exact hs

theorem safe_lift (hx : x ≠ .panic) : Safe I (lift x) := by
  refine fun s hs => ⟨lift_eq_panic.not.mpr hx, fun a s' h => ?_⟩
  obtain ⟨-, rfl⟩ := lift_eq_ok.mp h
  exact hs

theorem safe_try {x : Except RpcError α} : Safe I (try_ x) :=
  safe_lift Outcome.ofExcept_ne_panic

/-- **Sequencing of safe stages.** The second one starts from what the first one leaves, which
    has the invariant. -/
theorem Safe.bind (hm : Safe I m) (hf : ∀ a, Safe I (f a)) : Safe I (m >>= f) := by
  intro s hs
  obtain ⟨hpanic, hkeeps⟩ := hm s hs
  constructor
  · rw [ne_eq, bind_eq_panic]
    rintro (h | ⟨a, s₁, ha, h⟩)
    · exact hpanic h
    · exact (hf a s₁ (hkeeps a s₁ ha)).1 h
  · intro b s' h
    obtain ⟨a, s₁, ha, h⟩ := bind_eq_ok.mp h
    exact (hf a s₁ (hkeeps a s₁ ha)).2 b s' h

end RouteM

open RouteM

/-! ## Nonces: taking one of an initialised key does not panic -/

/-- The manager knows what the environment answers, and the nonces of these keys are initialised. -/
def Tended (env : RouteEnv) (keys : List NonceKey) (s : RouteState) : Prop :=
  (∃ taken, Tracks env s taken) ∧ ∀ key ∈ keys, (s.nonces.lookup key).isSome

variable {env : RouteEnv} {req : PrepareRequest} {call : InitialCall} {plan : BridgingPlan}
  {keys : List NonceKey} {s : RouteState}

theorem tended_planned : Tended env [(req.chainId, req.from_)] (planned env req) :=
  ⟨⟨_, tracks_planned⟩, List.forall_mem_singleton.mpr isSome_lookup_initializeNonce_self⟩

theorem Tended.bridging (h : Tended env keys s) : Tended env keys (bridging env req plan s) := by
  obtain ⟨⟨taken, htracks⟩, hkeys⟩ := h
  refine ⟨⟨taken, htracks.bridging⟩, fun key hkey => ?_⟩
  rw [BlockchainApi.bridging]
  split
  · exact isSome_lookup_initializeNonce (hkeys key hkey)
  · exact hkeys key hkey

/-- On an EVM chain the source's key is initialised, too. -/
theorem Tended.bridging_evm (h : Tended env keys s)
    (hevm : startsWith "eip155:" plan.asset.chainId = true) :
    Tended env ((plan.asset.chainId, req.from_) :: keys)
      (BlockchainApi.bridging env req plan s) := by
  have hbridging : Tended env keys (BlockchainApi.bridging env req plan s) := h.bridging
  refine ⟨hbridging.1, List.forall_mem_cons.mpr ⟨?_, hbridging.2⟩⟩
  rw [BlockchainApi.bridging, if_pos hevm]
  exact isSome_lookup_initializeNonce_self

theorem Tended.ask (h : Tended env keys s) (questions : List BridgeQuestion) :
    Tended env keys { s with questions := questions } := h

theorem safe_ask {q : BridgeQuestion} : Safe (Tended env keys) (ask q) := by
  refine fun s hs => ⟨Outcome.ok_ne_panic, fun u s' h => ?_⟩
  cases h
  exact hs

/-- What taking a nonce comes to. -/
theorem nextNonce_eq_panic {chainId : String} {address : Address} :
    nextNonce chainId address s = .panic ↔ (getNonce s.nonces (chainId, address)).1 = .panic := by
  rw [nextNonce]
  split <;> simp [*]

/-- **Taking a nonce of an initialised key is safe.** -/
theorem safe_nextNonce {chainId : String} {address : Address} (hkey : (chainId, address) ∈ keys) :
    Safe (Tended env keys) (nextNonce chainId address) := by
  rintro s ⟨⟨taken, htracks⟩, hkeys⟩
  refine ⟨?_, fun nonce s' h => ⟨⟨_, (htracks.nextNonce h).2⟩, fun key' hkey' => ?_⟩⟩
  · obtain ⟨base, hcounting, -⟩ := htracks
    exact nextNonce_eq_panic.not.mpr (hcounting.getNonce_ne_panic (hkeys _ hkey))
  · obtain ⟨nonces, hget, rfl⟩ := nextNonce_eq_ok.mp h
    have hstays : ((getNonce s.nonces (chainId, address)).2.lookup key').isSome :=
      isSome_lookup_getNonce (hkeys key' hkey')
    rw [hget] at hstays
    exact hstays

/-- It returns exactly if the nonce was fetched. -/
theorem Tended.nextNonce_isOk_iff (h : Tended env keys s) {chainId : String} {address : Address}
    (hkey : (chainId, address) ∈ keys) :
    (∃ nonce s', nextNonce chainId address s = .ok (nonce, s')) ↔
      ∃ nonce, env.fetchNonce chainId address = .ok (.ok nonce) := by
  obtain ⟨⟨taken, htracks⟩, hkeys⟩ := h
  constructor
  · rintro ⟨nonce, s', hnext⟩
    obtain ⟨hnumbered, -⟩ := htracks.nextNonce hnext
    cases hnumbered with
    | cons hbase => exact ⟨_, hbase⟩
  · rintro ⟨nonce, hfetched⟩
    obtain ⟨base, hcounting, hbase⟩ := htracks
    have hknown := hkeys _ hkey
    rw [hcounting.isSome_lookup] at hknown
    obtain ⟨fetched, hsome⟩ := Option.isSome_iff_exists.mp hknown
    obtain rfl : fetched = .ok (.ok nonce) := (hbase _ _ hsome).trans hfetched
    obtain ⟨nonces, hget, -⟩ := hcounting.getNonce_eq hsome
    exact ⟨_, _, nextNonce_eq_ok.mpr ⟨nonces, hget, rfl⟩⟩

/-! ## Up to the bridges: stages that only read -/

theorem transferGas_ne_panic : transferGas env ≠ .panic := by
  refine Outcome.bind_ne_panic Outcome.ofExcept_ne_panic fun gas _ => ?_
  cases gas with
  | some gas => exact Outcome.ok_ne_panic
  | none =>
    dsimp only
    split <;> simp

theorem readTransfer_ne_panic : readTransfer env req call ≠ .panic := by
  rw [readTransfer.eq_def]
  split
  · split <;> simp
  · split
    · split
      · exact Outcome.bind_ne_panic transferGas_ne_panic fun _ _ => Outcome.ok_ne_panic
      · exact Outcome.err_ne_panic
    · split
      · exact Outcome.err_ne_panic
      · split
        · exact Outcome.err_ne_panic
        · split <;> simp

theorem splitAccount_ne_panic (account : String) : splitAccount account ≠ .panic := by
  rw [splitAccount.eq_def]
  split <;> simp

theorem readAccount_ne_panic (parts : String × String × String) :
    readAccount env parts ≠ .panic := by
  rw [readAccount.eq_def]
  dsimp only
  split
  · split <;> simp
  · split
    · split <;> simp
    · exact Outcome.err_ne_panic

theorem readAccounts_ne_panic : readAccounts env req ≠ .panic :=
  Outcome.bind_ne_panic (Outcome.mapM_ne_panic fun account _ => splitAccount_ne_panic account)
    fun _ _ => Outcome.bind_ne_panic
      (Outcome.mapM_ne_panic fun parts _ => readAccount_ne_panic parts)
      fun _ _ => Outcome.ok_ne_panic

/-! ## The selection -/

/-- The asset is a token of the table, held by an account of its kind. -/
structure Listed (table : AssetTable) (asset : BridgingAsset) : Prop where
  token : ∃ entry, (asset.tokenSymbol, entry) ∈ table ∧ entry.decimals = asset.decimals ∧
    (asset.chainId, asset.contractAddress) ∈ entry.contracts
  kind : ∀ mint, asset.contractAddress = .solana mint →
    ∃ account, asset.account = .solana account

variable {table : AssetTable} {balances : SourceBalances} {q : AssetQuery}

theorem sourceAssets_ne_panic (entry : TokenOnChain × List Eip155OrSolanaAddress) :
    sourceAssets balances q entry ≠ .panic := by
  have hbalances : getBalancesOfAllSourceTokens balances (q.accountsOn entry.1.chainId)
      entry.1.chainId entry.2 ≠ .panic :=
    Outcome.mapM_ne_panic fun question _ =>
      Outcome.bind_ne_panic Outcome.ofExcept_ne_panic fun _ _ => Outcome.ok_ne_panic
  exact Outcome.bind_ne_panic hbalances fun _ _ => Outcome.ok_ne_panic

/-- What is asked about are tokens of the table, each for accounts of its kind. -/
theorem listed_of_sourceAssets {order : Walk TokenOnChain (List Eip155OrSolanaAddress)}
    {entry : TokenOnChain × List Eip155OrSolanaAddress} {assets : List BridgingAsset}
    (hentry : entry ∈ order.entries (contractsPerChain table q))
    (h : sourceAssets balances q entry = .ok assets) : ∀ asset ∈ assets, Listed table asset := by
  intro asset hasset
  -- from the asset back to the question its balance answers
  obtain ⟨rows, hrows, h⟩ := Outcome.bind_eq_ok.mp h
  cases h
  obtain ⟨⟨account, contract, balance⟩, hrow, rfl⟩ := List.mem_map.mp hasset
  obtain ⟨question, hquestion, hanswer⟩ := Outcome.exists_of_mem_mapM hrows hrow
  obtain ⟨balance', -, heq⟩ := Outcome.bind_eq_ok.mp hanswer
  cases heq
  obtain ⟨account, -, hquestion⟩ := List.mem_flatMap.mp hquestion
  obtain ⟨contract, hcontract, hasked⟩ := List.mem_filterMap.mp hquestion
  obtain ⟨answer, hask, rfl⟩ := Option.map_eq_some_iff.mp hasked
  have hlookup := order.mem_entries.mp hentry
  -- the contract is in a group of admitted tokens
  have htoken : (entry.1, contract) ∈ admittedTokens table q := by
    rw [← mem_group, ← contractsPerChain, hlookup]
    exact hcontract
  refine ⟨(mem_admittedTokens.mp htoken).1, ?_⟩
  rintro mint hmint
  obtain rfl : contract = .solana mint := hmint
  -- a mint is asked about for accounts on Solana only
  cases account with
  | eip155 address => cases hask
  | solana address => exact ⟨address, rfl⟩

theorem Listed.decimals_le {asset : BridgingAsset} (htable : table.Comparable)
    (h : Listed table asset) : asset.decimals ≤ 77 := by
  obtain ⟨entry, hentry, hdecimals, -⟩ := h.token
  rw [UInt8.le_iff_toNat_le, ← hdecimals]
  exact htable _ hentry

/-- **The inner loop compares what can be compared.** -/
theorem considerAsset_safe (htable : table.Comparable) (hamount : q.amountTokenDecimals ≤ 77) :
    SafeStep (considerAsset q) (Listed table) := by
  intro best asset hbest hasset
  have hge : (asset.amount.ge q.required : Outcome RpcError Bool) =
      .ok (decide (q.required.value ≤ asset.amount.value)) :=
    TokenAmount.ge_eq (hasset.decimals_le htable) hamount
  constructor
  · -- the comparison with the amount and the one with the best asset both return
    rw [considerAsset.eq_def, hge, Outcome.ok_bind]
    split
    · split
      · exact Outcome.ok_ne_panic
      · cases best with
        | none => exact Outcome.ok_ne_panic
        | some existing =>
          have hle : (asset.amount.le existing.amount : Outcome RpcError Bool) =
              .ok (decide (asset.amount.value ≤ existing.amount.value)) :=
            TokenAmount.le_eq (hasset.decimals_le htable) ((hbest _ rfl).decimals_le htable)
          dsimp only
          rw [hle, Outcome.ok_bind]
          exact Outcome.ok_ne_panic
    · exact Outcome.ok_ne_panic
  · -- what is found is the asset, or what was best before
    intro found b h hanswer
    rcases considerAsset_sound h hanswer with hb | ⟨rfl, -⟩
    · exact hbest b hb
    · exact hasset

/-- **The selection is safe**, and what it picks is listed. -/
theorem checkBridging_safe {order : Walk TokenOnChain (List Eip155OrSolanaAddress)}
    (htable : table.Comparable) (hamount : q.amountTokenDecimals ≤ 77) :
    checkBridgingForErc20Transfer table order balances q ≠ .panic ∧
      ∀ asset, checkBridgingForErc20Transfer table order balances q = .ok (some asset) →
        Listed table asset := by
  have hsafe : SafeFound (Listed table) (searchGroups (considerAsset q) (sourceAssets balances q)
      none (order.entries (contractsPerChain table q))) :=
    searchGroups_safe (considerAsset_safe htable hamount) (fun _ _ => sourceAssets_ne_panic _)
      (fun _ hentry _ hassets => listed_of_sourceAssets hentry hassets) nofun
  constructor
  · exact Outcome.bind_ne_panic hsafe.1 fun _ _ => Outcome.ok_ne_panic
  · intro asset h
    obtain ⟨found, hfound, h⟩ := Outcome.bind_eq_ok.mp h
    rw [Outcome.pure_eq, Outcome.ok.injEq] at h
    exact hsafe.2 found asset hfound h

theorem planBridging_ne_panic (htable : env.table.Comparable) {transfer : Transfer}
    {balance : U256} : planBridging env req transfer balance ≠ .panic := by
  rw [planBridging]
  refine Outcome.bind_ne_panic Outcome.okOr_ne_panic fun token htoken => ?_
  have hdecimals : token.2 ≤ 77 := UInt8.le_iff_toNat_le.mpr
    (findSupportedBridgingAsset_comparable htable (Outcome.okOr_eq_ok.mp htoken))
  refine Outcome.bind_ne_panic readAccounts_ne_panic fun accounts _ => ?_
  refine Outcome.bind_ne_panic ?_ fun found _ => ?_
  · exact Outcome.mapErr_eq_panic.not.mpr (checkBridging_safe htable hdecimals).1
  · exact Outcome.bind_ne_panic Outcome.okOr_ne_panic fun _ _ => Outcome.ok_ne_panic

/-- **The asset of a plan** is a token of the table. -/
theorem listed_of_plans (htable : env.table.Comparable) (h : Plans env req call plan) :
    Listed env.table plan.asset := by
  obtain ⟨accounts, -, hfound⟩ := h.accounts
  exact (checkBridging_safe htable h.decimals_le.2).2 _ hfound

/-! ## The first bridge -/

theorem quotedAmount_ne_panic (route : Value) : quotedAmount env route ≠ .panic :=
  Outcome.bind_ne_panic Outcome.okOr_ne_panic fun _ _ => Outcome.okOr_ne_panic

theorem applySimulation_ne_panic (simulated : List SimulatedTransaction) :
    ∀ routes, applySimulation simulated routes ≠ .panic := by
  induction simulated with
  | nil => exact fun _ => Outcome.ok_ne_panic
  | cons head rest ih =>
    intro routes
    cases routes with
    | nil =>
      rw [applySimulation]
      exact Outcome.err_ne_panic
    | cons route routes =>
      rw [applySimulation]
      split
      · exact Outcome.bind_ne_panic (ih routes) fun _ _ => Outcome.ok_ne_panic
      · exact Outcome.err_ne_panic

theorem estimateNative_ne_panic (transaction : Transaction) :
    estimateNative env transaction ≠ .panic := by
  rw [estimateNative]
  split
  · exact Outcome.ok_ne_panic
  · exact Outcome.bind_ne_panic Outcome.ofExcept_ne_panic fun _ _ => Outcome.ok_ne_panic

theorem safe_approvalRoutes (hkey : (plan.asset.chainId, req.from_) ∈ keys)
    (bridgeTx : BungeeBuildTx) : Safe (Tended env keys) (approvalRoutes env req plan bridgeTx) := by
  rw [approvalRoutes.eq_def]
  split
  · exact safe_pure
  · refine safe_try.bind fun allowance => ?_
    split
    · exact safe_try.bind fun approvalTx => (safe_nextNonce hkey).bind fun nonce => safe_pure
    · exact safe_pure

theorem safe_bungeeTransactions (hkey : (plan.asset.chainId, req.from_) ∈ keys)
    (bridgeTx : BungeeBuildTx) :
    Safe (Tended env keys) (bungeeTransactions env req plan bridgeTx) := by
  refine (safe_approvalRoutes hkey bridgeTx).bind fun approval => ?_
  refine (safe_nextNonce hkey).bind fun nonce => ?_
  refine (safe_lift (estimateNative_ne_panic _)).bind fun bridgingTransaction => ?_
  dsimp only
  split
  · exact safe_try.bind fun simulated => safe_lift (applySimulation_ne_panic _ _)
  · exact safe_pure

/-- **The first bridge is safe**, whatever it answers. -/
theorem safe_bungeeRoute (hkey : (plan.asset.chainId, req.from_) ∈ keys)
    (bridgeContract : Address) :
    Safe (Tended env keys) (bungeeRoute env req plan bridgeContract) := by
  refine safe_ask.bind fun _ => safe_try.bind fun quotes => ?_
  refine (safe_lift Outcome.okOr_ne_panic).bind fun bestRoute => ?_
  refine (safe_lift (quotedAmount_ne_panic _)).bind fun quoted => ?_
  refine (safe_lift Outcome.ensure_ne_panic).bind fun _ => ?_
  refine safe_ask.bind fun _ => safe_try.bind fun quotes => ?_
  refine (safe_lift Outcome.okOr_ne_panic).bind fun bestRoute => ?_
  refine (safe_lift (quotedAmount_ne_panic _)).bind fun quoted => ?_
  refine (safe_lift Outcome.ensure_ne_panic).bind fun _ => ?_
  refine safe_ask.bind fun _ => safe_try.bind fun bridgeTx => ?_
  exact (safe_bungeeTransactions hkey bridgeTx).bind fun routes => safe_pure

/-! ## The second bridge -/

/-- A source on Solana: the account is one on Solana. -/
theorem lifiSolana_ne_panic {account : SolanaPubkey}
    (haccount : plan.asset.account = .solana account) (quote : Value) :
    lifiSolana env plan quote ≠ .panic := by
  refine Outcome.bind_ne_panic Outcome.ofExcept_ne_panic fun read _ => ?_
  refine Outcome.bind_ne_panic Outcome.ofExcept_ne_panic fun data _ => ?_
  refine Outcome.bind_ne_panic Outcome.ofExcept_ne_panic fun transaction _ => ?_
  rw [haccount]
  exact Outcome.ok_ne_panic

theorem safe_lifiApproval {quote : LifiQuoteEip155} {chainId : String}
    (hkey : (chainId, quote.from_) ∈ keys) :
    Safe (Tended env keys) (lifiApproval env quote chainId) := by
  refine (safe_lift Outcome.ofExcept_ne_panic).bind fun allowance => ?_
  split
  · exact (safe_nextNonce hkey).bind fun nonce => safe_pure
  · exact safe_pure

/-- The approval is settled, and the nonce of the bridging is taken: both were answered. -/
def ReadyToBridge (env : RouteEnv) (chainId : String) (address : Address) : Prop :=
  (∃ allowance, env.lifi.allowance = .ok allowance) ∧
    ∃ nonce, env.fetchNonce chainId address = .ok (.ok nonce)

/-- Before the gas limit is narrowed, the approval and the nonce are at hand. -/
theorem readyToBridge_iff {quote : LifiQuoteEip155} {chainId : String}
    (hkey : (chainId, quote.from_) ∈ keys) (hs : Tended env keys s) :
    (∃ approval s₁ nonce s₂, lifiApproval env quote chainId s = .ok (approval, s₁) ∧
      nextNonce chainId quote.from_ s₁ = .ok (nonce, s₂)) ↔
      ReadyToBridge env chainId quote.from_ := by
  constructor
  · -- both answers can be read off the two stages
    rintro ⟨approval, s₁, nonce, s₂, happroval, hnonce⟩
    have hs₁ := (safe_lifiApproval hkey s hs).2 _ _ happroval
    obtain ⟨allowance, hallowance, -⟩ := lift_bind_eq_ok.mp happroval
    exact ⟨⟨allowance, Outcome.ofExcept_eq_ok.mp hallowance⟩,
      (hs₁.nextNonce_isOk_iff hkey).mp ⟨nonce, s₂, hnonce⟩⟩
  · rintro ⟨⟨allowance, hallowance⟩, hfetched⟩
    -- the approval takes a nonce only if the allowance is short
    have happroval : ∃ approval s₁, lifiApproval env quote chainId s = .ok (approval, s₁) := by
      rw [lifiApproval, hallowance, Outcome.ofExcept]
      simp only [lift_bind_eq_ok, Outcome.ok.injEq, exists_eq_left']
      split
      · obtain ⟨nonce, s₁, hnonce⟩ := (hs.nextNonce_isOk_iff hkey).mpr hfetched
        exact ⟨_, s₁, bind_eq_ok.mpr ⟨nonce, s₁, hnonce, pure_eq_ok.mpr ⟨rfl, rfl⟩⟩⟩
      · exact ⟨[], s, rfl⟩
    obtain ⟨approval, s₁, happroval⟩ := happroval
    have hs₁ := (safe_lifiApproval hkey s hs).2 _ _ happroval
    obtain ⟨nonce, s₂, hnonce⟩ := (hs₁.nextNonce_isOk_iff hkey).mpr hfetched
    exact ⟨approval, s₁, nonce, s₂, happroval, hnonce⟩

/-- **What the handler insists on** in a quote of the second bridge for a source on an EVM chain. -/
structure QuoteFits (env : RouteEnv) (req : PrepareRequest) (plan : BridgingPlan)
    (contract : Address) (quote : LifiQuoteEip155) : Prop where
  chain : "eip155:" ++ toString quote.chainId.toNat = plan.asset.chainId
  sender : quote.from_ = req.from_
  token : quote.fromToken = contract
  approval : quote.approvalAddress ≠ contract
  /-- The gas limit is narrowed last. -/
  gas : ReadyToBridge env plan.asset.chainId req.from_ → quote.gasLimit.toNat < 2 ^ 64

theorem toU64_eq_panic {n : U256} : toU64 n = .panic ↔ ¬ n.toNat < 2 ^ 64 := by
  rw [toU64, Outcome.bind_eq_panic, Outcome.assert_eq_panic]
  simp

/-- What comes after the assertions crashes only on the gas limit. -/
theorem narrowing_eq_panic_iff {quote : LifiQuoteEip155} {chainId : String}
    {f : List Transaction → U64 → U64 → RouteM Bridged}
    (hf : ∀ approval nonce gasLimit s, f approval nonce gasLimit s ≠ .panic)
    (hkey : (chainId, quote.from_) ∈ keys) (hs : Tended env keys s) :
    (do
      let approval ← lifiApproval env quote chainId
      let nonce ← nextNonce chainId quote.from_
      let gasLimit ← lift (toU64 quote.gasLimit)
      f approval nonce gasLimit) s = .panic ↔
      ReadyToBridge env chainId quote.from_ ∧ ¬ quote.gasLimit.toNat < 2 ^ 64 := by
  constructor
  · intro h
    -- the approval and the nonce are safe, so the gas limit is what is left
    rcases bind_eq_panic.mp h with h | ⟨approval, s₁, happroval, h⟩
    · exact absurd h (safe_lifiApproval hkey s hs).1
    have hs₁ := (safe_lifiApproval hkey s hs).2 _ _ happroval
    rcases bind_eq_panic.mp h with h | ⟨nonce, s₂, hnonce, h⟩
    · exact absurd h (safe_nextNonce hkey s₁ hs₁).1
    refine ⟨(readyToBridge_iff hkey hs).mp ⟨approval, s₁, nonce, s₂, happroval, hnonce⟩, ?_⟩
    rcases lift_bind_eq_panic.mp h with h | ⟨gasLimit, -, h⟩
    · exact toU64_eq_panic.mp h
    · exact absurd h (hf _ _ _ _)
  · -- the stages before it return, and the narrowing panics
    rintro ⟨hready, hgas⟩
    obtain ⟨approval, s₁, nonce, s₂, happroval, hnonce⟩ := (readyToBridge_iff hkey hs).mpr hready
    refine bind_eq_panic.mpr (Or.inr ⟨approval, s₁, happroval, ?_⟩)
    refine bind_eq_panic.mpr (Or.inr ⟨nonce, s₂, hnonce, ?_⟩)
    exact lift_bind_eq_panic.mpr (Or.inl (toU64_eq_panic.mpr hgas))

/-- **A source on an EVM chain**: exactly a quote that does not fit crashes the handler. -/
theorem lifiEip155_eq_panic_iff (hkey : (plan.asset.chainId, req.from_) ∈ keys)
    (hs : Tended env keys s) {contract : Address} {value : Value} :
    lifiEip155 env req plan contract value s = .panic ↔
      ∃ quote, env.lifi.readEip155 value = .ok quote ∧
        ¬ QuoteFits env req plan contract quote := by
  rw [lifiEip155]
  simp only [assert_bind_eq_panic, lift_bind_eq_panic (x := Outcome.ofExcept routeInternal _),
    Outcome.ofExcept_ne_panic, false_or, Outcome.ofExcept_eq_ok]
  refine exists_congr fun quote => and_congr_right fun hread => ?_
  have hkey' : quote.from_ = req.from_ → (plan.asset.chainId, quote.from_) ∈ keys := by
    intro hsender
    rw [hsender]
    exact hkey
  constructor
  · intro h hfits
    have hpanic := h hfits.chain hfits.sender hfits.token.symm hfits.approval.symm
    rw [hfits.chain] at hpanic
    obtain ⟨hready, hgas⟩ := (narrowing_eq_panic_iff (fun _ _ _ _ => Outcome.ok_ne_panic)
      (hkey' hfits.sender) hs).mp hpanic
    exact hgas (hfits.gas (hfits.sender ▸ hready))
  · intro hfits hchain hsender htoken happroval
    -- only the gas limit is left
    have hgas : ReadyToBridge env plan.asset.chainId req.from_ ∧
        ¬ quote.gasLimit.toNat < 2 ^ 64 := by
      rw [← Classical.not_imp]
      exact fun hgas => hfits ⟨hchain, hsender, htoken.symm, happroval.symm, hgas⟩
    rw [hchain]
    exact (narrowing_eq_panic_iff (fun _ _ _ _ => Outcome.ok_ne_panic) (hkey' hsender) hs).mpr
      ⟨hsender ▸ hgas.1, hgas.2⟩

/-- A source on an EVM chain that is quoted leaves the nonces in order. -/
theorem tended_of_lifiEip155 (hkey : (plan.asset.chainId, req.from_) ∈ keys)
    (hs : Tended env keys s) {contract : Address} {value : Value} {bridged : Bridged}
    {s' : RouteState} (h : lifiEip155 env req plan contract value s = .ok (bridged, s')) :
    Tended env keys s' ∧ ∃ transactions, bridged.routes = [.eip155 transactions] := by
  rw [lifiEip155] at h
  simp only [lift_bind_eq_ok, Outcome.ofExcept_eq_ok, Outcome.assert_eq_ok] at h
  obtain ⟨quote, -, _, hchain, _, hsender, _, -, _, -, h⟩ := h
  rw [hchain, hsender] at h
  obtain ⟨approval, s₁, happroval, h⟩ := bind_eq_ok.mp h
  obtain ⟨nonce, s₂, hnonce, h⟩ := bind_eq_ok.mp h
  obtain ⟨gasLimit, -, h⟩ := lift_bind_eq_ok.mp h
  obtain ⟨rfl, rfl⟩ := pure_eq_ok.mp h
  have hkey' : (plan.asset.chainId, quote.from_) ∈ keys := by
    rw [hsender]
    exact hkey
  have hs₁ := (safe_lifiApproval hkey' s hs).2 _ _ happroval
  exact ⟨(safe_nextNonce hkey s₁ hs₁).2 _ _ hnonce, _, rfl⟩

/-! ## The table of the source: which chains and accounts a plan can have -/

/-- The chain of the tokens on Solana. -/
def solanaChain : String := "solana:5eykt4UsFv8P8NJdTREpY1vzqKqZKvdp"

/-- **The tokens of the table** are contracts on EVM chains, and the one on Solana. -/
theorem bridgingAssets_chain {mint : SolanaPubkey} {symbol chainId : String} {entry : AssetEntry}
    {contract : Eip155OrSolanaAddress} (hentry : (symbol, entry) ∈ bridgingAssets mint)
    (hcontract : (chainId, contract) ∈ entry.contracts) :
    ((∃ address, contract = .eip155 address) ∧ startsWith "eip155:" chainId = true ∧
        startsWith "solana:" chainId = false) ∨
      contract = .solana mint ∧ chainId = solanaChain := by
  simp only [bridgingAssets, List.mem_cons, Prod.mk.injEq, List.not_mem_nil, or_false] at hentry
  rcases hentry with ⟨-, rfl⟩ | ⟨-, rfl⟩ | ⟨-, rfl⟩ | ⟨-, rfl⟩ <;>
    simp only [List.mem_cons, Prod.mk.injEq, List.not_mem_nil, or_false] at hcontract
  · rcases hcontract with ⟨rfl, rfl⟩ | ⟨rfl, rfl⟩ | ⟨rfl, rfl⟩ | ⟨rfl, rfl⟩
    · exact Or.inl ⟨⟨_, rfl⟩, by decide, by decide⟩
    · exact Or.inl ⟨⟨_, rfl⟩, by decide, by decide⟩
    · exact Or.inl ⟨⟨_, rfl⟩, by decide, by decide⟩
    · exact Or.inr ⟨rfl, rfl⟩
  · rcases hcontract with ⟨rfl, rfl⟩ | ⟨rfl, rfl⟩ <;>
      exact Or.inl ⟨⟨_, rfl⟩, by decide, by decide⟩
  · obtain ⟨rfl, rfl⟩ := hcontract
    exact Or.inl ⟨⟨_, rfl⟩, by decide, by decide⟩
  · rcases hcontract with ⟨rfl, rfl⟩ | ⟨rfl, rfl⟩ | ⟨rfl, rfl⟩ <;>
      exact Or.inl ⟨⟨_, rfl⟩, by decide, by decide⟩

/-- A plan takes its source from an EVM chain or from an account on Solana. -/
inductive Source (plan : BridgingPlan) : Prop where
  | evm (contract : Address) (hcontract : plan.asset.contractAddress = .eip155 contract)
      (hchain : startsWith "eip155:" plan.asset.chainId = true)
      (hnot : startsWith "solana:" plan.asset.chainId = false)
  | solana (mint account : SolanaPubkey) (hcontract : plan.asset.contractAddress = .solana mint)
      (haccount : plan.asset.account = .solana account) (hchain : plan.asset.chainId = solanaChain)

variable {mint : SolanaPubkey}

theorem source_of_plans (htable : env.table = bridgingAssets mint)
    (h : Plans env req call plan) : Source plan := by
  have hlisted : Listed env.table plan.asset :=
    listed_of_plans (htable ▸ bridgingAssets_comparable mint) h
  obtain ⟨entry, hentry, -, hcontract⟩ := hlisted.token
  rw [htable] at hentry
  rcases bridgingAssets_chain hentry hcontract with ⟨⟨contract, haddress⟩, hchain, hnot⟩ |
    ⟨hmint, hchain⟩
  · exact .evm contract haddress hchain hnot
  · obtain ⟨account, haccount⟩ := hlisted.kind _ hmint
    exact .solana _ account hmint haccount hchain

/-- The second bridge has a name for every EVM chain. -/
theorem exists_lifiChainId {chainId : String} (h : startsWith "eip155:" chainId = true) :
    ∃ chain, caip2ToLifiChainId chainId = .ok chain := by
  rw [caip2ToLifiChainId]
  split <;> exact ⟨_, rfl⟩

theorem caip2ToLifiChainId_ne_panic {chainId : String} :
    caip2ToLifiChainId chainId ≠ .panic := by
  rw [caip2ToLifiChainId]
  split
  · exact Outcome.ok_ne_panic
  · split
    · exact Outcome.ok_ne_panic
    · exact Outcome.err_ne_panic

/-- A source on Solana always goes through the second bridge. -/
theorem bridgeRoute_of_solana (hcontract : plan.asset.contractAddress = .solana mint)
    (hchain : plan.asset.chainId = solanaChain) :
    bridgeRoute env req plan = (do
      let toChain ← lift (caip2ToLifiChainId req.chainId)
      ask (.lifiQuote "SOL" toChain (.solana mint) plan.transfer.contract plan.bridgeTopup
        plan.asset.account req.from_)
      let quote ← lift (Outcome.ofExcept routeInternal env.lifi.quote)
      lift (lifiSolana env plan quote)) := by
  have hsolana : startsWith "solana:" solanaChain = true := by decide
  have hname : caip2ToLifiChainId solanaChain = .ok "SOL" := rfl
  rw [bridgeRoute, hcontract]
  dsimp only
  rw [lifiRoute, hcontract, hchain, hname]
  simp only [hsolana, if_true]
  rfl

/-- The chain of the transfer is an EVM chain. -/
theorem evm_of_plans (htable : env.table = bridgingAssets mint) (h : Plans env req call plan) :
    startsWith "eip155:" req.chainId = true := by
  obtain ⟨⟨symbol, entry⟩, hentry, hfound⟩ := List.exists_of_findSome?_eq_some h.token
  obtain ⟨⟨chainId, contract⟩, hcontract, hfound⟩ := List.exists_of_findSome?_eq_some hfound
  have hsame : chainId = req.chainId ∧ .eip155 plan.transfer.contract = contract := by
    by_contra hne
    rw [if_neg hne] at hfound
    cases hfound
  obtain ⟨rfl, rfl⟩ := hsame
  rw [htable] at hentry
  rcases bridgingAssets_chain hentry hcontract with ⟨-, hchain, -⟩ | ⟨hmint, -⟩
  · exact hchain
  · cases hmint

/-! ## Carrying out a plan -/

/-- The keys whose nonces are initialised when the bridge is asked. -/
def keysOf (req : PrepareRequest) (plan : BridgingPlan) : List NonceKey :=
  if startsWith "eip155:" plan.asset.chainId then
    [(plan.asset.chainId, req.from_), (req.chainId, req.from_)]
  else [(req.chainId, req.from_)]

theorem mem_keysOf : (req.chainId, req.from_) ∈ keysOf req plan := by
  rw [keysOf]
  split <;> simp

theorem mem_keysOf_of_evm (h : startsWith "eip155:" plan.asset.chainId = true) :
    (plan.asset.chainId, req.from_) ∈ keysOf req plan := by
  rw [keysOf, if_pos h]
  exact List.mem_cons_self ..

theorem tended_bridging :
    Tended env (keysOf req plan) (bridging env req plan (planned env req)) := by
  rw [keysOf]
  split
  · next hevm => exact tended_planned.bridging_evm hevm
  · exact tended_planned.bridging

/-- A quote of the second bridge that the handler does not expect. -/
def Misquoted (env : RouteEnv) (req : PrepareRequest) (plan : BridgingPlan) : Prop :=
  ∃ contract value quote, plan.asset.contractAddress = .eip155 contract ∧ req.useLifi = true ∧
    env.lifi.quote = .ok value ∧ env.lifi.readEip155 value = .ok quote ∧
    ¬ QuoteFits env req plan contract quote

/-- The second bridge, from an EVM chain. -/
theorem lifiRoute_evm_eq_panic_iff (htable : env.table = bridgingAssets mint)
    (h : Plans env req call plan) (hs : Tended env (keysOf req plan) s) {contract : Address}
    (hcontract : plan.asset.contractAddress = .eip155 contract)
    (hchain : startsWith "eip155:" plan.asset.chainId = true)
    (hnot : startsWith "solana:" plan.asset.chainId = false) :
    lifiRoute env req plan s = .panic ↔ ∃ value quote, env.lifi.quote = .ok value ∧
      env.lifi.readEip155 value = .ok quote ∧ ¬ QuoteFits env req plan contract quote := by
  obtain ⟨fromChain, hfrom⟩ := exists_lifiChainId hchain
  obtain ⟨toChain, hto⟩ := exists_lifiChainId (evm_of_plans htable h)
  rw [lifiRoute]
  simp only [lift_bind_eq_panic, ask_bind_eq_panic, hfrom, hto, reduceCtorEq, false_or,
    Outcome.ok.injEq, exists_eq_left', Outcome.ofExcept_ne_panic, Outcome.ofExcept_eq_ok, hnot,
    hchain, hcontract, Bool.false_eq_true, if_false, if_true]
  refine exists_congr fun value => ?_
  rw [exists_and_left]
  refine and_congr_right fun _ => ?_
  exact lifiEip155_eq_panic_iff (mem_keysOf_of_evm hchain) (hs.ask _)

/-- **Either bridge**: only a quote of the second one crashes the handler. -/
theorem bridgeRoute_eq_panic_iff (htable : env.table = bridgingAssets mint)
    (h : Plans env req call plan) (hs : Tended env (keysOf req plan) s) :
    bridgeRoute env req plan s = .panic ↔ Misquoted env req plan := by
  -- on an EVM chain the request picks the bridge, from Solana there is the second one only
  rcases source_of_plans htable h with ⟨contract, hcontract, hchain, hnot⟩ |
    ⟨mint', account, hcontract, haccount, hchain⟩
  · cases hlifi : req.useLifi with
    | false =>
      -- the first bridge is safe, and no quote of the second one is asked for
      have hsafe := (safe_bungeeRoute (mem_keysOf_of_evm hchain) contract s hs).1
      rw [bridgeRoute, hcontract, hlifi]
      refine iff_of_false hsafe ?_
      rintro ⟨_, _, _, -, hother, -⟩
      rw [hlifi] at hother
      cases hother
    | true =>
      -- the second bridge panics on a quote that does not fit
      rw [bridgeRoute, hcontract, hlifi]
      refine (lifiRoute_evm_eq_panic_iff htable h hs hcontract hchain hnot).trans ?_
      constructor
      · rintro ⟨value, quote, hquote, hread, hfits⟩
        exact ⟨contract, value, quote, hcontract, hlifi, hquote, hread, hfits⟩
      · rintro ⟨contract', value, quote, hcontract', -, hquote, hread, hfits⟩
        cases hcontract.symm.trans hcontract'
        exact ⟨value, quote, hquote, hread, hfits⟩
  · -- from Solana nothing panics, and nothing is misquoted
    rw [bridgeRoute_of_solana hcontract hchain]
    refine iff_of_false ?_ ?_
    · simp only [lift_bind_eq_panic, ask_bind_eq_panic, Outcome.ofExcept_ne_panic, false_or,
        caip2ToLifiChainId_ne_panic, lift_eq_panic]
      rintro ⟨_, -, quote, -, hpanic⟩
      exact lifiSolana_ne_panic haccount quote hpanic
    · rintro ⟨contract, _, _, hevm, -⟩
      rw [hcontract] at hevm
      cases hevm

/-- The transactions of a bridging are of the kind of its source. -/
def OfKind : Eip155OrSolanaAddress → List Transactions → Prop
  | .eip155 _, routes => ∃ transactions, routes = [.eip155 transactions]
  | .solana _, routes => ∃ transaction, routes = [.solana [transaction]]

/-- A bridging that is carried out leaves the nonces in order. -/
theorem bridgeRoute_ok (htable : env.table = bridgingAssets mint) (h : Plans env req call plan)
    (hs : Tended env (keysOf req plan) s) {bridged : Bridged} {s' : RouteState}
    (hrun : bridgeRoute env req plan s = .ok (bridged, s')) :
    Tended env (keysOf req plan) s' ∧ OfKind plan.asset.contractAddress bridged.routes := by
  -- the same cases as for the panics
  rcases source_of_plans htable h with ⟨contract, hcontract, hchain, hnot⟩ |
    ⟨mint', account, hcontract, haccount, hchain⟩
  · have hkey : (plan.asset.chainId, req.from_) ∈ keysOf req plan := mem_keysOf_of_evm hchain
    rw [hcontract]
    cases hlifi : req.useLifi with
    | false =>
      rw [bridgeRoute, hcontract, hlifi] at hrun
      refine ⟨(safe_bungeeRoute hkey contract s hs).2 _ _ hrun, ?_⟩
      obtain ⟨_, _, _, _, routes, -, -, -, rfl⟩ := bungeeRoute_eq_ok.mp hrun
      exact ⟨routes, rfl⟩
    | true =>
      rw [bridgeRoute, hcontract, hlifi, lifiRoute] at hrun
      simp only [lift_bind_eq_ok, ask_bind_eq_ok, hnot, hchain, hcontract, Bool.false_eq_true,
        if_false, if_true] at hrun
      obtain ⟨_, -, _, -, value, -, hrun⟩ := hrun
      exact tended_of_lifiEip155 hkey (hs.ask _) hrun
  · -- no nonce is taken on Solana
    rw [bridgeRoute_of_solana hcontract hchain] at hrun
    simp only [lift_bind_eq_ok, ask_bind_eq_ok, lift_eq_ok] at hrun
    obtain ⟨_, -, value, -, hbridged, rfl⟩ := hrun
    refine ⟨hs.ask _, ?_⟩
    rw [hcontract]
    rw [lifiSolana, haccount] at hbridged
    simp only [Outcome.bind_eq_ok, Outcome.ofExcept_eq_ok, Outcome.pure_eq,
      Outcome.ok.injEq] at hbridged
    obtain ⟨quote, -, data, -, transaction, -, rfl⟩ := hbridged
    exact ⟨_, rfl⟩

/-- **Carrying out a plan** crashes for a quote that is not expected, and for nothing else. -/
theorem carryOut_eq_panic_iff (htable : env.table = bridgingAssets mint)
    (h : Plans env req call plan) :
    carryOut env req call plan (planned env req) = .panic ↔ Misquoted env req plan := by
  have hinit : initBridgeNonce env req plan (planned env req) =
      .ok ((), bridging env req plan (planned env req)) := initBridgeNonce_eq_ok.mpr rfl
  rw [← bridgeRoute_eq_panic_iff htable h tended_bridging, carryOut]
  constructor
  · intro hpanic
    rcases bind_eq_panic.mp hpanic with hpanic | ⟨_, s₁, hs₁, hpanic⟩
    · rw [hinit] at hpanic
      cases hpanic
    obtain rfl := initBridgeNonce_eq_ok.mp hs₁
    rcases bind_eq_panic.mp hpanic with hpanic | ⟨bridged, s₂, hbridged, hpanic⟩
    · exact hpanic
    -- what comes after the bridge is safe
    obtain ⟨hs₂, -⟩ := bridgeRoute_ok htable h tended_bridging hbridged
    have hrest : Safe (Tended env (keysOf req plan)) (do
        try_ env.irnSet
        let nonce ← nextNonce req.chainId req.from_
        return availableResponse env req call plan bridged nonce) :=
      safe_try.bind fun _ => (safe_nextNonce mem_keysOf).bind fun nonce => safe_pure
    exact absurd hpanic (hrest s₂ hs₂).1
  · intro hpanic
    exact bind_eq_panic.mpr (Or.inr ⟨(), _, hinit, bind_eq_panic.mpr (Or.inl hpanic)⟩)

/-- **Where a run crashes**: in a plan that is carried out. -/
theorem routeRun_eq_panic_iff (htable : env.table = bridgingAssets mint) :
    routeRun env req = .panic ↔
      ∃ call plan, Plans env req call plan ∧ Misquoted env req plan := by
  have hcomparable : env.table.Comparable := htable ▸ bridgingAssets_comparable mint
  -- the first stages initialise the nonce of the initial transaction
  have hstart : ∀ {α : Type} {f : Unit → RouteM α}, (initNonce env req.chainId req.from_ >>= f)
      routeStart = f () (planned env req) := rfl
  rw [routeRun, routeHandlerInternal]
  simp only [try_bind_eq_panic, lift_bind_eq_panic, hstart, Outcome.okOr_ne_panic,
    readTransfer_ne_panic, Outcome.ofExcept_ne_panic, false_or, Outcome.okOr_eq_ok,
    Outcome.ofExcept_eq_ok]
  constructor
  · rintro ⟨_, haccess, call, hcall, transfer, htransfer, balance, hbalance, hpanic⟩
    split at hpanic
    · -- the balance covers the transfer: only the nonce of the initial transaction is taken
      have hsafe : Safe (Tended env [(req.chainId, req.from_)]) (do
          let nonce ← nextNonce req.chainId req.from_
          return PrepareResponseSuccess.notRequired
            (initialTransaction req call transfer nonce) []) :=
        (safe_nextNonce (List.mem_singleton.mpr rfl)).bind fun nonce => safe_pure
      exact absurd hpanic (hsafe _ tended_planned).1
    · -- it does not: a plan is made and carried out
      next hshort =>
      rcases lift_bind_eq_panic.mp hpanic with hplan | ⟨plan, hplan, hcarry⟩
      · exact absurd hplan (planBridging_ne_panic hcomparable)
      obtain ⟨rfl, rfl, htoken, haccounts⟩ := planBridging_eq_ok.mp hplan
      have hplans : Plans env req call plan :=
        ⟨haccess, hcall, htransfer, hbalance, hshort, htoken, haccounts⟩
      rcases bind_eq_panic.mp hcarry with hcarry | ⟨_, _, _, hreturn⟩
      · exact ⟨call, plan, hplans, (carryOut_eq_panic_iff htable hplans).mp hcarry⟩
      · cases hreturn
  · -- the stages up to the plan return
    rintro ⟨call, plan, hplans, hmisquoted⟩
    refine ⟨(), hplans.access, call, hplans.calls, _, hplans.transfer, _, hplans.balance, ?_⟩
    rw [if_neg hplans.short]
    have hplan : planBridging env req plan.transfer plan.balance = .ok plan :=
      planBridging_eq_ok.mpr ⟨rfl, rfl, hplans.token, hplans.accounts⟩
    exact lift_bind_eq_panic.mpr (Or.inr ⟨plan, hplan, bind_eq_panic.mpr
      (Or.inl ((carryOut_eq_panic_iff htable hplans).mpr hmisquoted))⟩)

/-- The second version of the endpoint crashes where the run does. -/
theorem routeHandler_eq_panic_iff (htable : env.table = bridgingAssets mint) :
    routeHandler env req = .panic ↔
      ∃ call plan, Plans env req call plan ∧ Misquoted env req plan := by
  rw [← routeRun_eq_panic_iff htable, routeHandler]
  split <;> simp [*]

end BlockchainApi
