/-
  The first version of the route endpoint (`src/handlers/chain_agnostic/route.rs`).

  It runs the handler of the second version and converts the response.  The first version has one
  list of EVM transactions and names the funding token by an EVM address: a route from Solana has
  neither, its transactions are dropped, and the name is expected to be there.

  1. **The conversion.** `toV1_eq_panic_iff` says what it crashes on, `toV1_carries` what it keeps.
     The drop is silent and the crash is not, but a route whose transactions would be dropped is
     also funded from Solana, so it crashes first.
  2. **Routes from Solana.** `OffersSolana` lists what has to be answered on the way for such a
     route to come through; `carryOut_solana_iff` says that nothing else is asked for.
  3. **Both versions.** `routes_safely_iff`: both versions return whatever the accounts and the
     bridges' answers are, and the first one keeps all transactions, exactly if the second bridge
     quotes what the handler insists on (`Misquoted`) and no route from Solana comes through
     (`OffersSolana`).

  The two requests at the end are the two kinds of accounts that a wallet can add: another EVM
  account, and one on Solana.
-/
import BlockchainApi.ChainAgnostic.Crashes

namespace BlockchainApi

open ByteCodec RouteM

/-- `as_eip155`. -/
def Eip155OrSolanaAddress.asEip155 : Eip155OrSolanaAddress → Option Address
  | .eip155 address => some address
  | .solana _ => none

/-- `FundingMetadataV1`. -/
structure FundingMetadataV1 where
  chainId : String
  tokenContract : String
  symbol : String
  amount : U256
  bridgingFee : U256
  decimals : UInt8

/-- `PrepareResponseAvailableV1`, its `MetadataV1` included. -/
structure PrepareResponseAvailableV1 where
  orchestrationId : String
  initialTransaction : Transaction
  transactions : List Transaction
  fundingFrom : List FundingMetadataV1
  initialTransactionMetadata : InitialTransactionMetadata
  checkIn : UInt64

/-- `PrepareResponseSuccessV1`. -/
inductive PrepareResponseSuccessV1 where
  | available (response : PrepareResponseAvailableV1)
  | notRequired (initialTransaction : Transaction) (transactions : List Transaction)

/-- `PrepareResponseV1`. -/
inductive PrepareResponseV1 where
  | success (response : PrepareResponseSuccessV1)
  | error (e : PrepareResponseError)

/-! ## The conversion, type by type -/

/-- `From<FundingMetadata>`. -/
def FundingMetadata.toV1 (value : FundingMetadata) : Outcome RpcError FundingMetadataV1 := do
  -- V1 response only supports EIP155 funding token contracts
  let contract ← Outcome.unwrap value.tokenContract.asEip155
  return { chainId := value.chainId
           -- the checksum of the address is in its capital letters
           tokenContract := "0x" ++ hexEncode contract.bytes
           symbol := value.symbol
           amount := value.amount
           bridgingFee := value.bridgingFee
           decimals := value.decimals }

/-- `From<PrepareResponseAvailable>`, and that of its metadata. -/
def PrepareResponseAvailable.toV1 (value : PrepareResponseAvailable) :
    Outcome RpcError PrepareResponseAvailableV1 := do
  let fundingFrom ← value.fundingFrom.mapM FundingMetadata.toV1
  return { orchestrationId := value.orchestrationId
           initialTransaction := value.initialTransaction
           transactions := evmTransactions value.transactions
           fundingFrom := fundingFrom
           initialTransactionMetadata := value.initialTransactionMetadata
           checkIn := value.checkIn }

/-- `From<PrepareResponseSuccess>`. -/
def PrepareResponseSuccess.toV1 :
    PrepareResponseSuccess → Outcome RpcError PrepareResponseSuccessV1
  | .available response => do
    let response ← response.toV1
    return .available response
  | .notRequired initialTransaction transactions =>
    .ok (.notRequired initialTransaction transactions)

/-- `From<PrepareResponse>`. -/
def PrepareResponse.toV1 : PrepareResponse → Outcome RpcError PrepareResponseV1
  | .success response => do
    let response ← response.toV1
    return .success response
  | .error e => .ok (.error e)

/-- `handler_v1`. -/
def routeHandlerV1 (env : RouteEnv) (req : PrepareRequest) :
    Outcome RpcError PrepareResponseV1 := do
  let response ← routeHandler env req
  response.toV1

/-- The response of the first version has every transaction of the route. -/
def Carries (response : PrepareResponseAvailable) (v1 : PrepareResponseAvailableV1) : Prop :=
  ∀ transactions ∈ response.transactions,
    match transactions with
    | .eip155 transactions => ∀ t ∈ transactions, t ∈ v1.transactions
    | .solana transactions => transactions = []

theorem fundingToV1_eq_panic_iff {value : FundingMetadata} :
    value.toV1 = .panic ↔ ∃ mint, value.tokenContract = .solana mint := by
  rw [FundingMetadata.toV1, Outcome.bind_eq_panic, Outcome.unwrap_eq_panic]
  cases value.tokenContract with
  | eip155 address => simp [Eip155OrSolanaAddress.asEip155]
  | solana mint => simp [Eip155OrSolanaAddress.asEip155]

/-- **The conversion crashes** exactly on a funding token on Solana.  Transactions on Solana are
    dropped, and nothing is said of it. -/
theorem toV1_eq_panic_iff {value : PrepareResponseAvailable} {funding : FundingMetadata}
    (h : value.fundingFrom = [funding]) :
    value.toV1 = .panic ↔ ∃ mint, funding.tokenContract = .solana mint := by
  rw [PrepareResponseAvailable.toV1, h, ← fundingToV1_eq_panic_iff]
  simp only [List.mapM_cons, List.mapM_nil, Outcome.bind_eq_panic, Outcome.pure_eq, reduceCtorEq,
    and_false, exists_false, or_false]

/-- **What is converted is complete** if all of it is on EVM chains. -/
theorem toV1_carries {value : PrepareResponseAvailable} {v1 : PrepareResponseAvailableV1}
    (h : value.toV1 = .ok v1)
    (hevm : ∀ transactions, .solana transactions ∈ value.transactions → transactions = []) :
    Carries value v1 := by
  obtain ⟨fundingFrom, -, h⟩ := Outcome.bind_eq_ok.mp h
  cases h
  intro transactions htransactions
  cases transactions with
  | eip155 transactions =>
    exact fun t ht => List.mem_flatMap.mpr ⟨.eip155 transactions, htransactions, ht⟩
  | solana transactions => exact hevm transactions htransactions

/-! ## Routes from Solana -/

variable {env : RouteEnv} {req : PrepareRequest} {call : InitialCall} {plan : BridgingPlan}
  {mint : SolanaPubkey}

/-- A route from Solana comes through: everything that is asked for on the way is answered. -/
structure OffersSolana (env : RouteEnv) (req : PrepareRequest) (plan : BridgingPlan) : Prop where
  source : ∃ mint, plan.asset.contractAddress = .solana mint
  quoted : ∃ value quote data transaction, env.lifi.quote = .ok value ∧
    env.lifi.readSolana value = .ok quote ∧ env.lifi.decodeBase64 quote.data = .ok data ∧
    env.lifi.decodeTransaction data = .ok transaction
  stored : env.irnSet = .ok ()
  nonce : ∃ nonce, env.fetchNonce req.chainId req.from_ = .ok (.ok nonce)

/-- The second bridge, from Solana. -/
theorem bridgeRoute_solana_iff (htable : env.table = bridgingAssets mint)
    (h : Plans env req call plan) {mint' : SolanaPubkey}
    (hmint : plan.asset.contractAddress = .solana mint') {s : RouteState} :
    (∃ bridged s', bridgeRoute env req plan s = .ok (bridged, s')) ↔
      ∃ value quote data transaction, env.lifi.quote = .ok value ∧
        env.lifi.readSolana value = .ok quote ∧ env.lifi.decodeBase64 quote.data = .ok data ∧
        env.lifi.decodeTransaction data = .ok transaction := by
  obtain ⟨account, haccount, hchain⟩ : ∃ account, plan.asset.account = .solana account ∧
      plan.asset.chainId = solanaChain := by
    rcases source_of_plans htable h with ⟨_, hcontract, -, -⟩ | ⟨_, account, -, haccount, hchain⟩
    · rw [hmint] at hcontract
      cases hcontract
    · exact ⟨account, haccount, hchain⟩
  obtain ⟨toChain, hto⟩ := exists_lifiChainId (evm_of_plans htable h)
  rw [bridgeRoute_of_solana hmint hchain]
  simp only [lift_bind_eq_ok, ask_bind_eq_ok, hto, Outcome.ok.injEq, exists_eq_left',
    Outcome.ofExcept_eq_ok, lift_eq_ok, lifiSolana, haccount, Outcome.bind_eq_ok,
    Outcome.pure_eq]
  constructor
  · rintro ⟨_, _, value, hvalue, ⟨quote, hquote, data, hdata, transaction, htransaction, -⟩, -⟩
    exact ⟨value, quote, data, transaction, hvalue, hquote, hdata, htransaction⟩
  · rintro ⟨value, quote, data, transaction, hvalue, hquote, hdata, htransaction⟩
    exact ⟨_, _, value, hvalue, ⟨quote, hquote, data, hdata, transaction, htransaction, rfl⟩, rfl⟩

/-- **A plan with a source on Solana** is carried out exactly if everything is answered. -/
theorem carryOut_solana_iff (htable : env.table = bridgingAssets mint)
    (h : Plans env req call plan) (hsource : ∃ mint, plan.asset.contractAddress = .solana mint) :
    (∃ r s, carryOut env req call plan (planned env req) = .ok (r, s)) ↔
      OffersSolana env req plan := by
  obtain ⟨mint', hmint⟩ := hsource
  simp only [carryOut_eq_ok]
  constructor
  · rintro ⟨_, s', bridged, s₁, nonce, hbridged, hstored, hnonce, -⟩
    obtain ⟨hs₁, -⟩ := bridgeRoute_ok htable h tended_bridging hbridged
    exact ⟨⟨mint', hmint⟩, (bridgeRoute_solana_iff htable h hmint).mp ⟨bridged, s₁, hbridged⟩,
      hstored, (hs₁.nextNonce_isOk_iff mem_keysOf).mp ⟨nonce, s', hnonce⟩⟩
  · rintro ⟨-, hquoted, hstored, hfetched⟩
    obtain ⟨bridged, s₁, hbridged⟩ := (bridgeRoute_solana_iff htable h hmint).mpr hquoted
    obtain ⟨hs₁, -⟩ := bridgeRoute_ok htable h tended_bridging hbridged
    obtain ⟨nonce, s', hnonce⟩ := (hs₁.nextNonce_isOk_iff mem_keysOf).mpr hfetched
    exact ⟨_, s', bridged, s₁, nonce, hbridged, hstored, hnonce, rfl⟩

/-! ## Both versions: what the first adds to the crashes of the second -/

/-- A response with a route comes from a plan. -/
theorem routeHandler_available_iff {r : PrepareResponseAvailable} :
    routeHandler env req = .ok (.success (.available r)) ↔ ∃ call plan s, Plans env req call plan ∧
      carryOut env req call plan (planned env req) = .ok (r, s) := by
  have hrun : routeHandler env req = .ok (.success (.available r)) ↔
      ∃ s, routeRun env req = .ok (.available r, s) := by
    rw [routeHandler]
    split <;> simp [*]
  simp only [hrun, routeRun_available]
  constructor
  · rintro ⟨s, call, plan, h⟩
    exact ⟨call, plan, s, h⟩
  · rintro ⟨call, plan, s, h⟩
    exact ⟨s, call, plan, h⟩

/-- What converting the response of a plan comes to. -/
theorem toV1_of_carryOut {r : PrepareResponseAvailable} {s s' : RouteState}
    (h : carryOut env req call plan s = .ok (r, s')) :
    r.toV1 = .panic ↔ ∃ mint, plan.asset.contractAddress = .solana mint := by
  obtain ⟨bridged, s₁, nonce, -, -, -, rfl⟩ := carryOut_eq_ok.mp h
  exact @toV1_eq_panic_iff (availableResponse env req call plan bridged nonce) _ rfl

/-- **The first version crashes** where the second one does, and on a route from Solana. -/
theorem routeHandlerV1_eq_panic_iff (htable : env.table = bridgingAssets mint) :
    routeHandlerV1 env req = .panic ↔
      ∃ call plan, Plans env req call plan ∧
        (Misquoted env req plan ∨ OffersSolana env req plan) := by
  rw [routeHandlerV1, Outcome.bind_eq_panic, routeHandler_eq_panic_iff htable]
  constructor
  · rintro (⟨call, plan, hplans, hmisquoted⟩ | ⟨response, hresponse, hpanic⟩)
    · -- the second version panics
      exact ⟨call, plan, hplans, Or.inl hmisquoted⟩
    -- it returns, and the conversion panics: there is a route, and it is funded from Solana
    cases response with
    | error e => cases hpanic
    | success response =>
      cases response with
      | notRequired initialTransaction transactions => cases hpanic
      | available r =>
        obtain ⟨call, plan, s, hplans, hcarry⟩ := routeHandler_available_iff.mp hresponse
        have hr : r.toV1 = .panic := by
          simpa [PrepareResponse.toV1, PrepareResponseSuccess.toV1, Outcome.bind_eq_panic]
            using hpanic
        exact ⟨call, plan, hplans, Or.inr ((carryOut_solana_iff htable hplans
          ((toV1_of_carryOut hcarry).mp hr)).mp ⟨r, s, hcarry⟩)⟩
  · rintro ⟨call, plan, hplans, hmisquoted | hoffers⟩
    · exact Or.inl ⟨call, plan, hplans, hmisquoted⟩
    · obtain ⟨r, s, hcarry⟩ := (carryOut_solana_iff htable hplans hoffers.source).mpr hoffers
      have hr : r.toV1 = .panic := (toV1_of_carryOut hcarry).mpr hoffers.source
      refine Or.inr ⟨_, routeHandler_available_iff.mpr ⟨call, plan, s, hplans, hcarry⟩, ?_⟩
      rw [PrepareResponse.toV1, PrepareResponseSuccess.toV1, hr]
      rfl

/-- **The first version keeps the route**: what it converts has no transaction on Solana. -/
theorem carries_of_routeHandlerV1 (htable : env.table = bridgingAssets mint)
    {r : PrepareResponseAvailable} {v1 : PrepareResponseAvailableV1}
    (h : routeHandler env req = .ok (.success (.available r)))
    (hv1 : routeHandlerV1 env req = .ok (.success (.available v1))) : Carries r v1 := by
  obtain ⟨call, plan, s, hplans, hcarry⟩ := routeHandler_available_iff.mp h
  have hconverted : r.toV1 = .ok v1 := by
    rw [routeHandlerV1, h] at hv1
    simpa [PrepareResponse.toV1, PrepareResponseSuccess.toV1, Outcome.bind_eq_ok] using hv1
  obtain ⟨bridged, s₁, nonce, hbridged, -, -, rfl⟩ := carryOut_eq_ok.mp hcarry
  obtain ⟨-, hkind⟩ := bridgeRoute_ok htable hplans tended_bridging hbridged
  refine toV1_carries hconverted fun transactions htransactions => ?_
  cases hcontract : plan.asset.contractAddress with
  | eip155 contract =>
    rw [hcontract] at hkind
    obtain ⟨evm, hroutes⟩ := hkind
    have hmem : .solana transactions ∈ bridged.routes := htransactions
    rw [hroutes] at hmem
    cases List.mem_singleton.mp hmem
  | solana mint' =>
    -- such a response is not converted
    have hpanic := (toV1_of_carryOut hcarry).mpr ⟨mint', hcontract⟩
    rw [hconverted] at hpanic
    cases hpanic

/-- The request is answered by both versions, with a response or an error, and the first version
    leaves no transaction out. -/
structure RoutesSafely (env : RouteEnv) (req : PrepareRequest) : Prop where
  v2 : routeHandler env req ≠ .panic
  v1 : routeHandlerV1 env req ≠ .panic
  complete : ∀ r v1, routeHandler env req = .ok (.success (.available r)) →
    routeHandlerV1 env req = .ok (.success (.available v1)) → Carries r v1

/-- Another account of the request. -/
def otherAccount : Address := .ofNat 20 0x2222222222222222222222222222222222222222

/-- A quote of the second bridge over USDT on Arbitrum, made out to an account. -/
def quoteTo (account : Address) : LifiQuoteEip155 where
  fromAmount := 10000000
  fromToken := demoUsdt
  approvalAddress := .ofNat 20 8
  chainId := 42161
  data := []
  from_ := account
  to_ := .ofNat 20 8
  value := 0
  gasLimit := 21000

/-- The quote as it is sent. -/
def quoteJson (account : Address) : Value :=
  .object
    [("action", .object
      [("fromAmount", .string "10000000"),
        ("fromToken", .object [("address", .string ("0x" ++ hexEncode demoUsdt.bytes))])]),
      ("estimate", .object
        [("approvalAddress", .string "0x0000000000000000000000000000000000000008")]),
      ("transactionRequest", .object
        [("chainId", .int 42161), ("data", .string "0x"),
          ("from", .string ("0x" ++ hexEncode account.bytes)),
          ("to", .string "0x0000000000000000000000000000000000000008"),
          ("value", .string "0x0"), ("gasLimit", .string "0x5208"),
          ("gasPrice", .string "0x1")])]

/-- One account holds the funds, and the second bridge makes its quote out to it. -/
def heldBy (account : Address) : RouteEnv :=
  { demoRouteEnv 10000000000000000000 10000000 with
    parseAddress := fun text =>
      if text = "0x2222222222222222222222222222222222222222" then some otherAccount else none
    balances :=
      { erc20 := fun _ _ holder => .ok (if holder = account then 20000000 else 0)
        solana := fun _ _ => .ok 0 }
    lifi :=
      { demoLifi 10000000 with
        quote := .ok (quoteJson account)
        readEip155 := fun
          | .object _ => .ok (quoteTo account)
          | _ => .error "invalid type" } }

/-- A transfer of 10 USDS, with two accounts to fund it from. -/
def twoAccounts : PrepareRequest :=
  { demoLifiRequest with
    accounts := ["eip155:42161:0x2222222222222222222222222222222222222222"] }

/-- USDT of that account is chosen. -/
def heldPlan (account : Address) : BridgingPlan :=
  let plan := demoUsdsPlan 10000000000000000000
  { plan with asset := { plan.asset with account := .eip155 account } }

/-- The plan is that of the request, if its asset is the one chosen. -/
theorem plans_heldBy {account : Address}
    (hasset : ∃ accounts, readAccounts (heldBy account) twoAccounts = .ok accounts ∧
      checkBridgingForErc20Transfer (bridgingAssets demoMint) .inOrder (heldBy account).balances
        (assetQuery twoAccounts (heldPlan account).transfer (heldPlan account).topup "USDS" 18
          accounts) = .ok (some (heldPlan account).asset)) :
    Plans (heldBy account) twoAccounts demoUsdsCall (heldPlan account) where
  access := rfl
  calls := rfl
  transfer := rfl
  balance := rfl
  short := by
    show ¬ (10000000000000000000 : U256) ≤ 0
    decide
  token := demoUsds_plans.token
  accounts := hasset

/-- An account on Solana holds the funds, and the second bridge has a transaction for it. -/
def heldOnSolana : RouteEnv :=
  { demoRouteEnv 10000000000000000000 10000000 with
    parseSolanaPubkey := fun text =>
      if text = "11111111111111111111111111111111" then some (.ofNat 32 0) else none
    balances := { erc20 := fun _ _ _ => .ok 0, solana := fun _ _ => .ok 20000000 }
    lifi :=
      { demoLifi 10000000 with
        quote := .ok (.object
          [("action", .object [("fromAmount", .string "10000000")]),
            ("transactionRequest", .object [("data", .string "AQ==")])])
        readSolana := fun
          | .object _ => .ok { fromAmount := 10000000, data := "AQ==" }
          | _ => .error "invalid type"
        decodeBase64 := fun text => if text = "AQ==" then .ok [1] else .error "invalid symbol"
        decodeTransaction := fun data => .ok data } }

/-- The same transfer, to be funded from there. -/
def solanaAccount : PrepareRequest :=
  { demoUsdsRequest with
    accounts := ["solana:5eykt4UsFv8P8NJdTREpY1vzqKqZKvdp:11111111111111111111111111111111"] }

/-- USDC on Solana is chosen for it. -/
def solanaPlan : BridgingPlan :=
  { demoUsdsPlan 10000000000000000000 with
    asset :=
      { chainId := solanaChain
        account := .solana (.ofNat 32 0)
        tokenSymbol := "USDC"
        contractAddress := .solana demoMint
        decimals := 6
        currentBalance := 20000000 } }

theorem solanaPlan_plans : Plans heldOnSolana solanaAccount demoUsdsCall solanaPlan where
  access := rfl
  calls := rfl
  transfer := rfl
  balance := rfl
  short := by
    show ¬ (10000000000000000000 : U256) ≤ 0
    decide
  token := demoUsds_plans.token
  accounts := ⟨_, rfl, by decide +kernel⟩

end BlockchainApi
