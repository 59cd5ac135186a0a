/-
  Checks of point-of-sale transactions (`src/handlers/json_rpc/pos/check_transaction.rs`, and the
  checks of `evm.rs`, `solana.rs` and `tron.rs`).

  A check reads the id of a transaction, which names the chain, and the result that the wallet sent.
  Then it asks the chain, with up to two questions that other checks and the chain itself may come
  between; on Tron the check also broadcasts the transaction, if the chain does not know it.  The
  checks are calls in the sense of `Lib.Watching`, and the chains are a world that only learns.

  What is assumed of the chains and of their nodes: an outcome, once there, stays; what an answer
  reports is so (`Truthful`), though it may be late or an error; and a Solana transaction is
  returned with its metadata (`HasMetadata`).  The last is needed: the field is nullable, and the
  check takes a transaction without metadata for confirmed, whatever its outcome is.

  1. **What each check keeps to.** One lemma for each chain goes through the questions of its check,
     with the world that each answer was given in; what was true of a transaction then is true
     later.
  2.  `check_tells_the_chain`: a final status is what became of the transaction, in every run.
  3.  `settled_checks_agree`: once a check has reported a final status, the checks that begin later
     report the same, and broadcast nothing.  For this the nodes must not lag.
  4.  `built_transaction_checked`: a transaction that was built is checked on the chain of its
     asset.
-/
import BlockchainApi.Lib.Watching
import BlockchainApi.Pos.Payments
import BlockchainApi.Utils.Caip10

namespace BlockchainApi.Pos

open ByteCodec Watching

/-! ## Questions to a chain -/

/-- `CheckPosTxError`. -/
inductive CheckPosTxError where
  | validation (e : ValidationError)
  | rpc (e : RpcError)
  | internal (e : InternalError)
  deriving DecidableEq

/-- `TransactionStatus`. -/
inductive TransactionStatus where
  | pending
  | confirmed
  | failed
  deriving DecidableEq

/-- `CheckTransactionResult`. -/
structure CheckTransactionResult where
  status : TransactionStatus
  checkIn : Option Nat
  txid : Option String
  deriving DecidableEq

/-- `TransactionReceipt` of Tron. -/
structure TransactionReceipt where
  status : Option String
  deriving DecidableEq

/-- `BroadcastResult`. -/
structure BroadcastResult where
  result : Option Bool
  message : Option String
  code : Option String

/-- What `call_json_rpc` is answered. -/
inductive HttpReply (T : Type) where
  | notSent (e : String)
  /-- A status that is not a success, with its text and the body. -/
  | status (code : Nat) (shown errorBody : String)
  | unparsed (e : String)
  | success (result : T)
  | error (code : Int) (message : String)

/-- `call_json_rpc`, after the answer. -/
def callJsonRpc {T : Type} : HttpReply T → Except RpcError T
  | .notSent e => .error (.internal ("Failed to send request: " ++ e))
  | .status code shown errorBody =>
    if 400 ≤ code ∧ code < 500 then
      .error (.invalidResponse ("HTTP " ++ shown ++ " error: " ++ errorBody))
    else .error (.internal ("HTTP " ++ shown ++ " error: " ++ errorBody))
  | .unparsed e => .error (.invalidResponse ("Failed to parse response: " ++ e))
  | .success result => .ok result
  | .error code message =>
    if code = -32600 then .error (.invalidResponse ("Invalid Request: " ++ message))
    else if code = -32602 then .error (.invalidResponse ("Invalid params: " ++ message))
    else .error (.internal ("RPC error " ++ toString code ++ ": " ++ message))

/-- `Signature`. -/
abbrev Signature := FixedBytes 64

/-- What a check asks. -/
inductive ChainCall where
  | evmReceipt (chainId : Caip2ChainId) (txhash : B256)
  | signatureStatuses (chainId : Caip2ChainId) (signature : Signature)
  | getTransaction (chainId : Caip2ChainId) (signature : Signature)
  | tronByHash (chainId : Caip2ChainId) (txid : String)
  | tronBroadcast (chainId : Caip2ChainId) (params : Value)
  | tronReceipt (chainId : Caip2ChainId) (txid : String)

/-- What it can be answered: of a receipt the status, of a status or the metadata of a transaction
    the error. -/
abbrev ChainCall.Reply : ChainCall → Type
  | evmReceipt _ _ => Except String (Option Bool)
  | signatureStatuses _ _ => Except String (List (Option (Option String)))
  | getTransaction _ _ => Except String (Option (Option String))
  | tronByHash _ _ => HttpReply (Option Value)
  | tronBroadcast _ _ => HttpReply BroadcastResult
  | tronReceipt _ _ => HttpReply (Option TransactionReceipt)

/-- A check, or a part of it. -/
abbrev Check (A : Type) := Call ChainCall ChainCall.Reply (Except CheckPosTxError A)

/-- What other crates do. -/
structure CheckDeps where
  getProvider : Caip2ChainId → Except InternalError Unit
  /-- `TxHash::from_str`. -/
  parseTxHash : String → Except String B256
  /-- `Signature::from_str`. -/
  parseSignature : String → Except String Signature
  /-- `from_str::<SignedTransactionResult>`, which gives the signature. -/
  signedTransactionResult : String → Option String
  /-- `from_str::<SignedTransaction>`. -/
  signedTransaction : String → Except String SignedTransaction
  json : SerdeJson

/-! ## Checks, as calls with questions in between -/

/-- What is returned with a status. -/
def statusResult (checkIn : Nat) (txid : String) (status : TransactionStatus) :
    CheckTransactionResult :=
  match status with
  | .pending => ⟨status, some checkIn, some txid⟩
  | .confirmed => ⟨status, none, some txid⟩
  | .failed => ⟨status, none, none⟩

/-- `DEFAULT_CHECK_IN`. -/
def SupportedNamespaces.defaultCheckIn : SupportedNamespaces → Nat
  | eip155 => 1000
  | solana => 400
  | tron => 400

section

variable (deps : CheckDeps)

/-- `get_transaction_status` on EVM chains. -/
def evmGetTransactionStatus (txid : String) (chainId : Caip2ChainId) : Check TransactionStatus :=
  match deps.getProvider chainId with
  | .error e => .done (.error (.internal e))
  | .ok _ =>
    match deps.parseTxHash txid with
    | .error e =>
      .done (.error (.validation (.invalidWalletResponse ("Invalid transaction hash: " ++ e))))
    | .ok txhash =>
      .ask (.evmReceipt chainId txhash) fun
        | .error e => .done (.error (.validation (.invalidWalletResponse
            ("Failed to get transaction receipt: " ++ e))))
        | .ok (some true) => .done (.ok .confirmed)
        | .ok (some false) => .done (.ok .failed)
        | .ok none => .done (.ok .pending)

/-- `check_transaction` on EVM chains. -/
def evmCheckTransaction (txid : String) (chainId : Caip2ChainId) : Check CheckTransactionResult :=
  (evmGetTransactionStatus deps txid chainId).map
    (·.map (statusResult SupportedNamespaces.eip155.defaultCheckIn txid))

/-- The status of a transaction without an error, and of one with an error. -/
def statusOfErr (err : Option String) : TransactionStatus :=
  if err.isSome then .failed else .confirmed

/-- `get_status_via_get_transaction`: a transaction without metadata counts as confirmed. -/
def getStatusViaGetTransaction (signature : Signature) (chainId : Caip2ChainId) :
    Check (Option TransactionStatus) :=
  .ask (.getTransaction chainId signature) fun
    | .error _ => .done (.ok none)
    | .ok (some err) => .done (.ok (some (statusOfErr err)))
    | .ok none => .done (.ok (some .confirmed))

/-- `get_transaction_status` on Solana. -/
def solanaGetTransactionStatus (signature : String) (chainId : Caip2ChainId) :
    Check TransactionStatus :=
  match deps.parseSignature signature with
  | .error e => .done (.error (.validation (.invalidWalletResponse ("Invalid signature: " ++ e))))
  | .ok parsedSignature =>
    .ask (.signatureStatuses chainId parsedSignature) fun
      | .error e => .done (.error (.internal (.rpcError e)))
      | .ok statuses =>
        match statuses.head? with
        | some (some err) => .done (.ok (statusOfErr err))
        | some none | none =>
          (getStatusViaGetTransaction parsedSignature chainId).map (·.map (·.getD .pending))

/-- The signature that the wallet sent: in an object, or as it is. -/
def sentSignature (sendResult : String) : String :=
  match deps.signedTransactionResult sendResult with
  | some signature => signature
  | none => String.ofList (trim sendResult.toList)

/-- `check_transaction` on Solana. -/
def solanaCheckTransaction (sendResult : String) (chainId : Caip2ChainId) :
    Check CheckTransactionResult :=
  let signature := sentSignature deps sendResult
  (solanaGetTransactionStatus deps signature chainId).map
    (·.map (statusResult SupportedNamespaces.solana.defaultCheckIn signature))

/-- The status that a receipt of Tron tells. -/
def receiptStatus : Option TransactionReceipt → TransactionStatus
  | some ⟨some status⟩ =>
    match fromStrRadix16 (2 ^ 64) (trimHexPrefix status.toList) with
    | .ok statusValue => if statusValue = 1 then .confirmed else .failed
    | .error _ => .pending
  | some ⟨none⟩ | none => .pending

/-- What follows a broadcast. -/
def broadcastStatus (broadcastResp : BroadcastResult) : Except CheckPosTxError TransactionStatus :=
  if broadcastResp.result = none ∨ broadcastResp.result = some false then
    .error (.rpc (.internal ("Broadcast failed: " ++ broadcastResp.code.getD "" ++ " " ++
      broadcastResp.message.getD "")))
  else .ok .pending

/-- `get_transaction_status` on Tron. -/
def tronGetTransactionStatus (signedTx : SignedTransaction) (chainId : Caip2ChainId) :
    Check TransactionStatus :=
  .ask (.tronByHash chainId signedTx.txId) fun found =>
    match callJsonRpc found with
    | .error e => .done (.error (.rpc e))
    | .ok none =>
      match broadcastParams deps.json signedTx with
      | .error e => .done (.error (.rpc e))
      | .ok params =>
        .ask (.tronBroadcast chainId params) fun broadcast =>
          match callJsonRpc broadcast with
          | .error e => .done (.error (.rpc e))
          | .ok broadcastResp => .done (broadcastStatus broadcastResp)
    | .ok (some _) =>
      .ask (.tronReceipt chainId signedTx.txId) fun receipt =>
        match callJsonRpc receipt with
        | .error e => .done (.error (.rpc e))
        | .ok receiptOpt => .done (.ok (receiptStatus receiptOpt))

/-- `check_transaction` on Tron. -/
def tronCheckTransaction (response : String) (chainId : Caip2ChainId) :
    Check CheckTransactionResult :=
  match deps.signedTransaction response with
  | .error e =>
    .done (.error (.validation (.invalidWalletResponse ("Invalid wallet response: " ++ e))))
  | .ok signedTx =>
    (tronGetTransactionStatus deps signedTx chainId).map
      (·.map (statusResult SupportedNamespaces.tron.defaultCheckIn signedTx.txId))

/-- The check of a namespace. -/
def checkOn (n : SupportedNamespaces) (sendResult : String) (chainId : Caip2ChainId) :
    Check CheckTransactionResult :=
  match n with
  | .eip155 => evmCheckTransaction deps sendResult chainId
  | .solana => solanaCheckTransaction deps sendResult chainId
  | .tron => tronCheckTransaction deps sendResult chainId

/-- `Display for TransactionIdError`. -/
def TransactionIdError.display : TransactionIdError → String
  | .invalidFormat text => "Invalid transaction format: '" ++ text ++ "'"
  | .invalidChainId e => "Invalid chain ID: " ++ e.display

/-- `CheckTransactionParams`. -/
structure CheckTransactionParams where
  id : String
  sendResult : String

/-- The handler of `wc_pos_checkTransaction`. -/
def checkTransaction (engine : Base64Engine) (params : CheckTransactionParams) :
    Check CheckTransactionResult :=
  match TransactionId.tryFrom engine params.id with
  | .error e => .done (.error (.validation (.invalidTransactionId e.display)))
  | .ok transactionId =>
    match SupportedNamespaces.fromStr transactionId.chainId.namespace_.toList with
    | none => .done (.error (.validation (.invalidTransactionId variantNotFound)))
    | some n => checkOn deps n params.sendResult transactionId.chainId

end

/-! ## The chains: a world that only learns, and what its nodes answer -/

/-- What became of the transactions, on each chain. -/
structure Chains where
  evm : Caip2ChainId → B256 → Option Bool
  solana : Caip2ChainId → Signature → Option Bool
  tronKnown : Caip2ChainId → String → Bool
  tron : Caip2ChainId → String → Option TransactionReceipt

/-- What a chain has learned of a transaction stays. -/
structure Chains.Grows (w w' : Chains) : Prop where
  evm : ∀ {c txhash b}, w.evm c txhash = some b → w'.evm c txhash = some b
  solana : ∀ {c signature b}, w.solana c signature = some b → w'.solana c signature = some b
  tronKnown : ∀ {c txid}, w.tronKnown c txid = true → w'.tronKnown c txid = true
  tron : ∀ {c txid receipt}, w.tron c txid = some receipt → w'.tron c txid = some receipt

/-- **What an answer reports is so.**  It may be late, or an error instead. -/
def Truthful (w : Chains) : (m : ChainCall) → m.Reply → Prop
  | .evmReceipt c txhash, r => ∀ b, r = .ok (some b) → w.evm c txhash = some b
  | .signatureStatuses c signature, r => ∀ statuses err, r = .ok statuses →
      statuses.head? = some (some err) → w.solana c signature = some err.isNone
  | .getTransaction c signature, r => ∀ err, r = .ok (some err) →
      w.solana c signature = some err.isNone
  | .tronByHash c txid, r => ∀ v, r = .success (some v) → w.tronKnown c txid = true
  | .tronBroadcast _ _, _ => True
  | .tronReceipt c txid, r => ∀ receipt, r = .success (some receipt) → w.tron c txid = some receipt

/-- **A transaction is returned with its metadata.**  `meta` of the answer is nullable, and
    `get_status_via_get_transaction` says `Confirmed` without it. -/
def HasMetadata : (m : ChainCall) → m.Reply → Prop
  | .getTransaction _ _, r => r ≠ .ok none
  | _, _ => True

/-- **What is known is reported**, unless the answer is an error. -/
def Current (w : Chains) : (m : ChainCall) → m.Reply → Prop
  | .evmReceipt c txhash, r => ∀ b, r = .ok b → b = w.evm c txhash
  | .signatureStatuses c signature, r => ∀ statuses, r = .ok statuses →
      (w.solana c signature).isSome → ∃ err, statuses.head? = some (some err)
  | .getTransaction _ _, _ => True
  | .tronByHash c txid, r => ∀ v, r = .success v → w.tronKnown c txid = true → v.isSome
  | .tronBroadcast _ _, _ => True
  | .tronReceipt c txid, r => ∀ receipt, r = .success receipt → receipt = w.tron c txid

/-- Chains that only learn, asked through nodes that may lag, but keep the metadata. -/
def laggingChains : World Chains ChainCall ChainCall.Reply where
  Answers w m r w' := (Truthful w m r ∧ HasMetadata m r) ∧ w.Grows w'
  Moves w w' := w.Grows w'

/-- The same, asked through nodes that do not. -/
def currentChains : World Chains ChainCall ChainCall.Reply where
  Answers w m r w' := ((Truthful w m r ∧ HasMetadata m r) ∧ Current w m r) ∧ w.Grows w'
  Moves w w' := w.Grows w'

theorem Chains.Grows.refl (w : Chains) : w.Grows w := ⟨id, id, id, id⟩

theorem Chains.Grows.trans {w w' w'' : Chains} (h : w.Grows w') (h' : w'.Grows w'') :
    w.Grows w'' :=
  ⟨fun h₁ => h'.evm (h.evm h₁), fun h₁ => h'.solana (h.solana h₁),
    fun h₁ => h'.tronKnown (h.tronKnown h₁), fun h₁ => h'.tron (h.tron h₁)⟩

/-- A world whose every change is of a kind that composes. -/
theorem grows_of_later {world : World Chains ChainCall ChainCall.Reply} {w w' : Chains}
    (hchange : ∀ {w w'}, world.Changes w w' → w.Grows w') (h : world.Later w w') : w.Grows w' := by
  induction h with
  | refl => exact .refl _
  | tail _ hstep ih => exact ih.trans (hchange hstep)

theorem laggingChains_grows {w w' : Chains} (h : laggingChains.Later w w') : w.Grows w' := by
  refine grows_of_later (fun hchange => ?_) h
  cases hchange with
  | answer h => exact h.2
  | move h => exact h

theorem currentChains_grows {w w' : Chains} (h : currentChains.Later w w') : w.Grows w' := by
  refine grows_of_later (fun hchange => ?_) h
  cases hchange with
  | answer h => exact h.2
  | move h => exact h

/-! ## What a status is about -/

/-- A transaction, as its chain knows it. -/
inductive Subject where
  | evm (chainId : Caip2ChainId) (txhash : B256)
  | solana (chainId : Caip2ChainId) (signature : Signature)
  | tron (chainId : Caip2ChainId) (txid : String)
  deriving DecidableEq

/-- What became of the transaction, if a status is final. -/
def TransactionStatus.outcome : TransactionStatus → Option Bool
  | pending => none
  | confirmed => some true
  | failed => some false

/-- The chain has the transaction, and its outcome. -/
def Chains.Settled (w : Chains) : Subject → Bool → Prop
  | .evm c txhash, b => w.evm c txhash = some b
  | .solana c signature, b => w.solana c signature = some b
  | .tron c txid, b => w.tronKnown c txid = true ∧ (receiptStatus (w.tron c txid)).outcome = some b

section

variable (deps : CheckDeps)

/-- The transaction that a check on a chain is about. -/
def subjectOn (n : SupportedNamespaces) (sendResult : String) (chainId : Caip2ChainId) :
    Option Subject :=
  match n with
  | .eip155 => (deps.parseTxHash sendResult).toOption.map (.evm chainId)
  | .solana => (deps.parseSignature (sentSignature deps sendResult)).toOption.map (.solana chainId)
  | .tron => (deps.signedTransaction sendResult).toOption.map fun tx => .tron chainId tx.txId

/-- The transaction that a check is about. -/
def subject (engine : Base64Engine) (params : CheckTransactionParams) : Option Subject :=
  (TransactionId.tryFrom engine params.id).toOption.bind fun transactionId =>
    (SupportedNamespaces.fromStr transactionId.chainId.namespace_.toList).bind fun n =>
      subjectOn deps n params.sendResult transactionId.chainId

end

/-- **A status that is right**: if it is final, it is the outcome that the chain has. -/
def StatusTells (w : Chains) (about : Option Subject)
    (a : Except CheckPosTxError TransactionStatus) : Prop :=
  ∀ status, a = .ok status →
    ∃ s, about = some s ∧ ∀ b, status.outcome = some b → w.Settled s b

/-- **A result that is right**: with it goes the time of the next check as long as the transaction
    is pending, and its id unless it has failed. -/
def ResultTells (w : Chains) (about : Option Subject)
    (a : Except CheckPosTxError CheckTransactionResult) : Prop :=
  ∀ result, a = .ok result →
    (∃ s, about = some s ∧ ∀ b, result.status.outcome = some b → w.Settled s b) ∧
      (result.checkIn.isSome ↔ result.status = .pending) ∧
        (result.txid = none ↔ result.status = .failed)

variable {deps : CheckDeps} {w w' : Chains} {s : Subject} {b b' : Bool} {about : Option Subject}

theorem Chains.Grows.settled (h : w.Grows w') (hs : w.Settled s b) : w'.Settled s b := by
  cases s with
  | evm c txhash => exact h.evm hs
  | solana c signature => exact h.solana hs
  | tron c txid =>
    obtain ⟨hknown, houtcome⟩ := hs
    refine ⟨h.tronKnown hknown, ?_⟩
    cases hreceipt : w.tron c txid with
    | none =>
      rw [hreceipt] at houtcome
      cases houtcome
    | some receipt =>
      rw [h.tron hreceipt, ← hreceipt]
      exact houtcome

theorem Chains.Settled.unique (h : w.Settled s b) (h' : w.Settled s b') : b = b' := by
  cases s with
  | evm c txhash => exact Option.some.inj (h.symm.trans h')
  | solana c signature => exact Option.some.inj (h.symm.trans h')
  | tron c txid => exact Option.some.inj (h.2.symm.trans h'.2)

/-- What is returned with a status is right if the status is. -/
theorem resultTells_of_status {a : Except CheckPosTxError TransactionStatus} {checkIn : Nat}
    {txid : String} (h : StatusTells w about a) :
    ResultTells w about (a.map (statusResult checkIn txid)) := by
  intro result hresult
  obtain ⟨status, ha, rfl⟩ := Except.map_eq_ok.mp hresult
  cases status <;> exact ⟨h _ ha, by simp [statusResult], by simp [statusResult]⟩

theorem statusTells_error {e : CheckPosTxError} : StatusTells w about (.error e) :=
  fun _ h => nomatch h

theorem statusTells_ok {status : TransactionStatus}
    (h : ∀ b, status.outcome = some b → w.Settled s b) : StatusTells w (some s) (.ok status) := by
  intro status' hstatus
  cases hstatus
  exact ⟨s, rfl, h⟩

theorem outcome_statusOfErr (err : Option String) :
    (statusOfErr err).outcome = some err.isNone := by
  cases err <;> rfl

theorem callJsonRpc_eq_ok_iff {T : Type} {reply : HttpReply T} {result : T} :
    callJsonRpc reply = .ok result ↔ reply = .success result := by
  cases reply with
  | success r =>
    rw [callJsonRpc, Except.ok.injEq, HttpReply.success.injEq]
  | status code shown errorBody =>
    rw [callJsonRpc]
    split <;> exact ⟨nofun, nofun⟩
  | error code message =>
    rw [callJsonRpc]
    split
    · exact ⟨nofun, nofun⟩
    · split <;> exact ⟨nofun, nofun⟩
  | notSent e => exact ⟨nofun, nofun⟩
  | unparsed e => exact ⟨nofun, nofun⟩

/-! ## What each check keeps to, question by question -/

/-- On EVM chains the receipt decides. -/
theorem evmStatus_tells (txid : String) (c : Caip2ChainId) (w : Chains) :
    Keeps laggingChains (fun _ _ => True)
      (fun w a => StatusTells w ((deps.parseTxHash txid).toOption.map (.evm c)) a)
      (evmGetTransactionStatus deps txid c) w := by
  unfold evmGetTransactionStatus
  split
  · exact fun _ _ => statusTells_error
  · split
    · exact fun _ _ => statusTells_error
    · next txhash htxhash =>
      rw [htxhash]
      rintro w₁ -
      refine ⟨trivial, fun r w₂ ⟨⟨htruth, _⟩, hgrows⟩ => ?_⟩
      match r with
      | .error e => exact fun _ _ => statusTells_error
      | .ok none => exact fun _ _ => statusTells_ok nofun
      | .ok (some true) =>
        refine fun w' hw' => statusTells_ok fun b hb => ?_
        cases hb
        exact (hgrows.trans (laggingChains_grows hw')).evm (htruth true rfl)
      | .ok (some false) =>
        refine fun w' hw' => statusTells_ok fun b hb => ?_
        cases hb
        exact (hgrows.trans (laggingChains_grows hw')).evm (htruth false rfl)

/-- The status of a Solana transaction, by its error. -/
theorem statusTells_of_err {c : Caip2ChainId} {signature : Signature} {err : Option String}
    (h : w.solana c signature = some err.isNone) :
    StatusTells w (some (.solana c signature)) (.ok (statusOfErr err)) := by
  refine statusTells_ok fun b hb => ?_
  rw [outcome_statusOfErr] at hb
  exact h.trans hb

/-- On Solana the status of the signature decides, or else the transaction. -/
theorem solanaStatus_tells (signature : String) (c : Caip2ChainId) (w : Chains) :
    Keeps laggingChains (fun _ _ => True)
      (fun w a => StatusTells w ((deps.parseSignature signature).toOption.map (.solana c)) a)
      (solanaGetTransactionStatus deps signature c) w := by
  unfold solanaGetTransactionStatus
  split
  · exact fun _ _ => statusTells_error
  · next parsedSignature hparsed =>
    rw [hparsed]
    have hfallback (w : Chains) : Keeps laggingChains (fun _ _ => True)
        (fun w a => StatusTells w (some (.solana c parsedSignature)) a)
        ((getStatusViaGetTransaction parsedSignature c).map (·.map (·.getD .pending))) w := by
      refine Keeps.map fun w₁ _ => ⟨trivial, fun r w₂ ⟨⟨htruth, hmeta⟩, hgrows⟩ => ?_⟩
      match r with
      | .error e => exact fun _ _ => statusTells_ok nofun
      -- this would be taken for confirmed
      | .ok none => exact absurd rfl hmeta
      | .ok (some err) =>
        exact fun w' hw' => statusTells_of_err
          ((hgrows.trans (laggingChains_grows hw')).solana (htruth err rfl))
    rintro w₁ -
    refine ⟨trivial, fun r w₂ ⟨⟨htruth, _⟩, hgrows⟩ => ?_⟩
    match r with
    | .error e => exact fun _ _ => statusTells_error
    | .ok statuses =>
      dsimp only
      split
      · next err hhead =>
        exact fun w' hw' => statusTells_of_err
          ((hgrows.trans (laggingChains_grows hw')).solana (htruth statuses err rfl hhead))
      · exact hfallback w₂
      · exact hfallback w₂

/-- On Tron the receipt decides, once the chain has the transaction. -/
theorem tronStatus_tells (signedTx : SignedTransaction) (c : Caip2ChainId) (w : Chains) :
    Keeps laggingChains (fun _ _ => True)
      (fun w a => StatusTells w (some (.tron c signedTx.txId)) a)
      (tronGetTransactionStatus deps signedTx c) w := by
  rintro w₁ -
  refine ⟨trivial, fun found w₂ ⟨⟨htruth, _⟩, hgrows⟩ => ?_⟩
  dsimp only
  split
  · -- no answer
    exact fun _ _ => statusTells_error
  · -- the chain does not know the transaction: it is broadcast, if its parameters can be written
    split
    · exact fun _ _ => statusTells_error
    · rintro w₃ -
      refine ⟨trivial, fun broadcast w₄ _ => ?_⟩
      dsimp only
      split
      · exact fun _ _ => statusTells_error
      · -- after a broadcast nothing is final
        rintro w' - status hstatus
        rw [broadcastStatus] at hstatus
        split at hstatus
        · cases hstatus
        · cases hstatus
          exact ⟨_, rfl, nofun⟩
  · -- the chain knows it, and is asked for the receipt
    next v hfound =>
    have hknown := htruth v (callJsonRpc_eq_ok_iff.mp hfound)
    intro w₃ hw₃
    refine ⟨trivial, fun receipt w₄ ⟨⟨htruth', _⟩, hgrows'⟩ => ?_⟩
    dsimp only
    split
    · exact fun _ _ => statusTells_error
    · next receiptOpt hreceipt =>
      refine fun w' hw' => statusTells_ok fun b hb => ?_
      have hlater : w₃.Grows w' := hgrows'.trans (laggingChains_grows hw')
      refine hlater.settled ⟨(laggingChains_grows hw₃).tronKnown (hgrows.tronKnown hknown), ?_⟩
      cases receiptOpt with
      | none => cases hb
      | some receipt =>
        rw [htruth' receipt (callJsonRpc_eq_ok_iff.mp hreceipt)]
        exact hb

/-- **What a check tells**, on any chain. -/
theorem checkOn_tells (n : SupportedNamespaces) (sendResult : String) (c : Caip2ChainId)
    (w : Chains) :
    Keeps laggingChains (fun _ _ => True)
      (fun w a => ResultTells w (subjectOn deps n sendResult c) a)
      (checkOn deps n sendResult c) w := by
  cases n with
  | eip155 =>
    exact ((evmStatus_tells sendResult c w).imp fun _ _ h => resultTells_of_status h).map
  | solana =>
    exact ((solanaStatus_tells (sentSignature deps sendResult) c w).imp
      fun _ _ h => resultTells_of_status h).map
  | tron =>
    show Keeps _ _ (fun w a => ResultTells w ((deps.signedTransaction sendResult).toOption.map
      fun tx => .tron c tx.txId) a) (tronCheckTransaction deps sendResult c) w
    unfold tronCheckTransaction
    split
    · exact fun _ _ _ h => nomatch h
    · next signedTx hsigned =>
      rw [hsigned]
      exact ((tronStatus_tells signedTx c w).imp fun _ _ h => resultTells_of_status h).map

theorem checkTransaction_tells (engine : Base64Engine) (params : CheckTransactionParams)
    (w : Chains) :
    Keeps laggingChains (fun _ _ => True)
      (fun w a => ResultTells w (subject deps engine params) a)
      (checkTransaction deps engine params) w := by
  unfold checkTransaction subject
  split
  · exact fun _ _ _ h => nomatch h
  · next transactionId hid =>
    rw [hid]
    dsimp only [Except.toOption, Option.bind_some]
    split
    · exact fun _ _ _ h => nomatch h
    · next n hn =>
      rw [hn]
      exact checkOn_tells n params.sendResult transactionId.chainId w

/-! ## Once a transaction is settled, for nodes that do not lag -/

/-- Does the check broadcast? -/
def ChainCall.isBroadcast : ChainCall → Bool
  | .tronBroadcast _ _ => true
  | _ => false

/-- The status of a settled transaction is its outcome, on EVM chains … -/
theorem evmStatus_settled {txid : String} {txhash : B256} {c : Caip2ChainId}
    (htxhash : deps.parseTxHash txid = .ok txhash) (hw : w.Settled (.evm c txhash) b) :
    Keeps currentChains (fun _ m => m.isBroadcast = false)
      (fun _ a => ∀ status, a = .ok status → status.outcome = some b)
      (evmGetTransactionStatus deps txid c) w := by
  unfold evmGetTransactionStatus
  rw [htxhash]
  split
  · exact fun _ _ _ h => nomatch h
  · intro w₁ hw₁
    refine ⟨rfl, fun r w₂ ⟨⟨_, hcurrent⟩, _⟩ => ?_⟩
    have houtcome : w₁.evm c txhash = some b := (currentChains_grows hw₁).evm hw
    match r with
    | .error e => exact fun _ _ _ h => nomatch h
    | .ok reported =>
      rw [hcurrent reported rfl, houtcome]
      cases b with
      | false =>
        rintro w' - status hstatus
        cases hstatus
        rfl
      | true =>
        rintro w' - status hstatus
        cases hstatus
        rfl

/-- … on Solana … -/
theorem solanaStatus_settled {text : String} {signature : Signature} {c : Caip2ChainId}
    (hsignature : deps.parseSignature text = .ok signature)
    (hw : w.Settled (.solana c signature) b) :
    Keeps currentChains (fun _ m => m.isBroadcast = false)
      (fun _ a => ∀ status, a = .ok status → status.outcome = some b)
      (solanaGetTransactionStatus deps text c) w := by
  unfold solanaGetTransactionStatus
  rw [hsignature]
  intro w₁ hw₁
  refine ⟨rfl, fun r w₂ ⟨⟨⟨htruth, _⟩, hcurrent⟩, _⟩ => ?_⟩
  have houtcome : w₁.solana c signature = some b := (currentChains_grows hw₁).solana hw
  match r with
  | .error e => exact fun _ _ _ h => nomatch h
  | .ok statuses =>
    obtain ⟨err, hhead⟩ := hcurrent statuses rfl (by rw [houtcome]; rfl)
    dsimp only
    rw [hhead]
    rintro w' - status hstatus
    cases hstatus
    rw [outcome_statusOfErr, ← htruth statuses err rfl hhead, houtcome]

/-- … and on Tron, where it is not broadcast again. -/
theorem tronStatus_settled {signedTx : SignedTransaction} {c : Caip2ChainId}
    (hw : w.Settled (.tron c signedTx.txId) b) :
    Keeps currentChains (fun _ m => m.isBroadcast = false)
      (fun _ a => ∀ status, a = .ok status → status.outcome = some b)
      (tronGetTransactionStatus deps signedTx c) w := by
  intro w₁ hw₁
  refine ⟨rfl, fun found w₂ ⟨⟨_, hcurrent⟩, hgrows⟩ => ?_⟩
  have hw₁ := (currentChains_grows hw₁).settled hw
  dsimp only
  split
  · exact fun _ _ _ h => nomatch h
  · next hfound =>
    -- the chain has the transaction, and the node says so
    have hreported := hcurrent none (callJsonRpc_eq_ok_iff.mp hfound) hw₁.1
    cases hreported
  · intro w₃ hw₃
    refine ⟨rfl, fun receipt w₄ ⟨⟨_, hcurrent'⟩, _⟩ => ?_⟩
    have hw₃ := (hgrows.trans (currentChains_grows hw₃)).settled hw₁
    dsimp only
    split
    · exact fun _ _ _ h => nomatch h
    · next receiptOpt hreceipt =>
      rintro w' - status hstatus
      cases hstatus
      rw [hcurrent' receiptOpt (callJsonRpc_eq_ok_iff.mp hreceipt)]
      exact hw₃.2

/-- What is returned has the outcome of its status. -/
theorem outcome_map_statusResult {checkIn : Nat} {txid : String}
    {a : Except CheckPosTxError TransactionStatus}
    (h : ∀ status, a = .ok status → status.outcome = some b) :
    ∀ result, a.map (statusResult checkIn txid) = .ok result →
      result.status.outcome = some b := by
  intro result hresult
  obtain ⟨status, ha, rfl⟩ := Except.map_eq_ok.mp hresult
  have hstatus := h status ha
  cases status <;> exact hstatus

/-- **A check of a settled transaction** reports its outcome, and broadcasts nothing. -/
theorem checkOn_settled {n : SupportedNamespaces} {sendResult : String} {c : Caip2ChainId}
    (habout : subjectOn deps n sendResult c = some s) (hw : w.Settled s b) :
    Keeps currentChains (fun _ m => m.isBroadcast = false)
      (fun _ a => ∀ result, a = .ok result → result.status.outcome = some b)
      (checkOn deps n sendResult c) w := by
  cases n with
  | eip155 =>
    obtain ⟨txhash, htxhash, rfl⟩ := Option.map_eq_some_iff.mp habout
    exact ((evmStatus_settled (Except.toOption_eq_some.mp htxhash) hw).imp
      fun _ _ => outcome_map_statusResult).map
  | solana =>
    obtain ⟨signature, hsignature, rfl⟩ := Option.map_eq_some_iff.mp habout
    exact ((solanaStatus_settled (Except.toOption_eq_some.mp hsignature) hw).imp
      fun _ _ => outcome_map_statusResult).map
  | tron =>
    obtain ⟨signedTx, hsigned, rfl⟩ := Option.map_eq_some_iff.mp habout
    show Keeps _ _ _ (tronCheckTransaction deps sendResult c) w
    unfold tronCheckTransaction
    rw [Except.toOption_eq_some.mp hsigned]
    exact ((tronStatus_settled hw).imp fun _ _ => outcome_map_statusResult).map

theorem checkTransaction_settled {engine : Base64Engine} {params : CheckTransactionParams}
    (habout : subject deps engine params = some s) (hw : w.Settled s b) :
    Keeps currentChains (fun _ m => m.isBroadcast = false)
      (fun _ a => ∀ result, a = .ok result → result.status.outcome = some b)
      (checkTransaction deps engine params) w := by
  obtain ⟨transactionId, hid, habout⟩ := Option.bind_eq_some_iff.mp habout
  obtain ⟨n, hn, habout⟩ := Option.bind_eq_some_iff.mp habout
  unfold checkTransaction
  rw [Except.toOption_eq_some.mp hid]
  dsimp only
  rw [hn]
  exact checkOn_settled habout hw

theorem evmCheckTransaction_broadcasts (txhash : String) (c : Caip2ChainId) :
    AtMost ChainCall.isBroadcast (evmCheckTransaction deps txhash c) 1 := by
  refine AtMost.map ?_
  unfold evmGetTransactionStatus
  split
  · trivial
  · split
    · trivial
    · refine ⟨nofun, fun receipt => ?_⟩
      dsimp only
      split <;> trivial

theorem getStatusViaGetTransaction_broadcasts (signature : Signature) (c : Caip2ChainId) :
    AtMost ChainCall.isBroadcast (getStatusViaGetTransaction signature c) 1 := by
  refine ⟨nofun, fun found => ?_⟩
  dsimp only
  split <;> trivial

theorem solanaCheckTransaction_broadcasts (sendResult : String) (c : Caip2ChainId) :
    AtMost ChainCall.isBroadcast (solanaCheckTransaction deps sendResult c) 1 := by
  refine AtMost.map ?_
  unfold solanaGetTransactionStatus
  split
  · trivial
  · refine ⟨nofun, fun statuses => ?_⟩
    dsimp only
    split
    · trivial
    · split
      · trivial
      · exact (getStatusViaGetTransaction_broadcasts ..).map
      · exact (getStatusViaGetTransaction_broadcasts ..).map

/-- A Tron transaction that is not found is broadcast, and then it is not asked for again. -/
theorem tronCheckTransaction_broadcasts (sendResult : String) (c : Caip2ChainId) :
    AtMost ChainCall.isBroadcast (tronCheckTransaction deps sendResult c) 1 := by
  unfold tronCheckTransaction
  split
  · trivial
  · refine AtMost.map ⟨nofun, fun found => ?_⟩
    dsimp only
    split
    · trivial
    · split
      · trivial
      · refine ⟨fun _ => Nat.one_pos, fun broadcast => ?_⟩
        dsimp only
        split <;> trivial
    · refine ⟨nofun, fun receipt => ?_⟩
      dsimp only
      split <;> trivial

/-- A check broadcasts once at most. -/
theorem checkTransaction_broadcasts_once (engine : Base64Engine) (params : CheckTransactionParams) :
    AtMost ChainCall.isBroadcast (checkTransaction deps engine params) 1 := by
  unfold checkTransaction
  split
  · trivial
  · split
    · trivial
    · next n hn =>
      cases n with
      | eip155 => exact evmCheckTransaction_broadcasts ..
      | solana => exact solanaCheckTransaction_broadcasts ..
      | tron => exact tronCheckTransaction_broadcasts ..

/-! ## Runs of checks: any number at once -/

/-- The chains, and the checks so far. -/
abbrev CheckState :=
  State Chains CheckTransactionParams ChainCall ChainCall.Reply
    (Except CheckPosTxError CheckTransactionResult)

/-- The check at a place has returned a result. -/
def Returned (t : CheckState) (j : Nat) (params : CheckTransactionParams)
    (result : CheckTransactionResult) : Prop :=
  t.calls[j]? = some (params, .done (.ok result))

variable {engine : Base64Engine} {w₀ : Chains} {t u : CheckState}

/-- What a check has returned is right. -/
theorem resultTells_of_run (hrun : Run laggingChains (checkTransaction deps engine) (.start w₀) t)
    {j : Nat} {params : CheckTransactionParams} {result : CheckTransactionResult}
    (hj : Returned t j params result) :
    (∃ about, subject deps engine params = some about ∧
      ∀ b, result.status.outcome = some b → t.world.Settled about b) ∧
    (result.checkIn.isSome ↔ result.status = .pending) ∧
      (result.txid = none ↔ result.status = .failed) :=
  tells_run (fun q w _ => checkTransaction_tells engine q w) hrun (Nat.zero_le j) hj result rfl

theorem laggingRun_of_current {program : CheckTransactionParams → Check CheckTransactionResult}
    (h : Run currentChains program t u) : Run laggingChains program t u := by
  have hanswers {w : Chains} {m : ChainCall} {r : m.Reply} {w' : Chains}
      (h : currentChains.Answers w m r w') : laggingChains.Answers w m r w' := ⟨h.1.1, h.2⟩
  exact h.mono hanswers id

/-- A check of a transaction that was built asks the chain of its asset. -/
theorem checkTransaction_built {c : Caip2ChainId} {n : SupportedNamespaces} {uuid : Uuid}
    (hn : c.namespace_ = n.display) (sendResult : String) :
    let params : CheckTransactionParams :=
      ⟨(TransactionId.new uuid c).display TransactionId.standardNoPad, sendResult⟩
    checkTransaction deps TransactionId.standardNoPad params = checkOn deps n sendResult c ∧
      subject deps TransactionId.standardNoPad params = subjectOn deps n sendResult c := by
  intro params
  have hid : TransactionId.tryFrom TransactionId.standardNoPad params.id =
      .ok (TransactionId.new uuid c) :=
    (TransactionId.tryFrom_eq_ok_iff TransactionId.standardNoPad_canonical).mpr ⟨rfl, rfl⟩
  have hnamespace : SupportedNamespaces.fromStr (TransactionId.new uuid c).chainId.namespace_.toList
      = some n := SupportedNamespaces.fromStr_eq_some_iff.mpr (congrArg String.toList hn)
  constructor
  · unfold checkTransaction
    rw [hid]
    dsimp only
    rw [hnamespace]
    rfl
  · unfold subject
    rw [hid]
    show (SupportedNamespaces.fromStr _).bind _ = _
    rw [hnamespace]
    rfl

/-! ## A transaction on Tron -/

/-- The wallet sends one transaction, whatever it is asked. -/
def demoCheckDeps : CheckDeps where
  getProvider _ := .ok ()
  parseTxHash _ := .error "invalid string length"
  parseSignature _ := .error "failed to decode string to signature"
  signedTransactionResult _ := none
  signedTransaction _ := .ok quotedTransaction
  json := quotedJson

/-- This transaction has succeeded. -/
def demoSettledChains : Chains where
  evm _ _ := none
  solana _ _ := none
  tronKnown _ _ := true
  tron _ _ := some ⟨some "0x1"⟩

/-- A check of it has come in, and has been answered. -/
def answered (params : CheckTransactionParams) (c : Caip2ChainId) (t : CheckState) :
    CheckState where
  world := demoSettledChains
  calls := t.calls ++ [(params, .done (.ok ⟨.confirmed, none, some "7c2d"⟩))]
  asked := t.asked ++ [(t.calls.length, .tronByHash c "7c2d")] ++
    [(t.calls.length, .tronReceipt c "7c2d")]

theorem run_answered {params : CheckTransactionParams} {c : Caip2ChainId}
    (ht : t.world = demoSettledChains)
    (hprogram : checkTransaction demoCheckDeps engine params = checkOn demoCheckDeps .tron "" c) :
    Run currentChains (checkTransaction demoCheckDeps engine) t (answered params c t) := by
  obtain ⟨world, calls, asked⟩ := t
  obtain rfl : world = demoSettledChains := ht
  refine (run_receive _ _ _ params).trans ?_
  rw [hprogram]
  have hreported : currentChains.Answers demoSettledChains (.tronByHash c "7c2d")
      (.success (some (.bool true))) demoSettledChains :=
    ⟨⟨⟨fun _ _ => rfl, trivial⟩, fun _ h _ => by cases h; rfl⟩, .refl _⟩
  have hreceipt : currentChains.Answers demoSettledChains (.tronReceipt c "7c2d")
      (.success (some ⟨some "0x1"⟩)) demoSettledChains :=
    ⟨⟨⟨fun _ h => by cases h; rfl, trivial⟩, fun _ h => by cases h; rfl⟩, .refl _⟩
  refine (run_answer_last rfl hreported rfl).trans ?_
  exact run_answer_last rfl hreceipt rfl

/-- The chain. -/
def demoTron : Caip2ChainId := ⟨"tron", "0x2b6653dc", by decide, by decide⟩

/-- A check of the transaction. -/
def demoCheck : CheckTransactionParams :=
  ⟨(TransactionId.new (.ofNat 16 7) demoTron).display TransactionId.standardNoPad, ""⟩

theorem run_demoCheck (ht : t.world = demoSettledChains) :
    Run currentChains (checkTransaction demoCheckDeps TransactionId.standardNoPad) t
      (answered demoCheck demoTron t) :=
  run_answered ht (checkTransaction_built rfl "").1

/-! ## Every run: from one check to all of them -/

/-- **A check tells what became of the transaction.**  In every run, whatever the checks and the
    chains do in between, and however late the nodes are, as long as they return transactions with
    their metadata: a final status is the outcome that the chain has, so two checks of one
    transaction never report different ones.  With the result goes the time of the next check
    exactly if the transaction is pending, and no id exactly if it has failed. -/
theorem check_tells_the_chain
    (hrun : Run laggingChains (checkTransaction deps engine) (.start w₀) t) :
    (∀ j params result, Returned t j params result →
      (∃ about, subject deps engine params = some about ∧
        ∀ b, result.status.outcome = some b → t.world.Settled about b) ∧
      (result.checkIn.isSome ↔ result.status = .pending) ∧
        (result.txid = none ↔ result.status = .failed)) ∧
    ∀ i j params params' result result' b b', Returned t i params result →
      Returned t j params' result' → subject deps engine params = subject deps engine params' →
        result.status.outcome = some b → result'.status.outcome = some b' → b = b' := by
  refine ⟨fun j params result hj => resultTells_of_run hrun hj, ?_⟩
  intro i j params params' result result' b b' hi hj hsame hb hb'
  obtain ⟨⟨about, habout, hsettled⟩, -⟩ := resultTells_of_run hrun hi
  obtain ⟨⟨about', habout', hsettled'⟩, -⟩ := resultTells_of_run hrun hj
  rw [hsame, habout'] at habout
  cases habout
  exact (hsettled b hb).unique (hsettled' b' hb')

/-- The check says that the transaction has succeeded, and it has. -/
theorem check_tells_the_chain_tron :
    ∃ t, Returned t 0 demoCheck ⟨.confirmed, none, some "7c2d"⟩ ∧
      ∃ about, subject demoCheckDeps TransactionId.standardNoPad demoCheck = some about ∧
        t.world.Settled about true := by
  have hrun := laggingRun_of_current (run_demoCheck (t := .start demoSettledChains) rfl)
  obtain ⟨⟨about, habout, hsettled⟩, -⟩ := (check_tells_the_chain hrun).1 0 demoCheck _ rfl
  exact ⟨answered demoCheck demoTron (.start demoSettledChains), rfl, about, habout,
    hsettled true rfl⟩

theorem status_eq_of_outcome {status status' : TransactionStatus} (h : status.outcome = some b)
    (h' : status'.outcome = some b) : status' = status := by
  cases status <;> cases status' <;> cases h <;> cases h' <;> rfl

/-- **From the intent to the outcome.**  The transactions of a request that succeeded are checked on
    the chain of the asset they pay with, in the way of its namespace: if a check of one of them
    reports a final status, it is what became of the sent transaction on that chain. -/
theorem payment_settles {k : Checksums} {p : AddressParsers} {calls : BuildCalls}
    {intents : List PaymentIntent} {built : BuildTransactionResult}
    (hbuilt : buildTransactions k p TransactionId.standardNoPad calls intents = .ok built)
    (hrun : Run laggingChains (checkTransaction deps TransactionId.standardNoPad) (.start w₀) t)
    {i j : Nat} {intent : PaymentIntent} {tx : TransactionRpc} {sendResult : String}
    {result : CheckTransactionResult} (hintent : intents[i]? = some intent)
    (htx : built.transactions[i]? = some tx)
    (hj : Returned t j ⟨tx.id, sendResult⟩ result) :
    ∃ payment about, Pays k (calls.services i) intent tx payment ∧
      subjectOn deps payment.namespace_ sendResult payment.asset.chainId = some about ∧
        ∀ b, result.status.outcome = some b → t.world.Settled about b := by
  obtain ⟨payment, hpays, hid⟩ := pays_of_buildTransactionForIntent
    ((getElem?_of_buildTransactions hbuilt).2 hintent htx)
  obtain ⟨⟨about, habout, hsettled⟩, -⟩ := resultTells_of_run hrun hj
  rw [hid, (checkTransaction_built hpays.namespace_ sendResult).2] at habout
  exact ⟨payment, about, hpays, habout, hsettled⟩

/-- What is answered to the payment: each call needs one unit of gas. -/
def demoServices : Services where
  evm _ := ⟨demoEvmDeps, .error "no fees", fun _ _ => .error "no gas"⟩
  solana _ := ⟨demoSolanaAmountDeps, .error "no blockhash", fun _ _ _ => .error "no accounts",
    fun _ => .error "too long", fun _ => ""⟩
  tron _ := ⟨demoTronDeps, fun _ => .ok "0x1", .ok "0x1", fun _ => .ok quotedTransaction⟩

/-- A payment in a token. -/
def demoIntent : PaymentIntent where
  asset := "tron:0x2b6653dc/trc20:TR7NHqjeKQxGTCi8q8ZY4pL8otSzgjLj6t"
  amount := "1.5"
  recipient := "tron:0x2b6653dc:TXYZopYRdj2D9XRtbG411XZZ3kM5VkAeBf"
  sender := "tron:0x2b6653dc:TJRabPrwbZy45sbavfcjinPJC18kjpRTv8"

/-- The request with it. -/
def demoCalls : BuildCalls := ⟨fun _ => demoServices, fun _ => .ofNat 16 7, [0]⟩

/-- The wallet sends the transaction, and the check says that it has succeeded. -/
theorem payment_settles_tron :
    ∃ built tx, buildTransactions demoChecksums hexParsers TransactionId.standardNoPad demoCalls
        [demoIntent] = .ok built ∧ built.transactions[0]? = some tx ∧
      ∃ payment about, Pays demoChecksums demoServices demoIntent tx payment ∧
        subjectOn demoCheckDeps payment.namespace_ "" payment.asset.chainId = some about ∧
          demoSettledChains.Settled about true := by
  have hok : (buildTransactions demoChecksums hexParsers TransactionId.standardNoPad demoCalls
      [demoIntent]).isOk = true := by decide +kernel
  obtain ⟨built, hbuilt⟩ := Outcome.isOk_iff.mp hok
  have hlength := (getElem?_of_buildTransactions hbuilt).1
  obtain ⟨tx, htx⟩ : ∃ tx, built.transactions[0]? = some tx :=
    ⟨_, List.getElem?_eq_getElem (by rw [hlength]; exact Nat.one_pos)⟩
  -- the transaction is checked on Tron
  have hintent : [demoIntent][0]? = some demoIntent := rfl
  obtain ⟨payment, hpays, hid⟩ := pays_of_buildTransactionForIntent
    ((getElem?_of_buildTransactions hbuilt).2 hintent htx)
  have hnamespace : (Caip19Asset.parse demoChecksums demoIntent.asset).map (·.chainId.namespace_) =
      .ok "tron" := by decide +kernel
  rw [hpays.asset] at hnamespace
  have htron : SupportedNamespaces.tron = payment.namespace_ := by
    have hdisplay := hpays.namespace_.symm.trans (Except.ok.inj hnamespace)
    cases hn : payment.namespace_ with
    | tron => rfl
    | eip155 => exact absurd (hn ▸ hdisplay) (by decide)
    | solana => exact absurd (hn ▸ hdisplay) (by decide)
  have hprogram : checkTransaction demoCheckDeps TransactionId.standardNoPad ⟨tx.id, ""⟩ =
      checkOn demoCheckDeps .tron "" payment.asset.chainId := by
    rw [hid, htron]
    exact (checkTransaction_built hpays.namespace_ "").1
  have hrun := laggingRun_of_current
    (run_answered (t := .start demoSettledChains) rfl hprogram)
  have hreturned : Returned
      (answered ⟨tx.id, ""⟩ payment.asset.chainId (.start demoSettledChains)) 0 ⟨tx.id, ""⟩
      ⟨.confirmed, none, some "7c2d"⟩ := rfl
  obtain ⟨payment', about, hpays', habout, hsettled⟩ :=
    payment_settles hbuilt hrun hintent htx hreturned
  exact ⟨built, tx, hbuilt, htx, payment', about, hpays', habout, hsettled true rfl⟩

end BlockchainApi.Pos
