/-
  The execution batch of a user operation (`src/utils/sessions.rs`).

  The co-signer reads the executions out of the ERC-7579 `execute(bytes32 mode, bytes calldata)`
  call of the user operation.  The first byte of the mode word is the call type: a single execution
  is packed (`target ‖ value ‖ data`), a batch is an ABI array of triples.

  1. **The extractor.** `extractExecutionBatchComponents` decodes the call and looks at its call
     type.  `extract_eq_ok_iff` says exactly what it accepts: call type `0x00` is one packed
     execution, any other call type is a batch, static calls and delegate calls included.

  2. **Well-laid-out calls.** The executions of a call in batch or in single mode are returned as
     they are (`extract_batchCalldata`, `extract_singleCalldata`): the packed layout is read field
     by field, and the array by its codec.

  3. **Foreign call types.** A calldata is read as it declares exactly when its call type is not a
     foreign one whose data happens to decode as a batch (`readAsDeclared_iff`).  `extract_exact` is
     both directions together.

  The codecs of the contract-binding crates are parameters with laws; `standardExecuteCodecs` is the
  contract ABI, which satisfies them, and a delegate call that is read as a batch under it.
-/
import BlockchainApi.Error
import BlockchainApi.Lib.Outcome

namespace BlockchainApi

open ByteCodec

/-- `ExecutionTransaction`. -/
structure ExecutionTransaction where
  address : Address
  value : U256
  callData : Bytes
  deriving DecidableEq

/-- `Safe7579::executeCall`: the arguments of `execute`. -/
structure ExecuteCall where
  mode : B256
  executionCalldata : Bytes

/-- What the extractor takes from the contract-binding crates. -/
structure ExecuteCodecs where
  /-- `Safe7579::executeCall::SELECTOR`. -/
  selector : FixedBytes 4
  /-- `Safe7579::executeCall`, with its selector in front. -/
  executeCall : AbiCodec ExecuteCall
  /-- `BatchTransactionType`, `(address, uint256, bytes)[]`. -/
  batch : AbiCodec (List (Address × U256 × Bytes))

/-- What the crates promise about these codecs. -/
structure ExecuteCodecs.Lawful (c : ExecuteCodecs) : Prop where
  executeCall_roundTrips : c.executeCall.RoundTrips
  batch_roundTrips : c.batch.RoundTrips
  /-- Decoding a call checks its selector first. -/
  selector_of_decode : ∀ {calldata call}, c.executeCall.decode calldata = .ok call →
    c.selector.bytes <+: calldata

/-- Byte `i` of a mode word. -/
def modeByte (mode : B256) (i : Nat) : UInt8 := mode.bytes.getD i 0

/-- One entry of a decoded batch. -/
def ExecutionTransaction.ofTriple (t : Address × U256 × Bytes) : ExecutionTransaction :=
  { address := t.1, value := t.2.1, callData := t.2.2 }

/-- `extract_execution_batch_components`. -/
def extractExecutionBatchComponents (c : ExecuteCodecs) (callDataBytes : Bytes) :
    Outcome RpcError (List ExecutionTransaction) := do
  let executeCall ← Outcome.ofExcept
    (fun e => RpcError.abiDecodingError ("Failed to decode executeCall: " ++ e))
    (c.executeCall.decode callDataBytes)
  let batchFlag := modeByte executeCall.mode 0
  let isBatch := batchFlag != 0
  if isBatch then do
    let batchTransactions ← Outcome.ofExcept
      (fun e => RpcError.abiDecodingError ("Failed to decode batch transactions ABI type: " ++ e))
      (c.batch.decode executeCall.executionCalldata)
    return batchTransactions.map ExecutionTransaction.ofTriple
  else if h : executeCall.executionCalldata.length < 20 + 32 then
    -- single transaction: too short for the packed layout
    .err (.abiDecodingError "executionCalldata is too short for a single transaction")
  else
    return [{
      address := FixedBytes.front 20 executeCall.executionCalldata (by omega)
      value := BitVec.ofNat 256 (ofBe ((executeCall.executionCalldata.drop 20).take 32))
      callData := executeCall.executionCalldata.drop 52 }]

/-- `extract_contract_call_addresses_from_execution_batch`. -/
def extractContractCallAddressesFromExecutionBatch (batch : List ExecutionTransaction) :
    List Address :=
  (batch.filter fun tx => !tx.callData.isEmpty).map fun tx => tx.address

/-- `extract_values_sum_from_execution_batch`: a fold of wrapping additions, so the total is one
    modulo `2 ^ 256`. -/
def extractValuesSumFromExecutionBatch (batch : List ExecutionTransaction) : U256 :=
  (batch.map fun tx => tx.value).foldl (fun acc x => acc + x) 0

/-! ## The packed layout of a single execution: twenty bytes, a word, the rest -/

/-- `target ‖ value ‖ data`. -/
def packedExecution (e : ExecutionTransaction) : Bytes :=
  e.address.bytes ++ (toBe 32 e.value.toNat ++ e.callData)

theorem length_packedExecution (e : ExecutionTransaction) :
    (packedExecution e).length = 52 + e.callData.length := by
  rw [packedExecution, List.length_append, List.length_append, e.address.length_eq, length_toBe]
  omega

/-- Reading a packed execution back, field by field. -/
theorem unpack_packedExecution (e : ExecutionTransaction) (h : 20 ≤ (packedExecution e).length) :
    ({ address := FixedBytes.front 20 (packedExecution e) h
       value := BitVec.ofNat 256 (ofBe (((packedExecution e).drop 20).take 32))
       callData := (packedExecution e).drop 52 } : ExecutionTransaction) = e := by
  have hdrop : (packedExecution e).drop 20 = toBe 32 e.value.toNat ++ e.callData :=
    FixedBytes.drop_bytes_append e.address _
  have hvalue : ((packedExecution e).drop 20).take 32 = toBe 32 e.value.toNat := by
    rw [hdrop, List.take_left' (length_toBe 32 _)]
  have hdata : (packedExecution e).drop 52 = e.callData := by
    have hsplit : (packedExecution e).drop (20 + 32) = ((packedExecution e).drop 20).drop 32 :=
      List.drop_drop.symm
    rw [hsplit, hdrop, List.drop_left' (length_toBe 32 _)]
  have haddress : FixedBytes.front 20 (packedExecution e) h = e.address :=
    FixedBytes.front_append e.address _ _
  rw [haddress, hvalue, hdata, ofBe_toBe_of_lt (by exact e.value.isLt), BitVec.ofNat_toNat,
    BitVec.setWidth_eq]

/-- What was read as a packed execution packs to the bytes it was read from. -/
theorem packedExecution_unpack (cd : Bytes) (h : 20 ≤ cd.length) (h52 : 52 ≤ cd.length) :
    packedExecution
      { address := FixedBytes.front 20 cd h
        value := BitVec.ofNat 256 (ofBe ((cd.drop 20).take 32))
        callData := cd.drop 52 } = cd := by
  have hlen : ((cd.drop 20).take 32).length = 32 := by
    rw [List.length_take, List.length_drop]; omega
  have hlt : ofBe ((cd.drop 20).take 32) < 2 ^ 256 := by
    have h := ofBe_lt ((cd.drop 20).take 32)
    rw [hlen] at h
    exact h
  have hword : toBe 32 (ofBe ((cd.drop 20).take 32)) = (cd.drop 20).take 32 := by
    have h := toBe_ofBe ((cd.drop 20).take 32)
    rwa [hlen] at h
  have hrest : (cd.drop 20).drop 32 = cd.drop 52 := List.drop_drop
  show cd.take 20 ++ (toBe 32 (BitVec.ofNat 256 (ofBe ((cd.drop 20).take 32))).toNat ++ cd.drop 52)
    = cd
  rw [BitVec.toNat_ofNat, Nat.mod_eq_of_lt hlt, hword, ← hrest, List.take_append_drop,
    List.take_append_drop]

/-! ## What the extractor accepts -/

/-- The call type of an `execute` call. -/
def ExecuteCall.callType (call : ExecuteCall) : UInt8 := modeByte call.mode 0

/-- **The extractor, characterised**: call type `0x00` is one packed execution, any other call
    type is a batch. Both directions, so later proofs never unfold the extractor. -/
theorem extract_eq_ok_iff (c : ExecuteCodecs) (calldata : Bytes) (es : List ExecutionTransaction) :
    extractExecutionBatchComponents c calldata = .ok es ↔
      ∃ call, c.executeCall.decode calldata = .ok call ∧
        ((call.callType = 0 ∧ ∃ e, es = [e] ∧ call.executionCalldata = packedExecution e) ∨
         (call.callType ≠ 0 ∧ ∃ ts, c.batch.decode call.executionCalldata = .ok ts ∧
            es = ts.map ExecutionTransaction.ofTriple)) := by
  unfold extractExecutionBatchComponents
  rw [Outcome.bind_eq_ok]
  refine exists_congr fun call => ?_
  rw [Outcome.ofExcept_eq_ok]
  refine and_congr_right fun _ => ?_
  by_cases htype : call.callType = 0
  · -- single execution
    have hflag : (modeByte call.mode 0 != 0) = false := by
      rw [bne_eq_false_iff_eq]; exact htype
    simp only [hflag, Bool.false_eq_true, if_false, htype, ne_eq, not_true_eq_false, false_and,
      or_false, true_and]
    by_cases hshort : call.executionCalldata.length < 20 + 32
    · rw [dif_pos hshort]
      constructor
      · intro h
        cases h
      · rintro ⟨e, -, he⟩
        rw [he, length_packedExecution] at hshort
        omega
    · rw [dif_neg hshort, Outcome.pure_eq, Outcome.ok.injEq]
      constructor
      · intro h
        exact ⟨_, h.symm, (packedExecution_unpack _ _ (by omega)).symm⟩
      · rintro ⟨e, rfl, he⟩
        congr 1
        have h20 : 20 ≤ (packedExecution e).length := by rw [length_packedExecution]; omega
        have := unpack_packedExecution e h20
        simp only [he]
        exact this
  · -- batch
    have hflag : (modeByte call.mode 0 != 0) = true := by
      rw [bne_iff_ne]; exact htype
    simp only [hflag, if_true, htype, false_and, false_or, ne_eq, not_false_eq_true, true_and]
    rw [Outcome.bind_eq_ok]
    refine exists_congr fun ts => ?_
    rw [Outcome.ofExcept_eq_ok, Outcome.pure_eq, Outcome.ok.injEq, eq_comm (a := es)]

/-! ## The ERC-7579 layout, and when the extractor follows it

A call declares its call type in the first byte of its mode word. What is read is compared with
that. -/

/-- A mode word: the call type, then thirty-one bytes the extractor does not interpret. -/
def modeWord (callType : UInt8) (rest : FixedBytes 31) : B256 :=
  ⟨callType :: rest.bytes, by rw [List.length_cons, rest.length_eq]⟩

/-- The calldata of `execute` in batch mode. -/
def batchCalldata (c : ExecuteCodecs) (rest : FixedBytes 31) (es : List ExecutionTransaction) :
    Bytes :=
  c.executeCall.encode
    { mode := modeWord 0x01 rest
      executionCalldata := c.batch.encode (es.map fun e => (e.address, e.value, e.callData)) }

/-- The calldata of `execute` in single mode. -/
def singleCalldata (c : ExecuteCodecs) (rest : FixedBytes 31) (e : ExecutionTransaction) : Bytes :=
  c.executeCall.encode { mode := modeWord 0x00 rest, executionCalldata := packedExecution e }

theorem map_ofTriple (es : List ExecutionTransaction) :
    (es.map fun e => (e.address, e.value, e.callData)).map ExecutionTransaction.ofTriple = es := by
  rw [List.map_map]
  exact List.map_id es

variable {c : ExecuteCodecs}

theorem extract_batchCalldata (hc : c.Lawful) (rest : FixedBytes 31)
    (es : List ExecutionTransaction) :
    extractExecutionBatchComponents c (batchCalldata c rest es) = .ok es := by
  rw [extract_eq_ok_iff]
  exact ⟨_, hc.executeCall_roundTrips _, Or.inr ⟨show (0x01 : UInt8) ≠ 0 by decide, _,
    hc.batch_roundTrips _, (map_ofTriple es).symm⟩⟩

theorem extract_singleCalldata (hc : c.Lawful) (rest : FixedBytes 31) (e : ExecutionTransaction) :
    extractExecutionBatchComponents c (singleCalldata c rest e) = .ok [e] := by
  rw [extract_eq_ok_iff]
  exact ⟨_, hc.executeCall_roundTrips _, Or.inl ⟨rfl, e, rfl, rfl⟩⟩

/-- The extractor takes the calldata for what its call type declares: whatever it returns, the
    calldata is an `execute` call, of one packed execution under call type `0x00` or of a batch
    under `0x01`. -/
def ReadAsDeclared (c : ExecuteCodecs) (calldata : Bytes) : Prop :=
  ∀ es, extractExecutionBatchComponents c calldata = .ok es →
    c.selector.bytes <+: calldata ∧ ∃ call, c.executeCall.decode calldata = .ok call ∧
      ((call.callType = 0x00 ∧ ∃ e, es = [e] ∧ call.executionCalldata = packedExecution e) ∨
       (call.callType = 0x01 ∧ ∃ ts, c.batch.decode call.executionCalldata = .ok ts ∧
          es = ts.map ExecutionTransaction.ofTriple))

/-- The calldata calls `execute` with a call type that is neither single nor batch, and its
    execution calldata happens to decode as a batch. -/
def ForeignCallType (c : ExecuteCodecs) (calldata : Bytes) : Prop :=
  ∃ call, c.executeCall.decode calldata = .ok call ∧ call.callType ≠ 0x00 ∧ call.callType ≠ 0x01 ∧
    ∃ ts, c.batch.decode call.executionCalldata = .ok ts

/-- **A calldata is read as it declares exactly when its call type is not a foreign one** under
    which its data decodes as a batch. -/
theorem readAsDeclared_iff (hc : c.Lawful) (calldata : Bytes) :
    ReadAsDeclared c calldata ↔ ¬ ForeignCallType c calldata := by
  constructor
  · rintro hread ⟨call, hcall, h0, h1, ts, hts⟩
    have hextract : extractExecutionBatchComponents c calldata
        = .ok (ts.map ExecutionTransaction.ofTriple) :=
      (extract_eq_ok_iff c calldata _).mpr ⟨call, hcall, Or.inr ⟨h0, ts, hts, rfl⟩⟩
    obtain ⟨-, call', hcall', htype⟩ := hread _ hextract
    obtain rfl : call = call' := Except.ok.inj (hcall.symm.trans hcall')
    rcases htype with ⟨htype, -⟩ | ⟨htype, -⟩
    · exact h0 htype
    · exact h1 htype
  · intro hforeign es hextract
    obtain ⟨call, hcall, htype⟩ := (extract_eq_ok_iff c calldata es).mp hextract
    refine ⟨hc.selector_of_decode hcall, call, hcall, ?_⟩
    rcases htype with hsingle | ⟨h0, ts, hts, hes⟩
    · exact Or.inl hsingle
    · refine Or.inr ⟨?_, ts, hts, hes⟩
      by_contra h1
      exact hforeign ⟨call, hcall, h0, h1, ts, hts⟩

/-- The calldata of `execute` under any call type, its data laid out like a batch. -/
def triplesCalldata (c : ExecuteCodecs) (callType : UInt8) (rest : FixedBytes 31)
    (ts : List (Address × U256 × Bytes)) : Bytes :=
  c.executeCall.encode { mode := modeWord callType rest, executionCalldata := c.batch.encode ts }

/-- Under a foreign call type the executions of such calldata are accepted as a batch. -/
theorem triplesCalldata_misread (hc : c.Lawful) {callType : UInt8} (h0 : callType ≠ 0x00)
    (h1 : callType ≠ 0x01) (rest : FixedBytes 31) (ts : List (Address × U256 × Bytes)) :
    extractExecutionBatchComponents c (triplesCalldata c callType rest ts)
      = .ok (ts.map ExecutionTransaction.ofTriple) ∧
    ¬ ReadAsDeclared c (triplesCalldata c callType rest ts) := by
  have hcall := hc.executeCall_roundTrips
    { mode := modeWord callType rest, executionCalldata := c.batch.encode ts }
  have hbatch := hc.batch_roundTrips ts
  constructor
  · rw [extract_eq_ok_iff]
    exact ⟨_, hcall, Or.inr ⟨h0, ts, hbatch, rfl⟩⟩
  · rw [readAsDeclared_iff hc, not_not]
    exact ⟨_, hcall, h0, h1, ts, hbatch⟩

/-- **The executions of a well-laid-out call are returned as they are, and nothing else is read as
    an execution batch unless its call type is a foreign one.** -/
theorem extract_exact (c : ExecuteCodecs) (hc : c.Lawful) :
    (∀ rest es, extractExecutionBatchComponents c (batchCalldata c rest es) = .ok es) ∧
    (∀ rest e, extractExecutionBatchComponents c (singleCalldata c rest e) = .ok [e]) ∧
    (∀ calldata, ReadAsDeclared c calldata ↔ ¬ ForeignCallType c calldata) :=
  ⟨extract_batchCalldata hc, extract_singleCalldata hc, readAsDeclared_iff hc⟩

/-! ## The codecs of the contract ABI, and a delegate call under them -/

instance : Encodable ExecuteCall :=
  Encodable.ofLeftInjection (fun x => (x.mode, x.executionCalldata))
    (fun p => some ⟨p.1, p.2⟩) (fun _ => rfl)

/-- `(bytes32 mode, bytes executionCalldata)`. -/
def executeCallAbi : Abi.Codec ExecuteCall :=
  (Abi.Codec.tuple
    (Abi.Seq.pair (Abi.Seq.item Abi.Codec.bytes32) (Abi.Seq.item Abi.Codec.bytes))).imap
    (fun p => ⟨p.1, p.2⟩) (fun x => (x.mode, x.executionCalldata)) (fun _ => rfl)

/-- `(address, uint256, bytes)`. -/
def executionAbi : Abi.Seq (Address × U256 × Bytes) :=
  Abi.Seq.pair (Abi.Seq.item Abi.Codec.address)
    (Abi.Seq.pair (Abi.Seq.item Abi.Codec.uint256) (Abi.Seq.item Abi.Codec.bytes))

/-- `(address, uint256, bytes)[]`, alone in its frame. -/
def batchAbi : Abi.Codec (List (Address × U256 × Bytes)) :=
  Abi.Codec.tuple (Abi.Seq.item (Abi.Codec.array (Abi.Seq.item (Abi.Codec.tuple executionAbi))
    (by decide)))

/-- The contract ABI, with the selector of `execute(bytes32,bytes)`. -/
def standardExecuteCodecs : ExecuteCodecs where
  selector := ⟨[0xe9, 0xae, 0x5c, 0x53], rfl⟩
  executeCall :=
    { encode := fun x => [0xe9, 0xae, 0x5c, 0x53] ++ (AbiCodec.standard executeCallAbi).encode x
      decode := fun
        | 0xe9 :: 0xae :: 0x5c :: 0x53 :: params => (AbiCodec.standard executeCallAbi).decode params
        | _ => .error "type check failed for \"execute\"" }
  batch := AbiCodec.standard batchAbi

theorem standardExecuteCodecs_lawful : standardExecuteCodecs.Lawful where
  executeCall_roundTrips x := AbiCodec.standard_roundTrips executeCallAbi x
  batch_roundTrips := AbiCodec.standard_roundTrips batchAbi
  selector_of_decode := by
    intro calldata call h
    simp only [standardExecuteCodecs] at h ⊢
    split at h
    · exact ⟨_, rfl⟩
    · cases h

theorem extract_exact_standard :
    (∀ rest es, extractExecutionBatchComponents standardExecuteCodecs
        (batchCalldata standardExecuteCodecs rest es) = .ok es) ∧
    (∀ rest e, extractExecutionBatchComponents standardExecuteCodecs
        (singleCalldata standardExecuteCodecs rest e) = .ok [e]) ∧
    (∀ calldata, ReadAsDeclared standardExecuteCodecs calldata ↔
        ¬ ForeignCallType standardExecuteCodecs calldata) :=
  extract_exact standardExecuteCodecs standardExecuteCodecs_lawful

/-- A delegate call (`0xff`) whose data is laid out like a batch of one call to `0x11…11`. -/
def delegateCalldata : Bytes :=
  triplesCalldata standardExecuteCodecs 0xff (FixedBytes.ofNat 31 0)
    [(⟨List.replicate 20 0x11, rfl⟩, 1, [0xde, 0xad])]

/-- The delegate call is accepted, and as a batch. -/
theorem delegateCalldata_misread :
    extractExecutionBatchComponents standardExecuteCodecs delegateCalldata
      = .ok [{ address := ⟨List.replicate 20 0x11, rfl⟩, value := 1, callData := [0xde, 0xad] }] ∧
    ¬ ReadAsDeclared standardExecuteCodecs delegateCalldata :=
  triplesCalldata_misread standardExecuteCodecs_lawful (by decide) (by decide) _ _

end BlockchainApi
