/-
  Smart-session signatures (`src/handlers/json_rpc/wallet/prepare_calls.rs`).

  A permission context is the address of the smart-sessions module followed by a smart-session
  signature: a mode byte, and behind it either a permission id with a signature (`Use`) or the
  compressed ABI encoding of a session to enable with a signature (`Enable`, `UnsafeEnable`).  The
  enable signature inside the session starts with the address of the validator that made it; for a
  Kernel account a prefix goes in front of that.

  1. **Decoder and encoder.** `decodeSmartSessionSignature` and `encodeEnableSignature` follow the
     source branch by branch.  They were written to be inverse to each other.

  2. **The validator.** `splitPermissionEnableSig` takes the validator off an enable signature, and
     `joinPermissionEnableSig` puts it on.  Without a prefix they undo each other
     (`splitPermissionEnableSig_eq_ok_iff`); for a Kernel account they never do
     (`splitPermissionEnableSig_join_kernel`): the prefix is refused, or is longer than the byte
     that is skipped.

  3. **Round trip.** Everything else is undone by the codecs, so an encoded session comes back
     exactly when splitting undoes joining (`encodedComesBack_iff`), and
     `enableSignature_roundTrips_iff` says for which account types encoder and decoder are inverse
     to each other.

  The mode byte, the compression and the ABI encoding are the work of other crates, and come in as
  `SmartSessionDeps`; `SmartSessionDeps.Lawful` is what is assumed of them, and
  `standardSmartSession` satisfies it.
-/
import BlockchainApi.Error
import BlockchainApi.Lib.FastLz
import BlockchainApi.Lib.Outcome
import BlockchainApi.Utils.UserOperation

namespace BlockchainApi

open ByteCodec

/-! ## Data: sessions, their signatures, and the errors -/

/-- `AccountType`. -/
inductive AccountType where
  | erc7579Implementation
  | kernel
  | safe
  | nexus
  deriving DecidableEq, Repr

/-- `SmartSessionMode`. -/
inductive SmartSessionMode where
  | use
  | enable
  | unsafeEnable
  deriving DecidableEq, Repr

/-- `PolicyData`. -/
structure PolicyData where
  policy : Address
  initData : Bytes
  deriving DecidableEq

/-- `ActionData`. -/
structure ActionData where
  actionTargetSelector : FixedBytes 4
  actionTarget : Address
  actionPolicies : List PolicyData
  deriving DecidableEq

/-- `ERC7739Data`. -/
structure ERC7739Data where
  allowedERC7739Content : List Bytes
  erc1271Policies : List PolicyData
  deriving DecidableEq

/-- `Session`. -/
structure Session where
  sessionValidator : Address
  sessionValidatorInitData : Bytes
  salt : B256
  userOpPolicies : List PolicyData
  erc7739Policies : ERC7739Data
  actions : List ActionData
  permitERC4337Paymaster : Bool
  deriving DecidableEq

/-- `ChainDigest`. -/
structure ChainDigest where
  chainId : U64
  sessionDigest : B256
  deriving DecidableEq

/-- `EnableSession`. -/
structure EnableSession where
  chainDigestIndex : BitVec 8
  hashesAndChainIds : List ChainDigest
  sessionToEnable : Session
  permissionEnableSig : Bytes
  deriving DecidableEq

/-- `EnableSessionData`: the enable signature without the validator in front of it. -/
structure EnableSessionData where
  enableSession : EnableSession
  validator : Address
  deriving DecidableEq

/-- `DecodedSmartSessionSignature`. -/
structure DecodedSmartSessionSignature where
  mode : SmartSessionMode
  permissionId : B256
  signature : Bytes
  enableSessionData : Option EnableSessionData
  deriving DecidableEq

/-- `PermissionContextError`. -/
inductive PermissionContextError where
  | validatorAddressMismatch
  | signersDataMissingCount
  | signersDataTruncated
  | unknownSignerType
  | signerDataTruncated
  | signersDataTrailingBytes
  deriving DecidableEq, Repr

/-- `PrepareCallsInternalError`, as far as the functions here return it. -/
inductive PrepareCallsInternalError where
  | isSessionEnabled (text : String)
  | compressSessionEnabled (text : String)
  deriving DecidableEq, Repr

/-- `PrepareCallsError`, as far as the functions here return it. -/
inductive PrepareCallsError where
  | permissionContextNotLongEnough
  | permissionContextSignatureDecompression (text : String)
  | permissionContextInvalidMode
  | permissionContextAbiDecode (text : String)
  | permissionContextInvalidPermissionEnableSigForKernelAccount
  | invalidPermissionContext (e : PermissionContextError)
  | internalError (e : PrepareCallsInternalError)
  deriving DecidableEq, Repr

/-- What the functions here take from other crates. -/
structure SmartSessionDeps where
  /-- `SMART_SESSIONS_ADDRESS`. -/
  smartSessionsAddress : Address
  /-- `SmartSessionMode::try_from`. -/
  modeTryFrom : UInt8 → Option SmartSessionMode
  /-- `SmartSessionMode::to_u8`. -/
  modeToU8 : SmartSessionMode → UInt8
  /-- `fastlz_rs::decompress_to_vec`. -/
  decompress : Bytes → Except String Bytes
  /-- `CompressState::compress_to_vec`. -/
  compress : Bytes → Except String Bytes
  /-- `enableSessionSigCall`, without its selector. -/
  enableSessionSig : AbiCodec (EnableSession × Bytes)
  /-- The array `[0x01]`, packed. -/
  kernelPrefix : Bytes
  keccak256 : Bytes → B256
  /-- `abi_encode_params` at `(address, bytes, bytes32)`. -/
  encodeSessionId : Address × Bytes × B256 → Bytes
  /-- `encode_use_signature`. -/
  encodeUseSignature : B256 → Bytes → Bytes
  /-- `(uint256, address[])`, as parameters. -/
  owners : AbiCodec (U256 × List Address)
  /-- `bytes[]`. -/
  signatures : AbiCodec (List Bytes)

/-- What the crates promise about them. -/
structure SmartSessionDeps.Lawful (d : SmartSessionDeps) : Prop where
  modeTryFrom_modeToU8 : ∀ m, d.modeTryFrom (d.modeToU8 m) = some m
  compress_total : ∀ data, ∃ compressed, d.compress data = .ok compressed
  decompress_compress : ∀ {data compressed}, d.compress data = .ok compressed →
    d.decompress compressed = .ok data
  enableSessionSig_roundTrips : d.enableSessionSig.RoundTrips
  /-- Array elements are padded in front when they are packed. -/
  kernelPrefix_eq : ∃ padding, d.kernelPrefix = List.replicate padding 0 ++ [0x01]

/-! ## Decoder and encoder, branch by branch -/

/-- `split_permissions_context_and_check_validator`. -/
def splitPermissionsContextAndCheckValidator (d : SmartSessionDeps) (context : Bytes) :
    Outcome PrepareCallsError (Address × Bytes) := do
  let (validatorAddress, signature) ← Outcome.okOr (FixedBytes.splitAt? 20 context)
    .permissionContextNotLongEnough
  Outcome.ensure (validatorAddress = d.smartSessionsAddress)
    (.invalidPermissionContext .validatorAddressMismatch)
  return (validatorAddress, signature)

/-- The middle of `decode_smart_session_signature`: the validator in front of the enable
    signature. -/
def splitPermissionEnableSig (accountType : AccountType) (permissionEnableSig : Bytes) :
    Outcome PrepareCallsError (Address × Bytes) := do
  let isKernel := accountType == .kernel
  Outcome.ensure (¬ (isKernel ∧ [0x01] <+: permissionEnableSig))
    .permissionContextInvalidPermissionEnableSigForKernelAccount
  let sliced ← Outcome.sliceFrom permissionEnableSig (if isKernel then 1 else 0)
  Outcome.okOr (FixedBytes.splitAt? 20 sliced) .permissionContextNotLongEnough

/-- The permission id of a session. -/
def permissionIdOf (d : SmartSessionDeps) (session : Session) : B256 :=
  d.keccak256 (d.encodeSessionId
    (session.sessionValidator, session.sessionValidatorInitData, session.salt))

/-- The branch of `decode_smart_session_signature` for the two enable modes. -/
def decodeEnable (d : SmartSessionDeps) (mode : SmartSessionMode) (compressedData : Bytes)
    (accountType : AccountType) : Outcome PrepareCallsError DecodedSmartSessionSignature := do
  let data ← Outcome.ofExcept PrepareCallsError.permissionContextSignatureDecompression
    (d.decompress compressedData)
  let (enableSession, signature) ← Outcome.ofExcept PrepareCallsError.permissionContextAbiDecode
    (d.enableSessionSig.decode data)
  let (validator, permissionEnableSig) ←
    splitPermissionEnableSig accountType enableSession.permissionEnableSig
  return {
    mode
    permissionId := permissionIdOf d enableSession.sessionToEnable
    signature
    enableSessionData := some {
      enableSession := { enableSession with permissionEnableSig }
      validator } }

/-- The branch of `decode_smart_session_signature` for the use mode; `rest` follows the mode. -/
def decodeUse (rest : Bytes) : Outcome PrepareCallsError DecodedSmartSessionSignature := do
  let (permissionId, signature) ← Outcome.okOr (FixedBytes.splitAt? 32 rest)
    .permissionContextNotLongEnough
  return { mode := .use, permissionId, signature, enableSessionData := none }

/-- `decode_smart_session_signature`. -/
def decodeSmartSessionSignature (d : SmartSessionDeps) (signature : Bytes)
    (accountType : AccountType) : Outcome PrepareCallsError DecodedSmartSessionSignature :=
  match signature with
  | [] => .err .permissionContextNotLongEnough
  | first :: rest =>
    match d.modeTryFrom first with
    | none => .err .permissionContextInvalidMode
    | some .use => decodeUse rest
    | some .enable => decodeEnable d .enable rest accountType
    | some .unsafeEnable => decodeEnable d .unsafeEnable rest accountType

/-- The enable signature with its validator, packed. -/
def joinPermissionEnableSig (d : SmartSessionDeps) (accountType : AccountType)
    (validator : Address) (permissionEnableSig : Bytes) : Bytes :=
  match accountType with
  | .erc7579Implementation | .safe | .nexus => validator.bytes ++ permissionEnableSig
  | .kernel => d.kernelPrefix ++ (validator.bytes ++ permissionEnableSig)

/-- `encode_enable_signature_before_compress`. -/
def encodeEnableSignatureBeforeCompress (d : SmartSessionDeps) (accountType : AccountType)
    (signature : Bytes) (enableSessionData : EnableSessionData) : Bytes :=
  d.enableSessionSig.encode
    ({ enableSessionData.enableSession with
        permissionEnableSig := joinPermissionEnableSig d accountType enableSessionData.validator
          enableSessionData.enableSession.permissionEnableSig }, signature)

/-- `encode_enable_signature`. -/
def encodeEnableSignature (d : SmartSessionDeps) (accountType : AccountType) (signature : Bytes)
    (enableSessionData : EnableSessionData) : Outcome PrepareCallsError Bytes := do
  let signature := encodeEnableSignatureBeforeCompress d accountType signature enableSessionData
  let compressed ← Outcome.ofExcept
    (fun e => PrepareCallsError.internalError (.compressSessionEnabled e)) (d.compress signature)
  return d.modeToU8 .enable :: compressed

/-! ## The enable signature and its validator: where the prefix makes a difference -/

variable {d : SmartSessionDeps} {accountType : AccountType}

/-- Without a prefix, splitting reads exactly what joining writes. -/
theorem splitPermissionEnableSig_eq_ok_iff (h : accountType ≠ .kernel) {bs sig : Bytes}
    {validator : Address} :
    splitPermissionEnableSig accountType bs = .ok (validator, sig) ↔
      bs = joinPermissionEnableSig d accountType validator sig := by
  have hkernel : (accountType == AccountType.kernel) = false := by
    rw [beq_eq_false_iff_ne]; exact h
  have hjoin : joinPermissionEnableSig d accountType validator sig = validator.bytes ++ sig := by
    cases accountType with
    | kernel => exact absurd rfl h
    | _ => rfl
  unfold splitPermissionEnableSig
  rw [hjoin]
  simp only [hkernel, Bool.false_eq_true, false_and, not_false_eq_true, if_false,
    Outcome.bind_eq_ok, Outcome.ensure_eq_ok, Outcome.sliceFrom_eq_ok, Outcome.okOr_eq_ok,
    Nat.zero_le, List.drop_zero, true_and, exists_eq_left', exists_const,
    FixedBytes.splitAt?_eq_some_iff]

/-- **For a Kernel account, splitting never reads what joining writes**: the prefix is either
    what the decoder refuses, or longer than the one byte it skips, and then the address is read
    from the wrong place. -/
theorem splitPermissionEnableSig_join_kernel (hd : d.Lawful) (validator : Address) (sig : Bytes) :
    splitPermissionEnableSig .kernel (joinPermissionEnableSig d .kernel validator sig)
      ≠ .ok (validator, sig) := by
  obtain ⟨padding, hpadding⟩ := hd.kernelPrefix_eq
  intro h
  unfold splitPermissionEnableSig joinPermissionEnableSig at h
  simp only [hpadding, beq_self_eq_true, true_and, if_true, Outcome.bind_eq_ok,
    Outcome.ensure_eq_ok, Outcome.sliceFrom_eq_ok, Outcome.okOr_eq_ok,
    FixedBytes.splitAt?_eq_some_iff] at h
  obtain ⟨-, hnot, sliced, ⟨-, hdrop⟩, hsliced⟩ := h
  cases padding with
  | zero => exact hnot ⟨validator.bytes ++ sig, by simp⟩
  | succ padding =>
    -- one byte too many is left in front of the validator
    have hlen := congrArg List.length (hdrop.trans hsliced)
    simp only [List.length_drop, List.length_append, List.length_replicate,
      List.length_singleton] at hlen
    omega

/-! ## What the decoder accepts: the mode decides the branch -/

/-- The result of decoding a session to enable. -/
def decodedEnable (d : SmartSessionDeps) (mode : SmartSessionMode) (signature : Bytes)
    (enableSessionData : EnableSessionData) : DecodedSmartSessionSignature where
  mode := mode
  permissionId := permissionIdOf d enableSessionData.enableSession.sessionToEnable
  signature := signature
  enableSessionData := some enableSessionData

variable {mode : SmartSessionMode} {compressedData rest bytes : Bytes}
  {decoded : DecodedSmartSessionSignature}

theorem decodeEnable_eq_ok_iff :
    decodeEnable d mode compressedData accountType = .ok decoded ↔
      ∃ data session signature validator permissionEnableSig,
        d.decompress compressedData = .ok data ∧
        d.enableSessionSig.decode data = .ok (session, signature) ∧
        splitPermissionEnableSig accountType session.permissionEnableSig
          = .ok (validator, permissionEnableSig) ∧
        decoded = decodedEnable d mode signature
          { enableSession := { session with permissionEnableSig }, validator } := by
  unfold decodeEnable
  simp only [Outcome.bind_eq_ok, Outcome.ofExcept_eq_ok, Outcome.pure_eq, Outcome.ok.injEq,
    Prod.exists]
  constructor
  · rintro ⟨data, hdata, session, signature, hdecode, validator, sig, hsplit, rfl⟩
    exact ⟨data, session, signature, validator, sig, hdata, hdecode, hsplit, rfl⟩
  · rintro ⟨data, session, signature, validator, sig, hdata, hdecode, hsplit, rfl⟩
    exact ⟨data, hdata, session, signature, hdecode, validator, sig, hsplit, rfl⟩

theorem mode_of_decodeEnable (h : decodeEnable d mode compressedData accountType = .ok decoded) :
    decoded.mode = mode := by
  obtain ⟨data, session, signature, validator, permissionEnableSig, -, -, -, rfl⟩ :=
    decodeEnable_eq_ok_iff.mp h
  rfl

/-- What is accepted was decoded by the branch of its mode: the two enable modes share one. -/
theorem decode_eq_ok (h : decodeSmartSessionSignature d bytes accountType = .ok decoded) :
    ∃ first rest, bytes = first :: rest ∧ d.modeTryFrom first = some decoded.mode ∧
      ((decoded.mode = .use ∧ decodeUse rest = .ok decoded) ∨
       (decoded.mode ≠ .use ∧ decodeEnable d decoded.mode rest accountType = .ok decoded)) := by
  cases bytes with
  | nil => cases h
  | cons first rest =>
    refine ⟨first, rest, rfl, ?_⟩
    rw [decodeSmartSessionSignature] at h
    cases hmode : d.modeTryFrom first with
    | none => rw [hmode] at h; cases h
    | some mode =>
      rw [hmode] at h
      cases mode with
      | use =>
        have hdecoded : decoded.mode = .use := by
          simp only [decodeUse, Outcome.bind_eq_ok, Outcome.pure_eq, Outcome.ok.injEq] at h
          obtain ⟨-, -, rfl⟩ := h
          rfl
        exact ⟨by rw [hdecoded], Or.inl ⟨hdecoded, h⟩⟩
      | enable =>
        have hdecoded : decoded.mode = .enable := mode_of_decodeEnable h
        exact ⟨by rw [hdecoded], Or.inr ⟨by rw [hdecoded]; decide, by rw [hdecoded]; exact h⟩⟩
      | unsafeEnable =>
        have hdecoded : decoded.mode = .unsafeEnable := mode_of_decodeEnable h
        exact ⟨by rw [hdecoded], Or.inr ⟨by rw [hdecoded]; decide, by rw [hdecoded]; exact h⟩⟩

/-! ## Round trip, in both directions -/

/-- Encoded, a session and its signature come back. -/
def EncodedComesBack (d : SmartSessionDeps) (accountType : AccountType) (signature : Bytes)
    (enableSessionData : EnableSessionData) : Prop :=
  ∃ bytes, encodeEnableSignature d accountType signature enableSessionData = .ok bytes ∧
    decodeSmartSessionSignature d bytes accountType
      = .ok (decodedEnable d .enable signature enableSessionData)

/-- Encoded again, what was decoded comes back. -/
def DecodedComesBack (d : SmartSessionDeps) (accountType : AccountType)
    (decoded : DecodedSmartSessionSignature) : Prop :=
  ∃ enableSessionData bytes, decoded.enableSessionData = some enableSessionData ∧
    encodeEnableSignature d accountType decoded.signature enableSessionData = .ok bytes ∧
    decodeSmartSessionSignature d bytes accountType = .ok decoded

/-- The encoder always returns, and its result decodes when splitting reads what joining wrote. -/
theorem decode_encodeEnableSignature (hd : d.Lawful) (accountType : AccountType)
    (signature : Bytes) (enableSessionData : EnableSessionData) :
    ∃ bytes, encodeEnableSignature d accountType signature enableSessionData = .ok bytes ∧
      ∀ decoded, decodeSmartSessionSignature d bytes accountType = .ok decoded ↔
        ∃ validator permissionEnableSig,
          splitPermissionEnableSig accountType (joinPermissionEnableSig d accountType
            enableSessionData.validator enableSessionData.enableSession.permissionEnableSig)
            = .ok (validator, permissionEnableSig) ∧
          decoded = decodedEnable d .enable signature
            { enableSession := { enableSessionData.enableSession with permissionEnableSig }
              validator } := by
  obtain ⟨compressed, hcompress⟩ := hd.compress_total
    (encodeEnableSignatureBeforeCompress d accountType signature enableSessionData)
  have hdecode := hd.enableSessionSig_roundTrips
    ({ enableSessionData.enableSession with
        permissionEnableSig := joinPermissionEnableSig d accountType enableSessionData.validator
          enableSessionData.enableSession.permissionEnableSig }, signature)
  refine ⟨d.modeToU8 .enable :: compressed, ?_, fun decoded => ?_⟩
  · -- compression never fails
    rw [encodeEnableSignature, hcompress]
    rfl
  · -- what is decompressed is what was encoded, up to the validator in front
    rw [decodeSmartSessionSignature, hd.modeTryFrom_modeToU8]
    refine decodeEnable_eq_ok_iff.trans ?_
    rw [hd.decompress_compress hcompress]
    constructor
    · rintro ⟨data, session, sig, validator, enableSig, hdata, hsession, hsplit, rfl⟩
      obtain rfl := Except.ok.inj hdata
      obtain ⟨rfl, rfl⟩ := Prod.mk.inj (Except.ok.inj (hdecode.symm.trans hsession))
      exact ⟨validator, enableSig, hsplit, rfl⟩
    · rintro ⟨validator, enableSig, hsplit, rfl⟩
      exact ⟨_, _, _, validator, enableSig, rfl, hdecode, hsplit, rfl⟩

/-- An encoded session comes back exactly when splitting undoes joining. -/
theorem encodedComesBack_iff (hd : d.Lawful) {signature : Bytes}
    {enableSessionData : EnableSessionData} :
    EncodedComesBack d accountType signature enableSessionData ↔ accountType ≠ .kernel := by
  obtain ⟨bytes, hencode, hdecode⟩ :=
    decode_encodeEnableSignature hd accountType signature enableSessionData
  constructor
  · rintro ⟨bytes', hencode', hback⟩ rfl
    obtain rfl := Outcome.ok.inj (hencode.symm.trans hencode')
    obtain ⟨validator, permissionEnableSig, hsplit, hdecoded⟩ := (hdecode _).mp hback
    -- the session that came back carries the validator and signature it was encoded with
    have hdata := Option.some.inj (congrArg (fun x => x.enableSessionData) hdecoded)
    have hvalidator : enableSessionData.validator = validator :=
      congrArg (fun x => x.validator) hdata
    have hsig : enableSessionData.enableSession.permissionEnableSig = permissionEnableSig :=
      congrArg (fun x => x.enableSession.permissionEnableSig) hdata
    rw [hvalidator, hsig] at hsplit
    exact splitPermissionEnableSig_join_kernel hd validator permissionEnableSig hsplit
  · intro hkernel
    refine ⟨bytes, hencode, (hdecode _).mpr ⟨_, _, ?_, rfl⟩⟩
    exact (splitPermissionEnableSig_eq_ok_iff hkernel).mpr rfl

/-- What the decoder accepts in `Enable` mode carries a session. -/
theorem decode_enable_eq (h : decodeSmartSessionSignature d bytes accountType = .ok decoded)
    (hmode : decoded.mode = .enable) :
    ∃ enableSessionData, decoded = decodedEnable d .enable decoded.signature enableSessionData := by
  obtain ⟨-, rest, -, -, ⟨huse, -⟩ | ⟨-, henable⟩⟩ := decode_eq_ok h
  · rw [hmode] at huse
    cases huse
  · rw [hmode] at henable
    obtain ⟨-, -, signature, -, -, -, -, -, rfl⟩ := decodeEnable_eq_ok_iff.mp henable
    exact ⟨_, rfl⟩

/-- **Encoder and decoder are inverse to each other exactly where no prefix is written**, for
    every session and signature. -/
theorem enableSignature_roundTrips_iff (d : SmartSessionDeps) (hd : d.Lawful)
    (accountType : AccountType) :
    (∀ signature enableSessionData,
      EncodedComesBack d accountType signature enableSessionData ↔ accountType ≠ .kernel) ∧
    (∀ bytes decoded, decodeSmartSessionSignature d bytes accountType = .ok decoded →
      decoded.mode = .enable →
      (DecodedComesBack d accountType decoded ↔ accountType ≠ .kernel)) := by
  refine ⟨fun _ _ => encodedComesBack_iff hd, fun bytes decoded h hmode => ?_⟩
  obtain ⟨enableSessionData, hdecoded⟩ := decode_enable_eq h hmode
  have hencoded : EncodedComesBack d accountType decoded.signature enableSessionData ↔ _ :=
    encodedComesBack_iff hd
  rw [← hencoded]
  constructor
  · rintro ⟨data, bytes', hdata, hencode, hback⟩
    rw [hdecoded] at hdata
    obtain rfl := Option.some.inj hdata
    exact ⟨bytes', hencode, hdecoded ▸ hback⟩
  · rintro ⟨bytes', hencode, hback⟩
    refine ⟨enableSessionData, bytes', ?_, hencode, ?_⟩
    · rw [hdecoded]
      rfl
    · rw [hback, ← hdecoded]

/-! ## The contract ABI and FastLZ: an instance of what is assumed -/

/-- An address and a byte string, in one frame. -/
def addressBytesAbi : Abi.Seq (Address × Bytes) :=
  Abi.Seq.pair (Abi.Seq.item Abi.Codec.address) (Abi.Seq.item Abi.Codec.bytes)

/-- `PolicyData[]`. -/
def policiesAbi : Abi.Codec (List PolicyData) :=
  Abi.Codec.array
    (Abi.Seq.item ((Abi.Codec.tuple addressBytesAbi).imap
      (fun p => ⟨p.1, p.2⟩) (fun x => (x.policy, x.initData)) (fun _ => rfl)))
    (by decide)

/-- `ActionData[]`. -/
def actionsAbi : Abi.Codec (List ActionData) :=
  Abi.Codec.array
    (Abi.Seq.item
      ((Abi.Codec.tuple (Abi.Seq.pair (Abi.Seq.item (Abi.Codec.fixedBytes 4 (by decide)))
        (Abi.Seq.pair (Abi.Seq.item Abi.Codec.address) (Abi.Seq.item policiesAbi)))).imap
      (fun p => ⟨p.1, p.2.1, p.2.2⟩)
      (fun x => (x.actionTargetSelector, x.actionTarget, x.actionPolicies)) (fun _ => rfl)))
    (by decide)

/-- `ERC7739Data`. -/
def erc7739DataAbi : Abi.Codec ERC7739Data :=
  (Abi.Codec.tuple
    (Abi.Seq.pair (Abi.Seq.item Abi.Codec.bytesArray) (Abi.Seq.item policiesAbi))).imap
    (fun p => ⟨p.1, p.2⟩) (fun x => (x.allowedERC7739Content, x.erc1271Policies)) (fun _ => rfl)

/-- `Session`. -/
def sessionAbi : Abi.Codec Session :=
  (Abi.Codec.tuple (Abi.Seq.pair (Abi.Seq.item Abi.Codec.address)
    (Abi.Seq.pair (Abi.Seq.item Abi.Codec.bytes)
      (Abi.Seq.pair (Abi.Seq.item Abi.Codec.bytes32)
        (Abi.Seq.pair (Abi.Seq.item policiesAbi)
          (Abi.Seq.pair (Abi.Seq.item erc7739DataAbi)
            (Abi.Seq.pair (Abi.Seq.item actionsAbi) (Abi.Seq.item Abi.Codec.bool)))))))).imap
    (fun p => ⟨p.1, p.2.1, p.2.2.1, p.2.2.2.1, p.2.2.2.2.1, p.2.2.2.2.2.1, p.2.2.2.2.2.2⟩)
    (fun x => (x.sessionValidator, x.sessionValidatorInitData, x.salt, x.userOpPolicies,
      x.erc7739Policies, x.actions, x.permitERC4337Paymaster)) (fun _ => rfl)

/-- `ChainDigest[]`. -/
def chainDigestsAbi : Abi.Codec (List ChainDigest) :=
  Abi.Codec.array
    (Abi.Seq.item ((Abi.Codec.tuple (Abi.Seq.pair (Abi.Seq.item (Abi.Codec.uint 64 (by decide)))
      (Abi.Seq.item Abi.Codec.bytes32))).imap
      (fun p => ⟨p.1, p.2⟩) (fun x => (x.chainId, x.sessionDigest)) (fun _ => rfl)))
    (by decide)

/-- `EnableSession`. -/
def enableSessionAbi : Abi.Codec EnableSession :=
  (Abi.Codec.tuple (Abi.Seq.pair (Abi.Seq.item (Abi.Codec.uint 8 (by decide)))
    (Abi.Seq.pair (Abi.Seq.item chainDigestsAbi)
      (Abi.Seq.pair (Abi.Seq.item sessionAbi) (Abi.Seq.item Abi.Codec.bytes))))).imap
    (fun p => ⟨p.1, p.2.1, p.2.2.1, p.2.2.2⟩)
    (fun x => (x.chainDigestIndex, x.hashesAndChainIds, x.sessionToEnable, x.permissionEnableSig))
    (fun _ => rfl)

/-- The parameters of `enableSessionSig`. -/
def enableSessionSigAbi : Abi.Codec (EnableSession × Bytes) :=
  Abi.Codec.tuple (Abi.Seq.pair (Abi.Seq.item enableSessionAbi) (Abi.Seq.item Abi.Codec.bytes))

/-- `(address, bytes, bytes32)`, as parameters. -/
def sessionIdAbi : Abi.Codec (Address × Bytes × B256) :=
  Abi.Codec.tuple (Abi.Seq.pair (Abi.Seq.item Abi.Codec.address)
    (Abi.Seq.pair (Abi.Seq.item Abi.Codec.bytes) (Abi.Seq.item Abi.Codec.bytes32)))

/-- `(uint256, address[])`, as parameters. -/
def ownersAbi : Abi.Codec (U256 × List Address) :=
  Abi.Codec.tuple (Abi.Seq.pair (Abi.Seq.item Abi.Codec.uint256)
    (Abi.Seq.item (Abi.Codec.array (Abi.Seq.item Abi.Codec.address) (by decide))))

instance : Encodable PolicyData :=
  Encodable.ofLeftInjection (fun x => (x.policy, x.initData))
    (fun p => some ⟨p.1, p.2⟩) (fun _ => rfl)

instance : Encodable ActionData :=
  Encodable.ofLeftInjection (fun x => (x.actionTargetSelector, x.actionTarget, x.actionPolicies))
    (fun p => some ⟨p.1, p.2.1, p.2.2⟩) (fun _ => rfl)

instance : Encodable ERC7739Data :=
  Encodable.ofLeftInjection (fun x => (x.allowedERC7739Content, x.erc1271Policies))
    (fun p => some ⟨p.1, p.2⟩) (fun _ => rfl)

instance : Encodable Session :=
  Encodable.ofLeftInjection
    (fun x => (x.sessionValidator, x.sessionValidatorInitData, x.salt, x.userOpPolicies,
      x.erc7739Policies, x.actions, x.permitERC4337Paymaster))
    (fun p => some ⟨p.1, p.2.1, p.2.2.1, p.2.2.2.1, p.2.2.2.2.1, p.2.2.2.2.2.1, p.2.2.2.2.2.2⟩)
    (fun _ => rfl)

instance : Encodable ChainDigest :=
  Encodable.ofLeftInjection (fun x => (x.chainId, x.sessionDigest))
    (fun p => some ⟨p.1, p.2⟩) (fun _ => rfl)

instance : Encodable EnableSession :=
  Encodable.ofLeftInjection
    (fun x => (x.chainDigestIndex, x.hashesAndChainIds, x.sessionToEnable, x.permissionEnableSig))
    (fun p => some ⟨p.1, p.2.1, p.2.2.1, p.2.2.2⟩) (fun _ => rfl)

/-- A session without any policy, for the demonstrations. -/
def demoSession : EnableSessionData where
  enableSession :=
    { chainDigestIndex := 0
      hashesAndChainIds := []
      sessionToEnable :=
        { sessionValidator := FixedBytes.ofNat 20 0x207b90941d9cff79a750c1e5c05ddaa17ea01b9f
          sessionValidatorInitData := [0x00]
          salt := FixedBytes.ofNat 32 (0x31 * 256 ^ 31)
          userOpPolicies := []
          erc7739Policies := { allowedERC7739Content := [], erc1271Policies := [] }
          actions := []
          permitERC4337Paymaster := false }
      permissionEnableSig := [0xf0, 0xc9] }
  validator := FixedBytes.ofNat 20 0x9388056f9cecfa536e70649154db93485a1f3448

/-- The contract ABI, FastLZ without matches, and a hash that knows the session above. -/
def standardSmartSession : SmartSessionDeps where
  smartSessionsAddress := FixedBytes.ofNat 20 0x00000000002b0ecfbd0496ee71e01257da0e37de
  modeTryFrom b :=
    if b = 0x00 then some .use
    else if b = 0x01 then some .enable
    else if b = 0x02 then some .unsafeEnable
    else none
  modeToU8
    | .use => 0x00
    | .enable => 0x01
    | .unsafeEnable => 0x02
  decompress data :=
    match FastLz.decompress data with
    | some text => .ok text
    | none => .error "corrupt input"
  compress text := .ok (FastLz.literals text)
  enableSessionSig := AbiCodec.standard enableSessionSigAbi
  -- the element of the array is a whole word
  kernelPrefix := List.replicate 31 0 ++ [0x01]
  keccak256 _ :=
    FixedBytes.ofNat 32 0x8649600d59716d9e5337b33e7a60a413812741ba43baef866d481ffff94d74bd
  encodeSessionId := (AbiCodec.standard sessionIdAbi).encode
  encodeUseSignature permissionId signature := 0x00 :: (permissionId.bytes ++ signature)
  owners := AbiCodec.standard ownersAbi
  signatures := AbiCodec.standard bytesArrayAbi

theorem standardSmartSession_lawful : standardSmartSession.Lawful where
  modeTryFrom_modeToU8 m := by cases m <;> rfl
  compress_total text := ⟨_, rfl⟩
  decompress_compress h := by
    obtain rfl := Except.ok.inj h
    simp only [standardSmartSession, FastLz.decompress_literals]
  enableSessionSig_roundTrips := AbiCodec.standard_roundTrips enableSessionSigAbi
  kernelPrefix_eq := ⟨31, rfl⟩

/-- A session that a Safe account reads back, and a Kernel account does not. -/
theorem enableSignature_roundTrips_demoSession :
    EncodedComesBack standardSmartSession .safe [] demoSession ∧
    ¬ EncodedComesBack standardSmartSession .kernel [] demoSession :=
  ⟨((enableSignature_roundTrips_iff standardSmartSession standardSmartSession_lawful .safe).1
      [] demoSession).mpr (by decide),
    fun h => ((enableSignature_roundTrips_iff standardSmartSession standardSmartSession_lawful
      .kernel).1 [] demoSession).mp h rfl⟩

/-- For a Kernel account the validator comes back as zero, and the rest of it in the signature. -/
theorem kernelSession_misread :
    (∃ bytes, encodeEnableSignature standardSmartSession .kernel [] demoSession = .ok bytes ∧
      decodeSmartSessionSignature standardSmartSession bytes .kernel
        = .ok (decodedEnable standardSmartSession .enable []
            { enableSession :=
                { demoSession.enableSession with
                  permissionEnableSig := List.replicate 10 0 ++
                    0x01 :: (demoSession.validator.bytes ++ [0xf0, 0xc9]) }
              validator := FixedBytes.ofNat 20 0 })) ∧
    ¬ EncodedComesBack standardSmartSession .kernel [] demoSession := by
  obtain ⟨bytes, hencode, hdecode⟩ :=
    decode_encodeEnableSignature standardSmartSession_lawful .kernel [] demoSession
  refine ⟨⟨bytes, hencode, (hdecode _).mpr ⟨_, _, by decide, rfl⟩⟩, ?_⟩
  rw [encodedComesBack_iff standardSmartSession_lawful]
  decide

end BlockchainApi
