/-
  The dummy signature of a prepared call (`src/handlers/json_rpc/wallet/prepare_calls.rs`).

  To estimate gas, prepare-calls puts a signature of the right shape into the operation.  It reads
  the permission context that the client stored with the activate request, byte for byte
  (`activateHandler`), decodes the session in it, lists the signers of the session, and encodes a
  dummy signature of each.  The client chooses every byte that goes in.

  `dummySignatureOfContext_ne_panic_iff` says which contexts crash the handler: after the address of
  the smart-sessions module (`Crashes`),

  * a `Use` signature, which decodes, and which the assertion on the mode then refuses;

  * an `UnsafeEnable` signature that decodes, for the same reason;

  * for a Kernel account, a session with an empty enable signature, off which the decoder slices a
    byte that is not there.

  Everything else leaves through a value or an error, whatever the provider answers.  For the parts
  that never panic there is one lemma each (`…_ne_panic`); for the two that can, an exact condition
  (`splitPermissionEnableSig_panic_iff`, `decodeEnable_panic_iff`), which `crashesOn_iff` carries to
  the whole signature.  `context_stored` shows that nothing between the client and the store looks
  at the bytes.
-/
import BlockchainApi.Sessions.Store
import BlockchainApi.Wallet.SmartSession

namespace BlockchainApi

open ByteCodec

/-! ## Signers: a count, and entries of two types -/

/-- `SignerType`. -/
inductive SignerType where
  | ecdsa
  | passkey
  deriving DecidableEq, Repr

/-- `ECDSA_ADDRESS_LENGTH`. -/
def ecdsaAddressLength : Nat := 20

/-- `PASSKEY_SIGNATURE_LENGTH`. -/
def passkeySignatureLength : Nat := 64

/-- `ECDSA_SIGNATURE_WITH_RECOVERY_LENGTH`. -/
def ecdsaSignatureWithRecoveryLength : Nat := 65

/-- The type byte of a signer, and the length of the data behind it. -/
def signerTypeAndLength : Option UInt8 → Outcome PrepareCallsError (SignerType × Nat)
  | some 0 => .ok (.ecdsa, ecdsaAddressLength)
  | some 1 => .ok (.passkey, passkeySignatureLength)
  | some _ => .err (.invalidPermissionContext .unknownSignerType)
  | none => .err (.invalidPermissionContext .signersDataTruncated)

/-- One turn of the loop of `decode_signers`: the data of the signer is skipped, and its type
    kept. -/
def decodeSigner (data : Bytes) : Outcome PrepareCallsError (SignerType × Bytes) := do
  let (signerType, length) ← signerTypeAndLength data.head?
  Outcome.ensure (length ≤ data.tail.length) (.invalidPermissionContext .signerDataTruncated)
  return (signerType, data.tail.drop length)

/-- The loop of `decode_signers`, and the check behind it. -/
def decodeSignersLoop : Nat → Bytes → Outcome PrepareCallsError (List SignerType)
  | 0, data => do
    Outcome.ensure (data = []) (.invalidPermissionContext .signersDataTrailingBytes)
    return []
  | signerCount + 1, data => do
    let (signer, rest) ← decodeSigner data
    let signers ← decodeSignersLoop signerCount rest
    return signer :: signers

/-- `decode_signers`. -/
def decodeSigners (d : SmartSessionDeps) (data : Bytes) (validatorAddress : Address) :
    Outcome PrepareCallsError (List SignerType) :=
  let owners :=
    if isOwnableValidatorAddress validatorAddress then
      match d.owners.decode data with
      | .ok (_, owners) => owners
      | .error _ => []
    else []
  if owners ≠ [] then .ok (List.replicate owners.length .ecdsa)
  else
    match data with
    | [] => .err (.invalidPermissionContext .signersDataMissingCount)
    | signerCount :: rest => decodeSignersLoop signerCount.toNat rest

/-! ## Signature formats: one after the other, or as an array -/

/-- The slices of a signature, one for each ECDSA signature in it. -/
def splitSignatures (signature : Bytes) : Outcome PrepareCallsError (List Bytes) :=
  (List.range (signature.length / ecdsaSignatureWithRecoveryLength)).mapM fun i =>
    let start := i * ecdsaSignatureWithRecoveryLength
    Outcome.slice signature start (start + ecdsaSignatureWithRecoveryLength)

/-- `decode_and_convert_signature_format`. -/
def decodeAndConvertSignatureFormat (d : SmartSessionDeps) (signature : Bytes)
    (validatorAddress : Address) : Outcome PrepareCallsError Bytes :=
  if isOwnableValidatorAddress validatorAddress then
    match d.signatures.decode signature with
    | .ok signatureArray => .ok signatureArray.flatten
    | .error _ => .ok signature
  else
    match d.signatures.decode signature with
    | .ok _ => .ok signature
    | .error _ =>
      if signature.length % ecdsaSignatureWithRecoveryLength = 0 ∧ signature ≠ [] then do
        let signatureArray ← splitSignatures signature
        return d.signatures.encode signatureArray
      else .ok signature

/-- What `isPermissionEnabled` answers for a permission and an account. -/
abbrev SessionProvider := B256 → Address → Except String Bool

/-- `encode_use_or_enable_smart_session_signature`. -/
def encodeUseOrEnableSmartSessionSignature (d : SmartSessionDeps) (provider : SessionProvider)
    (permissionId : B256) (address : Address) (accountType : AccountType) (signature : Bytes)
    (enableSessionData : EnableSessionData) : Outcome PrepareCallsError Bytes := do
  let sessionEnabled ← Outcome.ofExcept
    (fun e => PrepareCallsError.internalError (.isSessionEnabled e)) (provider permissionId address)
  let validatorAddress := enableSessionData.enableSession.sessionToEnable.sessionValidator
  let convertedSignature ← decodeAndConvertSignatureFormat d signature validatorAddress
  if sessionEnabled then return d.encodeUseSignature permissionId convertedSignature
  else encodeEnableSignature d accountType convertedSignature enableSessionData

/-! ## The dummy signature: one for each signer, in the format of the validator -/

/-- `DUMMY_ECDSA_SIGNATURE`. -/
def dummyEcdsaSignature : Bytes :=
  toBe 32 0xe8b94748580ca0b4993c9a1b86b5be851bfc076ff5ce3a1ff65bf16392acfcb8 ++
  toBe 32 0x00f9b4f1aef1555c7fce5599fffb17e7c635502154a0333ba21f3ae491839af5 ++ [0x1c]

/-- `DUMMY_PASSKEY_SIGNATURE`. -/
def dummyPasskeySignature : Bytes :=
  toBe 32 0xc0 ++ toBe 32 0x120 ++ toBe 32 0x01 ++
  toBe 32 0x635bc6d0f68ff895cae8a288ecf7542a6a9cd555df784b73e1e2ea7e9104b1db ++
  toBe 32 0x15e9015d280cb19527881c625fee43fd3a405d5b0d199a8c8e6589a7381209e4 ++
  toBe 32 0 ++ toBe 32 0x2549 ++
  toBe 32 0x960de5880e8c687434170f6476605b8fe4aeb9a28632c7995cf3ba831d97631d ++
  List.replicate 12 0

/-- The dummy signature of one signer. -/
def dummySignature : SignerType → Bytes
  | .ecdsa => dummyEcdsaSignature
  | .passkey => dummyPasskeySignature

/-- `get_dummy_signature`. -/
def getDummySignature (d : SmartSessionDeps) (provider : SessionProvider) (address : Address)
    (signature : Bytes) (accountType : AccountType) : Outcome PrepareCallsError Bytes := do
  let decoded ← decodeSmartSessionSignature d signature accountType
  Outcome.assert (decoded.mode = .enable)
  let enableSessionData ← Outcome.unwrap decoded.enableSessionData
  let session := enableSessionData.enableSession.sessionToEnable
  let signers ← decodeSigners d session.sessionValidatorInitData session.sessionValidator
  let signature :=
    if isOwnableValidatorAddress session.sessionValidator then signers.flatMap dummySignature
    else d.signatures.encode (signers.map dummySignature)
  encodeUseOrEnableSmartSessionSignature d provider decoded.permissionId address accountType
    signature enableSessionData

/-- The part of `handler_internal` that depends on the stored context. -/
def dummySignatureOfContext (d : SmartSessionDeps) (provider : SessionProvider) (address : Address)
    (accountType : AccountType) (context : Bytes) : Outcome PrepareCallsError Bytes := do
  let (_, signature) ← splitPermissionsContextAndCheckValidator d context
  getDummySignature d provider address signature accountType

/-! ## What never panics, one lemma for each part -/

variable {d : SmartSessionDeps} {provider : SessionProvider} {address : Address}
  {accountType : AccountType}

theorem signerTypeAndLength_ne_panic (type : Option UInt8) :
    signerTypeAndLength type ≠ .panic := by
  unfold signerTypeAndLength
  split <;> exact nofun

theorem decodeSigner_ne_panic (data : Bytes) : decodeSigner data ≠ .panic := by
  unfold decodeSigner
  refine Outcome.bind_ne_panic (signerTypeAndLength_ne_panic _) fun layout _ => ?_
  refine Outcome.bind_ne_panic Outcome.ensure_ne_panic fun _ _ => ?_
  exact nofun

theorem decodeSignersLoop_ne_panic (signerCount : Nat) :
    ∀ data, decodeSignersLoop signerCount data ≠ .panic := by
  induction signerCount with
  | zero =>
    intro data
    exact Outcome.bind_ne_panic Outcome.ensure_ne_panic fun _ _ => nofun
  | succ signerCount ih =>
    intro data
    refine Outcome.bind_ne_panic (decodeSigner_ne_panic data) fun signer _ => ?_
    exact Outcome.bind_ne_panic (ih _) fun signers _ => nofun

theorem decodeSigners_ne_panic (data : Bytes) (validatorAddress : Address) :
    decodeSigners d data validatorAddress ≠ .panic := by
  unfold decodeSigners
  extract_lets owners
  split
  · exact nofun
  · cases data with
    | nil => exact nofun
    | cons signerCount rest => exact decodeSignersLoop_ne_panic _ rest

/-- Every slice lies inside the signature: there are as many as fit. -/
theorem splitSignatures_ne_panic (signature : Bytes) : splitSignatures signature ≠ .panic := by
  refine Outcome.mapM_ne_panic fun i hi => ?_
  have hlt := List.mem_range.mp hi
  have hle : (i + 1) * ecdsaSignatureWithRecoveryLength ≤ signature.length :=
    Nat.le_trans (Nat.mul_le_mul_right _ hlt) (Nat.div_mul_le_self _ _)
  rw [Nat.succ_mul] at hle
  rw [ne_eq, Outcome.slice_eq_panic, not_not]
  exact ⟨Nat.le_add_right _ _, hle⟩

theorem decodeAndConvertSignatureFormat_ne_panic (signature : Bytes) (validatorAddress : Address) :
    decodeAndConvertSignatureFormat d signature validatorAddress ≠ .panic := by
  unfold decodeAndConvertSignatureFormat
  split
  · split <;> exact nofun
  · split
    · exact nofun
    · split
      · exact Outcome.bind_ne_panic (splitSignatures_ne_panic signature) fun _ _ => nofun
      · exact nofun

theorem encodeEnableSignature_ne_panic (signature : Bytes) (enableSessionData : EnableSessionData) :
    encodeEnableSignature d accountType signature enableSessionData ≠ .panic :=
  Outcome.bind_ne_panic Outcome.ofExcept_ne_panic fun _ _ => nofun

theorem encodeUseOrEnable_ne_panic (permissionId : B256) (signature : Bytes)
    (enableSessionData : EnableSessionData) :
    encodeUseOrEnableSmartSessionSignature d provider permissionId address accountType signature
      enableSessionData ≠ .panic := by
  refine Outcome.bind_ne_panic Outcome.ofExcept_ne_panic fun sessionEnabled _ => ?_
  refine Outcome.bind_ne_panic (decodeAndConvertSignatureFormat_ne_panic _ _) fun converted _ => ?_
  cases sessionEnabled with
  | true => exact nofun
  | false => exact encodeEnableSignature_ne_panic _ _

theorem splitPermissionsContext_ne_panic (context : Bytes) :
    splitPermissionsContextAndCheckValidator d context ≠ .panic := by
  refine Outcome.bind_ne_panic Outcome.okOr_ne_panic fun _ _ => ?_
  exact Outcome.bind_ne_panic Outcome.ensure_ne_panic fun _ _ => nofun

/-! ## What panics

Two places: a slice that starts behind the end of an empty signature, and the assertion that the
mode is `Enable`. -/

/-- Slicing and splitting off the validator succeeds. -/
def HasValidator (accountType : AccountType) (permissionEnableSig : Bytes) : Prop :=
  if accountType = .kernel then
    ¬ [0x01] <+: permissionEnableSig ∧ 21 ≤ permissionEnableSig.length
  else 20 ≤ permissionEnableSig.length

/-- The data behind the mode byte holds a session to enable. -/
def HoldsSession (d : SmartSessionDeps) (compressedData : Bytes) (session : EnableSession) : Prop :=
  ∃ data signature, d.decompress compressedData = .ok data ∧
    d.enableSessionSig.decode data = .ok (session, signature)

/-- The smart-session signatures that crash the handler. -/
def CrashesOn (d : SmartSessionDeps) (accountType : AccountType) : Bytes → Prop
  | [] => False
  | mode :: rest =>
    match d.modeTryFrom mode with
    | none => False
    -- a permission id is there, and the mode is not the one asserted
    | some .use => 32 ≤ rest.length
    -- a byte is sliced off an empty enable signature
    | some .enable => ∃ session, HoldsSession d rest session ∧
        accountType = .kernel ∧ session.permissionEnableSig = []
    -- the same, or the session decodes, and the mode is not the one asserted
    | some .unsafeEnable => ∃ session, HoldsSession d rest session ∧
        (HasValidator accountType session.permissionEnableSig ∨
          accountType = .kernel ∧ session.permissionEnableSig = [])

/-- The contexts that crash the handler. -/
def Crashes (d : SmartSessionDeps) (accountType : AccountType) (context : Bytes) : Prop :=
  ∃ signature, context = d.smartSessionsAddress.bytes ++ signature ∧
    CrashesOn d accountType signature

theorem splitPermissionEnableSig_panic_iff {permissionEnableSig : Bytes} :
    splitPermissionEnableSig accountType permissionEnableSig = .panic ↔
      accountType = .kernel ∧ permissionEnableSig = [] := by
  unfold splitPermissionEnableSig
  by_cases hkernel : accountType = .kernel
  · cases permissionEnableSig with
    | nil => simp [hkernel, Outcome.ensure, Outcome.sliceFrom]
    | cons b bs => simp [hkernel, Outcome.bind_eq_panic]
  · simp [hkernel, Outcome.bind_eq_panic]

theorem splitPermissionEnableSig_isOk_iff {permissionEnableSig : Bytes} :
    (∃ split, splitPermissionEnableSig accountType permissionEnableSig = .ok split) ↔
      HasValidator accountType permissionEnableSig := by
  unfold splitPermissionEnableSig HasValidator FixedBytes.splitAt?
  -- on Kernel a byte stands before the validator
  by_cases hkernel : accountType = .kernel
  · simp only [hkernel, beq_self_eq_true, true_and, if_true, Outcome.bind_eq_ok,
      Outcome.ensure_eq_ok, Outcome.sliceFrom_eq_ok, Outcome.okOr_eq_ok]
    constructor
    · rintro ⟨split, -, hnot, sliced, ⟨-, rfl⟩, hsplit⟩
      split at hsplit
      · rename_i hlength
        rw [List.length_drop] at hlength
        exact ⟨hnot, by omega⟩
      · cases hsplit
    · rintro ⟨hnot, hlength⟩
      have hdrop : 20 ≤ (permissionEnableSig.drop 1).length := by rw [List.length_drop]; omega
      exact ⟨_, (), hnot, _, ⟨by omega, rfl⟩, dif_pos hdrop⟩
  · have hbeq : (accountType == AccountType.kernel) = false := by
      rw [beq_eq_false_iff_ne]; exact hkernel
    simp only [hbeq, hkernel, Bool.false_eq_true, false_and, not_false_eq_true, if_false,
      Outcome.bind_eq_ok, Outcome.ensure_eq_ok, Outcome.sliceFrom_eq_ok, Outcome.okOr_eq_ok,
      List.drop_zero, Nat.zero_le, true_and, exists_eq_left', exists_const]
    constructor
    · rintro ⟨split, hsplit⟩
      split at hsplit
      · assumption
      · cases hsplit
    · intro hlength
      exact ⟨_, dif_pos hlength⟩

theorem decodeEnable_panic_iff {mode : SmartSessionMode} {rest : Bytes} :
    decodeEnable d mode rest accountType = .panic ↔
      ∃ session, HoldsSession d rest session ∧
        accountType = .kernel ∧ session.permissionEnableSig = [] := by
  unfold decodeEnable HoldsSession
  simp only [Outcome.bind_eq_panic, Outcome.ofExcept_ne_panic, Outcome.ofExcept_eq_ok, false_or,
    splitPermissionEnableSig_panic_iff, Outcome.pure_eq, reduceCtorEq, and_false, exists_false,
    or_false, Prod.exists]
  constructor
  · rintro ⟨data, hdata, session, signature, hdecode, hkernel, hempty⟩
    exact ⟨session, ⟨data, signature, hdata, hdecode⟩, hkernel, hempty⟩
  · rintro ⟨session, ⟨data, signature, hdata, hdecode⟩, hkernel, hempty⟩
    exact ⟨data, hdata, session, signature, hdecode, hkernel, hempty⟩

theorem decodeEnable_isOk_iff {mode : SmartSessionMode} {rest : Bytes} :
    (∃ decoded, decodeEnable d mode rest accountType = .ok decoded) ↔
      ∃ session, HoldsSession d rest session ∧
        HasValidator accountType session.permissionEnableSig := by
  simp only [decodeEnable_eq_ok_iff, ← splitPermissionEnableSig_isOk_iff]
  constructor
  · rintro ⟨-, data, session, signature, validator, sig, hdata, hdecode, hsplit, -⟩
    exact ⟨session, ⟨data, signature, hdata, hdecode⟩, _, hsplit⟩
  · rintro ⟨session, ⟨data, signature, hdata, hdecode⟩, ⟨validator, sig⟩, hsplit⟩
    exact ⟨_, data, session, signature, validator, sig, hdata, hdecode, hsplit, rfl⟩

/-- Behind the decoder only the assertion can fail. -/
theorem getDummySignature_panic_iff {signature : Bytes} :
    getDummySignature d provider address signature accountType = .panic ↔
      decodeSmartSessionSignature d signature accountType = .panic ∨
      ∃ decoded, decodeSmartSessionSignature d signature accountType = .ok decoded ∧
        decoded.mode ≠ .enable := by
  unfold getDummySignature
  rw [Outcome.bind_eq_panic]
  refine or_congr_right (exists_congr fun decoded => and_congr_right fun hdecoded => ?_)
  rw [Outcome.bind_eq_panic, Outcome.assert_eq_panic]
  refine ⟨fun h => ?_, Or.inl⟩
  obtain hmode | ⟨u, hmode, hrest⟩ := h
  · exact hmode
  · -- an `Enable` signature carries a session, and nothing behind it panics
    rw [Outcome.assert_eq_ok] at hmode
    obtain ⟨enableSessionData, hdata⟩ := decode_enable_eq hdecoded hmode
    refine absurd hrest (Outcome.bind_ne_panic ?_ fun data _ => ?_)
    · rw [ne_eq, Outcome.unwrap_eq_panic, hdata]
      exact nofun
    · exact Outcome.bind_ne_panic (decodeSigners_ne_panic _ _) fun _ _ =>
        encodeUseOrEnable_ne_panic _ _ _

theorem splitPermissionsContext_eq_ok_iff {context signature : Bytes} {validatorAddress : Address} :
    splitPermissionsContextAndCheckValidator d context = .ok (validatorAddress, signature) ↔
      validatorAddress = d.smartSessionsAddress ∧
        context = validatorAddress.bytes ++ signature := by
  unfold splitPermissionsContextAndCheckValidator
  simp only [Outcome.bind_eq_ok, Outcome.okOr_eq_ok, Outcome.ensure_eq_ok, Outcome.pure_eq,
    Outcome.ok.injEq, Prod.exists, Prod.mk.injEq, FixedBytes.splitAt?_eq_some_iff, exists_const]
  constructor
  · rintro ⟨validator, sig, hcontext, hvalidator, rfl, rfl⟩
    exact ⟨hvalidator, hcontext⟩
  · rintro ⟨hvalidator, hcontext⟩
    exact ⟨validatorAddress, signature, hcontext, hvalidator, rfl, rfl⟩

/-- A signature crashes the handler when decoding it panics or gives another mode than `Enable`.
    The case is decided by the mode byte. -/
theorem crashesOn_iff {signature : Bytes} :
    CrashesOn d accountType signature ↔
      decodeSmartSessionSignature d signature accountType = .panic ∨
      ∃ decoded, decodeSmartSessionSignature d signature accountType = .ok decoded ∧
        decoded.mode ≠ .enable := by
  cases signature with
  | nil => simp [CrashesOn, decodeSmartSessionSignature]
  | cons mode rest =>
    rw [CrashesOn, decodeSmartSessionSignature]
    cases d.modeTryFrom mode with
    | none => simp
    | some m =>
      cases m with
      | use =>
        -- the mode of use is never the one that is expected
        show 32 ≤ rest.length ↔ decodeUse rest = .panic ∨
          ∃ decoded, decodeUse rest = .ok decoded ∧ _
        unfold decodeUse FixedBytes.splitAt?
        by_cases hlength : 32 ≤ rest.length <;> simp [hlength, Outcome.okOr]
      | enable =>
        -- the mode of enable always is, so only a panic counts
        show _ ↔ decodeEnable d .enable rest accountType = .panic ∨
          ∃ decoded, decodeEnable d .enable rest accountType = .ok decoded ∧ _
        rw [decodeEnable_panic_iff]
        refine (or_iff_left ?_).symm
        rintro ⟨decoded, hdecoded, hne⟩
        exact hne (mode_of_decodeEnable hdecoded)
      | unsafeEnable =>
        -- the third mode is decoded like enable, and is not expected
        show _ ↔ decodeEnable d .unsafeEnable rest accountType = .panic ∨
          ∃ decoded, decodeEnable d .unsafeEnable rest accountType = .ok decoded ∧ _
        have hne : ∀ decoded, decodeEnable d .unsafeEnable rest accountType = .ok decoded →
            decoded.mode ≠ .enable := by
          intro decoded hdecoded
          rw [mode_of_decodeEnable hdecoded]
          intro hmode
          cases hmode
        have haccepted : (∃ decoded, decodeEnable d .unsafeEnable rest accountType = .ok decoded ∧
            decoded.mode ≠ .enable) ↔ ∃ session, HoldsSession d rest session ∧
              HasValidator accountType session.permissionEnableSig := by
          have hisOk :
              (∃ decoded, decodeEnable d .unsafeEnable rest accountType = .ok decoded) ↔ _ :=
            decodeEnable_isOk_iff
          rw [← hisOk]
          exact exists_congr fun decoded => ⟨fun h => h.1, fun h => ⟨h, hne decoded h⟩⟩
        rw [decodeEnable_panic_iff, haccepted, ← exists_or]
        exact exists_congr fun session => by rw [← and_or_left, or_comm]

/-- **Which contexts crash the handler**, for every account and whatever the provider answers.
    The provider is asked behind the places that can panic. -/
theorem dummySignatureOfContext_ne_panic_iff (d : SmartSessionDeps) (provider : SessionProvider)
    (address : Address) (accountType : AccountType) (context : Bytes) :
    dummySignatureOfContext d provider address accountType context ≠ .panic ↔
      ¬ Crashes d accountType context := by
  refine not_congr ?_
  unfold dummySignatureOfContext Crashes
  rw [Outcome.bind_eq_panic, or_iff_right (splitPermissionsContext_ne_panic context)]
  constructor
  · rintro ⟨⟨validatorAddress, signature⟩, hsplit, hpanic⟩
    obtain ⟨rfl, hcontext⟩ := splitPermissionsContext_eq_ok_iff.mp hsplit
    exact ⟨signature, hcontext, crashesOn_iff.mpr (getDummySignature_panic_iff.mp hpanic)⟩
  · rintro ⟨signature, hcontext, hcrashes⟩
    exact ⟨(d.smartSessionsAddress, signature),
      splitPermissionsContext_eq_ok_iff.mpr ⟨rfl, hcontext⟩,
      getDummySignature_panic_iff.mpr (crashesOn_iff.mp hcrashes)⟩

/-! ## A stored context that crashes the handler -/

/-- The activation of the demo item, with these bytes for a context. -/
def activateWith (context : Bytes) : SessionRequest :=
  .activate demoAccount
    { pci := demoPci
      expiry := 4102444800
      signer := { type := "keys", data := .array [] }
      permissions := []
      policies := []
      context := context }

/-- **The client has any bytes stored**: nothing between it and the store looks at them. -/
theorem context_stored (context : Bytes) :
    ∃ t item, sessionSystem.run emptyStore
        (createRun ++ [.receive (activateWith context), .advance 1, .advance 1]) = some t ∧
      t.store (demoAccount, demoPci) = some item ∧ item.context = some context :=
  ⟨_, _, rfl, rfl, rfl⟩

/-- The module's address, the mode byte of `Use`, and a permission id. -/
def useContext : Bytes :=
  standardSmartSession.smartSessionsAddress.bytes ++ 0x00 :: List.replicate 32 0

/-- Activated with it, an item crashes prepare-calls. -/
theorem useContext_crashes :
    (∃ t item, sessionSystem.run emptyStore
        (createRun ++ [.receive (activateWith useContext), .advance 1, .advance 1]) = some t ∧
      t.store (demoAccount, demoPci) = some item ∧ item.context = some useContext) ∧
    ∀ provider address,
      dummySignatureOfContext standardSmartSession provider address .safe useContext = .panic := by
  refine ⟨context_stored useContext, fun provider address => ?_⟩
  have hsplit : splitPermissionsContextAndCheckValidator standardSmartSession useContext
      = .ok (standardSmartSession.smartSessionsAddress, 0x00 :: List.replicate 32 0) :=
    splitPermissionsContext_eq_ok_iff.mpr ⟨rfl, rfl⟩
  have hdecode : ∃ decoded, decodeSmartSessionSignature standardSmartSession
      (0x00 :: List.replicate 32 0) .safe = .ok decoded ∧ decoded.mode ≠ .enable :=
    ⟨_, rfl, by decide⟩
  rw [dummySignatureOfContext, hsplit, Outcome.ok_bind]
  exact getDummySignature_panic_iff.mpr (Or.inr hdecode)

end BlockchainApi
