/-
  User operations as the co-signer sees them (`src/utils/crypto.rs`).

  `UserOperation` is the ERC-4337 v0.7 operation with 128-bit gas limits and fees.
  `UserOperation.getPacked` is the form whose hash the entry point computes: the gas fields are
  packed in pairs into words, and the optional factory and paymaster groups are collapsed into byte
  strings, to the empty one as soon as any member of the group is missing.

  1. **Packing**, from the source: `concat128` picks thirty-two bytes one by one, which are the two
     halves one after the other (`bytes_concat128`).

  2. **Reading back.** The entry point reads the packed form back; `highHalf`, `lowHalf`,
     `readInitCode` and `readPaymasterAndData` are that reading, and `getPacked_gas`,
     `getPacked_factoryGroup` and `getPacked_paymasterGroup` say what survives the packing: the gas
     fields always, a group exactly when it is complete.

  3. **Whole groups.** For operations whose groups are complete or absent the packed form is that of
     the standard (`packsTo_getPacked`), and every field is recovered from it (`unpack_getPacked`),
     so packing is injective on them (`packing_faithful`).

  The message prefix and the two signatures in one response are here too.
-/
import BlockchainApi.Primitives
import Mathlib.Data.List.GetD

namespace BlockchainApi

open ByteCodec

/-- `UserOperation`. -/
structure UserOperation where
  sender : Address
  nonce : U256
  callData : Bytes
  callGasLimit : U128
  verificationGasLimit : U128
  preVerificationGas : U256
  maxPriorityFeePerGas : U128
  maxFeePerGas : U128
  signature : Bytes
  factory : Option Address
  factoryData : Option Bytes
  paymaster : Option Address
  paymasterVerificationGasLimit : Option U128
  paymasterPostOpGasLimit : Option U128
  paymasterData : Option Bytes
  deriving DecidableEq

/-- `PackedUserOperation`. -/
structure PackedUserOperation where
  sender : Address
  nonce : U256
  initCode : Bytes
  callData : Bytes
  accountGasLimits : B256
  preVerificationGas : U256
  gasFees : B256
  paymasterAndData : Bytes
  signature : Bytes
  deriving DecidableEq

/-- `concat_128`: thirty-two bytes, picked one by one. -/
def concat128 (a b : FixedBytes 16) : FixedBytes 32 :=
  ⟨(List.range 32).map fun i => if 16 ≤ i then b.bytes.getD (i - 16) 0 else a.bytes.getD i 0,
    by rw [List.length_map, List.length_range]⟩

/-- `low_u128().to_be_bytes()`. -/
def gasBytes (x : U128) : FixedBytes 16 := FixedBytes.ofNat 16 x.toNat

namespace UserOperation

/-- The `init_code` of `get_packed`. -/
def initCode (op : UserOperation) : Bytes :=
  match op.factory, op.factoryData with
  | some factory, some factoryData => factory.bytes ++ factoryData
  | _, _ => []

/-- The `paymaster_and_data` of `get_packed`. -/
def paymasterAndData (op : UserOperation) : Bytes :=
  match op.paymaster, op.paymasterVerificationGasLimit, op.paymasterPostOpGasLimit,
      op.paymasterData with
  | some paymaster, some verificationGasLimit, some postOpGasLimit, some data =>
    paymaster.bytes ++ ((gasBytes verificationGasLimit).bytes ++
      ((gasBytes postOpGasLimit).bytes ++ data))
  | _, _, _, _ => []

/-- `UserOperation::get_packed`. -/
def getPacked (op : UserOperation) : PackedUserOperation where
  sender := op.sender
  nonce := op.nonce
  initCode := op.initCode
  callData := op.callData
  accountGasLimits := concat128 (gasBytes op.verificationGasLimit) (gasBytes op.callGasLimit)
  preVerificationGas := op.preVerificationGas
  gasFees := concat128 (gasBytes op.maxPriorityFeePerGas) (gasBytes op.maxFeePerGas)
  paymasterAndData := op.paymasterAndData
  signature := op.signature

end UserOperation

/-! ## Messages and signatures: what is signed, and what is answered -/

/-- `to_eip191_message`. -/
def toEip191Message (message : Bytes) : Bytes :=
  ("\x19Ethereum Signed Message:\n" ++ toString message.length).toUTF8.data.toList ++ message

/-- An ECDSA signature with its recovery value (`ethers::types::Signature`). -/
structure EthSignature where
  r : U256
  s : U256
  v : Nat

/-- `pack_signature`. -/
def packSignature (unpacked : EthSignature) : Bytes :=
  toBe 32 unpacked.r.toNat ++ (toBe 32 unpacked.s.toNat ++
    [if unpacked.v = 27 then 0x1b else 0x1c])

/-- `abi_encode_two_bytes_arrays`: both byte strings as one `bytes[]`. -/
def abiEncodeTwoBytesArrays (bytesArray : AbiCodec (List Bytes)) (bytes1 bytes2 : Bytes) : Bytes :=
  bytesArray.encode [bytes1, bytes2]

theorem decode_abiEncodeTwoBytesArrays {bytesArray : AbiCodec (List Bytes)}
    (h : bytesArray.RoundTrips) (bytes1 bytes2 : Bytes) :
    bytesArray.decode (abiEncodeTwoBytesArrays bytesArray bytes1 bytes2) = .ok [bytes1, bytes2] :=
  h _

/-- `bytes[]`, alone in its frame. -/
def bytesArrayAbi : Abi.Codec (List Bytes) :=
  Abi.Codec.tuple (Abi.Seq.item Abi.Codec.bytesArray)

/-- `OWNABLE_VALIDATOR_ADDRESS`. -/
def ownableValidatorAddress : Address :=
  FixedBytes.ofNat 20 0x2483da3a338895199e5e538530213157e931bf06

/-- `is_ownable_validator_address`. -/
def isOwnableValidatorAddress (address : Address) : Bool := address = ownableValidatorAddress

/-! ## Reading a packed operation back, as the entry point does -/

theorem bytes_concat128 (a b : FixedBytes 16) : (concat128 a b).bytes = a.bytes ++ b.bytes := by
  have ha : a.bytes.length = 16 := a.length_eq
  have hb : b.bytes.length = 16 := b.length_eq
  apply List.ext_getElem
  · rw [(concat128 a b).length_eq, List.length_append, ha, hb]
  · intro i hi hi'
    rw [(concat128 a b).length_eq] at hi
    simp only [concat128, List.getElem_map, List.getElem_range]
    by_cases h : 16 ≤ i
    · rw [if_pos h, List.getElem_append_right (by omega), List.getD_eq_getElem _ _ (by omega)]
      simp only [ha]
    · rw [if_neg h, List.getElem_append_left (by omega), List.getD_eq_getElem _ _ (by omega)]

/-- The number the first sixteen bytes of a word denote. -/
def highHalf (word : B256) : U128 := BitVec.ofNat 128 (ofBe (word.bytes.take 16))

/-- The number the last sixteen bytes of a word denote. -/
def lowHalf (word : B256) : U128 := BitVec.ofNat 128 (ofBe (word.bytes.drop 16))

theorem ofBe_gasBytes (x : U128) : BitVec.ofNat 128 (ofBe (gasBytes x).bytes) = x := by
  have hlt : x.toNat < 256 ^ 16 := x.isLt
  show BitVec.ofNat 128 (ofBe (toBe 16 x.toNat)) = x
  rw [ofBe_toBe_of_lt hlt, BitVec.ofNat_toNat, BitVec.setWidth_eq]

@[simp] theorem highHalf_concat128 (x y : U128) :
    highHalf (concat128 (gasBytes x) (gasBytes y)) = x := by
  rw [highHalf, bytes_concat128, List.take_left' (gasBytes x).length_eq, ofBe_gasBytes]

@[simp] theorem lowHalf_concat128 (x y : U128) :
    lowHalf (concat128 (gasBytes x) (gasBytes y)) = y := by
  rw [lowHalf, bytes_concat128, List.drop_left' (gasBytes x).length_eq, ofBe_gasBytes]

/-- The factory and its data; an empty `initCode` means neither. -/
def readInitCode (initCode : Bytes) : Option (Address × Bytes) :=
  if h : 20 ≤ initCode.length then some (FixedBytes.front 20 initCode h, initCode.drop 20)
  else none

/-- The paymaster, its two gas limits and its data; an empty `paymasterAndData` means none. -/
def readPaymasterAndData (paymasterAndData : Bytes) : Option (Address × U128 × U128 × Bytes) :=
  if h : 52 ≤ paymasterAndData.length then
    some (FixedBytes.front 20 paymasterAndData (Nat.le_trans (by decide) h),
      BitVec.ofNat 128 (ofBe ((paymasterAndData.drop 20).take 16)),
      BitVec.ofNat 128 (ofBe ((paymasterAndData.drop 36).take 16)),
      paymasterAndData.drop 52)
  else none

theorem readInitCode_append (factory : Address) (factoryData : Bytes) :
    readInitCode (factory.bytes ++ factoryData) = some (factory, factoryData) := by
  have hlen : 20 ≤ (factory.bytes ++ factoryData).length := by
    rw [List.length_append, factory.length_eq]; omega
  rw [readInitCode, dif_pos hlen, FixedBytes.front_append, FixedBytes.drop_bytes_append]

theorem readPaymasterAndData_append (paymaster : Address)
    (verificationGasLimit postOpGasLimit : U128) (data : Bytes) :
    readPaymasterAndData (paymaster.bytes ++ ((gasBytes verificationGasLimit).bytes ++
      ((gasBytes postOpGasLimit).bytes ++ data)))
      = some (paymaster, verificationGasLimit, postOpGasLimit, data) := by
  generalize hpost : (gasBytes postOpGasLimit).bytes ++ data = post
  generalize hver : (gasBytes verificationGasLimit).bytes ++ post = ver
  have hdrop20 : (paymaster.bytes ++ ver).drop 20 = ver := FixedBytes.drop_bytes_append _ _
  have hdrop36 : (paymaster.bytes ++ ver).drop (20 + 16) = post := by
    rw [← List.drop_drop, hdrop20, ← hver, FixedBytes.drop_bytes_append]
  have hdrop52 : (paymaster.bytes ++ ver).drop (36 + 16) = data := by
    rw [← List.drop_drop, hdrop36, ← hpost, FixedBytes.drop_bytes_append]
  have hlen : 52 ≤ (paymaster.bytes ++ ver).length := by
    rw [← hver, ← hpost]
    simp only [List.length_append, FixedBytes.length_bytes]
    omega
  rw [readPaymasterAndData, dif_pos hlen, FixedBytes.front_append, hdrop20, hdrop36, hdrop52,
    ← hver, List.take_left' (gasBytes verificationGasLimit).length_eq, ofBe_gasBytes,
    ← hpost, List.take_left' (gasBytes postOpGasLimit).length_eq, ofBe_gasBytes]

namespace UserOperation

variable (op : UserOperation)

/-- The factory group, when both members are there. -/
def factoryGroup : Option (Address × Bytes) :=
  match op.factory, op.factoryData with
  | some factory, some factoryData => some (factory, factoryData)
  | _, _ => none

/-- The paymaster group, when all four members are there. -/
def paymasterGroup : Option (Address × U128 × U128 × Bytes) :=
  match op.paymaster, op.paymasterVerificationGasLimit, op.paymasterPostOpGasLimit,
      op.paymasterData with
  | some paymaster, some verificationGasLimit, some postOpGasLimit, some data =>
    some (paymaster, verificationGasLimit, postOpGasLimit, data)
  | _, _, _, _ => none

/-- **The packed gas fields are the gas fields**, two of them in each word, as the entry point
    takes them apart. -/
theorem getPacked_gas :
    highHalf op.getPacked.accountGasLimits = op.verificationGasLimit ∧
    lowHalf op.getPacked.accountGasLimits = op.callGasLimit ∧
    highHalf op.getPacked.gasFees = op.maxPriorityFeePerGas ∧
    lowHalf op.getPacked.gasFees = op.maxFeePerGas :=
  ⟨highHalf_concat128 _ _, lowHalf_concat128 _ _, highHalf_concat128 _ _, lowHalf_concat128 _ _⟩

/-- **A complete factory group survives the packing**, and an incomplete one is dropped: the byte
    string is empty as soon as one member is missing. -/
theorem getPacked_factoryGroup : readInitCode op.getPacked.initCode = op.factoryGroup := by
  show readInitCode op.initCode = op.factoryGroup
  unfold initCode factoryGroup
  cases op.factory with
  | none => rfl
  | some factory =>
    cases op.factoryData with
    | none => rfl
    | some factoryData => exact readInitCode_append factory factoryData

/-- **A complete paymaster group survives the packing**, and an incomplete one is dropped. -/
theorem getPacked_paymasterGroup :
    readPaymasterAndData op.getPacked.paymasterAndData = op.paymasterGroup := by
  show readPaymasterAndData op.paymasterAndData = op.paymasterGroup
  unfold paymasterAndData paymasterGroup
  cases op.paymaster with
  | none => rfl
  | some paymaster =>
    cases op.paymasterVerificationGasLimit with
    | none => rfl
    | some verificationGasLimit =>
      cases op.paymasterPostOpGasLimit with
      | none => rfl
      | some postOpGasLimit =>
        cases op.paymasterData with
        | none => rfl
        | some data => exact readPaymasterAndData_append _ _ _ _

/-! ### Whole groups: where nothing is lost -/

/-- Both groups are whole: all their members are there, or none is. -/
structure Complete : Prop where
  factory : op.factoryData.isSome = op.factory.isSome
  paymaster : op.paymasterVerificationGasLimit.isSome = op.paymaster.isSome ∧
    op.paymasterPostOpGasLimit.isSome = op.paymaster.isSome ∧
    op.paymasterData.isSome = op.paymaster.isSome

/-- What the packed form of an operation has to be: the gas fields in pairs of sixteen bytes, the
    groups one after the other, and nothing for what is absent. -/
structure PacksTo (packed : PackedUserOperation) : Prop where
  sender : packed.sender = op.sender
  nonce : packed.nonce = op.nonce
  callData : packed.callData = op.callData
  preVerificationGas : packed.preVerificationGas = op.preVerificationGas
  signature : packed.signature = op.signature
  accountGasLimits : packed.accountGasLimits.bytes =
    toBe 16 op.verificationGasLimit.toNat ++ toBe 16 op.callGasLimit.toNat
  gasFees : packed.gasFees.bytes =
    toBe 16 op.maxPriorityFeePerGas.toNat ++ toBe 16 op.maxFeePerGas.toNat
  initCode : packed.initCode =
    (op.factory.map FixedBytes.bytes).getD [] ++ op.factoryData.getD []
  paymasterAndData : packed.paymasterAndData =
    (op.paymaster.map FixedBytes.bytes).getD [] ++
      ((op.paymasterVerificationGasLimit.map fun gas => toBe 16 gas.toNat).getD [] ++
        ((op.paymasterPostOpGasLimit.map fun gas => toBe 16 gas.toNat).getD [] ++
          op.paymasterData.getD []))

variable {op}

/-- A whole factory group is there with both members, or absent with both. -/
theorem Complete.factory_cases (h : op.Complete) :
    (∃ factory factoryData, op.factory = some factory ∧ op.factoryData = some factoryData) ∨
      op.factory = none ∧ op.factoryData = none := by
  have hfactory := h.factory
  cases hf : op.factory with
  | none =>
    rw [hf, Option.isSome_none, Option.isSome_eq_false_iff, Option.isNone_iff_eq_none] at hfactory
    exact .inr ⟨rfl, hfactory⟩
  | some factory =>
    rw [hf, Option.isSome_some, Option.isSome_iff_exists] at hfactory
    obtain ⟨factoryData, hdata⟩ := hfactory
    exact .inl ⟨factory, factoryData, rfl, hdata⟩

/-- So is a whole paymaster group. -/
theorem Complete.paymaster_cases (h : op.Complete) :
    (∃ paymaster verificationGasLimit postOpGasLimit data, op.paymaster = some paymaster ∧
        op.paymasterVerificationGasLimit = some verificationGasLimit ∧
        op.paymasterPostOpGasLimit = some postOpGasLimit ∧ op.paymasterData = some data) ∨
      op.paymaster = none ∧ op.paymasterVerificationGasLimit = none ∧
        op.paymasterPostOpGasLimit = none ∧ op.paymasterData = none := by
  obtain ⟨hver, hpost, hdata⟩ := h.paymaster
  cases hp : op.paymaster with
  | none =>
    rw [hp, Option.isSome_none, Option.isSome_eq_false_iff, Option.isNone_iff_eq_none]
      at hver hpost hdata
    exact .inr ⟨rfl, hver, hpost, hdata⟩
  | some paymaster =>
    rw [hp, Option.isSome_some, Option.isSome_iff_exists] at hver hpost hdata
    obtain ⟨verificationGasLimit, hver⟩ := hver
    obtain ⟨postOpGasLimit, hpost⟩ := hpost
    obtain ⟨data, hdata⟩ := hdata
    exact .inl ⟨paymaster, verificationGasLimit, postOpGasLimit, data, rfl, hver, hpost, hdata⟩

/-- **The packed form** of an operation with whole groups. -/
theorem packsTo_getPacked (h : op.Complete) : op.PacksTo op.getPacked where
  sender := rfl
  nonce := rfl
  callData := rfl
  preVerificationGas := rfl
  signature := rfl
  accountGasLimits := bytes_concat128 _ _
  gasFees := bytes_concat128 _ _
  initCode := by
    show op.initCode = _
    unfold initCode
    rcases h.factory_cases with ⟨factory, factoryData, hf, hd⟩ | ⟨hf, hd⟩
    · rw [hf, hd]
      rfl
    · rw [hf, hd]
      rfl
  paymasterAndData := by
    show op.paymasterAndData = _
    unfold paymasterAndData
    rcases h.paymaster_cases with ⟨paymaster, ver, post, data, hp, hv, ho, hd⟩ | ⟨hp, hv, ho, hd⟩
    · rw [hp, hv, ho, hd]
      rfl
    · rw [hp, hv, ho, hd]
      rfl

end UserOperation

/-- The operation that a packed form was made of. -/
def PackedUserOperation.unpack (packed : PackedUserOperation) : UserOperation :=
  let factoryGroup := readInitCode packed.initCode
  let paymasterGroup := readPaymasterAndData packed.paymasterAndData
  { sender := packed.sender
    nonce := packed.nonce
    callData := packed.callData
    callGasLimit := lowHalf packed.accountGasLimits
    verificationGasLimit := highHalf packed.accountGasLimits
    preVerificationGas := packed.preVerificationGas
    maxPriorityFeePerGas := highHalf packed.gasFees
    maxFeePerGas := lowHalf packed.gasFees
    signature := packed.signature
    factory := factoryGroup.map fun group => group.1
    factoryData := factoryGroup.map fun group => group.2
    paymaster := paymasterGroup.map fun group => group.1
    paymasterVerificationGasLimit := paymasterGroup.map fun group => group.2.1
    paymasterPostOpGasLimit := paymasterGroup.map fun group => group.2.2.1
    paymasterData := paymasterGroup.map fun group => group.2.2.2 }

namespace UserOperation

variable {op : UserOperation}

/-- **Every field is recovered** from the packed form of an operation with whole groups. -/
theorem unpack_getPacked (h : op.Complete) : op.getPacked.unpack = op := by
  obtain ⟨hver, hcall, hpriority, hmax⟩ := op.getPacked_gas
  have hfactory := op.getPacked_factoryGroup
  have hpaymaster := op.getPacked_paymasterGroup
  unfold PackedUserOperation.unpack
  rw [hver, hcall, hpriority, hmax, hfactory, hpaymaster]
  unfold factoryGroup paymasterGroup
  cases op with
  | mk sender nonce callData callGas verificationGas preVerificationGas priorityFee maxFee
      signature factory factoryData paymaster verLimit postLimit paymasterData =>
    rcases h.factory_cases with ⟨_, _, rfl, rfl⟩ | ⟨rfl, rfl⟩ <;>
      rcases h.paymaster_cases with ⟨_, _, _, _, rfl, rfl, rfl, rfl⟩ | ⟨rfl, rfl, rfl, rfl⟩ <;>
      rfl

/-- **User operations are packed faithfully and injectively**, where their groups are whole: each
    packed field has its layout, and two operations with one packed form are the same. -/
theorem packing_faithful (op : UserOperation) (h : op.Complete) :
    op.PacksTo op.getPacked ∧ op.getPacked.unpack = op ∧
      ∀ op' : UserOperation, op'.Complete → op'.getPacked = op.getPacked → op' = op := by
  refine ⟨packsTo_getPacked h, unpack_getPacked h, fun op' h' heq => ?_⟩
  rw [← unpack_getPacked h', heq, unpack_getPacked h]

/-- The first operation of an account: its factory deploys the sender, and nobody pays for it. -/
def deployment : UserOperation where
  sender := FixedBytes.ofNat 20 1
  nonce := 0
  callData := [0xb6, 0x1d]
  callGasLimit := 100000
  verificationGasLimit := 200000
  preVerificationGas := 50000
  maxPriorityFeePerGas := 1
  maxFeePerGas := 30
  signature := []
  factory := some (FixedBytes.ofNat 20 2)
  factoryData := some [0x60]
  paymaster := none
  paymasterVerificationGasLimit := none
  paymasterPostOpGasLimit := none
  paymasterData := none

theorem packing_faithful_deployment :
    deployment.Complete ∧ deployment.PacksTo deployment.getPacked ∧
      deployment.getPacked.unpack = deployment ∧
      ∀ op' : UserOperation, op'.Complete → op'.getPacked = deployment.getPacked →
        op' = deployment :=
  have whole : deployment.Complete := ⟨rfl, rfl, rfl, rfl⟩
  ⟨whole, packing_faithful deployment whole⟩

end UserOperation

end BlockchainApi
