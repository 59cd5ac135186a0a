/-
  The user operation of a prepared call, and what the co-signer gets of it
  (`src/handlers/json_rpc/wallet/send_prepared_calls.rs`).

  `UserOperationV07` is what the client sends and what the bundler is given: all quantities are
  256-bit words.  The co-signer's `UserOperation` has 128-bit gas limits and fees, filled with the
  low sixteen bytes, and is hashed in packed form, where an optional group is there or not as a
  whole.  So a signature may be on another operation than the one that is submitted, in two ways.

  1. **Cut quantities.** Sixteen bytes keep a quantity exactly when it fits them
     (`toNat_lowU128_eq_iff`), so the operation handed over agrees with the submitted one when the
     gas fits (`agrees_iff_gasFits`).

  2. **Incomplete groups.** A group that is not whole is dropped by the packing, so the packed
     operation agrees when the groups are complete besides (`packedAgrees_iff`).

  `coSignUserOperation_agrees_iff` says when nothing is lost on either way: `FitsPacking`.
  Agreement is field by field, without the signature, which the co-signer does not hash.
-/
import BlockchainApi.Utils.UserOperation

namespace BlockchainApi

open ByteCodec

/-- `UserOperationV07`. -/
structure UserOperationV07 where
  sender : Address
  nonce : U256
  factory : Option Address
  factoryData : Option Bytes
  callData : Bytes
  callGasLimit : U256
  verificationGasLimit : U256
  preVerificationGas : U256
  maxFeePerGas : U256
  maxPriorityFeePerGas : U256
  paymaster : Option Address
  paymasterVerificationGasLimit : Option U256
  paymasterPostOpGasLimit : Option U256
  paymasterData : Option Bytes
  signature : Bytes
  deriving DecidableEq

/-- `U256::from(&x.to_be_bytes())`. -/
def wholeU256 (x : U256) : U256 := BitVec.ofNat 256 (ofBe (toBe 32 x.toNat))

/-- `U128::from(&x.to_be_bytes::<32>()[16..])`. -/
def lowU128 (x : U256) : U128 := BitVec.ofNat 128 (ofBe ((toBe 32 x.toNat).drop 16))

/-- The operation handed to the co-signer, with the signature of the request. -/
def coSignUserOperation (data : UserOperationV07) (signature : Bytes) : UserOperation where
  sender := data.sender
  nonce := wholeU256 data.nonce
  callData := data.callData
  callGasLimit := lowU128 data.callGasLimit
  verificationGasLimit := lowU128 data.verificationGasLimit
  preVerificationGas := wholeU256 data.preVerificationGas
  maxPriorityFeePerGas := lowU128 data.maxPriorityFeePerGas
  maxFeePerGas := lowU128 data.maxFeePerGas
  signature := signature
  factory := data.factory
  factoryData := data.factoryData
  paymaster := data.paymaster
  paymasterVerificationGasLimit := data.paymasterVerificationGasLimit.map lowU128
  paymasterPostOpGasLimit := data.paymasterPostOpGasLimit.map lowU128
  paymasterData := data.paymasterData

/-! ## Agreement: two forms of one operation, field by field -/

/-- The co-signer's operation agrees with the submitted one in every field but the signature. -/
structure Agrees (u : UserOperation) (op : UserOperationV07) : Prop where
  sender : u.sender = op.sender
  nonce : u.nonce = op.nonce
  factory : u.factory = op.factory
  factoryData : u.factoryData = op.factoryData
  callData : u.callData = op.callData
  callGasLimit : u.callGasLimit.toNat = op.callGasLimit.toNat
  verificationGasLimit : u.verificationGasLimit.toNat = op.verificationGasLimit.toNat
  preVerificationGas : u.preVerificationGas = op.preVerificationGas
  maxFeePerGas : u.maxFeePerGas.toNat = op.maxFeePerGas.toNat
  maxPriorityFeePerGas : u.maxPriorityFeePerGas.toNat = op.maxPriorityFeePerGas.toNat
  paymaster : u.paymaster = op.paymaster
  paymasterVerificationGasLimit : u.paymasterVerificationGasLimit.map BitVec.toNat
    = op.paymasterVerificationGasLimit.map BitVec.toNat
  paymasterPostOpGasLimit : u.paymasterPostOpGasLimit.map BitVec.toNat
    = op.paymasterPostOpGasLimit.map BitVec.toNat
  paymasterData : u.paymasterData = op.paymasterData

/-- The packed operation, as the entry point reads it, agrees with the submitted one in every
    field but the signature. -/
structure PackedAgrees (p : PackedUserOperation) (op : UserOperationV07) : Prop where
  sender : p.sender = op.sender
  nonce : p.nonce = op.nonce
  factory : (readInitCode p.initCode).map (fun g => g.1) = op.factory
  factoryData : (readInitCode p.initCode).map (fun g => g.2) = op.factoryData
  callData : p.callData = op.callData
  callGasLimit : (lowHalf p.accountGasLimits).toNat = op.callGasLimit.toNat
  verificationGasLimit : (highHalf p.accountGasLimits).toNat = op.verificationGasLimit.toNat
  preVerificationGas : p.preVerificationGas = op.preVerificationGas
  maxFeePerGas : (lowHalf p.gasFees).toNat = op.maxFeePerGas.toNat
  maxPriorityFeePerGas : (highHalf p.gasFees).toNat = op.maxPriorityFeePerGas.toNat
  paymaster : (readPaymasterAndData p.paymasterAndData).map (fun g => g.1) = op.paymaster
  paymasterVerificationGasLimit :
    (readPaymasterAndData p.paymasterAndData).map (fun g => g.2.1.toNat)
      = op.paymasterVerificationGasLimit.map BitVec.toNat
  paymasterPostOpGasLimit :
    (readPaymasterAndData p.paymasterAndData).map (fun g => g.2.2.1.toNat)
      = op.paymasterPostOpGasLimit.map BitVec.toNat
  paymasterData : (readPaymasterAndData p.paymasterAndData).map (fun g => g.2.2.2)
    = op.paymasterData

/-- The gas limits and fees that are cut to sixteen bytes fit them. -/
structure GasFits (op : UserOperationV07) : Prop where
  callGasLimit : op.callGasLimit.toNat < 2 ^ 128
  verificationGasLimit : op.verificationGasLimit.toNat < 2 ^ 128
  maxFeePerGas : op.maxFeePerGas.toNat < 2 ^ 128
  maxPriorityFeePerGas : op.maxPriorityFeePerGas.toNat < 2 ^ 128
  paymasterVerificationGasLimit : ∀ x ∈ op.paymasterVerificationGasLimit, x.toNat < 2 ^ 128
  paymasterPostOpGasLimit : ∀ x ∈ op.paymasterPostOpGasLimit, x.toNat < 2 ^ 128

/-- The factory fields are there or not together, and so are the paymaster fields. -/
structure GroupsComplete (op : UserOperationV07) : Prop where
  factory : op.factory.isSome = op.factoryData.isSome
  verificationGasLimit : op.paymaster.isSome = op.paymasterVerificationGasLimit.isSome
  postOpGasLimit : op.paymaster.isSome = op.paymasterPostOpGasLimit.isSome
  data : op.paymaster.isSome = op.paymasterData.isSome

/-- The operation survives the conversion and the packing. -/
def FitsPacking (op : UserOperationV07) : Prop := GasFits op ∧ GroupsComplete op

/-! ## What the conversion keeps: quantities of sixteen bytes, and whole groups -/

theorem wholeU256_eq (x : U256) : wholeU256 x = x := by
  have hlt : x.toNat < 256 ^ 32 := x.isLt
  rw [wholeU256, ofBe_toBe_of_lt hlt, BitVec.ofNat_toNat, BitVec.setWidth_eq]

theorem toNat_lowU128 (x : U256) : (lowU128 x).toNat = x.toNat % 2 ^ 128 := by
  have hdrop : (toBe 32 x.toNat).drop 16 = toBe 16 x.toNat := drop_toBe 16 16 _
  have hlt : ofBe (toBe 16 x.toNat) < 2 ^ 128 := by
    have h := ofBe_lt (toBe 16 x.toNat)
    rw [length_toBe] at h
    exact h
  rw [lowU128, hdrop, BitVec.toNat_ofNat, Nat.mod_eq_of_lt hlt, ofBe_toBe]
  rfl

/-- **Sixteen bytes keep a quantity exactly when it fits them.** Otherwise its upper half is
    lost. -/
theorem toNat_lowU128_eq_iff (x : U256) : (lowU128 x).toNat = x.toNat ↔ x.toNat < 2 ^ 128 := by
  rw [toNat_lowU128]
  exact ⟨fun h => h ▸ Nat.mod_lt _ (by decide), Nat.mod_eq_of_lt⟩

theorem map_lowU128_eq_iff (o : Option U256) :
    (o.map lowU128).map BitVec.toNat = o.map BitVec.toNat ↔ ∀ x ∈ o, x.toNat < 2 ^ 128 := by
  cases o with
  | none => simp
  | some x => simpa using toNat_lowU128_eq_iff x

variable (data : UserOperationV07) (signature : Bytes)

/-- The operation handed over agrees when the gas fits. -/
theorem agrees_iff_gasFits : Agrees (coSignUserOperation data signature) data ↔ GasFits data := by
  constructor
  · intro h
    exact ⟨(toNat_lowU128_eq_iff _).mp h.callGasLimit,
      (toNat_lowU128_eq_iff _).mp h.verificationGasLimit,
      (toNat_lowU128_eq_iff _).mp h.maxFeePerGas,
      (toNat_lowU128_eq_iff _).mp h.maxPriorityFeePerGas,
      (map_lowU128_eq_iff _).mp h.paymasterVerificationGasLimit,
      (map_lowU128_eq_iff _).mp h.paymasterPostOpGasLimit⟩
  · intro h
    exact
      { sender := rfl
        nonce := wholeU256_eq _
        factory := rfl
        factoryData := rfl
        callData := rfl
        callGasLimit := (toNat_lowU128_eq_iff _).mpr h.callGasLimit
        verificationGasLimit := (toNat_lowU128_eq_iff _).mpr h.verificationGasLimit
        preVerificationGas := wholeU256_eq _
        maxFeePerGas := (toNat_lowU128_eq_iff _).mpr h.maxFeePerGas
        maxPriorityFeePerGas := (toNat_lowU128_eq_iff _).mpr h.maxPriorityFeePerGas
        paymaster := rfl
        paymasterVerificationGasLimit :=
          (map_lowU128_eq_iff _).mpr h.paymasterVerificationGasLimit
        paymasterPostOpGasLimit := (map_lowU128_eq_iff _).mpr h.paymasterPostOpGasLimit
        paymasterData := rfl }

/-- A pair of optional fields is the one its group yields exactly when the group is complete. -/
theorem factoryGroup_eq_iff (u : UserOperation) :
    (u.factoryGroup.map (fun g => g.1) = u.factory ∧
      u.factoryGroup.map (fun g => g.2) = u.factoryData) ↔
      u.factory.isSome = u.factoryData.isSome := by
  unfold UserOperation.factoryGroup
  cases u.factory <;> cases u.factoryData <;> simp

theorem paymasterGroup_eq_iff (u : UserOperation) :
    (u.paymasterGroup.map (fun g => g.1) = u.paymaster ∧
      u.paymasterGroup.map (fun g => g.2.1) = u.paymasterVerificationGasLimit ∧
      u.paymasterGroup.map (fun g => g.2.2.1) = u.paymasterPostOpGasLimit ∧
      u.paymasterGroup.map (fun g => g.2.2.2) = u.paymasterData) ↔
      u.paymaster.isSome = u.paymasterVerificationGasLimit.isSome ∧
      u.paymaster.isSome = u.paymasterPostOpGasLimit.isSome ∧
      u.paymaster.isSome = u.paymasterData.isSome := by
  unfold UserOperation.paymasterGroup
  cases u.paymaster <;> cases u.paymasterVerificationGasLimit <;>
    cases u.paymasterPostOpGasLimit <;> cases u.paymasterData <;> simp

section Groups

variable {u : UserOperation} {op : UserOperationV07}

/-- The factory group that comes out of the packing is the submitted one when it is complete. -/
theorem packedFactory_iff (h : Agrees u op) :
    ((readInitCode u.getPacked.initCode).map (fun g => g.1) = op.factory ∧
      (readInitCode u.getPacked.initCode).map (fun g => g.2) = op.factoryData) ↔
      op.factory.isSome = op.factoryData.isSome := by
  have hgroup := factoryGroup_eq_iff u
  rw [h.factory, h.factoryData] at hgroup
  rw [u.getPacked_factoryGroup]
  exact hgroup

/-- Limits that the group gives back, as numbers. -/
theorem map_toNat_eq_iff {w : Nat} {α : Type} {group : Option α} {limit : α → BitVec w}
    {mine : Option (BitVec w)} {theirs : Option U256}
    (h : mine.map BitVec.toNat = theirs.map BitVec.toNat) :
    group.map (fun g => (limit g).toNat) = theirs.map BitVec.toNat ↔ group.map limit = mine := by
  have hinj : Function.Injective (BitVec.toNat (w := w)) := fun _ _ => BitVec.eq_of_toNat_eq
  have hmap : group.map (fun g => (limit g).toNat) = (group.map limit).map BitVec.toNat := by
    rw [Option.map_map]
    rfl
  rw [hmap, ← h]
  exact (Option.map_injective hinj).eq_iff

/-- So is the paymaster group. -/
theorem packedPaymaster_iff (h : Agrees u op) :
    ((readPaymasterAndData u.getPacked.paymasterAndData).map (fun g => g.1) = op.paymaster ∧
      (readPaymasterAndData u.getPacked.paymasterAndData).map (fun g => g.2.1.toNat)
        = op.paymasterVerificationGasLimit.map BitVec.toNat ∧
      (readPaymasterAndData u.getPacked.paymasterAndData).map (fun g => g.2.2.1.toNat)
        = op.paymasterPostOpGasLimit.map BitVec.toNat ∧
      (readPaymasterAndData u.getPacked.paymasterAndData).map (fun g => g.2.2.2)
        = op.paymasterData) ↔
      op.paymaster.isSome = op.paymasterVerificationGasLimit.isSome ∧
      op.paymaster.isSome = op.paymasterPostOpGasLimit.isSome ∧
      op.paymaster.isSome = op.paymasterData.isSome := by
  have hver : u.paymasterVerificationGasLimit.isSome = op.paymasterVerificationGasLimit.isSome := by
    rw [← Option.isSome_map (f := BitVec.toNat), h.paymasterVerificationGasLimit,
      Option.isSome_map]
  have hpost : u.paymasterPostOpGasLimit.isSome = op.paymasterPostOpGasLimit.isSome := by
    rw [← Option.isSome_map (f := BitVec.toNat), h.paymasterPostOpGasLimit, Option.isSome_map]
  have hgroup := paymasterGroup_eq_iff u
  rw [hver, hpost, h.paymaster, h.paymasterData] at hgroup
  rw [u.getPacked_paymasterGroup, map_toNat_eq_iff h.paymasterVerificationGasLimit,
    map_toNat_eq_iff h.paymasterPostOpGasLimit]
  exact hgroup

/-- **The packed operation agrees where the operation does, if its groups are complete.** A group
    that is complete or absent comes back as it was; one that is neither comes back absent. -/
theorem packedAgrees_iff (h : Agrees u op) : PackedAgrees u.getPacked op ↔ GroupsComplete op := by
  obtain ⟨hverification, hcall, hpriority, hmax⟩ := u.getPacked_gas
  constructor
  · -- each packed field is read back into its group
    intro hp
    obtain ⟨hver, hpost, hdata⟩ := (packedPaymaster_iff h).mp ⟨hp.paymaster,
      hp.paymasterVerificationGasLimit, hp.paymasterPostOpGasLimit, hp.paymasterData⟩
    exact
      { factory := (packedFactory_iff h).mp ⟨hp.factory, hp.factoryData⟩
        verificationGasLimit := hver
        postOpGasLimit := hpost
        data := hdata }
  · -- a complete group is packed as the contract unpacks it
    intro hg
    obtain ⟨hfactory, hfactoryData⟩ := (packedFactory_iff h).mpr hg.factory
    obtain ⟨hpaymaster, hver, hpost, hdata⟩ :=
      (packedPaymaster_iff h).mpr ⟨hg.verificationGasLimit, hg.postOpGasLimit, hg.data⟩
    exact
      { sender := h.sender
        nonce := h.nonce
        factory := hfactory
        factoryData := hfactoryData
        callData := h.callData
        callGasLimit := by rw [hcall, h.callGasLimit]
        verificationGasLimit := by rw [hverification, h.verificationGasLimit]
        preVerificationGas := h.preVerificationGas
        maxFeePerGas := by rw [hmax, h.maxFeePerGas]
        maxPriorityFeePerGas := by rw [hpriority, h.maxPriorityFeePerGas]
        paymaster := hpaymaster
        paymasterVerificationGasLimit := hver
        paymasterPostOpGasLimit := hpost
        paymasterData := hdata }

end Groups

/-- **When nothing is lost**: the operation handed over and the packed one both agree with the one
    of the request exactly when that one fits the packing. -/
theorem coSignUserOperation_agrees_iff :
    (Agrees (coSignUserOperation data signature) data ∧
      PackedAgrees (coSignUserOperation data signature).getPacked data) ↔ FitsPacking data := by
  rw [agrees_iff_gasFits, FitsPacking]
  refine and_congr_right fun hgas => ?_
  exact packedAgrees_iff ((agrees_iff_gasFits data signature).mpr hgas)

end BlockchainApi
