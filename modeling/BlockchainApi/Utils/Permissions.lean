/-
  The two kinds of permission the co-signer understands (`src/utils/permissions.rs`).

  A permission is a type name with JSON data.  `parsePermission` is the front of the co-signer's
  match on it: the type name is looked up, the data is deserialized into the schema of that type,
  and what comes out is a `Grant`, which has its data and no text to read any more.  A permission of
  another type, or with data of another shape, is not `WellFormed`, and the co-signer
  refuses the whole item for it.  The derived deserializers enter as `PermissionDecoders`.

  The checks themselves are about a whole batch.  The total value of a batch is a fold of wrapping
  additions; `toNat_extractValuesSum` says how it relates to the exact sum: it is that sum modulo `2
  ^ 256`, so an allowance is compared with the remainder.

  The last section writes both schemas out in their usual JSON form, for the demonstrations of the
  modules that check permissions.
-/
import BlockchainApi.Utils.Caip
import BlockchainApi.Utils.Sessions

namespace BlockchainApi

open ByteCodec

/-- `PermissionType`. -/
inductive PermissionType where
  | contractCall
  | nativeTokenRecurringAllowance
  deriving DecidableEq, Repr

/-- `PermissionType::from_str` (strum, kebab case). -/
def PermissionType.fromStr (s : String) : Option PermissionType :=
  if s = "contract-call" then some .contractCall
  else if s = "native-token-recurring-allowance" then some .nativeTokenRecurringAllowance
  else none

/-- `ContractCallPermissionData`. -/
structure ContractCallPermissionData where
  address : Address
  abi : Value
  functions : Value

/-- `NativeTokenAllowancePermissionData`. -/
structure NativeTokenAllowancePermissionData where
  allowance : U256
  start : Nat
  period : Nat

/-- `serde_json::from_value` at the two schemas. -/
structure PermissionDecoders where
  contractCall : Value → Except String ContractCallPermissionData
  allowance : Value → Except String NativeTokenAllowancePermissionData

/-- `native_token_transfer_permission_check`. -/
def nativeTokenTransferPermissionCheck (batch : List ExecutionTransaction)
    (data : NativeTokenAllowancePermissionData) : Outcome RpcError Unit :=
  let sum := extractValuesSumFromExecutionBatch batch
  if sum > data.allowance then
    .err (.cosignerPermissionDenied (.valueGreaterThanAllowance sum data.allowance))
  else .ok ()

/-- `PermissionTypeData`. -/
structure PermissionTypeData where
  type : String
  data : Value

/-- A permission of a supported type, its data deserialized. Two kinds, and no third one can be
    built. -/
inductive Grant where
  | contractCall (data : ContractCallPermissionData)
  | allowance (data : NativeTokenAllowancePermissionData)

/-- The type of a grant. -/
def Grant.kind : Grant → PermissionType
  | contractCall _ => .contractCall
  | allowance _ => .nativeTokenRecurringAllowance

/-- The match on a permission's type, and the deserialization of its data. -/
def parsePermission (d : PermissionDecoders) (permission : PermissionTypeData) :
    Outcome RpcError Grant :=
  match PermissionType.fromStr permission.type with
  | some .contractCall => do
    let data ← Outcome.ofExcept RpcError.serdeJson (d.contractCall permission.data)
    return .contractCall data
  | some .nativeTokenRecurringAllowance => do
    let data ← Outcome.ofExcept RpcError.serdeJson (d.allowance permission.data)
    return .allowance data
  | none => .err (.cosignerUnsupportedPermission permission.type)

/-- The permission is of a supported type, and its data follows the schema of that type. -/
def WellFormed (d : PermissionDecoders) (permission : PermissionTypeData) : Prop :=
  ∃ g, parsePermission d permission = .ok g

/-- The grants among a list of permissions. -/
def grantsOf (d : PermissionDecoders) (permissions : List PermissionTypeData) : List Grant :=
  permissions.filterMap fun permission => (parsePermission d permission).toOption

variable {d : PermissionDecoders} {batch : List ExecutionTransaction}

theorem parsePermission_eq_contractCall_iff {p : PermissionTypeData}
    {data : ContractCallPermissionData} :
    parsePermission d p = .ok (.contractCall data) ↔
      p.type = "contract-call" ∧ d.contractCall p.data = .ok data := by
  unfold parsePermission PermissionType.fromStr
  by_cases hcall : p.type = "contract-call"
  · simp [hcall, Outcome.bind_eq_ok]
  · by_cases hallow : p.type = "native-token-recurring-allowance"
    · simp [hallow, Outcome.bind_eq_ok]
    · simp [hcall, hallow]

theorem parsePermission_eq_allowance_iff {p : PermissionTypeData}
    {data : NativeTokenAllowancePermissionData} :
    parsePermission d p = .ok (.allowance data) ↔
      p.type = "native-token-recurring-allowance" ∧ d.allowance p.data = .ok data := by
  unfold parsePermission PermissionType.fromStr
  by_cases hcall : p.type = "contract-call"
  · simp [hcall, Outcome.bind_eq_ok]
  · by_cases hallow : p.type = "native-token-recurring-allowance"
    · simp [hallow, Outcome.bind_eq_ok]
    · simp [hcall, hallow]

theorem mem_grantsOf {permissions : List PermissionTypeData} {g : Grant} :
    g ∈ grantsOf d permissions ↔ ∃ p ∈ permissions, parsePermission d p = .ok g := by
  simp only [grantsOf, List.mem_filterMap, Outcome.toOption_eq_some]

theorem grantsOf_cons {p : PermissionTypeData} {g : Grant} (h : parsePermission d p = .ok g)
    (ps : List PermissionTypeData) : grantsOf d (p :: ps) = g :: grantsOf d ps := by
  simp only [grantsOf, List.filterMap_cons, h, Outcome.toOption]

theorem grantsOf_append (l r : List PermissionTypeData) :
    grantsOf d (l ++ r) = grantsOf d l ++ grantsOf d r :=
  List.filterMap_append

theorem grantsOf_perm {l r : List PermissionTypeData} (h : l.Perm r) :
    (grantsOf d l).Perm (grantsOf d r) :=
  h.filterMap _

/-! ## What the checks decide: the total as it is computed, and the exact one -/

/-- The allowance check passes when the total, as computed, is within the allowance. -/
theorem nativeTokenTransferPermissionCheck_eq_ok_iff (data : NativeTokenAllowancePermissionData) :
    nativeTokenTransferPermissionCheck batch data = .ok () ↔
      extractValuesSumFromExecutionBatch batch ≤ data.allowance := by
  unfold nativeTokenTransferPermissionCheck
  by_cases h : extractValuesSumFromExecutionBatch batch > data.allowance
  · simp only [if_pos h, reduceCtorEq, false_iff]
    exact BitVec.not_le.mpr h
  · simp only [if_neg h, true_iff]
    exact BitVec.not_lt.mp h

/-- The values of a batch, added up without a bound. -/
def exactSum (batch : List ExecutionTransaction) : Nat := (batch.map fun tx => tx.value.toNat).sum

theorem toNat_foldl_add (values : List U256) (acc : U256) :
    (values.foldl (fun acc x => acc + x) acc).toNat
      = (acc.toNat + (values.map BitVec.toNat).sum) % 2 ^ 256 := by
  induction values generalizing acc with
  | nil => exact (Nat.mod_eq_of_lt acc.isLt).symm
  | cons x xs ih =>
    rw [List.foldl_cons, ih, List.map_cons, List.sum_cons, BitVec.toNat_add, Nat.mod_add_mod,
      Nat.add_assoc]

/-- **The computed total is the exact one modulo `2 ^ 256`**, by induction on the batch with the
    sum so far general. -/
theorem toNat_extractValuesSum (batch : List ExecutionTransaction) :
    (extractValuesSumFromExecutionBatch batch).toNat = exactSum batch % 2 ^ 256 := by
  rw [extractValuesSumFromExecutionBatch, toNat_foldl_add, exactSum, List.map_map]
  congr 1
  exact Nat.zero_add _

/-! ## The schemas in their usual JSON form -/

/-- Hex digits after `0x`. -/
def hexDigits (s : String) : Option (List Char) :=
  match s.toList with
  | '0' :: 'x' :: digits => if digits.all isHexChar then some digits else none
  | _ => none

/-- An address written as `0x` and forty hex digits. -/
def jsonAddress (v : Value) : Option Address := do
  let digits ← hexDigits (← v.asStr)
  if digits.length = 40 then some (FixedBytes.ofNat 20 (hexValue digits)) else none

/-- An amount written as `0x` and up to sixty-four hex digits. -/
def jsonAmount (v : Value) : Option U256 := do
  let digits ← hexDigits (← v.asStr)
  if digits.length ≤ 64 then some (BitVec.ofNat 256 (hexValue digits)) else none

/-- `usize`. -/
def jsonUsize : Value → Option Nat
  | .int n => if 0 ≤ n ∧ n < 2 ^ 64 then some n.toNat else none
  | _ => none

/-- Both schemas as objects with all their fields, addresses and amounts in hex. -/
def jsonPermissionDecoders : PermissionDecoders where
  contractCall v :=
    match (v.get "address").bind jsonAddress, v.get "abi", v.get "functions" with
    | some address, some abi, some functions => .ok { address, abi, functions }
    | _, _, _ => .error "invalid contract-call permission data"
  allowance v :=
    match (v.get "allowance").bind jsonAmount, (v.get "start").bind jsonUsize,
        (v.get "period").bind jsonUsize with
    | some allowance, some start, some period => .ok { allowance, start, period }
    | _, _, _ => .error "invalid native-token-recurring-allowance permission data"

/-- A contract-call permission for one address. -/
def contractCallPermission (address : String) : PermissionTypeData where
  type := "contract-call"
  data := .object [("address", .string address), ("abi", .array []), ("functions", .array [])]

/-- A recurring allowance of the native token. -/
def allowancePermission (allowance : String) : PermissionTypeData where
  type := "native-token-recurring-allowance"
  data := .object [("allowance", .string allowance), ("start", .int 0), ("period", .int 86400)]

end BlockchainApi
