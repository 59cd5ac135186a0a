/-
  The permission checks of the co-signer (`src/handlers/sessions/cosign.rs`).

  One loop over the permissions of the item aggregates four facts, and two checks after it compare
  them with the batch.  The loop never looks at a single execution: every contract-call permission
  adds its address to one set, and one allowance that accepts the batch is enough.

  1. **The loop.** Its variables describe the grants seen so far (`Aggregate.Describes`): that is
     the loop invariant, kept by one grant more (`Aggregate.Describes.record`) and so by all of
     them.

  2. **The policy.** What the loop and the checks compute is a gated policy (`coSignPolicy`): the
     permissions of one kind are alternatives to each other, and a kind of which the item has no
     permission restricts nothing.  `permissionChecks_eq_ok_iff` is this refinement.

  3. **In other words.** The same condition is said in the words of the batch (`accepts_iff`) and in
     those of the permissions (`permissionChecks_eq_ok_iff_types`), for the modules that speak of
     one or the other.

  4. **One permission more.** Everything about the order of the permissions and about adding one
     then comes from the policy: `coSign_decision_on_permissions`.
-/
import BlockchainApi.Lib.GatedPolicy
import BlockchainApi.Utils.Permissions
import BlockchainApi.Utils.UserOperation

namespace BlockchainApi

open ByteCodec

/-- The variables of the loop. -/
structure Aggregate where
  allowedTargets : List Address
  anyContractCallPermission : Bool
  anyAllowancePermission : Bool
  allowedByAllowance : Bool

/-- The variables before the loop. -/
def Aggregate.empty : Aggregate where
  allowedTargets := []
  anyContractCallPermission := false
  anyAllowancePermission := false
  allowedByAllowance := false

/-- The body of the loop. -/
def evaluatePermission (d : PermissionDecoders) (batch : List ExecutionTransaction)
    (agg : Aggregate) (permission : PermissionTypeData) : Outcome RpcError Aggregate :=
  match PermissionType.fromStr permission.type with
  | some .contractCall => do
    let data ← Outcome.ofExcept RpcError.serdeJson (d.contractCall permission.data)
    return { agg with
      allowedTargets := data.address :: agg.allowedTargets
      anyContractCallPermission := true }
  | some .nativeTokenRecurringAllowance => do
    let data ← Outcome.ofExcept RpcError.serdeJson (d.allowance permission.data)
    let result := nativeTokenTransferPermissionCheck batch data
    return { agg with
      anyAllowancePermission := true
      allowedByAllowance := agg.allowedByAllowance || result.isOk }
  | none => .err (.cosignerUnsupportedPermission permission.type)

/-- If contract-call permissions exist, every contract-call target has to be in the set.
    Executions without call data are no contract calls. -/
def checkContractCallTargets (batch : List ExecutionTransaction) (agg : Aggregate) :
    Outcome RpcError Unit :=
  if agg.anyContractCallPermission then
    let contractCallTargets := extractContractCallAddressesFromExecutionBatch batch
    match contractCallTargets.find? fun addr => !agg.allowedTargets.contains addr with
    | some addr => .err (.cosignerPermissionDenied (.addressNotAllowed addr))
    | none => .ok ()
  else .ok ()

/-- If allowance permissions exist, at least one has to allow the sum. -/
def checkAllowances (agg : Aggregate) : Outcome RpcError Unit :=
  Outcome.ensure (¬ (agg.anyAllowancePermission && !agg.allowedByAllowance))
    (.cosignerPermissionDenied .valueExceedsAllAllowances)

/-- The checks of `handler_internal` on the permissions of the stored item. -/
def permissionChecks (d : PermissionDecoders) (batch : List ExecutionTransaction)
    (permissions : List PermissionTypeData) : Outcome RpcError Unit := do
  Outcome.ensure (permissions ≠ []) .coSignerEmptyPermissions
  let agg ← permissions.foldlM (evaluatePermission d batch) Aggregate.empty
  checkContractCallTargets batch agg
  checkAllowances agg

/-! ## The policy: what the loop and the two checks decide -/

/-- What a batch asks the permissions of one kind to cover. -/
inductive Demand where
  /-- An execution with call data goes to this address. -/
  | target (address : Address)
  /-- The batch moves this much of the native token. -/
  | total (sum : U256)

/-- What a grant covers. -/
def Grant.covers : Grant → Demand → Prop
  | .contractCall data, .target address => data.address = address
  | .allowance data, .total sum => sum ≤ data.allowance
  | _, _ => False

/-- The policy of the co-signer. -/
def coSignPolicy : Gated.Policy PermissionType Grant Demand where
  kind := Grant.kind
  covers := Grant.covers

/-- The demands of a batch, kind by kind. -/
def batchDemands (batch : List ExecutionTransaction) : PermissionType → List Demand
  | .contractCall => (extractContractCallAddressesFromExecutionBatch batch).map Demand.target
  | .nativeTokenRecurringAllowance => [.total (extractValuesSumFromExecutionBatch batch)]

/-- The loop variables, read as facts about the grants seen so far. The fields are the four
    variables of the source. -/
structure Aggregate.Describes (batch : List ExecutionTransaction) (agg : Aggregate)
    (gs : List Grant) : Prop where
  anyContractCall : agg.anyContractCallPermission = true ↔ coSignPolicy.Present gs .contractCall
  allowedTargets : ∀ address, address ∈ agg.allowedTargets ↔
    coSignPolicy.Covered gs .contractCall (.target address)
  anyAllowance : agg.anyAllowancePermission = true ↔
    coSignPolicy.Present gs .nativeTokenRecurringAllowance
  allowedByAllowance : agg.allowedByAllowance = true ↔
    coSignPolicy.Covered gs .nativeTokenRecurringAllowance
      (.total (extractValuesSumFromExecutionBatch batch))

/-- The effect of one grant on the loop variables. -/
def Aggregate.record (batch : List ExecutionTransaction) (agg : Aggregate) : Grant → Aggregate
  | .contractCall data =>
    { agg with
      allowedTargets := data.address :: agg.allowedTargets
      anyContractCallPermission := true }
  | .allowance data =>
    { agg with
      anyAllowancePermission := true
      allowedByAllowance :=
        agg.allowedByAllowance || (nativeTokenTransferPermissionCheck batch data).isOk }

variable {d : PermissionDecoders} {batch : List ExecutionTransaction} {agg : Aggregate}
variable {gs : List Grant}

/-- The body of the loop parses the permission and records it. -/
theorem evaluatePermission_eq (p : PermissionTypeData) :
    evaluatePermission d batch agg p
      = parsePermission d p >>= fun g => .ok (agg.record batch g) := by
  unfold evaluatePermission parsePermission
  cases PermissionType.fromStr p.type with
  | none => rfl
  | some kind =>
    cases kind with
    | contractCall => cases d.contractCall p.data <;> rfl
    | nativeTokenRecurringAllowance => cases d.allowance p.data <;> rfl

theorem Aggregate.describes_empty : Aggregate.empty.Describes batch [] := by
  constructor <;> simp [Aggregate.empty, Gated.Policy.Present, Gated.Policy.Covered]

/-- **One grant more.** The loop invariant after one turn: each kind of grant moves its own two
    variables. -/
theorem Aggregate.Describes.record (h : agg.Describes batch gs) (g : Grant) :
    (agg.record batch g).Describes batch (g :: gs) := by
  obtain ⟨hany, htargets, hallow, hby⟩ := h
  cases g with
  | contractCall data =>
    -- one address more; the allowances are as before
    constructor
    · simp [Aggregate.record, Gated.Policy.present_cons, coSignPolicy, Grant.kind]
    · intro address
      rw [Gated.Policy.covered_cons]
      simp [Aggregate.record, htargets, coSignPolicy, Grant.kind, Grant.covers, eq_comm]
    · simp [Aggregate.record, Gated.Policy.present_cons, hallow, coSignPolicy, Grant.kind]
    · simp [Aggregate.record, Gated.Policy.covered_cons, hby, coSignPolicy, Grant.kind]
  | allowance data =>
    -- one allowance more, which may accept the batch; the addresses are as before
    constructor
    · simp [Aggregate.record, Gated.Policy.present_cons, hany, coSignPolicy, Grant.kind]
    · intro address
      simp [Aggregate.record, Gated.Policy.covered_cons, htargets, coSignPolicy, Grant.kind]
    · simp [Aggregate.record, Gated.Policy.present_cons, coSignPolicy, Grant.kind]
    · have hcheck : (nativeTokenTransferPermissionCheck batch data).isOk = true ↔
          extractValuesSumFromExecutionBatch batch ≤ data.allowance := by
        rw [Outcome.isOk_iff, ← nativeTokenTransferPermissionCheck_eq_ok_iff]
        constructor
        · rintro ⟨_, h⟩
          exact h
        · exact fun h => ⟨(), h⟩
      rw [Gated.Policy.covered_cons, ← hby]
      simp only [Aggregate.record, Bool.or_eq_true, hcheck]
      simp only [coSignPolicy, Grant.kind, Grant.covers, true_and, or_comm]

/-- **The whole loop**: its variables describe all grants of the item. -/
theorem Aggregate.Describes.foldl (h : agg.Describes batch gs) (hs : List Grant) :
    (hs.foldl (Aggregate.record batch) agg).Describes batch (hs.reverse ++ gs) := by
  induction hs generalizing agg gs with
  | nil => exact h
  | cons g hs ih =>
    rw [List.foldl_cons, List.reverse_cons, List.append_assoc]
    exact ih (h.record g)

/-- The two checks after the loop decide the policy. -/
theorem checks_eq_ok_iff (h : agg.Describes batch gs) :
    (checkContractCallTargets batch agg = .ok () ∧ checkAllowances agg = .ok ()) ↔
      coSignPolicy.Accepts gs (batchDemands batch) := by
  -- the first check is the policy for contract calls
  have htargets : checkContractCallTargets batch agg = .ok () ↔
      (coSignPolicy.Present gs .contractCall →
        ∀ dem ∈ batchDemands batch .contractCall,
          coSignPolicy.Covered gs .contractCall dem) := by
    rw [← h.anyContractCall, batchDemands, List.forall_mem_map]
    simp only [← h.allowedTargets]
    unfold checkContractCallTargets
    by_cases hany : agg.anyContractCallPermission = true
    · simp only [hany, if_true, true_imp_iff]
      split
      · next address hfind =>
        have hmem := List.mem_of_find?_eq_some hfind
        have hnot := List.find?_some hfind
        refine ⟨fun h => (nomatch h), fun h => ?_⟩
        simp [h address hmem] at hnot
      · next hfind =>
        refine ⟨fun _ address hmem => ?_, fun _ => rfl⟩
        simpa using List.find?_eq_none.mp hfind address hmem
    · simp [hany]
  -- the second one is the policy for allowances
  have hallow : checkAllowances agg = .ok () ↔
      (coSignPolicy.Present gs .nativeTokenRecurringAllowance →
        ∀ dem ∈ batchDemands batch .nativeTokenRecurringAllowance,
          coSignPolicy.Covered gs .nativeTokenRecurringAllowance dem) := by
    rw [← h.anyAllowance, batchDemands, List.forall_mem_singleton, ← h.allowedByAllowance,
      checkAllowances, Outcome.ensure_eq_ok]
    cases agg.anyAllowancePermission <;> cases agg.allowedByAllowance <;> simp
  -- and there is no other kind
  rw [htargets, hallow]
  constructor
  · rintro ⟨h₁, h₂⟩ kind
    cases kind with
    | contractCall => exact h₁
    | nativeTokenRecurringAllowance => exact h₂
  · exact fun h => ⟨h _, h _⟩

/-- **The checks refine the policy**: they accept a batch when the item has permissions, all of
    them are well formed, and the policy accepts the demands of the batch. An item without
    permissions has an error of its own. -/
theorem permissionChecks_eq_ok_iff (permissions : List PermissionTypeData) :
    permissionChecks d batch permissions = .ok () ↔
      permissions ≠ [] ∧ (∀ p ∈ permissions, WellFormed d p) ∧
        coSignPolicy.Accepts (grantsOf d permissions) (batchDemands batch) := by
  have hbody : (evaluatePermission d batch)
      = fun agg p => parsePermission d p >>= fun g => .ok (agg.record batch g) :=
    funext fun _ => funext fun _ => evaluatePermission_eq _
  have hdesc : ((grantsOf d permissions).foldl (Aggregate.record batch) Aggregate.empty).Describes
      batch ((grantsOf d permissions).reverse ++ []) :=
    Aggregate.describes_empty.foldl _
  have haccepts : coSignPolicy.Accepts ((grantsOf d permissions).reverse ++ []) (batchDemands batch)
      ↔ coSignPolicy.Accepts (grantsOf d permissions) (batchDemands batch) :=
    Gated.Policy.accepts_congr fun g => by rw [List.append_nil, List.mem_reverse]
  unfold permissionChecks
  simp only [Outcome.bind_eq_ok, Outcome.ensure_eq_ok, hbody, Outcome.foldlM_record_eq_ok_iff]
  rw [← haccepts, ← checks_eq_ok_iff hdesc]
  constructor
  · rintro ⟨_, hne, _, ⟨hwf, rfl⟩, _, htargets, hallow⟩
    exact ⟨hne, hwf, htargets, hallow⟩
  · rintro ⟨hne, hwf, htargets, hallow⟩
    exact ⟨(), hne, _, ⟨hwf, rfl⟩, (), htargets, hallow⟩

/-! ## The policy in the words of the batch: targets, and a total -/

theorem present_contractCall :
    coSignPolicy.Present gs .contractCall ↔ ∃ data, .contractCall data ∈ gs := by
  constructor
  · rintro ⟨g, hg, hkind⟩
    cases g with
    | contractCall data => exact ⟨data, hg⟩
    | allowance data => cases hkind
  · rintro ⟨data, hg⟩
    exact ⟨_, hg, rfl⟩

theorem present_allowance :
    coSignPolicy.Present gs .nativeTokenRecurringAllowance ↔ ∃ data, .allowance data ∈ gs := by
  constructor
  · rintro ⟨g, hg, hkind⟩
    cases g with
    | contractCall data => cases hkind
    | allowance data => exact ⟨data, hg⟩
  · rintro ⟨data, hg⟩
    exact ⟨_, hg, rfl⟩

theorem covered_target (address : Address) :
    coSignPolicy.Covered gs .contractCall (.target address) ↔
      ∃ data, .contractCall data ∈ gs ∧ data.address = address := by
  constructor
  · rintro ⟨g, hg, hkind, hcovers⟩
    cases g with
    | contractCall data => exact ⟨data, hg, hcovers⟩
    | allowance data => cases hkind
  · rintro ⟨data, hg, haddress⟩
    exact ⟨_, hg, rfl, haddress⟩

theorem covered_total (sum : U256) :
    coSignPolicy.Covered gs .nativeTokenRecurringAllowance (.total sum) ↔
      ∃ data, .allowance data ∈ gs ∧ sum ≤ data.allowance := by
  constructor
  · rintro ⟨g, hg, hkind, hcovers⟩
    cases g with
    | contractCall data => cases hkind
    | allowance data => exact ⟨data, hg, hcovers⟩
  · rintro ⟨data, hg, hsum⟩
    exact ⟨_, hg, rfl, hsum⟩

theorem forall_mem_targets {P : Address → Prop} :
    (∀ address ∈ extractContractCallAddressesFromExecutionBatch batch, P address) ↔
      ∀ tx ∈ batch, tx.callData ≠ [] → P tx.address := by
  simp only [extractContractCallAddressesFromExecutionBatch, List.forall_mem_map, List.mem_filter,
    Bool.not_eq_true', List.isEmpty_eq_false_iff, and_imp, ne_eq]

/-- **Acceptance, kind by kind.** -/
theorem accepts_iff :
    coSignPolicy.Accepts gs (batchDemands batch) ↔
      ((∃ data, .contractCall data ∈ gs) → ∀ tx ∈ batch, tx.callData ≠ [] →
        ∃ data, .contractCall data ∈ gs ∧ data.address = tx.address) ∧
      ((∃ data, .allowance data ∈ gs) →
        ∃ data, .allowance data ∈ gs ∧ nativeTokenTransferPermissionCheck batch data = .ok ()) := by
  have hcall : (∀ dem ∈ batchDemands batch .contractCall, coSignPolicy.Covered gs .contractCall dem)
      ↔ ∀ tx ∈ batch, tx.callData ≠ [] →
        ∃ data, .contractCall data ∈ gs ∧ data.address = tx.address := by
    rw [batchDemands, List.forall_mem_map]
    simp only [covered_target]
    exact forall_mem_targets
  have hallow : (∀ dem ∈ batchDemands batch .nativeTokenRecurringAllowance,
      coSignPolicy.Covered gs .nativeTokenRecurringAllowance dem) ↔
        ∃ data, .allowance data ∈ gs ∧ nativeTokenTransferPermissionCheck batch data = .ok () := by
    rw [batchDemands, List.forall_mem_singleton, covered_total]
    simp only [nativeTokenTransferPermissionCheck_eq_ok_iff]
  rw [← hcall, ← hallow, ← present_contractCall, ← present_allowance]
  constructor
  · exact fun h => ⟨h _, h _⟩
  · rintro ⟨h₁, h₂⟩ kind
    cases kind with
    | contractCall => exact h₁
    | nativeTokenRecurringAllowance => exact h₂

/-! ## The policy in the words of the permissions, by their type names -/

/-- A contract-call permission for the address. -/
def IsContractCallFor (d : PermissionDecoders) (address : Address) (p : PermissionTypeData) :
    Prop :=
  p.type = "contract-call" ∧ ∃ data, d.contractCall p.data = .ok data ∧ data.address = address

/-- An allowance permission of which the data satisfies `P`. -/
def IsAllowanceWith (d : PermissionDecoders) (P : NativeTokenAllowancePermissionData → Prop)
    (p : PermissionTypeData) : Prop :=
  p.type = "native-token-recurring-allowance" ∧ ∃ data, d.allowance p.data = .ok data ∧ P data

variable {permissions : List PermissionTypeData}

theorem exists_contractCall_iff {address : Address} :
    (∃ data, .contractCall data ∈ grantsOf d permissions ∧ data.address = address) ↔
      ∃ p ∈ permissions, IsContractCallFor d address p := by
  simp only [mem_grantsOf, parsePermission_eq_contractCall_iff]
  constructor
  · rintro ⟨data, ⟨p, hp, htype, hdata⟩, haddress⟩
    exact ⟨p, hp, htype, data, hdata, haddress⟩
  · rintro ⟨p, hp, htype, data, hdata, haddress⟩
    exact ⟨data, ⟨p, hp, htype, hdata⟩, haddress⟩

theorem exists_allowance_iff {P : NativeTokenAllowancePermissionData → Prop} :
    (∃ data, .allowance data ∈ grantsOf d permissions ∧ P data) ↔
      ∃ p ∈ permissions, IsAllowanceWith d P p := by
  simp only [mem_grantsOf, parsePermission_eq_allowance_iff]
  constructor
  · rintro ⟨data, ⟨p, hp, htype, hdata⟩, hP⟩
    exact ⟨p, hp, htype, data, hdata, hP⟩
  · rintro ⟨p, hp, htype, data, hdata, hP⟩
    exact ⟨data, ⟨p, hp, htype, hdata⟩, hP⟩

/-- Among well-formed permissions, the type names tell which grants there are. -/
theorem exists_type_contractCall_iff (hwf : ∀ p ∈ permissions, WellFormed d p) :
    (∃ data, .contractCall data ∈ grantsOf d permissions) ↔
      ∃ p ∈ permissions, p.type = "contract-call" := by
  simp only [mem_grantsOf]
  constructor
  · rintro ⟨data, p, hp, hparse⟩
    exact ⟨p, hp, (parsePermission_eq_contractCall_iff.mp hparse).1⟩
  · rintro ⟨p, hp, htype⟩
    obtain ⟨g, hg⟩ := hwf p hp
    cases g with
    | contractCall data => exact ⟨data, p, hp, hg⟩
    | allowance data =>
      rw [(parsePermission_eq_allowance_iff.mp hg).1] at htype
      exact absurd htype (by decide)

theorem exists_type_allowance_iff (hwf : ∀ p ∈ permissions, WellFormed d p) :
    (∃ data, .allowance data ∈ grantsOf d permissions) ↔
      ∃ p ∈ permissions, p.type = "native-token-recurring-allowance" := by
  simp only [mem_grantsOf]
  constructor
  · rintro ⟨data, p, hp, hparse⟩
    exact ⟨p, hp, (parsePermission_eq_allowance_iff.mp hparse).1⟩
  · rintro ⟨p, hp, htype⟩
    obtain ⟨g, hg⟩ := hwf p hp
    cases g with
    | contractCall data =>
      rw [(parsePermission_eq_contractCall_iff.mp hg).1] at htype
      exact absurd htype (by decide)
    | allowance data => exact ⟨data, p, hp, hg⟩

/-- **What the checks accept**, permission by permission. -/
theorem permissionChecks_eq_ok_iff_types :
    permissionChecks d batch permissions = .ok () ↔
      permissions ≠ [] ∧ (∀ p ∈ permissions, WellFormed d p) ∧
      ((∃ p ∈ permissions, p.type = "contract-call") →
        ∀ tx ∈ batch, tx.callData ≠ [] → ∃ p ∈ permissions, IsContractCallFor d tx.address p) ∧
      ((∃ p ∈ permissions, p.type = "native-token-recurring-allowance") →
        ∃ p ∈ permissions, IsAllowanceWith d
          (fun data => nativeTokenTransferPermissionCheck batch data = .ok ()) p) := by
  rw [permissionChecks_eq_ok_iff]
  refine and_congr_right fun _ => and_congr_right fun hwf => ?_
  rw [accepts_iff, exists_type_contractCall_iff hwf, exists_type_allowance_iff hwf,
    exists_allowance_iff]
  simp only [exists_contractCall_iff]

/-! ## One permission more, and the order of all of them -/

/-- The constraint a permission puts on a batch when it is the only one of its type. -/
def Grant.AllowsAlone (batch : List ExecutionTransaction) : Grant → Prop
  | .contractCall data => ∀ tx ∈ batch, tx.callData ≠ [] → tx.address = data.address
  | .allowance data => nativeTokenTransferPermissionCheck batch data = .ok ()

theorem covers_demands_iff (g : Grant) :
    (∀ dem ∈ batchDemands batch g.kind, coSignPolicy.covers g dem) ↔ g.AllowsAlone batch := by
  cases g with
  | contractCall data =>
    show (∀ dem ∈ (extractContractCallAddressesFromExecutionBatch batch).map Demand.target, _) ↔ _
    rw [List.forall_mem_map]
    refine forall_mem_targets.trans ?_
    exact forall₂_congr fun tx _ => imp_congr_right fun _ => eq_comm
  | allowance data =>
    show (∀ dem ∈ [Demand.total (extractValuesSumFromExecutionBatch batch)], _) ↔ _
    rw [List.forall_mem_singleton]
    exact (nativeTokenTransferPermissionCheck_eq_ok_iff data).symm

theorem grantsOf_insert {p : PermissionTypeData} {g : Grant} (hp : parsePermission d p = .ok g)
    (l r : List PermissionTypeData) :
    grantsOf d (l ++ p :: r) = grantsOf d l ++ g :: grantsOf d r := by
  rw [grantsOf_append, grantsOf_cons hp]

theorem wellFormed_insert {p : PermissionTypeData} {l r : List PermissionTypeData}
    (hp : WellFormed d p) (h : ∀ q ∈ l ++ r, WellFormed d q) :
    ∀ q ∈ l ++ p :: r, WellFormed d q := by
  intro q hq
  rcases List.mem_cons.mp (List.perm_middle.mem_iff.mp hq) with rfl | hq
  · exact hp
  · exact h q hq

/-- **The order of the permissions does not matter.** -/
theorem permissionChecks_perm {ps qs : List PermissionTypeData} (h : ps.Perm qs) :
    permissionChecks d batch ps = .ok () ↔ permissionChecks d batch qs = .ok () := by
  rw [permissionChecks_eq_ok_iff, permissionChecks_eq_ok_iff,
    Gated.Policy.accepts_perm (grantsOf_perm h)]
  simp only [h.mem_iff, ne_eq, ← List.length_eq_zero_iff, h.length_eq]

/-- **A permission of a type that is there already keeps the batch accepted.** -/
theorem permissionChecks_insert {p : PermissionTypeData} {g : Grant} {l r : List PermissionTypeData}
    (hp : parsePermission d p = .ok g) (hpresent : ∃ g' ∈ grantsOf d (l ++ r), g'.kind = g.kind)
    (h : permissionChecks d batch (l ++ r) = .ok ()) :
    permissionChecks d batch (l ++ p :: r) = .ok () := by
  obtain ⟨-, hwf, haccepts⟩ := (permissionChecks_eq_ok_iff _).mp h
  rw [grantsOf_append] at hpresent haccepts
  rw [permissionChecks_eq_ok_iff, grantsOf_insert hp]
  exact ⟨by simp, wellFormed_insert ⟨g, hp⟩ hwf, haccepts.insert hpresent⟩

/-- **The first permission of its type keeps the batch accepted exactly when it allows it
    alone.** -/
theorem permissionChecks_insert_first {p : PermissionTypeData} {g : Grant}
    {l r : List PermissionTypeData} (hp : parsePermission d p = .ok g)
    (habsent : ¬ ∃ g' ∈ grantsOf d (l ++ r), g'.kind = g.kind)
    (h : permissionChecks d batch (l ++ r) = .ok ()) :
    permissionChecks d batch (l ++ p :: r) = .ok () ↔ g.AllowsAlone batch := by
  obtain ⟨-, hwf, haccepts⟩ := (permissionChecks_eq_ok_iff _).mp h
  rw [grantsOf_append] at habsent haccepts
  have hgate : coSignPolicy.Accepts (grantsOf d l ++ g :: grantsOf d r) (batchDemands batch) ↔ _ :=
    Gated.Policy.accepts_insert_of_absent habsent
  rw [permissionChecks_eq_ok_iff, grantsOf_insert hp, hgate, ← covers_demands_iff]
  constructor
  · exact fun h => h.2.2.2
  · exact fun h => ⟨by simp, wellFormed_insert ⟨g, hp⟩ hwf, haccepts, h⟩

/-- **How the decision depends on the list of permissions**: not on their order, and on one more
    permission only when that one is the first of its type and does not allow the batch alone. -/
theorem coSign_decision_on_permissions (d : PermissionDecoders)
    (batch : List ExecutionTransaction) :
    (∀ ps qs : List PermissionTypeData, ps.Perm qs →
      (permissionChecks d batch ps = .ok () ↔ permissionChecks d batch qs = .ok ())) ∧
    (∀ l r p g, parsePermission d p = .ok g → permissionChecks d batch (l ++ r) = .ok () →
      (∃ g' ∈ grantsOf d (l ++ r), g'.kind = g.kind) →
      permissionChecks d batch (l ++ p :: r) = .ok ()) ∧
    (∀ l r p g, parsePermission d p = .ok g → permissionChecks d batch (l ++ r) = .ok () →
      (¬ ∃ g' ∈ grantsOf d (l ++ r), g'.kind = g.kind) →
      (permissionChecks d batch (l ++ p :: r) = .ok () ↔ g.AllowsAlone batch)) :=
  ⟨fun _ _ h => permissionChecks_perm h,
    fun _ _ _ _ hp h hpresent => permissionChecks_insert hp hpresent h,
    fun _ _ _ _ hp h habsent => permissionChecks_insert_first hp habsent h⟩

/-- `0x11…11`. -/
def oneTarget : String := "0x1111111111111111111111111111111111111111"

/-- A batch of one call to `0x11…11`, which sends it one wei. -/
def oneCall : List ExecutionTransaction :=
  [{ address := FixedBytes.ofNat 20 0x1111111111111111111111111111111111111111
     value := 1
     callData := [0xde, 0xad] }]

theorem coSign_decision_on_permissions_oneCall :
    permissionChecks jsonPermissionDecoders oneCall
      [allowancePermission "0x1", contractCallPermission oneTarget] = .ok () ∧
    permissionChecks jsonPermissionDecoders oneCall
      [contractCallPermission oneTarget, contractCallPermission oneTarget] = .ok () ∧
    permissionChecks jsonPermissionDecoders oneCall
      [contractCallPermission oneTarget, allowancePermission "0x1"] = .ok () := by
  have hdecision := coSign_decision_on_permissions jsonPermissionDecoders oneCall
  have hcall : permissionChecks jsonPermissionDecoders oneCall
      ([contractCallPermission oneTarget] ++ []) = .ok () := by decide
  refine ⟨?_, ?_, ?_⟩
  · exact (hdecision.1 [contractCallPermission oneTarget, allowancePermission "0x1"] _
      (List.Perm.swap _ _ _)).mp (by decide)
  · exact hdecision.2.1 [contractCallPermission oneTarget] [] (contractCallPermission oneTarget)
      _ rfl hcall ⟨_, List.mem_singleton.mpr rfl, rfl⟩
  · refine (hdecision.2.2 [contractCallPermission oneTarget] [] (allowancePermission "0x1")
      (.allowance { allowance := 1, start := 0, period := 86400 }) rfl hcall ?_).mpr ?_
    · rintro ⟨g, hg, hkind⟩
      obtain rfl := List.mem_singleton.mp hg
      cases hkind
    · exact (nativeTokenTransferPermissionCheck_eq_ok_iff _).mpr (by decide)

/-- Granting an allowance takes an accepted batch away. -/
theorem allowance_added_refused :
    permissionChecks jsonPermissionDecoders oneCall [contractCallPermission oneTarget] = .ok () ∧
    WellFormed jsonPermissionDecoders (allowancePermission "0x0") ∧
    permissionChecks jsonPermissionDecoders oneCall
      [contractCallPermission oneTarget, allowancePermission "0x0"] ≠ .ok () :=
  ⟨by decide, ⟨_, rfl⟩, by decide⟩

end BlockchainApi
