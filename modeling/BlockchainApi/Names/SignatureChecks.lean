/-
  What the name endpoints make of a signature they cannot read.

  The verification cuts a signature at its second byte and reads hex behind it
  (`Utils.MessageSignature`).  Here is what this does to the endpoints.

  1. **Who gets there.** A request reaches the verification of its signature on the chain of one
     coin type, or not at all (`ReachesSignature`): the other checks may refuse it before.  A
     registration and an attributes update verify on the chain of the request's coin type, an
     address update on that of the payload's.

  2. **What can panic.** No other step of the three handlers can, each with a lemma, so a handler
     panics exactly if the verification it reaches does (`decision_eq_panic_iff`).

  3. **The signatures.** So an endpoint stands or falls with `&signature[2..]` and what is read
     behind it (`signatures_checked_iff`): a signature of less than two bytes, or one whose second
     byte is inside of a character, stops the handler; and other prefixes of two bytes are taken for
     `0x`.
-/
import BlockchainApi.Names.Authorization
import BlockchainApi.Utils.MessageSignature

namespace BlockchainApi

namespace NamesService

variable {svc : NamesService} {verify : Verify} {pool : Pool} {s : Store} {now : UInt64}
variable {name : String} {request : RegisterRequest} {op : NameOperation}
variable {endpoint : NameEndpoint}

/-- The source an endpoint names when it verifies. -/
def NameEndpoint.source : NameEndpoint → MessageSource
  | .register => .profileRegisterSigValidate
  | .updateAddress _ => .profileAddressSigValidate
  | .updateAttributes _ => .profileAttributesSigValidate

/-- `verify_message_signature` as an endpoint calls it.  Without a project the handler stops before
    it does. -/
def verifier (svc : NamesService) (k : SignatureCrates) (endpoint : NameEndpoint) : Verify :=
  fun message signature address chainId =>
    k.verifyMessageSignature message signature address chainId (svc.testingProjectId.getD "")
      endpoint.source none

/-- The request passes all checks before the signature, which is then verified on the chain of the
    coin type. -/
def ReachesSignature (svc : NamesService) (pool : Pool) (s : Store) (now : UInt64)
    (request : RegisterRequest) (coinType : UInt32) : NameEndpoint → Prop
  | .register => ∃ payload, svc.registerChecks request = .ok payload ∧
      (pool.lookup s payload.name).isOk = false ∧
      isTimestampWithinInterval now payload.timestamp unixtimestampSyncThreshold = true ∧
      (payload.attributes.all fun attributes =>
        checkAttributes attributes supportedAttributes attributesValueMaxLength) = true ∧
      svc.testingProjectId.isSome = true ∧ request.coinType = coinType
  | .updateAddress name => ∃ payload,
      svc.fromStr UpdateAddressPayload.deserialize request.message = .ok payload ∧
      isCoinTypeSupported request.coinType = true ∧ isCoinTypeSupported payload.coinType = true ∧
      (svc.h160FromStr payload.address).isSome = true ∧
      (∃ found, pool.lookup s name = .ok found) ∧
      isTimestampWithinInterval now payload.timestamp unixtimestampSyncThreshold = true ∧
      (∃ owner, svc.h160FromStr request.address = some owner) ∧
      svc.testingProjectId.isSome = true ∧ payload.coinType = coinType
  | .updateAttributes name => ∃ payload,
      svc.fromStr UpdateAttributesPayload.deserialize request.message = .ok payload ∧
      isCoinTypeSupported request.coinType = true ∧
      (∃ found, pool.lookup s name = .ok found) ∧
      isTimestampWithinInterval now payload.timestamp unixtimestampSyncThreshold = true ∧
      (∃ owner, svc.h160FromStr request.address = some owner) ∧
      svc.testingProjectId.isSome = true ∧ request.coinType = coinType

/-! ## Where a handler can panic: in one place -/

theorem checkSignature_eq_panic_iff {coinType : UInt32} :
    svc.checkSignature verify request coinType = .panic ↔
      svc.testingProjectId.isSome = true ∧
        verify request.message request.signature request.address (chainIdCaip2 coinType)
          = .panic := by
  rw [checkSignature]
  cases svc.testingProjectId with
  | none => simp [Outcome.okOr]
  | some project =>
    cases verify request.message request.signature request.address (chainIdCaip2 coinType) with
    | ok valid => simp [Outcome.okOr]
    | err e => simp [Outcome.okOr]
    | panic => simp [Outcome.okOr]

theorem checkOwnerStep_ne_panic {owner : Address} {coinType : UInt32} {authorized : Bool}
    {a : (_ : UInt32) × NameAddress} :
    svc.checkOwnerStep owner coinType authorized a ≠ .panic := by
  rw [checkOwnerStep]
  split
  · split
    · exact Outcome.err_ne_panic
    · split
      · exact Outcome.err_ne_panic
      · exact Outcome.ok_ne_panic
  · exact Outcome.ok_ne_panic

theorem checkOwner_ne_panic {owner : Address} {coinType : UInt32}
    {addresses : ENSIP11AddressesMap} : svc.checkOwner owner coinType addresses ≠ .panic :=
  Outcome.bind_ne_panic (Outcome.foldlM_ne_panic fun _ _ => checkOwnerStep_ne_panic)
    fun _ _ => Outcome.ensure_ne_panic

theorem registerChecks_ne_panic : svc.registerChecks request ≠ .panic := by
  simp [registerChecks, Outcome.bind_eq_panic]

theorem registerDecision_eq_panic_iff :
    svc.registerDecision verify pool s now request = .panic ↔
      svc.ReachesSignature pool s now request request.coinType .register ∧
        verify request.message request.signature request.address (chainIdCaip2 request.coinType)
          = .panic := by
  simp only [registerDecision, registerAuthorize, ReachesSignature, Outcome.bind_eq_panic,
    registerChecks_ne_panic, Outcome.ensure_ne_panic, Outcome.ensure_eq_ok, Outcome.pure_eq,
    Outcome.ok_ne_panic, checkSignature_eq_panic_iff, false_or, or_false, and_false, exists_const]
  tauto

theorem updateAddressDecision_eq_panic_iff :
    svc.updateAddressDecision verify pool s now name request = .panic ↔
      ∃ coinType, svc.ReachesSignature pool s now request coinType (.updateAddress name) ∧
        verify request.message request.signature request.address (chainIdCaip2 coinType)
          = .panic := by
  simp only [updateAddressDecision, ReachesSignature, Outcome.bind_eq_panic,
    Outcome.ofExcept_ne_panic, Outcome.ofExcept_eq_ok, Outcome.ensure_ne_panic,
    Outcome.ensure_eq_ok, Outcome.okOr_ne_panic, Outcome.okOr_eq_ok, Outcome.pure_eq,
    Outcome.ok_ne_panic, checkSignature_eq_panic_iff, checkOwner_ne_panic, false_or, or_false,
    and_false, exists_const]
  constructor
  · rintro ⟨payload, hparse, hcoin, hpayloadCoin, haddress, found, hfound, htime, owner, howner,
      hproject, hverify⟩
    exact ⟨payload.coinType, ⟨payload, hparse, hcoin, hpayloadCoin, haddress, ⟨found, hfound⟩,
      htime, ⟨owner, howner⟩, hproject, rfl⟩, hverify⟩
  · rintro ⟨coinType, ⟨payload, hparse, hcoin, hpayloadCoin, haddress, ⟨found, hfound⟩, htime,
      ⟨owner, howner⟩, hproject, rfl⟩, hverify⟩
    exact ⟨payload, hparse, hcoin, hpayloadCoin, haddress, found, hfound, htime, owner, howner,
      hproject, hverify⟩

theorem updateAttributesDecision_eq_panic_iff :
    svc.updateAttributesDecision verify pool s now name request = .panic ↔
      svc.ReachesSignature pool s now request request.coinType (.updateAttributes name) ∧
        verify request.message request.signature request.address (chainIdCaip2 request.coinType)
          = .panic := by
  simp only [updateAttributesDecision, ReachesSignature, Outcome.bind_eq_panic,
    Outcome.ofExcept_ne_panic, Outcome.ofExcept_eq_ok, Outcome.ensure_ne_panic,
    Outcome.ensure_eq_ok, Outcome.okOr_ne_panic, Outcome.okOr_eq_ok, Outcome.pure_eq,
    Outcome.ok_ne_panic, checkSignature_eq_panic_iff, checkOwner_ne_panic, false_or, or_false,
    and_false, exists_const]
  constructor
  · rintro ⟨payload, hparse, hcoin, found, hfound, htime, owner, howner, hproject, hverify⟩
    exact ⟨⟨payload, hparse, hcoin, ⟨found, hfound⟩, htime, ⟨owner, howner⟩, hproject, trivial⟩,
      hverify⟩
  · rintro ⟨⟨payload, hparse, hcoin, ⟨found, hfound⟩, htime, ⟨owner, howner⟩, hproject, -⟩,
      hverify⟩
    exact ⟨payload, hparse, hcoin, found, hfound, htime, owner, howner, hproject, hverify⟩

/-- A registration and an attributes update verify on the chain of the request's coin type. -/
theorem reachesSignature_eq {coinType : UInt32}
    (h : svc.ReachesSignature pool s now request coinType endpoint)
    (hendpoint : ∀ name, endpoint ≠ .updateAddress name) : request.coinType = coinType := by
  cases endpoint with
  | register =>
    obtain ⟨payload, -, -, -, -, -, hcoin⟩ := h
    exact hcoin
  | updateAddress name => exact absurd rfl (hendpoint name)
  | updateAttributes name =>
    obtain ⟨payload, -, -, -, -, -, -, hcoin⟩ := h
    exact hcoin

/-- **Where a handler can panic**: in the verification it reaches. A case for each endpoint. -/
theorem decision_eq_panic_iff :
    svc.decision verify pool s now request endpoint = .panic ↔
      ∃ coinType, svc.ReachesSignature pool s now request coinType endpoint ∧
        verify request.message request.signature request.address (chainIdCaip2 coinType)
          = .panic := by
  cases endpoint with
  | register =>
    rw [decision, registerDecision_eq_panic_iff]
    constructor
    · exact fun h => ⟨_, h⟩
    · rintro ⟨coinType, hreaches, hverify⟩
      obtain rfl := reachesSignature_eq hreaches fun _ h => by cases h
      exact ⟨hreaches, hverify⟩
  | updateAddress name => rw [decision, updateAddressDecision_eq_panic_iff]
  | updateAttributes name =>
    rw [decision, updateAttributesDecision_eq_panic_iff]
    constructor
    · exact fun h => ⟨_, h⟩
    · rintro ⟨coinType, hreaches, hverify⟩
      obtain rfl := reachesSignature_eq hreaches fun _ h => by cases h
      exact ⟨hreaches, hverify⟩

/-! ## The signatures: which are refused, and which stop the handler -/

/-- **Signatures at the name endpoints.**  A handler returns, and counts as valid only signatures
    that are hex behind `0x`, exactly if every verification it reaches can cut the signature behind
    its second byte, and finds `0x` before the cut or nothing it accepts behind it. -/
theorem signatures_checked_iff (svc : NamesService) (k : SignatureCrates) (pool : Pool) (s : Store)
    (now : UInt64) (request : RegisterRequest) (endpoint : NameEndpoint) :
    (svc.decision (svc.verifier k endpoint) pool s now request endpoint ≠ .panic ∧
        ∀ coinType, svc.ReachesSignature pool s now request coinType endpoint →
          svc.verifier k endpoint request.message request.signature request.address
            (chainIdCaip2 coinType) = .ok true →
          SignatureCrates.IsHexSignature request.signature) ↔
      ∀ coinType, svc.ReachesSignature pool s now request coinType endpoint →
        k.CutsPrefix request.message request.signature request.address (chainIdCaip2 coinType)
          (svc.testingProjectId.getD "") endpoint.source none := by
  -- for one call, both parts of the property are one condition on the signature
  have hverifies : ∀ coinType, k.CutsPrefix request.message request.signature request.address
      (chainIdCaip2 coinType) (svc.testingProjectId.getD "") endpoint.source none ↔
      svc.verifier k endpoint request.message request.signature request.address
          (chainIdCaip2 coinType) ≠ .panic ∧
        (svc.verifier k endpoint request.message request.signature request.address
          (chainIdCaip2 coinType) = .ok true →
          SignatureCrates.IsHexSignature request.signature) :=
    fun _ => SignatureCrates.verifies_iff_cutsPrefix.symm
  rw [ne_eq, decision_eq_panic_iff]
  constructor
  · rintro ⟨hreturns, hshape⟩ coinType hreaches
    exact (hverifies coinType).mpr ⟨fun hpanic => hreturns ⟨coinType, hreaches, hpanic⟩,
      hshape coinType hreaches⟩
  · -- a panic of the decision comes from a call that is reached
    intro h
    constructor
    · rintro ⟨coinType, hreaches, hpanic⟩
      exact ((hverifies coinType).mp (h coinType hreaches)).1 hpanic
    · exact fun coinType hreaches => ((hverifies coinType).mp (h coinType hreaches)).2

/-- A registration without attributes. -/
private def daveRegistration : String :=
  "\x7b\"name\":\"dave.wct.id\",\"timestamp\":1000\x7d"

private def daveService : NamesService := .reading [(daveRegistration, .object
  [("name", .string "dave.wct.id"), ("timestamp", .int 1000)])]

private def daveRequest (signature : String) : RegisterRequest where
  message := daveRegistration
  signature := signature
  coinType := 60
  -- an address without letters is its own checksum
  address := "0x1111111111111111111111111111111111111111"

/-- The contract at the address takes one byte for a signature. -/
private def daveCrates : SignatureCrates where
  keccak256 _ := ByteCodec.FixedBytes.ofNat 32 0
  parseChecksummed := h160OfHex
  verifyEip6492 signature _ _ _ := if signature = [1] then .ok () else .error .verification
  displayHexError _ := "Odd number of digits"

/-- **The failing inputs.**  The empty signature, one of a single byte, and one whose first
    character takes three bytes stop the handler with a panic.  `ab01` is accepted like `0x01`. -/
theorem malformed_signatures :
    (∀ signature ∈ ["", "0", "€0"],
      daveService.decision (daveService.verifier daveCrates .register) (.reliable 0) .empty 1000
        (daveRequest signature) .register = .panic) ∧
      (daveService.decision (daveService.verifier daveCrates .register) (.reliable 0) .empty 1000
        (daveRequest "ab01") .register
          = .ok (.register "dave.wct.id" ∅ (registerAddresses (daveRequest "ab01")))) ∧
      ¬ SignatureCrates.IsHexSignature "ab01" := by
  refine ⟨?_, rfl, ?_⟩
  · intro signature hmem
    rcases List.mem_cons.mp hmem with rfl | hmem
    · rfl
    · rcases List.mem_cons.mp hmem with rfl | hmem
      · rfl
      · rw [List.mem_singleton.mp hmem]
        rfl
  · rintro ⟨digits, htext, -⟩
    cases (List.cons_eq_cons.mp htext).1

end NamesService

end BlockchainApi
