/-
  The signer list of a session validator (`decode_signers`,
  `src/handlers/json_rpc/wallet/prepare_calls.rs`).

  A validator that is not the ownable one keeps its signers as a count byte and that many entries,
  each a type byte and the data of that type; nothing separates the entries and nothing follows
  them.  `Signer` is one entry, with its data as a byte string of the right length, so that an entry
  of another length cannot be built; `encodeSigners` is that spelling of a list.

  1. **One turn of the loop** consumes exactly one entry, and gives its type
     (`decodeSigner_eq_ok_iff`): only two type bytes are known, and each fixes the length.

  2. **The loop.** By induction on the count, `decodeSignersLoop_eq_ok_iff` says what the loop
     accepts, in both directions at once: that many entries, with nothing behind them.

  3. **The whole list.** `decodeSigners_exact` puts the count byte in front.  A list of more than
     255 entries has no spelling.
-/
import BlockchainApi.Wallet.PrepareCalls

namespace BlockchainApi

open ByteCodec

/-! ## Entries: a type byte, and data of a fixed length -/

/-- One entry of the list: an EOA address, or a passkey. -/
inductive Signer where
  | ecdsa (address : FixedBytes 20)
  | passkey (key : FixedBytes 64)
  deriving DecidableEq

namespace Signer

/-- The type of an entry, as `decode_signers` returns it. -/
def signerType : Signer → SignerType
  | .ecdsa _ => .ecdsa
  | .passkey _ => .passkey

/-- The bytes of an entry. -/
def encode : Signer → Bytes
  | .ecdsa address => 0 :: address.bytes
  | .passkey key => 1 :: key.bytes

end Signer

/-- The bytes of a list: its length in one byte, then its entries. -/
def encodeSigners (signers : List Signer) : Bytes :=
  UInt8.ofNat signers.length :: signers.flatMap Signer.encode

/-! ## The loop: one entry a turn, and nothing left in the end -/

/-- Only two type bytes are known. -/
theorem signerTypeAndLength_eq_ok_iff {type : UInt8} {signerType : SignerType} {length : Nat} :
    signerTypeAndLength (some type) = .ok (signerType, length) ↔
      type = 0 ∧ signerType = .ecdsa ∧ length = 20 ∨
        type = 1 ∧ signerType = .passkey ∧ length = 64 := by
  unfold signerTypeAndLength
  split
  · rename_i htype
    cases htype
    simp [ecdsaAddressLength, eq_comm]
  · rename_i htype
    cases htype
    simp [passkeySignatureLength, eq_comm]
  · rename_i h0 h1 htype
    obtain rfl := Option.some.inj htype
    refine iff_of_false (by simp) ?_
    rintro (⟨rfl, -⟩ | ⟨rfl, -⟩)
    · exact h0 rfl
    · exact h1 rfl
  · rename_i htype
    cases htype

theorem le_length_append {n : Nat} (front : FixedBytes n) (rest : Bytes) :
    n ≤ (front.bytes ++ rest).length := by
  rw [List.length_append, front.length_eq]
  exact Nat.le_add_right n _

/-- **One turn of the loop consumes one entry**, and gives its type. What is left is what stands
    behind the entry. -/
theorem decodeSigner_eq_ok_iff {data rest : Bytes} {signerType : SignerType} :
    decodeSigner data = .ok (signerType, rest) ↔
      ∃ signer : Signer, signer.signerType = signerType ∧ data = signer.encode ++ rest := by
  cases data with
  | nil =>
    refine iff_of_false (by simp [decodeSigner, signerTypeAndLength]) ?_
    rintro ⟨_ | _, -, hdata⟩ <;> cases hdata
  | cons type data =>
    simp only [decodeSigner, List.head?_cons, Outcome.bind_eq_ok, Outcome.ensure_eq_ok,
      Outcome.pure_eq, Outcome.ok.injEq, Prod.mk.injEq, Prod.exists,
      signerTypeAndLength_eq_ok_iff, exists_const]
    constructor
    · rintro ⟨t, length, ⟨rfl, rfl, rfl⟩ | ⟨rfl, rfl, rfl⟩, hlength, rfl, rfl⟩
      · refine ⟨.ecdsa (.front 20 data hlength), rfl, ?_⟩
        exact congrArg (List.cons 0) (List.take_append_drop 20 data).symm
      · refine ⟨.passkey (.front 64 data hlength), rfl, ?_⟩
        exact congrArg (List.cons 1) (List.take_append_drop 64 data).symm
    · rintro ⟨signer, rfl, hdata⟩
      cases signer with
      | ecdsa address =>
        obtain ⟨rfl, rfl⟩ := List.cons.inj hdata
        exact ⟨_, _, .inl ⟨rfl, rfl, rfl⟩, le_length_append address rest, rfl,
          address.drop_bytes_append rest⟩
      | passkey key =>
        obtain ⟨rfl, rfl⟩ := List.cons.inj hdata
        exact ⟨_, _, .inr ⟨rfl, rfl, rfl⟩, le_length_append key rest, rfl,
          key.drop_bytes_append rest⟩

/-- **The loop accepts exactly that many entries**, with nothing behind them. Induction on the
    count, with the bytes general; from right to left, the first entry is what the first turn
    takes off. -/
theorem decodeSignersLoop_eq_ok_iff {signerCount : Nat} {data : Bytes}
    {signerTypes : List SignerType} :
    decodeSignersLoop signerCount data = .ok signerTypes ↔
      ∃ signers : List Signer, signers.length = signerCount ∧
        data = signers.flatMap Signer.encode ∧ signerTypes = signers.map Signer.signerType := by
  induction signerCount generalizing data signerTypes with
  | zero =>
    simp only [decodeSignersLoop, Outcome.bind_eq_ok, Outcome.ensure_eq_ok, Outcome.pure_eq,
      Outcome.ok.injEq, exists_const, List.length_eq_zero_iff, exists_eq_left, List.flatMap_nil,
      List.map_nil, eq_comm (a := []) (b := signerTypes)]
  | succ signerCount ih =>
    simp only [decodeSignersLoop, Outcome.bind_eq_ok, Outcome.pure_eq, Outcome.ok.injEq,
      Prod.exists, decodeSigner_eq_ok_iff, ih]
    constructor
    · rintro ⟨_, rest, ⟨signer, rfl, rfl⟩, _, ⟨signers, rfl, rfl, rfl⟩, rfl⟩
      exact ⟨signer :: signers, rfl, rfl, rfl⟩
    · rintro ⟨signers, hlength, rfl, rfl⟩
      obtain ⟨signer, signers, rfl⟩ := List.exists_cons_of_length_eq_add_one hlength
      exact ⟨_, _, ⟨signer, rfl, rfl⟩, _, ⟨signers, Nat.succ.inj hlength, rfl, rfl⟩, rfl⟩

/-! ## The whole list, behind its count byte -/

variable {d : SmartSessionDeps} {validatorAddress : Address}

theorem decodeSigners_nil (h : isOwnableValidatorAddress validatorAddress = false) :
    decodeSigners d [] validatorAddress =
      .err (.invalidPermissionContext .signersDataMissingCount) := by
  unfold decodeSigners
  rw [h]
  rfl

/-- For a validator that is not the ownable one there is only the signer list. -/
theorem decodeSigners_cons (h : isOwnableValidatorAddress validatorAddress = false)
    (signerCount : UInt8) (rest : Bytes) :
    decodeSigners d (signerCount :: rest) validatorAddress =
      decodeSignersLoop signerCount.toNat rest := by
  unfold decodeSigners
  rw [h]
  rfl

theorem decodeSigners_eq_ok_iff (h : isOwnableValidatorAddress validatorAddress = false)
    {data : Bytes} {signerTypes : List SignerType} :
    decodeSigners d data validatorAddress = .ok signerTypes ↔
      ∃ signers : List Signer, signers.length ≤ 255 ∧ data = encodeSigners signers ∧
        signerTypes = signers.map Signer.signerType := by
  unfold encodeSigners
  cases data with
  | nil =>
    rw [decodeSigners_nil h]
    simp
  | cons signerCount rest =>
    rw [decodeSigners_cons h, decodeSignersLoop_eq_ok_iff]
    refine exists_congr fun signers => ?_
    rw [List.cons.injEq]
    constructor
    · rintro ⟨hlength, hrest, htypes⟩
      refine ⟨?_, ⟨?_, hrest⟩, htypes⟩
      · have := signerCount.toNat_lt
        omega
      · rw [hlength, UInt8.ofNat_toNat]
    · rintro ⟨hle, ⟨rfl, hrest⟩, htypes⟩
      refine ⟨?_, hrest, htypes⟩
      rw [UInt8.toNat_ofNat', Nat.mod_eq_of_lt (by omega)]

/-- **Signer list decoding accepts exactly its grammar**, and gives the types of the entries; so
    decoding the spelling of a list that the count byte can count gives its types back. -/
theorem decodeSigners_exact (d : SmartSessionDeps) (validatorAddress : Address)
    (h : isOwnableValidatorAddress validatorAddress = false) :
    (∀ data signerTypes, decodeSigners d data validatorAddress = .ok signerTypes ↔
      ∃ signers : List Signer, signers.length ≤ 255 ∧ data = encodeSigners signers ∧
        signerTypes = signers.map Signer.signerType) ∧
    ∀ signers : List Signer, signers.length ≤ 255 →
      decodeSigners d (encodeSigners signers) validatorAddress =
        .ok (signers.map Signer.signerType) := by
  refine ⟨fun data signerTypes => decodeSigners_eq_ok_iff h, fun signers hlength => ?_⟩
  exact (decodeSigners_eq_ok_iff h).mpr ⟨signers, hlength, rfl, rfl⟩

/-- The multi-key validator of the source's tests. -/
def multiKeyValidatorAddress : Address :=
  FixedBytes.ofNat 20 0x207b90941d9cff79a750c1e5c05ddaa17ea01b9f

theorem decodeSigners_exact_multiKey :
    (∀ data signerTypes,
      decodeSigners standardSmartSession data multiKeyValidatorAddress = .ok signerTypes ↔
        ∃ signers : List Signer, signers.length ≤ 255 ∧ data = encodeSigners signers ∧
          signerTypes = signers.map Signer.signerType) ∧
    ∀ signers : List Signer, signers.length ≤ 255 →
      decodeSigners standardSmartSession (encodeSigners signers) multiKeyValidatorAddress =
        .ok (signers.map Signer.signerType) :=
  decodeSigners_exact standardSmartSession multiKeyValidatorAddress (by decide)

end BlockchainApi
