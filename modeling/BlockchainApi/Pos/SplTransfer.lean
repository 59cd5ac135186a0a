/-
  Token transfers on Solana (`src/handlers/json_rpc/pos/solana.rs`).

  The mint of the token is an account that one of two token programs owns.  The transfer is built
  for that program (`get_token_decimals` returns it), but the accounts of sender and recipient are
  always derived for the SPL Token program (`getAssociatedTokenAddress`).

  What other crates do is part of `SolanaDeps`.  `buildSplTransfer` ends with the instruction; the
  rest of the source packs it into a transaction.

  1. **The mint** (`getTokenDecimals_eq_ok`): an accepted one is owned by one of the two programs,
     and that is the program of the instruction.
  2. **The accounts** (`buildsRightTransfer_iff`): for an accepted mint, the right transfer is built
     exactly if the SPL Token program owns the mint.  The derivation keeps the accounts of different
     programs apart (`SeparatesPrograms`), so for the other program they are never the right ones.
  3.  What then becomes of the transfer is up to `transfer_checked`, which may refuse it
     (`not_buildsRightTransfer`).
-/
import BlockchainApi.Pos.Types

namespace BlockchainApi.Pos

open ByteCodec

/-- `Pubkey`. -/
abbrev Pubkey := FixedBytes 32

/-- `AssetNamespace` of Solana. -/
inductive SolanaAssetNamespace where
  | token
  | slip44
  deriving DecidableEq

/-- An account, as far as it is read. -/
structure MintAccount where
  owner : Pubkey
  data : Bytes

/-- The instruction that `transfer_checked` builds, and its arguments. -/
structure TransferChecked where
  tokenProgramId : Pubkey
  source : Pubkey
  mint : Pubkey
  destination : Pubkey
  authority : Pubkey
  signers : List Pubkey
  amount : UInt64
  decimals : UInt8
  deriving DecidableEq

/-- What other crates and the chain do. -/
structure SolanaDeps where
  /-- `Pubkey::from_str`. -/
  parsePubkey : String → Except String Pubkey
  /-- `Display for Pubkey`. -/
  displayPubkey : Pubkey → String
  /-- `get_account_with_commitment`. -/
  getAccount : Pubkey → Except String (Option MintAccount)
  /-- `spl_token::id`. -/
  splTokenId : Pubkey
  /-- `Mint::unpack_from_slice`, which gives the decimals. -/
  unpackMint : Bytes → Except String UInt8
  parseUnits : String → UInt8 → Except String ParseUnits
  /-- `get_associated_token_address_with_program_id`: wallet, token program and mint. -/
  deriveTokenAddress : Pubkey → Pubkey → Pubkey → Pubkey
  /-- `transfer_checked`. -/
  transferChecked : TransferChecked → Except String TransferChecked

/-- `SPL_TOKEN_2022_ID`. -/
def splToken2022Id : String := "TokenzQdBNbLqP5VEhdkAS6EPFLC1PHnBqCXEpPxuEb"

/-- `Mint::LEN`. -/
def mintLen : Nat := 82

section

variable (deps : SolanaDeps)

/-- `get_associated_token_address`: the account for the SPL Token program. -/
def getAssociatedTokenAddress (wallet mint : Pubkey) : Pubkey :=
  deps.deriveTokenAddress wallet deps.splTokenId mint

/-- `get_token_decimals`: the decimals of a mint, and the token program that owns it. -/
def getTokenDecimals (mint : Pubkey) : Except BuildPosTxsError (UInt8 × Pubkey) :=
  match deps.getAccount mint with
  | .error e => .error (.validation (.invalidAsset ("Failed to fetch mint account: " ++ e)))
  | .ok none => .error (.validation (.invalidAsset "Mint account not found"))
  | .ok (some account) =>
    match deps.parsePubkey splToken2022Id with
    | .error _ => .error (.validation (.invalidAsset "Invalid SPL Token-2022 program ID"))
    | .ok token2022 =>
      if account.owner ≠ deps.splTokenId ∧ account.owner ≠ token2022 ∨
          account.data.length < mintLen then
        .error (.validation (.invalidAsset ("Invalid mint account owner: " ++
          deps.displayPubkey account.owner ++ ". Expected SPL Token program.")))
      else
        match deps.unpackMint (account.data.take mintLen) with
        | .ok decimals => .ok (decimals, account.owner)
        | .error e =>
          .error (.validation (.invalidAsset ("Failed to parse as SPL Token mint: " ++ e)))

/-- `parse_token_amount`: an amount of 64 bits. -/
def parseSolanaTokenAmount (amount : String) (decimals : UInt8) :
    Except BuildPosTxsError UInt64 :=
  match deps.parseUnits amount decimals with
  | .error e => .error (.validation (.invalidAmount
      ("Unable to parse amount with " ++ toString decimals.toNat ++ " decimals: " ++ e)))
  | .ok parsedValue =>
    let value := parsedValue.toU256
    if 2 ^ 64 - 1 < value.toNat then
      .error (.validation (.invalidAmount "Amount too large for u64"))
    else .ok (UInt64.ofNat value.toNat)

/-- `build_spl_transfer`, up to the instruction. -/
def buildSplTransfer (params : ValidatedPaymentIntent SolanaAssetNamespace) :
    Except BuildPosTxsError TransferChecked := do
  let sender ← (deps.parsePubkey params.senderAddress).mapError
    fun e => .validation (.invalidSender e)
  let recipient ← (deps.parsePubkey params.recipientAddress).mapError
    fun e => .validation (.invalidRecipient e)
  let mint ← (deps.parsePubkey params.assetReference).mapError
    fun e => .validation (.invalidAsset e)
  let (decimals, tokenProgramId) ← getTokenDecimals deps mint
  let amountLamports ← parseSolanaTokenAmount deps params.amount decimals
  (deps.transferChecked
    { tokenProgramId, mint, decimals
      source := getAssociatedTokenAddress deps sender mint
      destination := getAssociatedTokenAddress deps recipient mint
      authority := sender
      signers := [sender]
      amount := amountLamports }).mapError
    fun e => .internal (.internal ("Failed to create transfer instruction: " ++ e))

/-- `build`: only tokens can be paid with. -/
def buildSolana (params : ValidatedPaymentIntent SolanaAssetNamespace) :
    Except BuildPosTxsError TransferChecked :=
  match params.namespace_ with
  | .token => buildSplTransfer deps params
  | .slip44 => .error (.validation (.invalidAsset "Unsupported asset namespace"))

end

/-! ## The accounts of sender and recipient, and the program they belong to -/

variable {deps : SolanaDeps} {params : ValidatedPaymentIntent SolanaAssetNamespace}

/-- What `transfer_checked` does: it keeps to its arguments, and builds for the SPL Token
    program. -/
structure BuildsChecked (deps : SolanaDeps) : Prop where
  keeps : ∀ arguments instruction, deps.transferChecked arguments = .ok instruction →
    instruction = arguments
  builds : ∀ arguments, arguments.tokenProgramId = deps.splTokenId →
    deps.transferChecked arguments = .ok arguments

/-- The accounts of a wallet for the two token programs are different. -/
def SeparatesPrograms (deps : SolanaDeps) : Prop :=
  ∀ wallet mint program, program ≠ deps.splTokenId →
    deps.parsePubkey splToken2022Id = .ok program →
      deps.deriveTokenAddress wallet program mint ≠
        deps.deriveTokenAddress wallet deps.splTokenId mint

/-- **The right transfer**: the mint's own program moves the amount between the accounts of sender
    and recipient for that program. -/
def rightTransfer (deps : SolanaDeps) (sender recipient mint owner : Pubkey) (decimals : UInt8)
    (amount : UInt64) : TransferChecked where
  tokenProgramId := owner
  source := deps.deriveTokenAddress sender owner mint
  mint := mint
  destination := deps.deriveTokenAddress recipient owner mint
  authority := sender
  signers := [sender]
  amount := amount
  decimals := decimals

/-- What is accepted: the accounts are keys, the mint is that of a token, and the amount is one. -/
structure AcceptsTransfer (deps : SolanaDeps)
    (params : ValidatedPaymentIntent SolanaAssetNamespace)
    (sender recipient mint owner : Pubkey) (decimals : UInt8) (amount : UInt64) : Prop where
  sender_eq : deps.parsePubkey params.senderAddress = .ok sender
  recipient_eq : deps.parsePubkey params.recipientAddress = .ok recipient
  mint_eq : deps.parsePubkey params.assetReference = .ok mint
  decimals_eq : getTokenDecimals deps mint = .ok (decimals, owner)
  amount_eq : parseSolanaTokenAmount deps params.amount decimals = .ok amount

variable {sender recipient mint owner : Pubkey} {decimals : UInt8} {amount : UInt64}

/-- **An accepted mint** is owned by one of the two programs, which is the one returned. -/
theorem getTokenDecimals_eq_ok (h : getTokenDecimals deps mint = .ok (decimals, owner)) :
    ∃ account, deps.getAccount mint = .ok (some account) ∧ owner = account.owner ∧
      (owner = deps.splTokenId ∨ deps.parsePubkey splToken2022Id = .ok owner) ∧
      deps.unpackMint (account.data.take mintLen) = .ok decimals := by
  rw [getTokenDecimals] at h
  split at h
  · cases h
  · cases h
  · next account haccount =>
    split at h
    · cases h
    · next token2022 htoken =>
      split at h
      · cases h
      · next howner =>
        split at h
        · next hunpack =>
          cases h
          refine ⟨account, haccount, rfl, ?_, hunpack⟩
          by_cases hspl : account.owner = deps.splTokenId
          · exact .inl hspl
          · by_cases h2022 : account.owner = token2022
            · exact .inr (h2022 ▸ htoken)
            · exact absurd (.inl ⟨hspl, h2022⟩) howner
        · cases h

/-- The builder hands its values to `transfer_checked`, with the accounts for the SPL Token
    program. -/
theorem buildSplTransfer_eq
    (h : AcceptsTransfer deps params sender recipient mint owner decimals amount) :
    buildSplTransfer deps params =
      (deps.transferChecked
        { rightTransfer deps sender recipient mint owner decimals amount with
          source := deps.deriveTokenAddress sender deps.splTokenId mint
          destination := deps.deriveTokenAddress recipient deps.splTokenId mint }).mapError
        fun e => .internal (.internal ("Failed to create transfer instruction: " ++ e)) := by
  rw [buildSplTransfer, h.sender_eq, h.recipient_eq, h.mint_eq]
  show (getTokenDecimals deps mint >>= fun found =>
    parseSolanaTokenAmount deps params.amount found.1 >>= fun amount => _) = _
  rw [h.decimals_eq]
  show (parseSolanaTokenAmount deps params.amount decimals >>= fun amount => _) = _
  rw [h.amount_eq]
  rfl

/-- **When the right transfer is built**: exactly for the mints of the SPL Token program. -/
theorem buildsRightTransfer_iff (hchecked : BuildsChecked deps) (hderive : SeparatesPrograms deps)
    (h : AcceptsTransfer deps params sender recipient mint owner decimals amount) :
    buildSplTransfer deps params =
        .ok (rightTransfer deps sender recipient mint owner decimals amount) ↔
      owner = deps.splTokenId := by
  rw [buildSplTransfer_eq h]
  constructor
  · intro hbuilt
    by_contra howner
    obtain ⟨-, -, -, hprogram, -⟩ := getTokenDecimals_eq_ok h.decimals_eq
    have h2022 := hprogram.resolve_left howner
    -- what is built has the accounts for the SPL Token program
    generalize harguments : ({ rightTransfer deps sender recipient mint owner decimals amount with
      source := deps.deriveTokenAddress sender deps.splTokenId mint
      destination := deps.deriveTokenAddress recipient deps.splTokenId mint } :
        TransferChecked) = arguments at hbuilt
    cases hresult : deps.transferChecked arguments with
    | error e =>
      rw [hresult] at hbuilt
      cases hbuilt
    | ok instruction =>
      rw [hresult] at hbuilt
      cases hbuilt
      have hkept := hchecked.keeps _ _ hresult
      rw [← harguments] at hkept
      exact hderive sender mint owner howner h2022 (congrArg TransferChecked.source hkept)
  · rintro rfl
    show (deps.transferChecked (rightTransfer deps sender recipient mint _ decimals
      amount)).mapError _ = _
    rw [hchecked.builds _ rfl]
    rfl

/-! ## Two mints, one for each token program -/

/-- A chain with one mint of six decimals, that the program owns; `refuses` says whether
    `transfer_checked` refuses programs that it does not know, as it does in the source's release.
    The keys are numbers. -/
def demoSolanaDeps (owner : Nat) (refuses : Bool) : SolanaDeps where
  parsePubkey text :=
    if text = splToken2022Id then .ok (.ofNat 32 2022)
    else if text = "sender" then .ok (.ofNat 32 1)
    else if text = "recipient" then .ok (.ofNat 32 2)
    else if text = "mint" then .ok (.ofNat 32 3)
    else .error "String is the wrong size"
  displayPubkey key := toString key.toNat
  getAccount _ := .ok (some ⟨.ofNat 32 owner, List.replicate 82 0⟩)
  splTokenId := .ofNat 32 2020
  unpackMint _ := .ok 6
  parseUnits text _ :=
    if text = "1.5" then .ok (.u256 1500000) else .error "invalid digit found in string"
  deriveTokenAddress wallet program _ := .ofNat 32 (wallet.toNat % 256 * 256 ^ 2 + program.toNat)
  transferChecked arguments :=
    if refuses ∧ arguments.tokenProgramId ≠ .ofNat 32 2020 then .error "IncorrectProgramId"
    else .ok arguments

/-- A payment of one and a half. -/
def demoSplPayment : ValidatedPaymentIntent SolanaAssetNamespace where
  assetReference := "mint"
  amount := "1.5"
  recipientAddress := "recipient"
  senderAddress := "sender"
  namespace_ := .token

theorem buildsChecked_demo (owner : Nat) (refuses : Bool) :
    BuildsChecked (demoSolanaDeps owner refuses) := by
  constructor
  · intro arguments instruction h
    simp only [demoSolanaDeps] at h
    split at h
    · cases h
    · cases h
      rfl
  · intro arguments h
    have hprogram : arguments.tokenProgramId = .ofNat 32 2020 := h
    exact if_neg fun hrefused => hrefused.2 hprogram

theorem separatesPrograms_demo (owner : Nat) (refuses : Bool) :
    SeparatesPrograms (demoSolanaDeps owner refuses) := by
  intro wallet mint program _ hprogram h
  cases hprogram
  have hnat := congrArg (fun key => ofBe key.bytes) h
  simp only [demoSolanaDeps, FixedBytes.toNat, FixedBytes.ofNat, ofBe_toBe] at hnat
  omega

/-- A mint of the SPL Token program. -/
theorem buildsRightTransfer_iff_spl :
    buildSplTransfer (demoSolanaDeps 2020 true) demoSplPayment =
      .ok (rightTransfer (demoSolanaDeps 2020 true) (.ofNat 32 1) (.ofNat 32 2) (.ofNat 32 3)
        (.ofNat 32 2020) 6 1500000) :=
  (buildsRightTransfer_iff (buildsChecked_demo 2020 true) (separatesPrograms_demo 2020 true)
    ⟨rfl, rfl, rfl, rfl, rfl⟩).mpr rfl

/-- **A mint of the other program** is accepted, but no transfer is built, or one between other
    accounts if `transfer_checked` does not refuse. -/
theorem not_buildsRightTransfer :
    getTokenDecimals (demoSolanaDeps 2022 true) (.ofNat 32 3) = .ok (6, .ofNat 32 2022) ∧
      buildSplTransfer (demoSolanaDeps 2022 true) demoSplPayment ≠
        .ok (rightTransfer (demoSolanaDeps 2022 true) (.ofNat 32 1) (.ofNat 32 2) (.ofNat 32 3)
          (.ofNat 32 2022) 6 1500000) ∧
      buildSplTransfer (demoSolanaDeps 2022 false) demoSplPayment ≠
        .ok (rightTransfer (demoSolanaDeps 2022 false) (.ofNat 32 1) (.ofNat 32 2) (.ofNat 32 3)
          (.ofNat 32 2022) 6 1500000) :=
  ⟨rfl, by decide, by decide⟩

end BlockchainApi.Pos
