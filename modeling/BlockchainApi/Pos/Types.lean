/-
  What the point-of-sale transactions have in common (`src/handlers/json_rpc/pos/mod.rs`,
  `errors.rs`), and the reader of amounts they use.

  `parse_units` comes from another crate.  It gives a signed number for a text with a minus sign and
  an unsigned one otherwise, and cuts off fractions of a unit: `ParsesUnits` says so for the texts
  that are decimal numbers.  What it makes of other texts is open.

  When the bits of what is read are the amount that the text says is settled here once, for any
  number of decimals and any bound on the amount (`ParsesUnits.exact_iff`); the modules on the
  builders supply what was read, and where it goes.  A text that is no decimal number says no
  amount, so the condition is exact although it is open what such a text is read as.
-/
import BlockchainApi.Lib.DecimalText
import BlockchainApi.Primitives

namespace BlockchainApi.Pos

/-! ## Errors of the builders and the checks -/

/-- `InternalError`. -/
inductive InternalError where
  | invalidProviderUrl (text : String)
  | rpcError (text : String)
  | internal (text : String)
  deriving DecidableEq

/-- `RpcError`. -/
inductive RpcError where
  | invalidResponse (text : String)
  | internal (text : String)
  deriving DecidableEq

/-- `ValidationError`. -/
inductive ValidationError where
  | invalidAsset (text : String)
  | invalidRecipient (text : String)
  | invalidSender (text : String)
  | invalidAmount (text : String)
  | invalidAddress (text : String)
  | invalidWalletResponse (text : String)
  | invalidTransactionId (text : String)
  | invalidRequest (text : String)
  deriving DecidableEq

/-- `Display for ValidationError`. -/
def ValidationError.display : ValidationError → String
  | .invalidAsset text => "Invalid Asset: " ++ text
  | .invalidRecipient text => "Invalid Recipient: " ++ text
  | .invalidSender text => "Invalid Sender: " ++ text
  | .invalidAmount text => "Invalid Amount: " ++ text
  | .invalidAddress text => "Invalid Address: " ++ text
  | .invalidWalletResponse text => "Invalid Wallet Response: " ++ text
  | .invalidTransactionId text => "Invalid Transaction ID: " ++ text
  | .invalidRequest text => "Invalid Request: " ++ text

/-- `ExecutionError`. -/
inductive ExecutionError where
  | gasEstimation (text : String)
  deriving DecidableEq

/-- `BuildPosTxsError`. -/
inductive BuildPosTxsError where
  | validation (e : ValidationError)
  | execution (e : ExecutionError)
  | rpc (e : RpcError)
  | internal (e : InternalError)
  deriving DecidableEq

/-! ## Payments -/

/-- `ValidatedPaymentIntent`, with the reference of its asset and without its chain. -/
structure ValidatedPaymentIntent (N : Type) where
  assetReference : String
  amount : String
  recipientAddress : String
  senderAddress : String
  namespace_ : N

/-! ## Amounts: what a text says, and what is made of it -/

/-- `ParseUnits`; a signed number is in two's complement. -/
inductive ParseUnits where
  | u256 (value : U256)
  | i256 (value : U256)
  deriving DecidableEq

/-- `From<ParseUnits> for U256`: the bits of a signed number are taken as they are. -/
def ParseUnits.toU256 : ParseUnits → U256
  | .u256 value => value
  | .i256 value => value

/-- What `parse_units` returns for a decimal number, when it returns something. -/
structure ParsesUnits (parseUnits : String → UInt8 → Except String ParseUnits) : Prop where
  unsigned : ∀ text decimals t value, DecimalText.read text.toList = some t →
    t.negative = false → t.scaled decimals.toNat < 2 ^ 256 →
      parseUnits text decimals = .ok value →
        value = .u256 (BitVec.ofNat 256 (t.scaled decimals.toNat))
  signed : ∀ text decimals t value, DecimalText.read text.toList = some t →
    t.negative = true → t.scaled decimals.toNat ≤ 2 ^ 255 →
      parseUnits text decimals = .ok value →
        value = .i256 (-BitVec.ofNat 256 (t.scaled decimals.toNat))

/-- **The text and the amount agree**: the text is a decimal number that is not negative, and the
    amount is that number in smallest units. -/
def ExactAmount (text : String) (decimals : UInt8) (amount : Nat) : Prop :=
  ∃ t, DecimalText.read text.toList = some t ∧ 0 ≤ t.value ∧
    t.value * 10 ^ decimals.toNat = amount

/-- The text is a decimal number that is not negative, and a whole number of smallest units below
    the bound. -/
def Payable (text : String) (decimals : UInt8) (bound : Nat) : Prop :=
  ∃ t, DecimalText.read text.toList = some t ∧ 0 ≤ t.value ∧
    ∃ amount : Nat, amount < bound ∧ t.value * 10 ^ decimals.toNat = amount

variable {parseUnits : String → UInt8 → Except String ParseUnits} {text : String}
  {decimals : UInt8} {value : ParseUnits} {bound : Nat}

/-- **What is payable is read exactly.** -/
theorem ParsesUnits.toU256_of_exact (hparse : ParsesUnits parseUnits)
    (hvalue : parseUnits text decimals = .ok value) {amount : Nat}
    (hexact : ExactAmount text decimals amount) (hbound : amount < 2 ^ 256) :
    value.toU256.toNat = amount := by
  obtain ⟨t, hread, hnonneg, hamount⟩ := hexact
  have hscaled := ((DecimalText.value_mul_pow_eq_iff hnonneg).mp hamount).2
  cases hsign : t.negative with
  | false =>
    rw [hparse.unsigned text decimals t value hread hsign (hscaled ▸ hbound) hvalue, hscaled]
    exact Nat.mod_eq_of_lt hbound
  | true =>
    -- a minus sign only stands before zero
    have hdigits : t.digits = 0 := by
      rcases DecimalText.value_nonneg_iff.mp hnonneg with h | h
      · rw [hsign] at h
        cases h
      · exact h
    have hzero : t.scaled decimals.toNat = 0 := DecimalText.scaled_eq_zero hdigits
    rw [hparse.signed text decimals t value hread hsign (hzero ▸ Nat.zero_le _) hvalue, ← hscaled,
      hzero]
    rfl

/-- **When what is read is what the text says.** -/
theorem ParsesUnits.exact_iff (hparse : ParsesUnits parseUnits)
    (hvalue : parseUnits text decimals = .ok value) (hbound : bound ≤ 2 ^ 256)
    (hlt : value.toU256.toNat < bound) :
    ExactAmount text decimals value.toU256.toNat ↔ Payable text decimals bound := by
  constructor
  · rintro ⟨t, hread, hnonneg, hamount⟩
    exact ⟨t, hread, hnonneg, value.toU256.toNat, hlt, hamount⟩
  · rintro ⟨t, hread, hnonneg, amount, hamountLt, hamount⟩
    rw [hparse.toU256_of_exact hvalue ⟨t, hread, hnonneg, hamount⟩
      (Nat.lt_of_lt_of_le hamountLt hbound)]
    exact ⟨t, hread, hnonneg, hamount⟩

end BlockchainApi.Pos
