/-
  Signed messages (`src/utils/crypto.rs`).

  1. **The prefix** (`toEip191Message_eq_iff`).  The length of a message is written in front of it
     in decimal, with nothing behind the digits, so a message that begins with digits could pass for
     a longer length and a shorter message.  It never does: the whole text grows strictly with the
     message (`length_toEip191Message_lt`), so two equal texts are of messages of one length, and
     then prefix and message are the same.  The only arithmetic in it is that a larger number has no
     fewer digits.

  2. **Cutting a text** (`sliceFrom`).  The source cuts a signature at its second byte, and that
     panics where the byte is inside of a character or behind the end.  `sliceFrom_eq_some_iff` says
     where a cut is possible.

  3. **The verification** (`verifyEip6492MessageSignature`).  The signature is read as hex behind
     the cut, and handed to a verifier of another crate together with the address and the hash.  It
     accepts nothing but hex behind `0x`, except where another prefix of two bytes stands there
     (`verifies_iff_cutsPrefix`).
-/
import BlockchainApi.Error
import BlockchainApi.Utils.Caip2
import BlockchainApi.Utils.HexAddress
import BlockchainApi.Utils.UserOperation

namespace BlockchainApi

open ByteCodec

/-! ## The prefix: the length of the message in digits, and nothing behind them -/

/-- A larger number has no fewer digits. -/
theorem length_toDigits_le {a b : Nat} (h : a ≤ b) :
    (Nat.toDigits 10 a).length ≤ (Nat.toDigits 10 b).length := by
  have hb : b < 10 ^ (Nat.toDigits 10 b).length :=
    (Nat.length_toDigits_le_iff (by decide) Nat.length_toDigits_pos).mp (Nat.le_refl _)
  rw [Nat.length_toDigits_le_iff (by decide) Nat.length_toDigits_pos]
  exact Nat.lt_of_le_of_lt h hb

theorem utf8Size_of_isDigit {c : Char} (h : c.isDigit = true) : c.utf8Size = 1 := by
  have hnine : c.val ≤ '9'.val := ((isDigit_iff c).mp h).2
  exact Char.utf8Size_eq_one_iff.mpr (UInt32.le_trans hnine (by decide))

/-- Each digit is a byte. -/
theorem length_flatMap_digits {digits : List Char} (h : ∀ c ∈ digits, c.isDigit = true) :
    (digits.flatMap String.utf8EncodeChar).length = digits.length := by
  induction digits with
  | nil => rfl
  | cons c digits ih =>
    rw [List.flatMap_cons, List.length_append, String.length_utf8EncodeChar,
      utf8Size_of_isDigit (h c (List.mem_cons_self ..)),
      ih fun d hd => h d (List.mem_cons_of_mem _ hd), List.length_cons, Nat.add_comm]

/-- A printed number takes as many bytes as it has digits. -/
theorem length_toUTF8_toString (n : Nat) :
    (toString n).toUTF8.data.toList.length = (Nat.toDigits 10 n).length := by
  have hdigits : ∀ c ∈ Nat.toDigits 10 n, c.isDigit = true := fun c hc =>
    Nat.isDigit_of_mem_toDigits (by decide) (by decide) hc
  rw [Nat.toString_eq_ofList_toDigits, toUTF8_ofList, length_flatMap_digits hdigits]

/-- What stands in front of a message of a length. -/
def eip191Prefix (length : Nat) : Bytes :=
  "\x19Ethereum Signed Message:\n".toUTF8.data.toList ++ (toString length).toUTF8.data.toList

theorem toEip191Message_eq (message : Bytes) :
    toEip191Message message = eip191Prefix message.length ++ message := by
  rw [toEip191Message, eip191Prefix]
  simp

theorem length_eip191Prefix_le {a b : Nat} (h : a ≤ b) :
    (eip191Prefix a).length ≤ (eip191Prefix b).length := by
  rw [eip191Prefix, eip191Prefix, List.length_append, List.length_append, length_toUTF8_toString,
    length_toUTF8_toString]
  exact Nat.add_le_add_left (length_toDigits_le h) _

/-- The whole text grows strictly with the message. -/
theorem length_toEip191Message_lt {m₁ m₂ : Bytes} (h : m₁.length < m₂.length) :
    (toEip191Message m₁).length < (toEip191Message m₂).length := by
  rw [toEip191Message_eq, toEip191Message_eq, List.length_append, List.length_append]
  exact Nat.add_lt_add_of_le_of_lt (length_eip191Prefix_le h.le) h

/-- **Prefixing is injective**, also on messages that begin with digits: texts of one length have
    messages of one length, and these are what stands at the end. -/
theorem toEip191Message_eq_iff (m₁ m₂ : Bytes) :
    toEip191Message m₁ = toEip191Message m₂ ↔ m₁ = m₂ := by
  constructor
  · intro h
    have htotal : (toEip191Message m₁).length = (toEip191Message m₂).length := by rw [h]
    have hlength : m₁.length = m₂.length := by
      rcases Nat.lt_trichotomy m₁.length m₂.length with hlt | heq | hgt
      · exact absurd htotal (length_toEip191Message_lt hlt).ne
      · exact heq
      · exact absurd htotal (length_toEip191Message_lt hgt).ne'
    -- the prefixes are the same, so the messages are what is left
    rw [toEip191Message_eq, toEip191Message_eq, hlength] at h
    exact List.append_cancel_left h
  · rintro rfl
    rfl

/-! ## Cutting a text at a byte: between two characters, or not at all -/

/-- `&s[n..]`: nothing if the text has fewer bytes, or byte `n` stands inside of a character. -/
def sliceFrom : Nat → List Char → Option (List Char)
  | 0, s => some s
  | _ + 1, [] => none
  | n + 1, c :: s => if c.utf8Size ≤ n + 1 then sliceFrom (n + 1 - c.utf8Size) s else none

/-- The bytes of a text. -/
def utf8Length (s : List Char) : Nat := (s.map Char.utf8Size).sum

theorem utf8Length_cons (c : Char) (s : List Char) :
    utf8Length (c :: s) = c.utf8Size + utf8Length s := by
  rw [utf8Length, List.map_cons, List.sum_cons, utf8Length]

theorem sliceFrom_zero (s : List Char) : sliceFrom 0 s = some s := by
  rw [sliceFrom]

/-- A whole character is passed over. -/
theorem sliceFrom_add (c : Char) (n : Nat) (s : List Char) :
    sliceFrom (c.utf8Size + n) (c :: s) = sliceFrom n s := by
  have hpos := Char.utf8Size_pos c
  have hsucc : c.utf8Size + n = (c.utf8Size + n - 1) + 1 := by omega
  have hrest : c.utf8Size + n - 1 + 1 - c.utf8Size = n := by omega
  rw [hsucc, sliceFrom, if_pos (by omega), hrest]

/-- **What stands behind a byte**: the cut is between two characters. -/
theorem sliceFrom_eq_some_iff {n : Nat} {s rest : List Char} :
    sliceFrom n s = some rest ↔ ∃ before, s = before ++ rest ∧ utf8Length before = n := by
  constructor
  · intro h
    fun_induction sliceFrom n s with
    | case1 s =>
      cases h
      exact ⟨[], rfl, rfl⟩
    | case2 n => cases h
    | case3 n c s hle ih =>
      obtain ⟨before, rfl, hlength⟩ := ih h
      exact ⟨c :: before, rfl, by rw [utf8Length_cons, hlength]; omega⟩
    | case4 n c s hgt => cases h
  · rintro ⟨before, rfl, rfl⟩
    induction before with
    | nil => exact sliceFrom_zero _
    | cons c before ih =>
      rw [utf8Length_cons, List.cons_append, sliceFrom_add, ih]

/-! ## The verification: where it accepts, and where it panics -/

/-- `MessageSource`, as far as the name handlers use it. -/
inductive MessageSource where
  | profileAddressSigValidate
  | profileAttributesSigValidate
  | profileRegisterSigValidate

/-- `Display for MessageSource`. -/
def MessageSource.display : MessageSource → String
  | .profileAddressSigValidate => "profile_address_sig_validate"
  | .profileAttributesSigValidate => "profile_attributes_sig_validate"
  | .profileRegisterSigValidate => "profile_register_sig_validate"

/-- `CacaoError`, as far as the verification tells its variants apart. -/
inductive CacaoError where
  | verification
  | other (text : String)

/-- The pairs of the query of an URL. -/
abbrev QueryPairs := List (String × String)

/-- What the verification takes from other crates. -/
structure SignatureCrates where
  keccak256 : Bytes → B256
  /-- `Address::parse_checksummed(_, None)`. -/
  parseChecksummed : String → Option Address
  /-- `verify_eip6492`: the signature, the address, the hash, and where to call. -/
  verifyEip6492 : Bytes → Address → B256 → QueryPairs → Except CacaoError Unit
  /-- `Display for FromHexError`. -/
  displayHexError : FromHexError → String

namespace SignatureCrates

variable (k : SignatureCrates)

/-- `get_message_hash`. -/
def getMessageHash (message : String) : B256 :=
  k.keccak256 (toEip191Message message.toUTF8.data.toList)

/-- `get_rpc_url`: the query.  The URL it belongs to is a constant, which is parsed each time. -/
def getRpcUrl (chainId rpcProjectId : String) (source : MessageSource)
    (sessionId : Option String) : QueryPairs :=
  [("chainId", chainId), ("projectId", rpcProjectId), ("source", source.display)] ++
    sessionId.toList.map fun id => ("sessionId", id)

/-- `hex::decode(&signature[2..])`. -/
def hexedSignature (signature : String) : Outcome CryptoUtilsError Bytes :=
  match sliceFrom 2 signature.toList with
  | none => .panic
  | some digits =>
    Outcome.ofExcept (fun e => .signatureFormat ("Wrong signature format: " ++ k.displayHexError e))
      (hexDecode (String.ofList digits))

/-- What the answer of `verify_eip6492` means. -/
def verdict : Except CacaoError Unit → Outcome CryptoUtilsError Bool
  | .ok _ => .ok true
  | .error .verification => .ok false
  | .error (.other text) =>
    .err (.contractCallError ("Failed to verify EIP-6492 signature: " ++ text))

/-- `verify_eip6492_message_signature`. -/
def verifyEip6492MessageSignature (message signature chainId address rpcProjectId : String)
    (source : MessageSource) (sessionId : Option String) : Outcome CryptoUtilsError Bool := do
  let messageHash := k.getMessageHash message
  let signer ← Outcome.okOr (k.parseChecksummed address) (.addressChecksum address)
  let provider := getRpcUrl chainId rpcProjectId source sessionId
  let hexed ← k.hexedSignature signature
  verdict (k.verifyEip6492 hexed signer messageHash provider)

/-- `verify_message_signature`. -/
def verifyMessageSignature (message signature address chainId rpcProjectId : String)
    (source : MessageSource) (sessionId : Option String) : Outcome CryptoUtilsError Bool :=
  k.verifyEip6492MessageSignature message signature chainId address rpcProjectId source sessionId

variable {k} {message signature chainId address rpcProjectId : String} {source : MessageSource}
variable {sessionId : Option String}

theorem hexedSignature_eq_ok_iff {bytes : Bytes} :
    k.hexedSignature signature = .ok bytes ↔
      ∃ digits, sliceFrom 2 signature.toList = some digits ∧
        hexDecode (String.ofList digits) = .ok bytes := by
  rw [hexedSignature]
  cases sliceFrom 2 signature.toList with
  | none => simp
  | some digits => simp

theorem hexedSignature_eq_panic_iff :
    k.hexedSignature signature = .panic ↔ sliceFrom 2 signature.toList = none := by
  rw [hexedSignature]
  cases sliceFrom 2 signature.toList with
  | none => simp
  | some digits => simp

theorem verdict_eq_ok_true_iff {answer : Except CacaoError Unit} :
    verdict answer = .ok true ↔ answer = .ok () := by
  match answer with
  | .ok () => simp [verdict]
  | .error .verification => simp [verdict]
  | .error (.other text) => simp [verdict]

theorem verdict_ne_panic {answer : Except CacaoError Unit} : verdict answer ≠ .panic := by
  match answer with
  | .ok () => simp [verdict]
  | .error .verification => simp [verdict]
  | .error (.other text) => simp [verdict]

/-- **When the verification accepts.** -/
theorem verifyMessageSignature_eq_ok_true_iff :
    k.verifyMessageSignature message signature address chainId rpcProjectId source sessionId
        = .ok true ↔
      ∃ signer digits bytes, k.parseChecksummed address = some signer ∧
        sliceFrom 2 signature.toList = some digits ∧
        hexDecode (String.ofList digits) = .ok bytes ∧
        k.verifyEip6492 bytes signer (k.getMessageHash message)
          (getRpcUrl chainId rpcProjectId source sessionId) = .ok () := by
  simp only [verifyMessageSignature, verifyEip6492MessageSignature, Outcome.bind_eq_ok,
    Outcome.okOr_eq_ok, hexedSignature_eq_ok_iff, verdict_eq_ok_true_iff]
  constructor
  · rintro ⟨signer, hsigner, bytes, ⟨digits, hslice, hdecode⟩, hverify⟩
    exact ⟨signer, digits, bytes, hsigner, hslice, hdecode, hverify⟩
  · rintro ⟨signer, digits, bytes, hsigner, hslice, hdecode, hverify⟩
    exact ⟨signer, hsigner, bytes, ⟨digits, hslice, hdecode⟩, hverify⟩

/-- **When it panics**: the text cannot be cut at its second byte, because it is shorter or
    because a character reaches over it. -/
theorem verifyMessageSignature_eq_panic_iff :
    k.verifyMessageSignature message signature address chainId rpcProjectId source sessionId
        = .panic ↔
      (k.parseChecksummed address).isSome = true ∧ sliceFrom 2 signature.toList = none := by
  simp only [verifyMessageSignature, verifyEip6492MessageSignature, Outcome.bind_eq_panic,
    Outcome.okOr_eq_ok, Outcome.okOr_ne_panic, hexedSignature_eq_panic_iff, verdict_ne_panic,
    and_false, exists_const, or_false, false_or, exists_and_right, Option.isSome_iff_exists]

/-- `0x` and the digits of whole bytes. -/
def IsHexSignature (signature : String) : Prop :=
  ∃ digits, signature.toList = '0' :: 'x' :: digits ∧ digits.length % 2 = 0 ∧
    digits.all isHexChar = true

/-- The verification returns, and accepts nothing but hex behind `0x`. -/
def Verifies (k : SignatureCrates) (message signature address chainId rpcProjectId : String)
    (source : MessageSource) (sessionId : Option String) : Prop :=
  k.verifyMessageSignature message signature address chainId rpcProjectId source sessionId
      ≠ .panic ∧
    (k.verifyMessageSignature message signature address chainId rpcProjectId source sessionId
      = .ok true → IsHexSignature signature)

/-- The signature has a character that begins at its third byte, or ends there.  What stands before
    it is `0x`, or the rest is not accepted. -/
def CutsPrefix (k : SignatureCrates) (message signature address chainId rpcProjectId : String)
    (source : MessageSource) (sessionId : Option String) : Prop :=
  ∀ signer, k.parseChecksummed address = some signer →
    ∃ before digits, signature.toList = before ++ digits ∧ utf8Length before = 2 ∧
      (before = ['0', 'x'] ∨
        ∀ bytes, hexDecode (String.ofList digits) = .ok bytes →
          k.verifyEip6492 bytes signer (k.getMessageHash message)
            (getRpcUrl chainId rpcProjectId source sessionId) ≠ .ok ())

/-- **The verification of any text.** -/
theorem verifies_iff_cutsPrefix :
    k.Verifies message signature address chainId rpcProjectId source sessionId ↔
      k.CutsPrefix message signature address chainId rpcProjectId source sessionId := by
  rw [Verifies, ne_eq, verifyMessageSignature_eq_panic_iff, verifyMessageSignature_eq_ok_true_iff]
  constructor
  · rintro ⟨hreturns, hshape⟩ signer hsigner
    have hcut : sliceFrom 2 signature.toList ≠ none := fun hnone =>
      hreturns ⟨Option.isSome_iff_exists.mpr ⟨signer, hsigner⟩, hnone⟩
    obtain ⟨digits, hslice⟩ := Option.ne_none_iff_exists'.mp hcut
    obtain ⟨before, happend, hlength⟩ := sliceFrom_eq_some_iff.mp hslice
    refine ⟨before, digits, happend, hlength, or_iff_not_imp_right.mpr fun haccepted => ?_⟩
    simp only [not_forall, not_not] at haccepted
    obtain ⟨bytes, hdecode, hverify⟩ := haccepted
    obtain ⟨hexDigits, hsignature, -⟩ := hshape ⟨signer, digits, bytes, hsigner, hslice, hdecode,
      hverify⟩
    -- both cut the text at its second byte
    have hrest : some digits = some hexDigits :=
      hslice.symm.trans (sliceFrom_eq_some_iff.mpr ⟨['0', 'x'], hsignature, rfl⟩)
    cases hrest
    exact List.append_cancel_right (happend.symm.trans hsignature)
  · intro h
    constructor
    · rintro ⟨hsome, hnone⟩
      obtain ⟨signer, hsigner⟩ := Option.isSome_iff_exists.mp hsome
      obtain ⟨before, digits, happend, hlength, -⟩ := h signer hsigner
      rw [sliceFrom_eq_some_iff.mpr ⟨before, happend, hlength⟩] at hnone
      cases hnone
    · rintro ⟨signer, digits, bytes, hsigner, hslice, hdecode, hverify⟩
      obtain ⟨before, rest, happend, hlength, hprefix | hrefused⟩ := h signer hsigner
      · subst hprefix
        cases hslice.symm.trans (sliceFrom_eq_some_iff.mpr ⟨_, happend, hlength⟩)
        obtain ⟨heven, hhex, -⟩ := hexDecode_eq_ok_iff.mp hdecode
        exact ⟨digits, happend, heven, hhex⟩
      · cases hslice.symm.trans (sliceFrom_eq_some_iff.mpr ⟨_, happend, hlength⟩)
        exact absurd hverify (hrefused bytes hdecode)

end SignatureCrates

end BlockchainApi
