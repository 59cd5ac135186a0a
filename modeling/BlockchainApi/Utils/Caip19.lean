/-
  CAIP-19 asset ids (`Caip19Asset` of `src/utils/crypto.rs`).

  An asset is a chain id, a namespace, a reference and possibly a token id.  The reference of a
  token contract on an EVM chain is replaced by the checksummed form of its address, so the parser
  is not the inverse of printing: it is a projection onto the printed forms.

  1. **Parts.** No part can have a later separator in it, so what is accepted is the print of
     well-formed parts, and they are what `new` gets (`parse_of_wellFormed`,
     `exists_of_parse_eq_ok`).

  2. **Normalizing.** The checksummed form passes the checks again and is its own checksummed form
     (`normalizedAssetReference_idem`), so printing and parsing give an asset back, and parsing the
     print of what was parsed changes nothing.

  3. **Equality.** Texts of contracts are the same asset exactly if their parts are the same, the
     references as addresses (`contract_eq_iff`).  References of other assets are kept as they are,
     so there a difference in letters is a difference in assets.

  Checksums belong to another crate; `Checksums.Lawful` says that a checksummed address is the hex
  form with some letters made capital.  All three together are `caip19_canonical`.
-/
import BlockchainApi.Utils.Caip2
import BlockchainApi.Utils.HexAddress

namespace BlockchainApi

open Delimited ByteCodec

/-! ## Assets -/

/-- `[-.%a-zA-Z0-9]`. -/
def isAssetReferenceChar (c : Char) : Bool := c == '-' || c == '.' || c == '%' || c.isAlphanum

/-- `CAIP19_ASSET_NAMESPACE_REGEX`, `^[-a-z0-9]{3,8}$`. -/
def caip19AssetNamespaceRegex (s : List Char) : Bool := matchesRun isNamespaceChar 3 8 s

/-- `CAIP19_ASSET_REFERENCE_REGEX`, `^[-.%a-zA-Z0-9]{1,128}$`. -/
def caip19AssetReferenceRegex (s : List Char) : Bool := matchesRun isAssetReferenceChar 1 128 s

/-- `CAIP19_TOKEN_ID_REGEX`, `^[-.%a-zA-Z0-9]{1,78}$`. -/
def caip19TokenIdRegex (s : List Char) : Bool := matchesRun isAssetReferenceChar 1 78 s

/-- `Caip19Asset`. -/
structure Caip19Asset where
  chainId : Caip2ChainId
  assetNamespace : String
  assetReference : String
  tokenId : Option String
  deriving DecidableEq

/-- `normalize_to_checksum`. -/
def normalizeToChecksum (k : Checksums) (addr : String) : Except CryptoUtilsError String :=
  match k.h160FromStr addr with
  | some h160 => .ok (k.toChecksum h160)
  | none => .error (.wrongAddressFormat addr)

/-- Is the reference the address of a contract? -/
def isContract (chainId : Caip2ChainId) (assetNamespace : String) : Bool :=
  chainId.namespace_ == "eip155" &&
    (assetNamespace == "erc20" || assetNamespace == "erc721" || assetNamespace == "erc1155")

/-- The reference as it is kept. -/
def normalizedAssetReference (k : Checksums) (chainId : Caip2ChainId)
    (assetNamespace assetReference : String) : Except CryptoUtilsError String :=
  if isContract chainId assetNamespace then normalizeToChecksum k assetReference
  else .ok assetReference

/-- A part matches its pattern. -/
def checkPart (isMatch : Bool) (text : String) : Except CryptoUtilsError Unit :=
  if isMatch then .ok () else .error (.wrongCaip19Format text)

/-- The token id, if there is one, matches its pattern. -/
def checkTokenId : Option String → Except CryptoUtilsError Unit
  | some tokenId => checkPart (caip19TokenIdRegex tokenId.toList)
      ("Invalid token ID format (must be 1-78 alphanumeric characters or -,%,.): " ++ tokenId)
  | none => .ok ()

namespace Caip19Asset

/-- `Caip19Asset::new`. -/
def new (k : Checksums) (chainId : Caip2ChainId) (assetNamespace assetReference : String)
    (tokenId : Option String) : Except CryptoUtilsError Caip19Asset := do
  checkPart (caip19AssetNamespaceRegex assetNamespace.toList)
    ("Invalid asset namespace format (must be 3-8 lowercase alphanumeric or hyphen characters): " ++
      assetNamespace)
  checkPart (caip19AssetReferenceRegex assetReference.toList)
    ("Invalid asset reference format (must be 1-128 alphanumeric characters or -,%,.): " ++
      assetReference)
  checkTokenId tokenId
  let normalized ← normalizedAssetReference k chainId assetNamespace assetReference
  return { chainId := chainId
           assetNamespace := assetNamespace
           assetReference := normalized
           tokenId := tokenId }

/-- The last part of `Caip19Asset::parse`: namespace and reference. -/
def parseNamespaceRef (k : Checksums) (chainId : Caip2ChainId) (namespaceRefPart : List Char)
    (tokenId : Option String) : Except CryptoUtilsError Caip19Asset :=
  match splitn ':' 2 namespaceRefPart with
  | [] => .error (.wrongCaip19Format
      ("Invalid asset namespace/reference format (missing namespace): " ++
        String.ofList namespaceRefPart))
  | [_] => .error (.wrongCaip19Format
      ("Invalid asset namespace/reference format (missing ':'): " ++
        String.ofList namespaceRefPart))
  | assetNamespace :: assetReference :: _ =>
    new k chainId (String.ofList assetNamespace) (String.ofList assetReference) tokenId

/-- The part of `Caip19Asset::parse` behind the chain id. -/
def parseAssetPart (k : Checksums) (assetId : String) (chainId : Caip2ChainId)
    (assetPart : List Char) : Except CryptoUtilsError Caip19Asset :=
  match splitn '/' 2 assetPart with
  | [] => .error (.wrongCaip19Format ("Invalid CAIP-19 format (missing asset part): " ++ assetId))
  | namespaceRefPart :: rest =>
    parseNamespaceRef k chainId namespaceRefPart (rest.head?.map String.ofList)

/-- `Caip19Asset::parse`. -/
def parse (k : Checksums) (assetId : String) : Except CryptoUtilsError Caip19Asset :=
  match splitn '/' 2 assetId.toList with
  | [] => .error (.wrongCaip19Format ("Invalid CAIP-19 format (missing chain ID): " ++ assetId))
  | [_] => .error (.wrongCaip19Format ("Invalid CAIP-19 format (missing '/'): " ++ assetId))
  | chainIdStr :: assetPart :: _ => do
    let chainId ← Caip2ChainId.parse (String.ofList chainIdStr)
    parseAssetPart k assetId chainId assetPart

/-- `Display for Caip19Asset`. -/
def display (a : Caip19Asset) : String :=
  match a.tokenId with
  | some tokenId =>
    a.chainId.display ++ "/" ++ a.assetNamespace ++ ":" ++ a.assetReference ++ "/" ++ tokenId
  | none => a.chainId.display ++ "/" ++ a.assetNamespace ++ ":" ++ a.assetReference

/-! ## Parts of a text -/

/-- The parts match their patterns. -/
structure WellFormed (a : Caip19Asset) : Prop where
  assetNamespace : caip19AssetNamespaceRegex a.assetNamespace.toList = true
  assetReference : caip19AssetReferenceRegex a.assetReference.toList = true
  tokenId : ∀ tokenId, a.tokenId = some tokenId → caip19TokenIdRegex tokenId.toList = true

variable {k : Checksums} {a raw : Caip19Asset} {s : String}

/-- The asset of these parts. -/
def ofParts (k : Checksums) (raw : Caip19Asset) : Except CryptoUtilsError Caip19Asset :=
  new k raw.chainId raw.assetNamespace raw.assetReference raw.tokenId

theorem checkPart_eq_ok {isMatch : Bool} {text : String} {u : Unit} :
    checkPart isMatch text = .ok u ↔ isMatch = true := by
  cases isMatch <;> simp [checkPart]

theorem checkTokenId_eq_ok {tokenId : Option String} {u : Unit} :
    checkTokenId tokenId = .ok u ↔
      ∀ id, tokenId = some id → caip19TokenIdRegex id.toList = true := by
  cases tokenId with
  | none => simp [checkTokenId]
  | some id => simp [checkTokenId, checkPart_eq_ok]

/-- **What `new` accepts**: well-formed parts with a reference that can be normalized. -/
theorem ofParts_eq_ok_iff :
    ofParts k raw = .ok a ↔ raw.WellFormed ∧
      ∃ normalized, normalizedAssetReference k raw.chainId raw.assetNamespace raw.assetReference =
        .ok normalized ∧ a = { raw with assetReference := normalized } := by
  simp only [ofParts, new, Except.bind_eq_ok, checkPart_eq_ok, checkTokenId_eq_ok]
  constructor
  · rintro ⟨-, hnamespace, -, hreference, -, htoken, normalized, hnormalized, ha⟩
    exact ⟨⟨hnamespace, hreference, htoken⟩, normalized, hnormalized, (Except.ok.inj ha).symm⟩
  · rintro ⟨h, normalized, hnormalized, rfl⟩
    exact ⟨(), h.assetNamespace, (), h.assetReference, (), h.tokenId, normalized, hnormalized, rfl⟩

/-! ### Splitting -/

/-- The text behind the chain id. -/
def assetPart (a : Caip19Asset) : List Char :=
  (a.assetNamespace.toList ++ ':' :: a.assetReference.toList) ++
    (a.tokenId.map fun tokenId => '/' :: tokenId.toList).getD []

theorem toList_display (a : Caip19Asset) :
    a.display.toList = a.chainId.display.toList ++ '/' :: a.assetPart := by
  obtain ⟨chainId, assetNamespace, assetReference, _ | tokenId⟩ := a <;>
    simp [display, assetPart]

theorem slash_notMem_chainId (c : Caip2ChainId) : '/' ∉ c.display.toList :=
  c.notMem_display (by rw [← isReferenceChar_iff]; decide) (by decide)

theorem parseNamespaceRef_eq {c : Caip2ChainId} {ns reference : List Char}
    {tokenId : Option String} (h : ':' ∉ ns) :
    parseNamespaceRef k c (ns ++ ':' :: reference) tokenId =
      new k c (String.ofList ns) (String.ofList reference) tokenId := by
  rw [parseNamespaceRef, splitn_two_eq_pair_iff.mpr ⟨h, rfl⟩]

/-- No separator is in the parts that come before it. -/
structure Separable (a : Caip19Asset) : Prop where
  namespace_slash : '/' ∉ a.assetNamespace.toList
  namespace_colon : ':' ∉ a.assetNamespace.toList
  reference_slash : '/' ∉ a.assetReference.toList

theorem parseAssetPart_eq (h : raw.Separable) :
    parseAssetPart k s raw.chainId raw.assetPart = ofParts k raw := by
  have hslash : '/' ∉ raw.assetNamespace.toList ++ ':' :: raw.assetReference.toList := by
    simp [h.namespace_slash, h.reference_slash]
  have hsplit : splitn '/' 2 raw.assetPart =
      (raw.assetNamespace.toList ++ ':' :: raw.assetReference.toList) ::
        (raw.tokenId.map String.toList).toList := by
    rw [assetPart]
    cases raw.tokenId with
    | none => exact (congrArg _ (List.append_nil _)).trans (splitn_of_notMem hslash 1)
    | some tokenId => exact splitn_two_eq_pair_iff.mpr ⟨hslash, rfl⟩
  rw [parseAssetPart, hsplit]
  dsimp only
  rw [parseNamespaceRef_eq h.namespace_colon, String.ofList_toList, String.ofList_toList, ofParts]
  cases raw.tokenId <;> simp

/-- **Splitting** what was printed gives the parts. -/
theorem parse_display_eq (h : raw.Separable) : parse k raw.display = ofParts k raw := by
  have hchain : Caip2ChainId.parse raw.chainId.display = .ok raw.chainId :=
    Caip2ChainId.parse_eq_ok_iff.mpr rfl
  rw [parse, splitn_two_eq_pair_iff.mpr ⟨slash_notMem_chainId raw.chainId, toList_display raw⟩]
  dsimp only
  rw [String.ofList_toList, hchain]
  exact parseAssetPart_eq h

theorem exists_of_parseNamespaceRef_eq_ok {c : Caip2ChainId} {part : List Char}
    {tokenId : Option String} (hslash : '/' ∉ part)
    (h : parseNamespaceRef k c part tokenId = .ok a) :
    ∃ raw : Caip19Asset, (raw.chainId = c ∧ raw.tokenId = tokenId) ∧
      part = raw.assetNamespace.toList ++ ':' :: raw.assetReference.toList ∧ raw.Separable ∧
        ofParts k raw = .ok a := by
  unfold parseNamespaceRef at h
  obtain ⟨-, hsplit⟩ | ⟨ns, reference, hns, rfl, hsplit⟩ := splitn_two_cases ':' part
  · rw [hsplit] at h
    cases h
  · rw [hsplit] at h
    rw [List.mem_append, List.mem_cons, not_or, not_or] at hslash
    refine ⟨⟨c, String.ofList ns, String.ofList reference, tokenId⟩, ⟨rfl, rfl⟩, ?_,
      ⟨?_, ?_, ?_⟩, h⟩
    all_goals simp only [String.toList_ofList]
    · exact hslash.1
    · exact hns
    · exact hslash.2.2

theorem exists_of_parseAssetPart_eq_ok {c : Caip2ChainId} {part : List Char}
    (h : parseAssetPart k s c part = .ok a) :
    ∃ raw : Caip19Asset, raw.chainId = c ∧ part = raw.assetPart ∧ raw.Separable ∧
      ofParts k raw = .ok a := by
  unfold parseAssetPart at h
  obtain ⟨hslash, hsplit⟩ | ⟨namespaceRefPart, tokenId, hslash, rfl, hsplit⟩ :=
    splitn_two_cases '/' part
  · rw [hsplit] at h
    obtain ⟨raw, ⟨hc, htoken⟩, hpart, hseparable, hraw⟩ :=
      exists_of_parseNamespaceRef_eq_ok hslash h
    refine ⟨raw, hc, ?_, hseparable, hraw⟩
    rw [assetPart, htoken, hpart]
    simp
  · rw [hsplit] at h
    obtain ⟨raw, ⟨hc, htoken⟩, hpart, hseparable, hraw⟩ :=
      exists_of_parseNamespaceRef_eq_ok hslash h
    refine ⟨raw, hc, ?_, hseparable, hraw⟩
    rw [assetPart, htoken, hpart]
    simp

/-- **What is accepted** was split into parts. -/
theorem exists_of_parse_eq_ok (h : parse k s = .ok a) :
    ∃ raw : Caip19Asset, s = raw.display ∧ raw.Separable ∧ ofParts k raw = .ok a := by
  unfold parse at h
  obtain ⟨-, hsplit⟩ | ⟨chainIdStr, part, -, htext, hsplit⟩ := splitn_two_cases '/' s.toList
  · rw [hsplit] at h
    cases h
  · rw [hsplit] at h
    obtain ⟨chainId, hchain, h⟩ := Except.bind_eq_ok.mp h
    obtain ⟨raw, rfl, rfl, hseparable, hraw⟩ := exists_of_parseAssetPart_eq_ok h
    refine ⟨raw, ?_, hseparable, hraw⟩
    rw [← String.toList_inj, htext, toList_display, ← Caip2ChainId.parse_eq_ok_iff.mp hchain,
      String.toList_ofList]

theorem WellFormed.separable (h : raw.WellFormed) : raw.Separable := by
  have hnamespace := (matchesRun_iff isNamespaceChar_iff).mp h.assetNamespace
  have hreference := (matchesRun_iff (fun _ => Iff.rfl)).mp h.assetReference
  exact
    { namespace_slash := hnamespace.notMem (by rw [← isNamespaceChar_iff]; decide)
      namespace_colon := hnamespace.notMem not_isNamespaceChar_colon
      reference_slash := hreference.notMem (by decide) }

/-- **What the parser accepts**: the prints of well-formed parts with a reference that can be
    normalized. -/
theorem parse_eq_ok_iff :
    parse k s = .ok a ↔ ∃ raw : Caip19Asset, s = raw.display ∧ ofParts k raw = .ok a := by
  constructor
  · intro h
    obtain ⟨raw, hs, -, hraw⟩ := exists_of_parse_eq_ok h
    exact ⟨raw, hs, hraw⟩
  · rintro ⟨raw, rfl, hraw⟩
    rw [parse_display_eq (ofParts_eq_ok_iff.mp hraw).1.separable, hraw]

/-! ## The canonical form -/

/-- Is the reference the address of a contract? -/
def IsContract (a : Caip19Asset) : Prop := isContract a.chainId a.assetNamespace = true

/-- A hex digit may stand in a reference. -/
theorem isAssetReferenceChar_of_isHexChar {c : Char} (h : isHexChar c = true) :
    isAssetReferenceChar c = true := by
  have halnum : c.isAlphanum = true := by
    simp only [isHexChar, Bool.or_eq_true, Bool.and_eq_true, decide_eq_true_eq] at h
    rw [isAlphanum_iff, isUpper_iff, isLower_iff]
    rcases h with (hdigit | hsmall) | hcapital
    · exact .inr hdigit
    · exact .inl (.inr ⟨hsmall.1, Char.le_trans hsmall.2 (by decide)⟩)
    · exact .inl (.inl ⟨hcapital.1, Char.le_trans hcapital.2 (by decide)⟩)
  rw [isAssetReferenceChar, halnum, Bool.or_true]

section

variable (hk : k.Lawful)
include hk

/-- A reference of the grammar has no white space. -/
theorem h160FromStr_eq {reference : String}
    (h : caip19AssetReferenceRegex reference.toList = true) :
    k.h160FromStr reference = readH160 reference := by
  refine hk.h160FromStr_eq reference fun c hc => ?_
  have hchar : isAssetReferenceChar c = true :=
    ((matchesRun_iff (P := fun c => isAssetReferenceChar c = true) fun _ => Iff.rfl).mp h).all c hc
  rw [← Bool.not_eq_true]
  intro hspace
  simp only [Char.isWhitespace, Bool.or_eq_true, decide_eq_true_eq] at hspace
  rcases hspace with ((rfl | rfl) | rfl) | rfl <;> exact absurd hchar (by decide)

/-- The checksummed form matches the pattern. -/
theorem caip19AssetReferenceRegex_toChecksum (a : Address) :
    caip19AssetReferenceRegex (k.toChecksum a).toList = true := by
  obtain ⟨⟨hlength, hhex⟩, -⟩ := readH160_eq_some_iff.mp (hk.readH160_toChecksum a)
  obtain ⟨digits, htext, -⟩ := hk.toChecksum_eq a
  rw [htext] at hlength hhex ⊢
  refine (matchesRun_iff (P := fun c => isAssetReferenceChar c = true) fun _ => Iff.rfl).mpr
    ⟨?_, ?_, ?_⟩
  · exact Nat.le_add_left 1 _
  · show digits.length + 2 ≤ 128
    have hdigits : digits.length = 40 := hlength
    omega
  · intro c hc
    rcases List.mem_cons.mp hc with rfl | hc
    · decide
    rcases List.mem_cons.mp hc with rfl | hc
    · decide
    exact isAssetReferenceChar_of_isHexChar (List.all_eq_true.mp hhex c hc)

/-- **A normalized reference is its own normalized form**, and matches the pattern again. -/
theorem normalizedAssetReference_idem {c : Caip2ChainId} {ns reference normalized : String}
    (hreference : caip19AssetReferenceRegex reference.toList = true)
    (h : normalizedAssetReference k c ns reference = .ok normalized) :
    caip19AssetReferenceRegex normalized.toList = true ∧
      normalizedAssetReference k c ns normalized = .ok normalized := by
  unfold normalizedAssetReference at h ⊢
  split at h
  · rename_i hcontract
    rw [if_pos hcontract]
    unfold normalizeToChecksum at h ⊢
    split at h
    · rename_i address haddress
      cases h
      have hmatches := caip19AssetReferenceRegex_toChecksum hk address
      rw [h160FromStr_eq hk hmatches, hk.readH160_toChecksum]
      exact ⟨hmatches, rfl⟩
    · cases h
  · rename_i hcontract
    rw [if_neg hcontract]
    cases h
    exact ⟨hreference, rfl⟩

/-- **Printing and parsing** give an asset back. -/
theorem parse_display (h : ofParts k raw = .ok a) : parse k a.display = .ok a := by
  obtain ⟨hraw, normalized, hnormalized, rfl⟩ := ofParts_eq_ok_iff.mp h
  obtain ⟨hmatches, hidem⟩ := normalizedAssetReference_idem hk hraw.assetReference hnormalized
  rw [parse_eq_ok_iff]
  exact ⟨_, rfl, ofParts_eq_ok_iff.mpr
    ⟨⟨hraw.assetNamespace, hmatches, hraw.tokenId⟩, normalized, hidem, rfl⟩⟩

/-- The asset of a contract, from the address its reference names. -/
theorem ofParts_contract_iff (hcontract : raw.IsContract) :
    ofParts k raw = .ok a ↔ raw.WellFormed ∧ ∃ address,
      readH160 raw.assetReference = some address ∧
        a = { raw with assetReference := k.toChecksum address } := by
  have hcontract : isContract raw.chainId raw.assetNamespace = true := hcontract
  rw [ofParts_eq_ok_iff, normalizedAssetReference, if_pos hcontract, normalizeToChecksum]
  refine and_congr_right fun hraw => ?_
  rw [h160FromStr_eq hk hraw.assetReference]
  cases readH160 raw.assetReference with
  | none => simp
  | some address => simp

end

/-- A text that is accepted, with its parts. -/
structure IsCaip19 (k : Checksums) (s : String) (raw : Caip19Asset) : Prop where
  text : s = raw.display
  wellFormed : raw.WellFormed
  accepted : ∃ a, parse k s = .ok a

/-- The asset of a text of a contract. -/
theorem IsCaip19.exists_address (hk : k.Lawful) (h : IsCaip19 k s raw)
    (hcontract : raw.IsContract) :
    ∃ address, readH160 raw.assetReference = some address ∧
      parse k s = .ok { raw with assetReference := k.toChecksum address } := by
  obtain ⟨rfl, hraw, a, ha⟩ := h
  have hparts := ha
  rw [parse_display_eq hraw.separable, ofParts_contract_iff hk hcontract] at hparts
  obtain ⟨-, address, haddress, rfl⟩ := hparts
  exact ⟨address, haddress, ha⟩

/-- A printed contract is accepted if its reference is an address. -/
theorem isCaip19_of_contract (hk : k.Lawful) (htext : s = raw.display) (hraw : raw.WellFormed)
    (hcontract : raw.IsContract) (haddress : (readH160 raw.assetReference).isSome) :
    IsCaip19 k s raw := by
  obtain ⟨address, haddress⟩ := Option.isSome_iff_exists.mp haddress
  refine ⟨htext, hraw, { raw with assetReference := k.toChecksum address }, ?_⟩
  rw [htext, parse_display_eq hraw.separable, ofParts_contract_iff hk hcontract]
  exact ⟨hraw, address, haddress, rfl⟩

/-- The two assets name the same thing: the same parts, the references as addresses. -/
def SameContract (raw raw' : Caip19Asset) : Prop :=
  raw.chainId = raw'.chainId ∧ raw.assetNamespace = raw'.assetNamespace ∧
    readH160 raw.assetReference = readH160 raw'.assetReference ∧ raw.tokenId = raw'.tokenId

/-- **Texts of contracts are the same asset exactly if they name the same thing.** The
    checksummed forms of two addresses are equal only if the addresses are. -/
theorem contract_eq_iff (hk : k.Lawful) {t : String} {raw' : Caip19Asset}
    (hs : IsCaip19 k s raw) (ht : IsCaip19 k t raw') (hcontract : raw.IsContract)
    (hcontract' : raw'.IsContract) : parse k s = parse k t ↔ raw.SameContract raw' := by
  obtain ⟨address, haddress, hparse⟩ := hs.exists_address hk hcontract
  obtain ⟨address', haddress', hparse'⟩ := ht.exists_address hk hcontract'
  -- the checksummed form determines the address
  have hchecksum : k.toChecksum address = k.toChecksum address' ↔ address = address' := by
    refine ⟨fun h => ?_, congrArg _⟩
    have hread := hk.readH160_toChecksum address
    rw [h, hk.readH160_toChecksum] at hread
    exact (Option.some.inj hread).symm
  rw [hparse, hparse', SameContract, haddress, haddress', Except.ok.injEq, Caip19Asset.mk.injEq,
    Option.some.injEq, hchecksum]

/-- **CAIP-19 parsing canonicalises**: it gives back what was printed, is idempotent on texts,
    and maps texts of contracts to one asset exactly if they name the same thing. -/
theorem caip19_canonical (hk : k.Lawful) :
    (∀ chainId assetNamespace assetReference tokenId a,
      new k chainId assetNamespace assetReference tokenId = .ok a → parse k a.display = .ok a) ∧
    (∀ s a, parse k s = .ok a → ∃ a', parse k a.display = .ok a' ∧ a'.display = a.display) ∧
    (∀ s t raw reference, IsCaip19 k s raw → raw.IsContract →
      IsCaip19 k t { raw with assetReference := reference } →
      SameButCase raw.assetReference reference → ∃ a, parse k s = .ok a ∧ parse k t = .ok a) ∧
    ∀ s t raw raw', IsCaip19 k s raw → raw.IsContract → IsCaip19 k t raw' → raw'.IsContract →
      raw.chainId ≠ raw'.chainId ∨ raw.assetNamespace ≠ raw'.assetNamespace ∨
        readH160 raw.assetReference ≠ readH160 raw'.assetReference ∨
          raw.tokenId ≠ raw'.tokenId →
        parse k s ≠ parse k t := by
  refine ⟨fun c ns reference tokenId a h => ?_, fun s a h => ?_, ?_, ?_⟩
  · -- printed and read again
    have hparts : ofParts k ⟨c, ns, reference, tokenId⟩ = .ok a := h
    exact parse_display hk hparts
  · -- read, printed and read again
    obtain ⟨raw, -, hraw⟩ := parse_eq_ok_iff.mp h
    exact ⟨a, parse_display hk hraw, rfl⟩
  · -- the case of a contract makes no difference
    intro s t raw reference hs hcontract ht hcase
    obtain ⟨a, ha⟩ := hs.accepted
    refine ⟨a, ha, ?_⟩
    obtain ⟨address, haddress, -⟩ := hs.exists_address hk hcontract
    obtain ⟨address', haddress', -⟩ := ht.exists_address hk hcontract
    rw [← ha, eq_comm, contract_eq_iff hk hs ht hcontract hcontract]
    refine ⟨rfl, rfl, ?_, rfl⟩
    rw [haddress, haddress', readH160_of_sameButCase hcase haddress haddress']
  · -- and whatever else differs does
    intro s t raw raw' hs hcontract ht hcontract' hdiffer heq
    obtain ⟨hchain, hnamespace, hreference, htoken⟩ :=
      (contract_eq_iff hk hs ht hcontract hcontract').mp heq
    rcases hdiffer with h | h | h | h
    · exact h hchain
    · exact h hnamespace
    · exact h hreference
    · exact h htoken

end Caip19Asset

/-! ## USDC -/

/-- The contract of USDC on Ethereum. -/
def usdcAddress : Address := .ofNat 20 0xa0b86991c6218b36c1d19d4a2e9eb0ce3606eb48

/-- Checksums: that of USDC, and small letters elsewhere. -/
def demoChecksums : Checksums where
  h160FromStr := readH160
  toChecksum a :=
    if a = usdcAddress then "0xA0b86991c6218b36c1d19D4a2e9Eb0cE3606eB48"
    else "0x" ++ hexEncode a.bytes

theorem demoChecksums_lawful : demoChecksums.Lawful where
  h160FromStr_eq _ _ := rfl
  toChecksum_eq a := by
    by_cases ha : a = usdcAddress
    · subst ha
      exact ⟨"A0b86991c6218b36c1d19D4a2e9Eb0cE3606eB48".toList, by decide, by decide⟩
    · refine ⟨hexText a.bytes, ?_, map_toLower_hexText a.bytes⟩
      show (if a = usdcAddress then _ else "0x" ++ hexEncode a.bytes).toList = _
      rw [if_neg ha, String.toList_append, hexEncode_eq, String.toList_ofList,
        String.toList_ofList]
      rfl

/-- USDC on Ethereum, as an asset with this reference. -/
def usdcParts (assetReference : String) : Caip19Asset where
  chainId := ⟨"eip155", "1", by decide, by decide⟩
  assetNamespace := "erc20"
  assetReference := assetReference
  tokenId := none

theorem usdcParts_isContract (assetReference : String) :
    (usdcParts assetReference).IsContract := by
  dsimp only [Caip19Asset.IsContract, usdcParts]
  decide

/-- USDC in small letters and in checksummed form. -/
theorem caip19_canonical_usdc :
    ∃ a, Caip19Asset.parse demoChecksums
        "eip155:1/erc20:0xa0b86991c6218b36c1d19d4a2e9eb0ce3606eb48" = .ok a ∧
      Caip19Asset.parse demoChecksums
        "eip155:1/erc20:0xA0b86991c6218b36c1d19D4a2e9Eb0cE3606eB48" = .ok a := by
  have hsmall : Caip19Asset.IsCaip19 demoChecksums
      "eip155:1/erc20:0xa0b86991c6218b36c1d19d4a2e9eb0ce3606eb48"
      (usdcParts "0xa0b86991c6218b36c1d19d4a2e9eb0ce3606eb48") :=
    Caip19Asset.isCaip19_of_contract demoChecksums_lawful (by decide)
      ⟨by decide, by decide, by decide⟩ (usdcParts_isContract _) (by decide)
  have hchecksummed : Caip19Asset.IsCaip19 demoChecksums
      "eip155:1/erc20:0xA0b86991c6218b36c1d19D4a2e9Eb0cE3606eB48"
      (usdcParts "0xA0b86991c6218b36c1d19D4a2e9Eb0cE3606eB48") :=
    Caip19Asset.isCaip19_of_contract demoChecksums_lawful (by decide)
      ⟨by decide, by decide, by decide⟩ (usdcParts_isContract _) (by decide)
  exact (Caip19Asset.caip19_canonical demoChecksums_lawful).2.2.1 _ _ _ _ hsmall
    (usdcParts_isContract _) hchecksummed (by unfold SameButCase; decide)

end BlockchainApi
