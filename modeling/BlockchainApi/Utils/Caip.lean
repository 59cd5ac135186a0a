/-
  CAIP-10 identifiers and chain identifiers (`src/utils/crypto.rs`): the checks every session
  handler makes on the account in its path.

  Texts are read as lists of characters.  Three of the source's regular expressions carry no
  anchors, so they accept a text that merely contains a match; `containsRun` is that search, for a
  class of characters and a number of them.  The chain of an account, its Ethereum address and its
  Solana address are checked so.

  `disassembleCaip10` and `disassembleCaip2` cut at every colon and refuse any other number of
  parts.  Then the namespace has to be one of the four the service knows, the chain has to contain a
  character of a reference, and the address has to pass the check of its namespace
  (`isAddressValid`), which may ask `bs58::decode` or `H160::from_str`.  These belong to other
  crates and are parameters (`AddressParsers`).

  What the missing anchors let through is the subject of `Utils.Caip2`; which accounts are read back
  as they were written is that of `Utils.Caip10`.
-/
import BlockchainApi.Error
import BlockchainApi.Lib.Outcome

namespace BlockchainApi

open ByteCodec

/-! ## Character classes, and searching a text for a run of them -/

/-- `[-a-zA-Z0-9]`. -/
def isReferenceChar (c : Char) : Bool := c == '-' || c.isAlphanum

/-- `[1-9A-HJ-NP-Za-km-z]`. -/
def isBase58Char (c : Char) : Bool :=
  c.isAlphanum && c != '0' && c != 'I' && c != 'O' && c != 'l'

/-- Does some position of the text start a run of `n` characters of the class? That is what a
    pattern without anchors asks; that it has an upper bound as well makes no difference. -/
def containsRun (p : Char → Bool) (n : Nat) (s : List Char) : Bool :=
  s.tails.any fun t => (t.take n).length == n && (t.take n).all p

/-- `CAIP_CHAIN_ID_REGEX`, `[-a-zA-Z0-9]{1,32}`, not anchored. -/
def caipChainIdRegex (s : List Char) : Bool := containsRun isReferenceChar 1 s

/-- `CAIP_ETH_ADDRESS_REGEX`, `0x[a-fA-F0-9]{40}`, not anchored. -/
def caipEthAddressRegex (s : List Char) : Bool :=
  s.tails.any fun t => match t with
    | '0' :: 'x' :: rest => (rest.take 40).length == 40 && (rest.take 40).all isHexChar
    | _ => false

/-- `CAIP_SOLANA_ADDRESS_REGEX`, `[1-9A-HJ-NP-Za-km-z]{32,44}`, not anchored. -/
def caipSolanaAddressRegex (s : List Char) : Bool := containsRun isBase58Char 32 s

/-! ## Numbers in texts, as the standard library reads them -/

/-- The number a list of decimal digits denotes. -/
def digitsValue (s : List Char) : Nat := s.foldl (fun n c => 10 * n + (c.toNat - 48)) 0

/-- The digits of an unsigned number, without its sign. -/
def unsignedDigits : List Char → List Char
  | '+' :: rest => rest
  | s => s

/-- `str::parse` for an unsigned type below `bound`: an optional plus sign, then digits. -/
def parseUnsigned (bound : Nat) (s : List Char) : Option Nat :=
  let digits := match s with
    | '+' :: rest => rest
    | _ => s
  if digits ≠ [] ∧ digits.all Char.isDigit ∧ digitsValue digits < bound then
    some (digitsValue digits)
  else none

/-- A printed number parses to itself. -/
theorem parseUnsigned_toString {bound n : Nat} (h : n < bound) :
    parseUnsigned bound (toString n).toList = some n := by
  have hdigits : (toString n).toList = Nat.toDigits 10 n := by
    rw [Nat.toString_eq_repr, Nat.toList_repr]
  have hall : ∀ c ∈ Nat.toDigits 10 n, c.isDigit := fun c hc =>
    Nat.isDigit_of_mem_toDigits (by omega) (by omega) hc
  have hvalue : digitsValue (Nat.toDigits 10 n) = n := by
    conv_rhs => rw [← Nat.ofDigitChars_ten_toDigits (n := n), Nat.ofDigitChars_eq_foldl]
    rfl
  -- no digit is a plus sign, so the digits are the whole text
  have hplus : ∀ rest, Nat.toDigits 10 n ≠ '+' :: rest := by
    intro rest heq
    have hdigit := hall '+' (by rw [heq]; exact List.mem_cons_self ..)
    exact absurd hdigit (by decide)
  rw [hdigits, parseUnsigned]
  · rw [if_pos ⟨Nat.toDigits_ne_nil, List.all_eq_true.mpr hall, hvalue.symm ▸ h⟩, hvalue]
  · exact hplus

/-- `u8::from_str_radix(_, 16)`. -/
def parseHexByte (s : List Char) : Option Nat :=
  let digits := match s with
    | '+' :: rest => rest
    | _ => s
  if digits ≠ [] ∧ digits.all isHexChar ∧ hexValue digits < 256 then some (hexValue digits)
  else none

/-! ## Namespaces, addresses, chains: what is checked of each part -/

/-- `CaipNamespaces::from_str` (strum, lower case). -/
def CaipNamespaces.fromStr (s : List Char) : Option CaipNamespaces :=
  if s = "eip155".toList then some .eip155
  else if s = "solana".toList then some .solana
  else if s = "ton".toList then some .ton
  else if s = "rootstock".toList then some .rootstock
  else none

/-- `Display for CaipNamespaces`. -/
def CaipNamespaces.display : CaipNamespaces → String
  | .eip155 => "eip155"
  | .solana => "solana"
  | .ton => "ton"
  | .rootstock => "rootstock"

/-- What the address checks ask of other crates. -/
structure AddressParsers where
  /-- `H160::from_str`. -/
  h160FromStr : String → Option Address
  /-- `bs58::decode(_).into_vec()`. -/
  bs58Decode : String → Option Bytes

/-- `is_address_valid_impl`: the check of an address, which depends on the namespace. -/
def isAddressValid (p : AddressParsers) (address : String) : CaipNamespaces → Bool
  | .eip155 | .rootstock =>
    caipEthAddressRegex address.toList && (p.h160FromStr address).isSome
  | .solana =>
    caipSolanaAddressRegex address.toList &&
      match p.bs58Decode address with
      | some decoded => decoded.length == 32
      | none => false
  | .ton =>
    if address.toList.contains ':' then
      -- raw form: `<workchain>:<64 hex digits>`
      match address.toList.splitOn ':' with
      | [workchain, account] =>
        (parseHexByte workchain).isSome && account.length == 64 && account.all isHexChar
      | _ => false
    else
      -- user-friendly form: base64url without padding
      address.toList.all (fun c => c.isAlphanum || c == '-' || c == '_') &&
        (address.toList.head? == some 'E' || address.toList.head? == some 'U') &&
        36 ≤ address.length

/-- The discriminants of `ChainId`, in the order of the enumeration. -/
def supportedChainIds : List Nat :=
  [2741, 33139, 42161, 421614, 1313161554, 1313161555, 43114, 43113, 8453, 84532, 80094, 80069,
   56, 97, 81032, 42220, 25, 666666666, 1, 17000, 560048, 250, 100, 5, 1625, 57073, 8217, 232,
   59144, 5000, 5003, 10143, 1284, 2810, 2818, 10, 11155420, 137, 80002, 1101, 30, 31, 534352,
   534351, 1329, 11155111, 1868, 146, 57054, 130, 1301, 1111, 1112, 1440000, 1449000, 543210,
   4457845, 324, 300, 7777777, 999999999]

/-- `ChainId::is_supported`. -/
def chainIdIsSupported (chainId : Nat) : Bool := supportedChainIds.contains chainId

/-- `disassemble_caip10`: namespace, chain and address of a CAIP-10 account, checked in this
    order. -/
def disassembleCaip10 (p : AddressParsers) (caip10 : String) :
    Outcome CryptoUtilsError (CaipNamespaces × String × String) :=
  match caip10.toList.splitOn ':' with
  | [ns, chain, addr] =>
    match CaipNamespaces.fromStr ns with
    | none => .err (.wrongNamespace caip10)
    | some ns =>
      if caipChainIdRegex chain then
        if isAddressValid p (String.ofList addr) ns then
          .ok (ns, String.ofList chain, String.ofList addr)
        else .err (.wrongAddressFormat (String.ofList addr))
      else .err (.wrongChainIdFormat (String.ofList chain))
  | _ => .err (.wrongCaip10Format caip10)

/-- `disassemble_caip2`: namespace and chain of a CAIP-2 chain id. -/
def disassembleCaip2 (caip2 : String) : Outcome CryptoUtilsError (CaipNamespaces × String) :=
  match caip2.toList.splitOn ':' with
  | [ns, chain] =>
    match CaipNamespaces.fromStr ns with
    | none => .err (.wrongNamespace caip2)
    | some ns =>
      if caipChainIdRegex chain then .ok (ns, String.ofList chain)
      else .err (.wrongChainIdFormat (String.ofList chain))
  | _ => .err (.wrongCaip2Format caip2)

end BlockchainApi
