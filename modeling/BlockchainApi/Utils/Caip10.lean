/-
  CAIP-10 accounts, written and read back (`format_to_caip10` and `disassemble_caip10`,
  `src/utils/crypto.rs`).

  An account is a namespace, a chain and an address, joined by colons, and the parser splits at
  every colon.  So an account comes back as it was written exactly if none of its parts has a colon
  (`roundTrips_iff_colon`).

  1. **Namespaces and references** have none: their patterns do not allow it.

  2. **Addresses.** Of the four kinds that the validator accepts, an Ethereum address is read from
     hex digits, a Solana address from the base58 alphabet, and the friendly form of a TON address
     from the alphabet of base64.  The raw form of a TON address has a colon between workchain and
     hash (`colon_mem_iff`).

  3. **Together** (`caip10_roundTrips_iff`): an account is read back if and only if it is not a TON
     account in raw form.  The counterexample is the raw form of sixty-four zeros, which is valid.

  `H160::from_str` and `bs58::decode` belong to other crates.  What is assumed of them
  (`AddressParsers.Lawful`) is which characters they read; the hex reader also skips white space.
-/
import BlockchainApi.Utils.Caip2
import BlockchainApi.Utils.HexAddress

namespace BlockchainApi

open Delimited

/-- `format_to_caip10`. -/
def formatToCaip10 (namespace_ : CaipNamespaces) (chainId address : String) : String :=
  namespace_.display ++ ":" ++ chainId ++ ":" ++ address

/-- The white space that the hex reader skips. -/
def isHexSpace (c : Char) : Bool := c == ' ' || c == '\n' || c == '\r' || c == '\t'

/-- What is assumed of the readers of addresses: a text that they accept has no other characters
    than those of its alphabet. -/
structure AddressParsers.Lawful (p : AddressParsers) : Prop where
  h160Alphabet : ∀ s, (p.h160FromStr s).isSome →
    ∀ c ∈ s.toList, isHexChar c ∨ c = 'x' ∨ isHexSpace c
  bs58Alphabet : ∀ s, (p.bs58Decode s).isSome → ∀ c ∈ s.toList, isBase58Char c

/-- The raw form of a TON address. -/
def isTonRaw (address : String) : Bool := address.toList.contains ':'

/-- **What is written is read back.** -/
def Caip10RoundTrips (p : AddressParsers) (namespace_ : CaipNamespaces) (chainId address : String) :
    Prop :=
  disassembleCaip10 p (formatToCaip10 namespace_ chainId address) =
    .ok (namespace_, chainId, address)

variable {p : AddressParsers} {n : CaipNamespaces} {chainId address : String}

/-! ## Which addresses have a colon: one kind of four -/

/-- An Ethereum address is read from hex digits. -/
theorem colon_notMem_of_h160 (hp : p.Lawful) (h : (p.h160FromStr address).isSome) :
    ':' ∉ address.toList := by
  intro hcolon
  rcases hp.h160Alphabet address h ':' hcolon with hhex | hx | hspace
  · exact absurd hhex (by decide)
  · exact absurd hx (by decide)
  · exact absurd hspace (by decide)

/-- A Solana address is read from the base58 alphabet. -/
theorem colon_notMem_of_bs58 (hp : p.Lawful) (h : (p.bs58Decode address).isSome) :
    ':' ∉ address.toList := by
  intro hcolon
  exact absurd (hp.bs58Alphabet address h ':' hcolon) (by decide)

/-- **Of the valid addresses**, the raw ones of TON have a colon: a case for each namespace, and
    on TON one for each form. -/
theorem colon_mem_iff (hp : p.Lawful) (h : isAddressValid p address n = true) :
    ':' ∈ address.toList ↔ n = .ton ∧ isTonRaw address = true := by
  have hraw : isTonRaw address = true ↔ ':' ∈ address.toList := List.contains_iff_mem
  rw [hraw]
  refine ⟨fun hcolon => ⟨?_, hcolon⟩, And.right⟩
  cases n with
  | ton => rfl
  | eip155 =>
    obtain ⟨-, hread⟩ := Bool.and_eq_true_iff.mp h
    exact absurd hcolon (colon_notMem_of_h160 hp hread)
  | rootstock =>
    obtain ⟨-, hread⟩ := Bool.and_eq_true_iff.mp h
    exact absurd hcolon (colon_notMem_of_h160 hp hread)
  | solana =>
    obtain ⟨-, hread⟩ := Bool.and_eq_true_iff.mp h
    refine absurd hcolon (colon_notMem_of_bs58 hp ?_)
    cases hdecoded : p.bs58Decode address with
    | none =>
      rw [hdecoded] at hread
      cases hread
    | some decoded => rfl

/-! ## Reading back: the join is cut at the same places -/

/-- An account of a valid chain and a valid address is read back unless its address has a colon. -/
theorem roundTrips_iff_colon (hchain : IsReference chainId)
    (haddress : isAddressValid p address n = true) :
    Caip10RoundTrips p n chainId address ↔ ':' ∉ address.toList := by
  have hnamespace : ':' ∉ n.display.toList := by cases n <;> decide
  have htext : formatToCaip10 n chainId address =
      n.display ++ ":" ++ (chainId ++ ":" ++ address) := by
    simp only [formatToCaip10, String.append_assoc]
  rw [Caip10RoundTrips, disassembleCaip10_eq, disassembleCaip10WithNamespace_eq_ok_iff]
  constructor
  · rintro ⟨-, -, ⟨-, -, hcolon⟩, -⟩
    exact hcolon
  · intro hcolon
    exact ⟨n.display, htext, ⟨hnamespace, hchain.notMem not_isReferenceChar_colon, hcolon⟩,
      CaipNamespaces.fromStr_eq_some_iff.mpr rfl, haddress, hchain.exists_mem⟩

/-- **CAIP-10 round trip**: an account of any namespace, of a valid chain and a valid address, is
    read back as it was written if and only if it is not a TON account in raw form. -/
theorem caip10_roundTrips_iff (p : AddressParsers) (hp : p.Lawful) (namespace_ : CaipNamespaces)
    (chainId address : String) (hchain : IsReference chainId)
    (haddress : isAddressValid p address namespace_ = true) :
    Caip10RoundTrips p namespace_ chainId address ↔
      ¬ (namespace_ = .ton ∧ isTonRaw address = true) := by
  rw [roundTrips_iff_colon hchain haddress, colon_mem_iff hp haddress]

/-! ## Accounts on Ethereum and on TON -/

/-- Parsers of hex addresses alone. -/
def hexParsers : AddressParsers where
  h160FromStr := readH160
  bs58Decode _ := none

/-- The prefix is all that is stripped. -/
theorem mem_stripHexPrefix_or {s : List Char} {c : Char} (h : c ∈ s) :
    c ∈ stripHexPrefix s ∨ c = '0' ∨ c = 'x' := by
  unfold stripHexPrefix
  split
  · rcases List.mem_cons.mp h with rfl | h
    · exact .inr (.inl rfl)
    · rcases List.mem_cons.mp h with rfl | h
      · exact .inr (.inr rfl)
      · exact .inl h
  · exact .inl h

theorem hexParsers_lawful : hexParsers.Lawful where
  h160Alphabet s h c hc := by
    obtain ⟨address, haddress⟩ := Option.isSome_iff_exists.mp h
    obtain ⟨⟨-, hhex⟩, -⟩ := readH160_eq_some_iff.mp haddress
    rcases mem_stripHexPrefix_or hc with hdigit | rfl | rfl
    · exact .inl (List.all_eq_true.mp hhex c hdigit)
    · exact .inl (by decide)
    · exact .inr (.inl rfl)
  bs58Alphabet s h := by cases h

theorem caip10_roundTrips_usdc :
    Caip10RoundTrips hexParsers .eip155 "1" "0xa0b86991c6218b36c1d19d4a2e9eb0ce3606eb48" := by
  have hchain : IsReference "1" := (matchesRun_iff isReferenceChar_iff).mp (by decide)
  refine (caip10_roundTrips_iff hexParsers hexParsers_lawful .eip155 "1" _ hchain
    (by decide)).mpr ?_
  rintro ⟨hton, -⟩
  cases hton

/-- The raw form of the address of sixty-four zeros, in the basic workchain. -/
def rawZeros : String := "0:" ++ String.ofList (List.replicate 64 '0')

/-- **The raw form of a TON address** is valid, and an account with it is not read back. -/
theorem not_caip10_roundTrips :
    ¬ ∀ (namespace_ : CaipNamespaces) (chainId address : String), IsReference chainId →
      isAddressValid hexParsers address namespace_ = true →
        Caip10RoundTrips hexParsers namespace_ chainId address := by
  intro h
  have hchain : IsReference "-239" := (matchesRun_iff isReferenceChar_iff).mp (by decide)
  have haddress : isAddressValid hexParsers rawZeros .ton = true := by decide
  have hcolon := (roundTrips_iff_colon hchain haddress).mp (h .ton "-239" rawZeros hchain haddress)
  exact hcolon (by decide)

end BlockchainApi
