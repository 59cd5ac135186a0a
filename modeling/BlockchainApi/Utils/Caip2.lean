/-
  CAIP-2 chain ids (`Caip2ChainId` of `src/utils/crypto.rs`), and the two parsers of chain ids.

  1. **Chain ids.** `Caip2ChainId` carries the patterns of its two parts, as the fields of the
     source are private and `new` checks them.  The grammar (`IsCaip2`) is stated apart from the
     patterns, with characters described by their ranges.

  2. **The strict parser.** Neither part can have a colon in it, so the printed form determines the
     id, and `parse` accepts exactly the printed forms (`parse_eq_ok_iff`).  With the grammar this
     is `parse_exact`: it accepts exactly the texts of the grammar, and printing and parsing undo
     each other.

  3. **The other parser**, `disassemble_caip2`, knows the supported namespaces only and searches the
     chain for its pattern, which is not anchored: one character of the alphabet is enough
     (`caipChainIdRegex_iff`).  So is the one of CAIP-10 accounts.

  4. **Where this makes a difference** is what `parsers_agree_iff` says, of a chain id and of an
     account at once: the parsers agree exactly on the texts with nothing stray in the chain.  One
     supported namespace, the longest, is in no chain id at all, as a namespace has eight characters
     at most.
-/
import BlockchainApi.Lib.Delimited
import BlockchainApi.Utils.Caip

namespace BlockchainApi

open Delimited

/-! ## Chain ids: two parts, checked when they are put together -/

/-- `[-a-z0-9]`. -/
def isNamespaceChar (c : Char) : Bool := c == '-' || c.isLower || c.isDigit

/-- `CAIP2_NAMESPACE_REGEX`, `^[-a-z0-9]{3,8}$`. -/
def caip2NamespaceRegex (s : List Char) : Bool := matchesRun isNamespaceChar 3 8 s

/-- `CAIP2_REFERENCE_REGEX`, `^[-a-zA-Z0-9]{1,32}$`. -/
def caip2ReferenceRegex (s : List Char) : Bool := matchesRun isReferenceChar 1 32 s

/-- `Caip2ChainId`. -/
structure Caip2ChainId where
  namespace_ : String
  reference : String
  namespace_matches : caip2NamespaceRegex namespace_.toList = true
  reference_matches : caip2ReferenceRegex reference.toList = true
  deriving DecidableEq

namespace Caip2ChainId

/-- `Caip2ChainId::new`. -/
def new (namespace_ reference : String) : Except CryptoUtilsError Caip2ChainId :=
  if hnamespace : caip2NamespaceRegex namespace_.toList = true then
    if hreference : caip2ReferenceRegex reference.toList = true then
      .ok ⟨namespace_, reference, hnamespace, hreference⟩
    else .error (.wrongChainIdFormat
      ("CAIP-2 reference must be 1-32 characters of letters, digits, or hyphens: " ++ reference))
  else .error (.wrongCaip2Format
    ("CAIP-2 namespace must be 3-8 characters of lowercase letters, digits, or hyphens: " ++
      namespace_))

/-- `Caip2ChainId::parse`. -/
def parse (chainId : String) : Except CryptoUtilsError Caip2ChainId :=
  match splitn ':' 2 chainId.toList with
  | [] => .error (.wrongCaip2Format
      ("CAIP-2 chain ID must have a namespace component: " ++ chainId))
  | [_] => .error (.wrongCaip2Format
      ("CAIP-2 chain ID must have a reference component: " ++ chainId))
  | namespace_ :: reference :: _ => new (String.ofList namespace_) (String.ofList reference)

/-- `Display for Caip2ChainId`. -/
def display (c : Caip2ChainId) : String := c.namespace_ ++ ":" ++ c.reference

end Caip2ChainId

/-- `disassemble_caip10_with_namespace`: for any kind of namespaces. -/
def disassembleCaip10WithNamespace {N : Type} (fromStr : List Char → Option N)
    (validateAddress : N → String → Bool) (caip10 : String) :
    Outcome CryptoUtilsError (N × String × String) :=
  match caip10.toList.splitOn ':' with
  | [ns, chain, addr] =>
    match fromStr ns with
    | none => .err (.wrongNamespace caip10)
    | some ns =>
      if caipChainIdRegex chain then
        if validateAddress ns (String.ofList addr) then
          .ok (ns, String.ofList chain, String.ofList addr)
        else .err (.wrongAddressFormat (String.ofList addr))
      else .err (.wrongChainIdFormat (String.ofList chain))
  | _ => .err (.wrongCaip10Format caip10)

theorem disassembleCaip10WithNamespace_ne_panic {N : Type} {fromStr : List Char → Option N}
    {validateAddress : N → String → Bool} {caip10 : String} :
    disassembleCaip10WithNamespace fromStr validateAddress caip10 ≠ .panic := by
  unfold disassembleCaip10WithNamespace
  split
  · split
    · exact Outcome.err_ne_panic
    · split
      · split
        · exact Outcome.ok_ne_panic
        · exact Outcome.err_ne_panic
      · exact Outcome.err_ne_panic
  · exact Outcome.err_ne_panic

theorem disassembleCaip10_eq (p : AddressParsers) (caip10 : String) :
    disassembleCaip10 p caip10 =
      disassembleCaip10WithNamespace CaipNamespaces.fromStr (fun ns a => isAddressValid p a ns)
        caip10 := by
  unfold disassembleCaip10 disassembleCaip10WithNamespace
  generalize caip10.toList.splitOn ':' = parts
  match parts with
  | [] | [_] | [_, _] | _ :: _ :: _ :: _ :: _ => rfl
  | [ns, _, _] =>
    dsimp only
    cases CaipNamespaces.fromStr ns <;> rfl

/-! ## The grammar, and the parser that accepts exactly it -/

/-- A small letter, a digit or a hyphen. -/
def IsNamespaceChar (c : Char) : Prop := ('a' ≤ c ∧ c ≤ 'z') ∨ ('0' ≤ c ∧ c ≤ '9') ∨ c = '-'

/-- A letter, a digit or a hyphen. -/
def IsReferenceChar (c : Char) : Prop :=
  ('a' ≤ c ∧ c ≤ 'z') ∨ ('A' ≤ c ∧ c ≤ 'Z') ∨ ('0' ≤ c ∧ c ≤ '9') ∨ c = '-'

theorem isLower_iff (c : Char) : c.isLower = true ↔ 'a' ≤ c ∧ c ≤ 'z' := by
  show (decide ('a' ≤ c) && decide (c ≤ 'z')) = true ↔ _
  rw [Bool.and_eq_true, decide_eq_true_eq, decide_eq_true_eq]

theorem isUpper_iff (c : Char) : c.isUpper = true ↔ 'A' ≤ c ∧ c ≤ 'Z' := by
  show decide ('A' ≤ c ∧ c ≤ 'Z') = true ↔ _
  rw [decide_eq_true_eq]

theorem isDigit_iff (c : Char) : c.isDigit = true ↔ '0' ≤ c ∧ c ≤ '9' := by
  show (decide ('0' ≤ c) && decide (c ≤ '9')) = true ↔ _
  rw [Bool.and_eq_true, decide_eq_true_eq, decide_eq_true_eq]

theorem isAlphanum_iff (c : Char) :
    c.isAlphanum = true ↔ (c.isUpper = true ∨ c.isLower = true) ∨ c.isDigit = true := by
  show ((c.isUpper || c.isLower) || c.isDigit) = true ↔ _
  rw [Bool.or_eq_true, Bool.or_eq_true]

theorem isNamespaceChar_iff (c : Char) : isNamespaceChar c = true ↔ IsNamespaceChar c := by
  rw [isNamespaceChar, IsNamespaceChar, Bool.or_eq_true, Bool.or_eq_true, beq_iff_eq,
    isLower_iff, isDigit_iff]
  tauto

theorem isReferenceChar_iff (c : Char) : isReferenceChar c = true ↔ IsReferenceChar c := by
  rw [isReferenceChar, IsReferenceChar, Bool.or_eq_true, beq_iff_eq, isAlphanum_iff, isUpper_iff,
    isLower_iff, isDigit_iff]
  tauto

theorem IsNamespaceChar.isReferenceChar {c : Char} (h : IsNamespaceChar c) :
    IsReferenceChar c := by
  rcases h with hlower | hdigit | hhyphen
  · exact .inl hlower
  · exact .inr (.inr (.inl hdigit))
  · exact .inr (.inr (.inr hhyphen))

/-- The namespace of a chain id. -/
abbrev IsNamespace (s : String) : Prop := Run IsNamespaceChar 3 8 s.toList

/-- The reference of a chain id. -/
abbrev IsReference (s : String) : Prop := Run IsReferenceChar 1 32 s.toList

/-- The text is a chain id with these two parts. -/
structure IsCaip2 (s namespace_ reference : String) : Prop where
  text : s = namespace_ ++ ":" ++ reference
  isNamespace : IsNamespace namespace_
  isReference : IsReference reference

theorem not_isNamespaceChar_colon : ¬ IsNamespaceChar ':' := by
  rw [← isNamespaceChar_iff]
  decide

theorem not_isReferenceChar_colon : ¬ IsReferenceChar ':' := by
  rw [← isReferenceChar_iff]
  decide

theorem toList_join (a b : String) : (a ++ ":" ++ b).toList = a.toList ++ ':' :: b.toList := by
  simp

/-- A text is a join of two texts as its characters are. -/
theorem eq_join_iff {s : String} {a b : List Char} :
    s.toList = a ++ ':' :: b ↔ s = String.ofList a ++ ":" ++ String.ofList b := by
  rw [← String.toList_inj, toList_join, String.toList_ofList, String.toList_ofList]

namespace Caip2ChainId

variable {c : Caip2ChainId} {s : String}

theorem isNamespace (c : Caip2ChainId) : IsNamespace c.namespace_ :=
  (matchesRun_iff isNamespaceChar_iff).mp c.namespace_matches

theorem isReference (c : Caip2ChainId) : IsReference c.reference :=
  (matchesRun_iff isReferenceChar_iff).mp c.reference_matches

@[ext] theorem ext {c c' : Caip2ChainId} (hnamespace : c.namespace_ = c'.namespace_)
    (hreference : c.reference = c'.reference) : c = c' := by
  cases c
  cases c'
  cases hnamespace
  cases hreference
  rfl

/-- What `new` accepts, it keeps. -/
theorem new_eq_ok_iff {namespace_ reference : String} :
    new namespace_ reference = .ok c ↔ namespace_ = c.namespace_ ∧ reference = c.reference := by
  unfold new
  constructor
  · intro h
    split at h
    · split at h
      · cases h
        exact ⟨rfl, rfl⟩
      · cases h
    · cases h
  · rintro ⟨rfl, rfl⟩
    rw [dif_pos c.namespace_matches, dif_pos c.reference_matches]

/-- **What is accepted** is the printed form. So printing and parsing are inverse to each other. -/
theorem parse_eq_ok_iff : parse s = .ok c ↔ s = c.display := by
  have hcolon : ':' ∉ c.namespace_.toList := c.isNamespace.notMem not_isNamespaceChar_colon
  unfold parse
  constructor
  · intro h
    obtain ⟨-, hsplit⟩ | ⟨a, b, -, htext, hsplit⟩ := splitn_two_cases ':' s.toList
    · rw [hsplit] at h
      cases h
    · rw [hsplit] at h
      obtain ⟨ha, hb⟩ := new_eq_ok_iff.mp h
      rw [eq_join_iff.mp htext, ha, hb, display]
  · rintro rfl
    have hsplit := splitn_two_eq_pair_iff.mpr ⟨hcolon, toList_join c.namespace_ c.reference⟩
    rw [display, hsplit]
    simp only [String.ofList_toList]
    exact new_eq_ok_iff.mpr ⟨rfl, rfl⟩

/-- A separator of another kind is not in a printed id. -/
theorem notMem_display (c : Caip2ChainId) {sep : Char} (hsep : ¬ IsReferenceChar sep)
    (hcolon : sep ≠ ':') : sep ∉ c.display.toList := by
  rw [display, toList_join, List.mem_append, List.mem_cons, not_or, not_or]
  exact ⟨c.isNamespace.notMem fun h => hsep h.isReferenceChar, hcolon,
    c.isReference.notMem hsep⟩

theorem isCaip2_display (c : Caip2ChainId) : IsCaip2 c.display c.namespace_ c.reference :=
  ⟨rfl, c.isNamespace, c.isReference⟩

/-- A text of the grammar is a printed id. -/
theorem exists_of_isCaip2 {namespace_ reference : String} (h : IsCaip2 s namespace_ reference) :
    ∃ c : Caip2ChainId, c.namespace_ = namespace_ ∧ c.reference = reference ∧ s = c.display :=
  ⟨⟨namespace_, reference, (matchesRun_iff isNamespaceChar_iff).mpr h.isNamespace,
    (matchesRun_iff isReferenceChar_iff).mpr h.isReference⟩, rfl, rfl, h.text⟩

/-- **The parser of chain ids accepts exactly their grammar**, and printing and parsing undo each
    other. So equal printed forms are equal ids, and different texts that are accepted are
    different ids. -/
theorem parse_exact :
    (∀ s, (∃ c, parse s = .ok c) ↔ ∃ namespace_ reference, IsCaip2 s namespace_ reference) ∧
      (∀ s c, parse s = .ok c → c.display = s) ∧ ∀ c, parse c.display = .ok c := by
  refine ⟨fun s => ⟨?_, ?_⟩, fun s c h => (parse_eq_ok_iff.mp h).symm,
    fun c => parse_eq_ok_iff.mpr rfl⟩
  · rintro ⟨c, hc⟩
    exact ⟨c.namespace_, c.reference, parse_eq_ok_iff.mp hc ▸ c.isCaip2_display⟩
  · rintro ⟨namespace_, reference, h⟩
    obtain ⟨c, -, -, hs⟩ := exists_of_isCaip2 h
    exact ⟨c, parse_eq_ok_iff.mpr hs⟩

end Caip2ChainId

/-! ## The two parsers

The second one cuts a text in the same way, and checks the parts by other patterns. So they can
be compared part by part. -/

/-- The pattern of a chain, not anchored, finds one character of the alphabet: a run of one is
    enough. -/
theorem caipChainIdRegex_iff {s : List Char} :
    caipChainIdRegex s = true ↔ ∃ c ∈ s, IsReferenceChar c := by
  simp only [caipChainIdRegex, containsRun, List.any_eq_true, List.mem_tails, Bool.and_eq_true,
    beq_iff_eq, List.all_eq_true, isReferenceChar_iff]
  constructor
  · rintro ⟨t, ht, hlength, hall⟩
    cases t with
    | nil => cases hlength
    | cons c t => exact ⟨c, ht.mem List.mem_cons_self, hall c List.mem_cons_self⟩
  · rintro ⟨c, hc, hchar⟩
    obtain ⟨before, after, rfl⟩ := List.append_of_mem hc
    exact ⟨c :: after, List.suffix_append _ _, rfl, List.forall_mem_singleton.mpr hchar⟩

theorem CaipNamespaces.fromStr_eq_some_iff {s : List Char} {n : CaipNamespaces} :
    CaipNamespaces.fromStr s = some n ↔ s = n.display.toList := by
  unfold CaipNamespaces.fromStr
  constructor
  · intro h
    split at h
    · cases h; assumption
    · split at h
      · cases h; assumption
      · split at h
        · cases h; assumption
        · split at h
          · cases h; assumption
          · cases h
  · rintro rfl
    cases n <;> decide

theorem disassembleCaip2_eq_ok_iff {s reference : String} {n : CaipNamespaces} :
    disassembleCaip2 s = .ok (n, reference) ↔
      s = n.display ++ ":" ++ reference ∧ ':' ∉ reference.toList ∧
        ∃ c ∈ reference.toList, IsReferenceChar c := by
  have hcolon : ':' ∉ n.display.toList := by cases n <;> decide
  unfold disassembleCaip2
  rw [← caipChainIdRegex_iff]
  constructor
  · -- two parts, a namespace that is known, and a reference with a character of its alphabet
    intro h
    split at h
    · rename_i ns chain hsplit
      obtain ⟨-, hchain, htext⟩ := splitOn_eq_pair_iff.mp hsplit
      split at h
      · cases h
      · rename_i n' hn
        split at h
        · rename_i hfound
          cases h
          rw [CaipNamespaces.fromStr_eq_some_iff.mp hn] at htext
          rw [String.toList_ofList]
          refine ⟨?_, hchain, hfound⟩
          rw [eq_join_iff.mp htext, String.ofList_toList]
        · cases h
    · cases h
  · rintro ⟨rfl, hreference, hfound⟩
    have hn : CaipNamespaces.fromStr n.display.toList = some n :=
      CaipNamespaces.fromStr_eq_some_iff.mpr rfl
    rw [toList_join, splitOn_eq_pair_iff.mpr ⟨hcolon, hreference, rfl⟩]
    simp only [hn, hfound, if_true, String.ofList_toList]

theorem disassembleCaip10WithNamespace_eq_ok_iff {N : Type} {fromStr : List Char → Option N}
    {validateAddress : N → String → Bool} {s chain address : String} {n : N} :
    disassembleCaip10WithNamespace fromStr validateAddress s = .ok (n, chain, address) ↔
      ∃ ns : String, s = ns ++ ":" ++ (chain ++ ":" ++ address) ∧
        (':' ∉ ns.toList ∧ ':' ∉ chain.toList ∧ ':' ∉ address.toList) ∧
          fromStr ns.toList = some n ∧ validateAddress n address = true ∧
            ∃ c ∈ chain.toList, IsReferenceChar c := by
  unfold disassembleCaip10WithNamespace
  rw [← caipChainIdRegex_iff]
  constructor
  · -- three parts, each with its check
    intro h
    split at h
    · rename_i ns chain' addr hsplit
      obtain ⟨hns, hchain, haddr, htext⟩ := splitOn_eq_triple_iff.mp hsplit
      split at h
      · cases h
      · rename_i n' hn
        split at h
        · rename_i hfound
          split at h
          · rename_i hvalid
            cases h
            simp only [String.toList_ofList]
            refine ⟨String.ofList ns, ?_, ?_, ?_, hvalid, hfound⟩
            · rw [eq_join_iff.mp htext]
              congr 1
              exact eq_join_iff.mp String.toList_ofList
            · rw [String.toList_ofList]
              exact ⟨hns, hchain, haddr⟩
            · rw [String.toList_ofList]
              exact hn
          · cases h
        · cases h
    · cases h
  · rintro ⟨ns, rfl, ⟨hns, hchain, haddress⟩, hn, hvalid, hfound⟩
    rw [toList_join, toList_join,
      splitOn_eq_triple_iff.mpr ⟨hns, hchain, haddress, rfl⟩]
    simp only [hn, hfound, if_true, String.ofList_toList, hvalid]

/-- **The two parsers agree on a text**: the one accepts it exactly if the other does and the
    namespace is supported, with the same parts. -/
def ParsersAgree (s : String) : Prop :=
  ∀ n reference, disassembleCaip2 s = .ok (n, reference) ↔
    ∃ c, Caip2ChainId.parse s = .ok c ∧ CaipNamespaces.fromStr c.namespace_.toList = some n ∧
      reference = c.reference

/-- **The chain of an accepted account** is the reference of a chain id. -/
def ChainPartValid {N : Type} (fromStr : List Char → Option N)
    (validateAddress : N → String → Bool) (s : String) : Prop :=
  ∀ n chain address,
    disassembleCaip10WithNamespace fromStr validateAddress s = .ok (n, chain, address) →
      IsReference chain

/-- The chain is no reference, but has a character of one: other characters are beside it, or
    there are too many. The second parser takes such a chain. -/
def Stray (chain : String) : Prop :=
  (∃ c ∈ chain.toList, IsReferenceChar c) ∧ ¬ IsReference chain

/-- A chain id with nothing stray in it, of a namespace that fits into one. -/
def Caip2Clean (s : String) : Prop :=
  ∀ n : CaipNamespaces, ∀ chain : String, s = n.display ++ ":" ++ chain → ':' ∉ chain.toList →
    ¬ Stray chain ∧ (n = .rootstock → ∀ c ∈ chain.toList, ¬ IsReferenceChar c)

/-- An account with nothing stray in its chain. -/
def Caip10Clean {N : Type} (fromStr : List Char → Option N) (validateAddress : N → String → Bool)
    (s : String) : Prop :=
  ∀ ns chain address : String, s = ns ++ ":" ++ (chain ++ ":" ++ address) →
    ':' ∉ ns.toList ∧ ':' ∉ chain.toList ∧ ':' ∉ address.toList →
      ∀ n, fromStr ns.toList = some n → validateAddress n address = true → ¬ Stray chain

/-- Of the supported namespaces, all but the longest can be in a chain id. -/
theorem isNamespace_display_iff (n : CaipNamespaces) : IsNamespace n.display ↔ n ≠ .rootstock := by
  rw [IsNamespace, ← matchesRun_iff isNamespaceChar_iff]
  cases n <;> decide

theorem IsReference.exists_mem {chain : String} (h : IsReference chain) :
    ∃ c ∈ chain.toList, IsReferenceChar c := by
  obtain ⟨c, hc⟩ := List.exists_mem_of_length_pos h.least_le
  exact ⟨c, hc, h.all c hc⟩

/-- What the parser of chain ids accepts of a supported namespace. -/
theorem parse_supported_iff {s reference : String} {n : CaipNamespaces} :
    (∃ c, Caip2ChainId.parse s = .ok c ∧ CaipNamespaces.fromStr c.namespace_.toList = some n ∧
        reference = c.reference) ↔
      s = n.display ++ ":" ++ reference ∧ n ≠ .rootstock ∧ IsReference reference := by
  rw [← isNamespace_display_iff]
  constructor
  · rintro ⟨c, hc, hn, rfl⟩
    have hdisplay : c.namespace_ = n.display :=
      String.toList_inj.mp (CaipNamespaces.fromStr_eq_some_iff.mp hn)
    rw [Caip2ChainId.parse_eq_ok_iff.mp hc, ← hdisplay]
    exact ⟨rfl, c.isNamespace, c.isReference⟩
  · rintro ⟨htext, hnamespace, hreference⟩
    obtain ⟨c, hc, rfl, hs⟩ := Caip2ChainId.exists_of_isCaip2 ⟨htext, hnamespace, hreference⟩
    exact ⟨c, Caip2ChainId.parse_eq_ok_iff.mpr hs,
      CaipNamespaces.fromStr_eq_some_iff.mpr (congrArg String.toList hc), rfl⟩

theorem parsersAgree_iff (s : String) : ParsersAgree s ↔ Caip2Clean s := by
  simp only [ParsersAgree, parse_supported_iff, disassembleCaip2_eq_ok_iff]
  constructor
  · intro h n chain htext hcolon
    refine ⟨?_, ?_⟩
    · rintro ⟨hfound, hnot⟩
      exact hnot ((h n chain).mp ⟨htext, hcolon, hfound⟩).2.2
    · rintro hn c hc hchar
      exact ((h n chain).mp ⟨htext, hcolon, c, hc, hchar⟩).2.1 hn
  · intro h n reference
    constructor
    · rintro ⟨htext, hcolon, hfound⟩
      obtain ⟨hstray, hlong⟩ := h n reference htext hcolon
      refine ⟨htext, ?_, not_not.mp fun hnot => hstray ⟨hfound, hnot⟩⟩
      rintro rfl
      obtain ⟨c, hc, hchar⟩ := hfound
      exact hlong rfl c hc hchar
    · rintro ⟨htext, -, hreference⟩
      exact ⟨htext, hreference.notMem not_isReferenceChar_colon, hreference.exists_mem⟩

theorem chainPartValid_iff {N : Type} (fromStr : List Char → Option N)
    (validateAddress : N → String → Bool) (s : String) :
    ChainPartValid fromStr validateAddress s ↔ Caip10Clean fromStr validateAddress s := by
  simp only [ChainPartValid, disassembleCaip10WithNamespace_eq_ok_iff]
  constructor
  · rintro h ns chain address htext hcolon n hn hvalid ⟨hfound, hnot⟩
    exact hnot (h n chain address ⟨ns, htext, hcolon, hn, hvalid, hfound⟩)
  · rintro h n chain address ⟨ns, htext, hcolon, hn, hvalid, hfound⟩
    exact not_not.mp fun hnot => h ns chain address htext hcolon n hn hvalid ⟨hfound, hnot⟩

/-- **Where the two parsers agree**, and the chain of an account is one: on the texts with
    nothing stray in the chain. The longest of the supported namespaces is in no chain id at all. -/
theorem parsers_agree_iff {N : Type} (fromStr : List Char → Option N)
    (validateAddress : N → String → Bool) (s : String) :
    ParsersAgree s ∧ ChainPartValid fromStr validateAddress s ↔
      Caip2Clean s ∧ Caip10Clean fromStr validateAddress s :=
  and_congr (parsersAgree_iff s) (chainPartValid_iff fromStr validateAddress s)

/-- **A path behind the chain** is accepted as part of it. -/
theorem not_parsersAgree :
    ¬ ∀ (p : AddressParsers) (s : String), ParsersAgree s ∧
      ChainPartValid CaipNamespaces.fromStr (fun n a => isAddressValid p a n) s := by
  intro h
  have hagree := (h ⟨fun _ => none, fun _ => none⟩ "eip155:1/x").1
  have hclean := (parsersAgree_iff _).mp hagree .eip155 "1/x" (by decide) (by decide)
  refine hclean.1 ⟨⟨'1', by decide, (isReferenceChar_iff _).mp (by decide)⟩, fun hreference => ?_⟩
  exact absurd ((isReferenceChar_iff _).mpr (hreference.all '/' (by decide))) (by decide)

end BlockchainApi
