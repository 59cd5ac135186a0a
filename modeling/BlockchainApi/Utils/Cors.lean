/-
  Allowed origins (`host_matches_pattern`, `src/utils/cors.rs`, and `is_origin_allowed_for_project`,
  `src/handlers/json_rpc/handler.rs`).

  An origin is allowed if it is a default one, or if an entry of the project's list admits it: by
  being the same text, by a scheme, a host pattern and maybe a port, or by a host pattern alone.

  1. **What should be.** `PatternMatches` says of characters what a pattern is to match, with a
     subdomain in the place of the wildcard; `ShouldAdmit` and `ShouldAllow` say the same of an
     entry and of the list.

  2. **What the source does.** It works on bytes and cuts entries at colons and slashes.  Each cut
     has a lemma (`fullEntry_iff`, `splitHostPort_eq_iff`), and `entryAdmits_iff` puts them
     together.

  3. **Where they differ.** Two hosts are not what the source takes them for.  A host may begin with
     a dot, and then a wildcard is taken to match it with nothing in front of that dot
     (`DottedHost`); and a host may be an address in brackets with colons in it, and then the source
     cuts the entry at the first of these (`AdmitsBracketed`).

  4. **For all other hosts the matcher is exact**, and for these two kinds unless another entry says
     the same (`origins_exact_iff`).

  Parsing an origin belongs to another crate (`UrlParser`); `UrlParser.Lawful` is what is assumed of
  it.
-/
import BlockchainApi.Lib.Delimited
import BlockchainApi.Utils.Caip
import BlockchainApi.Utils.HexAddress

namespace BlockchainApi

open ByteCodec Delimited

/-! ## Host patterns, compared byte by byte -/

/-- `as_bytes`. -/
def asBytes (s : List Char) : Bytes := s.flatMap String.utf8EncodeChar

/-- `host_matches_pattern`. -/
def hostMatchesPattern (pattern host : List Char) : Bool :=
  if pattern = ['*'] then true
  else match pattern with
    | '*' :: '.' :: suffix =>
      if suffix.isSuffixOf host then
        let prefixLen := (asBytes host).length - (asBytes suffix).length
        if prefixLen = 0 then false
        else (asBytes host)[prefixLen - 1]? == some 0x2e
      else false
    | _ => pattern == host

/-! ## Origins: what is read of a URL and of an entry -/

/-- `CORS_ALLOWED_ORIGINS`. -/
def corsAllowedOrigins : List String := ["http://localhost:3000"]

/-- A parsed URL, as far as it is read. -/
structure Url where
  scheme : String
  host : Option String
  /-- The port, if it is not the default one of the scheme. -/
  port : Option Nat

/-- `url::Url::parse`. -/
abbrev UrlParser := String → Option Url

/-- `to_ascii_lowercase`. -/
def lowercase (s : List Char) : List Char := s.map Char.toLower

/-- `White_Space`. -/
def isWhiteSpace (c : Char) : Bool :=
  let n := c.toNat
  (9 ≤ n && n ≤ 13) || n = 0x20 || n = 0x85 || n = 0xa0 || n = 0x1680 ||
    (0x2000 ≤ n && n ≤ 0x200a) || n = 0x2028 || n = 0x2029 || n = 0x202f || n = 0x205f || n = 0x3000

/-- `trim`. -/
def trim (s : List Char) : List Char :=
  ((s.dropWhile isWhiteSpace).reverse.dropWhile isWhiteSpace).reverse

/-- An entry as it is read. -/
def readEntry (entry : String) : List Char := lowercase (trim entry.toList)

/-- `default_port_for_scheme`. -/
def defaultPortForScheme (scheme : List Char) : Option Nat :=
  if scheme = "http".toList then some 80
  else if scheme = "https".toList then some 443
  else none

/-- `"://"`. -/
def schemeSeparator : List Char := [':', '/', '/']

/-- What the matcher knows of the origin. -/
structure OriginParts where
  /-- The origin itself, in small letters. -/
  text : List Char
  scheme : Option (List Char)
  host : Option (List Char)
  effectivePort : Option Nat

/-- The parts of an origin, if it is a URL. -/
def originParts (parse : UrlParser) (origin : String) : OriginParts :=
  match parse origin with
  | none => ⟨lowercase origin.toList, none, none, none⟩
  | some u =>
    let scheme := lowercase u.scheme.toList
    ⟨lowercase origin.toList, some scheme, u.host.map fun h => lowercase h.toList,
      u.port.or (defaultPortForScheme scheme)⟩

/-- `host[:port]`, cut at the first colon. -/
def splitHostPort (hostPort : List Char) : List Char × Option (List Char) :=
  match splitOnce [':'] hostPort with
  | some (h, p) => (h, some p)
  | none => (hostPort, none)

/-- Is the port, if the entry has one, that of the origin? -/
def portAdmits (effectivePort : Option Nat) : Option (List Char) → Bool
  | some p =>
    match parseUnsigned (2 ^ 16) p with
    | some n => effectivePort == some n
    | none => false
  | none => true

/-- Does an entry admit the origin? -/
def entryAdmits (o : OriginParts) (entry : List Char) : Bool :=
  if entry = o.text then true
  else match splitOnce schemeSeparator entry with
    | some (schemePat, rest) =>
      if o.scheme ≠ some schemePat then false
      else
        let hostPort := rest.takeWhile (· ≠ '/')
        if hostPort = [] then false
        else
          let patterns := splitHostPort hostPort
          match o.host with
          | none => false
          | some host =>
            hostMatchesPattern patterns.1 host && portAdmits o.effectivePort patterns.2
    | none =>
      match o.host with
      | some host => hostMatchesPattern entry host
      | none => false

/-- Is it one of the default origins? -/
def isDefaultOrigin (origin : List Char) : Bool :=
  corsAllowedOrigins.any fun o => lowercase o.toList = origin

/-- `is_origin_allowed_for_project`, of a project that was found, with its list, or was not. -/
def isOriginAllowedForProject (parse : UrlParser) (project : Option (List String))
    (origin : String) : Bool :=
  match project with
  | none => false
  | some allowedOrigins =>
    let o := originParts parse origin
    if isDefaultOrigin o.text then true
    else allowedOrigins.any fun entry => entryAdmits o (readEntry entry)

/-! ## What should be allowed, in terms of characters -/

/-- **A pattern matches a host**: any host, or those with something in front of the suffix and its
    dot, or the host itself. -/
inductive PatternMatches : List Char → List Char → Prop where
  | any (host : List Char) : PatternMatches ['*'] host
  | wildcard (x suffix : List Char) (hx : x ≠ []) :
      PatternMatches ('*' :: '.' :: suffix) (x ++ '.' :: suffix)
  | same (host : List Char) (hany : host ≠ ['*'])
      (hwildcard : ∀ suffix, host ≠ '*' :: '.' :: suffix) : PatternMatches host host

/-- The entry is `scheme://pattern[:port][/anything]`. -/
structure FullEntry (entry scheme pattern : List Char) (port : Option (List Char)) : Prop where
  text : ∃ tail, entry = scheme ++ (schemeSeparator ++ (pattern ++
    (port.elim [] (':' :: ·) ++ tail))) ∧ (tail = [] ∨ tail.head? = some '/')
  pattern_ne_nil : pattern ≠ []
  slash_notMem : '/' ∉ pattern ∧ ∀ p, port = some p → '/' ∉ p

/-- The port, if one is given, is a valid one and equal to that of the origin. -/
def PortFits (effectivePort : Option Nat) (port : Option (List Char)) : Prop :=
  ∀ p, port = some p → ∃ n, parseUnsigned (2 ^ 16) p = some n ∧ effectivePort = some n

/-- An origin with a scheme and a host. -/
structure HostOrigin where
  text : List Char
  scheme : List Char
  host : List Char
  effectivePort : Option Nat

/-- The same, for the matcher. -/
abbrev HostOrigin.parts (o : HostOrigin) : OriginParts :=
  ⟨o.text, some o.scheme, some o.host, o.effectivePort⟩

/-- An entry admits an origin by a scheme, a pattern with a property, and maybe a port. -/
def AdmitsFull (o : HostOrigin) (entry : List Char) (P : List Char → Prop) : Prop :=
  ∃ pattern port, FullEntry entry o.scheme pattern port ∧ P pattern ∧
    PortFits o.effectivePort port

/-- **An entry should admit an origin.** -/
def ShouldAdmit (o : HostOrigin) (entry : List Char) : Prop :=
  entry = o.text ∨ AdmitsFull o entry (fun pattern => PatternMatches pattern o.host) ∨
    ¬ schemeSeparator <:+: entry ∧ PatternMatches entry o.host

/-- **An origin should be allowed.** -/
def ShouldAllow (o : HostOrigin) (entries : List (List Char)) : Prop :=
  isDefaultOrigin o.text = true ∨ ∃ entry ∈ entries, ShouldAdmit o entry

/-! ## What a pattern is taken to match

The matcher looks for a dot in the byte in front of the suffix. A dot is one byte in UTF-8, and
no byte of a longer character is one, so this is the character in front of the suffix. -/

/-- **A wildcard and a host with a dot in the place of `x.`** -/
def DottedHost (pattern host : List Char) : Prop :=
  ∃ suffix, pattern = '*' :: '.' :: suffix ∧ host = '.' :: suffix

variable {pattern host entry s : List Char} {c : Char} {o : HostOrigin}
  {port : Option (List Char)}

/-- The pattern should not match it. -/
theorem DottedHost.not_patternMatches (h : DottedHost pattern host) :
    ¬ PatternMatches pattern host := by
  obtain ⟨suffix, rfl, rfl⟩ := h
  generalize hpattern : '*' :: '.' :: suffix = pattern
  generalize hhost : '.' :: suffix = host
  intro hmatches
  cases hmatches with
  | any => cases hpattern
  | wildcard x suffix' hx =>
    cases hpattern
    have hlength := congrArg List.length hhost
    rw [List.length_append] at hlength
    exact hx (List.length_eq_zero_iff.mp (by omega))
  | same => exact absurd (List.cons.inj (hpattern.trans hhost.symm)).1 (by decide)

theorem asBytes_append (s t : List Char) : asBytes (s ++ t) = asBytes s ++ asBytes t :=
  List.flatMap_append

/-- The last byte of a character is that of a dot only if it is a dot. -/
theorem getLast?_utf8EncodeChar_eq_dot_iff :
    (String.utf8EncodeChar c).getLast? = some 0x2e ↔ c = '.' := by
  have hval : c = '.' ↔ c.val.toNat = 46 := by
    rw [← Char.val_inj, ← UInt32.toNat_inj]
    rfl
  have hbyte : ∀ n, UInt8.ofNat n = 0x2e ↔ n % 256 = 46 := by
    intro n
    rw [← UInt8.toNat_inj, UInt8.toNat_ofNat']
    exact Iff.rfl
  rw [hval]
  unfold String.utf8EncodeChar
  dsimp only
  split
  · rw [List.getLast?_singleton, Option.some.injEq, hbyte]
    omega
  · split
    · rw [List.getLast?_cons_cons, List.getLast?_singleton, Option.some.injEq, hbyte]
      omega
    · split
      · rw [List.getLast?_cons_cons, List.getLast?_cons_cons, List.getLast?_singleton,
          Option.some.injEq, hbyte]
        omega
      · rw [List.getLast?_cons_cons, List.getLast?_cons_cons, List.getLast?_cons_cons,
          List.getLast?_singleton, Option.some.injEq, hbyte]
        omega

theorem length_asBytes_concat_pos (y : List Char) (c : Char) :
    0 < (asBytes (y ++ [c])).length := by
  have hpos := List.length_pos_of_ne_nil (String.utf8EncodeChar_ne_nil (c := c))
  rw [asBytes_append, List.length_append, asBytes, asBytes, List.flatMap_singleton]
  omega

/-- The byte in front of a suffix is the last one of the character there. -/
theorem getElem?_asBytes (y suffix : List Char) (c : Char) :
    (asBytes (y ++ [c] ++ suffix))[(asBytes (y ++ [c])).length - 1]? =
      (String.utf8EncodeChar c).getLast? := by
  have hchar : asBytes [c] = String.utf8EncodeChar c := List.flatMap_singleton _ _
  have hpos := length_asBytes_concat_pos y c
  rw [asBytes_append _ suffix, List.getElem?_append_left (by omega), ← List.getLast?_eq_getElem?,
    asBytes_append, hchar, List.getLast?_append_of_ne_nil _ String.utf8EncodeChar_ne_nil]

/-- A wildcard is taken to match what has a dot in front of the suffix. -/
theorem hostMatchesPattern_wildcard {suffix : List Char} :
    hostMatchesPattern ('*' :: '.' :: suffix) host = true ↔ ∃ x, host = x ++ '.' :: suffix := by
  have hany : '*' :: '.' :: suffix ≠ ['*'] := by simp
  rw [hostMatchesPattern, if_neg hany]
  dsimp only
  by_cases hsuffix : suffix.isSuffixOf host = true
  · obtain ⟨x, rfl⟩ := List.isSuffixOf_iff_suffix.mp hsuffix
    have hlength : (asBytes (x ++ suffix)).length - (asBytes suffix).length =
        (asBytes x).length := by
      rw [asBytes_append, List.length_append, Nat.add_sub_cancel]
    rw [if_pos hsuffix, hlength]
    rcases List.eq_nil_or_concat x with rfl | ⟨y, c, rfl⟩
    · have hzero : (asBytes []).length = 0 := rfl
      rw [if_pos hzero]
      refine ⟨fun h => absurd h Bool.false_ne_true, fun ⟨x, hx⟩ => ?_⟩
      have := congrArg List.length hx
      rw [List.length_append, List.length_append, List.length_cons, List.length_nil] at this
      omega
    · have hpos := length_asBytes_concat_pos y c
      rw [List.concat_eq_append, if_neg (by omega), getElem?_asBytes, beq_iff_eq,
        getLast?_utf8EncodeChar_eq_dot_iff]
      constructor
      · rintro rfl
        exact ⟨y, by rw [List.append_assoc, List.singleton_append]⟩
      · rintro ⟨x, hx⟩
        -- both have the suffix behind one character
        have hx' : y ++ [c] ++ suffix = x ++ ['.'] ++ suffix := by
          rw [hx, List.append_assoc, List.singleton_append]
        have hsame : y ++ [c] = x ++ ['.'] := List.append_cancel_right hx'
        have hlast := congrArg List.getLast? hsame
        rw [List.getLast?_concat, List.getLast?_concat] at hlast
        exact Option.some.inj hlast
  · rw [if_neg hsuffix]
    refine ⟨fun h => absurd h Bool.false_ne_true, ?_⟩
    rintro ⟨x, rfl⟩
    refine absurd (List.isSuffixOf_iff_suffix.mpr ⟨x ++ ['.'], ?_⟩) hsuffix
    rw [List.append_assoc, List.singleton_append]

/-- **What the matcher takes a pattern to match**: what the pattern matches, and a host with
    nothing in front of the dot. -/
theorem hostMatchesPattern_iff : hostMatchesPattern pattern host = true ↔
    PatternMatches pattern host ∨ DottedHost pattern host := by
  -- a wildcard, the pattern for any host, or the host itself
  by_cases hwildcard : ∃ suffix, pattern = '*' :: '.' :: suffix
  · obtain ⟨suffix, rfl⟩ := hwildcard
    rw [hostMatchesPattern_wildcard]
    constructor
    · rintro ⟨x, rfl⟩
      cases x with
      -- nothing before the dot: the pattern matches, although there is no subdomain
      | nil => exact .inr ⟨suffix, rfl, rfl⟩
      | cons y x => exact .inl (.wildcard (y :: x) suffix (List.cons_ne_nil _ _))
    · rintro (h | ⟨suffix', hpattern, rfl⟩)
      · cases h with
        | wildcard x suffix hx => exact ⟨x, rfl⟩
        | same _ hany hwildcard => exact absurd rfl (hwildcard suffix)
      · cases hpattern
        exact ⟨[], rfl⟩
  · have hother : ∀ suffix, pattern ≠ '*' :: '.' :: suffix := not_exists.mp hwildcard
    by_cases hany : pattern = ['*']
    · rw [hany]
      exact ⟨fun _ => .inl (.any host), fun _ => rfl⟩
    · rw [hostMatchesPattern, if_neg hany, beq_iff_eq]
      · constructor
        · rintro rfl
          exact .inl (.same pattern hany hother)
        · rintro (h | ⟨suffix, hpattern, -⟩)
          · cases h with
            | any => exact absurd rfl hany
            | wildcard x suffix hx => exact absurd rfl (hother suffix)
            | same => rfl
          · exact absurd hpattern (hother suffix)
      · exact hother

/-! ## What an entry admits: its cuts, one after the other -/

/-- Cut off at the slash, the rest of an entry is a pattern and maybe a port. -/
theorem fullEntry_iff {scheme rest : List Char}
    (hentry : entry = scheme ++ (schemeSeparator ++ rest)) :
    FullEntry entry scheme pattern port ↔ pattern ≠ [] ∧
      rest.takeWhile (· ≠ '/') = pattern ++ port.elim [] (':' :: ·) := by
  -- what stands before the first slash is taken
  have hslash : ∀ {s tail : List Char}, '/' ∉ s → (tail = [] ∨ tail.head? = some '/') →
      (s ++ tail).takeWhile (· ≠ '/') = s := by
    intro s tail hs htail
    rcases htail with rfl | htail
    · rw [List.append_nil, List.takeWhile_eq_self_iff]
      intro c hc
      simpa using fun heq : c = '/' => hs (heq ▸ hc)
    · obtain ⟨tail, rfl⟩ := List.head?_eq_some_iff.mp htail
      exact takeWhile_append_cons hs
  constructor
  · rintro ⟨⟨tail, htext, htail⟩, hne, hpattern, hport⟩
    refine ⟨hne, ?_⟩
    have hrest : rest = pattern ++ port.elim [] (':' :: ·) ++ tail := by
      rw [List.append_assoc]
      exact List.append_cancel_left (List.append_cancel_left (hentry.symm.trans htext))
    rw [hrest, hslash ?_ htail]
    cases port with
    | none => simpa using hpattern
    | some p => simpa using ⟨hpattern, hport p rfl⟩
  · rintro ⟨hne, hrest⟩
    have hnotMem : '/' ∉ pattern ++ port.elim [] (':' :: ·) := by
      rw [← hrest]
      intro hmem
      simpa using List.mem_takeWhile_imp hmem
    refine ⟨⟨rest.dropWhile (· ≠ '/'), ?_, ?_⟩, hne, fun h => hnotMem (by simp [h]), ?_⟩
    · rw [hentry, ← List.append_assoc pattern, ← hrest, List.takeWhile_append_dropWhile]
    · cases hdrop : rest.dropWhile (· ≠ '/') with
      | nil => exact .inl rfl
      | cons c tail =>
        have hc := List.head?_dropWhile_not (· ≠ '/') rest
        rw [hdrop] at hc
        exact .inr (by simpa using hc)
    · rintro p rfl hp
      exact hnotMem (by simp [hp])

theorem portAdmits_iff {effectivePort : Option Nat} :
    portAdmits effectivePort port = true ↔ PortFits effectivePort port := by
  unfold portAdmits PortFits
  cases port with
  | none => exact ⟨fun _ p hp => (by cases hp), fun _ => rfl⟩
  | some p =>
    dsimp only
    cases hparse : parseUnsigned (2 ^ 16) p with
    | none =>
      refine ⟨fun h => absurd h Bool.false_ne_true, fun h => ?_⟩
      obtain ⟨n, hn, -⟩ := h p rfl
      rw [hparse] at hn
      cases hn
    | some n =>
      dsimp only
      rw [beq_iff_eq]
      constructor
      · rintro h p' hp'
        cases hp'
        exact ⟨n, hparse, h⟩
      · intro h
        obtain ⟨m, hm, heq⟩ := h p rfl
        rw [hparse] at hm
        cases hm
        exact heq

/-- The two parts of `host[:port]` are a pattern without a colon and what is behind the colon. -/
theorem splitHostPort_eq_iff {hostPort : List Char} :
    splitHostPort hostPort = (pattern, port) ↔
      ':' ∉ pattern ∧ hostPort = pattern ++ port.elim [] (':' :: ·) := by
  rw [splitHostPort]
  cases hsplit : splitOnce [':'] hostPort with
  | some parts =>
    -- the first colon ends the host
    obtain ⟨h, p⟩ := parts
    obtain ⟨hnotMem, rfl⟩ := splitOnce_singleton_eq_some_iff.mp hsplit
    constructor
    · intro heq
      cases heq
      exact ⟨hnotMem, rfl⟩
    · rintro ⟨hpattern, htext⟩
      cases port with
      | none =>
        -- no colon, no port
        rw [Option.elim_none, List.append_nil] at htext
        exact absurd (htext ▸ by simp) hpattern
      | some p' =>
        have hsplit' := splitOnce_singleton_eq_some_iff.mpr ⟨hpattern, htext⟩
        cases hsplit.symm.trans hsplit'
        rfl
  | none =>
    have hnotMem : ':' ∉ hostPort := by
      intro hmem
      obtain ⟨a, b, rfl⟩ := List.append_of_mem hmem
      exact splitOnce_eq_none_iff.mp hsplit ⟨a, b, by rw [List.append_assoc, List.singleton_append]⟩
    constructor
    · intro heq
      cases heq
      exact ⟨hnotMem, (List.append_nil _).symm⟩
    · rintro ⟨hpattern, rfl⟩
      cases port with
      | none => rw [Option.elim_none, List.append_nil]
      | some p => exact absurd (by simp) hnotMem

/-- What is assumed of an origin, as a URL: its scheme has no colon, a host without characters has
    no port, and a host with a colon is an address in brackets. -/
structure HostOrigin.Lawful (o : HostOrigin) : Prop where
  scheme_colon : ':' ∉ o.scheme
  port_of_empty : o.host = [] → o.effectivePort = none
  bracket_of_colon : ':' ∈ o.host → o.host.head? = some '['

/-- What is in front of the first slash admits the origin exactly if it is a pattern without a
    colon that matches the host, and maybe the port. -/
theorem hostPort_admits_iff {hostPort : List Char} (ho : o.Lawful) (hne : hostPort ≠ []) :
    (hostMatchesPattern (splitHostPort hostPort).1 o.host &&
        portAdmits o.effectivePort (splitHostPort hostPort).2) = true ↔
      ∃ pattern port, (pattern ≠ [] ∧ hostPort = pattern ++ port.elim [] (':' :: ·)) ∧
        (':' ∉ pattern ∧ hostMatchesPattern pattern o.host = true) ∧
          PortFits o.effectivePort port := by
  rw [Bool.and_eq_true, portAdmits_iff]
  constructor
  · obtain ⟨pattern, port, hparts⟩ : ∃ h p, splitHostPort hostPort = (h, p) := ⟨_, _, rfl⟩
    obtain ⟨hcolon, hhostPort⟩ := splitHostPort_eq_iff.mp hparts
    rw [hparts]
    rintro ⟨hmatches, hport⟩
    refine ⟨pattern, port, ⟨fun hnil => ?_, hhostPort⟩, ⟨hcolon, hmatches⟩, hport⟩
    -- an empty pattern is of an empty host, which has no port
    subst hnil
    have hhost : o.host = [] := by simpa [hostMatchesPattern] using hmatches
    cases port with
    | none => exact hne hhostPort
    | some p =>
      obtain ⟨n, -, hn⟩ := hport p rfl
      rw [ho.port_of_empty hhost] at hn
      cases hn
  · rintro ⟨pattern, port, ⟨-, hhostPort⟩, ⟨hcolon, hmatches⟩, hport⟩
    rw [splitHostPort_eq_iff.mpr ⟨hcolon, hhostPort⟩]
    exact ⟨hmatches, hport⟩

/-- **What an entry admits**: the same text, a full entry of the scheme, or a pattern with maybe
    a port, cut at the first slash. -/
theorem entryAdmits_iff (ho : o.Lawful) : entryAdmits o.parts entry = true ↔
    entry = o.text ∨
      AdmitsFull o entry (fun pattern => ':' ∉ pattern ∧ hostMatchesPattern pattern o.host = true) ∨
        ¬ schemeSeparator <:+: entry ∧ hostMatchesPattern entry o.host = true := by
  -- an entry with a scheme is split at its first separator
  have hfull : ∀ {P}, AdmitsFull o entry P →
      ∃ rest, splitOnce schemeSeparator entry = some (o.scheme, rest) := by
    rintro P ⟨pattern, port, ⟨⟨tail, htext, -⟩, -, -⟩, -⟩
    exact ⟨_, htext ▸ splitOnce_append _ _ ho.scheme_colon⟩
  rw [entryAdmits]
  dsimp only [HostOrigin.parts]
  by_cases htext : entry = o.text
  · rw [if_pos htext]
    exact ⟨fun _ => .inl htext, fun _ => rfl⟩
  rw [if_neg htext, or_iff_right htext]
  cases hsplit : splitOnce schemeSeparator entry with
  | none =>
    -- no scheme: the entry is a pattern of hosts
    have hnone : ¬ AdmitsFull o entry
        (fun pattern => ':' ∉ pattern ∧ hostMatchesPattern pattern o.host = true) := by
      intro h
      obtain ⟨rest, hrest⟩ := hfull h
      cases hsplit.symm.trans hrest
    rw [or_iff_right hnone]
    exact (and_iff_right (splitOnce_eq_none_iff.mp hsplit)).symm
  | some parts =>
    obtain ⟨schemePat, rest⟩ := parts
    have hentry := eq_of_splitOnce hsplit
    have hinfix : schemeSeparator <:+: entry :=
      ⟨schemePat, rest, by rw [hentry, List.append_assoc]⟩
    rw [or_iff_left (fun h => h.1 hinfix)]
    dsimp only
    -- the scheme has to be that of the origin
    by_cases hscheme : o.scheme = schemePat
    · subst hscheme
      rw [if_neg (not_not.mpr rfl)]
      unfold AdmitsFull
      simp only [fullEntry_iff hentry]
      generalize rest.takeWhile (· ≠ '/') = hostPort
      by_cases hempty : hostPort = []
      · rw [if_pos hempty]
        refine ⟨fun h => absurd h Bool.false_ne_true, ?_⟩
        rintro ⟨pattern, port, ⟨hne, hhostPort⟩, -⟩
        rw [hempty] at hhostPort
        exact absurd (List.append_eq_nil_iff.mp hhostPort.symm).1 hne
      · rw [if_neg hempty]
        exact hostPort_admits_iff ho hempty
    · rw [if_pos fun h => hscheme (Option.some.inj h)]
      refine ⟨fun h => absurd h Bool.false_ne_true, fun h => ?_⟩
      obtain ⟨rest', hrest⟩ := hfull h
      cases hsplit.symm.trans hrest
      exact absurd rfl hscheme

/-! ## Where the matcher is exact

Both what is admitted and what should be are a part that they have in common, or a part of their
own. The two parts exclude each other. -/

/-- An entry admits an origin in a way that the matcher and the list agree on. -/
def AdmitsPlainly (o : HostOrigin) (entry : List Char) : Prop :=
  entry = o.text ∨
    AdmitsFull o entry (fun pattern => ':' ∉ pattern ∧ PatternMatches pattern o.host) ∨
      ¬ schemeSeparator <:+: entry ∧ PatternMatches entry o.host

/-- An entry has a wildcard, and the host of the origin has a dot in the place of what the wildcard
    stands for. -/
def AdmitsDotted (o : HostOrigin) (entry : List Char) : Prop :=
  AdmitsFull o entry (fun pattern => ':' ∉ pattern ∧ DottedHost pattern o.host) ∨
    ¬ schemeSeparator <:+: entry ∧ DottedHost entry o.host

/-- An entry with a scheme has a pattern with a colon, as of an address in brackets, that matches
    the host of the origin. -/
def AdmitsBracketed (o : HostOrigin) (entry : List Char) : Prop :=
  AdmitsFull o entry fun pattern => ':' ∈ pattern ∧ PatternMatches pattern o.host

theorem admitsFull_or {P Q R : List Char → Prop}
    (h : ∀ pattern, R pattern ↔ P pattern ∨ Q pattern) :
    AdmitsFull o entry R ↔ AdmitsFull o entry P ∨ AdmitsFull o entry Q := by
  unfold AdmitsFull
  constructor
  · rintro ⟨pattern, port, hentry, hpattern, hport⟩
    rcases (h pattern).mp hpattern with hP | hQ
    · exact .inl ⟨pattern, port, hentry, hP, hport⟩
    · exact .inr ⟨pattern, port, hentry, hQ, hport⟩
  · rintro (⟨pattern, port, hentry, hpattern, hport⟩ | ⟨pattern, port, hentry, hpattern, hport⟩)
    · exact ⟨pattern, port, hentry, (h pattern).mpr (.inl hpattern), hport⟩
    · exact ⟨pattern, port, hentry, (h pattern).mpr (.inr hpattern), hport⟩

/-- The matcher admits a dotted host as well. -/
theorem entryAdmits_iff_plainly (ho : o.Lawful) :
    entryAdmits o.parts entry = true ↔ AdmitsPlainly o entry ∨ AdmitsDotted o entry := by
  have hfull := @admitsFull_or entry o
    (fun pattern => ':' ∉ pattern ∧ PatternMatches pattern o.host)
    (fun pattern => ':' ∉ pattern ∧ DottedHost pattern o.host)
    (fun pattern => ':' ∉ pattern ∧ hostMatchesPattern pattern o.host = true)
    (fun pattern => by rw [hostMatchesPattern_iff, and_or_left])
  rw [entryAdmits_iff ho, hfull, hostMatchesPattern_iff, AdmitsPlainly, AdmitsDotted]
  tauto

/-- It should admit an address in brackets instead. -/
theorem shouldAdmit_iff_plainly :
    ShouldAdmit o entry ↔ AdmitsPlainly o entry ∨ AdmitsBracketed o entry := by
  have hfull := @admitsFull_or entry o
    (fun pattern => ':' ∉ pattern ∧ PatternMatches pattern o.host)
    (fun pattern => ':' ∈ pattern ∧ PatternMatches pattern o.host)
    (fun pattern => PatternMatches pattern o.host) (fun pattern => by tauto)
  rw [ShouldAdmit, hfull, AdmitsPlainly, AdmitsBracketed]
  tauto

/-- No host is both. -/
theorem not_dotted_and_bracketed {entry' : List Char} (ho : o.Lawful)
    (hdotted : AdmitsDotted o entry) : ¬ AdmitsBracketed o entry' := by
  have hdot : o.host.head? = some '.' := by
    rcases hdotted with ⟨pattern, port, -, ⟨-, suffix, -, hhost⟩, -⟩ | ⟨-, suffix, -, hhost⟩
    · rw [hhost]
      rfl
    · rw [hhost]
      rfl
  rintro ⟨pattern, port, -, ⟨hcolon, hmatches⟩, -⟩
  have hmem : ':' ∈ o.host := by
    generalize o.host = host at hmatches
    cases hmatches with
    | any => exact absurd hcolon (by decide)
    | wildcard x suffix hx =>
      simp only [List.mem_cons] at hcolon
      rcases hcolon with h | h | h
      · exact absurd h (by decide)
      · exact absurd h (by decide)
      · exact List.mem_append_right _ (List.mem_cons_of_mem _ h)
    | same => exact hcolon
  rw [ho.bracket_of_colon hmem] at hdot
  exact absurd (Option.some.inj hdot) (by decide)

/-- What is assumed of the parser of URLs: schemes are in small letters and without a colon; only
    an address in brackets has a colon; and a URL without a host has no port, nor is its scheme
    one of those that have a default one. -/
structure UrlParser.Lawful (parse : UrlParser) : Prop where
  scheme_colon : ∀ s u, parse s = some u → ':' ∉ u.scheme.toList
  scheme_lowercase : ∀ s u, parse s = some u → lowercase u.scheme.toList = u.scheme.toList
  bracket_of_colon : ∀ s u host, parse s = some u → u.host = some host → ':' ∈ host.toList →
    host.toList.head? = some '['
  port_of_empty : ∀ s u, parse s = some u → u.host = some "" →
    u.port = none ∧ u.scheme ≠ "http" ∧ u.scheme ≠ "https"

/-- The origin with its URL. -/
def hostOrigin (origin : String) (u : Url) (host : String) : HostOrigin where
  text := lowercase origin.toList
  scheme := lowercase u.scheme.toList
  host := lowercase host.toList
  effectivePort := u.port.or (defaultPortForScheme (lowercase u.scheme.toList))

theorem hostOrigin_lawful {parse : UrlParser} (hparse : parse.Lawful) {origin host : String}
    {u : Url} (hu : parse origin = some u) (hhost : u.host = some host) :
    (hostOrigin origin u host).Lawful where
  scheme_colon := by
    rw [hostOrigin, hparse.scheme_lowercase _ _ hu]
    exact hparse.scheme_colon _ _ hu
  port_of_empty h := by
    have hempty : host = "" := String.toList_eq_nil_iff.mp (List.map_eq_nil_iff.mp h)
    obtain ⟨hport, hhttp, hhttps⟩ := hparse.port_of_empty _ _ hu (hempty ▸ hhost)
    rw [hostOrigin, hparse.scheme_lowercase _ _ hu, hport, Option.none_or, defaultPortForScheme,
      if_neg fun h => hhttp (String.toList_inj.mp h),
      if_neg fun h => hhttps (String.toList_inj.mp h)]
  bracket_of_colon h := by
    obtain ⟨c, hc, hlower⟩ := List.mem_map.mp h
    have hcolon : ':' ∈ host.toList := eq_of_toLower_eq hlower (by decide) ▸ hc
    have hbracket := hparse.bracket_of_colon _ _ _ hu hhost hcolon
    have hhead : (lowercase host.toList).head? = some '[' := by
      rw [lowercase, List.head?_map, hbracket]
      rfl
    exact hhead

/-- Two ways to be allowed that have one part in common are the same if and only if this part, or
    neither of the others, is the case, where the others exclude each other. A fact of
    propositional logic, over the entries of a list. -/
theorem exists_or_iff_exists_or_iff {α : Type} {entries : List α} {D : Prop} {P A B : α → Prop}
    (hexclusive : ∀ {e e'}, A e → ¬ B e') :
    ((D ∨ ∃ e ∈ entries, P e ∨ A e) ↔ D ∨ ∃ e ∈ entries, P e ∨ B e) ↔
      D ∨ (∃ e ∈ entries, P e) ∨ ∀ e ∈ entries, ¬ A e ∧ ¬ B e := by
  by_cases hD : D
  · exact ⟨fun _ => .inl hD, fun _ => ⟨fun _ => .inl hD, fun _ => .inl hD⟩⟩
  simp only [or_iff_right hD]
  by_cases hP : ∃ e ∈ entries, P e
  · obtain ⟨e, hmem, he⟩ := hP
    exact ⟨fun _ => .inl ⟨e, hmem, he⟩,
      fun _ => ⟨fun _ => ⟨e, hmem, .inl he⟩, fun _ => ⟨e, hmem, .inl he⟩⟩⟩
  rw [or_iff_right hP]
  have hother : ∀ Q : α → Prop, (∃ e ∈ entries, P e ∨ Q e) ↔ ∃ e ∈ entries, Q e := by
    intro Q
    constructor
    · rintro ⟨e, hmem, he | hQ⟩
      · exact absurd ⟨e, hmem, he⟩ hP
      · exact ⟨e, hmem, hQ⟩
    · rintro ⟨e, hmem, hQ⟩
      exact ⟨e, hmem, .inr hQ⟩
  rw [hother, hother]
  constructor
  · intro hsame e hmem
    -- one of the two without the other would be a difference, and they are never together
    constructor
    · intro hA
      obtain ⟨e', -, hB⟩ := hsame.mp ⟨e, hmem, hA⟩
      exact hexclusive hA hB
    · intro hB
      obtain ⟨e', -, hA⟩ := hsame.mpr ⟨e, hmem, hB⟩
      exact hexclusive hA hB
  · intro hneither
    constructor
    · rintro ⟨e, hmem, hA⟩
      exact absurd hA (hneither e hmem).1
    · rintro ⟨e, hmem, hB⟩
      exact absurd hB (hneither e hmem).2

/-- **Allowed origins.**  The matcher allows an origin exactly if the list should, if and only if
    the origin is a default one, or an entry admits it plainly, or no entry has a wildcard for its
    dotted host and none has its host in brackets. -/
theorem origins_exact_iff (parse : UrlParser) (hparse : parse.Lawful) (entries : List String)
    (origin : String) (u : Url) (host : String) (hu : parse origin = some u)
    (hhost : u.host = some host) :
    (isOriginAllowedForProject parse (some entries) origin = true ↔
        ShouldAllow (hostOrigin origin u host) (entries.map readEntry)) ↔
      isDefaultOrigin (hostOrigin origin u host).text = true ∨
        (∃ entry ∈ entries.map readEntry, AdmitsPlainly (hostOrigin origin u host) entry) ∨
          ∀ entry ∈ entries.map readEntry, ¬ AdmitsDotted (hostOrigin origin u host) entry ∧
            ¬ AdmitsBracketed (hostOrigin origin u host) entry := by
  have ho := hostOrigin_lawful hparse hu hhost
  have hparts : originParts parse origin = (hostOrigin origin u host).parts := by
    rw [originParts, hu, hostOrigin]
    simp only [hhost, Option.map_some]
  have hallowed : isOriginAllowedForProject parse (some entries) origin = true ↔
      isDefaultOrigin (hostOrigin origin u host).text = true ∨
        ∃ entry ∈ entries.map readEntry,
          entryAdmits (hostOrigin origin u host).parts entry = true := by
    rw [isOriginAllowedForProject, hparts]
    simp
  rw [hallowed, ShouldAllow]
  simp only [entryAdmits_iff_plainly ho, shouldAdmit_iff_plainly]
  exact exists_or_iff_exists_or_iff fun h => not_dotted_and_bracketed ho h

/-- A parser of one text. -/
def oneUrl (text : String) (u : Url) : UrlParser :=
  fun s => if s = text then some u else none

theorem oneUrl_lawful {text host : String} (hcolon : ':' ∉ host.toList) (hne : host ≠ "") :
    (oneUrl text ⟨"https", some host, none⟩).Lawful := by
  have hu : ∀ s u, oneUrl text ⟨"https", some host, none⟩ s = some u →
      u = ⟨"https", some host, none⟩ := by
    intro s u h
    rw [oneUrl] at h
    split at h
    · exact (Option.some.inj h).symm
    · cases h
  have hscheme : ':' ∉ "https".toList ∧ lowercase "https".toList = "https".toList := by decide
  constructor
  · intro s u h
    rw [hu s u h]
    exact hscheme.1
  · intro s u h
    rw [hu s u h]
    exact hscheme.2
  · intro s u host' h hhost hmem
    rw [hu s u h] at hhost
    cases hhost
    exact absurd hmem hcolon
  · intro s u h hhost
    rw [hu s u h] at hhost
    exact absurd (Option.some.inj hhost) hne

/-- `https://*.example.com:443` admits `https://app.example.com`. -/
theorem origins_exact_app :
    isOriginAllowedForProject
        (oneUrl "https://app.example.com" ⟨"https", some "app.example.com", none⟩)
        (some ["https://*.example.com:443"]) "https://app.example.com" = true ↔
      ShouldAllow (hostOrigin "https://app.example.com" ⟨"https", some "app.example.com", none⟩
        "app.example.com") (["https://*.example.com:443"].map readEntry) := by
  refine (origins_exact_iff _ (oneUrl_lawful (by decide) (by decide)) _ _ _ _ (if_pos rfl) rfl).mpr
    (.inr (.inl ⟨_, List.mem_cons_self, .inr (.inl ?_)⟩))
  refine ⟨"*.example.com".toList, some "443".toList,
    ⟨⟨[], rfl, .inl rfl⟩, by decide, by decide, ?_⟩,
    ⟨by decide, .wildcard "app".toList "example.com".toList (by decide)⟩, ?_⟩
  · rintro p hp
    cases hp
    decide
  · rintro p hp
    cases hp
    exact ⟨443, by decide, rfl⟩

/-- `https://*.example.com` admits `https://.example.com`, where the wildcard stands for nothing. -/
theorem not_origins_exact : ¬ ∀ (parse : UrlParser) (_ : parse.Lawful) (entries : List String)
    (origin : String) (u : Url) (host : String), parse origin = some u → u.host = some host →
      (isOriginAllowedForProject parse (some entries) origin = true ↔
        ShouldAllow (hostOrigin origin u host) (entries.map readEntry)) := by
  intro h
  have hallowed := (h (oneUrl "https://.example.com" ⟨"https", some ".example.com", none⟩)
    (oneUrl_lawful (by decide) (by decide)) ["https://*.example.com"] "https://.example.com" _ _
    (if_pos rfl) rfl).mp (by decide)
  have hentry : readEntry "https://*.example.com" =
      "https".toList ++ (schemeSeparator ++ "*.example.com".toList) := by decide
  rcases hallowed with hdefault | ⟨entry, hmem, htext | hfull | ⟨hseparator, -⟩⟩
  · exact absurd hdefault (by decide)
  all_goals
    obtain rfl := List.mem_singleton.mp hmem
  · exact absurd htext (by decide)
  · obtain ⟨pattern, port, hfull, hmatches, -⟩ := hfull
    obtain ⟨-, hrest⟩ := (fullEntry_iff hentry).mp hfull
    have hcolon : ':' ∉ pattern ++ port.elim [] (':' :: ·) := hrest ▸ by decide
    cases port with
    | some p => exact absurd (by simp) hcolon
    | none =>
      rw [Option.elim_none, List.append_nil] at hrest
      subst hrest
      exact DottedHost.not_patternMatches ⟨"example.com".toList, by decide, by decide⟩ hmatches
  · exact hseparator ⟨_, _, by rw [hentry, List.append_assoc]⟩

end BlockchainApi
