/-
  Names that can be registered (`is_name_format_correct`, `is_name_length_correct` and
  `is_name_in_allowed_zones`, `src/names/utils.rs`).

  Each check looks at the name in its own way: at its characters, at the bytes of the first of
  exactly three parts, at the other two parts.  Together they accept a label of three to sixty-four
  small letters, digits and hyphens, with a dot and an allowed zone behind it
  (`registrable_names_iff`).

  1. **The grammar** is `IsRegistrable`, stated without the checks.  An allowed zone is taken as it
     is configured, two labels with one dot between them.

  2. **The checks** are brought to the three parts of the name one by one; a label is as long in
     bytes as in characters, since its characters are ASCII (`byteLength_of_isLabelChar`).

  3. **The table.** The constraint of the table asks for less, so what is registrable can be stored
     if the zone is short enough (`insertNameRow_of_isRegistrable`).

  Uniqueness is up to the table: a second row of a name is what is refused.
-/
import BlockchainApi.Lib.Delimited
import BlockchainApi.Names.Profile
import BlockchainApi.Utils.Caip2

namespace BlockchainApi

open Delimited

/-- The three checks, in the order of the handler. -/
def isNameAccepted (name : String) (allowedZones : List String) : Bool :=
  isNameFormatCorrect name && isNameLengthCorrect name && isNameInAllowedZones name allowedZones

/-- A small letter, a digit or a hyphen. -/
def IsLabelChar (c : Char) : Prop := ('a' ≤ c ∧ c ≤ 'z') ∨ ('0' ≤ c ∧ c ≤ '9') ∨ c = '-'

/-- A zone of two labels, with one dot between them. -/
def IsZone (zone : String) : Prop :=
  ∃ domain tld, zone.toList = domain ++ '.' :: tld ∧
    (∀ c ∈ domain, IsLabelChar c) ∧ ∀ c ∈ tld, IsLabelChar c

/-- **A name that can be registered**: a label, a dot and a zone. -/
structure IsRegistrable (allowedZones : List String) (name label zone : String) : Prop where
  name_eq : name = label ++ "." ++ zone
  isLabel : Run IsLabelChar 3 64 label.toList
  isZone : IsZone zone
  mem_allowedZones : zone ∈ allowedZones

variable {name : String} {allowedZones : List String} {s : List Char} {c : Char}

/-! ## Characters: those of a label, and the dot between labels -/

theorem isNameChar_iff : isNameChar c = true ↔ IsLabelChar c ∨ c = '.' := by
  rw [isNameChar, IsLabelChar, Bool.or_eq_true, Bool.or_eq_true, Bool.or_eq_true, beq_iff_eq,
    beq_iff_eq, isDigit_iff, Bool.and_eq_true, decide_eq_true_eq, decide_eq_true_eq]
  tauto

/-- A dot is no character of a label. -/
theorem not_isLabelChar_dot : ¬ IsLabelChar '.' := by
  unfold IsLabelChar
  decide

/-- A label is as long in bytes as in characters. -/
theorem byteLength_of_isLabelChar (h : ∀ c ∈ s, IsLabelChar c) : byteLength s = s.length := by
  have hsize : ∀ c, IsLabelChar c → (String.utf8EncodeChar c).length = 1 := by
    intro c hc
    rw [String.length_utf8EncodeChar, Char.utf8Size_eq_one_iff]
    rcases hc with ⟨-, hle⟩ | ⟨-, hle⟩ | rfl
    · exact UInt32.le_trans hle (by decide)
    · exact UInt32.le_trans hle (by decide)
    · decide
  have hbytes : byteLength s = (s.flatMap String.utf8EncodeChar).length := by
    rw [byteLength, ← toUTF8_ofList]
    rfl
  rw [hbytes, List.length_flatMap, List.map_congr_left fun c hc => hsize c (h c hc),
    List.map_const', List.sum_replicate_nat, Nat.mul_one]

/-! ## The three checks, on the three parts of a name -/

/-- Exactly three parts. -/
theorem nameParts_eq_triple_iff {label domain tld : List Char} :
    nameParts name = [label, domain, tld] ↔
      '.' ∉ label ∧ '.' ∉ domain ∧ '.' ∉ tld ∧
        name.toList = label ++ '.' :: (domain ++ '.' :: tld) :=
  splitOn_eq_triple_iff

/-- The characters of three parts. -/
theorem isNameFormatCorrect_iff {label domain tld : List Char}
    (hparts : nameParts name = [label, domain, tld]) :
    isNameFormatCorrect name = true ↔
      (∀ c ∈ label, IsLabelChar c) ∧ (∀ c ∈ domain, IsLabelChar c) ∧ ∀ c ∈ tld, IsLabelChar c := by
  obtain ⟨hlabel, hdomain, htld, htext⟩ := nameParts_eq_triple_iff.mp hparts
  rw [isNameFormatCorrect, Bool.and_eq_true, decide_eq_true_eq, List.all_eq_true, htext]
  constructor
  · rintro ⟨-, hchars⟩
    -- what is in a part, and no dot, is a character of a label
    have hpart : ∀ c ∈ label ++ '.' :: (domain ++ '.' :: tld), c ≠ '.' → IsLabelChar c :=
      fun c hc hdot => (isNameChar_iff.mp (hchars c hc)).resolve_right hdot
    exact ⟨fun c hc => hpart c (by simp [hc]) fun hdot => hlabel (hdot ▸ hc),
      fun c hc => hpart c (by simp [hc]) fun hdot => hdomain (hdot ▸ hc),
      fun c hc => hpart c (by simp [hc]) fun hdot => htld (hdot ▸ hc)⟩
  · rintro ⟨hlabel, hdomain, htld⟩
    refine ⟨by simp, fun c hc => isNameChar_iff.mpr ?_⟩
    simp only [List.mem_append, List.mem_cons] at hc
    rcases hc with hc | rfl | hc | rfl | hc
    · exact .inl (hlabel c hc)
    · exact .inr rfl
    · exact .inl (hdomain c hc)
    · exact .inr rfl
    · exact .inl (htld c hc)

/-- The length of the first of three parts. -/
theorem isNameLengthCorrect_iff : isNameLengthCorrect name = true ↔
    ∃ label domain tld, nameParts name = [label, domain, tld] ∧
      3 ≤ byteLength label ∧ byteLength label ≤ 64 := by
  rw [isNameLengthCorrect]
  constructor
  · intro h
    split at h
    · rename_i label domain tld hparts
      rw [Bool.and_eq_true, decide_eq_true_eq, decide_eq_true_eq] at h
      exact ⟨label, domain, tld, hparts, h⟩
    · cases h
  · rintro ⟨label, domain, tld, hparts, hlength⟩
    rw [hparts]
    dsimp only
    rw [Bool.and_eq_true, decide_eq_true_eq, decide_eq_true_eq]
    exact hlength

/-- **What is accepted**: three parts of the right characters, a label of the right length, and an
    allowed zone. -/
theorem isNameAccepted_iff : isNameAccepted name allowedZones = true ↔
    ∃ label domain tld, name.toList = label ++ '.' :: (domain ++ '.' :: tld) ∧
      Run IsLabelChar 3 64 label ∧ (∀ c ∈ domain, IsLabelChar c) ∧ (∀ c ∈ tld, IsLabelChar c) ∧
        String.ofList domain ++ "." ++ String.ofList tld ∈ allowedZones := by
  rw [isNameAccepted, Bool.and_eq_true, Bool.and_eq_true]
  constructor
  · rintro ⟨⟨hformat, hlength⟩, hzone⟩
    obtain ⟨label, domain, tld, hparts, hlength⟩ := isNameLengthCorrect_iff.mp hlength
    obtain ⟨hlabel, hdomain, htld⟩ := (isNameFormatCorrect_iff hparts).mp hformat
    obtain ⟨-, -, -, htext⟩ := nameParts_eq_triple_iff.mp hparts
    rw [byteLength_of_isLabelChar hlabel] at hlength
    rw [isNameInAllowedZones, hparts] at hzone
    exact ⟨label, domain, tld, htext, ⟨hlength.1, hlength.2, hlabel⟩, hdomain, htld,
      List.contains_iff_mem.mp hzone⟩
  · rintro ⟨label, domain, tld, htext, hlabel, hdomain, htld, hzone⟩
    have hnotMem : ∀ {part : List Char}, (∀ c ∈ part, IsLabelChar c) → '.' ∉ part :=
      fun h hdot => not_isLabelChar_dot (h '.' hdot)
    have hparts : nameParts name = [label, domain, tld] := nameParts_eq_triple_iff.mpr
      ⟨hnotMem hlabel.all, hnotMem hdomain, hnotMem htld, htext⟩
    refine ⟨⟨(isNameFormatCorrect_iff hparts).mpr ⟨hlabel.all, hdomain, htld⟩,
      isNameLengthCorrect_iff.mpr ⟨label, domain, tld, hparts, ?_⟩⟩, ?_⟩
    · rw [byteLength_of_isLabelChar hlabel.all]
      exact ⟨hlabel.least_le, hlabel.le_most⟩
    · rw [isNameInAllowedZones, hparts]
      exact List.contains_iff_mem.mpr hzone

/-- The three parts of a registrable name. -/
theorem exists_isRegistrable_iff : (∃ label zone, IsRegistrable allowedZones name label zone) ↔
    ∃ label domain tld, name.toList = label ++ '.' :: (domain ++ '.' :: tld) ∧
      Run IsLabelChar 3 64 label ∧ (∀ c ∈ domain, IsLabelChar c) ∧ (∀ c ∈ tld, IsLabelChar c) ∧
        String.ofList domain ++ "." ++ String.ofList tld ∈ allowedZones := by
  have hjoin : ∀ s t : String, (s ++ "." ++ t).toList = s.toList ++ '.' :: t.toList := by simp
  constructor
  · rintro ⟨label, zone, rfl, hlabel, ⟨domain, tld, htext, hdomain, htld⟩, hmem⟩
    refine ⟨label.toList, domain, tld, by rw [hjoin, htext], hlabel, hdomain, htld, ?_⟩
    have hzone : zone = String.ofList domain ++ "." ++ String.ofList tld := by
      rw [← String.toList_inj, hjoin, String.toList_ofList, String.toList_ofList, htext]
    exact hzone ▸ hmem
  · rintro ⟨label, domain, tld, htext, hlabel, hdomain, htld, hmem⟩
    refine ⟨String.ofList label, String.ofList domain ++ "." ++ String.ofList tld, ?_, ?_,
      ⟨domain, tld, ?_, hdomain, htld⟩, hmem⟩
    · rw [← String.toList_inj, hjoin, hjoin, htext]
      simp only [String.toList_ofList]
    · rwa [String.toList_ofList]
    · rw [hjoin, String.toList_ofList, String.toList_ofList]

/-! ## The table, which asks for less -/

/-- What the table asks of a name: `VARCHAR(255)` and `ens_name_standard`. -/
def SatisfiesNameConstraints (name : String) : Prop :=
  isVarchar 255 name = true ∧ name.toList.all isNameChar = true

/-- A registrable name in a zone that is short enough can be stored. -/
theorem IsRegistrable.satisfiesNameConstraints {label zone : String}
    (h : IsRegistrable allowedZones name label zone) (hshort : zone.length ≤ 190) :
    SatisfiesNameConstraints name := by
  have hlabel : label.length ≤ 64 := h.isLabel.le_most
  constructor
  · rw [isVarchar, h.name_eq, decide_eq_true_eq, String.length_append, String.length_append]
    have hdot : ".".length = 1 := rfl
    omega
  · have haccepted := isNameAccepted_iff.mpr (exists_isRegistrable_iff.mp ⟨label, zone, h⟩)
    rw [isNameAccepted, Bool.and_eq_true, Bool.and_eq_true] at haccepted
    exact (Bool.and_eq_true_iff.mp haccepted.1.1).2

/-- **Registrable names.** The three checks accept exactly a label and an allowed zone; and what
    they accept can be stored, if the zone is short enough. -/
theorem registrable_names_iff (name : String) (allowedZones : List String) :
    (isNameAccepted name allowedZones = true ↔
        ∃ label zone, IsRegistrable allowedZones name label zone) ∧
      ∀ label zone, IsRegistrable allowedZones name label zone → zone.length ≤ 190 →
        SatisfiesNameConstraints name :=
  ⟨isNameAccepted_iff.trans exists_isRegistrable_iff.symm,
    fun _ _ h hshort => h.satisfiesNameConstraints hshort⟩

theorem registrable_names_alice :
    isNameAccepted "alice.wct.id" ["wct.id"] = true ∧ SatisfiesNameConstraints "alice.wct.id" := by
  have halice := registrable_names_iff "alice.wct.id" ["wct.id"]
  have haccepted : isNameAccepted "alice.wct.id" ["wct.id"] = true := by decide
  obtain ⟨label, zone, h⟩ := halice.1.mp haccepted
  have hzone : zone = "wct.id" := List.mem_singleton.mp h.mem_allowedZones
  exact ⟨haccepted, halice.2 label zone h (by rw [hzone]; decide)⟩

/-! ## Registrations: what the endpoint lets through -/

variable {svc : NamesService} {request : RegisterRequest} {payload : RegisterPayload}

/-- **A registration that passes the checks** is of a registrable name. -/
theorem exists_isRegistrable_of_registerChecks (h : svc.registerChecks request = .ok payload) :
    ∃ zones label zone, svc.allowedZones = some zones ∧
      IsRegistrable zones payload.name label zone := by
  simp only [NamesService.registerChecks, Outcome.bind_eq_ok, Outcome.ensure_eq_ok,
    Outcome.okOr_eq_ok, Outcome.ofExcept_eq_ok, Outcome.pure_eq, Outcome.ok.injEq] at h
  obtain ⟨zones, hzones, parsed, -, -, hformat, -, hlength, -, hzone, -, -, rfl⟩ := h
  have haccepted : isNameAccepted parsed.name zones = true := by
    rw [isNameAccepted, hformat, hlength, hzone]
    rfl
  obtain ⟨label, zone, hname⟩ := exists_isRegistrable_iff.mpr (isNameAccepted_iff.mp haccepted)
  exact ⟨zones, label, zone, hzones, hname⟩

/-- Of such a name, in a zone that is short enough, the table refuses a second row alone. -/
theorem insertNameRow_of_isRegistrable {zones : List String} {label zone : String} {s : Store}
    {now : Nat} {attributes : Attributes} (h : IsRegistrable zones name label zone)
    (hshort : zone.length ≤ 190) :
    (∃ s', s.insertNameRow now name attributes = .ok s') ↔ s.names.has name = false := by
  obtain ⟨hvarchar, hchars⟩ := h.satisfiesNameConstraints hshort
  constructor
  · rintro ⟨s', hs'⟩
    obtain ⟨-, -, habsent, -⟩ := Store.insertNameRow_eq_ok.mp hs'
    exact habsent
  · intro habsent
    exact ⟨_, Store.insertNameRow_eq_ok.mpr ⟨hvarchar, hchars, habsent, rfl⟩⟩

end BlockchainApi
