/-
  How attributes are stored (`hashmap_to_hstore`, `src/database/utils.rs`).

  The map is written as the text of an `hstore`, each key and value between double quotes, as they
  are: nothing is escaped.  The database reads the text by the machine of `Lib/Hstore`.

  1. **The text** is the form of the entries in which all words are in quotes
     (`toList_hashmapToHstore`), in whatever order the map was walked.

  2. **Reading it back.** The map comes back if no key or value has a quote or a backslash in it
     (`storedHstore_hashmapToHstore`): clean pairs are read as they were written, and of the pairs
     with one key there is one.

  3. **The check.** The patterns of the supported attributes admit neither of the two characters
     (`cleanAttributes_of_checkAttributes`), so every map that the endpoints write is stored as it
     is (`attributes_survive_storage`, `cleanAttributes_of_decision`).
-/
import BlockchainApi.Lib.Hstore
import BlockchainApi.Names.Authorization

namespace BlockchainApi

/-- `hashmap_to_hstore`. -/
def hashmapToHstore (walk : HashMap.Walk String String) (hashmap : Attributes) : String :=
  ", ".intercalate ((walk.entries hashmap).map fun e => "\"" ++ e.1 ++ "\" => \"" ++ e.2 ++ "\"")

/-- The value that the database stores for a text, as a function of the key: no value, or null, or
    a text. -/
def storedHstore (text : String) : Except Hstore.Error (String → Option (Option String)) := do
  let pairs ← Hstore.parse text.toList
  return fun key => (Hstore.lookup key.toList pairs).map (·.map String.ofList)

/-- No key or value has a double quote or a backslash. -/
def CleanAttributes (attributes : Attributes) : Prop :=
  ∀ e ∈ attributes.entries, Hstore.Clean e.1.toList ∧ Hstore.Clean e.2.toList

variable {attributes : Attributes}

/-! ## The text, and what the database makes of it -/

/-- The characters of an entry. -/
def entryChars (e : String × String) : List Char × List Char := (e.1.toList, e.2.toList)

/-- The text is the form of the entries in which all words are in quotes. -/
theorem toList_hashmapToHstore (walk : HashMap.Walk String String) (attributes : Attributes) :
    (hashmapToHstore walk attributes).toList =
      Hstore.render ((walk.entries attributes).map entryChars) := by
  rw [hashmapToHstore, Hstore.render, String.toList_intercalate, List.map_map, List.map_map]
  congr 1
  refine List.map_congr_left fun e _ => ?_
  simp [entryChars, Hstore.renderPair, Hstore.quote]

/-- What is looked up in the pairs of some entries is the first of them with that key. -/
theorem lookup_entryChars (entries : List (String × String)) (key : String) :
    (Hstore.lookup key.toList ((entries.map entryChars).map fun p => (p.1, some p.2))).map
        (·.map String.ofList) =
      ((entries.find? fun e => e.1 = key).map Prod.snd).map some := by
  induction entries with
  | nil => rfl
  | cons e entries ih =>
    rw [Hstore.lookup] at ih ⊢
    by_cases hkey : e.1 = key
    · rw [List.map_cons, List.map_cons, List.find?_cons_of_pos (by simp [entryChars, hkey]),
        List.find?_cons_of_pos (by simpa using hkey)]
      simp [entryChars]
    · have hne : (entryChars e).1 ≠ key.toList := fun h => hkey (String.toList_inj.mp h)
      rw [List.map_cons, List.map_cons, List.find?_cons_of_neg (by simpa using hne),
        List.find?_cons_of_neg (by simpa using hkey), ih]

/-- **A clean map is stored as it is**, in whatever order it is walked. Keys are different, so
    the order of the pairs makes no difference to what the database keeps. -/
theorem storedHstore_hashmapToHstore (walk : HashMap.Walk String String)
    (h : CleanAttributes attributes) :
    ∃ stored, storedHstore (hashmapToHstore walk attributes) = .ok stored ∧
      ∀ key, stored key = (attributes.lookup key).map some := by
  have hclean : ∀ p ∈ (walk.entries attributes).map entryChars,
      Hstore.Clean p.1 ∧ Hstore.Clean p.2 := by
    intro p hp
    obtain ⟨e, he, rfl⟩ := List.mem_map.mp hp
    exact h ⟨e.1, e.2⟩ (AList.mem_lookup_iff.mp (walk.mem_entries.mp he))
  have hparse := Hstore.parse_render hclean
  rw [← toList_hashmapToHstore] at hparse
  refine ⟨_, by rw [storedHstore, hparse]; rfl, fun key => ?_⟩
  rw [lookup_entryChars, walk.find?_entries]

/-! ## The check: what it accepts needs no escaping -/

/-- **What the check accepts** is clean. -/
theorem cleanAttributes_of_checkAttributes
    (h : checkAttributes attributes supportedAttributes attributesValueMaxLength = true) :
    CleanAttributes attributes := by
  have hclass : ∀ {c : Char}, c = '"' ∨ c = '\\' → isBioChar c = false := by
    rintro c (rfl | rfl) <;> decide
  intro e he
  have hentry := List.all_eq_true.mp h e he
  split at hentry
  · cases hentry
  · rename_i isMatch hlookup
    obtain ⟨hkey, rfl⟩ := Prod.mk.inj
      (List.mem_singleton.mp (HashMap.mem_of_lookup_ofPairs hlookup))
    rw [Bool.and_eq_true, Bool.and_eq_true] at hentry
    have hbio := List.all_eq_true.mp (Bool.and_eq_true_iff.mp hentry.2).2
    have hnot : ∀ c, c = '"' ∨ c = '\\' → c ∉ e.2.toList := by
      intro c hc hmem
      have := hbio c hmem
      rw [hclass hc] at this
      cases this
    rw [hkey]
    exact ⟨⟨by decide, by decide⟩, hnot _ (.inl rfl), hnot _ (.inr rfl)⟩

/-- **Attributes survive storage.**  A map without quotes and backslashes is read by the database as
    exactly that map, whatever the order in which it was written; and every map that the check
    accepts is such a map. -/
theorem attributes_survive_storage (walk : HashMap.Walk String String) (attributes : Attributes) :
    (CleanAttributes attributes →
        ∃ stored, storedHstore (hashmapToHstore walk attributes) = .ok stored ∧
          ∀ key, stored key = (attributes.lookup key).map some) ∧
      (checkAttributes attributes supportedAttributes attributesValueMaxLength = true →
        CleanAttributes attributes) :=
  ⟨storedHstore_hashmapToHstore walk, cleanAttributes_of_checkAttributes⟩

theorem attributes_survive_storage_bio :
    ∃ stored, storedHstore (hashmapToHstore .inOrder (HashMap.ofPairs [("bio", "x=1 null")])) =
        .ok stored ∧
      ∀ key, stored key = ((HashMap.ofPairs [("bio", "x=1 null")]).lookup key).map some := by
  have hsurvive :=
    attributes_survive_storage .inOrder (HashMap.ofPairs [("bio", "x=1 null")])
  exact hsurvive.1 (hsurvive.2 (by decide))

/-! ## The endpoints, which check before they write -/

/-- The attributes that an operation writes. -/
def NameOperation.attributes? : NameOperation → Option Attributes
  | .register _ attributes _ | .updateAttributes _ attributes => some attributes
  | .updateAddress _ _ _ => none

variable {svc : NamesService} {verify : Verify} {pool : Pool} {s : Store} {now : UInt64}
  {request : RegisterRequest} {endpoint : NamesService.NameEndpoint} {op : NameOperation}

/-- **What the endpoints write** is clean, so it is stored as it is. -/
theorem cleanAttributes_of_decision
    (h : svc.decision verify pool s now request endpoint = .ok op)
    (hattributes : op.attributes? = some attributes) : CleanAttributes attributes := by
  cases endpoint with
  | register =>
    obtain ⟨payload, -, -, hauthorize, rfl⟩ := NamesService.registerDecision_eq_ok.mp h
    simp only [NamesService.registerAuthorize, Outcome.bind_eq_ok, Outcome.ensure_eq_ok]
      at hauthorize
    obtain ⟨-, -, -, hchecked, -⟩ := hauthorize
    cases Option.some.inj hattributes
    cases hpayload : payload.attributes with
    | none => exact fun e he => absurd he List.not_mem_nil
    | some attributes =>
      rw [hpayload] at hchecked
      exact cleanAttributes_of_checkAttributes hchecked
  | updateAddress name =>
    obtain ⟨payload, -, -, rfl⟩ := NamesService.updateAddressDecision_eq_ok.mp h
    cases hattributes
  | updateAttributes name =>
    obtain ⟨payload, found, owner, a, -, -, -, -, -, -, -, -, -, hchecked, rfl⟩ :=
      NamesService.updateAttributesDecision_eq_ok.mp h
    cases Option.some.inj hattributes
    exact cleanAttributes_of_checkAttributes hchecked

end BlockchainApi
