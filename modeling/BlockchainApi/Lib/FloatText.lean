/-
  Floating-point numbers as texts.

  A text is a sign, which may be missing, and then a word for something that is no finite number, in
  any case of letters, or a decimal number with an exponent, which may be missing too.

  1. **The reader** (`read`) takes the text apart as a parser does: the sign, then a word or the
     mantissa up to the mark of an exponent, then the exponent.

  2. **The grammar** (`Spells`) says the same without a direction: which texts there are, and what
     each of them says.  It is built from the parts of a text, so statements about all texts that
     can be read go by its constructors.

  3. **They agree** (`read_eq_some_iff`).  From left to right, each part that was read has the shape
     the grammar asks for; from right to left, the parts of the grammar never run into each other:
     no digit is a sign, no mantissa has a mark of an exponent in it, and no number is a word.

  What a number stands for is exact here (`value`): it is not rounded, and not too large or too
  small for anything.  Whoever reads such a text into a format with a precision and a range still
  has to round it, and to say what becomes of a number outside the range.
-/
import BlockchainApi.Lib.DecimalText
import Mathlib.Algebra.Order.Field.Power

open Decimals Delimited

/-- What a text says. -/
inductive FloatText where
  | nan
  | infinite (negative : Bool)
  | number (mantissa : DecimalText) (exponent : Int)
  deriving DecidableEq

namespace FloatText

/-! ## The reader: a sign, and then a word or a number with an exponent -/

/-- The sign, and what stands behind it. -/
def readSign : List Char → Bool × List Char
  | '+' :: body => (false, body)
  | '-' :: body => (true, body)
  | body => (false, body)

/-- `e` or `E`. -/
def isExponentMark (c : Char) : Bool := c = 'e' || c = 'E'

/-- An exponent behind its mark: a sign and digits. -/
def readExponent (s : List Char) : Option Int :=
  let (negative, digits) := readSign s
  if digits ≠ [] ∧ digits.all Char.isDigit = true then
    some (if negative then -(Nat.ofDigitChars 10 digits 0 : Int)
      else (Nat.ofDigitChars 10 digits 0 : Int))
  else none

/-- A number behind its sign. -/
def readNumber (negative : Bool) (body : List Char) : Option FloatText := do
  let mantissa ← DecimalText.readDigits negative (body.takeWhile fun c => !isExponentMark c)
  match body.dropWhile fun c => !isExponentMark c with
  | [] => return .number mantissa 0
  | _ :: exponent => return .number mantissa (← readExponent exponent)

/-- Read a text. -/
def read (s : List Char) : Option FloatText :=
  let (negative, body) := readSign s
  let lower := body.map Char.toLower
  if lower = "inf".toList ∨ lower = "infinity".toList then some (.infinite negative)
  else if lower = "nan".toList then some .nan
  else readNumber negative body

/-! ## The grammar

One constructor for each kind of text. What a text says is part of the relation, so that two
readings of one text can be compared. -/

/-- A sign that may be missing. -/
inductive IsSign : List Char → Bool → Prop where
  | missing : IsSign [] false
  | plus : IsSign ['+'] false
  | minus : IsSign ['-'] true

/-- An exponent that may be missing. -/
inductive IsExponent : List Char → Int → Prop where
  | missing : IsExponent [] 0
  | mark {c : Char} {sign digits : List Char} {negative : Bool}
      (hmark : isExponentMark c = true) (hsign : IsSign sign negative) (hne : digits ≠ [])
      (hall : digits.all Char.isDigit = true) :
      IsExponent (c :: (sign ++ digits))
        (if negative then -(Nat.ofDigitChars 10 digits 0 : Int)
          else (Nat.ofDigitChars 10 digits 0 : Int))

/-- Digits, with a point among them or not. -/
def IsMantissa (s : List Char) (t : DecimalText) : Prop :=
  s = t.whole ∧ t.fraction = [] ∨ s = t.whole ++ '.' :: t.fraction

/-- **The texts**, and what they say. A word may be written in any case of letters; a number has
    at least one digit in its mantissa. -/
inductive Spells : List Char → FloatText → Prop where
  | nan {sign word : List Char} {negative : Bool} (hsign : IsSign sign negative)
      (hword : word.map Char.toLower = "nan".toList) : Spells (sign ++ word) .nan
  | infinite {sign word : List Char} {negative : Bool} (hsign : IsSign sign negative)
      (hword : word.map Char.toLower = "inf".toList ∨
        word.map Char.toLower = "infinity".toList) : Spells (sign ++ word) (.infinite negative)
  | number {sign mantissa exponent : List Char} {t : DecimalText} {e : Int}
      (hsign : IsSign sign t.negative) (hmantissa : IsMantissa mantissa t)
      (hexponent : IsExponent exponent e) :
      Spells (sign ++ (mantissa ++ exponent)) (.number t e)

/-- What a number stands for: the digits of its mantissa with the point moved by the exponent, as
    an exact rational number. -/
def value (mantissa : DecimalText) (exponent : Int) : ℚ := mantissa.value * 10 ^ exponent

variable {s body sign digits : List Char} {negative : Bool} {t : DecimalText} {e : Int}

/-! ## Signs: they come off, because nothing else begins with one -/

/-- A sign is taken off, if what stands behind it does not begin with another one. -/
theorem readSign_append (hsign : IsSign sign negative)
    (hbody : body.head? ≠ some '+' ∧ body.head? ≠ some '-') :
    readSign (sign ++ body) = (negative, body) := by
  cases hsign with
  | plus => rfl
  | minus => rfl
  | missing =>
    rw [List.nil_append]
    unfold readSign
    split
    · exact absurd rfl hbody.1
    · exact absurd rfl hbody.2
    · rfl

theorem exists_sign (s : List Char) :
    ∃ sign, IsSign sign (readSign s).1 ∧ s = sign ++ (readSign s).2 := by
  unfold readSign
  split
  · exact ⟨_, .plus, rfl⟩
  · exact ⟨_, .minus, rfl⟩
  · exact ⟨_, .missing, rfl⟩

/-- Digits do not begin with a sign. -/
theorem head?_ne_sign (hall : digits.all Char.isDigit = true) :
    digits.head? ≠ some '+' ∧ digits.head? ≠ some '-' :=
  ⟨fun h => DecimalText.notMem_of_all_isDigit hall (by decide) (List.mem_of_head? h),
    fun h => DecimalText.notMem_of_all_isDigit hall (by decide) (List.mem_of_head? h)⟩

/-! ## Exponents: a mark, a sign that may be missing, and digits -/

theorem readExponent_append (hsign : IsSign sign negative) (hne : digits ≠ [])
    (hall : digits.all Char.isDigit = true) :
    readExponent (sign ++ digits) = some (if negative then -(Nat.ofDigitChars 10 digits 0 : Int)
      else (Nat.ofDigitChars 10 digits 0 : Int)) := by
  rw [readExponent, readSign_append hsign (head?_ne_sign hall)]
  exact if_pos ⟨hne, hall⟩

theorem isExponent_of_readExponent {c : Char} (hmark : isExponentMark c = true)
    (h : readExponent s = some e) : IsExponent (c :: s) e := by
  obtain ⟨sign, hsign, happend⟩ := exists_sign s
  rw [readExponent] at h
  split at h
  · next negative digits hread =>
    rw [hread] at hsign happend
    split at h
    · next hdigits =>
      cases h
      rw [happend]
      exact .mark hmark hsign hdigits.1 hdigits.2
    · cases h

/-! ## Mantissas: digits with at most one point among them -/

end FloatText

namespace DecimalText

variable {whole fraction body : List Char} {negative : Bool} {t : DecimalText}

theorem ofParts_eq_some_iff : ofParts negative whole fraction = some t ↔
    t.negative = negative ∧ t.whole = whole ∧ t.fraction = fraction := by
  rw [ofParts]
  constructor
  · intro h
    split at h
    · cases h
      exact ⟨rfl, rfl, rfl⟩
    · cases h
  · rintro ⟨rfl, rfl, rfl⟩
    exact dif_pos ⟨t.ne_nil, t.isDigit⟩

theorem dot_notMem (t : DecimalText) : '.' ∉ t.whole ∧ '.' ∉ t.fraction := by
  have hnotMem : '.' ∉ t.whole ++ t.fraction := notMem_of_all_isDigit t.isDigit (by decide)
  rwa [List.mem_append, not_or] at hnotMem

/-- **The digits behind a sign**, with one point or none; on one side of the point they may be
    missing. -/
theorem readDigits_eq_some_iff : readDigits negative body = some t ↔
    t.negative = negative ∧ FloatText.IsMantissa body t := by
  rw [readDigits, FloatText.IsMantissa]
  constructor
  · intro h
    split at h
    · next whole hsplit =>
      obtain ⟨hnegative, rfl, hfraction⟩ := ofParts_eq_some_iff.mp h
      exact ⟨hnegative, .inl ⟨(splitOn_eq_singleton_iff.mp hsplit).2, hfraction⟩⟩
    · next whole fraction hsplit =>
      obtain ⟨hnegative, rfl, rfl⟩ := ofParts_eq_some_iff.mp h
      exact ⟨hnegative, .inr (splitOn_eq_pair_iff.mp hsplit).2.2⟩
    · cases h
  · rintro ⟨hnegative, ⟨rfl, hfraction⟩ | rfl⟩
    · rw [splitOn_eq_singleton_iff.mpr ⟨t.dot_notMem.1, rfl⟩]
      exact ofParts_eq_some_iff.mpr ⟨hnegative, rfl, hfraction⟩
    · rw [splitOn_eq_pair_iff.mpr ⟨t.dot_notMem.1, t.dot_notMem.2, rfl⟩]
      exact ofParts_eq_some_iff.mpr ⟨hnegative, rfl, rfl⟩

end DecimalText

namespace FloatText

variable {s body sign mantissa exponent : List Char} {negative : Bool} {t : DecimalText} {e : Int}

/-- A mantissa has digits and points only. -/
theorem IsMantissa.mem (h : IsMantissa mantissa t) {c : Char} (hc : c ∈ mantissa) :
    c.isDigit = true ∨ c = '.' := by
  have hdigit : ∀ d ∈ t.whole ++ t.fraction, d.isDigit = true := List.all_eq_true.mp t.isDigit
  rcases h with ⟨rfl, -⟩ | rfl
  · exact .inl (hdigit c (List.mem_append_left _ hc))
  · rcases List.mem_append.mp hc with hwhole | htail
    · exact .inl (hdigit c (List.mem_append_left _ hwhole))
    · rcases List.mem_cons.mp htail with rfl | hfraction
      · exact .inr rfl
      · exact .inl (hdigit c (List.mem_append_right _ hfraction))

theorem IsMantissa.ne_nil (h : IsMantissa mantissa t) : mantissa ≠ [] := by
  rcases h with ⟨rfl, hfraction⟩ | rfl
  · intro hnil
    exact t.ne_nil (by rw [hnil, hfraction]; rfl)
  · simp

/-- No mark of an exponent is in it. -/
theorem IsMantissa.not_isExponentMark (h : IsMantissa mantissa t) :
    ∀ c ∈ mantissa, (!isExponentMark c) = true := by
  intro c hc
  rw [Bool.not_eq_true', Bool.eq_false_iff]
  intro hmark
  rw [isExponentMark, Bool.or_eq_true, decide_eq_true_eq, decide_eq_true_eq] at hmark
  rcases h.mem hc with hdigit | rfl
  · rcases hmark with rfl | rfl <;> cases hdigit
  · rcases hmark with hmark | hmark <;> cases hmark

/-! ## Numbers: a mantissa and an exponent, cut at the first mark -/

/-- What stands behind a mantissa begins with the mark of the exponent. -/
theorem IsExponent.head (h : IsExponent exponent e) :
    exponent = [] ∨ ∃ c rest, exponent = c :: rest ∧ isExponentMark c = true := by
  cases h with
  | missing => exact .inl rfl
  | mark hmark hsign hne hall => exact .inr ⟨_, _, rfl, hmark⟩

/-- **Numbers** are read by their parts. -/
theorem readNumber_append (hmantissa : IsMantissa mantissa t) (hexponent : IsExponent exponent e) :
    readNumber t.negative (mantissa ++ exponent) = some (.number t e) := by
  have htake : (mantissa ++ exponent).takeWhile (fun c => !isExponentMark c) = mantissa := by
    rw [List.takeWhile_append_of_pos hmantissa.not_isExponentMark]
    rcases hexponent.head with rfl | ⟨c, rest, rfl, hmark⟩
    · simp
    · simp [hmark]
  have hdrop : (mantissa ++ exponent).dropWhile (fun c => !isExponentMark c) = exponent := by
    rw [List.dropWhile_append_of_pos hmantissa.not_isExponentMark]
    rcases hexponent.head with rfl | ⟨c, rest, rfl, hmark⟩
    · simp
    · simp [hmark]
  rw [readNumber, htake, hdrop, DecimalText.readDigits_eq_some_iff.mpr ⟨rfl, hmantissa⟩]
  cases hexponent with
  | missing => rfl
  | mark hmark hsign hne hall =>
    simp only [Option.bind_eq_bind, Option.bind_some, readExponent_append hsign hne hall]
    rfl

theorem exists_of_readNumber {f : FloatText} (h : readNumber negative body = some f) :
    ∃ mantissa exponent t e, body = mantissa ++ exponent ∧ t.negative = negative ∧
      IsMantissa mantissa t ∧ IsExponent exponent e ∧ f = .number t e := by
  rw [readNumber] at h
  obtain ⟨t, ht, h⟩ := Option.bind_eq_some_iff.mp h
  obtain ⟨hnegative, hmantissa⟩ := DecimalText.readDigits_eq_some_iff.mp ht
  have happend := (List.takeWhile_append_dropWhile (p := fun c => !isExponentMark c)
    (l := body)).symm
  cases hdrop : body.dropWhile fun c => !isExponentMark c with
  | nil =>
    rw [hdrop] at h happend
    exact ⟨_, _, t, 0, happend, hnegative, hmantissa, .missing, (Option.some.inj h).symm⟩
  | cons c rest =>
    rw [hdrop] at h happend
    obtain ⟨e, he, h⟩ := Option.bind_eq_some_iff.mp h
    have hmark : isExponentMark c = true := by
      have hhead := List.head?_dropWhile_not (fun c => !isExponentMark c) body
      rw [hdrop] at hhead
      simpa using hhead
    exact ⟨_, _, t, e, happend, hnegative, hmantissa, isExponent_of_readExponent hmark he,
      (Option.some.inj h).symm⟩

/-! ## Words: what is no finite number, and is spelled with letters -/

theorem toLower_of_isDigit {c : Char} (h : c.isDigit = true) : c.toLower = c := by
  have hdigit : (decide ('0' ≤ c) && decide (c ≤ '9')) = true := h
  have hle : c.val ≤ '9'.val := of_decide_eq_true (Bool.and_eq_true_iff.mp hdigit).2
  exact dif_neg fun hupper => absurd (UInt32.le_trans hupper.1 hle) (by decide)

/-- A number is none of the words: its first character is a digit or a point, and lower case
    leaves both as they are. -/
theorem IsMantissa.map_toLower_ne (h : IsMantissa mantissa t) {c : Char} (hc : c.isDigit = false)
    (hdot : c ≠ '.') (rest : List Char) :
    (mantissa ++ exponent).map Char.toLower ≠ c :: rest := by
  cases hcons : mantissa with
  | nil => exact absurd hcons h.ne_nil
  | cons d mantissa =>
    rw [List.cons_append, List.map_cons]
    intro heq
    have hlower := (List.cons_eq_cons.mp heq).1
    rcases h.mem (hcons ▸ List.mem_cons_self ..) with hdigit | rfl
    · rw [toLower_of_isDigit hdigit] at hlower
      rw [← hlower, hdigit] at hc
      cases hc
    · exact hdot hlower.symm

/-- A word does not begin with a sign, nor does a number. -/
theorem head?_ne_sign_of_lower {word : List Char}
    (h : (word.map Char.toLower).head? ≠ some '+' ∧ (word.map Char.toLower).head? ≠ some '-') :
    word.head? ≠ some '+' ∧ word.head? ≠ some '-' := by
  rw [List.head?_map] at h
  exact ⟨fun hplus => h.1 (by rw [hplus]; rfl), fun hminus => h.2 (by rw [hminus]; rfl)⟩

theorem IsMantissa.head?_ne_sign (h : IsMantissa mantissa t) :
    (mantissa ++ exponent).head? ≠ some '+' ∧ (mantissa ++ exponent).head? ≠ some '-' := by
  rw [List.head?_append_of_ne_nil _ h.ne_nil]
  have hnotMem : ∀ c : Char, c.isDigit = false → c ≠ '.' → mantissa.head? ≠ some c := by
    intro c hc hdot hhead
    rcases h.mem (List.mem_of_head? hhead) with hdigit | heq
    · rw [hdigit] at hc
      cases hc
    · exact hdot heq
  exact ⟨hnotMem '+' (by decide) (by decide), hnotMem '-' (by decide) (by decide)⟩

/-! ## The whole text: the reader accepts the grammar and nothing else -/

theorem read_append (hsign : IsSign sign negative)
    (hbody : body.head? ≠ some '+' ∧ body.head? ≠ some '-') :
    read (sign ++ body) =
      if body.map Char.toLower = "inf".toList ∨ body.map Char.toLower = "infinity".toList then
        some (.infinite negative)
      else if body.map Char.toLower = "nan".toList then some .nan
      else readNumber negative body := by
  rw [read, readSign_append hsign hbody]

/-- **What is read**: the texts of the grammar, and nothing else. The two directions are lemmas
    about the parts; here they are put together behind the sign. -/
theorem read_eq_some_iff {f : FloatText} : read s = some f ↔ Spells s f := by
  constructor
  · -- the sign first, then the words, then a number
    intro h
    obtain ⟨sign, hsign, happend⟩ := exists_sign s
    rw [read] at h
    rw [happend]
    generalize readSign s = parts at h hsign
    obtain ⟨negative, body⟩ := parts
    dsimp only at h
    split at h
    · next hword =>
      cases h
      exact .infinite hsign hword
    · split at h
      · next hword =>
        cases h
        exact .nan hsign hword
      · obtain ⟨mantissa, exponent, t, e, hbody, rfl, hmantissa, hexponent, rfl⟩ :=
          exists_of_readNumber h
        subst hbody
        exact .number hsign hmantissa hexponent
  · intro h
    cases h with
    | nan hsign hword =>
      -- no word begins with a sign, and no number is a word
      rw [read_append hsign (head?_ne_sign_of_lower (by rw [hword]; decide)), hword,
        if_neg (by decide), if_pos rfl]
    | infinite hsign hword =>
      have hhead := head?_ne_sign_of_lower (by
        rcases hword with hword | hword <;> rw [hword] <;> decide)
      rw [read_append hsign hhead, if_pos hword]
    | number hsign hmantissa hexponent =>
      rw [read_append hsign hmantissa.head?_ne_sign, if_neg, if_neg,
        readNumber_append hmantissa hexponent]
      · exact hmantissa.map_toLower_ne (by decide) (by decide) _
      · rintro (hword | hword)
        · exact hmantissa.map_toLower_ne (by decide) (by decide) _ hword
        · exact hmantissa.map_toLower_ne (by decide) (by decide) _ hword

/-- A text says one thing. -/
theorem Spells.unique {f g : FloatText} (h : Spells s f) (h' : Spells s g) : f = g :=
  Option.some.inj ((read_eq_some_iff.mpr h).symm.trans (read_eq_some_iff.mpr h'))

theorem IsSign.mem (h : IsSign sign negative) {c : Char} (hc : c ∈ sign) : c = '+' ∨ c = '-' := by
  cases h with
  | missing => cases hc
  | plus => exact .inl (List.mem_singleton.mp hc)
  | minus => exact .inr (List.mem_singleton.mp hc)

/-- What characters a number is written with. -/
theorem Spells.mem_number (h : Spells s (.number t e)) {c : Char} (hc : c ∈ s) :
    c.isDigit = true ∨ c = '.' ∨ c = '+' ∨ c = '-' ∨ isExponentMark c = true := by
  cases h with
  | number hsign hmantissa hexponent =>
    rcases List.mem_append.mp hc with hc | hc
    · rcases hsign.mem hc with rfl | rfl
      · exact .inr (.inr (.inl rfl))
      · exact .inr (.inr (.inr (.inl rfl)))
    · rcases List.mem_append.mp hc with hc | hc
      · rcases hmantissa.mem hc with hdigit | rfl
        · exact .inl hdigit
        · exact .inr (.inl rfl)
      · cases hexponent with
        | missing => cases hc
        | mark hmark hsign hne hall =>
          rcases List.mem_cons.mp hc with rfl | hc
          · exact .inr (.inr (.inr (.inr hmark)))
          · rcases List.mem_append.mp hc with hc | hc
            · rcases hsign.mem hc with rfl | rfl
              · exact .inr (.inr (.inl rfl))
              · exact .inr (.inr (.inr (.inl rfl)))
            · exact .inl (List.all_eq_true.mp hall c hc)

/-- **When a number is more than zero**: it has no minus sign and a digit that is not zero. The
    exponent and the place of the point do not matter. -/
theorem value_pos_iff : 0 < value t e ↔ t.negative = false ∧ t.digits ≠ 0 := by
  have hpow : (0 : ℚ) < 10 ^ e := by positivity
  rw [value, mul_pos_iff_of_pos_right hpow, DecimalText.value]
  cases t.negative with
  | true =>
    rw [if_pos rfl, neg_pos]
    exact iff_of_false (not_lt_of_ge DecimalText.magnitude_nonneg) fun h => by cases h.1
  | false =>
    rw [if_neg Bool.false_ne_true, DecimalText.magnitude_nonneg.lt_iff_ne', ne_eq,
      DecimalText.magnitude_eq_zero_iff]
    exact (and_iff_right rfl).symm

end FloatText
