/-
  The text form of PostgreSQL's `hstore`: how it is read.

  A text is a list of pairs `key => value` with commas between them.  A key or value is a word, bare
  or in double quotes; a backslash takes the next character as it is; a bare `null` is no value.

  1. **The reader** goes through the text once, as a machine with five states for the pairs and five
     for a word, and here each state is a function of what is left of the text.  No text of the
     database has the character NUL, so the end of the list is the end of the text.  A text has
     fewer pairs than characters, which bounds the number of rounds.

  2. **The writer** (`render`) puts both words of each pair in quotes, and joins the pairs with a
     comma and a blank.

  3. **Reading back.** A quoted word without quotes and backslashes in it (`Clean`) is read back as
     it was written (`quoted_append`), and so is a pair (`pairs_renderPair`) and a list of pairs of
     such words (`pairs_render`, by induction on the list; `parse_render`).  Each lemma says what is
     read off the front of a text that goes on, so that the next one can take over there.

  Of several pairs with one key, the first counts (`lookup`).
-/
import Mathlib.Data.List.Basic

namespace Hstore

/-! ## The reader: one function for each state of the machine -/

inductive Error where
  | unexpectedEnd
  | syntaxError
  deriving DecidableEq, Repr

/-- `scanner_isspace`. -/
def isSpace (c : Char) : Bool :=
  c = ' ' || c = '\t' || c = '\n' || c = '\r' || c = '\x0b' || c = '\x0c'

/-- A word, whether it was in quotes, and what is behind it. -/
structure Word where
  text : List Char
  isQuoted : Bool
  rest : List Char
  deriving DecidableEq

/-- One character more in front. -/
def Word.cons (c : Char) (w : Word) : Word := { w with text := c :: w.text }

/-- In quotes: up to the closing one. -/
def quoted : List Char → Except Error Word
  | [] => .error .unexpectedEnd
  | c :: rest =>
    if c = '\\' then
      match rest with
      | [] => .error .unexpectedEnd
      | d :: rest => (quoted rest).map (Word.cons d)
    else if c = '"' then .ok ⟨[], true, rest⟩
    else (quoted rest).map (Word.cons c)

/-- Not in quotes: up to white space, or what ends a key or a value. -/
def bare (isValue : Bool) : List Char → Except Error Word
  | [] => .ok ⟨[], false, []⟩
  | c :: rest =>
    if c = '\\' then
      match rest with
      | [] => .error .unexpectedEnd
      | d :: rest => (bare isValue rest).map (Word.cons d)
    else if c = '=' ∧ isValue = false ∨ c = ',' ∧ isValue = true then .ok ⟨[], false, c :: rest⟩
    else if isSpace c then .ok ⟨[], false, rest⟩
    else (bare isValue rest).map (Word.cons c)

/-- `get_val`: the next word, if there is one. -/
def word (isValue : Bool) : List Char → Except Error (Option Word)
  | [] => .ok none
  | c :: rest =>
    if c = '"' then (quoted rest).map some
    else if c = '=' ∧ isValue = false then .error .syntaxError
    else if c = '\\' then
      match rest with
      | [] => .error .unexpectedEnd
      | d :: rest => (bare isValue rest).map fun w => some (w.cons d)
    else if isSpace c then word isValue rest
    else (bare isValue rest).map fun w => some (w.cons c)

/-- Behind a key: what is behind the arrow. -/
def arrow : List Char → Except Error (List Char)
  | [] => .error .unexpectedEnd
  | c :: rest =>
    if c = '=' then
      match rest with
      | [] => .error .unexpectedEnd
      | d :: rest => if d = '>' then .ok rest else .error .syntaxError
    else if isSpace c then arrow rest
    else .error .syntaxError

/-- Behind a value: what is behind the comma, if there is one. -/
def delimiter : List Char → Except Error (Option (List Char))
  | [] => .ok none
  | c :: rest =>
    if c = ',' then .ok (some rest)
    else if isSpace c then delimiter rest
    else .error .syntaxError

/-- A bare `null`, in letters of any case. -/
def Word.isNull (w : Word) : Bool := !w.isQuoted && w.text.map Char.toLower = ['n', 'u', 'l', 'l']

/-- A pair.  A null has no value. -/
abbrev Pair := List Char × Option (List Char)

/-- `parse_hstore`, of at most that many pairs. -/
def pairs : Nat → List Char → Except Error (List Pair)
  | 0, _ => .error .unexpectedEnd
  | n + 1, s => do
    match ← word false s with
    | none => return []
    | some key =>
      let rest ← arrow key.rest
      match ← word true rest with
      | none => .error .unexpectedEnd
      | some value =>
        let pair := (key.text, if value.isNull then none else some value.text)
        match ← delimiter value.rest with
        | none => return [pair]
        | some rest => return pair :: (← pairs n rest)

/-- The pairs of a text, which has fewer of them than characters. -/
def parse (s : List Char) : Except Error (List Pair) := pairs (s.length + 1) s

/-- `hstoreUniquePairs`: of the pairs with one key, the first counts. -/
def lookup (key : List Char) (ps : List Pair) : Option (Option (List Char)) :=
  (ps.find? fun p => p.1 = key).map Prod.snd

/-! ## Reading back: what was written in quotes -/

/-- Neither a double quote nor a backslash: nothing in the word ends it, and nothing is taken for
    an escape. -/
def Clean (s : List Char) : Prop := '"' ∉ s ∧ '\\' ∉ s

variable {w key value rest : List Char}

/-- The word in quotes. -/
def quote (w : List Char) : List Char := '"' :: (w ++ ['"'])

/-- The pair, both in quotes. -/
def renderPair (p : List Char × List Char) : List Char :=
  quote p.1 ++ [' ', '=', '>', ' '] ++ quote p.2

/-- The pairs, with a comma and a blank between them. -/
def render (ps : List (List Char × List Char)) : List Char :=
  [',', ' '].intercalate (ps.map renderPair)

/-- A clean word is read up to the quote behind it, whatever follows. -/
theorem quoted_append (hw : Clean w) : quoted (w ++ '"' :: rest) = .ok ⟨w, true, rest⟩ := by
  induction w with
  | nil =>
    rw [List.nil_append, quoted.eq_def]
    rfl
  | cons c w ih =>
    obtain ⟨hquote, hquotes⟩ := List.ne_and_not_mem_of_not_mem_cons hw.1
    obtain ⟨hslash, hslashes⟩ := List.ne_and_not_mem_of_not_mem_cons hw.2
    rw [List.cons_append, quoted.eq_def]
    dsimp only
    rw [if_neg hslash.symm, if_neg hquote.symm, ih ⟨hquotes, hslashes⟩]
    rfl

theorem word_quote (isValue : Bool) (hw : Clean w) :
    word isValue (quote w ++ rest) = .ok (some ⟨w, true, rest⟩) := by
  have htext : quote w ++ rest = '"' :: (w ++ '"' :: rest) := by
    rw [quote, List.cons_append, List.append_assoc, List.singleton_append]
  rw [htext, word.eq_def]
  dsimp only
  rw [if_pos rfl, quoted_append hw]
  rfl

/-- White space in front of a word is skipped. -/
theorem word_blank (isValue : Bool) (s : List Char) : word isValue (' ' :: s) = word isValue s := by
  rw [word.eq_def]
  dsimp only
  rw [if_neg (by decide), if_neg (fun h => absurd h.1 (by decide)), if_neg (by decide),
    if_pos (by decide)]

theorem arrow_append (s : List Char) : arrow (' ' :: '=' :: '>' :: s) = .ok s := by
  rw [arrow.eq_def]
  dsimp only
  rw [if_neg (by decide), if_pos (by decide), arrow.eq_def]
  rfl

/-- **One pair**, and what is behind it. -/
theorem pairs_renderPair (n : Nat) (hkey : Clean key) (hvalue : Clean value) :
    pairs (n + 1) (renderPair (key, value) ++ rest) = (do
      match ← delimiter rest with
      | none => return [(key, some value)]
      | some rest => return (key, some value) :: (← pairs n rest)) := by
  have htext : renderPair (key, value) ++ rest =
      quote key ++ (' ' :: '=' :: '>' :: ' ' :: (quote value ++ rest)) := by
    simp only [renderPair, List.append_assoc, List.cons_append, List.nil_append]
  rw [htext, pairs, word_quote false hkey]
  simp only [bind, Except.bind, arrow_append, word_blank, word_quote true hvalue]
  rfl

theorem pairs_blank (n : Nat) (s : List Char) : pairs n (' ' :: s) = pairs n s := by
  cases n with
  | zero => rfl
  | succ n => rw [pairs, pairs, word_blank]

/-- **Pairs of clean words** are read back as they were written, if enough rounds are allowed. -/
theorem pairs_render (ps : List (List Char × List Char))
    (h : ∀ p ∈ ps, Clean p.1 ∧ Clean p.2) : ∀ n, ps.length < n →
      pairs n (render ps) = .ok (ps.map fun p => (p.1, some p.2)) := by
  induction ps with
  | nil =>
    intro n hn
    obtain ⟨n, rfl⟩ := Nat.exists_eq_add_of_lt hn
    rfl
  | cons p ps ih =>
    intro n hn
    obtain ⟨n, rfl⟩ : ∃ m, n = m + 1 := ⟨n - 1, by omega⟩
    obtain ⟨⟨hkey, hvalue⟩, hrest⟩ := List.forall_mem_cons.mp h
    have hlength : ps.length < n := Nat.lt_of_succ_lt_succ hn
    cases ps with
    | nil =>
      -- the last pair has no delimiter behind it
      have htext : render [p] = renderPair (p.1, p.2) ++ [] := by
        rw [render, List.map_cons, List.map_nil, List.intercalate_singleton, List.append_nil]
      rw [htext, pairs_renderPair n hkey hvalue]
      rfl
    | cons q ps =>
      -- a delimiter and a blank, and then the rest
      have htext : render (p :: q :: ps) =
          renderPair (p.1, p.2) ++ (',' :: ' ' :: render (q :: ps)) := by
        rw [render, List.map_cons, List.map_cons, List.intercalate_cons_cons, List.append_assoc]
        rfl
      rw [htext, pairs_renderPair n hkey hvalue]
      simp only [delimiter, if_true, bind, Except.bind]
      rw [pairs_blank, ih hrest n hlength]
      rfl

/-- Every pair is in the text. -/
theorem length_le_length_render (ps : List (List Char × List Char)) :
    ps.length ≤ (render ps).length := by
  induction ps with
  | nil => exact Nat.zero_le _
  | cons p ps ih =>
    have hpos : 0 < (renderPair p).length := Nat.succ_pos _
    cases ps with
    | nil =>
      rw [render, List.map_cons, List.map_nil, List.intercalate_singleton]
      exact hpos
    | cons q ps =>
      rw [render, List.map_cons, List.map_cons, List.intercalate_cons_cons, List.length_append,
        List.length_append]
      rw [render, List.map_cons] at ih
      rw [List.length_cons]
      omega

/-- **Round trip**: the text of clean pairs is read as those pairs, in their order. -/
theorem parse_render {ps : List (List Char × List Char)} (h : ∀ p ∈ ps, Clean p.1 ∧ Clean p.2) :
    parse (render ps) = .ok (ps.map fun p => (p.1, some p.2)) :=
  pairs_render ps h _ (Nat.lt_succ_of_le (length_le_length_render ps))

end Hstore
