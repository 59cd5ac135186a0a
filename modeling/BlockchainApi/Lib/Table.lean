/-
  Relational tables with a primary key.

  A `Table` is a list of rows of which no two have the same key; that is a field of the structure,
  so a table that violates its key cannot be built.  The operations are those of SQL:

  * `insert`, refused when the key is there;
  * `upsert`, which is `ON CONFLICT DO UPDATE`;
  * `update` and `delete`, with a `WHERE` predicate.

  An update may change everything of a row but its key; that is a hypothesis of `update`, so the
  field stays true without a proof at each use.  Each operation has one lemma that says which rows
  it leaves (`mem_update`, `mem_delete`, `mem_append`, `mem_upsert`), and later proofs use nothing
  else about it.  The key determines the row (`eq_of_key_eq`), which is what makes a selection by
  the key have one row at most.

  A query without `ORDER BY` may return its rows in any order; a `RowOrder` is one such choice, and
  a statement about every `RowOrder` is one about every answer the database may give.
-/
import Mathlib.Data.List.Nodup
import Mathlib.Data.List.Perm.Basic
import Mathlib.Data.List.Sort

/-- Rows, no two of them with the same key. The order of the list is that of the insertions and
    means nothing. -/
structure Table (Row Key : Type) (key : Row → Key) where
  rows : List Row
  unique : (rows.map key).Nodup

/-- An order in which a query returns its rows: a permutation of the rows, chosen anew for each
    list. -/
structure RowOrder (Row : Type) where
  arrange : List Row → List Row
  perm : ∀ rows, (arrange rows).Perm rows

namespace RowOrder

variable {Row : Type}

/-- The order in which the rows are stored. -/
def stored : RowOrder Row := ⟨id, fun _ => .refl _⟩

@[simp] theorem mem_arrange (order : RowOrder Row) {rows : List Row} {r : Row} :
    r ∈ order.arrange rows ↔ r ∈ rows := (order.perm rows).mem_iff

end RowOrder

namespace Table

variable {Row Key : Type} {key : Row → Key} {t : Table Row Key key} {r r' x : Row}

/-- The table without rows. -/
def empty : Table Row Key key := ⟨[], List.nodup_nil⟩

@[simp] theorem rows_empty : (empty : Table Row Key key).rows = [] := rfl

/-- The key determines the row. -/
theorem eq_of_key_eq (h : r ∈ t.rows) (h' : r' ∈ t.rows) (hkey : key r = key r') : r = r' :=
  List.inj_on_of_nodup_map t.unique h h' hkey

theorem nodup_rows (t : Table Row Key key) : t.rows.Nodup := t.unique.of_map _

/-- The rows of a selection, when all of them are one row: it is there once, since its key is. -/
theorem filter_eq_singleton {p : Row → Bool} (hr : r ∈ t.rows) (hp : p r = true)
    (hall : ∀ x ∈ t.rows, p x = true → x = r) : t.rows.filter p = [r] := by
  have hnodup : (t.rows.filter p).Nodup := t.nodup_rows.filter p
  have hsingle : [r].Nodup := List.nodup_singleton r
  refine List.perm_singleton.mp ((List.perm_ext_iff_of_nodup hnodup hsingle).mpr ?_)
  intro x
  rw [List.mem_filter, List.mem_singleton]
  constructor
  · rintro ⟨hx, hpx⟩
    exact hall x hx hpx
  · rintro rfl
    exact ⟨hr, hp⟩

/-- What a key-preserving change of single rows leaves. -/
private theorem map_key_eq {rows : List Row} {f : Row → Row}
    (hf : ∀ r ∈ rows, key (f r) = key r) : (rows.map f).map key = rows.map key := by
  rw [List.map_map]
  exact List.map_congr_left hf

/-- `UPDATE … WHERE`: changes rows, not their keys. -/
def update (t : Table Row Key key) (p : Row → Bool) (f : Row → Row)
    (hf : ∀ r, key (f r) = key r) : Table Row Key key where
  rows := t.rows.map fun r => if p r then f r else r
  unique := by
    rw [map_key_eq]
    · exact t.unique
    · intro r _
      split
      · exact hf r
      · rfl

theorem mem_update {p : Row → Bool} {f : Row → Row} {hf : ∀ r, key (f r) = key r} :
    x ∈ (t.update p f hf).rows ↔ ∃ r ∈ t.rows, (if p r then f r else r) = x := List.mem_map

/-- `DELETE … WHERE`. -/
def delete (t : Table Row Key key) (p : Row → Bool) : Table Row Key key where
  rows := t.rows.filter fun r => !p r
  unique := t.unique.sublist (List.filter_sublist.map key)

theorem mem_delete {p : Row → Bool} : x ∈ (t.delete p).rows ↔ x ∈ t.rows ∧ p x = false := by
  simp [delete, List.mem_filter]

variable [DecidableEq Key]

/-- Does a row have the key? -/
def has (t : Table Row Key key) (k : Key) : Bool := t.rows.any fun r => key r = k

theorem has_iff {k : Key} : t.has k = true ↔ ∃ r ∈ t.rows, key r = k := by
  simp [has, List.any_eq_true]

theorem has_eq_false_iff {k : Key} : t.has k = false ↔ ∀ r ∈ t.rows, key r ≠ k := by
  simp [has, List.any_eq_false]

theorem has_update {p : Row → Bool} {f : Row → Row} {hf : ∀ r, key (f r) = key r} {k : Key} :
    (t.update p f hf).has k = t.has k := by
  rw [Bool.eq_iff_iff, has_iff, has_iff]
  have hkey : ∀ r, key (if p r then f r else r) = key r := by
    intro r
    split
    · exact hf r
    · rfl
  constructor
  · rintro ⟨x, hx, rfl⟩
    obtain ⟨r, hr, rfl⟩ := mem_update.mp hx
    exact ⟨r, hr, (hkey r).symm⟩
  · rintro ⟨r, hr, rfl⟩
    exact ⟨_, mem_update.mpr ⟨r, hr, rfl⟩, hkey r⟩

/-- The row with the key. -/
def find? (t : Table Row Key key) (k : Key) : Option Row := t.rows.find? fun r => key r = k

theorem find?_eq_some {k : Key} : t.find? k = some r ↔ r ∈ t.rows ∧ key r = k := by
  constructor
  · intro h
    exact ⟨List.mem_of_find?_eq_some h, by simpa using List.find?_some h⟩
  · rintro ⟨hmem, rfl⟩
    cases hfind : t.find? (key r) with
    | none =>
      have hnone := List.find?_eq_none.mp hfind r hmem
      simp at hnone
    | some r' =>
      have hr' : key r' = key r := by simpa using List.find?_some hfind
      rw [eq_of_key_eq (List.mem_of_find?_eq_some hfind) hmem hr']

theorem find?_eq_none {k : Key} : t.find? k = none ↔ t.has k = false := by
  rw [has_eq_false_iff, find?, List.find?_eq_none]
  simp

/-- A row more, whose key is new. -/
def append (t : Table Row Key key) (r : Row) (h : t.has (key r) = false) : Table Row Key key where
  rows := t.rows ++ [r]
  unique := by
    rw [List.map_append, List.nodup_append]
    refine ⟨t.unique, List.nodup_singleton _, ?_⟩
    intro k hk k' hk'
    obtain ⟨r', hr', rfl⟩ := List.mem_map.mp hk
    cases List.mem_singleton.mp hk'
    exact has_eq_false_iff.mp h r' hr'

theorem mem_append {h : t.has (key r) = false} :
    x ∈ (t.append r h).rows ↔ x ∈ t.rows ∨ x = r := by
  simp [append]

theorem has_append {h : t.has (key r) = false} {k : Key} :
    (t.append r h).has k = true ↔ t.has k = true ∨ key r = k := by
  simp only [has_iff, mem_append]
  constructor
  · rintro ⟨x, hx | rfl, hk⟩
    · exact .inl ⟨x, hx, hk⟩
    · exact .inr hk
  · rintro (⟨x, hx, hk⟩ | hk)
    · exact ⟨x, .inl hx, hk⟩
    · exact ⟨r, .inr rfl, hk⟩

/-- `INSERT`: refused when the key is there. The other rows are not touched. -/
def insert (t : Table Row Key key) (r : Row) : Option (Table Row Key key) :=
  if h : t.has (key r) = false then some (t.append r h) else none

theorem insert_eq_some {t' : Table Row Key key} :
    t.insert r = some t' ↔ ∃ h : t.has (key r) = false, t.append r h = t' := by
  by_cases h : t.has (key r) = false <;> simp [insert, h]

theorem insert_eq_none : t.insert r = none ↔ t.has (key r) = true := by
  by_cases h : t.has (key r) = false
  · simp [insert, h]
  · have htrue : t.has (key r) = true := by simpa using h
    simp [insert, htrue]

/-- `INSERT … ON CONFLICT DO UPDATE`: the row, or the change made to the row with its key. The
    change keeps the key. -/
def upsert (t : Table Row Key key) (r : Row) (merge : Row → Row)
    (hmerge : ∀ x, key x = key r → key (merge x) = key r) : Table Row Key key :=
  if h : t.has (key r) = false then t.append r h
  else t.update (fun x => key x = key r) (fun x => if key x = key r then merge x else x) <| by
    intro x
    by_cases hx : key x = key r
    · rw [if_pos hx, hmerge x hx, hx]
    · rw [if_neg hx]

theorem mem_upsert {merge : Row → Row} {hmerge : ∀ x, key x = key r → key (merge x) = key r} :
    x ∈ (t.upsert r merge hmerge).rows ↔
      (x ∈ t.rows ∧ key x ≠ key r) ∨ (∃ y ∈ t.rows, key y = key r ∧ merge y = x) ∨
        (t.has (key r) = false ∧ x = r) := by
  by_cases h : t.has (key r) = false
  · have hne := has_eq_false_iff.mp h
    rw [upsert, dif_pos h, mem_append]
    constructor
    · rintro (hx | hx)
      · exact .inl ⟨hx, hne x hx⟩
      · exact .inr (.inr ⟨h, hx⟩)
    · rintro (⟨hx, -⟩ | ⟨y, hy, hkey, -⟩ | ⟨-, hx⟩)
      · exact .inl hx
      · exact absurd hkey (hne y hy)
      · exact .inr hx
  · rw [upsert, dif_neg h, mem_update]
    constructor
    · rintro ⟨y, hy, rfl⟩
      by_cases hkey : key y = key r
      · exact .inr (.inl ⟨y, hy, hkey, by simp [hkey]⟩)
      · exact .inl (by simpa [hkey] using hy)
    · rintro (⟨hx, hkey⟩ | ⟨y, hy, hkey, rfl⟩ | ⟨hno, -⟩)
      · exact ⟨x, hx, by simp [hkey]⟩
      · exact ⟨y, hy, by simp [hkey]⟩
      · exact absurd hno h

end Table
