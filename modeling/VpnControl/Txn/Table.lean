/-
# Tables with a primary key

A table is a list of rows, oldest first, no two of which share their key. The
three operations below are the ones statements are made of: find the row of a
key, change it in place, append a new one. A row whose key is taken is not
appended; that is the primary-key constraint.
-/

import Mathlib.Data.List.Nodup

namespace Txn

open List

/-- Rows carry a primary key. -/
class Row (R : Type) (K : outParam Type) where
  /-- The primary key. -/
  key : R → K

/-- The rows of a table, oldest first. -/
structure Table (R : Type) {K : Type} [Row R K] where
  rows : List R
  nodup : (rows.map Row.key).Nodup

namespace Table

variable {R K : Type} [Row R K]

/-- The table without rows. -/
def empty : Table R := ⟨[], by simp⟩

variable [DecidableEq K]

variable (table : Table R)

def find? (k : K) : Option R :=
  table.rows.find? fun row => Row.key row = k

/-- Change the row of a key. -/
def modify (k : K) (f : R → R) (hf : ∀ row, Row.key (f row) = Row.key row) :
    Table R where
  rows := table.rows.map fun row => if Row.key row = k then f row else row
  nodup := by
    rw [List.map_map]
    convert table.nodup using 2
    funext row
    by_cases h : Row.key row = k <;> simp [h, hf]

/-- Change every row of a kind. -/
def modifyWhere (p : R → Bool) (f : R → R)
    (hf : ∀ row, Row.key (f row) = Row.key row) : Table R where
  rows := table.rows.map fun row => if p row then f row else row
  nodup := by
    rw [List.map_map]
    convert table.nodup using 2
    funext row
    by_cases h : p row <;> simp [h, hf]

/-- Append a row with a new key. -/
def insert (row : R) : Table R :=
  if h : Row.key row ∈ table.rows.map Row.key then table
  else ⟨table.rows ++ [row], by
    rw [List.map_append, List.nodup_append]
    refine ⟨table.nodup, by simp, ?_⟩
    intro first hfirst second hsecond heq
    have hkey : second = Row.key row := by simpa using hsecond
    exact h (hkey ▸ heq ▸ hfirst)⟩

variable {table : Table R} {row : R} {k : K} {p : R → Bool} {ks : List K} {β : Type}

theorem mem_of_find? (h : table.find? k = some row) : row ∈ table.rows := mem_of_find?_eq_some h

theorem key_of_find? (h : table.find? k = some row) : Row.key row = k := by simpa using find?_some h

theorem find?_eq_none : table.find? k = none ↔ ∀ row ∈ table.rows, Row.key row ≠ k := by
  simp [find?]

/-- Keys are unique: a row is the one found under its key. -/
theorem find?_of_mem (h : row ∈ table.rows) : table.find? (Row.key row) = some row := by
  cases hfound : table.find? (Row.key row) with
  | none => exact absurd rfl (find?_eq_none.mp hfound row h)
  | some =>
    have hkey := key_of_find? hfound
    have hmem := mem_of_find? hfound
    exact congrArg some (inj_on_of_nodup_map table.nodup hmem h hkey)

/-- The rows of some keys have these keys, in this order. -/
theorem map_key_filterMap_find? (table : Table R) :
    ((ks.filterMap table.find?).map Row.key).Sublist ks := by
  induction ks with
  | nil => simp
  | cons k _ ih =>
    rw [filterMap_cons]
    split
    · exact ih.cons k
    · rename_i row hrow
      rw [map_cons, key_of_find? hrow]
      exact ih.cons_cons k

variable (f : R → R) (hf : ∀ row, Row.key (f row) = Row.key row)

/-- The row of a key after the row of another, or its own, was changed. -/
theorem find?_modify : (table.modify k f hf).find? j =
      (table.find? j).map fun row => if Row.key row = k then f row else row := by
  simp only [find?, modify, find?_map]
  congr 2
  funext row
  by_cases h : Row.key row = k <;> simp [h, hf]

@[simp]
theorem find?_modify_self : (table.modify k f hf).find? k = (table.find? k).map f := by
  rw [find?_modify]
  cases hfound : table.find? k with
  | none => rfl
  | some => simp [key_of_find? hfound]

theorem find?_modify_of_ne (hne : j ≠ k) : (table.modify k f hf).find? j = table.find? j := by
  rw [find?_modify]
  cases hfound : table.find? j with
  | none => rfl
  | some => simp [key_of_find? hfound, hne]

/-- A change leaves every row in its place. -/
theorem isSome_find?_modify : ((table.modify k f hf).find? j).isSome = (table.find? j).isSome := by
  rw [find?_modify, Option.isSome_map]

theorem find?_modifyWhere (table : Table R) (p : R → Bool) (k : K) :
    (table.modifyWhere p f hf).find? k =
      (table.find? k).map fun row => if p row then f row else row := by
  simp only [find?, modifyWhere, find?_map]
  congr 2
  funext row
  by_cases h : p row <;> simp [h, hf]

theorem find?_modifyWhere_of_notMem (hnot : j ∉ ks) :
    (table.modifyWhere (Row.key · ∈ ks) f hf).find? j = table.find? j := by
  rw [find?_modifyWhere]
  cases hfound : table.find? j with
  | none => rfl
  | some => simp [key_of_find? hfound, hnot]

theorem exists_of_find?_modify (h : (table.modify k f hf).find? j = some row) :
    ∃ old, table.find? j = some old ∧ (j = k ∧ row = f old ∨ j ≠ k ∧ row = old) := by
  by_cases hj : j = k
  · subst hj
    rw [find?_modify_self] at h
    obtain ⟨old, hold, rfl⟩ := Option.map_eq_some_iff.mp h
    exact ⟨old, hold, .inl ⟨rfl, rfl⟩⟩
  · rw [find?_modify_of_ne f hf hj] at h
    exact ⟨row, h, .inr ⟨hj, rfl⟩⟩

theorem exists_of_find?_modifyMany
    (h : (table.modifyWhere (fun row => decide (Row.key row ∈ ks)) f hf).find? j = some row) :
    ∃ old, table.find? j = some old ∧ (j ∈ ks ∧ row = f old ∨ j ∉ ks ∧ row = old) := by
  rw [find?_modifyWhere] at h
  obtain ⟨old, hold, rfl⟩ := Option.map_eq_some_iff.mp h
  refine ⟨old, hold, ?_⟩
  rw [← key_of_find? hold]
  by_cases hmem : Row.key old ∈ ks <;> simp [hmem]

/-- A column that a change leaves alone. -/
theorem map_find?_modify {g : R → β} (hg : ∀ row, g (f row) = g row) (j : K) :
    ((table.modify k f hf).find? j).map g = (table.find? j).map g := by
  rw [find?_modify, Option.map_map]
  refine congrArg (fun column => (table.find? j).map column) (funext fun row => ?_)
  by_cases hk : Row.key row = k <;> simp [hk, hg]

theorem map_find?_modifyWhere {g : R → β} (hg : ∀ row, g (f row) = g row) (j : K) :
    ((table.modifyWhere p f hf).find? j).map g = (table.find? j).map g := by
  rw [find?_modifyWhere, Option.map_map]
  refine congrArg (fun column => (table.find? j).map column) (funext fun row => ?_)
  by_cases hp : p row <;> simp [hp, hg]

theorem rows_insert (h : table.find? (Row.key row) = none) :
    (table.insert row).rows = table.rows ++ [row] := by
  have hfresh : Row.key row ∉ table.rows.map Row.key := by
    rw [mem_map]
    rintro ⟨other, hother, heq⟩
    exact find?_eq_none.mp h other hother heq
  simp [insert, hfresh]

theorem find?_insert_self (h : table.find? (Row.key row) = none) :
    (table.insert row).find? (Row.key row) = some row := by
  rw [find?, rows_insert h, find?_append]
  rw [find?] at h
  simp [h]

/-- The primary-key constraint: a taken key refuses the row. -/
theorem insert_of_find? (h : table.find? (Row.key row) = some old) : table.insert row = table := by
  have hmem : Row.key row ∈ table.rows.map Row.key :=
    mem_map.mpr ⟨old, mem_of_find? h, key_of_find? h⟩
  simp [insert, hmem]

theorem find?_insert_of_ne (hne : k ≠ Row.key row) :
    (table.insert row).find? k = table.find? k := by
  cases h : table.find? (Row.key row) with
  | none => simp [find?, rows_insert h, find?_append, Ne.symm hne]
  | some => rw [insert_of_find? h]

theorem find?_insert (table : Table R) (row : R) (k : K) : (table.insert row).find? k =
      (table.find? k).or (if Row.key row = k then some row else none) := by
  by_cases hk : Row.key row = k
  · subst hk
    cases hold : table.find? (Row.key row) with
    | some old => rw [insert_of_find? hold, hold, Option.some_or]
    | none => rw [find?_insert_self hold, if_pos rfl, Option.none_or]
  · rw [find?_insert_of_ne (Ne.symm hk), if_neg hk, Option.or_none]

/-- Rows that are there stay. -/
theorem find?_insert_of_some (h : table.find? k = some found) :
    (table.insert row).find? k = some found := by
  rw [find?_insert, h, Option.some_or]

/-- A new row and the old ones. -/
theorem find?_insert_eq_some (h : (table.insert row).find? k = some found) :
    table.find? k = some found ∨ k = Row.key row ∧ found = row := by
  rw [find?_insert] at h
  rcases Option.or_eq_some_iff.mp h with hold | ⟨-, hnew⟩
  · exact .inl hold
  · obtain ⟨hkey, hrow⟩ := Option.ite_none_right_eq_some.mp hnew
    exact .inr ⟨hkey.symm, (Option.some.inj hrow).symm⟩

variable {first second : Table R} {rows : List R}

omit [DecidableEq K] in
theorem ext_rows (h : first.rows = second.rows) : first = second := by
  cases first
  cases second
  cases h
  rfl

variable {f hf} in
omit [DecidableEq K] in
theorem modifyWhere_of_none (h : ∀ row ∈ table.rows, ¬ p row) : table.modifyWhere p f hf = table :=
  ext_rows ((map_congr_left fun row hrow => if_neg (h row hrow)).trans (map_id' _))

/-- A new row leaves every row in its place. -/
theorem isSome_find?_insert (h : (table.find? k).isSome) : ((table.insert row).find? k).isSome := by
  rw [find?_insert, Option.isSome_or, h, Bool.true_or]

/-- Appending rows appends some of them. -/
theorem exists_rows_foldl_insert (table : Table R) :
    ∃ added, (rows.foldl insert table).rows = table.rows ++ added ∧ added ⊆ rows := by
  induction rows generalizing table with
  | nil => exact ⟨[], by simp, by simp⟩
  | cons row _ ih =>
    obtain ⟨added, hrows, hadded⟩ := ih (table.insert row)
    cases h : table.find? (Row.key row) with
    | some =>
      rw [insert_of_find? h] at hrows
      exact ⟨added, by rwa [foldl_cons, insert_of_find? h],
        fun other hother => mem_cons_of_mem _ (hadded hother)⟩
    | none =>
      refine ⟨row :: added, ?_, cons_subset_cons row hadded⟩
      rw [foldl_cons, hrows, rows_insert h, append_assoc, singleton_append]

theorem foldl_insert_eq_self_or_lt (rows : List R) (table : Table R) :
    rows.foldl insert table = table ∨
      table.rows.length < (rows.foldl insert table).rows.length := by
  obtain ⟨added, hrows, -⟩ := exists_rows_foldl_insert table
  cases added with
  | nil => exact .inl (ext_rows (by rw [hrows, append_nil]))
  | cons => exact .inr (by rw [hrows, length_append]; simp)

/-- The row of a key when rows have been appended: the old one, or else the first new one. -/
theorem find?_foldl_insert (rows : List R) (table : Table R) (k : K) :
    (rows.foldl insert table).find? k =
      (table.find? k).or (rows.find? fun row => Row.key row = k) := by
  induction rows generalizing table with
  | nil => rw [find?_nil, Option.or_none, foldl_nil]
  | cons row _ ih =>
    rw [foldl_cons, ih, find?_insert, Option.or_assoc, find?_cons]
    by_cases hk : Row.key row = k <;> simp [hk]

theorem foldl_insert_eq_self_iff :
    rows.foldl insert table = table ↔ ∀ row ∈ rows, table.find? (Row.key row) ≠ none := by
  constructor
  · intro h row hrow hnone
    have hfind := find?_foldl_insert rows table (Row.key row)
    rw [h, hnone, Option.none_or, eq_comm, List.find?_eq_none] at hfind
    exact hfind row hrow (decide_eq_true rfl)
  · intro h
    induction rows with
    | nil => rfl
    | cons row _ ih =>
      obtain ⟨old, hold⟩ := Option.ne_none_iff_exists'.mp (h row (by simp))
      rw [foldl_cons, insert_of_find? hold]
      exact ih fun other hother => h other (by simp [hother])

theorem find?_modify_congr (h : first.find? j = second.find? j) :
    (first.modify k f hf).find? j = (second.modify k f hf).find? j := by
  rw [find?_modify, find?_modify, h]

theorem find?_modifyWhere_congr (h : first.find? j = second.find? j) :
    (first.modifyWhere p f hf).find? j = (second.modifyWhere p f hf).find? j := by
  rw [find?_modifyWhere, find?_modifyWhere, h]

theorem find?_insert_congr (h : first.find? j = second.find? j) :
    (first.insert row).find? j = (second.insert row).find? j := by
  rw [find?_insert, find?_insert, h]

theorem countP_modify (h : table.find? k = some old) (p : R → Bool) :
    (table.modify k f hf).rows.countP p + (if p old then 1 else 0) =
      table.rows.countP p + if p (f old) then 1 else 0 := by
  have hkey : Row.key old = k := key_of_find? h
  obtain ⟨before, after, hrows⟩ := append_of_mem (mem_of_find? h)
  have hnodup := table.nodup
  simp only [hrows, map_append, map_cons, nodup_append, nodup_cons, mem_map, mem_cons] at hnodup
  have hbefore : ∀ row ∈ before, Row.key row ≠ k := fun row hrow hsame =>
    hnodup.2.2 _ ⟨row, hrow, rfl⟩ _ (Or.inl rfl) (hsame.trans hkey.symm)
  have hafter : ∀ row ∈ after, Row.key row ≠ k := fun row hrow hsame =>
    hnodup.2.1.1 ⟨row, hrow, hsame.trans hkey.symm⟩
  have hsame : ∀ rows : List R, (∀ row ∈ rows, Row.key row ≠ k) →
      rows.map (fun row => if Row.key row = k then f row else row) = rows := fun rows hne =>
    (map_congr_left fun row hrow => if_neg (hne row hrow)).trans (map_id' rows)
  simp only [modify, hrows, map_append, map_cons, hsame before hbefore,
    hsame after hafter, if_pos hkey, countP_append, countP_cons]
  omega

/-- If one row becomes one of a kind and no other row changes, it is the only one exactly
when there was none. -/
theorem length_filter_le_one_iff
    (hsame : ∀ j, j ≠ k → second.find? j = first.find? j) (hold : first.find? k = some old)
    (hnew : second.find? k = some new) (hfirst : p old = false) (hsecond : p new = true) :
    (second.rows.filter p).length ≤ 1 ↔ first.rows.filter p = [] := by
  have hmem : new ∈ second.rows.filter p := mem_filter.mpr ⟨mem_of_find? hnew, hsecond⟩
  constructor
  · intro hlength
    rw [filter_eq_nil_iff]
    intro row hrow hp
    have hne : Row.key row ≠ k := by
      intro hkey
      have hfound := find?_of_mem hrow
      rw [hkey, hold] at hfound
      rw [← Option.some.inj hfound, hfirst] at hp
      cases hp
    have hother : second.find? (Row.key row) = some row := (hsame _ hne).trans (find?_of_mem hrow)
    have hrow' : row ∈ second.rows.filter p := mem_filter.mpr ⟨mem_of_find? hother, hp⟩
    obtain ⟨only, honly⟩ := length_eq_one_iff.mp (Nat.le_antisymm hlength (length_pos_of_mem hmem))
    rw [honly, mem_singleton] at hmem hrow'
    exact hne (hrow'.trans hmem.symm ▸ key_of_find? hnew)
  · intro hnone
    rw [filter_eq_nil_iff] at hnone
    have hall : ∀ row ∈ second.rows.filter p, row = new := by
      intro row hrow
      obtain ⟨hrow, hp⟩ := mem_filter.mp hrow
      have hfound := find?_of_mem hrow
      by_cases hkey : Row.key row = k
      · rw [hkey, hnew] at hfound
        exact (Option.some.inj hfound).symm
      · rw [hsame _ hkey] at hfound
        exact absurd hp (hnone row (mem_of_find? hfound))
    have hnodup : (second.rows.filter p).Nodup := (Nodup.of_map _ second.nodup).filter _
    rw [eq_replicate_of_mem hall, nodup_replicate] at hnodup
    exact hnodup

theorem mem_rows_modify {f : R → R} {hf : ∀ row, Row.key (f row) = Row.key row}
    (h : row ∈ (table.modify k f hf).rows) :
    row ∈ table.rows ∨ ∃ old ∈ table.rows, Row.key old = k ∧ row = f old := by
  simp only [modify, mem_map] at h
  obtain ⟨old, hold, heq⟩ := h
  by_cases hkey : Row.key old = k
  · exact Or.inr ⟨old, hold, hkey, by rw [← heq, if_pos hkey]⟩
  · exact Or.inl (by rw [← heq, if_neg hkey]; exact hold)

theorem mem_insert_of_mem (h : row ∈ table.rows) : row ∈ (table.insert new).rows := by
  unfold insert
  split
  · exact h
  · exact mem_append_left _ h

theorem mem_rows_insert (h : row ∈ (table.insert new).rows) : row ∈ table.rows ∨ row = new := by
  unfold insert at h
  split at h
  · exact Or.inl h
  · simpa using h

end Table

end Txn
