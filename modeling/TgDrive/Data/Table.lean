import Mathlib.Data.List.Sort
import Mathlib.Data.List.Nodup

/-!
# Keyed Tables

A database table with a primary key, as the list of its rows. The structure
carries the uniqueness of the key, so a table with two rows under one key
cannot be built and no lemma below has to assume it away.

`upsert` is `INSERT OR REPLACE`: the row that held the key is deleted and the
new one is added. A table is read by key with `get?` and row by row with
`select`, which orders its answer as `ORDER BY` does. The lemmas let a proof
move between the two readings, membership being the common ground.

## Main definitions

* `Table`: Rows with a unique key.
* `Table.get?`: The row under a key.
* `Table.upsert`: Insert a row, replacing the one with its key.
* `Table.select`: All rows, in a given order.

## Theorems

* `mem_rows_iff_get?`: A row is stored exactly when its key finds it.
* `mem_upsert`: The rows after an upsert.
* `get?_upsert_self`: An upsert is found under its own key.
* `get?_upsert_other`: Other keys find what they found before.
* `mem_select`: Selecting neither loses nor invents rows.
* `nodup_select`: No key comes up twice in a selection.
-/

namespace Data

/-- A table: rows no two of which share a key. -/
structure Table {κ ρ : Type} (key : ρ → κ) where
  rows : List ρ
  nodup : (rows.map key).Nodup

namespace Table

variable {κ ρ : Type} {key : ρ → κ}

/-- The table without rows. -/
def empty : Table key := { rows := [], nodup := List.nodup_nil }

/-- Two rows with one key are one row. -/
theorem eq_of_key_eq (t : Table key) (r r' : ρ) (h : r ∈ t.rows) (h' : r' ∈ t.rows)
    (hk : key r = key r') : r = r' := List.inj_on_of_nodup_map t.nodup h h' hk

/-- Keep the rows a condition selects. -/
def keep (t : Table key) (p : ρ → Bool) : Table key where
  rows := t.rows.filter p
  nodup := t.nodup.sublist (List.filter_sublist.map key)

@[simp] theorem mem_keep (t : Table key) (p : ρ → Bool) (r : ρ) :
    r ∈ (t.keep p).rows ↔ r ∈ t.rows ∧ p r = true := List.mem_filter

/-- All rows, ordered by a relation on rows. -/
def select (t : Table key) (le : ρ → ρ → Prop) [DecidableRel le] : List ρ :=
  t.rows.insertionSort le

@[simp] theorem mem_select (t : Table key) (le : ρ → ρ → Prop) [DecidableRel le] (r : ρ) :
    r ∈ t.select le ↔ r ∈ t.rows := (t.rows.perm_insertionSort le).mem_iff

theorem nodup_select (t : Table key) (le : ρ → ρ → Prop) [DecidableRel le] :
    ((t.select le).map key).Nodup :=
  ((t.rows.perm_insertionSort le).map key).nodup_iff.mpr t.nodup

theorem select_eq_nil (t : Table key) (le : ρ → ρ → Prop) [DecidableRel le] :
    t.select le = [] ↔ t.rows = [] := by
  rw [← List.length_eq_zero_iff, select, List.length_insertionSort, List.length_eq_zero_iff]

variable [DecidableEq κ]

/-- The row stored under a key. -/
def get? (t : Table key) (k : κ) : Option ρ := t.rows.find? (fun r => decide (key r = k))

theorem nodup_upsert (t : Table key) (r : ρ) :
    ((t.rows.filter (fun x => decide (key x ≠ key r)) ++ [r]).map key).Nodup := by
  rw [List.map_append, List.nodup_append]
  refine ⟨t.nodup.sublist (List.filter_sublist.map key), ?_, ?_⟩
  · simp only [List.map_cons, List.map_nil, List.nodup_cons, List.not_mem_nil,
      not_false_eq_true, List.nodup_nil, and_self]
  · intro a ha b hb hab
    rcases List.mem_map.mp ha with ⟨x, hx, hxa⟩
    have hne := (List.mem_filter.mp hx).2
    simp only [List.map_cons, List.map_nil, List.mem_singleton] at hb
    simp only [ne_eq, decide_not, Bool.not_eq_eq_eq_not, Bool.not_true,
      decide_eq_false_iff_not] at hne
    exact hne (by rw [hxa, hab, hb])

/-- Insert a row, replacing the row that holds its key. -/
def upsert (t : Table key) (r : ρ) : Table key where
  rows := t.rows.filter (fun x => decide (key x ≠ key r)) ++ [r]
  nodup := t.nodup_upsert r

theorem get?_mem (t : Table key) (k : κ) (r : ρ) (h : t.get? k = some r) :
    r ∈ t.rows ∧ key r = k := by
  refine ⟨List.mem_of_find?_eq_some h, ?_⟩
  have hk := List.find?_some h
  simpa only [decide_eq_true_eq] using hk

theorem get?_eq_none_iff (t : Table key) (k : κ) :
    t.get? k = none ↔ ∀ r ∈ t.rows, key r ≠ k := by
  rw [get?, List.find?_eq_none]
  simp only [decide_eq_true_eq, ne_eq]

/-- A row is stored exactly when its key finds it. -/
theorem mem_rows_iff_get? (t : Table key) (r : ρ) :
    r ∈ t.rows ↔ t.get? (key r) = some r := by
  constructor
  · intro h
    rcases hg : t.get? (key r) with _ | r'
    · exact absurd rfl ((t.get?_eq_none_iff (key r)).mp hg r h)
    · rcases t.get?_mem _ _ hg with ⟨hmem, hkey⟩
      rw [t.eq_of_key_eq r' r hmem h hkey]
  · intro h
    exact (t.get?_mem _ _ h).1

theorem mem_upsert (t : Table key) (r x : ρ) :
    x ∈ (t.upsert r).rows ↔ x = r ∨ (x ∈ t.rows ∧ key x ≠ key r) := by
  simp only [upsert, List.mem_append, List.mem_filter, decide_eq_true_eq, List.mem_singleton]
  rw [or_comm]

@[simp] theorem get?_upsert_self (t : Table key) (r : ρ) :
    (t.upsert r).get? (key r) = some r :=
  ((t.upsert r).mem_rows_iff_get? r).mp ((t.mem_upsert r r).mpr (Or.inl rfl))

theorem get?_upsert_other (t : Table key) (r : ρ) (k : κ) (h : k ≠ key r) :
    (t.upsert r).get? k = t.get? k := by
  rcases hg : t.get? k with _ | x
  · rw [get?_eq_none_iff] at hg ⊢
    intro y hy
    rcases (t.mem_upsert r y).mp hy with rfl | ⟨hy', _⟩
    · exact fun hc => h hc.symm
    · exact hg y hy'
  · rcases t.get?_mem _ _ hg with ⟨hmem, hkey⟩
    have hx : x ∈ (t.upsert r).rows :=
      (t.mem_upsert r x).mpr (Or.inr ⟨hmem, by rw [hkey]; exact h⟩)
    rw [← hkey]
    exact ((t.upsert r).mem_rows_iff_get? x).mp hx

theorem get?_upsert (t : Table key) (r : ρ) (k : κ) :
    (t.upsert r).get? k = if k = key r then some r else t.get? k := by
  by_cases h : k = key r
  · rw [if_pos h, h, get?_upsert_self]
  · rw [if_neg h, get?_upsert_other t r k h]

@[simp] theorem get?_empty (k : κ) : (empty : Table key).get? k = none := rfl

theorem rows_eq_nil_iff_get? (t : Table key) : t.rows = [] ↔ ∀ k, t.get? k = none := by
  constructor
  · intro h k
    rw [get?, h, List.find?_nil]
  · intro h
    rw [List.eq_nil_iff_forall_not_mem]
    intro r hr
    exact (t.get?_eq_none_iff (key r)).mp (h (key r)) r hr rfl

end Table

end Data
