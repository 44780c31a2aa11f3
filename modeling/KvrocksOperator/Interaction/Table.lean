import Mathlib.Data.List.Nodup

/-!
# Tables of objects

What a server keeps of one kind of object: a list of rows that are told apart by their keys.  A row is replaced at its
place, so that the table looks the same when the new row looks like the old one.
-/

namespace Interaction

variable {α κ β : Type}

/-- Rows with different keys. -/
structure Table (key : α → κ) where
  rows : List α
  distinct : (rows.map key).Nodup

namespace Table

variable {key : α → κ}

variable [DecidableEq κ]

/-- The row with a key. -/
def find (table : Table key) (name : κ) : Option α := table.rows.find? fun row ↦ key row = name

/-- What a row becomes when another one is written. -/
def overwrite (key : α → κ) (row old : α) : α := if key old = key row then row else old

theorem key_overwrite (row old : α) : key (overwrite key row old) = key old := by
  unfold overwrite
  split_ifs with hkey
  · exact hkey.symm
  · rfl

theorem overwrite_of_ne {row old : α} (h : key old ≠ key row) : overwrite key row old = old := if_neg h

/-- The row takes the place of the one with its key. -/
def replace (table : Table key) (row : α) : Table key where
  rows := table.rows.map (overwrite key row)
  distinct := by
    have hkeys : key ∘ overwrite key row = key := funext (key_overwrite row)
    rw [List.map_map, hkeys]
    exact table.distinct

/-- A row is added unless there is one with its key. -/
def add (table : Table key) (row : α) : Table key :=
  if h : key row ∈ table.rows.map key then table
  else
    { rows := table.rows ++ [row]
      distinct := by
        rw [List.map_append, List.map_singleton]
        exact table.distinct.append (List.nodup_singleton _) (List.disjoint_singleton.mpr h) }

/-- The row with a key is taken away. -/
def remove (table : Table key) (name : κ) : Table key where
  rows := table.rows.filter fun row ↦ key row ≠ name
  distinct := table.distinct.sublist (List.filter_sublist.map key)

variable {table : Table key}

theorem find_eq_some_iff {name : κ} {row : α} : table.find name = some row ↔ row ∈ table.rows ∧ key row = name := by
  unfold find
  constructor
  · intro hfind
    exact ⟨List.mem_of_find?_eq_some hfind, by simpa using List.find?_some hfind⟩
  · rintro ⟨hrow, rfl⟩
    have hsome : (table.rows.find? fun other ↦ key other = key row).isSome := List.find?_isSome.mpr ⟨row, hrow, by simp⟩
    obtain ⟨found, hfound⟩ := Option.isSome_iff_exists.mp hsome
    have hkey : key found = key row := by simpa using List.find?_some hfound
    rw [hfound, List.inj_on_of_nodup_map table.distinct (List.mem_of_find?_eq_some hfound) hrow hkey]

/-- Each row but the replaced one is still found. -/
theorem find_replace (table : Table key) (row : α) (name : κ) :
    (table.replace row).find name = (table.find name).map (overwrite key row) := by
  have hsame : (fun old ↦ decide (key old = name)) ∘ overwrite key row = fun old ↦ decide (key old = name) := by
    funext old
    rw [Function.comp_apply, @key_overwrite _ _ key]
  unfold find replace
  rw [List.find?_map, hsame]

theorem find_replace_self {row old : α} (h : table.find (key row) = some old) :
    (table.replace row).find (key row) = some row := by
  rw [find_replace, h, Option.map_some, overwrite, if_pos (find_eq_some_iff.mp h).2]

theorem find_replace_of_ne {row : α} {name : κ} (h : name ≠ key row) :
    (table.replace row).find name = table.find name := by
  rw [find_replace]
  cases hfind : table.find name with
  | none => rfl
  | some old =>
    rw [Option.map_some, overwrite_of_ne]
    rwa [(find_eq_some_iff.mp hfind).2]

/-- A table looks the same when a row is replaced by one that looks like it. -/
theorem map_replace {row : α} {image : α → β} (h : ∀ old, table.find (key row) = some old → image old = image row) :
    (table.replace row).rows.map image = table.rows.map image := by
  rw [replace, List.map_map]
  apply List.map_congr_left
  intro old hold
  rw [Function.comp_apply, overwrite]
  split_ifs with hkey
  · exact (h old (find_eq_some_iff.mpr ⟨hold, hkey⟩)).symm
  · rfl

end Table

end Interaction
