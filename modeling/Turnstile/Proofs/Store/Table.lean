import Mathlib.Data.List.Nodup
import Mathlib.Data.List.Perm.Subperm
import Turnstile.Store.Table

/-!
# Rows of tables

How the rows of a table relate to its look-ups: a value found is in a row, a test on values keeps
what it passes, and a table has at least as many rows as there are names found in it.
-/

namespace Turnstile.Store.Table

variable {α : Type}

/-- What is put stands last, and replaces the row of its key. -/
@[simp] theorem rows_put (table : Table α) (key : String) (value : α) :
    (table.put key value).rows = table.rows.filter (·.1 != key) ++ [(key, value)] := rfl

/-- A key that is dropped has no row. -/
@[simp] theorem rows_drop (table : Table α) (key : String) :
    (table.drop key).rows = table.rows.filter (·.1 != key) := rfl

/-- The rows that are kept are those that pass the test. -/
@[simp] theorem rows_keep (table : Table α) (test : α → Bool) :
    (table.keep test).rows = table.rows.filter fun row => test row.2 := rfl

/-- A value found under a name is in a row of that name. -/
theorem mem_rows_of_get? {table : Table α} {key : String} {value : α}
    (found : table.get? key = some value) : (key, value) ∈ table.rows := by
  obtain ⟨before, after, split, _⟩ := List.lookup_eq_some_iff.mp found
  rw [split]
  exact List.mem_append_right _ (List.mem_cons_self ..)

/-- A value that passes the test is still found. -/
theorem get?_keep {table : Table α} {test : α → Bool} {key : String} {value : α}
    (found : table.get? key = some value) (passes : test value = true) :
    (table.keep test).get? key = some value := by
  obtain ⟨before, after, split, absent⟩ := List.lookup_eq_some_iff.mp found
  refine List.lookup_eq_some_iff.mpr
    ⟨before.filter fun row => test row.2, after.filter fun row => test row.2, ?_, ?_⟩
  · rw [rows_keep, split, List.filter_append, List.filter_cons, if_pos passes]
  · intro row member
    exact absent row (List.mem_filter.mp member).1

/-- Different names found are in different rows. -/
theorem length_le_size {table : Table α} {names : List String} (distinct : names.Nodup)
    (found : ∀ name ∈ names, ∃ value, table.get? name = some value) :
    names.length ≤ table.size := by
  have rows : names ⊆ table.keys := by
    intro name member
    obtain ⟨value, present⟩ := found name member
    exact List.mem_map.mpr ⟨(name, value), mem_rows_of_get? present, rfl⟩
  calc
    names.length ≤ table.keys.length := (List.subperm_of_subset distinct rows).length_le
    _ = table.size := List.length_map ..

end Turnstile.Store.Table
