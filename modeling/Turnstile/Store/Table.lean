/-!
# Tables

A table keeps one value per key. The order of its rows carries no meaning; whoever shows a table
sorts it. Each operation is described by what it does to look-ups.
-/

namespace Turnstile.Store

/-- Rows of keys and values. -/
structure Table (α : Type) where
  rows : List (String × α) := []
deriving Repr

namespace Table

variable {α : Type}

instance : Inhabited (Table α) := ⟨⟨[]⟩⟩

/-- The table without rows. -/
def empty : Table α := ⟨[]⟩

/-- The value under a key. -/
def get? (table : Table α) (key : String) : Option α := table.rows.lookup key

/-- Remove a key. -/
def drop (table : Table α) (key : String) : Table α := ⟨table.rows.filter (·.1 != key)⟩

/-- Put a value under a key, in place of the one before. -/
def put (table : Table α) (key : String) (value : α) : Table α :=
  ⟨(table.drop key).rows ++ [(key, value)]⟩

/-- Keep the rows whose value passes a test. -/
def keep (table : Table α) (test : α → Bool) : Table α := ⟨table.rows.filter fun row => test row.2⟩

/-- The count of rows. -/
def size (table : Table α) : Nat := table.rows.length

/-- There are no rows. -/
def isEmpty (table : Table α) : Bool := table.rows.isEmpty

/-- The keys of the rows. -/
def keys (table : Table α) : List String := table.rows.map (·.1)

/-- An empty table holds nothing. -/
@[simp] theorem get?_empty (key : String) : (empty : Table α).get? key = none := rfl

/-- The first row is found by its key, and hides later rows of that key. -/
private theorem lookup_row (row : String × α) (rest : List (String × α)) (other : String) :
    (row :: rest).lookup other = if other = row.1 then some row.2 else rest.lookup other := by
  obtain ⟨name, value⟩ := row
  by_cases h : other = name
  · simp [h]
  · have hb : (other == name) = false := by simpa using h
    simp [h, hb, List.lookup_cons]

/-- Without the rows of one key, other keys are found as before. -/
private theorem lookup_filter_ne (rows : List (String × α)) (key other : String) :
    (rows.filter (·.1 != key)).lookup other = if other = key then none else rows.lookup other := by
  induction rows with
  | nil => simp
  | cons row rest ih =>
    by_cases hn : row.1 = key
    · have hb : (row.1 != key) = false := by simpa using hn
      simp only [List.filter_cons, hb, Bool.false_eq_true, if_false, lookup_row, ih]
      by_cases ho : other = key <;> simp [ho, hn]
    · have hb : (row.1 != key) = true := by simpa using hn
      simp only [List.filter_cons, hb, if_true, lookup_row, ih]
      by_cases ho : other = row.1
      · have : ¬ other = key := fun h => hn (ho ▸ h)
        simp [ho, hn]
      · simp [ho]

/-- A row at the end is found where no other has its key. -/
private theorem lookup_append_one (rows : List (String × α)) (key other : String) (value : α) :
    (rows ++ [(key, value)]).lookup other =
      (rows.lookup other).or (if other = key then some value else none) := by
  induction rows with
  | nil => simp [lookup_row]
  | cons row rest ih =>
    rw [List.cons_append, lookup_row, lookup_row, ih]
    by_cases h : other = row.1 <;> simp [h]

/-- Removing a key hides it and nothing else. -/
theorem get?_drop (table : Table α) (key other : String) :
    (table.drop key).get? other = if other = key then none else table.get? other := by
  simp only [get?, drop, lookup_filter_ne]

/-- Putting a value shows it under its key and leaves the others. -/
theorem get?_put (table : Table α) (key other : String) (value : α) :
    (table.put key value).get? other = if other = key then some value else table.get? other := by
  simp only [get?, put, drop, lookup_append_one, lookup_filter_ne]
  by_cases h : other = key <;> simp [h]

/-- What is put under a key is found there. -/
@[simp] theorem get?_put_self (table : Table α) (key : String) (value : α) :
    (table.put key value).get? key = some value := by simp [get?_put]

/-- A key that is dropped is not found. -/
@[simp] theorem get?_drop_self (table : Table α) (key : String) :
    (table.drop key).get? key = none := by simp [get?_drop]

end Table

end Turnstile.Store
