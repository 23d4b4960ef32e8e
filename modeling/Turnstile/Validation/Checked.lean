import Turnstile.Validation.Complaint

/-!
# Checked values

The outcome of checking several parts: the whole, or every finding in the order of the parts. A
whole is accepted only when each of its parts is.
-/

namespace Turnstile.Validation

/-- A value, or what is wrong with it. -/
inductive Checked (α : Type) where
  | accepted (value : α)
  | refused (findings : List Finding)
deriving Repr

namespace Checked

variable {α β : Type}

/-- Change an accepted value. -/
def map (change : α → β) : Checked α → Checked β
  | .accepted value => .accepted (change value)
  | .refused findings => .refused findings

/-- Apply one checked part to another; findings of both are kept in order. -/
def ap (change : Checked (α → β)) (part : Checked α) : Checked β :=
  match change, part with
  | .accepted change, .accepted value => .accepted (change value)
  | .accepted _, .refused findings => .refused findings
  | .refused findings, .accepted _ => .refused findings
  | .refused findings, .refused more => .refused (findings ++ more)

instance : Functor Checked := ⟨map, fun value => map fun _ => value⟩

instance : Applicative Checked where
  pure := .accepted
  seq change part := ap change (part ())

/-- The findings; none for an accepted value. -/
def findings : Checked α → List Finding
  | .accepted _ => []
  | .refused found => found

/-- Refuse a value for further findings. -/
def withFindings (checked : Checked α) (more : List Finding) : Checked α :=
  match more, checked with
  | [], same => same
  | _, .accepted _ => .refused more
  | _, .refused found => .refused (found ++ more)

/-- Place findings under a name. -/
def under (name : String) : Checked α → Checked α
  | .accepted value => .accepted value
  | .refused found =>
    .refused (found.map fun finding => { finding with place := name :: finding.place })

/-- The outcome of one check at a named place. -/
def ofExcept (name : String) : Except Complaint α → Checked α
  | .ok value => .accepted value
  | .error complaint => .refused [⟨[name], complaint⟩]

/-- Check every element of a list. -/
def each (check : α → Checked β) : List α → Checked (List β)
  | [] => .accepted []
  | element :: rest => ap (map List.cons (check element)) (each check rest)

/-- The value or the findings. -/
def toExcept : Checked α → Except (List Finding) α
  | .accepted value => .ok value
  | .refused found => .error found

end Checked

end Turnstile.Validation
