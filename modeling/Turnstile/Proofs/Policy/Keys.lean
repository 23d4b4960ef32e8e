import Mathlib.Data.List.Basic
import Turnstile.Policy.Basic
import Turnstile.Settings.Groups

/-!
# Keys of quotas

The key space of a scope contains no colon and is its own, so a key tells its scope and its
identifier, whatever the identifier contains. A policy built from settings gives every scope its
key space.
-/

namespace Turnstile

/-- Scopes are told apart by their key spaces. -/
theorem Scope.keyPrefix_injective : Function.Injective Scope.keyPrefix := by
  have distinct : ∀ first ∈ Scope.all, ∀ second ∈ Scope.all,
      first.keyPrefix = second.keyPrefix → first = second := by decide
  intro first second
  exact distinct first first.mem_all second second.mem_all

/-- No key space contains a colon. -/
theorem Scope.colon_notMem (scope : Scope) : ':' ∉ scope.keyPrefix.toList := by
  have plain : ∀ scope ∈ Scope.all, ':' ∉ scope.keyPrefix.toList := by decide
  exact plain scope scope.mem_all

/-- No key belongs to two quotas. -/
def Policy.KeepsApart (policy : Policy) : Prop :=
  ∀ (scope other : Scope) (identifier name : String),
    (policy.limitOf scope).key identifier = (policy.limitOf other).key name →
      scope = other ∧ identifier = name

namespace Settings.LimitSettings

open Turnstile (Limit Policy)

variable (settings : LimitSettings)

/-- The policy of the settings is the one built from their window lengths and counts. -/
theorem ofWindows_limitsFor :
    Policy.ofWindows (fun scope => settings.limitsFor scope.name) = .ok settings.policy := by
  have made (scope : Scope) : Limit.make (settings.budget scope).window.val
      (settings.budget scope).capacity.val scope.keyPrefix = .ok (settings.limit scope) := by
    unfold Limit.make
    rw [dif_pos (settings.budget scope).window.property,
      dif_pos (settings.budget scope).capacity.property, dif_pos scope.keyPrefix_ne]
    rfl
  have named (scope : Scope) : settings.limitsFor scope.name =
      some ((settings.budget scope).window.val, (settings.budget scope).capacity.val) := by
    rw [limitsFor, Scope.ofName?_name]
    rfl
  simp only [Policy.ofWindows, named, made]
  refine congrArg (fun own => Except.ok (Policy.mk own)) (funext fun scope => ?_)
  cases scope <;> rfl

/-- Under the settings a key tells its scope and its identifier. -/
theorem keepsApart : settings.policy.KeepsApart := by
  intro scope other identifier name same
  have lists : scope.keyPrefix.toList ++ ':' :: identifier.toList =
      other.keyPrefix.toList ++ ':' :: name.toList := by
    have texts := congrArg String.toList same
    simp only [Limit.key, String.toList_append, List.append_assoc] at texts
    exact texts
  have lengths : scope.keyPrefix.toList.length = other.keyPrefix.toList.length := by
    have colons := congrArg (List.idxOf ':') lists
    rwa [List.idxOf_append_of_notMem scope.colon_notMem, List.idxOf_cons_self,
      List.idxOf_append_of_notMem other.colon_notMem, List.idxOf_cons_self] at colons
  obtain ⟨spaces, names⟩ := List.append_inj lists lengths
  exact ⟨Scope.keyPrefix_injective (String.toList_injective spaces),
    String.toList_injective (List.cons.inj names).2⟩

end Settings.LimitSettings

end Turnstile
