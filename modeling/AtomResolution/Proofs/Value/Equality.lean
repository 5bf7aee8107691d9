import Mathlib.Data.List.Forall2
import AtomResolution.Value.Equality

/-!
The equality of values, one step at a time. A list of fields equals another one field by field, and whatever is
no number unequal to itself equals itself, whether or not such a number lies deeper in it.
-/

namespace AtomResolution.Value

mutual

def hasNaN : Value → Bool
  | .float number => number.isNaN
  | .atom _ fields => anyNaN fields
  | .int _ | .bool _ | .text _ | .nothing => false

def anyNaN : List Value → Bool
  | [] => false
  | field :: fields => field.hasNaN || anyNaN fields

end

theorem anyNaN_eq (fields : List Value) : anyNaN fields = fields.any hasNaN := by
  induction fields with
  | nil => rfl
  | cons field fields ih => rw [anyNaN, ih, List.any_cons]

theorem hasNaN_of_field {value field : Value} {position : Nat} (none : value.hasNaN = false)
    (holds : value.field? position = some field) : field.hasNaN = false := by
  cases value with
  | atom head fields =>
    rw [hasNaN, anyNaN_eq] at none
    simpa using List.any_eq_false.1 none field (List.mem_of_getElem? holds)
  | _ => cases holds

/-- An instance equals itself by its token or by its storage, without a look at its fields. -/
theorem equals_self_iff {value : Value} :
    value.equals value = true ↔ ∀ number, value = .float number → number.isNaN = false := by
  cases value with
  | float number => simp [equals, Binary64.equals]
  | atom head fields => cases kind : head.kind <;> simp [equals, kind]
  | _ => simp [equals]

theorem equals_self {value : Value} (none : value.hasNaN = false) : value.equals value = true := by
  refine equals_self_iff.2 fun number isFloat => ?_
  subst isFloat
  exact none

theorem equalsAll_iff {left right : List Value} :
    equalsAll left right = true ↔ List.Forall₂ (fun left right => left.equals right = true) left right := by
  induction left generalizing right with
  | nil =>
    rw [List.forall₂_nil_left_iff]
    cases right <;> simp [equalsAll]
  | cons field fields ih =>
    cases right with
    | nil => simp [equalsAll]
    | cons other others => rw [equalsAll, Bool.and_eq_true, ih, List.forall₂_cons]

theorem equals_of_fields {head other : Instance} {fields others : List Value} (sameAtom : head.atom = other.atom)
    (named : head.kind = .named)
    (equal : List.Forall₂ (fun left right => left.equals right = true) fields others) :
    equals (.atom head fields) (.atom other others) = true := by
  simp [equals, sameAtom, named, equalsAll_iff.2 equal]

end AtomResolution.Value
