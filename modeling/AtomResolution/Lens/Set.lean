import AtomResolution.Error.Lens
import AtomResolution.Registry.Basic
import AtomResolution.Value.Supply

/-!
Updates through a lens. A strict update first finds the positions of the fields on the way and checks all
that stands against it, and then rebuilds the instances on the way and no others. A field that belongs to
one of several variants is written only behind a guard that says which one.
-/

namespace AtomResolution

def Selector.position? (registry : Registry) (head : Instance) (fields : List Value) (selector : Selector) :
    Option Nat :=
  let position := match selector with
    | .position index => some index.toNat
    | .field name => registry.fieldIndex? head.atom name
    | .guard _ => none
  position.filter (· < fields.length)

namespace Lens

def mismatch (lens : Lens) (registry : Registry) (value : Value) (reason : MismatchReason) : LensError :=
  .variantMismatch lens (registry.tagOf value) reason

def checkGuards (lens : Lens) (registry : Registry) (value : Value) (reason : MismatchReason) :
    List Selector → Except LensError Unit
  | [] => .ok ()
  | .guard tag :: selectors =>
    if registry.tagOf value = tag then lens.checkGuards registry value reason selectors
    else .error (lens.mismatch registry value reason)
  | _ :: selectors => lens.checkGuards registry value reason selectors

/-- Checks that an instance is the only variant of its family or was pinned by the step before. -/
def checkClosed (lens : Lens) (registry : Registry) (head : Instance) (fields : List Value)
    (previous : Option Selector) : Except LensError Unit :=
  let variants := registry.familyArity head.atom
  if 1 < variants ∧ previous ≠ some (.guard head.tag) then
    .error (lens.mismatch registry (.atom head fields) (.openVariant variants))
  else .ok ()

def checkFieldType (registry : Registry) (atom : AtomId) (position : Nat) (new : Value) :
    Except LensError Unit :=
  match (registry.shape? atom).bind (·[position]?) with
  | none => .ok ()
  | some spec =>
    if registry.isSubtype new.typeTag spec.type then .ok ()
    else .error (.fieldTypeMismatch spec.name spec.type new.typeTag)

/-- The positions of the fields that the remaining steps lead through, with every check of a strict update
on the way. `previous` is the step before the remaining ones. -/
def locate (lens : Lens) (registry : Registry) (new : Value) :
    (previous : Option Selector) → List Selector → Value → Except LensError (List Nat)
  | _, [], _ => .ok []
  | _, .guard tag :: rest, value =>
    if registry.tagOf value = tag then do
      if rest.isEmpty then lens.checkGuards registry new .replacementFailsGuard [.guard tag]
      lens.locate registry new (some (.guard tag)) rest value
    else .error (lens.mismatch registry value .guardFails)
  | previous, selector :: rest, .atom head fields =>
    match selector.position? registry head fields with
    | none => .error (lens.mismatch registry (.atom head fields) .fieldMissing)
    | some position =>
      match fields[position]? with
      | none => .error (lens.mismatch registry (.atom head fields) .fieldMissing)
      | some current =>
        if rest.any Selector.isField then do
          let positions ← lens.locate registry new (some selector) rest current
          return position :: positions
        else do
          lens.checkClosed registry head fields previous
          lens.checkGuards registry current .guardFails rest
          lens.checkGuards registry new .replacementFailsGuard rest
          checkFieldType registry head.atom position new
          return [position]
  | _, _ :: _, value => .error (lens.mismatch registry value .noFields)

end Lens

namespace Value

/-- Replaces what lies at the end of a way of field positions. The instances on the way are built anew, the
innermost first; a way that leads nowhere changes nothing. -/
def replaceAt (value : Value) (new : Value) (supply : Supply) : (positions : List Nat) → Value × Supply
  | [] => (new, supply)
  | position :: positions =>
    match value with
    | .atom head fields =>
      match fields[position]? with
      | some field =>
        let (field, supply) := field.replaceAt new supply positions
        supply.rebuild head (fields.set position field)
      | none => (value, supply)
    | _ => (value, supply)

end Value

namespace Lens

def setStrict (registry : Registry) (lens : Lens) (value new : Value) (supply : Supply) :
    Except LensError (Value × Supply) :=
  match lens.locate registry new none lens.selectors value with
  | .error error => .error error
  | .ok positions => .ok (value.replaceAt new supply positions)

def setSafe (registry : Registry) (lens : Lens) (value new : Value) (supply : Supply) : Value × Supply :=
  match lens.setStrict registry value new supply with
  | .ok (updated, supply) => (updated, supply)
  | .error _ => (value, supply)

end Lens

end AtomResolution
