import AtomResolution.Error.Registry
import AtomResolution.Registry.Basic
import AtomResolution.Value.Supply

/-!
Construction of checked instances: as many fields as declared, each of a type that its declaration accepts.
-/

namespace AtomResolution.Registry

def misfit? (registry : Registry) (specs : List FieldSpec) (fields : List Value) : Option (FieldSpec × Value) :=
  (specs.zip fields).find? fun (spec, value) => !registry.isSubtype value.typeTag spec.type

/-- Checks what an instance of an atom would be built from. A primitive atom has no fields to fill: its
instances carry their content otherwise, and only the one of `Nothing`, which has none, can be built. -/
def checkFields (registry : Registry) (atom : AtomId) (fields : List Value) : Except RegistryError AtomDecl :=
  match registry.atoms.get? atom with
  | none => .error (.unknownAtom atom)
  | some decl =>
    if atom.isBuiltin then
      if atom = AtomId.nothing ∧ fields = [] then .ok decl
      else .error (.fieldCountMismatch atom (if atom = AtomId.nothing then 0 else 1) fields.length)
    else if fields.length ≠ decl.fields.length then
      .error (.fieldCountMismatch atom decl.fields.length fields.length)
    else
      match registry.misfit? decl.fields fields with
      | some (spec, value) => .error (.fieldTypeMismatch atom spec.name spec.type value.typeTag)
      | none => .ok decl

def construct (registry : Registry) (atom : AtomId) (fields : List Value) (supply : Supply) :
    Except RegistryError Value × Supply :=
  match registry.checkFields atom fields with
  | .error error => (.error error, supply)
  | .ok decl =>
    if atom.isBuiltin then (.ok .nothing, supply)
    else
      let (value, supply) := supply.build atom decl.tag decl.kind fields
      (.ok value, supply)

variable {registry : Registry} {atom : AtomId} {fields : List Value} {supply later : Supply}

theorem construct_eq_ok_iff {value : Value} : registry.construct atom fields supply = (.ok value, later) ↔
    ∃ decl, registry.checkFields atom fields = .ok decl ∧
      (atom.isBuiltin = true ∧ (value, later) = (.nothing, supply) ∨
        atom.isBuiltin = false ∧ (value, later) = supply.build atom decl.tag decl.kind fields) := by
  unfold construct
  cases registry.checkFields atom fields with
  | error _ => simp
  | ok decl =>
    cases atom.isBuiltin with
    | true => simp [eq_comm]
    | false => simp [eq_comm, Prod.ext_iff]

theorem construct_eq_error_iff {error : RegistryError} :
    registry.construct atom fields supply = (.error error, later) ↔
      registry.checkFields atom fields = .error error ∧ later = supply := by
  unfold construct
  cases registry.checkFields atom fields with
  | error _ => simp [eq_comm]
  | ok _ =>
    cases atom.isBuiltin with
    | true => simp
    | false => simp

end AtomResolution.Registry
