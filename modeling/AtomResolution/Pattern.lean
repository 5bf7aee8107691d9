import AtomResolution.Value.Basic

/-!
Patterns over values. A pattern may test the constructor alone, bind every field by position, or bind some
fields by name; a pattern by name without a constructor is open and matches whatever has the fields.
-/

namespace AtomResolution

abbrev FieldLayout := AtomId → Name → Option Nat

structure NamedField where
  field : Name
  binder : Name
  deriving DecidableEq

def NamedField.punned (field : Name) : NamedField := ⟨field, field⟩

inductive Pattern where
  | catchAll
  | constructor (atom : AtomId)
  /-- Matches the instances of an atom with as many fields as binders; a field without a binder is skipped. -/
  | positional (atom : AtomId) (binders : List (Option Name))
  /-- Matches what has the fields, and is an instance of the atom if one is given. -/
  | named (atom : Option AtomId) (fields : List NamedField)
  deriving DecidableEq

/-- What a successful match tells: the atom the value is now known to be an instance of, if the pattern
names one, and the bindings in the order of the pattern. -/
structure MatchOutcome where
  refined : Option AtomId
  bindings : List (Name × Value)
  deriving DecidableEq

namespace Pattern

def bindPositions (binders : List (Option Name)) (fields : List Value) : List (Name × Value) :=
  (binders.zip fields).filterMap fun (binder, field) => binder.map fun name => (name, field)

def readField (layout : FieldLayout) (value : Value) (field : Name) : Option Value :=
  (layout value.atomId field).bind value.field?

def bindNames (layout : FieldLayout) (value : Value) : List NamedField → Option (List (Name × Value))
  | [] => some []
  | field :: fields => do
    let found ← readField layout value field.field
    let rest ← bindNames layout value fields
    return (field.binder, found) :: rest

def matchValue (pattern : Pattern) (layout : FieldLayout) (value : Value) : Option MatchOutcome :=
  match pattern with
  | .catchAll => some ⟨none, []⟩
  | .constructor atom => if value.atomId = atom then some ⟨some atom, []⟩ else none
  | .positional atom binders =>
    if value.atomId = atom ∧ value.fields.length = binders.length then
      some ⟨some atom, bindPositions binders value.fields⟩
    else none
  | .named atom fields =>
    if atom.all (value.atomId = ·) then
      (bindNames layout value fields).map fun bindings => ⟨atom, bindings⟩
    else none

def constructor? : Pattern → Option AtomId
  | .catchAll => none
  | .constructor atom | .positional atom _ => some atom
  | .named atom _ => atom

end Pattern

def FieldLayout.ofRows (rows : List (AtomId × List Name)) : FieldLayout := fun atom field => do
  let (_, fields) ← rows.find? fun row => row.1 = atom
  fields.idxOf? field

end AtomResolution
