import Mathlib.Logic.Function.Basic
import AtomResolution.Proofs.Load.Ledger

/-!
Load sequences with the same declarations in another order. Handles count declarations, so the same
declaration has another handle there; a relocation says which one, and a relocated ledger declares what
the ledger declares, under the new handles.
-/

namespace AtomResolution

/-- New handles for old ones. Different handles stay different, and the primitive atoms keep theirs. -/
structure Relocation where
  on : (kind : Kind) → Handle kind → Handle kind
  injective : ∀ kind, Function.Injective (on kind)
  builtin : ∀ atom : AtomId, atom.isBuiltin = true → on .atom atom = atom

namespace Relocation

variable (relocation : Relocation)

def tag : TypeTag → TypeTag
  | .atom id => .atom (relocation.on .atom id)
  | .interfaces set => .interfaces (.ofList (set.members.map (relocation.on .interface)))
  | .dynamic => .dynamic
  | .any => .any

def param (param : Param) : Param :=
  { param with pattern := relocation.tag param.pattern }

def field (spec : FieldSpec) : FieldSpec :=
  { spec with type := relocation.tag spec.type }

def variant (variant : VariantSpec) : VariantSpec :=
  { variant with fields := variant.fields.map relocation.field }

def requirement (requirement : Requirement) : Requirement :=
  ⟨requirement.name, requirement.params.map relocation.param, requirement.defaultBody.map (relocation.on .body)⟩

def interface (decl : InterfaceDecl) : InterfaceDecl :=
  ⟨relocation.on .module decl.owner, decl.name, decl.supers.map (relocation.on .interface),
    decl.requirements.map relocation.requirement⟩

def origin : MethodOrigin → MethodOrigin
  | .declared => .declared
  | .interfaceDefault interface => .interfaceDefault (relocation.on .interface interface)

def method (decl : MethodDecl) : MethodDecl :=
  ⟨relocation.on .module decl.owner, decl.name, relocation.tag decl.receiver, decl.params.map relocation.param,
    relocation.on .body decl.body, relocation.origin decl.origin⟩

def operation : Operation → Operation
  | .declareModule name => .declareModule name
  | .importModule id imported => .importModule (relocation.on .module id) (relocation.on .module imported)
  | .declareAtom owner variant => .declareAtom (relocation.on .module owner) (relocation.variant variant)
  | .declareFamily owner name variants =>
    .declareFamily (relocation.on .module owner) name (variants.map relocation.variant)
  | .declareInterface owner name supers requirements =>
    .declareInterface (relocation.on .module owner) name (supers.map (relocation.on .interface))
      (requirements.map relocation.requirement)
  | .confirm atom interface => .confirm (relocation.on .atom atom) (relocation.on .interface interface)
  | .declareMethod owner name receiver params body =>
    .declareMethod (relocation.on .module owner) name (relocation.tag receiver) (params.map relocation.param)
      (relocation.on .body body)
  | .declareConversion owner source target params body =>
    .declareConversion (relocation.on .module owner) (relocation.on .atom source) (relocation.on .atom target)
      (params.map relocation.param) (relocation.on .body body)

def declared : Declared → Declared
  | .nothing => .nothing
  | .module id => .module (relocation.on .module id)
  | .atom id => .atom (relocation.on .atom id)
  | .family id variants => .family (relocation.on .family id) (variants.map (relocation.on .atom))
  | .interface id => .interface (relocation.on .interface id)
  | .method id => .method (relocation.on .method id)
  | .conversion id => .conversion (relocation.on .conversion id)

def ledger (ledger : Ledger) : Ledger :=
  ledger.map fun (operation, declared) => (relocation.operation operation, relocation.declared declared)

variable {relocation} {entries : Ledger} {atom : AtomId} {interface : InterfaceId}

theorem mem_ledger_iff {operation : Operation} {declared : Declared} :
    (operation, declared) ∈ relocation.ledger entries ↔ ∃ before declaredBefore,
      (before, declaredBefore) ∈ entries ∧ relocation.operation before = operation ∧
        relocation.declared declaredBefore = declared := by
  unfold Relocation.ledger
  simp only [List.mem_map, Prod.exists, Prod.mk.injEq]

theorem on_inj {kind : Kind} {first second : Handle kind} :
    relocation.on kind first = relocation.on kind second ↔ first = second :=
  (relocation.injective kind).eq_iff

theorem isBuiltin_on : AtomId.isBuiltin (relocation.on .atom atom) = true ↔ atom.isBuiltin = true := by
  constructor
  · intro primitive
    rwa [on_inj.1 (relocation.builtin _ primitive)] at primitive
  · intro primitive
    rwa [relocation.builtin atom primitive]

theorem tag_eq_atom_iff {tag : TypeTag} :
    relocation.tag tag = .atom (relocation.on .atom atom) ↔ tag = .atom atom := by
  cases tag with
  | atom id => simp only [Relocation.tag, TypeTag.atom.injEq, on_inj]
  | _ => simp [Relocation.tag]

theorem shapes_iff {operation : Operation} {declared : Declared} {fields : List FieldSpec} :
    (relocation.operation operation).Shapes (relocation.declared declared) (relocation.on .atom atom) fields ↔
      ∃ before, operation.Shapes declared atom before ∧ before.map relocation.field = fields := by
  constructor
  · intro shapes
    generalize moved : relocation.on .atom atom = target at shapes
    cases operation with
    | declareAtom owner variant =>
      cases declared with
      | atom id =>
        cases shapes
        cases on_inj.1 moved
        exact ⟨_, .single, rfl⟩
      | _ => cases shapes
    | declareFamily owner name variants =>
      cases declared with
      | family family ids =>
        cases shapes with
        | variant given shape =>
          rw [List.getElem?_map, Option.map_eq_some_iff] at given shape
          obtain ⟨id, given, same⟩ := given
          obtain ⟨variant, shape, rfl⟩ := shape
          cases on_inj.1 (moved.trans same.symm)
          exact ⟨_, .variant given shape, rfl⟩
      | _ => cases shapes
    | _ => cases shapes
  · rintro ⟨before, shapes, rfl⟩
    cases shapes with
    | single => exact .single
    | @variant _ _ variants _ ids position _ variant given shape =>
      have givenAfter : (ids.map (relocation.on .atom))[position]? = some (relocation.on .atom atom) := by
        rw [List.getElem?_map, given]
        rfl
      have shapeAfter : (variants.map relocation.variant)[position]? = some (relocation.variant variant) := by
        rw [List.getElem?_map, shape]
        rfl
      exact .variant givenAfter shapeAfter

theorem declaresAtom_iff {fields : List FieldSpec} :
    (relocation.ledger entries).DeclaresAtom (relocation.on .atom atom) fields ↔
      ∃ before, entries.DeclaresAtom atom before ∧ before.map relocation.field = fields := by
  unfold Ledger.DeclaresAtom
  simp only [mem_ledger_iff, isBuiltin_on]
  constructor
  · rintro (⟨primitive, rfl⟩ | ⟨_, _, ⟨operation, declared, inside, rfl, rfl⟩, shapes⟩)
    · exact ⟨[], .inl ⟨primitive, rfl⟩, rfl⟩
    · obtain ⟨before, shapesBefore, rfl⟩ := shapes_iff.1 shapes
      exact ⟨before, .inr ⟨operation, declared, inside, shapesBefore⟩, rfl⟩
  · rintro ⟨before, ⟨primitive, rfl⟩ | ⟨operation, declared, inside, shapes⟩, rfl⟩
    · exact .inl ⟨primitive, rfl⟩
    · exact .inr ⟨_, _, ⟨operation, declared, inside, rfl, rfl⟩, shapes_iff.2 ⟨before, shapes, rfl⟩⟩

theorem declaresInterface_iff {decl : InterfaceDecl} :
    (relocation.ledger entries).DeclaresInterface (relocation.on .interface interface) decl ↔
      ∃ before, entries.DeclaresInterface interface before ∧ relocation.interface before = decl := by
  unfold Ledger.DeclaresInterface
  rw [mem_ledger_iff]
  constructor
  · rintro ⟨before, declaredBefore, inside, same, sameDeclared⟩
    cases before with
    | declareInterface owner name supers requirements =>
      cases declaredBefore with
      | interface id =>
        cases decl
        cases same
        cases on_inj.1 (Declared.interface.inj sameDeclared)
        exact ⟨⟨owner, _, supers, requirements⟩, inside, rfl⟩
      | _ => cases sameDeclared
    | _ => cases same
  · rintro ⟨before, inside, rfl⟩
    exact ⟨_, _, inside, rfl, rfl⟩

theorem declaresMethod_iff {decl : MethodDecl} :
    (relocation.ledger entries).DeclaresMethod decl ↔
      ∃ before, entries.DeclaresMethod before ∧ relocation.method before = decl := by
  unfold Ledger.DeclaresMethod
  simp only [mem_ledger_iff]
  constructor
  · rintro ⟨written, id, before, declaredBefore, inside, same, sameDeclared⟩
    cases before with
    | declareMethod owner name receiver params body =>
      cases declaredBefore with
      | method id =>
        cases decl
        cases same
        cases written
        exact ⟨⟨owner, _, receiver, params, body, .declared⟩, ⟨rfl, id, inside⟩, rfl⟩
      | _ => cases sameDeclared
    | _ => cases same
  · rintro ⟨before, ⟨written, id, inside⟩, rfl⟩
    refine ⟨?_, _, _, _, inside, rfl, rfl⟩
    change relocation.origin before.origin = _
    rw [written]
    rfl

theorem confirms_iff {claimed : InterfaceId} :
    (relocation.ledger entries).Confirms (relocation.on .atom atom) claimed ↔
      ∃ before, entries.Confirms atom before ∧ relocation.on .interface before = claimed := by
  unfold Ledger.Confirms
  rw [mem_ledger_iff]
  constructor
  · rintro ⟨before, declaredBefore, inside, same, sameDeclared⟩
    cases before with
    | confirm claimant interface =>
      obtain ⟨sameAtom, sameInterface⟩ := Operation.confirm.inj same
      cases on_inj.1 sameAtom
      cases declaredBefore with
      | nothing => exact ⟨interface, inside, sameInterface⟩
      | _ => cases sameDeclared
    | _ => cases same
  · rintro ⟨before, inside, rfl⟩
    exact ⟨_, _, inside, rfl, rfl⟩

theorem extends_iff {other : InterfaceId} :
    (relocation.ledger entries).Extends (relocation.on .interface interface) other ↔
      ∃ before, entries.Extends interface before ∧ relocation.on .interface before = other := by
  constructor
  · intro reaches
    induction reaches with
    | refl => exact ⟨interface, .refl, rfl⟩
    | tail _ above ih =>
      obtain ⟨before, reaches, rfl⟩ := ih
      obtain ⟨_, declares, named⟩ := above
      obtain ⟨decl, declaresBefore, rfl⟩ := declaresInterface_iff.1 declares
      obtain ⟨super, namedBefore, rfl⟩ := List.mem_map.1 named
      exact ⟨super, reaches.tail ⟨decl, declaresBefore, namedBefore⟩, rfl⟩
  · rintro ⟨before, reaches, rfl⟩
    induction reaches with
    | refl => exact .refl
    | tail _ above ih =>
      obtain ⟨decl, declares, named⟩ := above
      exact ih.tail ⟨_, declaresInterface_iff.2 ⟨decl, declares, rfl⟩, List.mem_map_of_mem named⟩

end Relocation

end AtomResolution
