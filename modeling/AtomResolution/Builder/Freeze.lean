import AtomResolution.Builder.Operation
import AtomResolution.Registry.Basic

/-!
Freezing: the default bodies of interfaces become methods of the atoms that claim them, the claims are
checked, and the relation between atoms and the interfaces they satisfy is computed once and for all.
-/

namespace AtomResolution

namespace Catalog

def addMethod (catalog : Catalog) (decl : MethodDecl) : Catalog :=
  if (catalog.methodKeyed? decl.key).isSome then catalog
  else { catalog with methods := catalog.methods.push decl }

/-- The method that a default body becomes. It belongs to the module of its interface. -/
def defaultMethod (atom : AtomId) (interface : InterfaceId) (owner : ModuleId) (requirement : Requirement)
    (body : BodyId) : MethodDecl :=
  ⟨owner, requirement.name, .atom atom, requirement.params, body, .interfaceDefault interface⟩

def defaultsFor (catalog : Catalog) (atom : AtomId) (interface : InterfaceId) (decl : InterfaceDecl) :
    List MethodDecl :=
  (decl.requirements.filter fun requirement => !catalog.defines atom requirement).filterMap
    fun requirement => requirement.defaultBody.map (defaultMethod atom interface decl.owner requirement)

/-- Makes good one claim: the requirements that the atom does not meet get their default bodies, and one
that has none breaks the claim. -/
def materialise (catalog : Catalog) (atom : AtomId) (interface : InterfaceId) :
    Except RegistryError Catalog :=
  match catalog.interfaces.get? interface with
  | none => .ok catalog
  | some decl =>
    match decl.requirements.find? fun requirement =>
        !catalog.defines atom requirement && requirement.defaultBody.isNone with
    | some requirement => .error (.incompleteConformance atom interface requirement.name)
    | none => .ok ((catalog.defaultsFor atom interface decl).foldl addMethod catalog)

def materialiseAll (catalog : Catalog) : List (AtomId × InterfaceId) → Except RegistryError Catalog
  | [] => .ok catalog
  | (atom, interface) :: claims => do
    let catalog ← catalog.materialise atom interface
    catalog.materialiseAll claims

/-- The atoms that satisfy an interface: those that satisfy all its supers and meet all its requirements. -/
def satisfiers (catalog : Catalog) (satisfied : List (AtomId × InterfaceId)) (decl : InterfaceDecl) :
    List AtomId :=
  catalog.atoms.handles.filter fun atom =>
    (decl.supers.all fun super => satisfied.contains (atom, super)) && decl.requirements.all (catalog.defines atom)

/-- Which atoms satisfy which interfaces. Interfaces are visited in declaration order, so the supers of one
are decided before it. -/
def satisfaction (catalog : Catalog) : List (AtomId × InterfaceId) :=
  catalog.interfaces.enum.foldl
    (fun satisfied (interface, decl) =>
      satisfied ++ (catalog.satisfiers satisfied decl).map fun atom => (atom, interface))
    []

end Catalog

def Builder.freeze (builder : Builder) : Except RegistryError Registry := do
  let catalog ← builder.toCatalog.materialiseAll builder.confirmed
  return { catalog with satisfied := catalog.satisfaction }

/-- The registry of a load sequence, or an empty one if it cannot be frozen. -/
def Registry.ofLoad (operations : List Operation) : Registry :=
  match (Builder.new.run operations).freeze with
  | .ok registry => registry
  | .error _ => { Builder.new.toCatalog with satisfied := [] }

end AtomResolution
