import AtomResolution.Catalog.Supers
import AtomResolution.Error.Registry

/-!
The load phase: a catalog that grows, together with the claims of conformance made so far. Every operation
checks all it needs before it declares anything, so one that fails leaves nothing behind.
-/

namespace AtomResolution

structure Builder extends Catalog where
  confirmed : List (AtomId × InterfaceId)
  deriving DecidableEq

namespace Builder

def builtinTags : List Name := [Name.int, Name.float, Name.bool, Name.text, Name.nothing]

def builtinAtoms : List AtomDecl :=
  builtinTags.zipIdx.map fun (tag, index) => ⟨ModuleId.builtins, tag, .named, ⟨index⟩, []⟩

def builtinFamilies : List FamilyDecl :=
  builtinTags.zipIdx.map fun (tag, index) => ⟨ModuleId.builtins, tag, [⟨index⟩]⟩

def new : Builder where
  modules := ⟨[⟨Name.builtins, []⟩]⟩
  atoms := ⟨builtinAtoms⟩
  families := ⟨builtinFamilies⟩
  interfaces := .empty
  methods := .empty
  conversions := .empty
  confirmed := []

def checkModule (builder : Builder) (id : ModuleId) : Except RegistryError Unit :=
  if builder.modules.contains id then .ok () else .error (.unknownModule id)

def checkAtom (builder : Builder) (id : AtomId) : Except RegistryError Unit :=
  if builder.atoms.contains id then .ok () else .error (.unknownAtom id)

def checkInterfaces (builder : Builder) (ids : List InterfaceId) : Except RegistryError Unit :=
  match ids.find? fun id => !builder.interfaces.contains id with
  | some id => .error (.unknownInterface id)
  | none => .ok ()

def checkParams (builder : Builder) (params : List Param) : Except RegistryError Unit :=
  builder.checkInterfaces (params.flatMap fun param => param.pattern.mentioned)

/-- Checks variants from left to right: a tag is new in the module and among the variants before it, and its
fields mention declared interfaces only. -/
def checkVariants (builder : Builder) (owner : ModuleId) :
    (earlier : List Name) → List VariantSpec → Except RegistryError Unit
  | _, [] => .ok ()
  | earlier, variant :: variants =>
    if earlier.contains variant.tag || (builder.atomNamed? owner variant.tag).isSome then
      .error (.duplicateAtomTag owner variant.tag)
    else do
      builder.checkInterfaces (variant.fields.flatMap fun field => field.type.mentioned)
      builder.checkVariants owner (variant.tag :: earlier) variants

def addClaim (atom : AtomId) (claims : List (AtomId × InterfaceId)) (interface : InterfaceId) :
    List (AtomId × InterfaceId) :=
  if claims.contains (atom, interface) then claims else claims ++ [(atom, interface)]

end Builder

end AtomResolution
