import AtomResolution.Table
import AtomResolution.Value.Basic

/-!
The declarations of a program and the catalog that holds them: modules, atoms grouped in families,
interfaces, methods and conversions. Every look-up by name is a scan of a table, the first entry first.
-/

namespace AtomResolution

structure ModuleDecl where
  name : Name
  imports : List ModuleId
  deriving DecidableEq

structure FieldSpec where
  name : Name
  type : TypeTag
  deriving DecidableEq

structure VariantSpec where
  tag : Name
  kind : AtomKind
  fields : List FieldSpec
  deriving DecidableEq

structure AtomDecl where
  owner : ModuleId
  tag : Name
  kind : AtomKind
  family : FamilyId
  fields : List FieldSpec
  deriving DecidableEq

/-- The position of the first field with a name. -/
def AtomDecl.fieldIndex? (decl : AtomDecl) (field : Name) : Option Nat :=
  decl.fields.findIdx? fun spec => spec.name = field

structure FamilyDecl where
  owner : ModuleId
  name : Name
  variants : List AtomId
  deriving DecidableEq

structure Param where
  name : Name
  pattern : TypeTag
  hasDefault : Bool
  deriving DecidableEq

/-- A method that an interface asks for, with the body that conforming atoms get if they have none. -/
structure Requirement where
  name : Name
  params : List Param
  defaultBody : Option BodyId
  deriving DecidableEq

structure InterfaceDecl where
  owner : ModuleId
  name : Name
  supers : List InterfaceId
  requirements : List Requirement
  deriving DecidableEq

inductive MethodOrigin where
  | declared
  | interfaceDefault (interface : InterfaceId)
  deriving DecidableEq

structure MethodDecl where
  owner : ModuleId
  name : Name
  receiver : TypeTag
  params : List Param
  body : BodyId
  origin : MethodOrigin
  deriving DecidableEq

structure MethodKey where
  owner : ModuleId
  name : Name
  receiver : TypeTag
  patterns : List TypeTag
  deriving DecidableEq

namespace MethodDecl

def key (decl : MethodDecl) : MethodKey :=
  ⟨decl.owner, decl.name, decl.receiver, decl.params.map Param.pattern⟩

def requiredArity (decl : MethodDecl) : Nat :=
  (decl.params.reverse.dropWhile Param.hasDefault).length

/-- Whether a call with `count` arguments fits: only defaults at the end may be left out. -/
def acceptsArity (decl : MethodDecl) (count : Nat) : Bool :=
  decl.requiredArity ≤ count ∧ count ≤ decl.params.length

def patterns (decl : MethodDecl) (arity : Nat) : List TypeTag :=
  decl.receiver :: (decl.params.take arity).map Param.pattern

end MethodDecl

/-- A conversion between two atoms. Its parameters beside the converted value all have defaults. -/
structure ConversionDecl where
  owner : ModuleId
  source : AtomId
  target : AtomId
  params : List Param
  body : BodyId
  deriving DecidableEq

structure Catalog where
  modules : Table .module ModuleDecl
  atoms : Table .atom AtomDecl
  families : Table .family FamilyDecl
  interfaces : Table .interface InterfaceDecl
  methods : Table .method MethodDecl
  conversions : Table .conversion ConversionDecl
  deriving DecidableEq

namespace Catalog

def moduleNamed? (catalog : Catalog) (name : Name) : Option ModuleId :=
  catalog.modules.find? fun decl => decl.name = name

def atomNamed? (catalog : Catalog) (owner : ModuleId) (tag : Name) : Option AtomId :=
  catalog.atoms.find? fun decl => decl.owner = owner ∧ decl.tag = tag

def familyNamed? (catalog : Catalog) (owner : ModuleId) (name : Name) : Option FamilyId :=
  catalog.families.find? fun decl => decl.owner = owner ∧ decl.name = name

def interfaceNamed? (catalog : Catalog) (owner : ModuleId) (name : Name) : Option InterfaceId :=
  catalog.interfaces.find? fun decl => decl.owner = owner ∧ decl.name = name

def methodKeyed? (catalog : Catalog) (key : MethodKey) : Option MethodId :=
  catalog.methods.find? fun decl => decl.key = key

def conversionBetween? (catalog : Catalog) (source target : AtomId) : Option ConversionId :=
  catalog.conversions.find? fun decl => decl.source = source ∧ decl.target = target

def methodsNamed (catalog : Catalog) (name : Name) : List (MethodId × MethodDecl) :=
  catalog.methods.enum.filter fun (_, decl) => decl.name = name

def conversionsFrom (catalog : Catalog) (source : AtomId) : List (ConversionId × ConversionDecl) :=
  catalog.conversions.enum.filter fun (_, decl) => decl.source = source

def scope (catalog : Catalog) (calling : ModuleId) : List ModuleId :=
  calling :: ((catalog.modules.get? calling).map ModuleDecl.imports).getD []

def shape? (catalog : Catalog) (atom : AtomId) : Option (List FieldSpec) :=
  (catalog.atoms.get? atom).map AtomDecl.fields

def fieldIndex? (catalog : Catalog) (atom : AtomId) (field : Name) : Option Nat :=
  (catalog.atoms.get? atom).bind fun decl => decl.fieldIndex? field

def familyArity (catalog : Catalog) (atom : AtomId) : Nat :=
  (((catalog.atoms.get? atom).bind fun decl => catalog.families.get? decl.family).map
    fun family => family.variants.length).getD 0

def tagOf (catalog : Catalog) (value : Value) : Name :=
  match value.head? with
  | some head => head.tag
  | none => ((catalog.atoms.get? value.atomId).map AtomDecl.tag).getD Name.empty

/-- Whether an atom itself has what a requirement asks for: a method on exactly this atom with as many
parameters, or a field if there are none. -/
def defines (catalog : Catalog) (atom : AtomId) (requirement : Requirement) : Bool :=
  ((catalog.methodsNamed requirement.name).any fun (_, decl) =>
      decl.receiver = .atom atom ∧ decl.params.length = requirement.params.length) ||
    (requirement.params.isEmpty && (catalog.fieldIndex? atom requirement.name).isSome)

end Catalog

end AtomResolution
