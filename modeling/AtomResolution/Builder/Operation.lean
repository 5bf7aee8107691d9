import AtomResolution.Builder.Declare

/-!
Load-phase operations as data, so that a whole load sequence is a list and the builder it leads to a fold.
-/

namespace AtomResolution

inductive Operation where
  | declareModule (name : Name)
  | importModule (id imported : ModuleId)
  | declareAtom (owner : ModuleId) (variant : VariantSpec)
  | declareFamily (owner : ModuleId) (name : Name) (variants : List VariantSpec)
  | declareInterface (owner : ModuleId) (name : Name) (supers : List InterfaceId)
      (requirements : List Requirement)
  | confirm (atom : AtomId) (interface : InterfaceId)
  | declareMethod (owner : ModuleId) (name : Name) (receiver : TypeTag) (params : List Param) (body : BodyId)
  | declareConversion (owner : ModuleId) (source target : AtomId) (params : List Param) (body : BodyId)
  deriving DecidableEq

inductive Declared where
  | nothing
  | module (id : ModuleId)
  | atom (id : AtomId)
  | family (id : FamilyId) (variants : List AtomId)
  | interface (id : InterfaceId)
  | method (id : MethodId)
  | conversion (id : ConversionId)
  deriving DecidableEq

namespace Builder

def apply (builder : Builder) : Operation → Except RegistryError (Declared × Builder)
  | .declareModule name => do
    let (id, after) ← builder.declareModule name
    return (.module id, after)
  | .importModule id imported => do
    let after ← builder.importModule id imported
    return (.nothing, after)
  | .declareAtom owner variant => do
    let (id, after) ← builder.declareAtom owner variant
    return (.atom id, after)
  | .declareFamily owner name variants => do
    let ((family, ids), after) ← builder.declareFamily owner name variants
    return (.family family ids, after)
  | .declareInterface owner name supers requirements => do
    let (id, after) ← builder.declareInterface owner name supers requirements
    return (.interface id, after)
  | .confirm atom interface => do
    let after ← builder.confirm atom interface
    return (.nothing, after)
  | .declareMethod owner name receiver params body => do
    let (id, after) ← builder.declareMethod owner name receiver params body
    return (.method id, after)
  | .declareConversion owner source target params body => do
    let (id, after) ← builder.declareConversion owner source target params body
    return (.conversion id, after)

/-- The builder after one operation; one that fails leaves it as it was. -/
def step (builder : Builder) (operation : Operation) : Builder :=
  match builder.apply operation with
  | .ok (_, after) => after
  | .error _ => builder

def run (builder : Builder) (operations : List Operation) : Builder :=
  operations.foldl step builder

end Builder

end AtomResolution
