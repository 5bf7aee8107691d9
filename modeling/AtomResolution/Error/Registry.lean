import AtomResolution.Catalog.Describe
import AtomResolution.Error.Code

/-!
What can go wrong in declaring, in freezing and in constructing instances.
-/

namespace AtomResolution

inductive RegistryError where
  | duplicateAtomTag (owner : ModuleId) (tag : Name)
  | fieldCountMismatch (atom : AtomId) (expected found : Nat)
  | fieldTypeMismatch (atom : AtomId) (field : Name) (expected found : TypeTag)
  | duplicateModule (name : Name)
  | unknownModule (id : ModuleId)
  | duplicateInterface (owner : ModuleId) (name : Name)
  | unknownInterface (id : InterfaceId)
  | duplicateMethod (decl : MethodDecl)
  | duplicateConversion (source target : AtomId)
  | conversionRequiresArguments (source target : AtomId) (param : Name)
  | incompleteConformance (atom : AtomId) (interface : InterfaceId) (missing : Name)
  | unknownAtom (id : AtomId)
  deriving DecidableEq

namespace RegistryError

def code : RegistryError → ErrorCode
  | .duplicateAtomTag .. => ⟨4001⟩
  | .fieldCountMismatch .. => ⟨4002⟩
  | .fieldTypeMismatch .. => ⟨4003⟩
  | .duplicateModule .. => ⟨4004⟩
  | .unknownModule .. => ⟨4005⟩
  | .duplicateInterface .. => ⟨4006⟩
  | .unknownInterface .. => ⟨4007⟩
  | .duplicateMethod .. => ⟨4008⟩
  | .duplicateConversion .. => ⟨4009⟩
  | .conversionRequiresArguments .. => ⟨4010⟩
  | .incompleteConformance .. => ⟨4011⟩
  | .unknownAtom .. => ⟨4012⟩

def message (names : Interner) (catalog : Catalog) : RegistryError → String
  | .duplicateAtomTag owner tag =>
    "atom " ++ quoted (names.lookup tag) ++ " is already declared in module " ++
      quoted (catalog.describeModule names owner)
  | .fieldCountMismatch atom expected found =>
    quoted (catalog.describeAtom names atom) ++ " takes " ++ toString expected ++ " field(s), found " ++
      toString found
  | .fieldTypeMismatch atom field expected found =>
    "field " ++ quoted (names.lookup field) ++ " of " ++ quoted (catalog.describeAtom names atom) ++
      " expects " ++ quoted (catalog.describeType names expected) ++ ", found " ++
      quoted (catalog.describeType names found)
  | .duplicateModule name => "module " ++ quoted (names.lookup name) ++ " is already declared"
  | .unknownModule id => "unknown module " ++ quoted id.label
  | .duplicateInterface owner name =>
    "interface " ++ quoted (names.lookup name) ++ " is already declared in module " ++
      quoted (catalog.describeModule names owner)
  | .unknownInterface id => "unknown interface " ++ quoted id.label
  | .duplicateMethod decl =>
    "method " ++ quoted (catalog.describeSignature names decl) ++ " is already declared in module " ++
      quoted (catalog.describeModule names decl.owner)
  | .duplicateConversion source target =>
    "a conversion from " ++ quoted (catalog.describeAtom names source) ++ " to " ++
      quoted (catalog.describeAtom names target) ++ " is already registered"
  | .conversionRequiresArguments source target param =>
    "conversion from " ++ quoted (catalog.describeAtom names source) ++ " to " ++
      quoted (catalog.describeAtom names target) ++ " needs argument " ++ quoted (names.lookup param) ++
      "; extra conversion parameters must have defaults"
  | .incompleteConformance atom interface missing =>
    quoted (catalog.describeAtom names atom) ++ " is declared to implement " ++
      quoted (catalog.describeInterface names interface) ++ " but does not define " ++
      quoted (names.lookup missing)
  | .unknownAtom id => "unknown atom " ++ quoted id.label

end RegistryError

end AtomResolution
