import AtomResolution.Error.Conversion

/-!
What can go wrong in resolving a call and in running the conversions it needs.
-/

namespace AtomResolution

inductive DispatchError where
  | ambiguousMethod (method : Name) (candidates : List MethodId)
  | noMatchingMethod (method : Name) (receiver : AtomId) (args : List AtomId)
  | unknownModule (id : ModuleId)
  | explicitModuleDisabled (id : ModuleId)
  | conversion (error : ConversionError)
  | argumentsMismatch (method : MethodId) (position args : Nat)
  deriving DecidableEq

namespace DispatchError

def code : DispatchError → ErrorCode
  | .ambiguousMethod .. => ⟨5001⟩
  | .noMatchingMethod .. => ⟨5002⟩
  | .unknownModule .. => ⟨5003⟩
  | .explicitModuleDisabled .. => ⟨5004⟩
  | .conversion .. => ⟨5005⟩
  | .argumentsMismatch .. => ⟨5006⟩

def message (names : Interner) (catalog : Catalog) : DispatchError → String
  | .ambiguousMethod method candidates =>
    "ambiguous call to " ++ quoted (names.lookup method) ++ ": candidates are " ++
      ", ".intercalate (candidates.map (catalog.describeMethod names))
  | .noMatchingMethod method receiver args =>
    "no method " ++ quoted (names.lookup method) ++ " accepts receiver " ++
      quoted (catalog.describeAtom names receiver) ++ " with argument(s) (" ++
      ", ".intercalate (args.map (catalog.describeAtom names)) ++ ")"
  | .unknownModule id => "unknown module " ++ quoted (catalog.describeModule names id)
  | .explicitModuleDisabled id =>
    "explicit module " ++ quoted (catalog.describeModule names id) ++
      " is not allowed in static-module dispatch"
  | .conversion error => error.message names catalog
  | .argumentsMismatch method position args =>
    "call to " ++ quoted (catalog.describeMethod names method) ++ " plans a conversion for argument " ++
      toString position ++ ", but only " ++ toString args ++ " argument(s) were given"

end DispatchError

end AtomResolution
