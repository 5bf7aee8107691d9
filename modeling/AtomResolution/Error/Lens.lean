import AtomResolution.Error.Code
import AtomResolution.Lens.Render
import AtomResolution.Lens.Step
import AtomResolution.Catalog.Describe

/-!
What can go wrong in reading a path and in a strict update.
-/

namespace AtomResolution

inductive MismatchReason where
  | guardFails
  | replacementFailsGuard
  | noFields
  | fieldMissing
  /-- The value is one of several variants and no guard says which. -/
  | openVariant (variants : Nat)
  deriving DecidableEq

def MismatchReason.text : MismatchReason → String
  | .guardFails => "variant guard does not match"
  | .replacementFailsGuard => "replacement fails variant guard"
  | .noFields => "value has no fields"
  | .fieldMissing => "field is missing"
  | .openVariant variants => "field belongs to one of " ++ toString variants ++ " variants"

inductive LensError where
  | variantMismatch (lens : Lens) (found : Name) (reason : MismatchReason)
  | fieldTypeMismatch (field : Name) (expected found : TypeTag)
  | invalidPath (path : String) (fault : PathFault)
  deriving DecidableEq

namespace LensError

def code : LensError → ErrorCode
  | .variantMismatch .. => ⟨7001⟩
  | .fieldTypeMismatch .. => ⟨7002⟩
  | .invalidPath .. => ⟨7003⟩

def message (names : Interner) (catalog : Catalog) : LensError → String
  | .variantMismatch lens found reason =>
    "cannot update " ++ quoted (lens.render names) ++ " strictly: " ++ reason.text ++ " at " ++
      quoted (names.lookup found)
  | .fieldTypeMismatch field expected found =>
    "field " ++ quoted (names.lookup field) ++ " expects " ++ quoted (catalog.describeType names expected) ++
      ", found " ++ quoted (catalog.describeType names found)
  | .invalidPath path fault => "invalid path " ++ quoted path ++ ": " ++ fault.message

end LensError

end AtomResolution
