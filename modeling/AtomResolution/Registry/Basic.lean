import AtomResolution.Catalog.Basic
import AtomResolution.Error.Conversion

/-!
The frozen registry: the declarations of a program together with the relation between atoms and the
interfaces they satisfy. Its queries decide subtyping and pick conversions.
-/

namespace AtomResolution

structure Registry extends Catalog where
  satisfied : List (AtomId × InterfaceId)
  deriving DecidableEq

namespace Registry

def satisfies (registry : Registry) (atom : AtomId) (interface : InterfaceId) : Bool :=
  registry.satisfied.contains (atom, interface)

def isSubtype (registry : Registry) (actual pattern : TypeTag) : Bool :=
  pattern.acceptsWith registry.satisfies actual

def accepts (registry : Registry) (pattern : TypeTag) (atom : AtomId) : Bool :=
  registry.isSubtype (.atom atom) pattern

def applicable (registry : Registry) (source : AtomId) (target : TypeTag) :
    List (ConversionId × ConversionDecl) :=
  (registry.conversionsFrom source).filter fun (_, decl) => registry.accepts target decl.target

/-- The conversion that turns an instance of an atom into what a pattern accepts. Where the pattern is an
atom it is looked up directly; otherwise there must be exactly one that applies. -/
def findConversion (registry : Registry) (source : AtomId) (target : TypeTag) :
    Except ConversionError ConversionId :=
  match target.atom?.bind (registry.conversionBetween? source) with
  | some id => .ok id
  | none =>
    match registry.applicable source target with
    | [] => .error (.noConversion source target)
    | [(id, _)] => .ok id
    | several => .error (.ambiguousConversion source target (several.map fun (_, decl) => decl.target))

end Registry

end AtomResolution
