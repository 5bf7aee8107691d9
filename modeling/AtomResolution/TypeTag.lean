import AtomResolution.InterfaceSet

/-!
The lattice of types used for dispatch, conversion and fields: a single atom, all atoms that satisfy a set
of interfaces, and the top. Which atoms satisfy an interface is a parameter; all else is structural.
-/

namespace AtomResolution

inductive TypeTag where
  | atom (id : AtomId)
  | interfaces (set : InterfaceSet)
  | dynamic
  | any
  deriving DecidableEq

inductive Specificity where
  | top
  | structural
  | exact
  deriving DecidableEq, Repr

namespace Specificity

def rank : Specificity → Nat
  | .top => 0
  | .structural => 1
  | .exact => 2

instance : Ord Specificity := ⟨fun left right => compare left.rank right.rank⟩

end Specificity

namespace TypeTag

def isTop : TypeTag → Bool
  | .any | .dynamic => true
  | .atom _ | .interfaces _ => false

def atom? : TypeTag → Option AtomId
  | .atom id => some id
  | .interfaces _ | .dynamic | .any => none

def mentioned : TypeTag → List InterfaceId
  | .interfaces set => set.members
  | .atom _ | .dynamic | .any => []

/-- The empty set of interfaces asks for nothing and ranks as the top. -/
def specificity : TypeTag → Specificity
  | .atom _ => .exact
  | .interfaces set => if set.isEmpty then .top else .structural
  | .dynamic | .any => .top

/-- Compares two patterns by how much they say: `gt` where the first says more, and nothing where neither
says at least as much as the other. Sets compare by inclusion and patterns of different forms by rank. -/
def compareSpecificity : TypeTag → TypeTag → Option Ordering
  | .atom left, .atom right => if left = right then some .eq else none
  | .interfaces left, .interfaces right =>
    match left.isSupersetOf right, right.isSupersetOf left with
    | true, true => some .eq
    | true, false => some .gt
    | false, true => some .lt
    | false, false => none
  | left, right => some (compare left.specificity right.specificity)

/-- Whether a pattern accepts what has the type `actual`, where `satisfies` says which atoms satisfy which
interfaces. -/
def acceptsWith (satisfies : AtomId → InterfaceId → Bool) : (pattern actual : TypeTag) → Bool
  | .any, _ | .dynamic, _ => true
  | .atom expected, .atom found => expected = found
  | .interfaces required, .atom found => required.members.all (satisfies found)
  | .interfaces required, .interfaces known => known.isSupersetOf required
  | .atom _, .interfaces _ | .atom _, .any | .atom _, .dynamic => false
  | .interfaces _, .any | .interfaces _, .dynamic => false

end TypeTag

end AtomResolution
