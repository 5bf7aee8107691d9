import AtomResolution.Interner

/-!
The steps of a lens, and a lens as the list of its steps.
-/

namespace AtomResolution

inductive Selector where
  | position (index : UInt64)
  | field (name : Name)
  | guard (tag : Name)
  deriving DecidableEq

def Selector.isField : Selector → Bool
  | .position _ | .field _ => true
  | .guard _ => false

structure Lens where
  selectors : List Selector
  deriving DecidableEq

end AtomResolution
