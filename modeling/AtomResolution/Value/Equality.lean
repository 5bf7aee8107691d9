import AtomResolution.Value.Basic

/-!
The equality of values that programs see. Instances of an anonymous atom are equal if they come from one
construction. Instances of a named atom are equal if they share their storage or their fields are equal one
by one, so an instance that holds a number unequal to itself still equals its own copies.
-/

namespace AtomResolution.Value

mutual

def equals : (left right : Value) → Bool
  | .int left, .int right => left = right
  | .float left, .float right => left.equals right
  | .bool left, .bool right => left = right
  | .text left, .text right => left = right
  | .nothing, .nothing => true
  | .atom leftHead left, .atom rightHead right =>
    leftHead.atom = rightHead.atom &&
      match leftHead.kind with
      | .anonymous => leftHead.identity = rightHead.identity
      | .named => leftHead.storage = rightHead.storage || equalsAll left right
  | _, _ => false

def equalsAll : (left right : List Value) → Bool
  | [], [] => true
  | left :: lefts, right :: rights => equals left right && equalsAll lefts rights
  | _, _ => false

end

end AtomResolution.Value
