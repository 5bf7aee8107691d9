import AtomResolution.Binary64
import AtomResolution.Interner
import AtomResolution.TypeTag

/-!
Values: primitives and instances of declared atoms. An instance carries the declaration it was built from,
the token of its construction and the cell that stores its fields; a primitive is an instance of a
primitive atom and has no fields. A text is its content: which texts share memory is left out.
-/

namespace AtomResolution

inductive AtomKind where
  | named
  | anonymous
  deriving DecidableEq, Repr

structure Instance where
  atom : AtomId
  tag : Name
  kind : AtomKind
  identity : Nat
  /-- The cell that stores the fields. Copies of an instance share it. -/
  storage : Nat
  deriving DecidableEq

inductive Value where
  | int (number : Int)
  | float (number : Binary64)
  | bool (truth : Bool)
  | text (string : String)
  | nothing
  | atom (head : Instance) (fields : List Value)

namespace Value

mutual

def decEq : (left right : Value) → Decidable (left = right)
  | .int left, .int right => decidable_of_iff (left = right) (by simp)
  | .float left, .float right => decidable_of_iff (left = right) (by simp)
  | .bool left, .bool right => decidable_of_iff (left = right) (by simp)
  | .text left, .text right => decidable_of_iff (left = right) (by simp)
  | .nothing, .nothing => isTrue rfl
  | .atom leftHead left, .atom rightHead right =>
    have := decEqAll left right
    decidable_of_iff (leftHead = rightHead ∧ left = right) (by simp)
  | .int _, .float _ | .int _, .bool _ | .int _, .text _ | .int _, .nothing | .int _, .atom _ _
  | .float _, .int _ | .float _, .bool _ | .float _, .text _ | .float _, .nothing | .float _, .atom _ _
  | .bool _, .int _ | .bool _, .float _ | .bool _, .text _ | .bool _, .nothing | .bool _, .atom _ _
  | .text _, .int _ | .text _, .float _ | .text _, .bool _ | .text _, .nothing | .text _, .atom _ _
  | .nothing, .int _ | .nothing, .float _ | .nothing, .bool _ | .nothing, .text _ | .nothing, .atom _ _
  | .atom _ _, .int _ | .atom _ _, .float _ | .atom _ _, .bool _ | .atom _ _, .text _
  | .atom _ _, .nothing => isFalse (by simp)

def decEqAll : (left right : List Value) → Decidable (left = right)
  | [], [] => isTrue rfl
  | [], _ :: _ => isFalse (by simp)
  | _ :: _, [] => isFalse (by simp)
  | left :: lefts, right :: rights =>
    have := decEq left right
    have := decEqAll lefts rights
    decidable_of_iff (left = right ∧ lefts = rights) (by simp)

end

instance : DecidableEq Value := decEq

def atomId : Value → AtomId
  | .int _ => AtomId.int
  | .float _ => AtomId.float
  | .bool _ => AtomId.bool
  | .text _ => AtomId.text
  | .nothing => AtomId.nothing
  | .atom head _ => head.atom

def typeTag (value : Value) : TypeTag := .atom value.atomId

def fields : Value → List Value
  | .atom _ fields => fields
  | .int _ | .float _ | .bool _ | .text _ | .nothing => []

def head? : Value → Option Instance
  | .atom head _ => some head
  | .int _ | .float _ | .bool _ | .text _ | .nothing => none

def int? : Value → Option Int
  | .int number => some number
  | .float _ | .bool _ | .text _ | .nothing | .atom _ _ => none

def text? : Value → Option String
  | .text string => some string
  | .int _ | .float _ | .bool _ | .nothing | .atom _ _ => none

def field? (value : Value) (position : Nat) : Option Value := value.fields[position]?

def sharesFields? (left right : Value) : Option Bool := do
  let leftHead ← left.head?
  let rightHead ← right.head?
  return leftHead.storage = rightHead.storage

end Value

end AtomResolution
