import AtomResolution.Lens.Selector
import AtomResolution.Pattern
import AtomResolution.Registry.Basic

/-!
Reading through a lens. A step that a value does not have ends the reading with nothing, never with an error.
-/

namespace AtomResolution

def Registry.layout (registry : Registry) : FieldLayout := registry.fieldIndex?

/-- The value that one step leads to. A field is read by name as an open pattern reads it. -/
def Selector.read (registry : Registry) (value : Value) : Selector → Option Value
  | .position index => value.field? index.toNat
  | .field name => do
    let outcome ← (Pattern.named none [.punned name]).matchValue registry.layout value
    let (_, found) ← outcome.bindings.head?
    return found
  | .guard tag => if registry.tagOf value = tag then some value else none

def Lens.get (registry : Registry) (lens : Lens) (value : Value) : Option Value :=
  lens.selectors.foldlM (Selector.read registry) value

end AtomResolution
