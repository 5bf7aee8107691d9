import AtomResolution.Lens.Selector
import AtomResolution.Text.Identifier

/-!
The path of a lens. A field name is written as it is where it is an identifier, and between quotes otherwise.
-/

namespace AtomResolution

def Selector.render (names : Interner) : Selector → String
  | .position index => "." ++ toString index.toNat
  | .field name =>
    let text := names.lookup name
    if Text.isIdentifier text.toList then "." ++ text else ".\"" ++ text ++ "\""
  | .guard tag => ".(" ++ names.lookup tag ++ ")"

def Lens.render (names : Interner) (lens : Lens) : String :=
  String.join (lens.selectors.map (Selector.render names))

end AtomResolution
