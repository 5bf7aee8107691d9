import AtomResolution.Value.Basic

/-!
The text of values: an instance is its tag applied to its fields, and an instance with fields that stands
inside another one is put in parentheses.
-/

namespace AtomResolution.Value

mutual

def write (names : Interner) (nested : Bool) : Value → String
  | .int number => toString number
  | .float number => number.text
  | .bool truth => if truth then "true" else "false"
  | .text string => "'" ++ string ++ "'"
  | .nothing => "Nothing"
  | .atom head fields =>
    let tag := names.lookup head.tag
    if fields.isEmpty then tag
    else if nested then "(" ++ tag ++ writeAll names fields ++ ")"
    else tag ++ writeAll names fields

def writeAll (names : Interner) : List Value → String
  | [] => ""
  | field :: fields => " " ++ write names true field ++ writeAll names fields

end

def display (names : Interner) (value : Value) : String := value.write names false

end AtomResolution.Value
