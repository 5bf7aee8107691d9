import AtomResolution.Text.Alphabetic
import AtomResolution.Text.Numeric

/-!
Identifiers: a letter or an underscore, then letters, numbers and underscores.
-/

namespace AtomResolution.Text

def isAlphanumeric (char : Char) : Bool := isAlphabetic char || isNumeric char

def startsIdentifier (char : Char) : Bool := isAlphabetic char || char = '_'

def continuesIdentifier (char : Char) : Bool := isAlphanumeric char || char = '_'

def isIdentifier : List Char → Bool
  | [] => false
  | first :: rest => startsIdentifier first && rest.all continuesIdentifier

def splitIdentifier : List Char → Option (List Char × List Char)
  | [] => none
  | first :: rest =>
    if startsIdentifier first then
      some (first :: rest.takeWhile continuesIdentifier, rest.dropWhile continuesIdentifier)
    else none

theorem continuesIdentifier_of_starts {char : Char} (starts : startsIdentifier char = true) :
    continuesIdentifier char = true := by
  simp only [startsIdentifier, continuesIdentifier, isAlphanumeric, Bool.or_eq_true] at *
  exact starts.imp_left Or.inl

end AtomResolution.Text
