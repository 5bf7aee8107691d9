/-!
Stable numbers of the errors, one thousand to a phase: declaring and constructing from 4001, dispatch from
5001, conversion from 6001, lenses from 7001.
-/

namespace AtomResolution

structure ErrorCode where
  number : Nat
  deriving DecidableEq

namespace ErrorCode

def all : List ErrorCode :=
  (List.range' 4001 12 ++ List.range' 5001 6 ++ List.range' 6001 3 ++ List.range' 7001 3).map ErrorCode.mk

def text (code : ErrorCode) : String := "E" ++ toString code.number

end ErrorCode

def quoted (text : String) : String := "`" ++ text ++ "`"

end AtomResolution
