import AtomResolution.Decimal.Shortest

/-!
Floating-point numbers as their 64 bits: the comparison of the arithmetic, in which a number that is not a
number differs from itself and the two zeros agree, and the shortest text that reads back as the number.
-/

namespace AtomResolution

structure Binary64 where
  bits : UInt64
  deriving DecidableEq

namespace Binary64

def fraction (number : Binary64) : Nat := number.bits.toNat % Nat.pow 2 52

def exponent (number : Binary64) : Nat := number.bits.toNat / Nat.pow 2 52 % Nat.pow 2 11

def isNegative (number : Binary64) : Bool := Nat.pow 2 63 ≤ number.bits.toNat

def isFinite (number : Binary64) : Bool := number.exponent ≠ 2047

def isNaN (number : Binary64) : Bool := number.exponent = 2047 ∧ number.fraction ≠ 0

def isZero (number : Binary64) : Bool := number.exponent = 0 ∧ number.fraction = 0

def equals (left right : Binary64) : Bool :=
  !left.isNaN && !right.isNaN && (left = right || left.isZero && right.isZero)

def magnitude (number : Binary64) : BinaryFraction :=
  if number.exponent = 0 then ⟨number.fraction, -1074, false⟩
  else ⟨Nat.pow 2 52 + number.fraction, number.exponent - 1075, number.fraction = 0 && 1 < number.exponent⟩

/-- The text of a number: the fewest digits that identify it, never an exponent, no point in whole numbers. -/
def text (number : Binary64) : String :=
  let sign := if number.isNegative then "-" else ""
  if number.isNaN then "NaN"
  else if !number.isFinite then sign ++ "inf"
  else if number.isZero then sign ++ "0"
  else sign ++ number.magnitude.shortest.positional

end Binary64

end AtomResolution
