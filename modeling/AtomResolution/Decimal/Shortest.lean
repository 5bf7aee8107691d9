/-!
The shortest decimal that identifies a binary fraction. A binary fraction stands for the interval of reals
that are nearest to it; `shortest` returns the point of that interval on the coarsest decimal grid that has
one, the nearer of two, and the upper of two equally near. All arithmetic is exact.
-/

namespace AtomResolution

/-- The number `significand * 2 ^ exponent` among the fractions of fixed precision around it. -/
structure BinaryFraction where
  significand : Nat
  exponent : Int
  narrowBelow : Bool
  deriving DecidableEq

structure Decimal where
  digits : Nat
  exponent : Int
  deriving DecidableEq, Repr

namespace BinaryFraction

def quarters (fraction : BinaryFraction) : Nat := 4 * fraction.significand

def lowQuarters (fraction : BinaryFraction) : Nat :=
  if fraction.narrowBelow then fraction.quarters - 1 else fraction.quarters - 2

def highQuarters (fraction : BinaryFraction) : Nat := fraction.quarters + 2

def endsIncluded (fraction : BinaryFraction) : Bool := fraction.significand % 2 = 0

/-- The numerator and the denominator of one quarter, measured in steps of the grid of multiples of
`10 ^ grid`. -/
def quarterOn (fraction : BinaryFraction) (grid : Int) : Nat × Nat :=
  let power := fraction.exponent - 2
  (Nat.pow 2 power.toNat * Nat.pow 10 (-grid).toNat, Nat.pow 2 (-power).toNat * Nat.pow 10 grid.toNat)

def covers (fraction : BinaryFraction) (grid : Int) (point : Nat) : Bool :=
  let (numerator, denominator) := fraction.quarterOn grid
  let low := fraction.lowQuarters * numerator
  let high := fraction.highQuarters * numerator
  let here := point * denominator
  if fraction.endsIncluded then low ≤ here ∧ here ≤ high else low < here ∧ here < high

/-- The point of a grid that the interval holds and that is nearest to the fraction. Only the two points
next to the fraction can be that. -/
def nearestOn (fraction : BinaryFraction) (grid : Int) : Option Nat :=
  let (numerator, denominator) := fraction.quarterOn grid
  let exact := fraction.quarters * numerator
  let below := exact / denominator
  match fraction.covers grid below, fraction.covers grid (below + 1) with
  | true, true =>
    if exact - below * denominator < (below + 1) * denominator - exact then some below else some (below + 1)
  | true, false => some below
  | false, true => some (below + 1)
  | false, false => none

def refine (fraction : BinaryFraction) : (steps : Nat) → (grid : Int) → Option Decimal
  | 0, _ => none
  | steps + 1, grid =>
    match fraction.nearestOn grid with
    | some point => some ⟨point, grid⟩
    | none => refine fraction steps (grid - 1)

def exactly (fraction : BinaryFraction) : Decimal :=
  ⟨fraction.significand * Nat.pow 2 fraction.exponent.toNat * Nat.pow 5 (-fraction.exponent).toNat,
    if fraction.exponent < 0 then fraction.exponent else 0⟩

def coarsest (fraction : BinaryFraction) : Int :=
  (fraction.exponent + fraction.significand.log2 + 1) * 30103 / 100000 + 2

/-- Seventeen digits identify every fraction of 53 bits, which twenty grids below the coarsest reach. -/
def shortest (fraction : BinaryFraction) : Decimal :=
  (fraction.refine 20 fraction.coarsest).getD fraction.exactly

end BinaryFraction

def Decimal.positional (decimal : Decimal) : String :=
  let digits := toString decimal.digits
  if 0 ≤ decimal.exponent then digits ++ "".pushn '0' decimal.exponent.toNat
  else
    let places := (-decimal.exponent).toNat
    let filled := "".pushn '0' (places + 1 - digits.length) ++ digits
    let whole := filled.length - places
    String.ofList (filled.toList.take whole) ++ "." ++ String.ofList (filled.toList.drop whole)

end AtomResolution
