import Catalogue.Number.Decimal

/-!
The decimal text of a double: the fewest digits that read back as the same double, and of those
the nearest to it. For one to seventeen digits the two neighbours of the value on the decimal grid
are tried by reading them back. One of them does by then, so that the exact value, which stands
last, is never come to.
-/

namespace Catalogue

/-- The place of the decimal point before the first digit: the least power of ten above the
value. No magnitude but zero is below 10^-324. -/
def decimalPlace (rank : Nat) : Int :=
  (Nat.toDigits 10 (quantaOfRank rank * Nat.pow 10 324 / Nat.pow 2 1074)).length - 324

def gridQuotient (rank : Nat) (power : Int) : Nat × Nat :=
  if 0 ≤ power then (quantaOfRank rank, Nat.pow 2 1074 * Nat.pow 10 power.toNat)
  else (quantaOfRank rank * Nat.pow 10 (-power).toNat, Nat.pow 2 1074)

/-- The neighbour on the grid of a power of ten that reads back, and the nearer one if both do. -/
def gridDecimal? (rank : Nat) (power : Int) : Option Decimal :=
  let (numerator, denominator) := gridQuotient rank power
  let below := numerator / denominator
  let nearest := roundQuotient numerator denominator
  let other := if nearest = below then below + 1 else below
  [nearest, other].findSome? fun coefficient =>
    if Decimal.rank ⟨coefficient, power⟩ = rank then some ⟨coefficient, power⟩ else none

def exactDecimal (rank : Nat) : Decimal := ⟨quantaOfRank rank * Nat.pow 5 1074, -1074⟩

def shortestDecimal (rank : Nat) : Decimal :=
  let place := decimalPlace rank
  ((List.range 17).findSome? fun digits => gridDecimal? rank (place - (digits + 1 : Nat))).getD
    (exactDecimal rank)

structure DoubleLayout where
  /-- The powers of ten of a first digit that are not written, from the least on to the limit. -/
  leastPower : Int
  powerLimit : Int
  powerDigits : Nat
  infinity : String
  nan : String

def Decimal.digits (decimal : Decimal) : Text × Int :=
  let digits := Text.ofNat decimal.coefficient
  (digits.dropTrailing '0', digits.length + decimal.exponent)

namespace DoubleLayout

def zeros (count : Nat) : Text := List.replicate count '0'

def positional (digits : Text) (place : Int) : Text :=
  if place ≤ 0 then zeros 1 ++ "." ++ zeros (-place).toNat ++ digits
  else if digits.length ≤ place.toNat then
    digits ++ zeros (place.toNat - digits.length) ++ "." ++ zeros 1
  else digits.take place.toNat ++ "." ++ digits.drop place.toNat

def scientific (layout : DoubleLayout) (digits : Text) (power : Int) : Text :=
  let fraction : Text := if digits.length ≤ 1 then [] else Text.ofString "." ++ digits.drop 1
  let mark : Text := if power < 0 then "e-" else "e+"
  let magnitude := Text.ofNat power.natAbs
  digits.take 1 ++ fraction ++ mark ++ zeros (layout.powerDigits - magnitude.length) ++ magnitude

def magnitude (layout : DoubleLayout) (rank : Nat) : Text :=
  if rank = 0 then positional [] 0 ++ zeros 1
  else
    let (digits, place) := (shortestDecimal rank).digits
    let power := place - 1
    if layout.leastPower ≤ power ∧ power < layout.powerLimit then positional digits place
    else layout.scientific digits power

def sign (negative : Bool) : Text := if negative then "-" else []

def write (layout : DoubleLayout) : Double → Text
  | .finite value => sign value.negative ++ layout.magnitude value.rank
  | .infinite negative => sign negative ++ layout.infinity
  | .nan => layout.nan

end DoubleLayout

end Catalogue
