import Catalogue.Number.Double
import Catalogue.Text.Blank

/-!
Decimal numbers and their nearest doubles. An exponent may have any number of digits, so those far
outside the range of doubles are settled by their size; all others are rounded exactly.
-/

namespace Catalogue

/-- The magnitude `coefficient` · 10 ^ `exponent`. -/
structure Decimal where
  coefficient : Nat
  exponent : Int
  deriving DecidableEq

/-- The rank of the nearest double. A coefficient is below 2 ^ (log2 + 1), so an exponent under
-(log2 + 1100) leaves less than half a quantum; an exponent over 310 leaves no finite double. -/
def Decimal.rank (decimal : Decimal) : Nat :=
  if decimal.coefficient = 0 then 0
  else if 310 < decimal.exponent then rankLimit
  else if decimal.exponent + (decimal.coefficient.log2 + 1100 : Nat) < 0 then 0
  else if 0 ≤ decimal.exponent then
    nearestRank (decimal.coefficient * Nat.pow 10 decimal.exponent.toNat * Nat.pow 2 1074) 1
  else nearestRank (decimal.coefficient * Nat.pow 2 1074) (Nat.pow 10 (-decimal.exponent).toNat)

def Decimal.ofDigits (whole fraction : Text) (power : Int) : Decimal :=
  ⟨Text.digitsValue (whole ++ fraction), power - fraction.length⟩

structure SignedDecimal where
  negative : Bool
  magnitude : Decimal
  deriving DecidableEq

def SignedDecimal.toDouble (decimal : SignedDecimal) : Double :=
  Double.ofRank decimal.negative decimal.magnitude.rank

namespace PlainDecimal

def takeSign : Text → Bool × Text
  | code :: text =>
    if code = '-' then (true, text)
    else if code = '+' then (false, text)
    else (false, code :: text)
  | [] => (false, [])

def power? : Text → Option Int
  | [] => some 0
  | mark :: text =>
    if mark = 'e' ∨ mark = 'E' then
      let (negative, digits) := takeSign text
      if digits ≠ [] ∧ digits.all CodePoint.isDigit then
        let power : Int := Text.digitsValue digits
        some (if negative then -power else power)
      else none
    else none

def takeFraction : Text → Text × Text
  | point :: text =>
    if point = '.' then text.span CodePoint.isDigit else ([], point :: text)
  | [] => ([], [])

/-- The number that a text writes: a sign, digits with at most one point among or around them, and
a power of ten. -/
def read? (text : Text) : Option SignedDecimal := do
  let (negative, text) := takeSign text
  let (whole, text) := text.span CodePoint.isDigit
  let (fraction, text) := takeFraction text
  if whole = [] ∧ fraction = [] then none
  else
    let power ← power? text
    some ⟨negative, Decimal.ofDigits whole fraction power⟩

end PlainDecimal

end Catalogue
