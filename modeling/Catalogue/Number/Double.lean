/-!
Binary floating-point numbers of double precision, exactly. The magnitudes are numbered in
increasing order, and the number of a magnitude, its rank, is also its bit pattern. Every
magnitude is a whole number of quanta of 2^-1074, so that values are compared in `Nat` and `Int`.
-/

namespace Catalogue

/-- The first rank past the finite magnitudes. -/
def rankLimit : Nat := 2047 * Nat.pow 2 52

/-- A finite double: its sign, which a zero has too, and the rank of its magnitude. -/
structure FiniteDouble where
  negative : Bool
  rank : Nat
  rank_lt : rank < rankLimit
  deriving DecidableEq

inductive Double where
  | finite (value : FiniteDouble)
  | infinite (negative : Bool)
  | nan
  deriving DecidableEq

/-- The quanta in the magnitude of a rank. Below 2^53 magnitudes are one quantum apart, and from
there the distance doubles with every 2^52 ranks. -/
def quantaOfRank (rank : Nat) : Nat :=
  if rank < Nat.pow 2 53 then rank
  else (Nat.pow 2 52 + rank % Nat.pow 2 52) * Nat.pow 2 (rank / Nat.pow 2 52 - 1)

/-- The whole number nearest to a quotient; of two equally near ones the even. -/
def roundQuotient (numerator denominator : Nat) : Nat :=
  let whole := numerator / denominator
  let twice := 2 * (numerator % denominator)
  if twice < denominator then whole
  else if denominator < twice then whole + 1
  else whole + whole % 2

/-- The rank nearest to a quotient of quanta; of two equally near ones the even. Ranks from
`rankLimit` on say that the quotient rounds past every finite double. -/
def nearestRank (numerator denominator : Nat) : Nat :=
  let spacing := (numerator / denominator).log2 - 52
  spacing * Nat.pow 2 52 + roundQuotient numerator (denominator * Nat.pow 2 spacing)

namespace FiniteDouble

def quanta (double : FiniteDouble) : Int :=
  if double.negative then -(quantaOfRank double.rank : Int) else quantaOfRank double.rank

/-- Numerical equality, for which the two zeros are one. -/
def equals (left right : FiniteDouble) : Bool := left.quanta = right.quanta

def atMost (left right : FiniteDouble) : Bool := left.quanta ≤ right.quanta

def whole? (double : FiniteDouble) : Option Int :=
  if double.quanta % Int.pow 2 1074 = 0 then some (double.quanta / Int.pow 2 1074) else none

def bits (double : FiniteDouble) : BitVec 64 :=
  BitVec.ofNat 64 ((if double.negative then Nat.pow 2 63 else 0) + double.rank)

end FiniteDouble

namespace Double

def ofRank (negative : Bool) (rank : Nat) : Double :=
  if rank_lt : rank < rankLimit then finite ⟨negative, rank, rank_lt⟩ else infinite negative

def ofInt (number : Int) : Double :=
  ofRank (number < 0) (nearestRank (number.natAbs * Nat.pow 2 1074) 1)

def finite? : Double → Option FiniteDouble
  | finite value => some value
  | _ => none

def isZero : Double → Bool
  | finite value => value.rank = 0
  | _ => false

end Double

end Catalogue
