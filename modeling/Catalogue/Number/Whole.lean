import Catalogue.Json.Failure
import Catalogue.Text.Blank
import Catalogue.Text.DecimalDigit
import Catalogue.Text.Quoted

/-!
Whole numbers as people write them in settings: blanks around, a sign, and digits of any script,
with single underscores between them where they help.
-/

namespace Catalogue.Whole

inductive Fault where
  | malformed (text : Text)
  | tooManyDigits (count : Nat)
  deriving DecidableEq

def quotedLimit : Nat := 200

def Fault.message : Fault → Text
  | malformed text =>
    Text.ofString "invalid literal for int() with base 10: " ++ text.quoted.take quotedLimit
  | tooManyDigits count => Json.tooManyDigitsMessage count

/-- Blanks that may surround a number. The separators among the ASCII controls may not. -/
def isMargin (code : CodePoint) : Bool :=
  code.isBlank && !(0x1C ≤ code.val && code.val ≤ 0x1F)

def isDigitOrUnderscore (code : CodePoint) : Bool :=
  code.decimalDigit?.isSome || code = '_'

def isGrouped (digits : Text) : Bool := (digits.splitOn '_').all (· ≠ [])

def value (digits : List Nat) : Nat := digits.foldl (fun value digit => value * 10 + digit) 0

def takeSign : Text → Bool × Text
  | code :: text =>
    if code = '-' then (true, text)
    else if code = '+' then (false, text)
    else (false, code :: text)
  | [] => (false, [])

/-- Reads a number. Badly grouped digits are the first fault to count, too many digits the next,
and text after the digits the last. -/
def read (text : Text) : Except Fault Int :=
  let (negative, rest) := takeSign (text.dropWhile isMargin)
  let (spelled, rest) := rest.span isDigitOrUnderscore
  let digits := spelled.filterMap CodePoint.decimalDigit?
  if spelled ≠ [] ∧ !isGrouped spelled then .error (.malformed text)
  else if Json.digitLimit < digits.length then .error (.tooManyDigits digits.length)
  else if digits = [] ∨ rest.dropWhile isMargin ≠ [] then .error (.malformed text)
  else
    let magnitude : Int := value digits
    .ok (if negative then -magnitude else magnitude)

end Catalogue.Whole
