import Catalogue.Json.Display
import Catalogue.Number.Decimal

/-!
Loose comparison. Parameters of queries are texts, while files mostly store numbers, so a value
and a parameter are compared as numbers where both can be read as finite numbers, and as texts
otherwise. The two readings never mix: a text that is a number equals numbers only.
-/

namespace Catalogue

def Text.number? (text : Text) : Option FiniteDouble := do
  let decimal ← PlainDecimal.read? text.trimBlanks
  decimal.toDouble.finite?

def Json.Value.number? : Json.Value → Option FiniteDouble
  | .integer number => (Double.ofInt number).finite?
  | .double number => number.finite?
  | .string text => text.number?
  | _ => none

def Json.Value.isNamedBy (value : Json.Value) (parameter : Text) : Bool :=
  match value with
  | .null | .boolean _ | .array _ | .object _ => false
  | value =>
    match value.number?, parameter.number? with
    | some left, some right => left.equals right
    | _, _ => value.display = parameter

end Catalogue
