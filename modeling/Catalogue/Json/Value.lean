import Catalogue.Number.Double
import Catalogue.Text.CodePoint

/-!
JSON values. Whole numbers and doubles are kept apart, and an object keeps its keys in the order
in which they first came.
-/

namespace Catalogue.Json

inductive Value where
  | null
  | boolean (truth : Bool)
  | integer (number : Int)
  | double (number : Double)
  | string (text : Text)
  | array (items : List Value)
  | object (members : List (Text × Value))

instance : Inhabited Value := ⟨.null⟩

abbrev Members := List (Text × Value)

namespace Members

def find? (key : Text) : Members → Option Value
  | [] => none
  | (name, value) :: members => if name = key then some value else find? key members

/-- Puts a value under a key: a known key keeps its place, a new one comes last. -/
def insert (key : Text) (value : Value) : Members → Members
  | [] => [(key, value)]
  | (name, earlier) :: members =>
    if name = key then (name, value) :: members else (name, earlier) :: insert key value members

end Members

namespace Value

def get (members : Members) (key : Text) : Value := (members.find? key).getD null

/-- Whether a value counts as given: nothing empty, zero, false or null does. -/
def isGiven : Value → Bool
  | null => false
  | boolean truth => truth
  | integer number => number ≠ 0
  | double number => !number.isZero
  | string text => text ≠ []
  | array items => !items.isEmpty
  | object members => !members.isEmpty

end Value

end Catalogue.Json
