import Catalogue.Json.Value
import Catalogue.Number.Shortest
import Catalogue.Text.Quoted

/-!
Values as messages and addresses show them. A text by itself is shown as it is, and quoted inside
an array or object.
-/

namespace Catalogue.Json

/-- Doubles as they are shown: laid out as in JSON, with short names for those not finite. -/
def displayLayout : DoubleLayout := ⟨-4, 16, 2, "inf", "nan"⟩

def displayBoolean (truth : Bool) : Text := Text.ofString (if truth then "True" else "False")

mutual

def inspectValue (value : Value) (after : Text) : Text :=
  match value with
  | .null => Text.ofString "None" ++ after
  | .boolean truth => displayBoolean truth ++ after
  | .integer number => Text.ofInt number ++ after
  | .double number => displayLayout.write number ++ after
  | .string text => text.quoted ++ after
  | .array [] => '[' :: ']' :: after
  | .array (item :: items) => '[' :: inspectValue item (inspectItems items after)
  | .object [] => '{' :: '}' :: after
  | .object ((key, value) :: members) =>
    '{' :: (key.quoted ++ Text.ofString ": " ++ inspectValue value (inspectMembers members after))

def inspectItems (items : List Value) (after : Text) : Text :=
  match items with
  | [] => ']' :: after
  | item :: items => ',' :: ' ' :: inspectValue item (inspectItems items after)

def inspectMembers (members : Members) (after : Text) : Text :=
  match members with
  | [] => '}' :: after
  | (key, value) :: members =>
    ',' :: ' ' :: (key.quoted ++ Text.ofString ": " ++
      inspectValue value (inspectMembers members after))

end

def Value.inspect (value : Value) : Text := inspectValue value []

def Value.display : Value → Text
  | .string text => text
  | value => value.inspect

end Catalogue.Json
