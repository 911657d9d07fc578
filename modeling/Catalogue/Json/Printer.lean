import Catalogue.Json.Value
import Catalogue.Number.Shortest

/-!
Writing JSON. One printer serves all forms: a style says whether characters outside ASCII are
escaped and whether lines are broken and indented. Every function writes in front of a given text.
-/

namespace Catalogue.Json

structure Style where
  asciiOnly : Bool
  /-- The spaces of one level of indentation; without it everything is on one line. -/
  indent : Option Nat

namespace Style

def compact : Style := ⟨false, none⟩

def ascii : Style := ⟨true, none⟩

def indented : Style := ⟨false, some 2⟩

end Style

/-- Doubles in JSON: a power of ten is written for a first digit below the place 10^-4 or from
10^16 on, with a sign and at least two digits. -/
def doubleLayout : DoubleLayout := ⟨-4, 16, 2, "Infinity", "NaN"⟩

def unicodeEscape (unit : Nat) : Text := CodePoint.reverseSolidus :: 'u' :: Text.hex 4 unit

def writeCode (style : Style) (code : CodePoint) : Text :=
  if code = CodePoint.quotationMark ∨ code = CodePoint.reverseSolidus then
    [CodePoint.reverseSolidus, code]
  else if code.val = 0x8 then [CodePoint.reverseSolidus, 'b']
  else if code.val = 0x9 then [CodePoint.reverseSolidus, 't']
  else if code.val = 0xA then [CodePoint.reverseSolidus, 'n']
  else if code.val = 0xC then [CodePoint.reverseSolidus, 'f']
  else if code.val = 0xD then [CodePoint.reverseSolidus, 'r']
  else if code.val < 0x20 then unicodeEscape code.val
  else if style.asciiOnly ∧ 0x7F ≤ code.val then code.units16.flatMap unicodeEscape
  else [code]

def writeString (style : Style) (string after : Text) : Text :=
  CodePoint.quotationMark ::
    (string.flatMap (writeCode style) ++ CodePoint.quotationMark :: after)

def writeBreak (style : Style) (level : Nat) (after : Text) : Text :=
  match style.indent with
  | none => after
  | some width => CodePoint.lineFeed :: (List.replicate (width * level) CodePoint.space ++ after)

def writeColon (style : Style) (after : Text) : Text :=
  match style.indent with
  | none => ':' :: after
  | some _ => ':' :: ' ' :: after

mutual

def writeValue (style : Style) (level : Nat) (value : Value) (after : Text) : Text :=
  match value with
  | .null => Text.ofString "null" ++ after
  | .boolean true => Text.ofString "true" ++ after
  | .boolean false => Text.ofString "false" ++ after
  | .integer number => Text.ofInt number ++ after
  | .double number => doubleLayout.write number ++ after
  | .string text => writeString style text after
  | .array [] => '[' :: ']' :: after
  | .array (item :: items) =>
    '[' :: writeBreak style (level + 1)
      (writeValue style (level + 1) item (writeItems style level items after))
  | .object [] => '{' :: '}' :: after
  | .object ((key, value) :: members) =>
    '{' :: writeBreak style (level + 1) (writeString style key (writeColon style
      (writeValue style (level + 1) value (writeMembers style level members after))))

def writeItems (style : Style) (level : Nat) (items : List Value) (after : Text) : Text :=
  match items with
  | [] => writeBreak style level (']' :: after)
  | item :: items =>
    ',' :: writeBreak style (level + 1)
      (writeValue style (level + 1) item (writeItems style level items after))

def writeMembers (style : Style) (level : Nat) (members : Members) (after : Text) : Text :=
  match members with
  | [] => writeBreak style level ('}' :: after)
  | (key, value) :: members =>
    ',' :: writeBreak style (level + 1) (writeString style key (writeColon style
      (writeValue style (level + 1) value (writeMembers style level members after))))

end

def Value.write (style : Style) (value : Value) : Text := writeValue style 0 value []

end Catalogue.Json
