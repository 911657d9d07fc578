import Mathlib
import Catalogue.Json.Token
import Catalogue.Proofs.Number.Decimal
import Catalogue.Proofs.Text.Digits

/-!
The grammar of JSON as relations between texts and what they denote. A whole number denotes itself,
any other number the double nearest to it. A high surrogate and a low one in escapes side by side
denote one code point. An object keeps the last of several values under a key, in the first place.
-/

namespace Catalogue.Json.Grammar

variable {α : Type}

def AreBlanks (text : Text) : Prop :=
  ∀ code ∈ text, code.val = 0x20 ∨ code.val = 0x9 ∨ code.val = 0xA ∨ code.val = 0xD

def numeral (digits : Text) : Nat :=
  Nat.ofDigits 10 (digits.reverse.map fun code => code.val - 0x30)

theorem numeral_eq (digits : Text) : numeral digits = Text.digitsValue digits := by
  induction digits using List.reverseRecOn with
  | nil => rfl
  | append_singleton digits code ih =>
      rw [numeral] at ih
      rw [numeral, List.reverse_append, List.reverse_singleton, List.singleton_append,
        List.map_cons, Nat.ofDigits_cons, ih, Text.digitsValue_append_code]
      ring

inductive Whole : Text → Prop
  | zero : Whole ['0']
  | digits {first : CodePoint} {rest : Text} : first.isDigit = true → first ≠ '0' →
      Text.AreDigits rest → Whole (first :: rest)

inductive Fraction : Text → Text → Prop
  | absent : Fraction [] []
  | present {digits : Text} : digits ≠ [] → Text.AreDigits digits →
      Fraction (CodePoint.ofChar '.' :: digits) digits

def IsPowerMark (mark : CodePoint) : Prop := mark = 'e' ∨ mark = 'E'

inductive Power : Text → Int → Prop
  | absent : Power [] 0
  | unsigned {mark : CodePoint} {digits : Text} : IsPowerMark mark → digits ≠ [] →
      Text.AreDigits digits → Power (mark :: digits) (numeral digits)
  | positive {mark : CodePoint} {digits : Text} : IsPowerMark mark → digits ≠ [] →
      Text.AreDigits digits →
      Power (mark :: CodePoint.ofChar '+' :: digits) (numeral digits)
  | negative {mark : CodePoint} {digits : Text} : IsPowerMark mark → digits ≠ [] →
      Text.AreDigits digits →
      Power (mark :: CodePoint.ofChar '-' :: digits) (-(numeral digits : Int))

def sign (negative : Bool) : Text := if negative then [CodePoint.ofChar '-'] else []

def magnitude (whole digits : Text) (exponent : Int) : ℚ :=
  numeral (whole ++ digits) * 10 ^ (exponent - digits.length)

inductive Fractional : Text → ℚ → Prop
  | fractional {whole fraction digits power : Text} {exponent : Int} : Whole whole →
      Fraction fraction digits → Power power exponent → (fraction ≠ [] ∨ power ≠ []) →
      Fractional (whole ++ fraction ++ power) (magnitude whole digits exponent)

/-- Values without parts, strings apart. Whole numbers have a limited number of digits. A strict
reader admits no infinite double and no names for doubles that are not finite. -/
inductive Scalar (policy : Policy) : Text → Value → Prop
  | null : Scalar policy (Text.ofString "null") .null
  | true : Scalar policy (Text.ofString "true") (.boolean true)
  | false : Scalar policy (Text.ofString "false") (.boolean false)
  | integer {negative : Bool} {whole : Text} : Whole whole → whole.length ≤ digitLimit →
      Scalar policy (sign negative ++ whole)
        (.integer (if negative then -(numeral whole : Int) else numeral whole))
  | double {negative : Bool} {text : Text} {value : ℚ} {double : Double} : Fractional text value →
      RoundsTo negative value double → (policy = .strict → double.finite?.isSome = true) →
      Scalar policy (sign negative ++ text) (.double double)
  | constant {name : Text} {value : Value} : policy = .lenient → (name, value) ∈ constants →
      Scalar policy name value

inductive ShortEscape : CodePoint → CodePoint → Prop
  | quotationMark : ShortEscape CodePoint.quotationMark CodePoint.quotationMark
  | reverseSolidus : ShortEscape CodePoint.reverseSolidus CodePoint.reverseSolidus
  | solidus : ShortEscape '/' '/'
  | backspace {code : CodePoint} : code.val = 0x8 → ShortEscape 'b' code
  | formFeed {code : CodePoint} : code.val = 0xC → ShortEscape 'f' code
  | lineFeed {code : CodePoint} : code.val = 0xA → ShortEscape 'n' code
  | carriageReturn {code : CodePoint} : code.val = 0xD → ShortEscape 'r' code
  | tabulator {code : CodePoint} : code.val = 0x9 → ShortEscape 't' code

inductive HexDigit : CodePoint → Nat → Prop
  | digit {code : CodePoint} : 0x30 ≤ code.val → code.val ≤ 0x39 → HexDigit code (code.val - 0x30)
  | capital {code : CodePoint} : 0x41 ≤ code.val → code.val ≤ 0x46 →
      HexDigit code (code.val - 0x37)
  | small {code : CodePoint} : 0x61 ≤ code.val → code.val ≤ 0x66 → HexDigit code (code.val - 0x57)

inductive UnitEscape : Text → CodePoint → Prop
  | digits {first second third fourth unit : CodePoint} {a b c d : Nat} :
      HexDigit first a → HexDigit second b → HexDigit third c → HexDigit fourth d →
      unit.val = ((a * 16 + b) * 16 + c) * 16 + d →
      UnitEscape (CodePoint.reverseSolidus :: CodePoint.ofChar 'u' ::
        [first, second, third, fourth]) unit

def BeginsWithLowSurrogate (text : Text) : Prop :=
  ∃ escape rest low, text = escape ++ rest ∧ UnitEscape escape low ∧ low.isLowSurrogate = true

/-- What stands between quotation marks, and the string that it denotes. -/
inductive Characters : Text → Text → Prop
  | done : Characters [] []
  | plain {code : CodePoint} {rest string : Text} : 0x20 ≤ code.val →
      code ≠ CodePoint.quotationMark → code ≠ CodePoint.reverseSolidus →
      Characters rest string → Characters (code :: rest) (code :: string)
  | short {letter code : CodePoint} {rest string : Text} : ShortEscape letter code →
      Characters rest string →
      Characters (CodePoint.reverseSolidus :: letter :: rest) (code :: string)
  | unit {escape rest string : Text} {unit : CodePoint} : UnitEscape escape unit →
      ¬ (unit.isHighSurrogate = true ∧ BeginsWithLowSurrogate rest) → Characters rest string →
      Characters (escape ++ rest) (unit :: string)
  | pair {first second rest string : Text} {high low code : CodePoint} : UnitEscape first high →
      high.isHighSurrogate = true → UnitEscape second low → low.isLowSurrogate = true →
      code.val = 0x10000 + (high.val - 0xD800) * 0x400 + (low.val - 0xDC00) →
      Characters rest string → Characters (first ++ second ++ rest) (code :: string)

inductive Quoted : Text → Text → Prop
  | quoted {characters string : Text} : Characters characters string →
      Quoted (CodePoint.quotationMark :: (characters ++ [CodePoint.quotationMark])) string

/-! Arrays and objects -/

inductive Padded (denotes : Text → α → Prop) : Text → α → Prop
  | padded {before text after : Text} {item : α} : AreBlanks before → denotes text item →
      AreBlanks after → Padded denotes (before ++ text ++ after) item

inductive Separated (denotes : Text → α → Prop) : Text → List α → Prop
  | last {text : Text} {item : α} : denotes text item → Separated denotes text [item]
  | more {text rest : Text} {item : α} {items : List α} : denotes text item →
      Separated denotes rest items →
      Separated denotes (text ++ CodePoint.ofChar ',' :: rest) (item :: items)

inductive Member (denotes : Text → Value → Prop) : Text → Text × Value → Prop
  | member {key text name : Text} {value : Value} :
      Padded Quoted key name → Padded denotes text value →
      Member denotes (key ++ CodePoint.ofChar ':' :: text) (name, value)

/-- Each key once, in the order in which the keys first came, with the value that came last. -/
def merged (members : Members) : Members :=
  (members.map Prod.fst).eraseDups.map fun key =>
    (key, (Members.find? key members.reverse).getD .null)

/-- The rules for values, over a relation for their parts. -/
inductive Rule (policy : Policy) (denotes : Text → Value → Prop) : Text → Value → Prop
  | scalar {text : Text} {value : Value} : Scalar policy text value →
      Rule policy denotes text value
  | string {text string : Text} : Quoted text string → Rule policy denotes text (.string string)
  | emptyArray {blanks : Text} : AreBlanks blanks →
      Rule policy denotes (CodePoint.ofChar '[' :: (blanks ++ [CodePoint.ofChar ']'])) (.array [])
  | array {text : Text} {items : List Value} : Separated (Padded denotes) text items →
      Rule policy denotes (CodePoint.ofChar '[' :: (text ++ [CodePoint.ofChar ']'])) (.array items)
  | emptyObject {blanks : Text} : AreBlanks blanks →
      Rule policy denotes (CodePoint.ofChar '{' :: (blanks ++ [CodePoint.ofChar '}']))
        (.object [])
  | object {text : Text} {members : Members} : Separated (Member denotes) text members →
      Rule policy denotes (CodePoint.ofChar '{' :: (text ++ [CodePoint.ofChar '}']))
        (.object (merged members))

inductive Derives (policy : Policy) : Text → Value → Prop
  | rule {text : Text} {value : Value} : Rule policy (Derives policy) text value →
      Derives policy text value

def Document (policy : Policy) (text : Text) (value : Value) : Prop :=
  Padded (Derives policy) text value

end Catalogue.Json.Grammar
