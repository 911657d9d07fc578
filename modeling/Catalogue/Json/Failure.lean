import Catalogue.Text.CodePoint

/-!
Why a text cannot be read as JSON. A fault in the text has a position; a refusal concerns a token
or a nesting that is well formed and still not admitted.
-/

namespace Catalogue.Json

inductive Fault where
  | expectedValue
  | expectedKey
  | expectedColon
  | expectedComma
  | extraText
  | unterminatedString
  | controlCharacter
  | unknownEscape
  | brokenUnicodeEscape
  | byteOrderMark
  deriving DecidableEq

def Fault.message : Fault → String
  | expectedValue => "Expecting value"
  | expectedKey => "Expecting property name enclosed in double quotes"
  | expectedColon => "Expecting ':' delimiter"
  | expectedComma => "Expecting ',' delimiter"
  | extraText => "Extra data"
  | unterminatedString => "Unterminated string starting at"
  | controlCharacter => "Invalid control character at"
  | unknownEscape => "Invalid \\escape"
  | brokenUnicodeEscape => "Invalid \\uXXXX escape"
  | byteOrderMark => "Unexpected UTF-8 BOM (decode using utf-8-sig)"

inductive Refusal where
  | constant (token : Text)
  | outOfRange (token : Text)
  | tooManyDigits (count : Nat)
  | tooDeep
  deriving DecidableEq

def digitLimit : Nat := 4300

def tooManyDigitsMessage (count : Nat) : Text :=
  Text.ofString "Exceeds the limit (" ++ Text.ofNat digitLimit ++
    Text.ofString " digits) for integer string conversion: value has " ++ Text.ofNat count ++
    Text.ofString " digits; use sys.set_int_max_str_digits() to increase the limit"

def Refusal.message : Refusal → Text
  | constant token => Text.ofString "non-standard JSON constant " ++ token
  | outOfRange token => Text.ofString "number out of range: " ++ token
  | tooManyDigits count => tooManyDigitsMessage count
  | tooDeep => Text.ofString "nested too deeply"

/-- A place in a text: the number of code points before it, its line and its column. -/
structure Position where
  index : Nat
  line : Nat
  column : Nat
  deriving DecidableEq

/-- The place after the first `index` code points. Lines and columns count from one, and a column
is counted from the last line feed. -/
def Position.after (text : Text) (index : Nat) : Position :=
  let before := text.take index
  ⟨index, before.count CodePoint.lineFeed + 1,
    (before.reverse.takeWhile (· ≠ CodePoint.lineFeed)).length + 1⟩

inductive Failure where
  | fault (fault : Fault) (position : Position)
  | refusal (refusal : Refusal)
  deriving DecidableEq

def Failure.message : Failure → Text
  | fault cause position =>
    Text.ofString cause.message ++ Text.ofString ": line " ++ Text.ofNat position.line ++
      Text.ofString " column " ++ Text.ofNat position.column ++ Text.ofString " (char " ++
      Text.ofNat position.index ++ Text.ofString ")"
  | refusal cause => cause.message

end Catalogue.Json
