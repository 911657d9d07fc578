import Catalogue.Json.Failure
import Catalogue.Json.Value
import Catalogue.Number.Decimal

/-!
The tokens of JSON: blanks, names, numbers and strings. Every reader takes a text from its front
and returns what it read with the text that is left.
-/

namespace Catalogue.Json

/-- Why reading stopped: a fault, with the text that was left at its place, or a refusal. -/
inductive Halt where
  | fault (fault : Fault) (unread : Text)
  | refusal (refusal : Refusal)

abbrev Reader (α : Type) := Text → Except Halt (α × Text)

def faultAt {α : Type} (fault : Fault) (unread : Text) : Except Halt α :=
  .error (.fault fault unread)

def refuse {α : Type} (refusal : Refusal) : Except Halt α := .error (.refusal refusal)

/-- Which tokens beyond the grammar are admitted: the names of the doubles that are not finite,
and numbers that only an infinity comes near. -/
inductive Policy where
  | strict
  | lenient
  deriving DecidableEq

def isBlank (code : CodePoint) : Bool :=
  code.val = 0x20 || code.val = 0x9 || code.val = 0xA || code.val = 0xD

def skipBlanks (text : Text) : Text := text.dropWhile isBlank

/-- A number as it is spelled. A fraction begins with its point and a power with its mark. -/
structure NumberToken where
  negative : Bool
  whole : Text
  fraction : Text
  power : Text
  deriving DecidableEq

namespace NumberToken

def spelling (token : NumberToken) : Text :=
  sign token.negative ++ token.whole ++ token.fraction ++ token.power
where
  sign (negative : Bool) : Text := if negative then Text.ofString "-" else []

def isInteger (token : NumberToken) : Bool := token.fraction.isEmpty && token.power.isEmpty

def toInt (token : NumberToken) : Int :=
  let magnitude : Int := Text.digitsValue token.whole
  if token.negative then -magnitude else magnitude

def toDouble (token : NumberToken) : Double :=
  SignedDecimal.toDouble
    ⟨token.negative, Decimal.ofDigits token.whole (token.fraction.drop 1)
      ((PlainDecimal.power? token.power).getD 0)⟩

def takeMinus (text : Text) : Bool × Text :=
  match text with
  | code :: rest => if code = '-' then (true, rest) else (false, text)
  | [] => (false, [])

def takeWhole? (text : Text) : Option (Text × Text) :=
  match text with
  | code :: rest =>
    if code = '0' then some ([code], rest)
    else if code.isDigit then some (text.span CodePoint.isDigit)
    else none
  | [] => none

def takeFraction (text : Text) : Text × Text :=
  match text with
  | point :: rest =>
    let (digits, unread) := rest.span CodePoint.isDigit
    if point = '.' ∧ digits ≠ [] then (point :: digits, unread) else ([], text)
  | [] => ([], [])

def takeSign (text : Text) : Text × Text :=
  match text with
  | code :: rest => if code = '+' ∨ code = '-' then ([code], rest) else ([], text)
  | [] => ([], [])

def takePower (text : Text) : Text × Text :=
  match text with
  | mark :: rest =>
    let (sign, rest) := takeSign rest
    let (digits, unread) := rest.span CodePoint.isDigit
    if (mark = 'e' ∨ mark = 'E') ∧ digits ≠ [] then (mark :: sign ++ digits, unread)
    else ([], text)
  | [] => ([], [])

def read? (text : Text) : Option (NumberToken × Text) := do
  let (negative, rest) := takeMinus text
  let (whole, rest) ← takeWhole? rest
  let (fraction, rest) := takeFraction rest
  let (power, rest) := takePower rest
  some (⟨negative, whole, fraction, power⟩, rest)

def value (policy : Policy) (token : NumberToken) : Except Halt Value :=
  if token.isInteger then
    if digitLimit < token.whole.length then refuse (.tooManyDigits token.whole.length)
    else .ok (.integer token.toInt)
  else match token.toDouble, policy with
    | .finite number, _ => .ok (.double (.finite number))
    | _, .strict => refuse (.outOfRange token.spelling)
    | number, .lenient => .ok (.double number)

end NumberToken

def names : List (Text × Value) :=
  [("null", .null), ("true", .boolean true), ("false", .boolean false)]

def constants : List (Text × Value) :=
  [("NaN", .double .nan), ("Infinity", .double (.infinite false)),
    ("-Infinity", .double (.infinite true))]

def readName? (names : List (Text × Value)) (text : Text) : Option (Text × Value × Text) :=
  names.findSome? fun (name, value) => (text.after? name).map fun rest => (name, value, rest)

def readScalar (policy : Policy) : Reader Value := fun text =>
  match readName? names text, readName? constants text with
  | some (_, value, rest), _ => .ok (value, rest)
  | none, some (name, value, rest) =>
    match policy with
    | .strict => refuse (.constant name)
    | .lenient => .ok (value, rest)
  | none, none =>
    match NumberToken.read? text with
    | none => faultAt .expectedValue text
    | some (token, rest) => (token.value policy).map fun value => (value, rest)

def readUnit? : Text → Option (CodePoint × Text)
  | first :: second :: third :: fourth :: next :: rest => do
    let first ← first.hexDigit?
    let second ← second.hexDigit?
    let third ← third.hexDigit?
    let fourth ← fourth.hexDigit?
    let unit ← CodePoint.ofNat? (((first * 16 + second) * 16 + third) * 16 + fourth)
    some (unit, next :: rest)
  | _ => none

def shortEscapes : List (CodePoint × CodePoint) :=
  [(CodePoint.quotationMark, CodePoint.quotationMark),
    (CodePoint.reverseSolidus, CodePoint.reverseSolidus), ('/', '/'),
    ('b', ⟨0x8, by decide⟩), ('f', ⟨0xC, by decide⟩), ('n', CodePoint.lineFeed),
    ('r', ⟨0xD, by decide⟩), ('t', ⟨0x9, by decide⟩)]

/-- The code point of an escape whose first unit is known. A high surrogate takes the low one of
an escape right after it, and an escape there that is no unit is a fault at once. -/
def readPair (unit : CodePoint) (text : Text) : Except Halt (CodePoint × Text) :=
  match text with
  | solidus :: letter :: digits =>
    if unit.isHighSurrogate ∧ solidus = CodePoint.reverseSolidus ∧ letter = 'u' ∧
        digits.drop 4 ≠ [] then
      match readUnit? digits with
      | none => faultAt .brokenUnicodeEscape (letter :: digits)
      | some (low, rest) =>
        if low.isLowSurrogate then .ok (unit.joinSurrogates low, rest) else .ok (unit, text)
    else .ok (unit, text)
  | _ => .ok (unit, text)

def readEscape (opening : Text) : Reader CodePoint := fun text =>
  match text with
  | solidus :: letter :: rest =>
    if letter = 'u' then
      match readUnit? rest with
      | none => faultAt .brokenUnicodeEscape (letter :: rest)
      | some (unit, rest) => readPair unit rest
    else match shortEscapes.find? (·.1 = letter) with
      | some (_, code) => .ok (code, rest)
      | none => faultAt .unknownEscape (solidus :: letter :: rest)
  | _ => faultAt .unterminatedString opening

/-- The rest of a string that began at `opening`, after what is read of it, the last first. Each
round takes at least one code point, so a limit above the length of the text is never met. -/
def readStringBody (opening : Text) : Nat → Text → Reader Text
  | 0, _, _ => refuse .tooDeep
  | _ + 1, _, [] => faultAt .unterminatedString opening
  | limit + 1, read, code :: rest =>
    if code = CodePoint.quotationMark then .ok (read.reverse, rest)
    else if code = CodePoint.reverseSolidus then do
      let (escaped, rest) ← readEscape opening (code :: rest)
      readStringBody opening limit (escaped :: read) rest
    else if code.val < 0x20 then faultAt .controlCharacter (code :: rest)
    else readStringBody opening limit (code :: read) rest

end Catalogue.Json
