/-!
Texts are lists of code points. An escape in a JSON text may name half of a surrogate pair, so a
code point here is any number up to U+10FFFF, surrogates included, which `Char` rules out.
-/

namespace Catalogue

/-- A number from U+0000 to U+10FFFF. -/
@[ext] structure CodePoint where
  val : Nat
  isValid : val < 0x110000
  deriving DecidableEq

abbrev Text := List CodePoint

namespace CodePoint

def ofChar (character : Char) : CodePoint :=
  ⟨character.toNat, by
    have valid := character.valid
    unfold UInt32.isValidChar Nat.isValidChar at valid
    show character.val.toNat < 0x110000
    omega⟩

instance : Coe Char CodePoint := ⟨ofChar⟩

instance : Inhabited CodePoint := ⟨⟨0, by decide⟩⟩

def toChar (code : CodePoint) : Char :=
  if code.val.isValidChar then Char.ofNat code.val else Char.ofNat 0xFFFD

def ofNat? (number : Nat) : Option CodePoint :=
  if valid : number < 0x110000 then some ⟨number, valid⟩ else none

def quotationMark : CodePoint := ⟨0x22, by decide⟩
def apostrophe : CodePoint := ⟨0x27, by decide⟩
def reverseSolidus : CodePoint := ⟨0x5C, by decide⟩
def lineFeed : CodePoint := ⟨0x0A, by decide⟩
def space : CodePoint := ⟨0x20, by decide⟩

/-- U+FFFD, which stands where bytes could not be decoded. -/
def replacement : CodePoint := ⟨0xFFFD, by decide⟩

/-- U+FEFF, which at the front of a text names its byte order. -/
def byteOrderMark : CodePoint := ⟨0xFEFF, by decide⟩

def isHighSurrogate (code : CodePoint) : Bool := 0xD800 ≤ code.val && code.val < 0xDC00

def isLowSurrogate (code : CodePoint) : Bool := 0xDC00 ≤ code.val && code.val < 0xE000

def isSurrogate (code : CodePoint) : Bool := 0xD800 ≤ code.val && code.val < 0xE000

def joinSurrogates (high low : CodePoint) : CodePoint :=
  ⟨0x10000 + high.val % 0x400 * 0x400 + low.val % 0x400, by omega⟩

/-- The UTF-16 code units of a code point; a lone surrogate is its own unit. -/
def units16 (code : CodePoint) : List Nat :=
  if code.val < 0x10000 then [code.val]
  else [0xD800 + (code.val - 0x10000) / 0x400, 0xDC00 + (code.val - 0x10000) % 0x400]

def isDigit (code : CodePoint) : Bool := 0x30 ≤ code.val && code.val ≤ 0x39

def hexDigit? (code : CodePoint) : Option Nat :=
  if 0x30 ≤ code.val ∧ code.val ≤ 0x39 then some (code.val - 0x30)
  else if 0x41 ≤ code.val ∧ code.val ≤ 0x46 then some (code.val - 0x37)
  else if 0x61 ≤ code.val ∧ code.val ≤ 0x66 then some (code.val - 0x57)
  else none

end CodePoint

namespace Text

def ofString (string : String) : Text := string.toList.map CodePoint.ofChar

instance : Coe String Text := ⟨ofString⟩

def toString (text : Text) : String := String.ofList (text.map CodePoint.toChar)

def ofNat (number : Nat) : Text := (Nat.toDigits 10 number).map CodePoint.ofChar

def ofInt : Int → Text
  | .ofNat number => ofNat number
  | .negSucc number => CodePoint.ofChar '-' :: ofNat (number + 1)

def hex : Nat → Nat → Text
  | 0, _ => []
  | width + 1, number =>
    hex width (number / 16) ++ [CodePoint.ofChar (Nat.digitChar (number % 16))]

def digitsValue (digits : Text) : Nat :=
  digits.foldl (fun value code => value * 10 + (code.val - 0x30)) 0

def after? : Text → Text → Option Text
  | text, [] => some text
  | [], _ :: _ => none
  | code :: text, expected :: beginning =>
    if code = expected then after? text beginning else none

def startsWith (text beginning : Text) : Bool := (after? text beginning).isSome

def endsWith (text ending : Text) : Bool := startsWith text.reverse ending.reverse

def splitOn (separator : CodePoint) : Text → List Text
  | [] => [[]]
  | code :: text =>
    match splitOn separator text with
    | [] => [[code]]
    | piece :: pieces =>
      if code = separator then [] :: piece :: pieces else (code :: piece) :: pieces

def dropTrailing (unwanted : CodePoint) (text : Text) : Text :=
  (text.reverse.dropWhile (· = unwanted)).reverse

end Text

end Catalogue
