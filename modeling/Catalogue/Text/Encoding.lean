import Catalogue.Text.Utf8

/-!
The encodings of a JSON file. A byte order mark settles which one it is; without a mark the places
of the zero bytes among the first four do, since a JSON text begins with an ASCII character.
-/

namespace Catalogue

inductive ByteOrder where
  | little
  | big
  deriving DecidableEq

inductive Encoding where
  | utf8
  | utf16 (order : ByteOrder)
  | utf32 (order : ByteOrder)
  deriving DecidableEq

namespace ByteOrder

def bytes16 (order : ByteOrder) (unit : Nat) : Bytes :=
  let high := UInt8.ofNat (unit / 0x100)
  let low := UInt8.ofNat (unit % 0x100)
  match order with
  | little => [low, high]
  | big => [high, low]

def bytes32 (order : ByteOrder) (unit : Nat) : Bytes :=
  match order with
  | little => bytes16 little (unit % 0x10000) ++ bytes16 little (unit / 0x10000)
  | big => bytes16 big (unit / 0x10000) ++ bytes16 big (unit % 0x10000)

def unit16 (order : ByteOrder) (first second : UInt8) : Nat :=
  match order with
  | little => first.toNat + second.toNat * 0x100
  | big => first.toNat * 0x100 + second.toNat

def units16? (order : ByteOrder) (read : List Nat) : Bytes → Option (List Nat)
  | [] => some read.reverse
  | [_] => none
  | first :: second :: bytes => units16? order (order.unit16 first second :: read) bytes

end ByteOrder

def joinUnits16 (read : Text) : List Nat → Option Text
  | [] => some read.reverse
  | unit :: units => do
    let code ← CodePoint.ofNat? unit
    match read with
    | high :: earlier =>
      if high.isHighSurrogate && code.isLowSurrogate then
        joinUnits16 (high.joinSurrogates code :: earlier) units
      else joinUnits16 (code :: read) units
    | [] => joinUnits16 [code] units

def joinUnits32 (order : ByteOrder) (read : Text) : List Nat → Option Text
  | [] => some read.reverse
  | [_] => none
  | first :: second :: units => do
    let code ← CodePoint.ofNat? (match order with
      | .little => first + second * 0x10000
      | .big => first * 0x10000 + second)
    joinUnits32 order (code :: read) units

namespace Encoding

def encode : Encoding → Text → Bytes
  | utf8, text => text.utf8
  | utf16 order, text => (text.flatMap CodePoint.units16).flatMap order.bytes16
  | utf32 order, text => text.flatMap fun code => order.bytes32 code.val

def decode : Encoding → Bytes → Option Text
  | utf8, bytes => Text.ofUtf8? bytes
  | utf16 order, bytes => order.units16? [] bytes >>= joinUnits16 []
  | utf32 order, bytes => order.units16? [] bytes >>= joinUnits32 order []

def mark (encoding : Encoding) : Bytes := encoding.encode [CodePoint.byteOrderMark]

/-- The encodings in the order in which their marks are looked for: the mark of little-endian
UTF-16 begins that of UTF-32. -/
def inMarkOrder : List Encoding :=
  [utf32 .big, utf32 .little, utf16 .big, utf16 .little, utf8]

def marked? (bytes : Bytes) : Option (Encoding × Bytes) :=
  inMarkOrder.findSome? fun encoding =>
    (encoding.mark.isPrefixOf? bytes).map fun rest => (encoding, rest)

def unmarked : Bytes → Encoding
  | first :: second :: third :: fourth :: _ =>
    if first = 0 then if second = 0 then utf32 .big else utf16 .big
    else if second = 0 then if third = 0 ∧ fourth = 0 then utf32 .little else utf16 .little
    else utf8
  | [first, second] =>
    if first = 0 then utf16 .big
    else if second = 0 then utf16 .little
    else utf8
  | _ => utf8

def detect (bytes : Bytes) : Encoding × Bytes := (marked? bytes).getD (unmarked bytes, bytes)

end Encoding

def Text.ofFile? (bytes : Bytes) : Option Text :=
  let (encoding, bytes) := Encoding.detect bytes
  encoding.decode bytes

end Catalogue
