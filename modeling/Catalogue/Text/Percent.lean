import Catalogue.Text.Utf8

/-!
Percent-encoding of addresses: letters, digits and the marks of addresses stay, and every other
character is written as the percent-encoded bytes of its UTF-8 form.
-/

namespace Catalogue

def addressMarks : List Char :=
  ['_', '.', '-', '~', ':', '/', '%', '#', '?', '=', '@', '[', ']', '!', '$', '&', '(', ')', '*',
    '+', ',', ';']

def CodePoint.isAddressCharacter (code : CodePoint) : Bool :=
  (0x30 ≤ code.val && code.val ≤ 0x39) || (0x41 ≤ code.val && code.val ≤ 0x5A) ||
    (0x61 ≤ code.val && code.val ≤ 0x7A) || code = CodePoint.apostrophe ||
    addressMarks.any fun mark => code = mark

def percentEncodeByte (byte : UInt8) : Text :=
  ['%', CodePoint.ofChar (Nat.digitChar (byte.toNat / 16)).toUpper,
    CodePoint.ofChar (Nat.digitChar (byte.toNat % 16)).toUpper]

def Text.percentEncoded (text : Text) : Text :=
  text.flatMap fun code =>
    if code.isAddressCharacter then [code] else code.utf8.flatMap percentEncodeByte

end Catalogue
