import Catalogue.Text.CodePoint

/-!
Blank characters, as the Unicode properties for spaces and line separators give them. Numbers in
records and in settings may be surrounded by them.
-/

namespace Catalogue

def blanks : List Nat :=
  [0x9, 0xA, 0xB, 0xC, 0xD, 0x1C, 0x1D, 0x1E, 0x1F, 0x20, 0x85, 0xA0, 0x1680, 0x2000, 0x2001,
    0x2002, 0x2003, 0x2004, 0x2005, 0x2006, 0x2007, 0x2008, 0x2009, 0x200A, 0x2028, 0x2029,
    0x202F, 0x205F, 0x3000]

def CodePoint.isBlank (code : CodePoint) : Bool := blanks.contains code.val

def Text.trimBlanks (text : Text) : Text :=
  ((text.dropWhile CodePoint.isBlank).reverse.dropWhile CodePoint.isBlank).reverse

end Catalogue
