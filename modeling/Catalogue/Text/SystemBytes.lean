import Catalogue.Text.Utf8

/-!
Texts as the system stores them. It takes rows of bytes and gives them back, in file names and in
the environment, whether they are UTF-8 or not. A byte that is no part of UTF-8 is kept in a text as
a low surrogate from U+DC80 to U+DCFF, so that two spellings may be stored as the same bytes.
-/

namespace Catalogue

namespace CodePoint

def keptByte? (code : CodePoint) : Option UInt8 :=
  if 0xDC80 ≤ code.val ∧ code.val ≤ 0xDCFF then some (.ofNat (code.val - 0xDC00)) else none

def keeping (byte : UInt8) : CodePoint :=
  ⟨0xDC00 + byte.toNat, by
    have bound := byte.toNat_lt
    omega⟩

def systemBytes (code : CodePoint) : Bytes :=
  match code.keptByte? with
  | some byte => [byte]
  | none => code.utf8

end CodePoint

namespace Text

def systemBytes (text : Text) : Bytes := text.flatMap CodePoint.systemBytes

def ofSystemBytes (bytes : Bytes) : Text :=
  (Utf8.pieces false bytes).flatMap fun piece =>
    match piece with
    | .intact code => [code]
    | .damaged bytes => bytes.map CodePoint.keeping

def stored (text : Text) : Text := ofSystemBytes text.systemBytes

end Text

end Catalogue
