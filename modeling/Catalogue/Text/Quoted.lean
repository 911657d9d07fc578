import Catalogue.Text.Printable

/-!
Texts as messages quote them: between apostrophes, or between quotation marks when the text holds
an apostrophe and no quotation mark. The mark in use and the reverse solidus are escaped, and so
is every character that cannot be shown.
-/

namespace Catalogue

def CodePoint.quotedBy (mark code : CodePoint) : Text :=
  if code = mark ∨ code = reverseSolidus then [reverseSolidus, code]
  else if code.val = 0x9 then [reverseSolidus, 't']
  else if code.val = 0xA then [reverseSolidus, 'n']
  else if code.val = 0xD then [reverseSolidus, 'r']
  else if code.isPrintable then [code]
  else if code.val < 0x100 then reverseSolidus :: 'x' :: Text.hex 2 code.val
  else if code.val < 0x10000 then reverseSolidus :: 'u' :: Text.hex 4 code.val
  else reverseSolidus :: 'U' :: Text.hex 8 code.val

def Text.quotingMark (text : Text) : CodePoint :=
  if text.contains CodePoint.apostrophe && !text.contains CodePoint.quotationMark then
    CodePoint.quotationMark
  else CodePoint.apostrophe

def Text.quoted (text : Text) : Text :=
  text.quotingMark :: text.flatMap (CodePoint.quotedBy text.quotingMark) ++ [text.quotingMark]

end Catalogue
