import Catalogue.Server.Response

/-!
Addresses of requests. A path is given with percent-encoding undone; in an address the characters
of it that would end it, or be taken for a slash, are encoded again.
-/

namespace Catalogue

def CodePoint.inAddressPath (code : CodePoint) : Text :=
  if code = '?' then "%3F"
  else if code = '#' then "%23"
  else if code = CodePoint.reverseSolidus then "%5C"
  else [code]

def addressPath (path : Text) : Text := path.flatMap CodePoint.inAddressPath

/-- A text without tabs and line breaks, which an address that is read does not hold. -/
def withoutBreaks (text : Text) : Text :=
  text.filter fun code => code.val ≠ 0x9 ∧ code.val ≠ 0xA ∧ code.val ≠ 0xD

def markedBy (mark : CodePoint) (text : Text) : Text := if text = [] then [] else mark :: text

namespace Request

def addressAt (request : Request) (path : Text) : Text :=
  request.origin ++ addressPath path ++ markedBy '?' request.query

def readPath (request : Request) : Text := withoutBreaks (addressPath request.path)

/-- The address of a request with a slash added to its path. The address is read for that, and a
number sign in the query begins a part of its own. -/
def directoryAddress (request : Request) : Text :=
  let query := withoutBreaks request.query
  let isNumberSign := fun (code : CodePoint) => code = '#'
  request.origin ++ request.readPath ++ Text.ofString "/" ++
    markedBy '?' (query.takeWhile (!isNumberSign ·)) ++
    markedBy '#' ((query.dropWhile (!isNumberSign ·)).drop 1)

end Request

end Catalogue
