import Catalogue.Json.Token

/-!
Reading JSON. The nesting of a value is bounded by a budget that every array and object takes one
from; the elements of one array or object are read in a loop over the text. The limit of those
loops is above the length of the whole text, and each round takes at least one code point.
-/

namespace Catalogue.Json

/-- The budget of nesting, the value at the bottom included. A caller takes a part of it for itself,
so that a text past the limit is never read, and one within `safeDepth` wherever the reader is
called from; in between it depends on the caller. -/
def depthLimit : Nat := 1000

def safeDepth : Nat := 900

def readString (limit : Nat) : Reader Text := fun text =>
  readStringBody text limit [] (text.drop 1)

def readItems (readNested : Reader Value) : Nat → List Value → Reader Value
  | 0, _, _ => refuse .tooDeep
  | limit + 1, read, text => do
    let (item, rest) ← readNested text
    match skipBlanks rest with
    | code :: rest =>
      if code = ',' then readItems readNested limit (item :: read) (skipBlanks rest)
      else if code = ']' then .ok (.array (item :: read).reverse, rest)
      else faultAt .expectedComma (code :: rest)
    | [] => faultAt .expectedComma []

def readMember (readNested : Reader Value) (limit : Nat) : Reader (Text × Value) := fun text =>
  match text with
  | mark :: _ =>
    if mark = CodePoint.quotationMark then do
      let (key, rest) ← readString limit text
      match skipBlanks rest with
      | colon :: rest =>
        if colon = ':' then do
          let (value, rest) ← readNested (skipBlanks rest)
          .ok ((key, value), rest)
        else faultAt .expectedColon (colon :: rest)
      | [] => faultAt .expectedColon []
    else faultAt .expectedKey text
  | [] => faultAt .expectedKey []

def readMembers (readNested : Reader Value) (stringLimit : Nat) : Nat → Members → Reader Value
  | 0, _, _ => refuse .tooDeep
  | limit + 1, read, text => do
    let ((key, value), rest) ← readMember readNested stringLimit text
    match skipBlanks rest with
    | code :: rest =>
      if code = ',' then
        readMembers readNested stringLimit limit (read.insert key value) (skipBlanks rest)
      else if code = '}' then .ok (.object (read.insert key value), rest)
      else faultAt .expectedComma (code :: rest)
    | [] => faultAt .expectedComma []

def readValueWith (policy : Policy) (limit : Nat) (readNested : Reader Value) : Reader Value :=
  fun text =>
    match text with
    | code :: rest =>
      if code = CodePoint.quotationMark then do
        let (string, rest) ← readString limit text
        .ok (.string string, rest)
      else if code = '[' then
        match skipBlanks rest with
        | bracket :: unread =>
          if bracket = ']' then .ok (.array [], unread)
          else readItems readNested limit [] (bracket :: unread)
        | [] => readItems readNested limit [] []
      else if code = '{' then
        match skipBlanks rest with
        | brace :: unread =>
          if brace = '}' then .ok (.object [], unread)
          else readMembers readNested limit limit [] (brace :: unread)
        | [] => readMembers readNested limit limit [] []
      else readScalar policy text
    | [] => readScalar policy []

def readValue (policy : Policy) (limit : Nat) : Nat → Reader Value
  | 0, _ => refuse .tooDeep
  | depth + 1, text => readValueWith policy limit (readValue policy limit depth) text

def readDocument (policy : Policy) (text : Text) : Except Halt Value := do
  let (value, rest) ← readValue policy (text.length + 1) depthLimit (skipBlanks text)
  match skipBlanks rest with
  | [] => .ok value
  | unread => faultAt .extraText unread

def Halt.failure (text : Text) : Halt → Failure
  | fault cause unread => .fault cause (Position.after text (text.length - unread.length))
  | refusal cause => .refusal cause

def read (policy : Policy) (text : Text) : Except Failure Value :=
  (readDocument policy text).mapError (·.failure text)

/-- Reads a text from a stream, where a byte order mark has no business. -/
def readUnmarked (policy : Policy) (text : Text) : Except Failure Value :=
  match text with
  | code :: _ =>
    if code = CodePoint.byteOrderMark then .error (.fault .byteOrderMark (Position.after text 0))
    else read policy text
  | [] => read policy text

end Catalogue.Json
