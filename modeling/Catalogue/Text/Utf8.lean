import Catalogue.Text.CodePoint

/-!
UTF-8. A decoder is a machine over bytes: between code points it waits for a leading byte, and
inside one it knows how many continuation bytes are missing and which values the next may take.
A sequence that cannot go on is damaged as a whole, and the byte that broke it is read afresh.
Lone surrogates are written in the three-byte form and read back only where they are admitted.
-/

namespace Catalogue

abbrev Bytes := List UInt8

def CodePoint.utf8 (code : CodePoint) : Bytes :=
  if code.val < 0x80 then [.ofNat code.val]
  else if code.val < 0x800 then [.ofNat (0xC0 + code.val / 0x40), .ofNat (0x80 + code.val % 0x40)]
  else if code.val < 0x10000 then
    [.ofNat (0xE0 + code.val / 0x1000), .ofNat (0x80 + code.val / 0x40 % 0x40),
      .ofNat (0x80 + code.val % 0x40)]
  else
    [.ofNat (0xF0 + code.val / 0x40000), .ofNat (0x80 + code.val / 0x1000 % 0x40),
      .ofNat (0x80 + code.val / 0x40 % 0x40), .ofNat (0x80 + code.val % 0x40)]

def Text.utf8 (text : Text) : Bytes := text.flatMap CodePoint.utf8

namespace Utf8

inductive Piece where
  | intact (code : CodePoint)
  | damaged (bytes : Bytes)

structure Pending where
  value : Nat
  bytes : Bytes
  missing : Nat
  least : UInt8
  greatest : UInt8

structure Progress where
  read : List Piece
  pending : Option Pending

def Piece.ofValue (value : Nat) (bytes : Bytes) : Piece :=
  match CodePoint.ofNat? value with
  | some code => .intact code
  | none => .damaged bytes

/-- A leading byte. Overlong forms, and surrogates unless admitted, are ruled out by the values
that the second byte may take. -/
def lead (surrogates : Bool) (read : List Piece) (byte : UInt8) : Progress :=
  let expecting := fun value missing least greatest =>
    Progress.mk read (some ⟨value, [byte], missing, least, greatest⟩)
  if byte < 0x80 then ⟨.ofValue byte.toNat [byte] :: read, none⟩
  else if byte < 0xC2 then ⟨.damaged [byte] :: read, none⟩
  else if byte < 0xE0 then expecting (byte.toNat - 0xC0) 1 0x80 0xBF
  else if byte = 0xE0 then expecting 0 2 0xA0 0xBF
  else if byte = 0xED then expecting 0xD 2 0x80 (if surrogates then 0xBF else 0x9F)
  else if byte < 0xF0 then expecting (byte.toNat - 0xE0) 2 0x80 0xBF
  else if byte = 0xF0 then expecting 0 3 0x90 0xBF
  else if byte < 0xF4 then expecting (byte.toNat - 0xF0) 3 0x80 0xBF
  else if byte = 0xF4 then expecting 4 3 0x80 0x8F
  else ⟨.damaged [byte] :: read, none⟩

def step (surrogates : Bool) (progress : Progress) (byte : UInt8) : Progress :=
  match progress.pending with
  | none => lead surrogates progress.read byte
  | some pending =>
    if pending.least ≤ byte ∧ byte ≤ pending.greatest then
      let value := pending.value * 0x40 + (byte.toNat - 0x80)
      let bytes := byte :: pending.bytes
      if pending.missing ≤ 1 then ⟨.ofValue value bytes.reverse :: progress.read, none⟩
      else ⟨progress.read, some ⟨value, bytes, pending.missing - 1, 0x80, 0xBF⟩⟩
    else lead surrogates (.damaged pending.bytes.reverse :: progress.read) byte

def pieces (surrogates : Bool) (bytes : Bytes) : List Piece :=
  let progress := bytes.foldl (step surrogates) ⟨[], none⟩
  match progress.pending with
  | none => progress.read.reverse
  | some pending => (.damaged pending.bytes.reverse :: progress.read).reverse

def Piece.code? : Piece → Option CodePoint
  | intact code => some code
  | damaged _ => none

end Utf8

def Text.ofUtf8? (bytes : Bytes) : Option Text :=
  let codes := (Utf8.pieces true bytes).map Utf8.Piece.code?
  if codes.all Option.isSome then some (codes.filterMap id) else none

def Text.ofUtf8Replacing (bytes : Bytes) : Text :=
  (Utf8.pieces false bytes).map (·.code?.getD CodePoint.replacement)

end Catalogue
