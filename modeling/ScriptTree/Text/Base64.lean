import ScriptTree.Basic

namespace ScriptTree

namespace Base64

/-- Why a text has no bytes. -/
inductive Flaw where
  /-- One character is left over after a number of whole groups. -/
  | leftOver (count : Nat)
  | padding
deriving DecidableEq

/-- The wording of a flaw. -/
def Flaw.message : Flaw → Text
  | leftOver count =>
    "Invalid base64-encoded string: number of data characters (" ++ Text.ofNat count
      ++ ") cannot be 1 more than a multiple of 4"
  | padding => "Incorrect padding"

/-- The six bits of a character. -/
def value? (c : CodePoint) : Option Nat :=
  if 65 ≤ c.val ∧ c.val ≤ 90 then some (c.val - 65)
  else if 97 ≤ c.val ∧ c.val ≤ 122 then some (c.val - 71)
  else if c.isDigit then some (c.val + 4)
  else if c = '+' then some 62
  else if c = '/' then some 63
  else none

/-- Where a reader stands: the bytes so far, the latest first, the characters of the open group,
their bits that are left over, and the padding since the last character. -/
structure Standing where
  read : List UInt8
  position : Nat
  bits : Nat
  padding : Nat

/-- The standing after a character with six bits. -/
def Standing.add (s : Standing) (v : Nat) : Standing :=
  match s.position with
  | 0 => { s with position := 1, bits := v, padding := 0 }
  | 1 =>
    { read := UInt8.ofNat (s.bits * 4 + v / 16) :: s.read, position := 2, bits := v % 16,
      padding := 0 }
  | 2 =>
    { read := UInt8.ofNat (s.bits * 16 + v / 4) :: s.read, position := 3, bits := v % 4,
      padding := 0 }
  | _ => { read := UInt8.ofNat (s.bits * 64 + v) :: s.read, position := 0, bits := 0, padding := 0 }

/-- Reads on from a standing. -/
def readFrom (s : Standing) : Text → Except Flaw (List UInt8)
  | [] =>
    if s.position = 0 then .ok s.read.reverse
    else if s.position = 1 then .error (.leftOver (s.read.length / 3 * 4 + 1))
    else .error .padding
  | c :: rest =>
    if c = '=' then
      if 2 ≤ s.position then
        if 4 ≤ s.position + s.padding + 1 then .ok s.read.reverse
        else readFrom { s with padding := s.padding + 1 } rest
      else readFrom s rest
    else
      match value? c with
      | none => readFrom s rest
      | some v => readFrom (s.add v) rest

/-- The bytes that a text stands for. -/
def read (t : Text) : Except Flaw (List UInt8) :=
  readFrom { read := [], position := 0, bits := 0, padding := 0 } t

end Base64

end ScriptTree
