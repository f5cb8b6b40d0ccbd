import ScriptTree.Basic

namespace ScriptTree

/-- The character denoted by a high and a low half. -/
def CodePoint.ofPair (high low : CodePoint) : CodePoint :=
  CodePoint.ofNat (0x10000 + (high.val - 0xD800) * 0x400 + (low.val - 0xDC00))

namespace Text

/-- Every high half with a low half right after it becomes the character they denote; pairs are
taken from the left. -/
def joinPairs : Text → Text
  | [] => []
  | [c] => [c]
  | high :: low :: rest =>
    if high.IsHigh ∧ low.IsLow then CodePoint.ofPair high low :: joinPairs rest
    else high :: joinPairs (low :: rest)

/-- A backslash, `u` and four hexadecimal digits. -/
def unitEscape (c : CodePoint) : Text := "\\u" ++ hexadecimal 4 c.val

/-- Every surrogate half becomes an escape. -/
def escapeHalves (t : Text) : Text :=
  t.flatMap fun c => if c.IsSurrogate then unitEscape c else [c]

/-- Pairs are joined and the halves that remain are escaped, so that the result can be encoded. -/
def escapeSurrogates (t : Text) : Text := escapeHalves (joinPairs t)

end Text

namespace Utf8

/-- Why a sequence of bytes is ill formed. -/
inductive Fault where
  /-- The byte starts no sequence. -/
  | invalidStart
  /-- A byte of the sequence is no continuation. -/
  | invalidContinuation
  /-- The bytes end inside the sequence. -/
  | unexpectedEnd
deriving DecidableEq

/-- The first ill-formed sequence: its bytes and the position of the first of them. -/
structure DecodeError where
  position : Nat
  bytes : List UInt8
  fault : Fault
deriving DecidableEq

/-- The wording of a fault. -/
def Fault.message : Fault → Text
  | invalidStart => "invalid start byte"
  | invalidContinuation => "invalid continuation byte"
  | unexpectedEnd => "unexpected end of data"

/-- The wording of a decoding error. -/
def DecodeError.message (e : DecodeError) : Text :=
  let place : Text := match e.bytes with
    | [b] => "byte 0x" ++ Text.hexadecimal 2 b.toNat ++ " in position " ++ Text.ofNat e.position
    | bytes => "bytes in position " ++ Text.ofNat e.position ++ "-"
        ++ Text.ofNat (e.position + bytes.length - 1)
  "'utf-8' codec can't decode " ++ place ++ ": " ++ e.fault.message

/-- What a first byte announces: how many bytes follow, the bits it contributes and the range of
the second byte. -/
structure Lead where
  tail : Nat
  bits : Nat
  low : Nat
  high : Nat

/-- The lead a byte is, if a sequence may start with it. The ranges of the second byte exclude
overlong forms, surrogate halves and numbers beyond the last code point. -/
def lead? (b : UInt8) : Option Lead :=
  let n := b.toNat
  if n < 0x80 then some ⟨0, n, 0, 0⟩
  else if n < 0xC2 then none
  else if n < 0xE0 then some ⟨1, n - 0xC0, 0x80, 0xBF⟩
  else if n = 0xE0 then some ⟨2, 0, 0xA0, 0xBF⟩
  else if n = 0xED then some ⟨2, 13, 0x80, 0x9F⟩
  else if n < 0xF0 then some ⟨2, n - 0xE0, 0x80, 0xBF⟩
  else if n = 0xF0 then some ⟨3, 0, 0x90, 0xBF⟩
  else if n < 0xF4 then some ⟨3, n - 0xF0, 0x80, 0xBF⟩
  else if n = 0xF4 then some ⟨3, 4, 0x80, 0x8F⟩
  else none

/-- Where a decoder stands: between sequences, or inside one with `tail` bytes still to come, of
which the next lies between `low` and `high`. -/
inductive State where
  | between
  | inside (read : List UInt8) (bits tail low high : Nat)

/-- Decodes from a state; `position` counts the bytes before the sequence at hand. -/
def decodeFrom : Nat → State → List UInt8 → Except DecodeError Text
  | _, .between, [] => .ok []
  | position, .inside read _ _ _ _, [] => .error ⟨position, read.reverse, .unexpectedEnd⟩
  | position, .between, b :: rest =>
    match lead? b with
    | none => .error ⟨position, [b], .invalidStart⟩
    | some l =>
      if l.tail = 0 then
        match decodeFrom (position + 1) .between rest with
        | .ok t => .ok (CodePoint.ofNat l.bits :: t)
        | .error e => .error e
      else decodeFrom position (.inside [b] l.bits l.tail l.low l.high) rest
  | position, .inside read bits tail low high, b :: rest =>
    if b.toNat < low ∨ high < b.toNat then
      .error ⟨position, read.reverse, .invalidContinuation⟩
    else
      let bits := bits * 64 + (b.toNat - 0x80)
      if tail = 1 then
        match decodeFrom (position + read.length + 1) .between rest with
        | .ok t => .ok (CodePoint.ofNat bits :: t)
        | .error e => .error e
      else decodeFrom position (.inside (b :: read) bits (tail - 1) 0x80 0xBF) rest

/-- The text that bytes encode. A byte order mark is kept. -/
def decode (bytes : List UInt8) : Except DecodeError Text := decodeFrom 0 .between bytes

/-- The bytes of a code point. -/
def encodeCodePoint (c : CodePoint) : List UInt8 :=
  let n := c.val
  let tail (k : Nat) : UInt8 := UInt8.ofNat (0x80 + n / Nat.pow 64 k % 64)
  if n < 0x80 then [UInt8.ofNat n]
  else if n < 0x800 then [UInt8.ofNat (0xC0 + n / 64), tail 0]
  else if n < 0x10000 then [UInt8.ofNat (0xE0 + n / 4096), tail 1, tail 0]
  else [UInt8.ofNat (0xF0 + n / 262144), tail 2, tail 1, tail 0]

/-- The bytes of a text; none if it holds a surrogate half. -/
def encode? (t : Text) : Option (List UInt8) :=
  if t.any (fun c => decide c.IsSurrogate) then none else some (t.flatMap encodeCodePoint)

end Utf8

end ScriptTree
