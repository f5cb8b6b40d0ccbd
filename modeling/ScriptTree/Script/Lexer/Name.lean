import ScriptTree.Script.Lexeme
import ScriptTree.Text.Letter

namespace ScriptTree

namespace Name

/-- Where a reader of a name stands. -/
inductive Within where
  | plain
  /-- After a backslash. -/
  | escape
  /-- After a backslash and `u`. -/
  | unicode
  /-- Inside four hexadecimal digits. -/
  | digits (count value : Nat)
  /-- Inside braces, at their start or after digits. -/
  | braces (started : Bool) (value : Nat)

/-- Reads on in a name; `read` holds its code points so far, the latest first. An escape of four
digits must denote a code point that can stand at its position; one in braces may denote any. -/
def readFrom : Within → Text → Place → Text → Except SyntaxFault (Text × Cursor)
  | .plain, read, p, [] => .ok (read.reverse, ⟨p, []⟩)
  | _, _, p, [] => .error (p.fault .illegal)
  | .plain, read, p, c :: rest =>
    if c = '\\' then readFrom .escape read p.next rest
    else if c.isIdentifierPart then readFrom .plain (c :: read) p.next rest
    else .ok (read.reverse, ⟨p, c :: rest⟩)
  | .escape, read, p, c :: rest =>
    if c = 'u' then readFrom .unicode read p.next rest else .error (p.fault .illegal)
  | .unicode, read, p, c :: rest =>
    if c = '\x7b' then readFrom (.braces false 0) read p.next rest
    else
      match c.hexValue? with
      | none => .error (p.fault .illegal)
      | some d => readFrom (.digits 1 d) read p.next rest
  | .digits count value, read, p, c :: rest =>
    match c.hexValue? with
    | none => .error (p.fault .illegal)
    | some d =>
      if count < 3 then readFrom (.digits (count + 1) (value * 16 + d)) read p.next rest
      else
        let e := CodePoint.ofNat (value * 16 + d)
        let allowed := if read.isEmpty then e.isIdentifierStart else e.isIdentifierPart
        if e = '\\' ∨ ¬allowed then .error (p.next.fault .illegal)
        else readFrom .plain (e :: read) p.next rest
  | .braces started value, read, p, c :: rest =>
    match c.hexValue? with
    | some d => readFrom (.braces true (value * 16 + d)) read p.next rest
    | none =>
      if ¬started ∧ c = '\x7d' then .error (p.fault .illegal)
      else if c = '\x7d' ∧ value < 0x110000 then
        readFrom .plain (CodePoint.ofNat value :: read) p.next rest
      else .error (p.next.fault .illegal)

/-- The name at a cursor that stands at the start of one. -/
def read (start : Cursor) : Except SyntaxFault (Lexeme × Cursor) := do
  let (name, stop) ← readFrom .plain [] start.place start.rest
  let escaped := name.length ≠ stop.place.index - start.place.index
  let kind := if name.length = 1 then .identifier else Word.kind name
  if kind ≠ .identifier ∧ escaped then .error (start.fault .escapedKeyword)
  else
    .ok ({ kind, text := name, start, stop := stop.place.index, line := stop.place.line,
           isOctal := false }, stop)

end Name

end ScriptTree
