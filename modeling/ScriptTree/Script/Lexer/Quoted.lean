import ScriptTree.Script.Lexeme

namespace ScriptTree

namespace Quoted

/-- What a letter after a backslash stands for, if it is no more than that. -/
def letterEscape (c : CodePoint) : Option CodePoint :=
  if c = 'n' then some (CodePoint.ofNat 10)
  else if c = 'r' then some (CodePoint.ofNat 13)
  else if c = 't' then some (CodePoint.ofNat 9)
  else if c = 'b' then some (CodePoint.ofNat 8)
  else if c = 'f' then some (CodePoint.ofNat 12)
  else if c = 'v' then some (CodePoint.ofNat 11)
  else none

/-- Where a reader of a string or template stands. -/
inductive Within where
  | plain
  /-- After a backslash. -/
  | escape
  /-- After a backslash and `u`. -/
  | unicode
  /-- Inside hexadecimal digits of which `left` are to come; `wide` for those after `u`. -/
  | digits (wide : Bool) (left value : Nat)
  /-- Inside braces, at their start or after digits. -/
  | braces (started : Bool) (value : Nat)
  /-- After one octal digit or more, where at most `left` may follow. -/
  | octal (left value : Nat)
  /-- After a carriage return, whose line feed belongs to it. -/
  | afterReturn

/-- The problem of a missing hexadecimal digit. -/
def digitProblem (wide : Bool) : Problem := if wide then .illegal else .invalidHexEscape

/-- The number of octal digits that may follow a first one. -/
def octalTail (d : Nat) : Nat := if d ≤ 3 then 2 else 1

/-- Reads on in a string with the given quote, from `start`. `read` holds the value so far, the
latest first, and `isOctal` whether an octal escape was seen. -/
def stringFrom (quote : CodePoint) (start : Place) :
    Within → Bool → Text → Place → Text → Except SyntaxFault (Text × Bool × Cursor)
  | .digits wide _ _, _, _, p, [] => .error (p.fault (digitProblem wide))
  | .unicode, _, _, p, [] => .error (p.fault .illegal)
  | .braces .., _, _, p, [] => .error (p.fault .illegal)
  | _, _, _, p, [] =>
    .error (Place.fault { p with index := start.index } .illegal)
  | .plain, isOctal, read, p, c :: rest =>
    if c = quote then .ok (read.reverse, isOctal, ⟨p.next, rest⟩)
    else if c = '\\' then stringFrom quote start .escape isOctal read p.next rest
    else if c.isLineEnd then .error (Place.fault { p with index := start.index } .illegal)
    else stringFrom quote start .plain isOctal (c :: read) p.next rest
  | .afterReturn, isOctal, read, p, c :: rest =>
    if c = '\n' then stringFrom quote start .plain isOctal read p.sameEnd rest
    else if c = quote then .ok (read.reverse, isOctal, ⟨p.next, rest⟩)
    else if c = '\\' then stringFrom quote start .escape isOctal read p.next rest
    else if c.isLineEnd then .error (Place.fault { p with index := start.index } .illegal)
    else stringFrom quote start .plain isOctal (c :: read) p.next rest
  | .escape, isOctal, read, p, c :: rest =>
    if c = '\r' then stringFrom quote start .afterReturn isOctal read p.newLine rest
    else if c.isLineEnd then stringFrom quote start .plain isOctal read p.newLine rest
    else if c = 'u' then stringFrom quote start .unicode isOctal read p.next rest
    else if c = 'x' then stringFrom quote start (.digits false 2 0) isOctal read p.next rest
    else if c = '8' ∨ c = '9' then .error (p.next.fault .illegal)
    else if c.isOctalDigit then
      stringFrom quote start (.octal (octalTail c.digitValue) c.digitValue)
        (isOctal || c ≠ CodePoint.ofChar '0') read p.next rest
    else
      stringFrom quote start .plain isOctal ((letterEscape c).getD c :: read) p.next rest
  | .unicode, isOctal, read, p, c :: rest =>
    if c = '\x7b' then stringFrom quote start (.braces false 0) isOctal read p.next rest
    else
      match c.hexValue? with
      | none => .error (p.fault .illegal)
      | some d => stringFrom quote start (.digits true 3 d) isOctal read p.next rest
  | .digits wide left value, isOctal, read, p, c :: rest =>
    match c.hexValue? with
    | none => .error (p.fault (digitProblem wide))
    | some d =>
      if left ≤ 1 then
        stringFrom quote start .plain isOctal (CodePoint.ofNat (value * 16 + d) :: read) p.next rest
      else
        stringFrom quote start (.digits wide (left - 1) (value * 16 + d)) isOctal read p.next rest
  | .braces started value, isOctal, read, p, c :: rest =>
    match c.hexValue? with
    | some d => stringFrom quote start (.braces true (value * 16 + d)) isOctal read p.next rest
    | none =>
      if ¬started ∧ c = '\x7d' then .error (p.fault .illegal)
      else if c = '\x7d' ∧ value < 0x110000 then
        stringFrom quote start .plain isOctal (CodePoint.ofNat value :: read) p.next rest
      else .error (p.next.fault .illegal)
  | .octal left value, isOctal, read, p, c :: rest =>
    if c.isOctalDigit then
      let value := value * 8 + c.digitValue
      if left ≤ 1 then
        stringFrom quote start .plain true (CodePoint.ofNat value :: read) p.next rest
      else stringFrom quote start (.octal (left - 1) value) true read p.next rest
    else
      let read := CodePoint.ofNat value :: read
      if c = quote then .ok (read.reverse, isOctal, ⟨p.next, rest⟩)
      else if c = '\\' then stringFrom quote start .escape isOctal read p.next rest
      else if c.isLineEnd then .error (Place.fault { p with index := start.index } .illegal)
      else stringFrom quote start .plain isOctal (c :: read) p.next rest

/-- The string at a cursor that stands at a quote. A string that does not end is reported at its
opening quote. -/
def readString (start : Cursor) : Except SyntaxFault (Lexeme × Cursor) := do
  let (value, isOctal, stop) ←
    stringFrom start.peek start.place .plain false [] start.place.next (start.rest.drop 1)
  .ok ({ kind := .string, text := value, start, stop := stop.place.index,
         line := stop.place.line, isOctal }, stop)

/-- Whether a text starts with four hexadecimal digits. -/
def startsWithUnit (t : Text) : Bool := (t.take 4).length = 4 && (t.take 4).all CodePoint.isHexDigit

/-- Reads on in a part of a template. `read` holds its text with escapes resolved, the latest
first. The answer says whether the part is the last one. -/
def templateFrom :
    Within → Text → Place → Text → Except SyntaxFault (Text × Bool × Cursor)
  | .digits .., _, p, [] => .error (p.fault .invalidHexEscape)
  | .escape, _, p, [] => .error (p.next.fault .illegal)
  | _, _, p, [] => .error (p.fault .illegal)
  | .escape, read, p, c :: rest =>
    if c = '\r' then templateFrom .afterReturn read p.newLine rest
    else if c.isLineEnd then templateFrom .plain read p.newLine rest
    else if c = 'u' then
      if rest.head? = some (CodePoint.ofChar '\x7b') ∨ startsWithUnit rest then
        templateFrom .unicode read p.next rest
      else templateFrom .plain (c :: read) p.next rest
    else if c = 'x' then templateFrom (.digits false 2 0) read p.next rest
    else if c = '0' then
      if (rest.headD default).isDigit then .error (p.next.fault .octalInTemplate)
      else templateFrom .plain (CodePoint.ofNat 0 :: read) p.next rest
    else if c.isOctalDigit then .error (p.next.fault .octalInTemplate)
    else templateFrom .plain ((letterEscape c).getD c :: read) p.next rest
  | .unicode, read, p, c :: rest =>
    match c.hexValue? with
    | none => templateFrom (.braces false 0) read p.next rest
    | some d => templateFrom (.digits true 3 d) read p.next rest
  | .digits wide left value, read, p, c :: rest =>
    match c.hexValue? with
    | none => .error (p.fault (digitProblem wide))
    | some d =>
      if left ≤ 1 then templateFrom .plain (CodePoint.ofNat (value * 16 + d) :: read) p.next rest
      else templateFrom (.digits wide (left - 1) (value * 16 + d)) read p.next rest
  | .braces started value, read, p, c :: rest =>
    match c.hexValue? with
    | some d => templateFrom (.braces true (value * 16 + d)) read p.next rest
    | none =>
      if ¬started ∧ c = '\x7d' then .error (p.fault .illegal)
      else if c = '\x7d' ∧ value < 0x110000 then
        templateFrom .plain (CodePoint.ofNat value :: read) p.next rest
      else .error (p.next.fault .illegal)
  | .afterReturn, read, p, c :: rest =>
    if c = '\n' then templateFrom .plain read p.sameEnd rest
    else if c = '`' then .ok (read.reverse, true, ⟨p.next, rest⟩)
    else if c = '\\' then templateFrom .escape read p.next rest
    else if c = '$' ∧ rest.head? = some (CodePoint.ofChar '\x7b') then
      .ok (read.reverse, false, ⟨p.skip 2, rest.drop 1⟩)
    else if c = '\r' then templateFrom .afterReturn (CodePoint.ofChar '\n' :: read) p.newLine rest
    else if c.isLineEnd then templateFrom .plain (CodePoint.ofChar '\n' :: read) p.newLine rest
    else templateFrom .plain (c :: read) p.next rest
  | _, read, p, c :: rest =>
    if c = '`' then .ok (read.reverse, true, ⟨p.next, rest⟩)
    else if c = '\\' then templateFrom .escape read p.next rest
    else if c = '$' ∧ rest.head? = some (CodePoint.ofChar '\x7b') then
      .ok (read.reverse, false, ⟨p.skip 2, rest.drop 1⟩)
    else if c = '\r' then templateFrom .afterReturn (CodePoint.ofChar '\n' :: read) p.newLine rest
    else if c.isLineEnd then templateFrom .plain (CodePoint.ofChar '\n' :: read) p.newLine rest
    else templateFrom .plain (c :: read) p.next rest

/-- The template part at a cursor that stands at a backtick or a closing brace. Its source is the
text between the delimiters. -/
def readTemplate (start : Cursor) : Except SyntaxFault (Lexeme × Cursor) := do
  let (cooked, isTail, stop) ← templateFrom .plain [] start.place.next (start.rest.drop 1)
  let width := stop.place.index - start.place.index
  let source := (start.rest.drop 1).take (width - (if isTail then 2 else 3))
  .ok ({ kind := .template cooked (start.peek = '`') isTail, text := source, start,
         stop := stop.place.index, line := stop.place.line, isOctal := false }, stop)

end Quoted

end ScriptTree
