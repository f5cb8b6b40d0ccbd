import ScriptTree.Script.Lexeme
import ScriptTree.Script.RegexSyntax.Alternatives
import ScriptTree.Text.Letter

namespace ScriptTree

namespace RegexSyntax

/-- The code point that an escape of hexadecimal digits at the front of a text denotes, as a number,
and the length of the escape. -/
def unitAt : Text → Option (Nat × Nat)
  | c :: u :: rest =>
    if c = '\\' ∧ u = 'u' then
      let digits := (rest.drop 1).takeWhile CodePoint.isHexDigit
      let value (t : Text) := Text.ofDigitValues 16 (t.map fun d => d.hexValue?.getD 0)
      if rest.head? = some (CodePoint.ofChar '\x7b') then
        if !digits.isEmpty && (rest.drop (digits.length + 1)).head? = some (CodePoint.ofChar '\x7d')
        then some (value digits, digits.length + 4)
        else none
      else if (rest.take 4).length = 4 && (rest.take 4).all CodePoint.isHexDigit then
        some (value (rest.take 4), 6)
      else none
    else none
  | _ => none

/-- The character that stands for one beyond the basic plane. -/
def astralSubstitute : CodePoint := CodePoint.ofNat 0xFFFF

/-- The pattern with its escapes of code points replaced by the code points, after `skipped` code
points that belong to an escape; none if an escape denotes no code point. -/
def expandFrom : Nat → Text → Option Text
  | _, [] => some []
  | skipped + 1, _ :: rest => expandFrom skipped rest
  | 0, c :: rest =>
    match unitAt (c :: rest) with
    | some (value, length) =>
      if value < 0x110000 then
        let e := if value < 0x10000 then CodePoint.ofNat value else astralSubstitute
        (expandFrom (length - 1) rest).map (e :: ·)
      else none
    | none => (expandFrom 0 rest).map (c :: ·)

/-- Surrogate pairs replaced by one character. -/
def replacePairs : Text → Text
  | [] => []
  | [c] => [c]
  | high :: low :: rest =>
    if high.IsHigh ∧ low.IsLow then astralSubstitute :: replacePairs rest
    else high :: replacePairs (low :: rest)

/-- Whether a pattern is that of a regular expression. -/
def isValid (pattern : Text) : Bool :=
  match expandFrom 0 pattern with
  | some expanded => compiles (replacePairs expanded)
  | none => false

end RegexSyntax

namespace RegexLiteral

/-- Where a reader of a pattern stands. -/
structure Within where
  escaped : Bool
  inClass : Bool

/-- Reads on in a pattern; `read` holds its code points so far, the latest first. The pattern ends
at a slash outside a class, and must end with the line. -/
def patternFrom : Within → Text → Place → Text → Except SyntaxFault (Text × Cursor)
  | w, _, p, [] => .error ((if w.escaped then p.next else p).fault .unterminatedRegex)
  | w, read, p, c :: rest =>
    if c.isLineEnd then .error (p.next.fault .unterminatedRegex)
    else if w.escaped then patternFrom { w with escaped := false } (c :: read) p.next rest
    else if c = '\\' then patternFrom { w with escaped := true } (c :: read) p.next rest
    else if w.inClass then patternFrom { w with inClass := c ≠ ']' } (c :: read) p.next rest
    else if c = '/' then .ok (read.reverse, ⟨p.next, rest⟩)
    else patternFrom { w with inClass := c = '[' } (c :: read) p.next rest

/-- The flags at a cursor. An escape cannot stand for a flag, and a backslash is one only where
the script ends. -/
def readFlags (start : Cursor) : Except SyntaxFault (Text × Cursor) :=
  let letters := start.run fun c => c.isIdentifierPart && c ≠ '\\'
  let stop := start.skip letters.length
  match stop.rest with
  | [] => .ok (letters, stop)
  | c :: rest =>
    if c ≠ '\\' then .ok (letters, stop)
    else
      match rest with
      | [] => .ok (letters ++ [c], stop.skip 1)
      | d :: digits =>
        if d ≠ 'u' then .error ((stop.skip 1).fault .illegal)
        else if (digits.take 4).length = 4 ∧ (digits.take 4).all CodePoint.isHexDigit then
          .error ((stop.skip 6).fault .illegal)
        else .error ((stop.skip 2).fault .illegal)

/-- The regular expression at a cursor that stands at a slash. -/
def read (start : Cursor) : Except SyntaxFault (Lexeme × Cursor) := do
  let (pattern, slash) ← patternFrom ⟨false, false⟩ [] start.place.next (start.rest.drop 1)
  let (flags, stop) ← readFlags slash
  if RegexSyntax.isValid pattern then
    .ok ({ kind := .regex pattern flags, text := [], start, stop := stop.place.index,
           line := stop.place.line, isOctal := false }, stop)
  else .error (stop.fault .invalidRegex)

end RegexLiteral

end ScriptTree
