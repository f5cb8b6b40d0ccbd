import ScriptTree.Yaml.Stream

namespace ScriptTree

namespace Yaml

namespace Scan

/-- A first line break and the ones that follow it, folded. -/
def folded (first : Text) (more : List Text) : Text :=
  (if first ≠ "\n" then first else if more.isEmpty then " " else []) ++ more.flatten

/-- Whether a plain scalar stops before a code point, given what follows that. -/
def stopsPlain (inFlow : Bool) (c following : CodePoint) : Bool :=
  isBlankStop c ||
    (c = ':' && (isBlankStop following
      || (inFlow && (Text.ofString ",[]\x7b\x7d").contains following))) ||
    (inFlow && (Text.ofString ",?[]\x7b\x7d").contains c)

/-- The length of the piece of a plain scalar that a text starts with. -/
def plainLength (inFlow : Bool) : Text → Nat
  | [] => 0
  | c :: rest =>
    if stopsPlain inFlow c (rest.headD ⟨0, by decide⟩) then 0 else plainLength inFlow rest + 1

/-- The blank lines inside a plain scalar; none if they end at a document separator. -/
def plainBreaks : Scan (Option (List Text)) :=
  loop [] fun breaks => do
    let c ← next
    if c = ' ' then
      skip 1
      return .inl breaks
    else if isBreak c then
      let text ← lineBreak
      if ← isAtSeparator then return .inr none else return .inl (text :: breaks)
    else return .inr (some breaks.reverse)

/-- What separates two pieces of a plain scalar: nothing if it ends here. The second part tells
whether a line has ended. -/
def plainSpaces : Scan (Text × Bool) := do
  let spaces ← takeWhile isSpace
  if isBreak (← next) then
    let first ← lineBreak
    if ← isAtSeparator then return ([], true)
    else
      match ← plainBreaks with
      | none => return ([], true)
      | some more => return (folded first more, true)
  else return (spaces, false)

/-- A plain scalar, and whether it ends at the start of a line. In a block its lines are indented
by at least `indent`. -/
def plain (inFlow : Bool) (indent : Int) : Scan (Text × Bool) :=
  loop ([], [], false) fun (read, spaces, atLineStart) => do
    let rest := (← get).rest
    let length := if (← next) = '#' then 0 else plainLength inFlow rest
    if length = 0 then return .inr (read, atLineStart)
    else
      let read := read ++ spaces ++ rest.take length
      skip length
      let (spaces, atLineStart) ← plainSpaces
      let column := (← mark).column
      if spaces.isEmpty || (← next) = '#' || (!inFlow && (column : Int) < indent) then
        return .inr (read, atLineStart)
      else return .inl (read, spaces, atLineStart)

/-- What a letter after a backslash stands for. -/
def escaped (c : CodePoint) : Option Nat :=
  let table : List (Char × Nat) :=
    [('0', 0), ('a', 7), ('b', 8), ('t', 9), ('\t', 9), ('n', 10), ('v', 11), ('f', 12), ('r', 13),
     ('e', 27), (' ', 32), ('"', 34), ('\\', 92), ('/', 47), ('N', 0x85), ('_', 0xA0),
     ('L', 0x2028), ('P', 0x2029)]
  (table.find? fun e => CodePoint.ofChar e.1 = c).map (·.2)

/-- How many hexadecimal digits follow a letter after a backslash. -/
def escapeLength (c : CodePoint) : Option Nat :=
  if c = 'x' then some 2 else if c = 'u' then some 4 else if c = 'U' then some 8 else none

/-- A number of hexadecimal digits. -/
def hexDigits (situation : Situation) (start : Mark) (what : Text) (count : Nat) : Scan Nat := do
  let run := ((← get).rest.take count).takeWhile CodePoint.isHexDigit
  if run.length < count then
    fail situation start (.expectedCharacter what (← peek run.length))
  skip count
  return Text.ofDigitValues 16 (run.map fun c => c.hexValue?.getD 0)

/-- The line breaks inside a quoted scalar, with the blanks around them. -/
def quotedBreaks (start : Mark) : Scan (List Text) :=
  loop [] fun breaks => do
    if ← isAtSeparator then fail .scanningQuoted start .documentSeparator
    skipWhile isSpaceOrTab
    if isBreak (← next) then return .inl ((← lineBreak) :: breaks)
    else return .inr breaks.reverse

/-- What an escape stands for; the backslash has been read. -/
def escape (start : Mark) : Scan Text := do
  let c ← next
  match escaped c, escapeLength c with
  | some n, _ =>
    skip 1
    return [CodePoint.ofNat n]
  | none, some count =>
    skip 1
    let what := "escape sequence of " ++ Text.ofNat count ++ " hexadecimal numbers"
    let n ← hexDigits .scanningDoubleQuoted start what count
    if 0x110000 ≤ n then throw (.noCodePoint n)
    return [CodePoint.ofNat n]
  | none, none =>
    if isBreak c then
      discard lineBreak
      return (← quotedBreaks start).flatten
    else fail .scanningDoubleQuoted start (.unknownEscape c)

/-- A run of a quoted scalar without blanks. -/
def quotedRun (isDouble : Bool) (start : Mark) : Scan Text :=
  loop [] fun read => do
    let plain ← takeWhile fun c =>
      c ≠ '\'' && c ≠ '"' && c ≠ '\\' && !isBlankStop c
    let read := read ++ plain
    let c ← next
    if !isDouble && c = '\'' && (← peek 1) = '\'' then
      skip 2
      return .inl (read ++ [c])
    else if (isDouble && c = '\'') || (!isDouble && (c = '"' || c = '\\')) then
      skip 1
      return .inl (read ++ [c])
    else if isDouble && c = '\\' then
      skip 1
      return .inl (read ++ (← escape start))
    else return .inr read

/-- The blanks inside a quoted scalar. -/
def quotedSpaces (start : Mark) : Scan Text := do
  let spaces ← takeWhile isSpaceOrTab
  let c ← next
  if c.val = 0 then fail .scanningQuoted start .unexpectedEnd
  else if isBreak c then
    let first ← lineBreak
    return folded first (← quotedBreaks start)
  else return spaces

/-- A quoted scalar. -/
def quoted (isDouble : Bool) : Scan Text := do
  let start ← mark
  let quote ← next
  skip 1
  let first ← quotedRun isDouble start
  let value ← loop first fun read => do
    if (← next) = quote then return .inr read
    else
      let spaces ← quotedSpaces start
      let run ← quotedRun isDouble start
      return .inl (read ++ spaces ++ run)
  skip 1
  return value

/-- What becomes of the line breaks at the end of a block. -/
inductive Chomping where
  | clip
  | strip
  | keep
deriving DecidableEq

/-- The chomping that a sign asks for. -/
def chompingSign : Scan (Option Chomping) := do
  let c ← next
  if c = '+' then
    skip 1
    return some .keep
  else if c = '-' then
    skip 1
    return some .strip
  else return none

/-- The indentation that a digit asks for. -/
def indentationDigit (start : Mark) : Scan (Option Nat) := do
  let c ← next
  if c.isDigit then
    if c = '0' then fail .scanningBlockScalar start .zeroIndentation
    skip 1
    return some c.digitValue
  else return none

/-- The signs after the indicator of a block: chomping and indentation, in either order. -/
def blockSigns (start : Mark) : Scan (Chomping × Option Nat) := do
  let first ← chompingSign
  let indentation ← indentationDigit start
  let second ← if first.isNone && indentation.isSome then chompingSign else pure none
  require .scanningBlockScalar start isSpaceStop "chomping or indentation indicators"
  return ((first <|> second).getD .clip, indentation)

/-- The blank lines at the start of a block and the greatest indentation among them. -/
def blockIndentation : Scan (List Text × Nat) :=
  loop ([], 0) fun (breaks, greatest) => do
    let c ← next
    if c = ' ' then
      skip 1
      return .inl (breaks, max greatest (← mark).column)
    else if isBreak c then return .inl ((← lineBreak) :: breaks, greatest)
    else return .inr (breaks.reverse, greatest)

/-- Skips spaces up to a column. -/
def skipIndentation (indent : Nat) : Scan PUnit := do
  let column := (← mark).column
  let run := ((← get).rest.take (indent - column)).takeWhile isSpace
  skip run.length

/-- The blank lines inside a block, and the indentation of the line after them. -/
def blockBreaks (indent : Nat) : Scan (List Text) := do
  skipIndentation indent
  loop [] fun breaks => do
    if isBreak (← next) then
      let text ← lineBreak
      skipIndentation indent
      return .inl (text :: breaks)
    else return .inr breaks.reverse

/-- Whether a line of a block is here. -/
def isAtBlockLine (indent : Nat) : Scan Bool := do
  return (← mark).column = indent && (← next).val ≠ 0

/-- The lines of a block: their text, the last line break and the ones that follow it. -/
def blockLines (isFolded : Bool) (indent : Nat) (breaks : List Text) :
    Scan (Text × Text × List Text) := do
  if !(← isAtBlockLine indent) then return ([], [], breaks)
  loop ([], breaks) fun (read, breaks) => do
    let startsPlain := !isSpaceOrTab (← next)
    let line ← takeWhile fun c => !isLineStop c
    let read := read ++ breaks.flatten ++ line
    let last ← lineBreak
    let breaks ← blockBreaks indent
    if ← isAtBlockLine indent then
      if isFolded && last = "\n" && startsPlain && !isSpaceOrTab (← next) then
        return .inl (if breaks.isEmpty then read ++ Text.ofString " " else read, breaks)
      else return .inl (read ++ last, breaks)
    else return .inr (read, last, breaks)

/-- A block scalar in a block that is indented by `indent`. -/
def blockScalar (isFolded : Bool) (indent : Int) : Scan Text := do
  let start ← mark
  skip 1
  let (chomping, indentation) ← blockSigns start
  restOfLine .scanningBlockScalar start
  let least := max 1 (indent + 1).toNat
  let (breaks, indent) ←
    match indentation with
    | none =>
      let (breaks, greatest) ← blockIndentation
      pure (breaks, max least greatest)
    | some n =>
      let indent := least + n - 1
      pure (← blockBreaks indent, indent)
  let (read, last, breaks) ← blockLines isFolded indent breaks
  match chomping with
  | .strip => return read
  | .clip => return read ++ last
  | .keep => return read ++ last ++ breaks.flatten

end Scan

end Yaml

end ScriptTree
