import ScriptTree.Text.Utf8
import ScriptTree.Yaml.Stream
import ScriptTree.Yaml.Token.Basic

namespace ScriptTree

namespace Yaml

namespace Scan

/-- A run of word characters, at least one, after which a given code point must stand. -/
def word (situation : Situation) (start : Mark) (mayFollow : CodePoint → Bool) : Scan Text := do
  let what : Text := "alphabetic or numeric character"
  let run ← takeWhile isWordCharacter
  if run.isEmpty then fail situation start (.expectedCharacter what (← next))
  require situation start mayFollow what
  return run

/-- The name of an anchor or alias after its indicator. -/
def anchorName (situation : Situation) : Scan Text := do
  let start ← mark
  skip 1
  word situation start fun c => isBlankStop c || (Text.ofString "?:,]\x7d%@`").contains c

/-- A code point of a tag that stands for itself. -/
def isUriCharacter (c : CodePoint) : Bool :=
  c.isDigit || c.isLetter || (Text.ofString "-;/?:@&=+$,_.!~*'()[]").contains c

/-- The text of bytes that escapes stand for. -/
def escapedUri (situation : Situation) (start : Mark) : Scan Text := do
  let first ← mark
  let bytes ← loop [] fun bytes => do
    if (← next) = '%' then
      skip 1
      let what : Text := "URI escape sequence of 2 hexadecimal numbers"
      let s ← get
      let run := (s.rest.take 2).takeWhile CodePoint.isHexDigit
      if run.length < 2 then
        fail situation start (.expectedCharacter what (s.peek run.length))
      skip 2
      let value := Text.ofDigitValues 16 (run.map fun c => c.hexValue?.getD 0)
      return .inl (UInt8.ofNat value :: bytes)
    else return .inr bytes.reverse
  match Utf8.decode bytes with
  | .ok text => return text
  | .error e => throw (.at (some (situation, some start)) (.malformedUri e.message) first)

/-- The characters of a tag, at least one. -/
def uri (scanning parsing : Situation) (start : Mark) : Scan Text := do
  let read ← loop [] fun read => do
    let run ← takeWhile isUriCharacter
    if (← next) = '%' then return .inl (read ++ run ++ (← escapedUri scanning start))
    else return .inr (read ++ run)
  if read.isEmpty then fail parsing start (.expectedCharacter "URI" (← next))
  return read

/-- The handle of a tag: an exclamation mark, or word characters between two of them. -/
def tagHandle (situation : Situation) (start : Mark) : Scan Text := do
  let c ← next
  if c ≠ '!' then fail situation start (.expectedCharacter "'!'" c)
  let run := ((← get).rest.drop 1).takeWhile isWordCharacter
  let after ← peek (run.length + 1)
  if run.isEmpty && after = ' ' then
    skip 1
    return [c]
  else if after = '!' then
    skip (run.length + 2)
    return c :: run ++ [c]
  else
    skip (run.length + 1)
    fail situation start (.expectedCharacter "'!'" after)

/-- Whether an exclamation mark closes a handle in what follows the first one. -/
def hasHandle : Text → Bool
  | [] => false
  | c :: rest => c = '!' || (!isSpaceStop c && hasHandle rest)

/-- A tag: its handle and its suffix. -/
def tag : Scan TokenKind := do
  let start ← mark
  let second ← peek 1
  let kind ←
    if second = '<' then
      skip 2
      let suffix ← uri .scanningTag .parsingTag start
      let c ← next
      if c ≠ '>' then fail .parsingTag start (.expectedCharacter "'>'" c)
      skip 1
      pure (.tag none suffix)
    else if isBlankStop second then
      skip 1
      pure (.tag none "!")
    else if hasHandle ((← get).rest.drop 1) then
      let handle ← tagHandle .scanningTag start
      pure (.tag (some handle) (← uri .scanningTag .parsingTag start))
    else
      skip 1
      pure (.tag (some "!") (← uri .scanningTag .parsingTag start))
  require .scanningTag start isSpaceStop "' '"
  return kind

def versionNumber (start : Mark) : Scan Nat := do
  let run ← takeWhile CodePoint.isDigit
  if run.isEmpty then fail .scanningDirective start (.expectedCharacter "a digit" (← next))
  if DigitOverflow.limit < run.length then throw (.digits (.read run.length))
  return Text.decimalValue run

/-- The version of a directive. -/
def version (start : Mark) : Scan Directive := do
  skipWhile isSpace
  let major ← versionNumber start
  require .scanningDirective start (· = '.') "a digit or '.'"
  skip 1
  let minor ← versionNumber start
  require .scanningDirective start isSpaceStop "a digit or ' '"
  return .version major minor

/-- The handle of a directive and what it stands for. -/
def handleMeaning (start : Mark) : Scan Directive := do
  skipWhile isSpace
  let handle ← tagHandle .scanningDirective start
  require .scanningDirective start isSpace "' '"
  skipWhile isSpace
  let meaning ← uri .scanningDirective .parsingDirective start
  require .scanningDirective start isSpaceStop "' '"
  return .handle handle meaning

/-- A directive, up to the end of its line. -/
def directive : Scan TokenKind := do
  let start ← mark
  skip 1
  let name ← word .scanningDirective start isSpaceStop
  let d ←
    if name = "YAML" then version start
    else if name = "TAG" then handleMeaning start
    else
      skipWhile fun c => !isLineStop c
      pure .other
  restOfLine .scanningDirective start
  return .directive d

end Scan

end Yaml

end ScriptTree
