import ScriptTree.Script.RegexSyntax.Basic
import ScriptTree.Text.CharacterName

namespace ScriptTree

namespace RegexSyntax

/-- Exactly `n` hexadecimal digits: their value. -/
def hexValue (n : Nat) : Check Nat := do
  let digits ← run n CodePoint.isHexDigit
  require (digits.length = n)
  pure (Text.ofDigitValues 16 (digits.map fun c => c.hexValue?.getD 0))

/-- The value of octal digits. -/
def octalValue (digits : Text) : Nat := Text.ofDigitValues 8 (digits.map CodePoint.digitValue)

/-- The code point of a name in braces. -/
def namedCodePoint : Check Nat := do
  require (← accept '\x7b')
  match CodePoint.ofName? (← name '\x7d') with
  | some c => pure c.val
  | none => failure

/-- An escape that means the same inside and outside of a class, other than one of digits: the
code point it stands for. -/
def commonEscape (c : CodePoint) : Check Nat := do
  if c = 'x' then hexValue 2
  else if c = 'u' then hexValue 4
  else if c = 'U' then do
    let n ← hexValue 8
    require (n < 0x110000)
    pure n
  else if c = 'N' then namedCodePoint
  else if c = 'a' then pure 7
  else if c = 'f' then pure 12
  else if c = 'n' then pure 10
  else if c = 'r' then pure 13
  else if c = 't' then pure 9
  else if c = 'v' then pure 11
  else if c.isLetter then failure
  else pure c.val

/-- An escape inside a class: the code point it stands for, none for a class of its own. -/
def classEscape (c : CodePoint) : Check (Option Nat) := do
  if oneOf "dDsSwW" c then pure none
  else if c = 'b' then pure (some 8)
  else if c.isOctalDigit then do
    let more ← run 2 CodePoint.isOctalDigit
    let value := octalValue (c :: more)
    require (value ≤ 255)
    pure (some value)
  else if c.isDigit then failure
  else some <$> commonEscape c

/-- An escape outside of classes. -/
def escape (c : CodePoint) : Check Piece := do
  if oneOf "AbBZ" c then pure .anchor
  else if oneOf "dDsSwW" c then pure (.other .one)
  else if c = '0' then do
    let _ ← run 2 CodePoint.isOctalDigit
    pure (.other .one)
  else if c.isDigit then do
    let second ← run 1 CodePoint.isDigit
    let ahead := ((← get).rest.headD default).isOctalDigit
    if c.isOctalDigit && second.all CodePoint.isOctalDigit && !second.isEmpty && ahead then do
      let third ← run 1 CodePoint.isOctalDigit
      require (octalValue (c :: second ++ third) ≤ 255)
      pure (.other .one)
    else reference (Text.decimalValue (c :: second))
  else do
    let _ ← commonEscape c
    pure (.other .one)

/-- The code point that a member of a class is, none for a class of its own. -/
def member (u : Sign) : Check (Option Nat) :=
  if u.escaped then classEscape u.char else pure (some u.char.val)

/-- The members of a class up to its end; `first` until one was read. The number bounds them. -/
def classMembers : Nat → Bool → Check PUnit
  | 0, _ => failure
  | n + 1, first => do
    match ← next with
    | none => failure
    | some u =>
      if u.is ']' && !first then pure ()
      else do
        let low ← member u
        if ← accept '-' then
          match ← next with
          | none => failure
          | some v =>
            if v.is ']' then pure ()
            else do
              match low, ← member v with
              | some a, some b => do
                require (a ≤ b)
                classMembers n false
              | _, _ => failure
        else classMembers n false

/-- A class after its opening bracket. -/
def characterClass : Check Piece := do
  let _ ← accept '^'
  classMembers ((← get).rest.length + 1) true
  pure (.other .one)

end RegexSyntax

end ScriptTree
