namespace ScriptTree

namespace CharacterName

/-- The number of the first of some characters in a row, and their names in pieces of one text. The
first name stands there as it is. Every later one starts with a small letter for the number of words
that it shares with the name before it, none for `a`; the rest of the name follows. -/
structure Run where
  start : Nat
  pieces : List String

/-- The packed names of a run. -/
def Run.chars (run : Run) : List Char := run.pieces.flatMap String.toList

/-- The first words of a name, each with the space after it. -/
def firstWords : Nat → List Char → List Char
  | 0, _ => []
  | _, [] => []
  | n + 1, c :: rest => c :: firstWords (if c = ' ' then n else n + 1) rest

/-- The number of the character of a name among packed names, where `number` is that of the current
name and `current` is what was read of it, backwards. -/
def findPacked (wanted : List Char) : Nat → List Char → List Char → Option Nat
  | number, current, [] => if current.reverse = wanted then some number else none
  | number, current, c :: rest =>
    if c.isLower then
      let name := current.reverse
      if name = wanted then some number
      else
        findPacked wanted (number + 1) (firstWords (c.toNat - 'a'.toNat) name).reverse rest
    else findPacked wanted number (c :: current) rest

/-- The number of the character of a name in a run. -/
def Run.find? (wanted : List Char) (run : Run) : Option Nat :=
  findPacked wanted run.start [] run.chars

end CharacterName

end ScriptTree
