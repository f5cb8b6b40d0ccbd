import ScriptTree.Number.Integer
import ScriptTree.Text.Quoted

namespace ScriptTree

namespace Yaml

/-- A position: the number of code points before it, and its line and column, counted from zero. -/
structure Mark where
  index : Nat
  line : Nat
  column : Nat
deriving DecidableEq

/-- The start of a document. -/
def Mark.zero : Mark := ⟨0, 0, 0⟩

/-- Two marks on the same line and column. -/
def Mark.sameSpot (a b : Mark) : Bool := a.line = b.line && a.column = b.column

/-- What was being read when a problem was found. -/
inductive Situation where
  | scanningToken
  | scanningKey
  | scanningDirective
  | scanningAlias
  | scanningAnchor
  | scanningTag
  | parsingTag
  | parsingDirective
  | scanningBlockScalar
  | scanningQuoted
  | scanningDoubleQuoted
  | parsingNode
  | parsingBlockNode
  | parsingFlowNode
  | parsingBlockCollection
  | parsingBlockMapping
  | parsingFlowSequence
  | parsingFlowMapping
  | afterAnchor (name : Text)
  | afterDocument
  | constructingMapping
  | constructingOrderedMap
  | constructingPairs
deriving DecidableEq

/-- The wording of a situation. -/
def Situation.message : Situation → Text
  | scanningToken => "while scanning for the next token"
  | scanningKey => "while scanning a simple key"
  | scanningDirective => "while scanning a directive"
  | scanningAlias => "while scanning an alias"
  | scanningAnchor => "while scanning an anchor"
  | scanningTag => "while scanning a tag"
  | parsingTag => "while parsing a tag"
  | parsingDirective => "while parsing a directive"
  | scanningBlockScalar => "while scanning a block scalar"
  | scanningQuoted => "while scanning a quoted scalar"
  | scanningDoubleQuoted => "while scanning a double-quoted scalar"
  | parsingNode => "while parsing a node"
  | parsingBlockNode => "while parsing a block node"
  | parsingFlowNode => "while parsing a flow node"
  | parsingBlockCollection => "while parsing a block collection"
  | parsingBlockMapping => "while parsing a block mapping"
  | parsingFlowSequence => "while parsing a flow sequence"
  | parsingFlowMapping => "while parsing a flow mapping"
  | afterAnchor name => "found duplicate anchor " ++ Text.quoted name ++ "; first occurrence"
  | afterDocument => "expected a single document in the stream"
  | constructingMapping => "while constructing a mapping"
  | constructingOrderedMap => "while constructing an ordered map"
  | constructingPairs => "while constructing pairs"

/-- What is wrong. A code point zero stands for the end of the document. -/
inductive Problem where
  | cannotStart (c : CodePoint)
  | missingColon
  | entryNotAllowed
  | keyNotAllowed
  | valueNotAllowed
  | expectedCharacter (what : Text) (c : CodePoint)
  | zeroIndentation
  | unexpectedEnd
  | documentSeparator
  | unknownEscape (c : CodePoint)
  | malformedUri (message : Text)
  | expectedToken (what : Text) (found : Text)
  | gotToken (what : Text) (found : Text)
  | repeatedVersion
  | wrongVersion
  | repeatedHandle (handle : Text)
  | undefinedHandle (handle : Text)
  | undefinedAlias (name : Text)
  | secondOccurrence
  | secondDocument
  | unhashableKey
  | unknownTag (tag : Text)
  | expectedNode (what : Text) (found : Text)
  | itemCount (count : Nat)
  | malformedBinary (message : Text)
  | nonAsciiBinary (message : Text)
deriving DecidableEq

/-- The wording of a problem. -/
def Problem.message : Problem → Text
  | cannotStart c => "found character " ++ Text.quoted [c] ++ " that cannot start any token"
  | missingColon => "could not find expected ':'"
  | entryNotAllowed => "sequence entries are not allowed here"
  | keyNotAllowed => "mapping keys are not allowed here"
  | valueNotAllowed => "mapping values are not allowed here"
  | expectedCharacter what c => "expected " ++ what ++ ", but found " ++ Text.quoted [c]
  | zeroIndentation => "expected indentation indicator in the range 1-9, but found 0"
  | unexpectedEnd => "found unexpected end of stream"
  | documentSeparator => "found unexpected document separator"
  | unknownEscape c => "found unknown escape character " ++ Text.quoted [c]
  | malformedUri message => message
  | expectedToken what found => "expected " ++ what ++ ", but found " ++ Text.quoted found
  | gotToken what found => "expected " ++ what ++ ", but got " ++ Text.quoted found
  | repeatedVersion => "found duplicate YAML directive"
  | wrongVersion => "found incompatible YAML document (version 1.* is required)"
  | repeatedHandle handle => "duplicate tag handle " ++ Text.quoted handle
  | undefinedHandle handle => "found undefined tag handle " ++ Text.quoted handle
  | undefinedAlias name => "found undefined alias " ++ Text.quoted name
  | secondOccurrence => "second occurrence"
  | secondDocument => "but found another document"
  | unhashableKey => "found unhashable key"
  | unknownTag tag => "could not determine a constructor for the tag " ++ Text.quoted tag
  | expectedNode what found => "expected " ++ what ++ ", but found " ++ found
  | itemCount count =>
    "expected a single mapping item, but found " ++ Text.ofNat count ++ " items"
  | malformedBinary message => "failed to decode base64 data: " ++ message
  | nonAsciiBinary message => "failed to convert base64 data into ascii: " ++ message

/-- Why a document cannot be read. -/
inductive Fault where
  /-- A code point that no document may hold. -/
  | forbidden (c : CodePoint) (position : Nat)
  /-- A problem at a mark, and the situation in which it was found. -/
  | at (situation : Option (Situation × Option Mark)) (problem : Problem) (mark : Mark)
  /-- An escape for a number that is no code point. -/
  | noCodePoint (number : Nat)
  /-- The number of a version has too many digits. -/
  | digits (overflow : DigitOverflow)
  /-- The document is nested deeper than its length can account for. -/
  | tooDeep
deriving DecidableEq

/-- A mark in a file, as messages show it. -/
def Mark.message (file : Text) (m : Mark) : Text :=
  "  in \"" ++ file ++ "\", line " ++ Text.ofNat (m.line + 1) ++ ", column "
    ++ Text.ofNat (m.column + 1)

/-- The lines of a fault's message. The mark of the situation is left out where it is the spot of
the problem. -/
def Fault.lines (file : Text) : Fault → List Text
  | forbidden c position =>
    ["unacceptable character #x" ++ Text.hexadecimal 4 c.val
      ++ ": special characters are not allowed",
     "  in \"" ++ file ++ "\", position " ++ Text.ofNat position]
  | .at situation problem mark =>
    let before := match situation with
      | none => []
      | some (s, none) => [s.message]
      | some (s, some m) => if m.sameSpot mark then [s.message] else [s.message, m.message file]
    before ++ [problem.message, mark.message file]
  | noCodePoint number =>
    [if number < 0x80000000 then "chr() arg not in range(0x110000)"
     else "Python int too large to convert to C int"]
  | digits e => [e.message]
  | tooDeep => ["maximum recursion depth exceeded"]

/-- The wording of a fault. -/
def Fault.message (file : Text) (e : Fault) : Text := Text.unlines (e.lines file)

end Yaml

end ScriptTree
