import ScriptTree.Json.Token

namespace ScriptTree

namespace Json

mutual

/-- The tokens of a document. -/
def tokens : Json → List Token
  | leaf s => [.scalar s]
  | arr items => .beginArray :: (tokensOfItems items ++ [.endArray])
  | obj members => .beginObject :: (tokensOfMembers members ++ [.endObject])

def tokensOfItems : List Json → List Token
  | [] => []
  | [item] => tokens item
  | item :: items => tokens item ++ .comma :: tokensOfItems items

def tokensOfMembers : List (Text × Json) → List Token
  | [] => []
  | [(name, value)] => .scalar (.str name) :: .colon :: tokens value
  | (name, value) :: members =>
    .scalar (.str name) :: .colon :: (tokens value ++ .comma :: tokensOfMembers members)

end

/-- How a document is laid out. -/
inductive Layout where
  /-- One line, with a space after each comma and colon. -/
  | line
  /-- One line without blanks. -/
  | tight
  /-- Each item and member on a line of its own, indented by one more step than its bracket. -/
  | indented (step : Text)

namespace Layout

/-- The indentation by a number of spaces. -/
def spaces (n : Nat) : Layout := indented (List.replicate n (CodePoint.ofChar ' '))

/-- The start of a line at a depth; nothing in a one-line layout. -/
def newLine (layout : Layout) (depth : Nat) : Text :=
  match layout with
  | line | tight => []
  | indented step => "\n" ++ (List.replicate depth step).flatten

/-- What stands between two items or members at a depth. -/
def separator (layout : Layout) (depth : Nat) : Text :=
  match layout with
  | line => ", "
  | tight => ","
  | indented _ => "," ++ layout.newLine depth

/-- What stands between a name and its value. -/
def colon : Layout → Text
  | tight => ":"
  | _ => ": "

end Layout

/-- What is asked for as the indentation of a text. -/
inductive Indent where
  /-- No indentation: all on one line. -/
  | absent
  /-- A number of spaces for each step, below zero as zero. -/
  | count (n : Int)
  /-- A text for each step. -/
  | step (text : Text)

/-- The layout with an indentation. -/
def Indent.layout : Indent → Layout
  | absent => .line
  | count n => .spaces n.toNat
  | step text => .indented text

mutual

/-- A document at a depth of open brackets. -/
def writeAt (layout : Layout) (depth : Nat) : Json → Text
  | leaf s => Token.scalarText s
  | arr [] => "[]"
  | arr items =>
    "[" ++ layout.newLine (depth + 1) ++ writeItems layout (depth + 1) items
      ++ layout.newLine depth ++ "]"
  | obj [] => "\x7b\x7d"
  | obj members =>
    "\x7b" ++ layout.newLine (depth + 1) ++ writeMembers layout (depth + 1) members
      ++ layout.newLine depth ++ "\x7d"

def writeItems (layout : Layout) (depth : Nat) : List Json → Text
  | [] => []
  | [item] => writeAt layout depth item
  | item :: items =>
    writeAt layout depth item ++ layout.separator depth ++ writeItems layout depth items

def writeMembers (layout : Layout) (depth : Nat) : List (Text × Json) → Text
  | [] => []
  | [(name, value)] => Token.quote name ++ layout.colon ++ writeAt layout depth value
  | (name, value) :: members =>
    Token.quote name ++ layout.colon ++ writeAt layout depth value ++ layout.separator depth
      ++ writeMembers layout depth members

end

/-- The text of a document. -/
def write (layout : Layout) (document : Json) : Text := writeAt layout 0 document

end Json

end ScriptTree
