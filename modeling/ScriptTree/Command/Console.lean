import ScriptTree.Command.Message
import ScriptTree.Text.Pictograph
import ScriptTree.Text.Width

namespace ScriptTree

namespace Console

/-- A bell, a step back, and a vertical move. -/
def isCursorMove (c : CodePoint) : Bool :=
  c.val = 7 || c.val = 8 || c.val = 11 || c.val = 12 || c.val = 13

/-- A line from its parts between tabs. A tab leads to the next multiple of eight columns. -/
def expandTabs : List Text → Text
  | [] => []
  | [part] => part
  | part :: parts =>
    let ended := part ++ " "
    ended ++ List.replicate ((8 - ended.columns % 8) % 8) (CodePoint.ofChar ' ') ++ expandTabs parts

def shownLine (line : Text) : Text := expandTabs (Text.split (CodePoint.ofChar '\t') line)

/-- A text as it is shown. -/
def shown (t : Text) : Text :=
  Text.unlines ((Text.lines (t.filter fun c => !isCursorMove c)).map shownLine)

/-- The length of the mark-up that follows an opening bracket, if any does: a letter, a hash, a
slash or an at sign, and the rest up to the next closing bracket, without an opening one between. -/
def markLength? : Text → Option Nat
  | [] => none
  | c :: rest =>
    let starts := (97 ≤ c.val && c.val ≤ 122) || c = '#' || c = '/' || c = '@'
    let inside := rest.takeWhile fun d => d ≠ CodePoint.ofChar '[' && d ≠ CodePoint.ofChar ']'
    if starts && (rest.drop inside.length).head? = some (CodePoint.ofChar ']') then
      some (inside.length + 2)
    else none

/-- A code point in front of the first part. -/
def onto (c : CodePoint) : List Text → List Text
  | [] => [[c]]
  | part :: parts => (c :: part) :: parts

/-- The parts of a text, mark-up and what stands between, where `left` code points of the mark-up
under way are still to come. -/
def partsAfter (left : Nat) : Text → List Text
  | [] => [[]]
  | c :: rest =>
    match left, if c = '[' then markLength? rest else none with
    | 0, some length => [] :: onto c (partsAfter length rest)
    | 0, none => onto c (partsAfter 0 rest)
    | 1, _ => [c] :: partsAfter 0 rest
    | n + 2, _ => onto c (partsAfter (n + 1) rest)

/-- The parts of a text, mark-up and what stands between. -/
def parts (t : Text) : List Text := partsAfter 0 t

/-- A text in which a backslash before a bracket is left out. -/
def unescapeBrackets : Text → Text
  | [] => []
  | [c] => [c]
  | c :: d :: rest =>
    if c = '\\' ∧ d = '[' then unescapeBrackets (d :: rest)
    else c :: unescapeBrackets (d :: rest)

/-- Exactly one backslash at the end. -/
def endsInBackslash (t : Text) : Bool :=
  let backslash := CodePoint.ofChar '\\'
  t.getLast? = some backslash && t.dropLast.getLast? ≠ some backslash

/-- A text inside a marked-up message. -/
def literal (t : Text) : Text :=
  (parts t).flatMap (fun part => Pictograph.draw (unescapeBrackets part)) ++
    (if endsInBackslash t then Text.ofString "\\" else [])

/-- The rows of a table without its head. -/
abbrev Rows := List (List Text)

def cellLines (cell : Text) : List Text := Text.lines (shown cell)

/-- The number of columns a cell takes. -/
def cellWidth (cell : Text) : Nat := ((cellLines cell).map Text.columns).foldl max 0

/-- The widths of the columns. -/
def widths (rows : Rows) : List Nat :=
  match rows with
  | [] => []
  | [row] => row.map cellWidth
  | row :: rest => List.zipWith max (row.map cellWidth) (widths rest)

/-- A text with blanks up to a width. -/
def padTo (width : Nat) (t : Text) : Text :=
  t ++ List.replicate (width - t.columns) (CodePoint.ofChar ' ')

/-- A text between two others and with a third one between its parts. -/
def ruled (left middle right : Text) (parts : List Text) : Text :=
  left ++ Text.join middle parts ++ right

/-- A rule over columns of given widths. -/
def rule (left line middle right : Text) (ws : List Nat) : Text :=
  ruled left middle right (ws.map fun w => (List.replicate (w + 2) line).flatten)

/-- The lines of a row between bars. -/
def rowLines (bar : Text) (ws : List Nat) (row : List Text) : List Text :=
  let cells := row.map cellLines
  let height := (cells.map List.length).foldl max 0
  (List.range height).map fun i =>
    ruled bar bar bar (List.zipWith
      (fun w lines => " " ++ padTo w (lines.getD i []) ++ " ") ws cells)

/-- A table: a head in heavy lines above rows in light ones. -/
def table (head : List Text) (rows : Rows) : List Text :=
  let ws := widths (head :: rows)
  [rule "┏" "━" "┳" "┓" ws] ++ rowLines "┃" ws head ++ [rule "┡" "━" "╇" "┩" ws]
    ++ rows.flatMap (rowLines "│" ws) ++ [rule "└" "─" "┴" "┘" ws]

/-- A part of a text with mark-up. -/
def part : Command.Part → Text
  | .wording t => t
  | .escaped t => literal t

/-- A message on lines of its own. -/
def message : Command.Message → Text
  | .verbatim t => t
  | .unmarked t => shown (Pictograph.draw t) ++ "\n"
  | .marked parts => shown (parts.flatMap part) ++ "\n"
  | .table title head rows =>
    Text.unlines (title :: table head (rows.map fun row => row.map part)) ++ "\n"

/-- Messages one after the other. -/
def render (messages : List Command.Message) : Text := messages.flatMap message

end Console

end ScriptTree
