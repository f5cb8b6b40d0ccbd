import ScriptTree.Basic

namespace ScriptTree

namespace Command

/-- A part of a text with mark-up: wording, or a text from elsewhere that is escaped, so that nothing
in it counts as mark-up. -/
inductive Part where
  | wording (t : Text)
  | escaped (t : Text)
deriving DecidableEq

/-- What a command tells beside its output. How this looks is left to a console. -/
inductive Message where
  /-- A text that is written as it is. -/
  | verbatim (t : Text)
  /-- A text without mark-up. -/
  | unmarked (t : Text)
  | marked (parts : List Part)
  | table (title : Text) (head : List Text) (rows : List (List Part))
deriving DecidableEq

/-- A row of the table of failures: the path of a source below the root, what its failure is called,
and what it says. -/
structure Row where
  path : Text
  label : Text
  message : Text
deriving DecidableEq

namespace Message

/-- A source is about to be parsed. -/
def echo (path : Text) : Message := unmarked path

/-- A failure by name. -/
def failure (label message : Text) : Message := marked [.wording (label ++ ": "), .escaped message]

/-- There is nothing to parse. -/
def noSources : Message := marked [.wording "No .js files found."]

/-- A number of sources below a root is about to be parsed. -/
def heading (root : Text) (count : Nat) : Message :=
  marked [.wording ("\nesdump — Parsing " ++ Text.ofNat count ++ " files from "), .escaped root,
    .wording "\n"]

/-- A number of dumps has been written below a directory. -/
def written (output : Text) (count : Nat) : Message :=
  marked [.wording ("  v " ++ Text.ofNat count ++ " written to "), .escaped output]

/-- The failures and their number. -/
def failures (rows : List Row) : Message :=
  table ("Failures (" ++ Text.ofNat rows.length ++ ")") ["File", "Error", "Detail"]
    (rows.map fun row => [.escaped row.path, .wording row.label, .escaped row.message])

/-- A number of fixtures has been written to a file. -/
def fixtures (output : Text) (count : Nat) : Message :=
  marked [.wording ("Wrote " ++ Text.ofNat count ++ " fixtures to "), .escaped output]

end Message

end Command

end ScriptTree
