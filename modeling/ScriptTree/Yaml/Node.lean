import ScriptTree.Yaml.Fault

namespace ScriptTree

namespace Yaml

/-- The start of the standard tags. -/
def standard : Text := "tag:yaml.org,2002:"

def standardTag (name : Text) : Text := standard ++ name

/-- What tells a collection from all others: its kind and where it starts. -/
structure Origin where
  isMapping : Bool
  mark : Mark
deriving DecidableEq

/-- A node. The mark is where it starts. -/
inductive Node where
  | scalar (tag : Text) (mark : Mark) (value : Text)
  | sequence (tag : Text) (mark : Mark) (items : List Node)
  | mapping (tag : Text) (mark : Mark) (entries : List (Node × Node))
  /-- A reference to a collection from within. -/
  | enclosing (origin : Origin)

namespace Node

instance : Inhabited Node := ⟨scalar [] Mark.zero []⟩

/-- Where a node starts. -/
def mark : Node → Mark
  | scalar _ m _ => m
  | sequence _ m _ => m
  | mapping _ m _ => m
  | enclosing origin => origin.mark

/-- The tag of a node. -/
def tag : Node → Text
  | scalar t _ _ => t
  | sequence t _ _ => t
  | mapping t _ _ => t
  | enclosing origin => standardTag (if origin.isMapping then "map" else "seq")

/-- The name of a kind of nodes, as messages show it. -/
def kind : Node → Text
  | scalar .. => "scalar"
  | sequence .. => "sequence"
  | mapping .. => "mapping"
  | enclosing origin => if origin.isMapping then "mapping" else "sequence"

mutual

/-- The collection of an origin in a node. -/
def find? (o : Origin) : Node → Option Node
  | scalar .. => none
  | sequence t m items => if o = ⟨false, m⟩ then some (sequence t m items) else findItem? o items
  | mapping t m entries =>
    if o = ⟨true, m⟩ then some (mapping t m entries) else findEntry? o entries
  | enclosing _ => none

def findItem? (o : Origin) : List Node → Option Node
  | [] => none
  | n :: rest => n.find? o <|> findItem? o rest

def findEntry? (o : Origin) : List (Node × Node) → Option Node
  | [] => none
  | (key, value) :: rest => key.find? o <|> value.find? o <|> findEntry? o rest

end

end Node

end Yaml

end ScriptTree
