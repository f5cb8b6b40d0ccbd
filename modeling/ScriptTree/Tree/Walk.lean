import ScriptTree.Tree.Value

namespace ScriptTree

namespace Value

/-- The fields of a record or node. -/
def fields : Value → List (Text × Value)
  | record fields => fields
  | node _ fields => fields
  | _ => []

/-- The first field of a name. -/
def get? (value : Value) (name : Text) : Option Value := Fields.get? name value.fields

/-- The names of the fields, in order. -/
def keys (value : Value) : List Text := Fields.names value.fields

/-- A syntax node or not. -/
def isNode : Value → Bool
  | node .. => true
  | _ => false

/-- The nodes a field value holds directly: itself, or the elements of a tuple. -/
def childrenIn : Value → List Value
  | node tag fields => [node tag fields]
  | tuple items => items.filter isNode
  | _ => []

/-- The direct child nodes, in field order. -/
def children (value : Value) : List Value := value.fields.flatMap fun field => childrenIn field.2

mutual

/-- A node and its descendants, each before its own descendants. -/
def walk : Value → List Value
  | node tag fields => node tag fields :: walkFields fields
  | _ => []

/-- The walks of the nodes that the fields hold directly. -/
def walkFields : List (Text × Value) → List Value
  | [] => []
  | (_, value) :: rest => walkField value ++ walkFields rest

def walkField : Value → List Value
  | node tag fields => node tag fields :: walkFields fields
  | tuple items => walkItems items
  | _ => []

def walkItems : List Value → List Value
  | [] => []
  | item :: items => walk item ++ walkItems items

end

/-- The tag of a node. -/
def tag : Value → Scalar
  | node tag _ => tag
  | _ => .null

/-- The nodes of the walk with a given tag. -/
def nodesOfType (value : Value) (tag : Text) : List Value :=
  value.walk.filter fun n => n.tag = .str tag

/-- The statements of a program: its `body`, an empty tuple without one. -/
def body (value : Value) : Value := (value.get? "body").getD (tuple [])

end Value

end ScriptTree
