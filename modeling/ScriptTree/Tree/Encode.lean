import ScriptTree.Json.Writer
import ScriptTree.Tree.Value

namespace ScriptTree

/-- A value that a document cannot hold, and the path from the root to it. -/
structure EncodeError where
  path : Text
  value : Value

/-- The wording of a refusal. -/
def EncodeError.message (e : EncodeError) : Text :=
  "Cannot encode " ++ e.value.kind ++ " at "
    ++ (if e.path.isEmpty then ("<root>" : Text) else e.path)

namespace Value

/-- Integers from here on are written as doubles. -/
def plainBound : Nat := Nat.pow 10 21

/-- A double: null if it is not finite, an integer if it is whole and below the bound. -/
def encodeFloat (x : Double) : Scalar :=
  if !x.isFinite then .null
  else if x.isInteger && x.truncate.natAbs < plainBound then .int x.truncate
  else .float x

/-- An integer: from the bound on the nearest double, null if there is none. -/
def encodeInt (i : Int) : Scalar :=
  if i.natAbs < plainBound then .int i
  else
    let x := Double.ofInt i
    if x.isFinite then .float x else .null

/-- The canonical encoding of a scalar. -/
def encodeScalar : Scalar → Scalar
  | .int i => encodeInt i
  | .float x => encodeFloat x
  | s => s

def fieldPath (path name : Text) : Text := if path.isEmpty then name else path ++ "." ++ name

/-- The path to an element. -/
def itemPath (path : Text) (index : Nat) : Text := path ++ "[" ++ Text.ofNat index ++ "]"

mutual

/-- The document of a value that stands at a path, as a field of the name `key`. A literal is written
as text, but only as the field `value`. -/
def encodeAt (key path : Text) : Value → Except EncodeError Json
  | scalar s => .ok (.leaf (encodeScalar s))
  | regex p flags =>
    if key = "value" then .ok (.str (regexLiteral p flags)) else .error ⟨path, regex p flags⟩
  | node tag fields => do
    let members ← encodeFields path fields
    .ok (.obj (Fields.dictionary (("type", .leaf tag) :: members)))
  | record fields => do
    let members ← encodeFields path fields
    .ok (.obj (Fields.dictionary members))
  | tuple items => do
    let items ← encodeItems path 0 items
    .ok (.arr items)
  | value => .error ⟨path, value⟩

/-- The members of the fields, in order; the first refusal wins. -/
def encodeFields (path : Text) : List (Text × Value) → Except EncodeError (List (Text × Json))
  | [] => .ok []
  | (name, value) :: rest => do
    let member ← encodeAt name (fieldPath path name) value
    let members ← encodeFields path rest
    .ok ((name, member) :: members)

/-- The items from an index on; elements have no field name. -/
def encodeItems (path : Text) (index : Nat) : List Value → Except EncodeError (List Json)
  | [] => .ok []
  | value :: rest => do
    let item ← encodeAt [] (itemPath path index) value
    let items ← encodeItems path (index + 1) rest
    .ok (item :: items)

end

/-- The document of a tree. -/
def encode (value : Value) : Except EncodeError Json := encodeAt [] [] value

/-- The layout of a tree's text unless another one is asked for. -/
def standardLayout : Json.Layout := .spaces 4

/-- The text of a tree. Conversion, encoding and writing follow a value to any depth; a stack that does
not suffice for one is left out here, and counts as the parser's where a source is dumped. -/
def serialize (layout : Json.Layout) (value : Value) : Except EncodeError Text := do
  let document ← value.encode
  .ok (Text.escapeSurrogates (document.write layout))

end Value

end ScriptTree
