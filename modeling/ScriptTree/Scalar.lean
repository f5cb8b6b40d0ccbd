import ScriptTree.Basic
import ScriptTree.Number.Notation
import ScriptTree.Text.Quoted

namespace ScriptTree

/-- A value without parts. -/
inductive Scalar where
  | null
  | bool (value : Bool)
  | int (value : Int)
  | float (value : Double)
  | str (value : Text)
deriving DecidableEq

instance : Inhabited Scalar := ⟨.null⟩

namespace Scalar

/-- The number a scalar counts as, if it is an integer or a truth value. -/
def integer? : Scalar → Option Int
  | bool b => some (if b then 1 else 0)
  | int i => some i
  | _ => none

/-- Equality of scalars. -/
def same : Scalar → Scalar → Bool
  | .null, .null => true
  | .str a, .str b => a = b
  | .float x, .float y => x.sameValue y
  | .float x, s => match s.integer? with
    | some i => x.equalsInt i
    | none => false
  | s, .float x => match s.integer? with
    | some i => x.equalsInt i
    | none => false
  | a, b => match a.integer?, b.integer? with
    | some i, some j => i = j
    | _, _ => false

/-- Whether a scalar counts as present where an alternative is given: zero and the empty string do
not. -/
def isTruthy : Scalar → Bool
  | null => false
  | bool b => b
  | int i => i ≠ 0
  | float x => !x.equalsInt 0
  | str t => !t.isEmpty

/-- The name of a scalar's class, as diagnostics show it. -/
def kind : Scalar → Text
  | null => "NoneType"
  | bool _ => "bool"
  | int _ => "int"
  | float _ => "float"
  | str _ => "str"

/-- A scalar inside a container. -/
def inspect : Scalar → Text
  | .null => "None"
  | .bool true => "True"
  | .bool false => "False"
  | .int i => Text.ofInt i
  | .float x => Double.write Double.plainFormat x
  | .str t => Text.quoted t

/-- A scalar by itself: a string is shown as it is. -/
def display : Scalar → Text
  | .str t => t
  | s => s.inspect

end Scalar

/-- A document. The members of an object are in order. -/
inductive Json where
  | leaf (scalar : Scalar)
  | arr (items : List Json)
  | obj (members : List (Text × Json))

namespace Json

instance : Inhabited Json := ⟨.leaf .null⟩

/-- The null document. -/
def null : Json := .leaf .null

/-- A truth value as a document. -/
def bool (value : Bool) : Json := .leaf (.bool value)

/-- An integer as a document. -/
def int (value : Int) : Json := .leaf (.int value)

/-- A text as a document. -/
def str (value : Text) : Json := .leaf (.str value)

end Json

end ScriptTree
