import ScriptTree.Scalar
import ScriptTree.Yaml.Moment
import ScriptTree.Yaml.Node

namespace ScriptTree

namespace Yaml

/-- The data of a document. -/
inductive Data where
  | scalar (scalar : Scalar)
  /-- A NaN that is the same only as itself; the one that has a name of its own is a scalar. -/
  | nan (mark : Mark)
  | bytes (bytes : List UInt8)
  | date (date : Date)
  | moment (moment : Moment)
  | list (origin : Origin) (items : List Data)
  | pair (first second : Data)
  | mapping (origin : Origin) (entries : List (Data × Data))
  /-- A set, its members in the order in which it is gone through. -/
  | set (members : List Data)
  /-- A reference to a collection from within. -/
  | enclosing (origin : Origin)

namespace Data

instance : Inhabited Data := ⟨.scalar .null⟩

/-- The absent value. -/
def null : Data := scalar .null

def str (t : Text) : Data := scalar (.str t)

/-- Whether data count as present where an alternative is given. -/
def isTruthy : Data → Bool
  | scalar s => s.isTruthy
  | bytes b => !b.isEmpty
  | list _ items => !items.isEmpty
  | mapping _ entries => !entries.isEmpty
  | set members => !members.isEmpty
  | _ => true

/-- The name of the class of data, as diagnostics show it. -/
def kind : Data → Text
  | scalar s => s.kind
  | nan _ => "float"
  | bytes _ => "bytes"
  | date _ => "datetime.date"
  | moment _ => "datetime.datetime"
  | list .. => "list"
  | pair .. => "tuple"
  | mapping .. => "dict"
  | set _ => "set"
  | enclosing origin => if origin.isMapping then "dict" else "list"

/-- Whether data can be a key of a mapping. -/
def isHashable : Data → Bool
  | scalar _ => true
  | nan _ => true
  | bytes _ => true
  | date _ => true
  | moment _ => true
  | _ => false

/-- Whether two keys are the same: numbers by value, and moments by the time they denote. -/
def sameKey : Data → Data → Bool
  | scalar (.float .nan), scalar (.float .nan) => true
  | scalar a, scalar b => a.same b
  | bytes a, bytes b => a = b
  | date a, date b => a = b
  | moment a, moment b => a.same b
  | nan a, nan b => a = b
  | _, _ => false

/-- The entries with a value put under a key. A key that is there keeps its place and its form. -/
def put (key value : Data) : List (Data × Data) → List (Data × Data)
  | [] => [(key, value)]
  | (k, v) :: rest => if sameKey k key then (k, value) :: rest else (k, v) :: put key value rest

/-- The value under a string. -/
def get? (name : Text) : List (Data × Data) → Option Data
  | [] => none
  | (k, v) :: rest => if sameKey k (str name) then some v else get? name rest

mutual

/-- The collection of an origin in data. -/
def find? (o : Origin) : Data → Option Data
  | list origin items =>
    if o = origin then some (list origin items) else findMember? o items
  | pair first second => find? o first <|> find? o second
  | mapping origin entries =>
    if o = origin then some (mapping origin entries) else findEntry? o entries
  | _ => none

def findMember? (o : Origin) : List Data → Option Data
  | [] => none
  | d :: rest => find? o d <|> findMember? o rest

def findEntry? (o : Origin) : List (Data × Data) → Option Data
  | [] => none
  | (_, value) :: rest => find? o value <|> findEntry? o rest

end

/-- Data of a document as they are: what a reference to a collection refers to, and other data
themselves. -/
def resolved (d document : Data) : Data :=
  match d with
  | enclosing origin => (document.find? origin).getD (enclosing origin)
  | d => d

end Data

/-- Why a loader gives no data: what the failure is called, what it says, and whether it is of a kind
that tells of a mistake in the document. It is a failure, too, if the stack does not suffice to load
a document or to show a value of it. -/
structure LoadFailure where
  label : Text
  message : Text
  isMistake : Bool
deriving DecidableEq

/-- A loader gives the data of the bytes in a file of some name. -/
abbrev Loader := Text → List UInt8 → Except LoadFailure Data

end Yaml

end ScriptTree
