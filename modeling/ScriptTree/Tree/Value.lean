import ScriptTree.Scalar

namespace ScriptTree

/-- A value of a tree or of a parser's output. A tree is built from scalars, tuples, records, nodes
and regular-expression literals; the other kinds are those of the raw objects it is made from. -/
inductive Value where
  | scalar (scalar : Scalar)
  | tuple (items : List Value)
  /-- Named values without a tag. -/
  | record (fields : List (Text × Value))
  /-- A tagged syntax node. -/
  | node (tag : Scalar) (fields : List (Text × Value))
  /-- A regular-expression literal. -/
  | regex (pattern flags : Value)
  | list (items : List Value)
  | dict (entries : List (Text × Value))
  /-- An object of the parser: its attributes in the order in which they were set. -/
  | bag (attributes : List (Text × Value))
  /-- A compiled regular expression. -/
  | pattern (source : Text)
  /-- An object of some other class, of which only the class name matters. -/
  | foreign (kind : Text)

namespace Value

instance : Inhabited Value := ⟨.scalar .null⟩

/-- The absent value. -/
def null : Value := scalar .null

/-- A truth value. -/
def bool (b : Bool) : Value := scalar (.bool b)

/-- A string value. -/
def str (t : Text) : Value := scalar (.str t)

/-- The absent value or not. -/
def isNull : Value → Bool
  | scalar .null => true
  | _ => false

/-- The name of a value's class, as diagnostics show it. -/
def kind : Value → Text
  | scalar s => s.kind
  | tuple _ => "tuple"
  | record _ => "Record"
  | node .. => "Node"
  | regex .. => "RegexValue"
  | list _ => "list"
  | dict _ => "dict"
  | bag _ => "Object"
  | pattern _ => "Pattern"
  | foreign k => k

/-- Whether a value counts as present where an alternative is given: zero, the empty string and
empty containers do not. -/
def isTruthy : Value → Bool
  | scalar s => s.isTruthy
  | tuple items | list items => !items.isEmpty
  | dict entries => !entries.isEmpty
  | _ => true

/-- The attributes of a raw object: of a dictionary or of a bag. -/
def attributes? : Value → Option (List (Text × Value))
  | dict entries => some entries
  | bag attributes => some attributes
  | _ => none

end Value

/-- Parts between parentheses; a single one is followed by a comma. -/
def Text.tupleOf (parts : List Text) : Text :=
  match parts with
  | [part] => "(" ++ part ++ ",)"
  | parts => "(" ++ Text.join ", " parts ++ ")"

namespace Value

mutual

/-- A value inside a container. -/
def inspect : Value → Text
  | scalar s => s.inspect
  | tuple items => Text.tupleOf (inspectItems items)
  | list items => "[" ++ Text.join ", " (inspectItems items) ++ "]"
  | dict entries => "\x7b" ++ Text.join ", " (inspectEntries entries) ++ "\x7d"
  | bag entries => "\x7b" ++ Text.join ", " (inspectEntries entries) ++ "\x7d"
  | record fields => "Record(fields=" ++ Text.tupleOf (inspectPairs fields) ++ ")"
  | node tag fields =>
    "Node(fields=" ++ Text.tupleOf (inspectPairs fields) ++ ", type=" ++ tag.inspect ++ ")"
  | regex p f => "RegexValue(pattern=" ++ inspect p ++ ", flags=" ++ inspect f ++ ")"
  | pattern source => "re.compile(" ++ Text.quoted source ++ ")"
  | foreign k => "<" ++ k ++ " object>"

def inspectItems : List Value → List Text
  | [] => []
  | item :: items => inspect item :: inspectItems items

def inspectEntries : List (Text × Value) → List Text
  | [] => []
  | (name, value) :: rest => (Text.quoted name ++ ": " ++ inspect value) :: inspectEntries rest

def inspectPairs : List (Text × Value) → List Text
  | [] => []
  | (name, value) :: rest =>
    ("(" ++ Text.quoted name ++ ", " ++ inspect value ++ ")") :: inspectPairs rest

end

/-- A value by itself. -/
def display : Value → Text
  | scalar s => s.display
  | value => value.inspect

/-- A regular-expression literal as its source would have it: the pattern between slashes, then
the flags. Both are strings in what a parser gives; that an integer in their place may have too many
digits to be shown is left out. -/
def regexLiteral (p flags : Value) : Text := "/" ++ p.display ++ "/" ++ flags.display

mutual

/-- Equality of values. A bag equals only itself, so two bags are never equal. -/
def same : Value → Value → Bool
  | scalar a, scalar b => a.same b
  | tuple as, tuple bs => sameItems as bs
  | list as, list bs => sameItems as bs
  | record as, record bs => sameFields as bs
  | node s as, node t bs => s.same t && sameFields as bs
  | regex p f, regex q g => same p q && same f g
  | dict as, dict bs => as.length = bs.length && sameEntries as bs
  | pattern s, pattern t => s = t
  | foreign k, foreign l => k = l
  | _, _ => false

def sameItems : List Value → List Value → Bool
  | [], [] => true
  | a :: as, b :: bs => same a b && sameItems as bs
  | _, _ => false

def sameFields : List (Text × Value) → List (Text × Value) → Bool
  | [], [] => true
  | (m, a) :: as, (n, b) :: bs => m = n && same a b && sameFields as bs
  | _, _ => false

/-- Every entry of the first dictionary has an equal one in the second. -/
def sameEntries : List (Text × Value) → List (Text × Value) → Bool
  | [], _ => true
  | (name, a) :: as, bs =>
    (match Fields.get? name bs with
      | some b => same a b
      | none => false) && sameEntries as bs

end

end Value

end ScriptTree
