import ScriptTree.Text.Quoted

namespace ScriptTree

namespace Subject

/-- A kind of value. -/
inductive Kind where
  | text
  /-- The kind that every value has. -/
  | anything
  | kind
  | row
  | nothing
  /-- An operation of a given text: one that is called by name, or one behind a sign. -/
  | ownMethod
  | ownSign
  /-- An operation of texts in general. -/
  | method
  | sign
deriving DecidableEq

namespace Kind

/-- The name of a kind. -/
def name : Kind → Text
  | text => "str"
  | anything => "object"
  | kind => "type"
  | row => "tuple"
  | nothing => "NoneType"
  | ownMethod => "builtin_function_or_method"
  | ownSign => "method-wrapper"
  | method => "method_descriptor"
  | sign => "wrapper_descriptor"

/-- A kind as it is shown. -/
def display (k : Kind) : Text := "<class '" ++ k.name ++ "'>"

/-- The kinds whose values a kind's values are too, other than itself. -/
def wider : Kind → List Kind
  | anything => []
  | _ => [anything]

/-- What a kind says about its values, if it says anything. -/
def about? : Kind → Option Text
  | text => some
      ("str(object='') -> str\nstr(bytes_or_buffer[, encoding[, errors]]) -> str\n\n"
        ++ "Create a new string object from the given object. If encoding or\n"
        ++ "errors is specified, then the object must expose a data buffer\n"
        ++ "that will be decoded using the given encoding and error handler.\n"
        ++ "Otherwise, returns the result of object.__str__() (if defined)\n"
        ++ "or repr(object).\nencoding defaults to sys.getdefaultencoding().\n"
        ++ "errors defaults to 'strict'.")
  | anything => some
      ("The base class of the class hierarchy.\n\n"
        ++ "When called, it accepts no arguments and returns a new featureless\n"
        ++ "instance that has no instance attributes and cannot be given any.\n")
  | kind => some
      ("type(object) -> the object's type\n"
        ++ "type(name, bases, dict, **kwds) -> a new type")
  | row => some
      ("Built-in immutable sequence.\n\n"
        ++ "If no argument is given, the constructor returns an empty tuple.\n"
        ++ "If iterable is specified the tuple is initialized from iterable's items.\n\n"
        ++ "If the argument is a tuple, the return value is the same object.")
  | nothing => none
  | k => some ("<attribute '__doc__' of '" ++ k.name ++ "' objects>")

end Kind

/-- An operation: its name, whether a sign stands for it, and the kind that defines it. -/
structure Operation where
  name : Text
  isSign : Bool
  home : Kind
deriving DecidableEq

namespace Operation

/-- The operations that texts define, by name. -/
def methods : List String :=
  ["__format__", "__getnewargs__", "__sizeof__", "capitalize", "casefold", "center", "count",
   "encode", "endswith", "expandtabs", "find", "format", "format_map", "index", "isalnum",
   "isalpha", "isascii", "isdecimal", "isdigit", "isidentifier", "islower", "isnumeric",
   "isprintable", "isspace", "istitle", "isupper", "join", "ljust", "lower", "lstrip", "partition",
   "removeprefix", "removesuffix", "replace", "rfind", "rindex", "rjust", "rpartition", "rsplit",
   "rstrip", "split", "splitlines", "startswith", "strip", "swapcase", "title", "translate",
   "upper", "zfill"]

/-- The operations behind signs that texts define. -/
def signs : List String :=
  ["__add__", "__contains__", "__eq__", "__ge__", "__getattribute__", "__getitem__", "__gt__",
   "__hash__", "__iter__", "__le__", "__len__", "__lt__", "__mod__", "__mul__", "__ne__",
   "__repr__", "__rmod__", "__rmul__", "__str__"]

/-- The operations of all values, by name. -/
def commonMethods : List String := ["__dir__", "__getstate__", "__reduce__", "__reduce_ex__"]

/-- The operations behind signs of all values. -/
def commonSigns : List String := ["__delattr__", "__init__", "__setattr__"]

/-- The operation of texts that a name stands for. -/
def named? (name : Text) : Option Operation :=
  let isIn (names : List String) : Bool := names.any fun s => Text.ofString s = name
  if isIn methods then some ⟨name, false, .text⟩
  else if isIn signs then some ⟨name, true, .text⟩
  else if isIn commonMethods then some ⟨name, false, .anything⟩
  else if isIn commonSigns then some ⟨name, true, .anything⟩
  else none

end Operation

end Subject

open Subject (Kind Operation)

/-- What a slot shows. -/
inductive Subject where
  | text (text : Text)
  | kind (k : Kind)
  | row (kinds : List Kind)
  | nothing
  /-- An operation of a given text. -/
  | own (operation : Operation) (text : Text)
  /-- An operation of texts in general. -/
  | operation (operation : Operation)
deriving DecidableEq

/-- Why a subject has no such part or cannot be shown so. -/
inductive SubjectError where
  | noPart (subject : Subject) (name : Text)
  /-- The subject has no parts by index. -/
  | notIndexed (subject : Subject)
  /-- The subject has parts by number only. -/
  | notNumbered (subject : Subject)
  /-- The subject has fewer parts. -/
  | outOfRange (subject : Subject)
  /-- The subject cannot be placed. -/
  | unplaced (subject : Subject)
deriving DecidableEq

namespace Subject

/-- The kind of a subject. -/
def ofKind : Subject → Kind
  | text _ => .text
  | kind _ => .kind
  | row _ => .row
  | nothing => .nothing
  | own o _ => if o.isSign then .ownSign else .ownMethod
  | operation o => if o.isSign then .sign else .method

/-- A row of kinds as it is shown; a single one has a comma after it. -/
def displayRow : List Kind → Text
  | [k] => "(" ++ k.display ++ ",)"
  | ks => "(" ++ Text.join ", " (ks.map Kind.display) ++ ")"

/-- A subject by itself. -/
def display : Subject → Text
  | text t => t
  | kind k => k.display
  | row ks => displayRow ks
  | nothing => "None"
  | own o _ =>
    if o.isSign then "<method-wrapper '" ++ o.name ++ "' of str object>"
    else "<built-in method " ++ o.name ++ " of str object>"
  | operation o =>
    (if o.isSign then "<slot wrapper '" else "<method '" : Text) ++ o.name ++ "' of '"
      ++ o.home.name ++ "' objects>"

/-- A subject inside a container. -/
def inspect : Subject → Text
  | text t => t.quoted
  | s => s.display

/-- A subject as ASCII. -/
def inspectAscii : Subject → Text
  | text t => t.asciiQuoted
  | s => s.display

/-- A text, or nothing. -/
def ofText? : Option Text → Subject
  | some t => text t
  | none => nothing

/-- A part of a kind by name. -/
def partOfKind? (k : Kind) (name : Text) : Option Subject :=
  if name = "__name__" ∨ name = "__qualname__" then some (text k.name)
  else if name = "__module__" then some (text "builtins")
  else if name = "__mro__" then some (row (k :: k.wider))
  else if name = "__bases__" then some (row k.wider)
  else if name = "__base__" then some ((k.wider.head?.map kind).getD nothing)
  else if name = "__doc__" then some (ofText? k.about?)
  else if k = .text then (Operation.named? name).map operation
  else none

/-- A part of a text's operation by name. -/
def partOfOwn? (o : Operation) (t name : Text) : Option Subject :=
  if name = "__name__" then some (text o.name)
  else if name = "__qualname__" then
    some (text ((if o.isSign then o.home else .text).name ++ "." ++ o.name))
  else if name = "__self__" then some (text t)
  else if name = "__objclass__" ∧ o.isSign then some (kind o.home)
  else if name = "__module__" ∧ !o.isSign then some nothing
  else none

/-- A part of an operation by name. -/
def partOfOperation? (o : Operation) (name : Text) : Option Subject :=
  if name = "__name__" then some (text o.name)
  else if name = "__qualname__" then some (text (o.home.name ++ "." ++ o.name))
  else if name = "__objclass__" then some (kind o.home)
  else none

/-- A part by name. Every subject tells its kind. -/
def part? (name : Text) (s : Subject) : Option Subject :=
  if name = "__class__" then some (kind s.ofKind)
  else
    match s with
    | text t =>
      if name = "__doc__" then some (ofText? s.ofKind.about?)
      else (Operation.named? name).map fun o => own o t
    | kind k => partOfKind? k name
    | row _ | nothing => if name = "__doc__" then some (ofText? s.ofKind.about?) else none
    | own o t => partOfOwn? o t name
    | operation o => partOfOperation? o name

/-- A part by name, or why there is none. -/
def part (name : Text) (s : Subject) : Except SubjectError Subject :=
  match s.part? name with
  | some p => .ok p
  | none => .error (.noPart s name)

/-- A part by its index, which may be a number. -/
def item (number? : Option Nat) (s : Subject) : Except SubjectError Subject :=
  let pick (parts : List Subject) : Except SubjectError Subject :=
    match number? with
    | none => .error (.notNumbered s)
    | some n =>
      match parts[n]? with
      | some p => .ok p
      | none => .error (.outOfRange s)
  match s with
  | text t => pick (t.map fun c => text [c])
  | row ks => pick (ks.map kind)
  | s => .error (.notIndexed s)

end Subject

/-- The wording of a subject error. -/
def SubjectError.message : SubjectError → Text
  | noPart s name =>
    let owner : Text := match s with
      | .kind k => "type object '" ++ k.name ++ "'"
      | s => "'" ++ s.ofKind.name ++ "' object"
    owner ++ " has no attribute '" ++ name ++ "'"
  | notIndexed s =>
    let owner : Text := match s with
      | .kind k => "type '" ++ k.name ++ "'"
      | s => "'" ++ s.ofKind.name ++ "' object"
    owner ++ " is not subscriptable"
  | notNumbered s =>
    match s with
    | .text _ => "string indices must be integers, not 'str'"
    | s => s.ofKind.name ++ " indices must be integers or slices, not str"
  | outOfRange s =>
    match s with
    | .text _ => "string index out of range"
    | s => s.ofKind.name ++ " index out of range"
  | unplaced s => "unsupported format string passed to " ++ s.ofKind.name ++ ".__format__"

end ScriptTree
