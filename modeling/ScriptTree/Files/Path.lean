import ScriptTree.Text.Quoted

namespace ScriptTree

/-- Where a path starts. -/
inductive Anchor where
  | relative
  | root
  | doubleRoot
deriving DecidableEq

/-- A path: its anchor and its names. -/
structure Path where
  anchor : Anchor
  names : List Text
deriving DecidableEq

def Anchor.text : Anchor → Text
  | relative => []
  | root => "/"
  | doubleRoot => "//"

namespace Path

/-- The separator of names. -/
def slash : CodePoint := CodePoint.ofChar '/'

/-- The anchor of a text, by the number of slashes it starts with: exactly two are told apart from
one. -/
def anchorOf (t : Text) : Anchor :=
  match (t.takeWhile (· = slash)).length with
  | 0 => .relative
  | 2 => .doubleRoot
  | _ => .root

/-- A segment that names something. -/
def isName (segment : Text) : Bool := segment ≠ [] && segment ≠ "."

/-- The path a text denotes. Empty and `.` segments say nothing and are dropped, and `..` is a name like
any other. -/
def ofText (t : Text) : Path :=
  { anchor := anchorOf t, names := (Text.split slash t).filter isName }

/-- The names with slashes between them, after the anchor; nothing for the empty path. -/
def bareText (p : Path) : Text := p.anchor.text ++ Text.join [slash] p.names

/-- The normal text of a path; a dot for the empty path. -/
def text (p : Path) : Text :=
  match p.anchor, p.names with
  | .relative, [] => "."
  | _, _ => p.bareText

/-- The last name; empty if there is none. -/
def name (p : Path) : Text := p.names.getLast?.getD []

/-- A name from its last dot on, unless that dot is its first or last code point. -/
def nameSuffix (name : Text) : Text :=
  let dot := CodePoint.ofChar '.'
  if dot ∈ name then
    let stem := (name.reverse.dropWhile (· ≠ dot)).drop 1
    let tail := (name.reverse.takeWhile (· ≠ dot)).reverse
    if stem.isEmpty || tail.isEmpty then [] else dot :: tail
  else []

/-- The suffix of the last name. -/
def suffix (p : Path) : Text := nameSuffix p.name

/-- The path with more names at its end. -/
def append (p : Path) (names : List Text) : Path := { p with names := p.names ++ names }

/-- A path read from another one: a path with an anchor stands for itself. -/
def join (base p : Path) : Path :=
  match p.anchor with
  | .relative => base.append p.names
  | _ => p

/-- The path without its last name. -/
def parent (p : Path) : Path := { p with names := p.names.dropLast }

/-- Why a path has no mirror image. -/
inductive MirrorError where
  /-- The path does not lie below the root. -/
  | outside (source root : Path)
  /-- The path is the root itself. -/
  | emptyName
deriving DecidableEq

/-- The wording of a mirror error. -/
def MirrorError.message : MirrorError → Text
  | outside source root =>
    Text.quoted source.text ++ " is not in the subpath of " ++ Text.quoted root.bareText
      ++ " OR one path is relative and the other is absolute."
  | emptyName => "PosixPath('.') has an empty name"

/-- The names of a path below a root. -/
def relativeTo (source root : Path) : Except MirrorError (List Text) :=
  if source.anchor = root.anchor ∧ root.names <+: source.names then
    .ok (source.names.drop root.names.length)
  else .error (.outside source root)

/-- The place of a path's output: as far below the output directory as the source is below the
root, with `.json` added to the last name. -/
def mirror (source root output : Path) : Except MirrorError Path := do
  let names ← source.relativeTo root
  match names.getLast? with
  | none => .error .emptyName
  | some last => .ok (output.append (names.dropLast ++ [last ++ Text.ofString ".json"]))

end Path

end ScriptTree
