import ScriptTree.Basic
import ScriptTree.Command.Page
import ScriptTree.Command.Request
import ScriptTree.Text.Quoted

namespace ScriptTree

namespace Similar

/-- The length of the common start of two texts. -/
def commonStart : Text → Text → Nat
  | c :: cs, d :: ds => if c = d then commonStart cs ds + 1 else 0
  | _, _ => 0

/-- A block of one text that another one has too: where it starts in each, and its length. -/
structure Block where
  inFirst : Nat
  inSecond : Nat
  length : Nat

/-- The longest common block; of several the one that starts first, in the first text and then in
the second one. -/
def longestBlock (s t : Text) : Block :=
  let starts := (List.range s.length).flatMap fun i => (List.range t.length).map fun j => (i, j)
  starts.foldl
    (fun best p =>
      let length := commonStart (s.drop p.1) (t.drop p.2)
      if best.length < length then ⟨p.1, p.2, length⟩ else best)
    ⟨0, 0, 0⟩

/-- The number of code points in shared blocks. The number bounds the blocks on one side of each
other. -/
def shared : Nat → Text → Text → Nat
  | 0, _, _ => 0
  | n + 1, s, t =>
    let b := longestBlock s t
    if b.length = 0 then 0
    else
      shared n (s.take b.inFirst) (t.take b.inSecond) + b.length
        + shared n (s.drop (b.inFirst + b.length)) (t.drop (b.inSecond + b.length))

/-- How similar a candidate is to a name: twice what they share, and the length of both. -/
def score (name candidate : Text) : Nat × Nat :=
  (2 * shared candidate.length candidate name, candidate.length + name.length)

/-- At least three fifths of both are shared. -/
def isClose (score : Nat × Nat) : Bool := 3 * score.2 ≤ 5 * score.1

/-- The more similar candidate comes first, and the later one by code points of two alike. -/
def ranksBefore (a b : Text × (Nat × Nat)) : Bool :=
  let x := a.2.1 * b.2.2
  let y := b.2.1 * a.2.2
  y < x || (x = y && !Text.before a.1 b.1)

/-- The candidates closest to a name, at most three, in the order of their code points. -/
def closest (name : Text) (candidates : List Text) : List Text :=
  let close := (candidates.map fun c => (c, score name c)).filter fun c => isClose c.2
  (((close.mergeSort ranksBefore).take 3).map (·.1)).mergeSort fun a b => !Text.before b a

end Similar

namespace Command

/-- What is wrong with a command line. -/
inductive Problem where
  | noFlag (name : Text) (similar : List Text)
  | valueMissing (name : Text)
  | valueUnexpected (name : Text)
  | argumentMissing (name : Text)
  | argumentsLeft (arguments : List Text)
  | noDirectory (path : Text)
  | noDirectoryButFile (path : Text)
  | unknownTemplate (name : Text)
  | noCommand (name : Text) (similar : List Text)
  | commandMissing
deriving DecidableEq

/-- A suggestion of similar names after a message. -/
def suggestion (kind : Text) : List Text → Text
  | [] => []
  | [name] => " Did you mean " ++ Text.quoted name ++ "?"
  | names =>
    " (Possible " ++ kind ++ ": " ++ Text.join ", " (names.map fun n => Text.quoted n) ++ ")"

/-- The wording of a problem. -/
def Problem.message : Problem → Text
  | noFlag name similar =>
    "No such option " ++ Text.quoted name ++ "." ++ suggestion "options" similar
  | valueMissing name => "Option " ++ Text.quoted name ++ " requires an argument."
  | valueUnexpected name => "Option " ++ Text.quoted name ++ " does not take a value."
  | argumentMissing name => "Missing argument '" ++ name ++ "'."
  | argumentsLeft arguments =>
    "Got unexpected extra " ++ (if arguments.length = 1 then "argument" else "arguments" : Text)
      ++ " (" ++ Text.join " " arguments ++ ")"
  | noDirectory path =>
    "Invalid value for 'SOURCE_DIR': Directory " ++ Text.quoted path ++ " does not exist."
  | noDirectoryButFile path =>
    "Invalid value for 'SOURCE_DIR': Directory " ++ Text.quoted path ++ " is a file."
  | unknownTemplate name =>
    "Invalid value for '--template' / '-t': " ++ Text.quoted name
      ++ " is not one of 'pytest', 'rust'."
  | noCommand name similar =>
    "No such command " ++ Text.quoted name ++ "." ++ suggestion "commands" similar
  | commandMissing => "Missing command."

/-- A command line: its flags in order, switches with an empty value, and its plain arguments. -/
structure Line where
  flags : List (Flag × Text)
  plain : List Text
deriving DecidableEq

/-- What one argument that starts like a flag says. -/
inductive FlagReading where
  | complete (flags : List (Flag × Text))
  /-- The value of the last flag, of a given name, is the next argument. -/
  | pending (flag : Flag) (name : Text)

/-- An argument that starts like a flag. -/
def isFlag (argument : Text) : Bool := argument.head? = some hyphen && 1 < argument.length

/-- The name of a long flag and the value after the equals sign. -/
def splitValue (argument : Text) : Text × Option Text :=
  let sign := CodePoint.ofChar '='
  match argument.dropWhile (· ≠ sign) with
  | [] => (argument, none)
  | _ :: value => (argument.takeWhile (· ≠ sign), some value)

/-- A flag with a long name. -/
def readLong (page : Page) (argument : Text) : Except Problem FlagReading :=
  let (name, value) := splitValue argument
  match page.flags.find? fun f => f.long = name with
  | none => .error (.noFlag name (Similar.closest name (page.flags.map Flag.long)))
  | some flag =>
    if flag.takesValue then
      match value with
      | some v => .ok (.complete [(flag, v)])
      | none => .ok (.pending flag name)
    else
      match value with
      | some _ => .error (.valueUnexpected name)
      | none => .ok (.complete [(flag, [])])

/-- Flags given by letters: the first one that takes a value takes what follows it. -/
def readLetters (page : Page) : Text → Except Problem FlagReading
  | [] => .ok (.complete [])
  | c :: rest =>
    match page.flags.find? fun f => f.letter? = some c with
    | none => .error (.noFlag [hyphen, c] [])
    | some flag =>
      if flag.takesValue then
        if rest.isEmpty then .ok (.pending flag [hyphen, c]) else .ok (.complete [(flag, rest)])
      else
        match readLetters page rest with
        | .ok (.complete flags) => .ok (.complete ((flag, []) :: flags))
        | other => other

/-- An argument that starts like a flag. -/
def readFlag (page : Page) (argument : Text) : Except Problem FlagReading :=
  match argument with
  | _ :: c :: rest => if c = hyphen then readLong page argument else readLetters page (c :: rest)
  | _ => .ok (.complete [])

namespace Line

/-- The line with flags put before its own. -/
def withFlags (flags : List (Flag × Text)) (line : Line) : Line :=
  { line with flags := flags ++ line.flags }

/-- The line of the arguments of a page. -/
def read (page : Page) : List Text → Except Problem Line
  | [] => .ok ⟨[], []⟩
  | argument :: rest =>
    if argument = "--" then .ok ⟨[], rest⟩
    else if isFlag argument then
      match readFlag page argument with
      | .error problem => .error problem
      | .ok (.complete flags) => (read page rest).map (withFlags flags)
      | .ok (.pending flag name) =>
        match rest with
        | [] => .error (.valueMissing name)
        | value :: rest => (read page rest).map (withFlags [(flag, value)])
    else if page.mixes then
      (read page rest).map fun line => { line with plain := argument :: line.plain }
    else .ok ⟨[], argument :: rest⟩

/-- The last value of a flag. -/
def value? (flag : Flag) (line : Line) : Option Text :=
  (line.flags.reverse.find? fun f => f.1 = flag).map (·.2)

/-- The first flag that asks for a text instead of work. -/
def inquiry? (line : Line) : Option Flag :=
  (line.flags.find? fun f => !f.1.takesValue).map (·.1)

end Line

end Command

end ScriptTree
