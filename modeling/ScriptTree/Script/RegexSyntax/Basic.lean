import ScriptTree.Basic

namespace ScriptTree

namespace RegexSyntax

/-- How many code points a pattern matches: at least and at most. A pattern without a bound counts
as one with a bound beyond all others. -/
structure Width where
  least : Nat
  most : Nat
deriving DecidableEq

namespace Width

/-- The bound beyond all others. -/
def unbounded : Nat := 18446744073709551616

/-- The widths that can be told apart. -/
def clipped (least most : Nat) : Width := ⟨min least unbounded, min most unbounded⟩

/-- The width of nothing. -/
def zero : Width := ⟨0, 0⟩

/-- The width of one code point. -/
def one : Width := ⟨1, 1⟩

/-- One after the other. -/
def add (a b : Width) : Width := clipped (a.least + b.least) (a.most + b.most)

def either (a b : Width) : Width := ⟨min a.least b.least, max a.most b.most⟩

/-- Repeated from `low` to `high` times, without end if there is no `high`. -/
def times (a : Width) (low : Nat) (high : Option Nat) : Width :=
  match high with
  | some n => clipped (a.least * low) (a.most * n)
  | none => clipped (a.least * low) (if a.most = 0 then 0 else unbounded)

/-- Whether a look behind can step back by a width: it is fixed and not too large. -/
def isStep (a : Width) : Bool := a.least = a.most && a.least < 2147483648

end Width

/-- What a piece of a pattern is, as far as repetition is concerned. -/
inductive Piece where
  /-- Matches a position and cannot be repeated. -/
  | anchor
  /-- Already repeated. -/
  | repeated (width : Width)
  | other (width : Width)

def Piece.width : Piece → Width
  | anchor => Width.zero
  | repeated w => w
  | other w => w

/-- What has been seen of a pattern. -/
structure State where
  rest : Text
  /-- The widths of the groups in the order of their numbers, none while a group is open. -/
  groups : List (Option Width)
  /-- The names of groups. -/
  names : List (Text × Nat)
  /-- The number of groups there were when the outermost look behind began. -/
  behind : Option Nat
  /-- The greatest number of a group that a condition asks for. -/
  asked : Nat
  /-- The letters of the options for the whole pattern. -/
  options : Text
  /-- Whether anything is repeated. -/
  repeats : Bool

/-- The state before a pattern. -/
def State.start (pattern : Text) : State where
  rest := pattern
  groups := []
  names := []
  behind := none
  asked := 0
  options := []
  repeats := false

/-- A check that fails if the pattern cannot be compiled. -/
abbrev Check := StateT State Option

/-- A code point, or a backslash with the code point after it. -/
structure Sign where
  escaped : Bool
  char : CodePoint
deriving DecidableEq

/-- A sign that is a given code point without a backslash. -/
def Sign.is (u : Sign) (c : CodePoint) : Bool := !u.escaped && u.char = c

/-- The sign at the front; fails at a backslash that stands last. -/
def peek : Check (Option Sign) := do
  match (← get).rest with
  | [] => pure none
  | c :: rest =>
    if c = '\\' then
      match rest with
      | [] => failure
      | d :: _ => pure (some ⟨true, d⟩)
    else pure (some ⟨false, c⟩)

/-- The sign at the front, past it. -/
def next : Check (Option Sign) := do
  let u ← peek
  match u with
  | none => pure none
  | some v =>
    modify fun s => { s with rest := s.rest.drop (if v.escaped then 2 else 1) }
    pure u

/-- Whether the code point `c` is at the front. -/
def isAt (c : CodePoint) : Check Bool := do
  match ← peek with
  | some u => pure (u.is c)
  | none => pure false

/-- Past the code point `c` if it is at the front. -/
def accept (c : CodePoint) : Check Bool := do
  if ← isAt c then
    let _ ← next
    pure true
  else pure false

/-- Fails unless a condition holds. -/
def require (condition : Bool) : Check PUnit := if condition then pure () else failure

/-- At most `n` code points that satisfy a test, past them. -/
def run (n : Nat) (test : CodePoint → Bool) : Check Text := do
  let taken := ((← get).rest.take n).takeWhile test
  modify fun s => { s with rest := s.rest.drop taken.length }
  pure taken

/-- Digits without bound, past them. -/
def runDigits : Check Text := do run (← get).rest.length CodePoint.isDigit

/-- One of the code points of a string. -/
def oneOf (s : String) (c : CodePoint) : Bool := (Text.ofString s).contains c

/-- A name up to its terminator. No name holds a backslash. -/
def name (terminator : CodePoint) : Check Text := do
  let s ← get
  let t := s.rest.takeWhile (· ≠ terminator)
  require (!t.isEmpty && t.length < s.rest.length && !t.contains (CodePoint.ofChar '\\'))
  set { s with rest := s.rest.drop (t.length + 1) }
  pure t

/-- A new group, open until its end is reached. -/
def openGroup (named : Option Text) : Check Nat := do
  let s ← get
  let number := s.groups.length + 1
  match named with
  | some t => do
    require (!(s.names.any fun entry => entry.1 = t))
    set { s with groups := s.groups ++ [none], names := (t, number) :: s.names }
  | none => set { s with groups := s.groups ++ [none] }
  pure number

/-- The end of a group. -/
def closeGroup (number : Nat) (w : Width) : Check PUnit :=
  modify fun s => { s with groups := s.groups.set (number - 1) (some w) }

/-- The number of the group of a name. -/
def numberOf (t : Text) : Check Nat := do
  match (← get).names.find? fun entry => entry.1 = t with
  | some entry => pure entry.2
  | none => failure

/-- The width of a closed group. -/
def closedWidth (number : Nat) : Check Width := do
  require (0 < number)
  match (← get).groups[number - 1]? with
  | some (some w) => pure w
  | _ => failure

/-- Inside of a look behind, a group must be closed and older than the look behind. -/
def checkBehind (number : Nat) : Check PUnit := do
  match (← get).behind with
  | none => pure ()
  | some count => do
    let _ ← closedWidth number
    require (number ≤ count)

/-- A reference to a group by its number. -/
def reference (number : Nat) : Check Piece := do
  let w ← closedWidth number
  checkBehind number
  pure (.other w)

end RegexSyntax

end ScriptTree
