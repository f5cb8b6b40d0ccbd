import ScriptTree.Number.Integer
import ScriptTree.Script.RegexSyntax.Basic
import ScriptTree.Script.RegexSyntax.Escape
import ScriptTree.Text.Letter

namespace ScriptTree

namespace RegexSyntax

/-- The options of a group: the letters that are turned on and off; none if they are for the whole
pattern. -/
abbrev GroupOptions := Option (Text × Text)

namespace Options

/-- Whether letters name options that can be on together: one of the two alphabets at most. -/
def areCompatible (letters : Text) : Bool := !(letters.any (oneOf "a") && letters.any (oneOf "u"))

/-- The letters of options that follow, and the sign after them. -/
def letters : Check (Text × Sign) := do
  let taken ← run (← get).rest.length (oneOf "imsxaut")
  match ← next with
  | some u => pure (taken, u)
  | none => failure

/-- Options, of which the first sign was read. A template option can only be on for the whole
pattern, and an alphabet cannot be turned off. -/
def read (first : Sign) : Check GroupOptions := do
  let (on, stop) ← if first.is '-' then pure ([], first) else do
    require (!first.escaped && oneOf "imsxaut" first.char)
    let (more, stop) ← letters
    pure (first.char :: more, stop)
  require (areCompatible on)
  if stop.is ')' then
    modify fun s => { s with options := on ++ s.options }
    pure none
  else do
    require (!on.any (oneOf "t"))
    if stop.is ':' then pure (some (on, []))
    else do
      require (stop.is '-')
      let (off, stop) ← letters
      require (!off.isEmpty && !off.any (oneOf "aut") && !off.any on.contains && stop.is ':')
      pure (some (on, off))

/-- Whether blanks and comments are skipped in a group with options, where `around` tells whether
they are skipped around it. -/
def skips (around : Bool) : GroupOptions → Bool
  | none => around
  | some (on, off) => (around || on.any (oneOf "x")) && !off.any (oneOf "x")

end Options

/-- Whether the options for the whole pattern turn on that blanks and comments are skipped. -/
def skipsEverywhere : Check Bool := return (← get).options.any (oneOf "x")

/-- Whether the options for the whole pattern and its repetitions go together: a template has
none. -/
def State.hasSoundOptions (s : State) : Bool :=
  Options.areCompatible s.options && !(s.repeats && s.options.any (oneOf "t"))

/-- The bounds in braces after an opening one; none if these are no bounds. -/
def bounds : Check (Option (Nat × Option Nat)) := do
  let before ← get
  if before.rest.head? = some (CodePoint.ofChar '\x7d') then pure none
  else do
    let low ← runDigits
    let high ← if ← accept ',' then runDigits else pure low
    if ← accept '\x7d' then
      let least := Text.decimalValue low
      let most := if high.isEmpty then none else some (Text.decimalValue high)
      require (low.length ≤ DigitOverflow.limit && high.length ≤ DigitOverflow.limit)
      require (least < 4294967295 && most.getD 0 < 4294967295)
      require (most.all (least ≤ ·))
      pure (some (least, most))
    else do
      set before
      pure none

/-- Repeats the last piece. -/
def repeatLast (pieces : List Piece) (low : Nat) (high : Option Nat) : Check (List Piece) := do
  match pieces with
  | .other w :: earlier => do
    if !(← accept '?') then
      let _ ← accept '+'
    modify fun s => { s with repeats := true }
    pure (.repeated (w.times low high) :: earlier)
  | _ => failure

/-- The total width of pieces. -/
def total (pieces : List Piece) : Width := pieces.foldl (fun w p => p.width.add w) .zero

/-- Signs up to and past a given one, or up to the end; whether it was found. The number bounds
them. -/
def skipPast (c : CodePoint) : Nat → Check Bool
  | 0 => failure
  | n + 1 => do
    match ← next with
    | none => pure false
    | some u => if u.is c then pure true else skipPast c n

/-- Past a given sign, or to the end; whether it was found. -/
def skipTo (c : CodePoint) : Check Bool := do skipPast c ((← get).rest.length + 1)

/-- Code points that are skipped where blanks are. -/
def isGap (c : CodePoint) : Bool := c = ' ' || (9 ≤ c.val && c.val ≤ 13)

/-- The number of the group that a condition asks for: that of a name that is known, or any number
of a group that there is in the end. -/
def asked (t : Text) : Check Nat := do
  if t.isIdentifier then numberOf t
  else
    match Integer.read 10 t with
    | .ok n => do
      require (0 < n && n < 1073741823)
      modify fun s => { s with asked := max s.asked n.toNat }
      pure n.toNat
    | .error _ => failure

/-- What a group in parentheses is to the alternative around it. -/
inductive Grouped where
  | piece (piece : Piece)
  /-- A comment. -/
  | nothing
  /-- Options for the whole pattern. -/
  | options

mutual

/-- Alternatives up to a closing parenthesis or the end: those of the whole pattern if `outermost`,
with blanks skipped if `skips`. The number bounds the steps. -/
def alternatives : Nat → Bool → Bool → Bool → Check Width
  | 0, _, _, _ => failure
  | n + 1, outermost, first, skips => do
    let w ← branch n skips (outermost && first) []
    if ← accept '|' then
      let skips ← if outermost then skipsEverywhere else pure skips
      let v ← alternatives n outermost false skips
      pure (w.either v)
    else pure w

/-- The pieces of one alternative, the latest first in `pieces`; `first` in the first one of the
whole pattern. -/
def branch : Nat → Bool → Bool → List Piece → Check Width
  | 0, _, _, _ => failure
  | n + 1, skips, first, pieces => do
    match ← peek with
    | none => pure (total pieces)
    | some u =>
      if u.is '|' || u.is ')' then pure (total pieces)
      else do
        let _ ← next
        if u.escaped then branch n skips first ((← escape u.char) :: pieces)
        else if skips && isGap u.char then branch n skips first pieces
        else if skips && u.char = '#' then
          let _ ← skipTo '\n'
          branch n skips first pieces
        else if u.char = '[' then branch n skips first ((← characterClass) :: pieces)
        else if u.char = '?' then
          branch n skips first (← repeatLast pieces 0 (some 1))
        else if u.char = '*' then branch n skips first (← repeatLast pieces 0 none)
        else if u.char = '+' then branch n skips first (← repeatLast pieces 1 none)
        else if u.char = '\x7b' then
          match ← bounds with
          | none => branch n skips first (.other .one :: pieces)
          | some (low, high) => branch n skips first (← repeatLast pieces low high)
        else if u.char = '(' then
          match ← group n skips with
          | .nothing => branch n skips first pieces
          | .options =>
            require (first && pieces.isEmpty)
            branch n (← skipsEverywhere) first pieces
          | .piece piece => branch n skips first (piece :: pieces)
        else if u.char = '^' || u.char = '$' then branch n skips first (.anchor :: pieces)
        else branch n skips first (.other .one :: pieces)

/-- The content of a group up to and past its closing parenthesis. -/
def content : Nat → Bool → Check Width
  | 0, _ => failure
  | n + 1, skips => do
    let w ← alternatives n false true skips
    require (← accept ')')
    pure w

/-- What follows an opening parenthesis. -/
def group : Nat → Bool → Check Grouped
  | 0, _ => failure
  | n + 1, skips => do
    if !(← accept '?') then capture n skips none
    else
      match ← next with
      | none => failure
      | some u =>
        if u.is ':' || u.is '>' then
          let w ← content n skips
          pure (.piece (.other w))
        else if u.is '#' then
          require (← skipTo ')')
          pure .nothing
        else if u.is '=' || u.is '!' then
          let _ ← content n skips
          pure (.piece (.other .zero))
        else if u.is '<' then lookBehind n skips
        else if u.is '(' then conditional n skips
        else if u.is 'P' then named n skips
        else
          match ← Options.read u with
          | none => pure .options
          | some options => do
            let w ← content n (Options.skips skips (some options))
            pure (.piece (.other w))

/-- A group that is numbered. -/
def capture : Nat → Bool → Option Text → Check Grouped
  | 0, _, _ => failure
  | n + 1, skips, called => do
    let number ← openGroup called
    let w ← content n skips
    closeGroup number w
    pure (.piece (.other w))

/-- What follows `(?P`: a group with a name, or a reference to one. -/
def named : Nat → Bool → Check Grouped
  | 0, _ => failure
  | n + 1, skips => do
    if ← accept '<' then
      let t ← name '>'
      require t.isIdentifier
      capture n skips (some t)
    else do
      require (← accept '=')
      let number ← numberOf (← name ')')
      Grouped.piece <$> reference number

/-- What follows `(?<`: only a look behind, of fixed width. -/
def lookBehind : Nat → Bool → Check Grouped
  | 0, _ => failure
  | n + 1, skips => do
    match ← next with
    | none => failure
    | some u => do
      require (u.is '=' || u.is '!')
      let before := (← get).behind
      modify fun s => { s with behind := some (before.getD s.groups.length) }
      let w ← alternatives n false true skips
      modify fun s => { s with behind := before }
      require (← accept ')')
      require w.isStep
      pure (.piece (.other .zero))

/-- What follows `(?(`: a group that is asked for, and one alternative or two. -/
def conditional : Nat → Bool → Check Grouped
  | 0, _ => failure
  | n + 1, skips => do
    let number ← asked (← name ')')
    checkBehind number
    let yes ← branch n skips false []
    if ← accept '|' then
      let no ← branch n skips false []
      require (← accept ')')
      pure (.piece (.other (yes.either no)))
    else do
      require (← accept ')')
      pure (.piece (.other (yes.either .zero)))

end

/-- Whether a pattern without escapes of code points can be compiled. -/
def compiles (pattern : Text) : Bool :=
  let check : Check PUnit := do
    let _ ← alternatives (6 * pattern.length + 10) true true false
    let s ← get
    require (s.rest.isEmpty && s.asked ≤ s.groups.length && s.hasSoundOptions)
  (check.run (State.start pattern)).isSome

end RegexSyntax

end ScriptTree
