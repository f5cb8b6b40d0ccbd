import ScriptTree.Corpus.Placement
import ScriptTree.Corpus.Segment
import ScriptTree.Corpus.Subject

namespace ScriptTree

/-- Why a text with slots cannot be filled in. -/
inductive FillError where
  /-- An opening brace at the very end. -/
  | loneOpening
  /-- A closing brace that neither closes a slot nor is doubled. -/
  | loneClosing
  /-- A slot that is not closed. -/
  | unclosed
  /-- An opening brace in the path of a slot. -/
  | nestedOpening
  /-- The end of the text where a conversion should be named. -/
  | noConversion
  /-- A conversion of more than one letter. -/
  | longConversion
  | unknownConversion (letter : CodePoint)
  /-- The description of a placement that is not closed. -/
  | unclosedDescription
  | placement (flaw : PlacementFlaw)
  /-- A slot for something other than the name. -/
  | unknownField (field : Text)
  /-- A slot for a value by position, of which there are none. -/
  | positional (index : Nat)
  /-- A position with too many digits. -/
  | longNumber
  /-- A part without a name. -/
  | emptyPart
  /-- Something other than a further part after brackets. -/
  | afterBracket
  | subject (error : SubjectError)
  /-- Slots within slots within slots. -/
  | tooDeep
deriving DecidableEq

/-- The wording of a fill error. -/
def FillError.message : FillError → Text
  | loneOpening => "Single '\x7b' encountered in format string"
  | loneClosing => "Single '\x7d' encountered in format string"
  | unclosed => "expected '\x7d' before end of string"
  | nestedOpening => "unexpected '\x7b' in field name"
  | noConversion => "end of string while looking for conversion specifier"
  | longConversion => "expected ':' after conversion specifier"
  | unknownConversion letter => "Unknown conversion specifier " ++ letter.named 127
  | unclosedDescription => "unmatched '\x7b' in format spec"
  | placement flaw => flaw.message
  | unknownField field => Text.quoted field
  | positional index =>
    "Replacement index " ++ Text.ofNat index ++ " out of range for positional args tuple"
  | longNumber => "Too many decimal digits in format string"
  | emptyPart => "Empty attribute in format string"
  | afterBracket => "Only '.' or '[' may follow ']' in format field specifier"
  | subject e => e.message
  | tooDeep => "Max string recursion exceeded"

/-- A slot in a text. -/
structure Slot where
  /-- What names the value. -/
  path : Text
  conversion : Option CodePoint
  /-- How the value is placed, with slots of its own. -/
  description : Text

/-- What a text with slots is made of. -/
inductive TemplatePart where
  | literal (text : Text)
  | slot (slot : Slot)
  /-- The text is not well formed from here on. -/
  | broken (error : FillError)

namespace Slot

/-- The path of a slot, what ends it and what follows; brackets may hold anything. -/
def splitPath (inBrackets : Bool) : Text → Except FillError (Text × CodePoint × Text)
  | [] => .error .unclosed
  | c :: rest =>
    if inBrackets then
      (splitPath (c ≠ CodePoint.ofChar ']') rest).map fun r => (c :: r.1, r.2)
    else if c = '\x7b' then .error .nestedOpening
    else if c = '\x7d' ∨ c = ':' ∨ c = '!' then .ok ([], c, rest)
    else (splitPath (c = CodePoint.ofChar '[') rest).map fun r => (c :: r.1, r.2)

/-- The description of a placement inside a number of slots, and what follows it. -/
def splitDescription (depth : Nat) : Text → Except FillError (Text × Text)
  | [] => .error .unclosedDescription
  | c :: rest =>
    if c = '\x7d' ∧ depth = 0 then .ok ([], rest)
    else
      let depth :=
        if c = '\x7b' then depth + 1 else if c = '\x7d' then depth - 1 else depth
      (splitDescription depth rest).map fun r => (c :: r.1, r.2)

/-- The slot after an opening brace, and what follows it. -/
def read (t : Text) : Except FillError (Slot × Text) := do
  let (path, stop, rest) ← splitPath false t
  let described (conversion : Option CodePoint) (rest : Text) := do
    let (description, rest) ← splitDescription 0 rest
    return ({ path, conversion, description : Slot }, rest)
  if stop = ':' then described none rest
  else if stop = '!' then
    match rest with
    | [] => .error .noConversion
    | [_] => .error .unclosedDescription
    | letter :: c :: rest =>
      if c = '\x7d' then return ({ path, conversion := letter, description := [] }, rest)
      else if c = ':' then described letter rest
      else .error .longConversion
  else return ({ path, conversion := none, description := [] }, rest)

end Slot

namespace TemplatePart

def isBrace (c : CodePoint) : Bool := c = '\x7b' || c = '\x7d'

/-- The first piece of a text and what follows it. -/
def read (t : Text) : TemplatePart × Text :=
  let run := t.takeWhile fun c => !isBrace c
  match run, t.drop run.length with
  | run, [] => (.literal run, [])
  | _, [c] => (.broken (if c = '\x7b' then .loneOpening else .loneClosing), [])
  | run, c :: d :: rest =>
    if c = d then (.literal (run ++ [c]), rest)
    else if c = '\x7d' then (.broken .loneClosing, [])
    else if !run.isEmpty then (.literal run, c :: d :: rest)
    else
      match Slot.read (d :: rest) with
      | .ok (p, rest) => (.slot p, rest)
      | .error e => (.broken e, [])

/-- The pieces of a text, of which there are at most `bound`. -/
def readAll : Nat → Text → List TemplatePart
  | _, [] => []
  | 0, _ => []
  | bound + 1, t =>
    let (piece, rest) := read t
    piece :: readAll bound rest

/-- The pieces of a text. -/
def ofText (t : Text) : List TemplatePart := readAll t.length t

end TemplatePart

namespace Subject

/-- The number that a text is, if it consists of digits; digits that it starts with must not be too
many. -/
def position? (t : Text) : Except FillError (Option Nat) :=
  let digits := t.leadingDigits
  let value := Text.ofDigitValues 10 digits
  if Placement.greatestNumber < value then .error .longNumber
  else .ok (if digits.isEmpty || digits.length < t.length then none else some value)

/-- A part by what stands in brackets. -/
def keyed (key : Text) (s : Subject) : Except FillError Subject := do
  let index ← position? key
  if key.isEmpty then throw .emptyPart
  (s.item index).mapError .subject

/-- The part of a subject that a path leads to. -/
def follow (s : Subject) : Text → Except FillError Subject
  | [] => .ok s
  | c :: rest =>
    if c = '.' then
      let name := rest.takeWhile fun d => d ≠ CodePoint.ofChar '.' && d ≠ CodePoint.ofChar '['
      if name.isEmpty then .error .emptyPart
      else
        match s.part name with
        | .ok part => part.follow (rest.drop name.length)
        | .error e => .error (.subject e)
    else if c = '[' then
      let key := rest.takeWhile fun d => d ≠ CodePoint.ofChar ']'
      match s.keyed key with
      | .ok part => part.follow (rest.drop (key.length + 1))
      | .error e => .error e
    else .error .afterBracket
termination_by t => t.length
decreasing_by all_goals simp only [List.length_drop, List.length_cons]; omega

/-- The subject that a path leads to from a name. -/
def ofPath (name path : Text) : Except FillError Subject := do
  let first := path.takeWhile fun c => c ≠ CodePoint.ofChar '.' && c ≠ CodePoint.ofChar '['
  match ← position? first with
  | some index => throw (.positional index)
  | none =>
    if first.isEmpty then throw (.positional 0)
    else if first = "name" then follow (text name) (path.drop first.length)
    else throw (.unknownField first)

/-- A subject after a conversion. -/
def convert (letter : CodePoint) (s : Subject) : Except FillError Subject :=
  if letter = 's' then .ok (text s.display)
  else if letter = 'r' then .ok (text s.inspect)
  else if letter = 'a' then .ok (text s.inspectAscii)
  else .error (.unknownConversion letter)

/-- A subject placed as described. Only texts can be placed. -/
def placed (description : Text) (s : Subject) : Except FillError Text :=
  if description.isEmpty then .ok s.display
  else
    match s with
    | text t =>
      match Placement.read description with
      | .ok p => (p.place t).mapError .placement
      | .error flaw => .error (.placement flaw)
    | s => .error (.subject (.unplaced s))

end Subject

namespace Template

/-- Fills the name into a text, in which slots may be nested to a given depth. -/
def fillTo (name : Text) : Nat → Text → Except FillError Text
  | 0, _ => .error .tooDeep
  | depth + 1, t => do
    let filled ← (TemplatePart.ofText t).mapM fun
      | .literal text => .ok text
      | .broken e => .error e
      | .slot p => do
        let subject ← Subject.ofPath name p.path
        let subject ← match p.conversion with
          | some letter => subject.convert letter
          | none => .ok subject
        let description ←
          if p.description.contains (CodePoint.ofChar '\x7b') then
            fillTo name depth p.description
          else .ok p.description
        subject.placed description
    return filled.flatten

/-- Fills the name into a text. The descriptions of slots may hold slots that hold none. -/
def fill (name t : Text) : Except FillError Text := fillTo name 2 t

end Template

/-- The texts around a snippet, with slots for the name of the test. -/
structure Template where
  opening : Text
  closing : Text
deriving DecidableEq

namespace Template

/-- The stub of a fixture. -/
def renderFixture (template : Template) (f : Fixture) : Except FillError Text := do
  let opening ← fill f.name template.opening
  let closing ← fill f.name template.closing
  .ok (opening ++ f.snippet ++ closing)

/-- The stubs of fixtures, one after the other. -/
def render (template : Template) : List Fixture → Except FillError Text
  | [] => .ok []
  | f :: fs => do
    let stub ← template.renderFixture f
    let stubs ← template.render fs
    .ok (stub ++ stubs)

/-- Stubs for Rust: the snippet is a raw string between `r#"` and `"#`. -/
def rust : Template where
  opening := "#[test]\nfn \x7bname\x7d() \x7b\x7b\n    let js = r#\""
  closing := "\"#;\n    run_test(\"\x7bname\x7d\", js);\n\x7d\x7d\n"

/-- Stubs for pytest: the snippet is a raw string between triple quotes. -/
def pytest : Template where
  opening := "def \x7bname\x7d():\n    js = r\"\"\""
  closing := "\"\"\"\n    run_test(\"\x7bname\x7d\", js)\n\n\n"

/-- The template of a name. -/
def named? (name : Text) : Option Template :=
  if name = "rust" then some rust
  else if name = "pytest" then some pytest
  else none

/-- The names of the templates, as diagnostics list them. -/
def nameList : Text := "['pytest', 'rust']"

end Template

end ScriptTree
