import ScriptTree.Basic
import ScriptTree.Number.Integer
import ScriptTree.Script.Ast
import ScriptTree.Script.Lexer

namespace ScriptTree

/-- Why a script cannot be read. -/
inductive ParseFailure where
  | fault (fault : SyntaxFault)
  /-- A part of a template stands where a template should start. -/
  | headlessTemplate
  /-- A number that is too long to be shown stands where it cannot stand. -/
  | longNumber
  /-- The stack does not suffice for the script, be it to read it or to convert and write its tree. -/
  | tooDeep
deriving DecidableEq

/-- The wording of a failure. -/
def ParseFailure.message : ParseFailure → Text
  | fault e => e.message
  | headlessTemplate => "Template literal must start with a template head"
  | longNumber => DigitOverflow.shown.message
  | tooDeep => "maximum recursion depth exceeded"

namespace Grammar

/-- What the phrases around the current one say about it. -/
structure Context where
  isModule : Bool
  strict : Bool
  /-- `await` is an operator. -/
  allowAwait : Bool
  /-- `in` is an operator. -/
  allowIn : Bool
  /-- `yield` is a name. -/
  allowYield : Bool
  /-- A directive may turn on strict mode. -/
  allowStrictDirective : Bool
  inFunction : Bool
  inLoop : Bool
  inSwitch : Bool
  labels : List Text
  /-- What has been read can be assigned to. -/
  isTarget : Bool
  /-- What has been read can be a parameter of an arrow function. -/
  isBinding : Bool
  /-- A default value that only a pattern may have. -/
  patternOnly : Option Lexeme

/-- The context of a whole script. -/
def Context.initial : Context where
  isModule := false
  strict := false
  allowAwait := false
  allowIn := true
  allowYield := true
  allowStrictDirective := true
  inFunction := false
  inLoop := false
  inSwitch := false
  labels := []
  isTarget := false
  isBinding := false
  patternOnly := none

/-- The state of a reader. -/
structure State where
  /-- Where the lexeme after the one ahead is read from. -/
  lexer : Lexer
  /-- The lexeme ahead. -/
  ahead : Lexeme
  /-- The lexeme ahead ends on another line than the one before it. -/
  newLine : Bool
  /-- The end of the lexeme before the one ahead. -/
  last : Place
  /-- The names bound by the pattern that is being read, the latest first. -/
  bound : List Lexeme
  context : Context
  /-- The length of the script. -/
  size : Nat

/-- What declares the names of a pattern. -/
inductive Declarer where
  | parameter
  | var
  /-- `let` or `const`. -/
  | lexical (word : Text)
deriving DecidableEq

/-- The rules of the grammar that refer to each other in a circle. -/
inductive Rule where
  | assignment
  | unary
  | exponentiation
  /-- What operators apply to: a primary expression with members and calls. -/
  | operand
  /-- What `new` applies to: a primary expression with members. -/
  | callee
  | statement
  | listItem
  | pattern (declarer : Declarer)

/-- A computation on the state of a reader. -/
abbrev Action := StateT State (Except ParseFailure)

/-- A reader of a phrase, which may refer to the rules of the grammar. -/
abbrev Phrase := ReaderT (Rule → Action Ast) Action

/-- The phrase of a rule. -/
def rule (r : Rule) : Phrase Ast := do (← read) r

/-- The lexeme ahead. -/
def ahead : Phrase Lexeme := return (← get).ahead

/-- Whether a punctuator is ahead. -/
def isAt (t : Text) : Phrase Bool := return (← get).ahead.isPunctuator t

/-- Whether one of some punctuators is ahead. -/
def isAtAny (ts : List Text) : Phrase Bool := do
  let l ← ahead
  return l.kind = .punctuator && ts.contains l.text

/-- Whether a keyword is ahead. -/
def isAtKeyword (t : Text) : Phrase Bool := return (← get).ahead.isKeyword t

/-- Whether an identifier of a given text is ahead. -/
def isAtWord (t : Text) : Phrase Bool := return (← get).ahead.isWord t

/-- Whether a lexeme of a kind is ahead. -/
def isAtKind (kind : LexemeKind) : Phrase Bool := return (← get).ahead.kind = kind

/-- A failure at a given position. -/
def fail {α : Type} (e : SyntaxFault) : Phrase α := throw (.fault e)

/-- A problem of a lexeme. Its column is counted from the start of the line on which the lexeme
before the one ahead ends. A report shows the lexeme, so it must be one that can be shown. -/
def reject {α : Type} (l : Lexeme) (problem : Problem) : Phrase α := do
  match l.kind with
  | .number (.int i) => if !DigitOverflow.isShowable i then throw .longNumber
  | _ => pure ()
  let s ← get
  fail { problem, line := l.line, index := l.start.place.index,
         column := (l.start.place.index : Int) - s.last.lineStart + 1 }

/-- What is wrong with a lexeme that cannot stand where it stands. -/
def misplaced (strict : Bool) (l : Lexeme) : Problem :=
  match l.kind with
  | .endOfInput => .unexpectedEnd
  | .identifier => .unexpectedIdentifier
  | .number _ => .unexpectedNumber
  | .string => .unexpectedString
  | .template .. => .unexpectedTemplate l.text
  | .keyword =>
    if Word.futureReserved.contains l.text then .reservedWord
    else if strict && Word.isStrictReserved l.text then .strictReservedWord
    else .unexpectedToken l.text
  | _ => .unexpectedToken l.text

/-- A lexeme that cannot stand where it stands. -/
def unexpected {α : Type} (l : Lexeme) : Phrase α := do
  reject l (misplaced (← get).context.strict l)

/-- The lexeme ahead cannot stand there. -/
def unexpectedAhead {α : Type} : Phrase α := do unexpected (← ahead)

/-- A problem at the end of the lexeme before the one ahead. -/
def rejectLast {α : Type} (problem : Problem) : Phrase α := do
  fail ((← get).last.fault problem)

/-- A problem at the end of the lexeme before the one ahead, reported on the line on which the
lexeme ahead ends. -/
def rejectNear {α : Type} (problem : Problem) : Phrase α := do
  let s ← get
  fail { s.last.fault problem with line := s.lexer.cursor.place.line }

/-- A problem of a lexeme, or of no lexeme in particular. -/
def rejectAt {α : Type} (l : Option Lexeme) (problem : Problem) : Phrase α :=
  match l with
  | some l => reject l problem
  | none => rejectLast problem

/-- Fails if a condition holds. -/
def failIf (condition : Bool) (failure : Phrase PUnit) : Phrase PUnit :=
  if condition then failure else pure ()

/-- In strict mode the words it reserves are keywords. -/
def strictWord (strict : Bool) (l : Lexeme) : Lexeme :=
  if strict && l.kind = .identifier && Word.isStrictReserved l.text then { l with kind := .keyword }
  else l

/-- The state past the lexeme ahead. -/
def State.next (s : State) : Except ParseFailure State :=
  match s.lexer.next s.context.isModule with
  | .error e => .error (.fault e)
  | .ok (l, lexer) =>
    let l := strictWord s.context.strict l
    .ok { s with lexer, ahead := l, newLine := s.ahead.line ≠ l.line, last := s.lexer.cursor.place }

/-- Takes the lexeme ahead. -/
def next : Phrase Lexeme := do
  let s ← get
  match s.next with
  | .error e => throw e
  | .ok t =>
    set t
    return s.ahead

/-- Takes the lexeme ahead if it is a given punctuator. -/
def accept (t : Text) : Phrase Bool := do
  if ← isAt t then
    discard next
    return true
  else return false

/-- Takes the lexeme ahead, which must be a given punctuator. -/
def expect (t : Text) : Phrase PUnit := do
  let l ← next
  failIf (!l.isPunctuator t) (unexpected l)

/-- Takes the lexeme ahead, which must be a given keyword. -/
def expectKeyword (t : Text) : Phrase PUnit := do
  let l ← next
  failIf (!l.isKeyword t) (unexpected l)

/-- The lexeme after the one ahead. Braces that it opens or closes stay so. -/
def afterNext : Phrase Lexeme := do
  let s ← get
  match s.lexer.next s.context.isModule with
  | .error e => fail e
  | .ok (l, lexer) =>
    set { s with lexer := { s.lexer with braces := lexer.braces } }
    return l

/-- The end of a statement: a semicolon, or the end of a line, a block or the script. -/
def endStatement : Phrase PUnit := do
  if ← isAt ";" then discard next
  else if !(← get).newLine then
    let l ← ahead
    failIf (l.kind ≠ .endOfInput && !l.isPunctuator "\x7d") (unexpected l)
    modify fun s => { s with last := s.ahead.start.place }

/-- Repeats a step until it gives a result. Every step but the last one takes a lexeme, so there
are no more steps than code points left. -/
def loop {σ α : Type} (start : σ) (step : σ → Phrase (σ ⊕ α)) : Phrase α := do
  let s ← get
  iterate (throw .tooDeep) step (s.size - s.ahead.start.place.index + 3) start

/-- The phrases up to the one before which a test holds. -/
def manyUntil (stop : Phrase Bool) (item : Phrase Ast) : Phrase (List Ast) :=
  loop [] fun items => do
    if ← stop then return .inr items.reverse
    else return .inl ((← item) :: items)

/-- The phrases up to a punctuator, with commas between them; a comma may follow the last one. -/
def commaSeparated (close : Text) (item : Phrase Ast) : Phrase (List Ast) :=
  manyUntil (isAt close) do
    let a ← item
    if !(← isAt close) then expect ","
    return a

def context : Phrase Context := return (← get).context

/-- Changes the context. -/
def setContext (change : Context → Context) : Phrase PUnit :=
  modify fun s => { s with context := change s.context }

/-- Reads a phrase in a changed context. Afterwards `restore` gets the context before the phrase
and the one after it. -/
def within {α : Type} (change : Context → Context) (restore : Context → Context → Context)
    (phrase : Phrase α) : Phrase α := do
  let before ← context
  setContext change
  let a ← phrase
  setContext (restore before)
  return a

/-- Reads a phrase where `in` is an operator. -/
def allowingIn {α : Type} : Phrase α → Phrase α :=
  within (fun c => { c with allowIn := true }) fun before c => { c with allowIn := before.allowIn }

/-- Reads a phrase where `in` is no operator. -/
def disallowingIn {α : Type} : Phrase α → Phrase α :=
  within (fun c => { c with allowIn := false }) fun before c => { c with allowIn := before.allowIn }

/-- Reads a phrase where `yield` is a name or not. -/
def withYield {α : Type} (allowed : Bool) : Phrase α → Phrase α :=
  within (fun c => { c with allowYield := allowed }) fun before c =>
    { c with allowYield := before.allowYield }

/-- Reads a phrase of strict code. -/
def inStrictMode {α : Type} : Phrase α → Phrase α :=
  within (fun c => { c with strict := true }) fun before c => { c with strict := before.strict }

/-- What has been read is no pattern. -/
def noPattern : Phrase PUnit := setContext fun c => { c with isTarget := false, isBinding := false }

/-- What has been read can be assigned to and is no parameter. -/
def onlyTarget : Phrase PUnit := setContext fun c => { c with isTarget := true, isBinding := false }

/-- The context of a phrase that may be a pattern. -/
def Context.open (c : Context) : Context :=
  { c with isTarget := true, isBinding := true, patternOnly := none }

/-- Reads a phrase that must be an expression, whatever the phrase around it turns out to be. -/
def isolated {α : Type} (phrase : Phrase α) : Phrase α :=
  within Context.open
    (fun before c => { c with
      isTarget := before.isTarget, isBinding := before.isBinding
      patternOnly := before.patternOnly })
    do
      let a ← phrase
      match (← context).patternOnly with
      | some l => unexpected l
      | none => return a

/-- Reads a phrase that is a pattern only if the phrase around it is one. -/
def inherited {α : Type} (phrase : Phrase α) : Phrase α :=
  within Context.open
    (fun before c => { c with
      isTarget := c.isTarget && before.isTarget
      isBinding := c.isBinding && before.isBinding
      patternOnly := before.patternOnly <|> c.patternOnly })
    phrase

/-- Reads a phrase and gives the names that its patterns bind, in their order. -/
def collectingBound {α : Type} (phrase : Phrase α) : Phrase (α × List Lexeme) := do
  let outer := (← get).bound
  modify fun s => { s with bound := [] }
  let a ← phrase
  let bound := (← get).bound
  modify fun s => { s with bound := outer }
  return (a, bound.reverse)

/-- Binds a name in the pattern that is being read. -/
def bind (l : Lexeme) : Phrase PUnit := modify fun s => { s with bound := l :: s.bound }

/-- Any name, keywords included. -/
def identifierName : Phrase Ast := do
  let l ← next
  failIf (!l.isName) (unexpected l)
  return .identifier l.text

/-- A literal read from a lexeme. -/
def literalOf (l : Lexeme) : Ast :=
  match l.kind with
  | .number v => .literal v l.raw
  | .boolean => .literal (.bool (l.text = "true")) l.raw
  | .nullWord => .literal .null l.raw
  | _ => .literal (.str l.text) l.raw

/-- An assignment expression or any that binds tighter. -/
def assignment : Phrase Ast := rule .assignment

/-- An expression, with commas. -/
def expression : Phrase Ast := do
  let first ← isolated assignment
  if ← isAt "," then
    let more ← manyUntil (return !(← isAt ",")) do
      discard next
      isolated assignment
    return .sequence (first :: more)
  else return first

/-- Whether `async` and, on the same line, `function` are ahead. -/
def isAtAsyncFunction : Phrase Bool := do
  if ← isAtWord "async" then
    let line := (← get).lexer.cursor.place.line
    let l ← afterNext
    return line = l.line && l.isKeyword "function"
  else return false

/-- Whether `import` and an opening parenthesis are ahead. -/
def isAtImportCall : Phrase Bool := do
  if ← isAtKeyword "import" then return (← afterNext).isPunctuator "("
  else return false

end Grammar

end ScriptTree
