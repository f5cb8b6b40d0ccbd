import ScriptTree.Yaml.Token.Property
import ScriptTree.Yaml.Token.Scalar

namespace ScriptTree

namespace Yaml

/-- What may turn out to be a key: the number of its first token, whether the indentation requires
it to be one, and where it starts. -/
structure SimpleKey where
  token : Nat
  isRequired : Bool
  mark : Mark

/-- The state of a lexer. -/
structure Lexer where
  stream : Stream
  isDone : Bool
  /-- The number of open brackets and braces. -/
  depth : Nat
  /-- Tokens that have been read but not taken. -/
  tokens : List Token
  /-- The number of tokens that have been taken. -/
  taken : Nat
  /-- The column of the innermost open block, -1 outside of any. -/
  indent : Int
  indents : List Int
  /-- A key may start here. -/
  allowKey : Bool
  /-- The possible keys, by depth. -/
  keys : List (Nat × SimpleKey)

/-- The lexer at the start of a document. -/
def Lexer.start (text : Text) : Lexer where
  stream := ⟨Mark.zero, text⟩
  isDone := false
  depth := 0
  tokens := []
  taken := 0
  indent := -1
  indents := []
  allowKey := true
  keys := []

/-- A computation on a lexer that may find a fault. -/
abbrev Lex := StateT Lexer (Except Fault)

namespace Lex

/-- Runs a computation on the stream. -/
def scan {α : Type} (s : Scan α) : Lex α := do
  let l ← get
  match s.run l.stream with
  | .error e => throw e
  | .ok (a, stream) =>
    set { l with stream }
    return a

/-- The mark of the next code point. -/
def mark : Lex Mark := return (← get).stream.mark

/-- The column of the next code point. -/
def column : Lex Int := return (← get).stream.mark.column

/-- Adds a token at the end. -/
def push (t : Token) : Lex PUnit := modify fun l => { l with tokens := l.tokens ++ [t] }

/-- Adds a token that takes no room. -/
def pushHere (kind : TokenKind) : Lex PUnit := do
  let m ← mark
  push ⟨kind, m, m⟩

/-- Adds a token that takes a number of code points. -/
def pushIndicator (kind : TokenKind) (length : Nat) : Lex PUnit := do
  let start ← mark
  scan (Scan.skip length)
  push ⟨kind, start, ← mark⟩

/-- Adds a token read from the stream. -/
def pushScanned (s : Scan TokenKind) : Lex PUnit := do
  let start ← mark
  let kind ← scan s
  push ⟨kind, start, ← mark⟩

/-- Says whether a key may start here. -/
def setAllowKey (allowed : Bool) : Lex PUnit := modify fun l => { l with allowKey := allowed }

/-- Fails because what had to be a key is none. -/
def missingColon {α : Type} (key : SimpleKey) : Lex α := do
  throw (.at (some (.scanningKey, some key.mark)) .missingColon (← mark))

/-- Whether a possible key has become impossible: its line has ended or it is too long. -/
def SimpleKey.isStale (here : Mark) (key : SimpleKey) : Bool :=
  key.mark.line ≠ here.line || 1024 < here.index - key.mark.index

/-- Drops the possible keys that have become impossible. -/
def dropStale : Lex PUnit := do
  let l ← get
  let here := l.stream.mark
  match l.keys.find? fun k => SimpleKey.isStale here k.2 && k.2.isRequired with
  | some k => missingColon k.2
  | none => set { l with keys := l.keys.filter fun k => !SimpleKey.isStale here k.2 }

/-- Drops the possible key at the current depth. -/
def dropKey : Lex PUnit := do
  let l ← get
  match l.keys.lookup l.depth with
  | some key => if key.isRequired then missingColon key
  | none => pure ()
  set { l with keys := l.keys.filter fun k => k.1 ≠ l.depth }

/-- Remembers that what starts here may turn out to be a key. -/
def saveKey : Lex PUnit := do
  let l ← get
  if l.allowKey then
    dropKey
    let m := l.stream.mark
    let key : SimpleKey :=
      { token := l.taken + l.tokens.length, mark := m
        isRequired := l.depth = 0 && l.indent = (m.column : Int) }
    modify fun l => { l with keys := (l.depth, key) :: l.keys }

/-- Whether a block opens at a column; it is remembered then. -/
def openBlock (column : Int) : Lex Bool := do
  let l ← get
  if l.indent < column then
    set { l with indents := l.indent :: l.indents, indent := column }
    return true
  else return false

/-- Closes the blocks that are indented deeper than a column. -/
def closeBlocksTo (column : Int) : List Int → Lex PUnit
  | [] => pure ()
  | outer :: indents => do
    if column < (← get).indent then
      pushHere .blockEnd
      modify fun l => { l with indent := outer, indents }
      closeBlocksTo column indents

/-- Closes the blocks that are indented deeper than a column, unless brackets are open. -/
def closeBlocks (column : Int) : Lex PUnit := do
  let l ← get
  if l.depth = 0 then closeBlocksTo column l.indents

/-- Skips spaces, comments and line breaks. After a line break outside of brackets a key may
start. -/
def skipBlanks : Lex PUnit := do
  let l ← get
  if l.stream.mark.index = 0 && (l.stream.peek 0).val = 0xFEFF then scan (Scan.skip 1)
  let newLine ← scan do
    Scan.loop false fun newLine => do
      Scan.skipWhile isSpace
      Scan.skipComment
      if (← Scan.lineBreak).isEmpty then return .inr newLine else return .inl true
  if newLine && l.depth = 0 then setAllowKey true

/-- Fails unless a key may start here, which only matters outside of brackets. -/
def requireKeyAllowed (problem : Problem) : Lex PUnit := do
  let l ← get
  if l.depth = 0 && !l.allowKey then throw (.at none problem l.stream.mark)

/-- The end of the document. -/
def endStream : Lex PUnit := do
  closeBlocks (-1)
  dropKey
  setAllowKey false
  modify fun l => { l with keys := [], isDone := true }
  pushHere .streamEnd

/-- What stands at the margin closes all blocks. -/
def atMargin (token : Lex PUnit) : Lex PUnit := do
  closeBlocks (-1)
  dropKey
  setAllowKey false
  token

/-- An opening bracket or brace. -/
def openFlow (kind : TokenKind) : Lex PUnit := do
  saveKey
  modify fun l => { l with depth := l.depth + 1, allowKey := true }
  pushIndicator kind 1

/-- A closing bracket or brace. -/
def closeFlow (kind : TokenKind) : Lex PUnit := do
  dropKey
  modify fun l => { l with depth := l.depth - 1, allowKey := false }
  pushIndicator kind 1

/-- A comma between brackets. -/
def flowEntry : Lex PUnit := do
  setAllowKey true
  dropKey
  pushIndicator .flowEntry 1

/-- Opens a block here if the indentation asks for one. -/
def openBlockHere (kind : TokenKind) : Lex PUnit := do
  if (← get).depth = 0 then
    if ← openBlock (← column) then pushHere kind

/-- A dash before an entry. -/
def blockEntry : Lex PUnit := do
  requireKeyAllowed .entryNotAllowed
  openBlockHere .blockSequenceStart
  setAllowKey true
  dropKey
  pushIndicator .blockEntry 1

/-- A question mark before a key. -/
def key : Lex PUnit := do
  requireKeyAllowed .keyNotAllowed
  openBlockHere .blockMappingStart
  setAllowKey ((← get).depth = 0)
  dropKey
  pushIndicator .key 1

/-- Puts tokens before the first token of a key. -/
def insertAt (key : SimpleKey) (kinds : List TokenKind) : Lex PUnit :=
  modify fun l =>
    let place := key.token - l.taken
    { l with
      tokens := l.tokens.take place ++ kinds.map (fun kind => ⟨kind, key.mark, key.mark⟩)
        ++ l.tokens.drop place }

/-- A colon before a value. If something before it may be a key, it is one now. -/
def value : Lex PUnit := do
  let l ← get
  match l.keys.lookup l.depth with
  | some key =>
    set { l with keys := l.keys.filter fun k => k.1 ≠ l.depth }
    let opens ← if l.depth = 0 then openBlock key.mark.column else pure false
    insertAt key (if opens then [.blockMappingStart, .key] else [.key])
    setAllowKey false
  | none =>
    requireKeyAllowed .valueNotAllowed
    openBlockHere .blockMappingStart
    setAllowKey (l.depth = 0)
    dropKey
  pushIndicator .value 1

/-- A token that may start a key and after which none may start. -/
def mayBeKey (s : Scan TokenKind) : Lex PUnit := do
  saveKey
  setAllowKey false
  pushScanned s

def blockScalar (isFolded : Bool) : Lex PUnit := do
  setAllowKey true
  dropKey
  let indent := (← get).indent
  pushScanned do return .scalar (← Scan.blockScalar isFolded indent) false

/-- A plain scalar. If it ends at the start of a line, a key may start there. -/
def plain : Lex PUnit := do
  saveKey
  setAllowKey false
  let l ← get
  let start ← mark
  let (text, atLineStart) ← scan (Scan.plain (l.depth ≠ 0) (l.indent + 1))
  setAllowKey atLineStart
  push ⟨.scalar text true, start, ← mark⟩

/-- Whether a plain scalar may start with a code point, given what follows it. -/
def startsPlain (inFlow : Bool) (c following : CodePoint) : Bool :=
  (!isBlankStop c && !(Text.ofString "-?:,[]\x7b\x7d#&*!|>'\"%@`").contains c) ||
    (!isBlankStop following && (c = '-' || (!inFlow && (c = '?' || c = ':'))))

/-- Reads at least one more token. -/
def fetch : Lex PUnit := do
  skipBlanks
  dropStale
  closeBlocks (← column)
  let l ← get
  let c := l.stream.peek 0
  let following := l.stream.peek 1
  let inFlow := l.depth ≠ 0
  let atMarginHere := l.stream.mark.column = 0
  let isSeparator := atMarginHere && isBlankStop (l.stream.peek 3)
  let three := l.stream.rest.take 3
  if c.val = 0 then endStream
  else if c = '%' && atMarginHere then atMargin (pushScanned Scan.directive)
  else if isSeparator && three = "---" then atMargin (pushIndicator .documentStart 3)
  else if isSeparator && three = "..." then atMargin (pushIndicator .documentEnd 3)
  else if c = '[' then openFlow .flowSequenceStart
  else if c = '\x7b' then openFlow .flowMappingStart
  else if c = ']' then closeFlow .flowSequenceEnd
  else if c = '\x7d' then closeFlow .flowMappingEnd
  else if c = ',' then flowEntry
  else if c = '-' && isBlankStop following then blockEntry
  else if c = '?' && (inFlow || isBlankStop following) then key
  else if c = ':' && (inFlow || isBlankStop following) then value
  else if c = '*' then mayBeKey do return .aliasOf (← Scan.anchorName .scanningAlias)
  else if c = '&' then mayBeKey do return .anchor (← Scan.anchorName .scanningAnchor)
  else if c = '!' then mayBeKey Scan.tag
  else if c = '|' && !inFlow then blockScalar false
  else if c = '>' && !inFlow then blockScalar true
  else if c = '\'' then mayBeKey do return .scalar (← Scan.quoted false) false
  else if c = '"' then mayBeKey do return .scalar (← Scan.quoted true) false
  else if startsPlain inFlow c following then plain
  else throw (.at (some (.scanningToken, none)) (.cannotStart c) l.stream.mark)

/-- Whether more tokens must be read to know the next one: none is there, or the next one may turn
out to start a key. -/
def needsMore : Lex Bool := do
  if (← get).isDone then return false
  else if (← get).tokens.isEmpty then return true
  else
    dropStale
    let l ← get
    return l.keys.any fun k => k.2.token = l.taken

/-- The next token, which stays ahead. -/
def ahead : Lex Token := do
  let l ← get
  iterate (throw .tooDeep)
    (fun _ => do
      if ← needsMore then
        fetch
        return .inl ()
      else return .inr ())
    (l.stream.rest.length + 3) ()
  let l ← get
  return l.tokens.headD ⟨.streamEnd, l.stream.mark, l.stream.mark⟩

/-- Takes the next token. -/
def take : Lex Token := do
  let t ← ahead
  modify fun l => { l with tokens := l.tokens.drop 1, taken := l.taken + 1 }
  return t

end Lex

end Yaml

end ScriptTree
