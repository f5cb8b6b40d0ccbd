import ScriptTree.Script.Grammar.Loop

namespace ScriptTree

namespace Grammar

def block : Phrase Ast := do
  expect "\x7b"
  let body ← manyUntil (isAt "\x7d") listItem
  expect "\x7d"
  return .block body

def expressionStatement : Phrase Ast := do
  let e ← expression
  endStatement
  return .expressionStatement e none

/-- A branch of a condition. In strict code it is no function declaration. -/
def branch : Phrase Ast := do
  if (← context).strict && (← isAtKeyword "function") then rejectNear .strictFunctionPlace
  statement

/-- A condition. -/
def ifStatement : Phrase Ast := do
  expectKeyword "if"
  let test ← parenthesized
  let consequent ← branch
  if ← isAtKeyword "else" then
    discard next
    return .ifStatement test consequent (some (← branch))
  else return .ifStatement test consequent none

/-- The label after `break` or `continue` on the same line, which must be that of a statement
around it. -/
def jumpLabel : Phrase (Option Ast) := do
  if (← isAtKind .identifier) && !(← get).newLine then
    let label ← bindingName .parameter
    let name := label.name?.getD []
    if !(← context).labels.contains name then rejectLast (.undefinedLabel name)
    return some label
  else return none

/-- A jump to the next round of a loop. -/
def continueStatement : Phrase Ast := do
  expectKeyword "continue"
  let label ← jumpLabel
  endStatement
  if label.isNone && !(← context).inLoop then rejectLast .illegalContinue
  return .continueStatement label

/-- A jump to the end of a statement. -/
def breakStatement : Phrase Ast := do
  expectKeyword "break"
  let label ← jumpLabel
  endStatement
  let c ← context
  if label.isNone && !c.inLoop && !c.inSwitch then rejectLast .illegalBreak
  return .breakStatement label

/-- The return from a function. A string or template after it is its value, on whatever line it
stands. -/
def returnStatement : Phrase Ast := do
  if !(← context).inFunction then rejectNear .illegalReturn
  expectKeyword "return"
  let l ← ahead
  let ends := l.isPunctuator ";" || l.isPunctuator "\x7d" || l.kind = .endOfInput
  let hasValue := (!ends && !(← get).newLine) || l.kind = .string || l.isTemplate
  let argument ← if hasValue then some <$> expression else pure none
  endStatement
  return .returnStatement argument

/-- A statement in the scope of an object, which strict mode forbids. -/
def withStatement : Phrase Ast := do
  if (← context).strict then rejectNear .strictWith
  expectKeyword "with"
  let scope ← parenthesized
  return .withStatement scope (← statement)

/-- A case of a `switch` statement, and whether it is the default. -/
def switchCase : Phrase (Ast × Bool) := do
  let test ←
    if ← isAtKeyword "default" then
      discard next
      pure none
    else
      expectKeyword "case"
      some <$> expression
  expect ":"
  let consequent ← manyUntil
    (return (← isAt "\x7d") || (← isAtKeyword "default") || (← isAtKeyword "case")) listItem
  return (.switchCase test consequent, test.isNone)

/-- A choice between cases, of which one may be the default. -/
def switchStatement : Phrase Ast := do
  expectKeyword "switch"
  let discriminant ← parenthesized
  within (fun c => { c with inSwitch := true })
    (fun before c => { c with inSwitch := before.inSwitch })
    do
      expect "\x7b"
      let cases ← loop ([], false) fun (cases, hasDefault) => do
        if ← isAt "\x7d" then return .inr cases.reverse
        else
          let (clause, isDefault) ← switchCase
          if isDefault && hasDefault then rejectLast .manyDefaults
          return .inl (clause :: cases, hasDefault || isDefault)
      expect "\x7d"
      return .switchStatement discriminant cases

/-- Throwing an exception. -/
def throwStatement : Phrase Ast := do
  expectKeyword "throw"
  if (← get).newLine then rejectLast .newlineAfterThrow
  let argument ← expression
  endStatement
  return .throwStatement argument

/-- The first name that a list holds twice. -/
def firstRepeated (seen : List Text) : List Text → Option Text
  | [] => none
  | name :: names =>
    if seen.contains name then some name else firstRepeated (name :: seen) names

/-- The handler of an exception. -/
def catchClause : Phrase Ast := do
  expectKeyword "catch"
  expect "("
  if ← isAt ")" then unexpectedAhead
  let (parameter, bound) ← collectingBound (pattern .parameter)
  match firstRepeated [] (bound.map (·.text)) with
  | some name => rejectNear (.duplicateBinding name)
  | none => pure ()
  checkChanged parameter .strictCatchVariable
  expect ")"
  return .catchClause parameter (← block)

/-- A block whose exceptions are handled, with what is done in any case. -/
def tryStatement : Phrase Ast := do
  expectKeyword "try"
  let body ← block
  let handler ← if ← isAtKeyword "catch" then some <$> catchClause else pure none
  let finalizer ←
    if ← isAtKeyword "finally" then
      discard next
      some <$> block
    else pure none
  if handler.isNone && finalizer.isNone then rejectLast .missingHandler
  return .tryStatement body handler finalizer

/-- What a label stands before. It is no class, in strict code no function, and never a
generator. -/
def labeledBody : Phrase Ast := do
  let l ← ahead
  if l.isKeyword "class" then unexpected l
  else if l.isKeyword "function" then
    let declaration ← functionDeclaration false
    failIf (← context).strict (reject l .strictFunctionPlace)
    failIf declaration.isGenerator (reject l .generatorAsStatement)
    return declaration
  else statement

/-- A statement that starts with a name: one with a label, or an expression. -/
def nameStatement : Phrase Ast := do
  let e ← expression
  match e.name? with
  | some name =>
    if ← accept ":" then
      failIf ((← context).labels.contains name) (rejectLast (.duplicateLabel name))
      let body ← within (fun c => { c with labels := name :: c.labels })
        (fun before c => { c with labels := before.labels }) labeledBody
      return .labeled e body
    else
      endStatement
      return .expressionStatement e none
  | none =>
    endStatement
    return .expressionStatement e none

/-- A statement that starts with a keyword. -/
def keywordStatement (word : Text) : Phrase Ast :=
  if word = "break" then breakStatement
  else if word = "continue" then continueStatement
  else if word = "debugger" then do
    discard next
    endStatement
    return .debuggerStatement
  else if word = "do" then doStatement
  else if word = "for" then forStatement
  else if word = "function" then functionDeclaration false
  else if word = "if" then ifStatement
  else if word = "return" then returnStatement
  else if word = "switch" then switchStatement
  else if word = "throw" then throwStatement
  else if word = "try" then tryStatement
  else if word = "var" then varStatement
  else if word = "while" then whileStatement
  else if word = "with" then withStatement
  else expressionStatement

def readStatement : Phrase Ast := do
  let l ← ahead
  match l.kind with
  | .punctuator =>
    if l.text = "\x7b" then block
    else if l.text = ";" then
      discard next
      return .emptyStatement
    else expressionStatement
  | .identifier =>
    if ← isAtAsyncFunction then functionDeclaration false else nameStatement
  | .keyword => keywordStatement l.text
  | .endOfInput => unexpected l
  | _ => expressionStatement

/-- An import declaration, or a statement that starts with an `import` call. -/
def importItem : Phrase Ast := do
  let l ← ahead
  if ← isAtImportCall then expressionStatement
  else
    failIf (!(← context).isModule) (reject l .misplacedImport)
    importDeclaration

/-- A statement or a declaration. -/
def readListItem : Phrase Ast := do
  setContext fun c => { c with isTarget := true, isBinding := true }
  let l ← ahead
  if l.isKeyword "export" then
    failIf (!(← context).isModule) (reject l .misplacedExport)
    exportDeclaration
  else if l.isKeyword "import" then importItem
  else if l.isKeyword "const" then lexicalStatement
  else if l.isKeyword "function" then functionDeclaration false
  else if l.isKeyword "class" then classPhrase true false
  else if l.isKeyword "let" then
    if ← isAtLexical then lexicalStatement else readStatement
  else readStatement

end Grammar

end ScriptTree
