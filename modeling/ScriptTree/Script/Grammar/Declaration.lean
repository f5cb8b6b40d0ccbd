import ScriptTree.Script.Grammar.Assignment

namespace ScriptTree

namespace Grammar

/-- The target of a declaration. Strict mode restricts the names it may bind. -/
def declared (declarer : Declarer) : Phrase Ast := do
  let (target, _) ← collectingBound (pattern declarer)
  checkChanged target .strictVariableName
  return target

/-- What a declaration that needs a value gives its target. -/
def requiredValue : Phrase Ast := do
  expect "="
  isolated assignment

/-- One variable that `var` declares. A pattern needs a value, unless a loop gives it one. -/
def varDeclarator (inLoop : Bool) : Phrase Ast := do
  let target ← declared .var
  if (← isAt "=") || (target.name?.isNone && !inLoop) then
    return .declarator target (some (← requiredValue))
  else return .declarator target none

/-- One variable that `let` or `const` declares. A constant and a pattern need a value, unless a
loop gives them one. -/
def lexicalDeclarator (word : Text) (inLoop : Bool) : Phrase Ast := do
  let target ← declared (.lexical word)
  if word = "const" then
    if (← isAtKeyword "in") || (← isAtWord "of") then return .declarator target none
    else if ← isAt "=" then return .declarator target (some (← requiredValue))
    else rejectLast .missingInitializer
  else if (← isAt "=") || (target.name?.isNone && !inLoop) then
    return .declarator target (some (← requiredValue))
  else return .declarator target none

/-- The variables of a declaration, with commas between them. -/
def declarators (one : Phrase Ast) : Phrase (List Ast) := do
  let first ← one
  let more ← manyUntil (return !(← isAt ",")) do
    discard next
    one
  return first :: more

/-- A declaration by `var`. -/
def varStatement : Phrase Ast := do
  expectKeyword "var"
  let declared ← declarators (varDeclarator false)
  endStatement
  return .variableList "var" declared

/-- A declaration by `let` or `const`. -/
def lexicalStatement : Phrase Ast := do
  let word := (← next).text
  let declared ← declarators (lexicalDeclarator word false)
  endStatement
  return .variableList word declared

/-- Whether what follows `let` makes it a declaration. -/
def isAtLexical : Phrase Bool := do
  let l ← afterNext
  return l.kind = .identifier || l.isPunctuator "[" || l.isPunctuator "\x7b" ||
    l.isKeyword "let" || l.isKeyword "yield"

/-- The name of a module: a string. -/
def moduleName : Phrase Ast := do
  if !(← isAtKind .string) then rejectLast .invalidModuleName
  return literalOf (← next)

/-- Fails because `from` is not ahead. -/
def missingFrom {α : Type} : Phrase α := do
  let l ← ahead
  rejectLast (if l.hasValue then .unexpectedToken l.text else .missingFrom)

/-- The word `from` and the name of a module. -/
def fromModule : Phrase Ast := do
  if !(← isAtWord "from") then missingFrom
  discard next
  moduleName

/-- One of the names that an import lists, perhaps under a new name. A keyword needs one. -/
def importSpecifier : Phrase Ast := do
  let isPlain ← isAtKind .identifier
  let imported ← if isPlain then bindingName .parameter else identifierName
  if ← isAtWord "as" then
    discard next
    return .importSpecifier (← bindingName .parameter) imported
  else
    if !isPlain then unexpected (← next)
    return .importSpecifier imported imported

/-- The names that an import lists in braces. -/
def namedImports : Phrase (List Ast) := do
  expect "\x7b"
  let names ← commaSeparated "\x7d" importSpecifier
  expect "\x7d"
  return names

/-- The import of a whole module under a name. -/
def namespaceImport : Phrase Ast := do
  expect "*"
  if !(← isAtWord "as") then rejectLast .missingNamespaceName
  discard next
  return .importNamespace (← identifierName)

/-- What an import declaration binds. -/
def importSpecifiers : Phrase (List Ast) := do
  let l ← ahead
  if ← isAt "\x7b" then namedImports
  else if ← isAt "*" then return [← namespaceImport]
  else if l.isName && !l.isKeyword "default" then
    let first := .importDefault (← identifierName)
    if ← accept "," then
      if ← isAt "*" then return [first, ← namespaceImport]
      else if ← isAt "\x7b" then return first :: (← namedImports)
      else unexpectedAhead
    else return [first]
  else unexpected (← next)

def importDeclaration : Phrase Ast := do
  failIf (← context).inFunction (rejectLast .misplacedImport)
  expectKeyword "import"
  let declaration ←
    if ← isAtKind .string then .importDeclaration [] <$> moduleName
    else
      let specifiers ← importSpecifiers
      .importDeclaration specifiers <$> fromModule
  endStatement
  return declaration

/-- One of the names that an export lists, perhaps under a new name. -/
def exportSpecifier : Phrase Ast := do
  let name ← identifierName
  if ← isAtWord "as" then
    discard next
    return .exportSpecifier (← identifierName) name
  else return .exportSpecifier name name

/-- The names that an export lists in braces, and whether the default is among them. -/
def namedExports : Phrase (List Ast × Bool) := do
  expect "\x7b"
  let r ← loop ([], false) fun (names, hasDefault) => do
    if ← isAt "\x7d" then return .inr (names.reverse, hasDefault)
    else
      let hasDefault := hasDefault || (← isAtKeyword "default")
      let name ← exportSpecifier
      if !(← isAt "\x7d") then expect ","
      return .inl (name :: names, hasDefault)
  expect "\x7d"
  return r

/-- The export of names: a default name, names in braces, or both. The default of a module can
only be exported from another one. -/
def exportNames : Phrase Ast := do
  let first ←
    if ← isAtKind .identifier then pure [.exportDefaultSpecifier (← identifierName)] else pure []
  let (more, hasDefault) ←
    if !first.isEmpty && !(← accept ",") then pure ([], false) else namedExports
  if ← isAtWord "from" then
    let source ← fromModule
    endStatement
    return .exportNamed none (first ++ more) (some source)
  else
    if hasDefault then missingFrom
    endStatement
    return .exportNamed none (first ++ more) none

def exportDefault : Phrase Ast := do
  if ← isAtKeyword "function" then return .exportDefault (← functionDeclaration true)
  else if ← isAtKeyword "class" then return .exportDefault (← classPhrase true true)
  else if ← isAtWord "async" then
    if ← isAtAsyncFunction then return .exportDefault (← functionDeclaration true)
    else return .exportDefault (← assignment)
  else
    let l ← ahead
    failIf (l.isWord "from") (rejectLast (.unexpectedToken l.text))
    let declaration ←
      if ← isAt "\x7b" then object
      else if ← isAt "[" then array
      else assignment
    endStatement
    return .exportDefault declaration

def exportDeclaration : Phrase Ast := do
  failIf (← context).inFunction (rejectLast .misplacedExport)
  expectKeyword "export"
  let l ← ahead
  if l.isKeyword "default" then
    discard next
    exportDefault
  else if ← accept "*" then
    let source ← fromModule
    endStatement
    return .exportAll source
  else if l.kind = .keyword then
    if l.text = "let" || l.text = "const" then
      return .exportNamed (some (← lexicalStatement)) [] none
    else if l.text = "var" || l.text = "class" || l.text = "function" then
      return .exportNamed (some (← listItem)) [] none
    else unexpected l
  else if ← isAtAsyncFunction then
    return .exportNamed (some (← functionDeclaration false)) [] none
  else exportNames

end Grammar

end ScriptTree
