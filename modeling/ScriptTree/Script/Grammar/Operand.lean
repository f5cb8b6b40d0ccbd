import ScriptTree.Script.Grammar.Class
import ScriptTree.Script.Lexer.Regex

namespace ScriptTree

namespace Grammar

def templatePart : Phrase (Ast × Bool) := do
  let l ← ahead
  match l.kind with
  | .template cooked _ isTail =>
    discard next
    return (.templatePart l.text cooked isTail, isTail)
  | _ => rejectLast .illegal

/-- A template: its parts and the expressions between them. -/
def template : Phrase Ast := do
  if !(← ahead).isTemplateHead then throw .headlessTemplate
  let (first, isTail) ← templatePart
  loop ([first], [], isTail) fun (parts, expressions, isTail) => do
    if isTail then return .inr (.template parts.reverse expressions.reverse)
    else
      let e ← expression
      let (part, isTail) ← templatePart
      return .inl (part :: parts, e :: expressions, isTail)

/-- An element that stands for the elements of a list. -/
def spread : Phrase Ast := do
  expect "..."
  return .spread (← inherited assignment)

/-- A list. -/
def array : Phrase Ast := do
  expect "["
  let elements ← loop [] fun elements => do
    if ← isAt "]" then return .inr elements.reverse
    else if ← accept "," then return .inl (none :: elements)
    else if ← isAt "..." then
      let element ← spread
      if !(← isAt "]") then
        noPattern
        expect ","
      return .inl (some element :: elements)
    else
      let element ← inherited assignment
      if !(← isAt "]") then expect ","
      return .inl (some element :: elements)
  expect "]"
  return .array elements

/-- The key of a property that starts with a name, and whether it is computed and asynchronous.
After `async` the key follows, unless what follows shows that it is the key itself. -/
def namedKey (l : Lexeme) : Phrase (Ast × Bool × Bool) := do
  discard next
  let isComputed ← isAtComputedKey
  let isAsync := l.text = "async" && !(← get).newLine &&
    !(← isAtAny [":", "(", "*", ","])
  return (← if isAsync then propertyKey else pure (.identifier l.text), isComputed, isAsync)

/-- A property whose key is not that of an accessor, and whether the object has a prototype
property now. -/
def plainProperty (hasProto : Bool) (first : Lexeme) (key : Ast) (isComputed isAsync : Bool) :
    Phrase (Ast × Bool) := do
  if !isAsync && (← isAt ":") then
    let isProto := !isComputed && key.isKey "__proto__"
    failIf (isProto && hasProto) (rejectNear .duplicateProto)
    discard next
    let value ← inherited assignment
    return (.property "init" key isComputed value false false, hasProto || isProto)
  else if ← isAt "(" then
    let value ← if isAsync then asyncMethodFunction else methodFunction
    return (.property "init" key isComputed value true false, hasProto)
  else if first.kind = .identifier then
    let name := .identifier first.text
    let l ← ahead
    if l.isPunctuator "=" then
      setContext fun c => { c with patternOnly := some l }
      discard next
      let value := .assignmentPattern name (← isolated assignment)
      return (.property "init" key isComputed value false true, hasProto)
    else return (.property "init" key isComputed name false true, hasProto)
  else unexpected (← next)

/-- A property of an object, and whether the object has a prototype property now. -/
def objectProperty (hasProto : Bool) : Phrase (Ast × Bool) := do
  let first ← ahead
  let (key, isComputed, isAsync) ←
    if first.kind = .identifier then
      let (key, isComputed, isAsync) ← namedKey first
      pure (some key, isComputed, isAsync)
    else if ← accept "*" then pure (none, false, false)
    else
      let isComputed ← isAtComputedKey
      pure (some (← propertyKey), isComputed, false)
  let l ← ahead
  match (if !isAsync && l.startsKey then accessorOf? first else none) with
  | some a =>
    let (key, isComputed, value) ← accessorRest a
    match a with
    | .getter => return (.property "get" key isComputed value false false, hasProto)
    | .setter => return (.property "set" key isComputed value false false, hasProto)
    | .generator => return (.property "init" key isComputed value true false, hasProto)
  | none =>
    match key with
    | none => unexpected l
    | some key => plainProperty hasProto first key isComputed isAsync

def object : Phrase Ast := do
  expect "\x7b"
  let properties ← loop ([], false) fun (properties, hasProto) => do
    if ← isAt "\x7d" then return .inr properties.reverse
    else
      let (p, hasProto) ←
        if ← isAt "..." then pure (← spread, hasProto) else objectProperty hasProto
      if !(← isAt "\x7d") then expect ","
      return .inl (p :: properties, hasProto)
  expect "\x7d"
  return .object properties

/-- An arrow must be ahead. -/
def expectArrowAhead : Phrase PUnit := do
  if !(← isAt "=>") then expect "=>"

/-- The rest of a group after its first expression: more expressions, or parameters of an arrow
function if a comma ends it or its last element takes the rest. -/
def groupRest (first : Ast) : Phrase (Ast ⊕ List Ast) :=
  loop [first] fun read => do
    if !(← accept ",") then return .inr (.inl (.sequence read.reverse))
    else if ← accept ")" then return .inr (.inr (read.reverse.map Ast.toPattern))
    else if ← isAt "..." then
      failIf (!(← context).isBinding) unexpectedAhead
      let last ← arrowRestParameter
      expect ")"
      expectArrowAhead
      setContext fun c => { c with isBinding := false }
      return .inr (.inr ((last :: read).reverse.map Ast.toPattern))
    else return .inl ((← inherited assignment) :: read)

/-- The end of a group. If an arrow follows, the group holds the parameters of a function. -/
def groupEnd (e : Ast) : Phrase Ast := do
  expect ")"
  let result ←
    if ← isAt "=>" then
      if e.isNamed "yield" then pure (.arrowParameters false [e])
      else
        failIf (!(← context).isBinding) unexpectedAhead
        match e with
        | .sequence expressions => pure (.arrowParameters false (expressions.map Ast.toPattern))
        | e => pure (.arrowParameters false [e.toPattern])
    else pure e
  setContext fun c => { c with isBinding := false }
  return result

/-- What stands in parentheses: an expression, or the parameters of an arrow function. -/
def group : Phrase Ast := do
  expect "("
  if ← accept ")" then
    expectArrowAhead
    return .arrowParameters false []
  else if ← isAt "..." then
    let last ← arrowRestParameter
    expect ")"
    expectArrowAhead
    return .arrowParameters false [last]
  else
    setContext fun c => { c with isBinding := true }
    let first ← inherited assignment
    if ← isAt "," then
      setContext fun c => { c with isTarget := false }
      match ← groupRest first with
      | .inl e => groupEnd e
      | .inr parameters => return .arrowParameters false parameters
    else groupEnd first

/-- A regular expression. The slash ahead was read as an operator. -/
def regex : Phrase Ast := do
  noPattern
  let s ← get
  match RegexLiteral.read s.ahead.start with
  | .error e => fail e
  | .ok (l, cursor) =>
    set { s with lexer := { s.lexer with cursor }, ahead := l }
    discard next
    match l.kind with
    | .regex p flags => return .regex p flags l.raw
    | _ => unexpected l

/-- A literal. It is no pattern, and strict mode forbids octal ones. -/
def literal : Phrase Ast := do
  let l ← ahead
  failIf ((← context).strict && l.isOctal) (reject l .strictOctal)
  noPattern
  discard next
  return literalOf l

/-- A primary expression that starts with a keyword. In sloppy code `let`, and outside generators
`yield`, are names. -/
def keywordExpression : Phrase Ast := do
  let c ← context
  if !c.strict && c.allowYield && (← isAtKeyword "yield") then identifierName
  else if !c.strict && (← isAtKeyword "let") then identifierName
  else
    noPattern
    if ← isAtKeyword "function" then functionExpression
    else if ← isAtKeyword "this" then
      discard next
      return .thisWord
    else if ← isAtKeyword "class" then classPhrase false true
    else if ← isAtImportCall then
      discard next
      return .importWord
    else unexpected (← next)

/-- A primary expression. -/
def primary : Phrase Ast := do
  let l ← ahead
  match l.kind with
  | .identifier =>
    let c ← context
    failIf ((c.isModule || c.allowAwait) && l.text = "await") (unexpected l)
    if ← isAtAsyncFunction then functionExpression
    else
      discard next
      return .identifier l.text
  | .number _ | .string | .boolean | .nullWord => literal
  | .template .. => template
  | .keyword => keywordExpression
  | .punctuator =>
    if l.text = "(" then
      setContext fun c => { c with isBinding := false }
      inherited group
    else if l.text = "[" then inherited array
    else if l.text = "\x7b" then inherited object
    else if l.text = "/" || l.text = "/=" then regex
    else unexpected (← next)
  | _ => unexpected (← next)

/-- The arguments of a call. Those of what may be an asynchronous arrow function may have defaults
that only patterns have. -/
def arguments (mayBePatterns : Bool) : Phrase (List Ast) := do
  expect "("
  let items ← commaSeparated ")" do
    if ← isAt "..." then spread
    else
      isolated do
        let a ← assignment
        if mayBePatterns then setContext fun c => { c with patternOnly := none }
        return a
  expect ")"
  return items

/-- A member after a point. -/
def namedMember (e : Ast) : Phrase Ast := do
  onlyTarget
  expect "."
  return .member false e (← identifierName)

/-- A member in brackets. -/
def computedMember (e : Ast) : Phrase Ast := do
  onlyTarget
  expect "["
  let key ← isolated expression
  expect "]"
  return .member true e key

/-- Goes on with a member or a tagged template if one is ahead. -/
def memberOf (e : Ast) : Phrase (Ast ⊕ Ast) := do
  if ← isAt "." then return .inl (← namedMember e)
  else if ← isAt "[" then return .inl (← computedMember e)
  else if (← ahead).isTemplateHead then return .inl (.taggedTemplate e (← template))
  else return .inr e

/-- A `new` expression, or `new.target` inside a function. -/
def construct : Phrase Ast := do
  let word ← identifierName
  if ← accept "." then
    let l ← ahead
    failIf (!(l.isWord "target" && (← context).inFunction)) (unexpected l)
    return .metaProperty word (← identifierName)
  else
    let l ← ahead
    failIf (l.isKeyword "import") (unexpected l)
    let callee ← isolated (rule .callee)
    let items ← if ← isAt "(" then arguments false else pure []
    noPattern
    return .construct callee items

/-- Whether a part is the word of an `import` call. -/
def isImportWord : Ast → Bool
  | .importWord => true
  | _ => false

/-- A call. After `async` on the same line it may turn out to be the parameters of an arrow
function. -/
def callOf (start : Lexeme) (e : Ast) : Phrase Ast := do
  let l ← ahead
  let isAsync := start.isWord "async" && start.line = l.line
  noPattern
  let items ← arguments isAsync
  failIf (isImportWord e && items.length ≠ 1) (rejectNear .importArity)
  if isAsync && (← isAt "=>") then
    return .arrowParameters true (items.map Ast.toPattern)
  else return .call e items

/-- A primary expression or a `new` expression. -/
def primaryOrConstruct : Phrase Ast := do
  if ← isAtKeyword "new" then inherited construct else inherited primary

/-- Whether `super` is ahead inside a function. -/
def isAtSuper : Phrase Bool := do
  if (← context).inFunction then isAtKeyword "super" else return false

/-- A primary expression with members and calls. -/
def operand : Phrase Ast :=
  allowingIn do
    let start ← ahead
    let first ←
      if ← isAtSuper then
        discard next
        failIf (!(← isAtAny ["(", ".", "["])) unexpectedAhead
        pure .superWord
      else primaryOrConstruct
    loop first fun e => do
      if ← isAt "(" then return .inl (← callOf start e) else memberOf e

/-- A primary expression with members, which `new` calls. -/
def callee : Phrase Ast := do
  let first ←
    if ← isAtSuper then
      discard next
      failIf (!(← isAtAny [".", "["])) unexpectedAhead
      pure .superWord
    else primaryOrConstruct
  loop first memberOf

end Grammar

end ScriptTree
