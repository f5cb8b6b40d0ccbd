import ScriptTree.Script.Grammar.Formals

namespace ScriptTree

namespace Grammar

/-- A name that is bound or refers to a label. `yield` is one in sloppy code outside generators,
and `let` is one that `var` may declare. -/
def bindingName (declarer : Declarer) : Phrase Ast := do
  let l ← next
  let c ← context
  if l.isKeyword "yield" then
    failIf c.strict (reject l .strictReservedWord)
    failIf (!c.allowYield) (unexpected l)
  else if l.kind ≠ .identifier then
    failIf (c.strict && l.kind = .keyword && Word.isStrictReserved l.text)
      (reject l .strictReservedWord)
    failIf (c.strict || l.text ≠ "let" || declarer ≠ .var) (unexpected l)
  else
    failIf ((c.isModule || c.allowAwait) && l.text = "await") (unexpected l)
  return .identifier l.text

def pattern (declarer : Declarer) : Phrase Ast := rule (.pattern declarer)

/-- A pattern that may have a default value. -/
def patternWithDefault (declarer : Declarer) : Phrase Ast := do
  let target ← pattern declarer
  if ← accept "=" then
    return .assignmentPattern target (← withYield true (isolated assignment))
  else return target

/-- The last parameter of a list that takes all that is left. -/
def restParameter : Phrase Ast := do
  expect "..."
  let argument ← pattern .parameter
  if ← isAt "=" then rejectLast .restInitializer
  if !(← isAt ")") then rejectLast .restNotLast
  return .rest argument

/-- The last parameter of an arrow function. Its names are bound in that function, not by a pattern
that the function stands in. -/
def arrowRestParameter : Phrase Ast := do
  let (a, _) ← collectingBound restParameter
  return a

/-- The rest of the properties in an object pattern. -/
def restProperty : Phrase Ast := do
  expect "..."
  let argument ← pattern .parameter
  if ← isAt "=" then rejectLast .restPropertyInitializer
  if !(← isAt "\x7d") then rejectLast .restPropertyNotLast
  return .rest argument

/-- A list pattern. Nothing follows the element that takes the rest. -/
def arrayPattern (declarer : Declarer) : Phrase Ast := do
  expect "["
  let elements ← loop [] fun elements => do
    if ← isAt "]" then return .inr elements.reverse
    else if ← accept "," then return .inl (none :: elements)
    else if ← accept "..." then
      return .inr (some (.rest (← pattern declarer)) :: elements).reverse
    else
      let element ← patternWithDefault declarer
      if !(← isAt "]") then expect ","
      return .inl (some element :: elements)
  expect "]"
  return .arrayPattern elements

/-- Whether a computed key is ahead. -/
def isAtComputedKey : Phrase Bool := isAt "["

/-- The key of a property: a name, a string, a number or an expression in brackets. -/
def propertyKey : Phrase Ast := do
  let l ← next
  if l.kind = .string || l.isNumber then
    failIf ((← context).strict && l.isOctal) (reject l .strictOctal)
    return literalOf l
  else if l.isName then return .identifier l.text
  else if l.isPunctuator "[" then
    let key ← isolated assignment
    expect "]"
    return key
  else unexpected l

/-- A property of an object pattern. -/
def propertyPattern (declarer : Declarer) : Phrase Ast := do
  let l ← ahead
  if l.kind = .identifier then
    let key ← bindingName .parameter
    if ← isAt "=" then
      bind l
      discard next
      let value ← assignment
      return .property "init" key false (.assignmentPattern (.identifier l.text) value) false true
    else if ← accept ":" then
      return .property "init" key false (← patternWithDefault declarer) false false
    else
      bind l
      return .property "init" key false (.identifier l.text) false true
  else
    let isComputed ← isAtComputedKey
    let key ← propertyKey
    expect ":"
    return .property "init" key isComputed (← patternWithDefault declarer) false false

def objectPattern (declarer : Declarer) : Phrase Ast := do
  expect "\x7b"
  let properties ← commaSeparated "\x7d" do
    if ← isAt "..." then restProperty else propertyPattern declarer
  expect "\x7d"
  return .objectPattern properties

/-- A pattern: a list, an object or a name. -/
def readPattern (declarer : Declarer) : Phrase Ast := do
  if ← isAt "[" then arrayPattern declarer
  else if ← isAt "\x7b" then objectPattern declarer
  else
    let l ← ahead
    match declarer with
    | .lexical _ => failIf (l.isKeyword "let") (reject l .letBinding)
    | _ => pure ()
    bind l
    bindingName declarer

/-- A parameter of a function, with what it adds to what is known of the parameters. -/
def formal (f : Formals) : Phrase Formals := do
  let (a, bound) ← collectingBound do
    if ← isAt "..." then restParameter else patternWithDefault .parameter
  let strict := (← context).strict
  let f := bound.foldl (fun f l => f.note strict ⟨some l⟩ l.text) f
  return { f with isSimple := f.isSimple && isSimpleParameter a, parameters := f.parameters ++ [a] }

/-- The parameters of a function in parentheses, after a name that strict mode may reject. -/
def formals (restricted : Option Culprit) : Phrase Formals := do
  expect "("
  let f ← loop { Formals.empty with restricted } fun f => do
    if (← isAt ")") || (← isAtKind .endOfInput) then return .inr f
    else
      let f ← formal f
      if !(← isAt ")") then expect ","
      return .inl f
  expect ")"
  return f

end Grammar

end ScriptTree
