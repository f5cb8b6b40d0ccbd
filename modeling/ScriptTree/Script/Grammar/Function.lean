import ScriptTree.Script.Grammar.Binding

namespace ScriptTree

namespace Grammar

/-- A statement that starts with a string. If it is nothing but a string that is not empty, its
source without the quotes is a directive. -/
def directive : Phrase (Ast × Option Text) := do
  let l ← ahead
  let e ← expression
  endStatement
  match e with
  | .literal .. =>
    let text := (l.raw.drop 1).dropLast
    let text := if text.isEmpty then none else some text
    return (.expressionStatement e text, text)
  | _ => return (.expressionStatement e none, none)

/-- The directives at the start of a script or function. One of them turns on strict mode, which
then forbids octal escapes in those before it. -/
def directives : Phrase (List Ast) :=
  loop ([], none) fun (read, octal) => do
    let l ← ahead
    if l.kind ≠ .string then return .inr read.reverse
    else
      let (statement, text) ← directive
      let read := statement :: read
      match text with
      | none => return .inr read.reverse
      | some t =>
        if t = "use strict" then
          setContext fun c => { c with strict := true }
          match octal with
          | some l => reject l .strictOctal
          | none => pure ()
          failIf (!(← context).allowStrictDirective) (reject l .directiveWithComplexParameters)
          return .inl (read, octal)
        else return .inl (read, octal <|> (if l.isOctal then some l else none))

/-- A statement or declaration. -/
def listItem : Phrase Ast := rule .listItem

/-- The body of a function in braces. -/
def functionBody : Phrase Ast := do
  expect "\x7b"
  let first ← directives
  within
    (fun c => { c with labels := [], inLoop := false, inSwitch := false, inFunction := true })
    (fun before c => { c with
      labels := before.labels, inLoop := before.inLoop, inSwitch := before.inSwitch
      inFunction := before.inFunction })
    do
      let more ← manyUntil (return (← isAt "\x7d") || (← isAtKind .endOfInput)) listItem
      expect "\x7d"
      return .block (first ++ more)

/-- Reads the rest of a function whose parameters are known. Strict mode that it turns on ends
with it. -/
def withFormals {α : Type} (f : Formals) (phrase : Phrase α) : Phrase α :=
  within (fun c => { c with allowStrictDirective := f.isSimple })
    (fun before c => { c with
      strict := before.strict, allowStrictDirective := before.allowStrictDirective })
    phrase

/-- The name of a function and what strict mode has against it. -/
def functionName (name : Phrase Ast) : Phrase (Ast × Option (Culprit × Problem)) := do
  let l ← ahead
  let a ← name
  let isRestricted := Word.isRestricted l.text
  if (← context).strict then
    failIf isRestricted (reject l .strictFunctionName)
    return (a, none)
  else if isRestricted then return (a, some (⟨some l⟩, .strictFunctionName))
  else if Word.isStrictReserved l.text then return (a, some (⟨some l⟩, .strictReservedWord))
  else return (a, none)

/-- The words that start a function: whether it is asynchronous and whether it is a generator. -/
def functionStart : Phrase (Bool × Bool) := do
  let isAsync ← isAtWord "async"
  if isAsync then discard next
  expectKeyword "function"
  let isGenerator ← if isAsync then pure false else isAt "*"
  if isGenerator then discard next
  return (isAsync, isGenerator)

/-- Reads a part of a function where `await` and `yield` mean what the kind of function says. -/
def inFunctionOf {α : Type} (isAsync isGenerator : Bool) : Phrase α → Phrase α :=
  within (fun c => { c with allowAwait := isAsync, allowYield := !isGenerator })
    fun before c => { c with allowAwait := before.allowAwait, allowYield := before.allowYield }

/-- The parameters and the body of a function. -/
def functionRest (wrongName : Option (Culprit × Problem)) : Phrase (List Ast × Ast) := do
  let f ← formals (wrongName.map (·.1))
  withFormals f do
    let body ← functionBody
    checkFormals f (f.problem <|> wrongName.map (·.2))
    return (f.parameters, body)

/-- A function declaration. Where it is exported as the default, it may lack a name. -/
def functionDeclaration (isNameOptional : Bool) : Phrase Ast := do
  let (isAsync, isGenerator) ← functionStart
  let isNameless ← if isNameOptional then isAt "(" else pure false
  let (name, wrong) ←
    if isNameless then pure (none, none)
    else
      let (name, wrong) ← functionName (bindingName .parameter)
      pure (some name, wrong)
  let (parameters, body) ← inFunctionOf isAsync isGenerator (functionRest wrong)
  return .function true isAsync isGenerator name parameters body

def functionExpression : Phrase Ast := do
  let (isAsync, isGenerator) ← functionStart
  inFunctionOf isAsync isGenerator do
    let (name, wrong) ←
      if ← isAt "(" then pure (none, none)
      else
        let isYieldName := !(← context).strict && !isGenerator && (← isAtKeyword "yield")
        let (name, wrong) ←
          functionName (if isYieldName then identifierName else bindingName .parameter)
        pure (some name, wrong)
    let (parameters, body) ← functionRest wrong
    return .function false isAsync isGenerator name parameters body

def methodBody (f : Formals) : Phrase Ast := do
  noPattern
  withFormals f do
    let body ← isolated functionBody
    checkFormals f f.problem
    return body

def methodFunction : Phrase Ast :=
  withYield true do
    let f ← formals none
    return .function false false false none f.parameters (← methodBody f)

def asyncMethodFunction : Phrase Ast :=
  inFunctionOf true true do
    let f ← formals none
    return .function false true false none f.parameters (← methodBody f)

/-- The function of a method that is a generator. -/
def generatorFunction : Phrase Ast :=
  withYield true do
    let f ← formals none
    setContext fun c => { c with allowYield := false }
    return .function false false true none f.parameters (← methodBody f)

def getterFunction : Phrase Ast :=
  withYield true do
    let f ← formals none
    if !f.parameters.isEmpty then rejectNear .getterArity
    return .function false false false none f.parameters (← methodBody f)

/-- Whether a parameter takes the rest of the arguments. -/
def isRest : Ast → Bool
  | .rest _ => true
  | _ => false

def setterFunction : Phrase Ast :=
  withYield true do
    let f ← formals none
    if f.parameters.length ≠ 1 then rejectNear .setterArity
    if f.parameters.any isRest then rejectNear .setterRest
    return .function false false false none f.parameters (← methodBody f)

/-- What may stand before a key to say what kind of property it is of. -/
inductive Accessor where
  | getter
  | setter
  | generator

/-- The accessor or generator that a lexeme starts if a key follows it. -/
def accessorOf? (l : Lexeme) : Option Accessor :=
  if l.isWord "get" then some .getter
  else if l.isWord "set" then some .setter
  else if l.isPunctuator "*" then some .generator
  else none

/-- A key and the function of an accessor or generator, and whether the key is computed. After a
getter `yield` is no name any more. -/
def accessorRest : Accessor → Phrase (Ast × Bool × Ast)
  | .getter => do
    let isComputed ← isAtComputedKey
    let key ← propertyKey
    setContext fun c => { c with allowYield := false }
    return (key, isComputed, ← getterFunction)
  | .setter => do
    let isComputed ← isAtComputedKey
    let key ← propertyKey
    return (key, isComputed, ← setterFunction)
  | .generator => do
    let isComputed ← isAtComputedKey
    let key ← propertyKey
    return (key, isComputed, ← generatorFunction)

end Grammar

end ScriptTree
