import ScriptTree.Script.Grammar.Function

namespace ScriptTree

namespace Grammar

/-- The start of a class element, up to what its kind and value follow from. -/
structure ElementStart where
  /-- The lexeme that says what kind of element it is. -/
  lexeme : Lexeme
  key : Option Ast
  isComputed : Bool
  isStatic : Bool
  isAsync : Bool

/-- The start of a class element: a star, or a key that may be preceded by `static` and `async`. -/
def elementStart : Phrase ElementStart := do
  let first ← ahead
  if ← accept "*" then
    return { lexeme := first, key := none, isComputed := false, isStatic := false,
             isAsync := false }
  let isComputed ← isAtComputedKey
  let key ← propertyKey
  let l ← ahead
  let s ←
    if key.isNamed "static" && (l.startsKey || l.isPunctuator "*") then
      let isComputed ← isAtComputedKey
      let key ← if ← accept "*" then pure key else propertyKey
      pure { lexeme := l, key := some key, isComputed, isStatic := true, isAsync := false }
    else
      pure { lexeme := first, key := some key, isComputed, isStatic := false, isAsync := false }
  let l ← ahead
  let isNameItself := l.text = "(" || l.text = ":" || l.text = "*"
  if s.lexeme.isWord "async" && !(← get).newLine && !isNameItself then
    let key ← propertyKey
    failIf (l.isWord "constructor") (reject l .constructorIsAsync)
    return { s with lexeme := l, key := some key, isAsync := true }
  else return s

/-- Checks the name of an element and tells its kind; `special` for anything but a plain method,
whose kind is `kind` and which starts with `l`. Only one element of a class is its constructor. -/
def elementKind (hasConstructor isStatic isSpecial : Bool) (l : Lexeme) (key : Ast) (kind : Text) :
    Phrase Text := do
  failIf (isStatic && key.isKey "prototype") (reject l .staticPrototype)
  if !isStatic && key.isKey "constructor" then
    failIf isSpecial (reject l .constructorIsAccessor)
    failIf hasConstructor (reject l .duplicateConstructor)
    return "constructor"
  else return kind

/-- An element of a class, and whether the class has a constructor now. -/
def classElement (hasConstructor : Bool) : Phrase (Ast × Bool) := do
  let s ← elementStart
  let l ← ahead
  let accessor := if l.startsKey then accessorOf? s.lexeme else none
  let (key, isComputed, value, kind) ←
    match accessor with
    | some a =>
      let (key, isComputed, value) ← accessorRest a
      let kind : Text := match a with
        | .getter => "get"
        | .setter => "set"
        | .generator => "method"
      pure (key, isComputed, value, kind)
    | none =>
      match s.key with
      | some key =>
        failIf (!l.isPunctuator "(") (unexpected l)
        let value ← if s.isAsync then asyncMethodFunction else methodFunction
        pure (key, s.isComputed, value, Text.ofString "method")
      | none => unexpected l
  let isSpecial := kind ≠ "method" || value.isGenerator
  let kind ←
    if isComputed then pure kind
    else elementKind hasConstructor s.isStatic isSpecial s.lexeme key kind
  return (.method key isComputed value kind s.isStatic, hasConstructor || kind = "constructor")

/-- The elements of a class in braces. -/
def classBody : Phrase Ast := do
  expect "\x7b"
  let elements ← loop ([], false) fun (elements, hasConstructor) => do
    if ← isAt "\x7d" then return .inr elements.reverse
    else if ← accept ";" then return .inl (elements, hasConstructor)
    else
      let (element, hasConstructor) ← classElement hasConstructor
      return .inl (element :: elements, hasConstructor)
  expect "\x7d"
  return .classBody elements

/-- A class. Its name, if it has one, is read once it is known to be there. -/
def classPhrase (isDeclaration isNameOptional : Bool) : Phrase Ast :=
  inStrictMode do
    expectKeyword "class"
    let isNameless : Bool ←
      if isNameOptional then pure ((← ahead).kind ≠ .identifier) else pure false
    let name ← if isNameless then pure none else some <$> bindingName .parameter
    let superclass ←
      if ← isAtKeyword "extends" then
        discard next
        some <$> isolated (rule .operand)
      else pure none
    return .classNode isDeclaration name superclass (← classBody)

end Grammar

end ScriptTree
