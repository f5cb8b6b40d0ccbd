import ScriptTree.Script.Grammar.Basic

namespace ScriptTree

namespace Ast

mutual

/-- The pattern that an expression is where a target stands. An expression that is no pattern
stays as it is. -/
def toPattern : Ast → Ast
  | spread argument => rest argument.toPattern
  | array elements => arrayPattern (toPatterns elements)
  | object properties => objectPattern (toPropertyPatterns properties)
  | assignment _ left right => assignmentPattern left.toPattern right
  | e => e

def toPatterns : List (Option Ast) → List (Option Ast)
  | [] => []
  | none :: more => none :: toPatterns more
  | some e :: more => some e.toPattern :: toPatterns more

/-- The patterns of the values of properties. -/
def toPropertyPatterns : List Ast → List Ast
  | [] => []
  | spread argument :: more => rest argument.toPattern :: toPropertyPatterns more
  | property kind key isComputed value isMethod isShorthand :: more =>
    property kind key isComputed value.toPattern isMethod isShorthand :: toPropertyPatterns more
  | e :: more => e :: toPropertyPatterns more

end

mutual

/-- The names that a pattern binds, in their order. -/
def boundNames : Ast → List Text
  | identifier name => [name]
  | rest argument => argument.boundNames
  | assignmentPattern left _ => left.boundNames
  | arrayPattern elements => boundNamesOf elements
  | objectPattern properties => propertyNames properties
  | _ => []

def boundNamesOf : List (Option Ast) → List Text
  | [] => []
  | none :: more => boundNamesOf more
  | some e :: more => e.boundNames ++ boundNamesOf more

/-- The names that the values of properties bind. -/
def propertyNames : List Ast → List Text
  | [] => []
  | rest argument :: more => argument.boundNames ++ propertyNames more
  | property _ _ _ value _ _ :: more => value.boundNames ++ propertyNames more
  | _ :: more => propertyNames more

end

end Ast

namespace Grammar

/-- A name that strict mode rejects, and where it stands if a lexeme tells. -/
structure Culprit where
  lexeme : Option Lexeme

/-- What is known of the parameters of a function. -/
structure Formals where
  parameters : List Ast
  /-- Every parameter is a mere name. -/
  isSimple : Bool
  /-- A name that is wrong if the function is in strict mode. -/
  stricted : Option Culprit
  /-- A name that is wrong if the body turns on strict mode. -/
  restricted : Option Culprit
  problem : Option Problem
  names : List Text

/-- No parameters yet. -/
def Formals.empty : Formals where
  parameters := []
  isSimple := true
  stricted := none
  restricted := none
  problem := none
  names := []

/-- Notes a name that a parameter binds. -/
def Formals.note (strict : Bool) (f : Formals) (culprit : Culprit) (name : Text) : Formals :=
  let isRepeated := f.names.contains name
  let f := { f with names := name :: f.names }
  if strict then
    if isRepeated then
      { f with stricted := some culprit, problem := some .duplicateParameter }
    else if Word.isRestricted name then
      { f with stricted := some culprit, problem := some .strictParameterName }
    else f
  else if f.restricted.isSome then f
  else if Word.isRestricted name then
    { f with restricted := some culprit, problem := some .strictParameterName }
  else if Word.isStrictReserved name then
    { f with restricted := some culprit, problem := some .strictReservedWord }
  else if isRepeated then
    { f with stricted := some culprit, problem := some .duplicateParameter }
  else f

/-- Whether a parameter is a mere name. -/
def isSimpleParameter (a : Ast) : Bool := a.name?.isSome

/-- Fails if strict mode rejects the names of parameters and the context is strict. The name of
the function counts among them. -/
def checkFormals (f : Formals) (problem : Option Problem) : Phrase PUnit := do
  if (← context).strict then
    let problem := problem.getD .illegal
    match f.restricted with
    | some c => rejectAt c.lexeme problem
    | none =>
      match f.stricted with
      | some c => rejectAt c.lexeme problem
      | none => return ()

/-- A parameter whose default value `yield` is a name. -/
def yieldDefault : Ast → Phrase Ast
  | .assignmentPattern left (.yieldExpression argument _) =>
    if argument.isSome then unexpectedAhead
    else return .assignmentPattern left (.identifier "yield")
  | a => return a

/-- Whether a parameter is a `yield` expression. -/
def isYield : Ast → Bool
  | .yieldExpression .. => true
  | _ => false

/-- Notes the names of a parameter of an arrow function. No lexeme tells where they stand. -/
def Formals.add (strict : Bool) (f : Formals) (a : Ast) : Formals :=
  let f := a.boundNames.foldl (fun f name => f.note strict ⟨none⟩ name) f
  { f with isSimple := f.isSimple && isSimpleParameter a, parameters := f.parameters ++ [a] }

/-- What is known of the parameters of an arrow function. -/
def arrowFormals (isAsync : Bool) (parameters : List Ast) : Phrase Formals := do
  let c ← context
  let parameters ← parameters.mapM fun a => do
    failIf (isAsync && a.isNamed "await") unexpectedAhead
    yieldDefault a
  let f := parameters.foldl (Formals.add c.strict) Formals.empty
  failIf ((c.strict || !c.allowYield) && parameters.any isYield) unexpectedAhead
  match f.problem with
  | some .duplicateParameter => rejectLast .duplicateParameter
  | _ => return f

end Grammar

end ScriptTree
