import ScriptTree.Script.Grammar.Declaration

namespace ScriptTree

namespace Grammar

def statement : Phrase Ast := rule .statement

/-- A statement that a loop repeats. -/
def loopBody (body : Phrase Ast) : Phrase Ast :=
  within (fun c => { c with inLoop := true }) (fun before c => { c with inLoop := before.inLoop })
    body

/-- An expression in parentheses. -/
def parenthesized : Phrase Ast := do
  expect "("
  let e ← expression
  expect ")"
  return e

/-- A loop with its condition before the body. -/
def whileStatement : Phrase Ast := do
  expectKeyword "while"
  let test ← parenthesized
  return .whileLoop test (← loopBody statement)

/-- A loop with its condition after the body. -/
def doStatement : Phrase Ast := do
  expectKeyword "do"
  let body ← loopBody statement
  expectKeyword "while"
  let test ← parenthesized
  discard (accept ";")
  return .doWhile body test

/-- What stands in the parentheses of a `for` loop. -/
inductive LoopHead where
  | steps (start test step : Option Ast)
  | keys (left right : Ast)
  | elements (left right : Ast)

/-- The condition and the step of a loop. -/
def loopSteps (start : Option Ast) : Phrase LoopHead := do
  let test ← if ← isAt ";" then pure none else some <$> expression
  expect ";"
  let step ← if ← isAt ")" then pure none else some <$> expression
  return .steps start test step

/-- What a loop over keys goes through. -/
def loopKeys (left : Ast) : Phrase LoopHead := do
  discard next
  return .keys left (← expression)

/-- What a loop over elements goes through. -/
def loopElements (left : Ast) : Phrase LoopHead := do
  discard next
  return .elements left (← assignment)

/-- Whether a variable is given a value. -/
def hasValue : Ast → Bool
  | .declarator _ value => value.isSome
  | _ => false

/-- Whether a variable is a pattern. -/
def isPatternDeclarator : Ast → Bool
  | .declarator target _ => target.isPattern
  | _ => false

/-- A loop head that starts with `var`. In sloppy code a loop over keys may give its variable a
value before. -/
def varHead : Phrase LoopHead := do
  discard next
  let declared ← disallowingIn (declarators (varDeclarator true))
  let left := .variableList "var" declared
  let isSingle := declared.length = 1
  if isSingle && (← isAtKeyword "in") then
    let strict := (← context).strict
    failIf (declared.any fun d => hasValue d && (isPatternDeclarator d || strict))
      (rejectNear .forInInitializer)
    loopKeys left
  else if isSingle && !declared.any hasValue && (← isAtWord "of") then loopElements left
  else
    expect ";"
    loopSteps (some left)

/-- A loop head that starts with `let` or `const`. In sloppy code the word may be the variable of
a loop over keys. -/
def lexicalHead : Phrase LoopHead := do
  let word := (← next).text
  if !(← context).strict && (← ahead).text = "in" then loopKeys (.identifier word)
  else
    let declared ← disallowingIn (declarators (lexicalDeclarator word true))
    let left := .variableList word declared
    let isSingle := declared.length = 1 && !declared.any hasValue
    if isSingle && (← isAtKeyword "in") then loopKeys left
    else if isSingle && (← isAtWord "of") then loopElements left
    else
      endStatement
      loopSteps (some left)

/-- Whether a part is an assignment. -/
def isAssignment : Ast → Bool
  | .assignment .. => true
  | _ => false

/-- A loop head that starts with an expression. -/
def expressionHead : Phrase LoopHead := do
  let first ← disallowingIn (inherited assignment)
  if ← isAtKeyword "in" then
    failIf (!(← context).isTarget || isAssignment first) (rejectNear .invalidForInTarget)
    loopKeys first.toPattern
  else if ← isAtWord "of" then
    failIf (!(← context).isTarget || isAssignment first) (rejectNear .invalidForOfTarget)
    loopElements first.toPattern
  else
    let start ←
      if ← isAt "," then
        let more ← manyUntil (return !(← isAt ",")) do
          discard next
          isolated assignment
        pure (.sequence (first :: more))
      else pure first
    expect ";"
    loopSteps (some start)

/-- A `for` loop. -/
def forStatement : Phrase Ast := do
  expectKeyword "for"
  expect "("
  let head ←
    if ← accept ";" then loopSteps none
    else if ← isAtKeyword "var" then varHead
    else if (← isAtKeyword "const") || (← isAtKeyword "let") then lexicalHead
    else expressionHead
  expect ")"
  let body ← loopBody (isolated statement)
  match head with
  | .steps start test step => return .forLoop start test step body
  | .keys left right => return .forIn left right body
  | .elements left right => return .forOf left right body

end Grammar

end ScriptTree
