import ScriptTree.Script.Grammar.Operator

namespace ScriptTree

namespace Grammar

/-- Whether an expression can start here, as far as `yield` looks. -/
def isAtExpression : Phrase Bool := do
  let l ← ahead
  match l.kind with
  | .punctuator =>
    return ["[", "(", "\x7b", "+", "-", "!", "~", "++", "--", "/", "/="].any
      (Text.ofString · = l.text)
  | .keyword =>
    return ["class", "delete", "function", "let", "new", "super", "this", "typeof", "void",
      "yield"].any (Text.ofString · = l.text)
  | _ => return true

/-- A `yield` expression inside a generator. -/
def yieldPhrase : Phrase Ast := do
  expectKeyword "yield"
  if (← get).newLine then return .yieldExpression none false
  else
    withYield false do
      if ← accept "*" then return .yieldExpression (some (← assignment)) true
      else if ← isAtExpression then return .yieldExpression (some (← assignment)) false
      else return .yieldExpression none false

/-- Whether a part is a block. -/
def isBlock : Ast → Bool
  | .block _ => true
  | _ => false

/-- The arrow and the body of a function whose parameters are known. -/
def arrowRest (isAsync : Bool) (f : Formals) : Phrase Ast := do
  failIf (← get).newLine unexpectedAhead
  setContext fun c => { c with patternOnly := none }
  withFormals f do
    inFunctionOf isAsync false do
      expect "=>"
      let body ← if ← isAt "\x7b" then allowingIn functionBody else isolated assignment
      checkFormals f f.problem
      return .arrow isAsync f.parameters body (!isBlock body)

def assignmentOperators : List Text :=
  List.map Text.ofString
    ["=", "*=", "**=", "/=", "%=", "+=", "-=", "<<=", ">>=", ">>>=", "&=", "^=", "|="]

/-- The operator and the right side of an assignment to `e`, which starts with `start`. -/
def assignmentRest (start : Lexeme) (e : Ast) : Phrase Ast := do
  checkTarget .invalidAssignmentTarget
  match e.name? with
  | some name =>
    if (← context).strict then
      failIf (Word.isRestricted name) (reject start .strictAssignmentTarget)
      failIf (Word.isStrictReserved name) (reject start .strictReservedWord)
  | none => pure ()
  let l ← ahead
  let target := if l.text = "=" then e.toPattern else e
  if l.text ≠ "=" then noPattern
  discard next
  let right ← isolated assignment
  setContext fun c => { c with patternOnly := none }
  return .assignment l.text target right

/-- The parameter of an asynchronous arrow function without parentheses, if it follows. -/
def asyncParameter (start : Lexeme) (e : Ast) : Phrase Ast := do
  let l ← ahead
  if start.isWord "async" && start.line = l.line && (l.kind = .identifier || l.isKeyword "yield")
  then return .arrowParameters true [(← primary).toPattern]
  else return e

/-- An assignment, an arrow function or an expression that binds tighter. -/
def readAssignment : Phrase Ast := do
  if !(← context).allowYield && (← isAtKeyword "yield") then yieldPhrase
  else
    let start ← ahead
    let e ← asyncParameter start (← conditional)
    match e with
    | .arrowParameters isAsync parameters =>
      noPattern
      arrowRest isAsync (← arrowFormals isAsync parameters)
    | _ =>
      if ← isAt "=>" then
        noPattern
        if e.name?.isSome then arrowRest false (← arrowFormals false [e]) else return e
      else if ← isAtAny assignmentOperators then assignmentRest start e
      else return e

end Grammar

end ScriptTree
