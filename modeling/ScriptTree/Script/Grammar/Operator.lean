import ScriptTree.Script.Grammar.Operand

namespace ScriptTree

namespace Grammar

/-- Fails if strict mode forbids to change a variable. -/
def checkChanged (e : Ast) (problem : Problem) : Phrase PUnit := do
  if (← context).strict && e.name?.any Word.isRestricted then rejectNear problem

/-- Fails if what has been read cannot be assigned to. -/
def checkTarget (problem : Problem) : Phrase PUnit := do
  if !(← context).isTarget then rejectNear problem

/-- An operand that may be incremented or decremented. -/
def update : Phrase Ast := do
  if ← isAtAny ["++", "--"] then
    let l ← next
    let e ← inherited (rule .unary)
    checkChanged e .strictPrefixTarget
    checkTarget .invalidAssignmentTarget
    noPattern
    return .update l.text e true
  else
    let e ← inherited operand
    if !(← get).newLine && (← isAtAny ["++", "--"]) then
      checkChanged e .strictPostfixTarget
      checkTarget .invalidAssignmentTarget
      noPattern
      return .update (← next).text e false
    else return e

/-- Whether an operator that stands before its operand is ahead. -/
def isAtUnary : Phrase Bool := do
  let l ← ahead
  match l.kind with
  | .punctuator => return ["+", "-", "~", "!"].any (Text.ofString · = l.text)
  | .keyword => return ["delete", "void", "typeof"].any (Text.ofString · = l.text)
  | _ => return false

/-- An operand with the operators before it. -/
def unary : Phrase Ast := do
  if ← isAtUnary then
    let l ← next
    let e ← inherited (rule .unary)
    failIf ((← context).strict && l.text = "delete" && e.name?.isSome) (rejectNear .strictDelete)
    noPattern
    return .unary l.text e
  else if (← context).allowAwait && (← isAtWord "await") then
    discard next
    return .awaitExpression (← rule .unary)
  else update

/-- Whether an expression is an operator before its operand. -/
def isUnary : Ast → Bool
  | .unary .. => true
  | _ => false

/-- A power, whose base has no operator before it. -/
def exponentiation : Phrase Ast := do
  let e ← inherited (rule .unary)
  if !isUnary e && (← isAt "**") then
    discard next
    noPattern
    return .binary "**" e (← isolated (rule .exponentiation))
  else return e

/-- How tight punctuators that stand between operands bind. -/
def bindings : List (Text × Nat) :=
  List.map (fun (b : String × Nat) => (Text.ofString b.1, b.2))
    [("||", 1), ("&&", 2), ("|", 3), ("^", 4), ("&", 5), ("==", 6), ("!=", 6), ("===", 6),
     ("!==", 6), ("<", 7), (">", 7), ("<=", 7), (">=", 7), ("<<", 8), (">>", 8), (">>>", 8),
     ("+", 9), ("-", 9), ("*", 11), ("/", 11), ("%", 11)]

/-- How tight a lexeme between operands binds; zero if it is no operator. -/
def precedence (allowIn : Bool) (l : Lexeme) : Nat :=
  match l.kind with
  | .punctuator => (bindings.lookup l.text).getD 0
  | .keyword => if l.text = "instanceof" ∨ (allowIn ∧ l.text = "in") then 7 else 0
  | _ => 0

/-- An operator that waits for its second operand. -/
structure Pending where
  left : Ast
  operator : Text
  precedence : Nat

/-- Completes the pending operators that bind at least as tight as a given precedence. -/
def reduce (level : Nat) : List Pending → Ast → List Pending × Ast
  | [], e => ([], e)
  | p :: pending, e =>
    if level ≤ p.precedence then reduce level pending (.binary p.operator p.left e)
    else (p :: pending, e)

/-- Operands with operators between them. -/
def binary : Phrase Ast := do
  let first ← inherited exponentiation
  loop ([], first) fun (pending, e) => do
    let l ← ahead
    let level := precedence (← context).allowIn l
    if level = 0 then return .inr (reduce 0 pending e).2
    else
      discard next
      noPattern
      let (pending, left) := reduce level pending e
      let right ← isolated (rule .exponentiation)
      return .inl ({ left, operator := l.text, precedence := level } :: pending, right)

/-- An expression with a condition before a question mark. -/
def conditional : Phrase Ast := do
  let test ← inherited binary
  if ← accept "?" then
    let consequent ← allowingIn (isolated assignment)
    expect ":"
    let alternate ← isolated assignment
    noPattern
    return .conditional test consequent alternate
  else return test

end Grammar

end ScriptTree
