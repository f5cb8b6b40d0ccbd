import ScriptTree.Script.Grammar.Statement

namespace ScriptTree

namespace Grammar

/-- What a rule reads. -/
def read : Rule → Phrase Ast
  | .assignment => readAssignment
  | .unary => unary
  | .exponentiation => exponentiation
  | .operand => operand
  | .callee => callee
  | .statement => readStatement
  | .listItem => readListItem
  | .pattern declarer => readPattern declarer

/-- Reads by a rule, where rules may refer to each other to a given depth. -/
def run : Nat → Rule → Action Ast
  | 0, _ => throw .tooDeep
  | n + 1, r => (read r).run (run n)

/-- The state before the first lexeme. -/
def State.start (source : Text) : State :=
  let place : Place := { index := 0, line := if source.isEmpty then 0 else 1, lineStart := 0 }
  { lexer := ⟨⟨place, source⟩, []⟩, ahead := Lexer.endOfInput ⟨place, source⟩, newLine := false
    last := place, bound := [], context := Context.initial, size := source.length }

/-- A script or a module: directives and then statements and declarations. The first lexeme is
read as that of a script in sloppy mode. -/
def program (isModule : Bool) : Phrase Ast := do
  discard next
  modify fun s => { s with
    last := s.lexer.cursor.place
    context := { s.context with isModule, strict := isModule } }
  let first ← directives
  let more ← manyUntil (isAtKind .endOfInput) listItem
  return .program isModule (first ++ more)

/-- How deep the rules may refer to each other in a script of a given length. Between two lexemes
they do so at most four times. -/
def depth (length : Nat) : Nat := 4 * length + 64

end Grammar

/-- The tree of a script or a module. -/
def parse (isModule : Bool) (source : Text) : Except ParseFailure Ast :=
  ((Grammar.program isModule).run (Grammar.run (Grammar.depth source.length))).run'
    (Grammar.State.start source)

end ScriptTree
