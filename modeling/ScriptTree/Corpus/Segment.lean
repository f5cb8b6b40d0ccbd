import ScriptTree.Basic

namespace ScriptTree

/-- A statement of the corpus and its number. -/
structure Fixture where
  ordinal : Int
  snippet : Text
deriving DecidableEq

/-- The name of a fixture's test. -/
def Fixture.name (f : Fixture) : Text := "test" ++ Text.ofInt f.ordinal

namespace Corpus

/-- A line that starts with a comment. -/
def isComment (line : Text) : Bool :=
  List.isPrefixOf (Text.ofString "//") line || List.isPrefixOf (Text.ofString "/*") line

theorem isComment_iff {line : Text} :
    isComment line = true ↔ Text.ofString "//" <+: line ∨ Text.ofString "/*" <+: line := by
  rw [isComment, Bool.or_eq_true, List.isPrefixOf_iff_prefix, List.isPrefixOf_iff_prefix]

/-- A line that belongs to a statement. -/
def isKept (line : Text) : Bool := !isComment line && !line.isBlank

/-- A line is kept if it holds more than blanks and starts with neither mark of a comment. -/
theorem isKept_iff {line : Text} :
    isKept line = true ↔
      (∃ c ∈ line, c.isBlank = false) ∧ ¬ Text.ofString "//" <+: line ∧
        ¬ Text.ofString "/*" <+: line := by
  have hblank : line.isBlank = false ↔ ∃ c ∈ line, c.isBlank = false := by
    simp only [Text.isBlank, List.all_eq_false, Bool.not_eq_true]
  rw [isKept, Bool.and_eq_true, Bool.not_eq_true', Bool.not_eq_true', ← Bool.not_eq_true,
    isComment_iff, not_or, hblank, and_comm]

/-- A line that ends a statement. -/
def isTerminated (line : Text) : Bool :=
  line.getLast? = some (CodePoint.ofChar ';') || line.getLast? = some (CodePoint.ofChar '\x7d')

theorem isTerminated_iff {line : Text} :
    isTerminated line = true ↔
      ∃ before, line = before ++ [CodePoint.ofChar ';'] ∨
        line = before ++ [CodePoint.ofChar '\x7d'] := by
  rw [isTerminated, Bool.or_eq_true, decide_eq_true_eq, decide_eq_true_eq, List.getLast?_eq_some_iff,
    List.getLast?_eq_some_iff, exists_or]

/-- The lines in groups that each end with a terminated line; `pending` lines come before. -/
def groups (pending : List Text) : List Text → List (List Text)
  | [] => []
  | line :: lines =>
    if isTerminated line then (pending ++ [line]) :: groups [] lines
    else groups (pending ++ [line]) lines

/-- Snippets numbered in order from a number on. -/
def number (first : Int) : List Text → List Fixture
  | [] => []
  | snippet :: snippets => ⟨first, snippet⟩ :: number (first + 1) snippets

/-- The fixtures of a corpus. -/
def segment (corpus : Text) : List Fixture :=
  number 1 ((groups [] (corpus.lines.filter isKept)).map Text.unlines)

end Corpus

end ScriptTree
