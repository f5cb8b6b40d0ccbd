import ScriptTree.Proofs.Json.LineBreaks
import ScriptTree.Proofs.Tree.Location

namespace ScriptTree

namespace Json

def Indent.IsBlank : Indent → Prop
  | absent | count _ => True
  | step text => ∀ c ∈ text, Token.isBlank c = true

theorem Indent.isBlank_layout {indent : Indent} (h : indent.IsBlank) : indent.layout.IsBlank := by
  cases indent with
  | absent => trivial
  | count n => exact isBlank_spaces n.toNat
  | step text => exact h

end Json

namespace Value

theorem isTree_of_serialize {v : Value} {layout : Json.Layout}
    {t : Text} (htexts : v.Everywhere HasTexts) (h : v.serialize layout = .ok t) : v.IsTree [] := by
  refine isTree_iff_encode.mpr ⟨htexts, ?_⟩
  cases hencode : v.encode with
  | ok d => exact ⟨d, rfl⟩
  | error e =>
    rw [serialize, hencode] at h
    cases h

/-- A value that has a text has one for every indentation by blanks. These texts have the same
tokens and are the same without their blanks, and with an indentation by spaces the line breaks
stand between tokens and show the depth. -/
theorem serialize_indent {v : Value} {text : Text} (htexts : v.Everywhere HasTexts)
    (h : v.serialize standardLayout = .ok text) :
    ∃ (tokens : List Token) (bare : Text), ∀ indent : Json.Indent, indent.IsBlank →
      ∃ t, v.serialize indent.layout = .ok t ∧ t.tokens? = some tokens ∧
        Token.bareText .between t = bare ∧
        ∀ n, indent = .count n → t.IsIndented n.toNat := by
  have htree := isTree_of_serialize htexts h
  have hfinite := isFinite_normal htree
  have htokens := Json.isFinite_of_mem_tokens hfinite
  refine ⟨v.normal.joined.tokens, v.normal.tokens.flatMap Token.finalText, fun indent hindent => ?_⟩
  have hblank := Json.Indent.isBlank_layout hindent
  refine ⟨_, serialize_of_isTree htree indent.layout, Json.tokens?_write hblank hfinite, ?_, ?_⟩
  · rw [Json.escapeSurrogates_write hblank hfinite, Json.bareText_spread hblank htokens]
  · rintro n rfl
    rw [Json.escapeSurrogates_write hblank hfinite]
    exact Json.isIndented_spread n.toNat (Json.writes_tokens .tight v.normal).touch htokens

theorem serialize_indent_nested :
    let v := node (.str "Literal")
        [("value", regex (str "a b") (str "g")), ("raw", str ("\"\n " ++ [CodePoint.ofNat 0xD83D])),
      ("range", tuple [scalar (.int 0), tuple [], record []])]
    ∃ (tokens : List Token) (bare : Text), ∀ indent : Json.Indent, indent.IsBlank →
      ∃ t, v.serialize indent.layout = .ok t ∧ t.tokens? = some tokens ∧
        Token.bareText .between t = bare ∧
        ∀ n, indent = .count n → t.IsIndented n.toNat := by
  intro v
  have hrange : IsTree "range" (tuple [scalar (.int 0), tuple [], record []]) := by
    refine .tuple fun item hmem => ?_
    simp only [List.mem_cons, List.not_mem_nil, or_false] at hmem
    rcases hmem with rfl | rfl | rfl
    · exact .scalar _
    · exact .tuple (List.forall_mem_nil _)
    · exact .record (List.forall_mem_nil _)
  have htree : v.IsTree [] := by
    refine .node "Literal" fun field hmem => ?_
    simp only [List.mem_cons, List.not_mem_nil, or_false] at hmem
    rcases hmem with rfl | rfl | rfl
    · exact .regex _ _
    · exact .scalar _
    · exact hrange
  exact serialize_indent htree.hasTexts (serialize_of_isTree htree standardLayout)

end Value

end ScriptTree
