import ScriptTree.Proofs.Corpus.Segmentation

namespace ScriptTree

namespace Corpus

theorem isTerminated_cons {c : CodePoint} {t : Text} (h : t ≠ []) :
    isTerminated (c :: t) = isTerminated t := by
  rw [isTerminated, isTerminated, List.getLast?_cons_of_ne_nil h]

/-- A text is terminated if its last line is. -/
theorem isTerminated_lines {t line : Text} (h : t.lines.getLast? = some line) :
    isTerminated line = isTerminated t := by
  induction t generalizing line with
  | nil =>
    cases Option.some.inj h
    rfl
  | cons c t ih =>
    obtain ⟨part, parts, hs⟩ := List.exists_cons_of_ne_nil (Text.split_ne_nil (CodePoint.ofChar '\n') t)
    change Text.lines t = part :: parts at hs
    by_cases hc : c = CodePoint.ofChar '\n'
    · have hlines : Text.lines (c :: t) = [] :: Text.lines t := by
        rw [hc]
        exact Text.split_cons_self _ t
      rw [hlines, List.getLast?_cons_of_ne_nil (by simp [hs])] at h
      rw [ih h]
      by_cases ht : t = []
      · rw [ht, hc]
        decide
      · exact (isTerminated_cons ht).symm
    · have hlines : Text.lines (c :: t) = (c :: part) :: parts := Text.split_cons_ne hc hs
      rw [hlines] at h
      cases parts with
      | nil =>
        have ht : t = part := by
          rw [← Text.unlines_lines t, hs]
          rfl
        have hline : c :: part = line := by simpa using h
        rw [← hline, ht]
      | cons next parts =>
        have ht : t ≠ [] := by
          rintro rfl
          cases hs
        have hlast : (Text.lines t).getLast? = some line := by
          rw [hs]
          exact h
        rw [ih hlast, isTerminated_cons ht]

/-- A text that stands in a corpus as one statement: it is terminated, no earlier line of it is, and
none is empty. -/
structure IsSnippet (t : Text) : Prop where
  terminated : isTerminated t = true
  inner : ∀ before after : Text, t = before ++ CodePoint.ofChar '\n' :: after →
    isTerminated before = false
  filled : ∀ before after : Text, t ≠ before ++ CodePoint.ofChar '\n' :: CodePoint.ofChar '\n' :: after

theorem isSnippet_of_lines {t : Text} (hs : IsStatement t.lines) (hk : ∀ l ∈ t.lines, isKept l = true) :
    IsSnippet t := by
  obtain ⟨init, last, hlines, hlast, hinit⟩ := hs
  refine ⟨?_, ?_, ?_⟩
  · have hend : t.lines.getLast? = some last := by rw [hlines, List.getLast?_concat]
    rw [← isTerminated_lines hend]
    exact hlast
  · rintro before after rfl
    have hcut : before.lines ++ after.lines = init ++ [last] :=
      (Text.split_append_separator _ before after).symm.trans hlines
    obtain ⟨l, hl⟩ : ∃ l, before.lines.getLast? = some l :=
      Option.isSome_iff_exists.mp (List.getLast?_isSome.mpr (Text.split_ne_nil _ before))
    -- The lines after the cut take at least the last line.
    have hle : before.lines.length ≤ init.length := by
      have hlen := congrArg List.length hcut
      have hpos := List.length_pos_iff.mpr (Text.split_ne_nil (CodePoint.ofChar '\n') after)
      change 0 < after.lines.length at hpos
      simp only [List.length_append, List.length_singleton] at hlen
      omega
    have hstart : before.lines <+: init :=
      List.prefix_of_prefix_length_le ⟨after.lines, hcut⟩ (List.prefix_append init [last]) hle
    rw [← isTerminated_lines hl]
    exact hinit l (hstart.subset (List.mem_of_getLast? hl))
  · rintro before after rfl
    have hcut : Text.lines (before ++ CodePoint.ofChar '\n' :: CodePoint.ofChar '\n' :: after)
        = before.lines ++ [] :: after.lines := by
      rw [Text.lines, Text.split_append_separator, Text.split_cons_self]
      rfl
    have hblank := hk [] (by simp [hcut])
    exact absurd hblank (by decide)

/-- The fixtures of a corpus are statements, numbered, and each line of a statement is one of the
corpus. -/
theorem exists_kept_statements (corpus : Text) :
    ∃ statements : List (List Text), segment corpus = number 1 (statements.map Text.unlines) ∧
      ∀ s ∈ statements, IsStatement s ∧ ∀ l ∈ s, l ∈ corpus.lines ∧ isKept l = true := by
  obtain ⟨statements, tail, hk, hs, ht⟩ := exists_statements (corpus.lines.filter isKept)
  refine ⟨statements, ?_, fun s hsm => ⟨hs s hsm, fun l hl => ?_⟩⟩
  · rw [segment, hk, groups_flatten_append hs ht]
  · have hin : l ∈ corpus.lines.filter isKept := by
      rw [hk]
      exact List.mem_append_left tail (List.mem_flatten.mpr ⟨s, hsm, hl⟩)
    exact List.mem_filter.mp hin

/-- The snippets of a corpus stand in it as one statement each. -/
theorem exists_snippets (corpus : Text) :
    ∃ snippets, segment corpus = number 1 snippets ∧ ∀ t ∈ snippets, IsSnippet t := by
  obtain ⟨statements, hsegment, hs⟩ := exists_kept_statements corpus
  refine ⟨statements.map Text.unlines, hsegment, fun t hmem => ?_⟩
  obtain ⟨s, hsm, rfl⟩ := List.mem_map.mp hmem
  obtain ⟨hstatement, hkept⟩ := hs s hsm
  have hlines := lines_unlines_statement hstatement fun l hl => (hkept l hl).1
  refine isSnippet_of_lines ?_ ?_
  · rw [hlines]
    exact hstatement
  · rw [hlines]
    exact fun l hl => (hkept l hl).2

/-- A snippet holds code points of the corpus, and line feeds. -/
theorem mem_corpus_of_mem_snippet {corpus : Text} {f : Fixture}
    (hf : f ∈ segment corpus) {c : CodePoint}
    (hc : c ∈ f.snippet) : c ∈ corpus ∨ c = CodePoint.ofChar '\n' := by
  obtain ⟨statements, hsegment, hs⟩ := exists_kept_statements corpus
  have hsnippet : f.snippet ∈ statements.map Text.unlines := by
    rw [← number_snippets 1 (statements.map Text.unlines), ← hsegment]
    exact List.mem_map_of_mem hf
  obtain ⟨s, hsm, hunlines⟩ := List.mem_map.mp hsnippet
  rw [← hunlines] at hc
  rcases Text.mem_join hc with hc | ⟨line, hline, hc⟩
  · exact Or.inr (List.mem_singleton.mp hc)
  · exact Or.inl (Text.mem_of_mem_split ((hs s hsm).2 line hline).1 hc)

end Corpus

end ScriptTree
