import ScriptTree.Corpus.Segment
import ScriptTree.Proofs.Text.Lines

namespace ScriptTree

namespace Corpus

/-- Lines of which the last one and no other is terminated. -/
def IsStatement (lines : List Text) : Prop :=
  ∃ init last, lines = init ++ [last] ∧ isTerminated last = true ∧ ∀ l ∈ init, isTerminated l = false

/-- Lines of which the last one is terminated. -/
def EndsTerminated (lines : List Text) : Prop :=
  ∃ init last, lines = init ++ [last] ∧ isTerminated last = true

/-- The longest part at the start of the lines that ends with a terminated line; empty if there is
no such part. -/
structure IsSettled (lines settled : List Text) : Prop where
  initial : settled <+: lines
  ends : settled = [] ∨ EndsTerminated settled
  longest : ∀ part, part <+: lines → EndsTerminated part → part.length ≤ settled.length

/-- Fixtures whose snippets hold the given lines, a statement each, numbered from one. -/
structure IsSegmentation (settled : List Text) (fixtures : List Fixture) : Prop where
  lines : fixtures.flatMap (fun f => f.snippet.lines) = settled
  statements : ∀ f ∈ fixtures, IsStatement f.snippet.lines
  ordinals : fixtures.map Fixture.ordinal =
    (List.range fixtures.length).map fun (i : Nat) => (i : Int) + 1

theorem IsStatement.ne_nil {lines : List Text} (h : IsStatement lines) : lines ≠ [] := by
  obtain ⟨init, last, rfl, -⟩ := h
  simp

theorem IsStatement.endsTerminated {lines : List Text} (h : IsStatement lines) :
    EndsTerminated lines := by
  obtain ⟨init, last, hl, ht, -⟩ := h
  exact ⟨init, last, hl, ht⟩

theorem EndsTerminated.append_left {lines : List Text} (h : EndsTerminated lines) (before : List Text) :
    EndsTerminated (before ++ lines) := by
  obtain ⟨init, last, rfl, ht⟩ := h
  exact ⟨before ++ init, last, by simp, ht⟩

theorem IsStatement.cons {lines : List Text} {line : Text} (h : IsStatement lines)
    (hl : isTerminated line = false) : IsStatement (line :: lines) := by
  obtain ⟨init, last, rfl, ht, hi⟩ := h
  refine ⟨line :: init, last, rfl, ht, ?_⟩
  intro l hm
  rcases List.mem_cons.mp hm with rfl | hm
  · exact hl
  · exact hi l hm

theorem groups_statement_append {init : List Text} {last : Text} (pending rest : List Text)
    (ht : isTerminated last = true) (hi : ∀ l ∈ init, isTerminated l = false) :
    groups pending (init ++ last :: rest) = (pending ++ init ++ [last]) :: groups [] rest := by
  induction init generalizing pending with
  | nil => simp [groups, ht]
  | cons line init ih =>
    have hl := hi line (by simp)
    have hrest := ih (pending ++ [line]) fun l hm => hi l (List.mem_cons_of_mem line hm)
    simpa [groups, hl] using hrest

theorem groups_unterminated {lines : List Text} (pending : List Text)
    (h : ∀ l ∈ lines, isTerminated l = false) : groups pending lines = [] := by
  induction lines generalizing pending with
  | nil => rfl
  | cons line lines ih =>
    have hl := h line (by simp)
    simpa [groups, hl] using ih (pending ++ [line]) fun l hm => h l (List.mem_cons_of_mem line hm)

/-- Statements are cut off in front of whatever follows them. -/
theorem groups_flatten {statements : List (List Text)} (hs : ∀ s ∈ statements, IsStatement s)
    (rest : List Text) :
    groups [] (statements.flatten ++ rest) = statements ++ groups [] rest := by
  induction statements with
  | nil => rfl
  | cons s statements ih =>
    obtain ⟨hstatement, hothers⟩ := List.forall_mem_cons.mp hs
    obtain ⟨init, last, rfl, hlast, hinit⟩ := hstatement
    have hcut := groups_statement_append [] (statements.flatten ++ rest) hlast hinit
    simpa [ih hothers] using hcut

/-- Statements followed by lines without a terminated one are found again as the groups. -/
theorem groups_flatten_append {statements : List (List Text)} {tail : List Text}
    (hs : ∀ s ∈ statements, IsStatement s) (ht : ∀ l ∈ tail, isTerminated l = false) :
    groups [] (statements.flatten ++ tail) = statements := by
  rw [groups_flatten hs, groups_unterminated [] ht, List.append_nil]

/-- Lines are cut into statements in one way only. -/
theorem statements_unique {first second : List (List Text)} (hf : ∀ s ∈ first, IsStatement s)
    (hs : ∀ s ∈ second, IsStatement s) (h : first.flatten = second.flatten) : first = second := by
  have hnone : ∀ l ∈ ([] : List Text), isTerminated l = false := by simp
  rw [← groups_flatten_append hf hnone, h, groups_flatten_append hs hnone]

theorem exists_statements (lines : List Text) :
    ∃ (statements : List (List Text)) (tail : List Text), lines = statements.flatten ++ tail ∧
      (∀ s ∈ statements, IsStatement s) ∧ ∀ l ∈ tail, isTerminated l = false := by
  induction lines with
  | nil => exact ⟨[], [], by simp⟩
  | cons line lines ih =>
    obtain ⟨statements, tail, rfl, hs, ht⟩ := ih
    cases hl : isTerminated line with
    | true =>
      refine ⟨[line] :: statements, tail, by simp, ?_, ht⟩
      intro s hm
      rcases List.mem_cons.mp hm with rfl | hm
      · exact ⟨[], line, rfl, hl, by simp⟩
      · exact hs s hm
    | false =>
      cases statements with
      | nil =>
        refine ⟨[], line :: tail, by simp, by simp, ?_⟩
        intro l hm
        rcases List.mem_cons.mp hm with rfl | hm
        · exact hl
        · exact ht l hm
      | cons first statements =>
        refine ⟨(line :: first) :: statements, tail, by simp, ?_, ht⟩
        intro s hm
        rcases List.mem_cons.mp hm with rfl | hm
        · exact (hs first (by simp)).cons hl
        · exact hs s (List.mem_cons_of_mem first hm)

theorem IsSettled.length_le {lines first second : List Text} (hf : IsSettled lines first)
    (hs : IsSettled lines second) : first.length ≤ second.length := by
  rcases hf.ends with rfl | hends
  · exact Nat.zero_le _
  · exact hs.longest first hf.initial hends

theorem IsSettled.unique {lines first second : List Text} (hf : IsSettled lines first)
    (hs : IsSettled lines second) : first = second :=
  (List.prefix_of_prefix_length_le hf.initial hs.initial (hf.length_le hs)).eq_of_length
    (Nat.le_antisymm (hf.length_le hs) (hs.length_le hf))

theorem isSettled_flatten {statements : List (List Text)} {tail : List Text}
    (hs : ∀ s ∈ statements, IsStatement s) (ht : ∀ l ∈ tail, isTerminated l = false) :
    IsSettled (statements.flatten ++ tail) statements.flatten := by
  refine ⟨List.prefix_append _ _, ?_, ?_⟩
  · rcases List.eq_nil_or_concat statements with rfl | ⟨before, s, rfl⟩
    · exact Or.inl rfl
    · right
      simpa using (hs s (by simp)).endsTerminated.append_left before.flatten
  · rintro part hp ⟨init, last, rfl, hlast⟩
    obtain ⟨rest, hr⟩ := hp
    have hget : (statements.flatten ++ tail)[init.length]? = some last := by simp [← hr]
    apply Nat.le_of_not_lt
    intro hlong
    -- A longer part would take its last line from the tail.
    have hle : statements.flatten.length ≤ init.length := by
      rw [List.length_append, List.length_singleton] at hlong
      omega
    rw [List.getElem?_append_right hle] at hget
    have := ht last (List.mem_of_getElem? hget)
    simp [hlast] at this

theorem number_snippets (first : Int) (snippets : List Text) :
    (number first snippets).map Fixture.snippet = snippets := by
  induction snippets generalizing first with
  | nil => rfl
  | cons snippet snippets ih => simp [number, ih]

theorem number_length (first : Int) (snippets : List Text) :
    (number first snippets).length = snippets.length := by
  have h := congrArg List.length (number_snippets first snippets)
  rwa [List.length_map] at h

theorem number_ordinals (first : Int) (snippets : List Text) :
    (number first snippets).map Fixture.ordinal =
      (List.range snippets.length).map fun (i : Nat) => (i : Int) + first := by
  induction snippets generalizing first with
  | nil => rfl
  | cons snippet snippets ih =>
    have harith : ∀ i : Nat, (i : Int) + (first + 1) = ((i + 1 : Nat) : Int) + first := by omega
    simp [number, ih, List.range_succ_eq_map, Function.comp_def, harith]

theorem eq_number_of_ordinals {fixtures : List Fixture} {first : Int}
    (h : fixtures.map Fixture.ordinal =
      (List.range fixtures.length).map fun (i : Nat) => (i : Int) + first) :
    fixtures = number first (fixtures.map Fixture.snippet) := by
  induction fixtures generalizing first with
  | nil => rfl
  | cons f fixtures ih =>
    have harith : ∀ i : Nat, ((i + 1 : Nat) : Int) + first = (i : Int) + (first + 1) := by omega
    simp only [List.map_cons, List.length_cons, List.range_succ_eq_map, List.map_map,
      Function.comp_def, harith, List.cons.injEq] at h
    obtain ⟨h0, hrest⟩ := h
    have hf : (⟨first, f.snippet⟩ : Fixture) = f := by
      rw [show first = f.ordinal by omega]
    rw [List.map_cons, number, ← ih hrest, hf]

theorem lines_unlines_statement {corpus : Text} {s : List Text} (hs : IsStatement s)
    (h : ∀ l ∈ s, l ∈ corpus.lines) : Text.lines (Text.unlines s) = s :=
  Text.lines_unlines hs.ne_nil fun l hl => Text.newline_not_mem_line (h l hl)

/-- The snippets of statements of the corpus have these statements as their lines. -/
theorem lines_of_number {corpus : Text} {statements : List (List Text)}
    (hs : ∀ s ∈ statements, IsStatement s) (hm : ∀ s ∈ statements, ∀ l ∈ s, l ∈ corpus.lines) :
    (number 1 (statements.map Text.unlines)).map (fun f => f.snippet.lines) = statements := by
  have hsnippets := congrArg (List.map Text.lines) (number_snippets 1 (statements.map Text.unlines))
  rw [List.map_map, List.map_map] at hsnippets
  have hback : statements.map (Text.lines ∘ Text.unlines) = statements.map id :=
    List.map_congr_left fun s hmem => lines_unlines_statement (hs s hmem) (hm s hmem)
  exact hsnippets.trans (hback.trans (List.map_id statements))

/-- Statements of the corpus, numbered, are a segmentation of the lines that they cut. -/
theorem isSegmentation_number {corpus : Text} {statements : List (List Text)}
    (hs : ∀ s ∈ statements, IsStatement s) (hm : ∀ s ∈ statements, ∀ l ∈ s, l ∈ corpus.lines) :
    IsSegmentation statements.flatten (number 1 (statements.map Text.unlines)) := by
  have hlines := lines_of_number hs hm
  refine ⟨?_, ?_, ?_⟩
  · rw [List.flatMap_def, hlines]
  · intro f hf
    apply hs
    rw [← hlines]
    exact List.mem_map_of_mem hf
  · rw [number_ordinals, number_length]

/-- A segmentation of lines that are cut into statements has these statements as its snippets. -/
theorem IsSegmentation.eq_number {statements : List (List Text)} {fixtures : List Fixture}
    (h : IsSegmentation statements.flatten fixtures) (hs : ∀ s ∈ statements, IsStatement s) :
    fixtures = number 1 (statements.map Text.unlines) := by
  have hgroups : fixtures.map (fun f => f.snippet.lines) = statements := by
    apply statements_unique _ hs
    · rw [← h.lines, List.flatMap_def]
    · intro s hsm
      obtain ⟨f, hf, rfl⟩ := List.mem_map.mp hsm
      exact h.statements f hf
  have hsnippets : fixtures.map Fixture.snippet = statements.map Text.unlines := by
    rw [← hgroups, List.map_map]
    exact List.map_congr_left fun f _ => (Text.unlines_lines f.snippet).symm
  rw [← hsnippets]
  exact eq_number_of_ordinals h.ordinals

/-- The settled lines of a corpus are determined, and its fixtures are their only segmentation. -/
theorem isSegmentation_iff_eq_segment (corpus : Text) :
    ∃ settled, (∀ lines, IsSettled (corpus.lines.filter isKept) lines ↔ lines = settled) ∧
      ∀ fixtures, IsSegmentation settled fixtures ↔ fixtures = segment corpus := by
  obtain ⟨statements, tail, hk, hs, ht⟩ := exists_statements (corpus.lines.filter isKept)
  have hsettled := isSettled_flatten hs ht
  rw [← hk] at hsettled
  have hsegment : segment corpus = number 1 (statements.map Text.unlines) := by
    rw [segment, hk, groups_flatten_append hs ht]
  have hmem : ∀ s ∈ statements, ∀ l ∈ s, l ∈ corpus.lines := by
    intro s hsm l hl
    have hin : l ∈ corpus.lines.filter isKept := by
      rw [hk]
      exact List.mem_append_left tail (List.mem_flatten.mpr ⟨s, hsm, hl⟩)
    exact (List.mem_filter.mp hin).1
  refine ⟨statements.flatten, fun lines => ⟨fun h => h.unique hsettled, ?_⟩,
    fun fixtures => ⟨fun h => ?_, ?_⟩⟩
  · rintro rfl
    exact hsettled
  · rw [hsegment]
    exact h.eq_number hs
  · rintro rfl
    rw [hsegment]
    exact isSegmentation_number hs hmem

end Corpus

end ScriptTree
