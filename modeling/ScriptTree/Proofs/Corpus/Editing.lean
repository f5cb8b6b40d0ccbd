import Mathlib.Data.List.DropRight
import ScriptTree.Proofs.Corpus.Segmentation

namespace ScriptTree

/-- The fixture with a number added to its own. -/
def Fixture.shift (n : Int) (f : Fixture) : Fixture := { f with ordinal := f.ordinal + n }

namespace Corpus

/-- The kept lines of a corpus after the last terminated one. -/
def unsettled (corpus : Text) : List Text :=
  (corpus.lines.filter isKept).rtakeWhile fun line => !isTerminated line

/-- A line that says nothing: a blank one or one that starts a comment. -/
def IsNoise (line : Text) : Prop :=
  CodePoint.ofChar '\n' ∉ line ∧ (line.isBlank = true ∨ isComment line = true)

/-- Lines with any number of noise lines between them, before the first and after the last. -/
inductive IsNoisy : List Text → List Text → Prop where
  | nil : IsNoisy [] []
  | line (line : Text) {lines noisy : List Text} :
      IsNoisy lines noisy → IsNoisy (line :: lines) (line :: noisy)
  | noise {line : Text} {lines noisy : List Text} :
      IsNoise line → IsNoisy lines noisy → IsNoisy lines (line :: noisy)

variable {statements : List (List Text)} {tail : List Text}

theorem number_append (first : Int) (snippets more : List Text) :
    number first (snippets ++ more) =
      number first snippets ++ number (first + snippets.length) more := by
  induction snippets generalizing first with
  | nil => simp [number]
  | cons snippet snippets ih =>
    have harith : first + 1 + (snippets.length : Int) =
        first + ((snippets.length + 1 : Nat) : Int) := by omega
    rw [List.cons_append, number, ih, number, harith, List.length_cons, List.cons_append]

theorem number_add (first n : Int) (snippets : List Text) :
    number (first + n) snippets = (number first snippets).map (Fixture.shift n) := by
  induction snippets generalizing first with
  | nil => rfl
  | cons snippet snippets ih =>
    have harith : first + n + 1 = first + 1 + n := by omega
    rw [number, number, harith, ih]
    rfl

theorem rtakeWhile_settled (hs : ∀ s ∈ statements, IsStatement s)
    (ht : ∀ l ∈ tail, isTerminated l = false) :
    (statements.flatten ++ tail).rtakeWhile (fun line => !isTerminated line) = tail := by
  have hflatten : statements.flatten.rtakeWhile (fun line => !isTerminated line) = [] := by
    rcases List.eq_nil_or_concat statements with rfl | ⟨before, s, rfl⟩
    · rfl
    · obtain ⟨init, last, rfl, hlast, -⟩ := hs s (by simp)
      rw [List.concat_eq_append, List.flatten_concat, ← List.append_assoc]
      exact List.rtakeWhile_concat_neg _ _ _ (by simp [hlast])
  induction tail using List.reverseRecOn with
  | nil => rw [List.append_nil, hflatten]
  | append_singleton tail line ih =>
    obtain ⟨htail, hline⟩ := List.forall_mem_append.mp ht
    rw [← List.append_assoc,
      List.rtakeWhile_concat_pos _ _ _ (by simp [hline line List.mem_cons_self]), ih htail]

theorem flatMap_lines_eq_self {lines : List Text} (h : ∀ l ∈ lines, CodePoint.ofChar '\n' ∉ l) :
    lines.flatMap Text.lines = lines := by
  induction lines with
  | nil => rfl
  | cons line lines ih =>
    obtain ⟨hline, hlines⟩ := List.forall_mem_cons.mp h
    rw [List.flatMap_cons, ih hlines, Text.lines, Text.split_eq_singleton hline]
    rfl

theorem newline_not_mem_kept {corpus line : Text} (h : line ∈ corpus.lines.filter isKept) :
    CodePoint.ofChar '\n' ∉ line :=
  Text.newline_not_mem_line (List.mem_filter.mp h).1

theorem isKept_of_mem_kept {corpus line : Text} (h : line ∈ corpus.lines.filter isKept) :
    isKept line = true :=
  (List.mem_filter.mp h).2

/-- The kept lines of a corpus, cut into the statements of its fixtures and what follows them. -/
theorem exists_segment_eq (corpus : Text) :
    ∃ (statements : List (List Text)) (tail : List Text),
      corpus.lines.filter isKept = statements.flatten ++ tail ∧
      (∀ s ∈ statements, IsStatement s) ∧ (∀ l ∈ tail, isTerminated l = false) ∧
      segment corpus = number 1 (statements.map Text.unlines) := by
  obtain ⟨statements, tail, hkept, hs, ht⟩ := exists_statements (corpus.lines.filter isKept)
  refine ⟨statements, tail, hkept, hs, ht, ?_⟩
  rw [segment, hkept, groups_flatten_append hs ht]

/-- Statements of kept lines that are joined to one text are found in it again. -/
theorem groups_unlines_statements {corpus : Text} (hs : ∀ s ∈ statements, IsStatement s)
    (hm : ∀ s ∈ statements, ∀ l ∈ s, l ∈ corpus.lines.filter isKept) :
    groups [] ((Text.lines (Text.unlines (statements.map Text.unlines))).filter isKept) =
      statements := by
  by_cases hnone : statements = []
  · rw [hnone]
    rfl
  have hback : statements.map (Text.lines ∘ Text.unlines) = statements.map id :=
    List.map_congr_left fun s hsm => lines_unlines_statement (hs s hsm) fun l hl =>
      (List.mem_filter.mp (hm s hsm l hl)).1
  have hlines : Text.lines (Text.unlines (statements.map Text.unlines)) = statements.flatten := by
    rw [Text.lines_unlines_eq_flatMap (by simpa using hnone), List.flatMap_def, List.map_map, hback,
      List.map_id]
  have hkeep : statements.flatten.filter isKept = statements.flatten :=
    List.filter_eq_self.mpr fun l hl => by
      obtain ⟨s, hsm, hls⟩ := List.mem_flatten.mp hl
      exact isKept_of_mem_kept (hm s hsm l hls)
  have hcut := groups_flatten_append hs (List.forall_mem_nil _)
  rw [List.append_nil] at hcut
  rw [hlines, hkeep, hcut]

/-- The fixtures of a corpus stay as they are when text is appended, and the lines that belong to
none of them are the beginning of what follows. -/
theorem segment_append (a b : Text) :
    let shifted (text : Text) := (segment text).map (Fixture.shift (segment a).length)
    segment (a ++ CodePoint.ofChar '\n' :: b) =
      segment a ++ shifted (Text.unlines (unsettled a ++ [b])) ∧
      segment a <+: segment (a ++ CodePoint.ofChar '\n' :: b) ∧
      (unsettled a = [] → segment (a ++ CodePoint.ofChar '\n' :: b) = segment a ++ shifted b) := by
  intro shifted
  obtain ⟨statements, tail, hkept, hs, ht, ha⟩ := exists_segment_eq a
  have htail : ∀ l ∈ tail, l ∈ a.lines.filter isKept := fun l hl => hkept ▸ List.mem_append_right _ hl
  have hunsettled : unsettled a = tail := by rw [unsettled, hkept, rtakeWhile_settled hs ht]
  have hlength : (segment a).length = (statements.map Text.unlines).length := by rw [ha, number_length]
  have hboth : (Text.lines (a ++ CodePoint.ofChar '\n' :: b)).filter isKept =
      statements.flatten ++ (tail ++ b.lines.filter isKept) := by
    rw [Text.lines, Text.split_append_separator, List.filter_append, ← List.append_assoc, ← hkept]
    rfl
  -- The tail of `a` keeps all its lines when it is cut again in front of `b`.
  have hrest : (Text.lines (Text.unlines (tail ++ [b]))).filter isKept =
      tail ++ b.lines.filter isKept := by
    rw [Text.lines_unlines_eq_flatMap (by simp), List.flatMap_append, List.filter_append,
      flatMap_lines_eq_self fun l hl => newline_not_mem_kept (htail l hl),
      List.filter_eq_self.mpr fun l hl => isKept_of_mem_kept (htail l hl), List.flatMap_singleton]
  have hsegment : segment (a ++ CodePoint.ofChar '\n' :: b) =
      segment a ++ shifted (Text.unlines (unsettled a ++ [b])) := by
    calc segment (a ++ CodePoint.ofChar '\n' :: b)
        = number 1 (statements.map Text.unlines ++
          (groups [] (tail ++ b.lines.filter isKept)).map Text.unlines) := by
          rw [segment, hboth, groups_flatten hs, List.map_append]
      _ = segment a ++ number (1 + (segment a).length)
        ((groups [] (tail ++ b.lines.filter isKept)).map Text.unlines) := by
          rw [number_append, ← ha, hlength]
      _ = segment a ++ shifted (Text.unlines (unsettled a ++ [b])) := by
          rw [number_add, hunsettled, ← hrest]
          rfl
  refine ⟨hsegment, ⟨_, hsegment.symm⟩, fun hnone => ?_⟩
  rw [hsegment, hnone]
  rfl

/-- Text appended after a statement starts with fixtures of its own; text appended within one ends
it first. -/
theorem segment_append_within :
    let text : Text := "c;\nd;"
    let within : Text := "a;\nif (b)\n// why"
    (unsettled "a;" = [] ∧
      segment ("a;" ++ CodePoint.ofChar '\n' :: text) = [⟨1, "a;"⟩] ++ [⟨2, "c;"⟩, ⟨3, "d;"⟩]) ∧
    unsettled within = ["if (b)"] ∧
      segment (within ++ CodePoint.ofChar '\n' :: text) =
        [⟨1, "a;"⟩] ++ [⟨2, "if (b)\nc;"⟩, ⟨3, "d;"⟩] := by
  intro text within
  have hsettled : unsettled "a;" = [] := by decide +kernel
  have hafter := (segment_append "a;" text).2.2 hsettled
  have hwithin := (segment_append within text).1
  refine ⟨⟨hsettled, hafter.trans ?_⟩, by decide +kernel, hwithin.trans ?_⟩
  · decide +kernel
  · decide +kernel

theorem isNoisy_ne_nil {lines noisy : List Text} (h : IsNoisy lines noisy) (hne : lines ≠ []) :
    noisy ≠ [] := by
  cases h with
  | nil => exact hne
  | line line h => exact List.cons_ne_nil _ _
  | noise hn h => exact List.cons_ne_nil _ _

theorem newline_not_mem_noisy {lines noisy : List Text} (h : IsNoisy lines noisy)
    (hlines : ∀ l ∈ lines, CodePoint.ofChar '\n' ∉ l) : ∀ l ∈ noisy, CodePoint.ofChar '\n' ∉ l := by
  induction h with
  | nil => exact hlines
  | line line _ ih =>
    obtain ⟨hline, hothers⟩ := List.forall_mem_cons.mp hlines
    exact List.forall_mem_cons.mpr ⟨hline, ih hothers⟩
  | noise hn _ ih => exact List.forall_mem_cons.mpr ⟨hn.1, ih hlines⟩

theorem isKept_of_isNoise {line : Text} (h : IsNoise line) : isKept line = false := by
  rcases h.2 with h | h <;> simp [isKept, h]

theorem filter_noisy {lines noisy : List Text} (h : IsNoisy lines noisy) :
    noisy.filter isKept = lines.filter isKept := by
  induction h with
  | nil => rfl
  | line line _ ih => rw [List.filter_cons, List.filter_cons, ih]
  | noise hn _ ih => rw [List.filter_cons, isKept_of_isNoise hn, ih]; rfl

/-- The snippets of a corpus have its fixtures, and so has the corpus with noise in it. -/
theorem segment_snippets (corpus : Text) :
    segment (Text.unlines ((segment corpus).map Fixture.snippet)) = segment corpus ∧
      ∀ noisy, IsNoisy corpus.lines noisy → segment (Text.unlines noisy) = segment corpus := by
  refine ⟨?_, fun noisy h => ?_⟩
  · obtain ⟨statements, tail, hkept, hs, -, hsegment⟩ := exists_segment_eq corpus
    have hmem : ∀ s ∈ statements, ∀ l ∈ s, l ∈ corpus.lines.filter isKept := fun s hsm l hl =>
      hkept ▸ List.mem_append_left tail (List.mem_flatten_of_mem hsm hl)
    rw [hsegment, number_snippets, segment, groups_unlines_statements hs hmem]
  · have hne := isNoisy_ne_nil h (Text.split_ne_nil _ corpus)
    have hlines := newline_not_mem_noisy h fun l hl => Text.newline_not_mem_line hl
    rw [segment, Text.lines_unlines hne hlines, filter_noisy h]
    rfl

/-- A comment in front of the corpus, a blank line within a statement and an open comment at the end. -/
theorem segment_snippets_noisy :
    let corpus : Text := "a;\nif (b)\n\r\nc;"
    let wide : Text := [CodePoint.ofNat 0x3000]
    let noisy : List Text := ["// x", "a;", "if (b)", wide, "\r", "c;", "/* y"]
    segment (Text.unlines [Text.ofString "a;", Text.ofString "if (b)\nc;"]) = segment corpus ∧
      IsNoisy corpus.lines noisy ∧ segment (Text.unlines noisy) = segment corpus := by
  intro corpus wide noisy
  have hlines : corpus.lines = ["a;", "if (b)", "\r", "c;"] := by decide +kernel
  have hnoisy : IsNoisy corpus.lines noisy := by
    rw [hlines]
    exact .noise ⟨by decide, Or.inr (by decide)⟩
      (.line _ (.line _ (.noise ⟨by decide, Or.inl (by decide)⟩
      (.line _ (.line _ (.noise ⟨by decide, Or.inr (by decide)⟩ .nil))))))
  have hsnippets : (segment corpus).map Fixture.snippet =
      [Text.ofString "a;", Text.ofString "if (b)\nc;"] := by
    decide +kernel
  obtain ⟨hagain, hnoise⟩ := segment_snippets corpus
  rw [hsnippets] at hagain
  exact ⟨hagain, hnoisy, hnoise noisy hnoisy⟩

end Corpus

end ScriptTree
