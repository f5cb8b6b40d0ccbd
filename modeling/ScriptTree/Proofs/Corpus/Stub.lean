import ScriptTree.Corpus.Template
import ScriptTree.Proofs.Corpus.Snippet
import ScriptTree.Proofs.Number.Written

namespace ScriptTree

theorem Subject.ofPath_name (name : Text) : Subject.ofPath name "name" = .ok (.text name) := by
  have hfirst : (Text.ofString "name").takeWhile
      (fun c => c ≠ CodePoint.ofChar '.' && c ≠ CodePoint.ofChar '[') = Text.ofString "name" := by
    rfl
  have hposition : Subject.position? (Text.ofString "name") = .ok none := by
    rfl
  rw [Subject.ofPath]
  simp only [hfirst, hposition]
  rw [List.drop_length, Subject.follow]
  rfl

namespace Template

/-- A piece of a template: a text, or the slot for the name as it is. -/
def plainPart : Option Text → TemplatePart
  | some text => .literal text
  | none => .slot ⟨"name", none, []⟩

theorem fill_eq {t : Text} (parts : List (Option Text))
    (h : TemplatePart.ofText t = parts.map plainPart) (name : Text) :
    fill name t = .ok (parts.flatMap fun p => p.getD name) := by
  have hpure : ∀ f : Option Text → Except FillError Text, (∀ p, f p = pure (p.getD name)) →
      parts.mapM f = .ok (parts.map fun p => p.getD name) := by
    intro f hf
    rw [funext hf, List.mapM_pure]
    rfl
  rw [fill, fillTo, h, List.mapM_map, hpure]
  · rw [List.flatMap_def]
    rfl
  · rintro (_ | text)
    · simp only [Function.comp_apply, plainPart, Subject.ofPath_name]
      rfl
    · rfl

/-- What a template writes before and after a snippet, by the name of the test. -/
structure Writes (template : Template) (before after : Text → Text) : Prop where
  opening : ∀ name, fill name template.opening = .ok (before name)
  closing : ∀ name, fill name template.closing = .ok (after name)

set_option maxRecDepth 4000 in
theorem rust_writes : rust.Writes
    (fun name => Text.ofString "#[test]\nfn " ++ name ++ Text.ofString "() \x7b\n    let js = r#\"")
    (fun name => Text.ofString "\"#;\n" ++ (Text.ofString "    run_test(\"" ++ name
      ++ Text.ofString "\", js);\n\x7d\n")) where
  opening name := by
    rw [fill_eq [some "#[test]\nfn ", none, some "() \x7b", some "\n    let js = r#\""] rfl]
    rfl
  closing name := by
    rw [fill_eq [some "\"#;\n    run_test(\"", none, some "\", js);\n\x7d", some "\n"] rfl]
    rfl

set_option maxRecDepth 4000 in
theorem pytest_writes : pytest.Writes
    (fun name => Text.ofString "def " ++ name ++ Text.ofString "():\n    js = r\"\"\"")
    (fun name => Text.ofString "\"\"\"\n    run_test(\"" ++ name ++ Text.ofString "\", js)\n\n\n") where
  opening name := by
    rw [fill_eq [some "def ", none, some "():\n    js = r\"\"\""] rfl]
    rfl
  closing name := by
    rw [fill_eq [some "\"\"\"\n    run_test(\"", none, some "\", js)\n\n\n"] rfl]
    rfl

open Corpus

variable {template : Template} {before after : Text → Text}

/-- The stub of a fixture, by what the template writes around snippets. -/
def stub (before after : Text → Text) (f : Fixture) : Text := before f.name ++ f.snippet ++ after f.name

theorem Writes.renderFixture (h : template.Writes before after) (f : Fixture) :
    template.renderFixture f = .ok (stub before after f) := by
  rw [Template.renderFixture, h.opening, h.closing]
  rfl

theorem Writes.render (h : template.Writes before after) (fs : List Fixture) :
    template.render fs = .ok (fs.flatMap (stub before after)) := by
  induction fs with
  | nil => rfl
  | cons f fs ih =>
    rw [Template.render, h.renderFixture, ih]
    rfl

/-- A text after which no snippet can go on: what stands before it is told by the whole. -/
def Separates (closing : Text) : Prop :=
  ∀ s x rest rest', IsSnippet s → IsSnippet (s ++ x) →
    x ++ (closing ++ rest') = closing ++ rest → x = []

theorem Separates.eq {closing s t rest rest' : Text} (h : Separates closing) (hs : IsSnippet s)
    (ht : IsSnippet t) (heq : s ++ (closing ++ rest) = t ++ (closing ++ rest')) : s = t := by
  rcases List.append_eq_append_iff.mp heq with ⟨x, rfl, hx⟩ | ⟨x, rfl, hx⟩
  · rw [h s x rest rest' hs ht hx.symm, List.append_nil]
  · rw [h t x rest' rest ht hs hx.symm, List.append_nil]

theorem not_isTerminated_append_singleton {t : Text} {c : CodePoint} (hs : c ≠ CodePoint.ofChar ';')
    (hb : c ≠ CodePoint.ofChar '\x7d') : isTerminated (t ++ [c]) = false := by
  simp [isTerminated, hs, hb]

/-- The line that a quote, a hash and a semicolon end is terminated, so no snippet goes on after it. -/
theorem separates_hash (more : Text) : Separates (Text.ofString "\"#;\n" ++ more) := by
  intro s x rest rest' _ hx heq
  have hmark : Text.ofString "\"#;\n" = [CodePoint.ofChar '"', CodePoint.ofChar '#',
    CodePoint.ofChar ';', CodePoint.ofChar '\n'] := rfl
  have hends := hx.terminated
  rw [hmark] at heq
  rcases x with _ | ⟨a, _ | ⟨b, _ | ⟨c, _ | ⟨d, x⟩⟩⟩⟩ <;>
    simp only [List.cons_append, List.nil_append, List.cons.injEq] at heq
  · rfl
  · obtain ⟨rfl, -⟩ := heq
    rw [not_isTerminated_append_singleton (by decide) (by decide)] at hends
    cases hends
  · obtain ⟨rfl, rfl, -⟩ := heq
    rw [List.append_cons, not_isTerminated_append_singleton (by decide) (by decide)] at hends
    cases hends
  · -- The mark would have to start where its line feed stands.
    exact absurd heq.2.2.2.1 (by decide)
  · obtain ⟨rfl, rfl, rfl, rfl, -⟩ := heq
    have hinner := hx.inner (s ++ [CodePoint.ofChar '"', CodePoint.ofChar '#', CodePoint.ofChar ';']) x
      (by simp)
    simp [isTerminated] at hinner

/-- No line before the empty one is terminated, and no snippet goes on after the empty one. -/
theorem separates_blank {lines : Text} (hs : CodePoint.ofChar ';' ∉ lines)
    (hb : CodePoint.ofChar '\x7d' ∉ lines)
    (more : Text) : Separates (lines ++ Text.ofString "\n\n" ++ more) := by
  intro s x rest rest' _ hx heq
  have hmark : Text.ofString "\n\n" = [CodePoint.ofChar '\n', CodePoint.ofChar '\n'] := rfl
  rw [List.append_assoc (_ ++ _) more rest] at heq
  rcases List.append_eq_append_iff.mp heq with ⟨y, hy, -⟩ | ⟨y, rfl, -⟩
  · rcases List.eq_nil_or_concat x with rfl | ⟨init, c, rfl⟩
    · rfl
    · rw [List.concat_eq_append] at hx hy
      have hmem : c ∈ lines ++ Text.ofString "\n\n" := by simp [hy]
      have hends := hx.terminated
      rw [← List.append_assoc, not_isTerminated_append_singleton] at hends
      · cases hends
      · rintro rfl
        simp [hmark, hs] at hmem
        exact absurd hmem (by decide)
      · rintro rfl
        simp [hmark, hb] at hmem
        exact absurd hmem (by decide)
  · refine absurd ?_ (hx.filled (s ++ lines) y)
    simp [hmark]

theorem not_mem_name {f : Fixture} {c : CodePoint} (ht : c ∉ Text.ofString "test")
    (hn : Token.isNumeric c = false) : c ∉ f.name := by
  intro hc
  rcases List.mem_append.mp hc with hc | hc
  · exact ht hc
  · rw [Double.isNumeric_of_mem_ofInt c hc] at hn
    cases hn

theorem snippets_eq_of_stubs_eq (h : ∀ f : Fixture, Separates (after f.name))
    (hb : ∀ name, before name ≠ []) {first : Int} {ss ts : List Text} (hs : ∀ s ∈ ss, IsSnippet s)
    (ht : ∀ t ∈ ts, IsSnippet t) (heq : (number first ss).flatMap (stub before after) =
      (number first ts).flatMap (stub before after)) :
    ss = ts := by
  induction ss generalizing first ts with
  | nil =>
    cases ts with
    | nil => rfl
    | cons t ts => simp [number, stub, hb] at heq
  | cons s ss ih =>
    cases ts with
    | nil => simp [number, stub, hb] at heq
    | cons t ts =>
      simp only [number, List.flatMap_cons, stub, List.append_assoc] at heq
      have hrest := List.append_cancel_left heq
      have hst : s = t := (h ⟨first, s⟩).eq (hs s (by simp)) (ht t (by simp)) hrest
      subst hst
      have htail := List.append_cancel_left (List.append_cancel_left hrest)
      rw [ih (fun s hm => hs s (List.mem_cons_of_mem _ hm))
        (fun t hm => ht t (List.mem_cons_of_mem _ hm)) htail]

theorem eq_of_named? {name : Text} (h : named? name = some template) :
    template = rust ∨ template = pytest := by
  unfold named? at h
  split at h
  next => exact Or.inl (Option.some.inj h).symm
  next =>
    split at h
    next => exact Or.inr (Option.some.inj h).symm
    next => cases h

theorem Writes.render_segment_eq_iff (hw : template.Writes before after)
    (h : ∀ f : Fixture, Separates (after f.name)) (hb : ∀ name, before name ≠ [])
    (first second : Text) :
    ∃ file other, template.render (segment first) = .ok file ∧
      template.render (segment second) = .ok other ∧
      (file = other ↔ segment first = segment second) := by
  refine ⟨_, _, hw.render _, hw.render _, fun heq => ?_, fun heq => by rw [heq]⟩
  obtain ⟨ss, hss, hs⟩ := exists_snippets first
  obtain ⟨ts, hts, ht⟩ := exists_snippets second
  rw [hss, hts] at heq
  rw [hss, hts, snippets_eq_of_stubs_eq h hb hs ht heq]

/-- The file of stubs that a built-in template makes of a corpus tells its fixtures, whatever their
snippets hold. -/
theorem render_segment_eq_iff_segment_eq {name : Text} (hn : named? name = some template)
    (first second : Text) :
    ∃ file other, template.render (segment first) = .ok file ∧
      template.render (segment second) = .ok other ∧
      (file = other ↔ segment first = segment second) := by
  rcases eq_of_named? hn with rfl | rfl
  · exact rust_writes.render_segment_eq_iff (fun f => separates_hash _)
      (by simp [Text.ofString]) first second
  · refine pytest_writes.render_segment_eq_iff (fun f => ?_) (by simp [Text.ofString]) first second
    have hlines : ∀ c : CodePoint, c ∉ Text.ofString "\"\"\"\n    run_test(\"" →
        c ∉ Text.ofString "\", js)" →
        c ∉ f.name → c ∉ Text.ofString "\"\"\"\n    run_test(\"" ++
          f.name ++ Text.ofString "\", js)" := by
      intro c hc hd hf
      simp [hc, hd, hf]
    have hend : Text.ofString "\", js)\n\n\n" =
        Text.ofString "\", js)" ++ (Text.ofString "\n\n" ++ Text.ofString "\n") := rfl
    have hsep := separates_blank
      (hlines _ (by decide) (by decide)
      (not_mem_name (c := CodePoint.ofChar ';') (by decide) (by decide)))
      (hlines _ (by decide) (by decide)
      (not_mem_name (c := CodePoint.ofChar '\x7d') (by decide) (by decide)))
      (Text.ofString "\n")
    simpa only [hend, List.append_assoc] using hsep

theorem render_segment_eq_iff_segment_eq_delimiters :
    named? "rust" = some rust ∧
    ∃ file other, rust.render (segment "a \"#;\n    run_test(\"test1\", js);\n\x7d\n") = .ok file ∧
      rust.render (segment "// b\na \"#;\n\n    run_test(\"test1\", js);\n\x7d\nc") = .ok other ∧
      (file = other ↔ segment "a \"#;\n    run_test(\"test1\", js);\n\x7d\n"
        = segment "// b\na \"#;\n\n    run_test(\"test1\", js);\n\x7d\nc") :=
  have hn : named? "rust" = some rust := by decide +kernel
  ⟨hn, render_segment_eq_iff_segment_eq hn _ _⟩

end Template

end ScriptTree
