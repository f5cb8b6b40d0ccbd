import ScriptTree.Proofs.Corpus.Stub

namespace ScriptTree

/-- How raw strings are written: what opens one, what closes it, and the code point that, before
another one, keeps that one from closing it. -/
structure RawSyntax where
  opening : Text
  closing : Text
  escape : Option CodePoint
deriving DecidableEq

namespace RawSyntax

/-- Raw strings of Rust with one hash. -/
def rust : RawSyntax where
  opening := "r#\""
  closing := "\"#"
  escape := none

/-- Raw strings of Python with triple quotes. -/
def python : RawSyntax where
  opening := "r\"\"\""
  closing := "\"\"\""
  escape := some (CodePoint.ofChar '\\')

/-- What a raw string holds and what follows its end, from a place inside it; none if it is not
closed. -/
def read (r : RawSyntax) : Text → Option (Text × Text)
  | [] => none
  | c :: t =>
    if List.isPrefixOf r.closing (c :: t) then some ([], (c :: t).drop r.closing.length)
    else if r.escape = some c then
      match t with
      | [] => none
      | d :: t => (read r t).map fun p => (c :: d :: p.1, p.2)
    else (read r t).map fun p => (c :: p.1, p.2)

/-- What the first raw string in a text holds and what follows it. -/
def literal? (r : RawSyntax) : Text → Option (Text × Text)
  | [] => none
  | c :: t =>
    if List.isPrefixOf r.opening (c :: t) then r.read ((c :: t).drop r.opening.length)
    else literal? r t

variable {r : RawSyntax}

theorem literal?_append {c : CodePoint} {mark before t : Text} (ho : r.opening = c :: mark)
    (hb : c ∉ before) : r.literal? (before ++ (r.opening ++ t)) = r.read t := by
  induction before with
  | nil => simp [ho, literal?]
  | cons d before ih =>
    have hd : c ≠ d := fun e => hb (by simp [e])
    have hrest := ih fun hm => hb (by simp [hm])
    simpa [literal?, ho, hd] using hrest

/-- What a raw string that is closed holds, and what follows it, make up the text. -/
theorem eq_append_of_read {t content rest : Text} (h : r.read t = some (content, rest)) :
    t = content ++ r.closing ++ rest := by
  fun_induction read r t generalizing content with
  | case1 => cases h
  | case2 c t hp =>
    obtain ⟨rfl, rfl⟩ := Prod.mk.inj (Option.some.inj h)
    obtain ⟨u, hu⟩ := List.isPrefixOf_iff_prefix.mp hp
    simp [← hu]
  | case3 c hp he => cases h
  | case4 c hp he d t ih =>
    obtain ⟨p, hp, hcut⟩ := Option.map_eq_some_iff.mp h
    obtain ⟨rfl, rfl⟩ := Prod.mk.inj hcut
    rw [ih hp]
    rfl
  | case5 c t hp he ih =>
    obtain ⟨p, hp, hcut⟩ := Option.map_eq_some_iff.mp h
    obtain ⟨rfl, rfl⟩ := Prod.mk.inj hcut
    rw [ih hp]
    rfl

theorem not_prefix_append {s t u : Text} (h : ¬ s <+: t) (hl : s.length ≤ t.length) : ¬ s <+: t ++ u :=
  fun hp => h (List.prefix_of_prefix_length_le hp (List.prefix_append t u) hl)

theorem not_prefix_append_of_last {s t u : Text} {c : CodePoint}
    (h : ¬ s <+: t) (hlast : t.getLast? = some c) (hc : c ∉ s) : ¬ s <+: t ++ u := by
  intro hp
  rcases Nat.le_total s.length t.length with hl | hl
  · exact not_prefix_append h hl hp
  · have hts := List.prefix_of_prefix_length_le (List.prefix_append t u) hp hl
    exact hc (hts.subset (List.mem_of_getLast? hlast))

theorem length_closing_le_of_read {t content rest : Text} (h : r.read t = some (content, rest)) :
    r.closing.length ≤ t.length := by
  rw [eq_append_of_read h, List.append_assoc, List.length_append, List.length_append]
  omega

theorem read_closed {c : CodePoint} {t : Text} (hp : r.closing <+: c :: t) :
    r.read (c :: t) = some ([], (c :: t).drop r.closing.length) := by
  rw [read.eq_def]
  exact if_pos (List.isPrefixOf_iff_prefix.mpr hp)

theorem read_escaped {c d : CodePoint} {t : Text} (hp : ¬ r.closing <+: c :: d :: t)
    (he : r.escape = some c) :
    r.read (c :: d :: t) = (r.read t).map fun p => (c :: d :: p.1, p.2) := by
  rw [read.eq_def]
  exact (if_neg (by rwa [List.isPrefixOf_iff_prefix])).trans (if_pos he)

theorem read_plain {c : CodePoint} {t : Text} (hp : ¬ r.closing <+: c :: t) (he : r.escape ≠ some c) :
    r.read (c :: t) = (r.read t).map fun p => (c :: p.1, p.2) := by
  rw [read.eq_def]
  exact (if_neg (by rwa [List.isPrefixOf_iff_prefix])).trans (if_neg he)

theorem read_closing (hne : r.closing ≠ []) (rest : Text) :
    r.read (r.closing ++ rest) = some ([], rest) := by
  obtain ⟨c, mark, hc⟩ := List.exists_cons_of_ne_nil hne
  rw [hc, List.cons_append, read_closed (by simp [hc])]
  simp [hc]

/-- A raw string that is closed stays so, whatever follows. -/
theorem read_append {t content rest : Text} (u : Text) (h : r.read t = some (content, rest)) :
    r.read (t ++ u) = some (content, rest ++ u) := by
  fun_induction read r t generalizing content with
  | case1 => cases h
  | case2 c t hp =>
    obtain ⟨rfl, rfl⟩ := Prod.mk.inj (Option.some.inj h)
    rw [List.isPrefixOf_iff_prefix] at hp
    rw [← List.drop_append_of_le_length hp.length_le]
    exact read_closed (hp.trans (List.prefix_append _ u))
  | case3 c he hp => cases h
  | case4 c he d t hp ih =>
    obtain ⟨p, hread, hcut⟩ := Option.map_eq_some_iff.mp h
    obtain ⟨rfl, rfl⟩ := Prod.mk.inj hcut
    have hlen := length_closing_le_of_read hread
    rw [List.isPrefixOf_iff_prefix] at hp
    have hstay : ¬ r.closing <+: c :: d :: t ++ u :=
      not_prefix_append hp (by simp only [List.length_cons]; omega)
    exact (read_escaped hstay he).trans (congrArg _ (ih hread))
  | case5 c t hp he ih =>
    obtain ⟨p, hread, hcut⟩ := Option.map_eq_some_iff.mp h
    obtain ⟨rfl, rfl⟩ := Prod.mk.inj hcut
    have hlen := length_closing_le_of_read hread
    rw [List.isPrefixOf_iff_prefix] at hp
    have hstay : ¬ r.closing <+: c :: t ++ u :=
      not_prefix_append hp (by simp only [List.length_cons]; omega)
    exact (read_plain hstay he).trans (congrArg _ (ih hread))

/-- A text in which no raw string is closed, and whose last code point has no part in closing one, is
all that the raw string holds. -/
theorem read_append_closing (hne : r.closing ≠ []) {t : Text} (rest : Text) (h : r.read t = none)
    (hlast : ∀ c, t.getLast? = some c → c ∉ r.closing ∧ r.escape ≠ some c) :
    r.read (t ++ (r.closing ++ rest)) = some (t, rest) := by
  fun_induction read r t with
  | case1 => exact read_closing hne rest
  | case2 c t hp => cases h
  | case3 c he hp => exact absurd he (hlast c rfl).2
  | case4 c he d t hp ih =>
    obtain ⟨l, hl⟩ : ∃ l, (c :: d :: t).getLast? = some l := ⟨_, List.getLast?_cons⟩
    rw [List.isPrefixOf_iff_prefix] at hp
    have hstay : ¬ r.closing <+: c :: d :: t ++ (r.closing ++ rest) :=
      not_prefix_append_of_last hp hl (hlast l hl).1
    have htail := ih (Option.map_eq_none_iff.mp h) fun l hl =>
        hlast l (by simp [List.getLast?_cons, hl])
    exact (read_escaped hstay he).trans (congrArg _ htail)
  | case5 c t hp he ih =>
    obtain ⟨l, hl⟩ : ∃ l, (c :: t).getLast? = some l := ⟨_, List.getLast?_cons⟩
    rw [List.isPrefixOf_iff_prefix] at hp
    have hstay : ¬ r.closing <+: c :: t ++ (r.closing ++ rest) :=
      not_prefix_append_of_last hp hl (hlast l hl).1
    have htail := ih (Option.map_eq_none_iff.mp h) fun l hl =>
        hlast l (by simp [List.getLast?_cons, hl])
    exact (read_plain hstay he).trans (congrArg _ htail)

/-- The raw strings in which a built-in template puts snippets. -/
def named? (template : Text) : Option RawSyntax :=
  if template = "rust" then some rust
  else if template = "pytest" then some python
  else none

/-- A template writes the snippet as a raw string, with texts before and after it. -/
structure Frames (r : RawSyntax) (template : Template) (lead trail : Text → Text) : Prop where
  writes : template.Writes (fun name => lead name ++ r.opening) (fun name => r.closing ++ trail name)
  opening : ∃ c mark, r.opening = c :: mark ∧ ∀ f : Fixture, c ∉ lead f.name
  closing : r.closing ≠ []
  last : ∀ t c, Corpus.isTerminated t = true → t.getLast? = some c → c ∉ r.closing ∧ r.escape ≠ some c

theorem Frames.literal?_stub {template : Template} {lead trail : Text → Text}
    (h : r.Frames template lead trail) (f : Fixture) :
    r.literal? (Template.stub (fun name => lead name ++ r.opening)
      (fun name => r.closing ++ trail name) f)
      = r.read (f.snippet ++ (r.closing ++ trail f.name)) := by
  obtain ⟨c, mark, ho, hc⟩ := h.opening
  rw [Template.stub, List.append_assoc, List.append_assoc]
  exact literal?_append ho (hc f)

theorem last_of_isTerminated {t : Text} {c : CodePoint} (h : Corpus.isTerminated t = true)
    (hc : t.getLast? = some c) :
    c = CodePoint.ofChar ';' ∨ c = CodePoint.ofChar '\x7d' := by
  obtain ⟨before, rfl | rfl⟩ := Corpus.isTerminated_iff.mp h <;> rw [List.getLast?_concat] at hc
  · exact Or.inl (Option.some.inj hc).symm
  · exact Or.inr (Option.some.inj hc).symm

set_option maxRecDepth 2000 in
theorem rust_frames : rust.Frames Template.rust
    (fun name => Text.ofString "#[test]\nfn " ++ name ++ Text.ofString "() \x7b\n    let js = ")
    (fun name => Text.ofString ";\n    run_test(\"" ++ name ++ Text.ofString "\", js);\n\x7d\n") where
  writes := {
    opening := fun name => by
      rw [Template.rust_writes.opening, List.append_assoc _ (Text.ofString "() \x7b\n    let js = ")]
      rfl
    closing := fun name => by
      rw [Template.rust_writes.closing]
      rfl }
  opening := by
    refine ⟨CodePoint.ofChar 'r', Text.ofString "#\"", rfl, fun f hc => ?_⟩
    simp only [List.mem_append] at hc
    rcases hc with (hc | hc) | hc
    · exact absurd hc (by decide)
    · exact Template.not_mem_name (by decide) (by decide) hc
    · exact absurd hc (by decide)
  closing := by decide
  last t c h hc := by
    rcases last_of_isTerminated h hc with rfl | rfl <;> decide

set_option maxRecDepth 2000 in
theorem python_frames : python.Frames Template.pytest
    (fun name => Text.ofString "def " ++ name ++ Text.ofString "():\n    js = ")
    (fun name => Text.ofString "\n    run_test(\"" ++ name ++ Text.ofString "\", js)\n\n\n") where
  writes := {
    opening := fun name => by
      rw [Template.pytest_writes.opening, List.append_assoc _ (Text.ofString "():\n    js = ")]
      rfl
    closing := fun name => by
      rw [Template.pytest_writes.closing]
      rfl }
  opening := by
    refine ⟨CodePoint.ofChar 'r', Text.ofString "\"\"\"", rfl, fun f hc => ?_⟩
    simp only [List.mem_append] at hc
    rcases hc with (hc | hc) | hc
    · exact absurd hc (by decide)
    · exact Template.not_mem_name (by decide) (by decide) hc
    · exact absurd hc (by decide)
  closing := by decide
  last t c h hc := by
    rcases last_of_isTerminated h hc with rfl | rfl <;> decide

theorem isTerminated_of_mem_segment {corpus : Text} {f : Fixture} (hf : f ∈ Corpus.segment corpus) :
    Corpus.isTerminated f.snippet = true := by
  obtain ⟨snippets, hsegment, hs⟩ := Corpus.exists_snippets corpus
  rw [hsegment] at hf
  have hmem := List.mem_map_of_mem (f := Fixture.snippet) hf
  rw [Corpus.number_snippets] at hmem
  exact (hs f.snippet hmem).terminated

theorem Frames.literal?_renderFixture {template : Template} {lead trail : Text → Text}
    (h : r.Frames template lead trail) {corpus : Text} {f : Fixture} (hf : f ∈ Corpus.segment corpus) :
    ∃ stub trail, template.renderFixture f = .ok stub ∧
      Template.fill f.name template.closing = .ok (r.closing ++ trail) ∧
      (r.literal? stub = some (f.snippet, trail) ↔ r.read f.snippet = none) ∧
      ∀ content rest, r.read f.snippet = some (content, rest) →
        r.literal? stub = some (content, rest ++ (r.closing ++ trail)) ∧
          f.snippet = content ++ r.closing ++ rest := by
  have ht := isTerminated_of_mem_segment hf
  refine ⟨_, trail f.name, h.writes.renderFixture f, h.writes.closing f.name,
    ⟨fun hl => ?_, fun hr => ?_⟩, ?_⟩
  · rw [h.literal?_stub] at hl
    cases hr : r.read f.snippet with
    | none => rfl
    | some p =>
      -- The end inside the snippet would leave more behind it than the text after the snippet.
      have hread : r.read f.snippet = some (p.1, p.2) := hr
      rw [read_append _ hread] at hl
      have hcut := (Prod.mk.inj (Option.some.inj hl)).2
      have hclosing := List.length_pos_iff.mpr h.closing
      have hlen := congrArg List.length hcut
      simp only [List.length_append] at hlen
      omega
  · rw [h.literal?_stub]
    exact read_append_closing h.closing _ hr fun c hc => h.last _ c ht hc
  · intro content rest hr
    rw [h.literal?_stub]
    exact ⟨read_append _ hr, eq_append_of_read hr⟩

/-- The raw string in the stub of a fixture holds the snippet, and ends where the template goes on,
exactly if nothing in the snippet closes a raw string. Otherwise it ends at the first such place. -/
theorem literal?_of_mem_segment {name corpus : Text} {template : Template}
    (ht : Template.named? name = some template)
    (hr : named? name = some r) {f : Fixture} (hf : f ∈ Corpus.segment corpus) :
    ∃ stub trail, template.renderFixture f = .ok stub ∧
      Template.fill f.name template.closing = .ok (r.closing ++ trail) ∧
      (r.literal? stub = some (f.snippet, trail) ↔ r.read f.snippet = none) ∧
      ∀ content rest, r.read f.snippet = some (content, rest) →
        r.literal? stub = some (content, rest ++ (r.closing ++ trail)) ∧
          f.snippet = content ++ r.closing ++ rest := by
  unfold Template.named? at ht
  unfold named? at hr
  by_cases hrust : name = "rust"
  · rw [if_pos hrust] at ht hr
    cases ht
    cases hr
    exact rust_frames.literal?_renderFixture hf
  · rw [if_neg hrust] at ht hr
    by_cases hpytest : name = "pytest"
    · rw [if_pos hpytest] at ht hr
      cases ht
      cases hr
      exact python_frames.literal?_renderFixture hf
    · rw [if_neg hpytest] at ht
      cases ht

theorem literal?_of_mem_segment_escaped_quote :
    ∃ f ∈ Corpus.segment "s = '\\\"\"\"';", ∃ stub trail, Template.pytest.renderFixture f = .ok stub ∧
      python.literal? stub = some (f.snippet, trail) := by
  have hf : ⟨1, "s = '\\\"\"\"';"⟩ ∈ Corpus.segment "s = '\\\"\"\"';" := by decide +kernel
  have ht : Template.named? "pytest" = some Template.pytest := by decide +kernel
  have hr : named? "pytest" = some python := by decide +kernel
  have hnone : python.read "s = '\\\"\"\"';" = none := by decide +kernel
  obtain ⟨stub, trail, hstub, -, hread, -⟩ := literal?_of_mem_segment ht hr hf
  exact ⟨_, hf, stub, trail, hstub, hread.mpr hnone⟩

/-- A string with a hash at its start closes the raw string in a stub for Rust, and a string of three
quotes closes the one in a stub for Python. -/
theorem literal?_cut_by_snippet :
    (∃ f ∈ Corpus.segment "var s = \"#\";", ∃ stub, Template.rust.renderFixture f = .ok stub ∧
      ∃ content rest, rust.literal? stub = some (content, rest) ∧ content ≠ f.snippet) ∧
    ∃ f ∈ Corpus.segment "s = '\"\"\"';", ∃ stub, Template.pytest.renderFixture f = .ok stub ∧
      ∃ content rest, python.literal? stub = some (content, rest) ∧ content ≠ f.snippet := by
  constructor
  · have hf : ⟨1, "var s = \"#\";"⟩ ∈ Corpus.segment "var s = \"#\";" := by decide +kernel
    have hread : rust.read "var s = \"#\";" =
        some (Text.ofString "var s = ", Text.ofString "\";") := by decide +kernel
    obtain ⟨stub, trail, hstub, -, -, hcut⟩ := rust_frames.literal?_renderFixture hf
    exact ⟨_, hf, stub, hstub, _, _, (hcut _ _ hread).1, by decide +kernel⟩
  · have hf : ⟨1, "s = '\"\"\"';"⟩ ∈ Corpus.segment "s = '\"\"\"';" := by decide +kernel
    have hread : python.read "s = '\"\"\"';" =
        some (Text.ofString "s = '", Text.ofString "';") := by decide +kernel
    obtain ⟨stub, trail, hstub, -, -, hcut⟩ := python_frames.literal?_renderFixture hf
    exact ⟨_, hf, stub, hstub, _, _, (hcut _ _ hread).1, by decide +kernel⟩

end RawSyntax

end ScriptTree
