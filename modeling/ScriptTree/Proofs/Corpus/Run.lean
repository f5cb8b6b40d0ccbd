import ScriptTree.Corpus.Run
import ScriptTree.Proofs.Corpus.Stub
import ScriptTree.Proofs.Files.Writing
import ScriptTree.Proofs.Text.Utf8

namespace ScriptTree

theorem CodePoint.not_isSurrogate_of_lt {c : CodePoint} (h : c.val < 128) : ¬ c.IsSurrogate := by
  unfold CodePoint.IsSurrogate
  omega

namespace Template

open Corpus

variable {template : Template} {before after : Text → Text}

theorem val_lt_of_mem_name {f : Fixture} {c : CodePoint} (h : c ∈ f.name) : c.val < 128 := by
  have hnumeric : Token.isNumeric c = true → c.val < 128 := by
    intro hn
    simp only [Token.isNumeric, CodePoint.isDigit, Bool.or_eq_true, Bool.and_eq_true,
      decide_eq_true_eq] at hn
    rcases hn with ((((⟨-, hn⟩ | rfl) | rfl) | rfl) | rfl) | rfl
    · omega
    all_goals decide
  rcases List.mem_append.mp h with h | h
  · have htest : ∀ c ∈ Text.ofString "test", c.val < 128 := by decide
    exact htest c h
  · exact hnumeric (Double.isNumeric_of_mem_ofInt c h)

/-- A built-in template writes ASCII around a snippet. -/
theorem exists_writes {name : Text} (h : named? name = some template) :
    ∃ before after, template.Writes before after ∧
      ∀ f : Fixture, ∀ c ∈ before f.name ++ after f.name, c.val < 128 := by
  have hname : ∀ f : Fixture, ∀ c ∈ f.name, c.val < 128 := fun _ _ hc => val_lt_of_mem_name hc
  rcases eq_of_named? h with rfl | rfl
  · refine ⟨_, _, rust_writes, fun f => ?_⟩
    simp only [List.forall_mem_append]
    exact ⟨⟨⟨by decide, hname f⟩, by decide⟩, ⟨by decide, ⟨by decide, hname f⟩, by decide⟩⟩
  · refine ⟨_, _, pytest_writes, fun f => ?_⟩
    simp only [List.forall_mem_append]
    exact ⟨⟨⟨by decide, hname f⟩, by decide⟩, ⟨⟨by decide, hname f⟩, by decide⟩⟩

/-- The stubs of a corpus without surrogate halves are made and encoded by every built-in template. -/
theorem exists_encoded_stubs {name : Text} (h : named? name = some template) {corpus : Text}
    (hcorpus : ∀ c ∈ corpus, ¬ c.IsSurrogate) :
    ∃ stubs bytes, template.render (segment corpus) = .ok stubs ∧ Utf8.encode? stubs = some bytes := by
  obtain ⟨before, after, hwrites, hascii⟩ := exists_writes h
  have hstubs : ∀ c ∈ (segment corpus).flatMap (stub before after), ¬ c.IsSurrogate := by
    intro c hc
    obtain ⟨f, hf, hc⟩ := List.mem_flatMap.mp hc
    simp only [stub, List.mem_append] at hc
    rcases hc with (hc | hc) | hc
    · exact CodePoint.not_isSurrogate_of_lt (hascii f c (List.mem_append_left _ hc))
    · rcases mem_corpus_of_mem_snippet hf hc with hc | rfl
      · exact hcorpus c hc
      · decide
    · exact CodePoint.not_isSurrogate_of_lt (hascii f c (List.mem_append_right _ hc))
  obtain ⟨bytes, hbytes⟩ := Utf8.exists_encode?_iff.mpr hstubs
  exact ⟨_, bytes, hwrites.render _, hbytes⟩

end Template

namespace FileSystem

open Corpus

variable {fs opened : FileSystem} {settings : Settings} {template : Template} {corpus : Text}

/-- The source of a run can be named, and its bytes are those of a text. -/
def Supplies (fs : FileSystem) (settings : Settings) (corpus : Text) : Prop :=
  (Path.ofText settings.source).text.pathFlaw? = none ∧
    ∃ bytes, fs.read (Path.ofText settings.source).text = .ok bytes ∧ Utf8.encode? corpus = some bytes

theorem source_eq_ok : fs.source (Path.ofText settings.source) = .ok corpus ↔
    fs.Supplies settings corpus := by
  rw [FileSystem.source, Supplies, readText]
  cases (Path.ofText settings.source).text.pathFlaw? with
  | some flaw => simp
  | none =>
    cases fs.read (Path.ofText settings.source).text with
    | error e => simp
    | ok bytes =>
      simp only [Except.ok.injEq, true_and, exists_eq_left', ← Utf8.decode_eq_ok_iff]
      cases Utf8.decode bytes <;> simp

theorem Supplies.not_isSurrogate (h : fs.Supplies settings corpus) : ∀ c ∈ corpus, ¬ c.IsSurrogate := by
  obtain ⟨-, bytes, -, hbytes⟩ := h
  exact Utf8.exists_encode?_iff.mp ⟨bytes, hbytes⟩

/-- Once the output file has been emptied, the stubs are made, encoded and written. -/
theorem segment_of_opened (htemplate : Template.named? settings.template = some template)
    (hsource : fs.Supplies settings corpus) (hflaw : settings.output.pathFlaw? = none)
    (hopened : fs.write settings.output [] = .ok opened) :
    ∃ stubs bytes after, template.render (Corpus.segment corpus) = .ok stubs ∧
      Utf8.encode? stubs = some bytes ∧
      fs.write settings.output bytes = .ok after ∧
      fs.segment settings = (.ok (Corpus.segment corpus).length, after) := by
  obtain ⟨stubs, bytes, hstubs, hbytes⟩ :=
    Template.exists_encoded_stubs htemplate hsource.not_isSurrogate
  obtain ⟨after, hafter⟩ := exists_write_of_write hopened bytes
  refine ⟨stubs, bytes, after, hstubs, hbytes, hafter, ?_⟩
  have hwrite : opened.write settings.output bytes = .ok after :=
    (write_of_write hopened bytes).trans hafter
  simp only [FileSystem.segment, htemplate, source_eq_ok.mpr hsource, hflaw, hopened, fillOutput,
    hstubs, hbytes, hwrite]

/-- Why a run fails: by the first of its template, its source and its output file that it cannot
have. -/
inductive Refuses (fs : FileSystem) (settings : Settings) : RunFailure → Prop where
  | template (h : Template.named? settings.template = none) :
    Refuses fs settings (.unknownTemplate settings.template)
  | sourceName {flaw : PathFlaw} (h : (Path.ofText settings.source).text.pathFlaw? = some flaw) :
    Refuses fs settings (.source (.path flaw))
  | sourceFile {e : FileError} (h : fs.read (Path.ofText settings.source).text = .error e) :
    Refuses fs settings (.source (.read ⟨(Path.ofText settings.source).text, .file e⟩))
  | sourceBytes {bytes : List UInt8} {e : Utf8.DecodeError}
    (h : fs.read (Path.ofText settings.source).text = .ok bytes)
    (hbytes : ∀ t, Utf8.encode? t ≠ some bytes) :
    Refuses fs settings (.source (.read ⟨(Path.ofText settings.source).text, .encoding e⟩))
  | outputName {corpus : Text} {flaw : PathFlaw} (hsource : fs.Supplies settings corpus)
    (h : settings.output.pathFlaw? = some flaw) : Refuses fs settings (.path flaw)
  | outputFile {corpus : Text} {e : FileError} (hsource : fs.Supplies settings corpus)
    (h : fs.write settings.output [] = .error e) : Refuses fs settings (.output e)

theorem refuses_of_source {e : SourceError} (h : fs.source (Path.ofText settings.source) = .error e) :
    Refuses fs settings (.source e) := by
  rw [FileSystem.source, readText] at h
  cases hflaw : (Path.ofText settings.source).text.pathFlaw? with
  | some flaw =>
    rw [hflaw] at h
    cases h
    exact .sourceName hflaw
  | none =>
    rw [hflaw] at h
    cases hread : fs.read (Path.ofText settings.source).text with
    | error e =>
      rw [hread] at h
      cases h
      exact .sourceFile hread
    | ok bytes =>
      rw [hread] at h
      cases hdecode : Utf8.decode bytes with
      | ok t => simp [hdecode] at h
      | error e =>
        simp only [hdecode, Except.error.injEq] at h
        subst h
        refine .sourceBytes hread fun t ht => ?_
        rw [Utf8.decode_eq_ok_iff.mpr ht] at hdecode
        cases hdecode

/-- A run is refused and leaves all files as they were, or does no more than write its stubs. -/
theorem segment_cases (fs : FileSystem) (settings : Settings) :
    (∃ failure, fs.segment settings = (.error failure, fs) ∧ Refuses fs settings failure) ∨
      ∃ template corpus stubs bytes after, Template.named? settings.template = some template ∧
        fs.Supplies settings corpus ∧ template.render (Corpus.segment corpus) = .ok stubs ∧
        Utf8.encode? stubs = some bytes ∧ fs.write settings.output bytes = .ok after ∧
        fs.segment settings = (.ok (Corpus.segment corpus).length, after) := by
  cases htemplate : Template.named? settings.template with
  | none =>
    refine Or.inl ⟨_, ?_, .template htemplate⟩
    simp only [FileSystem.segment, htemplate]
  | some template =>
    cases hsource : fs.source (Path.ofText settings.source) with
    | error e =>
      refine Or.inl ⟨_, ?_, refuses_of_source hsource⟩
      simp only [FileSystem.segment, htemplate, hsource]
    | ok corpus =>
      have hsupplies := source_eq_ok.mp hsource
      cases hflaw : settings.output.pathFlaw? with
      | some flaw =>
        refine Or.inl ⟨_, ?_, .outputName hsupplies hflaw⟩
        simp only [FileSystem.segment, htemplate, hsource, hflaw]
      | none =>
        cases hopened : fs.write settings.output [] with
        | error e =>
          refine Or.inl ⟨_, ?_, .outputFile hsupplies hopened⟩
          simp only [FileSystem.segment, htemplate, hsource, hflaw, hopened]
        | ok opened =>
          obtain ⟨stubs, bytes, after, hdone⟩ := segment_of_opened htemplate hsupplies hflaw hopened
          exact Or.inr ⟨template, corpus, stubs, bytes, after, rfl, hsupplies, hdone⟩

/-- A run of the segmenter is all or nothing. Either it fails because it cannot have its template,
its source or its output file, and leaves all files as they were; or it tells the number of fixtures
of the text whose bytes its source holds, and does no more than write the stubs of these fixtures to
its output file, even if that is its source. -/
theorem segment_all_or_nothing (fs : FileSystem) (settings : Settings) :
    (∃ failure, fs.segment settings = (.error failure, fs) ∧ Refuses fs settings failure) ∨
      ∃ template corpus stubs bytes after, Template.named? settings.template = some template ∧
        fs.Supplies settings corpus ∧ template.render (Corpus.segment corpus) = .ok stubs ∧
        Utf8.encode? stubs = some bytes ∧ fs.write settings.output bytes = .ok after ∧
        fs.segment settings = (.ok (Corpus.segment corpus).length, after) ∧
        after.read settings.output = .ok bytes ∧
        ∀ place, place ≠ fs.resolve (Path.ofText settings.output) →
          after.top.contentAt? place = fs.top.contentAt? place := by
  rcases segment_cases fs settings with hrefused |
    ⟨template, corpus, stubs, bytes, after, htemplate, hsource, hstubs, hbytes, hafter, hrun⟩
  · exact Or.inl hrefused
  · refine Or.inr ⟨template, corpus, stubs, bytes, after, htemplate,
      hsource, hstubs, hbytes, hafter, hrun,
      read_of_write hafter, fun place hplace => ?_⟩
    exact (Keeps.of_write hafter).1.content place (by simpa using hplace)

/-- A source that cannot be opened since half of a surrogate pair stands in its name is no read
error. -/
theorem segment_unnameable_source :
    let fs : FileSystem := ⟨.directory [("a.js", .file [0x61, 0x3B, 0x0A])], []⟩
    let settings : Settings := ⟨[CodePoint.ofNat 0xD800], "o.rs", "rust"⟩
    (∀ c ∈ settings.source ++ settings.output, c.val ≠ 0) ∧
      ∃ failure, fs.segment settings = (.error failure, fs) ∧
        (∀ name, failure ≠ .unknownTemplate name) ∧
        (∀ e, failure ≠ .source (.read e)) ∧ ∀ e, failure ≠ .output e := by
  intro fs settings
  have hflaw : (Path.ofText settings.source).text.pathFlaw? =
      some (.surrogate (CodePoint.ofNat 0xD800) 0 0) := by
    decide +kernel
  have htemplate : Template.named? settings.template = some Template.rust := by decide +kernel
  refine ⟨by decide +kernel, .source (.path (.surrogate (CodePoint.ofNat 0xD800) 0 0)),
    ?_, by simp, by simp, by simp⟩
  simp only [FileSystem.segment, htemplate, FileSystem.source, hflaw]

end FileSystem

end ScriptTree
