import ScriptTree.Proofs.Command.Reading
import ScriptTree.Proofs.Command.Saving
import ScriptTree.Proofs.Dump.Schedule
import ScriptTree.Proofs.Text.Surrogates

namespace ScriptTree

section Dump

variable {parser : SourceParser} {fs : FileSystem}

/-- Dumps hold no surrogate halves. -/
theorem FileSystem.not_isSurrogate_of_dump {t text : Text} (h : fs.dump parser t = .ok text) :
    ∀ c ∈ text, ¬ c.IsSurrogate := by
  unfold FileSystem.dump dumpRead at h
  cases htree : SyntaxTree.ofRead parser t (fs.sourceAt t) with
  | error e =>
    rw [htree] at h
    cases h
  | ok tree =>
    simp only [htree, bind, Except.bind] at h
    cases hencode : tree.root.encode with
    | error e => simp [Value.serialize, hencode, bind, Except.bind] at h
    | ok document =>
      simp only [Value.serialize, hencode, bind, Except.bind, Except.ok.injEq] at h
      subst h
      exact fun c hc => Text.not_isSurrogate_of_mem_escapeSurrogates hc

/-- A dump fails by its source only where there is no source text. -/
theorem dumpRead_eq_source {t : Text} {read : Except SourceError Text} {e : SourceError}
    (h : dumpRead parser t read = .error (.source e)) : read = .error e := by
  cases read with
  | error other =>
    cases h
    rfl
  | ok source =>
    unfold dumpRead SyntaxTree.ofRead at h
    simp only [Except.mapError, bind, Except.bind, SyntaxTree.ofText] at h
    split at h
    next cause htree =>
      split at htree
      next => cases htree; cases h
      next => cases htree; cases h
      next => split at htree <;> cases htree; cases h
    next => split at h <;> cases h

/-- A failure that goes by no name is that of a parser that gave up, if the source can be named at
all. -/
theorem FileSystem.gaveUp_of_dump {p : Path} (hp : p.IsNameable) {e : DumpFailure}
    (h : fs.dump parser p.text = .error e) (hlabel : e.label? = none) :
      ∃ failure, e = .gaveUp failure := by
  cases e with
  | source cause =>
    cases cause with
    | read error => cases hlabel
    | path flaw =>
      have hread := dumpRead_eq_source h
      have hunit : (SourceUnit.ofText p.text).path = p := Path.ofText_text hp.proper
      rw [FileSystem.sourceAt, hunit, FileSystem.source, hp.pathFlaw?_text] at hread
      simp only at hread
      split at hread <;> cases hread
  | syntaxFault fault => cases hlabel
  | noProgram kind => cases hlabel
  | encode error => cases hlabel
  | gaveUp failure => exact ⟨failure, rfl⟩

/-- How the parser gave up, if a dump failed by that. -/
def gaveUp? : Except DumpFailure Text → Option ParseFailure
  | .error (.gaveUp failure) => some failure
  | _ => none

theorem gaveUp?_eq_some {dump : Except DumpFailure Text} {failure : ParseFailure} :
    gaveUp? dump = some failure ↔ dump = .error (.gaveUp failure) := by
  unfold gaveUp?
  split
  next other => simp
  next hnot =>
    simp only [reduceCtorEq, false_iff]
    exact hnot failure

end Dump

namespace Command

variable {root : Path}

/-- The row of a failure tells the path of its source below a root, its name and what it says. -/
def Failure.IsRow (root : Path) (f : Failure) (row : Row) : Prop :=
  ∃ names, f.source = root.append names ∧ row = ⟨Path.text ⟨.relative, names⟩, f.label, f.message⟩

theorem Failure.exists_row {f : Failure} (h : f.source.LiesBelow root) :
    ∃ row, f.row root = .ok row ∧ f.IsRow root row := by
  obtain ⟨names, last, hsource, -⟩ := h
  refine ⟨_, ?_, _, hsource, rfl⟩
  rw [Failure.row, hsource, Path.relativeTo_append]
  rfl

/-- Failures of sources below a root have rows. -/
theorem exists_rows {failures : List Failure} (h : ∀ f ∈ failures, f.source.LiesBelow root) :
    ∃ table, failures.mapM (Failure.row root) = .ok table ∧
      List.Forall₂ (Failure.IsRow root) failures table := by
  induction failures with
  | nil => exact ⟨[], rfl, .nil⟩
  | cons f failures ih =>
    obtain ⟨hhere, hlater⟩ := List.forall_mem_cons.mp h
    obtain ⟨row, hrow, hisRow⟩ := Failure.exists_row hhere
    obtain ⟨table, htable, hall⟩ := ih hlater
    refine ⟨row :: table, ?_, .cons hisRow hall⟩
    rw [List.mapM_cons, hrow, htable]
    rfl

namespace Outcome

variable {services : Services} {parser : SourceParser} {fs : FileSystem} {output : Path}
  {sources settled : List Path} {dump : Path → Except DumpFailure Text}

/-- The dump of the source at a path. -/
def dumpOf (parser : SourceParser) (fs : FileSystem) (source : Path) : Except DumpFailure Text :=
  fs.dump parser source.text

/-- What is told before anything is written: the number of sources and their paths. -/
def announcement (root : Path) (sources : List Path) : List Message :=
  .heading root.text sources.length :: sources.map fun source => .echo source.text

/-- What is told in the end: the number of dumps, and the rows of the failures if there are any. -/
def account (output : Path) (count : Nat) (table : List Row) : List Message :=
  .written output.text count :: if table.isEmpty then [] else [.failures table]

theorem ofParseDir_of_scan (hscan : fs.scan root = .ok sources) (hne : sources ≠ []) :
    ofParseDir parser fs root output = ofReport root output sources.length (announcement root sources)
      (saveAll root output (sources.map fun source => (source, dumpOf parser fs source)) fs) := by
  have hperm : (List.range (sources.map Path.text).length).Perm
      (List.range (sources.map Path.text).length) := .refl _
  have hresults : (DumpRun.inOrder parser fs (sources.map Path.text)
      (List.range (sources.map Path.text).length)).results? =
        some (sources.map (dumpOf parser fs)) := by
    rw [DumpRun.results?_inOrder hperm, List.map_map]
    rfl
  have hzip : sources.zip (sources.map (dumpOf parser fs))
      = sources.map fun source => (source, dumpOf parser fs source) :=
    List.map_prod_left_eq_zip.symm
  have hecho : (sources.map Path.text).map Message.echo =
      sources.map fun source => .echo source.text := by
    rw [List.map_map]
    rfl
  obtain ⟨first, others, rfl⟩ := List.exists_cons_of_ne_nil hne
  simp only [ofParseDir, hscan, hresults, DumpRun.announcements_inOrder hperm, Option.getD_some,
    hzip, hecho, announcement]

section Report

variable {count : Nat} {told : List Message} {report : Report}

theorem files_ofReport (root output : Path) (count : Nat) (told : List Message) (report : Report) :
    (ofReport root output count told report).files = report.files := by
  unfold ofReport
  split
  next => rfl
  next =>
    split
    next => rfl
    next => split <;> rfl

/-- A command ends with a refused operation exactly if writing did. -/
theorem ending_ofReport {e : FileError} :
    (ofReport root output count told report).ending = .escape (.file e) ↔
      report.escape = some (.file e) := by
  unfold ofReport
  split
  next other hother => simp [hother]
  next hnone =>
    rw [hnone]
    split
    next => simp [plain]
    next => split <;> simp [plain]

theorem ending_ne_of_isNone (h : report.escape.isNone) (e : FileError) :
    (ofReport root output count told report).ending ≠ .escape (.file e) := by
  rw [ne_eq, ending_ofReport, Option.isNone_iff_eq_none.mp h]
  simp

/-- A report on everything leads to an account of it. -/
theorem ofReport_finished (h : report.escape = none)
    (hbelow : ∀ f ∈ report.failures, f.source.LiesBelow root) :
    ∃ table, List.Forall₂ (Failure.IsRow root) report.failures table ∧
      (ofReport root output count told report).ending = .exit (if table.isEmpty then 0 else 1) ∧
      (ofReport root output count told report).stderr =
        told ++ account output (count - report.failures.length) table := by
  obtain ⟨table, htable, hall⟩ := exists_rows hbelow
  refine ⟨table, hall, ?_⟩
  unfold ofReport
  simp only [h]
  split
  next hfailures =>
    rw [hfailures] at hall
    cases hall
    exact ⟨rfl, rfl⟩
  next hfailures =>
    cases table with
    | nil =>
      cases hfailures (List.forall₂_nil_right_iff.mp hall)
    | cons row table =>
      rw [htable]
      simp [plain, account]

/-- A report on all sources gives the numbers of the dumps and of the rows, and the rows. -/
theorem ofReport_account (h : report.escape = none) (hfailures : report.failures = rows dump sources)
    (hnamed : ∀ source ∈ sources, ∀ e, dump source = .error e → ∃ label, e.label? = some label)
    (hbelow : ∀ source ∈ sources, source.LiesBelow root) :
    ∃ table, List.Forall₂ (Failure.IsRow root) (rows dump sources) table ∧
      (ofReport root output sources.length told report).ending =
        .exit (if table.isEmpty then 0 else 1) ∧
      (ofReport root output sources.length told report).stderr =
        told ++ account output (dumped dump sources).length table := by
  have hsizes := length_dumped_add_length_rows hnamed
  have hcount : sources.length - (rows dump sources).length = (dumped dump sources).length := by omega
  have hfailed : ∀ f ∈ report.failures, f.source.LiesBelow root := by
    rw [hfailures]
    exact fun f hf => hbelow _ (mem_rows.mp hf).1
  obtain ⟨table, hall, hending, hstderr⟩ :=
    @ofReport_finished root output sources.length told report h hfailed
  rw [hfailures] at hall hstderr
  rw [hcount] at hstderr
  exact ⟨table, hall, hending, hstderr⟩

end Report

theorem ofArguments_of_read {arguments : List Text} {source output : Text}
    (h : services.read fs arguments = .ok (.parseDir source output)) :
    ofArguments services fs arguments =
      ofParseDir services.parser fs (Path.ofText source) (Path.ofText output) := by
  rw [ofArguments, h]
  rfl

end Outcome

end Command

end ScriptTree
