import ScriptTree.Command.Outcome
import ScriptTree.Proofs.Files.Mirror
import ScriptTree.Proofs.Text.Utf8

namespace ScriptTree

namespace Command

variable {fs after files : FileSystem} {root output source : Path} {sources settled : List Path}
  {dump : Path → Except DumpFailure Text} {failures : List Failure}

/-- The row of a source, if its failure goes by a name. -/
def failure? (dump : Path → Except DumpFailure Text) (source : Path) : Option Failure :=
  match dump source with
  | .ok _ => none
  | .error e => e.label?.map fun label => ⟨source, label, e.message⟩

/-- The rows of the sources whose failures go by a name, in order. -/
def rows (dump : Path → Except DumpFailure Text) (sources : List Path) : List Failure :=
  sources.filterMap (failure? dump)

/-- The sources that have a dump, in order. -/
def dumped (dump : Path → Except DumpFailure Text) (sources : List Path) : List Path :=
  sources.filter fun source => (dump source).isOk

/-- The place to which the dump of a source goes, if it has one. -/
def dumpPlace? (fs : FileSystem) (root output : Path) (dump : Path → Except DumpFailure Text)
    (source : Path) : Option (List Text) :=
  match dump source with
  | .ok _ => (source.mirror root output).toOption.map fs.resolve
  | .error _ => none

theorem mem_rows {row : Failure} :
    row ∈ rows dump sources ↔
      row.source ∈ sources ∧ ∃ e, dump row.source = .error e ∧
        e.label? = some row.label ∧ row.message = e.message := by
  rw [rows, List.mem_filterMap]
  constructor
  · rintro ⟨source, hsource, hrow⟩
    unfold failure? at hrow
    split at hrow
    next => cases hrow
    next e he =>
      obtain ⟨label, hlabel, rfl⟩ := Option.map_eq_some_iff.mp hrow
      exact ⟨hsource, e, he, hlabel, rfl⟩
  · rintro ⟨hsource, e, he, hlabel, hmessage⟩
    refine ⟨row.source, hsource, ?_⟩
    simp only [failure?, he, hlabel, Option.map_some, ← hmessage]

theorem source_ne_of_mem_rows {row : Failure} {text : Text} (h : row ∈ rows dump sources)
    (hdump : dump source = .ok text) : row.source ≠ source := by
  rintro rfl
  obtain ⟨-, e, he, -⟩ := mem_rows.mp h
  cases hdump.symm.trans he

theorem mem_dumped : source ∈ dumped dump sources ↔ source ∈ sources ∧
    ∃ text, dump source = .ok text := by
  rw [dumped, List.mem_filter]
  cases dump source <;> simp [Except.isOk, Except.toBool]

theorem rows_cons_of_ok {text : Text} (hdump : dump source = .ok text) :
    rows dump (source :: sources) = rows dump sources :=
  List.filterMap_cons_none (by simp only [failure?, hdump])

theorem rows_cons_of_named {e : DumpFailure} {label : Text} (hdump : dump source = .error e)
    (hlabel : e.label? = some label) :
    rows dump (source :: sources) = ⟨source, label, e.message⟩ :: rows dump sources :=
  List.filterMap_cons_some (by simp only [failure?, hdump, hlabel, Option.map_some])

theorem dumped_cons_of_ok {text : Text} (hdump : dump source = .ok text) :
    dumped dump (source :: sources) = source :: dumped dump sources :=
  List.filter_cons_of_pos (by rw [hdump]; rfl)

theorem dumped_cons_of_error {e : DumpFailure} (hdump : dump source = .error e) :
    dumped dump (source :: sources) = dumped dump sources :=
  List.filter_cons_of_neg (by rw [hdump]; exact Bool.false_ne_true)

theorem length_dumped_add_length_rows
    (hnamed : ∀ source ∈ sources, ∀ e, dump source = .error e → ∃ label, e.label? = some label) :
    (dumped dump sources).length + (rows dump sources).length = sources.length := by
  induction sources with
  | nil => rfl
  | cons source sources ih =>
    obtain ⟨hhere, hlater⟩ := List.forall_mem_cons.mp hnamed
    have hrest := ih hlater
    cases hdump : dump source with
    | ok text =>
      rw [dumped_cons_of_ok hdump, rows_cons_of_ok hdump, List.length_cons, List.length_cons]
      omega
    | error e =>
      obtain ⟨label, hlabel⟩ := hhere e hdump
      rw [dumped_cons_of_error hdump, rows_cons_of_named hdump hlabel, List.length_cons,
        List.length_cons]
      omega

theorem dumpPlace?_eq_some {place : List Text} :
    dumpPlace? fs root output dump source = some place ↔
      ∃ text target, dump source = .ok text ∧ source.mirror root output = .ok target ∧
        fs.resolve target = place := by
  unfold dumpPlace?
  cases dump source with
  | error e => simp
  | ok text => cases source.mirror root output <;> simp [Except.toOption]

theorem dumpPlace?_keeps {places : List (List Text)} (h : fs.Keeps places after) :
    dumpPlace? after root output dump = dumpPlace? fs root output dump := by
  have hresolve : after.resolve = fs.resolve := funext h.resolve
  funext source
  rw [dumpPlace?, dumpPlace?, hresolve]

/-- A dump with a line end can be encoded. -/
theorem exists_encode?_line {text : Text} (htext : ∀ c ∈ text, ¬ c.IsSurrogate) :
    ∃ bytes, Utf8.encode? (text ++ "\n") = some bytes := by
  refine Utf8.exists_encode?_iff.mpr fun c hc => ?_
  rcases List.mem_append.mp hc with hc | hc
  · exact htext c hc
  · rw [List.mem_singleton.mp hc]
    decide

/-- Emptying a file before its text is encoded makes no difference if the text can be encoded. -/
theorem writeText_eq {file text : Text} {bytes : List UInt8} (hbytes : Utf8.encode? text = some bytes)
    (h : fs.write file bytes = .ok after) : writeText fs file text = (after, none) := by
  obtain ⟨opened, hopened⟩ := FileSystem.exists_write_of_write h []
  have hwrite : opened.write file bytes = .ok after := (FileSystem.write_of_write hopened bytes).trans h
  simp only [writeText, hopened, hbytes, hwrite]

/-- Writing a dump meets a refused operation, or puts the dump where the image of the source leads. -/
theorem saveDump_cases (fs : FileSystem) (hout : output.IsNameable)
    (hbelow : source.LiesBelow root) {text : Text} (htext : ∀ c ∈ text, ¬ c.IsSurrogate) :
    (∃ files e, saveDump root output source text fs = (files, some (.file e))) ∨
      ∃ files target bytes, saveDump root output source text fs = (files, none) ∧
        source.mirror root output = .ok target ∧ target.IsTarget ∧
          Utf8.encode? (text ++ "\n") = some bytes ∧
        fs.Keeps [fs.resolve target] files ∧ files.Holds target bytes := by
  obtain ⟨target, hmirror, htarget⟩ := hbelow.mirror hout
  obtain ⟨bytes, hbytes⟩ := exists_encode?_line htext
  simp only [saveDump, hmirror, htarget.nameable.pathFlaw?_text]
  cases hmake : FileSystem.makeDirectories target.names.length fs target.parent with
  | error e => exact Or.inl ⟨_, _, rfl⟩
  | ok made =>
    have hmade := FileSystem.Keeps.of_makeDirectories hmake
    cases hopened : made.write target.text [] with
    | error e =>
      refine Or.inl ⟨made, e, ?_⟩
      simp only [writeText, hopened]
    | ok opened =>
      obtain ⟨files, hwrite⟩ := FileSystem.exists_write_of_write hopened bytes
      obtain ⟨hkeeps, hholds⟩ := FileSystem.Keeps.of_write hwrite
      rw [Path.ofText_text htarget.nameable.proper] at hkeeps hholds
      rw [hmade.resolve] at hkeeps
      exact Or.inr ⟨files, target, bytes, writeText_eq hbytes hwrite,
        rfl, htarget, hbytes, hmade.trans hkeeps, hholds⟩

section Step

variable {text : Text} {e : DumpFailure} {escape : Escape}

/-- The dump of the first source is written, and the others follow. -/
theorem saveAll_cons_saved (hdump : dump source = .ok text)
    (hsave : saveDump root output source text fs = (after, none)) :
    saveAll root output ((source :: sources).map fun source => (source, dump source)) fs =
      saveAll root output (sources.map fun source => (source, dump source)) after := by
  rw [List.map_cons, hdump, saveAll, hsave]

/-- The dump of the first source cannot be written, and that is the end. -/
theorem saveAll_cons_stopped (hdump : dump source = .ok text)
    (hsave : saveDump root output source text fs = (after, some escape)) :
    saveAll root output ((source :: sources).map fun source => (source, dump source)) fs =
      ⟨after, [], some escape⟩ := by
  rw [List.map_cons, hdump, saveAll, hsave]

/-- The first source has a row, and the others follow. -/
theorem saveAll_cons_named {label : Text} {report : Report} (hdump : dump source = .error e)
    (hlabel : e.label? = some label)
    (hrest : saveAll root output (sources.map fun source => (source, dump source)) fs = report) :
    saveAll root output ((source :: sources).map fun source => (source, dump source)) fs =
      { report with failures := ⟨source, label, e.message⟩ :: report.failures } := by
  rw [List.map_cons, hdump, saveAll, hrest]
  simp only [hlabel]

/-- The failure of the first source goes by no name, and that is the end. -/
theorem saveAll_cons_nameless (hdump : dump source = .error e) (hlabel : e.label? = none) :
    saveAll root output ((source :: sources).map fun source => (source, dump source)) fs =
      ⟨fs, [], some (.dump e)⟩ := by
  rw [List.map_cons, hdump, saveAll]
  simp only [hlabel]

end Step

/-- What writing leads to from a file system when some sources are settled. -/
structure Settles (fs : FileSystem) (root output : Path) (dump : Path → Except DumpFailure Text)
    (settled : List Path) (files : FileSystem) (failures : List Failure) : Prop where
  failures_eq : failures = rows dump settled
  named : ∀ source ∈ settled, ∀ e, dump source = .error e → ∃ label, e.label? = some label
  holds : ∀ source ∈ settled, ∀ text, dump source = .ok text →
    ∃ target bytes, source.mirror root output = .ok target ∧ target.IsTarget ∧
      Utf8.encode? (text ++ "\n") = some bytes ∧ files.Holds target bytes
  keeps : fs.Keeps (settled.filterMap (dumpPlace? fs root output dump)) files

theorem Settles.nil (fs : FileSystem) (root output : Path) (dump : Path → Except DumpFailure Text) :
    Settles fs root output dump [] fs [] :=
  ⟨rfl, List.forall_mem_nil _, List.forall_mem_nil _, FileSystem.Keeps.refl fs⟩

/-- A source whose failure goes by a name gets a row. -/
theorem Settles.cons_failed (h : Settles fs root output dump settled files failures)
    {e : DumpFailure} {label : Text}
    (hdump : dump source = .error e) (hlabel : e.label? = some label) :
    Settles fs root output dump (source :: settled) files (⟨source, label, e.message⟩ :: failures) where
  failures_eq := by rw [h.failures_eq, rows_cons_of_named hdump hlabel]
  named := by
    refine List.forall_mem_cons.mpr ⟨fun other hother => ?_, h.named⟩
    cases hdump.symm.trans hother
    exact ⟨label, hlabel⟩
  holds := by
    refine List.forall_mem_cons.mpr ⟨fun text htext => ?_, h.holds⟩
    cases hdump.symm.trans htext
  keeps := by
    have hplace : dumpPlace? fs root output dump source = none := by simp only [dumpPlace?, hdump]
    rw [List.filterMap_cons_none hplace]
    exact h.keeps

/-- A dump stays where it was written, whatever is settled after it. -/
theorem Settles.cons_dumped (h : Settles after root output dump settled files failures)
    {text : Text} {target : Path} {bytes : List UInt8} (hdump : dump source = .ok text)
    (hmirror : source.mirror root output = .ok target)
    (htarget : target.IsTarget) (hbytes : Utf8.encode? (text ++ "\n") = some bytes)
    (hkeeps : fs.Keeps [fs.resolve target] after) (hholds : after.Holds target bytes)
    (hapart : ∀ other ∈ settled, dumpPlace? fs root output dump other ≠ some (fs.resolve target)) :
    Settles fs root output dump (source :: settled) files failures where
  failures_eq := by rw [h.failures_eq, rows_cons_of_ok hdump]
  named := by
    refine List.forall_mem_cons.mpr ⟨fun e he => ?_, h.named⟩
    cases hdump.symm.trans he
  holds := by
    refine List.forall_mem_cons.mpr ⟨fun other hother => ?_, h.holds⟩
    cases hdump.symm.trans hother
    refine ⟨target, bytes, hmirror, htarget, hbytes, hholds.keeps h.keeps ?_⟩
    rw [hkeeps.resolve, dumpPlace?_keeps hkeeps]
    intro hm
    obtain ⟨other, hmem, hplace⟩ := List.mem_filterMap.mp hm
    exact hapart other hmem hplace
  keeps := by
    have hplace : dumpPlace? fs root output dump source = some (fs.resolve target) :=
      dumpPlace?_eq_some.mpr ⟨text, target, hdump, hmirror, rfl⟩
    rw [List.filterMap_cons_some hplace, ← dumpPlace?_keeps hkeeps]
    exact hkeeps.trans h.keeps

/-- Only files at the images of dumped sources are touched. -/
theorem Settles.untouched (h : Settles fs root output dump settled files failures)
    (hbelow : ∀ source ∈ settled, source.LiesBelow root) {place : List Text}
    (hplace : ∀ source ∈ dumped dump settled, ∀ target, target.IsImage source root output →
      fs.resolve target ≠ place) :
    files.top.contentAt? place = fs.top.contentAt? place := by
  refine h.keeps.content place fun hm => ?_
  obtain ⟨source, hsource, hwritten⟩ := List.mem_filterMap.mp hm
  obtain ⟨text, target, hdump, hmirror, hresolve⟩ := dumpPlace?_eq_some.mp hwritten
  have himage := (hbelow source hsource).isImage hmirror
  exact hplace source (mem_dumped.mpr ⟨hsource, text, hdump⟩) target himage hresolve

/-- The file at the image of a dumped source holds the dump and a line end. -/
theorem Settles.written (h : Settles fs root output dump settled files failures)
    (hbelow : ∀ source ∈ settled, source.LiesBelow root) (hsource : source ∈ settled) {text : Text}
    (hdump : dump source = .ok text) :
    ∃ target bytes, target.IsImage source root output ∧ Utf8.encode? (text ++ "\n") = some bytes ∧
      files.read target.text = .ok bytes ∧ files.top.contentAt? (fs.resolve target) = some bytes := by
  obtain ⟨target, bytes, hmirror, htarget, hbytes, hholds⟩ := h.holds source hsource text hdump
  have hread := hholds.read htarget.nameable.proper htarget.ne_nil
  have hcontent := hholds.content
  rw [h.keeps.resolve] at hcontent
  exact ⟨target, bytes, (hbelow source hsource).isImage hmirror, hbytes, hread, hcontent⟩

/-- The file at the image of a failed source stays as it was. -/
theorem Settles.failed (h : Settles fs root output dump settled files failures)
    (hout : output.IsNameable)
    (hbelow : ∀ source ∈ settled, source.LiesBelow root) (hsource : source ∈ settled) {e : DumpFailure}
    (hdump : dump source = .error e) :
    ∃ target, target.IsImage source root output ∧
      files.top.contentAt? (fs.resolve target) = fs.top.contentAt? (fs.resolve target) := by
  obtain ⟨target, hmirror, -⟩ := (hbelow source hsource).mirror hout
  refine ⟨target, (hbelow source hsource).isImage hmirror,
    h.untouched hbelow fun other hother image himage hsame => ?_⟩
  obtain ⟨hmem, text, htext⟩ := mem_dumped.mp hother
  have heq := FileSystem.eq_of_resolve_mirror_eq (hbelow other hmem)
      (hbelow source hsource) himage.mirror hmirror hsame
  rw [heq, hdump] at htext
  cases htext

/-- Unless an operation is refused, writing settles all sources before the first one whose failure
goes by no name, and ends with that failure. -/
theorem saveAll_settles {report : Report}
    (hreport : saveAll root output (sources.map fun source => (source, dump source)) fs = report)
    (hfile : ∀ e, report.escape ≠ some (.file e)) (hout : output.IsNameable) (hnodup : sources.Nodup)
    (hbelow : ∀ source ∈ sources, source.LiesBelow root)
    (htext : ∀ source ∈ sources, ∀ text, dump source = .ok text → ∀ c ∈ text, ¬ c.IsSurrogate) :
    ∃ settled rest, sources = settled ++ rest ∧
      Settles fs root output dump settled report.files report.failures ∧
        (rest = [] → report.escape = none) ∧
      ∀ source ∈ rest.head?, ∃ e, dump source = .error e ∧ e.label? = none ∧
        report.escape = some (.dump e) := by
  induction sources generalizing fs report with
  | nil =>
    subst hreport
    exact ⟨[], [], rfl, Settles.nil fs root output dump, fun _ => rfl, by simp⟩
  | cons source sources ih =>
    obtain ⟨hnew, hnodup⟩ := List.nodup_cons.mp hnodup
    obtain ⟨hhere, hlater⟩ := List.forall_mem_cons.mp hbelow
    obtain ⟨hthis, hothers⟩ := List.forall_mem_cons.mp htext
    cases hdump : dump source with
    | ok text =>
      rcases saveDump_cases fs hout hhere (hthis text hdump) with ⟨files, e, hsave⟩ |
        ⟨after, target, bytes, hsave, hmirror, htarget, hbytes, hkeeps, hholds⟩
      · rw [saveAll_cons_stopped hdump hsave] at hreport
        subst hreport
        exact absurd rfl (hfile e)
      · rw [saveAll_cons_saved hdump hsave] at hreport
        obtain ⟨settled, rest, rfl, hsettles, hend, hstop⟩ := ih hreport hfile hnodup hlater hothers
        refine ⟨source :: settled, rest, rfl, ?_, hend, hstop⟩
        refine hsettles.cons_dumped hdump hmirror htarget hbytes hkeeps hholds ?_
        intro other hother hplace
        obtain ⟨_, image, -, himage, hsame⟩ := dumpPlace?_eq_some.mp hplace
        have hmem := List.mem_append_left rest hother
        have heq := FileSystem.eq_of_resolve_mirror_eq hhere
            (hlater other hmem) hmirror himage hsame.symm
        exact hnew (heq ▸ hmem)
    | error e =>
      cases hlabel : e.label? with
      | none =>
        rw [saveAll_cons_nameless hdump hlabel] at hreport
        subst hreport
        refine ⟨[], source :: sources, rfl, Settles.nil fs root output dump,
          by simp, fun other hother => ?_⟩
        cases hother
        exact ⟨e, hdump, hlabel, rfl⟩
      | some label =>
        rw [saveAll_cons_named hdump hlabel rfl] at hreport
        subst hreport
        obtain ⟨settled, rest, rfl, hsettles, hend, hstop⟩ := ih rfl hfile hnodup hlater hothers
        exact ⟨source :: settled, rest, rfl, hsettles.cons_failed hdump hlabel, hend, hstop⟩

/-- Below an output directory that no text can name, no dump is written. -/
theorem saveDump_of_not_isNameable (hproper : output.IsProper)
    (hout : ¬ output.IsNameable) (source : Path)
    (text : Text) (fs : FileSystem) : ∃ e, saveDump root output source text fs = (fs, some e) := by
  rw [saveDump]
  cases hmirror : source.mirror root output with
  | error e => exact ⟨_, rfl⟩
  | ok target =>
    obtain ⟨names, rfl⟩ := Path.exists_append_of_mirror hmirror
    obtain ⟨flaw, hflaw⟩ := Path.pathFlaw?_text_append hproper hout names
    simp only [hflaw]
    exact ⟨_, rfl⟩

/-- Writing that does not end early has settled every source. -/
theorem saveAll_finished {report : Report}
    (hreport : saveAll root output (sources.map fun source => (source, dump source)) fs = report)
    (h : report.escape = none) :
    report.failures = rows dump sources ∧
      (∀ source ∈ sources, ∀ e, dump source = .error e → ∃ label, e.label? = some label) ∧
      ∀ source ∈ sources, ∀ text, dump source = .ok text →
        ∃ before after, saveDump root output source text before = (after, none) := by
  induction sources generalizing fs report with
  | nil =>
    subst hreport
    exact ⟨rfl, List.forall_mem_nil _, List.forall_mem_nil _⟩
  | cons source sources ih =>
    cases hdump : dump source with
    | ok text =>
      rcases hsave : saveDump root output source text fs with ⟨after, _ | escape⟩
      · rw [saveAll_cons_saved hdump hsave] at hreport
        obtain ⟨hfailures, hnamed, hsaved⟩ := ih hreport h
        refine ⟨by rw [hfailures, rows_cons_of_ok hdump], ?_, ?_⟩
        · refine List.forall_mem_cons.mpr ⟨fun e he => ?_, hnamed⟩
          cases hdump.symm.trans he
        · refine List.forall_mem_cons.mpr ⟨fun other hother => ?_, hsaved⟩
          cases hdump.symm.trans hother
          exact ⟨fs, after, hsave⟩
      · rw [saveAll_cons_stopped hdump hsave] at hreport
        subst hreport
        cases h
    | error e =>
      cases hlabel : e.label? with
      | none =>
        rw [saveAll_cons_nameless hdump hlabel] at hreport
        subst hreport
        cases h
      | some label =>
        rw [saveAll_cons_named hdump hlabel rfl] at hreport
        subst hreport
        obtain ⟨hfailures, hnamed, hsaved⟩ := ih rfl h
        refine ⟨by rw [hfailures, rows_cons_of_named hdump hlabel], ?_, ?_⟩
        · refine List.forall_mem_cons.mpr ⟨fun other hother => ?_, hnamed⟩
          cases hdump.symm.trans hother
          exact ⟨label, hlabel⟩
        · refine List.forall_mem_cons.mpr ⟨fun text htext => ?_, hsaved⟩
          cases hdump.symm.trans htext

end Command

end ScriptTree
