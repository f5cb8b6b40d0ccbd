import ScriptTree.Proofs.Command.ParseDir

namespace ScriptTree

namespace Command

variable {fs : FileSystem} {root output source : Path} {sources : List Path}
  {dump : Path → Except DumpFailure Text}

/-- The only row of a source is that of its own failure. -/
theorem mem_rows_iff {e : DumpFailure} {label : Text} (h : source ∈ sources)
    (hdump : dump source = .error e) (hlabel : e.label? = some label) (row : Failure) :
    row ∈ rows dump sources ∧ row.source = source ↔ row = ⟨source, label, e.message⟩ := by
  constructor
  · rintro ⟨hrow, rfl⟩
    obtain ⟨-, e', he', hlabel', hmessage⟩ := mem_rows.mp hrow
    cases hdump.symm.trans he'
    cases hlabel.symm.trans hlabel'
    rw [← hmessage]
  · rintro rfl
    exact ⟨mem_rows.mpr ⟨h, e, hdump, hlabel, rfl⟩, rfl⟩

namespace Outcome

variable {services : Services} {parser : SourceParser}

/-- A report that leads to an exit status has not ended early. -/
theorem escape_eq_none_of_exit {count status : Nat} {told : List Message} {report : Report}
    (h : (ofReport root output count told report).ending = .exit status) : report.escape = none := by
  rw [ofReport] at h
  split at h
  next => cases h
  next hescape => exact hescape

theorem ofArguments_parse (hlawful : services.read.IsLawful) (fs : FileSystem) {file : Text}
    (h : file.head? ≠ some hyphen) :
    ofArguments services fs ["parse", file] = ofParse services.parser fs file := by
  rw [ofArguments, hlawful.parse fs h]
  rfl

theorem files_ofParse (parser : SourceParser) (fs : FileSystem) (file : Text) :
    (ofParse parser fs file).files = fs := by
  rw [ofParse]
  cases fs.dump parser file with
  | ok text => rfl
  | error e =>
    simp only
    cases e.label? <;> rfl

theorem ofParse_of_ok {text : Text} (h : dumpOf parser fs source = .ok text) :
    ofParse parser fs source.text = plain fs 0 (text ++ "\n") [.echo source.text] := by
  rw [dumpOf] at h
  rw [ofParse, h]

theorem ofParse_of_named {e : DumpFailure} {label : Text} (h : dumpOf parser fs source = .error e)
    (hlabel : e.label? = some label) :
    ofParse parser fs source.text = plain fs 1 [] [.echo source.text, .failure label e.message] := by
  rw [dumpOf] at h
  simp only [ofParse, h, hlabel]

theorem ofParse_of_nameless {e : DumpFailure} (h : dumpOf parser fs source = .error e)
    (hlabel : e.label? = none) :
    ofParse parser fs source.text = ⟨.escape (.dump e), [], [.echo source.text], fs⟩ := by
  rw [dumpOf] at h
  simp only [ofParse, h, hlabel]

/-- Unless writing has ended early, the file at the image of a source holds its dump. -/
theorem exists_image_of_finished {report : Report} (hfs : fs.top.IsWellNamed)
    (hscan : fs.scan root = .ok sources) (hproper : output.IsProper)
    (hreport : saveAll root output (sources.map fun p => (p, dumpOf parser fs p)) fs = report)
    (h : report.escape = none) (hmem : source ∈ sources) {text : Text}
    (hdump : dumpOf parser fs source = .ok text) :
    ∃ (target : Path) (bytes : List UInt8), target.IsImage source root output ∧
      Utf8.encode? (text ++ "\n") = some bytes ∧ report.files.read target.text = .ok bytes := by
  obtain ⟨hnodup, hbelow⟩ := FileSystem.scan_eq_ok hfs hscan
  have hout : output.IsNameable := by
    by_contra hnot
    obtain ⟨before, after, hsaved⟩ := (saveAll_finished hreport h).2.2 source hmem text hdump
    obtain ⟨e, he⟩ : ∃ e, saveDump root output source text before = (before, some e) :=
      saveDump_of_not_isNameable hproper hnot source text before
    rw [he] at hsaved
    cases hsaved
  have hfile : ∀ e, report.escape ≠ some (.file e) := by
    simp [h]
  obtain ⟨settled, rest, rfl, hsettles, -, hstop⟩ := saveAll_settles hreport hfile hout hnodup hbelow
    fun p _ text htext => FileSystem.not_isSurrogate_of_dump htext
  have hrest : rest = [] := by
    cases rest with
    | nil => rfl
    | cons first rest =>
      obtain ⟨e, -, -, hescape⟩ := hstop first rfl
      cases h.symm.trans hescape
  subst hrest
  rw [List.append_nil] at hmem
  obtain ⟨target, bytes, himage, hbytes, hread, -⟩ :=
    hsettles.written (fun p hp => hbelow p (List.mem_append_left [] hp)) hmem hdump
  exact ⟨target, bytes, himage, hbytes, hread⟩

/-- How parsing a source alone agrees with parsing all sources below a directory, where the failures
are those of all sources. -/
inductive Agrees (root output : Path) (failures : List Failure)
    (source : Path) (alone whole : Outcome) : Prop where
  | dumped : alone.ending = .exit 0 → (∀ row ∈ failures, row.source ≠ source) →
    (∀ status, whole.ending = .exit status → ∃ (target : Path) (bytes : List UInt8),
      target.IsImage source root output ∧ Utf8.encode? alone.stdout = some bytes ∧
        whole.files.read target.text = .ok bytes) →
    Agrees root output failures source alone whole
  | failed (label message : Text) : alone.ending = .exit 1 → alone.stdout = [] →
    alone.stderr = [.echo source.text, .failure label message] →
    (∀ row, row ∈ failures ∧ row.source = source ↔ row = ⟨source, label, message⟩) →
    Agrees root output failures source alone whole
  | gaveUp (failure : ParseFailure) : alone.ending = .escape (.dump (.gaveUp failure)) →
    alone.stdout = [] → (∀ status, whole.ending ≠ .exit status) →
    Agrees root output failures source alone whole

/-- Parsing a source alone agrees with the outcome of a report on all sources of its scan. -/
theorem agrees_of_report {report : Report} {count : Nat} {told : List Message}
    (hfs : fs.top.IsWellNamed) (hscan : fs.scan root = .ok sources) (hroot : root.IsNameable)
    (hproper : output.IsProper)
    (hreport : saveAll root output (sources.map fun p => (p, dumpOf parser fs p)) fs = report)
    (hmem : source ∈ sources) :
    Agrees root output (rows (dumpOf parser fs) sources) source
      (ofParse parser fs source.text) (ofReport root output count told report) := by
  cases hdump : dumpOf parser fs source with
  | ok text =>
    rw [ofParse_of_ok hdump]
    refine .dumped rfl (fun row hrow => source_ne_of_mem_rows hrow hdump) fun status hstatus => ?_
    have hescape := escape_eq_none_of_exit hstatus
    rw [files_ofReport]
    exact exists_image_of_finished hfs hscan hproper hreport hescape hmem hdump
  | error e =>
    cases hlabel : e.label? with
    | some label =>
      rw [ofParse_of_named hdump hlabel]
      exact .failed label e.message rfl rfl rfl (mem_rows_iff hmem hdump hlabel)
    | none =>
      rw [ofParse_of_nameless hdump hlabel]
      have hbelow := (FileSystem.scan_eq_ok hfs hscan).2 source hmem
      obtain ⟨failure, rfl⟩ := FileSystem.gaveUp_of_dump (hbelow.isNameable hroot) hdump hlabel
      refine .gaveUp failure rfl rfl fun status hstatus => ?_
      obtain ⟨label, hnamed⟩ :=
        (saveAll_finished hreport (escape_eq_none_of_exit hstatus)).2.1 source hmem _ hdump
      cases hnamed

/-- Parsing a source that is found below a directory changes no file. It gives the dump that parsing
the directory writes for the source, or the failure for which the source has its row there; if the
parser gives up on the source, that ends both commands. If parsing the directory exits, it has told
the rows of all failures, in the order of the sources, and its status says whether there are any. -/
theorem parse_agrees_parseDir (services : Services) (hlawful : services.read.IsLawful) {fs : FileSystem}
    {arguments : List Text} {dir output : Text} {sources : List Path} {source : Path}
    (hfs : fs.top.IsWellNamed) (hread : services.read fs arguments = .ok (.parseDir dir output))
    (hscan : fs.scan (Path.ofText dir) = .ok sources)
    (hmem : source ∈ sources) (hhyphen : source.text.head? ≠ some hyphen) :
    let dump := dumpOf services.parser fs
    let alone := ofArguments services fs ["parse", source.text]
    let whole := ofArguments services fs arguments
    alone.files = fs ∧
      (∀ status, whole.ending = .exit status →
        ∃ table, List.Forall₂ (Failure.IsRow (Path.ofText dir)) (rows dump sources) table ∧
          status = (if table.isEmpty then 0 else 1) ∧
          whole.stderr = announcement (Path.ofText dir) sources ++
            account (Path.ofText output) (dumped dump sources).length table) ∧
      Agrees (Path.ofText dir) (Path.ofText output) (rows dump sources) source alone whole := by
  intro dump alone whole
  have hroot := Path.isNameable_ofText (hlawful.directory hread).1
  have hbelow := (FileSystem.scan_eq_ok hfs hscan).2
  have halone : alone = _ := ofArguments_parse hlawful fs hhyphen
  have hwhole : whole = _ :=
    (ofArguments_of_read hread).trans (ofParseDir_of_scan hscan (List.ne_nil_of_mem hmem))
  rw [halone, hwhole]
  generalize hreport : saveAll (Path.ofText dir) (Path.ofText output)
      (sources.map fun p => (p, dump p)) fs = report
  refine ⟨files_ofParse services.parser fs source.text, fun status hstatus => ?_,
    agrees_of_report hfs hscan hroot (Path.isProper_ofText output) hreport hmem⟩
  have hescape := escape_eq_none_of_exit hstatus
  obtain ⟨hfailures, hnamed, -⟩ := saveAll_finished hreport hescape
  obtain ⟨table, hall, hending, hstderr⟩ := ofReport_account hescape hfailures hnamed hbelow
  exact ⟨table, hall, Ending.exit.inj (hstatus.symm.trans hending), hstderr⟩

theorem parse_agrees_parseDir_inside :
    let src : Entry := .directory [("a.js", .file [0x61]), ("b.js", .file [0xFF])]
    let fs : FileSystem := ⟨.directory [("src", src)], []⟩
    let arguments : List Text := ["parse-dir", "src", "-o", "src/out"]
    let first := (Path.ofText "src").append ["a.js"]
    let source := (Path.ofText "src").append ["b.js"]
    Services.standard.read.IsLawful ∧ fs.top.IsWellNamed ∧
      Services.standard.read fs arguments = .ok (.parseDir "src" "src/out") ∧
      fs.scan (Path.ofText "src") = .ok [first, source] ∧ source.text.head? ≠ some hyphen ∧
      Agrees (Path.ofText "src") (Path.ofText "src/out")
        (rows (dumpOf sourceParser fs) [first, source]) source
        (ofArguments .standard fs ["parse", source.text]) (ofArguments .standard fs arguments) := by
  intro src fs arguments first source
  have hsrc : src.IsWellNamed :=
    .directory (by decide) (by decide)
      (List.forall_mem_cons.mpr ⟨.file _, List.forall_mem_singleton.mpr (.file _)⟩)
  have hfs : fs.top.IsWellNamed :=
    .directory (by decide) (by decide) (List.forall_mem_singleton.mpr hsrc)
  have hread : Services.standard.read fs arguments = .ok (.parseDir "src" "src/out") := by
    decide +kernel
  let names : List (List Text) := [["a.js"], ["b.js"]]
  have hfiles : src.filesBelow = names := by simp only [src, names, Entry.filesBelow, Entry.filesAmong]
  have hplace : fs.place (Path.ofText "src") = .ok ["src"] := by decide +kernel
  have hscan : fs.scan (Path.ofText "src") = .ok [first, source] :=
    FileSystem.scan_of_sorted hplace rfl (by decide +kernel) hfiles (by decide +kernel)
      (by decide +kernel)
  have hhyphen : source.text.head? ≠ some hyphen := by decide +kernel
  have hagrees := parse_agrees_parseDir .standard Request.isLawful_read hfs hread hscan
    (List.mem_cons_of_mem first (List.mem_singleton_self source)) hhyphen
  exact ⟨Request.isLawful_read, hfs, hread, hscan, hhyphen, hagrees.2.2⟩

/-- The parser gives up on a template that starts in its middle: parsing the source neither prints a
dump nor exits with a failure, and parsing its directory does not exit either. -/
theorem parse_gives_up_template :
    let template : Text := "`$\x7b\x7d`"
    let src : Entry := .directory [("a.js", .file (template.map fun c => UInt8.ofNat c.val))]
    let fs : FileSystem := ⟨.directory [("src", src)], []⟩
    let source := (Path.ofText "src").append ["a.js"]
    fs.top.IsWellNamed ∧ fs.scan (Path.ofText "src") = .ok [source] ∧ source.text.head? ≠ some hyphen ∧
      (∀ status, (ofArguments .standard fs ["parse", source.text]).ending ≠ .exit status) ∧
      ∀ status, (ofArguments .standard fs ["parse-dir", "src", "-o", "out"]).ending ≠ .exit status := by
  intro template src fs source
  have hsrc : src.IsWellNamed :=
    .directory (by decide) (by decide) (List.forall_mem_singleton.mpr (.file _))
  have hfs : fs.top.IsWellNamed :=
    .directory (by decide) (by decide) (List.forall_mem_singleton.mpr hsrc)
  have hread : Services.standard.read fs ["parse-dir", "src", "-o", "out"] =
      .ok (.parseDir "src" "out") := by
    decide +kernel
  let names : List (List Text) := [["a.js"]]
  have hfiles : src.filesBelow = names := by simp only [src, names, Entry.filesBelow, Entry.filesAmong]
  have hplace : fs.place (Path.ofText "src") = .ok ["src"] := by decide +kernel
  have hscan : fs.scan (Path.ofText "src") = .ok [source] :=
    FileSystem.scan_of_sorted hplace rfl (by decide +kernel) hfiles (by decide +kernel)
      (by decide +kernel)
  have hhyphen : source.text.head? ≠ some hyphen := by decide +kernel
  have hdump : dumpOf Services.standard.parser fs source = .error (.gaveUp .headlessTemplate) :=
    gaveUp?_eq_some.mp (by decide +kernel)
  refine ⟨hfs, hscan, hhyphen, fun status => ?_, fun status hstatus => ?_⟩
  · rw [ofArguments_parse Request.isLawful_read fs hhyphen, ofParse_of_nameless hdump rfl]
    exact Ending.noConfusion
  · rw [ofArguments_of_read hread, ofParseDir_of_scan hscan (List.cons_ne_nil _ _)] at hstatus
    have hescape := escape_eq_none_of_exit hstatus
    obtain ⟨label, hlabel⟩ :=
      (saveAll_finished rfl hescape).2.1 source (List.mem_singleton_self source) _ hdump
    cases hlabel

end Outcome

end Command

end ScriptTree
