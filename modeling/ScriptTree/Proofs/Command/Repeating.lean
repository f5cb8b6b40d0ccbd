import ScriptTree.Proofs.Command.ParseDir
import ScriptTree.Proofs.Files.Rescan

namespace ScriptTree

namespace Command

variable {fs files : FileSystem} {root output source target : Path} {sources settled rest : List Path}
  {dump : Path → Except DumpFailure Text} {escape : Option Escape}

/-- Below an output directory that no text can name, nothing is written. -/
theorem files_saveAll_of_not_isNameable (hproper : output.IsProper) (hout : ¬ output.IsNameable)
    (fs : FileSystem) (sources : List Path) :
    (saveAll root output (sources.map fun source => (source, dump source)) fs).files = fs := by
  induction sources with
  | nil => rfl
  | cons source sources ih =>
    cases hdump : dump source with
    | ok text =>
      obtain ⟨e, hsave⟩ := saveDump_of_not_isNameable hproper hout source text fs
      rw [saveAll_cons_stopped hdump hsave]
    | error e =>
      cases hlabel : e.label? with
      | none => rw [saveAll_cons_nameless hdump hlabel]
      | some label =>
        rw [saveAll_cons_named hdump hlabel rfl]
        exact ih

/-- A dump that stands where the image of its source leads is written there again without a change. -/
theorem saveDump_of_holds {text : Text} {bytes : List UInt8}
    (hmirror : source.mirror root output = .ok target)
    (htarget : target.IsTarget) (hbytes : Utf8.encode? (text ++ "\n") = some bytes)
    (h : fs.Holds target bytes) :
    saveDump root output source text fs = (fs, none) := by
  have hparent := h.isDirectory_parent htarget.nameable.proper htarget.ne_nil
  simp only [saveDump, hmirror, htarget.nameable.pathFlaw?_text,
    FileSystem.makeDirectories_of_isDirectory hparent, writeText_eq hbytes (h.write htarget)]

/-- Dumps that stand where the images of their sources lead are written again without a change. -/
theorem saveAll_of_holds
    (hnamed : ∀ source ∈ settled, ∀ e, dump source = .error e → ∃ label, e.label? = some label)
    (hholds : ∀ source ∈ settled, ∀ text, dump source = .ok text →
      ∃ target bytes, source.mirror root output = .ok target ∧ target.IsTarget ∧
        Utf8.encode? (text ++ "\n") = some bytes ∧ files.Holds target bytes)
    (hend : rest = [] → escape = none) (hstop : ∀ source ∈ rest.head?, ∃ e, dump source = .error e ∧
      e.label? = none ∧ escape = some (.dump e)) :
    saveAll root output ((settled ++ rest).map fun source => (source, dump source)) files
      = ⟨files, rows dump settled, escape⟩ := by
  induction settled with
  | nil =>
    cases rest with
    | nil =>
      rw [hend rfl]
      rfl
    | cons source rest =>
      obtain ⟨e, hdump, hlabel, rfl⟩ := hstop source rfl
      exact saveAll_cons_nameless hdump hlabel
  | cons source settled ih =>
    obtain ⟨hhere, hlater⟩ := List.forall_mem_cons.mp hnamed
    obtain ⟨hthis, hothers⟩ := List.forall_mem_cons.mp hholds
    have hrest := ih hlater hothers
    rw [List.cons_append]
    cases hdump : dump source with
    | ok text =>
      obtain ⟨target, bytes, hmirror, htarget, hbytes, hheld⟩ := hthis text hdump
      have hsave := saveDump_of_holds hmirror htarget hbytes hheld
      rw [saveAll_cons_saved hdump hsave, hrest, rows_cons_of_ok hdump]
    | error e =>
      obtain ⟨label, hlabel⟩ := hhere e hdump
      rw [saveAll_cons_named hdump hlabel hrest, rows_cons_of_named hdump hlabel]

/-- Unless an operation is refused, dumps that are written for a second time are written without a
change, and only files that are no sources have been touched at all. -/
theorem saveAll_again {report : Report}
    (hreport : saveAll root output (sources.map fun source => (source, dump source)) fs = report)
    (hfile : ∀ e, report.escape ≠ some (.file e)) (hproper : output.IsProper) (hnodup : sources.Nodup)
    (hbelow : ∀ source ∈ sources, source.LiesBelow root)
    (htext : ∀ source ∈ sources, ∀ text, dump source = .ok text → ∀ c ∈ text, ¬ c.IsSurrogate) :
    saveAll root output (sources.map fun source => (source, dump source)) report.files = report ∧
      ∃ places, fs.Keeps places report.files ∧
        ∀ place ∈ places, ∃ dir last, place = dir ++ [last ++ Text.ofString ".json"] := by
  by_cases hout : output.IsNameable
  · obtain ⟨settled, rest, rfl, hsettles, hend, hstop⟩ :=
      saveAll_settles hreport hfile hout hnodup hbelow htext
    refine ⟨?_, _, hsettles.keeps, fun place hplace => ?_⟩
    · rw [saveAll_of_holds hsettles.named hsettles.holds hend hstop, ← hsettles.failures_eq]
    · obtain ⟨source, hsource, hdump⟩ := List.mem_filterMap.mp hplace
      obtain ⟨text, target, -, hmirror, rfl⟩ := dumpPlace?_eq_some.mp hdump
      obtain ⟨names, last, -, hresolve⟩ :=
        FileSystem.resolve_image fs (hbelow source (List.mem_append_left rest hsource)) hmirror
      exact ⟨_, last, hresolve⟩
  · have hfiles : (saveAll root output
        (sources.map fun source => (source, dump source)) fs).files = fs :=
      files_saveAll_of_not_isNameable hproper hout fs sources
    rw [hreport] at hfiles
    rw [hfiles]
    exact ⟨hreport, [], FileSystem.Keeps.refl fs, by simp⟩

namespace Outcome

variable {services : Services} {parser : SourceParser}

theorem dumpOf_congr (hproper : source.IsProper) (h : files.source source = fs.source source) :
    dumpOf parser files source = dumpOf parser fs source := by
  have hat : ∀ fs : FileSystem, fs.sourceAt source.text = fs.source source := fun fs => by
    rw [FileSystem.sourceAt,
      show (SourceUnit.ofText source.text).path = source from Path.ofText_text hproper]
  rw [dumpOf, dumpOf, FileSystem.dump, FileSystem.dump, hat, hat, h]

/-- What a run touches are files at the ends of images, and running again on the same dumps changes
nothing. -/
theorem exists_keeps_of_ofParseDir (hfs : fs.top.IsWellNamed) (hscan : fs.scan root = .ok sources)
    (hproper : output.IsProper)
    (hfile : ∀ e, (ofParseDir parser fs root output).ending ≠ .escape (.file e)) :
    ∃ places, fs.Keeps places (ofParseDir parser fs root output).files ∧
      (∀ place ∈ places, ∃ dir last, place = dir ++ [last ++ Text.ofString ".json"]) ∧
      ∀ files, files = (ofParseDir parser fs root output).files → files.scan root = .ok sources →
        (∀ p ∈ sources, dumpOf parser files p = dumpOf parser fs p) →
        ofParseDir parser files root output = ofParseDir parser fs root output := by
  by_cases hne : sources = []
  · subst hne
    have hplain : ∀ {fs : FileSystem}, fs.scan root = .ok [] →
        ofParseDir parser fs root output = plain fs 0 [] [.noSources] := by
      intro fs hscan
      rw [ofParseDir, hscan]
    rw [hplain hscan]
    refine ⟨[], FileSystem.Keeps.refl fs, List.forall_mem_nil _, ?_⟩
    rintro files rfl hagain -
    exact hplain hagain
  · obtain ⟨hnodup, hbelow⟩ := FileSystem.scan_eq_ok hfs hscan
    rw [ofParseDir_of_scan hscan hne] at hfile ⊢
    generalize hreport : saveAll root output (sources.map fun p => (p, dumpOf parser fs p)) fs =
        report at hfile ⊢
    have hescape : ∀ e, report.escape ≠ some (.file e) := fun e he => hfile e (ending_ofReport.mpr he)
    obtain ⟨hagain, places, hkeeps, hplaces⟩ := saveAll_again hreport hescape hproper hnodup hbelow
      fun p _ text htext => FileSystem.not_isSurrogate_of_dump htext
    rw [files_ofReport]
    refine ⟨places, hkeeps, hplaces, ?_⟩
    rintro files rfl hrescan hdump
    have hpairs : (sources.map fun p => (p, dumpOf parser report.files p)) =
        sources.map fun p => (p, dumpOf parser fs p) :=
      List.map_congr_left fun p hp => by rw [hdump p hp]
    rw [ofParseDir_of_scan hrescan hne, hpairs, hagain]

/-- A run that parses the sources below a directory, in a tree where every directory holds file
names once each, touches no source that it finds unless an operation on files is refused. A second
run of the same command, if no path below the directory has become too long to be looked at, finds
the same sources in the same order, ends the same way and prints the same, and leaves all files as
they are. -/
theorem parseDir_repeats (services : Services) (hlawful : services.read.IsLawful) {fs : FileSystem}
    {arguments : List Text} {source output : Text} (hfs : fs.top.IsWellNamed)
    (hread : services.read fs arguments = .ok (.parseDir source output))
    (hfile : ∀ e, (ofArguments services fs arguments).ending ≠ .escape (.file e)) :
    let o := ofArguments services fs arguments
    ∃ sources, fs.scan (Path.ofText source) = .ok sources ∧
      (∀ p ∈ sources, o.files.source p = fs.source p ∧
        ∃ content, fs.top.contentAt? (fs.resolve p) = some content ∧
          o.files.top.contentAt? (fs.resolve p) = some content) ∧
      ((∀ e, o.files.scan (Path.ofText source) ≠ .error e) →
        o.files.scan (Path.ofText source) = .ok sources ∧
          ofArguments services o.files arguments = o) := by
  obtain ⟨hflaw, hkind⟩ := hlawful.directory hread
  obtain ⟨-, -, place, hplace, hdir⟩ := FileSystem.kind?_eq_directory.mp hkind
  have hroot := Path.isNameable_ofText hflaw
  have hresolve : fs.resolve (Path.ofText source) = place :=
    (FileSystem.follow_spells (FileSystem.place_eq_ok.mp hplace).2).symm
  rw [ofArguments_of_read hread] at hfile ⊢
  intro o
  cases hscan : fs.scan (Path.ofText source) with
  | error e =>
    rw [ofParseDir, hscan] at hfile
    exact absurd rfl (hfile e)
  | ok sources =>
    obtain ⟨places, hkeeps, hplaces, hagain⟩ :=
      exists_keeps_of_ofParseDir hfs hscan (Path.isProper_ofText output) hfile
    have himage : ∀ names, place ++ names ∈ places → Path.isSource ⟨.relative, names⟩ = false := by
      intro names hm
      obtain ⟨dir, last, heq⟩ := hplaces _ hm
      exact Path.isSource_of_append_eq heq
    have hsource : ∀ p ∈ sources, o.files.source p = fs.source p ∧
        ∃ content, fs.top.contentAt? (fs.resolve p) = some content ∧
          o.files.top.contentAt? (fs.resolve p) = some content := by
      intro p hp
      obtain ⟨names, rfl, hfinds⟩ := FileSystem.finds_of_scan hfs hplace hscan hp
      have hapart : place ++ names ∉ places := fun hm => by
        cases (himage names hm).symm.trans hfinds.isSource
      refine ⟨hkeeps.source_eq hroot.proper hplace hfinds hapart, ?_⟩
      obtain ⟨content, hcontent⟩ := hfinds.content
      rw [FileSystem.resolve_append fun name hname => (hfinds.fileNames name hname).ne_up, hresolve]
      exact ⟨content, hcontent, (hkeeps.content _ hapart).trans hcontent⟩
    refine ⟨sources, rfl, hsource, fun hshort => ?_⟩
    have hrescan := hkeeps.scan_eq hplace hdir hscan himage hshort
    refine ⟨hrescan, ?_⟩
    rw [ofArguments_of_read (hlawful.again hread (hkeeps.kind? hkind))]
    refine hagain o.files rfl hrescan fun p hp => dumpOf_congr ?_ (hsource p hp).1
    exact ((FileSystem.scan_eq_ok hfs hscan).2 p hp |>.isNameable hroot).proper

/-- Output below the directory itself, where the parser takes its one source and refuses the other. -/
theorem parseDir_repeats_inside :
    let src : Entry := .directory [("a.js", .file []), ("b.js", .file [0xFF])]
    let fs : FileSystem := ⟨.directory [("src", src)], []⟩
    let arguments : List Text := ["parse-dir", "src", "-o", "src"]
    let o := ofArguments .standard fs arguments
    Services.standard.read.IsLawful ∧ fs.top.IsWellNamed ∧
      Services.standard.read fs arguments = .ok (.parseDir "src" "src") ∧
      (∀ e, o.ending ≠ .escape (.file e)) ∧
      ∃ sources, fs.scan (Path.ofText "src") = .ok sources ∧
        (∀ p ∈ sources, o.files.source p = fs.source p ∧
          ∃ content, fs.top.contentAt? (fs.resolve p) = some content ∧
            o.files.top.contentAt? (fs.resolve p) = some content) ∧
        ((∀ e, o.files.scan (Path.ofText "src") ≠ .error e) →
          o.files.scan (Path.ofText "src") = .ok sources ∧
            ofArguments .standard o.files arguments = o) := by
  intro src fs arguments o
  have hsrc : src.IsWellNamed :=
    .directory (by decide) (by decide)
      (List.forall_mem_cons.mpr ⟨.file _, List.forall_mem_singleton.mpr (.file _)⟩)
  have hfs : fs.top.IsWellNamed :=
    .directory (by decide) (by decide) (List.forall_mem_singleton.mpr hsrc)
  have hread : Services.standard.read fs arguments = .ok (.parseDir "src" "src") := by decide +kernel
  let names : List (List Text) := [["a.js"], ["b.js"]]
  have hfiles : src.filesBelow = names := by simp only [src, names, Entry.filesBelow, Entry.filesAmong]
  have hplace : fs.place (Path.ofText "src") = .ok ["src"] := by decide +kernel
  have hscan : fs.scan (Path.ofText "src") = .ok (names.map (Path.ofText "src").append) :=
    FileSystem.scan_of_sorted hplace rfl (by decide +kernel) hfiles (by decide +kernel)
      (by decide +kernel)
  have hescape : (saveAll (Path.ofText "src") (Path.ofText "src")
      ((names.map (Path.ofText "src").append).map fun p => (p, dumpOf sourceParser fs p))
        fs).escape.isNone := by
    decide +kernel
  have hfile : ∀ e, (ofArguments .standard fs arguments).ending ≠ .escape (.file e) := by
    intro e
    rw [ofArguments_of_read hread, ofParseDir_of_scan hscan (List.cons_ne_nil _ _)]
    exact ending_ne_of_isNone hescape e
  exact ⟨Request.isLawful_read, hfs, hread, hfile,
    parseDir_repeats .standard Request.isLawful_read hfs hread hfile⟩

/-- A run that is refused when its sources are looked for a second time. -/
theorem refused_again (hlawful : services.read.IsLawful) {arguments : List Text}
    {source output : Text} {e : FileError}
    (hread : services.read fs arguments = .ok (.parseDir source output))
    (hscan : fs.scan (Path.ofText source) = .ok sources) (hne : sources ≠ [])
    (h :
      let dumps := sources.map fun p => (p, dumpOf services.parser fs p)
      let report := saveAll (Path.ofText source) (Path.ofText output) dumps fs
      report.escape.isNone ∧ report.failures.isEmpty ∧ report.files.kind? source = some .directory ∧
        report.files.scan (Path.ofText source) = .error e) :
    (ofArguments services fs arguments).ending = .exit 0 ∧
      (ofArguments services (ofArguments services fs arguments).files arguments).ending =
        .escape (.file e) := by
  obtain ⟨hescape, hempty, hkind, hrescan⟩ := h
  have ho : ofArguments services fs arguments = _ :=
    (ofArguments_of_read hread).trans (ofParseDir_of_scan hscan hne)
  refine ⟨?_, ?_⟩
  · rw [ho, ofReport, Option.isNone_iff_eq_none.mp hescape, List.isEmpty_iff.mp hempty]
    rfl
  · rw [ho, files_ofReport, ofArguments_of_read (hlawful.again hread hkind), ofParseDir, hrescan]

set_option maxRecDepth 20000 in
/-- A directory named by a long detour, with output below it: the first run makes a file whose path,
by that detour, is too long to be looked at, so the second run is refused. -/
theorem parseDir_refused_again :
    let wide : Text := List.replicate 63 (CodePoint.ofNat 0x1F600)
    let root : Text := Text.join "/" (wide :: (List.replicate 14 [Text.ofString "..", wide]).flatten)
    let output : Text := wide ++ "/" ++ wide
    let src : Entry := .directory [("a.js", .file [])]
    let fs : FileSystem := ⟨.directory [(wide, src)], []⟩
    let arguments : List Text := ["parse-dir", root, "-o", output]
    let o := ofArguments .standard fs arguments
    fs.top.IsWellNamed ∧ Services.standard.read fs arguments = .ok (.parseDir root output) ∧
      o.ending = .exit 0 ∧
      ∃ e, (ofArguments .standard o.files arguments).ending = .escape (.file e) := by
  intro wide root output src fs arguments o
  have hsrc : src.IsWellNamed :=
    .directory (by decide) (by decide) (List.forall_mem_singleton.mpr (.file _))
  have hfs : fs.top.IsWellNamed :=
    .directory (by decide) (by decide) (List.forall_mem_singleton.mpr hsrc)
  have hread : Services.standard.read fs arguments = .ok (.parseDir root output) := by decide +kernel
  let names : List (List Text) := [["a.js"]]
  have hfiles : src.filesBelow = names := by simp only [src, names, Entry.filesBelow, Entry.filesAmong]
  have hplace : fs.place (Path.ofText root) = .ok [wide] := by decide +kernel
  have hscan : fs.scan (Path.ofText root) = .ok (names.map (Path.ofText root).append) :=
    FileSystem.scan_of_sorted hplace rfl (by decide +kernel) hfiles (by decide +kernel)
      (by decide +kernel)
  have hrefused := refused_again Request.isLawful_read hread hscan (List.cons_ne_nil _ _)
    (e := ⟨.nameTooLong, ((Path.ofText root).append [wide, "a.js.json"]).text⟩) (by decide +kernel)
  exact ⟨hfs, hread, hrefused.1, _, hrefused.2⟩

end Outcome

end Command

end ScriptTree
