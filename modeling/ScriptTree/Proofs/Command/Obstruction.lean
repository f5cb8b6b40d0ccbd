import ScriptTree.Proofs.Command.ParseDir
import ScriptTree.Proofs.Files.Making

namespace ScriptTree

namespace Path

/-- The names by which the image of a source lies below an output directory. -/
def ImageNames (root source : Path) (image : List Text) : Prop :=
  ∃ names last, source = root.append (names ++ [last]) ∧
    image = names ++ [last ++ Text.ofString ".json"]

/-- A source that lies below a directory which has the name of the image of another one. -/
def Obstructs (root source other : Path) : Prop :=
  ∃ names last more final, source = root.append (names ++ [last]) ∧
    other = root.append (names ++ [last ++ Text.ofString ".json"] ++ more ++ [final])

/-- A path leads further down from where another one leads. -/
def IsAbove (p q : Path) : Prop := p.anchor = q.anchor ∧ p.names <+: q.names ∧ p ≠ q

/-- Neither a path nor one of its names is too long for operations on files. -/
def Fits (p : Path) : Prop :=
  p.text.isLongPath = false ∧ ∀ name ∈ p.names, ¬ mostNameBytes < Text.nameBytes name

instance : DecidablePred Fits := fun p =>
  inferInstanceAs (Decidable
    (p.text.isLongPath = false ∧ ∀ name ∈ p.names, ¬ mostNameBytes < Text.nameBytes name))

variable {root source other target output : Path} {image further : List Text}

theorem append_injective (p : Path) : Function.Injective p.append := fun _ _ h =>
  List.append_cancel_left (congrArg Path.names h)

theorem isImage_iff :
    target.IsImage source root output ↔ ∃ image, ImageNames root source image ∧
      target = output.append image := by
  constructor
  · rintro ⟨names, last, hsource, rfl⟩
    exact ⟨_, ⟨names, last, hsource, rfl⟩, rfl⟩
  · rintro ⟨_, ⟨names, last, hsource, rfl⟩, rfl⟩
    exact ⟨names, last, hsource, rfl⟩

theorem ImageNames.unique (h : ImageNames root source image) (h' : ImageNames root source further) :
    image = further := by
  obtain ⟨names, last, rfl, rfl⟩ := h
  obtain ⟨others, final, heq, rfl⟩ := h'
  obtain ⟨rfl, hlast⟩ := List.append_inj' (append_injective root heq) rfl
  rw [List.singleton_inj.mp hlast]

theorem ImageNames.source_unique (h : ImageNames root source image) (h' : ImageNames root other image) :
    source = other := by
  obtain ⟨names, last, rfl, rfl⟩ := h
  obtain ⟨others, final, rfl, heq⟩ := h'
  obtain ⟨rfl, hlast⟩ := List.append_inj' heq rfl
  rw [List.append_cancel_right (List.singleton_inj.mp hlast)]

/-- One image stands above another one exactly if its source obstructs the other one. -/
theorem ImageNames.prefix_iff (h : ImageNames root source image) (h' : ImageNames root other further) :
    (image <+: further ∧ image ≠ further) ↔ Obstructs root source other := by
  constructor
  · rintro ⟨⟨rest, hrest⟩, hne⟩
    obtain ⟨names, last, rfl, rfl⟩ := h
    obtain ⟨others, final, rfl, rfl⟩ := h'
    rcases List.eq_nil_or_concat rest with rfl | ⟨more, tail, rfl⟩
    · exact absurd ((List.append_nil _).symm.trans hrest) hne
    · rw [List.concat_eq_append, ← List.append_assoc] at hrest
      obtain ⟨rfl, -⟩ := List.append_inj' hrest rfl
      exact ⟨names, last, more, final, rfl, rfl⟩
  · rintro ⟨names, last, more, final, rfl, rfl⟩
    have hfirst := h.unique ⟨names, last, rfl, rfl⟩
    have hsecond := h'.unique ⟨_, final, rfl, rfl⟩
    rw [hfirst, hsecond]
    refine ⟨⟨more ++ [final ++ Text.ofString ".json"], by simp⟩, fun heq => ?_⟩
    have hlength := congrArg List.length heq
    simp at hlength

theorem isAbove_append {names more : List Text} :
    IsAbove (output.append names) (output.append more) ↔ names <+: more ∧ names ≠ more := by
  rw [IsAbove, ne_eq, (append_injective output).eq_iff]
  exact ⟨fun ⟨_, hbegins, hne⟩ => ⟨(List.prefix_append_right_inj _).mp hbegins, hne⟩,
    fun ⟨hbegins, hne⟩ => ⟨rfl, (List.prefix_append_right_inj _).mpr hbegins, hne⟩⟩

theorem LiesBelow.exists_imageNames (h : source.LiesBelow root) :
    ∃ image, ImageNames root source image := by
  obtain ⟨names, last, hsource, -⟩ := h
  exact ⟨_, names, last, hsource, rfl⟩

end Path

namespace Command

open FileSystem (Hosts)

variable {fs made : FileSystem} {root output source : Path} {sources settled rest : List Path}
  {dump : Path → Except DumpFailure Text} {images : List Text → Prop} {place image : List Text}

/-- Whether a source has a dump or a failure that goes by a name. -/
def isSettled (dump : Path → Except DumpFailure Text) (source : Path) : Bool :=
  match dump source with
  | .ok _ => true
  | .error e => e.label?.isSome

/-- The sources before the first one whose failure goes by no name. -/
def reached (dump : Path → Except DumpFailure Text) (sources : List Path) : List Path :=
  sources.takeWhile (isSettled dump)

theorem saveDump_hosts (hout : output.IsNameable) (hbelow : source.LiesBelow root) {text : Text}
    (htext : ∀ c ∈ text, ¬ c.IsSurrogate) (himage : Path.ImageNames root source image)
    (hmem : images image)
    (hapart : ∀ a b, images a → images b → a <+: b → a = b) (hfits : (output.append image).Fits)
    (hmade : FileSystem.makeDirectories output.names.length fs output = .ok made)
    (hhosts : Hosts images output place made) :
    ∃ after, saveDump root output source text fs = (after, none) ∧
      FileSystem.makeDirectories output.names.length after output = .ok after ∧
        Hosts images output place after := by
  obtain ⟨names, last, rfl, hnames⟩ := hbelow
  cases himage.unique ⟨names, last, rfl, rfl⟩
  obtain ⟨bytes, hbytes⟩ := exists_encode?_line htext
  obtain ⟨hshort, hlimits⟩ := hfits
  have hfile := Path.forall_isFileName_image hnames
  have htarget := Path.isTarget_append hout hfile
  have hproper := htarget.nameable.proper
  have hmore : (output.append names).append [last ++ Text.ofString ".json"]
      = output.append (names ++ [last ++ Text.ofString ".json"]) := Path.append_append ..
  have hparent : (output.append (names ++ [last ++ Text.ofString ".json"])).parent =
      output.append names := by
    rw [← hmore, Path.parent_append_singleton]
  have hbefore : ∀ name ∈ names, IsFileName name ∧
      ¬ mostNameBytes < Text.nameBytes name := fun name hname =>
    ⟨hfile name (List.mem_append_left _ hname),
      hlimits name (List.mem_append_right _ (List.mem_append_left _ hname))⟩
  obtain ⟨mid, hmid, hmidHosts, hleads, hdir⟩ :=
    hhosts.makeDirectories hmade hapart hmem (List.prefix_append _ _)
      (by simp) hout.proper hbefore (Path.isLongPath_text (hmore.symm ▸ hproper) (hmore.symm ▸ hshort))
  have hmake : FileSystem.makeDirectories
      (output.append (names ++ [last ++ Text.ofString ".json"])).names.length fs
      (output.append names) = .ok mid := by
    refine FileSystem.makeDirectories_of_le hmid ?_
    simp only [Path.append, List.length_append, List.length_singleton]
    omega
  obtain ⟨after, hwrite, hafter⟩ := hmidHosts.write hapart hmem htarget hshort
    (hlimits _ (by simp [Path.append])) (hfile _ (by simp)).ne_up hleads hdir bytes
  refine ⟨after, ?_, ?_, hafter⟩
  · simp only [saveDump, Path.mirror_append, htarget.nameable.pathFlaw?_text, hparent, hmake,
      writeText_eq hbytes hwrite]
  · exact FileSystem.makeDirectories_of_isDirectory
      (FileSystem.isDirectory_of_place hafter.leads hafter.directory) _

/-- The images of the sources that are written are all in a set of names of which none stands above
another. -/
theorem saveAll_hosts (hout : output.IsNameable) (hbelow : ∀ source ∈ sources, source.LiesBelow root)
    (htext : ∀ source ∈ sources, ∀ text, dump source = .ok text → ∀ c ∈ text, ¬ c.IsSurrogate)
    (himages : ∀ source ∈ dumped dump (reached dump sources),
      ∃ image, Path.ImageNames root source image ∧ images image ∧ (output.append image).Fits)
    (hapart : ∀ a b, images a → images b → a <+: b → a = b)
    (hmade : FileSystem.makeDirectories output.names.length fs output = .ok made)
    (hhosts : Hosts images output place made) :
    ∀ e, (saveAll root output (sources.map fun source => (source, dump source)) fs).escape ≠
      some (.file e) := by
  induction sources generalizing fs made with
  | nil =>
    rintro e he
    cases he
  | cons source sources ih =>
    obtain ⟨hhere, hlater⟩ := List.forall_mem_cons.mp hbelow
    obtain ⟨hthis, hothers⟩ := List.forall_mem_cons.mp htext
    cases hdump : dump source with
    | ok text =>
      have hreached : reached dump (source :: sources) = source :: reached dump sources :=
        List.takeWhile_cons_of_pos (by simp only [isSettled, hdump])
      rw [hreached, dumped_cons_of_ok hdump] at himages
      obtain ⟨⟨image, himage, hmem, hfits⟩, hrest⟩ := List.forall_mem_cons.mp himages
      obtain ⟨after, hsave, hagain, hafter⟩ :=
        saveDump_hosts hout hhere (hthis text hdump) himage hmem hapart hfits hmade hhosts
      rw [saveAll_cons_saved hdump hsave]
      exact ih hlater hothers hrest hagain hafter
    | error failure =>
      cases hlabel : failure.label? with
      | none =>
        rw [saveAll_cons_nameless hdump hlabel]
        simp
      | some label =>
        have hreached : reached dump (source :: sources) = source :: reached dump sources :=
          List.takeWhile_cons_of_pos (by simp only [isSettled, hdump, hlabel, Option.isSome_some])
        rw [hreached, dumped_cons_of_error hdump] at himages
        rw [saveAll_cons_named hdump hlabel rfl]
        exact ih hlater hothers himages hmade hhosts

theorem reached_append (hnamed : ∀ source ∈ settled, ∀ e, dump source = .error e →
    ∃ label, e.label? = some label)
    (hstop : ∀ source ∈ rest.head?, ∃ e, dump source = .error e ∧ e.label? = none) :
    reached dump (settled ++ rest) = settled := by
  have hsettled : ∀ source ∈ settled, isSettled dump source = true := by
    intro source hsource
    unfold isSettled
    cases hdump : dump source with
    | ok text => rfl
    | error e =>
      obtain ⟨label, hlabel⟩ := hnamed source hsource e hdump
      simp only [hlabel, Option.isSome_some]
  have hrest : rest.takeWhile (isSettled dump) = [] := by
    cases rest with
    | nil => rfl
    | cons source rest =>
      obtain ⟨e, hdump, hlabel⟩ := hstop source rfl
      exact List.takeWhile_cons_of_neg (by simp [isSettled, hdump, hlabel])
  rw [reached, List.takeWhile_append_of_pos hsettled, hrest, List.append_nil]

/-- What has been written does not obstruct each other. -/
theorem not_obstructs_of_settles {files : FileSystem} {failures : List Failure} {other : Path}
    (h : Settles fs root output dump settled files failures)
    (hbelow : ∀ source ∈ settled, source.LiesBelow root)
    (hsource : source ∈ dumped dump settled) (hother : other ∈ dumped dump settled) :
    ¬ Path.Obstructs root source other := by
  have hheld : ∀ source ∈ dumped dump settled, ∃ image bytes, Path.ImageNames root source image ∧
      files.top.contentAt? (files.resolve output ++ image) = some bytes := by
    intro source hsource
    obtain ⟨hmem, text, hdump⟩ := mem_dumped.mp hsource
    obtain ⟨target, bytes, hmirror, -, -, hholds⟩ := h.holds source hmem text hdump
    obtain ⟨names, last, hnames, hresolve⟩ :=
      FileSystem.resolve_image files (hbelow source hmem) hmirror
    refine ⟨_, bytes, ⟨names, last, hnames, rfl⟩, ?_⟩
    rw [← List.append_assoc, ← hresolve]
    exact hholds.content
  obtain ⟨image, bytes, himage, hcontent⟩ := hheld source hsource
  obtain ⟨further, more, hfurther, hmore⟩ := hheld other hother
  intro hobstructs
  obtain ⟨⟨rest, rfl⟩, hne⟩ := (himage.prefix_iff hfurther).mpr hobstructs
  have hrest : rest ≠ [] := fun hnil => hne (by rw [hnil, List.append_nil])
  have hleaf : Entry.IsLeaf (.file bytes) := trivial
  rw [← List.append_assoc, Entry.contentAt?_append, Entry.contentAt?_eq_some.mp hcontent,
    Option.bind_some, Entry.contentAt?_leaf hleaf hrest] at hmore
  cases hmore

/-- The refused operation on files that a failure is, if it is one. -/
def Escape.refused? : Escape → Option FileError
  | file e => some e
  | _ => none

theorem Escape.refused?_eq_some {escape : Escape} {e : FileError} :
    escape.refused? = some e ↔ escape = .file e := by
  cases escape <;> simp [refused?]

namespace Outcome

variable {services : Services} {parser : SourceParser}

/-- The sources below a root that a run dumps. -/
def dumpedBy (parser : SourceParser) (fs : FileSystem) (sources : List Path) : List Path :=
  dumped (dumpOf parser fs) (reached (dumpOf parser fs) sources)

/-- Unless an operation is refused, a run writes the sources that it dumps. -/
theorem exists_settles_of_ofParseDir (hfs : fs.top.IsWellNamed) (hscan : fs.scan root = .ok sources)
    (hout : output.IsNameable)
    (hfile : ∀ e, (ofParseDir parser fs root output).ending ≠ .escape (.file e)) :
    ∃ failures, Settles fs root output (dumpOf parser fs) (reached (dumpOf parser fs) sources)
      (ofParseDir parser fs root output).files failures := by
  by_cases hne : sources = []
  · subst hne
    rw [ofParseDir, hscan]
    exact ⟨[], Settles.nil fs root output (dumpOf parser fs)⟩
  · obtain ⟨hnodup, hbelow⟩ := FileSystem.scan_eq_ok hfs hscan
    rw [ofParseDir_of_scan hscan hne] at hfile ⊢
    generalize hreport : saveAll root output (sources.map fun p => (p, dumpOf parser fs p)) fs =
        report at hfile ⊢
    have hescape : ∀ e, report.escape ≠ some (.file e) := fun e he => hfile e (ending_ofReport.mpr he)
    obtain ⟨settled, rest, rfl, hsettles, -, hstop⟩ :=
      saveAll_settles hreport hescape hout hnodup hbelow
        fun p _ text htext => FileSystem.not_isSurrogate_of_dump htext
    have hreached : reached (dumpOf parser fs) (settled ++ rest) = settled :=
      reached_append hsettles.named fun p hp => by
        obtain ⟨e, hdump, hlabel, -⟩ := hstop p hp
        exact ⟨e, hdump, hlabel⟩
    rw [hreached, files_ofReport]
    exact ⟨_, hsettles⟩

/-- A run into an empty output directory is not refused if no source that it dumps obstructs another
one. -/
theorem not_refused_of_not_obstructs (hfs : fs.top.IsWellNamed) (hscan : fs.scan root = .ok sources)
    (hout : output.IsNameable)
    (hmade : FileSystem.makeDirectories output.names.length fs output = .ok made)
    (hplace : made.place output = .ok place) (hempty : made.entryAt? place = some (.directory []))
    (hfits : ∀ p ∈ dumpedBy parser fs sources, ∀ target : Path,
      target.IsImage p root output → target.Fits)
    (hnone : ∀ p ∈ dumpedBy parser fs sources, ∀ q ∈ dumpedBy parser fs sources,
      ¬ Path.Obstructs root p q) :
    ∀ e, (ofParseDir parser fs root output).ending ≠ .escape (.file e) := by
  by_cases hne : sources = []
  · subst hne
    simp [ofParseDir, hscan, plain]
  · obtain ⟨hnodup, hbelow⟩ := FileSystem.scan_eq_ok hfs hscan
    rw [ofParseDir_of_scan hscan hne]
    intro e he
    rw [ending_ofReport] at he
    have hbelowDumped : ∀ p ∈ dumpedBy parser fs sources, p.LiesBelow root := fun p hp =>
      hbelow p (List.takeWhile_subset _ (mem_dumped.mp hp).1)
    have hhosts : Hosts (fun image => ∃ p ∈ dumpedBy parser fs sources,
        Path.ImageNames root p image) output place made := FileSystem.hosts_of_empty hplace hempty
    refine saveAll_hosts hout hbelow
      (fun p _ text htext => FileSystem.not_isSurrogate_of_dump htext) ?_ ?_ hmade
      hhosts e he
    · intro p hp
      obtain ⟨image, himage⟩ := (hbelowDumped p hp).exists_imageNames
      exact ⟨image, himage, ⟨p, hp, himage⟩, hfits p hp _ (Path.isImage_iff.mpr ⟨image, himage, rfl⟩)⟩
    · rintro a b ⟨p, hp, ha⟩ ⟨q, hq, hb⟩ hbegins
      by_contra hne
      exact hnone p hp q hq ((ha.prefix_iff hb).mp ⟨hbegins, hne⟩)

/-- Images of different sources are different, and one stands above another exactly if its source
obstructs the other one. A run that parses the sources below a directory into an output directory
that can be made, and is empty then, is refused exactly if one source that it dumps obstructs
another one, unless the path of an image is too long to be written to; if it is not refused, all
these dumps are written. -/
theorem parseDir_refused_iff_obstructs (services : Services)
    {fs made : FileSystem} {arguments : List Text}
    {source output : Text} {sources : List Path} {place : List Text} (hfs : fs.top.IsWellNamed)
    (hread : services.read fs arguments = .ok (.parseDir source output))
    (hscan : fs.scan (Path.ofText source) = .ok sources) (hout : output.pathFlaw? = none)
    (hmade : FileSystem.makeDirectories (Path.ofText output).names.length fs
      (Path.ofText output) = .ok made)
    (hplace : made.place (Path.ofText output) = .ok place)
    (hempty : made.entryAt? place = some (.directory []))
    (hfits : ∀ p ∈ dumpedBy services.parser fs sources, ∀ target : Path,
      target.IsImage p (Path.ofText source) (Path.ofText output) → target.Fits) :
    let o := ofArguments services fs arguments
    (∀ p q target image : Path, target.IsImage p (Path.ofText source) (Path.ofText output) →
      image.IsImage q (Path.ofText source) (Path.ofText output) →
        (target = image → p = q) ∧ (target.IsAbove image ↔ Path.Obstructs (Path.ofText source) p q)) ∧
    ((∃ e, o.ending = .escape (.file e)) ↔
      ∃ p ∈ dumpedBy services.parser fs sources, ∃ q ∈ dumpedBy services.parser fs sources,
        Path.Obstructs (Path.ofText source) p q) ∧
    ((∀ e, o.ending ≠ .escape (.file e)) →
      ∀ p ∈ dumpedBy services.parser fs sources, ∃ text bytes, ∃ target : Path,
      dumpOf services.parser fs p = .ok text ∧
        target.IsImage p (Path.ofText source) (Path.ofText output) ∧
        Utf8.encode? (text ++ "\n") = some bytes ∧ o.files.read target.text = .ok bytes) := by
  have hdir := Path.isNameable_ofText hout
  have hbelow : ∀ p ∈ reached (dumpOf services.parser fs) sources,
      p.LiesBelow (Path.ofText source) := fun p hp =>
    (FileSystem.scan_eq_ok hfs hscan).2 p (List.takeWhile_subset _ hp)
  rw [ofArguments_of_read hread]
  refine ⟨fun p q target image htarget himage => ?_, ⟨fun hrefused => ?_, ?_⟩, fun hfile p hp => ?_⟩
  · obtain ⟨first, hfirst, rfl⟩ := Path.isImage_iff.mp htarget
    obtain ⟨second, hsecond, rfl⟩ := Path.isImage_iff.mp himage
    refine ⟨fun hsame => ?_, Path.isAbove_append.trans (hfirst.prefix_iff hsecond)⟩
    rw [Path.append_injective _ hsame] at hfirst
    exact hfirst.source_unique hsecond
  · by_contra hnone
    push Not at hnone
    obtain ⟨e, he⟩ := hrefused
    exact not_refused_of_not_obstructs hfs hscan hdir hmade hplace hempty hfits hnone e he
  · rintro ⟨p, hp, q, hq, hobstructs⟩
    by_contra hfile
    push Not at hfile
    obtain ⟨failures, hsettles⟩ := exists_settles_of_ofParseDir hfs hscan hdir hfile
    exact not_obstructs_of_settles hsettles hbelow hp hq hobstructs
  · obtain ⟨failures, hsettles⟩ := exists_settles_of_ofParseDir hfs hscan hdir hfile
    obtain ⟨hmem, text, hdump⟩ := mem_dumped.mp hp
    obtain ⟨target, bytes, himage, hbytes, hread, -⟩ := hsettles.written hbelow hmem hdump
    exact ⟨text, bytes, target, hdump, himage, hbytes, hread⟩

/-- A tree with a source in a directory of another name, and an output directory that is not there. -/
theorem parseDir_refused_iff_obstructs_nested :
    let src : Entry := .directory [("a.js", .file []), ("b.json", .directory [("a.js", .file [])])]
    let fs : FileSystem := ⟨.directory [("src", src)], []⟩
    let made : FileSystem := ⟨.directory [("src", src), ("out", .directory [])], []⟩
    let arguments : List Text := ["parse-dir", "src", "-o", "out"]
    let sources : List Path := [⟨.relative, ["src", "a.js"]⟩, ⟨.relative, ["src", "b.json", "a.js"]⟩]
    let o := ofArguments .standard fs arguments
    fs.top.IsWellNamed ∧ Services.standard.read fs arguments = .ok (.parseDir "src" "out") ∧
      fs.scan (Path.ofText "src") = .ok sources ∧ Text.pathFlaw? "out" = none ∧
      FileSystem.makeDirectories (Path.ofText "out").names.length fs (Path.ofText "out") = .ok made ∧
      made.place (Path.ofText "out") = .ok ["out"] ∧ made.entryAt? ["out"] = some (.directory []) ∧
      (∀ p ∈ dumpedBy sourceParser fs sources, ∀ target : Path,
        target.IsImage p (Path.ofText "src") (Path.ofText "out") → target.Fits) ∧
      ((∃ e, o.ending = .escape (.file e)) ↔
        ∃ p ∈ dumpedBy sourceParser fs sources, ∃ q ∈ dumpedBy sourceParser fs sources,
          Path.Obstructs (Path.ofText "src") p q) := by
  intro src fs made arguments sources o
  have hinner : Entry.IsWellNamed (.directory [("a.js", .file [])]) :=
    .directory (by decide) (by decide) (List.forall_mem_singleton.mpr (.file _))
  have hsrc : src.IsWellNamed :=
    .directory (by decide) (by decide)
      (List.forall_mem_cons.mpr ⟨.file _, List.forall_mem_singleton.mpr hinner⟩)
  have hfs : fs.top.IsWellNamed :=
    .directory (by decide) (by decide) (List.forall_mem_singleton.mpr hsrc)
  have hread : Services.standard.read fs arguments = .ok (.parseDir "src" "out") := by decide +kernel
  let names : List (List Text) := [["a.js"], ["b.json", "a.js"]]
  have hfiles : src.filesBelow = names := by simp [src, names, Entry.filesBelow, Entry.filesAmong]
  have hsources : sources = names.map (Path.ofText "src").append := by decide +kernel
  have hplace : fs.place (Path.ofText "src") = .ok ["src"] := by decide +kernel
  have hscan : fs.scan (Path.ofText "src") = .ok sources := by
    rw [hsources]
    exact FileSystem.scan_of_sorted hplace rfl (by decide +kernel) hfiles (by decide +kernel)
      (by decide +kernel)
  have hmade : FileSystem.makeDirectories (Path.ofText "out").names.length fs (Path.ofText "out") =
      .ok made := by
    rfl
  have hout : made.place (Path.ofText "out") = .ok ["out"] := by decide +kernel
  have hflaw : Text.pathFlaw? "out" = none := by decide +kernel
  have hfits : ∀ p ∈ dumpedBy sourceParser fs sources, ∀ target : Path,
      target.IsImage p (Path.ofText "src") (Path.ofText "out") → target.Fits := by
    have hall : ∀ p ∈ sources,
        ∀ target ∈ (p.mirror (Path.ofText "src") (Path.ofText "out")).toOption, target.Fits := by
      decide +kernel
    intro p hp target himage
    refine hall p (List.takeWhile_subset _ (mem_dumped.mp hp).1) target ?_
    rw [himage.mirror]
    rfl
  exact ⟨hfs, hread, hscan, hflaw, hmade, hout, rfl, hfits,
    (parseDir_refused_iff_obstructs .standard hfs hread hscan hflaw hmade hout rfl hfits).2.1⟩

/-- A source that lies below a directory which has the name of the image of another one. The image
has been written when a directory has to be made there. -/
theorem parseDir_obstructed :
    let src : Entry := .directory [("a.js", .file []), ("a.js.json", .directory [("b.js", .file [])])]
    let fs : FileSystem := ⟨.directory [("src", src)], []⟩
    let arguments : List Text := ["parse-dir", "src", "-o", "out"]
    let o := ofArguments .standard fs arguments
    fs.top.IsWellNamed ∧ Services.standard.read fs arguments = .ok (.parseDir "src" "out") ∧
      fs.kind? "out" = none ∧
      o.ending = .escape (.file ⟨.occupied, "out/a.js.json"⟩) := by
  intro src fs arguments o
  have hinner : Entry.IsWellNamed (.directory [("b.js", .file [])]) :=
    .directory (by decide) (by decide) (List.forall_mem_singleton.mpr (.file _))
  have hsrc : src.IsWellNamed :=
    .directory (by decide) (by decide)
      (List.forall_mem_cons.mpr ⟨.file _, List.forall_mem_singleton.mpr hinner⟩)
  have hfs : fs.top.IsWellNamed :=
    .directory (by decide) (by decide) (List.forall_mem_singleton.mpr hsrc)
  have hread : Services.standard.read fs arguments = .ok (.parseDir "src" "out") := by decide +kernel
  let names : List (List Text) := [["a.js"], ["a.js.json", "b.js"]]
  have hfiles : src.filesBelow = names := by simp [src, names, Entry.filesBelow, Entry.filesAmong]
  have hplace : fs.place (Path.ofText "src") = .ok ["src"] := by decide +kernel
  have hscan : fs.scan (Path.ofText "src") = .ok (names.map (Path.ofText "src").append) :=
    FileSystem.scan_of_sorted hplace rfl (by decide +kernel) hfiles (by decide +kernel)
      (by decide +kernel)
  have hrefused : (saveAll (Path.ofText "src") (Path.ofText "out")
      ((names.map (Path.ofText "src").append).map fun p => (p, dumpOf sourceParser fs p))
        fs).escape.bind
        Escape.refused? = some ⟨.occupied, "out/a.js.json"⟩ := by
    decide +kernel
  refine ⟨hfs, hread, by decide +kernel, ?_⟩
  obtain ⟨escape, hescape, hfile⟩ := Option.bind_eq_some_iff.mp hrefused
  have ho : o = _ := (ofArguments_of_read hread).trans (ofParseDir_of_scan hscan (List.cons_ne_nil _ _))
  rw [ho]
  exact ending_ofReport.mpr (hescape.trans (congrArg some (Escape.refused?_eq_some.mp hfile)))

end Outcome

end Command

end ScriptTree
