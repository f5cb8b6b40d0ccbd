import ScriptTree.Proofs.Command.Reading
import ScriptTree.Proofs.Corpus.Override
import ScriptTree.Proofs.Corpus.Run

namespace ScriptTree

namespace Command

section Settings

open Corpus

variable {load : Yaml.Loader} {fs : FileSystem} {config source output template : Option Text}
  {settings : Settings}

/-- The settings in a file with those of a command line put before them. -/
def configured (load : Yaml.Loader) (fs : FileSystem) (config source output template : Option Text) :
    Except SettingsError Settings :=
  (fs.settings load config).bind fun s =>
    s.override [("source", source), ("output", output), ("template", template)]

/-- A setting on the command line takes the place of the one in the file. -/
theorem override_eq_checked (s : Settings) (source output template : Option Text) :
    s.override [("source", source), ("output", output), ("template", template)]
      = Settings.checked ⟨source.getD s.source, output.getD s.output, template.getD s.template⟩ := by
  cases source <;> cases output <;> cases template <;> rfl

theorem bind_eq_error {α β : Type} {x : Except SettingsError α}
    {f : α → Except SettingsError β} {e : SettingsError}
    (h : x.bind f = .error e) : x = .error e ∨ ∃ a, x = .ok a ∧ f a = .error e := by
  cases x with
  | error other =>
    cases h
    exact Or.inl rfl
  | ok a => exact Or.inr ⟨a, rfl, h⟩

/-- Reading settings fails for data of the wrong kind, by the loader, or by a mistake. -/
def IsLoadFailure (e : SettingsError) : Prop :=
  (∃ kind, e = .notMapping kind) ∨ (∃ failure, e = .document failure) ∨ e.isMistake = true

theorem isLoadFailure_of_namedParts {document data : Yaml.Data} {e : SettingsError}
    (h : namedParts document data = .error e) : IsLoadFailure e := by
  unfold namedParts at h
  split at h
  next => cases h
  next =>
    split at h <;> cases h
    exact Or.inl ⟨_, rfl⟩

theorem isLoadFailure_of_partText {document : Yaml.Data} {name default : Text}
    {parts : List (Yaml.Data × Yaml.Data)}
    {e : SettingsError} (h : partText document name default parts = .error e) : IsLoadFailure e := by
  unfold partText at h
  split at h
  next value hvalue =>
    cases hdisplay : value.display document with
    | error overflow =>
      rw [hdisplay] at h
      cases h
      exact Or.inr (Or.inr rfl)
    | ok t =>
      rw [hdisplay] at h
      cases h
  next => cases h

theorem isLoadFailure_of_ofDocument {document : Yaml.Data} {e : SettingsError}
    (h : Settings.ofDocument document = .error e) : IsLoadFailure e := by
  rcases bind_eq_error h with h | ⟨parts, hparts, h⟩
  · rcases bind_eq_error h with h | ⟨all, hall, h⟩
    · exact isLoadFailure_of_namedParts h
    · split at h
      next => cases h
      next corpus hcorpus => exact isLoadFailure_of_namedParts h
  rcases bind_eq_error h with h | ⟨source, hsource, h⟩
  · exact isLoadFailure_of_partText h
  rcases bind_eq_error h with h | ⟨output, houtput, h⟩
  · exact isLoadFailure_of_partText h
  rcases bind_eq_error h with h | ⟨template, htemplate, h⟩
  · exact isLoadFailure_of_partText h
  · rw [(Settings.checked_eq_error.mp h).2]
    exact Or.inr (Or.inr rfl)

theorem isLoadFailure_of_settingsIn {file : Text} {e : SettingsError}
    (h : fs.settingsIn load file = .error e) :
    IsLoadFailure e := by
  unfold FileSystem.settingsIn at h
  split at h
  next =>
    cases h
    exact Or.inr (Or.inr rfl)
  next =>
    split at h
    next =>
      cases h
      exact Or.inr (Or.inr rfl)
    next =>
      split at h
      next =>
        cases h
        exact Or.inr (Or.inl ⟨_, rfl⟩)
      next => exact isLoadFailure_of_ofDocument h

theorem isLoadFailure_of_configured {e : SettingsError}
    (h : configured load fs config source output template = .error e) :
    IsLoadFailure e := by
  rcases bind_eq_error h with h | ⟨s, hs, h⟩
  · unfold FileSystem.settings at h
    split at h
    next => exact isLoadFailure_of_settingsIn h
    next =>
      split at h
      next => exact isLoadFailure_of_settingsIn h
      next => cases h
  · rw [override_eq_checked] at h
    rw [(Settings.checked_eq_error.mp h).2]
    exact Or.inr (Or.inr rfl)

theorem exists_template_of_configured
    (h : configured load fs config source output template = .ok settings) :
    ∃ template, Template.named? settings.template = some template := by
  rcases hs : fs.settings load config with e | s
  · rw [configured, hs] at h
    cases h
  · rw [configured, hs] at h
    change s.override _ = _ at h
    rw [override_eq_checked] at h
    exact (Settings.checked_eq_ok.mp h).2

end Settings

section Outcome

open Corpus

variable {load : Yaml.Loader} {fs : FileSystem} {config source output template : Option Text}
  {settings : Settings}

/-- What the user is told about where nothing is written: a mistake in the settings, or a corpus
that cannot be read. -/
inductive Diagnoses (fs : FileSystem) : Except SettingsError Settings → Message → Prop where
  | mistake {e : SettingsError} (h : e.isMistake = true) :
    Diagnoses fs (.error e) (.failure "Invalid configuration" e.message)
  | corpus {settings : Settings} {e : ReadError} (h : fs.Refuses settings (.source (.read e))) :
    Diagnoses fs (.ok settings) (.failure "ReadError" e.message)

/-- What the command is not prepared for: settings that are no mapping or that the loader gives up
on, names that no file can have, and an output file that cannot be opened. -/
inductive Unprepared (fs : FileSystem) : Except SettingsError Settings → Escape → Prop where
  | notMapping {kind : Text} : Unprepared fs (.error (.notMapping kind)) (.settings (.notMapping kind))
  | document {failure : Yaml.LoadFailure} (h : failure.isMistake = false) :
    Unprepared fs (.error (.document failure)) (.settings (.document failure))
  | sourceName {settings : Settings} {flaw : PathFlaw}
      (h : (Path.ofText settings.source).text.pathFlaw? = some flaw) :
    Unprepared fs (.ok settings) (.run (.source (.path flaw)))
  | outputName {settings : Settings} {corpus : Text} {flaw : PathFlaw}
      (hsource : fs.Supplies settings corpus) (h : settings.output.pathFlaw? = some flaw) :
    Unprepared fs (.ok settings) (.run (.path flaw))
  | outputFile {settings : Settings} {corpus : Text} {e : FileError}
      (hsource : fs.Supplies settings corpus) (h : fs.write settings.output [] = .error e) :
    Unprepared fs (.ok settings) (.run (.output e))

/-- How a command ends that segments a corpus with some settings: it writes the output file that
they name and no other, or it changes no file and tells what is wrong, or it changes no file and
meets what it is not prepared for. -/
inductive Ends (fs : FileSystem) (settings : Except SettingsError Settings) (o : Outcome) : Prop where
  | written {s : Settings} {bytes : List UInt8} (hsettings : settings = .ok s)
    (hending : o.ending = .exit 0) (hfiles : fs.write s.output bytes = .ok o.files)
    (hothers : ∀ place, place ≠ fs.resolve (Path.ofText s.output) →
      o.files.top.contentAt? place = fs.top.contentAt? place)
  | refused {message : Message} (hending : o.ending = .exit 1) (hfiles : o.files = fs)
    (hstderr : o.stderr = [message]) (h : Diagnoses fs settings message)
  | escaped {e : Escape} (hending : o.ending = .escape e) (hfiles : o.files = fs)
    (h : Unprepared fs settings e)

theorem ends_written {s : Settings} {bytes : List UInt8} {count : Nat} {after : FileSystem}
    (hrun : fs.segment s = (.ok count, after)) (hafter : fs.write s.output bytes = .ok after) :
    Ends fs (.ok s) (Outcome.ofSettings fs s) := by
  have ho : (Outcome.ofSettings fs s).ending = .exit 0 ∧ (Outcome.ofSettings fs s).files = after := by
    rw [Outcome.ofSettings, hrun]
    exact ⟨rfl, rfl⟩
  refine .written rfl ho.1 (ho.2.symm ▸ hafter) fun place hplace => ?_
  rw [ho.2]
  exact (FileSystem.Keeps.of_write hafter).1.content place (by simpa using hplace)

theorem ends_refused {s : Settings} {e : ReadError}
    (hrun : fs.segment s = (.error (.source (.read e)), fs))
    (h : fs.Refuses s (.source (.read e))) : Ends fs (.ok s) (Outcome.ofSettings fs s) := by
  have ho : Outcome.ofSettings fs s = Outcome.plain fs 1 [] [.failure "ReadError" e.message] := by
    rw [Outcome.ofSettings, hrun]
  rw [ho]
  exact .refused rfl rfl rfl (.corpus h)

theorem ends_ofSettings (htemplate : ∃ template, Template.named? settings.template = some template) :
    Ends fs (.ok settings) (Outcome.ofSettings fs settings) := by
  rcases FileSystem.segment_cases fs settings with ⟨failure, hrun, hrefused⟩ |
    ⟨template, corpus, stubs, bytes, after, -, -, -, -, hafter, hrun⟩
  · cases hrefused with
    | template hnone =>
      obtain ⟨template, hsome⟩ := htemplate
      cases hnone.symm.trans hsome
    | sourceFile hread => exact ends_refused hrun (.sourceFile hread)
    | sourceBytes hread hbytes => exact ends_refused hrun (.sourceBytes hread hbytes)
    | sourceName hflaw =>
      refine .escaped ?_ ?_ (.sourceName hflaw) <;> rw [Outcome.ofSettings, hrun]
    | outputName hsource hflaw =>
      refine .escaped ?_ ?_ (.outputName hsource hflaw) <;> rw [Outcome.ofSettings, hrun]
    | outputFile hsource hopen =>
      refine .escaped ?_ ?_ (.outputFile hsource hopen) <;> rw [Outcome.ofSettings, hrun]
  · exact ends_written hrun hafter

theorem ofSegment_of_configured (h : configured load fs config source output template = .ok settings) :
    Outcome.ofSegment load fs config source output template = Outcome.ofSettings fs settings := by
  rw [configured] at h
  rw [Outcome.ofSegment, h]

theorem ofSegment_of_not_configured {e : SettingsError}
    (h : configured load fs config source output template = .error e) :
    Outcome.ofSegment load fs config source output template
      = if e.isMistake then Outcome.plain fs 1 [] [.failure "Invalid configuration" e.message]
        else ⟨.escape (.settings e), [], [], fs⟩ := by
  rw [configured] at h
  rw [Outcome.ofSegment, h]

theorem ends_ofSegment (load : Yaml.Loader) (fs : FileSystem)
    (config source output template : Option Text) :
    Ends fs (configured load fs config source output template)
      (Outcome.ofSegment load fs config source output template) := by
  cases hsettings : configured load fs config source output template with
  | ok settings =>
    rw [ofSegment_of_configured hsettings]
    exact ends_ofSettings (exists_template_of_configured hsettings)
  | error e =>
    rw [ofSegment_of_not_configured hsettings]
    cases hmistake : e.isMistake with
    | true =>
      rw [if_pos rfl]
      exact .refused rfl rfl rfl (.mistake hmistake)
    | false =>
      rw [if_neg Bool.false_ne_true]
      rcases isLoadFailure_of_configured hsettings with ⟨kind, rfl⟩ | ⟨failure, rfl⟩ | htrue
      · exact .escaped rfl rfl .notMapping
      · exact .escaped rfl rfl (.document hmistake)
      · cases hmistake.symm.trans htrue

/-- A command line that asks to segment a corpus, and not for help, is misused, with a status of 2
and no change of any file, or it ends in one of the ways that the settings it names allow, whatever
the loader makes of the document that holds them. -/
theorem Outcome.segment_ends (services : Services) (hlawful : services.read.IsLawful) (fs : FileSystem)
    {arguments : List Text} (hhelp : Text.ofString "--help" ∉ arguments) :
    (∃ message, services.read fs ("segment" :: arguments) = .error (.misused message) ∧
      (ofArguments services fs ("segment" :: arguments)).ending = .exit 2 ∧
      (ofArguments services fs ("segment" :: arguments)).stderr = [.verbatim message] ∧
      (ofArguments services fs ("segment" :: arguments)).files = fs) ∨
    ∃ config source output template,
      services.read fs ("segment" :: arguments) = .ok (.segment config source output template) ∧
      Ends fs (configured services.load fs config source output template)
        (ofArguments services fs ("segment" :: arguments)) := by
  rcases hlawful.segment fs hhelp with ⟨message, hread⟩ | ⟨config, source, output, template, hread⟩
  · have ho : ofArguments services fs ("segment" :: arguments) = ofRefused fs (.misused message) := by
      simp only [ofArguments, hread]
    refine Or.inl ⟨message, hread, ?_⟩
    rw [ho]
    exact ⟨rfl, rfl, rfl⟩
  · have ho : ofArguments services fs ("segment" :: arguments) =
        ofSegment services.load fs config source output template := by
      simp only [ofArguments, hread, ofRequest]
    refine Or.inr ⟨config, source, output, template, hread, ?_⟩
    rw [ho]
    exact ends_ofSegment services.load fs config source output template

/-- A corpus that is also the output file, on a command line without a configuration document. -/
theorem Outcome.segment_ends_in_place :
    let fs : FileSystem := ⟨.directory [("a.js", .file [0x61, 0x3B, 0x0A])], []⟩
    let arguments : List Text := ["--source", "a.js", "-oa.js"]
    let o := ofArguments .standard fs ("segment" :: arguments)
    Services.standard.read.IsLawful ∧ Text.ofString "--help" ∉ arguments ∧
      ((∃ message, Services.standard.read fs ("segment" :: arguments) = .error (.misused message) ∧
        o.ending = .exit 2 ∧ o.stderr = [.verbatim message] ∧ o.files = fs) ∨
      ∃ config source output template,
        Services.standard.read fs ("segment" :: arguments) =
          .ok (.segment config source output template) ∧
        Ends fs (configured Yaml.loader fs config source output template) o) := by
  intro fs arguments o
  have hhelp : Text.ofString "--help" ∉ arguments := by decide
  exact ⟨Request.isLawful_read, hhelp, Outcome.segment_ends .standard Request.isLawful_read fs hhelp⟩

/-- A configuration document that is a list makes the command fail without a status. -/
theorem Outcome.segment_escapes_list :
    let fs : FileSystem := ⟨.directory [("esdump.yaml", .file [0x2D, 0x20, 0x61, 0x0A])], []⟩
    ∃ e, (ofArguments .standard fs ["segment"]).ending = .escape e := by
  intro fs
  have hread : Services.standard.read fs ["segment"] = .ok (.segment none none none none) := by
    decide +kernel
  have hsettings : configured Yaml.loader fs none none none none = .error (.notMapping "list") := by
    decide +kernel
  refine ⟨.settings (.notMapping "list"), ?_⟩
  have ho : ofArguments .standard fs ["segment"] = ofSegment Yaml.loader fs none none none none := by
    rw [ofArguments, hread]
    rfl
  rw [ho, ofSegment_of_not_configured hsettings]
  rfl

end Outcome

end Command

end ScriptTree
