import ScriptTree.Proofs.Corpus.Override
import ScriptTree.Yaml.Document

namespace ScriptTree

theorem mapError_eq_ok {ε ε' α : Type} {x : Except ε α} {f : ε → ε'} {a : α} :
    x.mapError f = .ok a ↔ x = .ok a := by
  cases x <;> simp [Except.mapError]

theorem toOption_eq_some {ε α : Type} {x : Except ε α} {a : α} : x.toOption = some a ↔ x = .ok a := by
  cases x <;> simp [Except.toOption]

namespace Yaml.Data

/-- The absent value or not. -/
def isNull : Yaml.Data → Bool
  | scalar .null => true
  | _ => false

theorem eq_null_of_isNull {d : Yaml.Data} (h : d.isNull = true) : d = .null := by
  unfold isNull at h
  split at h
  next => rfl
  next => cases h

end Yaml.Data

namespace Corpus

/-- The parts of a document about the corpus, if the document is empty or a mapping in which the
corpus is left out, is null or is a mapping. -/
def configuration? (document : Yaml.Data) : Option (List (Yaml.Data × Yaml.Data)) :=
  match document with
  | .scalar .null => some []
  | .mapping _ entries =>
    match Yaml.Data.get? "corpus" entries with
    | none => some []
    | some (.scalar .null) => some []
    | some corpus =>
      match corpus.resolved document with
      | .mapping _ parts => some parts
      | _ => none
  | _ => none

/-- The text that a document gives to a setting: that of the value under its name, null included, or
the default. -/
def Gives (document : Yaml.Data) (parts : List (Yaml.Data × Yaml.Data))
    (name default t : Text) : Prop :=
  match Yaml.Data.get? name parts with
  | some value => value.display document = .ok t
  | none => t = default

/-- A setting in layers. -/
inductive IsLayered (document : Yaml.Data) (parts : List (Yaml.Data × Yaml.Data))
    (overrides : Overrides) (name default : Text) : Text → Prop where
  | override {t : Text} : overrides.last? name = some t →
      IsLayered document parts overrides name default t
  | value {value : Yaml.Data} {t : Text} : overrides.last? name = none →
      Yaml.Data.get? name parts = some value →
    value ≠ .null → value.display document = .ok t → IsLayered document parts overrides name default t
  | null : overrides.last? name = none → Yaml.Data.get? name parts = some .null →
    IsLayered document parts overrides name default "None"
  | default : overrides.last? name = none → Yaml.Data.get? name parts = none →
    IsLayered document parts overrides name default default

variable {document : Yaml.Data} {parts : List (Yaml.Data × Yaml.Data)}
  {overrides : Overrides} {name default t : Text}

theorem display_null (document : Yaml.Data) : Yaml.Data.null.display document = .ok "None" := by
  change Yaml.Data.inspectTo document document.collectionCount [] .null = _
  cases document.collectionCount <;> rfl

theorem corpusParts_mapping (origin : Yaml.Origin) (entries : List (Yaml.Data × Yaml.Data)) :
    corpusParts (.mapping origin entries) =
      match Yaml.Data.get? "corpus" entries with
      | none => .ok []
      | some corpus => namedParts (.mapping origin entries) corpus :=
  rfl

theorem corpusParts_eq (h : configuration? document = some parts) :
    corpusParts document = .ok parts := by
  unfold configuration? at h
  split at h
  next =>
    cases h
    rfl
  next origin entries =>
    rw [corpusParts_mapping]
    split at h
    next hcorpus =>
      cases h
      rw [hcorpus]
    next hcorpus =>
      cases h
      rw [hcorpus]
      rfl
    next corpus hnull hcorpus =>
      rw [hcorpus]
      split at h
      next hresolved =>
        cases h
        simp only [namedParts, hresolved]
      next => cases h
  next => cases h

theorem partText_eq_ok : partText document name default parts = .ok t ↔
    Gives document parts name default t := by
  rw [partText, Gives]
  cases Yaml.Data.get? name parts with
  | none => exact ⟨fun h => (Except.ok.inj h).symm, fun h => congrArg Except.ok h.symm⟩
  | some value => exact mapError_eq_ok

theorem partText_eq_error {e : SettingsError} (h : partText document name default parts = .error e) :
    ∃ value overflow, Yaml.Data.get? name parts = some value ∧
      value.display document = .error overflow ∧
      e = .digits overflow := by
  rw [partText] at h
  split at h
  next value hvalue =>
    cases hdisplay : value.display document with
    | error overflow =>
      rw [hdisplay] at h
      exact ⟨value, overflow, hvalue, hdisplay, (Except.error.inj h).symm⟩
    | ok text =>
      rw [hdisplay] at h
      cases h
  next => cases h

theorem Gives.unique {t u : Text} (h : Gives document parts name default t)
    (h' : Gives document parts name default u) :
    t = u :=
  Except.ok.inj ((partText_eq_ok.mpr h).symm.trans (partText_eq_ok.mpr h'))

/-- What a document gives and overrides take the place of is layered. -/
theorem Gives.isLayered (h : Gives document parts name default t) (overrides : Overrides) :
    IsLayered document parts overrides name default ((overrides.last? name).getD t) := by
  cases hlast : overrides.last? name with
  | some u => exact .override hlast
  | none =>
    rw [Gives] at h
    cases hvalue : Yaml.Data.get? name parts with
    | none =>
      rw [hvalue] at h
      rw [Option.getD_none, h]
      exact .default hlast hvalue
    | some value =>
      rw [hvalue] at h
      by_cases hnull : value = .null
      · subst hnull
        rw [Option.getD_none, Except.ok.inj (h.symm.trans (display_null document))]
        exact .null hlast hvalue
      · exact .value hlast hvalue hnull h

namespace Settings

/-- Settings as a document gives them. -/
structure IsGiven (document : Yaml.Data) (parts : List (Yaml.Data × Yaml.Data))
    (s : Settings) : Prop where
  source : Gives document parts "source" Settings.default.source s.source
  output : Gives document parts "output" Settings.default.output s.output
  template : Gives document parts "template" Settings.default.template s.template

variable {s t : Settings}

theorem IsGiven.unique (hs : IsGiven document parts s) (ht : IsGiven document parts t) : s = t := by
  obtain ⟨source, output, template⟩ := s
  obtain rfl := hs.source.unique ht.source
  obtain rfl := hs.output.unique ht.output
  obtain rfl := hs.template.unique ht.template
  rfl

theorem IsGiven.exists_text (h : IsGiven document parts s) (hname : name ∈ settingNames)
    {value : Yaml.Data}
    (hvalue : Yaml.Data.get? name parts = some value) : ∃ t, value.display document = .ok t := by
  have hgives {name default t : Text} (hgives : Gives document parts name default t)
      (hvalue : Yaml.Data.get? name parts = some value) : ∃ t, value.display document = .ok t := by
    rw [Gives, hvalue] at hgives
    exact ⟨t, hgives⟩
  simp only [settingNames, List.mem_cons, List.not_mem_nil, or_false] at hname
  rcases hname with rfl | rfl | rfl
  · exact hgives h.source hvalue
  · exact hgives h.output hvalue
  · exact hgives h.template hvalue

/-- Settings that are given under a template which is unknown, or which overrides make unknown. -/
inductive MisnamesTemplate (given : Settings) (overrides : Overrides) : Text → Prop where
  | document : ¬ given.HasTemplate → MisnamesTemplate given overrides given.template
  | overrides : given.HasTemplate → ¬ (given.updated overrides).HasTemplate →
    MisnamesTemplate given overrides (given.updated overrides).template

theorem checked_bind_eq_ok :
    (s.checked.bind fun s => (s.updated overrides).checked) = .ok t ↔
      s.HasTemplate ∧ t.HasTemplate ∧ t = s.updated overrides := by
  by_cases hs : s.HasTemplate
  · rw [checked_eq_ok.mpr ⟨rfl, hs⟩]
    change (s.updated overrides).checked = .ok t ↔ _
    rw [checked_eq_ok, and_iff_right hs, and_comm, eq_comm]
  · rw [checked_eq_error.mpr ⟨hs, rfl⟩]
    exact iff_of_false (by simp [Except.bind]) fun h => hs h.1

theorem checked_bind_eq_error {e : SettingsError} :
    (s.checked.bind fun s => (s.updated overrides).checked) = .error e ↔
      ∃ name, s.MisnamesTemplate overrides name ∧ e = .unknownTemplate name := by
  by_cases hs : s.HasTemplate
  · rw [checked_eq_ok.mpr ⟨rfl, hs⟩]
    change (s.updated overrides).checked = .error e ↔ _
    rw [checked_eq_error]
    constructor
    · rintro ⟨hupdated, rfl⟩
      exact ⟨_, .overrides hs hupdated, rfl⟩
    · rintro ⟨_, hname, rfl⟩
      cases hname with
      | document h => exact absurd hs h
      | overrides _ hupdated => exact ⟨hupdated, rfl⟩
  · rw [checked_eq_error.mpr ⟨hs, rfl⟩]
    constructor
    · intro h
      exact ⟨_, .document hs, (Except.error.inj h).symm⟩
    · rintro ⟨_, hname, rfl⟩
      cases hname with
      | document => rfl
      | overrides h => exact absurd h hs

/-- A document gives settings, or one of the values in it has no text. -/
theorem ofDocument_cases (h : configuration? document = some parts) :
    (∃ s, IsGiven document parts s ∧ ofDocument document = s.checked) ∨
      ∃ name ∈ settingNames, ∃ value overflow, Yaml.Data.get? name parts = some value ∧
        value.display document = .error overflow ∧ ofDocument document = .error (.digits overflow) := by
  have hfailed {name default : Text} {e : SettingsError} (hname : name ∈ settingNames)
      (he : partText document name default parts = .error e)
      (hresult : ofDocument document = .error e) :
      ∃ name ∈ settingNames, ∃ value overflow, Yaml.Data.get? name parts = some value ∧
        value.display document = .error overflow ∧ ofDocument document = .error (.digits overflow) := by
    obtain ⟨value, overflow, hvalue, hdisplay, rfl⟩ := partText_eq_error he
    exact ⟨name, hname, value, overflow, hvalue, hdisplay, hresult⟩
  have hparts := corpusParts_eq h
  cases hsource : partText document "source" Settings.default.source parts with
  | error e =>
    exact Or.inr (hfailed (by decide) hsource
      (by simp only [ofDocument, hparts, hsource, bind, Except.bind]))
  | ok source =>
    cases houtput : partText document "output" Settings.default.output parts with
    | error e =>
      exact Or.inr (hfailed (by decide) houtput
        (by simp only [ofDocument, hparts, hsource, houtput, bind, Except.bind]))
    | ok output =>
      cases htemplate : partText document "template" Settings.default.template parts with
      | error e =>
        exact Or.inr (hfailed (by decide) htemplate
          (by simp only [ofDocument, hparts, hsource, houtput, htemplate, bind, Except.bind]))
      | ok template =>
        refine Or.inl ⟨⟨source, output, template⟩,
          ⟨partText_eq_ok.mp hsource, partText_eq_ok.mp houtput,
          partText_eq_ok.mp htemplate⟩, ?_⟩
        simp only [ofDocument, hparts, hsource, houtput, htemplate, bind, Except.bind]

/-- Overrides of settings only are refused only for the template. -/
theorem override_of_settings (s : Settings) (h : ∀ name ∈ overrides.names, name ∈ settingNames) :
    s.override overrides = (s.updated overrides).checked := by
  have hown : ownName ∉ overrides.names := fun hmem => absurd (h _ hmem) (by decide)
  have hknown : overrides.IsKnown := fun name value hmem => h name (List.mem_map.mpr ⟨_, hmem, rfl⟩)
  rw [override_eq, if_neg hown, Overrides.unknown?_eq_none_iff.mpr hknown]

end Settings

end Corpus

namespace FileSystem

open Corpus

/-- The file that settings are read from: the named one, or else the default one, if that is there. -/
def settingsFile? (fs : FileSystem) (file : Option Text) : Option Text :=
  match file with
  | some name => some name
  | none => if fs.has (Path.ofText Settings.defaultFile) then some Settings.defaultFile else none

/-- What is loaded from the file that settings are read from. -/
def document? (load : Yaml.Loader) (fs : FileSystem) (file : Option Text) : Option Yaml.Data :=
  (fs.settingsFile? file).bind fun name =>
    if name.pathFlaw? = none then (fs.read name).toOption.bind fun bytes => (load name bytes).toOption
    else none

variable {load : Yaml.Loader} {fs : FileSystem} {file : Option Text}
  {document : Yaml.Data} {parts : List (Yaml.Data × Yaml.Data)}
  {overrides : Overrides}

theorem settings_eq_settingsIn {name : Text} (h : fs.settingsFile? file = some name) :
    fs.settings load file = fs.settingsIn load name := by
  cases file with
  | some given =>
    cases h
    rfl
  | none =>
    rw [settingsFile?] at h
    split at h
    next hhas =>
      cases h
      exact if_pos hhas
    next => cases h

theorem settings_eq_ofDocument (h : fs.document? load file = some document) :
    fs.settings load file = Settings.ofDocument document := by
  obtain ⟨name, hname, h⟩ := Option.bind_eq_some_iff.mp h
  split at h
  next hflaw =>
    obtain ⟨bytes, hbytes, h⟩ := Option.bind_eq_some_iff.mp h
    rw [settings_eq_settingsIn hname]
    simp only [settingsIn, hflaw, toOption_eq_some.mp hbytes, toOption_eq_some.mp h]
  next => cases h

/-- The settings in a file with overrides applied. -/
def overridden (load : Yaml.Loader) (fs : FileSystem) (file : Option Text) (overrides : Overrides) :
    Except SettingsError Settings :=
  (fs.settings load file).bind fun s => s.override overrides

theorem overridden_cases (hdocument : fs.document? load file = some document)
    (hparts : configuration? document = some parts)
    (hnames : ∀ name ∈ overrides.names, name ∈ settingNames) :
    (∃ given, Settings.IsGiven document parts given ∧
      fs.overridden load file overrides = given.checked.bind fun s => (s.updated overrides).checked) ∨
    ∃ name ∈ settingNames, ∃ value overflow, Yaml.Data.get? name parts = some value ∧
      value.display document = .error overflow ∧
        fs.overridden load file overrides = .error (.digits overflow) := by
  rw [overridden, settings_eq_ofDocument hdocument]
  rcases Settings.ofDocument_cases hparts with
    ⟨given, hgiven, hs⟩ | ⟨name, hname, value, overflow, hvalue, hdisplay, he⟩
  · refine Or.inl ⟨given, hgiven, ?_⟩
    simp only [hs, fun s => Settings.override_of_settings s hnames]
  · refine Or.inr ⟨name, hname, value, overflow, hvalue, hdisplay, ?_⟩
    rw [he]
    rfl

/-- Settings come in layers: an override, or else what the document gives, or else the default,
where the document may be empty and its part about the corpus left out or null. A null under the
name of a setting gives the text `None`, though. The template of the settings is known; an unknown
one, in the document or after the overrides, is the only mistake beside a value in the document that
has no text. -/
theorem overridden_layers (hdocument : fs.document? load file = some document)
    (hparts : configuration? document = some parts)
    (hnames : ∀ name ∈ overrides.names, name ∈ settingNames) :
    (∀ s, fs.overridden load file overrides = .ok s →
      IsLayered document parts overrides "source" Settings.default.source s.source ∧
      IsLayered document parts overrides "output" Settings.default.output s.output ∧
      IsLayered document parts overrides "template" Settings.default.template s.template ∧
        s.HasTemplate) ∧
    (∀ name, fs.overridden load file overrides = .error (.unknownTemplate name) ↔
      ∃ given, Settings.IsGiven document parts given ∧ given.MisnamesTemplate overrides name) ∧
    ((∃ overflow, fs.overridden load file overrides = .error (.digits overflow)) ↔
      ∃ name ∈ settingNames, ∃ value overflow, Yaml.Data.get? name parts = some value ∧
        value.display document = .error overflow) ∧
    ∀ e, fs.overridden load file overrides = .error e →
      (∃ name, e = .unknownTemplate name) ∨ ∃ overflow, e = .digits overflow := by
  rcases overridden_cases hdocument hparts hnames with
    ⟨given, hgiven, hs⟩ | ⟨name, hname, value, overflow, hvalue, hdisplay, he⟩
  · rw [hs]
    refine ⟨fun s h => ?_, fun name => ?_, ?_, fun e h => ?_⟩
    · obtain ⟨-, htemplate, rfl⟩ := Settings.checked_bind_eq_ok.mp h
      exact ⟨hgiven.source.isLayered overrides, hgiven.output.isLayered overrides,
        hgiven.template.isLayered overrides,
        htemplate⟩
    · rw [Settings.checked_bind_eq_error]
      constructor
      · rintro ⟨_, hname, heq⟩
        cases heq
        exact ⟨given, hgiven, hname⟩
      · rintro ⟨other, hother, hname⟩
        rw [hother.unique hgiven] at hname
        exact ⟨name, hname, rfl⟩
    · constructor
      · rintro ⟨overflow, h⟩
        obtain ⟨name, -, heq⟩ := Settings.checked_bind_eq_error.mp h
        cases heq
      · rintro ⟨name, hname, value, overflow, hvalue, hdisplay⟩
        obtain ⟨t, ht⟩ := hgiven.exists_text hname hvalue
        cases hdisplay.symm.trans ht
    · obtain ⟨name, -, rfl⟩ := Settings.checked_bind_eq_error.mp h
      exact Or.inl ⟨name, rfl⟩
  · rw [he]
    refine ⟨fun s h => ?_, fun other => ?_, ?_, fun e h => ?_⟩
    · cases h
    · refine iff_of_false (by simp) ?_
      rintro ⟨given, hgiven, -⟩
      obtain ⟨t, ht⟩ := hgiven.exists_text hname hvalue
      cases hdisplay.symm.trans ht
    · exact iff_of_true ⟨overflow, rfl⟩ ⟨name, hname, value, overflow, hvalue, hdisplay⟩
    · exact Or.inr ⟨overflow, (Except.error.inj h).symm⟩

/-- A file system with a default file of settings. -/
def configuredBy (content : Text) : FileSystem :=
  ⟨.directory [(Settings.defaultFile, .file ((Utf8.encode? content).getD []))], []⟩

/-- One setting is overridden, one is a number in the document and one is in neither. -/
theorem overridden_layers_number :
    let fs := configuredBy "corpus:\n  output: 0x10\n  source: q\n"
    let overrides : Overrides := [("template", none), ("source", some "a.js")]
    ∃ document parts, fs.document? Yaml.loader none = some document ∧
      configuration? document = some parts ∧
      (∀ name ∈ overrides.names, name ∈ settingNames) ∧
        fs.overridden Yaml.loader none overrides = .ok ⟨"a.js", "16", "rust"⟩ ∧
      IsLayered document parts overrides "source" Settings.default.source "a.js" ∧
      IsLayered document parts overrides "output" Settings.default.output "16" ∧
      IsLayered document parts overrides "template" Settings.default.template "rust" := by
  intro fs overrides
  have hsome : ((fs.document? Yaml.loader none).bind configuration?).isSome = true := by decide +kernel
  obtain ⟨parts, hbind⟩ := Option.isSome_iff_exists.mp hsome
  obtain ⟨document, hdocument, hparts⟩ := Option.bind_eq_some_iff.mp hbind
  have hnames : ∀ name ∈ overrides.names, name ∈ settingNames := by decide
  have hresult : fs.overridden Yaml.loader none overrides = .ok ⟨"a.js", "16", "rust"⟩ := by
    decide +kernel
  obtain ⟨hsource, houtput, htemplate, -⟩ := (overridden_layers hdocument hparts hnames).1 _ hresult
  exact ⟨document, parts, hdocument, hparts, hnames, hresult, hsource, houtput, htemplate⟩

/-- A source that the document gives as null is the file `None`, and not the default one. -/
theorem overridden_null_source :
    let fs := configuredBy "corpus:\n  source: null\n"
    ∃ document parts, fs.document? Yaml.loader none = some document ∧
      configuration? document = some parts ∧
      Yaml.Data.get? "source" parts = some .null ∧
        fs.overridden Yaml.loader none [] = .ok ⟨"None", "es5-2.rs", "rust"⟩ ∧
      Text.ofString "None" ≠ Settings.default.source := by
  intro fs
  have hnull : (((fs.document? Yaml.loader none).bind configuration?).bind
      (Yaml.Data.get? "source")).any Yaml.Data.isNull = true :=
    by decide +kernel
  obtain ⟨value, hvalue, hisNull⟩ := (Option.any_eq_true _ _).mp hnull
  obtain ⟨parts, hbind, hsource⟩ := Option.bind_eq_some_iff.mp hvalue
  obtain ⟨document, hdocument, hparts⟩ := Option.bind_eq_some_iff.mp hbind
  rw [Yaml.Data.eq_null_of_isNull hisNull] at hsource
  exact ⟨document, parts, hdocument, hparts, hsource, by decide +kernel, by decide⟩

end FileSystem

end ScriptTree
