import ScriptTree.Corpus.Template
import ScriptTree.Files.Source
import ScriptTree.Yaml.Display

namespace ScriptTree

namespace Corpus

/-- The settings of a run. -/
structure Settings where
  source : Text
  output : Text
  template : Text
deriving DecidableEq

/-- Why settings are refused. -/
inductive SettingsError where
  | unknownTemplate (name : Text)
  /-- An override of something that is no setting. -/
  | unknownSetting (name : Text)
  /-- An override under the name by which the settings themselves are known. -/
  | ownName
  /-- The document, or its part about the corpus, is data of a kind without named parts. -/
  | notMapping (kind : Text)
  | path (flaw : PathFlaw)
  | read (error : FileError)
  | document (failure : Yaml.LoadFailure)
  /-- A number is too long to be shown. -/
  | digits (overflow : DigitOverflow)
deriving DecidableEq

/-- The wording of a settings error. -/
def SettingsError.message : SettingsError → Text
  | unknownTemplate name =>
    "Invalid template '" ++ name ++ "'. Must be one of: " ++ Template.nameList
  | unknownSetting name =>
    "SegmenterConfig.__init__() got an unexpected keyword argument '" ++ name ++ "'"
  | ownName => "SegmenterConfig.with_overrides() got multiple values for argument 'self'"
  | notMapping kind => "'" ++ kind ++ "' object has no attribute 'get'"
  | path flaw => flaw.message
  | read e => e.message
  | document failure => failure.message
  | digits e => e.message

/-- Whether a settings error is a mistake in the configuration that the user is told about, or a
failure to make sense of it. -/
def SettingsError.isMistake : SettingsError → Bool
  | unknownTemplate _ => true
  | unknownSetting _ => false
  | ownName => false
  | notMapping _ => false
  | path _ => true
  | read _ => true
  | document failure => failure.isMistake
  | digits _ => true

namespace Settings

/-- The built-in settings. -/
def default : Settings where
  source := "node_modules/everything.js/es5.js"
  output := "es5-2.rs"
  template := "rust"

instance : Inhabited Settings := ⟨default⟩

/-- Settings whose template is known. -/
def checked (s : Settings) : Except SettingsError Settings :=
  match Template.named? s.template with
  | some _ => .ok s
  | none => .error (.unknownTemplate s.template)

/-- The settings with one of them changed. -/
def put (name value : Text) (s : Settings) : Except SettingsError Settings :=
  if name = "source" then .ok { s with source := value }
  else if name = "output" then .ok { s with output := value }
  else if name = "template" then .ok { s with template := value }
  else .error (.unknownSetting name)

/-- The settings with changes made one after the other. -/
def putAll (s : Settings) : Fields Text → Except SettingsError Settings
  | [] => .ok s
  | (name, value) :: rest => do (← s.put name value).putAll rest

/-- The name by which settings are known where they are overridden. -/
def ownName : Text := "self"

/-- The settings with overrides that give a value applied. No override goes by the name of the settings
themselves, whether it gives a value or not. -/
def override (s : Settings) (overrides : Fields (Option Text)) : Except SettingsError Settings :=
  if ownName ∈ overrides.names then .error .ownName
  else do
    let changes := overrides.filterMap fun o => o.2.map fun value => (o.1, value)
    (← s.putAll changes).checked

end Settings

/-- The named parts of data in a document; data that count as absent have none. -/
def namedParts (document data : Yaml.Data) : Except SettingsError (List (Yaml.Data × Yaml.Data)) :=
  match data.resolved document with
  | .mapping _ entries => .ok entries
  | data => if data.isTruthy then .error (.notMapping data.kind) else .ok []

/-- The text of a part; the default if there is no such part. -/
def partText (document : Yaml.Data) (name default : Text) (parts : List (Yaml.Data × Yaml.Data)) :
    Except SettingsError Text :=
  match Yaml.Data.get? name parts with
  | some value => (value.display document).mapError .digits
  | none => .ok default

/-- The part of a document about the corpus. -/
def corpusParts (document : Yaml.Data) : Except SettingsError (List (Yaml.Data × Yaml.Data)) := do
  let parts ← namedParts document document
  match Yaml.Data.get? "corpus" parts with
  | none => .ok []
  | some corpus => namedParts document corpus

namespace Settings

/-- The settings that a document gives. -/
def ofDocument (document : Yaml.Data) : Except SettingsError Settings := do
  let parts ← corpusParts document
  let source ← partText document "source" default.source parts
  let output ← partText document "output" default.output parts
  let template ← partText document "template" default.template parts
  checked { source, output, template }

/-- The file that is read where none is named. -/
def defaultFile : Text := "esdump.yaml"

end Settings

end Corpus

open Corpus in
/-- The settings in a file. -/
def FileSystem.settingsIn (load : Yaml.Loader) (fs : FileSystem) (file : Text) :
    Except SettingsError Settings :=
  match file.pathFlaw? with
  | some flaw => .error (.path flaw)
  | none =>
    match fs.read file with
    | .error e => .error (.read e)
    | .ok bytes =>
      match load file bytes with
      | .error failure => .error (.document failure)
      | .ok document => Settings.ofDocument document

open Corpus in
/-- The settings in a named file, which must be there, or else in the default file, if that is
there. -/
def FileSystem.settings (load : Yaml.Loader) (fs : FileSystem) (file : Option Text) :
    Except SettingsError Settings :=
  match file with
  | some name => fs.settingsIn load name
  | none =>
    if fs.has (Path.ofText Settings.defaultFile) then fs.settingsIn load Settings.defaultFile
    else .ok Settings.default

end ScriptTree
