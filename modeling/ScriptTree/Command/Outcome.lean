import ScriptTree.Command.Message
import ScriptTree.Command.Request
import ScriptTree.Corpus.Run
import ScriptTree.Dump.Schedule
import ScriptTree.Files.Source

namespace ScriptTree

namespace Command

/-- A failure that no command is prepared for. -/
inductive Escape where
  | dump (failure : DumpFailure)
  | settings (error : Corpus.SettingsError)
  | run (failure : Corpus.RunFailure)
  | path (flaw : PathFlaw)
  | mirror (error : Path.MirrorError)
  | file (error : FileError)
  /-- A text to be written holds a surrogate half. -/
  | unencodable

/-- The wording of a failure. -/
def Escape.message : Escape → Text
  | dump e => e.message
  | settings e => e.message
  | run e => e.message
  | path flaw => flaw.message
  | mirror e => e.message
  | file e => e.message
  | unencodable => "surrogates not allowed"

/-- How a command ends. -/
inductive Ending where
  | exit (status : Nat)
  | escape (failure : Escape)

/-- What a command leads to. -/
structure Outcome where
  ending : Ending
  stdout : Text
  stderr : List Message
  files : FileSystem

/-- A source that has no dump: what the failure is called and what it says. -/
structure Failure where
  source : Path
  label : Text
  message : Text
deriving DecidableEq

/-- The row of a failure in a table for the sources below a root. -/
def Failure.row (root : Path) (f : Failure) : Except Path.MirrorError Row := do
  let names ← f.source.relativeTo root
  return ⟨Path.text ⟨.relative, names⟩, f.label, f.message⟩

/-- What writing dumps leads to: the files, the failures in order, and the failure that ended it
early. -/
structure Report where
  files : FileSystem
  failures : List Failure
  escape : Option Escape

/-- The file system after a text has been written to a file that is emptied first, and what went
wrong. -/
def writeText (fs : FileSystem) (file text : Text) : FileSystem × Option Escape :=
  match fs.write file [] with
  | .error e => (fs, some (.file e))
  | .ok opened =>
    match Utf8.encode? text with
    | none => (opened, some .unencodable)
    | some bytes =>
      match opened.write file bytes with
      | .error e => (opened, some (.file e))
      | .ok written => (written, none)

/-- The file system after a dump has been written under its mirrored path, and what went wrong. -/
def saveDump (root output source : Path) (text : Text) (fs : FileSystem) :
    FileSystem × Option Escape :=
  match source.mirror root output with
  | .error e => (fs, some (.mirror e))
  | .ok target =>
    match target.text.pathFlaw? with
    | some flaw => (fs, some (.path flaw))
    | none =>
      match FileSystem.makeDirectories target.names.length fs target.parent with
      | .error e => (fs, some (.file e))
      | .ok made => writeText made target.text (text ++ "\n")

/-- The report on writing dumps one after the other. -/
def saveAll (root output : Path) :
    List (Path × Except DumpFailure Text) → FileSystem → Report
  | [], fs => ⟨fs, [], none⟩
  | (source, .ok text) :: rest, fs =>
    match saveDump root output source text fs with
    | (after, some e) => ⟨after, [], some e⟩
    | (after, none) => saveAll root output rest after
  | (source, .error e) :: rest, fs =>
    match e.label? with
    | none => ⟨fs, [], some (.dump e)⟩
    | some label =>
      let report := saveAll root output rest fs
      { report with failures := ⟨source, label, e.message⟩ :: report.failures }

/-- What the commands are given from elsewhere: a parser of sources, a loader of configuration
documents and a reader of command lines. -/
structure Services where
  parser : SourceParser
  load : Yaml.Loader
  read : Reader

namespace Outcome

/-- An outcome that leaves the files as they are. -/
def plain (fs : FileSystem) (status : Nat) (stdout : Text) (stderr : List Message) : Outcome :=
  ⟨.exit status, stdout, stderr, fs⟩

/-- The outcome of a refused command line. -/
def ofRefused (fs : FileSystem) : Refused → Outcome
  | .misused message => plain fs 2 [] [.verbatim message]
  | .path flaw => ⟨.escape (.path flaw), [], [], fs⟩

/-- The outcome of parsing a file. -/
def ofParse (parser : SourceParser) (fs : FileSystem) (file : Text) : Outcome :=
  match fs.dump parser file with
  | .ok text => plain fs 0 (text ++ "\n") [.echo file]
  | .error e =>
    match e.label? with
    | some label => plain fs 1 [] [.echo file, .failure label e.message]
    | none => ⟨.escape (.dump e), [], [.echo file], fs⟩

/-- The outcome of a report on a number of sources below a root, after what was told before. -/
def ofReport (root output : Path) (count : Nat) (told : List Message) (report : Report) : Outcome :=
  match report.escape with
  | some e => ⟨.escape e, [], told, report.files⟩
  | none =>
    let told := told ++ [.written output.text (count - report.failures.length)]
    match report.failures with
    | [] => plain report.files 0 [] told
    | failures =>
      match failures.mapM (Failure.row root) with
      | .error e => ⟨.escape (.mirror e), [], told, report.files⟩
      | .ok rows => plain report.files 1 [] (told ++ [.failures rows])

/-- The outcome of parsing the sources below a directory. All sources are read before anything is
written. -/
def ofParseDir (parser : SourceParser) (fs : FileSystem) (root output : Path) : Outcome :=
  match fs.scan root with
  | .error e => ⟨.escape (.file e), [], [], fs⟩
  | .ok [] => plain fs 0 [] [.noSources]
  | .ok sources =>
    let paths := sources.map Path.text
    let run := DumpRun.inOrder parser fs paths (List.range paths.length)
    let told := .heading root.text sources.length :: run.announcements.map Message.echo
    ofReport root output sources.length told
      (saveAll root output (sources.zip (run.results?.getD [])) fs)

/-- The outcome of segmenting a corpus with given settings. -/
def ofSettings (fs : FileSystem) (settings : Corpus.Settings) : Outcome :=
  match fs.segment settings with
  | (.ok count, after) => plain after 0 [] [.fixtures settings.output count]
  | (.error (.source (.read e)), after) => plain after 1 [] [.failure "ReadError" e.message]
  | (.error e, after) => ⟨.escape (.run e), [], [], after⟩

/-- The outcome of segmenting a corpus: settings come from a file and from overrides. -/
def ofSegment (load : Yaml.Loader) (fs : FileSystem)
    (config source output template : Option Text) : Outcome :=
  let overrides : Fields (Option Text) :=
    [("source", source), ("output", output), ("template", template)]
  match (fs.settings load config).bind fun s => s.override overrides with
  | .ok settings => ofSettings fs settings
  | .error e =>
    if e.isMistake then plain fs 1 [] [.failure "Invalid configuration" e.message]
    else ⟨.escape (.settings e), [], [], fs⟩

/-- The outcome of a request. -/
def ofRequest (services : Services) (fs : FileSystem) : Request → Outcome
  | .information text => plain fs 0 text []
  | .parse file => ofParse services.parser fs file
  | .parseDir source output =>
    ofParseDir services.parser fs (Path.ofText source) (Path.ofText output)
  | .segment config source output template =>
    ofSegment services.load fs config source output template

/-- The outcome of a command line. -/
def ofArguments (services : Services) (fs : FileSystem) (arguments : List Text) : Outcome :=
  match services.read fs arguments with
  | .ok request => ofRequest services fs request
  | .error refused => ofRefused fs refused

end Outcome

end Command

end ScriptTree
