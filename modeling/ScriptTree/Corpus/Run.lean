import ScriptTree.Corpus.Settings

namespace ScriptTree

namespace Corpus

/-- Why a run fails. -/
inductive RunFailure where
  | unknownTemplate (name : Text)
  | source (error : SourceError)
  /-- The output cannot be named. -/
  | path (flaw : PathFlaw)
  /-- The output cannot be opened. -/
  | output (error : FileError)
  | fill (error : FillError)
  /-- The stubs hold a surrogate half. -/
  | unencodable
deriving DecidableEq

/-- The wording of a failure to find a template. -/
def unknownTemplateMessage (name : Text) : Text :=
  "Unknown fixture template '" ++ name ++ "'. Must be one of: " ++ Template.nameList

/-- The wording of a failure. -/
def RunFailure.message : RunFailure → Text
  | unknownTemplate name => unknownTemplateMessage name
  | source e => e.message
  | path flaw => flaw.message
  | output e => e.message
  | fill e => e.message
  | unencodable => "surrogates not allowed"

end Corpus

namespace FileSystem

open Corpus

/-- The file system after stubs have been written to a file that has just been emptied. -/
def fillOutput (opened : FileSystem) (output : Text) (template : Template)
    (fixtures : List Fixture) : Except RunFailure Nat × FileSystem :=
  match template.render fixtures with
  | .error e => (.error (.fill e), opened)
  | .ok stubs =>
    match Utf8.encode? stubs with
    | none => (.error .unencodable, opened)
    | some bytes =>
      match opened.write output bytes with
      | .error e => (.error (.output e), opened)
      | .ok written => (.ok fixtures.length, written)

/-- A run: the number of fixtures written, and the file system after it. The corpus is read in full
before the output is opened, and opening it empties it. -/
def segment (fs : FileSystem) (settings : Settings) : Except RunFailure Nat × FileSystem :=
  match Template.named? settings.template with
  | none => (.error (.unknownTemplate settings.template), fs)
  | some template =>
    match fs.source (Path.ofText settings.source) with
    | .error e => (.error (.source e), fs)
    | .ok corpus =>
      match settings.output.pathFlaw? with
      | some flaw => (.error (.path flaw), fs)
      | none =>
        match fs.write settings.output [] with
        | .error e => (.error (.output e), fs)
        | .ok opened => opened.fillOutput settings.output template (Corpus.segment corpus)

end FileSystem

end ScriptTree
