import ScriptTree.Yaml.Fault

namespace ScriptTree

namespace Yaml

/-- A directive at the start of a document. -/
inductive Directive where
  | version (major minor : Nat)
  /-- A handle and what it stands for. -/
  | handle (handle meaning : Text)
  | other

inductive TokenKind where
  | directive (directive : Directive)
  | documentStart
  | documentEnd
  | streamEnd
  | blockSequenceStart
  | blockMappingStart
  | blockEnd
  | flowSequenceStart
  | flowMappingStart
  | flowSequenceEnd
  | flowMappingEnd
  | key
  | value
  | blockEntry
  | flowEntry
  | aliasOf (name : Text)
  | anchor (name : Text)
  /-- A tag: a suffix, after a handle or by itself. -/
  | tag (handle : Option Text) (suffix : Text)
  | scalar (text : Text) (isPlain : Bool)

/-- The name of a kind, as messages show it. -/
def TokenKind.name : TokenKind → Text
  | directive _ => "<directive>"
  | documentStart => "<document start>"
  | documentEnd => "<document end>"
  | streamEnd => "<stream end>"
  | blockSequenceStart => "<block sequence start>"
  | blockMappingStart => "<block mapping start>"
  | blockEnd => "<block end>"
  | flowSequenceStart => "["
  | flowMappingStart => "\x7b"
  | flowSequenceEnd => "]"
  | flowMappingEnd => "\x7d"
  | key => "?"
  | value => ":"
  | blockEntry => "-"
  | flowEntry => ","
  | aliasOf _ => "<alias>"
  | anchor _ => "<anchor>"
  | tag .. => "<tag>"
  | scalar .. => "<scalar>"

/-- A token and the marks before and after it. -/
structure Token where
  kind : TokenKind
  start : Mark
  stop : Mark

end Yaml

end ScriptTree
