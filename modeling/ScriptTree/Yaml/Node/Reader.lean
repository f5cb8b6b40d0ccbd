import ScriptTree.Basic
import ScriptTree.Yaml.Plain
import ScriptTree.Yaml.Token.Lexer

namespace ScriptTree

namespace Yaml

/-- The state of a reader of nodes. -/
structure Reader where
  lexer : Lexer
  /-- What the handles of tags stand for. -/
  handles : Fields Text
  /-- The nodes that anchors name. -/
  anchors : Fields Node

/-- A computation on a reader that may find a fault. -/
abbrev Read := StateT Reader (Except Fault)

namespace Read

/-- Runs a computation on the lexer. -/
def lex {α : Type} (l : Lex α) : Read α := do
  let r ← get
  match l.run r.lexer with
  | .error e => throw e
  | .ok (a, lexer) =>
    set { r with lexer }
    return a

/-- The next token, which stays ahead. -/
def ahead : Read Token := lex Lex.ahead

/-- Takes the next token. -/
def take : Read Token := lex Lex.take

/-- Whether the next token is of one of some kinds. -/
def isAt (test : TokenKind → Bool) : Read Bool := return test (← ahead).kind

/-- A problem at a mark, found in a situation that started at another one. -/
def fail {α : Type} (situation : Option (Situation × Option Mark)) (problem : Problem)
    (mark : Mark) : Read α :=
  throw (.at situation problem mark)

/-- Fails because another token stands ahead than the one that is needed. -/
def wrongToken {α : Type} (situation : Situation) (start : Mark) (problem : Text → Problem) :
    Read α := do
  let t ← ahead
  fail (some (situation, some start)) (problem t.kind.name) t.start

/-- A scalar that is not written. -/
def emptyScalar (mark : Mark) : Node := .scalar (standardTag "null") mark []

/-- The anchor and the tag before a node, and the mark of the first of them. -/
structure Properties where
  anchor : Option Text
  tag : Option Text
  start : Option Mark

/-- The tag that a handle and a suffix denote. -/
def tagOf (start : Mark) (handle : Option Text) (suffix : Text) (mark : Mark) : Read Text := do
  match handle with
  | none => return suffix
  | some handle =>
    match Fields.get? handle (← get).handles with
    | some meaning => return meaning ++ suffix
    | none => fail (some (.parsingNode, some start)) (.undefinedHandle handle) mark

/-- The anchor and the tag before a node, in either order. -/
def properties : Read Properties := do
  let first ← ahead
  match first.kind with
  | .anchor name =>
    discard take
    let second ← ahead
    match second.kind with
    | .tag handle suffix =>
      discard take
      let tag ← tagOf first.start handle suffix second.start
      return { anchor := some name, tag := some tag, start := some first.start }
    | _ => return { anchor := some name, tag := none, start := some first.start }
  | .tag handle suffix =>
    discard take
    let second ← ahead
    match second.kind with
    | .anchor name =>
      discard take
      let tag ← tagOf first.start handle suffix first.start
      return { anchor := some name, tag := some tag, start := some first.start }
    | _ =>
      let tag ← tagOf first.start handle suffix first.start
      return { anchor := none, tag := some tag, start := some first.start }
  | _ => return { anchor := none, tag := none, start := none }

/-- Fails if an anchor names another node already. -/
def checkAnchor (anchor : Option Text) (start : Mark) : Read PUnit := do
  match anchor with
  | none => pure ()
  | some name =>
    match Fields.get? name (← get).anchors with
    | none => pure ()
    | some first =>
      fail (some (.afterAnchor name, some first.mark)) .secondOccurrence start

/-- Lets an anchor name a node. -/
def setAnchor (anchor : Option Text) (node : Node) : Read PUnit := do
  match anchor with
  | none => pure ()
  | some name => modify fun r => { r with anchors := Fields.put name node r.anchors }

/-- A tag that says something: not missing and not a lone exclamation mark. -/
def saidTag (tag : Option Text) : Option Text := tag.filter fun t => t ≠ "!"

/-- A scalar node. Without a tag, what is written without quotes may denote any kind of scalar. -/
def scalarNode (p : Properties) (start : Mark) (value : Text) (isPlain : Bool) : Read Node := do
  checkAnchor p.anchor start
  let isImplied := (isPlain && p.tag.isNone) || p.tag = some "!"
  let tag := (saidTag p.tag).getD (if isImplied then Plain.tag value else standardTag "str")
  let node := .scalar tag start value
  setAnchor p.anchor node
  return node

/-- A collection. Its anchor names it from its start on. -/
def collection (p : Properties) (start : Mark) (isMapping : Bool) (build : Text → Read Node) :
    Read Node := do
  checkAnchor p.anchor start
  setAnchor p.anchor (.enclosing ⟨isMapping, start⟩)
  let node ← build ((saidTag p.tag).getD (standardTag (if isMapping then "map" else "seq")))
  setAnchor p.anchor node
  return node

/-- Repeats a step until it gives a result. Every step but the last takes a token, and there are
at most five tokens for a code point. -/
def loop {σ α : Type} (start : σ) (step : σ → Read (σ ⊕ α)) : Read α := do
  let l := (← get).lexer
  iterate (throw .tooDeep) step (5 * (l.stream.rest.length + l.tokens.length) + 10) start

/-- A dash before an entry. -/
def isEntry : TokenKind → Bool
  | .blockEntry => true
  | _ => false

def isBlockEnd : TokenKind → Bool
  | .blockEnd => true
  | _ => false

/-- The mark of a key. -/
def isKey : TokenKind → Bool
  | .key => true
  | _ => false

/-- The mark of a value. -/
def isValue : TokenKind → Bool
  | .value => true
  | _ => false

def isComma : TokenKind → Bool
  | .flowEntry => true
  | _ => false

/-- A closing bracket. -/
def isSequenceEnd : TokenKind → Bool
  | .flowSequenceEnd => true
  | _ => false

/-- A closing brace. -/
def isMappingEnd : TokenKind → Bool
  | .flowMappingEnd => true
  | _ => false

def isDocumentEnd : TokenKind → Bool
  | .documentEnd => true
  | _ => false

def isStreamEnd : TokenKind → Bool
  | .streamEnd => true
  | _ => false

/-- What cannot be the content of a document that has been started. -/
def isOutsideDocument : TokenKind → Bool
  | .directive _ => true
  | .documentStart => true
  | .documentEnd => true
  | .streamEnd => true
  | _ => false

/-- Where a node stands. -/
inductive Position where
  /-- Between brackets or braces. -/
  | flow
  | block
  /-- In a block mapping, where a sequence need not be indented. -/
  | inMapping
deriving DecidableEq

/-- A node at a position, read by a given reader of nodes. -/
abbrev NodeReader := Position → Read Node

/-- A node after a token that announces one, unless what follows shows that it is not written. -/
def announced (node : NodeReader) (position : Position) (absent : TokenKind → Bool) :
    Read Node := do
  let t ← take
  if ← isAt absent then return emptyScalar t.stop else node position

/-- The entries of a block sequence. -/
def blockSequence (node : NodeReader) (tag : Text) (start : Mark) : Read Node := do
  let opening ← take
  let items ← loop [] fun items => do
    if ← isAt isEntry then
      let item ← announced node .block fun k => isEntry k || isBlockEnd k
      return .inl (item :: items)
    else if ← isAt isBlockEnd then return .inr items.reverse
    else wrongToken .parsingBlockCollection opening.start (.expectedToken "<block end>")
  discard take
  return .sequence tag start items

/-- The entries of a sequence that is not indented. -/
def flatSequence (node : NodeReader) (tag : Text) (start : Mark) : Read Node := do
  let items ← loop [] fun items => do
    if ← isAt isEntry then
      let item ← announced node .block fun k => isEntry k || isKey k || isValue k || isBlockEnd k
      return .inl (item :: items)
    else return .inr items.reverse
  return .sequence tag start items

/-- The entries of a block mapping. -/
def blockMapping (node : NodeReader) (tag : Text) (start : Mark) : Read Node := do
  let opening ← take
  let absent := fun k => isKey k || isValue k || isBlockEnd k
  let entries ← loop [] fun entries => do
    if ← isAt isKey then
      let key ← announced node .inMapping absent
      let value ←
        if ← isAt isValue then announced node .inMapping absent
        else pure (emptyScalar (← ahead).start)
      return .inl ((key, value) :: entries)
    else if ← isAt isBlockEnd then return .inr entries.reverse
    else wrongToken .parsingBlockMapping opening.start (.expectedToken "<block end>")
  discard take
  return .mapping tag start entries

/-- A mapping of one key between the brackets of a sequence. -/
def singlePair (node : NodeReader) : Read Node := do
  let start := (← ahead).start
  let key ← announced node .flow fun k => isValue k || isComma k || isSequenceEnd k
  let value ←
    if ← isAt isValue then announced node .flow fun k => isComma k || isSequenceEnd k
    else pure (emptyScalar (← ahead).start)
  discard ahead
  return .mapping (standardTag "map") start [(key, value)]

/-- The items of a sequence in brackets. -/
def flowSequence (node : NodeReader) (tag : Text) (start : Mark) : Read Node := do
  let opening ← take
  let items ← loop [] fun items => do
    if ← isAt isSequenceEnd then return .inr items.reverse
    if !items.isEmpty then
      if ← isAt isComma then discard take
      else wrongToken .parsingFlowSequence opening.start (.gotToken "',' or ']'")
    if ← isAt isKey then return .inl ((← singlePair node) :: items)
    else if ← isAt isSequenceEnd then return .inr items.reverse
    else return .inl ((← node .flow) :: items)
  discard take
  return .sequence tag start items

/-- The entries of a mapping in braces. -/
def flowMapping (node : NodeReader) (tag : Text) (start : Mark) : Read Node := do
  let opening ← take
  let entries ← loop [] fun entries => do
    if ← isAt isMappingEnd then return .inr entries.reverse
    if !entries.isEmpty then
      if ← isAt isComma then discard take
      else wrongToken .parsingFlowMapping opening.start (.gotToken "',' or '\x7d'")
    if ← isAt isKey then
      let key ← announced node .flow fun k => isValue k || isComma k || isMappingEnd k
      let value ←
        if ← isAt isValue then announced node .flow fun k => isComma k || isMappingEnd k
        else pure (emptyScalar (← ahead).start)
      return .inl ((key, value) :: entries)
    else if ← isAt isMappingEnd then return .inr entries.reverse
    else
      let key ← node .flow
      return .inl ((key, emptyScalar (← ahead).start) :: entries)
  discard take
  return .mapping tag start entries

/-- The node that an alias refers to. -/
def aliased (name : Text) (mark : Mark) : Read Node := do
  discard take
  match Fields.get? name (← get).anchors with
  | some node => return node
  | none => fail none (.undefinedAlias name) mark

/-- A node after its anchor and tag. -/
def content (node : NodeReader) (position : Position) (p : Properties) : Read Node := do
  let t ← ahead
  let start := p.start.getD t.start
  let isBlock := position ≠ .flow
  match t.kind with
  | .scalar value isPlain =>
    discard take
    scalarNode p start value isPlain
  | .flowSequenceStart => collection p start false fun tag => flowSequence node tag start
  | .flowMappingStart => collection p start true fun tag => flowMapping node tag start
  | kind =>
    match kind, position with
    | .blockEntry, .inMapping => collection p start false fun tag => flatSequence node tag start
    | .blockSequenceStart, .block | .blockSequenceStart, .inMapping =>
      collection p start false fun tag => blockSequence node tag start
    | .blockMappingStart, .block | .blockMappingStart, .inMapping =>
      collection p start true fun tag => blockMapping node tag start
    | _, _ =>
      if p.anchor.isSome || p.tag.isSome then scalarNode p start [] (p.tag.isNone)
      else
        let situation := if isBlock then Situation.parsingBlockNode else .parsingFlowNode
        wrongToken situation start (.expectedToken "the node content")

/-- A node, in which nodes may be nested to a given depth. -/
def node : Nat → NodeReader
  | 0, _ => throw .tooDeep
  | n + 1, position => do
    let t ← ahead
    match t.kind with
    | .aliasOf name => aliased name t.start
    | _ => content (node n) position (← properties)

/-- The handles of tags that every document has. -/
def standardHandles : Fields Text := [("!", "!"), ("!!", standard)]

/-- The directives before a document: whether there was a version, and the handles. -/
def directives : Read PUnit := do
  let handles ← loop (false, []) fun (hasVersion, handles) => do
    let t ← ahead
    match t.kind with
    | .directive d =>
      discard take
      match d with
      | .version major _ =>
        if hasVersion then fail none .repeatedVersion t.start
        if major ≠ 1 then fail none .wrongVersion t.start
        return .inl (true, handles)
      | .handle handle meaning =>
        if (Fields.get? handle handles).isSome then fail none (.repeatedHandle handle) t.start
        return .inl (hasVersion, handles ++ [(handle, meaning)])
      | .other => return .inl (hasVersion, handles)
    | _ => return .inr handles
  modify fun r => { r with handles := handles ++ standardHandles }

/-- The start of a document that is announced; none at the end of the stream. -/
def documentStart : Read (Option Mark) := do
  loop () fun _ => do
    if ← isAt isDocumentEnd then
      discard take
      return .inl ()
    else return .inr ()
  if ← isAt isStreamEnd then return none
  else
    let start := (← ahead).start
    directives
    let t ← ahead
    match t.kind with
    | .documentStart =>
      discard take
      return some start
    | kind => fail none (.expectedToken "'<document start>'" kind.name) t.start

/-- The node of a document that has been started. -/
def documentContent (depth : Nat) : Read Node := do
  let t ← ahead
  if isOutsideDocument t.kind then return emptyScalar t.start else node depth .block

def documentEnd : Read PUnit := do
  if ← isAt isDocumentEnd then discard take

/-- The node of a stream; none if it is empty. There must be no second document. -/
def single (depth : Nat) : Read (Option Node) := do
  let t ← ahead
  let isAnnounced := match t.kind with
    | .directive _ => true
    | .documentStart => true
    | .streamEnd => true
    | _ => false
  let document ←
    if isAnnounced then
      match ← documentStart with
      | none => pure none
      | some _ => some <$> documentContent depth
    else some <$> node depth .block
  match document with
  | none => return none
  | some document =>
    documentEnd
    match ← documentStart with
    | none => return some document
    | some second => fail (some (.afterDocument, some document.mark)) .secondDocument second

end Read

/-- The node of a document; none if it is empty. -/
def Node.read (text : Text) : Except Fault (Option Node) :=
  (Read.single (4 * text.length + 16)).run'
    { lexer := Lexer.start text, handles := Read.standardHandles, anchors := [] }

end Yaml

end ScriptTree
