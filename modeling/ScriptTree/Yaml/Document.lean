import ScriptTree.Text.Utf8
import ScriptTree.Yaml.Build
import ScriptTree.Yaml.Node.Reader

namespace ScriptTree

namespace Yaml

/-- A text in which every line ends with a line feed. -/
def unifyLines : Text → Text
  | [] => []
  | [c] => [if c = '\r' then CodePoint.ofChar '\n' else c]
  | c :: d :: rest =>
    if c = '\r' then
      if d = '\n' then unifyLines (d :: rest) else CodePoint.ofChar '\n' :: unifyLines (d :: rest)
    else c :: unifyLines (d :: rest)

/-- The number of bytes that are read at a time. -/
def blockBytes : Nat := 8192

/-- What a block breaks off if it ends inside a sequence. The first two bytes of a surrogate half
count as such a sequence. -/
def brokenOff? (block : List UInt8) (e : Utf8.DecodeError) : Option (List UInt8) :=
  match e.fault, block.drop e.position with
  | .unexpectedEnd, bytes => some bytes
  | .invalidContinuation, [first, second] =>
    if first = 0xED ∧ 0xA0 ≤ second ∧ second ≤ 0xBF then some [first, second] else none
  | _, _ => none

/-- The text of bytes that are read block by block, where `cut` are the bytes of a sequence that the
block before broke off. The place of a fault is that in its block, with what was broken off. -/
def decodeBlocks (cut : List UInt8) : List UInt8 → Except Utf8.DecodeError Text
  | [] => Utf8.decode cut
  | b :: bytes =>
    let block := cut ++ (b :: bytes).take blockBytes
    match Utf8.decode block with
    | .ok text => do return text ++ (← decodeBlocks [] ((b :: bytes).drop blockBytes))
    | .error e =>
      match brokenOff? block e with
      | none => .error e
      | some cut => do
        let text ← Utf8.decode (block.take e.position)
        return text ++ (← decodeBlocks cut ((b :: bytes).drop blockBytes))
termination_by bytes => bytes.length
decreasing_by all_goals simp only [blockBytes, List.length_drop, List.length_cons]; omega

/-- The text of a document's bytes. -/
def decode (bytes : List UInt8) : Except Utf8.DecodeError Text :=
  (decodeBlocks [] bytes).map unifyLines

/-- A code point that a document may hold. -/
def isAllowed (c : CodePoint) : Bool :=
  let n := c.val
  n = 0x9 || n = 0xA || n = 0xD || (0x20 ≤ n && n ≤ 0x7E) || n = 0x85
    || (0xA0 ≤ n && n ≤ 0xD7FF) || (0xE000 ≤ n && n ≤ 0xFFFD) || 0x10000 ≤ n

/-- The first code point that no document may hold, after a number of code points. -/
def forbidden? (position : Nat) : Text → Option Fault
  | [] => none
  | c :: rest =>
    if isAllowed c then forbidden? (position + 1) rest else some (.forbidden c position)

def dataOfText (text : Text) : Except Defect Data :=
  match forbidden? 0 text with
  | some fault => .error (.fault fault)
  | none =>
    match Node.read text with
    | .error fault => .error (.fault fault)
    | .ok document => dataOf ((text.length + 4) * (text.length + 4)) document

/-- The loader of documents. -/
def loader : Loader := fun file bytes =>
  match decode bytes with
  | .error e => .error ⟨"UnicodeDecodeError", e.message, true⟩
  | .ok text => (dataOfText text).mapError fun d => ⟨d.label, d.message file, d.isMistake⟩

end Yaml

end ScriptTree
