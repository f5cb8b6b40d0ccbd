import ScriptTree.Text.Base64
import ScriptTree.Yaml.Data
import ScriptTree.Yaml.Node
import ScriptTree.Yaml.Reading

namespace ScriptTree

namespace Yaml

/-- A table in which members are scattered; its size is a power of two. -/
abbrev Scatter := List (Option Data)

namespace Scatter

/-- The prime of the residues, a power of two less one. -/
def modulus : Nat := 2305843009213693951

/-- A residue with a sign; minus one stands for a failure, so minus two takes its place. -/
def signed (isNegative : Bool) (residue : Nat) : Int :=
  if isNegative then (if residue = 1 then -2 else -residue) else residue

/-- The residue of a number: of a fraction it is that of the numerator times the inverse of the
denominator, a power of two. -/
def residue? : Scalar → Option Int
  | .int i => some (signed (i < 0) (i.natAbs % modulus))
  | .bool b => some (if b then 1 else 0)
  | .float (.infinite isNegative) => some (signed isNegative 314159)
  | .float .nan => none
  | .float x => some (signed x.isNegative (x.units * 16777216 % modulus))
  | _ => none

/-- The residue of a member, if it is a number. -/
def residueOf? : Data → Option Int
  | .scalar s => residue? s
  | _ => none

/-- The least size from `size` on, doubling, that exceeds `bound`; at most `steps` doublings. -/
def sizeAbove (bound : Nat) : Nat → Nat → Nat
  | 0, size => size
  | steps + 1, size => if size ≤ bound then sizeAbove bound steps (size * 2) else size

/-- The size of a table for a number of members. -/
def sizeFor (count : Nat) : Nat := if count < 5 then 8 else sizeAbove (2 * count) count 8

/-- The places that are tried for a residue, in runs of ten where the table has them; `rest` is what
is left of the residue. -/
def places (size : Nat) : Nat → Nat → Nat → List Nat
  | 0, _, _ => []
  | steps + 1, start, rest =>
    let run := if start + 9 < size then (List.range 10).map (start + ·) else [start]
    let rest := rest / 32
    run ++ places size steps ((start * 5 + 1 + rest) % size) rest

/-- A table with a member put at the first free place for its residue. -/
def insert (table : Scatter) (member : Data) (residue : Int) : Scatter :=
  let start := (residue % 18446744073709551616).toNat
  let tried := places table.length (table.length + 16) (start % table.length) start
  match tried.find? fun place => (table.getD place none).isNone with
  | some place => table.set place (some member)
  | none => table

/-- The members of a set in their order: numbers as they are read off the table, other members as they
are written. -/
def order (members : List Data) : List Data :=
  match members.mapM fun d => (residueOf? d).map fun r => (d, r) with
  | some numbers =>
    let empty : Scatter := List.replicate (sizeFor members.length) none
    (numbers.foldl (fun table n => insert table n.1 n.2) empty).filterMap id
  | none => members

end Scatter

/-- Why a document has no data. -/
inductive Defect where
  | fault (fault : Fault)
  | misread (misreading : Misreading)
deriving DecidableEq

namespace Defect

/-- The wording of a defect. -/
def message (file : Text) : Defect → Text
  | fault e => e.message file
  | misread e => e.message

/-- What a defect is called. -/
def label : Defect → Text
  | fault (.noCodePoint number) => if number < 0x80000000 then "ValueError" else "OverflowError"
  | fault (.digits _) => "ValueError"
  | fault .tooDeep => "RecursionError"
  | fault _ => "YAMLError"
  | misread (.notBoolean _) => "KeyError"
  | misread .manyParts => "OverflowError"
  | misread .timestampParts => "TypeError"
  | misread .noDigits => "IndexError"
  | misread .notTimestamp => "AttributeError"
  | misread _ => "ValueError"

/-- Whether a defect tells of a mistake in the document. -/
def isMistake (d : Defect) : Bool := d.label = "YAMLError" || d.label = "ValueError"

end Defect

/-- A result, or a defect and its depth below the top. -/
abbrev Built (α : Type) := Except (Nat × Defect) α

namespace Built

/-- Both results; of two flaws the one nearer to the top, and the first one if none is. -/
def both {α β : Type} (a : Built α) (b : Built β) : Built (α × β) :=
  match a, b with
  | .ok x, .ok y => .ok (x, y)
  | .error e, .ok _ => .error e
  | .ok _, .error e => .error e
  | .error e, .error f => .error (if f.1 < e.1 then f else e)

/-- A problem of a node, as a flaw at a depth. -/
def flaw {α : Type} (depth : Nat) (situation : Option (Situation × Option Mark))
    (problem : Problem) (mark : Mark) : Built α :=
  .error (depth, .fault (.at situation problem mark))

end Built

namespace Node

/-- Whether the tag of a node is a given standard one. -/
def hasTag (name : Text) (n : Node) : Bool := n.tag = standardTag name

mutual

/-- The text of a scalar. A mapping stands for the scalar under its default key. -/
def text (depth : Nat) : Node → Built Text
  | scalar _ _ value => .ok value
  | mapping _ m entries => defaultText depth m entries
  | n => Built.flaw depth none (.expectedNode "a scalar node" n.kind) n.mark

def defaultText (depth : Nat) (m : Mark) : List (Node × Node) → Built Text
  | [] => Built.flaw depth none (.expectedNode "a scalar node" "mapping") m
  | (key, value) :: rest =>
    if key.hasTag "value" then text depth value else defaultText depth m rest

end

/-- A default key as a string. -/
def plainKey : Node → Node
  | scalar tag m value =>
    scalar (if tag = standardTag "value" then standardTag "str" else tag) m value
  | n => n

/-- What a reference from within refers to; other nodes stand for themselves. -/
def resolved (root : Node) : Node → Node
  | enclosing o => (root.find? o).getD (enclosing o)
  | n => n

/-- The entries of a mapping after those that its merge keys bring: the entries of a mapping, or of
the mappings of a sequence, the last one first. A mapping that is being merged already brings
nothing. The number bounds how deep merges are nested. -/
def merged (root : Node) : Nat → List Mark → Node → Except Fault (List (Node × Node))
  | 0, _, _ => throw .tooDeep
  | bound + 1, opened, n => do
    let situation := some (Situation.constructingMapping, some n.mark)
    let ofMapping (what : Text) (value : Node) : Except Fault (List (Node × Node)) :=
      match value with
      | mapping _ m _ =>
        if m ∈ opened then .ok [] else merged root bound (m :: opened) value
      | other => throw (.at situation (.expectedNode what other.kind) other.mark)
    let brought (value : Node) : Except Fault (List (Node × Node)) :=
      match resolved root value with
      | sequence _ _ items => do
        let lists ← items.mapM fun item => ofMapping "a mapping for merging" (resolved root item)
        return lists.reverse.flatten
      | value => ofMapping "a mapping or list of mappings for merging" value
    match n with
    | mapping _ _ entries => do
      let lists ← (entries.filter fun e => e.1.hasTag "merge").mapM fun e => brought e.2
      let own := entries.filter fun e => !e.1.hasTag "merge"
      return lists.flatten ++ own.map fun e => (plainKey e.1, e.2)
    | _ => return []

/-- An escape for a code point. -/
def escapedForm (c : CodePoint) : Text :=
  if c.val < 0x100 then "\\x" ++ Text.hexadecimal 2 c.val
  else if c.val < 0x10000 then "\\u" ++ Text.hexadecimal 4 c.val
  else "\\U" ++ Text.hexadecimal 8 c.val

/-- Where the first run of code points outside ASCII stands, if there is one. -/
def foreignPlace (t : Text) : Option Text :=
  let isAscii := fun c : CodePoint => decide (c.val < 128)
  let first := (t.takeWhile isAscii).length
  match (t.drop first).takeWhile fun c => !isAscii c with
  | [] => none
  | [c] => some ("character '" ++ escapedForm c ++ "' in position " ++ Text.ofNat first)
  | run =>
    some ("characters in position " ++ Text.ofNat first ++ "-"
      ++ Text.ofNat (first + run.length - 1))

/-- The bytes of a scalar in base 64. -/
def bytesOf (depth : Nat) (n : Node) : Built Data := do
  let t ← n.text depth
  match foreignPlace t with
  | some place =>
    Built.flaw depth none
      (.nonAsciiBinary ("'ascii' codec can't encode " ++ place ++ ": ordinal not in range(128)"))
      n.mark
  | none =>
    match Base64.read t with
    | .ok bytes => .ok (.bytes bytes)
    | .error flaw => Built.flaw depth none (.malformedBinary flaw.message) n.mark

/-- A float. Only the NaN with a name of its own is the same wherever it is written. -/
def floatOf (m : Mark) (t : Text) : Except Misreading Data := do
  let x ← Reading.float t
  return if x = .nan && !Reading.namesNan t then .nan m else .scalar (.float x)

/-- A date or a date and time, which only a scalar can be. -/
def timestampOf (n : Node) (t : Text) : Except Misreading Data :=
  match n with
  | scalar .. => Reading.timestamp t
  | _ => .error .timestampParts

/-- The data of a scalar of a given standard tag; none if the tag is not that of scalars. -/
def scalarData? (depth : Nat) (n : Node) : Option (Built Data) :=
  let reading {α : Type} (read : Text → Except Misreading α) (wrap : α → Data) : Built Data := do
    let t ← n.text depth
    match read t with
    | .ok a => .ok (wrap a)
    | .error e => .error (depth, .misread e)
  if n.hasTag "null" then some ((n.text depth).map fun _ => .null)
  else if n.hasTag "bool" then some (reading Reading.boolean fun b => .scalar (.bool b))
  else if n.hasTag "int" then some (reading Reading.integer fun i => .scalar (.int i))
  else if n.hasTag "float" then some (reading (floatOf n.mark) id)
  else if n.hasTag "str" then some ((n.text depth).map .str)
  else if n.hasTag "binary" then some (n.bytesOf depth)
  else if n.hasTag "timestamp" then some (reading (timestampOf n) id)
  else none

/-- The entries of a mapping as data, in order. -/
def entriesOf (build : Nat → Node → Built Data) (depth : Nat) (start : Mark) :
    List (Node × Node) → Built (List (Data × Data))
  | [] => .ok []
  | (key, value) :: rest =>
    let hashable : Built Data :=
      match build depth key with
      | .ok k =>
        if k.isHashable then .ok k
        else Built.flaw depth (some (.constructingMapping, some start)) .unhashableKey key.mark
      | .error e =>
        if e.1 = depth then .error e
        else Built.flaw depth (some (.constructingMapping, some start)) .unhashableKey key.mark
    (Built.both (Built.both hashable (build depth value)) (entriesOf build depth start rest)).map
      fun r => r.1 :: r.2

/-- The data of nodes, in order. -/
def itemsOf (build : Nat → Node → Built Data) (depth : Nat) : List Node → Built (List Data)
  | [] => .ok []
  | n :: rest => (Built.both (build depth n) (itemsOf build depth rest)).map fun r => r.1 :: r.2

/-- The entries of a mapping node with those that its merge keys bring. -/
def mappingEntries (root : Node) (bound : Nat) (build : Nat → Node → Built Data) (depth : Nat)
    (n : Node) : Built (List (Data × Data)) :=
  match n with
  | mapping _ m _ =>
    match merged root bound [m] n with
    | .error e => .error (depth, .fault e)
    | .ok entries => do
      let pairs ← entriesOf build depth m entries
      return pairs.foldl (fun entries e => Data.put e.1 e.2 entries) []
  | n => Built.flaw depth none (.expectedNode "a mapping node" n.kind) n.mark

/-- The pairs of a sequence of mappings with one entry each. -/
def pairsOf (build : Nat → Node → Built Data) (situation : Situation) (depth : Nat) (start : Mark) :
    List Node → Built (List Data)
  | [] => .ok []
  | mapping _ m entries :: rest =>
    match entries with
    | [(key, value)] =>
      (Built.both (Built.both (build depth key) (build depth value))
        (pairsOf build situation depth start rest)).map fun r => .pair r.1.1 r.1.2 :: r.2
    | entries => Built.flaw depth (some (situation, some start)) (.itemCount entries.length) m
  | n :: _ =>
    Built.flaw depth (some (situation, some start)) (.expectedNode "a mapping of length 1" n.kind)
      n.mark

/-- The data of a collection whose pairs are in order. -/
def orderedData (build : Nat → Node → Built Data) (situation : Situation) (depth : Nat) (n : Node) :
    Built Data :=
  match n with
  | sequence _ m items => (pairsOf build situation depth m items).map (.list ⟨false, m⟩)
  | n => Built.flaw depth (some (situation, some n.mark)) (.expectedNode "a sequence" n.kind) n.mark

/-- The data of a collection; its parts lie one level deeper. -/
def collectionData (root : Node) (bound : Nat) (build : Nat → Node → Built Data) (depth : Nat)
    (n : Node) : Built Data :=
  let below := depth + 1
  if n.hasTag "seq" then
    match n with
    | sequence _ m items => (itemsOf build below items).map (.list ⟨false, m⟩)
    | n => Built.flaw below none (.expectedNode "a sequence node" n.kind) n.mark
  else if n.hasTag "map" then
    (mappingEntries root bound build below n).map (.mapping ⟨true, n.mark⟩)
  else if n.hasTag "set" then
    (mappingEntries root bound build below n).map fun entries =>
      .set (Scatter.order (entries.map (·.1)))
  else if n.hasTag "omap" then orderedData build .constructingOrderedMap below n
  else if n.hasTag "pairs" then orderedData build .constructingPairs below n
  else Built.flaw depth none (.unknownTag n.tag) n.mark

/-- The origin of a collection. -/
def origin? : Node → Option Origin
  | sequence _ m _ => some ⟨false, m⟩
  | mapping _ m _ => some ⟨true, m⟩
  | enclosing o => some o
  | scalar .. => none

/-- The data of a node inside of opened collections. The number bounds how deep nodes are nested,
counting what references from within lead to. -/
def build (root : Node) : Nat → List Origin → Nat → Node → Built Data
  | 0, _, depth, _ => .error (depth, .fault .tooDeep)
  | bound + 1, opened, depth, n =>
    match n.origin? with
    | none =>
      (n.scalarData? depth).getD (collectionData root bound (build root bound opened) depth n)
    | some o =>
      if o ∈ opened then .ok (.enclosing o)
      else
        let n := resolved root n
        (n.scalarData? depth).getD
          (collectionData root bound (build root bound (o :: opened)) depth n)

end Node

/-- The data of a document, where nodes are nested to a given depth; none if it is empty. -/
def dataOf (bound : Nat) (document : Option Node) : Except Defect Data :=
  match document with
  | none => .ok .null
  | some root =>
    match Node.build root bound [] 0 root with
    | .ok data => .ok data
    | .error e => .error e.2

end Yaml

end ScriptTree
