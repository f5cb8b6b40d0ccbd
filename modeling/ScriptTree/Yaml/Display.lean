import ScriptTree.Number.Integer
import ScriptTree.Yaml.Data

namespace ScriptTree

namespace Yaml

namespace Data

/-- How a byte is shown between quotes. -/
def byteForm (quote : CodePoint) (b : UInt8) : Text :=
  let c := CodePoint.ofNat b.toNat
  if c = quote ∨ c = '\\' then [CodePoint.ofChar '\\', c]
  else if c = '\t' then "\\t"
  else if c = '\n' then "\\n"
  else if c = '\r' then "\\r"
  else if 32 ≤ c.val ∧ c.val < 127 then [c]
  else "\\x" ++ Text.hexadecimal 2 c.val

/-- Bytes as diagnostics show them. -/
def bytesInspect (bytes : List UInt8) : Text :=
  let quote := Text.quoteMark (bytes.map fun b => CodePoint.ofNat b.toNat)
  CodePoint.ofChar 'b' :: quote :: (bytes.flatMap (byteForm quote) ++ [quote])

/-- A collection that is being shown already. -/
def again (o : Origin) : Text := if o.isMapping then "\x7b...\x7d" else "[...]"

/-- How data without parts are shown inside a container. -/
def inspectScalar (s : Scalar) : Except DigitOverflow Text :=
  match s with
  | .int i => if DigitOverflow.isShowable i then .ok s.inspect else .error .shown
  | s => .ok s.inspect

mutual

/-- Data inside a container, in which some collections are being shown already. A reference to
another collection is shown by `refer`. -/
def inspectWith (refer : List Origin → Origin → Except DigitOverflow Text) (opened : List Origin) :
    Data → Except DigitOverflow Text
  | scalar s => inspectScalar s
  | nan _ => .ok (Double.write Double.plainFormat .nan)
  | bytes b => .ok (bytesInspect b)
  | date d => .ok d.inspect
  | moment m => .ok m.inspect
  | list o items =>
    if o ∈ opened then .ok (again o)
    else do
      let parts ← inspectItems refer (o :: opened) items
      .ok ("[" ++ Text.join ", " parts ++ "]")
  | pair first second => do
    let one ← inspectWith refer opened first
    let other ← inspectWith refer opened second
    .ok ("(" ++ one ++ ", " ++ other ++ ")")
  | mapping o entries =>
    if o ∈ opened then .ok (again o)
    else do
      let parts ← inspectEntries refer (o :: opened) entries
      .ok ("\x7b" ++ Text.join ", " parts ++ "\x7d")
  | set [] => .ok "set()"
  | set members => do
    let parts ← inspectItems refer opened members
    .ok ("\x7b" ++ Text.join ", " parts ++ "\x7d")
  | enclosing o => if o ∈ opened then .ok (again o) else refer opened o

def inspectItems (refer : List Origin → Origin → Except DigitOverflow Text)
    (opened : List Origin) : List Data → Except DigitOverflow (List Text)
  | [] => .ok []
  | item :: items => do
    let first ← inspectWith refer opened item
    let rest ← inspectItems refer opened items
    .ok (first :: rest)

def inspectEntries (refer : List Origin → Origin → Except DigitOverflow Text)
    (opened : List Origin) : List (Data × Data) → Except DigitOverflow (List Text)
  | [] => .ok []
  | (key, value) :: rest => do
    let first ← inspectWith refer opened key
    let second ← inspectWith refer opened value
    let more ← inspectEntries refer opened rest
    .ok ((first ++ ": " ++ second) :: more)

end

/-- Data inside a container, where at most `count` references lead out of what is being shown. -/
def inspectTo (root : Data) : Nat → List Origin → Data → Except DigitOverflow Text
  | 0 => inspectWith fun _ o => .ok (again o)
  | count + 1 => inspectWith fun opened o =>
    match root.find? o with
    | some d => inspectTo root count opened d
    | none => .ok (again o)

mutual

/-- The number of collections in data. -/
def collectionCount : Data → Nat
  | list _ items => collectionCounts items + 1
  | pair first second => collectionCount first + collectionCount second
  | mapping _ entries => entryCounts entries + 1
  | _ => 0

def collectionCounts : List Data → Nat
  | [] => 0
  | d :: rest => collectionCount d + collectionCounts rest

def entryCounts : List (Data × Data) → Nat
  | [] => 0
  | (_, value) :: rest => collectionCount value + entryCounts rest

end

/-- Data of a document by themselves: a string is shown as it is. -/
def display (d document : Data) : Except DigitOverflow Text :=
  match d with
  | scalar (.str t) => .ok t
  | date d => .ok d.display
  | moment m => .ok m.display
  | d => inspectTo document document.collectionCount [] d

end Data

end Yaml

end ScriptTree
