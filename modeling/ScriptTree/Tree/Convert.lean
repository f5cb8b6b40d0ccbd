import ScriptTree.Tree.Value

namespace ScriptTree

namespace Value

/-- The tree's name for an attribute. -/
def fieldName (key : Text) : Text :=
  if key = "isAsync" then "async" else if key = "allowAwait" then "await" else key

/-- A value that is present and not null. -/
def nonNull? (value : Option Value) : Option Value :=
  value.bind fun v => if v.isNull then none else some v

/-- The pattern of a literal: the one its `regex` object gives, else that of its compiled
value. -/
def regexPattern? (value regex : Value) : Option Value :=
  match nonNull? ((regex.attributes?.getD []) |> Fields.get? "pattern"), value with
  | some p, _ => some p
  | none, pattern source => some (str source)
  | none, _ => none

/-- The flags of a literal: those its `regex` object gives, none if they are absent or empty. -/
def regexFlags (regex : Value) : Value :=
  match (regex.attributes?.getD []) |> Fields.get? "flags" with
  | some flags => if flags.isTruthy then flags else str []
  | none => str []

/-- The `value` field beside a `regex` attribute: a literal if a pattern is known, else the
converted value. -/
def besideRegex (value regex converted : Value) : Value :=
  match regexPattern? value regex with
  | some p => .regex p (regexFlags regex)
  | none => converted

/-- A node if the tag is a string, else a record. -/
def assemble (tag : Option Value) (fields : List (Text × Value)) : Value :=
  match tag with
  | some (scalar (.str t)) => node (.str t) fields
  | _ => record fields

mutual

/-- The tree of a raw value. What is neither raw nor a scalar passes through unchanged, so that
converting twice is converting once. -/
def convert : Value → Value
  | list items => tuple (convertItems items)
  | tuple items => tuple (convertItems items)
  | dict entries =>
    assemble (Fields.get? "type" entries)
      (convertFields (nonNull? (Fields.get? "regex" entries)) entries)
  | bag attributes =>
    assemble (Fields.get? "type" attributes)
      (convertFields (nonNull? (Fields.get? "regex" attributes)) attributes)
  | value => value

def convertItems : List Value → List Value
  | [] => []
  | item :: items => convert item :: convertItems items

/-- The fields of a raw object, given its `regex` attribute. The tag is no field. -/
def convertFields (regex : Option Value) : List (Text × Value) → List (Text × Value)
  | [] => []
  | (key, value) :: rest =>
    if key = "type" then convertFields regex rest
    else
      let converted := match regex with
        | some r => if key = "value" then besideRegex value r (convert value) else convert value
        | none => convert value
      (fieldName key, converted) :: convertFields regex rest

end

end Value

end ScriptTree
