import ScriptTree.Json.Token

namespace ScriptTree

namespace Json

/-- An open bracket with what has been read since, the latest first. -/
inductive Frame where
  | items (read : List Json)
  | members (read : List (Text × Json)) (name : Text)

/-- What a reader has read and what may follow. -/
inductive Reading where
  /-- A value follows. -/
  | value (frames : List Frame)
  /-- An array has just been opened: an item or the end follows. -/
  | firstItem (frames : List Frame)
  /-- An object has just been opened: a name or the end follows. -/
  | firstName (frames : List Frame)
  /-- A comma of an object has been read: a name follows. -/
  | name (read : List (Text × Json)) (frames : List Frame)
  /-- A name has been read: a colon follows. -/
  | colon (name : Text) (read : List (Text × Json)) (frames : List Frame)
  /-- A value has just ended. -/
  | ended (value : Json) (frames : List Frame)

namespace Reading

/-- A token where a value must stand. -/
def startValue (frames : List Frame) : Token → Option Reading
  | .scalar s => some (.ended (.leaf s) frames)
  | .beginArray => some (.firstItem frames)
  | .beginObject => some (.firstName frames)
  | _ => none

/-- A token where a name must stand. -/
def startName (read : List (Text × Json)) (frames : List Frame) : Token → Option Reading
  | .scalar (.str key) => some (.colon key read frames)
  | _ => none

/-- A token after a value. -/
def afterValue (v : Json) : List Frame → Token → Option Reading
  | .items read :: frames, .comma => some (.value (.items (v :: read) :: frames))
  | .items read :: frames, .endArray => some (.ended (.arr (v :: read).reverse) frames)
  | .members read key :: frames, .comma => some (.name ((key, v) :: read) frames)
  | .members read key :: frames, .endObject =>
    some (.ended (.obj ((key, v) :: read).reverse) frames)
  | _, _ => none

/-- One token. -/
def step : Reading → Token → Option Reading
  | .value frames, token => startValue frames token
  | .firstItem frames, .endArray => some (.ended (.arr []) frames)
  | .firstItem frames, token => startValue (.items [] :: frames) token
  | .firstName frames, .endObject => some (.ended (.obj []) frames)
  | .firstName frames, token => startName [] frames token
  | .name read frames, token => startName read frames token
  | .colon key read frames, .colon => some (.value (.members read key :: frames))
  | .colon .., _ => none
  | .ended v frames, token => afterValue v frames token

/-- All tokens; the document if they are exactly one. -/
def run : Reading → List Token → Option Json
  | .ended v [], [] => some v
  | _, [] => none
  | reading, token :: tokens => (step reading token).bind fun next => run next tokens

end Reading

/-- The document with the given tokens. -/
def ofTokens? (tokens : List Token) : Option Json := Reading.run (.value []) tokens

/-- The document a text denotes. -/
def read? (t : Text) : Option Json := t.tokens?.bind ofTokens?

end Json

end ScriptTree
