import WeatherTables.Json.Token

/-!
# Reading interchange text

The second half of reading: tokens become a value. The reader keeps the containers that are still
open, innermost first, and what may come next; every token either fits or ends the reading. At most
127 containers may be open at once.
-/

set_option autoImplicit false

namespace WeatherTables.Json

/-- A container that is not closed yet. Elements are kept last first. -/
inductive Frame where
  | array (done : List Json)
  | object (done : Members)
  | field (done : Members) (name : String)

/-- What the next token may be. -/
inductive Expected where
  | value
  | elementOrEnd
  | nameOrEnd
  | name
  | colon
  | separator
  deriving DecidableEq, Repr

/-- How far a text has been read. -/
inductive Progress where
  | reading (expected : Expected) (frames : List Frame)
  | complete (value : Json)

/-- How many containers may be open at once. -/
def depthLimit : Nat := 127

/-- What is read after a value has ended. -/
def Progress.afterValue (value : Json) : List Frame → Option Progress
  | [] => some (.complete value)
  | .array done :: frames => some (.reading .separator (.array (value :: done) :: frames))
  | .field done name :: frames =>
    some (.reading .separator (.object (done.insert name value) :: frames))
  | .object _ :: _ => none

/-- What is read after a container has been opened. -/
def Progress.afterOpening (frame : Frame) (expected : Expected) (frames : List Frame) :
    Option Progress :=
  if frames.length < depthLimit then some (.reading expected (frame :: frames)) else none

/-- What is read after a value has begun with the given token. -/
def Progress.startValue (frames : List Frame) : Token → Option Progress
  | .scalar value => afterValue value frames
  | .openArray => afterOpening (.array []) .elementOrEnd frames
  | .openObject => afterOpening (.object []) .nameOrEnd frames
  | _ => none

/-- One token read. -/
def Progress.step : Progress → Token → Option Progress
  | .complete _, _ => none
  | .reading .value frames, token => startValue frames token
  | .reading .elementOrEnd frames, token =>
    match token, frames with
    | .closeArray, .array done :: outer => afterValue (.array done.reverse) outer
    | token, frames => startValue frames token
  | .reading .nameOrEnd (.object done :: outer), .closeObject => afterValue (.object done) outer
  | .reading .nameOrEnd (.object done :: outer), .scalar (.string name) =>
    some (.reading .colon (.field done name :: outer))
  | .reading .name (.object done :: outer), .scalar (.string name) =>
    some (.reading .colon (.field done name :: outer))
  | .reading .colon frames, .colon => some (.reading .value frames)
  | .reading .separator (.array done :: outer), .comma =>
    some (.reading .value (.array done :: outer))
  | .reading .separator (.array done :: outer), .closeArray =>
    afterValue (.array done.reverse) outer
  | .reading .separator (.object done :: outer), .comma =>
    some (.reading .name (.object done :: outer))
  | .reading .separator (.object done :: outer), .closeObject => afterValue (.object done) outer
  | .reading _ _, _ => none

/-- The progress after a run of tokens. -/
def Progress.run (progress : Progress) (tokens : List Token) : Option Progress :=
  tokens.foldlM Progress.step progress

/-- The value that a complete reading arrived at. -/
def Progress.value? : Progress → Option Json
  | .complete value => some value
  | .reading _ _ => none

/-- The value a text denotes, or nothing if the text is not well formed. -/
def read? (s : String) : Option Json := do
  let found ← tokens s.toList
  let progress ← Progress.run (.reading .value []) found
  progress.value?

end WeatherTables.Json
