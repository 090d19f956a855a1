import Parliament.Json.Token

/-! # Parsing JSON

The tokens build a value with a stack of the arrays and objects that are still open. Where a token
does not fit, a broken value takes its place, and all that is open is closed as it stands.
-/

namespace Parliament.Json

/-- An array or object that is still open. Its parts are held last first. -/
inductive Frame
  | array (items : List Json)
  /-- The key belongs to the value that comes next. -/
  | object (fields : List (Option String × Json)) (key : Option String)

inductive Expectation
  | value
  | valueOrClose
  | key
  | keyOrClose
  | colon
  | commaOrClose

inductive Build
  | unfinished (frames : List Frame) (expected : Expectation)
  | finished (j : Json) (trailing : Bool)

/-- The value is complete and goes where it belongs. -/
def put (j : Json) : List Frame → Build
  | [] => .finished j false
  | .array items :: frames => .unfinished (.array (j :: items) :: frames) .commaOrClose
  | .object fields key :: frames =>
    .unfinished (.object ((key, j) :: fields) none :: frames) .commaOrClose

def closeBroken (j : Json) : Frame → Json
  | .array items => .array (j :: items).reverse
  | .object fields key => .object ((key, j) :: fields).reverse

def abandon (frames : List Frame) : Build :=
  .finished (frames.foldl closeBroken (.defect .broken)) true

def startValue (frames : List Frame) : Token → Build
  | .openArray => .unfinished (.array [] :: frames) .valueOrClose
  | .openObject => .unfinished (.object [] none :: frames) .keyOrClose
  | .scalar j => put j frames
  | .text (some s) => put (.text s) frames
  | .text none => put (.defect .illegible) frames
  | _ => abandon frames

def startField (fields : List (Option String × Json)) (frames : List Frame) : Token → Build
  | .text key => .unfinished (.object fields key :: frames) .colon
  | _ => abandon (.object fields none :: frames)

def buildStep (b : Build) (t : Token) : Build :=
  match b with
  | .finished j _ => .finished j true
  | .unfinished frames expected =>
    match expected, frames, t with
    | .valueOrClose, .array items :: rest, .closeArray => put (.array items.reverse) rest
    | .keyOrClose, .object fields _ :: rest, .closeObject => put (.object fields.reverse) rest
    | .value, _, t | .valueOrClose, _, t => startValue frames t
    | .key, .object fields _ :: rest, t | .keyOrClose, .object fields _ :: rest, t =>
      startField fields rest t
    | .colon, _, .colon => .unfinished frames .value
    | .commaOrClose, .array _ :: _, .comma => .unfinished frames .value
    | .commaOrClose, .object _ _ :: _, .comma => .unfinished frames .key
    | .commaOrClose, .array items :: rest, .closeArray => put (.array items.reverse) rest
    | .commaOrClose, .object fields _ :: rest, .closeObject => put (.object fields.reverse) rest
    | _, _, _ => abandon frames

/-- A value, and whether more than a value was there. -/
structure Document where
  value : Json
  trailing : Bool

def parse (text : String) : Document :=
  match (tokens text.toList).foldl buildStep (.unfinished [] .value) with
  | .finished j trailing => ⟨j, trailing⟩
  | .unfinished frames _ => ⟨frames.foldl closeBroken (.defect .broken), true⟩

end Parliament.Json
