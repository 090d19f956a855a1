import Parliament.Effect
import Parliament.IdSet
import Parliament.Json
import Parliament.Text.Position

/-! # Readers

A reader makes a value of JSON or says what is wrong. Of several things that are wrong it reports
the one that a single pass over the text meets first.
-/

namespace Parliament

inductive ReadError
  /-- Not JSON, or not JSON of the right shape. -/
  | malformed
  | unknownWord (e : UnknownWord)
  | effect (e : EffectError)
deriving DecidableEq

/-- A word that is not known may itself end like a position, and that end is not shown. -/
def ReadError.message? : ReadError → Option String
  | malformed => none
  | unknownWord e => some (Text.withoutPosition e.message)
  | effect e => some e.message

namespace Json

/-- The first argument is how many levels of arrays and objects may still be opened. -/
abbrev Reader (α : Type) := Nat → Json → Except ReadError α

def maxDepth : Nat := 127

namespace Reader

variable {α β : Type}

/-! ## Single values -/

def raw : Reader Json := fun _ j => .ok j

def bool : Reader Bool
  | _, .bool b => .ok b
  | _, _ => .error .malformed

def text : Reader String
  | _, .text s => .ok s
  | _, _ => .error .malformed

def int (low high : Int) : Reader Int
  | _, .int n => if low ≤ n ∧ n ≤ high then .ok n else .error .malformed
  | _, _ => .error .malformed

def map (f : α → β) (r : Reader α) : Reader β := fun room j => (r room j).map f

def byte : Reader UInt8 := (int 0 255).map fun n => n.toNat.toUInt8

def signedByte : Reader Int8 := (int (-128) 127).map Int8.ofInt

def count : Reader UInt32 := (int 0 4294967295).map fun n => n.toNat.toUInt32

def size : Reader Nat := (int 0 18446744073709551615).map Int.toNat

def ident : Reader Ident := byte.map Ident.mk

def word (κ : Type) [Vocabulary κ] : Reader κ := fun room j => do
  match Vocabulary.read κ (← text room j) with
  | .ok k => return k
  | .error e => .error (.unknownWord e)

/-! ## Compound values -/

def nullable (r : Reader α) : Reader (Option α)
  | _, .null => .ok none
  | room, j => (r room j).map some

def list (r : Reader α) : Reader (List α)
  | room + 1, .array items => items.mapM (r room)
  | _, _ => .error .malformed

def idents : Reader (List Ident) := list ident

/-- Where only a number can stand: no sign, and no zero in front. -/
def identOfKey? (key : String) : Option Ident :=
  let digits := key.toList
  if digits.isEmpty || !digits.all Char.isDigit || (digits.head? == some '0' && 1 < digits.length)
      || 3 < digits.length then none
  else
    let n := digits.foldl (fun n c => 10 * n + (c.toNat - '0'.toNat)) 0
    if n ≤ 255 then some ⟨n.toUInt8⟩ else none

def entry (r : Reader α) (room : Nat) (f : Option String × Json) : Except ReadError (Ident × α) :=
  match f.1.bind identOfKey? with
  | none => .error .malformed
  | some id => (r room f.2).map (id, ·)

def idMap (r : Reader α) : Reader (IdMap α)
  | room + 1, .object fields => (fields.mapM (entry r room)).map IdMap.ofList
  | _, _ => .error .malformed

def idSet : Reader IdSet := idents.map IdSet.ofList

end Reader

/-! ## Records

A record is an object with known fields, or an array of their values in order. In an object, fields
that are not known are passed over and those that are known must not repeat. In an array, the last
fields may be left off if they have a default.
-/

/-- The parts of a record, each with its place in the text. -/
structure Parts where
  positional : Bool
  /-- The part that is the given field, by its number or by its name. -/
  find : Nat → String → Option (Nat × Json)
  /-- The place behind all parts. What is missing is missed there. -/
  last : Nat

structure Misreading where
  place : Nat
  error : ReadError

/-- Reads some fields of a record, the first of which has the given number. -/
structure RecordReader (α : Type) where
  names : List String
  read : (room : Nat) → Parts → (number : Nat) → Except Misreading α

namespace RecordReader

variable {α β : Type}

/-- Of two misreadings the one that comes first in the text. -/
def both (f : Except Misreading (α → β)) (x : Except Misreading α) : Except Misreading β :=
  match f, x with
  | .ok f, .ok x => .ok (f x)
  | .ok _, .error e => .error e
  | .error e, .ok _ => .error e
  | .error d, .error e => .error (if e.place < d.place then e else d)

def ap (f : RecordReader (α → β)) (x : RecordReader α) : RecordReader β where
  names := f.names ++ x.names
  read room parts number :=
    both (f.read room parts number) (x.read room parts (number + f.names.length))

def map (f : α → β) (x : RecordReader α) : RecordReader β :=
  ⟨x.names, fun room parts number => (x.read room parts number).map f⟩

instance : Functor RecordReader := { map := map }

instance : Seq RecordReader := ⟨fun f x => ap f (x ())⟩

/-- A field, with what it is if it is missing. -/
def fieldOr (name : String) (r : Reader α) (missing : Parts → Except Misreading α) :
    RecordReader α where
  names := [name]
  read room parts number :=
    match parts.find number name with
    | none => missing parts
    | some (place, j) =>
      match r room j with
      | .ok a => .ok a
      | .error e => .error ⟨place, e⟩

def missed (parts : Parts) : Except Misreading α := .error ⟨parts.last, .malformed⟩

def field (name : String) (r : Reader α) : RecordReader α := fieldOr name r missed

def fieldWithDefault (name : String) (r : Reader α) (default : α) : RecordReader α :=
  fieldOr name r fun _ => .ok default

/-- A field that may be null or left out of an object, but not of an array. -/
def nullableField (name : String) (r : Reader α) : RecordReader (Option α) :=
  fieldOr name r.nullable fun parts => if parts.positional then missed parts else .ok none

/-! ## Reading a whole record -/

/-- The first field that cannot be passed over, be it because it repeats, because its key cannot be
spelled, or because its value is broken. -/
def firstUnfit (names : List String) :
    (place : Nat) → (seen : List String) → List (Option String × Json) → Option Nat
  | _, _, [] => none
  | place, _, (none, _) :: _ => some place
  | place, seen, (some key, j) :: fields =>
    if names.contains key then
      if seen.contains key then some place
      else firstUnfit names (place + 1) (key :: seen) fields
    else if j.isWhole then firstUnfit names (place + 1) seen fields
    else some place

def findField (name : String) : (place : Nat) → List (Option String × Json) → Option (Nat × Json)
  | _, [] => none
  | place, (key, j) :: fields =>
    if key = some name then some (place, j) else findField name (place + 1) fields

def ofFields (fields : List (Option String × Json)) : Parts where
  positional := false
  find _ name := findField name 0 fields
  last := fields.length

def ofItems (items : List Json) : Parts where
  positional := true
  find number _ := items[number]?.map fun j => (number, j)
  last := items.length

def readObject (x : RecordReader α) (room : Nat) (fields : List (Option String × Json)) :
    Except ReadError α :=
  match x.read room (ofFields fields) 0, firstUnfit x.names 0 [] fields with
  | .ok a, none => .ok a
  | .ok _, some _ => .error .malformed
  | .error e, none => .error e.error
  | .error e, some place => .error (if e.place < place then e.error else .malformed)

def readArray (x : RecordReader α) (room : Nat) (items : List Json) : Except ReadError α :=
  match x.read room (ofItems items) 0 with
  | .ok a => if items.length ≤ x.names.length then .ok a else .error .malformed
  | .error e => .error e.error

def reader (x : RecordReader α) : Reader α
  | room + 1, .object fields => x.readObject room fields
  | room + 1, .array items => x.readArray room items
  | _, _ => .error .malformed

end RecordReader

/-! ## Variants

A value of one of several shapes carries a word that tells the shape. The word stands among the
fields under the key `type`, or first in an array, and the rest is read as a record. Because the
word may come last, all of the value is set aside first, so a defect anywhere in it counts at once.
-/

def splitVariant (j : Json) : Option (Json × Json) :=
  match j with
  | .object fields =>
    match fields.partition fun f => f.1 == some "type" with
    | ([(_, shape)], rest) => some (shape, .object rest)
    | _ => none
  | .array (shape :: rest) => some (shape, .array rest)
  | _ => none

/-- A shape by its word. Inside a value that was set aside its number does as well. -/
def shapeOf? {σ : Type} (inside : Bool) (shapes : List (String × σ)) : Json → Option σ
  | .text s => shapes.lookup s
  | .int n => if inside ∧ 0 ≤ n then (shapes[n.toNat]?).map Prod.snd else none
  | _ => none

/-- Each shape comes with a reader of the rest. -/
def variant {α : Type} (inside : Bool) (shapes : List (String × (Json → Except ReadError α)))
    (j : Json) : Except ReadError α :=
  match splitVariant j with
  | none => .error .malformed
  | some (shape, rest) =>
    match shapeOf? inside shapes shape with
    | some read => read rest
    | none => .error .malformed

def aside {α : Type} (room : Nat) (read : Json → Except ReadError α) (j : Json) :
    Except ReadError α :=
  if j.fits room then read j else .error .malformed

/-- A shape without fields leaves no room in an array for more. -/
def bare {α : Type} (a : α) : Json → Except ReadError α
  | .array (_ :: _) => .error .malformed
  | _ => .ok a

/-- A word. It may also be written as the key of an object that holds nothing but a null. -/
def keyword? : Json → Option String
  | .text s => some s
  | .object [(some s, .null)] => some s
  | _ => none

/-- A shape whose one part stands under a key of its own, or behind the shape in an array. -/
def tagged (key : String) : Reader (String × Option Json) := fun room j => do
  let record := Prod.mk <$> RecordReader.field "type" Reader.raw
    <*> RecordReader.fieldOr key (Reader.raw.map some)
      fun parts => if parts.positional then RecordReader.missed parts else .ok none
  match j, ← record.reader room j with
  | .object _, (shape, part) =>
    match keyword? shape with
    | some shape => return (shape, part)
    | none => .error .malformed
  | _, (.text shape, part) => return (shape, part)
  | _, _ => .error .malformed

end Json

end Parliament
