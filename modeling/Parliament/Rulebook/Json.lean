import Parliament.Ballot.Json
import Parliament.Json.Parse
import Parliament.Procedure.Json
import Parliament.Rulebook.Check

/-! # Rule books as JSON -/

namespace Parliament

open Json Reader RecordReader

namespace RoleDef

def toJson (d : RoleDef) : Json :=
  .obj [("id", .ident d.id), ("name", .text d.name), ("permissions", d.permissions.toJson)]

def record : RecordReader RoleDef :=
  RoleDef.mk <$> field "id" Reader.ident <*> field "name" text
    <*> fieldWithDefault "permissions" Permissions.record.reader .standard

end RoleDef

namespace FactionDef

def toJson (d : FactionDef) : Json :=
  .obj [("id", .ident d.id), ("name", .text d.name), ("active", .bool d.active)]

def record : RecordReader FactionDef :=
  FactionDef.mk <$> field "id" Reader.ident <*> field "name" text
    <*> fieldWithDefault "active" bool false

end FactionDef

namespace CurrencyOwner

def toJson : CurrencyOwner → Json
  | state => .obj [("type", .text "state")]
  | party id => .obj [("type", .text "party"), ("id", .ident id)]
  | region id => .obj [("type", .text "region"), ("id", .ident id)]

def read : Reader CurrencyOwner := fun room j => do
  match ← tagged "id" room j with
  | ("state", none) | ("state", some .null) => return state
  | ("party", some part) => return party (← Reader.ident (room - 1) part)
  | ("region", some part) => return region (← Reader.ident (room - 1) part)
  | _ => .error .malformed

end CurrencyOwner

namespace CurrencyDef

def toJson (d : CurrencyDef) : Json :=
  .obj [("id", .ident d.id), ("name", .text d.name), ("owner", d.owner.toJson),
    ("initial", .int d.initial.toInt)]

def record : RecordReader CurrencyDef :=
  CurrencyDef.mk <$> field "id" Reader.ident <*> field "name" text
    <*> field "owner" CurrencyOwner.read <*> fieldWithDefault "initial" signedByte 0

end CurrencyDef

namespace Wording

def toJson (w : Wording) : Json := .obj (w.templates.map fun e => (e.1, .text e.2))

def readTemplate (room : Nat) : Option String × Json → Except ReadError (String × String)
  | (some key, j) => (Reader.text room j).map (key, ·)
  | (none, _) => .error .malformed

def read : Reader Wording
  | room + 1, .object fields => (fields.mapM (readTemplate room)).map ofList
  | _, _ => .error .malformed

end Wording

namespace Rulebook

/-- The wording is told apart, because an answer may show only how it differs from the English. -/
def toJsonWith (wording : Json) (r : Rulebook) : Json :=
  .obj [("roles", .list RoleDef.toJson r.roles), ("parties", .list FactionDef.toJson r.parties),
    ("regions", .list FactionDef.toJson r.regions),
    ("currencies", .list CurrencyDef.toJson r.currencies),
    ("procedures", .list Procedure.toJson r.procedures),
    ("ballots", .list Ballot.toJson r.ballots), ("localization", wording)]

def toJson (r : Rulebook) : Json := r.toJsonWith r.wording.toJson

def record : RecordReader Rulebook :=
  Rulebook.mk <$> fieldWithDefault "roles" (list RoleDef.record.reader) []
    <*> fieldWithDefault "parties" (list FactionDef.record.reader) []
    <*> fieldWithDefault "regions" (list FactionDef.record.reader) []
    <*> fieldWithDefault "currencies" (list CurrencyDef.record.reader) []
    <*> fieldWithDefault "procedures" (list Procedure.record.reader) []
    <*> fieldWithDefault "ballots" (list Ballot.record.reader) []
    <*> fieldWithDefault "localization" Wording.read .english

end Rulebook

/-! ## Reading texts -/

/-- What is read comes before what follows it, so a text that is too long is missed last. -/
def Json.readText {α : Type} (r : Reader α) (s : String) : Except ReadError α :=
  let d := parse s
  match r maxDepth d.value with
  | .ok a => if d.trailing then .error .malformed else .ok a
  | .error e => .error e

inductive LoadError
  /-- Nothing there, or bytes that spell no text. -/
  | unreadable
  | json (e : ReadError)
  | flaw (f : Flaw)
deriving DecidableEq

namespace Rulebook

def checked (r : Rulebook) : Except LoadError Rulebook := do
  r.check.mapError .flaw
  return r

def ofText (s : String) : Except LoadError Rulebook :=
  ((readText record.reader s).mapError LoadError.json) >>= checked

def ofBytes (bytes : List UInt8) : Except LoadError Rulebook :=
  match String.fromUTF8? (ByteArray.mk bytes.toArray) with
  | some s => ofText s
  | none => .error .unreadable

end Rulebook

end Parliament
