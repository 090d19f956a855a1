import Parliament.Json.Reader
import Parliament.Permissions

/-! # Permissions as JSON -/

namespace Parliament

open Json Reader RecordReader

def Json.ident (a : Ident) : Json := .nat a.toNat

def Json.idents (l : List Ident) : Json := .list .ident l

def Json.idSet (s : IdSet) : Json := .idents s.toList

def Json.idMap {α : Type} (f : α → Json) (m : IdMap α) : Json :=
  .obj (m.entries.map fun e => (toString e.1, f e.2))

namespace Permissions

def toJson (p : Permissions) : Json :=
  .obj [("can_vote", .bool p.canVote), ("votes", .nat p.votes.toNat),
    ("can_speak", .bool p.canSpeak)]

def record : RecordReader Permissions :=
  Permissions.mk <$> fieldWithDefault "can_vote" bool standard.canVote
    <*> fieldWithDefault "votes" byte standard.votes
    <*> fieldWithDefault "can_speak" bool standard.canSpeak

end Permissions

namespace Amendment

/-- A field that is not set is not written. -/
def toJson (a : Amendment) : Json :=
  .obj ((a.canVote.map fun b => ("can_vote", Json.bool b)).toList
    ++ (a.votes.map fun n => ("votes", Json.nat n.toNat)).toList
    ++ (a.canSpeak.map fun b => ("can_speak", Json.bool b)).toList)

def record : RecordReader Amendment :=
  Amendment.mk <$> fieldWithDefault "can_vote" bool.nullable none
    <*> fieldWithDefault "votes" byte.nullable none
    <*> fieldWithDefault "can_speak" bool.nullable none

end Amendment

def OverrideTarget.read : Reader OverrideTarget := fun room j => do
  match ← tagged "ids" room j with
  | ("roles", some part) => return .roles (← Reader.idents (room - 1) part)
  | ("person", some part) => return .person (← Reader.ident (room - 1) part)
  | _ => .error .malformed

def Override.record : RecordReader Override :=
  Override.mk <$> field "target" OverrideTarget.read <*> field "composition" Amendment.record.reader

end Parliament
