import Parliament.Ballot
import Parliament.Condition.Json
import Parliament.Effect.Json

/-! # Ballots as JSON -/

namespace Parliament

open Json Reader RecordReader

namespace LinkTarget

def toJson : LinkTarget → Json
  | finish => .text "end"
  | ballot id => .obj [("ballot", .ident id)]

def read : Reader LinkTarget
  | _, .text "end" => .ok finish
  | room + 1, .object [(some "ballot", j)] => (Reader.ident room j).map ballot
  | _ + 1, .object [(some "end", .null)] => .ok finish
  | _, _ => .error .malformed

end LinkTarget

namespace Link

def toJson (l : Link) : Json :=
  .obj [("condition", l.condition.toJson), ("target", l.target.toJson)]

def record : RecordReader Link :=
  Link.mk <$> field "condition" Condition.read <*> field "target" LinkTarget.read

end Link

namespace Consequence

def toJson (c : Consequence) : Json :=
  .obj [("effects", .list BallotEffect.toJson c.effects), ("links", .list Link.toJson c.links)]

def record : RecordReader Consequence :=
  Consequence.mk <$> fieldWithDefault "effects" (list BallotEffect.read) []
    <*> fieldWithDefault "links" (list Link.record.reader) []

end Consequence

namespace Ballot

/-- A resolution that is not there is not written. -/
def toJson (b : Ballot) : Json :=
  .obj ([("id", .ident b.id), ("name", .text b.name), ("pass", b.pass.toJson),
      ("fail", b.fail.toJson), ("incident", .bool b.incident)]
    ++ (b.resolution.map fun c => ("resolution", c.toJson)).toList)

def record : RecordReader Ballot :=
  Ballot.mk <$> field "id" Reader.ident <*> field "name" text
    <*> fieldWithDefault "pass" Consequence.record.reader {}
    <*> fieldWithDefault "fail" Consequence.record.reader {}
    <*> fieldWithDefault "incident" bool false
    <*> fieldWithDefault "resolution" Condition.read.nullable none

end Ballot

end Parliament
