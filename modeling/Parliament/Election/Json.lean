import Parliament.Election
import Parliament.Permissions.Json

/-! # People and elections as JSON -/

namespace Parliament

open Json Reader RecordReader

namespace Person

def toJson (p : Person) : Json := .obj [("id", .ident p.id), ("name", .text p.name)]

def record : RecordReader Person :=
  Person.mk <$> field "id" Reader.ident <*> field "name" text

end Person

namespace Affiliation

def toJson (a : Affiliation) : Json :=
  .obj [("party", .option .ident a.party), ("region", .option .ident a.region)]

def record : RecordReader Affiliation :=
  Affiliation.mk <$> fieldWithDefault "party" Reader.ident.nullable none
    <*> fieldWithDefault "region" Reader.ident.nullable none

end Affiliation

namespace ElectionRequest

def toJson (r : ElectionRequest) : Json :=
  .obj [("kind", .text r.kind.word), ("procedure", .option .ident r.procedure),
    ("target", .ident r.target), ("filters", .idents r.filters), ("random", .bool r.random)]

def record : RecordReader ElectionRequest :=
  ElectionRequest.mk <$> field "kind" (word ElectionKind)
    <*> nullableField "procedure" Reader.ident <*> field "target" Reader.ident
    <*> field "filters" Reader.idents <*> field "random" bool

end ElectionRequest

def orEmpty {α : Type} (r : Reader α) : Reader (IdMap α) :=
  (Reader.idMap r).nullable.map (·.getD .empty)

def ScriptedAnswer.givenRecord : RecordReader Assignments :=
  Assignments.mk <$> fieldWithDefault "roles" (orEmpty Reader.idSet) .empty
    <*> fieldWithDefault "factions" (orEmpty Affiliation.record.reader) .empty

/-- The word `retain`, or an object with the assignments and where they start. -/
def ScriptedAnswer.read : Reader ScriptedAnswer
  | _, .text "retain" => .ok .statusQuo
  | room, j => do
    let given ← givenRecord.reader room j
    match j.field? "mode" with
    | some (.text "replace") => return .replace given
    | some (.text "overlay") => return .overlay given
    | _ => .error .malformed

end Parliament
