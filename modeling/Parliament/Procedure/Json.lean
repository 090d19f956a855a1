import Parliament.Effect.Json
import Parliament.Procedure

/-! # Procedures as JSON -/

namespace Parliament

open Json Reader RecordReader

namespace Confirmation

def toJson : Confirmation → Json
  | currencyValue value => .obj [("type", .text "currency_value"), ("value", .int value.toInt)]
  | diceValue value => .obj [("type", .text "dice_value"), ("value", .nat value.toNat)]
  | c => .obj [("type", .text c.word)]

def readAside (room : Nat) (inside : Bool) : Json → Except ReadError Confirmation :=
  variant inside [
    ("always", bare always),
    ("division_chamber", bare divisionChamber),
    ("currency_value", (currencyValue <$> field "value" signedByte).reader room),
    ("dice_value", (diceValue <$> field "value" byte).reader room),
    ("dice_currency", bare diceCurrency),
    ("dice_adversarial", bare diceAdversarial)]

def read : Reader Confirmation := fun room => aside room (readAside room false)

end Confirmation

namespace ProcedureKind

def toJson : ProcedureKind → Json
  | governmental => .obj [("type", .text "governmental")]
  | targeted ballots active =>
    .obj [("type", .text "targeted"), ("ballots", .idents ballots), ("active", .bool active)]
  | declared confirmation declarers ballots =>
    .obj [("type", .text "declared"), ("confirmation", confirmation.toJson),
      ("declarers", .idents declarers), ("ballots", .idents ballots)]

def readAside (room : Nat) : Json → Except ReadError ProcedureKind :=
  variant false [
    ("governmental", bare governmental),
    ("targeted",
      (targeted <$> fieldWithDefault "ballots" Reader.idents []
        <*> fieldWithDefault "active" bool false).reader room),
    ("declared",
      (declared <$> field "confirmation" (fun room => Confirmation.readAside room true)
        <*> fieldWithDefault "declarers" Reader.idents []
        <*> fieldWithDefault "ballots" Reader.idents []).reader room)]

def read : Reader ProcedureKind := fun room => aside room (readAside room)

end ProcedureKind

namespace Procedure

def toJson (p : Procedure) : Json :=
  .obj [("id", .ident p.id), ("name", .text p.name), ("kind", p.kind.toJson),
    ("effects", .list ProcedureEffect.toJson p.effects)]

def record : RecordReader Procedure :=
  Procedure.mk <$> field "id" Reader.ident <*> field "name" text <*> field "kind" ProcedureKind.read
    <*> fieldWithDefault "effects" (list ProcedureEffect.read) []

end Procedure

end Parliament
