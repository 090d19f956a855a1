import Parliament.Condition
import Parliament.Permissions.Json

/-! # Conditions as JSON

A condition is an object with its shape under `type`. Conditions stand inside one another, so the
number of levels that may be opened bounds how deep the reader goes.
-/

namespace Parliament.Condition

open Json Reader RecordReader

def shape : Condition → String
  | always => "always"
  | never => "never"
  | all _ => "and"
  | any _ => "or"
  | vote _ => "vote"
  | ballotPassed .. => "ballot_passed"
  | passedCount .. => "passed_count"
  | currencyValue .. => "currency_value"
  | procedureActive .. => "procedure_active"

mutual

def toJson : Condition → Json
  | always => .obj [("type", .text "always")]
  | never => .obj [("type", .text "never")]
  | all cs => .obj [("type", .text "and"), ("conditions", .array (toJsons cs))]
  | any cs => .obj [("type", .text "or"), ("conditions", .array (toJsons cs))]
  | vote passed => .obj [("type", .text "vote"), ("passed", .bool passed)]
  | ballotPassed ballot passed =>
    .obj [("type", .text "ballot_passed"), ("ballot", .ident ballot), ("passed", .bool passed)]
  | passedCount comparison value =>
    .obj [("type", .text "passed_count"), ("cmp", .text comparison.word),
      ("value", .nat value.toNat)]
  | currencyValue currency comparison value =>
    .obj [("type", .text "currency_value"), ("currency", .ident currency),
      ("cmp", .text comparison.word), ("value", .int value.toInt)]
  | procedureActive procedure active =>
    .obj [("type", .text "procedure_active"), ("procedure", .ident procedure),
      ("active", .bool active)]

def toJsons : List Condition → List Json
  | [] => []
  | c :: cs => toJson c :: toJsons cs

end

/-- Reads a condition that was set aside where at most `room` levels may be opened. -/
def readAside : (room : Nat) → (inside : Bool) → Json → Except ReadError Condition
  | 0, _ => fun _ => .error .malformed
  | room + 1, inside =>
    let record {α : Type} (x : RecordReader α) := x.reader (room + 1)
    let parts : Reader (List Condition) := list fun _ => readAside room true
    variant inside [
      ("always", bare always),
      ("never", bare never),
      ("and", record (all <$> field "conditions" parts)),
      ("or", record (any <$> field "conditions" parts)),
      ("vote", record (vote <$> field "passed" bool)),
      ("ballot_passed",
        record (ballotPassed <$> field "ballot" Reader.ident <*> field "passed" bool)),
      ("passed_count",
        record (passedCount <$> field "cmp" (word Comparison) <*> field "value" byte)),
      ("currency_value",
        record (currencyValue <$> field "currency" Reader.ident <*> field "cmp" (word Comparison)
          <*> field "value" signedByte)),
      ("procedure_active",
        record (procedureActive <$> field "procedure" Reader.ident <*> field "active" bool))]

def read : Reader Condition := fun room => aside room (readAside room false)

end Parliament.Condition
