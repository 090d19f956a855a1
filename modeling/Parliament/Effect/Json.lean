import Parliament.Permissions.Json

/-! # Effects as JSON

An effect is read in full before it is checked for soundness.
-/

namespace Parliament

open Json Reader RecordReader

def effectToJson (kind : String) (targets : List Ident) (value : Int8) : Json :=
  .obj [("kind", .text kind), ("targets", .idents targets), ("value", .int value.toInt)]

/-- The parts of an effect that is still to be checked. -/
structure RawEffect (κ : Type) where
  kind : κ
  targets : List Ident
  value : Int8

def RawEffect.record (κ : Type) [Vocabulary κ] : RecordReader (RawEffect κ) :=
  RawEffect.mk <$> field "kind" (word κ) <*> fieldWithDefault "targets" Reader.idents []
    <*> fieldWithDefault "value" signedByte 0

def ProcedureEffect.toJson (e : ProcedureEffect) : Json :=
  effectToJson e.kind.word e.targets e.value

def ProcedureEffect.read : Reader ProcedureEffect := fun room j => do
  let e ← (RawEffect.record ProcedureEffectKind).reader room j
  (make e.kind e.targets e.value).mapError .effect

def BallotEffect.toJson (e : BallotEffect) : Json := effectToJson e.kind.word e.targets e.value

def BallotEffect.read : Reader BallotEffect := fun room j => do
  let e ← (RawEffect.record BallotEffectKind).reader room j
  (make e.kind e.targets e.value).mapError .effect

end Parliament
