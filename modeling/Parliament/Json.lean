/-! # JSON values

A value as a reader finds it. Fields keep their order and may repeat. What a reader may meet without
being able to use it has a place in the tree as a defect, so that the first defect in the order of
the text is found first.
-/

namespace Parliament

inductive JsonDefect
  /-- A number that is not written as an integer. Nothing here is measured in fractions. -/
  | fraction
  /-- Well formed, but the escapes spell no text or the number is too large to be held. -/
  | illegible
  /-- Here the text stops being JSON. -/
  | broken
deriving DecidableEq

inductive Json
  | null
  | bool (b : Bool)
  | int (n : Int)
  | text (s : String)
  | array (items : List Json)
  /-- A key that cannot be spelled is `none`. -/
  | object (fields : List (Option String × Json))
  | defect (d : JsonDefect)
deriving Inhabited

namespace Json

/-! ## Making values -/

def obj (fields : List (String × Json)) : Json :=
  .object (fields.map fun f => (some f.1, f.2))

def nat (n : Nat) : Json := .int n

def option {α : Type} (f : α → Json) : Option α → Json
  | some a => f a
  | none => .null

def list {α : Type} (f : α → Json) (l : List α) : Json := .array (l.map f)

/-! ## Looking at values -/

/-- The value of the last field of that name. -/
def field? (key : String) : Json → Option Json
  | .object fields => (fields.reverse.find? fun f => f.1 == some key).map Prod.snd
  | _ => none

/-- What has to be known of a value before it is set aside or passed over. -/
structure Survey where
  depth : Nat
  whole : Bool
  legible : Bool
deriving DecidableEq

namespace Survey

def plain : Survey := ⟨0, true, true⟩

def join (a b : Survey) : Survey :=
  ⟨max a.depth b.depth, a.whole && b.whole, a.legible && b.legible⟩

def wrap (a : Survey) : Survey := { a with depth := a.depth + 1 }

def ofKey (key : Option String) : Survey := ⟨0, true, key.isSome⟩

def ofDefect : JsonDefect → Survey
  | .fraction => plain
  | .illegible => ⟨0, true, false⟩
  | .broken => ⟨0, false, false⟩

end Survey

mutual

def survey : Json → Survey
  | .array items => (surveyItems items).wrap
  | .object fields => (surveyFields fields).wrap
  | .defect d => .ofDefect d
  | _ => .plain

def surveyItems : List Json → Survey
  | [] => .plain
  | j :: items => (survey j).join (surveyItems items)

def surveyFields : List (Option String × Json) → Survey
  | [] => .plain
  | (key, j) :: fields => ((Survey.ofKey key).join (survey j)).join (surveyFields fields)

end

def isWhole (j : Json) : Bool := j.survey.whole

/-- The value can be set aside where at most `room` levels may still be opened. -/
def fits (room : Nat) (j : Json) : Bool :=
  j.survey.whole && j.survey.legible && decide (j.survey.depth ≤ room)

end Json

end Parliament
