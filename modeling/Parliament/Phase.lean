import Parliament.Ident

/-! # Phases of a session -/

namespace Parliament

inductive Stage
  /-- Votes and declarations are both taken. -/
  | declaring
  /-- Only votes are taken. -/
  | deciding
deriving DecidableEq

inductive Phase
  | uninitialized
  | initialized
  /-- Setup or a ballot is over. The links of that ballot chose `next`; before the first ballot
  nothing is chosen. -/
  | awaitingBallot (next : Option Ident)
  | ballot (id : Ident) (stage : Stage)
  /-- The links of the last ballot led nowhere. -/
  | terminal
deriving DecidableEq

/-! ## How a fault shows them -/

def Ident.shown (a : Ident) : String := s!"Id({a})"

def Ident.shownOption : Option Ident → String
  | none => "None"
  | some a => s!"Some({a.shown})"

def Stage.shown : Stage → String
  | .declaring => "Declaring"
  | .deciding => "Deciding"

def Phase.shown : Phase → String
  | .uninitialized => "Uninitialized"
  | .initialized => "Initialized"
  | .awaitingBallot next => s!"AwaitingBallot \x7b next: {Ident.shownOption next} \x7d"
  | .ballot id stage => s!"Ballot \x7b id: {id.shown}, stage: {stage.shown} \x7d"
  | .terminal => "Terminal"

end Parliament
