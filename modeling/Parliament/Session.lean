import Parliament.Declaration
import Parliament.Rulebook.Check
import Parliament.Signal

/-! # Sessions

A session holds a rule book and all that has come of it so far. The host drives it by calls; see
`Parliament.Session.Calls`.
-/

namespace Parliament

/-- The types are those of the source of chance, `γ`, and of the returning officer, `α`. -/
structure Session (γ α : Type) where
  rulebook : Rulebook
  roleTable : IdMap Permissions
  house : House
  floor : Floor
  phase : Phase
  permissions : IdMap Permissions
  /-- From governmental procedures; they last as long as the session. -/
  standingOverrides : List Override
  /-- From other procedures; they last as long as the ballot. -/
  ballotOverrides : List Override
  /-- From the last limit on who may vote. -/
  franchise : List (Ident × Amendment)
  pendingElections : List ElectionRequest
  ballotsStarted : UInt32
  /-- The oldest record comes first. -/
  history : List BallotRecord
  chance : γ
  officer : α

namespace Session

variable {γ α : Type}

def start (r : Rulebook) (chance : γ) (officer : α) : Except Flaw (Session γ α) := do
  r.check
  return {
    rulebook := r
    roleTable := r.roleTable
    house := .ofRulebook r
    floor := {}
    phase := .uninitialized
    permissions := .empty
    standingOverrides := []
    ballotOverrides := []
    franchise := []
    pendingElections := []
    ballotsStarted := 0
    history := []
    chance := chance
    officer := officer }

/-! ## Reading a session -/

def view (s : Session γ α) : Condition.View := s.house.view s.floor.tally.forced

def tallySummary (s : Session γ α) : Except Fault TallySummary :=
  s.floor.tally.summary s.permissions

def decision (s : Session γ α) : Except Fault (Option Bool) :=
  s.floor.tally.decision s.permissions

/-- What a person spends: the currency of the party, else of the region, else of the state. -/
def ownedCurrency (s : Session γ α) (person : Ident) : Option Ident :=
  let a := s.house.affiliation person
  (a.party.bind s.rulebook.partyCurrency).or
    ((a.region.bind s.rulebook.regionCurrency).or s.rulebook.stateCurrency)

def names (s : Session γ α) : NameTable :=
  { s.rulebook.nameTable with people := s.house.people.mapEntries fun _ p => p.name }

def ballotDef (s : Session γ α) (id : Ident) : Except Fault Ballot :=
  match s.rulebook.ballot? id with
  | some b => .ok b
  | none => .error (.unknownBallot id)

def procedureDef (s : Session γ α) (id : Ident) : Except Fault Procedure :=
  match s.rulebook.procedure? id with
  | some p => .ok p
  | none => .error (.unknownProcedure id)

def openBallotFor (s : Session γ α) (call : FloorCall) : Except Fault (Ident × Stage) :=
  match s.phase with
  | .ballot id stage => .ok (id, stage)
  | phase => .error (.noBallotOpen call phase)

/-! ## Questions of the host -/

def isDecided (s : Session γ α) : Except Fault (Option Bool) := do
  let _ ← s.openBallotFor .isDecided
  s.decision

def canAfford (s : Session γ α) (person procedure : Ident) : Except Fault Bool := do
  match (← s.procedureDef procedure).confirmation? with
  | some c => c.canAfford (s.ownedCurrency person) s.house.balances
  | none => return false

def incidentOutcome (s : Session γ α) : Except Fault Bool := do
  let (id, _) ← s.openBallotFor .incidentOutcome
  let b ← s.ballotDef id
  match b.incident, b.resolution with
  | true, some c =>
    match c.fixedOutcome with
    | some outcome => return outcome
    | none => c.evaluate s.view
  | _, _ => .error (.notIncident id)

end Session

end Parliament
