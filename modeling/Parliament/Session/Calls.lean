import Parliament.Session.Effects

/-! # Calls

A session is driven in this order: the people are registered, setup takes place, and then ballot
follows ballot. A ballot is started, votes and declarations come in, and it is ended, which leads to
the next one or to the end of the session. A call out of turn is a fault.
-/

namespace Parliament.Session

variable {γ α : Type}

structure Outcome (γ α β : Type) where
  answer : β
  session : Session γ α
  signals : List Signal

/-! ## Settling a bundle of effects -/

/-- All elections that are due go to the officer at once. -/
def holdElections [ReturningOfficer α] (s : Session γ α) : Session γ α × List Signal :=
  if s.pendingElections.isEmpty then (s, [])
  else
    let requests := ElectionRequest.arrange s.pendingElections
    let (assignments, officer) := ReturningOfficer.assign s.officer requests s.house.electorate
    let house := s.house.reassign assignments
    ({ s with house := house, officer := officer, pendingElections := [] },
      [.electionPreparing requests s.house.roles s.house.affiliations,
        .electionCompleted house.roles house.affiliations])

def recompose (s : Session γ α) : Except Fault (Session γ α × List Signal) := do
  let permissions ← Permissions.compose s.house.roles s.roleTable
    (s.standingOverrides ++ s.ballotOverrides) s.franchise
  return ({ s with permissions := permissions }, [.permissionsUpdated permissions])

def recomposeIf (needed : Bool) (s : Session γ α) : Except Fault (Session γ α × List Signal) :=
  if needed then s.recompose else .ok (s, [])

/-- Elections come first, because permissions depend on who was elected. -/
def settle [ReturningOfficer α] (s : Session γ α) (c : Changes) :
    Except Fault (Session γ α × List Signal) := do
  let elected := !s.pendingElections.isEmpty
  let (s, elections) := s.holdElections
  let (s, permissions) ← s.recomposeIf (elected || c.permissions)
  let balances := if c.currencies then [Signal.currenciesModified s.house.balances] else []
  let procedures :=
    if c.procedures then [Signal.proceduresModified s.house.activeProcedures] else []
  return (s, elections ++ permissions ++ balances ++ procedures)

/-! ## Before the first ballot -/

/-- Everybody begins as a member, without a faction. A list that is refused changes nothing. -/
def register (s : Session γ α) (people : List Person) :
    Except Fault (Outcome γ α (Except Flaw Unit)) :=
  match s.phase with
  | .uninitialized =>
    match House.register .empty people with
    | .ok roster =>
      .ok ⟨.ok (), { s with house := s.house.seat roster, phase := .initialized }, []⟩
    | .error flaw => .ok ⟨.error flaw, s, []⟩
  | phase => .error (.alreadyInitialized phase)

/-- Everything is announced once, whether or not a procedure touched it. -/
def setUp [Chance γ] [ReturningOfficer α] (s : Session γ α) :
    Except Fault (Outcome γ α Unit) :=
  match s.phase with
  | .initialized => do
    let changes : Changes :=
      { permissions := true, currencies := !s.house.balances.isEmpty, procedures := false }
    let procedures := s.rulebook.procedures.filter (·.kind.isGovernmental)
    let (s, changes) ← s.applyProcedureEffects changes .setup (effectsOf procedures)
    let (s, signals) ← s.settle changes
    return ⟨(), { s with phase := .awaitingBallot none }, signals⟩
  | phase => .error (.setupOutOfTurn phase)

/-! ## Ballots -/

def proceduresFor (s : Session γ α) (ballot : Ident) : List Procedure :=
  s.rulebook.procedures.filter fun p =>
    p.kind.isTargeted && s.house.activeProcedures.contains p.id && p.appliesTo ballot

/-- The floor is cleared and what procedures did to permissions on the ballot before is undone. -/
def clearFloor (s : Session γ α) (started : UInt32) (id : Ident) : Session γ α :=
  { s with
    ballotsStarted := started
    floor := { ballot := id }
    ballotOverrides := []
    franchise := []
    house := { s.house with currentBallot := some id }
    phase := .ballot id .declaring }

def startBallot [Chance γ] [ReturningOfficer α] (s : Session γ α) (id : Ident) :
    Except Fault (Outcome γ α Unit) :=
  match s.phase with
  | .awaitingBallot next =>
    if next.isSome && next != some id then .error (.otherBallotAwaited next id)
    else if (s.rulebook.ballot? id).isNone then .error (.openUnknownBallot id)
    else do
      let first := s.ballotsStarted == 0
      let started ← Count.add s.ballotsStarted 1
      let changes : Changes :=
        { permissions := !s.ballotOverrides.isEmpty || !s.franchise.isEmpty }
      let s := s.clearFloor started id
      let (s, changes) ←
        s.applyProcedureEffects changes (.ballotStart first) (effectsOf (s.proceduresFor id))
      let (s, signals) ← s.settle changes
      return ⟨(), s, signals⟩
  | phase => .error (.ballotOutOfTurn phase)

/-- Somebody without a vote may still abstain. -/
def castVote (s : Session γ α) (person : Ident) (vote : Vote) :
    Except Fault (Outcome γ α Bool) := do
  let _ ← s.openBallotFor .castVote
  match s.permissions.get? person with
  | none => .error (.unknownVoter person)
  | some p =>
    if p.canVote || vote == .abstain then
      let floor := { s.floor with tally := s.floor.tally.record person vote }
      return ⟨true, { s with floor := floor }, []⟩
    else return ⟨false, s, []⟩

def closeDeclarations (s : Session γ α) : Except Fault (Outcome γ α Unit) := do
  let (id, _) ← s.openBallotFor .closeDeclarations
  return ⟨(), { s with phase := .ballot id .deciding }, []⟩

/-- Why a declaration is turned down before it is even tried. -/
def refusal? (s : Session γ α) (stage : Stage) (ballot person : Ident) (p : Procedure)
    (declarers : List Ident) : Except Fault (Option Rejection) :=
  if stage = .deciding then .ok (some .declarationsClosed)
  else if !p.appliesTo ballot then .ok (some .notApplicable)
  else if s.floor.declared.contains p.id then .ok (some .alreadyDeclared)
  else if declarers.isEmpty then .ok none
  else
    match s.house.roles.get? person with
    | some held => .ok (if held.any declarers.contains then none else some .notPermitted)
    | none => .error (.unseated person)

def carryOut [Chance γ] (s : Session γ α) (changes : Changes) (person : Ident) (p : Procedure) :
    Except Fault (Session γ α × Changes) :=
  let floor := { s.floor with declared := s.floor.declared ++ [p.id] }
  { s with floor := floor }.applyProcedureEffects changes (.declared person) (effectsOf [p])

/-- The effects follow only if the declaration is confirmed; a price that was paid stays paid. -/
def declareOpen [Chance γ] [ReturningOfficer α] (s : Session γ α) (person : Ident)
    (p : Procedure) (confirmation : Confirmation) :
    Except Fault (Outcome γ α DeclarationResult) := do
  let live ← s.decision
  let paid ← confirmation.settle (s.ownedCurrency person) s.house.balances live s.chance
  let changes : Changes := { currencies := paid.balances != s.house.balances }
  let s := { s with house := { s.house with balances := paid.balances }, chance := paid.chance }
  let (s, changes) ←
    if paid.result.isConfirmed then s.carryOut changes person p else .ok (s, changes)
  let (s, signals) ← s.settle changes
  return ⟨paid.result, s, signals⟩

def declare [Chance γ] [ReturningOfficer α] (s : Session γ α) (person procedure : Ident) :
    Except Fault (Outcome γ α DeclarationResult) := do
  let (ballot, stage) ← s.openBallotFor .declare
  if !s.house.people.contains person then .error (.unknownDeclarer person)
  let p ← s.procedureDef procedure
  match p.kind with
  | .declared confirmation declarers _ =>
    match ← s.refusal? stage ballot person p declarers with
    | some reason => return ⟨.rejected reason, s, []⟩
    | none => s.declareOpen person p confirmation
  | _ => .error (.notDeclarable procedure)

/-- The host gives the verdict. The record shows the ballot as it stood before its effects settled,
and the links are followed after. -/
def endBallot [ReturningOfficer α] (s : Session γ α) (passed : Bool) :
    Except Fault (Outcome γ α (Option Ident)) := do
  let (id, _) ← s.openBallotFor .endBallot
  let b ← s.ballotDef id
  let consequence := b.consequence passed
  let (s, changes) ← s.applyBallotEffects {} consequence.effects
  let passedBallots :=
    if passed then s.house.passedBallots.insert id else s.house.passedBallots
  let record : BallotRecord := ⟨id, passed, ← s.tallySummary, s.floor.declared⟩
  let s :=
    { s with
      house := { s.house with passedBallots := passedBallots }
      history := s.history ++ [record] }
  let (s, signals) ← s.settle changes
  let next ← consequence.nextBallot s.view
  let phase := if next.isSome then .awaitingBallot next else .terminal
  return ⟨next, { s with house := { s.house with currentBallot := none }, phase := phase },
    .ballotVoted record :: signals⟩

/-! ## All calls -/

inductive Call
  | register (people : List Person)
  | setUp
  | startBallot (id : Ident)
  | castVote (person : Ident) (vote : Vote)
  | closeDeclarations
  | declare (person procedure : Ident)
  | endBallot (passed : Bool)

inductive Reply
  | done
  | refused (flaw : Flaw)
  | voted (counted : Bool)
  | declared (result : DeclarationResult)
  | ended (next : Option Ident)
deriving DecidableEq

def Outcome.map {β δ : Type} (f : β → δ) (o : Outcome γ α β) : Outcome γ α δ :=
  ⟨f o.answer, o.session, o.signals⟩

def perform [Chance γ] [ReturningOfficer α] (s : Session γ α) :
    Call → Except Fault (Outcome γ α Reply)
  | .register people => do
    return (← s.register people).map fun
      | .ok () => .done
      | .error flaw => .refused flaw
  | .setUp => do return (← s.setUp).map fun _ => .done
  | .startBallot id => do return (← s.startBallot id).map fun _ => .done
  | .castVote person vote => do return (← s.castVote person vote).map .voted
  | .closeDeclarations => do return (← s.closeDeclarations).map fun _ => .done
  | .declare person procedure => do return (← s.declare person procedure).map .declared
  | .endBallot passed => do return (← s.endBallot passed).map .ended

end Parliament.Session
