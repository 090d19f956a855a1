import Parliament.Flaw
import Parliament.Phase

/-! # Faults

A fault is a mistake of the host: a call out of turn, a name that was never announced. It ends the
session, unlike a refusal, which is an answer.
-/

namespace Parliament

inductive FloorCall
  | castVote
  | closeDeclarations
  | declare
  | isDecided
  | incidentOutcome
  | endBallot
deriving DecidableEq

def FloorCall.word : FloorCall → String
  | .castVote => "cast_vote"
  | .closeDeclarations => "close_declarations"
  | .declare => "declare_procedure"
  | .isDecided => "is_decided"
  | .incidentOutcome => "incident_outcome"
  | .endBallot => "end_ballot"

inductive CountOperation
  | add
  | subtract
  | multiply
deriving DecidableEq

def CountOperation.word : CountOperation → String
  | .add => "add"
  | .subtract => "subtract"
  | .multiply => "multiply"

inductive Fault
  | namesExhausted (next : Ident)
  /-- The result is too large for a count, or below zero. -/
  | overflow (operation : CountOperation)
  | emptyScript
  | emptyChoice
  /-- A list was asked for a place that it does not have. -/
  | placeOutOfRange (size place : Nat)
  | currencyOfCondition (id : Ident)
  | roleWithoutPermissions (id : Ident)
  | noRoles
  | noText (key : String)
  | currencyOfPayment (id : Ident)
  | notAffordable (cost : Int8)
  | currencyOfEffect (id : Ident)
  | noStateCurrency
  | alreadyInitialized (phase : Phase)
  | setupOutOfTurn (phase : Phase)
  | ballotOutOfTurn (phase : Phase)
  | otherBallotAwaited (next : Option Ident) (id : Ident)
  | openUnknownBallot (id : Ident)
  | noBallotOpen (call : FloorCall) (phase : Phase)
  | unknownVoter (id : Ident)
  | unknownDeclarer (id : Ident)
  /-- The person is registered, but the roles do not list them. -/
  | unseated (id : Ident)
  | notDeclarable (procedure : Ident)
  | notIncident (ballot : Ident)
  | unknownBallot (id : Ident)
  | unknownProcedure (id : Ident)
  | draftEffect (e : EffectError)
  | draftRulebook (flaw : Flaw)
  | draftPeople (flaw : Flaw)
  | draftBallot (id : Ident)
deriving DecidableEq

def phaseMismatch (claim : String) (found needed : Phase) : String :=
  "assertion `left == right` failed: " ++ claim ++ "\n  left: " ++ found.shown ++ "\n right: "
    ++ needed.shown

def Fault.message : Fault → String
  | .namesExhausted next => s!"next_id: id space exhausted at {next}"
  | .overflow operation => s!"attempt to {operation.word} with overflow"
  | .emptyScript => "SequenceGenerator: empty sequence"
  | .emptyChoice => "choose: empty range"
  | .placeOutOfRange size place =>
    s!"index out of bounds: the len is {size} but the index is {place}"
  | .currencyOfCondition id => s!"evaluate: currency {id} not found"
  | .roleWithoutPermissions id => s!"fold_roles: role {id} has no permission entry"
  | .noRoles => "fold_roles: person holds no roles"
  | .noText key => s!"render: localization key {Text.quoted key} not found"
  | .currencyOfPayment id => s!"try_confirm: currency {id} not found"
  | .notAffordable cost => s!"try_confirm: currency cost {cost.toInt} not affordable"
  | .currencyOfEffect id => s!"modify_currency: currency {id} not found"
  | .noStateCurrency => "currency effect: no state currency"
  | .alreadyInitialized phase =>
    phaseMismatch "initialize: context already initialized" phase .uninitialized
  | .setupOutOfTurn phase =>
    phaseMismatch "start_setup: context must be initialized first" phase .initialized
  | .ballotOutOfTurn phase => s!"start_ballot: cannot start a ballot in phase {phase.shown}"
  | .otherBallotAwaited next id =>
    s!"start_ballot: expected ballot {Ident.shownOption next}, got {id}"
  | .openUnknownBallot id => s!"start_ballot: ballot {id} not found"
  | .noBallotOpen call phase => s!"{call.word}: no ballot in progress (phase {phase.shown})"
  | .unknownVoter id => s!"cast_vote: person {id} not found"
  | .unknownDeclarer id => s!"declare_procedure: person {id} not found"
  | .unseated _ => "no entry found for key"
  | .notDeclarable procedure => s!"declare_procedure: procedure {procedure} is not declarable"
  | .notIncident ballot => s!"incident_outcome: ballot {ballot} is not an incident"
  | .unknownBallot id => s!"ballot {id} not found"
  | .unknownProcedure id => s!"procedure {id} not found"
  | .draftEffect e => s!"scenario: {e.message}"
  | .draftRulebook flaw => s!"scenario: invalid config: {flaw.message}"
  | .draftPeople flaw => s!"scenario: invalid people: {flaw.message}"
  | .draftBallot id => s!"BallotRef: ballot {id} not found"

end Parliament
