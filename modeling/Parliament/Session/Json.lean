import Parliament.Election.Json
import Parliament.Session.Calls

/-! # Sessions as JSON

What a host is shown of a session: its answers, its signals and how it stands.
-/

namespace Parliament

open Json

/-! ## Ballots -/

def Vote.read : Reader Vote := fun _ j =>
  match keyword? j with
  | some "pass" => .ok .pass
  | some "fail" => .ok .fail
  | some "abstain" => .ok .abstain
  | _ => .error .malformed

def TallySummary.toJson (t : TallySummary) : Json :=
  .obj [("pass", .nat t.pass.toNat), ("fail", .nat t.fail.toNat),
    ("abstain", .nat t.abstain.toNat), ("total", .nat t.total.toNat)]

def Json.orFault {α : Type} (ofFault : Fault → Json) (f : α → Json) : Except Fault α → Json
  | .ok a => f a
  | .error e => ofFault e

/-- A tally with all that follows from it under the given permissions. What cannot be counted is
shown as a fault, and the rest is there all the same. -/
def Tally.toJson (ofFault : Fault → Json) (t : Tally) (permissions : IdMap Permissions) : Json :=
  let count : Except Fault UInt32 → Json := .orFault ofFault fun n => .nat n.toNat
  .obj [("pass_voters", .idSet t.passVoters), ("fail_voters", .idSet t.failVoters),
    ("pass_bonus", .nat t.passBonus.toNat), ("fail_bonus", .nat t.failBonus.toNat),
    ("supermajority", .bool t.supermajority), ("forced", .option .bool t.forced),
    ("summary", .orFault ofFault TallySummary.toJson (t.summary permissions)),
    ("thresholds", .array [count (t.passThreshold permissions),
      count (t.failThreshold permissions)]),
    ("decided", .orFault ofFault (.option .bool) (t.decision permissions))]

def BallotRecord.toJson (r : BallotRecord) : Json :=
  .obj [("ballot", .ident r.ballot), ("passed", .bool r.passed), ("tally", r.tally.toJson),
    ("declared", .idents r.declared)]

/-! ## Declarations -/

def Rejection.toJson : Rejection → Json
  | divisionFailed => .obj [("type", .text "division_failed")]
  | rollTooLow roll needed =>
    .obj [("type", .text "roll_too_low"), ("roll", .nat roll.toNat), ("needed", .nat needed.toNat)]
  | insufficientCurrency cost available =>
    .obj [("type", .text "insufficient_currency"), ("cost", .nat cost.toNat),
      ("available", .option (fun b => .int b.toInt) available)]
  | outrolled declarer defender =>
    .obj [("type", .text "outrolled"), ("declarer", .nat declarer.toNat),
      ("defender", .nat defender.toNat)]
  | notPermitted => .obj [("type", .text "not_permitted")]
  | notApplicable => .obj [("type", .text "not_applicable")]
  | alreadyDeclared => .obj [("type", .text "already_declared")]
  | declarationsClosed => .obj [("type", .text "declarations_closed")]

def DeclarationResult.toJson : DeclarationResult → Json
  | confirmed => .obj [("result", .text "confirmed")]
  | pending => .obj [("result", .text "pending")]
  | rejected reason => .obj [("result", .text "rejected"), ("reason", reason.toJson)]

/-! ## Signals -/

def Json.balances (m : IdMap Int8) : Json := .idMap (fun b => .int b.toInt) m

def Json.roles (m : IdMap IdSet) : Json := .idMap .idSet m

def Json.affiliations (m : IdMap Affiliation) : Json := .idMap Affiliation.toJson m

def Signal.toJson : Signal → Json
  | permissionsUpdated permissions =>
    .obj [("type", .text "permissions_updated"),
      ("permissions", .idMap Permissions.toJson permissions)]
  | currenciesModified balances =>
    .obj [("type", .text "currencies_modified"), ("currencies", .balances balances)]
  | proceduresModified active =>
    .obj [("type", .text "procedures_modified"), ("active", .idSet active)]
  | ballotVoted record => .obj [("type", .text "ballot_voted"), ("record", record.toJson)]
  | electionPreparing requests roles affiliations =>
    .obj [("type", .text "election_preparing"),
      ("requests", .list ElectionRequest.toJson requests), ("roles", .roles roles),
      ("factions", .affiliations affiliations)]
  | electionCompleted roles affiliations =>
    .obj [("type", .text "election_completed"), ("roles", .roles roles),
      ("factions", .affiliations affiliations)]

/-! ## The session -/

def Phase.toJson : Phase → Json
  | uninitialized => .obj [("phase", .text "uninitialized")]
  | initialized => .obj [("phase", .text "initialized")]
  | awaitingBallot next =>
    .obj [("phase", .text "awaiting_ballot"), ("next", .option .ident next)]
  | ballot id stage =>
    let stage := match stage with
      | .declaring => "declaring"
      | .deciding => "deciding"
    .obj [("phase", .text "ballot"), ("id", .ident id), ("stage", .text stage)]
  | terminal => .obj [("phase", .text "terminal")]

def Permissions.toRow (p : Permissions) : Json :=
  .array [.bool p.canVote, .nat p.votes.toNat, .bool p.canSpeak]

def Session.toJson {γ α : Type} (ofFault : Fault → Json) (s : Session γ α) : Json :=
  .obj [("phase", s.phase.toJson), ("current_ballot", .option .ident s.house.currentBallot),
    ("tally", s.floor.tally.toJson ofFault s.permissions),
    ("declared", .idents s.floor.declared),
    ("passed", .idSet s.house.passedBallots), ("currencies", .balances s.house.balances),
    ("active_parties", .idSet s.house.activeParties),
    ("active_regions", .idSet s.house.activeRegions),
    ("active_procedures", .idSet s.house.activeProcedures), ("roles", .roles s.house.roles),
    ("factions", .affiliations s.house.affiliations),
    ("permissions", .idMap Permissions.toRow s.permissions),
    ("history", .nat s.history.length)]

end Parliament
