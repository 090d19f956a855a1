import Parliament.Rulebook

/-! # Descriptions

Conditions, effects and procedures in words. Nothing here has a part in the rules.
-/

namespace Parliament

def commas (texts : List String) : String := ", ".intercalate texts

/-! ## Conditions -/

def Comparison.describe (w : Wording) (c : Comparison) : Except Fault String :=
  w.render ("comparison." ++ c.word) []

namespace Condition

mutual

def describe (t : NameTable) (w : Wording) : Condition → Except Fault String
  | always => w.render "condition.always" []
  | never => w.render "condition.never" []
  | all cs => do w.render "condition.and" [("children", commas (← describeAll t w cs))]
  | any cs => do w.render "condition.or" [("children", commas (← describeAll t w cs))]
  | vote true => w.render "condition.vote.pass" []
  | vote false => w.render "condition.vote.fail" []
  | ballotPassed ballot passed =>
    w.render (if passed then "condition.ballot.passed" else "condition.ballot.failed")
      [("ballot", t.ballot ballot)]
  | passedCount comparison value => do
    w.render "condition.passed_count"
      [("cmp", ← comparison.describe w), ("value", toString value.toNat)]
  | currencyValue currency comparison value => do
    w.render "condition.currency_value"
      [("currency", t.currency currency), ("cmp", ← comparison.describe w),
        ("value", toString value.toInt)]
  | procedureActive procedure active =>
    w.render (if active then "condition.procedure.active" else "condition.procedure.inactive")
      [("procedure", t.procedure procedure)]

def describeAll (t : NameTable) (w : Wording) : List Condition → Except Fault (List String)
  | [] => .ok []
  | c :: cs => do return (← describe t w c) :: (← describeAll t w cs)

end

end Condition

/-! ## Effects -/

def describePayee (t : NameTable) (w : Wording) (a : Ident) : Except Fault String :=
  if a = .stateFunds then w.render "target.state" []
  else if a = .partyFunds then w.render "target.party" []
  else if a = .regionFunds then w.render "target.region" []
  else .ok (t.currency a)

def describePayees (t : NameTable) (w : Wording) (targets : List Ident) :
    Except Fault String := do
  return commas (← targets.mapM (describePayee t w))

namespace ProcedureEffect

def describeTargets (t : NameTable) (w : Wording) (e : ProcedureEffect) : Except Fault String :=
  if e.targets.isEmpty && e.kind.isPermission then w.render "target.random" []
  else if e.targets.isEmpty && e.kind.isCurrency then w.render "target.owned" []
  else
    match e.kind with
    | .currencyAdd | .currencySubtract => describePayees t w e.targets
    | .permissionCanVote | .permissionVotes | .permissionCanSpeak =>
      .ok (commas (e.targets.map t.role))
    | .electNominated | .electAppointed => .ok (commas ((e.targets.take 1).map t.role))
    | .procedureActivate | .procedureRemove => .ok (commas (e.targets.map t.procedure))
    | .electParty | .electRegion | .ballotLimit | .votePassBonus | .voteFailBonus
    | .supermajority | .ballotPass | .ballotFail => .ok (commas (e.targets.map t.filter))

/-- A subtraction shows its amount without a sign. -/
def shownValue (e : ProcedureEffect) : String :=
  match e.kind with
  | .currencySubtract => toString e.value.toInt.natAbs
  | _ => toString e.value.toInt

def describe (t : NameTable) (w : Wording) (e : ProcedureEffect) : Except Fault String := do
  w.render ("effect." ++ e.kind.word)
    [("targets", ← e.describeTargets t w), ("value", e.shownValue)]

end ProcedureEffect

namespace BallotEffect

def describeTargets (t : NameTable) (w : Wording) (e : BallotEffect) : Except Fault String :=
  match e.kind with
  | .foundParty | .dissolveParty => .ok (commas (e.targets.map t.party))
  | .activateProcedure | .removeProcedure | .replaceProcedure =>
    .ok (commas (e.targets.map t.procedure))
  | .modifyCurrency => describePayees t w e.targets

/-- The value always with its sign. -/
def shownValue (e : BallotEffect) : String :=
  if 0 ≤ e.value.toInt then "+" ++ toString e.value.toInt else toString e.value.toInt

def describe (t : NameTable) (w : Wording) (e : BallotEffect) : Except Fault String := do
  w.render ("effect." ++ e.kind.word)
    [("targets", ← e.describeTargets t w), ("value", e.shownValue)]

end BallotEffect

/-! ## Procedures -/

def Confirmation.shownValue : Confirmation → String
  | currencyValue value => toString value.toInt
  | diceValue value => toString value.toNat
  | _ => ""

def Confirmation.describe (w : Wording) (c : Confirmation) : Except Fault String :=
  w.render ("confirmation." ++ c.word) [("value", c.shownValue)]

def Procedure.describe (t : NameTable) (w : Wording) (p : Procedure) : Except Fault String := do
  let effects ← p.effects.mapM (·.describe t w)
  let confirmation ←
    match p.confirmation? with
    | some c => c.describe w
    | none => .ok ""
  w.render ("procedure." ++ p.kind.word)
    [("name", p.name), ("effects", commas effects), ("confirmation", confirmation)]

/-! ## Rule books

Each text stands alone: one that cannot be made leaves the others as they are.
-/

structure ConsequenceText where
  effects : List (Except Fault String)
  links : List (Except Fault String)

structure BallotText where
  pass : ConsequenceText
  fail : ConsequenceText
  resolution : Option (Except Fault String)

structure RulebookText where
  procedures : List (Except Fault String)
  ballots : List BallotText

def Consequence.describe (t : NameTable) (w : Wording) (c : Consequence) : ConsequenceText where
  effects := c.effects.map (·.describe t w)
  links := c.links.map (·.condition.describe t w)

def Ballot.describe (t : NameTable) (w : Wording) (b : Ballot) : BallotText where
  pass := b.pass.describe t w
  fail := b.fail.describe t w
  resolution := b.resolution.map (·.describe t w)

def Rulebook.describe (t : NameTable) (r : Rulebook) : RulebookText where
  procedures := r.procedures.map (·.describe t r.wording)
  ballots := r.ballots.map (·.describe t r.wording)

end Parliament
