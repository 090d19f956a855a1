import Parliament.Count
import Parliament.Permissions

/-! # Tallies

A tally holds who voted for and against a ballot, and what procedures added to it. Weights and
thresholds follow from the permissions that hold when it is read, so they move with them.
-/

namespace Parliament

inductive Vote
  | pass
  | fail
  | abstain
deriving DecidableEq, Inhabited

/-! ## Thresholds -/

/-- More than half. There is always room for it. -/
def simpleMajority (total : UInt32) : UInt32 := total / 2 + 1

def ceilDiv (a b : UInt32) : UInt32 := if a % b = 0 then a / b else a / b + 1

def twoThirds (total : UInt32) : Except Fault UInt32 := do
  return ceilDiv (← Count.mul total 2) 3

/-! ## Tallies -/

structure Tally where
  passVoters : IdSet := .empty
  failVoters : IdSet := .empty
  passBonus : UInt32 := 0
  failBonus : UInt32 := 0
  /-- Two thirds are needed and not just a majority. -/
  supermajority : Bool := false
  /-- An outcome that a procedure imposed; the counts do not matter then. -/
  forced : Option Bool := none
deriving DecidableEq, Inhabited

structure TallySummary where
  pass : UInt32
  fail : UInt32
  abstain : UInt32
  total : UInt32
deriving DecidableEq, Inhabited

namespace Tally

/-- The vote takes the place of an earlier one by the same person. -/
def record (t : Tally) (person : Ident) (vote : Vote) : Tally :=
  let passVoters := t.passVoters.erase person
  let failVoters := t.failVoters.erase person
  match vote with
  | .pass => { t with passVoters := passVoters.insert person, failVoters := failVoters }
  | .fail => { t with passVoters := passVoters, failVoters := failVoters.insert person }
  | .abstain => { t with passVoters := passVoters, failVoters := failVoters }

/-- Bonuses, majority and forced outcome stay. -/
def clearVotes (t : Tally) : Tally := { t with passVoters := .empty, failVoters := .empty }

/-! ## Counts -/

/-- Somebody without permissions weighs nothing. -/
def weightOf (permissions : IdMap Permissions) (person : Ident) : UInt32 :=
  ((permissions.get? person).map Permissions.weight).getD 0

def weightOfAll (permissions : IdMap Permissions) (people : IdSet) : Except Fault UInt32 :=
  Count.sum (people.toList.map (weightOf permissions))

def total (t : Tally) (permissions : IdMap Permissions) : Except Fault UInt32 := do
  let bonuses ← Count.add t.passBonus t.failBonus
  Count.add bonuses (← Count.sum (permissions.values.map Permissions.weight))

def passCount (t : Tally) (permissions : IdMap Permissions) : Except Fault UInt32 := do
  Count.add t.passBonus (← weightOfAll permissions t.passVoters)

def failCount (t : Tally) (permissions : IdMap Permissions) : Except Fault UInt32 := do
  Count.add t.failBonus (← weightOfAll permissions t.failVoters)

def abstainCount (t : Tally) (permissions : IdMap Permissions) : Except Fault UInt32 := do
  let notFor ← Count.sub (← t.total permissions) (← t.passCount permissions)
  Count.sub notFor (← t.failCount permissions)

def summary (t : Tally) (permissions : IdMap Permissions) : Except Fault TallySummary := do
  return {
    pass := ← t.passCount permissions
    fail := ← t.failCount permissions
    abstain := ← t.abstainCount permissions
    total := ← t.total permissions }

/-! ## Decisions -/

def passThreshold (t : Tally) (permissions : IdMap Permissions) : Except Fault UInt32 := do
  let total ← t.total permissions
  if t.supermajority then twoThirds total else return simpleMajority total

/-- With a supermajority the ballot fails as soon as two thirds are out of reach. -/
def failThreshold (t : Tally) (permissions : IdMap Permissions) : Except Fault UInt32 := do
  let needed ← t.passThreshold permissions
  if t.supermajority then Count.add (← Count.sub (← t.total permissions) needed) 1
  else return needed

/-- How the counts stand, whether or not an outcome is forced. There is no decision as long as
neither threshold is reached. -/
def countedDecision (t : Tally) (permissions : IdMap Permissions) :
    Except Fault (Option Bool) := do
  let pass ← t.passCount permissions
  let needed ← t.passThreshold permissions
  if needed ≤ pass then return some true
  let fail ← t.failCount permissions
  let enough ← t.failThreshold permissions
  return if enough ≤ fail then some false else none

/-- Nothing is counted if an outcome is forced. -/
def decision (t : Tally) (permissions : IdMap Permissions) : Except Fault (Option Bool) :=
  match t.forced with
  | some outcome => .ok (some outcome)
  | none => t.countedDecision permissions

end Tally

end Parliament
