import Parliament.Comparison
import Parliament.Fault
import Parliament.IdSet

/-! # Conditions

A condition is a yes-or-no question about the state of a session. It is read from left to right and
no further than the answer needs, so a part that could not be answered may go unread.
-/

namespace Parliament

inductive Condition
  | always
  | never
  | all (conditions : List Condition)
  | any (conditions : List Condition)
  /-- The forced outcome of the open ballot is `passed`. -/
  | vote (passed : Bool)
  | ballotPassed (ballot : Ident) (passed : Bool)
  | passedCount (comparison : Comparison) (value : UInt8)
  | currencyValue (currency : Ident) (comparison : Comparison) (value : Int8)
  | procedureActive (procedure : Ident) (active : Bool)
deriving Inhabited

namespace Condition

/-! ## Answers -/

structure View where
  passedBallots : IdSet
  currencies : IdMap Int8
  activeProcedures : IdSet
  /-- The outcome that a procedure forced on the open ballot. -/
  forced : Option Bool

mutual

def evaluate (v : View) : Condition → Except Fault Bool
  | always => .ok true
  | never => .ok false
  | all cs => evaluateAll v cs
  | any cs => evaluateAny v cs
  | vote passed => .ok (v.forced == some passed)
  | ballotPassed ballot passed => .ok (v.passedBallots.contains ballot == passed)
  | passedCount comparison value => .ok (comparison.holds v.passedBallots.size value.toNat)
  | currencyValue currency comparison value =>
    match v.currencies.get? currency with
    | some balance => .ok (comparison.holds balance.toInt value.toInt)
    | none => .error (.currencyOfCondition currency)
  | procedureActive procedure active => .ok (v.activeProcedures.contains procedure == active)

def evaluateAll (v : View) : List Condition → Except Fault Bool
  | [] => .ok true
  | c :: cs =>
    match evaluate v c with
    | .ok true => evaluateAll v cs
    | answer => answer

def evaluateAny (v : View) : List Condition → Except Fault Bool
  | [] => .ok false
  | c :: cs =>
    match evaluate v c with
    | .ok false => evaluateAny v cs
    | answer => answer

end

/-- The outcome that a condition stands for when nothing has to be looked at. -/
def fixedOutcome : Condition → Option Bool
  | always => some true
  | never => some false
  | _ => none

/-! ## Parts -/

mutual

def readsVote : Condition → Bool
  | vote _ => true
  | all cs | any cs => anyReadsVote cs
  | _ => false

def anyReadsVote : List Condition → Bool
  | [] => false
  | c :: cs => readsVote c || anyReadsVote cs

end

mutual

/-- The condition itself and then its parts, each before its own parts. -/
def parts : Condition → List Condition
  | all cs => all cs :: partsOfAll cs
  | any cs => any cs :: partsOfAll cs
  | c => [c]

def partsOfAll : List Condition → List Condition
  | [] => []
  | c :: cs => parts c ++ partsOfAll cs

end

end Condition

end Parliament
