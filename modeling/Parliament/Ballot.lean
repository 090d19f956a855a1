import Parliament.Condition
import Parliament.Effect

/-! # Ballots

A ballot has one consequence for passing and one for failing: effects, and links to the ballot that
comes next.
-/

namespace Parliament

inductive LinkTarget
  | ballot (id : Ident)
  | finish
deriving DecidableEq, Inhabited

def LinkTarget.ballot? : LinkTarget → Option Ident
  | ballot id => some id
  | finish => none

structure Link where
  condition : Condition
  target : LinkTarget

/-- The first link whose condition holds is followed. Without one the session is over. -/
def Link.follow (v : Condition.View) : List Link → Except Fault (Option Ident)
  | [] => .ok none
  | l :: links =>
    match l.condition.evaluate v with
    | .ok true => .ok l.target.ballot?
    | .ok false => follow v links
    | .error e => .error e

structure Consequence where
  effects : List BallotEffect := []
  links : List Link := []
deriving Inhabited

def Consequence.nextBallot (c : Consequence) (v : Condition.View) : Except Fault (Option Ident) :=
  Link.follow v c.links

structure Ballot where
  id : Ident
  name : String
  pass : Consequence
  fail : Consequence
  /-- An incident is settled by its resolution and not by a vote. -/
  incident : Bool
  resolution : Option Condition

def Ballot.consequence (b : Ballot) (passed : Bool) : Consequence :=
  if passed then b.pass else b.fail

end Parliament
