import Parliament.Fault
import Parliament.IdSet

/-! # Permissions

What a person may do follows from the roles they hold: a right needs every role to grant it, and the
weight of a vote is the largest that a role gives. Amendments change single fields afterwards, and
of two amendments to one field the later wins.
-/

namespace Parliament

structure Permissions where
  canVote : Bool
  votes : UInt8
  canSpeak : Bool
deriving DecidableEq

namespace Permissions

/-- A role that says nothing lets its holders speak. -/
def standard : Permissions := ⟨false, 1, true⟩

instance : Inhabited Permissions := ⟨standard⟩

def weight (p : Permissions) : UInt32 := if p.canVote then p.votes.toUInt32 else 0

def combine (p q : Permissions) : Permissions where
  canVote := p.canVote && q.canVote
  votes := max p.votes q.votes
  canSpeak := p.canSpeak && q.canSpeak

end Permissions

/-! ## Amendments -/

/-- A field that is `none` is left as it is. -/
structure Amendment where
  canVote : Option Bool := none
  votes : Option UInt8 := none
  canSpeak : Option Bool := none
deriving DecidableEq, Inhabited

namespace Amendment

def empty : Amendment := {}

def ofCanVote (b : Bool) : Amendment := { canVote := some b }

def ofVotes (n : UInt8) : Amendment := { votes := some n }

def ofCanSpeak (b : Bool) : Amendment := { canSpeak := some b }

def isEmpty (a : Amendment) : Bool := a.canVote.isNone && a.votes.isNone && a.canSpeak.isNone

def followedBy (a b : Amendment) : Amendment where
  canVote := b.canVote.or a.canVote
  votes := b.votes.or a.votes
  canSpeak := b.canSpeak.or a.canSpeak

end Amendment

def Permissions.amend (p : Permissions) (a : Amendment) : Permissions where
  canVote := a.canVote.getD p.canVote
  votes := a.votes.getD p.votes
  canSpeak := a.canSpeak.getD p.canSpeak

/-! ## Overrides -/

inductive OverrideTarget
  /-- Everyone who holds one of these roles. -/
  | roles (ids : List Ident)
  | person (id : Ident)
deriving DecidableEq

structure Override where
  target : OverrideTarget
  amendment : Amendment
deriving DecidableEq

def Override.appliesTo (o : Override) (person : Ident) (held : IdSet) : Bool :=
  match o.target with
  | .roles ids => ids.any held.contains
  | .person id => decide (id = person)

/-! ## Composition -/

namespace Permissions

def ofRole (table : IdMap Permissions) (role : Ident) : Except Fault Permissions :=
  match table.get? role with
  | some p => .ok p
  | none => .error (.roleWithoutPermissions role)

/-- The fold starts from the last role, so that role is the first to be missed. -/
def ofRoles (table : IdMap Permissions) (held : IdSet) : Except Fault Permissions :=
  match held.toList.getLast? with
  | none => .error .noRoles
  | some last => do
    let seed ← ofRole table last
    held.toList.foldlM (fun p role => do return p.combine (← ofRole table role)) seed

def amendAll (p : Permissions) (l : List Amendment) : Permissions := l.foldl amend p

/-- The amendments that reach a person: overrides first, then those made for the person alone. -/
def amendmentsFor (person : Ident) (held : IdSet) (overrides : List Override)
    (personal : List (Ident × Amendment)) : List Amendment :=
  (overrides.filter (·.appliesTo person held)).map Override.amendment
    ++ (personal.filter (·.1 = person)).map Prod.snd

def compose (roles : IdMap IdSet) (table : IdMap Permissions) (overrides : List Override)
    (personal : List (Ident × Amendment)) : Except Fault (IdMap Permissions) :=
  roles.traverse fun person held => do
    return (← ofRoles table held).amendAll (amendmentsFor person held overrides personal)

end Permissions

end Parliament
