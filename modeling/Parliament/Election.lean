import Parliament.IdSet
import Parliament.Person
import Parliament.Vocabulary

/-! # Elections

A session does not decide who wins an election. It lists the elections that are due, hands them to a
returning officer and takes back the roles and affiliations of everybody.
-/

namespace Parliament

inductive ElectionKind
  /-- Shares the people out among the regions. -/
  | region
  /-- Shares the people out among the parties. -/
  | party
  | nominated
  | appointed
deriving DecidableEq, Inhabited

namespace ElectionKind

def word : ElectionKind → String
  | region => "region"
  | party => "party"
  | nominated => "nominated"
  | appointed => "appointed"

def all : List ElectionKind := [region, party, nominated, appointed]

instance : Vocabulary ElectionKind := ⟨"ElectionKind", all, word⟩

def fillsRole : ElectionKind → Bool
  | nominated | appointed => true
  | region | party => false

end ElectionKind

/-! ## Requests -/

structure ElectionRequest where
  kind : ElectionKind
  procedure : Option Ident
  /-- The role to be filled; the member role for elections among factions. -/
  target : Ident
  filters : List Ident
  random : Bool
deriving DecidableEq

namespace ElectionRequest

/-- The first request may stand before the second. Elections among factions come first, as they were
asked for, and then elections to roles by the name of the procedure that asks. -/
def mayPrecede (a b : ElectionRequest) : Bool :=
  match a.kind.fillsRole, b.kind.fillsRole with
  | false, _ => true
  | true, false => false
  | true, true =>
    match a.procedure, b.procedure with
    | none, _ => true
    | some _, none => false
    | some p, some q => decide ¬ q < p

def place (a : ElectionRequest) : List ElectionRequest → List ElectionRequest
  | [] => [a]
  | b :: l => if a.mayPrecede b then a :: b :: l else b :: place a l

/-- Requests of equal rank keep their order. -/
def arrange (l : List ElectionRequest) : List ElectionRequest := l.foldr place []

theorem place_perm (a : ElectionRequest) (l : List ElectionRequest) :
    (a.place l).Perm (a :: l) := by
  induction l with
  | nil => exact .refl _
  | cons b l ih =>
    unfold place
    split
    · exact .refl _
    · exact (ih.cons b).trans (.swap a b l)

theorem arrange_perm (l : List ElectionRequest) : (arrange l).Perm l := by
  induction l with
  | nil => exact .refl _
  | cons a l ih => exact (place_perm a _).trans (ih.cons a)

end ElectionRequest

/-! ## Returning officers -/

/-- What a returning officer is shown. -/
structure Electorate where
  people : IdMap Person
  roles : IdMap IdSet
  affiliations : IdMap Affiliation
  activeParties : IdSet
  activeRegions : IdSet
deriving DecidableEq

/-- What a returning officer gives back: it takes the place of all that was there. -/
structure Assignments where
  roles : IdMap IdSet
  affiliations : IdMap Affiliation
deriving DecidableEq, Inhabited

def Electorate.assignments (e : Electorate) : Assignments := ⟨e.roles, e.affiliations⟩

/-- A value of `α` is what the officer knows; it may change with every call. -/
class ReturningOfficer (α : Type) where
  assign : α → List ElectionRequest → Electorate → Assignments × α

/-- The people hold no role that is not in the table. -/
def Assignments.Within {β : Type} (table : IdMap β) (people : IdMap Person) (a : Assignments) :
    Prop :=
  ∀ person held role, people.contains person = true → a.roles.get? person = some held →
    role ∈ held → table.contains role = true

/-- An officer that is shown none but the roles of the table gives out no others. -/
class KeepsWithin (α : Type) [ReturningOfficer α] {β : Type} (table : IdMap β) : Prop where
  assign_within (officer : α) (requests : List ElectionRequest) (e : Electorate) :
    e.assignments.Within table e.people →
      (ReturningOfficer.assign officer requests e).1.Within table e.people

/-- An officer that leaves everybody where they are. -/
structure StatusQuo where
deriving DecidableEq, Inhabited

instance : ReturningOfficer StatusQuo := ⟨fun s _ e => (e.assignments, s)⟩

instance {β : Type} (table : IdMap β) : KeepsWithin StatusQuo table := ⟨fun _ _ _ h => h⟩

/-! ## Scripts -/

/-- A prepared answer to one call. It gives the listed roles on top of those it starts from, and the
listed affiliations instead of theirs. -/
inductive ScriptedAnswer
  | statusQuo
  | replace (given : Assignments)
  | overlay (given : Assignments)
deriving DecidableEq

def Assignments.give (start given : Assignments) : Assignments where
  roles := given.roles.entries.foldl
    (fun m e => m.insert e.1 (((m.get? e.1).getD .empty).insertAll e.2.toList)) start.roles
  affiliations := start.affiliations.insertAll given.affiliations.entries

def ScriptedAnswer.assignments (e : Electorate) : ScriptedAnswer → Assignments
  | statusQuo => e.assignments
  | replace given => (default : Assignments).give given
  | overlay given => e.assignments.give given

/-- An officer that gives prepared answers, and behind the last one leaves everybody in place. -/
structure AnswerScript where
  answers : List ScriptedAnswer
deriving DecidableEq, Inhabited

instance : ReturningOfficer AnswerScript where
  assign s _ e :=
    match s.answers with
    | [] => (e.assignments, s)
    | a :: rest => (a.assignments e, ⟨rest⟩)

end Parliament
