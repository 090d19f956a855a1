import Parliament.Election
import Parliament.Rulebook
import Parliament.Tally

/-! # The house

What a session carries from ballot to ballot, and what belongs to the ballot at hand.
-/

namespace Parliament

structure House where
  people : IdMap Person := .empty
  /-- Everybody holds the member role. -/
  roles : IdMap IdSet := .empty
  affiliations : IdMap Affiliation := .empty
  activeParties : IdSet := .empty
  activeRegions : IdSet := .empty
  activeProcedures : IdSet := .empty
  passedBallots : IdSet := .empty
  balances : IdMap Int8 := .empty
  currentBallot : Option Ident := none
deriving DecidableEq, Inhabited

namespace House

def ofRulebook (r : Rulebook) : House where
  activeParties := Rulebook.activeFactions r.parties
  activeRegions := Rulebook.activeFactions r.regions
  activeProcedures := r.initiallyActive
  balances := r.initialBalances

def view (h : House) (forced : Option Bool) : Condition.View where
  passedBallots := h.passedBallots
  currencies := h.balances
  activeProcedures := h.activeProcedures
  forced := forced

def electorate (h : House) : Electorate where
  people := h.people
  roles := h.roles
  affiliations := h.affiliations
  activeParties := h.activeParties
  activeRegions := h.activeRegions

def affiliation (h : House) (person : Ident) : Affiliation :=
  (h.affiliations.get? person).getD {}

def rolesOf (h : House) (person : Ident) : IdSet := (h.roles.get? person).getD .empty

/-- A filter names the person, a role they hold, their party or their region. -/
def matchesAny (h : House) (filters : List Ident) (person : Ident) : Bool :=
  filters.any fun f =>
    f == person || (h.rolesOf person).contains f || (h.affiliation person).contains f

/-! ## People -/

/-- The people by name. A reserved name and a repeated one are refused. -/
def register : IdMap Person → List Person → Except Flaw (IdMap Person)
  | roster, [] => .ok roster
  | roster, p :: people =>
    if p.id.isReserved then .error (.reservedName .person p.id)
    else if roster.contains p.id then .error (.repeatedName .person p.id)
    else register (roster.insert p.id p) people

def seat (h : House) (roster : IdMap Person) : House :=
  { h with people := roster, roles := roster.mapEntries fun _ _ => .ofList [.member] }

/-- Takes the assignments of the people of this house. Everybody stays a member. -/
def reassign (h : House) (a : Assignments) : House :=
  { h with
    roles := h.people.mapEntries fun id _ => ((a.roles.get? id).getD .empty).insert .member
    affiliations := a.affiliations.filterKeys h.people.contains }

end House

/-! ## The ballot at hand -/

/-- Begins anew with every ballot. -/
structure Floor where
  ballot : Ident := ⟨0⟩
  tally : Tally := {}
  /-- The procedures that were declared and confirmed, in order. -/
  declared : List Ident := []
deriving DecidableEq, Inhabited

structure BallotRecord where
  ballot : Ident
  passed : Bool
  tally : TallySummary
  declared : List Ident
deriving DecidableEq

end Parliament
