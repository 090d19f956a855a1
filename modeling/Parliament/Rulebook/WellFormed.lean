import Parliament.Condition.Reading
import Parliament.Rulebook

/-! # Well-formed rule books

What the author of a rule book has to see to, in no order: names are free and not used twice, and
what is referred to is there.
-/

namespace Parliament.Rulebook

/-! ## What a rule book lists -/

def ListsRole (r : Rulebook) (id : Ident) : Prop :=
  id ∈ Ident.namedRoles ∨ ∃ d ∈ r.roles, d.id = id

def ListsParty (r : Rulebook) (id : Ident) : Prop := ∃ d ∈ r.parties, d.id = id

def ListsRegion (r : Rulebook) (id : Ident) : Prop := ∃ d ∈ r.regions, d.id = id

def ListsCurrency (r : Rulebook) (id : Ident) : Prop := ∃ c ∈ r.currencies, c.id = id

def ListsProcedure (r : Rulebook) (id : Ident) : Prop := ∃ p ∈ r.procedures, p.id = id

/-- Only targeted procedures can be switched on and off. -/
def ListsTargeted (r : Rulebook) (id : Ident) : Prop :=
  ∃ p ∈ r.procedures, p.id = id ∧ p.kind.isTargeted = true

def ListsBallot (r : Rulebook) (id : Ident) : Prop := ∃ b ∈ r.ballots, b.id = id

def HasTreasury (r : Rulebook) : Prop := ∃ c ∈ r.currencies, c.owner = .state

/-- Whose balance a change of currency may be aimed at. -/
def ListsPayee (r : Rulebook) (id : Ident) : Prop :=
  id = .partyFunds ∨ id = .regionFunds ∨ r.ListsCurrency id ∨ id = .stateFunds ∧ r.HasTreasury

def ListsOwner (r : Rulebook) : CurrencyOwner → Prop
  | .state => True
  | .party id => r.ListsParty id
  | .region id => r.ListsRegion id

/-! ## Entries that refer to others -/

structure CoversCondition (r : Rulebook) (c : Condition) : Prop where
  ballots : ∀ ballot passed, Condition.Within (.ballotPassed ballot passed) c → r.ListsBallot ballot
  currencies : ∀ currency comparison value,
    Condition.Within (.currencyValue currency comparison value) c → r.ListsCurrency currency
  procedures : ∀ procedure active,
    Condition.Within (.procedureActive procedure active) c → r.ListsProcedure procedure

def CoversKind (r : Rulebook) : ProcedureKind → Prop
  | .governmental => True
  | .targeted ballots _ => ∀ id ∈ ballots, r.ListsBallot id
  | .declared _ declarers ballots =>
    (∀ id ∈ declarers, r.ListsRole id) ∧ ∀ id ∈ ballots, r.ListsBallot id

structure CoversProcedureEffect (r : Rulebook) (kind : ProcedureKind) (e : ProcedureEffect) :
    Prop where
  /-- During setup there is no ballot. -/
  scope : kind.isGovernmental = true → e.kind.isBallotScoped = false
  treasury : kind.isDeclared = false → e.kind.isCurrency = true → e.targets = [] → r.HasTreasury
  payees : e.kind.isCurrency = true → ∀ id ∈ e.targets, r.ListsPayee id
  roles : e.kind.isPermission = true → ∀ id ∈ e.targets, r.ListsRole id
  /-- What follows the role in an election are filters, which may name anything. -/
  electedRole : e.kind = .electNominated ∨ e.kind = .electAppointed →
    ∀ id ∈ e.targets.head?, r.ListsRole id
  procedures : e.kind = .procedureActivate ∨ e.kind = .procedureRemove →
    ∀ id ∈ e.targets, r.ListsTargeted id

structure CoversProcedure (r : Rulebook) (p : Procedure) : Prop where
  kind : r.CoversKind p.kind
  effects : ∀ e ∈ p.effects, r.CoversProcedureEffect p.kind e

structure CoversBallotEffect (r : Rulebook) (e : BallotEffect) : Prop where
  parties : e.kind = .foundParty ∨ e.kind = .dissolveParty → ∀ id ∈ e.targets, r.ListsParty id
  procedures : e.kind = .activateProcedure ∨ e.kind = .removeProcedure ∨
    e.kind = .replaceProcedure → ∀ id ∈ e.targets, r.ListsTargeted id
  payees : e.kind = .modifyCurrency → ∀ id ∈ e.targets, r.ListsPayee id

structure CoversLink (r : Rulebook) (l : Link) : Prop where
  condition : r.CoversCondition l.condition
  /-- Links are followed when the vote is over. -/
  noVote : ∀ passed, ¬ Condition.Within (.vote passed) l.condition
  target : ∀ id ∈ l.target.ballot?, r.ListsBallot id

structure CoversConsequence (r : Rulebook) (c : Consequence) : Prop where
  effects : ∀ e ∈ c.effects, r.CoversBallotEffect e
  links : ∀ l ∈ c.links, r.CoversLink l

structure CoversBallot (r : Rulebook) (b : Ballot) : Prop where
  pass : r.CoversConsequence b.pass
  fail : r.CoversConsequence b.fail
  resolution : ∀ c ∈ b.resolution, r.CoversCondition c
  resolvable : b.incident = true → b.resolution.isSome = true

/-! ## The whole book -/

/-- The names are below the reserved ones, and no two are the same. -/
structure Free (names : List Ident) : Prop where
  distinct : names.Nodup
  unreserved : ∀ id ∈ names, id < Ident.firstReserved

structure WellFormed (r : Rulebook) : Prop where
  rolesDistinct : (r.roles.map (·.id)).Nodup
  rolesAllowed : ∀ d ∈ r.roles, d.id < Ident.firstReserved ∨ d.id ∈ Ident.namedRoles
  factions : Free (r.parties.map (·.id) ++ r.regions.map (·.id))
  currencies : Free (r.currencies.map (·.id))
  procedures : Free (r.procedures.map (·.id))
  ballots : Free (r.ballots.map (·.id))
  oneTreasury : (r.currencies.filter fun c => c.owner = .state).length ≤ 1
  owners : ∀ c ∈ r.currencies, r.ListsOwner c.owner
  procedureEntries : ∀ p ∈ r.procedures, r.CoversProcedure p
  ballotEntries : ∀ b ∈ r.ballots, r.CoversBallot b
  wording : ∀ key ∈ Wording.neededKeys, (r.wording.get? key).isSome = true

end Parliament.Rulebook
