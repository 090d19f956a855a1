import Parliament.Ballot
import Parliament.NameTable
import Parliament.Permissions
import Parliament.Procedure
import Parliament.Wording

/-! # Rule books

A rule book lists the roles, factions, currencies, procedures and ballots of a session, and the
wording that describes them.
-/

namespace Parliament

structure RoleDef where
  id : Ident
  name : String
  permissions : Permissions
deriving DecidableEq

/-- A party or a region. -/
structure FactionDef where
  id : Ident
  name : String
  /-- Whether it is active when a session begins. -/
  active : Bool
deriving DecidableEq

inductive CurrencyOwner
  | state
  | party (id : Ident)
  | region (id : Ident)
deriving DecidableEq

structure CurrencyDef where
  id : Ident
  name : String
  owner : CurrencyOwner
  initial : Int8
deriving DecidableEq

structure Rulebook where
  roles : List RoleDef := []
  parties : List FactionDef := []
  regions : List FactionDef := []
  currencies : List CurrencyDef := []
  procedures : List Procedure := []
  ballots : List Ballot := []
  wording : Wording := .english
deriving Inhabited

namespace Rulebook

/-! ## Look-ups

Where a name is listed twice the first entry counts.
-/

def procedure? (r : Rulebook) (id : Ident) : Option Procedure :=
  r.procedures.find? fun p => p.id = id

def ballot? (r : Rulebook) (id : Ident) : Option Ballot := r.ballots.find? fun b => b.id = id

def currencyOf (r : Rulebook) (owner : CurrencyOwner) : Option Ident :=
  (r.currencies.find? fun c => c.owner = owner).map CurrencyDef.id

def stateCurrency (r : Rulebook) : Option Ident := r.currencyOf .state

def partyCurrency (r : Rulebook) (party : Ident) : Option Ident := r.currencyOf (.party party)

def regionCurrency (r : Rulebook) (region : Ident) : Option Ident := r.currencyOf (.region region)

/-! ## Tables -/

/-- The named roles are always there, with the standard permissions unless the book gives others. -/
def roleTable (r : Rulebook) : IdMap Permissions :=
  (IdMap.ofList (Ident.namedRoles.map fun id => (id, Permissions.standard))).insertAll
    (r.roles.map fun d => (d.id, d.permissions))

def standardRoleNames : List (Ident × String) := [
  (.member, "Member"),
  (.headOfGovernment, "Head of Government"),
  (.headOfState, "Head of State"),
  (.partyLeader, "Party Leader"),
  (.regionLeader, "Regional Leader")]

def nameTable (r : Rulebook) : NameTable where
  roles := (IdMap.ofList standardRoleNames).insertAll (r.roles.map fun d => (d.id, d.name))
  parties := .ofList (r.parties.map fun d => (d.id, d.name))
  regions := .ofList (r.regions.map fun d => (d.id, d.name))
  currencies := .ofList (r.currencies.map fun d => (d.id, d.name))
  procedures := .ofList (r.procedures.map fun d => (d.id, d.name))
  ballots := .ofList (r.ballots.map fun d => (d.id, d.name))

/-! ## The beginning of a session -/

def activeFactions (l : List FactionDef) : IdSet := .ofList ((l.filter (·.active)).map (·.id))

def initiallyActive (r : Rulebook) : IdSet :=
  .ofList ((r.procedures.filter (·.kind.startsActive)).map (·.id))

def initialBalances (r : Rulebook) : IdMap Int8 :=
  .ofList (r.currencies.map fun d => (d.id, d.initial))

end Rulebook

end Parliament
