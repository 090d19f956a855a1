import Parliament.NameSupply
import Parliament.Session.Calls

/-! # Drafts

A draft is a rule book in the making, with the people who will take part. It names what is added, so
the author speaks of things and not of numbers.
-/

namespace Parliament

structure Draft where
  rulebook : Rulebook
  /-- In the order in which they joined. -/
  people : List Person := []
  personNames : NameSupply := .new
  roleNames : NameSupply := .new
  /-- Parties and regions share one supply. -/
  factionNames : NameSupply := .new
  currencyNames : NameSupply := .new
  procedureNames : NameSupply := .new
  ballotNames : NameSupply := .new

namespace Draft

/-- At first there are only members, and they can vote. -/
def new : Draft where
  rulebook := { roles := [⟨.member, "Member", { Permissions.standard with canVote := true }⟩] }

instance : Inhabited Draft := ⟨new⟩

/-! ## People and roles -/

def addPerson (d : Draft) (name : String) : Except Fault (Ident × Draft) := do
  let (id, names) ← d.personNames.take
  return (id, { d with people := d.people ++ [⟨id, name⟩], personNames := names })

def addPeopleFrom (d : Draft) (i : Nat) : Nat → Except Fault (List Ident × Draft)
  | 0 => .ok ([], d)
  | n + 1 => do
    let (id, d) ← d.addPerson ("P" ++ toString i)
    let (ids, d) ← d.addPeopleFrom (i + 1) n
    return (id :: ids, d)

/-- Adds `P0`, `P1` and so on, as many as are asked for. -/
def addPeople (d : Draft) (n : UInt8) : Except Fault (List Ident × Draft) :=
  d.addPeopleFrom 0 n.toNat

def addRole (d : Draft) (name : String) (permissions : Permissions) :
    Except Fault (Ident × Draft) := do
  let (id, names) ← d.roleNames.take
  let roles := d.rulebook.roles ++ [⟨id, name, permissions⟩]
  return (id, { d with rulebook := { d.rulebook with roles := roles }, roleNames := names })

def setPermissions (role : Ident) (permissions : Permissions) : List RoleDef → List RoleDef
  | [] => [⟨role, s!"role {role}", permissions⟩]
  | r :: l =>
    if r.id = role then { r with permissions := permissions } :: l
    else r :: setPermissions role permissions l

/-- A role that is not listed is added under a name that tells its number. -/
def setRolePermissions (d : Draft) (role : Ident) (permissions : Permissions) : Draft :=
  let roles := setPermissions role permissions d.rulebook.roles
  { d with rulebook := { d.rulebook with roles := roles } }

/-! ## Factions and currencies -/

def addParty (d : Draft) (name : String) (active : Bool) : Except Fault (Ident × Draft) := do
  let (id, names) ← d.factionNames.take
  let parties := d.rulebook.parties ++ [⟨id, name, active⟩]
  return (id, { d with rulebook := { d.rulebook with parties := parties }, factionNames := names })

def addRegion (d : Draft) (name : String) (active : Bool) : Except Fault (Ident × Draft) := do
  let (id, names) ← d.factionNames.take
  let regions := d.rulebook.regions ++ [⟨id, name, active⟩]
  return (id, { d with rulebook := { d.rulebook with regions := regions }, factionNames := names })

def addCurrency (d : Draft) (name : String) (owner : CurrencyOwner) (initial : Int8) :
    Except Fault (Ident × Draft) := do
  let (id, names) ← d.currencyNames.take
  let currencies := d.rulebook.currencies ++ [⟨id, name, owner, initial⟩]
  return (id,
    { d with rulebook := { d.rulebook with currencies := currencies }, currencyNames := names })

/-! ## Procedures and ballots -/

def addProcedure (d : Draft) (name : String) (kind : ProcedureKind)
    (effects : List ProcedureEffect) : Except Fault (Ident × Draft) := do
  let (id, names) ← d.procedureNames.take
  let procedures := d.rulebook.procedures ++ [⟨id, name, kind, effects⟩]
  return (id,
    { d with rulebook := { d.rulebook with procedures := procedures }, procedureNames := names })

/-- A new ballot has no effects and leads nowhere. -/
def addBallot (d : Draft) (name : String) : Except Fault (Ident × Draft) := do
  let (id, names) ← d.ballotNames.take
  let ballots := d.rulebook.ballots ++ [⟨id, name, {}, {}, false, none⟩]
  return (id, { d with rulebook := { d.rulebook with ballots := ballots }, ballotNames := names })

/-! ## Changing a ballot -/

inductive BallotEdit
  /-- An effect that may not be sound; it is checked when it is added. -/
  | effect (passed : Bool) (kind : BallotEffectKind) (targets : List Ident) (value : Int8)
  | link (passed : Bool) (condition : Condition) (target : LinkTarget)
  /-- A link to `next` that is always followed, whatever the outcome. -/
  | next (next : Ident)
  | incident (resolution : Condition)
  | rename (name : String)

def addEffect (c : Consequence) (e : BallotEffect) : Consequence :=
  { c with effects := c.effects ++ [e] }

def addLink (c : Consequence) (l : Link) : Consequence := { c with links := c.links ++ [l] }

def onConsequence (b : Ballot) (passed : Bool) (f : Consequence → Consequence) : Ballot :=
  if passed then { b with pass := f b.pass } else { b with fail := f b.fail }

def BallotEdit.apply (b : Ballot) : BallotEdit → Except Fault Ballot
  | effect passed kind targets value =>
    match BallotEffect.make kind targets value with
    | .ok e => .ok (onConsequence b passed (addEffect · e))
    | .error e => .error (.draftEffect e)
  | link passed condition target =>
    .ok (onConsequence b passed (addLink · ⟨condition, target⟩))
  | next id =>
    let l : Link := ⟨.always, .ballot id⟩
    .ok { b with pass := addLink b.pass l, fail := addLink b.fail l }
  | incident resolution => .ok { b with incident := true, resolution := some resolution }
  | rename name => .ok { b with name := name }

def editIn (id : Ident) (e : BallotEdit) : List Ballot → Except Fault (List Ballot)
  | [] => .error (.draftBallot id)
  | b :: l =>
    if b.id = id then do return (← e.apply b) :: l else do return b :: (← editIn id e l)

def edit (d : Draft) (id : Ident) (e : BallotEdit) : Except Fault Draft := do
  return { d with rulebook := { d.rulebook with ballots := ← editIn id e d.rulebook.ballots } }

/-! ## Sound effects -/

/-- In a draft an effect that is not sound is a fault. -/
def procedureEffect (kind : ProcedureEffectKind) (targets : List Ident) (value : Int8) :
    Except Fault ProcedureEffect :=
  match ProcedureEffect.make kind targets value with
  | .ok e => .ok e
  | .error e => .error (.draftEffect e)

/-! ## Entries -/

inductive Entry
  | person (name : String)
  | people (n : UInt8)
  | role (name : String) (permissions : Permissions)
  | rolePermissions (role : Ident) (permissions : Permissions)
  | party (name : String) (active : Bool)
  | region (name : String) (active : Bool)
  | currency (name : String) (owner : CurrencyOwner) (initial : Int8)
  | procedure (name : String) (kind : ProcedureKind) (effects : List ProcedureEffect)
  | ballot (name : String)
  | edit (ballot : Ident) (e : BallotEdit)

def single (x : Except Fault (Ident × Draft)) : Except Fault (List Ident × Draft) :=
  x.map fun p => ([p.1], p.2)

/-- Gives back the names that were handed out. -/
def add (d : Draft) : Entry → Except Fault (List Ident × Draft)
  | .person name => single (d.addPerson name)
  | .people n => d.addPeople n
  | .role name permissions => single (d.addRole name permissions)
  | .rolePermissions role permissions => .ok ([], d.setRolePermissions role permissions)
  | .party name active => single (d.addParty name active)
  | .region name active => single (d.addRegion name active)
  | .currency name owner initial => single (d.addCurrency name owner initial)
  | .procedure name kind effects => single (d.addProcedure name kind effects)
  | .ballot name => single (d.addBallot name)
  | .edit ballot e => (d.edit ballot e).map ([], ·)

/-- The first entry that fails ends the making. -/
def addAll (d : Draft) : List Entry → Except Fault Draft
  | [] => .ok d
  | e :: entries => do (← d.add e).2.addAll entries

/-! ## Opening a session -/

/-- The people of the draft are registered at once. -/
def session {γ α : Type} (d : Draft) (chance : γ) (officer : α) : Except Fault (Session γ α) :=
  match Session.start d.rulebook chance officer with
  | .error flaw => .error (.draftRulebook flaw)
  | .ok s => do
    let o ← s.register d.people
    match o.answer with
    | .ok () => return o.session
    | .error flaw => .error (.draftPeople flaw)

end Draft

end Parliament
