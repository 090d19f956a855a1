import Parliament.Session

/-! # Effects at work

Effects change the session one after the other. What they touch is noted, so that observers hear of
a bundle of effects once.
-/

namespace Parliament

structure Changes where
  permissions : Bool := false
  currencies : Bool := false
  procedures : Bool := false
deriving DecidableEq, Inhabited

inductive Scope
  | setup
  | ballotStart (first : Bool)
  | declared (person : Ident)
deriving DecidableEq

namespace Scope

def declarer? : Scope → Option Ident
  | declared person => some person
  | _ => none

/-- On the first ballot targeted procedures change neither balances nor other procedures. -/
def holdsBack : Scope → Bool
  | ballotStart first => first
  | _ => false

end Scope

/-! ## What an effect stands for -/

namespace ProcedureEffect

/-- The election that an effect asks for. The first target of an election to a role is the role. -/
def request? (procedure : Ident) (e : ProcedureEffect) : Option ElectionRequest :=
  let random := e.value != 0
  match e.kind, e.targets with
  | .electParty, targets => some ⟨.party, some procedure, .member, targets, random⟩
  | .electRegion, targets => some ⟨.region, some procedure, .member, targets, random⟩
  | .electNominated, role :: filters => some ⟨.nominated, some procedure, role, filters, random⟩
  | .electAppointed, role :: filters => some ⟨.appointed, some procedure, role, filters, random⟩
  | _, _ => none

def amendment? (e : ProcedureEffect) : Option Amendment :=
  match e.kind with
  | .permissionCanVote => some (.ofCanVote (e.value != 0))
  | .permissionVotes => some (.ofVotes e.value.toInt.toNat.toUInt8)
  | .permissionCanSpeak => some (.ofCanSpeak (e.value != 0))
  | _ => none

def bonus (e : ProcedureEffect) : UInt32 := e.value.toInt.natAbs.toUInt32

def addTo (e : ProcedureEffect) (t : Tally) : Except Fault Tally :=
  match e.kind with
  | .votePassBonus => do return { t with passBonus := ← Count.add t.passBonus e.bonus }
  | .voteFailBonus => do return { t with failBonus := ← Count.add t.failBonus e.bonus }
  | .supermajority => .ok { t with supermajority := true }
  | .ballotPass => .ok { t with forced := some true }
  | .ballotFail => .ok { t with forced := some false }
  | _ => .ok t

def delta (e : ProcedureEffect) : Int8 :=
  match e.kind with
  | .currencySubtract => Balance.neg e.value
  | _ => e.value

end ProcedureEffect

/-- Founding and dissolving parties moves people, so an election among parties follows. -/
def BallotEffect.shuffle (e : BallotEffect) : ElectionRequest :=
  ⟨.party, none, .member, e.targets, true⟩

namespace House

/-! ## Balances -/

def payees (h : House) (r : Rulebook) (target : Ident) : Except Fault (List Ident) :=
  if target = .stateFunds then
    match r.stateCurrency with
    | some currency => .ok [currency]
    | none => .error .noStateCurrency
  else if target = .partyFunds then .ok (h.activeParties.toList.filterMap r.partyCurrency)
  else if target = .regionFunds then .ok (h.activeRegions.toList.filterMap r.regionCurrency)
  else .ok [target]

def allPayees (h : House) (r : Rulebook) : List Ident → Except Fault (List Ident)
  | [] => .ok []
  | target :: targets => do return (← h.payees r target) ++ (← h.allPayees r targets)

def adjustBalance (delta : Int8) (h : House) (currency : Ident) : Except Fault House :=
  match h.balances.get? currency with
  | some b => .ok { h with balances := h.balances.insert currency (Balance.add b delta) }
  | none => .error (.currencyOfEffect currency)

def adjustBalances (h : House) (delta : Int8) (currencies : List Ident) : Except Fault House :=
  currencies.foldlM (adjustBalance delta) h

/-! ## Procedures -/

def activate (h : House) (procedures : List Ident) : House :=
  { h with activeProcedures := h.activeProcedures.insertAll procedures }

def deactivate (h : House) (procedures : List Ident) : House :=
  { h with activeProcedures := h.activeProcedures.eraseAll procedures }

/-- The first procedure makes way for the second. -/
def replaceProcedure (h : House) : List Ident → Except Fault House
  | old :: new :: _ => .ok ((h.deactivate [old]).activate [new])
  | targets => .error (.placeOutOfRange targets.length targets.length)

/-! ## The right to vote -/

/-- Takes the vote from everybody whom no filter names. -/
def franchise (h : House) (filters : List Ident) : List (Ident × Amendment) :=
  h.roles.keys.map fun person =>
    (person, if h.matchesAny filters person then .empty else .ofCanVote false)

end House

namespace Session

variable {γ α : Type}

def addRequest (s : Session γ α) (r : ElectionRequest) : Session γ α :=
  { s with pendingElections := s.pendingElections ++ [r] }

def addOverride (s : Session γ α) (scope : Scope) (o : Override) : Session γ α :=
  match scope with
  | .setup => { s with standingOverrides := s.standingOverrides ++ [o] }
  | _ => { s with ballotOverrides := s.ballotOverrides ++ [o] }

/-- One of the people, drawn by chance; nobody if there are none. -/
def drawPerson [Chance γ] (s : Session γ α) : Except Fault (Option Ident × Session γ α) :=
  let people := s.house.people.keys
  if people.isEmpty then .ok (none, s)
  else do
    let (place, chance) ← Chance.choose people.length s.chance
    match people[place]? with
    | some person => return (some person, { s with chance := chance })
    | none => .error (.placeOutOfRange people.length place)

/-- Without targets the amendment falls to one person, drawn here and now and not drawn again. -/
def amendPermissions [Chance γ] (s : Session γ α) (scope : Scope) (targets : List Ident)
    (a : Amendment) (c : Changes) : Except Fault (Session γ α × Changes) :=
  if targets.isEmpty then do
    match ← s.drawPerson with
    | (some person, s) =>
      return (s.addOverride scope ⟨.person person, a⟩, { c with permissions := true })
    | (none, s) => return (s, c)
  else .ok (s.addOverride scope ⟨.roles targets, a⟩, { c with permissions := true })

/-- Without targets a change of currency falls to the declarer, or to the state if nobody
declares. Whoever owns no currency is passed over. -/
def effectPayees (s : Session γ α) (scope : Scope) (targets : List Ident) :
    Except Fault (List Ident) :=
  if targets.isEmpty then
    match scope.declarer? with
    | some person => .ok (s.ownedCurrency person).toList
    | none => .ok s.rulebook.stateCurrency.toList
  else s.house.allPayees s.rulebook targets

def adjustBalances (s : Session γ α) (delta : Int8) (currencies : List Ident) (c : Changes) :
    Except Fault (Session γ α × Changes) := do
  return ({ s with house := ← s.house.adjustBalances delta currencies },
    { c with currencies := c.currencies || !currencies.isEmpty })

def switchProcedures (s : Session γ α) (h : House) (c : Changes) : Session γ α × Changes :=
  ({ s with house := h }, { c with procedures := true })

/-- A limit takes the place of an earlier one, and the votes cast so far are void. -/
def limitVote (s : Session γ α) (filters : List Ident) : Session γ α :=
  { s with
    franchise := s.house.franchise filters
    floor := { s.floor with tally := s.floor.tally.clearVotes } }

def applyProcedureEffect [Chance γ] (scope : Scope) (s : Session γ α) (c : Changes)
    (procedure : Ident) (e : ProcedureEffect) : Except Fault (Session γ α × Changes) :=
  match e.kind with
  | .electParty | .electRegion | .electNominated | .electAppointed =>
    match e.request? procedure with
    | some r => .ok (s.addRequest r, c)
    | none => .error (.placeOutOfRange e.targets.length 0)
  | .permissionCanVote | .permissionVotes | .permissionCanSpeak =>
    match e.amendment? with
    | some a => s.amendPermissions scope e.targets a c
    | none => .ok (s, c)
  | .votePassBonus | .voteFailBonus | .supermajority | .ballotPass | .ballotFail =>
    do return ({ s with floor := { s.floor with tally := ← e.addTo s.floor.tally } }, c)
  | .currencyAdd | .currencySubtract =>
    if scope.holdsBack then .ok (s, c)
    else do s.adjustBalances e.delta (← s.effectPayees scope e.targets) c
  | .procedureActivate =>
    if scope.holdsBack then .ok (s, c)
    else .ok (s.switchProcedures (s.house.activate e.targets) c)
  | .procedureRemove =>
    if scope.holdsBack then .ok (s, c)
    else .ok (s.switchProcedures (s.house.deactivate e.targets) c)
  | .ballotLimit => .ok (s.limitVote e.targets, { c with permissions := true })

def applyBallotEffect (s : Session γ α) (c : Changes) (e : BallotEffect) :
    Except Fault (Session γ α × Changes) :=
  match e.kind with
  | .foundParty =>
    let house := { s.house with activeParties := s.house.activeParties.insertAll e.targets }
    .ok ({ s with house := house }.addRequest e.shuffle, c)
  | .dissolveParty =>
    let house := { s.house with activeParties := s.house.activeParties.eraseAll e.targets }
    .ok ({ s with house := house }.addRequest e.shuffle, c)
  | .activateProcedure => .ok (s.switchProcedures (s.house.activate e.targets) c)
  | .removeProcedure => .ok (s.switchProcedures (s.house.deactivate e.targets) c)
  | .replaceProcedure => do
    return s.switchProcedures (← s.house.replaceProcedure e.targets) c
  | .modifyCurrency => do
    s.adjustBalances e.value (← s.house.allPayees s.rulebook e.targets) c

/-! ## Bundles -/

def effectsOf (procedures : List Procedure) : List (Ident × ProcedureEffect) :=
  procedures.flatMap fun p => p.effects.map fun e => (p.id, e)

def applyProcedureEffects [Chance γ] (s : Session γ α) (c : Changes) (scope : Scope)
    (effects : List (Ident × ProcedureEffect)) : Except Fault (Session γ α × Changes) :=
  effects.foldlM (fun p e => applyProcedureEffect scope p.1 p.2 e.1 e.2) (s, c)

def applyBallotEffects (s : Session γ α) (c : Changes) (effects : List BallotEffect) :
    Except Fault (Session γ α × Changes) :=
  effects.foldlM (fun p e => applyBallotEffect p.1 p.2 e) (s, c)

end Session

end Parliament
