import Parliament.Rulebook

/-! # Checking a rule book

A rule book that passes names nothing that it does not list. The first flaw is reported: names are
checked before owners, owners before procedures, procedures before ballots, and the wording last.
-/

namespace Parliament.Rulebook

/-! ## Names -/

/-- No name is reserved, those for which `allowed` makes an exception apart, and none is in `seen`
or comes twice. -/
def checkNames (space : Space) (allowed : Ident → Bool) : IdSet → List Ident → Except Flaw Unit
  | _, [] => .ok ()
  | seen, a :: l =>
    if a.isReserved && !allowed a then .error (.reservedName space a)
    else if seen.contains a then .error (.repeatedName space a)
    else checkNames space allowed (seen.insert a) l

def checkUnreserved (space : Space) (l : List Ident) : Except Flaw Unit :=
  checkNames space (fun _ => false) .empty l

/-- Parties and regions share one space. -/
def checkSpaces (r : Rulebook) : Except Flaw Unit := do
  checkNames .role Ident.isNamedRole .empty (r.roles.map (·.id))
  checkUnreserved .faction (r.parties.map (·.id) ++ r.regions.map (·.id))
  checkUnreserved .currency (r.currencies.map (·.id))
  checkUnreserved .procedure (r.procedures.map (·.id))
  checkUnreserved .ballot (r.ballots.map (·.id))

/-! ## What may be referred to -/

structure Known where
  /-- With the named roles. -/
  roles : IdSet
  parties : IdSet
  regions : IdSet
  currencies : IdSet
  procedures : IdSet
  /-- The procedures that can be switched on and off. -/
  targeted : IdSet
  ballots : IdSet
  hasStateCurrency : Bool

def known (r : Rulebook) : Known where
  roles := (IdSet.ofList (r.roles.map (·.id))).insertAll Ident.namedRoles
  parties := .ofList (r.parties.map (·.id))
  regions := .ofList (r.regions.map (·.id))
  currencies := .ofList (r.currencies.map (·.id))
  procedures := .ofList (r.procedures.map (·.id))
  targeted := .ofList ((r.procedures.filter (·.kind.isTargeted)).map (·.id))
  ballots := .ofList (r.ballots.map (·.id))
  hasStateCurrency := r.stateCurrency.isSome

def need (owner : Referrer) (space : Space) (names : IdSet) (id : Ident) : Except Flaw Unit :=
  if names.contains id then .ok () else .error (.unknownName owner space id)

namespace Known

def needStateCurrency (k : Known) (owner : Referrer) : Except Flaw Unit :=
  if k.hasStateCurrency then .ok () else .error (.unknownName owner .stateCurrency .stateFunds)

def needPayee (k : Known) (owner : Referrer) (id : Ident) : Except Flaw Unit :=
  if id = .stateFunds then k.needStateCurrency owner
  else if id = .partyFunds ∨ id = .regionFunds then .ok ()
  else need owner .currency k.currencies id

/-! ## Conditions -/

def checkPart (k : Known) (owner : Referrer) : Condition → Except Flaw Unit
  | .ballotPassed ballot _ => need owner .ballot k.ballots ballot
  | .currencyValue currency _ _ => need owner .currency k.currencies currency
  | .procedureActive procedure _ => need owner .procedure k.procedures procedure
  | _ => .ok ()

def checkCondition (k : Known) (owner : Referrer) (c : Condition) : Except Flaw Unit :=
  c.parts.forM (k.checkPart owner)

/-! ## Procedures -/

def checkKind (k : Known) (owner : Referrer) : ProcedureKind → Except Flaw Unit
  | .governmental => .ok ()
  | .targeted ballots _ => ballots.forM (need owner .ballot k.ballots)
  | .declared _ declarers ballots => do
    declarers.forM (need owner .role k.roles)
    ballots.forM (need owner .ballot k.ballots)

def checkProcedureTarget (k : Known) (owner : Referrer) (kind : ProcedureEffectKind)
    (target : Ident) : Except Flaw Unit :=
  match kind with
  | .currencyAdd | .currencySubtract => k.needPayee owner target
  | .permissionCanVote | .permissionVotes | .permissionCanSpeak =>
    need owner .role k.roles target
  | .procedureActivate | .procedureRemove => need owner .targetedProcedure k.targeted target
  | _ => .ok ()

/-- The first target of an election to a role is the role. -/
def checkElectedRole (k : Known) (owner : Referrer) (e : ProcedureEffect) : Except Flaw Unit :=
  match e.kind with
  | .electNominated | .electAppointed => (e.targets.take 1).forM (need owner .role k.roles)
  | _ => .ok ()

/-- Where nobody declares, a change of currency without targets falls to the state. -/
def checkOwnFunds (k : Known) (owner : Referrer) (kind : ProcedureKind) (e : ProcedureEffect) :
    Except Flaw Unit :=
  if !kind.isDeclared && e.kind.isCurrency && e.targets.isEmpty then k.needStateCurrency owner
  else .ok ()

def checkProcedureEffect (k : Known) (p : Procedure) (e : ProcedureEffect) : Except Flaw Unit := do
  if p.kind.isGovernmental && e.kind.isBallotScoped then
    .error (.effectNotAllowed p.id e.kind p.kind.word)
  k.checkOwnFunds (.procedure p.id) p.kind e
  e.targets.forM (k.checkProcedureTarget (.procedure p.id) e.kind)
  k.checkElectedRole (.procedure p.id) e

def checkProcedure (k : Known) (p : Procedure) : Except Flaw Unit := do
  k.checkKind (.procedure p.id) p.kind
  p.effects.forM (k.checkProcedureEffect p)

/-! ## Ballots -/

def checkLink (k : Known) (ballot : Ident) (l : Link) : Except Flaw Unit := do
  if l.condition.readsVote then .error (.voteInLink ballot)
  k.checkCondition (.ballot ballot) l.condition
  match l.target with
  | .ballot next => need (.ballot ballot) .ballot k.ballots next
  | .finish => .ok ()

def checkBallotTarget (k : Known) (owner : Referrer) (kind : BallotEffectKind) (target : Ident) :
    Except Flaw Unit :=
  match kind with
  | .foundParty | .dissolveParty => need owner .party k.parties target
  | .activateProcedure | .removeProcedure | .replaceProcedure =>
    need owner .targetedProcedure k.targeted target
  | .modifyCurrency => k.needPayee owner target

def checkConsequence (k : Known) (ballot : Ident) (c : Consequence) : Except Flaw Unit := do
  c.links.forM (k.checkLink ballot)
  c.effects.forM fun e => e.targets.forM (k.checkBallotTarget (.ballot ballot) e.kind)

def checkResolution (k : Known) (b : Ballot) : Except Flaw Unit :=
  match b.resolution with
  | some c => k.checkCondition (.ballot b.id) c
  | none => if b.incident then .error (.noResolution b.id) else .ok ()

def checkBallot (k : Known) (b : Ballot) : Except Flaw Unit := do
  k.checkResolution b
  k.checkConsequence b.id b.pass
  k.checkConsequence b.id b.fail

/-! ## Currencies -/

/-- The currency that the state owns already is `first`. -/
def checkOwners (k : Known) : Option Ident → List CurrencyDef → Except Flaw Unit
  | _, [] => .ok ()
  | first, c :: l =>
    match c.owner with
    | .state =>
      match first with
      | some id => .error (.secondStateCurrency c.id id)
      | none => checkOwners k (some c.id) l
    | .party id => do need (.currency c.id) .party k.parties id; checkOwners k first l
    | .region id => do need (.currency c.id) .region k.regions id; checkOwners k first l

end Known

/-! ## The whole book -/

def check (r : Rulebook) : Except Flaw Unit := do
  r.checkSpaces
  r.known.checkOwners none r.currencies
  r.procedures.forM r.known.checkProcedure
  r.ballots.forM r.known.checkBallot
  r.wording.check

end Parliament.Rulebook
