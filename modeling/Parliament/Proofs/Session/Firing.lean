import Parliament.Proofs.Session.Performed

/-! # What takes place in a call

A call carries out effects of procedures, or those that end a ballot, one after the other, and then
settles them together. What the effects come to can be read off their list.
-/

namespace Parliament

inductive Firing
  | procedure (id : Ident) (e : ProcedureEffect)
  | consequence (e : BallotEffect)

/-- What effects of this kind do carries over to the ballots that follow. -/
def ProcedureEffectKind.carriesOver : ProcedureEffectKind → Bool
  | currencyAdd | currencySubtract | procedureActivate | procedureRemove => true
  | _ => false

namespace ProcedureEffect

theorem request?_eq_none {e : ProcedureEffect} (h : e.kind.isElection = false)
    (procedure : Ident) : e.request? procedure = none := by
  unfold request?
  cases is : e.kind <;> simp_all [ProcedureEffectKind.isElection]

end ProcedureEffect

namespace Firing

def request? : Firing → Option ElectionRequest
  | procedure id e => e.request? id
  | consequence e =>
    if e.kind = .foundParty ∨ e.kind = .dissolveParty then some e.shuffle else none

def regroup (parties : IdSet) : Firing → IdSet
  | procedure _ _ => parties
  | consequence e =>
    match e.kind with
    | .foundParty => parties.insertAll e.targets
    | .dissolveParty => parties.eraseAll e.targets
    | _ => parties

/-- The people to whom the vote is limited are named by filters. -/
def limit? : Firing → Option (List Ident)
  | procedure _ e => if e.kind = .ballotLimit then some e.targets else none
  | consequence _ => none

/-- Permissions are amended, by an override or by a limit. An override without targets needs
somebody to fall to. -/
def amends (people : IdMap Person) : Firing → Bool
  | procedure _ e =>
    decide (e.kind = .ballotLimit) ||
      e.kind.isPermission && !(e.targets.isEmpty && people.keys.isEmpty)
  | consequence _ => false

/-- A limit takes the place of those before it. -/
def lastLimit (l : List Firing) : Option (List Ident) := (l.filterMap limit?).getLast?

theorem lastLimit_append (l m : List Firing) :
    lastLimit (l ++ m) = (lastLimit m).or (lastLimit l) := by
  rw [lastLimit, List.filterMap_append, List.getLast?_append]
  rfl

theorem ne_nil_of_lastLimit {l : List Firing} {filters : List Ident}
    (h : lastLimit l = some filters) : l ≠ [] := by
  rintro rfl
  cases h

theorem lastLimit_eq_none_iff {l : List Firing} :
    lastLimit l = none ↔ ∀ f ∈ l, f.limit? = none := by
  rw [lastLimit, List.getLast?_eq_none_iff, List.filterMap_eq_nil_iff]

def ofProcedures (procedures : List Procedure) : List Firing :=
  (Session.effectsOf procedures).map fun e => procedure e.1 e.2

end Firing

/-- The parties as the effects leave them. -/
def Electorate.regrouped (e : Electorate) (l : List Firing) : Electorate :=
  { e with activeParties := l.foldl Firing.regroup e.activeParties }

theorem House.franchise_congr {h k : House} (roles : k.roles = h.roles)
    (affiliations : k.affiliations = h.affiliations) : k.franchise = h.franchise := by
  funext filters
  unfold franchise matchesAny rolesOf affiliation
  rw [roles, affiliations]

namespace Session

variable {γ α : Type}

/-! ## What effects come to -/

def voters (s : Session γ α) : IdSet × IdSet :=
  (s.floor.tally.passVoters, s.floor.tally.failVoters)

/-- What the effects of a list come to. -/
structure CarriedOut (l : List Firing) (p q : Session γ α × Changes) : Prop where
  frame : q.1.frame = p.1.frame
  requests : q.1.pendingElections = p.1.pendingElections ++ l.filterMap Firing.request?
  parties : q.1.house.activeParties = l.foldl Firing.regroup p.1.house.activeParties
  amended : q.2.permissions = (p.2.permissions || l.any (Firing.amends p.1.house.people))
  franchise : q.1.franchise =
    ((Firing.lastLimit l).map p.1.house.franchise).getD p.1.franchise
  voters : q.1.voters = if (Firing.lastLimit l).isSome then (.empty, .empty) else p.1.voters

namespace CarriedOut

variable {l m : List Firing} {p q r : Session γ α × Changes}

theorem people_eq (h : CarriedOut l p q) : q.1.house.people = p.1.house.people :=
  congrArg Frame.people h.frame

theorem roles_eq (h : CarriedOut l p q) : q.1.house.roles = p.1.house.roles :=
  congrArg Frame.roles h.frame

theorem affiliations_eq (h : CarriedOut l p q) :
    q.1.house.affiliations = p.1.house.affiliations :=
  congrArg Frame.affiliations h.frame

theorem electorate_eq (h : CarriedOut l p q) :
    q.1.house.electorate = p.1.house.electorate.regrouped l := by
  have regions : q.1.house.activeRegions = p.1.house.activeRegions :=
    congrArg Frame.activeRegions h.frame
  unfold House.electorate Electorate.regrouped
  rw [h.people_eq, h.roles_eq, h.affiliations_eq, regions, h.parties]

theorem refl (p : Session γ α × Changes) : CarriedOut [] p p :=
  ⟨rfl, by simp, rfl, by simp, rfl, rfl⟩

theorem trans (h : CarriedOut l p q) (k : CarriedOut m q r) : CarriedOut (l ++ m) p r := by
  refine ⟨k.frame.trans h.frame, ?_, ?_, ?_, ?_, ?_⟩
  · rw [k.requests, h.requests, List.filterMap_append, List.append_assoc]
  · rw [k.parties, h.parties, List.foldl_append]
  · rw [k.amended, h.amended, h.people_eq, List.any_append, Bool.or_assoc]
  · rw [k.franchise, h.franchise, House.franchise_congr h.roles_eq h.affiliations_eq,
      Firing.lastLimit_append]
    cases Firing.lastLimit m <;> rfl
  · rw [k.voters, h.voters, Firing.lastLimit_append]
    cases Firing.lastLimit m <;> rfl

end CarriedOut

/-! ## One effect -/

section

variable {s t : Session γ α} {c d : Changes}

theorem carriedOut_request {f : Firing} {r : ElectionRequest} {house : House}
    (request : f.request? = some r) (amends : ∀ people, f.amends people = false)
    (limit : f.limit? = none)
    (regrouped : house = { s.house with activeParties := f.regroup s.house.activeParties }) :
    CarriedOut [f] (s, c) ({ s with house := house }.addRequest r, c) := by
  subst regrouped
  refine ⟨rfl, ?_, rfl, ?_, ?_, ?_⟩
  · simp [request, addRequest]
  · simp [amends]
  · simp [Firing.lastLimit, limit, addRequest]
  · simp [Firing.lastLimit, limit, addRequest, Session.voters]

theorem carriedOut_aside {f : Firing} (request : f.request? = none)
    (regroup : ∀ parties, f.regroup parties = parties) (limit : f.limit? = none)
    (frame : t.frame = s.frame) (pending : t.pendingElections = s.pendingElections)
    (parties : t.house.activeParties = s.house.activeParties)
    (franchise : t.franchise = s.franchise) (voters : t.voters = s.voters)
    (amended : d.permissions = (c.permissions || f.amends s.house.people)) :
    CarriedOut [f] (s, c) (t, d) := by
  refine ⟨frame, ?_, ?_, ?_, ?_, ?_⟩
  · simp [request, pending]
  · simp [regroup, parties]
  · simp [amended]
  · simp [Firing.lastLimit, limit, franchise]
  · simp [Firing.lastLimit, limit, voters]

theorem adjustBalances_carriedOut {f : Firing} {delta : Int8} {currencies : List Ident}
    (request : f.request? = none) (regroup : ∀ parties, f.regroup parties = parties)
    (limit : f.limit? = none) (amends : ∀ people, f.amends people = false)
    (h : s.adjustBalances delta currencies c = .ok (t, d)) : CarriedOut [f] (s, c) (t, d) := by
  obtain ⟨house, adjusted, h⟩ := bind_eq_ok.1 h
  obtain ⟨m, rfl, -, -⟩ := House.adjustBalances_eq_ok adjusted
  rw [pure_eq_ok, Prod.mk.injEq] at h
  obtain ⟨rfl, rfl⟩ := h
  exact carriedOut_aside request regroup limit rfl rfl rfl rfl rfl (by simp [amends])

variable [Chance γ] {scope : Scope}

theorem isNone_drawPerson {person : Option Ident} (h : s.drawPerson = .ok (person, t)) :
    person.isNone = s.house.people.keys.isEmpty := by
  unfold drawPerson at h
  dsimp only at h
  split at h
  next nobody =>
    obtain ⟨rfl, -⟩ := Prod.mk.inj (Except.ok.inj h)
    exact nobody.symm
  next somebody =>
    obtain ⟨⟨place, chance⟩, -, h⟩ := bind_eq_ok.1 h
    split at h
    next =>
      obtain ⟨rfl, -⟩ := Prod.mk.inj (pure_eq_ok.1 h)
      simpa using somebody
    next => simp at h

theorem amendPermissions_eq_ok {targets : List Ident} {a : Amendment}
    (h : s.amendPermissions scope targets a c = .ok (t, d)) :
    (t = s ∨ ∃ chance o, t = { s with chance := chance }.addOverride scope o) ∧
      d = { c with permissions :=
        c.permissions || !(targets.isEmpty && s.house.people.keys.isEmpty) } := by
  unfold amendPermissions at h
  split at h
  next random =>
    obtain ⟨⟨person, u⟩, drawn, h⟩ := bind_eq_ok.1 h
    obtain ⟨chance, rfl, still⟩ := drawPerson_eq_ok drawn
    rw [random, ← isNone_drawPerson drawn]
    cases person with
    | none =>
      obtain ⟨rfl, rfl⟩ := Prod.mk.inj (pure_eq_ok.1 h)
      rw [still rfl]
      exact ⟨.inl rfl, by simp⟩
    | some person =>
      obtain ⟨rfl, rfl⟩ := Prod.mk.inj (pure_eq_ok.1 h)
      exact ⟨.inr ⟨chance, _, rfl⟩, by simp⟩
  next chosen =>
    obtain ⟨rfl, rfl⟩ := Prod.mk.inj (Except.ok.inj h)
    exact ⟨.inr ⟨s.chance, _, rfl⟩, by simp [chosen]⟩

theorem applyProcedureEffect_plain {id : Ident} {e : ProcedureEffect}
    (plain : e.kind.carriesOver = false) (h : applyProcedureEffect scope s c id e = .ok (t, d)) :
    t.house = s.house ∧ d.currencies = c.currencies ∧ d.procedures = c.procedures := by
  unfold applyProcedureEffect at h
  split at h
  case h_1 | h_2 | h_3 | h_4 =>
    split at h
    next r _ =>
      obtain ⟨rfl, rfl⟩ := Prod.mk.inj (Except.ok.inj h)
      exact ⟨rfl, rfl, rfl⟩
    next => simp at h
  case h_5 | h_6 | h_7 =>
    split at h
    next =>
      obtain ⟨rfl | ⟨chance, o, rfl⟩, rfl⟩ := amendPermissions_eq_ok h
      · exact ⟨rfl, rfl, rfl⟩
      · exact ⟨by cases scope <;> rfl, rfl, rfl⟩
    next =>
      obtain ⟨rfl, rfl⟩ := Prod.mk.inj (Except.ok.inj h)
      exact ⟨rfl, rfl, rfl⟩
  case h_8 | h_9 | h_10 | h_11 | h_12 =>
    obtain ⟨tally, -, h⟩ := bind_eq_ok.1 h
    obtain ⟨rfl, rfl⟩ := Prod.mk.inj (pure_eq_ok.1 h)
    exact ⟨rfl, rfl, rfl⟩
  -- Payments and activations carry over.
  case h_13 is | h_14 is | h_15 is | h_16 is =>
    rw [is] at plain
    cases plain
  case h_17 =>
    obtain ⟨rfl, rfl⟩ := Prod.mk.inj (Except.ok.inj h)
    exact ⟨rfl, rfl, rfl⟩

theorem applyProcedureEffect_lasting {e : ProcedureEffect}
    (lasting : e.kind.carriesOver = true) (scope : Scope) (id : Ident) :
    (e.kind.isCurrency = true ∧ ∀ (s : Session γ α) c, applyProcedureEffect scope s c id e =
      if scope.holdsBack then .ok (s, c)
      else do s.adjustBalances e.delta (← s.effectPayees scope e.targets) c) ∨
    (e.kind = .procedureActivate ∧ ∀ (s : Session γ α) c, applyProcedureEffect scope s c id e =
      if scope.holdsBack then .ok (s, c)
      else .ok (s.switchProcedures (s.house.activate e.targets) c)) ∨
    (e.kind = .procedureRemove ∧ ∀ (s : Session γ α) c, applyProcedureEffect scope s c id e =
      if scope.holdsBack then .ok (s, c)
      else .ok (s.switchProcedures (s.house.deactivate e.targets) c)) := by
  unfold applyProcedureEffect
  cases kind : e.kind with
  | currencyAdd | currencySubtract => exact .inl ⟨rfl, fun _ _ => rfl⟩
  | procedureActivate => exact .inr (.inl ⟨rfl, fun _ _ => rfl⟩)
  | procedureRemove => exact .inr (.inr ⟨rfl, fun _ _ => rfl⟩)
  | _ =>
    rw [kind] at lasting
    cases lasting

theorem amendPermissions_carriedOut {id : Ident} {e : ProcedureEffect} {a : Amendment}
    (permission : e.kind.isPermission = true)
    (h : s.amendPermissions scope e.targets a c = .ok (t, d)) :
    CarriedOut [.procedure id e] (s, c) (t, d) := by
  have limit : e.kind ≠ .ballotLimit := by
    intro is
    simp [is, ProcedureEffectKind.isPermission] at permission
  have request : e.request? id = none := by
    apply ProcedureEffect.request?_eq_none
    cases is : e.kind <;>
      simp_all [ProcedureEffectKind.isPermission, ProcedureEffectKind.isElection]
  obtain ⟨rfl | ⟨chance, o, rfl⟩, touched⟩ := amendPermissions_eq_ok h
  · exact carriedOut_aside request (fun _ => rfl) (if_neg limit) rfl rfl rfl rfl rfl
      (by simp [touched, Firing.amends, permission, limit])
  · refine carriedOut_aside request (fun _ => rfl) (if_neg limit) ?_ ?_ ?_ ?_ ?_
      (by simp [touched, Firing.amends, permission, limit]) <;> cases scope <;> rfl

theorem applyProcedureEffect_carriedOut {id : Ident} {e : ProcedureEffect}
    (h : applyProcedureEffect scope s c id e = .ok (t, d)) :
    CarriedOut [.procedure id e] (s, c) (t, d) := by
  -- Most effects ask for no election, bar nobody and amend no permissions.
  have ordinary (election : e.kind.isElection = false) (limit : e.kind ≠ .ballotLimit)
      (permission : e.kind.isPermission = false) :
      (Firing.procedure id e).request? = none ∧ (Firing.procedure id e).limit? = none ∧
        ∀ people, (Firing.procedure id e).amends people = false :=
    ⟨ProcedureEffect.request?_eq_none election id, if_neg limit,
      fun _ => by simp [Firing.amends, *]⟩
  unfold applyProcedureEffect at h
  split at h
  case h_1 is | h_2 is | h_3 is | h_4 is =>
    split at h
    next r request =>
      obtain ⟨rfl, rfl⟩ := Prod.mk.inj (Except.ok.inj h)
      exact carriedOut_request request
        (fun _ => by simp [Firing.amends, is, ProcedureEffectKind.isPermission])
        (if_neg (by simp [is])) rfl
    next => simp at h
  case h_5 is | h_6 is | h_7 is =>
    simp only [ProcedureEffect.amendment?, is] at h
    exact amendPermissions_carriedOut (by rw [is]; rfl) h
  case h_8 is | h_9 is | h_10 is | h_11 is | h_12 is =>
    obtain ⟨request, limit, amends⟩ := ordinary (by rw [is]; rfl) (by simp [is]) (by rw [is]; rfl)
    obtain ⟨tally, added, h⟩ := bind_eq_ok.1 h
    obtain ⟨rfl, rfl⟩ := Prod.mk.inj (pure_eq_ok.1 h)
    obtain ⟨pass, fail⟩ := e.voters_addTo added
    exact carriedOut_aside request (fun _ => rfl) limit rfl rfl rfl rfl
      (by simp [voters, pass, fail]) (by simp [amends])
  case h_13 is | h_14 is =>
    obtain ⟨request, limit, amends⟩ := ordinary (by rw [is]; rfl) (by simp [is]) (by rw [is]; rfl)
    split at h
    next =>
      obtain ⟨rfl, rfl⟩ := Prod.mk.inj (Except.ok.inj h)
      exact carriedOut_aside request (fun _ => rfl) limit rfl rfl rfl rfl rfl (by simp [amends])
    next =>
      obtain ⟨currencies, -, h⟩ := bind_eq_ok.1 h
      exact adjustBalances_carriedOut request (fun _ => rfl) limit amends h
  case h_15 is | h_16 is =>
    obtain ⟨request, limit, amends⟩ := ordinary (by rw [is]; rfl) (by simp [is]) (by rw [is]; rfl)
    split at h <;> obtain ⟨rfl, rfl⟩ := Prod.mk.inj (Except.ok.inj h) <;>
    exact carriedOut_aside request (fun _ => rfl) limit rfl rfl rfl rfl rfl
      (by simp [amends])
  case h_17 is =>
    obtain ⟨rfl, rfl⟩ := Prod.mk.inj (Except.ok.inj h)
    have request : (Firing.procedure id e).request? = none :=
      ProcedureEffect.request?_eq_none (by rw [is]; rfl) id
    have limit : Firing.lastLimit [.procedure id e] = some e.targets := by
      simp [Firing.lastLimit, Firing.limit?, is]
    refine ⟨rfl, ?_, rfl, ?_, ?_, ?_⟩
    · simp [request, limitVote]
    · simp [Firing.amends, is]
    · rw [limit]
      rfl
    · rw [limit]
      rfl

omit [Chance γ] in
theorem applyBallotEffect_carriedOut {e : BallotEffect}
    (h : applyBallotEffect s c e = .ok (t, d)) :
    CarriedOut [.consequence e] (s, c) (t, d) := by
  -- Only founding and dissolving ask for an election and regroup the parties.
  have ordinary (is : ¬ (e.kind = .foundParty ∨ e.kind = .dissolveParty)) :
      (Firing.consequence e).request? = none ∧
        ∀ parties, (Firing.consequence e).regroup parties = parties := by
    refine ⟨if_neg is, fun parties => ?_⟩
    cases kind : e.kind <;> simp_all [Firing.regroup]
  unfold applyBallotEffect at h
  split at h
  case h_1 is | h_2 is =>
    obtain ⟨rfl, rfl⟩ := Prod.mk.inj (Except.ok.inj h)
    exact carriedOut_request (by simp [Firing.request?, is]) (fun _ => rfl) rfl
      (by simp [Firing.regroup, is])
  case h_3 is | h_4 is =>
    obtain ⟨request, regroup⟩ := ordinary (by simp [is])
    obtain ⟨rfl, rfl⟩ := Prod.mk.inj (Except.ok.inj h)
    exact carriedOut_aside request regroup rfl rfl rfl rfl rfl rfl (by simp [Firing.amends])
  case h_5 is =>
    obtain ⟨request, regroup⟩ := ordinary (by simp [is])
    obtain ⟨house, replaced, h⟩ := bind_eq_ok.1 h
    obtain ⟨active, rfl⟩ := House.replaceProcedure_eq_ok replaced
    obtain ⟨rfl, rfl⟩ := Prod.mk.inj (pure_eq_ok.1 h)
    exact carriedOut_aside request regroup rfl rfl rfl rfl rfl rfl (by simp [Firing.amends])
  case h_6 is =>
    obtain ⟨request, regroup⟩ := ordinary (by simp [is])
    obtain ⟨currencies, -, h⟩ := bind_eq_ok.1 h
    exact adjustBalances_carriedOut request regroup rfl (fun _ => rfl) h

/-! ## Lists of effects -/

omit [Chance γ] in
theorem carriedOut_foldlM {β : Type} {f : Session γ α × Changes → β →
    Except Fault (Session γ α × Changes)} (firing : β → Firing) {p q : Session γ α × Changes}
    {l : List β} (step : ∀ p b q, f p b = .ok q → CarriedOut [firing b] p q)
    (h : l.foldlM f p = .ok q) : CarriedOut (l.map firing) p q := by
  induction l generalizing p with
  | nil =>
    rw [List.foldlM_nil, pure_eq_ok] at h
    rw [h]
    exact .refl _
  | cons b l ih =>
    rw [List.foldlM_cons, bind_eq_ok] at h
    obtain ⟨m, first, rest⟩ := h
    exact (step p b m first).trans (ih rest)

theorem applyProcedureEffects_carriedOut {procedures : List Procedure}
    (h : s.applyProcedureEffects c scope (effectsOf procedures) = .ok (t, d)) :
    CarriedOut (Firing.ofProcedures procedures) (s, c) (t, d) := by
  refine carriedOut_foldlM (fun e : Ident × ProcedureEffect => .procedure e.1 e.2) ?_ h
  intro p e q step
  exact applyProcedureEffect_carriedOut step

omit [Chance γ] in
theorem applyBallotEffects_carriedOut {effects : List BallotEffect}
    (h : s.applyBallotEffects c effects = .ok (t, d)) :
    CarriedOut (effects.map .consequence) (s, c) (t, d) := by
  refine carriedOut_foldlM .consequence ?_ h
  intro p e q step
  exact applyBallotEffect_carriedOut step

end

/-! ## Calls -/

/-- The effects that the open ballot has if this is the verdict. -/
def verdictEffects (s : Session γ α) (passed : Bool) : List BallotEffect :=
  match s.phase with
  | .ballot id _ => ((s.rulebook.ballot? id).map fun b => (b.consequence passed).effects).getD []
  | _ => []

/-- What takes place in a call with this reply. A declaration needs to be confirmed. -/
def fired (s : Session γ α) : Call → Reply → List Firing
  | .setUp, _ => Firing.ofProcedures (s.rulebook.procedures.filter (·.kind.isGovernmental))
  | .startBallot id, _ => Firing.ofProcedures (s.proceduresFor id)
  | .declare _ procedure, .declared result =>
    if result.isConfirmed then Firing.ofProcedures (s.rulebook.procedure? procedure).toList else []
  | .endBallot passed, _ => (s.verdictEffects passed).map .consequence
  | _, _ => []

/-- What bears on elections and limits. -/
structure Bearing (α : Type) where
  electorate : Electorate
  pendingElections : List ElectionRequest
  officer : α
  franchise : List (Ident × Amendment)
  voters : IdSet × IdSet

def bearing (s : Session γ α) : Bearing α where
  electorate := s.house.electorate
  pendingElections := s.pendingElections
  officer := s.officer
  franchise := s.franchise
  voters := s.voters

/-- As a ballot starts, the limit and the votes of the one before are dropped. -/
def Bearing.readied (b : Bearing α) : Call → Bearing α
  | .startBallot _ => { b with franchise := [], voters := (.empty, .empty) }
  | _ => b

section

variable (b : Bearing α) (c : Call)

@[simp] theorem Bearing.electorate_readied : (b.readied c).electorate = b.electorate := by
  cases c <;> rfl

@[simp] theorem Bearing.pendingElections_readied :
    (b.readied c).pendingElections = b.pendingElections := by
  cases c <;> rfl

@[simp] theorem Bearing.officer_readied : (b.readied c).officer = b.officer := by
  cases c <;> rfl

end

/-- The call amends permissions whatever its effects. -/
def Renews (s : Session γ α) (c : Call) : Prop :=
  c = .setUp ∨ ∃ id, c = .startBallot id ∧ (s.ballotOverrides ≠ [] ∨ s.franchise ≠ [])

theorem leftovers_iff {s : Session γ α} :
    s.leftovers.permissions = true ↔ s.ballotOverrides ≠ [] ∨ s.franchise ≠ [] := by
  simp [leftovers]

/-- The session as it comes to be settled, when the effects have been carried out. -/
structure Prepared (s : Session γ α) (c : Call) (l : List Firing) (t : Session γ α)
    (d : Changes) : Prop where
  electorate : t.house.electorate = s.house.electorate.regrouped l
  requests : t.pendingElections = s.pendingElections ++ l.filterMap Firing.request?
  officer : t.officer = s.officer
  franchise : t.franchise =
    ((Firing.lastLimit l).map s.house.franchise).getD (s.bearing.readied c).franchise
  voters : t.voters = if (Firing.lastLimit l).isSome then (.empty, .empty)
    else (s.bearing.readied c).voters
  amended : d.permissions = true ↔
    s.Renews c ∨ ∃ f ∈ l, f.amends s.house.people = true

theorem CarriedOut.prepared {t : Session γ α} {l : List Firing} {p q : Session γ α × Changes}
    (h : CarriedOut l p q) (s : Session γ α) (c : Call)
    (ready : p.1.bearing = s.bearing.readied c) (renewed : p.2.permissions = true ↔ s.Renews c)
    (recorded : t.bearing = q.1.bearing) : Prepared s c l t q.2 := by
  have electorate : p.1.house.electorate = s.house.electorate := by
    simpa [bearing] using congrArg Bearing.electorate ready
  have franchise : p.1.house.franchise = s.house.franchise :=
    House.franchise_congr (congrArg Electorate.roles electorate)
      (congrArg Electorate.affiliations electorate)
  refine ⟨?_, ?_, ?_, ?_, ?_, ?_⟩
  · calc
      t.house.electorate = q.1.house.electorate := congrArg Bearing.electorate recorded
      _ = p.1.house.electorate.regrouped l := h.electorate_eq
      _ = s.house.electorate.regrouped l := by rw [electorate]
  · have begun : p.1.pendingElections = s.pendingElections := by
      simpa [bearing] using congrArg Bearing.pendingElections ready
    rw [← begun, ← h.requests]
    exact congrArg Bearing.pendingElections recorded
  · calc
      t.officer = q.1.officer := congrArg Bearing.officer recorded
      _ = p.1.officer := congrArg Frame.officer h.frame
      _ = s.officer := by simpa [bearing] using congrArg Bearing.officer ready
  · rw [← congrArg Bearing.franchise ready, ← franchise]
    exact (congrArg Bearing.franchise recorded).trans h.franchise
  · rw [← congrArg Bearing.voters ready]
    exact (congrArg Bearing.voters recorded).trans h.voters
  · have people : p.1.house.people = s.house.people := congrArg Electorate.people electorate
    rw [h.amended, Bool.or_eq_true, renewed, List.any_eq_true, people]

variable [Chance γ] [ReturningOfficer α]

/-- What a call comes to: effects are carried out and settled. -/
inductive Conducted (s : Session γ α) (c : Call) (o : Outcome γ α Reply) : Prop
  | still (fired : s.fired c o.answer = []) (signals : o.signals = [])
    (officer : o.session.officer = s.officer)
    (parties : o.session.house.activeParties = s.house.activeParties)
    (franchise : o.session.franchise = s.franchise)
    (voters : (∀ person vote, c ≠ .castVote person vote) → o.session.voters = s.voters)
    (old : ¬ s.Renews c) (idle : ∀ id, c ≠ .startBallot id)
    (open_ : ¬ ∃ passed, c = .endBallot passed)
  | bundle (t u : Session γ α) (d : Changes) (record : Option BallotRecord)
    (signals : List Signal) (prepared : Prepared s c (s.fired c o.answer) t d)
    (settling : Settling t d u signals) (closed : o.session.bearing = u.bearing)
    (told : o.signals = (record.map Signal.ballotVoted).toList ++ signals)
    (ends : record.isSome = true ↔ ∃ passed, c = .endBallot passed)

theorem Performed.conducted {s : Session γ α} {c : Call} {o : Outcome γ α Reply}
    (h : Performed s c o) : Conducted s c o := by
  cases h with
  | register | refuse | refuseVote | closeDeclarations =>
    exact .still rfl rfl rfl rfl rfl (fun _ => rfl) (by simp [Renews]) (by simp) (by simp)
  | castVote =>
    exact .still rfl rfl rfl rfl rfl (fun other => absurd rfl (other _ _)) (by simp [Renews])
      (by simp) (by simp)
  | turnDown =>
    exact .still rfl rfl rfl rfl rfl (fun _ => rfl) (by simp [Renews]) (by simp) (by simp)
  | setUp _ effects settling =>
    have carried := applyProcedureEffects_carriedOut effects
    have prepared := carried.prepared s .setUp rfl (by simp [Renews, setupChanges]) rfl
    exact .bundle _ _ _ none _ prepared settling rfl rfl (by simp)
  | @startBallot id _ _ _ _ _ _ _ _ _ _ effects settling =>
    have carried := applyProcedureEffects_carriedOut effects
    have prepared := carried.prepared s (.startBallot id) rfl (by simp [Renews, leftovers_iff]) rfl
    exact .bundle _ _ _ none _ prepared settling rfl rfl (by simp)
  | @miss person procedure _ paid _ _ _ missed settling =>
    -- A declaration that is not confirmed fires nothing.
    have nothing : s.fired (.declare person procedure) (.declared paid.result) = [] :=
      if_neg (by simp [missed])
    have carried : CarriedOut (s.fired (.declare person procedure) (.declared paid.result))
        (s.paidBy paid, s.paidChanges paid) (s.paidBy paid, s.paidChanges paid) := by
      rw [nothing]
      exact .refl _
    have prepared := carried.prepared s (.declare person procedure) rfl
      (by simp [Renews, paidChanges]) rfl
    exact .bundle _ _ _ none _ prepared settling rfl rfl (by simp)
  | @declare person procedure p paid t u c signals tried confirmed effects settling =>
    obtain ⟨_, _, _, _, _, proposal, _⟩ := tried
    have one : s.fired (.declare person procedure) (.declared paid.result) =
        Firing.ofProcedures [p] := by
      rw [fired, if_pos confirmed, proposal.listed]
      rfl
    have carried : CarriedOut (s.fired (.declare person procedure) (.declared paid.result))
        ((s.paidBy paid).listing p, s.paidChanges paid) (t, c) := by
      rw [one]
      exact applyProcedureEffects_carriedOut effects
    have prepared := carried.prepared s (.declare person procedure) rfl
      (by simp [Renews, paidChanges]) rfl
    exact .bundle _ _ _ none _ prepared settling rfl rfl (by simp)
  | @endBallot passed id stage b t u c summary next signals phase listed effects _ settling =>
    -- What the book lists for the verdict is what takes effect.
    have verdict : s.verdictEffects passed = (b.consequence passed).effects := by
      simp [verdictEffects, phase, listed]
    have carried := applyBallotEffects_carriedOut effects
    rw [← verdict] at carried
    have prepared : Prepared s (.endBallot passed) _
        (t.recorded ⟨id, passed, summary, t.floor.declared⟩) c :=
      carried.prepared s (.endBallot passed) rfl (by simp [Renews]) rfl
    exact .bundle _ _ _ (some _) _ prepared settling rfl rfl (by simp)

end Session

end Parliament
