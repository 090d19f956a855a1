import Parliament.Proofs.Session.Bundle
import Parliament.Session.Sitting

/-! # Calls that went through

What the success of a call says about it: the session it began from, the bundle of effects it ran
and the session it left behind. Every invariant of sessions is checked against these cases.
-/

namespace Parliament

def Changes.news (c : Changes) (h : House) : List Signal :=
  (if c.currencies then [Signal.currenciesModified h.balances] else []) ++
    if c.procedures then [Signal.proceduresModified h.activeProcedures] else []

def Signal.record? : Signal → Option BallotRecord
  | ballotVoted record => some record
  | _ => none

theorem Changes.records_news (c : Changes) (h : House) :
    (c.news h).filterMap Signal.record? = [] := by
  unfold news
  split <;> split <;> rfl

namespace Session

variable {γ α : Type}

/-! ## Settling -/

def composed (s : Session γ α) : Except Fault (IdMap Permissions) :=
  Permissions.compose s.house.roles s.roleTable (s.standingOverrides ++ s.ballotOverrides)
    s.franchise

def elected [ReturningOfficer α] (s : Session γ α) : Session γ α :=
  let a := ReturningOfficer.assign s.officer (ElectionRequest.arrange s.pendingElections)
    s.house.electorate
  { s with house := s.house.reassign a.1, officer := a.2, pendingElections := [] }

/-- How a bundle is settled. Permissions are recomposed if elections were held or amendments were
touched, and stay as they are otherwise. -/
inductive Settling [ReturningOfficer α] (s : Session γ α) (c : Changes) :
    Session γ α → List Signal → Prop
  | quiet (due : s.pendingElections = []) (kept : c.permissions = false) :
    Settling s c s (c.news s.house)
  | amended (due : s.pendingElections = []) (touched : c.permissions = true)
    (p : IdMap Permissions) (hp : s.composed = .ok p) :
    Settling s c { s with permissions := p } (.permissionsUpdated p :: c.news s.house)
  | voted (due : s.pendingElections ≠ []) (p : IdMap Permissions)
    (hp : s.elected.composed = .ok p) :
    Settling s c { s.elected with permissions := p }
      (.electionPreparing (ElectionRequest.arrange s.pendingElections) s.house.roles
          s.house.affiliations ::
        .electionCompleted s.elected.house.roles s.elected.house.affiliations ::
        .permissionsUpdated p :: c.news s.house)

theorem recompose_eq_ok {s t : Session γ α} {signals : List Signal}
    (h : s.recompose = .ok (t, signals)) :
    ∃ p, s.composed = .ok p ∧ t = { s with permissions := p } ∧
      signals = [.permissionsUpdated p] := by
  obtain ⟨p, hp, h⟩ := bind_eq_ok.1 h
  rw [pure_eq_ok, Prod.mk.injEq] at h
  exact ⟨p, hp, h.1.symm, h.2.symm⟩

theorem holdElections_of_nil [ReturningOfficer α] {s : Session γ α}
    (h : s.pendingElections = []) : s.holdElections = (s, []) := by
  rw [holdElections, if_pos (by simpa using h)]

theorem holdElections_of_ne_nil [ReturningOfficer α] {s : Session γ α}
    (h : s.pendingElections ≠ []) :
    s.holdElections = (s.elected,
      [.electionPreparing (ElectionRequest.arrange s.pendingElections) s.house.roles
          s.house.affiliations,
        .electionCompleted s.elected.house.roles s.elected.house.affiliations]) := by
  rw [holdElections, if_neg (by simpa using h)]
  rfl

theorem settling_of_settle [ReturningOfficer α] {s t : Session γ α} {c : Changes}
    {signals : List Signal} (h : s.settle c = .ok (t, signals)) : Settling s c t signals := by
  unfold settle at h
  by_cases due : s.pendingElections = []
  · simp only [due, holdElections_of_nil due, List.isEmpty_nil, Bool.not_true,
      Bool.false_or] at h
    obtain ⟨⟨u, permissions⟩, hu, h⟩ := bind_eq_ok.1 h
    rw [pure_eq_ok, Prod.mk.injEq] at h
    obtain ⟨rfl, rfl⟩ := h
    unfold recomposeIf at hu
    split at hu
    next touched =>
      obtain ⟨p, hp, rfl, rfl⟩ := recompose_eq_ok hu
      exact .amended due touched p hp
    next kept =>
      rw [Except.ok.injEq, Prod.mk.injEq] at hu
      obtain ⟨rfl, rfl⟩ := hu
      exact .quiet due (by simpa using kept)
  · -- Behind elections permissions are composed anew, whatever else was noted.
    have some : s.pendingElections.isEmpty = false := by simpa using due
    simp only [holdElections_of_ne_nil due, some, Bool.not_false, Bool.true_or] at h
    obtain ⟨⟨u, permissions⟩, hu, h⟩ := bind_eq_ok.1 h
    rw [pure_eq_ok, Prod.mk.injEq] at h
    obtain ⟨rfl, rfl⟩ := h
    rw [recomposeIf, if_pos rfl] at hu
    obtain ⟨p, hp, rfl, rfl⟩ := recompose_eq_ok hu
    exact .voted due p hp

theorem settle_of_settling [ReturningOfficer α] {s t : Session γ α} {c : Changes}
    {signals : List Signal} (h : Settling s c t signals) : s.settle c = .ok (t, signals) := by
  unfold settle
  cases h with
  | quiet due kept =>
    have none : s.pendingElections.isEmpty = true := by simpa using due
    simp only [holdElections_of_nil due, none, kept]
    rfl
  | amended due touched p hp =>
    have none : s.pendingElections.isEmpty = true := by simpa using due
    simp only [holdElections_of_nil due, none, touched]
    exact bind_eq_ok.2 ⟨_, bind_eq_ok.2 ⟨p, hp, rfl⟩, rfl⟩
  | voted due p hp =>
    have some : s.pendingElections.isEmpty = false := by simpa using due
    simp only [holdElections_of_ne_nil due, some]
    exact bind_eq_ok.2 ⟨_, bind_eq_ok.2 ⟨p, hp, rfl⟩, rfl⟩

theorem exists_settle [ReturningOfficer α] {s : Session γ α} {p : IdMap Permissions}
    (h : s.holdElections.1.composed = .ok p) (c : Changes) : ∃ q, s.settle c = .ok q := by
  have recomposed : ∀ needed, ∃ q, s.holdElections.1.recomposeIf needed = .ok q := by
    intro needed
    unfold recomposeIf
    split
    next => exact ⟨_, bind_eq_ok.2 ⟨p, h, rfl⟩⟩
    next => exact ⟨_, rfl⟩
  obtain ⟨q, hq⟩ := recomposed (!s.pendingElections.isEmpty || c.permissions)
  unfold settle
  exact ⟨_, bind_eq_ok.2 ⟨q, hq, rfl⟩⟩

theorem Settling.eq_held [ReturningOfficer α] {s t : Session γ α} {c : Changes}
    {signals : List Signal} (h : Settling s c t signals) :
    t = { s.holdElections.1 with permissions := t.permissions } := by
  cases h with
  | quiet due | amended due => rw [holdElections_of_nil due]
  | voted due => rw [holdElections_of_ne_nil due]

theorem Settling.eq_with [ReturningOfficer α] {s t : Session γ α} {c : Changes}
    {signals : List Signal} (h : Settling s c t signals) :
    ∃ roles affiliations permissions officer, t =
      { s with
        house := { s.house with roles := roles, affiliations := affiliations }
        permissions := permissions
        pendingElections := []
        officer := officer } := by
  cases h with
  | quiet due =>
    refine ⟨s.house.roles, s.house.affiliations, s.permissions, s.officer, ?_⟩
    rw [← due]
  | amended due _ p =>
    refine ⟨s.house.roles, s.house.affiliations, p, s.officer, ?_⟩
    rw [← due]
  | voted _ p =>
    exact ⟨s.elected.house.roles, s.elected.house.affiliations, p, s.elected.officer, rfl⟩

theorem Settling.rulebook_eq [ReturningOfficer α] {s t : Session γ α} {c : Changes}
    {signals : List Signal} (h : Settling s c t signals) : t.rulebook = s.rulebook := by
  obtain ⟨_, _, _, _, rfl⟩ := h.eq_with
  rfl

theorem Settling.people_eq [ReturningOfficer α] {s t : Session γ α} {c : Changes}
    {signals : List Signal} (h : Settling s c t signals) : t.house.people = s.house.people := by
  obtain ⟨_, _, _, _, rfl⟩ := h.eq_with
  rfl

theorem Settling.phase_eq [ReturningOfficer α] {s t : Session γ α} {c : Changes}
    {signals : List Signal} (h : Settling s c t signals) : t.phase = s.phase := by
  obtain ⟨_, _, _, _, rfl⟩ := h.eq_with
  rfl

theorem Settling.floor_eq [ReturningOfficer α] {s t : Session γ α} {c : Changes}
    {signals : List Signal} (h : Settling s c t signals) : t.floor = s.floor := by
  obtain ⟨_, _, _, _, rfl⟩ := h.eq_with
  rfl

theorem Settling.history_eq [ReturningOfficer α] {s t : Session γ α} {c : Changes}
    {signals : List Signal} (h : Settling s c t signals) : t.history = s.history := by
  obtain ⟨_, _, _, _, rfl⟩ := h.eq_with
  rfl

theorem Settling.view_eq [ReturningOfficer α] {s t : Session γ α} {c : Changes}
    {signals : List Signal} (h : Settling s c t signals) : t.view = s.view := by
  obtain ⟨_, _, _, _, rfl⟩ := h.eq_with
  rfl

theorem Settling.records [ReturningOfficer α] {s t : Session γ α} {c : Changes}
    {signals : List Signal} (h : Settling s c t signals) :
    signals.filterMap Signal.record? = [] := by
  cases h <;> exact c.records_news _

/-! ## Calls -/

def setupEffects (s : Session γ α) : List (Ident × ProcedureEffect) :=
  effectsOf (s.rulebook.procedures.filter (·.kind.isGovernmental))

/-- What is announced at setup even if no effect touches it. -/
def setupChanges (s : Session γ α) : Changes :=
  { permissions := true, currencies := !s.house.balances.isEmpty, procedures := false }

/-- Amendments of the ballot before are dropped, and that counts as a change. -/
def leftovers (s : Session γ α) : Changes :=
  { permissions := !s.ballotOverrides.isEmpty || !s.franchise.isEmpty }

def paidBy (s : Session γ α) (paid : Confirmation.Settled γ) : Session γ α :=
  { s with house := { s.house with balances := paid.balances }, chance := paid.chance }

def paidChanges (s : Session γ α) (paid : Confirmation.Settled γ) : Changes :=
  { currencies := paid.balances != s.house.balances }

def listing (s : Session γ α) (p : Procedure) : Session γ α :=
  { s with floor := { s.floor with declared := s.floor.declared ++ [p.id] } }

@[simp] theorem phase_paidBy (s : Session γ α) (paid : Confirmation.Settled γ) :
    (s.paidBy paid).phase = s.phase := rfl

@[simp] theorem phase_listing (s : Session γ α) (p : Procedure) :
    (s.listing p).phase = s.phase := rfl

theorem carryOut_bundle [Chance γ] {s t : Session γ α} {c d : Changes} {person : Ident}
    {p : Procedure} (h : s.carryOut c person p = .ok (t, d)) :
    Bundle (.declared person) (s.listing p, c) (t, d) :=
  applyProcedureEffects_bundle h

/-- A registered person puts a declarable procedure forward while a ballot is open. -/
structure Proposal (s : Session γ α) (person procedure : Ident) (p : Procedure)
    (confirmation : Confirmation) (declarers : List Ident) (ballot : Ident) (stage : Stage) :
    Prop where
  phase : s.phase = .ballot ballot stage
  known : s.house.people.contains person = true
  listed : s.rulebook.procedure? procedure = some p
  kind : ∃ ballots, p.kind = .declared confirmation declarers ballots

/-- The proposal is not turned down, and its price is settled. -/
def Tried [Chance γ] (s : Session γ α) (person procedure : Ident) (p : Procedure)
    (paid : Confirmation.Settled γ) : Prop :=
  ∃ confirmation declarers ballot stage live,
    s.Proposal person procedure p confirmation declarers ballot stage ∧
    s.refusal? stage ballot person p declarers = .ok none ∧ s.decision = .ok live ∧
    confirmation.settle (s.ownedCurrency person) s.house.balances live s.chance = .ok paid

theorem Tried.ballotOpen [Chance γ] {s : Session γ α} {person procedure : Ident} {p : Procedure}
    {paid : Confirmation.Settled γ} (h : s.Tried person procedure p paid) : s.BallotOpen := by
  obtain ⟨_, _, ballot, stage, _, proposal, _⟩ := h
  exact ⟨ballot, stage, proposal.phase⟩

def recorded (s : Session γ α) (r : BallotRecord) : Session γ α :=
  let passedBallots :=
    if r.passed then s.house.passedBallots.insert r.ballot else s.house.passedBallots
  { s with
    house := { s.house with passedBallots := passedBallots }
    history := s.history ++ [r] }

def closed (s : Session γ α) (next : Option Ident) : Session γ α :=
  { s with
    house := { s.house with currentBallot := none }
    phase := if next.isSome then .awaitingBallot next else .terminal }

inductive Performed [Chance γ] [ReturningOfficer α] (s : Session γ α) :
    Call → Outcome γ α Reply → Prop
  | register {people : List Person} {roster : IdMap Person} (phase : s.phase = .uninitialized)
    (seated : House.register .empty people = .ok roster) :
    Performed s (.register people)
      ⟨.done, { s with house := s.house.seat roster, phase := .initialized }, []⟩
  | refuse {people : List Person} {flaw : Flaw} (phase : s.phase = .uninitialized)
    (refused : House.register .empty people = .error flaw) :
    Performed s (.register people) ⟨.refused flaw, s, []⟩
  | setUp {t u : Session γ α} {c : Changes} {signals : List Signal}
    (phase : s.phase = .initialized)
    (effects : s.applyProcedureEffects s.setupChanges .setup s.setupEffects = .ok (t, c))
    (settling : Settling t c u signals) :
    Performed s .setUp ⟨.done, { u with phase := .awaitingBallot none }, signals⟩
  | startBallot {id : Ident} {next : Option Ident} {started : UInt32} {t u : Session γ α}
    {c : Changes} {signals : List Signal} (phase : s.phase = .awaitingBallot next)
    (awaited : next = none ∨ next = some id) (listed : (s.rulebook.ballot? id).isSome = true)
    (counted : Count.add s.ballotsStarted 1 = .ok started)
    (effects : (s.clearFloor started id).applyProcedureEffects s.leftovers
      (.ballotStart (s.ballotsStarted == 0)) (effectsOf (s.proceduresFor id)) = .ok (t, c))
    (settling : Settling t c u signals) :
    Performed s (.startBallot id) ⟨.done, u, signals⟩
  | castVote {person id : Ident} {vote : Vote} {stage : Stage} {p : Permissions}
    (phase : s.phase = .ballot id stage) (known : s.permissions.get? person = some p)
    (allowed : (p.canVote || vote == .abstain) = true) :
    Performed s (.castVote person vote)
      ⟨.voted true,
        { s with floor := { s.floor with tally := s.floor.tally.record person vote } }, []⟩
  | refuseVote {person id : Ident} {vote : Vote} {stage : Stage} {p : Permissions}
    (phase : s.phase = .ballot id stage) (known : s.permissions.get? person = some p)
    (barred : (p.canVote || vote == .abstain) = false) :
    Performed s (.castVote person vote) ⟨.voted false, s, []⟩
  | closeDeclarations {id : Ident} {stage : Stage} (phase : s.phase = .ballot id stage) :
    Performed s .closeDeclarations ⟨.done, { s with phase := .ballot id .deciding }, []⟩
  | turnDown {person procedure ballot : Ident} {p : Procedure} {confirmation : Confirmation}
    {declarers : List Ident} {stage : Stage} {reason : Rejection}
    (proposal : s.Proposal person procedure p confirmation declarers ballot stage)
    (refused : s.refusal? stage ballot person p declarers = .ok (some reason)) :
    Performed s (.declare person procedure) ⟨.declared (.rejected reason), s, []⟩
  | miss {person procedure : Ident} {p : Procedure} {paid : Confirmation.Settled γ}
    {u : Session γ α} {signals : List Signal} (tried : s.Tried person procedure p paid)
    (missed : paid.result.isConfirmed = false)
    (settling : Settling (s.paidBy paid) (s.paidChanges paid) u signals) :
    Performed s (.declare person procedure) ⟨.declared paid.result, u, signals⟩
  | declare {person procedure : Ident} {p : Procedure} {paid : Confirmation.Settled γ}
    {t u : Session γ α} {c : Changes} {signals : List Signal}
    (tried : s.Tried person procedure p paid) (confirmed : paid.result.isConfirmed = true)
    (effects : (s.paidBy paid).carryOut (s.paidChanges paid) person p = .ok (t, c))
    (settling : Settling t c u signals) :
    Performed s (.declare person procedure) ⟨.declared paid.result, u, signals⟩
  | endBallot {passed : Bool} {id : Ident} {stage : Stage} {b : Ballot} {t u : Session γ α}
    {c : Changes} {summary : TallySummary} {next : Option Ident} {signals : List Signal}
    (phase : s.phase = .ballot id stage) (listed : s.rulebook.ballot? id = some b)
    (effects : s.applyBallotEffects {} (b.consequence passed).effects = .ok (t, c))
    (counted : t.tallySummary = .ok summary)
    (settling : Settling (t.recorded ⟨id, passed, summary, t.floor.declared⟩) c u signals)
    (linked : (b.consequence passed).nextBallot u.view = .ok next) :
    Performed s (.endBallot passed)
      ⟨.ended next, u.closed next,
        .ballotVoted ⟨id, passed, summary, t.floor.declared⟩ :: signals⟩

theorem openBallotFor_eq_ok {s : Session γ α} {call : FloorCall} {id : Ident} {stage : Stage}
    (h : s.openBallotFor call = .ok (id, stage)) : s.phase = .ballot id stage := by
  unfold openBallotFor at h
  split at h
  next phase =>
    rw [Except.ok.injEq, Prod.mk.injEq] at h
    obtain ⟨rfl, rfl⟩ := h
    exact phase
  next => simp at h

theorem procedureDef_eq_ok {s : Session γ α} {id : Ident} {p : Procedure}
    (h : s.procedureDef id = .ok p) : s.rulebook.procedure? id = some p := by
  unfold procedureDef at h
  split at h
  next q hq => rw [hq, Except.ok.inj h]
  next => simp at h

theorem ballotDef_eq_ok {s : Session γ α} {id : Ident} {b : Ballot}
    (h : s.ballotDef id = .ok b) : s.rulebook.ballot? id = some b := by
  unfold ballotDef at h
  split at h
  next q hq => rw [hq, Except.ok.inj h]
  next => simp at h

section

variable [Chance γ] [ReturningOfficer α] {s : Session γ α}

theorem performed_register {people : List Person} {o : Outcome γ α Reply}
    (h : s.perform (.register people) = .ok o) : Performed s (.register people) o := by
  obtain ⟨r, hr, h⟩ := bind_eq_ok.1 h
  obtain rfl := pure_eq_ok.1 h
  unfold Session.register at hr
  split at hr
  next phase =>
    split at hr
    next roster seated =>
      obtain rfl := Except.ok.inj hr
      exact .register phase seated
    next flaw refused =>
      obtain rfl := Except.ok.inj hr
      exact .refuse phase refused
  next => simp at hr

theorem performed_setUp {o : Outcome γ α Reply} (h : s.perform .setUp = .ok o) :
    Performed s .setUp o := by
  obtain ⟨r, hr, h⟩ := bind_eq_ok.1 h
  obtain rfl := pure_eq_ok.1 h
  unfold Session.setUp at hr
  split at hr
  next phase =>
    obtain ⟨⟨t, c⟩, effects, hr⟩ := bind_eq_ok.1 hr
    obtain ⟨⟨u, signals⟩, settled, hr⟩ := bind_eq_ok.1 hr
    obtain rfl := pure_eq_ok.1 hr
    exact .setUp phase effects (settling_of_settle settled)
  next => simp at hr

theorem performed_startBallot {id : Ident} {o : Outcome γ α Reply}
    (h : s.perform (.startBallot id) = .ok o) : Performed s (.startBallot id) o := by
  obtain ⟨r, hr, h⟩ := bind_eq_ok.1 h
  obtain rfl := pure_eq_ok.1 h
  unfold Session.startBallot at hr
  split at hr
  next next phase =>
    split at hr
    next => simp at hr
    next awaited =>
      split at hr
      next => simp at hr
      next listed =>
        obtain ⟨started, counted, hr⟩ := bind_eq_ok.1 hr
        obtain ⟨⟨t, c⟩, effects, hr⟩ := bind_eq_ok.1 hr
        obtain ⟨⟨u, signals⟩, settled, hr⟩ := bind_eq_ok.1 hr
        obtain rfl := pure_eq_ok.1 hr
        have either : next = none ∨ next = some id := by
          cases next <;> simp_all
        have there : (s.rulebook.ballot? id).isSome = true := by
          simpa [Option.isSome_iff_ne_none] using listed
        exact .startBallot phase either there counted effects (settling_of_settle settled)
  next => simp at hr

theorem startBallot_eq_ok {id : Ident} {started : UInt32} {t u : Session γ α} {c : Changes}
    {signals : List Signal} (awaited : s.Awaits id)
    (listed : (s.rulebook.ballot? id).isSome = true)
    (counted : Count.add s.ballotsStarted 1 = .ok started)
    (effects : (s.clearFloor started id).applyProcedureEffects s.leftovers
      (.ballotStart (s.ballotsStarted == 0)) (effectsOf (s.proceduresFor id)) = .ok (t, c))
    (settled : t.settle c = .ok (u, signals)) : s.startBallot id = .ok ⟨(), u, signals⟩ := by
  obtain ⟨next, phase, free⟩ : ∃ next, s.phase = .awaitingBallot next ∧
      (next.isSome && next != some id) = false := by
    rcases awaited with phase | phase
    · exact ⟨none, phase, rfl⟩
    · exact ⟨some id, phase, by simp⟩
  have known : (s.rulebook.ballot? id).isNone = false := by
    rw [← Option.not_isSome, listed, Bool.not_true]
  unfold Session.startBallot
  rw [phase]
  dsimp only
  rw [if_neg (by simp [free]), if_neg (by simp [known]), counted, ok_bind]
  exact bind_eq_ok.2 ⟨(t, c), effects, bind_eq_ok.2 ⟨(u, signals), settled, rfl⟩⟩

theorem performed_castVote {person : Ident} {vote : Vote} {o : Outcome γ α Reply}
    (h : s.perform (.castVote person vote) = .ok o) :
    Performed s (.castVote person vote) o := by
  obtain ⟨r, hr, h⟩ := bind_eq_ok.1 h
  obtain rfl := pure_eq_ok.1 h
  obtain ⟨⟨id, stage⟩, open_, hr⟩ := bind_eq_ok.1 hr
  have phase := openBallotFor_eq_ok open_
  split at hr
  next => simp at hr
  next p known =>
    split at hr
    next allowed =>
      obtain rfl := pure_eq_ok.1 hr
      exact .castVote phase known allowed
    next barred =>
      obtain rfl := pure_eq_ok.1 hr
      exact .refuseVote phase known (by simpa using barred)

theorem performed_closeDeclarations {o : Outcome γ α Reply}
    (h : s.perform .closeDeclarations = .ok o) : Performed s .closeDeclarations o := by
  obtain ⟨r, hr, h⟩ := bind_eq_ok.1 h
  obtain rfl := pure_eq_ok.1 h
  obtain ⟨⟨id, stage⟩, open_, hr⟩ := bind_eq_ok.1 hr
  obtain rfl := pure_eq_ok.1 hr
  exact .closeDeclarations (openBallotFor_eq_ok open_)

theorem performed_declareOpen {person procedure ballot : Ident} {p : Procedure}
    {confirmation : Confirmation} {declarers : List Ident} {stage : Stage}
    {r : Outcome γ α DeclarationResult}
    (proposal : s.Proposal person procedure p confirmation declarers ballot stage)
    (admitted : s.refusal? stage ballot person p declarers = .ok none)
    (h : s.declareOpen person p confirmation = .ok r) :
    Performed s (.declare person procedure) (r.map .declared) := by
  obtain ⟨live, hlive, h⟩ := bind_eq_ok.1 h
  obtain ⟨paid, hpaid, h⟩ := bind_eq_ok.1 h
  have tried : s.Tried person procedure p paid :=
    ⟨confirmation, declarers, ballot, stage, live, proposal, admitted, hlive, hpaid⟩
  dsimp only at h
  split at h
  next confirmed =>
    obtain ⟨⟨t, c⟩, effects, h⟩ := bind_eq_ok.1 h
    obtain ⟨⟨u, signals⟩, settled, h⟩ := bind_eq_ok.1 h
    obtain rfl := pure_eq_ok.1 h
    exact .declare tried confirmed effects (settling_of_settle settled)
  next missed =>
    rw [ok_bind] at h
    obtain ⟨⟨u, signals⟩, settled, h⟩ := bind_eq_ok.1 h
    obtain rfl := pure_eq_ok.1 h
    exact .miss tried (by simpa using missed) (settling_of_settle settled)

theorem performed_declare {person procedure : Ident} {o : Outcome γ α Reply}
    (h : s.perform (.declare person procedure) = .ok o) :
    Performed s (.declare person procedure) o := by
  obtain ⟨r, hr, h⟩ := bind_eq_ok.1 h
  obtain rfl := pure_eq_ok.1 h
  obtain ⟨⟨ballot, stage⟩, open_, hr⟩ := bind_eq_ok.1 hr
  have phase := openBallotFor_eq_ok open_
  dsimp only at hr
  split at hr
  next => simp [Bind.bind, Except.bind] at hr
  next known =>
    obtain ⟨p, listed, hr⟩ := bind_eq_ok.1 hr
    split at hr
    next confirmation declarers ballots kind =>
      have proposal : s.Proposal person procedure p confirmation declarers ballot stage :=
        ⟨phase, by simpa using known, procedureDef_eq_ok listed, ballots, kind⟩
      obtain ⟨refusal, refused, hr⟩ := bind_eq_ok.1 hr
      cases refusal with
      | some reason =>
        obtain rfl := pure_eq_ok.1 hr
        exact .turnDown proposal refused
      | none => exact performed_declareOpen proposal refused hr
    next => simp at hr

theorem performed_endBallot {passed : Bool} {o : Outcome γ α Reply}
    (h : s.perform (.endBallot passed) = .ok o) : Performed s (.endBallot passed) o := by
  obtain ⟨r, hr, h⟩ := bind_eq_ok.1 h
  obtain rfl := pure_eq_ok.1 h
  obtain ⟨⟨id, stage⟩, open_, hr⟩ := bind_eq_ok.1 hr
  obtain ⟨b, listed, hr⟩ := bind_eq_ok.1 hr
  obtain ⟨⟨t, c⟩, effects, hr⟩ := bind_eq_ok.1 hr
  obtain ⟨summary, counted, hr⟩ := bind_eq_ok.1 hr
  obtain ⟨⟨u, signals⟩, settled, hr⟩ := bind_eq_ok.1 hr
  obtain ⟨next, linked, hr⟩ := bind_eq_ok.1 hr
  obtain rfl := pure_eq_ok.1 hr
  exact .endBallot (openBallotFor_eq_ok open_) (ballotDef_eq_ok listed) effects counted
    (settling_of_settle settled) linked

omit [Chance γ] in
theorem endBallot_eq_ok {passed : Bool} {id : Ident} {stage : Stage} {b : Ballot}
    {t u : Session γ α} {c : Changes} {summary : TallySummary} {next : Option Ident}
    {signals : List Signal} (phase : s.phase = .ballot id stage)
    (listed : s.rulebook.ballot? id = some b)
    (effects : s.applyBallotEffects {} (b.consequence passed).effects = .ok (t, c))
    (counted : t.tallySummary = .ok summary)
    (settled : (t.recorded ⟨id, passed, summary, t.floor.declared⟩).settle c = .ok (u, signals))
    (linked : (b.consequence passed).nextBallot u.view = .ok next) :
    s.endBallot passed = .ok ⟨next, u.closed next,
      .ballotVoted ⟨id, passed, summary, t.floor.declared⟩ :: signals⟩ := by
  unfold Session.endBallot openBallotFor ballotDef
  rw [phase, ok_bind]
  dsimp only
  rw [listed, ok_bind, effects, ok_bind]
  dsimp only
  rw [counted, ok_bind]
  exact bind_eq_ok.2 ⟨(u, signals), settled, bind_eq_ok.2 ⟨next, linked, rfl⟩⟩

theorem performed_of_perform {c : Call} {o : Outcome γ α Reply} (h : s.perform c = .ok o) :
    Performed s c o := by
  cases c with
  | register people => exact performed_register h
  | setUp => exact performed_setUp h
  | startBallot id => exact performed_startBallot h
  | castVote person vote => exact performed_castVote h
  | closeDeclarations => exact performed_closeDeclarations h
  | declare person procedure => exact performed_declare h
  | endBallot passed => exact performed_endBallot h

/-! ## What is put on record -/

theorem Performed.history_eq {c : Call} {o : Outcome γ α Reply} (h : Performed s c o) :
    o.session.history = s.history ++ o.signals.filterMap Signal.record? := by
  cases h with
  | setUp _ effects settling | startBallot _ _ _ _ effects settling =>
    rw [settling.records, List.append_nil]
    exact settling.history_eq.trans (applyProcedureEffects_bundle effects).history_eq
  | miss _ _ settling =>
    rw [settling.records, List.append_nil]
    exact settling.history_eq
  | declare _ _ effects settling =>
    rw [settling.records, List.append_nil]
    exact settling.history_eq.trans (carryOut_bundle effects).history_eq
  | endBallot _ _ effects _ settling =>
    rw [List.filterMap_cons, settling.records]
    refine settling.history_eq.trans (congrArg (· ++ [_]) ?_)
    exact (applyBallotEffects_bundle .setup effects).history_eq
  | _ => exact (List.append_nil _).symm

theorem Performed.records_eq_nil {c : Call} {o : Outcome γ α Reply} (h : Performed s c o)
    (other : ∀ passed, c ≠ .endBallot passed) : o.signals.filterMap Signal.record? = [] := by
  cases h with
  | setUp _ _ settling | startBallot _ _ _ _ _ settling | miss _ _ settling
  | declare _ _ _ settling => exact settling.records
  | endBallot => exact absurd rfl (other _)
  | _ => rfl

end

end Session

end Parliament
