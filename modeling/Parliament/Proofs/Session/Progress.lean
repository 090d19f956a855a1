import Parliament.Proofs.Ballot
import Parliament.Proofs.Session.Effects
import Parliament.Proofs.Session.Staffing
import Parliament.Proofs.Session.Votes
import Parliament.Proofs.Tally.Decision

/-! # Calls in order go through

With a rule book that passes, a lawful source of chance and an officer that keeps within the roles
of the book, a call that is in order never fails. What counts run over is left to the host.
-/

namespace Parliament

namespace Session

variable {γ α : Type}

theorem Grounded.answerable {s : Session γ α} (h : s.Grounded) {c : Condition}
    (covers : s.rulebook.CoversCondition c) (forced : Option Bool) :
    c.Answerable (s.house.view forced) :=
  fun currency comparison value within =>
    h.purse (covers.currencies currency comparison value within)

theorem Grounded.exists_refusal {s : Session γ α} (h : s.Grounded) (stage : Stage)
    (ballot : Ident) {person : Ident} (p : Procedure) (declarers : List Ident)
    (known : s.house.people.contains person = true) :
    ∃ refusal, s.refusal? stage ballot person p declarers = .ok refusal := by
  rw [← IdMap.contains_congr h.seated.keys] at known
  obtain ⟨held, hp⟩ := IdMap.contains_eq_true_iff.1 known
  unfold refusal?
  split
  · exact ⟨_, rfl⟩
  split
  · exact ⟨_, rfl⟩
  split
  · exact ⟨_, rfl⟩
  split
  · exact ⟨_, rfl⟩
  rw [hp]
  exact ⟨_, rfl⟩

theorem Grounded.exists_canAfford {s : Session γ α} (h : s.Grounded) (person : Ident)
    {procedure : Ident} (listed : (s.rulebook.procedure? procedure).isSome = true) :
    ∃ can, s.canAfford person procedure = .ok can := by
  obtain ⟨p, hp⟩ := Option.isSome_iff_exists.1 listed
  unfold Session.canAfford procedureDef
  rw [hp, ok_bind]
  split
  next c _ =>
    exact Confirmation.exists_canAfford
      (fun currency hc => h.purse (listsCurrency_of_owned hc)) c
  next => exact ⟨false, rfl⟩

theorem Grounded.exists_incidentOutcome {s : Session γ α} (h : s.Grounded) {id : Ident}
    {stage : Stage} {b : Ballot} (phase : s.phase = .ballot id stage)
    (listed : s.rulebook.ballot? id = some b) (incident : b.incident = true) :
    ∃ outcome, s.incidentOutcome = .ok outcome := by
  have covers := h.covered.ballots b (Rulebook.mem_of_ballot? listed)
  obtain ⟨c, hc⟩ := Option.isSome_iff_exists.1 (covers.resolvable incident)
  unfold Session.incidentOutcome openBallotFor ballotDef
  rw [phase, ok_bind]
  dsimp only
  rw [listed, ok_bind, incident, hc]
  dsimp only
  split
  next => exact ⟨_, rfl⟩
  next => exact Condition.exists_evaluate c (h.answerable (covers.resolution c hc) _)

theorem exists_register {s : Session γ α} (phase : s.phase = .uninitialized)
    (people : List Person) : ∃ r, s.register people = .ok r := by
  unfold Session.register
  rw [phase]
  dsimp only
  split <;> exact ⟨_, rfl⟩

theorem exists_map {β δ : Type} {x : Except Fault (Outcome γ α β)} (f : β → δ)
    (h : ∃ r, x = .ok r) :
    ∃ o, (do return (← x).map f : Except Fault (Outcome γ α δ)) = .ok o := by
  obtain ⟨r, rfl⟩ := h
  exact ⟨r.map f, rfl⟩

/-- Ballots and bonuses can still be counted behind the call, and what is weighed in it can be
doubled. -/
def CountsFit [Chance γ] (s : Session γ α) : Call → Prop
  | .startBallot id =>
    s.ballotsStarted.toNat + 1 < 2 ^ 32 ∧
      pointsOf (effectsOf (s.proceduresFor id)) < 2 ^ 31
  | .declare person procedure =>
    s.floor.tally.volume s.permissions < 2 ^ 31 ∧
      ∀ p paid, s.Tried person procedure p paid → paid.result.isConfirmed = true →
        s.floor.tally.bonuses + pointsOf (effectsOf [p]) < 2 ^ 31
  | .endBallot _ => s.floor.tally.volume s.permissions < 2 ^ 31
  | _ => True

theorem countsFit_declare [Chance γ] {s : Session γ α} {person procedure : Ident}
    (volume : s.floor.tally.volume s.permissions < 2 ^ 31)
    (points : ∀ p ∈ s.rulebook.procedure? procedure,
      s.floor.tally.bonuses + pointsOf (effectsOf [p]) < 2 ^ 31) :
    s.CountsFit (.declare person procedure) := by
  refine ⟨volume, ?_⟩
  rintro p paid ⟨_, _, _, _, _, proposal, _⟩ _
  exact points p proposal.listed

variable [Chance γ] [ReturningOfficer α] {s : Session γ α}

/-! ## Setup and the start of a ballot -/

theorem Able.exists_setUp [LawfulChance γ] (h : s.Able) (phase : s.phase = .initialized) :
    ∃ r, s.setUp = .ok r := by
  have room := s.floor.tally.hasRoom_zero
  rw [← pointsOf_setupEffects h.toGrounded] at room
  obtain ⟨⟨t, c⟩, effects⟩ :=
    exists_applyProcedureEffects h.toGrounded s.setupChanges .setup h.covers_setUp room
  obtain ⟨q, hq⟩ := ((applyProcedureEffects_bundle effects).able h).exists_settle c
  unfold Session.setUp
  rw [phase]
  exact ⟨_, bind_eq_ok.2 ⟨(t, c), effects, bind_eq_ok.2 ⟨q, hq, rfl⟩⟩⟩

theorem Able.exists_startBallot [LawfulChance γ] (h : s.Able) {id : Ident}
    (awaited : s.Awaits id) (listed : (s.rulebook.ballot? id).isSome = true)
    (fit : s.CountsFit (.startBallot id)) : ∃ r, s.startBallot id = .ok r := by
  obtain ⟨ballots, points⟩ := fit
  obtain ⟨started, counted, -⟩ := Count.exists_add (a := s.ballotsStarted) (b := 1) ballots
  have cleared := h.clearFloor started id
  have room : (s.clearFloor started id).floor.tally.HasRoom
      (pointsOf (effectsOf (s.proceduresFor id))) := by
    refine Tally.hasRoom_of_bonuses ?_
    simp only [Session.clearFloor, Tally.bonuses, UInt32.toNat_zero]
    omega
  obtain ⟨⟨t, c⟩, effects⟩ := exists_applyProcedureEffects cleared.toGrounded s.leftovers
    (.ballotStart (s.ballotsStarted == 0)) (h.covers_startBallot id) room
  obtain ⟨q, hq⟩ := ((applyProcedureEffects_bundle effects).able cleared).exists_settle c
  exact ⟨_, startBallot_eq_ok awaited listed counted effects hq⟩

/-! ## On the floor -/

theorem Reachable.exists_castVote (h : Reachable s) {person : Ident} (vote : Vote)
    (ballot : s.BallotOpen) (known : s.house.people.contains person = true) :
    ∃ r, s.castVote person vote = .ok r := by
  obtain ⟨id, stage, phase⟩ := ballot
  rw [← IdMap.contains_congr (h.keys_permissions (by simp [PastSetup, phase]))] at known
  obtain ⟨p, hp⟩ := IdMap.contains_eq_true_iff.1 known
  unfold Session.castVote openBallotFor
  rw [phase, ok_bind]
  dsimp only
  rw [hp]
  dsimp only
  split <;> exact ⟨_, rfl⟩

theorem Able.paidBy (h : s.Able) {person procedure : Ident} {p : Procedure}
    {paid : Confirmation.Settled γ} (tried : s.Tried person procedure p paid) :
    (s.paidBy paid).Able :=
  ⟨tried.grounded h.toGrounded, h.staffed, h.keeps⟩

theorem Able.exists_carryOut [LawfulChance γ] (h : s.Able) (c : Changes) (person : Ident)
    {p : Procedure} (listed : p ∈ s.rulebook.procedures)
    (room : s.floor.tally.HasRoom (pointsOf (effectsOf [p]))) :
    ∃ q, s.carryOut c person p = .ok q :=
  exists_applyProcedureEffects (h.listing p).toGrounded c (.declared person)
    (h.covers_carryOut listed) room

section

variable {person procedure ballot : Ident} {p : Procedure} {confirmation : Confirmation}
  {declarers : List Ident} {stage : Stage}

theorem Able.exists_declareOpen [LawfulChance γ] (able : s.Able)
    (proposal : s.Proposal person procedure p confirmation declarers ballot stage)
    (admitted : s.refusal? stage ballot person p declarers = .ok none)
    (affordable : confirmation.canAfford (s.ownedCurrency person) s.house.balances = .ok true)
    {live : Option Bool} (counted : s.decision = .ok live)
    (room : ∀ paid, s.Tried person procedure p paid → paid.result.isConfirmed = true →
      s.floor.tally.HasRoom (pointsOf (effectsOf [p]))) :
    ∃ r, s.declareOpen person p confirmation = .ok r := by
  obtain ⟨paid, hpaid⟩ := Confirmation.exists_settle live s.chance
    (fun currency hc => able.purse (listsCurrency_of_owned hc)) affordable
  have tried : s.Tried person procedure p paid :=
    ⟨confirmation, declarers, ballot, stage, live, proposal, admitted, counted, hpaid⟩
  have paying := able.paidBy tried
  unfold declareOpen
  rw [counted, ok_bind, hpaid, ok_bind]
  dsimp only
  split
  next confirmed =>
    obtain ⟨⟨t, c⟩, effects⟩ := paying.exists_carryOut (s.paidChanges paid) person
      (Rulebook.mem_of_procedure? proposal.listed) (room paid tried confirmed)
    have declared := (carryOut_bundle effects).able (paying.listing p)
    obtain ⟨q, hq⟩ := declared.exists_settle c
    exact ⟨_, bind_eq_ok.2 ⟨(t, c), effects, bind_eq_ok.2 ⟨q, hq, rfl⟩⟩⟩
  -- Nothing takes effect, but what was paid is settled.
  next =>
    obtain ⟨q, hq⟩ := paying.exists_settle (s.paidChanges paid)
    exact ⟨_, bind_eq_ok.2 ⟨(_, _), rfl, bind_eq_ok.2 ⟨q, hq, rfl⟩⟩⟩

omit [Chance γ] [ReturningOfficer α] in
theorem Proposal.canAfford_eq
    (h : s.Proposal person procedure p confirmation declarers ballot stage) :
    s.canAfford person procedure =
      confirmation.canAfford (s.ownedCurrency person) s.house.balances := by
  obtain ⟨ballots, kind⟩ := h.kind
  have asked : p.confirmation? = some confirmation := by
    rw [Procedure.confirmation?, kind]
    rfl
  unfold canAfford procedureDef
  rw [h.listed, ok_bind, asked]

theorem Proposal.declare_eq
    (h : s.Proposal person procedure p confirmation declarers ballot stage)
    {refusal : Option Rejection}
    (asked : s.refusal? stage ballot person p declarers = .ok refusal) :
    s.declare person procedure =
      refusal.elim (s.declareOpen person p confirmation)
        fun reason => .ok ⟨.rejected reason, s, []⟩ := by
  obtain ⟨ballots, kind⟩ := h.kind
  unfold Session.declare openBallotFor procedureDef
  rw [h.phase, ok_bind]
  dsimp only
  rw [if_neg (by simp [h.known]), h.listed, ok_bind, kind]
  dsimp only
  rw [asked, ok_bind]
  cases refusal <;> rfl

end

theorem Reachable.exists_declare [LawfulChance γ] (h : Reachable s) (able : s.Able)
    {person procedure : Ident} (order : s.InOrder (.declare person procedure))
    (fit : s.CountsFit (.declare person procedure)) :
    ∃ r, s.declare person procedure = .ok r := by
  obtain ⟨⟨ballot, stage, phase⟩, known, ⟨p, listed, declarable⟩, affordable⟩ := order
  obtain ⟨volume, points⟩ := fit
  cases kind : p.kind with
  | governmental | targeted => simp [kind, ProcedureKind.isDeclared] at declarable
  | declared confirmation declarers ballots =>
    have proposal : s.Proposal person procedure p confirmation declarers ballot stage :=
      ⟨phase, known, listed, ballots, kind⟩
    obtain ⟨refusal, asked⟩ := able.exists_refusal stage ballot p declarers known
    rw [proposal.declare_eq asked]
    cases refusal with
    | some reason => exact ⟨_, rfl⟩
    | none =>
      obtain ⟨live, counted⟩ : ∃ live, s.decision = .ok live :=
        Tally.exists_decision h.polled.disjoint volume
      rw [proposal.canAfford_eq] at affordable
      refine able.exists_declareOpen proposal asked affordable counted ?_
      intro paid tried confirmed
      have room := points p paid tried confirmed
      exact Tally.hasRoom_of_bonuses (by omega)

omit [Chance γ] in
theorem Able.exists_endBallot (h : s.Able) (passed : Bool) {id : Ident} {stage : Stage}
    (phase : s.phase = .ballot id stage) (listed : (s.rulebook.ballot? id).isSome = true)
    (disjoint : s.floor.tally.Disjoint) (fits : s.floor.tally.volume s.permissions < 2 ^ 32) :
    ∃ r, s.endBallot passed = .ok r := by
  obtain ⟨b, listed⟩ := Option.isSome_iff_exists.1 listed
  have covers := h.covered.consequence listed passed
  obtain ⟨⟨t, c⟩, effects, floor⟩ := exists_applyBallotEffects h.toGrounded {} covers.effects
  have bundle := applyBallotEffects_bundle .setup effects
  -- The verdict's own effects leave the floor alone, so the tally is the one from before the call.
  obtain ⟨summary, counted⟩ : ∃ summary, t.tallySummary = .ok summary := by
    unfold tallySummary
    rw [show t.floor = s.floor from floor, bundle.permissions_eq]
    exact Tally.exists_summary disjoint fits
  have recorded := (bundle.able h).recorded ⟨id, passed, summary, t.floor.declared⟩
  obtain ⟨⟨u, signals⟩, settled⟩ := recorded.exists_settle c
  have settling := settling_of_settle settled
  have same : u.rulebook = s.rulebook := settling.rulebook_eq.trans bundle.rulebook_eq
  obtain ⟨next, linked⟩ : ∃ next, (b.consequence passed).nextBallot u.view = .ok next := by
    refine Link.exists_follow fun l hl => ?_
    have condition := (covers.links l hl).condition
    rw [← same] at condition
    exact (settling.grounded recorded.toGrounded).answerable condition _
  exact ⟨_, endBallot_eq_ok phase listed effects counted settled linked⟩

theorem Reachable.exists_endBallot (h : Reachable s) (able : s.Able) (passed : Bool)
    (ballot : s.BallotOpen) (fit : s.CountsFit (.endBallot passed)) :
    ∃ r, s.endBallot passed = .ok r := by
  obtain ⟨id, stage, phase⟩ := ballot
  exact able.exists_endBallot passed phase (h.orderly.listed id stage phase) h.polled.disjoint
    (Nat.lt_trans fit (by decide))

/-! ## All calls -/

theorem Reachable.exists_perform [LawfulChance γ] (h : Reachable s)
    (keeps : KeepsWithin α s.rulebook.roleTable) {c : Call} (order : s.InOrder c)
    (fit : s.CountsFit c) : ∃ o, s.perform c = .ok o := by
  have able := h.able keeps
  cases c with
  | register people => exact exists_map _ (exists_register order people)
  | setUp => exact exists_map _ (able.exists_setUp order)
  | startBallot id => exact exists_map _ (able.exists_startBallot order.1 order.2 fit)
  | castVote person vote => exact exists_map _ (h.exists_castVote vote order.1 order.2)
  | closeDeclarations =>
    obtain ⟨id, stage, phase⟩ := order
    refine exists_map _ ?_
    unfold Session.closeDeclarations openBallotFor
    rw [phase]
    exact ⟨_, rfl⟩
  | declare person procedure => exact exists_map _ (h.exists_declare able order fit)
  | endBallot passed => exact exists_map _ (h.exists_endBallot able passed order fit)

/-! ## Questions -/

/-- Whatever the host may ask now has an answer. -/
structure Answers (s : Session γ α) : Prop where
  isDecided : s.BallotOpen → s.floor.tally.volume s.permissions < 2 ^ 31 →
    ∃ decided, s.isDecided = .ok decided
  canAfford : ∀ person procedure, (s.rulebook.procedure? procedure).isSome = true →
    ∃ can, s.canAfford person procedure = .ok can
  incidentOutcome : ∀ id stage b, s.phase = .ballot id stage → s.rulebook.ballot? id = some b →
    b.incident = true → ∃ outcome, s.incidentOutcome = .ok outcome
  tallySummary : s.floor.tally.volume s.permissions < 2 ^ 31 → ∃ t, s.tallySummary = .ok t

theorem Reachable.answers (h : Reachable s) : s.Answers := by
  refine ⟨?_, ?_, ?_, ?_⟩
  · rintro ⟨id, stage, phase⟩ fits
    unfold Session.isDecided openBallotFor
    rw [phase, ok_bind]
    exact Tally.exists_decision h.polled.disjoint fits
  · intro person procedure listed
    exact h.orderly.exists_canAfford person listed
  · intro id stage b phase listed incident
    exact h.orderly.exists_incidentOutcome phase listed incident
  · intro fits
    exact Tally.exists_summary h.polled.disjoint (Nat.lt_trans fits (by decide))

/-! ## Whole sittings -/

def RulesKept (s : Session γ α) : List Call → Prop
  | [] => True
  | c :: calls =>
    s.InOrder c ∧ s.CountsFit c ∧ ∀ o, s.perform c = .ok o → o.session.RulesKept calls

theorem Reachable.exists_sit [LawfulChance γ] (h : Reachable s)
    (keeps : KeepsWithin α s.rulebook.roleTable) {calls : List Call} (kept : s.RulesKept calls) :
    ∃ t minutes, s.sit calls = .ok (t, minutes) := by
  induction calls generalizing s with
  | nil => exact ⟨s, [], rfl⟩
  | cons c calls ih =>
    obtain ⟨order, fit, rest⟩ := kept
    obtain ⟨o, ho⟩ := h.exists_perform keeps order fit
    have same := (performed_of_perform ho).rulebook_eq
    obtain ⟨t, minutes, sat⟩ := ih (h.perform ho) (same ▸ keeps) (rest o ho)
    exact ⟨t, _, sit_cons_eq_ok.2 ⟨o, minutes, ho, sat, rfl⟩⟩

/-- A sitting that keeps to the rules goes through, however long it is, and behind it all questions
have answers. -/
theorem sitting_goes_through [LawfulChance γ] {r : Rulebook} {chance : γ} {officer : α}
    (begun : start r chance officer = .ok s) (keeps : KeepsWithin α r.roleTable)
    {calls : List Call} (kept : s.RulesKept calls) :
    ∃ t minutes, s.sit calls = .ok (t, minutes) ∧ t.Answers := by
  have reached : Reachable s := .start begun
  obtain ⟨-, rfl⟩ := start_eq_ok begun
  obtain ⟨t, minutes, sat⟩ := reached.exists_sit keeps kept
  exact ⟨t, minutes, sat, (reached.sit sat).answers⟩

theorem rulesKept_cons {c : Call} {calls : List Call} (order : s.InOrder c) (fit : s.CountsFit c)
    (rest : (s.after [c]).RulesKept calls) : s.RulesKept (c :: calls) := by
  refine ⟨order, fit, fun o ho => ?_⟩
  have same : s.after [c] = o.session := by simp [after, sit, ho]
  rw [← same]
  exact rest

theorem rulesKept_parish : parishMeets.RulesKept parishEvening := by
  refine rulesKept_cons (by decide +kernel) trivial ?_
  refine rulesKept_cons (by decide +kernel) trivial ?_
  refine rulesKept_cons (by decide +kernel) ⟨by decide +kernel, by decide +kernel⟩ ?_
  refine rulesKept_cons (by decide +kernel) trivial ?_
  refine rulesKept_cons (by decide +kernel)
    (countsFit_declare (by decide +kernel) (by decide +kernel)) ?_
  refine rulesKept_cons (by decide +kernel) (by unfold CountsFit; decide +kernel) ?_
  refine rulesKept_cons (by decide +kernel) ⟨by decide +kernel, by decide +kernel⟩ ?_
  exact rulesKept_cons (by decide +kernel) trivial trivial

theorem sitting_goes_through_parish :
    start parish (.constant 3) {} = .ok parishMeets ∧ KeepsWithin StatusQuo parish.roleTable ∧
      parishMeets.RulesKept parishEvening ∧
      ∃ t minutes, parishMeets.sit parishEvening = .ok (t, minutes) ∧ t.Answers :=
  ⟨start_parish, inferInstance, rulesKept_parish,
    sitting_goes_through start_parish inferInstance rulesKept_parish⟩

end Session

end Parliament
