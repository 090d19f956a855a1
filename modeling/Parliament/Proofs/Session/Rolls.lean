import Parliament.Proofs.Session.Affordability
import Parliament.Proofs.Session.Course
import Parliament.Proofs.Session.Voting

/-! # What was declared on a ballot

The roll of a ballot lists the procedures that were declared on it. It begins empty with every
ballot, also with one that has been held before, and grows by the declarations that are confirmed,
until declarations are closed. From then on nothing but votes is taken.
-/

namespace Parliament

/-! ## Rolls -/

structure Roll where
  ballot : Ident
  declared : List Ident
deriving DecidableEq

/-- No procedure is listed twice, and each of them may be declared on the ballot. -/
structure Roll.Fair (r : Rulebook) (roll : Roll) : Prop where
  once : roll.declared.Nodup
  allowed : ∀ id ∈ roll.declared, ∃ p, r.procedure? id = some p ∧ p.kind.isDeclared = true ∧
    p.appliesTo roll.ballot = true

/-- The rolls of the ballots that are over, and that of the last one begun. -/
structure Rolls where
  ended : List Roll
  last : Roll
deriving DecidableEq

namespace Rolls

/-- Of what is said in a sitting only the beginnings and ends of ballots and the confirmed
declarations matter. -/
def enter (rolls : Rolls) (m : Session.Minute) : Rolls :=
  match m.call, m.reply with
  | .startBallot id, _ => { rolls with last := ⟨id, []⟩ }
  | .declare _ procedure, .declared .confirmed =>
    { rolls with last := { rolls.last with declared := rolls.last.declared ++ [procedure] } }
  | .endBallot _, _ => { rolls with ended := rolls.ended ++ [rolls.last] }
  | _, _ => rolls

/-- Before the first ballot there is nothing on the rolls. -/
def ofMinutes (minutes : List Session.Minute) : Rolls := minutes.foldl enter ⟨[], ⟨⟨0⟩, []⟩⟩

theorem ofMinutes_concat (minutes : List Session.Minute) (m : Session.Minute) :
    ofMinutes (minutes ++ [m]) = (ofMinutes minutes).enter m := List.foldl_concat ..

/-- All rolls are fair. -/
structure Fair (r : Rulebook) (rolls : Rolls) : Prop where
  ended : ∀ roll ∈ rolls.ended, roll.Fair r
  last : rolls.last.Fair r

variable {r : Rulebook} {rolls : Rolls} {m : Session.Minute}

/-- What may be put on the last roll. -/
def Admits (r : Rulebook) (rolls : Rolls) (procedure : Ident) : Prop :=
  procedure ∉ rolls.last.declared ∧ ∃ p, r.procedure? procedure = some p ∧
    p.kind.isDeclared = true ∧ p.appliesTo rolls.last.ballot = true

theorem Fair.enter (fair : rolls.Fair r) (heard : ∀ person procedure,
    m.call = .declare person procedure → m.reply = .declared .confirmed →
      rolls.Admits r procedure) : (rolls.enter m).Fair r := by
  unfold Rolls.enter
  split
  · exact ⟨fair.ended, List.nodup_nil, by simp⟩
  next person procedure call reply =>
    obtain ⟨undeclared, may⟩ := heard person procedure call reply
    refine ⟨fair.ended, ?_, fun id there => ?_⟩
    · rw [← List.concat_eq_append, List.nodup_concat]
      exact ⟨undeclared, fair.last.once⟩
    · obtain before | rfl := by simpa using there
      · exact fair.last.allowed id before
      · exact may
  · refine ⟨fun roll there => ?_, fair.last⟩
    obtain before | rfl := by simpa using there
    · exact fair.ended roll before
    · exact fair.last
  · exact fair

end Rolls

namespace Session

variable {γ α : Type} {s t : Session γ α} {c d : Changes} {signals : List Signal}

/-! ## The rolls of a session -/

def rolls (s : Session γ α) : Rolls :=
  ⟨s.history.map fun a => ⟨a.ballot, a.declared⟩, ⟨s.floor.ballot, s.floor.declared⟩⟩

def Frame.rolls (f : Frame α) : Rolls :=
  ⟨f.history.map fun a => ⟨a.ballot, a.declared⟩, ⟨f.ballot, f.declared⟩⟩

theorem Bundle.rolls_eq {scope : Scope} {p q : Session γ α × Changes} (h : Bundle scope p q) :
    q.1.rolls = p.1.rolls :=
  congrArg Frame.rolls h.frame_eq

theorem Settling.rolls_eq [ReturningOfficer α] (h : Settling s c t signals) :
    t.rolls = s.rolls := by
  obtain ⟨_, _, _, _, rfl⟩ := h.eq_with
  rfl

theorem rolls_recorded (s : Session γ α) (a : BallotRecord) :
    (s.recorded a).rolls =
      { s.rolls with ended := s.rolls.ended ++ [⟨a.ballot, a.declared⟩] } := by
  simp [rolls, recorded]

variable [Chance γ] [ReturningOfficer α] {call : Call} {o : Outcome γ α Reply}

theorem Performed.rolls_eq (h : Performed s call o)
    (onFloor : ∀ id stage, s.phase = .ballot id stage → s.floor.ballot = id) :
    o.session.rolls = s.rolls.enter ⟨call, o.answer, o.signals⟩ := by
  cases h with
  | setUp _ effects settling | startBallot _ _ _ _ effects settling =>
    exact settling.rolls_eq.trans (applyProcedureEffects_bundle effects).rolls_eq
  | @miss _ _ _ paid _ _ _ missed settling =>
    rw [settling.rolls_eq]
    cases result : paid.result with
    | confirmed => simp [result, DeclarationResult.isConfirmed] at missed
    | pending | rejected => rfl
  | @declare _ _ p paid _ _ _ _ tried confirmed effects settling =>
    obtain ⟨_, _, _, _, _, proposal, -⟩ := tried
    have result := DeclarationResult.isConfirmed_iff.1 confirmed
    rw [settling.rolls_eq, (carryOut_bundle effects).rolls_eq, result,
      ← Rulebook.id_of_procedure? proposal.listed]
    rfl
  | endBallot phase _ effects _ settling =>
    -- The record is of the ballot on the floor, and the effects of the verdict leave its roll alone.
    have before := (applyBallotEffects_bundle .setup effects).rolls_eq
    have declared := (applyBallotEffects_bundle .setup effects).declared_eq
    refine settling.rolls_eq.trans ?_
    rw [rolls_recorded, before, declared, ← onFloor _ _ phase]
    rfl
  | _ => rfl

theorem Reachable.onFloor (reached : Reachable s) (id : Ident) (stage : Stage)
    (phase : s.phase = .ballot id stage) : s.floor.ballot = id :=
  reached.kept.onFloor id (Phase.live?_eq_some_iff.2 ⟨stage, phase⟩)

/-! ## Declarations that are heard -/

theorem admits_of_confirmed {person procedure : Ident}
    (called : s.perform (.declare person procedure) = .ok o)
    (confirmed : o.answer = .declared .confirmed) : ∃ p confirmation declarers ballot,
      s.Proposal person procedure p confirmation declarers ballot .declaring ∧
        s.Admits .declaring ballot person p declarers := by
  cases performed_declare called with
  | turnDown => cases confirmed
  | miss _ missed =>
    rw [Reply.declared.inj confirmed] at missed
    cases missed
  | declare tried =>
    obtain ⟨confirmation, declarers, ballot, stage, _, proposal, asked, -⟩ := tried
    have admits := refusal?_eq_none_iff.1 asked
    cases stage with
    | declaring => exact ⟨_, confirmation, declarers, ballot, proposal, admits⟩
    | deciding => exact absurd rfl admits.declaring

theorem Reachable.fair (reached : Reachable s) : s.rolls.Fair s.rulebook := by
  induction reached with
  | start begun =>
    obtain ⟨-, rfl⟩ := start_eq_ok begun
    exact ⟨by simp [rolls, opening], List.nodup_nil, by simp [rolls, opening]⟩
  | @perform s call o reached called ih =>
    have performed := performed_of_perform called
    rw [performed.rulebook_eq, performed.rolls_eq reached.onFloor]
    refine ih.enter fun person procedure declares confirmed => ?_
    obtain rfl : call = .declare person procedure := declares
    obtain ⟨p, _, _, ballot, proposal, admits⟩ := admits_of_confirmed called confirmed
    obtain ⟨ballots, kind⟩ := proposal.kind
    have same : s.floor.ballot = ballot := reached.onFloor ballot _ proposal.phase
    refine ⟨?_, p, proposal.listed, by rw [kind]; rfl, ?_⟩
    · rw [← Rulebook.id_of_procedure? proposal.listed]
      exact admits.undeclared
    · rw [← same] at admits
      exact admits.applies

theorem rolls_of_sit {r : Rulebook} {chance : γ} {officer : α} {calls : List Call}
    {minutes : List Minute} (begun : start r chance officer = .ok s)
    (sat : s.sit calls = .ok (t, minutes)) : t.rolls = .ofMinutes minutes := by
  refine sit_induction (P := fun _ u minutes => u.rolls = .ofMinutes minutes) ?_ ?_ sat
  · obtain ⟨-, rfl⟩ := start_eq_ok begun
    rfl
  · intro calls u minutes call o before ih called
    have reached := (Reachable.start begun).sit before
    rw [(performed_of_perform called).rolls_eq reached.onFloor, ih, Rolls.ofMinutes_concat]

/-! ## Declarations that are closed -/

/-- Whoever still declares is told that it is too late. -/
def TooLate (m : Minute) : Prop :=
  ∀ person procedure, m.call = .declare person procedure →
    m.reply = .declared (.rejected .declarationsClosed)

theorem Performed.of_deciding {id : Ident} (h : Performed s call o)
    (phase : s.phase = .ballot id .deciding) (goesOn : ∀ passed, call ≠ .endBallot passed) :
    (∃ votes, o.session = s.withVotes votes) ∧ TooLate ⟨call, o.answer, o.signals⟩ := by
  cases h with
  | register early | refuse early | setUp early | startBallot early => simp [phase] at early
  | @castVote person _ vote => exact ⟨⟨[(person, vote)], rfl⟩, by simp [TooLate]⟩
  | refuseVote => exact ⟨⟨[], rfl⟩, by simp [TooLate]⟩
  | closeDeclarations open_ =>
    obtain ⟨rfl, -⟩ := Phase.ballot.inj (phase.symm.trans open_)
    refine ⟨⟨[], ?_⟩, by simp [TooLate]⟩
    rw [← phase]
    rfl
  | turnDown proposal refused =>
    -- That declarations are closed is looked at before any other reason to turn one down.
    obtain ⟨-, rfl⟩ := Phase.ballot.inj (phase.symm.trans proposal.phase)
    cases refused
    exact ⟨⟨[], rfl⟩, fun _ _ _ => rfl⟩
  | miss tried | declare tried =>
    obtain ⟨_, _, _, _, _, proposal, asked, -⟩ := tried
    obtain ⟨-, rfl⟩ := Phase.ballot.inj (phase.symm.trans proposal.phase)
    cases asked
  | endBallot => exact absurd rfl (goesOn _)

theorem votes_of_deciding {id : Ident} (phase : s.phase = .ballot id .deciding)
    {calls : List Call} {minutes : List Minute} (sat : s.sit calls = .ok (t, minutes))
    (goesOn : ∀ call ∈ calls, ∀ passed, call ≠ .endBallot passed) :
    (∃ votes, t = s.withVotes votes) ∧ ∀ m ∈ minutes, TooLate m := by
  refine sit_induction (P := fun calls u minutes =>
    (∀ call ∈ calls, ∀ passed, call ≠ .endBallot passed) →
      (∃ votes, u = s.withVotes votes) ∧ ∀ m ∈ minutes, TooLate m) ?_ ?_ sat goesOn
  · exact fun _ => ⟨⟨[], rfl⟩, by simp⟩
  · intro calls u minutes call o _ ih called goesOn
    -- Votes do not move the phase, so declarations are still closed as the next call is made.
    obtain ⟨⟨votes, rfl⟩, late⟩ := ih fun c there => goesOn c (List.mem_append_left _ there)
    obtain ⟨⟨more, same⟩, also⟩ := (performed_of_perform called).of_deciding phase
      (goesOn call (by simp))
    refine ⟨⟨votes ++ more, ?_⟩, fun m there => ?_⟩
    · rw [same, withVotes_append]
    · obtain before | rfl := by simpa using there
      · exact late m before
      · exact also

theorem closed_of_perform (called : s.perform .closeDeclarations = .ok o) :
    ∃ id stage, s.phase = .ballot id stage ∧
      o.session = { s with phase := .ballot id .deciding } := by
  cases performed_closeDeclarations called with
  | @closeDeclarations id stage phase => exact ⟨id, stage, phase, rfl⟩

/-! ## Behind a sitting -/

/-- What has been declared behind a sitting with these minutes, and what may still be. -/
structure KeepsRolls (r : Rulebook) (minutes : List Minute) (t : Session γ α) : Prop where
  onRecord : ∀ a ∈ t.history, Roll.Fair r ⟨a.ballot, a.declared⟩
  live : ∀ id stage, t.phase = .ballot id stage → Roll.Fair r ⟨id, t.floor.declared⟩
  /-- The rolls list the confirmed declarations of their ballots, in order, and no others. -/
  exactly : t.rolls = .ofMinutes minutes
  heard : ∀ person procedure o, t.perform (.declare person procedure) = .ok o →
    o.answer = .declared .confirmed → ∃ p confirmation declarers ballot,
      t.Proposal person procedure p confirmation declarers ballot .declaring ∧
        t.Admits .declaring ballot person p declarers
  closed : ∀ o, t.perform .closeDeclarations = .ok o →
    (∃ id stage, t.phase = .ballot id stage ∧
      o.session = { t with phase := .ballot id .deciding }) ∧
    ∀ calls u minutes, o.session.sit calls = .ok (u, minutes) →
      (∀ call ∈ calls, ∀ passed, call ≠ .endBallot passed) →
        (∃ votes, u = o.session.withVotes votes) ∧ ∀ m ∈ minutes, TooLate m

/-- On no ballot is a procedure declared twice or out of place. The rolls follow from what was
confirmed, and once declarations are closed there is nothing to follow but votes. -/
theorem sitting_keeps_rolls {r : Rulebook} {chance : γ} {officer : α} {calls : List Call}
    {minutes : List Minute} (begun : start r chance officer = .ok s)
    (sat : s.sit calls = .ok (t, minutes)) : KeepsRolls r minutes t := by
  have reached := (Reachable.start begun).sit sat
  have book : t.rulebook = r := by
    rw [rulebook_eq_of_sit sat]
    obtain ⟨-, rfl⟩ := start_eq_ok begun
    rfl
  have fair := reached.fair
  rw [book] at fair
  refine ⟨fun a there => ?_, fun id stage phase => ?_, rolls_of_sit begun sat,
    fun person procedure o => admits_of_confirmed, fun o called => ?_⟩
  · exact fair.ended _ (List.mem_map_of_mem there)
  · rw [← reached.onFloor id stage phase]
    exact fair.last
  · obtain ⟨id, stage, phase, closed⟩ := closed_of_perform called
    refine ⟨⟨id, stage, phase, closed⟩, fun calls u minutes sat goesOn => ?_⟩
    exact votes_of_deciding (by rw [closed]) sat goesOn

theorem sitting_keeps_rolls_parish :
    let t := parishMeets.after parishEvening
    let u := t.after [.closeDeclarations]
    ∃ minutes, parishMeets.sit parishEvening = .ok (t, minutes) ∧
      Rolls.ofMinutes minutes = ⟨[⟨⟨1⟩, [⟨3⟩]⟩], ⟨⟨1⟩, []⟩⟩ ∧ KeepsRolls parish minutes t ∧
      (∃ p declarers ballot, t.Admits .declaring ballot ⟨1⟩ p declarers) ∧
      ∃ votes late, u.sit [.castVote ⟨1⟩ .pass, .declare ⟨1⟩ ⟨3⟩] = .ok (u.withVotes votes, late) ∧
        ∀ m ∈ late, TooLate m := by
  intro t u
  obtain ⟨minutes, sat⟩ := exists_sit_after parishMeets parishEvening (by decide +kernel)
  have keeps := sitting_keeps_rolls start_parish sat
  have rolls : t.rolls = ⟨[⟨⟨1⟩, [⟨3⟩]⟩], ⟨⟨1⟩, []⟩⟩ := by decide +kernel
  obtain ⟨_, declared⟩ : ∃ signals, t.perform (.declare ⟨1⟩ ⟨3⟩) =
      .ok ⟨.declared .confirmed, t.after [.declare ⟨1⟩ ⟨3⟩], signals⟩ :=
    exists_perform_after t _ (by decide +kernel)
  obtain ⟨p, _, declarers, ballot, -, admits⟩ := keeps.heard ⟨1⟩ ⟨3⟩ _ declared rfl
  obtain ⟨_, closed⟩ : ∃ signals, t.perform .closeDeclarations = .ok ⟨.done, u, signals⟩ :=
    exists_perform_after t _ (by decide +kernel)
  obtain ⟨late, went⟩ := exists_sit_after u [.castVote ⟨1⟩ .pass, .declare ⟨1⟩ ⟨3⟩]
    (by decide +kernel)
  have behind := (keeps.closed _ closed).2
  dsimp only at behind
  obtain ⟨⟨votes, same⟩, told⟩ := behind _ _ _ went (by simp)
  rw [same] at went
  exact ⟨minutes, sat, keeps.exactly.symm.trans rolls, keeps, ⟨p, declarers, ballot, admits⟩, votes,
    late, went, told⟩

end Session

end Parliament
