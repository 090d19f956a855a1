import Parliament.Proofs.Session.Verdict

/-! # Ballots on record

What goes on record at the end of a ballot is what was on the board just before: the effects of the
verdict cannot touch it. The links are followed when all is over, so they see these effects and the
passing of the ballot itself.
-/

namespace Parliament

def Session.Minute.records (m : Session.Minute) : List BallotRecord :=
  m.signals.filterMap Signal.record?

namespace Session

variable {γ α : Type} {s t u : Session γ α} {c d : Changes}

theorem history_of_sit [Chance γ] [ReturningOfficer α] {calls : List Call} {minutes : List Minute}
    (sat : s.sit calls = .ok (t, minutes)) :
    t.history = s.history ++ minutes.flatMap Minute.records ∧
      ∀ m ∈ minutes, (∀ passed, m.call ≠ .endBallot passed) → m.records = [] := by
  refine sit_induction (P := fun _ u minutes => u.history = s.history ++
    minutes.flatMap Minute.records ∧ ∀ m ∈ minutes, (∀ passed, m.call ≠ .endBallot passed) →
      m.records = []) ⟨by simp, by simp⟩ ?_ sat
  rintro calls u minutes call o - ⟨grown, silent⟩ called
  have performed := performed_of_perform called
  constructor
  · rw [performed.history_eq, grown]
    simp [Minute.records]
  · intro m there
    obtain before | rfl := by simpa using there
    · exact silent m before
    · exact performed.records_eq_nil

/-! ## The end of a ballot -/

theorem eq_withAffairs_of_effects {effects : List BallotEffect}
    (h : s.applyBallotEffects c effects = .ok (u, d)) : u = s.withAffairs u := by
  have again : s.applyBallotEffects c effects = .ok (s.withAffairs u, d) :=
    applyBallotEffects_withAffairs h s
  rw [h] at again
  exact (Prod.mk.inj (Except.ok.inj again)).1

/-- What is on record of a ballot, and which one comes next. -/
structure EndsWith (s : Session γ α) (id : Ident) (b : Ballot) (passed : Bool)
    (o : Outcome γ α (Option Ident)) : Prop where
  recorded : ∃ summary, s.tallySummary = .ok summary ∧
    o.session.history = s.history ++ [⟨id, passed, summary, s.floor.declared⟩] ∧
    o.signals.filterMap Signal.record? = [⟨id, passed, summary, s.floor.declared⟩]
  /-- What the links see: the house behind all effects, where the ballot has passed if it has. -/
  aftermath : ∃ t c, s.applyBallotEffects {} (b.consequence passed).effects = .ok (t, c) ∧
    o.session.view = { t.view with
      passedBallots :=
        if passed then s.house.passedBallots.insert id else s.house.passedBallots }
  next : ∀ ballot, o.answer = some ballot ↔
    ∃ l, Link.IsFirst o.session.view (b.consequence passed).links l ∧ l.target = .ballot ballot
  nothing : o.answer = none ↔ Link.NoneHolds o.session.view (b.consequence passed).links ∨
    ∃ l, Link.IsFirst o.session.view (b.consequence passed).links l ∧ l.target = .finish

variable [Chance γ] [ReturningOfficer α] {id : Ident} {stage : Stage} {b : Ballot}

theorem endsWith_of_endBallot (phase : s.phase = .ballot id stage)
    (listed : s.rulebook.ballot? id = some b) {passed : Bool} {o : Outcome γ α (Option Ident)}
    (ended : s.endBallot passed = .ok o) : EndsWith s id b passed o := by
  obtain ⟨next, session, told⟩ := o
  have called : s.perform (.endBallot passed) = .ok ⟨.ended next, session, told⟩ :=
    bind_eq_ok.2 ⟨_, ended, rfl⟩
  cases performed_endBallot called with
  | @endBallot _ _ _ _ t u c summary _ signals phase' listed' effects counted settling linked =>
    obtain ⟨rfl, rfl⟩ := Phase.ballot.inj (phase.symm.trans phase')
    obtain rfl := Option.some.inj (listed.symm.trans listed')
    have bundle := applyBallotEffects_bundle .setup effects
    have before := eq_withAffairs_of_effects effects
    have board : t.tallySummary = s.tallySummary := (congrArg tallySummary before :)
    -- Neither elections nor the closing of the ballot touch anything that links look at.
    have view : (u.closed next).view = { t.view with
        passedBallots :=
          if passed then s.house.passedBallots.insert id else s.house.passedBallots } := by
      have passedBallots : t.house.passedBallots = s.house.passedBallots :=
        congrArg Frame.passedBallots bundle.frame_eq
      rw [← passedBallots]
      exact settling.view_eq
    refine ⟨⟨summary, board ▸ counted, ?_, ?_⟩, ⟨t, c, effects, view⟩,
      Link.follow_eq_some_iff linked, Link.follow_eq_none_iff linked⟩
    · rw [← bundle.declared_eq, ← bundle.history_eq]
      exact settling.history_eq
    · rw [← bundle.declared_eq, List.filterMap_cons, settling.records]
      rfl

/-- Whatever the verdict on a ballot, the record shows the board as it was just before, and the
first link that holds behind all effects is followed. A ballot can be ended exactly if the votes on
the board can be counted. Nothing else is ever put on record. -/
theorem Reachable.ballot_on_record (reached : Reachable s) (phase : s.phase = .ballot id stage)
    (passed : Bool) :
    ∃ b, s.rulebook.ballot? id = some b ∧
      (∀ o, s.endBallot passed = .ok o → EndsWith s id b passed o) ∧
      (KeepsWithin α s.rulebook.roleTable →
        ((∃ o, s.endBallot passed = .ok o) ↔ ∃ summary, s.tallySummary = .ok summary)) ∧
      ∀ calls t minutes, s.sit calls = .ok (t, minutes) →
        t.history = s.history ++ minutes.flatMap Minute.records ∧
          ∀ m ∈ minutes, (∀ passed, m.call ≠ .endBallot passed) → m.records = [] := by
  have there := reached.orderly.listed id stage phase
  obtain ⟨b, listed⟩ := Option.isSome_iff_exists.1 there
  have ends (o) (ended : s.endBallot passed = .ok o) := endsWith_of_endBallot phase listed ended
  refine ⟨b, listed, ends, fun keeps => ?_, fun calls t minutes => history_of_sit⟩
  constructor
  · rintro ⟨o, ended⟩
    obtain ⟨summary, counted, -⟩ := (ends o ended).recorded
    exact ⟨summary, counted⟩
  · rintro ⟨summary, counted⟩
    have fits : s.floor.tally.volume s.permissions < 2 ^ 32 := by
      obtain ⟨-, -, total, -⟩ := Tally.summary_eq_ok.1 counted
      rw [← total]
      exact summary.total.toNat_lt
    exact (reached.able keeps).exists_endBallot passed phase there reached.polled.disjoint fits

/-! ## Repairs

The roof is paid for as it passes, and is put to the vote again if the alms box is nearly empty.
-/

def repairs : Rulebook :=
  { parish with ballots := [{
      id := ⟨1⟩
      name := "Roof"
      pass := {
        effects := [⟨.modifyCurrency, [⟨1⟩], -4, rfl⟩]
        links := [⟨.all [.ballotPassed ⟨1⟩ true, .currencyValue ⟨1⟩ .lessEqual 2], .ballot ⟨1⟩⟩,
          ⟨.always, .finish⟩] }
      fail := {}
      incident := false
      resolution := none }] }

def repairsMeets : Session DrawScript StatusQuo := opening repairs (.constant 3) {}

theorem reachable_repairsMeets : Reachable repairsMeets :=
  .start (start_of_check (check_of_english rfl rfl) _ _)

theorem ballot_on_record_repairs :
    let s := repairsMeets.after (adaBegin ++ [.declare ⟨1⟩ ⟨3⟩])
    ∃ b o, s.rulebook.ballot? ⟨1⟩ = some b ∧ s.endBallot true = .ok o ∧
      b.pass.nextBallot s.view = .ok none ∧ o.answer = some ⟨1⟩ ∧
      (∃ l, Link.IsFirst o.session.view b.pass.links l ∧ l.target = .ballot ⟨1⟩) ∧
      ∃ summary, s.tallySummary = .ok summary ∧
        o.session.history = s.history ++ [⟨⟨1⟩, true, summary, [⟨3⟩]⟩] := by
  intro s
  have reached := reachable_repairsMeets.after (adaBegin ++ [.declare ⟨1⟩ ⟨3⟩])
  have phase : s.phase = .ballot ⟨1⟩ .declaring := by decide +kernel
  have declared : s.floor.declared = [⟨3⟩] := by decide +kernel
  have before : (s.rulebook.ballot? ⟨1⟩).map (·.pass.nextBallot s.view) = some (.ok none) := by
    decide +kernel
  have behind : (s.endBallot true).map (·.answer) = .ok (some ⟨1⟩) := by decide +kernel
  obtain ⟨b, listed, ends, -⟩ := reached.ballot_on_record phase true
  obtain ⟨o, ended, answer⟩ := map_eq_ok.1 behind
  obtain ⟨summary, counted, history, -⟩ := (ends o ended).recorded
  rw [declared] at history
  rw [listed] at before
  exact ⟨b, o, listed, ended, Option.some.inj before, answer, ((ends o ended).next ⟨1⟩).1 answer,
    summary, counted, history⟩

end Session

end Parliament
