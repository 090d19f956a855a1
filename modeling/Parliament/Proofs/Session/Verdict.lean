import Parliament.Proofs.Session.Progress

/-! # The verdict decides

What follows a ballot depends on the verdict and on the affairs of the session, and not on how
people have voted, what they have declared or what was forced on the ballot. The effects of a ballot
look at affairs alone, so they are the same among other votes; the tally only has to be there to be
recorded; and the links of a rule book that passes read no vote.
-/

namespace Parliament

theorem Rulebook.CoversLink.readsVote_eq {r : Rulebook} {l : Link} (h : r.CoversLink l) :
    l.condition.readsVote = false := by
  rw [← Bool.not_eq_true, Condition.readsVote_iff]
  rintro ⟨passed, within⟩
  exact h.noVote passed within

namespace Session

variable {γ α : Type} {s t u : Session γ α} {c d : Changes}

/-! ## The same affairs among other votes -/

/-- The session with the affairs of another one, which is all that bears on the end of a ballot. -/
def withAffairs (t s : Session γ α) : Session γ α :=
  { t with rulebook := s.rulebook, house := s.house, pendingElections := s.pendingElections }

theorem applyBallotEffect_withAffairs {e : BallotEffect}
    (h : applyBallotEffect s c e = .ok (u, d)) (t : Session γ α) :
    applyBallotEffect (t.withAffairs s) c e = .ok (t.withAffairs u, d) := by
  unfold applyBallotEffect at h ⊢
  split at h
  case h_1 | h_2 | h_3 | h_4 =>
    obtain ⟨rfl, rfl⟩ := Prod.mk.inj (Except.ok.inj h)
    rfl
  case h_5 =>
    obtain ⟨house, replaced, h⟩ := bind_eq_ok.1 h
    obtain ⟨rfl, rfl⟩ := Prod.mk.inj (pure_eq_ok.1 h)
    exact bind_eq_ok.2 ⟨house, replaced, rfl⟩
  case h_6 =>
    obtain ⟨currencies, payees, h⟩ := bind_eq_ok.1 h
    obtain ⟨house, adjusted, h⟩ := bind_eq_ok.1 h
    obtain ⟨rfl, rfl⟩ := Prod.mk.inj (pure_eq_ok.1 h)
    exact bind_eq_ok.2 ⟨currencies, payees, bind_eq_ok.2 ⟨house, adjusted, rfl⟩⟩

theorem applyBallotEffects_withAffairs {effects : List BallotEffect}
    (h : s.applyBallotEffects c effects = .ok (u, d)) (t : Session γ α) :
    (t.withAffairs s).applyBallotEffects c effects = .ok (t.withAffairs u, d) := by
  unfold applyBallotEffects at h ⊢
  have step : ∀ e ∈ effects, ∀ p q p' : Session γ α × Changes, q = (t.withAffairs p.1, p.2) →
      applyBallotEffect p.1 p.2 e = .ok p' →
      ∃ q', applyBallotEffect q.1 q.2 e = .ok q' ∧ q' = (t.withAffairs p'.1, p'.2) := by
    rintro e _ p _ p' rfl applied
    exact ⟨_, applyBallotEffect_withAffairs applied t, rfl⟩
  obtain ⟨_, applied, rfl⟩ := foldlM_related step rfl h
  exact applied

theorem exists_composed_of_eq_ok {p : IdMap Permissions} (h : s.composed = .ok p)
    (roles : t.house.roles = s.house.roles) (roleTable : t.roleTable = s.roleTable) :
    ∃ q, t.composed = .ok q := by
  obtain ⟨q, hq⟩ := Permissions.exists_compose_of_eq_ok h
    (t.standingOverrides ++ t.ballotOverrides) t.franchise
  rw [← roles, ← roleTable] at hq
  exact ⟨q, hq⟩

variable [ReturningOfficer α]

theorem Settling.withAffairs {signals : List Signal} (h : Settling s c u signals)
    (roleTable : t.roleTable = s.roleTable)
    (answers : ∀ requests e, (ReturningOfficer.assign t.officer requests e).1 =
      (ReturningOfficer.assign s.officer requests e).1) :
    ∃ (v : Session γ α) (signals' : List Signal),
      Settling (Session.withAffairs t s) c v signals' ∧ v.house = u.house := by
  cases h with
  | quiet due kept => exact ⟨_, _, .quiet due kept, rfl⟩
  | amended due touched p hp =>
    obtain ⟨q, hq⟩ := exists_composed_of_eq_ok (t := Session.withAffairs t s) hp rfl roleTable
    exact ⟨_, _, .amended (s := Session.withAffairs t s) due touched q hq, rfl⟩
  | voted due p hp =>
    have house : (Session.withAffairs t s).elected.house = s.elected.house := by
      simp only [elected, Session.withAffairs]
      rw [answers]
    obtain ⟨q, hq⟩ := exists_composed_of_eq_ok hp (congrArg House.roles house) roleTable
    exact ⟨_, _, .voted (s := Session.withAffairs t s) due q hq, house⟩

/-! ## The end of a ballot -/

/-- Two sessions have the same ballot open, in a house that stands alike. Votes, bonuses, the
majority that is needed, what was forced and what was declared may differ. -/
structure SameAffairs (s t : Session γ α) : Prop where
  rulebook : t.rulebook = s.rulebook
  roleTable : t.roleTable = s.roleTable
  house : t.house = s.house
  pendingElections : t.pendingElections = s.pendingElections
  answers : ∀ requests e, (ReturningOfficer.assign t.officer requests e).1 =
    (ReturningOfficer.assign s.officer requests e).1
  ballot : ∃ id stage stage', s.phase = .ballot id stage ∧ t.phase = .ballot id stage' ∧
    (s.rulebook.ballot? id).isSome = true

theorem SameAffairs.eq_withAffairs (same : s.SameAffairs t) : t = t.withAffairs s := by
  rw [withAffairs, ← same.rulebook, ← same.house, ← same.pendingElections]

/-- Nobody stands on both sides, and all that is weighed fits in a word. -/
def Countable (s : Session γ α) : Prop :=
  s.floor.tally.Disjoint ∧ s.floor.tally.volume s.permissions < 2 ^ 32

variable [Chance γ]

theorem SameAffairs.endBallot (same : s.SameAffairs t) (covered : s.rulebook.Covered)
    (countable : t.Countable) {passed : Bool} {o : Outcome γ α Reply}
    (h : s.perform (.endBallot passed) = .ok o) :
    ∃ o', t.perform (.endBallot passed) = .ok o' ∧ o'.answer = o.answer ∧
      o'.session.phase = o.session.phase ∧ o'.session.house = o.session.house := by
  cases performed_endBallot h with
  | @endBallot _ id _ b u v c _ next _ phase listed effects _ settling linked =>
    have covers := covered.consequence listed passed
    have bundle := applyBallotEffects_bundle .setup effects
    have effects' := applyBallotEffects_withAffairs effects t
    rw [← same.eq_withAffairs] at effects'
    obtain ⟨summary, counted⟩ := Tally.exists_summary countable.1 countable.2
    have officer : u.officer = s.officer := bundle.officer_eq
    have roleTable : t.roleTable = u.roleTable := same.roleTable.trans bundle.roleTable_eq.symm
    obtain ⟨w, signals, settling', house⟩ := settling.withAffairs
      (t := t.recorded ⟨id, passed, summary, t.floor.declared⟩) roleTable (officer ▸ same.answers)
    have view : w.view = { v.view with forced := w.floor.tally.forced } := by
      unfold Session.view
      rw [house]
      rfl
    -- No link reads the vote, so what was forced makes no difference.
    have linked' : (b.consequence passed).nextBallot w.view = .ok next := by
      have blind : ∀ l ∈ (b.consequence passed).links, l.condition.readsVote = false :=
        fun l hl => (covers.links l hl).readsVote_eq
      rw [view, Consequence.nextBallot, Link.follow_withForced blind]
      exact linked
    obtain ⟨_, stage, stage', here, there, -⟩ := same.ballot
    obtain ⟨rfl, rfl⟩ := Phase.ballot.inj (phase.symm.trans here)
    rw [← same.rulebook] at listed
    have ended := endBallot_eq_ok (t := t.withAffairs u) there listed effects' counted
      (settle_of_settling settling') linked'
    refine ⟨_, bind_eq_ok.2 ⟨_, ended, rfl⟩, rfl, rfl, ?_⟩
    simp only [Outcome.map, closed, house]

/-- Whatever the votes, with the same verdict a ballot ends alike: the same one comes next, and the
house is left the same. This rests on how links are followed: a condition that reads no vote, not
even deep inside, has the same answer whatever was forced. -/
theorem verdict_decides (checked : s.rulebook.check = .ok ()) (same : s.SameAffairs t)
    (hs : s.Countable) (ht : t.Countable) (passed : Bool) :
    (∀ (c : Condition) (v : Condition.View) forced, c.readsVote = false →
      c.evaluate { v with forced := forced } = c.evaluate v) ∧
    (s.Able → ∃ o, s.perform (.endBallot passed) = .ok o) ∧
    ∀ o, s.perform (.endBallot passed) = .ok o →
      ∃ o', t.perform (.endBallot passed) = .ok o' ∧ o'.answer = o.answer ∧
        o'.session.phase = o.session.phase ∧ o'.session.house = o.session.house := by
  refine ⟨fun c v forced blind => ?_, fun able => ?_, fun o h => ?_⟩
  · exact Condition.evaluate_withForced forced c blind
  · obtain ⟨id, stage, _, phase, -, listed⟩ := same.ballot
    exact exists_map _ (able.exists_endBallot passed phase listed hs.1 hs.2)
  · exact same.endBallot (Rulebook.covered_of_check checked) ht h

/-- The roof is put to the vote, and this took place on the floor. -/
def roofOpen (floor : List Call) : Session DrawScript StatusQuo :=
  proxyParishMeets.after ([.register [⟨⟨1⟩, "Ada"⟩, ⟨⟨2⟩, "Bede"⟩], .setUp, .startBallot ⟨1⟩] ++
    floor)

theorem verdict_decides_parish :
    let s := roofOpen [.castVote ⟨1⟩ .pass]
    let t := roofOpen [.declare ⟨2⟩ ⟨4⟩, .castVote ⟨2⟩ .fail, .closeDeclarations]
    s.rulebook.check = .ok () ∧ s.SameAffairs t ∧ s.Countable ∧ t.Countable ∧
      s.floor.tally ≠ t.floor.tally ∧
      ∃ o o', s.perform (.endBallot true) = .ok o ∧ t.perform (.endBallot true) = .ok o' ∧
        o.answer = .ended (some ⟨1⟩) ∧ o'.answer = o.answer ∧
        o'.session.house = o.session.house := by
  intro s t
  have reached : ∀ floor, Reachable (roofOpen floor) :=
    fun floor => (Reachable.start start_proxyParish).after _
  have rulebook : t.rulebook = s.rulebook :=
    (rulebook_after _ _).trans (rulebook_after _ _).symm
  have answers : ∀ (a b : StatusQuo) requests e,
      (ReturningOfficer.assign a requests e).1 = (ReturningOfficer.assign b requests e).1 :=
    fun _ _ _ _ => rfl
  have phases : s.phase = .ballot ⟨1⟩ .declaring ∧ t.phase = .ballot ⟨1⟩ .deciding := by
    decide +kernel
  have orderly := (reached [.castVote ⟨1⟩ .pass]).orderly
  have same : s.SameAffairs t :=
    ⟨rulebook, by decide +kernel, by decide +kernel, by decide +kernel,
      answers t.officer s.officer, ⟨1⟩, .declaring, .deciding, phases.1, phases.2,
      orderly.listed _ _ phases.1⟩
  have hs : s.Countable := ⟨(reached _).polled.disjoint, by decide +kernel⟩
  have ht : t.Countable := ⟨(reached _).polled.disjoint, by decide +kernel⟩
  obtain ⟨-, ends, alike⟩ := verdict_decides orderly.checked same hs ht true
  obtain ⟨o, ended⟩ := ends ((reached _).able inferInstance)
  obtain ⟨o', also, answer, -, house⟩ := alike o ended
  refine ⟨orderly.checked, same, hs, ht, by decide +kernel, o, o', ended, also, ?_, answer, house⟩
  have roof : (s.perform (.endBallot true)).map (·.answer) = .ok (.ended (some ⟨1⟩)) := by
    decide +kernel
  obtain ⟨_, called, replied⟩ := map_eq_ok.1 roof
  rw [ended] at called
  rw [← replied, Except.ok.inj called]

end Session

end Parliament
