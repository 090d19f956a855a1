import Parliament.Proofs.Session.Firing
import Parliament.Proofs.Session.Progress

/-! # Ballots begin afresh

What a ballot leaves behind is its record, the house and the standing amendments. Two sessions that
have those in common open the next ballot alike, whatever became of the ballots before. No effect
looks at the rest of the session, its backdrop, so a bundle runs the same before any other; and
permissions come out the same because those of either session are up to date.
-/

namespace Parliament.Session

variable {γ α : Type}

/-! ## Changes that go unnoticed -/

/-- No draw, amendment, request, count or limit notices that the session was changed. -/
structure Unnoticed (g : Session γ α → Session γ α) : Prop where
  people : ∀ s, (g s).house.people = s.house.people
  tally : ∀ s, (g s).floor.tally = s.floor.tally
  chance : ∀ s, (g s).chance = s.chance
  drawn : ∀ s chance, g { s with chance := chance } = { g s with chance := chance }
  counted : ∀ s t, g { s with floor := { s.floor with tally := t } } =
    { g s with floor := { (g s).floor with tally := t } }
  asked : ∀ s r, g (s.addRequest r) = (g s).addRequest r
  amended : ∀ s scope o, g (s.addOverride scope o) = (g s).addOverride scope o
  limited : ∀ s filters, g (s.limitVote filters) = (g s).limitVote filters

variable {g : Session γ α → Session γ α} {s t : Session γ α} {c d : Changes}

section

variable [Chance γ]

theorem Unnoticed.drawPerson (unnoticed : Unnoticed g) {person : Option Ident}
    (h : s.drawPerson = .ok (person, t)) : (g s).drawPerson = .ok (person, g t) := by
  unfold Session.drawPerson at h ⊢
  dsimp only at h ⊢
  rw [unnoticed.people, unnoticed.chance]
  split at h
  next nobody =>
    obtain ⟨rfl, rfl⟩ := Prod.mk.inj (Except.ok.inj h)
    rw [if_pos nobody]
  next somebody =>
    obtain ⟨⟨place, chance⟩, drawn, h⟩ := bind_eq_ok.1 h
    rw [if_neg somebody, drawn, ok_bind]
    dsimp only at h ⊢
    split at h
    next p there =>
      obtain ⟨rfl, rfl⟩ := Prod.mk.inj (pure_eq_ok.1 h)
      rw [unnoticed.drawn s chance]
      rfl
    next => simp at h

theorem Unnoticed.amendPermissions (unnoticed : Unnoticed g) {scope : Scope}
    {targets : List Ident} {a : Amendment}
    (h : s.amendPermissions scope targets a c = .ok (t, d)) (c' : Changes) :
    ∃ d', (g s).amendPermissions scope targets a c' = .ok (g t, d') ∧
      (c'.permissions = c.permissions → d'.permissions = d.permissions) := by
  unfold Session.amendPermissions at h ⊢
  split at h
  next untargeted =>
    obtain ⟨⟨person, u⟩, drawn, h⟩ := bind_eq_ok.1 h
    rw [if_pos untargeted, unnoticed.drawPerson drawn, ok_bind]
    cases person with
    | none =>
      obtain ⟨rfl, rfl⟩ := Prod.mk.inj (pure_eq_ok.1 h)
      exact ⟨c', rfl, fun same => same⟩
    | some person =>
      obtain ⟨rfl, rfl⟩ := Prod.mk.inj (pure_eq_ok.1 h)
      dsimp only
      rw [unnoticed.amended]
      exact ⟨_, rfl, fun _ => rfl⟩
  next targeted =>
    obtain ⟨rfl, rfl⟩ := Prod.mk.inj (Except.ok.inj h)
    rw [if_neg targeted, unnoticed.amended]
    exact ⟨_, rfl, fun _ => rfl⟩

/-- Only effects that carry over look at more of a session. -/
theorem Unnoticed.applyProcedureEffect (unnoticed : Unnoticed g) {scope : Scope}
    {procedure : Ident} {e : ProcedureEffect} (plain : e.kind.carriesOver = false)
    (h : applyProcedureEffect scope s c procedure e = .ok (t, d)) (c' : Changes) :
    ∃ d', Session.applyProcedureEffect scope (g s) c' procedure e = .ok (g t, d') ∧
      (c'.permissions = c.permissions → d'.permissions = d.permissions) := by
  unfold Session.applyProcedureEffect at h ⊢
  split at h
  case h_1 | h_2 | h_3 | h_4 =>
    split at h
    next r _ =>
      obtain ⟨rfl, rfl⟩ := Prod.mk.inj (Except.ok.inj h)
      rw [unnoticed.asked]
      exact ⟨c', rfl, fun same => same⟩
    next => simp at h
  case h_5 | h_6 | h_7 =>
    split at h
    next => exact unnoticed.amendPermissions h c'
    next =>
      obtain ⟨rfl, rfl⟩ := Prod.mk.inj (Except.ok.inj h)
      exact ⟨c', rfl, fun same => same⟩
  case h_8 | h_9 | h_10 | h_11 | h_12 =>
    obtain ⟨tally, added, h⟩ := bind_eq_ok.1 h
    obtain ⟨rfl, rfl⟩ := Prod.mk.inj (pure_eq_ok.1 h)
    rw [unnoticed.counted s tally, unnoticed.tally]
    exact ⟨c', bind_eq_ok.2 ⟨tally, added, rfl⟩, fun same => same⟩
  -- Payments and activations look at the house, but they carry over.
  case h_13 is | h_14 is | h_15 is | h_16 is =>
    rw [is] at plain
    cases plain
  case h_17 =>
    obtain ⟨rfl, rfl⟩ := Prod.mk.inj (Except.ok.inj h)
    rw [unnoticed.limited]
    exact ⟨_, rfl, fun _ => rfl⟩

end

/-! ## Effects before another backdrop -/

/-- The part of a session that no procedure's effect looks at. -/
structure Backdrop (α : Type) where
  permissions : IdMap Permissions
  ballotsStarted : UInt32
  history : List BallotRecord
  officer : α

/-- The session before the given backdrop instead of its own. -/
def against (s : Session γ α) (b : Backdrop α) : Session γ α :=
  { s with
    permissions := b.permissions
    ballotsStarted := b.ballotsStarted
    history := b.history
    officer := b.officer }

variable {b : Backdrop α}

theorem unnoticed_against (b : Backdrop α) : Unnoticed fun s : Session γ α => s.against b := by
  refine ⟨?_, ?_, ?_, ?_, ?_, ?_, ?_, ?_⟩
  case refine_7 => rintro s ⟨⟩ o <;> rfl
  all_goals intros; rfl

theorem adjustBalances_against {delta : Int8} {currencies : List Ident}
    (h : s.adjustBalances delta currencies c = .ok (t, d)) (c' : Changes) :
    ∃ d', (s.against b).adjustBalances delta currencies c' = .ok (t.against b, d') := by
  obtain ⟨house, adjusted, h⟩ := bind_eq_ok.1 h
  rw [pure_eq_ok, Prod.mk.injEq] at h
  obtain ⟨rfl, -⟩ := h
  exact ⟨_, bind_eq_ok.2 ⟨house, adjusted, rfl⟩⟩

theorem applyProcedureEffect_against [Chance γ] {scope : Scope} {procedure : Ident}
    {e : ProcedureEffect} (h : applyProcedureEffect scope s c procedure e = .ok (t, d))
    (c' : Changes) :
    ∃ d', applyProcedureEffect scope (s.against b) c' procedure e = .ok (t.against b, d') := by
  cases lasting : e.kind.carriesOver with
  | false =>
    obtain ⟨d', applied, -⟩ := (unnoticed_against b).applyProcedureEffect lasting h c'
    exact ⟨d', applied⟩
  | true =>
    rcases @applyProcedureEffect_lasting γ α _ e lasting scope procedure with
      ⟨-, eq⟩ | ⟨-, eq⟩ | ⟨-, eq⟩ <;> rw [eq] at h ⊢ <;> split at h
    next held =>
      obtain ⟨rfl, -⟩ := Prod.mk.inj (Except.ok.inj h)
      exact ⟨c', if_pos held⟩
    next free =>
      obtain ⟨currencies, payees, h⟩ := bind_eq_ok.1 h
      obtain ⟨d', adjusted⟩ := adjustBalances_against (b := b) h c'
      rw [if_neg free]
      exact ⟨d', bind_eq_ok.2 ⟨currencies, payees, adjusted⟩⟩
    all_goals obtain ⟨rfl, -⟩ := Prod.mk.inj (Except.ok.inj h)
    next held => exact ⟨c', if_pos held⟩
    next free => exact ⟨_, if_neg free⟩
    next held => exact ⟨c', if_pos held⟩
    next free => exact ⟨_, if_neg free⟩

theorem applyProcedureEffects_against [Chance γ] {scope : Scope}
    {effects : List (Ident × ProcedureEffect)}
    (h : s.applyProcedureEffects c scope effects = .ok (t, d)) (c' : Changes) :
    ∃ d', (s.against b).applyProcedureEffects c' scope effects = .ok (t.against b, d') := by
  unfold applyProcedureEffects at h ⊢
  have step : ∀ e ∈ effects, ∀ (p q p' : Session γ α × Changes), q.1 = p.1.against b →
      applyProcedureEffect scope p.1 p.2 e.1 e.2 = .ok p' →
      ∃ q', applyProcedureEffect scope q.1 q.2 e.1 e.2 = .ok q' ∧ q'.1 = p'.1.against b := by
    intro e _ p q p' same applied
    obtain ⟨d', also⟩ := applyProcedureEffect_against (b := b) applied q.2
    exact ⟨(p'.1.against b, d'), same ▸ also, rfl⟩
  obtain ⟨⟨u, d'⟩, applied, same⟩ := foldlM_related step (c := (s.against b, c')) rfl h
  obtain rfl : u = t.against b := same
  exact ⟨d', applied⟩

/-! ## Settling -/

section

variable [ReturningOfficer α]

theorem holdElections_against
    (answers : ∀ requests e, (ReturningOfficer.assign b.officer requests e).1 =
      (ReturningOfficer.assign s.officer requests e).1) :
    ∃ b', (s.against b).holdElections.1 = s.holdElections.1.against b' := by
  by_cases due : s.pendingElections = []
  · rw [holdElections_of_nil due, holdElections_of_nil (s := s.against b) due]
    exact ⟨b, rfl⟩
  · rw [holdElections_of_ne_nil due, holdElections_of_ne_nil (s := s.against b) due]
    refine ⟨{ b with officer := (s.against b).elected.officer }, ?_⟩
    have house : (s.against b).elected.house = s.elected.house := by
      simp only [elected, against]
      rw [answers]
    simp only [against, elected] at house ⊢
    rw [house]

theorem Settling.against {u v : Session γ α} {signals signals' : List Signal}
    (h : Settling s c u signals) (k : Settling (s.against b) d v signals')
    (answers : ∀ requests e, (ReturningOfficer.assign b.officer requests e).1 =
      (ReturningOfficer.assign s.officer requests e).1) (hu : u.Fresh) (hv : v.Fresh) :
    ∃ b', v = u.against b' ∧ b'.permissions = u.permissions := by
  obtain ⟨b', held⟩ := holdElections_against answers
  have eu := h.eq_held
  have ev := k.eq_held
  rw [held] at ev
  -- One may be composed anew and the other left as it was: that both are up to date is enough.
  have same : v.permissions = u.permissions := by
    have cu : s.holdElections.1.composed = .ok u.permissions := by
      rw [← hu, eu]
      rfl
    have cv : s.holdElections.1.composed = .ok v.permissions := by
      rw [← hv, ev]
      rfl
    exact Except.ok.inj (cv.symm.trans cu)
  refine ⟨{ b' with permissions := v.permissions }, ?_, same⟩
  rw [eu, ev]
  rfl

end

/-! ## The start of a ballot -/

section

variable [ReturningOfficer α]

/-- What two sessions have in common if nothing but the ballots held so far sets them apart. -/
structure SameStanding (s t : Session γ α) : Prop where
  rulebook : t.rulebook = s.rulebook
  people : t.house.people = s.house.people
  roles : t.house.roles = s.house.roles
  affiliations : t.house.affiliations = s.house.affiliations
  activeParties : t.house.activeParties = s.house.activeParties
  activeRegions : t.house.activeRegions = s.house.activeRegions
  activeProcedures : t.house.activeProcedures = s.house.activeProcedures
  passedBallots : t.house.passedBallots = s.house.passedBallots
  balances : t.house.balances = s.house.balances
  standingOverrides : t.standingOverrides = s.standingOverrides
  begun : t.ballotsStarted = 0 ↔ s.ballotsStarted = 0
  chance : t.chance = s.chance
  answers : ∀ requests e, (ReturningOfficer.assign t.officer requests e).1 =
    (ReturningOfficer.assign s.officer requests e).1

def backdrop (s : Session γ α) (started : UInt32) : Backdrop α :=
  ⟨s.permissions, started, s.history, s.officer⟩

namespace SameStanding

theorem clearFloor (same : s.SameStanding t) (hs : s.Orderly) (ht : t.Orderly) (m n : UInt32)
    (id : Ident) : t.clearFloor m id = (s.clearFloor n id).against (t.backdrop m) := by
  have house : { t.house with currentBallot := some id } =
      { s.house with currentBallot := some id } := by
    rw [House.mk.injEq]
    exact ⟨same.people, same.roles, same.affiliations, same.activeParties, same.activeRegions,
      same.activeProcedures, same.passedBallots, same.balances, rfl⟩
  have roleTable : t.roleTable = s.roleTable := by
    rw [hs.roleTable, ht.roleTable, same.rulebook]
  have pending : t.pendingElections = s.pendingElections := by rw [hs.settled, ht.settled]
  simp only [Session.clearFloor, against, backdrop]
  rw [house, roleTable, pending, same.rulebook, same.standingOverrides, same.chance]

theorem proceduresFor (same : s.SameStanding t) (id : Ident) :
    t.proceduresFor id = s.proceduresFor id := by
  rw [Session.proceduresFor, same.rulebook, same.activeProcedures]
  rfl

theorem first (same : s.SameStanding t) : (t.ballotsStarted == 0) = (s.ballotsStarted == 0) := by
  rw [Bool.eq_iff_iff, beq_iff_eq, beq_iff_eq]
  exact same.begun

theorem answers_behind (same : s.SameStanding t) {scope : Scope} {n : UInt32} {id : Ident}
    {u : Session γ α} (h : Bundle scope (s.clearFloor n id, c) (u, d)) (m : UInt32)
    (requests : List ElectionRequest) (e : Electorate) :
    (ReturningOfficer.assign (t.backdrop m).officer requests e).1 =
      (ReturningOfficer.assign u.officer requests e).1 := by
  rw [show u.officer = s.officer from h.officer_eq]
  exact same.answers requests e

variable [Chance γ]

theorem effects (same : s.SameStanding t) (hs : s.Orderly) (ht : t.Orderly) {u : Session γ α}
    {m n : UInt32} {id : Ident}
    (h : (s.clearFloor n id).applyProcedureEffects s.leftovers
      (.ballotStart (s.ballotsStarted == 0)) (effectsOf (s.proceduresFor id)) = .ok (u, c)) :
    ∃ d, (t.clearFloor m id).applyProcedureEffects t.leftovers
      (.ballotStart (t.ballotsStarted == 0)) (effectsOf (t.proceduresFor id)) =
        .ok (u.against (t.backdrop m), d) := by
  rw [same.clearFloor hs ht m n id, same.first, same.proceduresFor]
  exact applyProcedureEffects_against h t.leftovers

theorem exists_startBallot (same : s.SameStanding t) (hs : Reachable s) (ht : Reachable t)
    {id : Ident} {o : Outcome γ α Reply} (h : s.perform (.startBallot id) = .ok o)
    (awaited : t.Awaits id) (room : t.ballotsStarted.toNat + 1 < 2 ^ 32) :
    ∃ o', t.perform (.startBallot id) = .ok o' := by
  have fresh : o.session.Fresh := hs.fresh_startBallot h
  cases performed_startBallot h with
  | @startBallot _ _ _ u v c _ _ _ listed _ effects settling =>
    obtain ⟨m, counted, -⟩ := Count.exists_add (a := t.ballotsStarted) (b := 1) room
    obtain ⟨d, also⟩ := same.effects hs.orderly ht.orderly (m := m) effects
    obtain ⟨b', held⟩ := holdElections_against
      (same.answers_behind (applyProcedureEffects_bundle effects) m)
    have composed : (u.against (t.backdrop m)).holdElections.1.composed = .ok v.permissions := by
      rw [held, ← fresh, settling.eq_held]
      rfl
    obtain ⟨⟨w, signals⟩, settled⟩ := exists_settle composed d
    rw [← same.rulebook] at listed
    exact exists_map _ ⟨_, startBallot_eq_ok awaited listed counted also settled⟩

theorem startBallot (same : s.SameStanding t) (hs : Reachable s) (ht : Reachable t) {id : Ident}
    {o o' : Outcome γ α Reply} (h : s.perform (.startBallot id) = .ok o)
    (k : t.perform (.startBallot id) = .ok o') :
    ∃ b, o'.session = o.session.against b ∧ b.permissions = o.session.permissions := by
  have fresh : o.session.Fresh := hs.fresh_startBallot h
  have fresh' : o'.session.Fresh := ht.fresh_startBallot k
  cases performed_startBallot h with
  | startBallot _ _ _ _ effects settling =>
    cases performed_startBallot k with
    | @startBallot _ _ m _ _ _ _ _ _ _ _ effects' settling' =>
      obtain ⟨d, also⟩ := same.effects hs.orderly ht.orderly (m := m) effects
      rw [also, Except.ok.injEq, Prod.mk.injEq] at effects'
      obtain ⟨rfl, rfl⟩ := effects'
      exact settling.against settling'
        (same.answers_behind (applyProcedureEffects_bundle effects) m) fresh fresh'

end SameStanding

variable [Chance γ]

/-- Votes, bonuses, declarations, amendments, permissions and records of the ballots so far have no
part in how the next one begins. -/
theorem startBallot_forgets (hs : Reachable s) (ht : Reachable t) (same : s.SameStanding t)
    {id : Ident} {o : Outcome γ α Reply} (h : s.perform (.startBallot id) = .ok o) :
    (t.Awaits id → t.ballotsStarted.toNat + 1 < 2 ^ 32 →
      ∃ o', t.perform (.startBallot id) = .ok o') ∧
    ∀ o', t.perform (.startBallot id) = .ok o' →
      o'.session.house = o.session.house ∧ o'.session.floor = o.session.floor ∧
      o'.session.ballotOverrides = o.session.ballotOverrides ∧
      o'.session.franchise = o.session.franchise ∧
      o'.session.permissions = o.session.permissions ∧ o'.session.chance = o.session.chance := by
  refine ⟨same.exists_startBallot hs ht h, fun o' k => ?_⟩
  obtain ⟨b, agree, permissions⟩ := same.startBallot hs ht h k
  rw [agree]
  exact ⟨rfl, rfl, rfl, rfl, permissions, rfl⟩

end

/-- The roof has passed, whatever took place on the floor. -/
def roofPassed (floor : List Call) : Session DrawScript StatusQuo :=
  proxyParishMeets.after ([.register [⟨⟨1⟩, "Ada"⟩, ⟨⟨2⟩, "Bede"⟩], .setUp, .startBallot ⟨1⟩] ++
    floor ++ [.endBallot true])

theorem reachable_roofPassed (floor : List Call) : Reachable (roofPassed floor) :=
  (Reachable.start start_proxyParish).after _

theorem startBallot_forgets_parish :
    let s := roofPassed [.castVote ⟨1⟩ .pass]
    let t := roofPassed [.declare ⟨2⟩ ⟨4⟩, .castVote ⟨2⟩ .fail, .closeDeclarations]
    s.SameStanding t ∧ s.floor ≠ t.floor ∧ s.permissions ≠ t.permissions ∧
      ∃ o o', s.perform (.startBallot ⟨1⟩) = .ok o ∧ t.perform (.startBallot ⟨1⟩) = .ok o' ∧
        o'.session.floor = o.session.floor ∧ o'.session.permissions = o.session.permissions := by
  intro s t
  have rulebook : t.rulebook = s.rulebook :=
    (rulebook_after _ _).trans (rulebook_after _ _).symm
  have answers : ∀ (a b : StatusQuo) requests e,
      (ReturningOfficer.assign a requests e).1 = (ReturningOfficer.assign b requests e).1 :=
    fun _ _ _ _ => rfl
  have same : s.SameStanding t :=
    ⟨rulebook, by decide +kernel, by decide +kernel, by decide +kernel, by decide +kernel,
      by decide +kernel, by decide +kernel, by decide +kernel, by decide +kernel,
      by decide +kernel, by decide +kernel, by decide +kernel, answers t.officer s.officer⟩
  obtain ⟨o, opened⟩ := (reachable_roofPassed [.castVote ⟨1⟩ .pass]).exists_perform inferInstance
    (show s.InOrder (.startBallot ⟨1⟩) by decide +kernel) ⟨by decide +kernel, by decide +kernel⟩
  obtain ⟨reopens, agree⟩ :=
    startBallot_forgets (reachable_roofPassed _) (reachable_roofPassed _) same opened
  obtain ⟨o', reopened⟩ := reopens (by decide +kernel) (by decide +kernel)
  obtain ⟨-, floor, -, -, permissions, -⟩ := agree o' reopened
  exact ⟨same, by decide +kernel, by decide +kernel, o, o', opened, reopened, floor, permissions⟩

end Parliament.Session
