import Parliament.Proofs.Session.Isolation
import Parliament.Proofs.Session.Signals

/-! # The first ballot holds back

Balances and active procedures carry over from ballot to ballot. When the first ballot starts,
effects on them are held back, and nothing else is. To see that nothing else is, the start runs
beside one that holds nothing back. Behind every effect the two sessions differ in what carries
over, and no other effect notices that.
-/

namespace Parliament

namespace SignalKind

/-- Signals of this kind tell of what carries over. -/
def isOfCarryOver : SignalKind → Bool
  | currenciesModified | proceduresModified => true
  | _ => false

end SignalKind

theorem Changes.filter_news (c : Changes) (h : House) :
    (c.news h).filter (fun x => !x.kind.isOfCarryOver) = [] := by
  obtain ⟨permissions, currencies, procedures⟩ := c
  cases currencies <;> cases procedures <;> rfl

namespace Session

variable {γ α : Type}

/-! ## What carries over -/

structure CarryOver where
  balances : IdMap Int8
  activeProcedures : IdSet
  ballotsStarted : UInt32

/-- The session with this carried over instead. -/
def carrying (s : Session γ α) (k : CarryOver) : Session γ α :=
  { s with
    house := { s.house with balances := k.balances, activeProcedures := k.activeProcedures }
    ballotsStarted := k.ballotsStarted }

variable {s t u : Session γ α} {c d : Changes} {e : ProcedureEffect}

theorem unnoticed_carrying (k : CarryOver) : Unnoticed fun s : Session γ α => s.carrying k := by
  refine ⟨?_, ?_, ?_, ?_, ?_, ?_, ?_, ?_⟩
  case refine_7 => rintro s ⟨⟩ o <;> rfl
  all_goals intros; rfl

section

variable [Chance γ] {procedure : Ident}

theorem applyProcedureEffect_first (s : Session γ α) (c : Changes) (procedure : Ident)
    (e : ProcedureEffect) :
    applyProcedureEffect (.ballotStart true) s c procedure e =
      if e.kind.carriesOver then .ok (s, c)
      else applyProcedureEffect (.ballotStart false) s c procedure e := by
  unfold applyProcedureEffect
  cases e.kind <;> rfl

omit [Chance γ] in
theorem adjustBalances_carrying {delta : Int8} {currencies : List Ident}
    (h : s.adjustBalances delta currencies c = .ok (t, d)) :
    ∃ k, t = s.carrying k ∧ d.permissions = c.permissions := by
  obtain ⟨house, adjusted, h⟩ := bind_eq_ok.1 h
  obtain ⟨m, rfl, -⟩ := House.adjustBalances_eq_ok adjusted
  obtain ⟨rfl, rfl⟩ := Prod.mk.inj (pure_eq_ok.1 h)
  exact ⟨⟨m, s.house.activeProcedures, s.ballotsStarted⟩, rfl, rfl⟩

theorem exists_carrying (h : s.Grounded) {kind : ProcedureKind}
    (covers : s.rulebook.CoversProcedureEffect kind e) (lasting : e.kind.carriesOver = true)
    (scope : Scope) (free : scope.holdsBack = false) (c : Changes) (procedure : Ident) :
    ∃ k d, applyProcedureEffect scope s c procedure e = .ok (s.carrying k, d) ∧
      d.permissions = c.permissions := by
  have passes : ¬ scope.holdsBack = true := by simp [free]
  rcases @applyProcedureEffect_lasting γ α _ e lasting scope procedure with
    ⟨currency, eq⟩ | ⟨-, eq⟩ | ⟨-, eq⟩ <;> rw [eq, if_neg passes]
  · obtain ⟨l, payees, listed⟩ :=
      exists_effectPayees h.covered.currencies scope (covers.payees currency)
    obtain ⟨⟨t, d⟩, adjusted⟩ := exists_adjustBalances h e.delta c listed
    obtain ⟨k, rfl, same⟩ := adjustBalances_carrying adjusted
    exact ⟨k, d, bind_eq_ok.2 ⟨l, payees, adjusted⟩, same⟩
  all_goals exact ⟨⟨s.house.balances, _, s.ballotsStarted⟩, _, rfl, rfl⟩

/-! ## Two starts side by side -/

/-- How far a start that holds back has come, beside one that does not: they differ in what carries
over, which the first has left as it was. -/
structure Abreast (s : Session γ α) (p q : Session γ α × Changes) : Prop where
  rulebook : p.1.rulebook = s.rulebook
  held : p.1.house = s.house
  quiet : p.2.currencies = false ∧ p.2.procedures = false
  differ : ∃ k, q.1 = p.1.carrying k
  permissions : q.2.permissions = p.2.permissions
  grounded : q.1.Grounded

theorem Abreast.step {p p' q : Session γ α × Changes} (abreast : Abreast s p q)
    {kind : ProcedureKind} (covers : s.rulebook.CoversProcedureEffect kind e)
    (h : applyProcedureEffect (.ballotStart true) p.1 p.2 procedure e = .ok p') :
    ∃ q', applyProcedureEffect (.ballotStart false) q.1 q.2 procedure e = .ok q' ∧
      Abreast s p' q' := by
  obtain ⟨k, differ⟩ := abreast.differ
  have grounded := abreast.grounded
  rw [applyProcedureEffect_first] at h
  cases lasting : e.kind.carriesOver with
  | true =>
    -- On the first ballot nothing happens, and on the other only what carries over changes.
    rw [lasting, if_pos rfl] at h
    obtain rfl := Except.ok.inj h
    have book : q.1.rulebook = s.rulebook := by
      rw [differ]
      exact abreast.rulebook
    obtain ⟨k', d, applied, same⟩ :=
      exists_carrying grounded (book ▸ covers) lasting (.ballotStart false) rfl q.2 procedure
    refine ⟨_, applied, abreast.rulebook, abreast.held, abreast.quiet, ⟨k', ?_⟩,
      same.trans abreast.permissions, ?_⟩
    · rw [differ]
      rfl
    · exact Bundle.grounded (.single (applyProcedureEffect_step applied)) grounded
  | false =>
    -- On both ballots the same happens, as the effect does not look at what carries over.
    rw [lasting, if_neg Bool.false_ne_true] at h
    obtain ⟨house, currencies, procedures⟩ := applyProcedureEffect_plain lasting h
    obtain ⟨d, applied, same⟩ := (unnoticed_carrying k).applyProcedureEffect lasting h q.2
    rw [← differ] at applied
    have bundle : Bundle (.ballotStart false) p p' := .single (applyProcedureEffect_step h)
    refine ⟨_, applied, bundle.rulebook_eq.trans abreast.rulebook, house.trans abreast.held, ?_,
      ⟨k, rfl⟩, same abreast.permissions, ?_⟩
    · rw [currencies, procedures]
      exact abreast.quiet
    · exact Bundle.grounded (.single (applyProcedureEffect_step applied)) grounded

theorem Abreast.effects {p p' q : Session γ α × Changes} (abreast : Abreast s p q)
    {effects : List (Ident × ProcedureEffect)}
    (covers : ∀ e ∈ effects, ∃ kind, s.rulebook.CoversProcedureEffect kind e.2)
    (h : p.1.applyProcedureEffects p.2 (.ballotStart true) effects = .ok p') :
    ∃ q', q.1.applyProcedureEffects q.2 (.ballotStart false) effects = .ok q' ∧
      Abreast s p' q' := by
  unfold applyProcedureEffects at h ⊢
  refine foldlM_related (R := Abreast s) (fun e he p q p' abreast applied => ?_) abreast h
  obtain ⟨kind, covers⟩ := covers e he
  exact abreast.step covers applied

omit [Chance γ] in
theorem Settling.carrying [ReturningOfficer α] {signals : List Signal}
    (h : Settling s c u signals)
    (quiet : c.currencies = false ∧ c.procedures = false) (same : d.permissions = c.permissions)
    (k : CarryOver) :
    ∃ signals', Settling (Session.carrying s k) d (Session.carrying u k) signals' ∧
      signals'.filter (fun x => !x.kind.isOfCarryOver) = signals := by
  have silent : c.news s.house = [] := by simp [Changes.news, quiet]
  have filtered := d.filter_news (Session.carrying s k).house
  cases h with
  | quiet due kept =>
    refine ⟨_, .quiet due (same.trans kept), ?_⟩
    rw [silent, filtered]
  | amended due touched p hp =>
    refine ⟨_, .amended (s := Session.carrying s k) due (same.trans touched) p hp, ?_⟩
    rw [silent, List.filter_cons_of_pos rfl, filtered]
  | voted due p hp =>
    refine ⟨_, .voted (s := Session.carrying s k) due p hp, ?_⟩
    rw [silent, List.filter_cons_of_pos rfl, List.filter_cons_of_pos rfl,
      List.filter_cons_of_pos rfl, filtered]
    rfl

theorem Grounded.exists_abreast (h : s.Grounded) {started : UInt32} {id : Ident}
    (effects : (s.clearFloor started id).applyProcedureEffects s.leftovers (.ballotStart true)
      (effectsOf (s.proceduresFor id)) = .ok (t, c)) (m : UInt32) :
    ∃ q, (s.clearFloor m id).applyProcedureEffects s.leftovers (.ballotStart false)
        (effectsOf (s.proceduresFor id)) = .ok q ∧ Abreast (s.clearFloor started id) (t, c) q := by
  have begun : Abreast (s.clearFloor started id) (s.clearFloor started id, s.leftovers)
      (s.clearFloor m id, s.leftovers) :=
    ⟨rfl, rfl, ⟨rfl, rfl⟩, ⟨⟨s.house.balances, s.house.activeProcedures, m⟩, rfl⟩, rfl,
      h.clearFloor m id⟩
  exact begun.effects (h.covers_startBallot id) effects

variable [ReturningOfficer α]

/-- The start of the first ballot leaves alone what carries over, and sends no news of it. In all
else it does what it would if ballots had been counted before: floor, amendments, permissions,
seats, elections and chance come out the same. -/
theorem first_ballot_holds_back (h : Reachable s) (first : s.ballotsStarted = 0) {id : Ident}
    {o : Outcome γ α Reply} (opened : s.perform (.startBallot id) = .ok o) :
    o.session.house.balances = s.house.balances ∧
    o.session.house.activeProcedures = s.house.activeProcedures ∧
    (∀ x ∈ o.signals, x.kind ≠ .currenciesModified ∧ x.kind ≠ .proceduresModified) ∧
    ∀ n : UInt32, n ≠ 0 → n.toNat + 1 < 2 ^ 32 →
      ∃ o' k, { s with ballotsStarted := n }.perform (.startBallot id) = .ok o' ∧
        o'.session = o.session.carrying k ∧
        o'.signals.filter (fun x => !x.kind.isOfCarryOver) = o.signals := by
  have grounded := h.orderly.toGrounded
  cases performed_startBallot opened with
  | @startBallot _ next started t u c signals phase awaited listed counted effects settling =>
    rw [first] at effects
    -- Beside this start runs another with a later count. They differ in what carries over.
    have beside := grounded.exists_abreast effects
    obtain ⟨q, -, abreast⟩ := beside started
    have house : u.house.balances = t.house.balances ∧
        u.house.activeProcedures = t.house.activeProcedures := by
      obtain ⟨_, _, _, _, rfl⟩ := settling.eq_with
      exact ⟨rfl, rfl⟩
    refine ⟨?_, ?_, fun x told => ?_, fun n later room => ?_⟩
    · rw [house.1, show t.house = _ from abreast.held]
      rfl
    · rw [house.2, show t.house = _ from abreast.held]
      rfl
    · obtain ⟨_, -, filtered⟩ := settling.carrying abreast.quiet rfl ⟨.empty, .empty, 0⟩
      rw [← filtered] at told
      have plain := List.of_mem_filter told
      constructor <;> rintro is <;> simp [is, SignalKind.isOfCarryOver] at plain
    · obtain ⟨m, counted', -⟩ := Count.exists_add (a := n) (b := 1) room
      obtain ⟨⟨v, d⟩, effects', abreast⟩ := beside m
      obtain ⟨k, rfl⟩ : ∃ k, v = t.carrying k := abreast.differ
      obtain ⟨signals', settling', filtered⟩ :=
        settling.carrying abreast.quiet abreast.permissions k
      -- A ballot that is not the first holds nothing back.
      have counting : (n == 0) = false := by simpa using later
      rw [← counting] at effects'
      have awaits : Awaits { s with ballotsStarted := n } id := by
        rcases awaited with rfl | rfl
        · exact .inl phase
        · exact .inr phase
      have opened' := startBallot_eq_ok awaits listed counted' effects'
        (settle_of_settling settling')
      exact ⟨_, k, bind_eq_ok.2 ⟨_, opened', rfl⟩, rfl, filtered⟩

end

theorem first_ballot_holds_back_hustings :
    let s := clerkSits.after hustingsBegin
    s.ballotsStarted = 0 ∧ ∃ o o' k, s.perform (.startBallot ⟨1⟩) = .ok o ∧
      { s with ballotsStarted := 3 }.perform (.startBallot ⟨1⟩) = .ok o' ∧
      o.session.house.balances = s.house.balances ∧
      o'.session.house.balances ≠ s.house.balances ∧
      o.signals.map Signal.kind =
        [.electionPreparing, .electionCompleted, .permissionsUpdated] ∧
      o'.session = o.session.carrying k := by
  intro s
  have kinds : (s.perform (.startBallot ⟨1⟩)).map (fun o => o.signals.map Signal.kind) =
      .ok [.electionPreparing, .electionCompleted, .permissionsUpdated] := by decide +kernel
  have paid : ({ s with ballotsStarted := 3 }.perform (.startBallot ⟨1⟩)).map
      (fun o : Outcome _ _ _ => decide (o.session.house.balances = s.house.balances)) =
        .ok false := by
    decide +kernel
  have begun : s.ballotsStarted = 0 := by decide +kernel
  obtain ⟨o, opened, kinds⟩ := map_eq_ok.1 kinds
  obtain ⟨o', opened', paid⟩ := map_eq_ok.1 paid
  obtain ⟨balances, -, -, beside⟩ :=
    first_ballot_holds_back (reachable_clerkSits.after hustingsBegin) begun opened
  obtain ⟨o'', k, same, carrying, -⟩ := beside 3 (by decide) (by decide)
  rw [opened'] at same
  obtain rfl := Except.ok.inj same
  exact ⟨begun, o, o', k, opened, opened', balances, of_decide_eq_false paid, kinds, carrying⟩

end Session

end Parliament
