import Parliament.Proofs.Session.Course
import Parliament.Proofs.Session.Effects
import Parliament.Proofs.Session.Limits

/-! # Sessions keep to the book

Whatever is called and whoever is elected, a session refers to nothing that its rule book does not
list. Effects name procedures and parties themselves, so this rests on what the book may aim an
effect at; the rest of the session takes names from the book or from elsewhere in the session.
-/

namespace Parliament

namespace Rulebook

variable {r : Rulebook} {id : Ident}

theorem listsTargeted_of_startsActive {p : Procedure} (listed : p ∈ r.procedures)
    (active : p.kind.startsActive = true) : r.ListsTargeted p.id := by
  refine ⟨p, listed, rfl, ?_⟩
  cases kind : p.kind <;> simp [kind, ProcedureKind.startsActive] at active
  rfl

theorem listsBallot_of_ballot? (h : (r.ballot? id).isSome = true) : r.ListsBallot id := by
  obtain ⟨b, found⟩ := Option.isSome_iff_exists.1 h
  exact ⟨b, mem_of_ballot? found, by simpa using List.find?_some found⟩

end Rulebook

/-! ## What is active -/

/-- Nothing is active but targeted procedures and parties of the book and the regions that it makes
active. -/
structure House.Confined (r : Rulebook) (h : House) : Prop where
  procedures : ∀ id ∈ h.activeProcedures, r.ListsTargeted id
  parties : ∀ id ∈ h.activeParties, r.ListsParty id
  regions : h.activeRegions = Rulebook.activeFactions r.regions

namespace House

variable {r : Rulebook} {h h' : House} {l : List Ident}

theorem confined_ofRulebook (r : Rulebook) : (ofRulebook r).Confined r := by
  refine ⟨fun id there => ?_, fun id there => ?_, rfl⟩
  · obtain ⟨p, chosen, rfl⟩ := List.mem_map.1 (IdSet.mem_ofList.1 there)
    obtain ⟨listed, active⟩ := List.mem_filter.1 chosen
    exact Rulebook.listsTargeted_of_startsActive listed active
  · obtain ⟨d, chosen, rfl⟩ := List.mem_map.1 (IdSet.mem_ofList.1 there)
    exact ⟨d, (List.mem_filter.1 chosen).1, rfl⟩

theorem Confined.activate (k : h.Confined r) (listed : ∀ id ∈ l, r.ListsTargeted id) :
    (h.activate l).Confined r := by
  refine ⟨fun id there => ?_, k.parties, k.regions⟩
  rcases IdSet.mem_insertAll.1 there with new | old
  · exact listed id new
  · exact k.procedures id old

theorem Confined.deactivate (k : h.Confined r) (l : List Ident) : (h.deactivate l).Confined r :=
  ⟨fun id there => k.procedures id (IdSet.mem_eraseAll.1 there).2, k.parties, k.regions⟩

theorem Confined.replaceProcedure (k : h.Confined r) (listed : ∀ id ∈ l, r.ListsTargeted id)
    (replaced : h.replaceProcedure l = .ok h') : h'.Confined r := by
  unfold House.replaceProcedure at replaced
  split at replaced
  next old new rest =>
    obtain rfl := Except.ok.inj replaced
    refine (k.deactivate [old]).activate fun id there => ?_
    obtain rfl := List.mem_singleton.1 there
    exact listed id (by simp)
  next => simp at replaced

end House

theorem Docket.Step.listed {r : Rulebook} {d e : Docket} {P : Ident → Prop} (h : Step r d e)
    (live : ∀ id ∈ d.phase.live?, P id) (k : ∀ a ∈ d.history, P a.ballot) :
    ∀ a ∈ e.history, P a.ballot := by
  cases h with
  | finish a phase =>
    intro b there
    rcases List.mem_append.1 there with old | new
    · exact k b old
    · rw [List.mem_singleton.1 new]
      exact live a.ballot (by rw [phase]; rfl)
  | _ => exact k

namespace Session

variable {γ α : Type}

/-! ## Effects -/

section

variable {r : Rulebook} {s t : Session γ α} {c d : Changes}

theorem adjustBalances_confined {delta : Int8} {currencies : List Ident}
    (k : s.house.Confined r) (h : s.adjustBalances delta currencies c = .ok (t, d)) :
    t.house.Confined r := by
  obtain ⟨house, adjusted, h⟩ := bind_eq_ok.1 h
  obtain ⟨m, rfl, -⟩ := House.adjustBalances_eq_ok adjusted
  obtain ⟨rfl, -⟩ := Prod.mk.inj (pure_eq_ok.1 h)
  exact ⟨k.procedures, k.parties, k.regions⟩

theorem applyProcedureEffect_confined [Chance γ] {scope : Scope} {kind : ProcedureKind}
    {id : Ident} {e : ProcedureEffect} (covers : r.CoversProcedureEffect kind e)
    (k : s.house.Confined r) (h : applyProcedureEffect scope s c id e = .ok (t, d)) :
    t.house.Confined r := by
  cases lasting : e.kind.carriesOver with
  | false =>
    obtain ⟨house, -, -⟩ := applyProcedureEffect_plain lasting h
    rw [house]
    exact k
  | true =>
    rcases @applyProcedureEffect_lasting γ α _ e lasting scope id with
      ⟨-, eq⟩ | ⟨is, eq⟩ | ⟨-, eq⟩ <;> rw [eq] at h <;> split at h
    next =>
      obtain ⟨rfl, -⟩ := Prod.mk.inj (Except.ok.inj h)
      exact k
    next =>
      obtain ⟨currencies, -, h⟩ := bind_eq_ok.1 h
      exact adjustBalances_confined k h
    all_goals obtain ⟨rfl, -⟩ := Prod.mk.inj (Except.ok.inj h)
    · exact k
    · exact k.activate (covers.procedures (.inl is))
    · exact k
    · exact k.deactivate e.targets

theorem applyBallotEffect_confined {e : BallotEffect} (covers : r.CoversBallotEffect e)
    (k : s.house.Confined r) (h : applyBallotEffect s c e = .ok (t, d)) :
    t.house.Confined r := by
  unfold applyBallotEffect at h
  split at h
  case h_1 is =>
    obtain ⟨rfl, -⟩ := Prod.mk.inj (Except.ok.inj h)
    refine ⟨k.procedures, fun id there => ?_, k.regions⟩
    rcases IdSet.mem_insertAll.1 there with new | old
    · exact covers.parties (.inl is) id new
    · exact k.parties id old
  case h_2 =>
    obtain ⟨rfl, -⟩ := Prod.mk.inj (Except.ok.inj h)
    refine ⟨k.procedures, fun id there => ?_, k.regions⟩
    exact k.parties id (IdSet.mem_eraseAll.1 there).2
  case h_3 is =>
    obtain ⟨rfl, -⟩ := Prod.mk.inj (Except.ok.inj h)
    exact k.activate (covers.procedures (.inl is))
  case h_4 =>
    obtain ⟨rfl, -⟩ := Prod.mk.inj (Except.ok.inj h)
    exact k.deactivate e.targets
  case h_5 is =>
    obtain ⟨house, replaced, h⟩ := bind_eq_ok.1 h
    obtain ⟨rfl, -⟩ := Prod.mk.inj (pure_eq_ok.1 h)
    exact k.replaceProcedure (covers.procedures (.inr (.inr is))) replaced
  case h_6 =>
    obtain ⟨currencies, -, h⟩ := bind_eq_ok.1 h
    exact adjustBalances_confined k h

theorem applyProcedureEffects_confined [Chance γ] {scope : Scope}
    {effects : List (Ident × ProcedureEffect)}
    (covers : ∀ e ∈ effects, ∃ kind, r.CoversProcedureEffect kind e.2) (k : s.house.Confined r)
    (h : s.applyProcedureEffects c scope effects = .ok (t, d)) : t.house.Confined r := by
  refine foldlM_keeps (P := fun p : Session γ α × Changes => p.1.house.Confined r) ?_ k h
  intro e he p q k applied
  obtain ⟨kind, covers⟩ := covers e he
  exact applyProcedureEffect_confined covers k applied

theorem applyBallotEffects_confined {effects : List BallotEffect}
    (covers : ∀ e ∈ effects, r.CoversBallotEffect e) (k : s.house.Confined r)
    (h : s.applyBallotEffects c effects = .ok (t, d)) : t.house.Confined r := by
  refine foldlM_keeps (P := fun p : Session γ α × Changes => p.1.house.Confined r) ?_ k h
  intro e he p q k applied
  exact applyBallotEffect_confined (covers e he) k applied

theorem Settling.confined [ReturningOfficer α] {signals : List Signal}
    (h : Settling s c t signals) (k : s.house.Confined r) : t.house.Confined r := by
  obtain ⟨_, _, _, _, rfl⟩ := h.eq_with
  exact ⟨k.procedures, k.parties, k.regions⟩

end

theorem EffectStep.standing_eq {scope : Scope} {p q : Session γ α × Changes}
    (h : EffectStep scope p q) (late : scope ≠ .setup) :
    q.1.standingOverrides = p.1.standingOverrides := by
  cases h with
  | amend =>
    cases scope with
    | setup => exact absurd rfl late
    | _ => rfl
  | _ => rfl

theorem Bundle.standing_eq {scope : Scope} {p q : Session γ α × Changes}
    (h : Bundle scope p q) (late : scope ≠ .setup) :
    q.1.standingOverrides = p.1.standingOverrides := by
  induction h with
  | refl => rfl
  | tail _ step ih => rw [step.standing_eq late, ih]

theorem Settling.standing_eq [ReturningOfficer α] {s t : Session γ α} {c : Changes}
    {signals : List Signal} (h : Settling s c t signals) :
    t.standingOverrides = s.standingOverrides := by
  obtain ⟨_, _, _, _, rfl⟩ := h.eq_with
  rfl

/-! ## Calls -/

section

variable [Chance γ] [ReturningOfficer α] {s : Session γ α} {c : Call} {o : Outcome γ α Reply}

theorem Performed.confined (h : Performed s c o) (orderly : s.Orderly)
    (k : s.house.Confined s.rulebook) : o.session.house.Confined s.rulebook := by
  have grounded := orderly.toGrounded
  cases h with
  | register => exact ⟨k.procedures, k.parties, k.regions⟩
  | refuse | castVote | refuseVote | closeDeclarations | turnDown => exact k
  | setUp _ effects settling =>
    exact settling.confined (applyProcedureEffects_confined grounded.covers_setUp k effects)
  | @startBallot id _ started _ _ _ _ _ _ _ _ effects settling =>
    have cleared : (s.clearFloor started id).house.Confined s.rulebook :=
      ⟨k.procedures, k.parties, k.regions⟩
    exact settling.confined
      (applyProcedureEffects_confined (grounded.covers_startBallot id) cleared effects)
  | miss _ _ settling => exact settling.confined ⟨k.procedures, k.parties, k.regions⟩
  | @declare _ _ p paid _ _ _ _ tried _ effects settling =>
    obtain ⟨_, _, _, _, _, proposal, -⟩ := tried
    have paying : ((s.paidBy paid).listing p).house.Confined s.rulebook :=
      ⟨k.procedures, k.parties, k.regions⟩
    have covers := grounded.covers_carryOut (Rulebook.mem_of_procedure? proposal.listed)
    exact settling.confined (applyProcedureEffects_confined covers paying effects)
  | @endBallot passed _ _ _ _ _ _ _ _ _ _ listed effects _ settling =>
    have covers := grounded.covered.consequence listed passed
    have k := applyBallotEffects_confined covers.effects k effects
    have k := settling.confined (r := s.rulebook) ⟨k.procedures, k.parties, k.regions⟩
    exact ⟨k.procedures, k.parties, k.regions⟩

theorem Reachable.confined (h : Reachable s) : s.house.Confined s.rulebook := by
  induction h with
  | start hs =>
    obtain ⟨-, rfl⟩ := start_eq_ok hs
    exact House.confined_ofRulebook _
  | perform reached performed ih =>
    have step := performed_of_perform performed
    rw [step.rulebook_eq]
    exact step.confined reached.orderly ih

/-! ## Ballots on record -/

theorem Reachable.history_listed (h : Reachable s) :
    ∀ a ∈ s.history, s.rulebook.ListsBallot a.ballot := by
  induction h with
  | start hs =>
    obtain ⟨-, rfl⟩ := start_eq_ok hs
    intro a there
    cases there
  | @perform s c o reached performed ih =>
    have step := performed_of_perform performed
    rw [step.rulebook_eq]
    refine step.docket_step.listed (fun id live => ?_) ih
    obtain ⟨stage, phase⟩ := Phase.live?_eq_some_iff.1 live
    exact Rulebook.listsBallot_of_ballot? (reached.orderly.listed id stage phase)

/-! ## Standing amendments -/

theorem Performed.standing_eq (h : Performed s c o) (past : s.PastSetup) :
    o.session.standingOverrides = s.standingOverrides := by
  cases h with
  | setUp phase => exact absurd phase past.2
  | startBallot _ _ _ _ effects settling =>
    have bundle := applyProcedureEffects_bundle effects
    exact settling.standing_eq.trans (bundle.standing_eq (by simp))
  | miss _ _ settling => exact settling.standing_eq
  | declare _ _ effects settling =>
    exact settling.standing_eq.trans ((carryOut_bundle effects).standing_eq (by simp))
  | endBallot _ _ effects _ settling =>
    have bundle := applyBallotEffects_bundle (.ballotStart false) effects
    exact settling.standing_eq.trans (bundle.standing_eq (by simp))
  | _ => rfl

theorem standing_eq_of_sit {t : Session γ α} {calls : List Call} {minutes : List Minute}
    (past : s.PastSetup) (sat : s.sit calls = .ok (t, minutes)) :
    t.standingOverrides = s.standingOverrides := by
  have kept : t.PastSetup ∧ t.standingOverrides = s.standingOverrides := by
    refine sit_induction (P := fun _ u _ => u.PastSetup ∧
      u.standingOverrides = s.standingOverrides) ⟨past, rfl⟩ ?_ sat
    rintro calls u minutes c o _ ⟨past, same⟩ performed
    have step := performed_of_perform performed
    exact ⟨step.pastSetup past.1, (step.standing_eq past).trans same⟩
  exact kept.2

/-! ## The whole session -/

/-- Whatever the session refers to is in its rule book. -/
structure KeepsToBook (s : Session γ α) : Prop where
  balances : ∀ id, s.house.balances.contains id = true ↔ s.rulebook.ListsCurrency id
  procedures : ∀ id ∈ s.house.activeProcedures, s.rulebook.ListsTargeted id
  parties : ∀ id ∈ s.house.activeParties, s.rulebook.ListsParty id
  regions : s.house.activeRegions = Rulebook.activeFactions s.rulebook.regions
  passed : ∀ id ∈ s.house.passedBallots, s.rulebook.ListsBallot id
  history : ∀ a ∈ s.history, s.rulebook.ListsBallot a.ballot
  purses : ∀ person currency, s.ownedCurrency person = some currency →
    s.house.balances.contains currency = true

/-- However long the sitting, a session keeps to the book that it began with, and behind setup the
standing amendments stand. -/
theorem Reachable.keeps_to_book (h : Reachable s) :
    s.KeepsToBook ∧ ∀ calls t minutes, s.sit calls = .ok (t, minutes) →
      t.rulebook = s.rulebook ∧
      (s.PastSetup → t.standingOverrides = s.standingOverrides) := by
  have grounded := h.orderly.toGrounded
  have confined := h.confined
  have history := h.history_listed
  refine ⟨⟨fun id => ?_, confined.procedures, confined.parties, confined.regions,
    fun id passed => ?_, history, fun person currency owned => ?_⟩, fun calls t minutes sat => ?_⟩
  · rw [grounded.balances]
    exact Rulebook.contains_initialBalances
  · obtain ⟨a, there, rfl, -⟩ := (h.kept.passed id).1 passed
    exact history a there
  · exact grounded.purse (listsCurrency_of_owned owned)
  · exact ⟨rulebook_eq_of_sit sat, fun past => standing_eq_of_sit past sat⟩

end

theorem keeps_to_book_parish :
    let s := parishMeets.after parishEvening
    s.PastSetup ∧ s.KeepsToBook ∧ ⟨1⟩ ∈ s.house.activeParties ∧ s.standingOverrides ≠ [] ∧
      ∃ t minutes, s.sit [.closeDeclarations, .endBallot false] = .ok (t, minutes) ∧
        t.standingOverrides = s.standingOverrides := by
  intro s
  have past : s.PastSetup := by decide +kernel
  obtain ⟨minutes, sat⟩ : ∃ minutes, s.sit [.closeDeclarations, .endBallot false] =
      .ok (s.after [.closeDeclarations, .endBallot false], minutes) :=
    exists_sit_after s _ (by decide +kernel)
  obtain ⟨keeps, on⟩ := (reachable_parishMeets.after parishEvening).keeps_to_book
  refine ⟨past, keeps, ?_, by decide +kernel, _, minutes, sat, (on _ _ _ sat).2 past⟩
  rw [IdSet.mem_iff]
  decide +kernel

end Session

end Parliament
