import Parliament.Proofs.Success
import Parliament.Proofs.Tables
import Parliament.Session.Calls

/-! # Bundles of effects

Whatever its kind, an effect changes a session in one of a few ways. A bundle of effects is a path
of such steps, so a property that each of the steps keeps holds behind the bundle.
-/

namespace Parliament

/-! ## Balances and counts -/

namespace House

theorem adjustBalance_eq_ok {delta : Int8} {h h' : House} {currency : Ident}
    (hk : adjustBalance delta h currency = .ok h') :
    ∃ b, h.balances.get? currency = some b ∧
      h' = { h with balances := h.balances.insert currency (Balance.add b delta) } := by
  unfold adjustBalance at hk
  split at hk
  next b hb =>
    rw [Except.ok.injEq] at hk
    exact ⟨b, hb, hk.symm⟩
  next => simp at hk

theorem adjustBalances_eq_ok {delta : Int8} {currencies : List Ident} {h h' : House}
    (hk : h.adjustBalances delta currencies = .ok h') :
    ∃ m, h' = { h with balances := m } ∧
      (∀ id, m.contains id = h.balances.contains id) ∧
      (currencies = [] → m = h.balances) := by
  unfold adjustBalances at hk
  induction currencies generalizing h with
  | nil =>
    rw [List.foldlM_nil, pure_eq_ok] at hk
    exact ⟨h.balances, hk.symm, fun _ => rfl, fun _ => rfl⟩
  | cons currency currencies ih =>
    rw [List.foldlM_cons, bind_eq_ok] at hk
    obtain ⟨h₁, hk₁, hk₂⟩ := hk
    obtain ⟨b, hb, rfl⟩ := adjustBalance_eq_ok hk₁
    obtain ⟨m, rfl, keys, -⟩ := ih hk₂
    refine ⟨m, rfl, fun id => ?_, by simp⟩
    rw [keys id, IdMap.contains_insert_of_get? hb]

theorem replaceProcedure_eq_ok {targets : List Ident} {h h' : House}
    (hk : h.replaceProcedure targets = .ok h') :
    ∃ active, h' = { h with activeProcedures := active } := by
  unfold replaceProcedure at hk
  split at hk
  next =>
    rw [Except.ok.injEq] at hk
    exact ⟨_, hk.symm⟩
  next => simp at hk

end House

theorem ProcedureEffect.voters_addTo {e : ProcedureEffect} {t t' : Tally}
    (h : e.addTo t = .ok t') : t'.passVoters = t.passVoters ∧ t'.failVoters = t.failVoters := by
  unfold addTo at h
  split at h
  case h_1 =>
    obtain ⟨n, -, hn⟩ := bind_eq_ok.1 h
    rw [← pure_eq_ok.1 hn]
    exact ⟨rfl, rfl⟩
  case h_2 =>
    obtain ⟨n, -, hn⟩ := bind_eq_ok.1 h
    rw [← pure_eq_ok.1 hn]
    exact ⟨rfl, rfl⟩
  all_goals
    rw [Except.ok.injEq] at h
    rw [← h]
    exact ⟨rfl, rfl⟩

namespace Session

variable {γ α : Type}

/-! ## Steps -/

/-- What one effect may do to a session and to the note of what was touched. -/
inductive EffectStep (scope : Scope) : Session γ α × Changes → Session γ α × Changes → Prop
  /-- The effect is held back, or it falls to nobody. -/
  | idle (s : Session γ α) (c : Changes) : EffectStep scope (s, c) (s, c)
  | request (s : Session γ α) (c : Changes) (r : ElectionRequest) :
    EffectStep scope (s, c) (s.addRequest r, c)
  | amend (s : Session γ α) (c : Changes) (o : Override) (chance : γ) :
    EffectStep scope (s, c)
      ({ s with chance := chance }.addOverride scope o, { c with permissions := true })
  | count (s : Session γ α) (c : Changes) (t : Tally)
    (pass : t.passVoters = s.floor.tally.passVoters)
    (fail : t.failVoters = s.floor.tally.failVoters) :
    EffectStep scope (s, c) ({ s with floor := { s.floor with tally := t } }, c)
  | adjust (s : Session γ α) (c : Changes) (currencies : List Ident) (m : IdMap Int8)
    (keys : ∀ id, m.contains id = s.house.balances.contains id)
    (still : currencies = [] → m = s.house.balances) :
    EffectStep scope (s, c) ({ s with house := { s.house with balances := m } },
      { c with currencies := c.currencies || !currencies.isEmpty })
  | switch (s : Session γ α) (c : Changes) (active : IdSet) :
    EffectStep scope (s, c) ({ s with house := { s.house with activeProcedures := active } },
      { c with procedures := true })
  | limit (s : Session γ α) (c : Changes) (filters : List Ident) :
    EffectStep scope (s, c) (s.limitVote filters, { c with permissions := true })
  | regroup (s : Session γ α) (c : Changes) (parties : IdSet) (r : ElectionRequest) :
    EffectStep scope (s, c)
      ({ s with house := { s.house with activeParties := parties } }.addRequest r, c)

abbrev Bundle (scope : Scope) : Session γ α × Changes → Session γ α × Changes → Prop :=
  Relation.ReflTransGen (EffectStep scope)

theorem adjustBalances_step {scope : Scope} {s t : Session γ α} {c d : Changes} {delta : Int8}
    {currencies : List Ident} (h : s.adjustBalances delta currencies c = .ok (t, d)) :
    EffectStep scope (s, c) (t, d) := by
  obtain ⟨house, hh, h⟩ := bind_eq_ok.1 h
  obtain ⟨m, rfl, keys, still⟩ := House.adjustBalances_eq_ok hh
  rw [pure_eq_ok, Prod.mk.injEq] at h
  obtain ⟨rfl, rfl⟩ := h
  exact .adjust s c currencies m keys still

theorem drawPerson_eq_ok [Chance γ] {s t : Session γ α} {person : Option Ident}
    (h : s.drawPerson = .ok (person, t)) :
    ∃ chance, t = { s with chance := chance } ∧ (person = none → chance = s.chance) := by
  unfold drawPerson at h
  dsimp only at h
  split at h
  next =>
    rw [Except.ok.injEq, Prod.mk.injEq] at h
    obtain ⟨rfl, rfl⟩ := h
    exact ⟨s.chance, rfl, fun _ => rfl⟩
  next =>
    obtain ⟨⟨place, chance⟩, -, h⟩ := bind_eq_ok.1 h
    split at h
    next p hp =>
      rw [pure_eq_ok, Prod.mk.injEq] at h
      obtain ⟨rfl, rfl⟩ := h
      exact ⟨chance, rfl, by simp⟩
    next => simp at h

theorem amendPermissions_step [Chance γ] {scope : Scope} {s t : Session γ α} {c d : Changes}
    {targets : List Ident} {a : Amendment}
    (h : s.amendPermissions scope targets a c = .ok (t, d)) :
    EffectStep scope (s, c) (t, d) := by
  unfold amendPermissions at h
  split at h
  next =>
    obtain ⟨⟨person, u⟩, hu, h⟩ := bind_eq_ok.1 h
    obtain ⟨chance, rfl, still⟩ := drawPerson_eq_ok hu
    cases person with
    | none =>
      rw [pure_eq_ok, Prod.mk.injEq] at h
      obtain ⟨rfl, rfl⟩ := h
      rw [still rfl]
      exact .idle s c
    | some person =>
      rw [pure_eq_ok, Prod.mk.injEq] at h
      obtain ⟨rfl, rfl⟩ := h
      exact .amend s c ⟨.person person, a⟩ chance
  next =>
    rw [Except.ok.injEq, Prod.mk.injEq] at h
    obtain ⟨rfl, rfl⟩ := h
    exact .amend s c ⟨.roles targets, a⟩ s.chance

theorem applyProcedureEffect_step [Chance γ] {scope : Scope} {s t : Session γ α} {c d : Changes}
    {procedure : Ident} {e : ProcedureEffect}
    (h : applyProcedureEffect scope s c procedure e = .ok (t, d)) :
    EffectStep scope (s, c) (t, d) := by
  unfold applyProcedureEffect at h
  split at h
  case h_1 | h_2 | h_3 | h_4 =>
    split at h
    next r _ =>
      rw [Except.ok.injEq, Prod.mk.injEq] at h
      obtain ⟨rfl, rfl⟩ := h
      exact .request s c r
    next => simp at h
  case h_5 | h_6 | h_7 =>
    split at h
    next a _ => exact amendPermissions_step h
    next =>
      rw [Except.ok.injEq, Prod.mk.injEq] at h
      obtain ⟨rfl, rfl⟩ := h
      exact .idle s c
  case h_8 | h_9 | h_10 | h_11 | h_12 =>
    obtain ⟨tally, ht, h⟩ := bind_eq_ok.1 h
    rw [pure_eq_ok, Prod.mk.injEq] at h
    obtain ⟨rfl, rfl⟩ := h
    obtain ⟨pass, fail⟩ := e.voters_addTo ht
    exact .count s c tally pass fail
  case h_13 | h_14 =>
    split at h
    next =>
      rw [Except.ok.injEq, Prod.mk.injEq] at h
      obtain ⟨rfl, rfl⟩ := h
      exact .idle s c
    next =>
      obtain ⟨currencies, -, h⟩ := bind_eq_ok.1 h
      exact adjustBalances_step h
  case h_15 | h_16 =>
    split at h <;> rw [Except.ok.injEq, Prod.mk.injEq] at h <;> obtain ⟨rfl, rfl⟩ := h
    · exact .idle s c
    · exact .switch s c _
  case h_17 =>
    rw [Except.ok.injEq, Prod.mk.injEq] at h
    obtain ⟨rfl, rfl⟩ := h
    exact .limit s c e.targets

theorem applyBallotEffect_step {scope : Scope} {s t : Session γ α} {c d : Changes}
    {e : BallotEffect} (h : applyBallotEffect s c e = .ok (t, d)) :
    EffectStep scope (s, c) (t, d) := by
  unfold applyBallotEffect at h
  split at h
  case h_1 | h_2 =>
    rw [Except.ok.injEq, Prod.mk.injEq] at h
    obtain ⟨rfl, rfl⟩ := h
    exact .regroup s c _ e.shuffle
  case h_3 | h_4 =>
    rw [Except.ok.injEq] at h
    obtain ⟨rfl, rfl⟩ := h
    exact .switch s c _
  case h_5 =>
    obtain ⟨house, hh, h⟩ := bind_eq_ok.1 h
    obtain ⟨active, rfl⟩ := House.replaceProcedure_eq_ok hh
    rw [pure_eq_ok] at h
    obtain ⟨rfl, rfl⟩ := h
    exact .switch s c active
  case h_6 =>
    obtain ⟨currencies, -, h⟩ := bind_eq_ok.1 h
    exact adjustBalances_step h

theorem applyProcedureEffects_bundle [Chance γ] {scope : Scope} {s t : Session γ α}
    {c d : Changes} {effects : List (Ident × ProcedureEffect)}
    (h : s.applyProcedureEffects c scope effects = .ok (t, d)) :
    Bundle scope (s, c) (t, d) := by
  unfold applyProcedureEffects at h
  refine foldlM_path (R := EffectStep scope) ?_ h
  intro p e _ q hk
  exact applyProcedureEffect_step hk

theorem applyBallotEffects_bundle (scope : Scope) {s t : Session γ α} {c d : Changes}
    {effects : List BallotEffect} (h : s.applyBallotEffects c effects = .ok (t, d)) :
    Bundle scope (s, c) (t, d) := by
  unfold applyBallotEffects at h
  refine foldlM_path (R := EffectStep scope) ?_ h
  intro p e _ q hk
  exact applyBallotEffect_step hk

/-! ## What effects leave alone -/

/-- The part of a session that no effect touches. -/
structure Frame (α : Type) where
  rulebook : Rulebook
  roleTable : IdMap Permissions
  people : IdMap Person
  roles : IdMap IdSet
  affiliations : IdMap Affiliation
  activeRegions : IdSet
  passedBallots : IdSet
  currentBallot : Option Ident
  ballot : Ident
  declared : List Ident
  phase : Phase
  permissions : IdMap Permissions
  ballotsStarted : UInt32
  history : List BallotRecord
  officer : α

def frame (s : Session γ α) : Frame α where
  rulebook := s.rulebook
  roleTable := s.roleTable
  people := s.house.people
  roles := s.house.roles
  affiliations := s.house.affiliations
  activeRegions := s.house.activeRegions
  passedBallots := s.house.passedBallots
  currentBallot := s.house.currentBallot
  ballot := s.floor.ballot
  declared := s.floor.declared
  phase := s.phase
  permissions := s.permissions
  ballotsStarted := s.ballotsStarted
  history := s.history
  officer := s.officer

variable {scope : Scope} {p q : Session γ α × Changes}

theorem EffectStep.frame_eq (h : EffectStep scope p q) : q.1.frame = p.1.frame := by
  cases h with
  | amend s c o chance => cases scope <;> rfl
  | _ => rfl

theorem Bundle.frame_eq (h : Bundle scope p q) : q.1.frame = p.1.frame := by
  induction h with
  | refl => rfl
  | tail _ step ih => rw [step.frame_eq, ih]

theorem Bundle.rulebook_eq (h : Bundle scope p q) : q.1.rulebook = p.1.rulebook :=
  congrArg Frame.rulebook h.frame_eq

theorem Bundle.roleTable_eq (h : Bundle scope p q) : q.1.roleTable = p.1.roleTable :=
  congrArg Frame.roleTable h.frame_eq

theorem Bundle.people_eq (h : Bundle scope p q) : q.1.house.people = p.1.house.people :=
  congrArg Frame.people h.frame_eq

theorem Bundle.roles_eq (h : Bundle scope p q) : q.1.house.roles = p.1.house.roles :=
  congrArg Frame.roles h.frame_eq

theorem Bundle.affiliations_eq (h : Bundle scope p q) :
    q.1.house.affiliations = p.1.house.affiliations :=
  congrArg Frame.affiliations h.frame_eq

theorem Bundle.declared_eq (h : Bundle scope p q) :
    q.1.floor.declared = p.1.floor.declared :=
  congrArg Frame.declared h.frame_eq

theorem Bundle.phase_eq (h : Bundle scope p q) : q.1.phase = p.1.phase :=
  congrArg Frame.phase h.frame_eq

theorem Bundle.permissions_eq (h : Bundle scope p q) : q.1.permissions = p.1.permissions :=
  congrArg Frame.permissions h.frame_eq

theorem Bundle.history_eq (h : Bundle scope p q) : q.1.history = p.1.history :=
  congrArg Frame.history h.frame_eq

theorem Bundle.officer_eq (h : Bundle scope p q) : q.1.officer = p.1.officer :=
  congrArg Frame.officer h.frame_eq

/-! ## What is touched is noted -/

/-- The changes tell of all that was touched on the way, and what was noted before stays noted. -/
structure Noted (p q : Session γ α × Changes) : Prop where
  permissions : q.2.permissions = false → p.2.permissions = false ∧
    q.1.standingOverrides = p.1.standingOverrides ∧
    q.1.ballotOverrides = p.1.ballotOverrides ∧ q.1.franchise = p.1.franchise
  currencies : q.2.currencies = false →
    p.2.currencies = false ∧ q.1.house.balances = p.1.house.balances
  procedures : q.2.procedures = false →
    p.2.procedures = false ∧ q.1.house.activeProcedures = p.1.house.activeProcedures

theorem Noted.refl (p : Session γ α × Changes) : Noted p p :=
  ⟨fun h => ⟨h, rfl, rfl, rfl⟩, fun h => ⟨h, rfl⟩, fun h => ⟨h, rfl⟩⟩

theorem Noted.trans {r : Session γ α × Changes} (h : Noted p q) (k : Noted q r) : Noted p r := by
  refine ⟨fun hr => ?_, fun hr => ?_, fun hr => ?_⟩
  · obtain ⟨hq, k₁, k₂, k₃⟩ := k.permissions hr
    obtain ⟨hp, h₁, h₂, h₃⟩ := h.permissions hq
    exact ⟨hp, k₁.trans h₁, k₂.trans h₂, k₃.trans h₃⟩
  · obtain ⟨hq, k₁⟩ := k.currencies hr
    obtain ⟨hp, h₁⟩ := h.currencies hq
    exact ⟨hp, k₁.trans h₁⟩
  · obtain ⟨hq, k₁⟩ := k.procedures hr
    obtain ⟨hp, h₁⟩ := h.procedures hq
    exact ⟨hp, k₁.trans h₁⟩

theorem EffectStep.noted (h : EffectStep scope p q) : Noted p q := by
  cases h with
  | amend s c o chance =>
    refine ⟨by simp, fun hc => ⟨hc, ?_⟩, fun hc => ⟨hc, ?_⟩⟩ <;> cases scope <;> rfl
  | adjust s c currencies m keys still =>
    refine ⟨fun hc => ⟨hc, rfl, rfl, rfl⟩, fun hc => ?_, fun hc => ⟨hc, rfl⟩⟩
    simp only [Bool.or_eq_false_iff, Bool.not_eq_false', List.isEmpty_iff] at hc
    exact ⟨hc.1, still hc.2⟩
  | switch s c active =>
    exact ⟨fun hc => ⟨hc, rfl, rfl, rfl⟩, fun hc => ⟨hc, rfl⟩, by simp⟩
  | limit s c filters =>
    exact ⟨by simp, fun hc => ⟨hc, rfl⟩, fun hc => ⟨hc, rfl⟩⟩
  | _ => exact ⟨fun hc => ⟨hc, rfl, rfl, rfl⟩, fun hc => ⟨hc, rfl⟩, fun hc => ⟨hc, rfl⟩⟩

theorem Bundle.noted (h : Bundle scope p q) : Noted p q := by
  induction h with
  | refl => exact .refl p
  | tail _ step ih => exact ih.trans step.noted

/-! ## Balances and voters -/

theorem Bundle.contains_balances (h : Bundle scope p q) (id : Ident) :
    q.1.house.balances.contains id = p.1.house.balances.contains id := by
  induction h with
  | refl => rfl
  | tail _ step ih =>
    rw [← ih]
    cases step with
    | amend => cases scope <;> rfl
    | adjust s c currencies m keys still => exact keys id
    | _ => rfl

theorem EffectStep.voters (h : EffectStep scope p q) :
    (q.1.floor.tally.passVoters = p.1.floor.tally.passVoters ∧
      q.1.floor.tally.failVoters = p.1.floor.tally.failVoters) ∨
    (q.1.floor.tally.passVoters = .empty ∧ q.1.floor.tally.failVoters = .empty) := by
  cases h with
  | amend => cases scope <;> exact .inl ⟨rfl, rfl⟩
  | count s c t pass fail => exact .inl ⟨pass, fail⟩
  | limit => exact .inr ⟨rfl, rfl⟩
  | _ => exact .inl ⟨rfl, rfl⟩

theorem Bundle.voters (h : Bundle scope p q) :
    (q.1.floor.tally.passVoters = p.1.floor.tally.passVoters ∧
      q.1.floor.tally.failVoters = p.1.floor.tally.failVoters) ∨
    (q.1.floor.tally.passVoters = .empty ∧ q.1.floor.tally.failVoters = .empty) := by
  induction h with
  | refl => exact .inl ⟨rfl, rfl⟩
  | tail _ step ih =>
    rcases step.voters with ⟨pass, fail⟩ | void
    · rw [pass, fail]
      exact ih
    · exact .inr void

/-! ## The floor -/

theorem addOverride_floor (s : Session γ α) (scope : Scope) (o : Override) :
    (s.addOverride scope o).floor = s.floor := by
  cases scope <;> rfl

theorem adjustBalances_floor {s t : Session γ α} {c d : Changes} {delta : Int8}
    {currencies : List Ident} (h : s.adjustBalances delta currencies c = .ok (t, d)) :
    t.floor = s.floor := by
  obtain ⟨house, -, h⟩ := bind_eq_ok.1 h
  rw [pure_eq_ok, Prod.mk.injEq] at h
  rw [← h.1]

theorem amendPermissions_floor [Chance γ] {s t : Session γ α} {c d : Changes}
    {targets : List Ident} {a : Amendment}
    (h : s.amendPermissions scope targets a c = .ok (t, d)) : t.floor = s.floor := by
  unfold amendPermissions at h
  split at h
  next =>
    obtain ⟨⟨person, u⟩, drawn, h⟩ := bind_eq_ok.1 h
    obtain ⟨chance, rfl, -⟩ := drawPerson_eq_ok drawn
    cases person with
    | none =>
      rw [pure_eq_ok, Prod.mk.injEq] at h
      rw [← h.1]
    | some person =>
      rw [pure_eq_ok, Prod.mk.injEq] at h
      rw [← h.1, addOverride_floor]
  next =>
    rw [Except.ok.injEq, Prod.mk.injEq] at h
    rw [← h.1, addOverride_floor]

end Session

end Parliament
