import Mathlib.Algebra.Ring.Int.Defs
import Parliament.Proofs.Rulebook
import Parliament.Proofs.Session.Orderly
import Parliament.Proofs.Tally

/-! # What was added to a tally

Procedures add bonuses to a tally, ask for a supermajority or impose an outcome. Whatever else takes
place on the floor, all that was added can be put down to the procedures that took part as the
ballot opened and to those that were declared since, in this order.
-/

namespace Parliament

/-! ## What effects add -/

namespace ProcedureEffect

/-- What the effects of one kind are worth together. -/
def worth (kind : ProcedureEffectKind) (effects : List ProcedureEffect) : Int :=
  ((effects.filter (·.kind = kind)).map (·.value.toInt)).sum

/-- The outcome that the effect imposes. -/
def outcome? (e : ProcedureEffect) : Option Bool :=
  match e.kind with
  | .ballotPass => some true
  | .ballotFail => some false
  | _ => none

theorem worth_append (kind : ProcedureEffectKind) (l m : List ProcedureEffect) :
    worth kind (l ++ m) = worth kind l + worth kind m := by
  simp [worth]

theorem worth_singleton (kind : ProcedureEffectKind) (e : ProcedureEffect) :
    worth kind [e] = if e.kind = kind then e.value.toInt else 0 := by
  by_cases h : e.kind = kind <;> simp [worth, h]

variable {e : ProcedureEffect}

theorem toNat_bonus (h : e.kind = .votePassBonus ∨ e.kind = .voteFailBonus) :
    (e.bonus.toNat : Int) = e.value.toInt := by
  -- Only a positive value is sound.
  have positive : 0 < e.value.toInt := by
    have sound := e.sound
    rcases h with is | is <;> rw [is] at sound <;>
    simpa [ProcedureEffectKind.defect?, ProcedureEffectKind.isCurrency,
      ProcedureEffectKind.needsTargets, Int8.lt_iff_toInt_lt] using sound
  have small : e.value.toInt < 2 ^ 7 := e.value.toInt_lt
  have word : e.bonus.toNat = e.value.toInt.natAbs := by
    rw [bonus]
    simp
    omega
  omega

theorem addTo_eq_ok {t u : Tally} (h : e.addTo t = .ok u) :
    (u.passBonus.toNat : Int) = t.passBonus.toNat + worth .votePassBonus [e] ∧
    (u.failBonus.toNat : Int) = t.failBonus.toNat + worth .voteFailBonus [e] ∧
    u.supermajority = (t.supermajority || e.kind = .supermajority) ∧
    u.forced = e.outcome?.or t.forced := by
  rw [worth_singleton, worth_singleton]
  unfold addTo at h
  split at h
  case h_1 is =>
    obtain ⟨n, added, hn⟩ := bind_eq_ok.1 h
    obtain rfl := pure_eq_ok.1 hn
    have sum := Count.add_eq_ok.1 added
    have bonus := toNat_bonus (.inl is)
    simp [is, outcome?]
    omega
  case h_2 is =>
    obtain ⟨n, added, hn⟩ := bind_eq_ok.1 h
    obtain rfl := pure_eq_ok.1 hn
    have sum := Count.add_eq_ok.1 added
    have bonus := toNat_bonus (.inr is)
    simp [is, outcome?]
    omega
  case h_3 is | h_4 is | h_5 is =>
    obtain rfl := Except.ok.inj h
    simp [is, outcome?]
  case h_6 pass fail super top bottom =>
    obtain rfl := Except.ok.inj h
    have ordinary : ¬ e.kind = .supermajority := super
    rw [if_neg pass, if_neg fail]
    simp [outcome?, *]

end ProcedureEffect

/-- All that was added to the tally comes from the effects, and all that they add is in it. -/
structure Tally.AccountedBy (t : Tally) (effects : List ProcedureEffect) : Prop where
  passBonus : (t.passBonus.toNat : Int) = ProcedureEffect.worth .votePassBonus effects
  failBonus : (t.failBonus.toNat : Int) = ProcedureEffect.worth .voteFailBonus effects
  supermajority : t.supermajority = true ↔ ∃ e ∈ effects, e.kind = .supermajority
  /-- The last outcome imposed stands. -/
  forced : t.forced = (effects.filterMap (·.outcome?)).getLast?

namespace Tally

variable {t u : Tally} {e : ProcedureEffect} {effects : List ProcedureEffect}

theorem AccountedBy.of_clearVotes (h : t.AccountedBy effects) (same : u.clearVotes = t.clearVotes) :
    u.AccountedBy effects := by
  simp only [clearVotes, Tally.mk.injEq] at same
  obtain ⟨-, -, passBonus, failBonus, supermajority, forced⟩ := same
  refine ⟨?_, ?_, ?_, ?_⟩
  · rw [passBonus]
    exact h.passBonus
  · rw [failBonus]
    exact h.failBonus
  · rw [supermajority]
    exact h.supermajority
  · rw [forced]
    exact h.forced

theorem AccountedBy.addTo (h : t.AccountedBy effects) (k : e.addTo t = .ok u) :
    u.AccountedBy (effects ++ [e]) := by
  obtain ⟨passBonus, failBonus, supermajority, forced⟩ := ProcedureEffect.addTo_eq_ok k
  refine ⟨?_, ?_, ?_, ?_⟩
  · rw [passBonus, h.passBonus, ProcedureEffect.worth_append]
  · rw [failBonus, h.failBonus, ProcedureEffect.worth_append]
  · rw [supermajority, Bool.or_eq_true, h.supermajority]
    simp [or_and_right, exists_or]
  · rw [forced, h.forced, List.filterMap_append, List.getLast?_append]
    cases outcome : e.outcome? <;> simp [outcome]

end Tally

namespace Session

variable {γ α : Type}

/-! ## Within a call -/

section

variable [Chance γ] {s t : Session γ α} {c d : Changes} {scope : Scope}

theorem applyProcedureEffect_tally {procedure : Ident} {e : ProcedureEffect}
    (h : applyProcedureEffect scope s c procedure e = .ok (t, d)) :
    ∃ tally, e.addTo s.floor.tally = .ok tally ∧ t.floor.tally.clearVotes = tally.clearVotes := by
  have aside (nothing : e.addTo s.floor.tally = .ok s.floor.tally) (same : t.floor = s.floor) :
      ∃ tally, e.addTo s.floor.tally = .ok tally ∧
        t.floor.tally.clearVotes = tally.clearVotes :=
    ⟨s.floor.tally, nothing, by rw [same]⟩
  unfold applyProcedureEffect at h
  split at h
  case h_1 is | h_2 is | h_3 is | h_4 is =>
    apply aside (by rw [ProcedureEffect.addTo, is])
    split at h
    next =>
      rw [Except.ok.injEq, Prod.mk.injEq] at h
      rw [← h.1]
      rfl
    next => simp at h
  case h_5 is | h_6 is | h_7 is =>
    apply aside (by rw [ProcedureEffect.addTo, is])
    split at h
    next => exact amendPermissions_floor h
    next =>
      rw [Except.ok.injEq, Prod.mk.injEq] at h
      rw [← h.1]
  case h_8 | h_9 | h_10 | h_11 | h_12 =>
    obtain ⟨tally, added, h⟩ := bind_eq_ok.1 h
    rw [pure_eq_ok, Prod.mk.injEq] at h
    rw [← h.1]
    exact ⟨tally, added, rfl⟩
  case h_13 is | h_14 is =>
    apply aside (by rw [ProcedureEffect.addTo, is])
    split at h
    next =>
      rw [Except.ok.injEq, Prod.mk.injEq] at h
      rw [← h.1]
    next =>
      obtain ⟨currencies, -, h⟩ := bind_eq_ok.1 h
      exact adjustBalances_floor h
  case h_15 is | h_16 is =>
    apply aside (by rw [ProcedureEffect.addTo, is])
    split at h <;> rw [Except.ok.injEq, Prod.mk.injEq] at h <;> rw [← h.1]
    rfl
  case h_17 is =>
    -- A limit voids the votes and nothing else.
    rw [Except.ok.injEq, Prod.mk.injEq] at h
    rw [← h.1]
    exact ⟨s.floor.tally, by rw [ProcedureEffect.addTo, is], rfl⟩

theorem applyProcedureEffects_tally {effects : List (Ident × ProcedureEffect)}
    {before : List ProcedureEffect} (k : s.floor.tally.AccountedBy before)
    (h : s.applyProcedureEffects c scope effects = .ok (t, d)) :
    t.floor.tally.AccountedBy (before ++ effects.map (·.2)) := by
  unfold applyProcedureEffects at h
  induction effects generalizing s c before with
  | nil =>
    rw [List.foldlM_nil, pure_eq_ok, Prod.mk.injEq] at h
    rw [← h.1]
    simpa using k
  | cons e effects ih =>
    rw [List.foldlM_cons, bind_eq_ok] at h
    obtain ⟨⟨u, c'⟩, first, rest⟩ := h
    obtain ⟨tally, added, same⟩ := applyProcedureEffect_tally first
    have next := ih ((k.addTo added).of_clearVotes same) rest
    simpa using next

theorem map_snd_effectsOf (procedures : List Procedure) :
    (effectsOf procedures).map (·.2) = procedures.flatMap (·.effects) := by
  simp [effectsOf, List.map_flatMap, Function.comp_def]

end

/-! ## From the start of a ballot on -/

/-- The call belongs to a ballot and does not end it. -/
def Call.onFloor : Call → Bool
  | .castVote _ _ | .closeDeclarations | .declare _ _ => true
  | _ => false

/-- The tally is accounted for by procedures that took part from the start, and then by those that
were declared. -/
def Accounted (s : Session γ α) (fired : List Procedure) : Prop :=
  ∃ declared : List Procedure,
    s.floor.declared.map s.rulebook.procedure? = declared.map some ∧
    s.floor.tally.AccountedBy ((fired ++ declared).flatMap (·.effects))

theorem Accounted.of_eq {s t : Session γ α} {fired : List Procedure} (h : s.Accounted fired)
    (rulebook : t.rulebook = s.rulebook) (declared : t.floor.declared = s.floor.declared)
    (same : t.floor.tally.clearVotes = s.floor.tally.clearVotes) : t.Accounted fired := by
  obtain ⟨procedures, listed, accounted⟩ := h
  refine ⟨procedures, ?_, accounted.of_clearVotes same⟩
  rw [rulebook, declared]
  exact listed

variable [Chance γ] [ReturningOfficer α] {s t : Session γ α}

theorem Performed.accounted {c : Call} {o : Outcome γ α Reply} {fired : List Procedure}
    (h : Performed s c o) (floor : c.onFloor = true) (k : s.Accounted fired) :
    o.session.Accounted fired := by
  cases h with
  | @castVote person _ vote => exact k.of_eq rfl rfl (s.floor.tally.clearVotes_record person vote)
  | refuseVote | turnDown => exact k
  | closeDeclarations => exact k.of_eq rfl rfl rfl
  | miss _ _ settling =>
    apply k.of_eq settling.rulebook_eq
    · rw [settling.floor_eq]
      rfl
    · rw [settling.floor_eq]
      rfl
  | @declare _ _ p paid t u _ _ tried _ effects settling =>
    obtain ⟨declared, listed, accounted⟩ := k
    obtain ⟨_, _, _, _, _, proposal, _⟩ := tried
    have bundle := carryOut_bundle effects
    have rulebook : u.rulebook = s.rulebook := settling.rulebook_eq.trans bundle.rulebook_eq
    have longer : u.floor.declared = s.floor.declared ++ [p.id] := by
      rw [settling.floor_eq, bundle.declared_eq]
      rfl
    have known : s.rulebook.procedure? p.id = some p := Rulebook.procedure?_id proposal.listed
    have added : t.floor.tally.AccountedBy
        ((fired ++ declared).flatMap (·.effects) ++ (effectsOf [p]).map (·.2)) :=
      applyProcedureEffects_tally (s := (s.paidBy paid).listing p) accounted effects
    -- The procedure is noted behind those declared so far, and so are its effects.
    refine ⟨declared ++ [p], ?_, ?_⟩
    · rw [rulebook, longer, List.map_append, listed, List.map_singleton, known, List.map_append]
      rfl
    · rw [settling.floor_eq, ← List.append_assoc, List.flatMap_append, ← map_snd_effectsOf [p]]
      exact added
  | _ => simp [Call.onFloor] at floor

end Session

end Parliament
