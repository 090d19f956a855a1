import Parliament.Proofs.Rulebook.Check
import Parliament.Proofs.Session.Orderly
import Parliament.Proofs.Tally

/-! # Effects that take place

The rule book lists whatever its effects are aimed at, and a balance is kept for every currency that
it lists. So an effect always takes place, as long as the bonuses of a ballot fit in a word.
-/

namespace Parliament

/-! ## Payees -/

namespace House

variable {h : House} {r : Rulebook}

theorem exists_payees (free : Rulebook.Free (r.currencies.map (·.id))) {target : Ident}
    (listed : r.ListsPayee target) :
    ∃ l, h.payees r target = .ok l ∧ ∀ currency ∈ l, r.ListsCurrency currency := by
  unfold payees
  split
  next state =>
    -- No currency bears the reserved name, so the state must own one.
    have treasury : r.HasTreasury := by
      rcases listed with funds | funds | named | ⟨-, treasury⟩
      · rw [state] at funds
        exact absurd funds (by decide)
      · rw [state] at funds
        exact absurd funds (by decide)
      · rw [state] at named
        exact absurd named (Rulebook.not_listsCurrency free (by decide))
      · exact treasury
    obtain ⟨currency, hc⟩ := Option.isSome_iff_exists.1 (Rulebook.isSome_stateCurrency.2 treasury)
    rw [hc]
    refine ⟨[currency], rfl, fun id hid => ?_⟩
    rw [List.mem_singleton.1 hid]
    exact Rulebook.listsCurrency_of_currencyOf hc
  next other =>
    split
    next =>
      refine ⟨_, rfl, fun id hid => ?_⟩
      obtain ⟨party, -, hp⟩ := List.mem_filterMap.1 hid
      exact Rulebook.listsCurrency_of_currencyOf hp
    next party =>
      split
      next =>
        refine ⟨_, rfl, fun id hid => ?_⟩
        obtain ⟨region, -, hr⟩ := List.mem_filterMap.1 hid
        exact Rulebook.listsCurrency_of_currencyOf hr
      next region =>
        refine ⟨[target], rfl, fun id hid => ?_⟩
        rw [List.mem_singleton.1 hid]
        rcases listed with funds | funds | named | ⟨funds, -⟩
        · exact absurd funds party
        · exact absurd funds region
        · exact named
        · exact absurd funds other

theorem exists_allPayees (free : Rulebook.Free (r.currencies.map (·.id))) {targets : List Ident}
    (listed : ∀ target ∈ targets, r.ListsPayee target) :
    ∃ l, h.allPayees r targets = .ok l ∧ ∀ currency ∈ l, r.ListsCurrency currency := by
  induction targets with
  | nil => exact ⟨[], rfl, by simp⟩
  | cons target targets ih =>
    obtain ⟨l, hl, first⟩ := exists_payees (h := h) free (listed target List.mem_cons_self)
    obtain ⟨m, hm, rest⟩ := ih fun id hid => listed id (List.mem_cons_of_mem target hid)
    refine ⟨l ++ m, ?_, fun id hid => ?_⟩
    · rw [allPayees, hl, ok_bind, hm]
      rfl
    · rcases List.mem_append.1 hid with hid | hid
      · exact first id hid
      · exact rest id hid

theorem exists_adjustBalances (delta : Int8) {currencies : List Ident}
    (kept : ∀ currency ∈ currencies, h.balances.contains currency = true) :
    ∃ h', h.adjustBalances delta currencies = .ok h' := by
  refine (exists_foldlM (P := fun l (h : House) => ∀ currency ∈ l,
    h.balances.contains currency = true) ?_ kept).imp fun h' done => done.1
  intro currency l h k
  obtain ⟨b, hb⟩ := IdMap.contains_eq_true_iff.1 (k currency List.mem_cons_self)
  refine ⟨_, by rw [adjustBalance, hb], fun id hid => ?_⟩
  rw [IdMap.contains_insert_of_get? hb]
  exact k id (List.mem_cons_of_mem currency hid)

end House

/-! ## Targets that are there -/

theorem ProcedureEffect.exists_request {e : ProcedureEffect} (h : e.kind.isElection = true)
    (procedure : Ident) : ∃ r, e.request? procedure = some r := by
  have filled := e.targets_ne_nil
  obtain ⟨kind, targets, value, sound⟩ := e
  cases kind with
  | electParty | electRegion => exact ⟨_, rfl⟩
  | electNominated | electAppointed =>
    cases targets with
    | nil => exact absurd rfl (filled rfl)
    | cons role filters => exact ⟨_, rfl⟩
  | _ => simp [ProcedureEffectKind.isElection] at h

theorem BallotEffect.targets_ne_nil (e : BallotEffect) : e.targets ≠ [] := by
  intro none
  have sound := e.sound
  simp [BallotEffectKind.defect?, none] at sound

theorem BallotEffect.exists_pair {e : BallotEffect} (h : e.kind = .replaceProcedure) :
    ∃ old new, e.targets = [old, new] := by
  have sound := e.sound
  rw [h] at sound
  unfold BallotEffectKind.defect? at sound
  split at sound
  next => simp at sound
  next =>
    split at sound
    next => simp at sound
    next two => exact List.length_eq_two.1 (by simpa using two)

/-! ## Bonuses -/

def ProcedureEffect.points (e : ProcedureEffect) : Nat :=
  match e.kind with
  | .votePassBonus | .voteFailBonus => e.bonus.toNat
  | _ => 0

theorem ProcedureEffect.points_eq_zero {e : ProcedureEffect} (h : e.kind.isBallotScoped = false) :
    e.points = 0 := by
  unfold points
  split
  next is => simp [is, ProcedureEffectKind.isBallotScoped] at h
  next is => simp [is, ProcedureEffectKind.isBallotScoped] at h
  next => rfl

/-- Either bonus can grow by `n`. -/
def Tally.HasRoom (t : Tally) (n : Nat) : Prop :=
  t.passBonus.toNat + n < 2 ^ 32 ∧ t.failBonus.toNat + n < 2 ^ 32

namespace Tally

variable {t : Tally} {n : Nat}

theorem hasRoom_zero (t : Tally) : t.HasRoom 0 := ⟨t.passBonus.toNat_lt, t.failBonus.toNat_lt⟩

theorem hasRoom_of_bonuses (h : t.bonuses + n < 2 ^ 32) : t.HasRoom n := by
  unfold bonuses at h
  exact ⟨by omega, by omega⟩

theorem HasRoom.mono {m : Nat} (h : t.HasRoom (m + n)) : t.HasRoom n := by
  obtain ⟨pass, fail⟩ := h
  exact ⟨by omega, by omega⟩

end Tally

theorem ProcedureEffect.exists_addTo {e : ProcedureEffect} {t : Tally} {n : Nat}
    (room : t.HasRoom (e.points + n)) : ∃ t', e.addTo t = .ok t' ∧ t'.HasRoom n := by
  have less := room.mono
  obtain ⟨pass, fail⟩ := room
  unfold addTo
  split
  case h_1 is =>
    have points : e.points = e.bonus.toNat := by rw [ProcedureEffect.points, is]
    obtain ⟨c, hc, sum⟩ := Count.exists_add (a := t.passBonus) (b := e.bonus) (by omega)
    refine ⟨_, bind_eq_ok.2 ⟨c, hc, rfl⟩, ?_, less.2⟩
    dsimp only
    omega
  case h_2 is =>
    have points : e.points = e.bonus.toNat := by rw [ProcedureEffect.points, is]
    obtain ⟨c, hc, sum⟩ := Count.exists_add (a := t.failBonus) (b := e.bonus) (by omega)
    refine ⟨_, bind_eq_ok.2 ⟨c, hc, rfl⟩, less.1, ?_⟩
    dsimp only
    omega
  all_goals exact ⟨_, rfl, less⟩

namespace Session

variable {γ α : Type} {s : Session γ α}

/-! ## One effect -/

theorem Grounded.covered (h : s.Grounded) : s.rulebook.Covered :=
  Rulebook.covered_of_check h.checked

theorem Grounded.purse (h : s.Grounded) {currency : Ident}
    (listed : s.rulebook.ListsCurrency currency) : s.house.balances.contains currency = true := by
  rw [h.balances]
  exact Rulebook.contains_initialBalances.2 listed

theorem listsCurrency_of_owned {person currency : Ident}
    (h : s.ownedCurrency person = some currency) : s.rulebook.ListsCurrency currency := by
  unfold ownedCurrency at h
  rcases Option.or_eq_some_iff.1 h with h | ⟨-, h⟩
  · obtain ⟨party, -, hp⟩ := Option.bind_eq_some_iff.1 h
    exact Rulebook.listsCurrency_of_currencyOf hp
  rcases Option.or_eq_some_iff.1 h with h | ⟨-, h⟩
  · obtain ⟨region, -, hr⟩ := Option.bind_eq_some_iff.1 h
    exact Rulebook.listsCurrency_of_currencyOf hr
  · exact Rulebook.listsCurrency_of_currencyOf h

theorem exists_effectPayees (free : Rulebook.Free (s.rulebook.currencies.map (·.id)))
    (scope : Scope) {targets : List Ident}
    (listed : ∀ target ∈ targets, s.rulebook.ListsPayee target) :
    ∃ l, s.effectPayees scope targets = .ok l ∧
      ∀ currency ∈ l, s.rulebook.ListsCurrency currency := by
  unfold effectPayees
  split
  next =>
    split
    next person _ =>
      refine ⟨_, rfl, fun currency hc => ?_⟩
      exact listsCurrency_of_owned (Option.mem_toList.1 hc)
    next =>
      refine ⟨_, rfl, fun currency hc => ?_⟩
      exact Rulebook.listsCurrency_of_currencyOf (Option.mem_toList.1 hc)
  next => exact House.exists_allPayees free listed

theorem exists_adjustBalances (h : s.Grounded) (delta : Int8) (c : Changes)
    {currencies : List Ident}
    (listed : ∀ currency ∈ currencies, s.rulebook.ListsCurrency currency) :
    ∃ p, s.adjustBalances delta currencies c = .ok p := by
  obtain ⟨house, hh⟩ := House.exists_adjustBalances delta
    fun currency hc => h.purse (listed currency hc)
  exact ⟨_, bind_eq_ok.2 ⟨house, hh, rfl⟩⟩

theorem exists_drawPerson [Chance γ] [LawfulChance γ] (s : Session γ α) :
    ∃ p, s.drawPerson = .ok p := by
  unfold drawPerson
  dsimp only
  split
  next => exact ⟨_, rfl⟩
  next somebody =>
    have size : 0 < s.house.people.keys.length := by
      rw [List.length_pos_iff]
      simpa using somebody
    obtain ⟨place, next, drawn, lt⟩ := LawfulChance.choose_lt _ s.chance size
    rw [drawn, ok_bind]
    dsimp only
    rw [List.getElem?_eq_getElem lt]
    exact ⟨_, rfl⟩

theorem exists_amendPermissions [Chance γ] [LawfulChance γ] (s : Session γ α) (scope : Scope)
    (targets : List Ident) (a : Amendment) (c : Changes) :
    ∃ p, s.amendPermissions scope targets a c = .ok p := by
  unfold amendPermissions
  split
  next =>
    obtain ⟨⟨person, t⟩, drawn⟩ := s.exists_drawPerson
    rw [drawn, ok_bind]
    cases person <;> exact ⟨_, rfl⟩
  next => exact ⟨_, rfl⟩

theorem exists_applyProcedureEffect [Chance γ] [LawfulChance γ] (h : s.Grounded)
    {kind : ProcedureKind} {e : ProcedureEffect} {n : Nat}
    (covers : s.rulebook.CoversProcedureEffect kind e)
    (room : s.floor.tally.HasRoom (e.points + n)) (scope : Scope) (c : Changes)
    (procedure : Ident) :
    ∃ p, applyProcedureEffect scope s c procedure e = .ok p ∧ p.1.floor.tally.HasRoom n := by
  have less := room.mono
  unfold applyProcedureEffect
  split
  case h_1 is | h_2 is | h_3 is | h_4 is =>
    obtain ⟨r, hr⟩ := e.exists_request (by rw [is]; rfl) procedure
    rw [hr]
    exact ⟨_, rfl, less⟩
  case h_5 | h_6 | h_7 =>
    split
    next a _ =>
      obtain ⟨⟨t, d⟩, hp⟩ := s.exists_amendPermissions scope e.targets a c
      exact ⟨(t, d), hp, amendPermissions_floor hp ▸ less⟩
    next => exact ⟨_, rfl, less⟩
  -- Only bonuses take room.
  case h_8 | h_9 | h_10 | h_11 | h_12 =>
    obtain ⟨t, ht, left⟩ := e.exists_addTo room
    exact ⟨_, bind_eq_ok.2 ⟨t, ht, rfl⟩, left⟩
  case h_13 is | h_14 is =>
    split
    next => exact ⟨_, rfl, less⟩
    next =>
      -- Whom the book lets an effect pay has a balance.
      have payees := covers.payees (by rw [is]; rfl)
      obtain ⟨l, hl, listed⟩ := exists_effectPayees h.covered.currencies scope payees
      obtain ⟨⟨t, d⟩, hp⟩ := exists_adjustBalances h e.delta c listed
      exact ⟨(t, d), bind_eq_ok.2 ⟨l, hl, hp⟩, adjustBalances_floor hp ▸ less⟩
  case h_15 | h_16 => split <;> exact ⟨_, rfl, less⟩
  case h_17 => exact ⟨_, rfl, less⟩

theorem exists_applyBallotEffect (h : s.Grounded) {e : BallotEffect}
    (covers : s.rulebook.CoversBallotEffect e) (c : Changes) :
    ∃ p, applyBallotEffect s c e = .ok p ∧ p.1.floor = s.floor := by
  unfold applyBallotEffect
  split
  case h_5 is =>
    obtain ⟨old, new, ht⟩ := e.exists_pair is
    rw [ht]
    exact ⟨_, rfl, rfl⟩
  case h_6 is =>
    obtain ⟨l, hl, listed⟩ :=
      House.exists_allPayees (h := s.house) h.covered.currencies (covers.payees is)
    obtain ⟨⟨t, d⟩, hp⟩ := exists_adjustBalances h e.value c listed
    exact ⟨(t, d), bind_eq_ok.2 ⟨l, hl, hp⟩, adjustBalances_floor hp⟩
  all_goals exact ⟨_, rfl, rfl⟩

/-! ## Bundles -/

def pointsOf (effects : List (Ident × ProcedureEffect)) : Nat :=
  (effects.map fun e => e.2.points).sum

theorem covers_of_mem_effectsOf (h : s.Grounded) {procedures : List Procedure}
    (listed : ∀ p ∈ procedures, p ∈ s.rulebook.procedures) {e : Ident × ProcedureEffect}
    (he : e ∈ effectsOf procedures) : ∃ kind, s.rulebook.CoversProcedureEffect kind e.2 := by
  obtain ⟨p, hp, he⟩ := List.mem_flatMap.1 he
  obtain ⟨effect, inside, rfl⟩ := List.mem_map.1 he
  exact ⟨p.kind, (h.covered.procedures p (listed p hp)).effects effect inside⟩

theorem Grounded.covers_setUp (h : s.Grounded) :
    ∀ e ∈ s.setupEffects, ∃ kind, s.rulebook.CoversProcedureEffect kind e.2 :=
  fun _ => covers_of_mem_effectsOf h fun _ hp => (List.mem_filter.1 hp).1

theorem Grounded.covers_startBallot (h : s.Grounded) (id : Ident) :
    ∀ e ∈ effectsOf (s.proceduresFor id), ∃ kind, s.rulebook.CoversProcedureEffect kind e.2 :=
  fun _ => covers_of_mem_effectsOf h fun _ hp => (List.mem_filter.1 hp).1

theorem Grounded.covers_carryOut (h : s.Grounded) {p : Procedure}
    (listed : p ∈ s.rulebook.procedures) :
    ∀ e ∈ effectsOf [p], ∃ kind, s.rulebook.CoversProcedureEffect kind e.2 :=
  fun _ => covers_of_mem_effectsOf h fun _ hq => List.mem_singleton.1 hq ▸ listed

theorem pointsOf_setupEffects (h : s.Grounded) : pointsOf s.setupEffects = 0 := by
  refine List.sum_eq_zero fun n hn => ?_
  obtain ⟨e, he, rfl⟩ := List.mem_map.1 hn
  obtain ⟨p, hp, he⟩ := List.mem_flatMap.1 he
  obtain ⟨effect, inside, rfl⟩ := List.mem_map.1 he
  obtain ⟨listed, governmental⟩ := List.mem_filter.1 hp
  have covers := (h.covered.procedures p listed).effects effect inside
  exact ProcedureEffect.points_eq_zero (covers.scope governmental)

theorem exists_applyProcedureEffects [Chance γ] [LawfulChance γ] (h : s.Grounded) (c : Changes)
    (scope : Scope) {effects : List (Ident × ProcedureEffect)}
    (covers : ∀ e ∈ effects, ∃ kind, s.rulebook.CoversProcedureEffect kind e.2)
    (room : s.floor.tally.HasRoom (pointsOf effects)) :
    ∃ p, s.applyProcedureEffects c scope effects = .ok p := by
  -- The invariant: the room that is left suffices for the effects that are left.
  refine (exists_foldlM (P := fun rest (p : Session γ α × Changes) => p.1.Grounded ∧
    (∀ e ∈ rest, ∃ kind, p.1.rulebook.CoversProcedureEffect kind e.2) ∧
    p.1.floor.tally.HasRoom (pointsOf rest)) ?_ ⟨h, covers, room⟩).imp fun p hp => hp.1
  rintro e rest ⟨t, d⟩ ⟨grounded, covers, room⟩
  obtain ⟨kind, hk⟩ := covers e List.mem_cons_self
  obtain ⟨q, hq, left⟩ := exists_applyProcedureEffect (n := pointsOf rest) grounded hk
    (by simpa [pointsOf] using room) scope d e.1
  have step : Bundle scope (t, d) q := .single (applyProcedureEffect_step hq)
  refine ⟨q, hq, step.grounded grounded, fun other ho => ?_, left⟩
  rw [step.rulebook_eq]
  exact covers other (List.mem_cons_of_mem e ho)

theorem exists_applyBallotEffects (h : s.Grounded) (c : Changes) {effects : List BallotEffect}
    (covers : ∀ e ∈ effects, s.rulebook.CoversBallotEffect e) :
    ∃ p, s.applyBallotEffects c effects = .ok p ∧ p.1.floor = s.floor := by
  refine (exists_foldlM (P := fun rest (p : Session γ α × Changes) => p.1.Grounded ∧
    (∀ e ∈ rest, p.1.rulebook.CoversBallotEffect e) ∧ p.1.floor = s.floor) ?_
    ⟨h, covers, rfl⟩).imp fun p hp => ⟨hp.1, hp.2.2.2⟩
  rintro e rest ⟨t, d⟩ ⟨grounded, covers, same⟩
  obtain ⟨q, hq, kept⟩ := exists_applyBallotEffect grounded (covers e List.mem_cons_self) d
  have step : Bundle .setup (t, d) q := .single (applyBallotEffect_step hq)
  refine ⟨q, hq, step.grounded grounded, fun other ho => ?_, kept.trans same⟩
  rw [step.rulebook_eq]
  exact covers other (List.mem_cons_of_mem e ho)

end Session

end Parliament
