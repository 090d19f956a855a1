import Parliament.Declaration
import Parliament.Proofs.Success
import Parliament.Proofs.Tables

/-! # What declarations cost

A price is paid from a balance that is there, so no balance is opened or closed by it. If the
declarer's own balance is there, any price can be settled, a fixed one that is too high apart.
-/

namespace Parliament

theorem DeclarationResult.isConfirmed_iff {r : DeclarationResult} :
    r.isConfirmed = true ↔ r = .confirmed := by
  cases r <;> simp [isConfirmed]

namespace Confirmation

/-! ## Paying -/

theorem balanceOf_eq_ok {balances : IdMap Int8} {currency : Ident} {b : Int8}
    (h : balanceOf balances currency = .ok b) : balances.get? currency = some b := by
  unfold balanceOf at h
  split at h
  next c hc => rw [hc, Except.ok.inj h]
  next => simp at h

theorem pay_eq_ok {balances m : IdMap Int8} {currency : Ident} {b cost : Int8}
    (there : balances.get? currency = some b) (h : pay balances currency cost = .ok m) :
    m = balances.insert currency (Balance.sub b cost) := by
  obtain ⟨c, hc, h⟩ := bind_eq_ok.1 h
  obtain rfl : b = c := Option.some.inj (there.symm.trans (balanceOf_eq_ok hc))
  exact (pure_eq_ok.1 h).symm

section

variable {balances : IdMap Int8} {owned : Option Ident}

theorem exists_balanceOf {currency : Ident} (h : balances.contains currency = true) :
    ∃ b, balanceOf balances currency = .ok b := by
  obtain ⟨b, hb⟩ := IdMap.contains_eq_true_iff.1 h
  rw [balanceOf, hb]
  exact ⟨b, rfl⟩

theorem exists_pay {currency : Ident} (cost : Int8) (h : balances.contains currency = true) :
    ∃ m, pay balances currency cost = .ok m := by
  obtain ⟨b, hb⟩ := exists_balanceOf h
  exact ⟨_, bind_eq_ok.2 ⟨b, hb, rfl⟩⟩

theorem exists_canAfford (purse : ∀ currency ∈ owned, balances.contains currency = true)
    (c : Confirmation) : ∃ b, c.canAfford owned balances = .ok b := by
  unfold canAfford
  split
  next value =>
    split
    next => exact ⟨false, rfl⟩
    next currency =>
      obtain ⟨b, hb⟩ := exists_balanceOf (purse currency rfl)
      exact ⟨_, bind_eq_ok.2 ⟨b, hb, rfl⟩⟩
  next => exact ⟨true, rfl⟩

theorem exists_settlePrice {γ : Type} {chance : γ} {value : Int8}
    (purse : ∀ currency ∈ owned, balances.contains currency = true)
    (affordable : canAfford owned balances (currencyValue value) = .ok true) :
    ∃ paid, settlePrice value owned balances chance = .ok paid := by
  unfold settlePrice
  rw [affordable, ok_bind]
  cases owned with
  | none => exact ⟨_, rfl⟩
  | some currency =>
    obtain ⟨m, hm⟩ := exists_pay value (purse currency rfl)
    exact ⟨_, bind_eq_ok.2 ⟨m, hm, rfl⟩⟩

end

/-! ## How a confirmation is settled -/

/-- A roll is paid from the declarer's own balance, which covers it. -/
def Staked (owned : Option Ident) (balances : IdMap Int8) (roll : UInt8) (m : IdMap Int8) : Prop :=
  ∃ currency b, owned = some currency ∧ balances.get? currency = some b ∧
    (roll.toNat : Int) ≤ b.toInt ∧ m = balances.insert currency (Balance.sub b roll.toInt8)

section

variable {γ : Type} [Chance γ]

/-- All that settling a confirmation may come to. -/
inductive Settlement (owned : Option Ident) (balances : IdMap Int8) (live : Option Bool)
    (chance : γ) : Confirmation → Settled γ → Prop
  | always : Settlement owned balances live chance .always ⟨.confirmed, balances, chance⟩
  | division :
    Settlement owned balances live chance .divisionChamber ⟨settleDivision live, balances, chance⟩
  | price {value b : Int8} {currency : Ident} (own : owned = some currency)
    (there : balances.get? currency = some b) (affordable : value ≤ b) :
    Settlement owned balances live chance (.currencyValue value)
      ⟨.confirmed, balances.insert currency (Balance.sub b value), chance⟩
  | roll {needed roll : UInt8} {next : γ} (drawn : Chance.roll chance = (roll, next)) :
    Settlement owned balances live chance (.diceValue needed)
      ⟨if needed ≤ roll then .confirmed else .rejected (.rollTooLow roll needed), balances, next⟩
  | rolledPrice {roll : UInt8} {next : γ} {m : IdMap Int8}
    (drawn : Chance.roll chance = (roll, next)) (staked : Staked owned balances roll m) :
    Settlement owned balances live chance .diceCurrency ⟨.confirmed, m, next⟩
  | unpaidPrice {roll : UInt8} {next : γ} (drawn : Chance.roll chance = (roll, next))
    (short : ∀ b ∈ owned.bind balances.get?, b.toInt < roll.toNat) :
    Settlement owned balances live chance .diceCurrency
      ⟨.rejected (.insufficientCurrency roll (owned.bind balances.get?)), balances, next⟩
  | contest {declarer defender : UInt8} {next last : γ} {m : IdMap Int8}
    (drawn : Chance.roll chance = (declarer, next)) (met : Chance.roll next = (defender, last))
    (staked : owned = none ∧ m = balances ∨ Staked owned balances declarer m) :
    Settlement owned balances live chance .diceAdversarial ⟨contest declarer defender, m, last⟩
  | unpaidContest {declarer defender : UInt8} {next last : γ} {b : Int8}
    (drawn : Chance.roll chance = (declarer, next)) (met : Chance.roll next = (defender, last))
    (own : owned.bind balances.get? = some b) (short : b.toInt < declarer.toNat) :
    Settlement owned balances live chance .diceAdversarial
      ⟨.rejected (.insufficientCurrency declarer (some b)), balances, last⟩

variable {owned : Option Ident} {balances : IdMap Int8} {live : Option Bool} {chance : γ}
  {paid : Settled γ}

theorem settlement_of_settlePrice {value : Int8}
    (h : settlePrice value owned balances chance = .ok paid) :
    Settlement owned balances live chance (.currencyValue value) paid := by
  obtain ⟨affordable, asked, h⟩ := bind_eq_ok.1 h
  split at h
  next yes =>
    cases owned with
    | some currency =>
      obtain ⟨b, hb, asked⟩ := bind_eq_ok.1 asked
      have there := balanceOf_eq_ok hb
      obtain ⟨m, hm, h⟩ := bind_eq_ok.1 h
      obtain rfl := pay_eq_ok there hm
      obtain rfl := pure_eq_ok.1 h
      have affordable : value ≤ b := by
        rw [pure_eq_ok, yes] at asked
        exact of_decide_eq_true asked
      exact .price rfl there affordable
    | none =>
      have no : false = affordable := by simpa [canAfford] using asked
      simp [yes] at no
  next => simp at h

theorem settlement_of_settleRolledPrice (h : settleRolledPrice owned balances chance = .ok paid) :
    Settlement owned balances live chance .diceCurrency paid := by
  unfold settleRolledPrice at h
  generalize drawn : Chance.roll chance = first at h
  obtain ⟨roll, next⟩ := first
  cases owned with
  | none =>
    obtain rfl := Except.ok.inj h
    exact .unpaidPrice drawn (by simp)
  | some currency =>
    obtain ⟨b, hb, h⟩ := bind_eq_ok.1 h
    have there := balanceOf_eq_ok hb
    split at h
    next covered =>
      obtain ⟨m, hm, h⟩ := bind_eq_ok.1 h
      obtain rfl := pay_eq_ok there hm
      obtain rfl := pure_eq_ok.1 h
      exact .rolledPrice drawn ⟨currency, b, rfl, there, covered, rfl⟩
    next short =>
      obtain rfl := pure_eq_ok.1 h
      have own : (some currency).bind balances.get? = some b := there
      rw [← own]
      refine .unpaidPrice drawn ?_
      rw [own]
      intro b' hb'
      obtain rfl := Option.some.inj hb'
      omega

theorem settlement_of_settleContest (h : settleContest owned balances chance = .ok paid) :
    Settlement owned balances live chance .diceAdversarial paid := by
  unfold settleContest at h
  generalize drawn : Chance.roll chance = first at h
  obtain ⟨declarer, next⟩ := first
  dsimp only at h
  generalize met : Chance.roll next = second at h
  obtain ⟨defender, last⟩ := second
  cases owned with
  | none =>
    obtain rfl := Except.ok.inj h
    exact .contest drawn met (.inl ⟨rfl, rfl⟩)
  | some currency =>
    obtain ⟨b, hb, h⟩ := bind_eq_ok.1 h
    have there := balanceOf_eq_ok hb
    split at h
    next covered =>
      obtain ⟨m, hm, h⟩ := bind_eq_ok.1 h
      obtain rfl := pay_eq_ok there hm
      obtain rfl := pure_eq_ok.1 h
      exact .contest drawn met (.inr ⟨currency, b, rfl, there, covered, rfl⟩)
    next short =>
      obtain rfl := pure_eq_ok.1 h
      exact .unpaidContest drawn met there (by omega)

theorem settlement_of_settle {c : Confirmation}
    (h : c.settle owned balances live chance = .ok paid) :
    Settlement owned balances live chance c paid := by
  cases c with
  | always =>
    obtain rfl := Except.ok.inj h
    exact .always
  | divisionChamber =>
    obtain rfl := Except.ok.inj h
    exact .division
  | currencyValue value => exact settlement_of_settlePrice h
  | diceValue needed =>
    obtain rfl := Except.ok.inj h
    exact .roll rfl
  | diceCurrency => exact settlement_of_settleRolledPrice h
  | diceAdversarial => exact settlement_of_settleContest h

end

/-! ## What is charged -/

theorem toInt_sub_roll {b : Int8} {roll : UInt8} (covered : (roll.toNat : Int) ≤ b.toInt) :
    (Balance.sub b roll.toInt8).toInt = b.toInt - roll.toNat := by
  have top := b.toInt_lt
  have small : roll.toInt8.toInt = roll.toNat := by
    show roll.toBitVec.toInt = roll.toBitVec.toNat
    rw [BitVec.toInt_eq_toNat_of_lt]
    show 2 * roll.toNat < 2 ^ 8
    omega
  -- A roll that is covered does not bring the balance to the end of its range.
  rw [Balance.toInt_sub, small]
  omega

/-- Nothing is paid, or something is taken from the declarer's own balance. -/
def Charged (owned : Option Ident) (balances m : IdMap Int8) : Prop :=
  m = balances ∨ ∃ currency b cost, owned = some currency ∧ balances.get? currency = some b ∧
    m = balances.insert currency (Balance.sub b cost)

theorem Staked.charged {owned : Option Ident} {balances m : IdMap Int8} {roll : UInt8}
    (h : Staked owned balances roll m) : Charged owned balances m := by
  obtain ⟨currency, b, own, there, -, paid⟩ := h
  exact .inr ⟨currency, b, _, own, there, paid⟩

theorem Charged.contains {owned : Option Ident} {balances m : IdMap Int8}
    (h : Charged owned balances m) (id : Ident) : m.contains id = balances.contains id := by
  obtain rfl | ⟨currency, b, cost, -, there, rfl⟩ := h
  · rfl
  · exact IdMap.contains_insert_of_get? there id

variable {γ : Type} [Chance γ]

theorem charged_settle {c : Confirmation} {owned : Option Ident} {balances : IdMap Int8}
    {live : Option Bool} {chance : γ} {paid : Settled γ}
    (h : c.settle owned balances live chance = .ok paid) :
    Charged owned balances paid.balances := by
  cases settlement_of_settle h with
  | price own there => exact .inr ⟨_, _, _, own, there, rfl⟩
  | rolledPrice _ staked => exact staked.charged
  | contest _ _ staked =>
    obtain ⟨-, rfl⟩ | staked := staked
    · exact .inl rfl
    · exact staked.charged
  | always | division | roll | unpaidPrice | unpaidContest => exact .inl rfl

theorem forfeit_of_missed {c : Confirmation} {owned : Option Ident} {balances : IdMap Int8}
    {live : Option Bool} {chance : γ} {paid : Settled γ}
    (h : c.settle owned balances live chance = .ok paid)
    (missed : paid.result.isConfirmed = false) :
    (paid.balances = balances ∧
      ∀ declarer defender, paid.result = .rejected (.outrolled declarer defender) → owned = none) ∨
    ∃ declarer defender, paid.result = .rejected (.outrolled declarer defender) ∧
      Staked owned balances declarer paid.balances := by
  cases settlement_of_settle h with
  | always | price | rolledPrice => simp [DeclarationResult.isConfirmed] at missed
  | division =>
    refine .inl ⟨rfl, fun declarer defender lost => ?_⟩
    unfold settleDivision at lost
    split at lost <;> simp at lost
  | roll =>
    refine .inl ⟨rfl, fun declarer defender lost => ?_⟩
    dsimp only at lost
    split at lost <;> simp at lost
  | unpaidPrice => exact .inl ⟨rfl, by simp⟩
  | unpaidContest => exact .inl ⟨rfl, by simp⟩
  | @contest declarer defender _ _ m drawn met staked =>
    obtain ⟨own, rfl⟩ | staked := staked
    · exact .inl ⟨rfl, fun _ _ _ => own⟩
    · -- The stake is paid whoever wins, and here the contest was lost.
      refine .inr ⟨declarer, defender, ?_, staked⟩
      dsimp only at missed ⊢
      unfold contest at missed ⊢
      split at missed
      next => simp [DeclarationResult.isConfirmed] at missed
      next lost => rw [if_neg lost]

/-! ## Who gains -/

/-- Some balance is higher than before. -/
def Raises (balances m : IdMap Int8) : Prop :=
  ∃ id b b', balances.get? id = some b ∧ m.get? id = some b' ∧ b.toInt < b'.toInt

theorem not_raises_self (balances : IdMap Int8) : ¬ Raises balances balances := by
  rintro ⟨id, b, b', there, there', higher⟩
  obtain rfl := Option.some.inj (there.symm.trans there')
  omega

theorem raises_insert {balances : IdMap Int8} {currency : Ident} {b b' : Int8}
    (there : balances.get? currency = some b) :
    Raises balances (balances.insert currency b') ↔ b.toInt < b'.toInt := by
  constructor
  · rintro ⟨id, a, a', ha, ha', higher⟩
    rw [IdMap.get?_insert] at ha'
    split at ha'
    next same =>
      subst same
      obtain rfl := Option.some.inj (there.symm.trans ha)
      obtain rfl := Option.some.inj ha'
      exact higher
    next =>
      obtain rfl := Option.some.inj (ha.symm.trans ha')
      omega
  · intro higher
    exact ⟨currency, b, b', there, IdMap.get?_insert_self balances currency b', higher⟩

theorem Staked.not_raises {owned : Option Ident} {balances m : IdMap Int8} {roll : UInt8}
    (h : Staked owned balances roll m) : ¬ Raises balances m := by
  obtain ⟨currency, b, -, there, covered, rfl⟩ := h
  rw [raises_insert there, toInt_sub_roll covered]
  omega

theorem raises_iff {c : Confirmation} {owned : Option Ident} {balances : IdMap Int8}
    {live : Option Bool} {chance : γ} {paid : Settled γ}
    (h : c.settle owned balances live chance = .ok paid) :
    Raises balances paid.balances ↔ ∃ value currency b, c = .currencyValue value ∧
      value.toInt < 0 ∧ owned = some currency ∧ balances.get? currency = some b ∧
      b.toInt < 127 := by
  have settlement := settlement_of_settle h
  cases settlement with
  | @price value b currency own there affordable =>
    rw [raises_insert there, Balance.toInt_sub]
    have low := b.le_toInt
    have high := b.toInt_lt
    constructor
    · intro higher
      exact ⟨value, currency, b, rfl, by omega, own, there, by omega⟩
    · rintro ⟨value', currency', b', same, negative, own', there', room⟩
      obtain rfl := Confirmation.currencyValue.inj same
      obtain rfl := Option.some.inj (own.symm.trans own')
      obtain rfl := Option.some.inj (there.symm.trans there')
      omega
  -- Rolls are never below zero.
  | rolledPrice _ staked => exact iff_of_false staked.not_raises (by simp)
  | contest _ _ staked =>
    refine iff_of_false ?_ (by simp)
    obtain ⟨-, rfl⟩ | staked := staked
    · exact not_raises_self _
    · exact staked.not_raises
  | always | division | roll | unpaidPrice | unpaidContest =>
    exact iff_of_false (not_raises_self balances) (by simp)

/-! ## When there is a result -/

section

variable {balances : IdMap Int8} {owned : Option Ident} {chance : γ}

theorem exists_settleRolledPrice
    (purse : ∀ currency ∈ owned, balances.contains currency = true) :
    ∃ paid, settleRolledPrice owned balances chance = .ok paid := by
  unfold settleRolledPrice
  dsimp only
  cases owned with
  | none => exact ⟨_, rfl⟩
  | some currency =>
    obtain ⟨b, hb⟩ := exists_balanceOf (purse currency rfl)
    dsimp only
    rw [hb, ok_bind]
    split
    next =>
      obtain ⟨m, hm⟩ := exists_pay (Chance.roll chance).1.toInt8 (purse currency rfl)
      exact ⟨_, bind_eq_ok.2 ⟨m, hm, rfl⟩⟩
    next => exact ⟨_, rfl⟩

theorem exists_settleContest
    (purse : ∀ currency ∈ owned, balances.contains currency = true) :
    ∃ paid, settleContest owned balances chance = .ok paid := by
  unfold settleContest
  dsimp only
  cases owned with
  | none => exact ⟨_, rfl⟩
  | some currency =>
    obtain ⟨b, hb⟩ := exists_balanceOf (purse currency rfl)
    dsimp only
    rw [hb, ok_bind]
    split
    next =>
      obtain ⟨m, hm⟩ := exists_pay (Chance.roll chance).1.toInt8 (purse currency rfl)
      exact ⟨_, bind_eq_ok.2 ⟨m, hm, rfl⟩⟩
    next => exact ⟨_, rfl⟩

theorem exists_settle {c : Confirmation} (live : Option Bool) (chance : γ)
    (purse : ∀ currency ∈ owned, balances.contains currency = true)
    (affordable : c.canAfford owned balances = .ok true) :
    ∃ paid, c.settle owned balances live chance = .ok paid := by
  cases c with
  | currencyValue value => exact exists_settlePrice purse affordable
  | diceCurrency => exact exists_settleRolledPrice purse
  | diceAdversarial => exact exists_settleContest purse
  | always | divisionChamber | diceValue => exact ⟨_, rfl⟩

end

end Confirmation

end Parliament
