import Parliament.Proofs.Confirmation

/-! # Exact charges

A declaration costs exactly its fixed price or exactly the declarer's roll. Balances are signed
bytes that stop at the ends of their range and a roll is cut to a signed byte before it is paid, but
an amount is only taken from a balance that covers it, and then neither of the two can alter it.
-/

namespace Parliament.Confirmation

/-! ## Taking an amount -/

/-- The declarer owns a currency whose balance is at least the amount. -/
def Covers (owned : Option Ident) (balances : IdMap Int8) (amount : Int) : Prop :=
  ∃ currency b, owned = some currency ∧ balances.get? currency = some b ∧ amount ≤ b.toInt

/-- The declarer's own balance goes down by the amount, and not below zero. -/
def Debited (owned : Option Ident) (balances : IdMap Int8) (amount : Int) (m : IdMap Int8) : Prop :=
  ∃ currency b b', owned = some currency ∧ balances.get? currency = some b ∧
    b'.toInt = b.toInt - amount ∧ 0 ≤ b'.toInt ∧ m = balances.insert currency b'

section

variable {owned : Option Ident} {balances m : IdMap Int8}

theorem Debited.covers {amount : Int} (h : Debited owned balances amount m) :
    Covers owned balances amount := by
  obtain ⟨currency, b, b', own, there, exactly, left, -⟩ := h
  exact ⟨currency, b, own, there, by omega⟩

theorem not_covers {amount : Int} (short : ∀ b ∈ owned.bind balances.get?, b.toInt < amount) :
    ¬ Covers owned balances amount := by
  rintro ⟨currency, b, rfl, there, covered⟩
  have := short b there
  omega

theorem Staked.debited {roll : UInt8} (h : Staked owned balances roll m) :
    Debited owned balances roll.toNat m := by
  obtain ⟨currency, b, own, there, covered, rfl⟩ := h
  have exactly := toInt_sub_roll covered
  exact ⟨currency, b, _, own, there, exactly, by omega, rfl⟩

theorem debited_price {value b : Int8} {currency : Ident} (own : owned = some currency)
    (there : balances.get? currency = some b) (affordable : value ≤ b) (priced : 0 ≤ value.toInt) :
    Debited owned balances value.toInt (balances.insert currency (Balance.sub b value)) := by
  have affordable := Int8.le_iff_toInt_le.1 affordable
  have top := b.toInt_lt
  have exactly : (Balance.sub b value).toInt = b.toInt - value.toInt := by
    rw [Balance.toInt_sub]
    omega
  exact ⟨currency, b, _, own, there, exactly, by omega, rfl⟩

theorem Charged.get? (h : Charged owned balances m) {id : Ident} (other : owned ≠ some id) :
    m.get? id = balances.get? id := by
  obtain rfl | ⟨currency, b, cost, own, -, rfl⟩ := h
  · rfl
  · rw [IdMap.get?_insert, if_neg]
    rintro rfl
    exact other own

end

/-! ## What each confirmation takes -/

theorem contest_eq_confirmed {declarer defender : UInt8} :
    contest declarer defender = .confirmed ↔ defender ≤ declarer := by
  unfold contest
  split
  next won => exact iff_of_true rfl won
  next lost => exact iff_of_false (by simp) lost

/-- The amount that settling a confirmation may take, if it may take any. -/
def charge? (c : Confirmation) (roll : UInt8) : Option Int :=
  match c with
  | currencyValue value => some value.toInt
  | diceCurrency | diceAdversarial => some roll.toNat
  | always | divisionChamber | diceValue _ => none

variable {γ : Type}

/-- When a confirmation goes through and when it takes something. In a contest the declarer rolls
first, and the stake does not depend on who wins. -/
def TakesItsDue (owned : Option Ident) (balances : IdMap Int8) (roll defence : UInt8)
    (paid : Settled γ) : Confirmation → Prop
  | currencyValue value =>
    Debited owned balances value.toInt paid.balances ∧ paid.result = .confirmed
  | diceCurrency =>
    (Debited owned balances roll.toNat paid.balances ↔ paid.result = .confirmed) ∧
      (paid.result = .confirmed ↔ Covers owned balances roll.toNat)
  | diceAdversarial =>
    (Debited owned balances roll.toNat paid.balances ↔ Covers owned balances roll.toNat) ∧
      (paid.result = .confirmed ↔
        (owned = none ∨ Covers owned balances roll.toNat) ∧ defence ≤ roll)
  | always | divisionChamber | diceValue _ => paid.balances = balances

variable [Chance γ] {c : Confirmation} {owned : Option Ident} {balances : IdMap Int8}
  {live : Option Bool} {chance next last : γ} {roll defence : UInt8} {paid : Settled γ}

theorem Settlement.takesItsDue (settlement : Settlement owned balances live chance c paid)
    (drawn : Chance.roll chance = (roll, next)) (met : Chance.roll next = (defence, last))
    (priced : ∀ value, c = .currencyValue value → 0 ≤ value.toInt) :
    (paid.balances = balances ∨
      ∃ amount ∈ c.charge? roll, Debited owned balances amount paid.balances) ∧
    TakesItsDue owned balances roll defence paid c := by
  cases settlement with
  | always | division | roll => exact ⟨.inl rfl, rfl⟩
  | price own there affordable =>
    have debited := debited_price own there affordable (priced _ rfl)
    exact ⟨.inr ⟨_, rfl, debited⟩, debited, rfl⟩
  | rolledPrice drawn' staked =>
    obtain ⟨rfl, rfl⟩ := Prod.mk.inj (drawn.symm.trans drawn')
    have debited := staked.debited
    exact ⟨.inr ⟨_, rfl, debited⟩, iff_of_true debited rfl, iff_of_true rfl debited.covers⟩
  | unpaidPrice drawn' short =>
    obtain ⟨rfl, rfl⟩ := Prod.mk.inj (drawn.symm.trans drawn')
    have short := not_covers short
    exact ⟨.inl rfl, iff_of_false (fun debited => short debited.covers) (by simp),
      iff_of_false (by simp) short⟩
  | contest drawn' met' staked =>
    obtain ⟨rfl, rfl⟩ := Prod.mk.inj (drawn.symm.trans drawn')
    obtain ⟨rfl, rfl⟩ := Prod.mk.inj (met.symm.trans met')
    -- Without a currency of one's own nothing is at stake.
    obtain ⟨own, kept⟩ | staked := staked
    · have nothing : ¬ Covers owned balances roll.toNat := not_covers (by simp [own])
      exact ⟨.inl kept, iff_of_false (fun debited => nothing debited.covers) nothing,
        contest_eq_confirmed.trans (by simp [own])⟩
    · have debited := staked.debited
      exact ⟨.inr ⟨_, rfl, debited⟩, iff_of_true debited debited.covers,
        contest_eq_confirmed.trans (by simp [debited.covers])⟩
  | unpaidContest drawn' met' own short =>
    obtain ⟨rfl, rfl⟩ := Prod.mk.inj (drawn.symm.trans drawn')
    have short : ¬ Covers owned balances roll.toNat := by
      refine not_covers ?_
      rw [own]
      simpa using short
    have owns : owned ≠ none := by
      rintro rfl
      simp at own
    exact ⟨.inl rfl, iff_of_false (fun debited => short debited.covers) short,
      iff_of_false (by simp) (by simp [short, owns])⟩

/-- A confirmation that may be tried is settled, and takes nothing but what it says. -/
theorem settle_takes_what_it_says (live : Option Bool) (drawn : Chance.roll chance = (roll, next))
    (met : Chance.roll next = (defence, last))
    (priced : ∀ value, c = .currencyValue value → 0 ≤ value.toInt)
    (purse : ∀ currency ∈ owned, balances.contains currency = true)
    (affordable : c.canAfford owned balances = .ok true) :
    ∃ paid, c.settle owned balances live chance = .ok paid ∧
      (∀ id, owned ≠ some id → paid.balances.get? id = balances.get? id) ∧
      (paid.balances = balances ∨
        ∃ amount ∈ c.charge? roll, Debited owned balances amount paid.balances) ∧
      TakesItsDue owned balances roll defence paid c := by
  obtain ⟨paid, settled⟩ := exists_settle live chance purse affordable
  have due := (settlement_of_settle settled).takesItsDue drawn met priced
  exact ⟨paid, settled, fun id other => (charged_settle settled).get? other, due⟩

theorem settle_takes_what_it_says_spent :
    let purse : IdMap Int8 := .ofList [(⟨1⟩, 127), (⟨2⟩, -128)]
    let chance : DrawScript := ⟨[127, 128], 0, by decide⟩
    (∀ currency ∈ some ⟨1⟩, purse.contains currency = true) ∧
      diceAdversarial.canAfford (some ⟨1⟩) purse = .ok true ∧
      ∃ paid, diceAdversarial.settle (some ⟨1⟩) purse none chance = .ok paid ∧
        paid.result ≠ .confirmed ∧ Debited (some ⟨1⟩) purse 127 paid.balances ∧
        paid.balances.get? ⟨2⟩ = some (-128) := by
  intro purse chance
  have there : ∀ currency ∈ some ⟨1⟩, purse.contains currency = true := by decide
  have covered : Covers (some ⟨1⟩) purse (127 : UInt8).toNat := ⟨⟨1⟩, 127, rfl, rfl, by decide⟩
  have drawn : Chance.roll chance = (127, chance.advance) := rfl
  obtain ⟨paid, settled, kept, -, stake, won⟩ :=
    settle_takes_what_it_says (c := diceAdversarial) none drawn rfl (by simp) there rfl
  exact ⟨there, rfl, paid, settled, fun confirmed => absurd (won.1 confirmed).2 (by decide),
    stake.2 covered, kept ⟨2⟩ (by decide)⟩

end Parliament.Confirmation
