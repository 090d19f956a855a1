import Parliament.Proofs.Session.Progress

/-! # Prices that cannot be afforded

The host may ask first whether a fixed price can be afforded, and a declaration asks once more. Both
look at the same currency and compare in the same way, but the declaration asks only if nothing
turns it down. Apart from that, and unless counts run over, a declaration always has a result.
-/

namespace Parliament.Session

variable {γ α : Type} {s : Session γ α} {stage : Stage} {ballot person procedure : Ident}
  {p : Procedure} {confirmation : Confirmation} {declarers : List Ident}

/-! ## Four refusals -/

/-- None of the four reasons to turn a declaration down applies. -/
structure Admits (s : Session γ α) (stage : Stage) (ballot person : Ident) (p : Procedure)
    (declarers : List Ident) : Prop where
  declaring : stage ≠ .deciding
  applies : p.appliesTo ballot = true
  undeclared : p.id ∉ s.floor.declared
  /-- Whoever holds one of the roles may declare, and anybody if none is named. -/
  permitted : declarers = [] ∨
    ∃ held role, s.house.roles.get? person = some held ∧ role ∈ held ∧ role ∈ declarers

theorem any_contains {held : IdSet} :
    held.any declarers.contains = true ↔ ∃ role, role ∈ held ∧ role ∈ declarers := by
  simp [IdSet.any]

theorem refusal?_eq_none_iff :
    s.refusal? stage ballot person p declarers = .ok none ↔
      s.Admits stage ballot person p declarers := by
  unfold refusal?
  -- Each reason to turn down is looked at when those before it are known to be absent.
  split
  next deciding => exact iff_of_false (by simp) fun admits => admits.declaring deciding
  next declaring =>
  split
  next elsewhere =>
    refine iff_of_false (by simp) fun admits => ?_
    simp [admits.applies] at elsewhere
  next applies =>
  split
  next again => exact iff_of_false (by simp) fun admits => admits.undeclared (by simpa using again)
  next undeclared =>
  have admits (permitted) : s.Admits stage ballot person p declarers :=
    ⟨declaring, by simpa using applies, by simpa using undeclared, permitted⟩
  split
  next anybody => exact iff_of_true rfl (admits (.inl (by simpa using anybody)))
  next named =>
  have named : declarers ≠ [] := by simpa using named
  split
  next held seated =>
    split
    next heard =>
      obtain ⟨role, holds, may⟩ := any_contains.1 heard
      exact iff_of_true rfl (admits (.inr ⟨held, role, seated, holds, may⟩))
    next unheard =>
      refine iff_of_false (by simp) fun admits => ?_
      obtain nobody | ⟨held', role, seated', holds, may⟩ := admits.permitted
      · exact named nobody
      · obtain rfl := Option.some.inj (seated.symm.trans seated')
        exact unheard (any_contains.2 ⟨role, holds, may⟩)
  next unseated =>
    refine iff_of_false (by simp) fun admits => ?_
    obtain nobody | ⟨held, role, seated, -⟩ := admits.permitted
    · exact named nobody
    · simp [unseated] at seated

/-! ## A parish that feasts -/

/-- It costs more than there is in the alms box. -/
def feast : Procedure := ⟨⟨4⟩, "Feast", .declared (.currencyValue 6) [.member] [], []⟩

def feastParish : Rulebook := { parish with procedures := parish.procedures ++ [feast] }

def feastMeets : Session DrawScript StatusQuo := opening feastParish (.constant 3) {}

theorem reachable_feastMeets : Reachable feastMeets :=
  .start (start_of_check (check_of_english rfl rfl) _ _)

/-! ## Asking twice -/

theorem declareOpen_of_unaffordable [Chance γ] [ReturningOfficer α] {live : Option Bool}
    (counted : s.decision = .ok live)
    (short : confirmation.canAfford (s.ownedCurrency person) s.house.balances = .ok false) :
    ∃ value, confirmation = .currencyValue value ∧
      s.declareOpen person p confirmation = .error (.notAffordable value) := by
  cases confirmation with
  | currencyValue value =>
    refine ⟨value, rfl, ?_⟩
    rw [declareOpen, counted, ok_bind, Confirmation.settle]
    unfold Confirmation.settlePrice
    rw [short]
    rfl
  | always | divisionChamber | diceValue | diceCurrency | diceAdversarial =>
    simp [Confirmation.canAfford] at short

variable [Chance γ] [LawfulChance γ] [ReturningOfficer α]

/-- A declaration is a fault exactly if nothing turns it down and its fixed price is one that the
host could have known to be out of reach. Any other declaration has a result. -/
theorem Reachable.declare_fails_iff (reached : Reachable s)
    (keeps : KeepsWithin α s.rulebook.roleTable)
    (proposal : s.Proposal person procedure p confirmation declarers ballot stage)
    (fits : s.floor.tally.volume s.permissions < s.floor.tally.capacity)
    (room : ∀ paid, s.Tried person procedure p paid → paid.result.isConfirmed = true →
      s.floor.tally.HasRoom (pointsOf (effectsOf [p]))) :
    (∀ fault, s.declare person procedure = .error fault ↔
      ∃ value, fault = .notAffordable value ∧ confirmation = .currencyValue value ∧
        s.Admits stage ballot person p declarers ∧ s.canAfford person procedure = .ok false) ∧
    ((∃ o, s.declare person procedure = .ok o) ↔
      ¬ (s.Admits stage ballot person p declarers ∧ (∃ value, confirmation = .currencyValue value) ∧
        s.canAfford person procedure = .ok false)) := by
  have able := reached.able keeps
  have counted := Tally.decision_eq reached.polled.disjoint fits
  obtain ⟨refusal, asked⟩ := able.exists_refusal stage ballot p declarers proposal.known
  obtain ⟨can, told⟩ := Confirmation.exists_canAfford
    (fun currency hc => able.purse (listsCurrency_of_owned hc)) confirmation
  rw [proposal.declare_eq asked, proposal.canAfford_eq, told, ← refusal?_eq_none_iff, asked]
  cases refusal with
  | some reason => simp
  | none =>
    cases can with
    | true =>
      obtain ⟨o, declared⟩ := able.exists_declareOpen proposal asked told counted room
      simp [declared]
    | false =>
      -- Only a fixed price can be out of reach.
      obtain ⟨value, rfl, failed⟩ := declareOpen_of_unaffordable (p := p) counted told
      simp [failed, eq_comm]

theorem declare_fails_iff_feast :
    let s := feastMeets.after adaBegin
    s.Admits .declaring ⟨1⟩ ⟨1⟩ feast [.member] ∧ s.canAfford ⟨1⟩ ⟨4⟩ = .ok false ∧
      s.declare ⟨1⟩ ⟨4⟩ = .error (.notAffordable 6) ∧ ¬ ∃ o, s.declare ⟨1⟩ ⟨4⟩ = .ok o := by
  intro s
  have proposal : s.Proposal ⟨1⟩ ⟨4⟩ feast (.currencyValue 6) [.member] ⟨1⟩ .declaring :=
    ⟨by decide +kernel, by decide +kernel, by decide +kernel, [], rfl⟩
  have admits : s.Admits .declaring ⟨1⟩ ⟨1⟩ feast [.member] := by
    rw [← refusal?_eq_none_iff]
    decide +kernel
  have short : s.canAfford ⟨1⟩ ⟨4⟩ = .ok false := by decide +kernel
  obtain ⟨fails, succeeds⟩ := (reachable_feastMeets.after adaBegin).declare_fails_iff inferInstance
    proposal (by decide +kernel) fun _ _ _ => ⟨by decide +kernel, by decide +kernel⟩
  exact ⟨admits, short, (fails _).2 ⟨6, rfl, rfl, admits, short⟩,
    fun declared => succeeds.1 declared ⟨admits, ⟨6, rfl⟩, short⟩⟩

end Parliament.Session
