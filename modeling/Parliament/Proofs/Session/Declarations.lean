import Parliament.Proofs.Session.Orderly

/-! # What declarations leave behind

A declaration that does not go through leaves the session as it was, the source of chance and the
stake of a lost contest apart. Paying for a declaration makes nobody richer, unless the price is
fixed and below zero.
-/

namespace Parliament

/-- The declaration is turned down before anything is rolled or paid. -/
def Rejection.isRefusal : Rejection → Bool
  | notPermitted | notApplicable | alreadyDeclared | declarationsClosed => true
  | divisionFailed | rollTooLow .. | insufficientCurrency .. | outrolled .. => false

theorem Confirmation.Settlement.not_isRefusal {γ : Type} [Chance γ] {owned : Option Ident}
    {balances : IdMap Int8} {live : Option Bool} {chance : γ} {c : Confirmation}
    {paid : Settled γ} (h : Settlement owned balances live chance c paid) {reason : Rejection}
    (rejected : paid.result = .rejected reason) : reason.isRefusal = false := by
  cases h with
  | always | price | rolledPrice => simp at rejected
  | division =>
    unfold settleDivision at rejected
    split at rejected <;> cases rejected
    rfl
  | roll =>
    dsimp only at rejected
    split at rejected <;> cases rejected
    rfl
  | contest =>
    unfold Confirmation.contest at rejected
    split at rejected <;> cases rejected
    rfl
  | unpaidPrice | unpaidContest =>
    cases rejected
    rfl

/-! ## A parish that duels -/

def duel : Procedure := ⟨⟨5⟩, "Duel", .declared .diceAdversarial [] [], []⟩

def bounty : Procedure := ⟨⟨6⟩, "Bounty", .declared (.currencyValue (-2)) [] [], []⟩

/-- One may challenge the parish, and there is a bounty to be had. -/
def duelParish : Rulebook :=
  { parish with procedures := parish.procedures ++ [duel, bounty] }

namespace Session

def duelMeets : Session DrawScript StatusQuo :=
  opening duelParish ⟨[2, 5], 0, by decide⟩ {}

def duelOpens : List Call := [.register [⟨⟨1⟩, "Ada"⟩], .setUp, .startBallot ⟨1⟩]

theorem reachable_duelMeets : Reachable duelMeets :=
  .start (start_of_check (check_of_english rfl rfl) _ _)

variable {γ α : Type} {s : Session γ α} {person procedure : Ident}

/-! ## Declarations that pay the declarer -/

/-- A balance is higher behind the payment exactly if the price is fixed and below zero and the
balance is not full. -/
theorem Tried.pays_declarer_iff [Chance γ] {p : Procedure} {paid : Confirmation.Settled γ}
    (tried : s.Tried person procedure p paid) :
    Confirmation.Raises s.house.balances paid.balances ↔ ∃ value currency b,
      p.confirmation? = some (.currencyValue value) ∧ value.toInt < 0 ∧
      s.ownedCurrency person = some currency ∧ s.house.balances.get? currency = some b ∧
      b.toInt < 127 := by
  obtain ⟨confirmation, declarers, ballot, stage, live, proposal, -, -, settled⟩ := tried
  obtain ⟨ballots, kind⟩ := proposal.kind
  have asked : p.confirmation? = some confirmation := by
    rw [Procedure.confirmation?, kind]
    rfl
  rw [Confirmation.raises_iff settled, asked]
  simp only [Option.some.injEq]

theorem pays_declarer_duel :
    ∃ p paid, (duelMeets.after duelOpens).Tried ⟨1⟩ ⟨5⟩ p paid ∧
      paid.balances.get? ⟨1⟩ = some 3 ∧
      ¬ Confirmation.Raises (duelMeets.after duelOpens).house.balances paid.balances := by
  have proposal : (duelMeets.after duelOpens).Proposal ⟨1⟩ ⟨5⟩ duel .diceAdversarial [] ⟨1⟩
      .declaring :=
    ⟨by decide +kernel, by decide +kernel, by decide +kernel, [], rfl⟩
  have tried : (duelMeets.after duelOpens).Tried ⟨1⟩ ⟨5⟩ duel
      ⟨.rejected (.outrolled 2 5), .ofList [(⟨1⟩, 3)], ⟨[2, 5], 0, by decide⟩⟩ :=
    ⟨_, _, _, _, none, proposal, rfl, rfl, rfl⟩
  refine ⟨_, _, tried, rfl, ?_⟩
  rw [tried.pays_declarer_iff]
  simp [duel, Procedure.confirmation?, ProcedureKind.confirmation?]

/-- The bounty of two is charged as a price of minus two. -/
theorem bounty_pays_declarer :
    Reachable (duelMeets.after duelOpens) ∧
      ∃ p paid, (duelMeets.after duelOpens).Tried ⟨1⟩ ⟨6⟩ p paid ∧
        (duelMeets.after duelOpens).house.balances.get? ⟨1⟩ = some 5 ∧
        paid.balances.get? ⟨1⟩ = some 7 := by
  have proposal : (duelMeets.after duelOpens).Proposal ⟨1⟩ ⟨6⟩ bounty (.currencyValue (-2)) []
      ⟨1⟩ .declaring :=
    ⟨by decide +kernel, by decide +kernel, by decide +kernel, [], rfl⟩
  have tried : (duelMeets.after duelOpens).Tried ⟨1⟩ ⟨6⟩ bounty
      ⟨.confirmed, .ofList [(⟨1⟩, 7)], ⟨[2, 5], 0, by decide⟩⟩ :=
    ⟨_, _, _, _, none, proposal, rfl, rfl, rfl⟩
  exact ⟨reachable_duelMeets.after duelOpens, bounty, _, tried, by decide +kernel, rfl⟩

/-! ## Declarations that do not go through -/

theorem isRefusal_of_refusal? {stage : Stage} {ballot : Ident} {p : Procedure}
    {declarers : List Ident} {reason : Rejection}
    (h : s.refusal? stage ballot person p declarers = .ok (some reason)) :
    reason.isRefusal = true := by
  unfold refusal? at h
  split_ifs at h
  · cases h
    rfl
  · cases h
    rfl
  · cases h
    rfl
  · cases h
  · split at h
    next held _ =>
      split_ifs at h
      · cases h
      · cases h
        rfl
    next => cases h

/-- All that there is to see behind a declaration that did not go through. -/
structure LeavesNoTrace (s : Session γ α) (person : Ident)
    (o : Outcome γ α DeclarationResult) : Prop where
  elsewhere : o.session =
    { s with
      house := { s.house with balances := o.session.house.balances }
      chance := o.session.chance }
  unpaid : (∀ declarer defender, o.answer = .rejected (.outrolled declarer defender) →
    s.ownedCurrency person = none) → o.session.house.balances = s.house.balances
  /-- The stake of a contest that was lost is gone. -/
  paid : ∀ declarer defender currency, o.answer = .rejected (.outrolled declarer defender) →
    s.ownedCurrency person = some currency →
    ∃ b b', s.house.balances.get? currency = some b ∧ b'.toInt = b.toInt - declarer.toNat ∧
      o.session.house.balances = s.house.balances.insert currency b'
  undrawn : ∀ reason, o.answer = .rejected reason → reason.isRefusal = true →
    o.session.chance = s.chance
  signals : o.signals =
    if o.session.house.balances = s.house.balances then []
    else [.currenciesModified o.session.house.balances]

theorem leavesNoTrace_of_refused {reason : Rejection} (refused : reason.isRefusal = true) :
    LeavesNoTrace s person ⟨.rejected reason, s, []⟩ := by
  refine ⟨rfl, fun _ => rfl, ?_, fun _ _ _ => rfl, by simp⟩
  rintro declarer defender currency lost -
  cases lost
  simp [Rejection.isRefusal] at refused

theorem Settling.eq_of_paid [ReturningOfficer α] {paid : Confirmation.Settled γ}
    {u : Session γ α} {signals : List Signal} (due : s.pendingElections = [])
    (h : Settling (s.paidBy paid) (s.paidChanges paid) u signals) :
    u = s.paidBy paid ∧ signals = (s.paidChanges paid).news (s.paidBy paid).house := by
  cases h with
  | quiet => exact ⟨rfl, rfl⟩
  | amended _ touched => simp [paidChanges] at touched
  | voted pending => exact absurd due pending

theorem news_paidChanges (paid : Confirmation.Settled γ) :
    (s.paidChanges paid).news (s.paidBy paid).house =
      if paid.balances = s.house.balances then [] else [.currenciesModified paid.balances] := by
  by_cases same : paid.balances = s.house.balances
  · simp [Changes.news, paidChanges, same]
  · simp [Changes.news, paidChanges, paidBy, same]

variable [Chance γ]

theorem leavesNoTrace_of_missed {p : Procedure} {paid : Confirmation.Settled γ}
    (tried : s.Tried person procedure p paid) (missed : paid.result.isConfirmed = false) :
    LeavesNoTrace s person
      ⟨paid.result, s.paidBy paid, (s.paidChanges paid).news (s.paidBy paid).house⟩ := by
  obtain ⟨confirmation, declarers, ballot, stage, live, -, -, -, settled⟩ := tried
  refine ⟨rfl, fun free => ?_, fun declarer defender currency lost own => ?_,
    fun reason rejected refused => ?_, news_paidChanges paid⟩
  · -- Only a contest takes anything from whoever is not heard.
    show paid.balances = s.house.balances
    obtain ⟨same, -⟩ | ⟨declarer, defender, lost, staked⟩ :=
      Confirmation.forfeit_of_missed settled missed
    · exact same
    · obtain ⟨currency, b, own, -⟩ := staked
      simp [free declarer defender lost] at own
  · obtain ⟨-, free⟩ | ⟨declarer', defender', lost', staked⟩ :=
      Confirmation.forfeit_of_missed settled missed
    · simp [free declarer defender lost] at own
    · obtain ⟨currency', b, own', there, covered, after⟩ := staked
      obtain rfl := Option.some.inj (own.symm.trans own')
      dsimp only at lost
      rw [lost', DeclarationResult.rejected.injEq, Rejection.outrolled.injEq] at lost
      obtain ⟨rfl, -⟩ := lost
      exact ⟨b, _, there, Confirmation.toInt_sub_roll covered, after⟩
  · have tried := (Confirmation.settlement_of_settle settled).not_isRefusal rejected
    simp [refused] at tried

variable [ReturningOfficer α]

/-- Whoever is not heard has changed nothing, has paid at most the stake of a contest, and has not
even rolled if the declaration was turned down. -/
theorem Reachable.declare_leaves_no_trace (reached : Reachable s)
    {o : Outcome γ α DeclarationResult} (declared : s.declare person procedure = .ok o)
    (failed : o.answer.isConfirmed = false) : LeavesNoTrace s person o := by
  have performed : s.perform (.declare person procedure) = .ok (o.map .declared) := by
    rw [Session.perform, declared]
    rfl
  obtain ⟨answer, t, signals⟩ := o
  cases performed_declare performed with
  | turnDown _ refused => exact leavesNoTrace_of_refused (isRefusal_of_refusal? refused)
  | miss tried missed settling =>
    obtain ⟨same, told⟩ := settling.eq_of_paid reached.orderly.settled
    dsimp only at same told
    subst same told
    exact leavesNoTrace_of_missed tried missed
  | declare _ confirmed =>
    rw [failed] at confirmed
    cases confirmed

theorem declare_leaves_no_trace_duel :
    let s := duelMeets.after duelOpens
    ∃ o, s.declare ⟨1⟩ ⟨5⟩ = .ok o ∧ o.answer = .rejected (.outrolled 2 5) ∧
      LeavesNoTrace s ⟨1⟩ o := by
  have answer : ((duelMeets.after duelOpens).declare ⟨1⟩ ⟨5⟩).map (·.answer) =
      .ok (.rejected (.outrolled 2 5)) := rfl
  cases declared : (duelMeets.after duelOpens).declare ⟨1⟩ ⟨5⟩ with
  | error e => simp [declared, Except.map] at answer
  | ok o =>
    rw [declared] at answer
    have answer : o.answer = .rejected (.outrolled 2 5) := Except.ok.inj answer
    have failed : o.answer.isConfirmed = false := by
      rw [answer]
      rfl
    have reached := reachable_duelMeets.after duelOpens
    exact ⟨o, declared, answer, reached.declare_leaves_no_trace declared failed⟩

end Session

end Parliament
