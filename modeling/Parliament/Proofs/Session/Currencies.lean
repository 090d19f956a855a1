import Parliament.Proofs.Session.Effects

/-! # What changes of currency come to

An effect on currencies pays its targets one after the other, and a balance stops at the ends of its
range each time. The payments of one effect have all the same sign, so a balance ends where one
payment of the whole amount, cut once, would have taken it. The order of the targets does not
matter.
-/

namespace Parliament

/-! ## Repeated payments -/

namespace Balance

theorem clamp_toInt (b : Int8) : clamp b.toInt = b := by
  have low := b.le_toInt
  have high := b.toInt_lt
  rw [← Int8.toInt_inj, toInt_clamp]
  omega

theorem clamp_add_mul (b delta : Int8) (times : Nat) :
    clamp ((add b delta).toInt + times * delta.toInt) =
      clamp (b.toInt + (times + 1 : Nat) * delta.toInt) := by
  have whole : ((times + 1 : Nat) : Int) * delta.toInt = times * delta.toInt + delta.toInt := by
    rw [Int.natCast_succ, Int.add_mul, Int.one_mul]
  -- Payments of one sign do not move a balance away from the end at which it has stopped.
  have signs : 0 ≤ delta.toInt ∧ 0 ≤ times * delta.toInt ∨
      delta.toInt ≤ 0 ∧ times * delta.toInt ≤ 0 := by
    rcases Int.le_total 0 delta.toInt with positive | negative
    · exact .inl ⟨positive, Int.mul_nonneg (Int.natCast_nonneg times) positive⟩
    · exact .inr ⟨negative, Int.mul_nonpos_of_nonneg_of_nonpos (Int.natCast_nonneg times) negative⟩
  have low := b.le_toInt
  have high := b.toInt_lt
  rw [← Int8.toInt_inj, toInt_clamp, toInt_clamp, toInt_add, whole]
  omega

end Balance

namespace House

variable {h h' : House} {r : Rulebook} {currency : Ident}

theorem get?_adjustBalances {delta : Int8} {currencies : List Ident}
    (adjusted : h.adjustBalances delta currencies = .ok h') (id : Ident) :
    h'.balances.get? id = (h.balances.get? id).map fun b =>
      Balance.clamp (b.toInt + currencies.count id * delta.toInt) := by
  unfold adjustBalances at adjusted
  induction currencies generalizing h with
  | nil =>
    rw [List.foldlM_nil, pure_eq_ok] at adjusted
    simp [adjusted, Balance.clamp_toInt]
  | cons currency currencies ih =>
    rw [List.foldlM_cons, bind_eq_ok] at adjusted
    obtain ⟨h₁, first, rest⟩ := adjusted
    obtain ⟨b, there, rfl⟩ := adjustBalance_eq_ok first
    rw [ih rest, IdMap.get?_insert]
    split
    next same =>
      subst same
      rw [there, List.count_cons_self, Option.map_some, Option.map_some, Balance.clamp_add_mul]
    next other => rw [List.count_cons_of_ne (Ne.symm other)]

/-! ## How often a currency is paid -/

/-- How often a currency occurs in what a target stands for. A party that is active stands for the
first currency that the book gives it, and so does a region. -/
def occurrences (h : House) (r : Rulebook) (target currency : Ident) : Nat :=
  if target = .stateFunds then if r.stateCurrency = some currency then 1 else 0
  else if target = .partyFunds then
    h.activeParties.toList.countP fun party => r.partyCurrency party = some currency
  else if target = .regionFunds then
    h.activeRegions.toList.countP fun region => r.regionCurrency region = some currency
  else if target = currency then 1 else 0

theorem count_toList (owned : Option Ident) :
    owned.toList.count currency = if owned = some currency then 1 else 0 := by
  cases owned <;> simp [List.count_singleton]

theorem count_filterMap {factions : List Ident} (f : Ident → Option Ident) :
    (factions.filterMap f).count currency = factions.countP fun id => f id = some currency := by
  rw [List.count, List.countP_filterMap]
  refine List.countP_congr fun id _ => ?_
  cases f id <;> simp

theorem count_payees {target : Ident} {l : List Ident} (found : h.payees r target = .ok l) :
    l.count currency = h.occurrences r target currency := by
  unfold payees at found
  unfold occurrences
  split at found
  next state =>
    rw [if_pos state]
    split at found
    next owned treasury =>
      obtain rfl := Except.ok.inj found
      rw [treasury]
      exact count_toList (some owned)
    next => simp at found
  next other =>
    rw [if_neg other]
    split at found
    next party =>
      obtain rfl := Except.ok.inj found
      rw [if_pos party, count_filterMap]
    next noParty =>
      rw [if_neg noParty]
      split at found
      next region =>
        obtain rfl := Except.ok.inj found
        rw [if_pos region, count_filterMap]
      next noRegion =>
        obtain rfl := Except.ok.inj found
        rw [if_neg noRegion, List.count_singleton]
        simp

theorem count_allPayees {targets l : List Ident} (found : h.allPayees r targets = .ok l) :
    l.count currency = (targets.map fun target => h.occurrences r target currency).sum := by
  induction targets generalizing l with
  | nil =>
    obtain rfl := Except.ok.inj found
    rfl
  | cons target targets ih =>
    obtain ⟨first, hf, found⟩ := bind_eq_ok.1 found
    obtain ⟨rest, hr, found⟩ := bind_eq_ok.1 found
    obtain rfl := pure_eq_ok.1 found
    rw [List.count_append, count_payees hf, ih hr, List.map_cons, List.sum_cons]

end House

/-- The change that an effect on currencies makes to a balance each time. The lowest value has no
opposite and is turned into the highest. -/
def ProcedureEffect.change (e : ProcedureEffect) : Int :=
  match e.kind with
  | .currencySubtract => min (-e.value.toInt) 127
  | _ => e.value.toInt

theorem ProcedureEffect.toInt_delta (e : ProcedureEffect) : e.delta.toInt = e.change := by
  have high := e.value.toInt_lt
  unfold delta change
  cases e.kind with
  | currencySubtract =>
    dsimp only
    rw [Balance.toInt_neg]
    omega
  | _ => rfl

namespace Session

variable {γ α : Type} {s t : Session γ α} {c d : Changes}

/-- How often an effect with these targets pays a currency. Without targets it is paid once, by the
declarer or, if nobody declares, by the state. -/
def payments (s : Session γ α) (declarer? : Option Ident) (targets : List Ident)
    (currency : Ident) : Nat :=
  match targets, declarer? with
  | [], some person => if s.ownedCurrency person = some currency then 1 else 0
  | [], none => if s.rulebook.stateCurrency = some currency then 1 else 0
  | targets, _ => (targets.map fun target => s.house.occurrences s.rulebook target currency).sum

theorem payments_of_ne_nil {targets : List Ident} (some_target : targets ≠ [])
    (declarer? : Option Ident) (currency : Ident) :
    s.payments declarer? targets currency =
      (targets.map fun target => s.house.occurrences s.rulebook target currency).sum := by
  cases targets with
  | nil => exact absurd rfl some_target
  | cons target targets => rfl

theorem payments_perm {targets others : List Ident} (same : others.Perm targets)
    (declarer? : Option Ident) : s.payments declarer? others = s.payments declarer? targets := by
  funext currency
  cases targets with
  | nil => rw [same.eq_nil]
  | cons target targets =>
    have some_target : others ≠ [] := by
      rintro rfl
      exact absurd same.symm.eq_nil (by simp)
    rw [payments_of_ne_nil some_target, payments_of_ne_nil (List.cons_ne_nil _ _)]
    exact (same.map _).sum_eq

theorem count_effectPayees {scope : Scope} {targets l : List Ident}
    (found : s.effectPayees scope targets = .ok l) (currency : Ident) :
    l.count currency = s.payments scope.declarer? targets currency := by
  unfold effectPayees at found
  cases targets with
  | nil =>
    rw [List.isEmpty_nil, if_pos rfl] at found
    split at found
    next person declares =>
      obtain rfl := Except.ok.inj found
      rw [declares, House.count_toList]
      rfl
    next nobody =>
      obtain rfl := Except.ok.inj found
      rw [nobody, House.count_toList]
      rfl
  | cons target targets =>
    rw [if_neg (by simp)] at found
    exact House.count_allPayees found

/-! ## One effect -/

/-- Every balance has moved by the change as often as the currency is paid, and nothing else has
changed. That balances were touched is noted if anything is paid, even if none has moved. -/
structure Moved (change : Int) (times : Ident → Nat) (p q : Session γ α × Changes) : Prop where
  balances : ∀ currency, q.1.house.balances.get? currency =
    (p.1.house.balances.get? currency).map fun b =>
      Balance.clamp (b.toInt + times currency * change)
  elsewhere :
    q.1 = { p.1 with house := { p.1.house with balances := q.1.house.balances } }
  noted : q.2.currencies = true ↔ p.2.currencies = true ∨ ∃ currency, 0 < times currency
  unnoted : q.2 = { p.2 with currencies := q.2.currencies }

theorem Moved.unique {change : Int} {times : Ident → Nat} {p q q' : Session γ α × Changes}
    (h : Moved change times p q) (h' : Moved change times p q') : q = q' := by
  obtain ⟨t, d⟩ := q
  obtain ⟨t', d'⟩ := q'
  have balances : t.house.balances = t'.house.balances :=
    IdMap.ext_get? fun currency => (h.balances currency).trans (h'.balances currency).symm
  have noted : d.currencies = d'.currencies :=
    Bool.eq_iff_iff.2 (h.noted.trans h'.noted.symm)
  have session := h.elsewhere
  have changes := h.unnoted
  dsimp only at session changes
  rw [balances] at session
  rw [noted] at changes
  exact Prod.ext (session.trans h'.elsewhere.symm) (changes.trans h'.unnoted.symm)

theorem moved_of_adjustBalances {delta : Int8} {currencies : List Ident}
    (h : s.adjustBalances delta currencies c = .ok (t, d)) :
    Moved delta.toInt (fun currency => currencies.count currency) (s, c) (t, d) := by
  obtain ⟨house, adjusted, h⟩ := bind_eq_ok.1 h
  obtain ⟨m, rfl, -⟩ := House.adjustBalances_eq_ok adjusted
  rw [pure_eq_ok, Prod.mk.injEq] at h
  obtain ⟨rfl, rfl⟩ := h
  refine ⟨House.get?_adjustBalances adjusted, rfl, ?_, rfl⟩
  cases currencies with
  | nil => simp
  | cons currency currencies =>
    have paid : 0 < (currency :: currencies).count currency := by simp
    simp only [List.isEmpty_cons, Bool.not_false, Bool.or_true, true_iff]
    exact .inr ⟨currency, paid⟩

theorem Moved.congr {change change' : Int} {times times' : Ident → Nat}
    {p q : Session γ α × Changes} (h : Moved change times p q) (sameChange : change = change')
    (sameTimes : times = times') : Moved change' times' p q := by
  rw [← sameChange, ← sameTimes]
  exact h

variable [Chance γ]

theorem applyProcedureEffect_currency {e : ProcedureEffect} (currency : e.kind.isCurrency = true)
    {scope : Scope} (now : scope.holdsBack = false) (s : Session γ α) (c : Changes) (id : Ident) :
    applyProcedureEffect scope s c id e =
      (s.effectPayees scope e.targets >>= fun l => s.adjustBalances e.delta l c) := by
  unfold applyProcedureEffect
  cases kind : e.kind with
  | currencyAdd | currencySubtract => simp only [now, Bool.false_eq_true, if_false]
  | _ => simp [kind, ProcedureEffectKind.isCurrency] at currency

theorem exists_moved_of_procedureEffect (h : s.Grounded) {e : ProcedureEffect}
    (currency : e.kind.isCurrency = true) (listed : ∀ id ∈ e.targets, s.rulebook.ListsPayee id)
    {scope : Scope} (now : scope.holdsBack = false) (c : Changes) (id : Ident) :
    ∃ q, applyProcedureEffect scope s c id e = .ok q ∧
      Moved e.change (s.payments scope.declarer? e.targets) (s, c) q := by
  obtain ⟨l, found, kept⟩ := exists_effectPayees h.covered.currencies scope listed
  obtain ⟨⟨t, d⟩, adjusted⟩ := exists_adjustBalances h e.delta c kept
  rw [applyProcedureEffect_currency currency now, found, ok_bind, adjusted]
  exact ⟨_, rfl, (moved_of_adjustBalances adjusted).congr e.toInt_delta
    (funext (count_effectPayees found))⟩

omit [Chance γ] in
theorem exists_moved_of_ballotEffect (h : s.Grounded) {e : BallotEffect}
    (currency : e.kind = .modifyCurrency) (listed : ∀ id ∈ e.targets, s.rulebook.ListsPayee id)
    (c : Changes) :
    ∃ q, applyBallotEffect s c e = .ok q ∧
      Moved e.value.toInt (s.payments none e.targets) (s, c) q := by
  obtain ⟨l, found, kept⟩ :=
    House.exists_allPayees (h := s.house) h.covered.currencies listed
  obtain ⟨⟨t, d⟩, adjusted⟩ := exists_adjustBalances h e.value c kept
  have times : (fun id => l.count id) = s.payments none e.targets := by
    funext id
    rw [payments_of_ne_nil e.targets_ne_nil]
    exact House.count_allPayees found
  unfold applyBallotEffect
  rw [currency]
  dsimp only
  rw [found, ok_bind, adjusted]
  exact ⟨_, rfl, (moved_of_adjustBalances adjusted).congr rfl times⟩

/-! ## At any moment -/

variable [ReturningOfficer α]

/-- The moments at which effects take place: when a call begins, when the floor has been cleared or
a declaration has been paid for, and behind other effects. -/
inductive Underway : Session γ α → Prop
  | call {s : Session γ α} (reached : Reachable s) : Underway s
  | cleared {s : Session γ α} (reached : Reachable s) (started : UInt32) (id : Ident) :
    Underway (s.clearFloor started id)
  | listed {s : Session γ α} (reached : Reachable s) {person procedure : Ident} {p : Procedure}
    {paid : Confirmation.Settled γ} (tried : s.Tried person procedure p paid) :
    Underway ((s.paidBy paid).listing p)
  | procedureEffect {s t : Session γ α} {c d : Changes} {scope : Scope} {id : Ident}
    {e : ProcedureEffect} (begun : Underway s)
    (applied : applyProcedureEffect scope s c id e = .ok (t, d)) : Underway t
  | ballotEffect {s t : Session γ α} {c d : Changes} {e : BallotEffect} (begun : Underway s)
    (applied : applyBallotEffect s c e = .ok (t, d)) : Underway t

theorem Underway.grounded (h : Underway s) : s.Grounded := by
  induction h with
  | call reached => exact reached.orderly.toGrounded
  | cleared reached started id => exact reached.orderly.toGrounded.clearFloor started id
  | listed reached tried => exact (tried.grounded reached.orderly.toGrounded).listing _
  | @procedureEffect s t c d scope id e _ applied ih =>
    have bundle : Bundle scope (s, c) (t, d) := .single (applyProcedureEffect_step applied)
    exact bundle.grounded ih
  | @ballotEffect s t c d e _ applied ih =>
    have bundle : Bundle .setup (s, c) (t, d) := .single (applyBallotEffect_step applied)
    exact bundle.grounded ih

/-- An effect on currencies that is not held back always takes place. It moves each balance at once
by all that it pays, and effects that differ in the order of their targets come to the same. -/
theorem Underway.currencies_move (underway : Underway s) (c : Changes) :
    (∀ scope : Scope, scope.holdsBack = false → ∀ p ∈ s.rulebook.procedures, ∀ e ∈ p.effects,
      e.kind.isCurrency = true →
      ∃ q, applyProcedureEffect scope s c p.id e = .ok q ∧
        Moved e.change (s.payments scope.declarer? e.targets) (s, c) q ∧
        ∀ e' : ProcedureEffect, e'.kind = e.kind → e'.value = e.value →
          e'.targets.Perm e.targets → applyProcedureEffect scope s c p.id e' = .ok q) ∧
    (∀ b ∈ s.rulebook.ballots, ∀ passed, ∀ e ∈ (b.consequence passed).effects,
      e.kind = .modifyCurrency →
      ∃ q, applyBallotEffect s c e = .ok q ∧
        Moved e.value.toInt (s.payments none e.targets) (s, c) q ∧
        ∀ e' : BallotEffect, e'.kind = e.kind → e'.value = e.value →
          e'.targets.Perm e.targets → applyBallotEffect s c e' = .ok q) := by
  have grounded := underway.grounded
  constructor
  · intro scope now p listed e inside currency
    have payees := ((grounded.covered.procedures p listed).effects e inside).payees currency
    obtain ⟨q, applied, moved⟩ :=
      exists_moved_of_procedureEffect grounded currency payees now c p.id
    refine ⟨q, applied, moved, fun e' kind value same => ?_⟩
    -- In another order the targets pay the same currencies, and equally often.
    obtain ⟨q', applied', moved'⟩ := exists_moved_of_procedureEffect grounded (kind ▸ currency)
      (fun id hid => payees id (same.subset hid)) now c p.id
    have change : e'.change = e.change := by
      rw [ProcedureEffect.change, ProcedureEffect.change, kind, value]
    rw [applied', moved.unique (moved'.congr change (payments_perm same _))]
  · intro b listed passed e inside currency
    have covers := (grounded.covered.ballots b listed).consequence passed
    have payees := (covers.effects e inside).payees currency
    obtain ⟨q, applied, moved⟩ := exists_moved_of_ballotEffect grounded currency payees c
    refine ⟨q, applied, moved, fun e' kind value same => ?_⟩
    obtain ⟨q', applied', moved'⟩ := exists_moved_of_ballotEffect grounded (kind.trans currency)
      (fun id hid => payees id (same.subset hid)) c
    rw [applied', moved.unique (moved'.congr (by rw [value]) (payments_perm same _))]

/-- The alms are taken twice, as the currency of the state and by name. -/
def levy : Procedure :=
  ⟨⟨8⟩, "Levy", .declared .always [] [], [⟨.currencySubtract, [.stateFunds, ⟨1⟩], 100, rfl⟩]⟩

def levyParish : Rulebook := { parish with procedures := parish.procedures ++ [levy] }

def levyMeets : Session DrawScript StatusQuo := opening levyParish (.constant 3) {}

theorem reachable_levyMeets : Reachable levyMeets :=
  .start (start_of_check (check_of_english rfl rfl) _ _)

theorem currencies_move_levy :
    let s := levyMeets.after adaBegin
    let e : ProcedureEffect := ⟨.currencySubtract, [⟨1⟩, .stateFunds], 100, rfl⟩
    Underway s ∧ ∃ q, applyProcedureEffect (.declared ⟨1⟩) s {} ⟨8⟩ e = .ok q ∧
      s.house.balances.get? ⟨1⟩ = some 5 ∧ q.1.house.balances.get? ⟨1⟩ = some (-128) ∧
      q.2.currencies = true := by
  intro s e
  have underway : Underway s := .call (reachable_levyMeets.after adaBegin)
  have before : s.house.balances.get? ⟨1⟩ = some 5 := by decide +kernel
  have twice : s.payments (some ⟨1⟩) [.stateFunds, ⟨1⟩] ⟨1⟩ = 2 := by decide +kernel
  obtain ⟨q, -, moved, permuted⟩ := (underway.currencies_move {}).1 (.declared ⟨1⟩) rfl levy
    (by decide +kernel) _ (List.mem_singleton.2 rfl) rfl
  refine ⟨underway, q, permuted e rfl rfl (.swap _ _ _), before, ?_, moved.noted.2 (.inr ⟨⟨1⟩, ?_⟩)⟩
  · rw [moved.balances, before]
    show some (Balance.clamp (5 + (s.payments (some ⟨1⟩) [.stateFunds, ⟨1⟩] ⟨1⟩ : Int) * -100)) = _
    rw [twice]
    rfl
  · show 0 < s.payments (some ⟨1⟩) [.stateFunds, ⟨1⟩] ⟨1⟩
    rw [twice]
    decide

end Session

end Parliament
