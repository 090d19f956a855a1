import Parliament.Proofs.Session.Currencies

/-! # The funds of parties and of regions

One name stands for the funds of all active parties, and another for those of all active regions.
It is read faction by faction, and a faction stands for the first currency that the book gives it.
So the name reaches every currency of an active faction as long as no faction owns two of them; a
second one is passed over.
-/

namespace Parliament

inductive FactionKind
  | party
  | region
deriving DecidableEq

namespace FactionKind

/-- The target that stands for the funds of all active factions of the kind. -/
def funds : FactionKind → Ident
  | party => .partyFunds
  | region => .regionFunds

def owner : FactionKind → Ident → CurrencyOwner
  | party, id => .party id
  | region, id => .region id

theorem owner_inj {k : FactionKind} {a b : Ident} : k.owner a = k.owner b ↔ a = b := by
  cases k <;> simp [owner]

end FactionKind

/-! ## Purses -/

namespace Rulebook

variable {r : Rulebook} {d : CurrencyDef} {id : Ident}

/-- The first currency that the book gives to its owner. -/
def Purse (r : Rulebook) (d : CurrencyDef) : Prop :=
  ∃ before after, r.currencies = before ++ d :: after ∧ ∀ c ∈ before, c.owner ≠ d.owner

theorem purse_iff : r.Purse d ↔ r.currencies.find? (fun c => c.owner = d.owner) = some d := by
  rw [List.find?_eq_some_iff_append]
  simp [Purse]

theorem Purse.listed (h : r.Purse d) : d ∈ r.currencies :=
  List.mem_of_find?_eq_some (purse_iff.1 h)

theorem currencyOf_eq_some_iff {owner : CurrencyOwner} :
    r.currencyOf owner = some id ↔ ∃ d, r.Purse d ∧ d.owner = owner ∧ d.id = id := by
  rw [currencyOf, Option.map_eq_some_iff]
  constructor
  · rintro ⟨d, first, rfl⟩
    have same : d.owner = owner := by simpa using List.find?_some first
    exact ⟨d, purse_iff.2 (same ▸ first), same, rfl⟩
  · rintro ⟨d, purse, rfl, rfl⟩
    exact ⟨d, purse_iff.1 purse, rfl⟩

theorem forall_purse_iff {P : CurrencyOwner → Prop} :
    (∀ d ∈ r.currencies, P d.owner → r.Purse d) ↔
      ∀ c ∈ r.currencies, ∀ d ∈ r.currencies, P d.owner → c.owner = d.owner → c = d := by
  constructor
  · intro purses c hc d hd asked same
    have first := purse_iff.1 (purses c hc (same ▸ asked))
    rw [same, purse_iff.1 (purses d hd asked)] at first
    exact (Option.some.inj first).symm
  · intro single d hd asked
    obtain ⟨c, first⟩ : ∃ c, r.currencies.find? (fun c => c.owner = d.owner) = some c := by
      rw [← Option.isSome_iff_exists, List.find?_isSome]
      exact ⟨d, hd, by simp⟩
    have same : c.owner = d.owner := by simpa using List.find?_some first
    rw [single c (List.mem_of_find?_eq_some first) d hd asked same] at first
    exact purse_iff.2 first

end Rulebook

/-! ## What the name stands for -/

namespace House

variable {h : House} {r : Rulebook} {k : FactionKind} {d : CurrencyDef} {currency : Ident}

def active (h : House) : FactionKind → IdSet
  | .party => h.activeParties
  | .region => h.activeRegions

/-- An active faction of the kind is the owner. -/
def IsActive (h : House) (k : FactionKind) (owner : CurrencyOwner) : Prop :=
  ∃ faction ∈ h.active k, owner = k.owner faction

theorem occurrences_funds (k : FactionKind) (currency : Ident) :
    h.occurrences r k.funds currency =
      (h.active k).toList.countP fun faction => r.currencyOf (k.owner faction) = some currency := by
  cases k <;> rfl

theorem occurrences_purse (distinct : (r.currencies.map (·.id)).Nodup) (purse : r.Purse d)
    (own : h.IsActive k d.owner) : h.occurrences r k.funds d.id = 1 := by
  obtain ⟨faction, active, owner⟩ := own
  have this_one : ∀ other ∈ (h.active k).toList,
      (decide (r.currencyOf (k.owner other) = some d.id) = true ↔ (other == faction) = true) := by
    intro other _
    rw [decide_eq_true_iff, Rulebook.currencyOf_eq_some_iff, beq_iff_eq,
      ← FactionKind.owner_inj (k := k), ← owner]
    constructor
    · rintro ⟨c, found, owned, same⟩
      rw [← owned, List.inj_on_of_nodup_map distinct found.listed purse.listed same]
    · intro same
      exact ⟨d, purse, same.symm, rfl⟩
  rw [occurrences_funds, List.countP_congr this_one]
  exact List.count_eq_one_of_mem (h.active k).nodup_toList (IdSet.mem_toList.2 active)

theorem occurrences_other
    (other : ∀ d, r.Purse d → h.IsActive k d.owner → d.id ≠ currency) :
    h.occurrences r k.funds currency = 0 := by
  rw [occurrences_funds, List.countP_eq_zero]
  intro faction active
  rw [decide_eq_true_iff, Rulebook.currencyOf_eq_some_iff]
  rintro ⟨d, purse, owner, same⟩
  exact other d purse ⟨faction, IdSet.mem_toList.1 active, owner⟩ same

end House

namespace Session

variable {γ α : Type} {s t : Session γ α}

/-- The purse of every active faction of the kind has moved by the change, cut to its range, and no
other balance has. -/
structure Reaches (s : Session γ α) (k : FactionKind) (change : Int) (t : Session γ α) : Prop where
  purses : ∀ d, s.rulebook.Purse d → s.house.IsActive k d.owner →
    ∃ b, s.house.balances.get? d.id = some b ∧
      t.house.balances.get? d.id = some (Balance.clamp (b.toInt + change))
  others : ∀ currency, (∀ d, s.rulebook.Purse d → s.house.IsActive k d.owner → d.id ≠ currency) →
    t.house.balances.get? currency = s.house.balances.get? currency

theorem Moved.reaches {k : FactionKind} {change : Int} {declarer? : Option Ident}
    {c : Changes} {q : Session γ α × Changes} (grounded : s.Grounded)
    (h : Moved change (s.payments declarer? [k.funds]) (s, c) q) : s.Reaches k change q.1 := by
  have times (currency : Ident) : s.payments declarer? [k.funds] currency =
      s.house.occurrences s.rulebook k.funds currency := by
    rw [payments_of_ne_nil (by simp)]
    simp
  refine ⟨fun d purse own => ?_, fun currency other => ?_⟩
  · obtain ⟨b, there⟩ := IdMap.contains_eq_true_iff.1 (grounded.purse ⟨d, purse.listed, rfl⟩)
    refine ⟨b, there, ?_⟩
    rw [h.balances, times, House.occurrences_purse grounded.covered.currencies.distinct purse own,
      there]
    simp
  · rw [h.balances, times, House.occurrences_other other]
    simp [Balance.clamp_toInt]

variable [Chance γ] [ReturningOfficer α]

/-- An effect on the funds of parties or of regions always takes place, unless it is held back. It
moves the first currency of every active faction and no other, and these are all the currencies of
active factions exactly if none of these factions owns two. -/
theorem Underway.faction_funds_paid (underway : Underway s) (k : FactionKind) (c : Changes) :
    (∀ scope : Scope, scope.holdsBack = false → ∀ p ∈ s.rulebook.procedures, ∀ e ∈ p.effects,
      e.kind.isCurrency = true → e.targets = [k.funds] →
      ∃ q, applyProcedureEffect scope s c p.id e = .ok q ∧ s.Reaches k e.change q.1) ∧
    (∀ b ∈ s.rulebook.ballots, ∀ passed, ∀ e ∈ (b.consequence passed).effects,
      e.kind = .modifyCurrency → e.targets = [k.funds] →
      ∃ q, applyBallotEffect s c e = .ok q ∧ s.Reaches k e.value.toInt q.1) ∧
    ((∀ d ∈ s.rulebook.currencies, s.house.IsActive k d.owner → s.rulebook.Purse d) ↔
      ∀ c ∈ s.rulebook.currencies, ∀ d ∈ s.rulebook.currencies, s.house.IsActive k d.owner →
        c.owner = d.owner → c = d) := by
  have grounded := underway.grounded
  refine ⟨?_, ?_, Rulebook.forall_purse_iff⟩
  · intro scope now p listed e inside currency targets
    have covers := (grounded.covered.procedures p listed).effects e inside
    obtain ⟨q, applied, moved⟩ :=
      exists_moved_of_procedureEffect grounded currency (covers.payees currency) now c p.id
    rw [targets] at moved
    exact ⟨q, applied, moved.reaches grounded⟩
  · intro b listed passed e inside currency targets
    have covers := (grounded.covered.ballots b listed).consequence passed
    obtain ⟨q, applied, moved⟩ :=
      exists_moved_of_ballotEffect grounded currency ((covers.effects e inside).payees currency) c
    rw [targets] at moved
    exact ⟨q, applied, moved.reaches grounded⟩

/-! ## A coalition

Two parties are active, and the first of them has a reserve besides its funds.
-/

def reserve : CurrencyDef := ⟨⟨4⟩, "Reform reserve", .party ⟨1⟩, 7⟩

def subsidy : Procedure :=
  ⟨⟨8⟩, "Subsidy", .declared .always [] [], [⟨.currencyAdd, [.partyFunds], 3, rfl⟩]⟩

def coalition : Rulebook :=
  { parish with
    parties := [⟨⟨1⟩, "Reform", true⟩, ⟨⟨2⟩, "Union", true⟩]
    currencies := parish.currencies ++ [⟨⟨2⟩, "Reform funds", .party ⟨1⟩, 0⟩,
      ⟨⟨3⟩, "Union funds", .party ⟨2⟩, -2⟩, reserve]
    procedures := parish.procedures ++ [subsidy] }

def coalitionMeets : Session DrawScript StatusQuo := opening coalition (.constant 3) {}

theorem reachable_coalitionMeets : Reachable coalitionMeets :=
  .start (start_of_check (check_of_english rfl rfl) _ _)

theorem faction_funds_paid_coalition :
    let s := coalitionMeets.after adaBegin
    Underway s ∧ s.house.balances.get? reserve.id = some 7 ∧
      ∃ q, applyProcedureEffect (.declared ⟨1⟩) s {} ⟨8⟩ ⟨.currencyAdd, [.partyFunds], 3, rfl⟩ =
          .ok q ∧
        q.1.house.balances.get? ⟨2⟩ = some 3 ∧ q.1.house.balances.get? ⟨3⟩ = some 1 ∧
        q.1.house.balances.get? reserve.id = some 7 := by
  intro s
  have underway : Underway s := .call (reachable_coalitionMeets.after adaBegin)
  have reserved : s.house.balances.get? reserve.id = some 7 := by decide +kernel
  have book : s.rulebook = coalition := rulebook_after _ _
  have listed : subsidy ∈ s.rulebook.procedures := by
    rw [book]
    decide
  obtain ⟨q, applied, reaches⟩ := (underway.faction_funds_paid .party {}).1 (.declared ⟨1⟩) rfl
    subsidy listed _ (List.mem_singleton.2 rfl) rfl rfl
  have paid (d : CurrencyDef) (b : Int8) (first : coalition.currencies.find?
      (fun c => c.owner = d.owner) = some d) (own : s.house.IsActive .party d.owner)
      (before : s.house.balances.get? d.id = some b) :
      q.1.house.balances.get? d.id = some (Balance.clamp (b.toInt + 3)) := by
    obtain ⟨b', before', behind⟩ := reaches.purses d (Rulebook.purse_iff.2 (book ▸ first)) own
    obtain rfl := Option.some.inj (before.symm.trans before')
    exact behind
  refine ⟨underway, reserved, q, applied, ?_, ?_, ?_⟩
  · exact paid ⟨⟨2⟩, "Reform funds", .party ⟨1⟩, 0⟩ 0 rfl ⟨⟨1⟩, by decide +kernel, rfl⟩
      (by decide +kernel)
  · exact paid ⟨⟨3⟩, "Union funds", .party ⟨2⟩, -2⟩ (-2) rfl ⟨⟨2⟩, by decide +kernel, rfl⟩
      (by decide +kernel)
  · -- The reserve comes second among the currencies of its owner.
    rw [← reserved]
    refine reaches.others reserve.id fun d purse _ same => ?_
    rw [Rulebook.purse_iff, book] at purse
    have there : reserve ∈ coalition.currencies := by decide
    have distinct : (coalition.currencies.map (·.id)).Nodup := by decide
    obtain rfl := List.inj_on_of_nodup_map distinct (List.mem_of_find?_eq_some purse) there same
    exact absurd purse (by decide)

/-- A party is active and owns the reserve, and what all parties are paid does not reach it. -/
theorem second_fund_passed_over :
    let s := coalitionMeets.after adaBegin
    Reachable s ∧ reserve ∈ s.rulebook.currencies ∧ s.house.IsActive .party reserve.owner ∧
      s.house.balances.get? reserve.id = some 7 ∧
      (s.perform (.declare ⟨1⟩ ⟨8⟩)).map
          (fun o => (o.answer, o.session.house.balances.get? reserve.id)) =
        .ok (.declared .confirmed, some 7) :=
  ⟨reachable_coalitionMeets.after adaBegin, by decide +kernel, ⟨⟨1⟩, by decide +kernel, rfl⟩,
    by decide +kernel, by decide +kernel⟩

end Session

end Parliament
