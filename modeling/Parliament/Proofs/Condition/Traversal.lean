import Parliament.Proofs.Rulebook.Check

/-! # Ways through a condition

A part of a condition is found by its address: which child is taken, and then which child of that
one, down to the part. In the order of the addresses a part comes before its own parts, and these
come from left to right. A visitor sees the parts in this order, each once. The search for a vote
and the check of what is named rest on the same order, and a condition that passes the check has the
answer that it reads as.
-/

namespace Parliament

namespace Condition

/-! ## Addresses -/

/-- The conditions that stand in a condition without another one in between. -/
def children : Condition → List Condition
  | all cs | any cs => cs
  | _ => []

/-- The part at an address. The outermost choice comes first. -/
def at? (c : Condition) : List Nat → Option Condition
  | [] => some c
  | i :: p => c.children[i]?.bind fun d => d.at? p

@[simp] theorem at?_nil (c : Condition) : c.at? [] = some c := rfl

@[simp] theorem at?_cons (c : Condition) (i : Nat) (p : List Nat) :
    c.at? (i :: p) = c.children[i]?.bind fun d => d.at? p := rfl

mutual

/-- The addresses of a condition and of its parts. -/
def places : Condition → List (List Nat)
  | all cs | any cs => [] :: placesFrom 0 cs
  | _ => [[]]

/-- The same for neighbours, of which the first is child `i`. -/
def placesFrom (i : Nat) : List Condition → List (List Nat)
  | [] => []
  | c :: cs => (places c).map (i :: ·) ++ placesFrom (i + 1) cs

end

theorem exists_of_mem_placesFrom {i : Nat} {cs : List Condition} {p : List Nat}
    (h : p ∈ placesFrom i cs) : ∃ j q, p = (i + j) :: q := by
  induction cs generalizing i with
  | nil => simp [placesFrom] at h
  | cons c cs ih =>
    rw [placesFrom, List.mem_append, List.mem_map] at h
    obtain ⟨q, -, rfl⟩ | later := h
    · exact ⟨0, q, rfl⟩
    · obtain ⟨j, q, rfl⟩ := ih later
      exact ⟨j + 1, q, by rw [Nat.add_right_comm, Nat.add_assoc]⟩

mutual

/-- Each address comes once, before those that lie deeper and those further to the right. -/
theorem pairwise_places : (c : Condition) → c.places.Pairwise (· < ·)
  | .all cs | .any cs => by
    rw [places, List.pairwise_cons]
    refine ⟨fun p hp => ?_, pairwise_placesFrom 0 cs⟩
    obtain ⟨j, q, rfl⟩ := exists_of_mem_placesFrom hp
    exact List.nil_lt_cons _ _
  | .always | .never | .vote _ | .ballotPassed _ _ | .passedCount _ _ | .currencyValue _ _ _
  | .procedureActive _ _ => List.pairwise_singleton _ _

theorem pairwise_placesFrom (i : Nat) :
    (cs : List Condition) → (placesFrom i cs).Pairwise (· < ·)
  | [] => List.Pairwise.nil
  | c :: cs => by
    rw [placesFrom, List.pairwise_append, List.pairwise_map]
    refine ⟨(pairwise_places c).imp fun h => ?_, pairwise_placesFrom (i + 1) cs, ?_⟩
    · exact List.cons_lt_cons_iff.2 (.inr ⟨rfl, h⟩)
    · intro p hp q hq
      obtain ⟨p, -, rfl⟩ := List.mem_map.1 hp
      obtain ⟨j, q, rfl⟩ := exists_of_mem_placesFrom hq
      exact List.cons_lt_cons_iff.2 (.inl (by omega))

end

mutual

theorem mem_places : (c : Condition) → (p : List Nat) → (p ∈ c.places ↔ (c.at? p).isSome = true)
  | .all cs, [] | .any cs, [] => by simp [places]
  | .all cs, i :: p | .any cs, i :: p => by
    have below := mem_placesFrom 0 cs i p
    rw [Nat.zero_add] at below
    simpa [places, children] using below
  | .always, p | .never, p | .vote _, p | .ballotPassed _ _, p | .passedCount _ _, p
  | .currencyValue _ _ _, p | .procedureActive _ _, p => by
    cases p <;> simp [places, children]

theorem mem_placesFrom (i : Nat) : (cs : List Condition) → (j : Nat) → (p : List Nat) →
    ((i + j) :: p ∈ placesFrom i cs ↔ (cs[j]?.bind fun d => d.at? p).isSome = true)
  | [], j, p => by simp [placesFrom]
  | c :: cs, 0, p => by
    have later : i :: p ∉ placesFrom (i + 1) cs := fun h => by
      obtain ⟨j, q, same⟩ := exists_of_mem_placesFrom h
      have := (List.cons.inj same).1
      omega
    simpa [placesFrom, later] using mem_places c p
  | c :: cs, j + 1, p => by
    have rest := mem_placesFrom (i + 1) cs j p
    rw [Nat.add_right_comm, Nat.add_assoc] at rest
    simpa [placesFrom] using rest

end

mutual

theorem map_at?_places : (c : Condition) → c.places.map c.at? = c.parts.map some
  | .all cs => by
    have below := map_placesFrom 0 cs (at? (.all cs)) fun j p => by simp [children]
    rw [places, parts, List.map_cons, List.map_cons, below, at?_nil]
  | .any cs => by
    have below := map_placesFrom 0 cs (at? (.any cs)) fun j p => by simp [children]
    rw [places, parts, List.map_cons, List.map_cons, below, at?_nil]
  | .always | .never | .vote _ | .ballotPassed _ _ | .passedCount _ _ | .currencyValue _ _ _
  | .procedureActive _ _ => by
    simp [places, parts]

theorem map_placesFrom (i : Nat) : (cs : List Condition) → (f : List Nat → Option Condition) →
    (∀ j p, f ((i + j) :: p) = cs[j]?.bind fun d => d.at? p) →
    (placesFrom i cs).map f = (partsOfAll cs).map some
  | [], _, _ => rfl
  -- `f` looks things up in the condition above, where these neighbours begin at child `i`.
  | c :: cs, f, found => by
    have first : (fun p => f (i :: p)) = c.at? := funext fun p => found 0 p
    have rest := map_placesFrom (i + 1) cs f fun j p => by
      rw [Nat.add_right_comm, Nat.add_assoc, found]
      rfl
    rw [placesFrom, partsOfAll, List.map_append, List.map_append, List.map_map, rest,
      ← map_at?_places c, ← first]
    rfl

end

/-! ## Visitors -/

section Visitors

variable {σ : Type} (visit : σ → Condition → σ)

mutual

/-- The visitor is called on the condition, then on its parts, and carries what it found along. -/
def walk : σ → Condition → σ
  | s, all cs => walkAll (visit s (all cs)) cs
  | s, any cs => walkAll (visit s (any cs)) cs
  | s, c => visit s c

def walkAll : σ → List Condition → σ
  | s, [] => s
  | s, c :: cs => walkAll (walk s c) cs

end

mutual

theorem walk_eq_foldl : (s : σ) → (c : Condition) → walk visit s c = c.parts.foldl visit s
  | s, .all cs | s, .any cs => by
    rw [walk, walkAll_eq_foldl, parts, List.foldl_cons]
  | s, .always | s, .never | s, .vote _ | s, .ballotPassed _ _ | s, .passedCount _ _
  | s, .currencyValue _ _ _ | s, .procedureActive _ _ => by
    simp [walk, parts]

theorem walkAll_eq_foldl :
    (s : σ) → (cs : List Condition) → walkAll visit s cs = (partsOfAll cs).foldl visit s
  | s, [] => by rw [walkAll, partsOfAll, List.foldl_nil]
  | s, c :: cs => by
    rw [walkAll, walk_eq_foldl, walkAll_eq_foldl, partsOfAll, List.foldl_append]

end

end Visitors

/-! ## Votes -/

theorem readsVote_iff_mem_parts {c : Condition} :
    c.readsVote = true ↔ ∃ passed, .vote passed ∈ c.parts := by
  simp only [readsVote_iff, mem_parts]

end Condition

/-! ## References -/

/-- What the condition itself names, whatever stands in it. -/
def Condition.reference? : Condition → Option (Space × Ident)
  | .ballotPassed ballot _ => some (.ballot, ballot)
  | .currencyValue currency _ _ => some (.currency, currency)
  | .procedureActive procedure _ => some (.procedure, procedure)
  | _ => none

namespace Rulebook

theorem need_eq_error {owner : Referrer} {space : Space} {names : IdSet} {id : Ident}
    {flaw : Flaw} :
    need owner space names id = .error flaw ↔ id ∉ names ∧ flaw = .unknownName owner space id := by
  rw [IdSet.mem_iff, need]
  split
  next h => simp [h]
  next h => simp [h, eq_comm]

namespace Known

variable {k : Known} {owner : Referrer} {c : Condition}

/-- What the condition itself names is known, whatever stands in it. -/
def Knows (k : Known) : Condition → Prop
  | .ballotPassed ballot _ => ballot ∈ k.ballots
  | .currencyValue currency _ _ => currency ∈ k.currencies
  | .procedureActive procedure _ => procedure ∈ k.procedures
  | _ => True

/-- The check as a visitor. Once there is a flaw, it looks at nothing more. -/
def inspect (k : Known) (owner : Referrer) : Except Flaw Unit → Condition → Except Flaw Unit
  | .ok (), c => k.checkPart owner c
  | .error flaw, _ => .error flaw

theorem foldl_inspect_error {flaw : Flaw} (l : List Condition) :
    l.foldl (k.inspect owner) (.error flaw) = .error flaw := by
  induction l with
  | nil => rfl
  | cons c l ih => exact ih

theorem foldl_inspect (l : List Condition) :
    l.foldl (k.inspect owner) (.ok ()) = l.forM (k.checkPart owner) := by
  induction l with
  | nil => rfl
  | cons c l ih =>
    rw [List.foldl_cons, List.forM]
    show l.foldl (k.inspect owner) (k.checkPart owner c) = _
    cases first : k.checkPart owner c with
    | ok => exact ih
    | error => exact foldl_inspect_error l

theorem checkPart_eq_ok_iff : k.checkPart owner c = .ok () ↔ k.Knows c := by
  cases c <;> simp [checkPart, Knows, need_eq_ok]

theorem checkPart_eq_error_iff {flaw : Flaw} : k.checkPart owner c = .error flaw ↔
    ¬ k.Knows c ∧ ∃ space id, c.reference? = some (space, id) ∧
      flaw = .unknownName owner space id := by
  cases c <;>
    simp [checkPart, Knows, Condition.reference?, need_eq_error, and_assoc]

theorem checkCondition_eq_walk :
    k.checkCondition owner c = Condition.walk (k.inspect owner) (.ok ()) c := by
  rw [Condition.walk_eq_foldl, foldl_inspect]
  rfl

theorem checkCondition_eq_ok_iff :
    k.checkCondition owner c = .ok () ↔ ∀ d ∈ c.parts, k.Knows d := by
  rw [checkCondition, forM_eq_ok]
  simp only [checkPart_eq_ok_iff]

theorem checkCondition_eq_error_iff {flaw : Flaw} : k.checkCondition owner c = .error flaw ↔
    ∃ before d after, c.parts = before ++ d :: after ∧ (∀ b ∈ before, k.Knows b) ∧ ¬ k.Knows d ∧
      ∃ space id, d.reference? = some (space, id) ∧ flaw = .unknownName owner space id := by
  rw [checkCondition, forM_eq_error]
  simp only [checkPart_eq_ok_iff, checkPart_eq_error_iff]

end Known

end Rulebook

namespace Condition

/-! ## The plain reading -/

section Reading

variable {v : View}

theorem not_holds_never : ¬ Holds v .never := by
  rintro ⟨⟩

theorem holds_all {cs : List Condition} : Holds v (.all cs) ↔ ∀ c ∈ cs, Holds v c := by
  constructor
  · rintro (_ | each)
    exact each
  · exact .all

theorem holds_any {cs : List Condition} : Holds v (.any cs) ↔ ∃ c ∈ cs, Holds v c := by
  constructor
  · intro h
    cases h with
    | any hc k => exact ⟨_, hc, k⟩
  · rintro ⟨c, hc, k⟩
    exact .any hc k

theorem holds_vote {passed : Bool} : Holds v (.vote passed) ↔ v.forced = some passed := by
  constructor
  · intro h
    cases h with
    | vote forced => exact forced
  · exact .vote

theorem holds_ballotPassed {ballot : Ident} {passed : Bool} :
    Holds v (.ballotPassed ballot passed) ↔ v.passedBallots.contains ballot = passed := by
  constructor
  · intro h
    cases h with
    | ballotPassed k => exact k
  · exact .ballotPassed

theorem holds_passedCount {comparison : Comparison} {value : UInt8} :
    Holds v (.passedCount comparison value) ↔
      comparison.holds v.passedBallots.size value.toNat = true := by
  constructor
  · intro h
    cases h with
    | passedCount k => exact k
  · exact .passedCount

theorem holds_currencyValue {currency : Ident} {comparison : Comparison} {value balance : Int8}
    (there : v.currencies.get? currency = some balance) :
    Holds v (.currencyValue currency comparison value) ↔
      comparison.holds balance.toInt value.toInt = true := by
  constructor
  · intro h
    cases h with
    | currencyValue found k =>
      rw [there] at found
      rw [Option.some.inj found]
      exact k
  · exact .currencyValue there

theorem holds_procedureActive {procedure : Ident} {active : Bool} :
    Holds v (.procedureActive procedure active) ↔
      v.activeProcedures.contains procedure = active := by
  constructor
  · intro h
    cases h with
    | procedureActive k => exact k
  · exact .procedureActive

mutual

theorem holds_of_evaluate : (c : Condition) → {b : Bool} → evaluate v c = .ok b →
    (b = true ↔ Holds v c)
  | .always, b, h => by
    rw [evaluate, Except.ok.injEq] at h
    exact iff_of_true h.symm .always
  | .never, b, h => by
    rw [evaluate, Except.ok.injEq] at h
    exact iff_of_false (by simp [← h]) not_holds_never
  | .all cs, b, h => by
    rw [evaluate] at h
    rw [holds_all, holds_of_evaluateAll cs h]
  | .any cs, b, h => by
    rw [evaluate] at h
    rw [holds_any, holds_of_evaluateAny cs h]
  | .vote passed, b, h => by
    rw [evaluate, Except.ok.injEq] at h
    rw [holds_vote, ← h, beq_iff_eq]
  | .ballotPassed ballot passed, b, h => by
    rw [evaluate, Except.ok.injEq] at h
    rw [holds_ballotPassed, ← h, beq_iff_eq]
  | .passedCount comparison value, b, h => by
    rw [evaluate, Except.ok.injEq] at h
    rw [holds_passedCount, ← h]
  | .currencyValue currency comparison value, b, h => by
    rw [evaluate] at h
    cases there : v.currencies.get? currency with
    | none => simp [there] at h
    | some balance =>
      rw [there] at h
      rw [holds_currencyValue there, ← Except.ok.inj h]
  | .procedureActive procedure active, b, h => by
    rw [evaluate, Except.ok.injEq] at h
    rw [holds_procedureActive, ← h, beq_iff_eq]

theorem holds_of_evaluateAll : (cs : List Condition) → {b : Bool} → evaluateAll v cs = .ok b →
    (b = true ↔ ∀ c ∈ cs, Holds v c)
  | [], b, h => by
    rw [evaluateAll, Except.ok.injEq] at h
    simp [← h]
  | c :: cs, b, h => by
    rw [evaluateAll] at h
    rw [List.forall_mem_cons]
    cases first : evaluate v c with
    | error => simp [first] at h
    | ok holds =>
      rw [first] at h
      rw [← holds_of_evaluate c first]
      cases holds with
      | true => simpa using holds_of_evaluateAll cs h
      -- The rest is not read.
      | false => simp [← Except.ok.inj h]

theorem holds_of_evaluateAny : (cs : List Condition) → {b : Bool} → evaluateAny v cs = .ok b →
    (b = true ↔ ∃ c ∈ cs, Holds v c)
  | [], b, h => by
    rw [evaluateAny, Except.ok.injEq] at h
    simp [← h]
  | c :: cs, b, h => by
    rw [evaluateAny] at h
    simp only [List.mem_cons, exists_eq_or_imp]
    cases first : evaluate v c with
    | error => simp [first] at h
    | ok holds =>
      rw [first] at h
      rw [← holds_of_evaluate c first]
      cases holds with
      | true => simp [← Except.ok.inj h]
      | false => simpa using holds_of_evaluateAny cs h

end

theorem answerable_of_checkCondition {k : Rulebook.Known} {owner : Referrer} {c : Condition}
    (balances : ∀ id ∈ k.currencies, v.currencies.contains id = true)
    (h : k.checkCondition owner c = .ok ()) : Answerable v c := by
  intro currency comparison value within
  have named := Rulebook.Known.checkCondition_eq_ok_iff.1 h _ ((mem_parts c).2 within)
  exact balances currency named

end Reading

/-! ## Everything agrees -/

/-- The order of the addresses is the order of every way through a condition: of the visitor, of
the search for a vote and of the check, which is a visitor that stops at its first flaw. After the
check the condition is answered by what it plainly says, wherever the answer stops reading. -/
theorem traversals_agree (c : Condition) :
    (c.places.Pairwise (· < ·) ∧ (∀ p, p ∈ c.places ↔ (c.at? p).isSome = true) ∧
      c.places.map c.at? = c.parts.map some) ∧
    (∀ (σ : Type) (visit : σ → Condition → σ) (s : σ), walk visit s c = c.parts.foldl visit s) ∧
    (c.readsVote = true ↔ ∃ passed, .vote passed ∈ c.parts) ∧
    ∀ (k : Rulebook.Known) (owner : Referrer),
      k.checkCondition owner c = walk (k.inspect owner) (.ok ()) c ∧
      (k.checkCondition owner c = .ok () ↔ ∀ d ∈ c.parts, k.Knows d) ∧
      (∀ flaw, k.checkCondition owner c = .error flaw ↔
        ∃ before d after, c.parts = before ++ d :: after ∧
          (∀ b ∈ before, k.Knows b) ∧ ¬ k.Knows d ∧
          ∃ space id, d.reference? = some (space, id) ∧ flaw = .unknownName owner space id) ∧
      ∀ v : View, (∀ id ∈ k.currencies, v.currencies.contains id = true) →
        k.checkCondition owner c = .ok () → ∃ b, evaluate v c = .ok b ∧ (b = true ↔ Holds v c) := by
  refine ⟨⟨pairwise_places c, mem_places c, map_at?_places c⟩,
    fun σ visit s => walk_eq_foldl visit s c, readsVote_iff_mem_parts, fun k owner => ?_⟩
  refine ⟨Rulebook.Known.checkCondition_eq_walk, Rulebook.Known.checkCondition_eq_ok_iff,
    fun flaw => Rulebook.Known.checkCondition_eq_error_iff, fun v balances passed => ?_⟩
  obtain ⟨b, answer⟩ := exists_evaluate c (answerable_of_checkCondition balances passed)
  exact ⟨b, answer, holds_of_evaluate c answer⟩

/-- A ballot passed, or the open one is forced down while the fund holds at least 4. -/
def relief : Condition :=
  .any [.ballotPassed ⟨3⟩ true, .all [.vote false, .currencyValue ⟨1⟩ .greaterEqual 4]]

/-- The names that the relief needs. -/
def reliefKnown : Rulebook.Known where
  roles := .empty
  parties := .empty
  regions := .empty
  currencies := .ofList [⟨1⟩]
  procedures := .empty
  targeted := .empty
  ballots := .ofList [⟨3⟩]
  hasStateCurrency := false

def reliefView : View where
  passedBallots := .empty
  currencies := IdMap.empty.insert ⟨1⟩ 4
  activeProcedures := .empty
  forced := some false

theorem traversals_agree_relief :
    relief.places = [[], [0], [1], [1, 0], [1, 1]] ∧
    (∀ id ∈ reliefKnown.currencies, reliefView.currencies.contains id = true) ∧
    reliefKnown.checkCondition (.ballot ⟨3⟩) relief = .ok () ∧
    evaluate reliefView relief = .ok true ∧ Holds reliefView relief := by
  have balances : ∀ id ∈ reliefKnown.currencies, reliefView.currencies.contains id = true := by
    intro id hid
    obtain rfl : id = ⟨1⟩ := by simpa [reliefKnown] using hid
    rfl
  have passed : reliefKnown.checkCondition (.ballot ⟨3⟩) relief = .ok () := rfl
  have answer : evaluate reliefView relief = .ok true := rfl
  obtain ⟨-, -, -, checked⟩ := traversals_agree relief
  obtain ⟨-, -, -, answered⟩ := checked reliefKnown (.ballot ⟨3⟩)
  obtain ⟨b, same, plain⟩ := answered reliefView balances passed
  rw [answer] at same
  exact ⟨rfl, balances, passed, answer, plain.1 (Except.ok.inj same).symm⟩

end Condition

end Parliament
