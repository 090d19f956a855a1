import Parliament.Condition.Reading

/-! # Conditions that can be answered

The parts of a condition are the conditions that stand in it. If the balances that they compare are
there, the condition has an answer, and if none of them reads the vote, it is the same whatever
outcome was forced.
-/

namespace Parliament.Condition

/-! ## Parts -/

mutual

theorem mem_parts {d : Condition} : (c : Condition) → (d ∈ c.parts ↔ Within d c)
  | .all cs => by
    rw [parts, List.mem_cons, mem_partsOfAll cs]
    constructor
    · rintro (rfl | ⟨c, hc, k⟩)
      · exact .self _
      · exact .inAll hc k
    · intro h
      cases h with
      | self => exact .inl rfl
      | inAll hc k => exact .inr ⟨_, hc, k⟩
  | .any cs => by
    rw [parts, List.mem_cons, mem_partsOfAll cs]
    constructor
    · rintro (rfl | ⟨c, hc, k⟩)
      · exact .self _
      · exact .inAny hc k
    · intro h
      cases h with
      | self => exact .inl rfl
      | inAny hc k => exact .inr ⟨_, hc, k⟩
  | .always | .never | .vote _ | .ballotPassed _ _ | .passedCount _ _ | .currencyValue _ _ _
  | .procedureActive _ _ => by
    simp only [parts, List.mem_singleton]
    constructor
    · rintro rfl
      exact .self _
    · rintro ⟨⟩
      rfl

theorem mem_partsOfAll {d : Condition} :
    (cs : List Condition) → (d ∈ partsOfAll cs ↔ ∃ c ∈ cs, Within d c)
  | [] => by simp [partsOfAll]
  | c :: cs => by
    rw [partsOfAll, List.mem_append, mem_parts c, mem_partsOfAll cs]
    simp

end

mutual

theorem readsVote_iff :
    (c : Condition) → (c.readsVote = true ↔ ∃ passed, Within (.vote passed) c)
  | .vote passed => by
    rw [readsVote]
    exact iff_of_true rfl ⟨passed, .self _⟩
  | .all cs => by
    rw [readsVote, anyReadsVote_iff cs]
    constructor
    · rintro ⟨passed, c, hc, k⟩
      exact ⟨passed, .inAll hc k⟩
    · rintro ⟨passed, h⟩
      cases h with
      | inAll hc k => exact ⟨passed, _, hc, k⟩
  | .any cs => by
    rw [readsVote, anyReadsVote_iff cs]
    constructor
    · rintro ⟨passed, c, hc, k⟩
      exact ⟨passed, .inAny hc k⟩
    · rintro ⟨passed, h⟩
      cases h with
      | inAny hc k => exact ⟨passed, _, hc, k⟩
  | .always | .never | .ballotPassed _ _ | .passedCount _ _ | .currencyValue _ _ _
  | .procedureActive _ _ => by
    simp only [readsVote, Bool.false_eq_true, false_iff, not_exists]
    rintro passed ⟨⟩

theorem anyReadsVote_iff :
    (cs : List Condition) →
      (anyReadsVote cs = true ↔ ∃ passed, ∃ c ∈ cs, Within (.vote passed) c)
  | [] => by simp [anyReadsVote]
  | c :: cs => by
    rw [anyReadsVote, Bool.or_eq_true, readsVote_iff c, anyReadsVote_iff cs]
    simp only [List.mem_cons, exists_eq_or_imp, exists_or]

end

/-! ## Answers -/

variable {v : View}

theorem Answerable.all {cs : List Condition} (h : Answerable v (.all cs)) {c : Condition}
    (hc : c ∈ cs) : Answerable v c :=
  fun currency comparison value k => h currency comparison value (.inAll hc k)

theorem Answerable.any {cs : List Condition} (h : Answerable v (.any cs)) {c : Condition}
    (hc : c ∈ cs) : Answerable v c :=
  fun currency comparison value k => h currency comparison value (.inAny hc k)

mutual

theorem exists_evaluate : (c : Condition) → Answerable v c → ∃ b, evaluate v c = .ok b
  | .all cs, h => by
    rw [evaluate]
    exact exists_evaluateAll cs fun c hc => h.all hc
  | .any cs, h => by
    rw [evaluate]
    exact exists_evaluateAny cs fun c hc => h.any hc
  | .currencyValue currency comparison value, h => by
    have there := h currency comparison value (.self _)
    obtain ⟨balance, hb⟩ := Option.isSome_iff_exists.1 there
    rw [evaluate, hb]
    exact ⟨_, rfl⟩
  | .always, _ | .never, _ | .vote _, _ | .ballotPassed _ _, _ | .passedCount _ _, _
  | .procedureActive _ _, _ => by
    rw [evaluate]
    exact ⟨_, rfl⟩

theorem exists_evaluateAll : (cs : List Condition) → (∀ c ∈ cs, Answerable v c) →
    ∃ b, evaluateAll v cs = .ok b
  | [], _ => ⟨true, rfl⟩
  | c :: cs, h => by
    obtain ⟨first, hf⟩ := exists_evaluate c (h c List.mem_cons_self)
    obtain ⟨rest, hr⟩ := exists_evaluateAll cs fun d hd => h d (List.mem_cons_of_mem c hd)
    rw [evaluateAll, hf]
    cases first with
    | true => exact ⟨rest, hr⟩
    | false => exact ⟨false, rfl⟩

theorem exists_evaluateAny : (cs : List Condition) → (∀ c ∈ cs, Answerable v c) →
    ∃ b, evaluateAny v cs = .ok b
  | [], _ => ⟨false, rfl⟩
  | c :: cs, h => by
    obtain ⟨first, hf⟩ := exists_evaluate c (h c List.mem_cons_self)
    obtain ⟨rest, hr⟩ := exists_evaluateAny cs fun d hd => h d (List.mem_cons_of_mem c hd)
    rw [evaluateAny, hf]
    cases first with
    | true => exact ⟨true, rfl⟩
    | false => exact ⟨rest, hr⟩

end

/-! ## The forced outcome -/

mutual

theorem evaluate_withForced (forced : Option Bool) : (c : Condition) → c.readsVote = false →
    evaluate { v with forced := forced } c = evaluate v c
  | .vote _, h => by simp [readsVote] at h
  | .all cs, h => by
    rw [evaluate, evaluate]
    exact evaluateAll_withForced forced cs h
  | .any cs, h => by
    rw [evaluate, evaluate]
    exact evaluateAny_withForced forced cs h
  | .always, _ | .never, _ | .ballotPassed _ _, _ | .passedCount _ _, _ | .currencyValue _ _ _, _
  | .procedureActive _ _, _ => by
    simp only [evaluate]

theorem evaluateAll_withForced (forced : Option Bool) : (cs : List Condition) →
    anyReadsVote cs = false → evaluateAll { v with forced := forced } cs = evaluateAll v cs
  | [], _ => rfl
  | c :: cs, h => by
    obtain ⟨first, rest⟩ := Bool.or_eq_false_iff.1 h
    rw [evaluateAll, evaluateAll, evaluate_withForced forced c first,
      evaluateAll_withForced forced cs rest]

theorem evaluateAny_withForced (forced : Option Bool) : (cs : List Condition) →
    anyReadsVote cs = false → evaluateAny { v with forced := forced } cs = evaluateAny v cs
  | [], _ => rfl
  | c :: cs, h => by
    obtain ⟨first, rest⟩ := Bool.or_eq_false_iff.1 h
    rw [evaluateAny, evaluateAny, evaluate_withForced forced c first,
      evaluateAny_withForced forced cs rest]

end

end Parliament.Condition
