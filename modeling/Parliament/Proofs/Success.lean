import Mathlib.Logic.Relation

/-! # Computations that succeed

What the success of a whole computation says about its steps, and when a fold succeeds at all.
-/

namespace Parliament

variable {ε α β : Type}

/-! ## One step after the other -/

theorem bind_eq_ok {x : Except ε α} {f : α → Except ε β} {b : β} :
    (x >>= f) = .ok b ↔ ∃ a, x = .ok a ∧ f a = .ok b := by
  cases x <;> simp [bind, Except.bind]

theorem pure_eq_ok {a b : α} : (pure a : Except ε α) = .ok b ↔ a = b := by
  simp [pure, Except.pure]

theorem map_eq_ok {x : Except ε α} {f : α → β} {b : β} :
    x.map f = .ok b ↔ ∃ a, x = .ok a ∧ f a = b := by
  cases x <;> simp [Except.map]

theorem ok_bind {a : α} {f : α → Except ε β} : (Except.ok a >>= f) = f a := rfl

theorem andThen_eq_ok {x y : Except ε Unit} :
    (do x; y) = .ok () ↔ x = .ok () ∧ y = .ok () := by
  cases x <;> simp [bind, Except.bind]

theorem andThen_eq_error {x y : Except ε Unit} {e : ε} :
    (do x; y) = .error e ↔ x = .error e ∨ x = .ok () ∧ y = .error e := by
  cases x <;> simp [bind, Except.bind]

theorem exists_bind_iff {x : Except ε α} {f : α → Except ε β} {p : Prop}
    (next : ∀ a, (∃ b, f a = .ok b) ↔ p) :
    (∃ b, (x >>= f) = .ok b) ↔ (∃ a, x = .ok a) ∧ p := by
  cases x with
  | error => simp [bind, Except.bind]
  | ok a => simp [ok_bind, next a]

theorem exists_bind_pure_iff {x : Except ε α} {f : α → β} :
    (∃ b, (x >>= fun a => pure (f a)) = .ok b) ↔ ∃ a, x = .ok a := by
  cases x <;> simp [bind, Except.bind, pure, Except.pure]

theorem guard_eq_ok {c : Prop} [Decidable c] {e : ε} {x : Except ε α} {a : α} :
    (if c then do { let _ ← (Except.error e : Except ε Unit); x } else x) = .ok a ↔
      ¬ c ∧ x = .ok a := by
  by_cases h : c <;> simp [h, bind, Except.bind]

/-! ## Folds and checks -/

theorem foldlM_path {R : β → β → Prop} {f : β → α → Except ε β} {l : List α}
    (step : ∀ b, ∀ a ∈ l, ∀ b', f b a = .ok b' → R b b') {b b' : β}
    (h : l.foldlM f b = .ok b') : Relation.ReflTransGen R b b' := by
  induction l generalizing b with
  | nil =>
    rw [List.foldlM_nil, pure_eq_ok] at h
    rw [h]
  | cons a l ih =>
    rw [List.foldlM_cons, bind_eq_ok] at h
    obtain ⟨m, hm, hl⟩ := h
    have first : R b m := step b a List.mem_cons_self m hm
    exact .head first (ih (fun b x hx => step b x (List.mem_cons_of_mem a hx)) hl)

theorem foldlM_keeps {P : β → Prop} {f : β → α → Except ε β} {l : List α}
    (step : ∀ a ∈ l, ∀ b b', P b → f b a = .ok b' → P b') {b b' : β} (begun : P b)
    (h : l.foldlM f b = .ok b') : P b' := by
  have path : Relation.ReflTransGen (fun b b' => P b → P b') b b' :=
    foldlM_path (fun b a ha b' hb k => step a ha b b' k hb) h
  clear h
  induction path with
  | refl => exact begun
  | tail _ step ih => exact step ih

/-- `P` speaks of what is still to come and of the result so far. -/
theorem exists_foldlM {P : List α → β → Prop} {f : β → α → Except ε β}
    (step : ∀ a l b, P (a :: l) b → ∃ b', f b a = .ok b' ∧ P l b') {l : List α} {b : β}
    (h : P l b) : ∃ b', l.foldlM f b = .ok b' ∧ P [] b' := by
  induction l generalizing b with
  | nil => exact ⟨b, rfl, h⟩
  | cons a l ih =>
    obtain ⟨m, hm, hP⟩ := step a l b h
    obtain ⟨b', hb, hn⟩ := ih hP
    refine ⟨b', ?_, hn⟩
    rw [List.foldlM_cons, hm]
    exact hb

/-- A fold that has a result has one from a related start too, with steps that keep to the relation,
and the results are related. -/
theorem foldlM_related {R : β → β → Prop} {f g : β → α → Except ε β} {l : List α}
    (step : ∀ a ∈ l, ∀ b c b', R b c → f b a = .ok b' → ∃ c', g c a = .ok c' ∧ R b' c')
    {b c b' : β} (related : R b c) (h : l.foldlM f b = .ok b') :
    ∃ c', l.foldlM g c = .ok c' ∧ R b' c' := by
  induction l generalizing b c with
  | nil =>
    rw [List.foldlM_nil, pure_eq_ok] at h
    exact ⟨c, rfl, h ▸ related⟩
  | cons a l ih =>
    rw [List.foldlM_cons, bind_eq_ok] at h
    obtain ⟨m, hm, hl⟩ := h
    obtain ⟨n, hn, next⟩ := step a List.mem_cons_self b c m related hm
    rw [List.foldlM_cons, hn]
    exact ih (fun x hx => step x (List.mem_cons_of_mem a hx)) next hl

theorem exists_mapM_iff {f : α → Except ε β} {l : List α} :
    (∃ m, l.mapM f = .ok m) ↔ ∀ a ∈ l, ∃ b, f a = .ok b := by
  induction l with
  | nil => simp [pure, Except.pure]
  | cons a l ih =>
    rw [List.mapM_cons, List.forall_mem_cons, ← ih]
    exact exists_bind_iff fun _ => exists_bind_pure_iff

theorem forM_eq_ok {f : α → Except ε Unit} {l : List α} :
    l.forM f = .ok () ↔ ∀ a ∈ l, f a = .ok () := by
  induction l with
  | nil => simp [List.forM, pure_eq_ok]
  | cons a l ih =>
    rw [List.forM, bind_eq_ok, List.forall_mem_cons, ← ih]
    constructor
    · rintro ⟨⟨⟩, ha, hl⟩
      exact ⟨ha, hl⟩
    · rintro ⟨ha, hl⟩
      exact ⟨(), ha, hl⟩

theorem forM_eq_error {f : α → Except ε Unit} {l : List α} {e : ε} :
    l.forM f = .error e ↔ ∃ before a after, l = before ++ a :: after ∧
      (∀ b ∈ before, f b = .ok ()) ∧ f a = .error e := by
  induction l with
  | nil => simp [List.forM, pure, Except.pure]
  | cons b l ih =>
    rw [List.forM, andThen_eq_error]
    constructor
    · rintro (first | ⟨passed, later⟩)
      · exact ⟨[], b, l, rfl, by simp, first⟩
      · obtain ⟨before, a, after, rfl, hb, ha⟩ := ih.1 later
        exact ⟨b :: before, a, after, rfl, List.forall_mem_cons.2 ⟨passed, hb⟩, ha⟩
    · rintro ⟨before, a, after, split, passed, failed⟩
      cases before with
      | nil =>
        obtain ⟨rfl, rfl⟩ := List.cons.inj split
        exact .inl failed
      | cons c before =>
        obtain ⟨rfl, rfl⟩ := List.cons.inj split
        obtain ⟨first, rest⟩ := List.forall_mem_cons.1 passed
        exact .inr ⟨first, ih.2 ⟨before, a, after, rfl, rest, failed⟩⟩

end Parliament
