/-! # Ascending lists of entries

The list behind a table holds at most one entry for each key, and its keys ascend. Two such lists
with the same look-ups are the same list (`eq_of_get?_eq`).
-/

namespace Parliament.Entries

variable {κ α β ε : Type}

/-! ## Look-ups -/

section Lookup

variable [DecidableEq κ]

def get? (k : κ) : List (κ × α) → Option α
  | [] => none
  | (j, a) :: l => if k = j then some a else get? k l

theorem isSome_get?_iff {k : κ} {l : List (κ × α)} :
    (get? k l).isSome = true ↔ k ∈ l.map Prod.fst := by
  induction l with
  | nil => simp [get?]
  | cons d l ih =>
    rw [get?, List.map_cons, List.mem_cons, ← ih]
    split <;> simp [*]

theorem get?_map (f : κ → α → β) (l : List (κ × α)) (k : κ) :
    get? k (l.map fun e => (e.1, f e.1 e.2)) = (get? k l).map (f k) := by
  induction l with
  | nil => rfl
  | cons d l ih =>
    obtain ⟨j, a⟩ := d
    by_cases h : k = j
    · subst h; simp [get?]
    · simp [get?, h, ih]

theorem get?_filter (p : κ → Bool) (l : List (κ × α)) (k : κ) :
    get? k (l.filter fun e => p e.1) = if p k then get? k l else none := by
  induction l with
  | nil => simp [get?]
  | cons d l ih =>
    obtain ⟨j, a⟩ := d
    by_cases hj : p j
    · rw [List.filter_cons_of_pos (by simpa using hj)]
      by_cases hk : k = j
      · subst hk; simp [get?, hj]
      · rw [get?, if_neg hk, ih, get?, if_neg hk]
    · rw [List.filter_cons_of_neg (by simpa using hj), ih]
      by_cases hk : k = j
      · subst hk; simp [hj]
      · rw [get?, if_neg hk]

end Lookup

/-! ## Ascending keys -/

section Ascending

variable [LT κ]

def Ascending (l : List (κ × α)) : Prop := l.Pairwise fun a b => a.1 < b.1

theorem ascending_iff {l : List (κ × α)} :
    Ascending l ↔ (l.map Prod.fst).Pairwise (· < ·) := by
  simp [Ascending, List.pairwise_map]

theorem ascending_map (f : κ → α → β) {l : List (κ × α)} (h : Ascending l) :
    Ascending (l.map fun e => (e.1, f e.1 e.2)) := by
  simpa [Ascending, List.pairwise_map] using h

variable [Std.Irrefl (· < · : κ → κ → Prop)]

theorem nodup_keys {l : List (κ × α)} (h : Ascending l) : (l.map Prod.fst).Nodup :=
  (ascending_iff.1 h).imp Std.ne_of_lt

variable [DecidableEq κ]

theorem get?_eq_none_of_lt {k : κ} {l : List (κ × α)} (h : ∀ e ∈ l, k < e.1) :
    get? k l = none := by
  induction l with
  | nil => rfl
  | cons d l ih =>
    obtain ⟨j, b⟩ := d
    have hk : k ≠ j := Std.ne_of_lt (h (j, b) List.mem_cons_self)
    rw [get?, if_neg hk]
    exact ih fun e he => h e (List.mem_cons_of_mem _ he)

theorem mem_iff_get?_eq_some {k : κ} {a : α} {l : List (κ × α)} (h : Ascending l) :
    (k, a) ∈ l ↔ get? k l = some a := by
  induction l with
  | nil => simp [get?]
  | cons d l ih =>
    obtain ⟨j, b⟩ := d
    obtain ⟨hj, hl⟩ := List.pairwise_cons.1 h
    by_cases e : k = j
    · subst e
      have : (k, a) ∉ l := fun hm => Std.lt_irrefl (hj (k, a) hm)
      simp [get?, this, eq_comm]
    · simp [get?, e, ih hl]

variable [Trans (· < · : κ → κ → Prop) (· < ·) (· < ·)]

theorem get?_eq_none_of_lt_head {k j : κ} {a : α} {l : List (κ × α)}
    (h : Ascending ((j, a) :: l)) (first : k < j) : get? k ((j, a) :: l) = none := by
  refine get?_eq_none_of_lt fun e he => ?_
  rcases List.mem_cons.1 he with he | he
  · exact he ▸ first
  · exact Std.lt_trans first ((List.pairwise_cons.1 h).1 e he)

theorem eq_of_get?_eq [Std.Trichotomous (· < · : κ → κ → Prop)] {l m : List (κ × α)}
    (hl : Ascending l) (hm : Ascending m) (h : ∀ k, get? k l = get? k m) : l = m := by
  induction l generalizing m with
  | nil =>
    cases m with
    | nil => rfl
    | cons d m =>
      obtain ⟨j, b⟩ := d
      simpa [get?] using h j
  | cons d l ih =>
    obtain ⟨j, b⟩ := d
    obtain ⟨hj, hl'⟩ := List.pairwise_cons.1 hl
    cases m with
    | nil => simpa [get?] using h j
    | cons c m =>
      obtain ⟨i, a⟩ := c
      obtain ⟨hi, hm'⟩ := List.pairwise_cons.1 hm
      -- The lesser of two first keys would be found in one list only.
      have hji : j = i := by
        rcases Std.lt_trichotomy j i with lt | e | lt
        · have := h j
          rw [get?_eq_none_of_lt_head hm lt] at this
          simp [get?] at this
        · exact e
        · have := h i
          rw [get?_eq_none_of_lt_head hl lt] at this
          simp [get?] at this
      subst hji
      have hab : b = a := by simpa [get?] using h j
      subst hab
      have tails : ∀ k, get? k l = get? k m := by
        intro k
        by_cases e : k = j
        · subst e
          rw [get?_eq_none_of_lt hj, get?_eq_none_of_lt hi]
        · simpa [get?, e] using h k
      rw [ih hl' hm' tails]

end Ascending

/-! ## Insertion -/

section Insert

variable [LT κ] [DecidableEq κ] [DecidableLT κ]

/-- An entry that is there already is replaced. -/
def insert (k : κ) (a : α) : List (κ × α) → List (κ × α)
  | [] => [(k, a)]
  | (j, b) :: l =>
    if k < j then (k, a) :: (j, b) :: l
    else if k = j then (k, a) :: l
    else (j, b) :: insert k a l

theorem mem_insert {k : κ} {a : α} {e : κ × α} {l : List (κ × α)}
    (h : e ∈ insert k a l) : e = (k, a) ∨ e ∈ l := by
  induction l with
  | nil => simpa [insert] using h
  | cons d l ih =>
    obtain ⟨j, b⟩ := d
    unfold insert at h
    split at h
    · simpa using h
    · split at h
      · rcases List.mem_cons.1 h with h | h
        · exact .inl h
        · exact .inr (List.mem_cons_of_mem _ h)
      · rcases List.mem_cons.1 h with h | h
        · exact .inr (h ▸ List.mem_cons_self)
        · exact (ih h).imp id (List.mem_cons_of_mem _)

theorem ascending_insert [Trans (· < · : κ → κ → Prop) (· < ·) (· < ·)]
    [Std.Trichotomous (· < · : κ → κ → Prop)] {k : κ} {a : α} {l : List (κ × α)}
    (h : Ascending l) : Ascending (insert k a l) := by
  induction l with
  | nil => simp [insert, Ascending]
  | cons d l ih =>
    obtain ⟨j, b⟩ := d
    obtain ⟨hj, hl⟩ := List.pairwise_cons.1 h
    unfold insert
    split
    next hk =>
      refine List.pairwise_cons.2 ⟨fun e he => ?_, h⟩
      rcases List.mem_cons.1 he with he | he
      · exact he ▸ hk
      · exact Std.lt_trans hk (hj e he)
    next hk =>
      split
      next e => subst e; exact List.pairwise_cons.2 ⟨hj, hl⟩
      next hne =>
        have after : j < k := ((Std.lt_trichotomy k j).resolve_left hk).resolve_left hne
        refine List.pairwise_cons.2 ⟨fun e he => ?_, ih hl⟩
        rcases mem_insert he with he | he
        · exact he ▸ after
        · exact hj e he

theorem get?_insert (k j : κ) (a : α) (l : List (κ × α)) :
    get? j (insert k a l) = if j = k then some a else get? j l := by
  induction l with
  | nil => simp [insert, get?]
  | cons d l ih =>
    obtain ⟨i, b⟩ := d
    unfold insert
    split
    · simp [get?]
    · split
      next e => subst e; by_cases h : j = k <;> simp [get?, h]
      next hne =>
        simp only [get?, ih]
        by_cases h : j = i
        · subst h; simp [Ne.symm hne]
        · simp [h]

end Insert

/-! ## Traversal -/

section Traverse

/-- The first entry that fails, in order, is the failure of all. -/
def traverse (f : κ → α → Except ε β) :
    List (κ × α) → Except ε (List (κ × β))
  | [] => .ok []
  | (k, a) :: l =>
    match f k a with
    | .error e => .error e
    | .ok b =>
      match traverse f l with
      | .error e => .error e
      | .ok m => .ok ((k, b) :: m)

variable {f : κ → α → Except ε β} {l : List (κ × α)} {m : List (κ × β)}

theorem keys_traverse (h : traverse f l = .ok m) : m.map Prod.fst = l.map Prod.fst := by
  induction l generalizing m with
  | nil => simp only [traverse, Except.ok.injEq] at h; subst h; rfl
  | cons d l ih =>
    obtain ⟨k, a⟩ := d
    simp only [traverse] at h
    split at h
    · simp at h
    · split at h
      · simp at h
      next m' hm =>
        simp only [Except.ok.injEq] at h
        subst h
        simp [ih hm]

theorem ascending_traverse [LT κ] (hl : Ascending l) (h : traverse f l = .ok m) :
    Ascending m := by
  rw [ascending_iff] at *
  rwa [keys_traverse h]

theorem get?_traverse [DecidableEq κ] (h : traverse f l = .ok m) (k : κ) :
    (get? k l).map (f k) = (get? k m).map .ok := by
  induction l generalizing m with
  | nil => simp only [traverse, Except.ok.injEq] at h; subst h; rfl
  | cons d l ih =>
    obtain ⟨j, a⟩ := d
    simp only [traverse] at h
    split at h
    · simp at h
    next b hb =>
      split at h
      · simp at h
      next m' hm =>
        simp only [Except.ok.injEq] at h
        subst h
        by_cases e : k = j
        · subst e; simp [get?, hb]
        · simp [get?, e, ih hm]

theorem exists_traverse (h : ∀ e ∈ l, ∃ b, f e.1 e.2 = .ok b) : ∃ m, traverse f l = .ok m := by
  induction l with
  | nil => exact ⟨[], rfl⟩
  | cons e l ih =>
    obtain ⟨k, a⟩ := e
    obtain ⟨b, hb⟩ := h (k, a) List.mem_cons_self
    obtain ⟨m, hm⟩ := ih fun e he => h e (List.mem_cons_of_mem _ he)
    exact ⟨(k, b) :: m, by simp only [traverse, hb, hm]⟩

end Traverse

end Parliament.Entries
