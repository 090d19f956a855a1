import Parliament.IdSet

/-! # Tables and their names

Which names a table holds after a change, and when an entry-by-entry computation has a result.
-/

namespace Parliament

variable {α β ε : Type}

namespace IdMap

theorem exists_traverse {f : Ident → α → Except ε β} {m : IdMap α}
    (h : ∀ k a, m.get? k = some a → ∃ b, f k a = .ok b) : ∃ n, m.traverse f = .ok n := by
  obtain ⟨l, hl⟩ := Entries.exists_traverse (f := f) (l := m.entries) fun e he =>
    h e.1 e.2 (mem_entries_iff.1 he)
  unfold traverse
  split
  next e he => rw [hl] at he; simp at he
  next => exact ⟨_, rfl⟩

theorem nodup_keys (m : IdMap α) : m.keys.Nodup := Entries.nodup_keys m.ascending

theorem contains_eq_true_iff {m : IdMap α} {k : Ident} :
    m.contains k = true ↔ ∃ a, m.get? k = some a := Option.isSome_iff_exists

theorem contains_congr {m : IdMap α} {n : IdMap β} (h : m.keys = n.keys) (k : Ident) :
    m.contains k = n.contains k := by
  rw [Bool.eq_iff_iff, ← mem_keys_iff, ← mem_keys_iff, h]

theorem contains_insert_of_get? {m : IdMap α} {k : Ident} {a b : α} (h : m.get? k = some b)
    (j : Ident) : (m.insert k a).contains j = m.contains j := by
  rw [contains, contains, get?_insert]
  split
  next e => rw [e, h]; rfl
  next => rfl

theorem contains_insertAll {m : IdMap α} {l : List (Ident × α)} {k : Ident} :
    (m.insertAll l).contains k = true ↔ k ∈ l.map Prod.fst ∨ m.contains k = true := by
  induction l generalizing m with
  | nil => simp [insertAll]
  | cons e l ih =>
    have first : (m.insert e.1 e.2).contains k = true ↔ k = e.1 ∨ m.contains k = true := by
      rw [contains, contains, get?_insert]
      split
      next same => simp [same]
      next other => simp [other]
    have rest : (m.insertAll (e :: l)).contains k =
        ((m.insert e.1 e.2).insertAll l).contains k := rfl
    rw [rest, ih, first, List.map_cons, List.mem_cons, or_left_comm, or_assoc]

theorem contains_ofList {l : List (Ident × α)} {k : Ident} :
    (ofList l).contains k = true ↔ k ∈ l.map Prod.fst := by
  rw [ofList, contains_insertAll]
  exact or_iff_left (not_contains_empty k)

theorem filterKeys_eq_self {p : Ident → Bool} {m : IdMap α}
    (h : ∀ k, m.contains k = true → p k = true) : m.filterKeys p = m := by
  refine ext_get? fun k => ?_
  rw [get?_filterKeys]
  split
  next => rfl
  next out =>
    cases entry : m.get? k with
    | none => rfl
    | some a => exact absurd (h k (contains_eq_true_iff.2 ⟨a, entry⟩)) out

theorem mapEntries_eq {m : IdMap α} {n : IdMap β} {f : Ident → α → β} (keys : n.keys = m.keys)
    (h : ∀ k a b, m.get? k = some a → n.get? k = some b → f k a = b) : m.mapEntries f = n := by
  refine ext_get? fun k => ?_
  have known : n.contains k = m.contains k := contains_congr keys k
  rw [get?_mapEntries]
  cases entry : n.get? k with
  | none =>
    have nothing : m.get? k = none := by simpa [contains, entry] using known
    rw [nothing]
    rfl
  | some b =>
    obtain ⟨a, ha⟩ : ∃ a, m.get? k = some a := by
      rw [← contains_eq_true_iff, ← known]
      exact contains_eq_true_iff.2 ⟨b, entry⟩
    rw [ha, Option.map_some, h k a b ha entry]

end IdMap

theorem IdSet.nodup_toList (s : IdSet) : s.toList.Nodup := s.table.nodup_keys

theorem IdSet.insert_eq_self {s : IdSet} {a : Ident} (h : a ∈ s) : s.insert a = s := by
  refine ext_mem fun b => ?_
  rw [mem_insert]
  exact or_iff_right_of_imp fun same => same ▸ h

end Parliament
