import Parliament.Entries
import Parliament.Ident

/-! # Tables by name

A table holds at most one entry for each name, and its entries stand in ascending order. Two tables
with the same look-ups are therefore the same table (`ext_get?`).
-/

namespace Parliament

variable {α β : Type}

structure IdMap (α : Type) where
  entries : List (Ident × α)
  ascending : Entries.Ascending entries
deriving DecidableEq

namespace IdMap

theorem ext_entries {m n : IdMap α} (h : m.entries = n.entries) : m = n := by
  cases m; cases n; cases h; rfl

def empty : IdMap α := ⟨[], List.Pairwise.nil⟩

instance : Inhabited (IdMap α) := ⟨empty⟩

def isEmpty (m : IdMap α) : Bool := m.entries.isEmpty

def get? (m : IdMap α) (k : Ident) : Option α := Entries.get? k m.entries

def contains (m : IdMap α) (k : Ident) : Bool := (m.get? k).isSome

def keys (m : IdMap α) : List Ident := m.entries.map Prod.fst

def values (m : IdMap α) : List α := m.entries.map Prod.snd

def insert (m : IdMap α) (k : Ident) (a : α) : IdMap α :=
  ⟨Entries.insert k a m.entries, Entries.ascending_insert m.ascending⟩

def erase (m : IdMap α) (k : Ident) : IdMap α :=
  ⟨m.entries.filter fun e => e.1 ≠ k, m.ascending.filter _⟩

def filterKeys (p : Ident → Bool) (m : IdMap α) : IdMap α :=
  ⟨m.entries.filter fun e => p e.1, m.ascending.filter _⟩

/-- Each entry is made anew from its name and its value. -/
def mapEntries (f : Ident → α → β) (m : IdMap α) : IdMap β :=
  ⟨m.entries.map fun e => (e.1, f e.1 e.2), Entries.ascending_map f m.ascending⟩

def traverse {ε : Type} (f : Ident → α → Except ε β) (m : IdMap α) : Except ε (IdMap β) :=
  match h : Entries.traverse f m.entries with
  | .error e => .error e
  | .ok l => .ok ⟨l, Entries.ascending_traverse m.ascending h⟩

def insertAll (m : IdMap α) (l : List (Ident × α)) : IdMap α :=
  l.foldl (fun m e => m.insert e.1 e.2) m

/-- Of two entries for one name the later stays. -/
def ofList (l : List (Ident × α)) : IdMap α := empty.insertAll l

/-! ## Look-ups -/

theorem ext_get? {m n : IdMap α} (h : ∀ k, m.get? k = n.get? k) : m = n :=
  ext_entries (Entries.eq_of_get?_eq m.ascending n.ascending h)

theorem get?_empty_ne_some (k : Ident) (a : α) : (empty : IdMap α).get? k ≠ some a :=
  (Option.some_ne_none a).symm

theorem not_contains_empty (k : Ident) : ¬ (empty : IdMap α).contains k = true :=
  Bool.false_ne_true

theorem get?_insert (m : IdMap α) (k j : Ident) (a : α) :
    (m.insert k a).get? j = if j = k then some a else m.get? j :=
  Entries.get?_insert k j a m.entries

@[simp] theorem get?_insert_self (m : IdMap α) (k : Ident) (a : α) :
    (m.insert k a).get? k = some a := by simp [get?_insert]

theorem get?_filterKeys (p : Ident → Bool) (m : IdMap α) (k : Ident) :
    (m.filterKeys p).get? k = if p k then m.get? k else none :=
  Entries.get?_filter p m.entries k

theorem get?_erase (m : IdMap α) (k j : Ident) :
    (m.erase k).get? j = if j = k then none else m.get? j := by
  have h : (m.erase k).get? j = if decide (j ≠ k) then m.get? j else none :=
    m.get?_filterKeys (fun i => decide (i ≠ k)) j
  rw [h]
  by_cases e : j = k <;> simp [e]

theorem get?_mapEntries (f : Ident → α → β) (m : IdMap α) (k : Ident) :
    (m.mapEntries f).get? k = (m.get? k).map (f k) :=
  Entries.get?_map f m.entries k

theorem mem_entries_iff {m : IdMap α} {k : Ident} {a : α} :
    (k, a) ∈ m.entries ↔ m.get? k = some a :=
  Entries.mem_iff_get?_eq_some m.ascending

theorem mem_keys_iff {m : IdMap α} {k : Ident} : k ∈ m.keys ↔ m.contains k = true := by
  simp only [keys, contains, List.mem_map, Option.isSome_iff_exists]
  constructor
  · rintro ⟨⟨j, a⟩, h, rfl⟩; exact ⟨a, mem_entries_iff.1 h⟩
  · rintro ⟨a, h⟩; exact ⟨(k, a), mem_entries_iff.2 h, rfl⟩

@[simp] theorem keys_mapEntries (f : Ident → α → β) (m : IdMap α) :
    (m.mapEntries f).keys = m.keys := by simp [keys, mapEntries]

theorem traverse_eq_ok {ε : Type} {f : Ident → α → Except ε β} {m : IdMap α} {n : IdMap β}
    (h : m.traverse f = .ok n) : Entries.traverse f m.entries = .ok n.entries := by
  unfold traverse at h
  split at h
  · simp at h
  next l hl =>
    simp only [Except.ok.injEq] at h
    subst h
    exact hl

theorem keys_traverse {ε : Type} {f : Ident → α → Except ε β} {m : IdMap α} {n : IdMap β}
    (h : m.traverse f = .ok n) : n.keys = m.keys :=
  Entries.keys_traverse (traverse_eq_ok h)

theorem get?_traverse {ε : Type} {f : Ident → α → Except ε β} {m : IdMap α} {n : IdMap β}
    (h : m.traverse f = .ok n) (k : Ident) : (m.get? k).map (f k) = (n.get? k).map .ok :=
  Entries.get?_traverse (traverse_eq_ok h) k

end IdMap

end Parliament
