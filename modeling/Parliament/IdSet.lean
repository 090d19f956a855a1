import Parliament.IdMap

/-! # Sets of names

A set is a table without values, so its names too stand in ascending order.
-/

namespace Parliament

structure IdSet where
  table : IdMap Unit
deriving DecidableEq

namespace IdSet

def empty : IdSet := ⟨.empty⟩

instance : Inhabited IdSet := ⟨empty⟩

def toList (s : IdSet) : List Ident := s.table.keys

def isEmpty (s : IdSet) : Bool := s.table.isEmpty

def size (s : IdSet) : Nat := s.toList.length

def contains (s : IdSet) (a : Ident) : Bool := s.table.contains a

instance : Membership Ident IdSet := ⟨fun s a => s.contains a = true⟩

instance (a : Ident) (s : IdSet) : Decidable (a ∈ s) :=
  inferInstanceAs (Decidable (s.contains a = true))

def insert (s : IdSet) (a : Ident) : IdSet := ⟨s.table.insert a ()⟩

def erase (s : IdSet) (a : Ident) : IdSet := ⟨s.table.erase a⟩

def insertAll (s : IdSet) (l : List Ident) : IdSet := l.foldl insert s

def eraseAll (s : IdSet) (l : List Ident) : IdSet := l.foldl erase s

def ofList (l : List Ident) : IdSet := empty.insertAll l

def any (s : IdSet) (p : Ident → Bool) : Bool := s.toList.any p

/-! ## Membership -/

theorem mem_iff {a : Ident} {s : IdSet} : a ∈ s ↔ s.contains a = true := Iff.rfl

@[simp] theorem not_mem_empty (a : Ident) : ¬ a ∈ empty := IdMap.not_contains_empty a

@[simp] theorem mem_insert {a b : Ident} {s : IdSet} : a ∈ s.insert b ↔ a = b ∨ a ∈ s := by
  by_cases h : a = b <;> simp [mem_iff, contains, insert, IdMap.contains, IdMap.get?_insert, h]

@[simp] theorem mem_erase {a b : Ident} {s : IdSet} : a ∈ s.erase b ↔ a ≠ b ∧ a ∈ s := by
  by_cases h : a = b <;> simp [mem_iff, contains, erase, IdMap.contains, IdMap.get?_erase, h]

@[simp] theorem mem_insertAll {a : Ident} {l : List Ident} {s : IdSet} :
    a ∈ s.insertAll l ↔ a ∈ l ∨ a ∈ s := by
  induction l generalizing s with
  | nil => simp [insertAll]
  | cons b l ih =>
    have : s.insertAll (b :: l) = (s.insert b).insertAll l := rfl
    rw [this, ih, mem_insert, List.mem_cons, or_left_comm, or_assoc]

@[simp] theorem mem_eraseAll {a : Ident} {l : List Ident} {s : IdSet} :
    a ∈ s.eraseAll l ↔ a ∉ l ∧ a ∈ s := by
  induction l generalizing s with
  | nil => simp [eraseAll]
  | cons b l ih =>
    have : s.eraseAll (b :: l) = (s.erase b).eraseAll l := rfl
    rw [this, ih, mem_erase, List.mem_cons, not_or, and_left_comm, and_assoc]

@[simp] theorem mem_ofList {a : Ident} {l : List Ident} : a ∈ ofList l ↔ a ∈ l := by
  simp [ofList]

@[simp] theorem mem_toList {a : Ident} {s : IdSet} : a ∈ s.toList ↔ a ∈ s := IdMap.mem_keys_iff

theorem ext_mem {s t : IdSet} (h : ∀ a, a ∈ s ↔ a ∈ t) : s = t := by
  obtain ⟨m⟩ := s
  obtain ⟨n⟩ := t
  congr 1
  refine IdMap.ext_get? fun k => ?_
  have := h k
  simp only [mem_iff, contains, IdMap.contains] at this
  cases hm : m.get? k <;> cases hn : n.get? k <;> simp_all

end IdSet

end Parliament
