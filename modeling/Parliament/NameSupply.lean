import Parliament.Fault

/-! # Supplies of new names

A supply hands out names one after the other and stops before the reserved ones.
-/

namespace Parliament

structure NameSupply where
  next : Ident
deriving DecidableEq

namespace NameSupply

def startingFrom (a : Ident) : NameSupply := ⟨a⟩

def new : NameSupply := ⟨⟨0⟩⟩

instance : Inhabited NameSupply := ⟨new⟩

def take (s : NameSupply) : Except Fault (Ident × NameSupply) :=
  if s.next.isReserved then .error (.namesExhausted s.next)
  else .ok (s.next, ⟨⟨s.next.val + 1⟩⟩)

/-- A name that was taken is free for use, and the supply goes on right behind it. -/
theorem take_eq_ok {s t : NameSupply} {a : Ident} (h : s.take = .ok (a, t)) :
    a = s.next ∧ a.toNat < 248 ∧ t.next.toNat = a.toNat + 1 := by
  unfold take at h
  split at h
  · simp at h
  next hr =>
    simp only [Except.ok.injEq, Prod.mk.injEq] at h
    obtain ⟨rfl, rfl⟩ := h
    rw [Ident.isReserved_iff] at hr
    have lt : s.next.val.toNat < 248 := by simpa [Ident.toNat] using hr
    refine ⟨rfl, lt, ?_⟩
    simp only [Ident.toNat, UInt8.toNat_add]
    have : (1 : UInt8).toNat = 1 := rfl
    omega

end NameSupply

end Parliament
