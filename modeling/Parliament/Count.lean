import Parliament.Fault

/-! # Counts

A count is a 32-bit word. A sum, a difference or a product that no word holds is a fault.
-/

namespace Parliament.Count

def ofNat (operation : CountOperation) (n : Nat) : Except Fault UInt32 :=
  if n < UInt32.size then .ok (UInt32.ofNat n) else .error (.overflow operation)

def add (a b : UInt32) : Except Fault UInt32 := ofNat .add (a.toNat + b.toNat)

def mul (a b : UInt32) : Except Fault UInt32 := ofNat .multiply (a.toNat * b.toNat)

def sub (a b : UInt32) : Except Fault UInt32 :=
  if b ≤ a then .ok (a - b) else .error (.overflow .subtract)

def sum : List UInt32 → Except Fault UInt32
  | [] => .ok 0
  | a :: l =>
    match sum l with
    | .ok b => add a b
    | .error e => .error e

/-! ## When there is a result -/

theorem ofNat_eq_ok {operation : CountOperation} {n : Nat} {c : UInt32} :
    ofNat operation n = .ok c ↔ c.toNat = n := by
  unfold ofNat
  split
  next h =>
    rw [Except.ok.injEq, ← UInt32.toNat_inj, UInt32.toNat_ofNat_of_lt' h]
    exact eq_comm
  next h =>
    have := c.toNat_lt_size
    constructor
    · intro k; simp at k
    · intro k; omega

theorem add_eq_ok {a b c : UInt32} : add a b = .ok c ↔ c.toNat = a.toNat + b.toNat := ofNat_eq_ok

theorem mul_eq_ok {a b c : UInt32} : mul a b = .ok c ↔ c.toNat = a.toNat * b.toNat := ofNat_eq_ok

theorem sub_eq_ok {a b c : UInt32} : sub a b = .ok c ↔ a.toNat = b.toNat + c.toNat := by
  unfold sub
  split
  next h =>
    have le := UInt32.le_iff_toNat_le.1 h
    rw [Except.ok.injEq, ← UInt32.toNat_inj, UInt32.toNat_sub_of_le _ _ h]
    omega
  next h =>
    rw [UInt32.le_iff_toNat_le] at h
    constructor
    · intro k; simp at k
    · intro k; omega

theorem sum_eq_ok {l : List UInt32} {c : UInt32} :
    sum l = .ok c ↔ c.toNat = l.foldr (fun a n => a.toNat + n) 0 := by
  induction l generalizing c with
  | nil => simp [sum, ← UInt32.toNat_inj, eq_comm]
  | cons a l ih =>
    rw [List.foldr_cons]
    unfold sum
    split
    next b hb => rw [add_eq_ok, ih.1 hb]
    next e he =>
      have := c.toNat_lt_size
      constructor
      · intro k; simp at k
      · intro k
        have fits : l.foldr (fun a n => a.toNat + n) 0 < UInt32.size := by omega
        have := ih.2 (UInt32.toNat_ofNat_of_lt' fits)
        rw [he] at this
        simp at this

end Parliament.Count
