import Mathlib.Data.Rat.Floor
import Parliament.Proofs.Tally.Decision

/-! # Thresholds as fractions

The thresholds are worked out in words of limited size, and a fraction of the total is rounded on
the way. What they come to is the exact fraction, rounded once, of whatever total a word holds. Only
two thirds of a total in the upper half of the words cannot be had: it is doubled before it is
divided, and no word holds the double.
-/

namespace Parliament.Tally

variable {t : Tally} {m : IdMap Permissions} {total : UInt32}

/-- Both thresholds are there. To pass, more than half is needed, or two thirds rounded up; to fail,
just as much, or one more than two thirds leave. -/
def HasExactThresholds (t : Tally) (m : IdMap Permissions) : Prop :=
  ∃ needed enough : UInt32, t.passThreshold m = .ok needed ∧ t.failThreshold m = .ok enough ∧
    if t.supermajority then
      (needed.toNat : Int) = ⌈(2 * t.volume m : ℚ) / 3⌉ ∧
        (enough.toNat : Int) = t.volume m - ⌈(2 * t.volume m : ℚ) / 3⌉ + 1
    else
      (needed.toNat : Int) = ⌊(t.volume m : ℚ) / 2⌋ + 1 ∧
        (enough.toNat : Int) = ⌊(t.volume m : ℚ) / 2⌋ + 1

/-! ## Rounding -/

theorem floor_half (n : Nat) : ⌊(n : ℚ) / 2⌋ = (n / 2 : Nat) := by
  exact_mod_cast Rat.floor_natCast_div_natCast n 2

theorem ceil_two_thirds (n : Nat) : ⌈(2 * n : ℚ) / 3⌉ = ((2 * n + 2) / 3 : Nat) := by
  have rounded := Rat.ceil_natCast_div_natCast (2 * n) 3
  push_cast at rounded
  rw [rounded]
  omega

/-! ## Totals that are too large -/

theorem twoThirds_eq_error (large : 2 ^ 31 ≤ total.toNat) :
    twoThirds total = .error (.overflow .multiply) := by
  have two : (2 : UInt32).toNat = 2 := rfl
  have beyond : ¬ total.toNat * (2 : UInt32).toNat < UInt32.size := by
    rw [two, UInt32.size]
    omega
  rw [twoThirds, Count.mul, Count.ofNat, if_neg beyond]
  rfl

theorem passThreshold_eq_error (super : t.supermajority = true) (found : t.total m = .ok total)
    (large : 2 ^ 31 ≤ total.toNat) : t.passThreshold m = .error (.overflow .multiply) := by
  rw [passThreshold, found, ok_bind, if_pos super, twoThirds_eq_error large]

theorem failThreshold_eq_error (none : t.passThreshold m = .error (.overflow .multiply)) :
    t.failThreshold m = .error (.overflow .multiply) := by
  rw [failThreshold, none]
  rfl

/-! ## Exact thresholds -/

theorem hasExactThresholds (fits : t.volume m < t.capacity) : t.HasExactThresholds m := by
  obtain ⟨needed, hneeded⟩ := Count.exists_toNat (passBar_lt_of_fits fits)
  obtain ⟨enough, henough⟩ := Count.exists_toNat (failBar_lt_of_fits fits)
  refine ⟨needed, enough, passThreshold_eq_ok.2 ⟨fits, hneeded⟩,
    failThreshold_eq_ok.2 ⟨fits, henough⟩, ?_⟩
  rw [floor_half, ceil_two_thirds, hneeded, henough]
  unfold failBar passBar
  split
  next super => omega
  next simple => exact ⟨rfl, rfl⟩

theorem fits_capacity_iff (fits : t.volume m < 2 ^ 32) :
    t.volume m < t.capacity ↔ ¬ (t.supermajority = true ∧ 2 ^ 31 ≤ t.volume m) := by
  unfold capacity
  split
  next super => simp [super]
  next simple => exact iff_of_true fits fun both => simple both.1

/-- Whatever the total, as long as a word holds it, the thresholds are there and exact, unless two
thirds are needed of a total of which a word does not hold the double. Then there are none. -/
theorem thresholds_exact_iff (fits : t.volume m < 2 ^ 32) :
    (∃ total : UInt32, t.total m = .ok total ∧ total.toNat = t.volume m) ∧
      (t.HasExactThresholds m ↔ ¬ (t.supermajority = true ∧ 2 ^ 31 ≤ t.volume m)) ∧
      (t.supermajority = true ∧ 2 ^ 31 ≤ t.volume m →
        t.passThreshold m = .error (.overflow .multiply) ∧
          t.failThreshold m = .error (.overflow .multiply)) := by
  obtain ⟨total, size⟩ := Count.exists_toNat fits
  have found : t.total m = .ok total := total_eq_ok.2 size
  refine ⟨⟨total, found, size⟩, ?_, ?_⟩
  · rw [← fits_capacity_iff fits]
    refine ⟨?_, hasExactThresholds⟩
    rintro ⟨needed, -, hneeded, -⟩
    exact (passThreshold_eq_ok.1 hneeded).1
  · rintro ⟨super, large⟩
    have pass := passThreshold_eq_error super found (size ▸ large)
    exact ⟨pass, failThreshold_eq_error pass⟩

/-- The largest total of which there are two thirds. -/
def crowd : Tally where
  passBonus := 2147483647
  supermajority := true

theorem thresholds_exact_iff_crowd :
    crowd.volume .empty = 2147483647 ∧ crowd.HasExactThresholds .empty := by
  have volume : crowd.volume .empty = 2147483647 := by decide +kernel
  refine ⟨volume, (thresholds_exact_iff (by rw [volume]; decide)).2.1.2 ?_⟩
  rw [volume]
  decide

/-- One vote more than in the crowd. -/
def throng : Tally where
  passBonus := 2147483648
  supermajority := true

/-- Two thirds of the throng are a number that a word holds, and still they are not found. -/
theorem throng_without_thresholds :
    throng.total .empty = .ok 2147483648 ∧ ⌈(2 * throng.volume .empty : ℚ) / 3⌉ = 1431655766 ∧
      throng.passThreshold .empty = .error (.overflow .multiply) ∧
      throng.failThreshold .empty = .error (.overflow .multiply) := by
  have volume : throng.volume .empty = 2147483648 := by decide +kernel
  refine ⟨by decide +kernel, ?_, by decide +kernel, by decide +kernel⟩
  rw [volume, ceil_two_thirds]
  rfl

end Parliament.Tally
