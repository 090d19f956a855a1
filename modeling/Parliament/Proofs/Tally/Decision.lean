import Parliament.Proofs.Tally

/-! # Thresholds and decisions

Beside each threshold stands its bar, the same bound as a number without a limit. A vote counts on
one side at most, and the bars are so high that both together are out of reach.
-/

namespace Parliament.Tally

variable {t u : Tally} {m : IdMap Permissions} {c : UInt32}

/-! ## Bars -/

/-- More than half, or two thirds rounded up. -/
def passBar (t : Tally) (m : IdMap Permissions) : Nat :=
  if t.supermajority then (2 * t.volume m + 2) / 3 else t.volume m / 2 + 1

/-- Where two thirds are needed, one more than what may be missing. -/
def failBar (t : Tally) (m : IdMap Permissions) : Nat :=
  if t.supermajority then t.volume m - t.passBar m + 1 else t.passBar m

/-- The volumes for which there are thresholds. For two thirds the total is doubled first. -/
def capacity (t : Tally) : Nat := if t.supermajority then 2 ^ 31 else 2 ^ 32

theorem pow_le_capacity (t : Tally) : 2 ^ 31 ≤ t.capacity := by
  unfold capacity
  split <;> omega

theorem capacity_le (t : Tally) : t.capacity ≤ 2 ^ 32 := by
  unfold capacity
  split <;> omega

theorem passBar_le (t : Tally) (m : IdMap Permissions) : t.passBar m ≤ t.volume m + 1 := by
  unfold passBar
  split <;> omega

theorem passBar_le_volume (super : t.supermajority = true) : t.passBar m ≤ t.volume m := by
  unfold passBar
  rw [if_pos super]
  omega

theorem failBar_pos (t : Tally) (m : IdMap Permissions) : 1 ≤ t.failBar m := by
  unfold failBar passBar
  split <;> omega

theorem passBar_lt_of_fits (fits : t.volume m < t.capacity) : t.passBar m < 2 ^ 32 := by
  have room := t.capacity_le
  unfold passBar
  split
  next super =>
    rw [capacity, if_pos super] at fits
    omega
  next => omega

theorem failBar_lt_of_fits (fits : t.volume m < t.capacity) : t.failBar m < 2 ^ 32 := by
  have bar := passBar_lt_of_fits fits
  unfold capacity at fits
  unfold failBar
  split
  next super =>
    rw [if_pos super] at fits
    omega
  next => exact bar

theorem passBar_congr (same : u.clearVotes = t.clearVotes) (m : IdMap Permissions) :
    u.passBar m = t.passBar m :=
  (congrArg (fun t => passBar t m) same :)

theorem failBar_congr (same : u.clearVotes = t.clearVotes) (m : IdMap Permissions) :
    u.failBar m = t.failBar m :=
  (congrArg (fun t => failBar t m) same :)

theorem fits_congr (same : u.clearVotes = t.clearVotes) (fits : t.volume m < t.capacity) :
    u.volume m < u.capacity := by
  have limit : u.capacity = t.capacity := (congrArg Tally.capacity same :)
  rw [volume_congr same, limit]
  exact fits

theorem volume_lt_passBar_add_failBar (t : Tally) (m : IdMap Permissions) :
    t.volume m < t.passBar m + t.failBar m := by
  unfold failBar passBar
  split <;> omega

/-! ## Thresholds and bars -/

theorem toNat_simpleMajority (total : UInt32) :
    (simpleMajority total).toNat = total.toNat / 2 + 1 := by
  have bound := total.toNat_lt
  have half : (total / 2).toNat = total.toNat / 2 := UInt32.toNat_div total 2
  have one : (1 : UInt32).toNat = 1 := rfl
  unfold simpleMajority
  rw [UInt32.toNat_add, half, one, Nat.mod_eq_of_lt]
  omega

theorem toNat_ceilDiv_three (a : UInt32) : (ceilDiv a 3).toNat = (a.toNat + 2) / 3 := by
  have bound := a.toNat_lt
  have quotient : (a / 3).toNat = a.toNat / 3 := UInt32.toNat_div a 3
  have rest : (a % 3).toNat = a.toNat % 3 := UInt32.toNat_mod a 3
  unfold ceilDiv
  split
  next h =>
    rw [← UInt32.toNat_inj, rest] at h
    rw [quotient]
    have : (0 : UInt32).toNat = 0 := rfl
    omega
  next h =>
    rw [← UInt32.toNat_inj, rest] at h
    have one : (1 : UInt32).toNat = 1 := rfl
    have zero : (0 : UInt32).toNat = 0 := rfl
    -- A third leaves room to round up.
    rw [UInt32.toNat_add, quotient, one, Nat.mod_eq_of_lt] <;> omega

theorem twoThirds_eq_ok {total : UInt32} : twoThirds total = .ok c ↔
    2 * total.toNat < 2 ^ 32 ∧ c.toNat = (2 * total.toNat + 2) / 3 := by
  unfold twoThirds
  rw [bind_eq_ok]
  constructor
  · rintro ⟨double, hd, h⟩
    obtain rfl := pure_eq_ok.1 h
    have bound := double.toNat_lt
    have two : (2 : UInt32).toNat = 2 := rfl
    rw [Count.mul_eq_ok, two] at hd
    rw [toNat_ceilDiv_three]
    omega
  · rintro ⟨fits, h⟩
    obtain ⟨double, hd⟩ := Count.exists_toNat fits
    have two : (2 : UInt32).toNat = 2 := rfl
    refine ⟨double, ?_, pure_eq_ok.2 ?_⟩
    · rw [Count.mul_eq_ok, two]
      omega
    · rw [← UInt32.toNat_inj, toNat_ceilDiv_three, h, hd]

theorem passThreshold_eq_ok :
    t.passThreshold m = .ok c ↔ t.volume m < t.capacity ∧ c.toNat = t.passBar m := by
  unfold passThreshold
  rw [bind_eq_ok]
  constructor
  · rintro ⟨all, hall, h⟩
    rw [total_eq_ok] at hall
    unfold capacity passBar
    split at h
    next super =>
      -- Two thirds are taken of the double, which needs room of its own.
      rw [twoThirds_eq_ok, hall] at h
      rw [if_pos super, if_pos super]
      exact ⟨by omega, h.2⟩
    next simple =>
      have bound := all.toNat_lt
      rw [if_neg simple, if_neg simple, ← pure_eq_ok.1 h, toNat_simpleMajority, hall]
      exact ⟨by omega, rfl⟩
  · rintro ⟨fits, h⟩
    obtain ⟨all, hall⟩ := Count.exists_toNat (Nat.lt_of_lt_of_le fits t.capacity_le)
    refine ⟨all, total_eq_ok.2 hall, ?_⟩
    unfold capacity at fits
    unfold passBar at h
    split
    next super =>
      rw [if_pos super] at fits h
      exact twoThirds_eq_ok.2 ⟨by omega, by rw [h, hall]⟩
    next simple =>
      rw [if_neg simple] at h
      rw [pure_eq_ok, ← UInt32.toNat_inj, toNat_simpleMajority, hall, h]

theorem failThreshold_eq_ok :
    t.failThreshold m = .ok c ↔ t.volume m < t.capacity ∧ c.toNat = t.failBar m := by
  unfold failThreshold
  rw [bind_eq_ok]
  constructor
  · rintro ⟨needed, hneeded, h⟩
    obtain ⟨fits, bar⟩ := passThreshold_eq_ok.1 hneeded
    refine ⟨fits, ?_⟩
    unfold failBar
    split at h
    next super =>
      obtain ⟨all, hall, h⟩ := bind_eq_ok.1 h
      obtain ⟨spare, hspare, h⟩ := bind_eq_ok.1 h
      rw [total_eq_ok] at hall
      rw [Count.sub_eq_ok] at hspare
      rw [Count.add_eq_ok] at h
      have one : (1 : UInt32).toNat = 1 := rfl
      rw [if_pos super]
      omega
    next simple => rw [if_neg simple, ← pure_eq_ok.1 h, bar]
  · rintro ⟨fits, h⟩
    have room := t.capacity_le
    obtain ⟨needed, hneeded⟩ := Count.exists_toNat (passBar_lt_of_fits fits)
    refine ⟨needed, passThreshold_eq_ok.2 ⟨fits, hneeded⟩, ?_⟩
    unfold failBar at h
    split
    next super =>
      -- Two thirds are within the total, so the subtraction does not fail.
      have within := passBar_le_volume (m := m) super
      obtain ⟨all, hall⟩ := Count.exists_toNat (n := t.volume m) (by omega)
      obtain ⟨spare, hspare⟩ := Count.exists_toNat (n := t.volume m - t.passBar m) (by omega)
      have one : (1 : UInt32).toNat = 1 := rfl
      rw [if_pos super] at h
      rw [total_eq_ok.2 hall, ok_bind]
      refine bind_eq_ok.2 ⟨spare, Count.sub_eq_ok.2 ?_, Count.add_eq_ok.2 ?_⟩
      · omega
      · omega
    next simple =>
      rw [if_neg simple] at h
      rw [pure_eq_ok, ← UInt32.toNat_inj, hneeded, h]

/-! ## Decisions -/

/-- How the volumes stand to the bars. -/
def standing (t : Tally) (m : IdMap Permissions) : Option Bool :=
  if t.passBar m ≤ t.passVolume m then some true
  else if t.failBar m ≤ t.failVolume m then some false
  else none

theorem exists_counts (h : t.Disjoint) (fits : t.volume m < t.capacity) :
    ∃ pass fail needed enough : UInt32, t.passCount m = .ok pass ∧ t.failCount m = .ok fail ∧
      t.passThreshold m = .ok needed ∧ t.failThreshold m = .ok enough ∧
      (needed ≤ pass ↔ t.passBar m ≤ t.passVolume m) ∧
      (enough ≤ fail ↔ t.failBar m ≤ t.failVolume m) := by
  have within := passVolume_add_failVolume_le h m
  have room := t.capacity_le
  obtain ⟨pass, hpass⟩ := Count.exists_toNat (n := t.passVolume m) (by omega)
  obtain ⟨fail, hfail⟩ := Count.exists_toNat (n := t.failVolume m) (by omega)
  obtain ⟨needed, hneeded⟩ := Count.exists_toNat (passBar_lt_of_fits fits)
  obtain ⟨enough, henough⟩ := Count.exists_toNat (failBar_lt_of_fits fits)
  refine ⟨pass, fail, needed, enough, passCount_eq_ok.2 hpass, failCount_eq_ok.2 hfail,
    passThreshold_eq_ok.2 ⟨fits, hneeded⟩, failThreshold_eq_ok.2 ⟨fits, henough⟩, ?_, ?_⟩
  · rw [UInt32.le_iff_toNat_le, hneeded, hpass]
  · rw [UInt32.le_iff_toNat_le, henough, hfail]

theorem countedDecision_eq (h : t.Disjoint) (fits : t.volume m < t.capacity) :
    t.countedDecision m = .ok (t.standing m) := by
  obtain ⟨pass, fail, needed, enough, hpass, hfail, hneeded, henough, passes, fails⟩ :=
    exists_counts h fits
  unfold countedDecision standing
  rw [hpass, ok_bind, hneeded, ok_bind]
  split
  next reached =>
    rw [if_pos (passes.1 reached)]
    rfl
  next short =>
    rw [hfail, ok_bind, henough, ok_bind, if_neg (fun k => short (passes.2 k)), pure_eq_ok]
    exact if_congr fails rfl rfl

theorem decision_eq (h : t.Disjoint) (fits : t.volume m < t.capacity) :
    t.decision m = .ok (t.forced.or (t.standing m)) := by
  unfold decision
  split
  next outcome forced => rw [forced, Option.some_or]
  next free => rw [free, Option.none_or, countedDecision_eq h fits]

theorem decision_of_forced {outcome : Bool} (forced : t.forced = some outcome)
    (m : IdMap Permissions) : t.decision m = .ok (some outcome) := by
  rw [decision, forced]

theorem decision_of_free (h : t.Disjoint) (free : t.forced = none)
    (fits : t.volume m < t.capacity) : t.decision m = .ok (t.standing m) := by
  rw [decision_eq h fits, free, Option.none_or]

theorem fits_of_decision {d : Option Bool} (free : t.forced = none) (h : t.decision m = .ok d) :
    t.volume m < t.capacity := by
  rw [decision, free] at h
  obtain ⟨pass, -, h⟩ := bind_eq_ok.1 h
  obtain ⟨needed, hneeded, -⟩ := bind_eq_ok.1 h
  exact (passThreshold_eq_ok.1 hneeded).1

theorem exists_decision (h : t.Disjoint) (fits : t.volume m < 2 ^ 31) :
    ∃ d, t.decision m = .ok d :=
  ⟨_, decision_eq h (Nat.lt_of_lt_of_le fits t.pow_le_capacity)⟩

/-! ## Both thresholds at once -/

/-- The decision with failure looked at first. -/
def decisionFailFirst (t : Tally) (m : IdMap Permissions) : Except Fault (Option Bool) :=
  match t.forced with
  | some outcome => .ok (some outcome)
  | none => do
    let fail ← t.failCount m
    let enough ← t.failThreshold m
    if enough ≤ fail then return some false
    let pass ← t.passCount m
    let needed ← t.passThreshold m
    return if needed ≤ pass then some true else none

theorem not_both_bars (h : t.Disjoint) (m : IdMap Permissions) :
    ¬ (t.passBar m ≤ t.passVolume m ∧ t.failBar m ≤ t.failVolume m) := by
  have within := passVolume_add_failVolume_le h m
  have high := t.volume_lt_passBar_add_failBar m
  omega

theorem standing_eq_true_iff : t.standing m = some true ↔ t.passBar m ≤ t.passVolume m := by
  unfold standing
  split
  next reached => exact iff_of_true rfl reached
  next short =>
    refine iff_of_false ?_ short
    split <;> simp

theorem standing_eq_false_iff (h : t.Disjoint) :
    t.standing m = some false ↔ t.failBar m ≤ t.failVolume m := by
  have exclusive := not_both_bars h m
  unfold standing
  split
  next reached => exact iff_of_false (by simp) fun lost => exclusive ⟨reached, lost⟩
  next =>
    split
    next lost => exact iff_of_true rfl lost
    next held => exact iff_of_false (by simp) held

theorem standing_eq_none_iff :
    t.standing m = none ↔ t.passVolume m < t.passBar m ∧ t.failVolume m < t.failBar m := by
  rw [← Nat.not_le, ← Nat.not_le]
  unfold standing
  split
  next reached => exact iff_of_false (by simp) fun still => still.1 reached
  next short =>
    split
    next lost => exact iff_of_false (by simp) fun still => still.2 lost
    next held => exact iff_of_true rfl ⟨short, held⟩

theorem decision_eq_decisionFailFirst (h : t.Disjoint) (fits : t.volume m < t.capacity) :
    t.decision m = t.decisionFailFirst m := by
  have exclusive := not_both_bars h m
  obtain ⟨pass, fail, needed, enough, hpass, hfail, hneeded, henough, passes, fails⟩ :=
    exists_counts h fits
  rw [decision_eq h fits]
  unfold decisionFailFirst standing
  cases t.forced with
  | some outcome => rfl
  | none =>
    dsimp only
    rw [Option.none_or, hfail, ok_bind, henough, ok_bind]
    by_cases sunk : enough ≤ fail
    · have lost := fails.1 sunk
      rw [if_pos sunk, if_neg (fun k => exclusive ⟨k, lost⟩), if_pos lost]
      rfl
    · rw [if_neg sunk, hpass, ok_bind, hneeded, ok_bind, if_neg (fun k => sunk (fails.2 k)),
        eq_comm, pure_eq_ok]
      exact if_congr passes rfl rfl

/-- A ballot does not pass and fail at once, so it makes no difference which is looked at first. The
threshold for passing is above the total by one at most, that for failing is never zero, and there
is always something to take the needed votes from. -/
theorem thresholds_exclude_each_other (h : t.Disjoint) (fits : t.volume m < 2 ^ 31) :
    ∃ total pass fail needed enough : UInt32, t.total m = .ok total ∧
      t.passCount m = .ok pass ∧ t.failCount m = .ok fail ∧
      t.passThreshold m = .ok needed ∧ t.failThreshold m = .ok enough ∧
      ¬ (needed ≤ pass ∧ enough ≤ fail) ∧
      needed.toNat ≤ total.toNat + 1 ∧ 1 ≤ enough.toNat ∧
      (t.supermajority = true → ∃ spare, Count.sub total needed = .ok spare) ∧
      t.decision m = t.decisionFailFirst m := by
  have room : t.volume m < t.capacity := Nat.lt_of_lt_of_le fits t.pow_le_capacity
  obtain ⟨total, htotal⟩ := Count.exists_toNat (n := t.volume m) (by omega)
  obtain ⟨pass, fail, needed, enough, hpass, hfail, hneeded, henough, passes, fails⟩ :=
    exists_counts h room
  obtain ⟨-, bar⟩ := passThreshold_eq_ok.1 hneeded
  obtain ⟨-, failing⟩ := failThreshold_eq_ok.1 henough
  refine ⟨total, pass, fail, needed, enough, total_eq_ok.2 htotal, hpass, hfail, hneeded, henough,
    ?_, ?_, ?_, fun super => ?_, decision_eq_decisionFailFirst h room⟩
  · rw [passes, fails]
    exact not_both_bars h m
  · rw [bar, htotal]
    exact t.passBar_le m
  · rw [failing]
    exact t.failBar_pos m
  · have within := passBar_le_volume (m := m) super
    obtain ⟨spare, hspare⟩ := Count.exists_toNat (n := t.volume m - t.passBar m) (by omega)
    exact ⟨spare, Count.sub_eq_ok.2 (by omega)⟩

def threeVoices : IdMap Permissions :=
  .ofList [(⟨1⟩, ⟨true, 1, true⟩), (⟨2⟩, ⟨true, 1, true⟩), (⟨3⟩, ⟨true, 1, true⟩)]

/-- Two of three are against, and two thirds are needed. -/
def outvoted : Tally where
  passVoters := .ofList [⟨1⟩]
  failVoters := .ofList [⟨2⟩, ⟨3⟩]
  supermajority := true

theorem thresholds_exclude_each_other_outvoted :
    outvoted.Disjoint ∧ outvoted.volume threeVoices = 3 ∧
      outvoted.decision threeVoices = .ok (some false) ∧
      ∃ pass fail needed enough : UInt32, outvoted.passCount threeVoices = .ok pass ∧
        outvoted.failCount threeVoices = .ok fail ∧
        outvoted.passThreshold threeVoices = .ok needed ∧
        outvoted.failThreshold threeVoices = .ok enough ∧ ¬ (needed ≤ pass ∧ enough ≤ fail) ∧
        outvoted.decision threeVoices = outvoted.decisionFailFirst threeVoices := by
  have disjoint : outvoted.Disjoint := by
    intro person hp hf
    simp only [outvoted, IdSet.mem_ofList, List.mem_singleton] at hp hf
    subst hp
    simp at hf
  have volume : outvoted.volume threeVoices = 3 := by decide +kernel
  obtain ⟨_, pass, fail, needed, enough, -, hpass, hfail, hneeded, henough, exclusive, -, -, -,
    same⟩ := thresholds_exclude_each_other disjoint (m := threeVoices) (by rw [volume]; decide)
  exact ⟨disjoint, volume, by decide +kernel, pass, fail, needed, enough, hpass, hfail, hneeded,
    henough, exclusive, same⟩

end Parliament.Tally
