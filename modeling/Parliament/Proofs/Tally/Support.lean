import Parliament.Proofs.Tally.Decision

/-! # Support and opposition

Votes and bonuses tell on their own side: what is added for a ballot does not bring its decision
down, and what is added against it does not bring it up. What passes has more for it than against
it, with one exception, because two thirds of nothing are nothing.
-/

namespace Parliament.Tally

variable {t u : Tally} {m : IdMap Permissions}

/-! ## The order of decisions -/

/-- How far a decision goes in favour of the ballot. -/
def favour : Option Bool → Nat
  | some false => 0
  | none => 1
  | some true => 2

theorem favour_le_two (d : Option Bool) : favour d ≤ 2 := by
  rcases d with _ | _ | _ <;> decide

/-- Both decisions are there, and the second is no less in favour than the first. -/
def AtMost (d e : Except Fault (Option Bool)) : Prop :=
  ∃ a b, d = .ok a ∧ e = .ok b ∧ favour a ≤ favour b

theorem favour_standing_le
    (keeps : t.passBar m ≤ t.passVolume m → u.passBar m ≤ u.passVolume m)
    (spares : u.failBar m ≤ u.failVolume m → t.failBar m ≤ t.failVolume m) :
    favour (t.standing m) ≤ favour (u.standing m) := by
  unfold standing
  by_cases passed : u.passBar m ≤ u.passVolume m
  · rw [if_pos passed]
    exact favour_le_two _
  · -- It had not passed before either, so all depends on whether it fails.
    rw [if_neg passed, if_neg fun before => passed (keeps before)]
    by_cases failed : u.failBar m ≤ u.failVolume m
    · rw [if_pos (spares failed)]
      exact Nat.zero_le _
    · rw [if_neg failed]
      split <;> decide

theorem atMost_decision (h : t.Disjoint) (k : u.Disjoint) (room : t.volume m < t.capacity)
    (space : u.volume m < u.capacity) (same : u.forced = t.forced)
    (keeps : t.passBar m ≤ t.passVolume m → u.passBar m ≤ u.passVolume m)
    (spares : u.failBar m ≤ u.failVolume m → t.failBar m ≤ t.failVolume m) :
    AtMost (t.decision m) (u.decision m) := by
  refine ⟨_, _, decision_eq h room, decision_eq k space, ?_⟩
  rw [same]
  cases t.forced with
  | some outcome => exact Nat.le_refl _
  | none => exact favour_standing_le keeps spares

/-! ## Votes -/

theorem atMost_of_voters (h : t.Disjoint) (k : u.Disjoint) (fits : t.volume m < 2 ^ 31)
    (terms : u.clearVotes = t.clearVotes) (pass : ∀ person ∈ t.passVoters, person ∈ u.passVoters)
    (fail : ∀ person ∈ u.failVoters, person ∈ t.failVoters) :
    AtMost (t.decision m) (u.decision m) := by
  have support := passVolume_mono (passBonus_congr terms).ge pass m
  have opposition := failVolume_mono (failBonus_congr terms).le fail m
  have room : t.volume m < t.capacity := Nat.lt_of_lt_of_le fits t.pow_le_capacity
  refine atMost_decision h k room (fits_congr terms room) (forced_congr terms) ?_ ?_
  · rw [passBar_congr terms]
    omega
  · rw [failBar_congr terms]
    omega

theorem atMost_record (h : t.Disjoint) (fits : t.volume m < 2 ^ 31) (person : Ident) {v w : Vote}
    (pass : v = .pass → w = .pass) (fail : w = .fail → v = .fail) :
    AtMost ((t.record person v).decision m) ((t.record person w).decision m) := by
  have room : (t.record person v).volume m < 2 ^ 31 := by
    rw [volume_congr (t.clearVotes_record person v)]
    exact fits
  refine atMost_of_voters (h.record person v) (h.record person w) room ?_ ?_ ?_
  · rw [clearVotes_record, clearVotes_record]
  · intro voter voted
    rw [mem_passVoters_record] at voted ⊢
    exact voted.imp_left fun is => ⟨is.1, pass is.2⟩
  · intro voter voted
    rw [mem_failVoters_record] at voted ⊢
    exact voted.imp_left fun is => ⟨is.1, fail is.2⟩

/-! ## Bonuses -/

theorem passBar_between (mode : u.supermajority = t.supermajority) {k : Nat}
    (more : u.volume m = t.volume m + k) :
    t.passBar m ≤ u.passBar m ∧ u.passBar m ≤ t.passBar m + k := by
  unfold passBar
  rw [mode, more]
  split <;> omega

theorem failBar_between (mode : u.supermajority = t.supermajority) {k : Nat}
    (more : u.volume m = t.volume m + k) :
    t.failBar m ≤ u.failBar m ∧ u.failBar m ≤ t.failBar m + k := by
  unfold failBar passBar
  rw [mode, more]
  split <;> omega

theorem atMost_of_support (h : t.Disjoint) (k : u.Disjoint) (fits : u.volume m < 2 ^ 31)
    (mode : u.supermajority = t.supermajority) (same : u.forced = t.forced) {n : Nat}
    (volume : u.volume m = t.volume m + n) (pass : u.passVolume m = t.passVolume m + n)
    (fail : u.failVolume m = t.failVolume m) : AtMost (t.decision m) (u.decision m) := by
  have forBars := passBar_between mode volume
  have againstBars := failBar_between mode volume
  have room : t.volume m < 2 ^ 31 := by omega
  refine atMost_decision h k (Nat.lt_of_lt_of_le room t.pow_le_capacity)
    (Nat.lt_of_lt_of_le fits u.pow_le_capacity) same ?_ ?_
  · omega
  · omega

theorem atMost_of_opposition (h : t.Disjoint) (k : u.Disjoint) (fits : u.volume m < 2 ^ 31)
    (mode : u.supermajority = t.supermajority) (same : u.forced = t.forced) {n : Nat}
    (volume : u.volume m = t.volume m + n) (pass : u.passVolume m = t.passVolume m)
    (fail : u.failVolume m = t.failVolume m + n) : AtMost (u.decision m) (t.decision m) := by
  have forBars := passBar_between mode volume
  have againstBars := failBar_between mode volume
  have room : t.volume m < 2 ^ 31 := by omega
  refine atMost_decision k h (Nat.lt_of_lt_of_le fits u.pow_le_capacity)
    (Nat.lt_of_lt_of_le room t.pow_le_capacity) same.symm ?_ ?_
  · omega
  · omega

theorem atMost_passBonus (h : t.Disjoint) {bonus : UInt32} (raised : t.passBonus ≤ bonus)
    (fits : ({ t with passBonus := bonus } : Tally).volume m < 2 ^ 31) :
    AtMost (t.decision m) (({ t with passBonus := bonus } : Tally).decision m) := by
  obtain ⟨n, more⟩ := Nat.exists_eq_add_of_le (UInt32.le_iff_toNat_le.1 raised)
  refine atMost_of_support h h fits rfl rfl ?_ ?_ rfl (n := n)
  · unfold volume bonuses
    dsimp only
    omega
  · unfold passVolume
    dsimp only
    omega

theorem atMost_failBonus (h : t.Disjoint) {bonus : UInt32} (raised : t.failBonus ≤ bonus)
    (fits : ({ t with failBonus := bonus } : Tally).volume m < 2 ^ 31) :
    AtMost (({ t with failBonus := bonus } : Tally).decision m) (t.decision m) := by
  obtain ⟨n, more⟩ := Nat.exists_eq_add_of_le (UInt32.le_iff_toNat_le.1 raised)
  refine atMost_of_opposition h h fits rfl rfl ?_ rfl ?_ (n := n)
  · unfold volume bonuses
    dsimp only
    omega
  · unfold failVolume
    dsimp only
    omega

/-- To vote for a ballot serves it at least as well as to abstain, and to abstain as well as to vote
against it, wherever the voter stood before. A bonus on either side serves that side too. -/
theorem support_helps_and_opposition_hurts (h : t.Disjoint) (fits : t.volume m < 2 ^ 31) :
    (∀ person, AtMost ((t.record person .fail).decision m) ((t.record person .abstain).decision m) ∧
      AtMost ((t.record person .abstain).decision m) ((t.record person .pass).decision m)) ∧
    (∀ bonus, t.passBonus ≤ bonus → ({ t with passBonus := bonus } : Tally).volume m < 2 ^ 31 →
      AtMost (t.decision m) (({ t with passBonus := bonus } : Tally).decision m)) ∧
    ∀ bonus, t.failBonus ≤ bonus → ({ t with failBonus := bonus } : Tally).volume m < 2 ^ 31 →
      AtMost (({ t with failBonus := bonus } : Tally).decision m) (t.decision m) := by
  refine ⟨fun person => ⟨?_, ?_⟩, fun _ => atMost_passBonus h, fun _ => atMost_failBonus h⟩
  · exact atMost_record h fits person (by simp) (by simp)
  · exact atMost_record h fits person (by simp) (by simp)

/-- It depends on the third voter. -/
def divided : Tally where
  passVoters := .ofList [⟨1⟩]
  failVoters := .ofList [⟨2⟩]

theorem support_helps_and_opposition_hurts_divided :
    divided.Disjoint ∧ divided.volume threeVoices = 3 ∧
      (divided.record ⟨3⟩ .fail).decision threeVoices = .ok (some false) ∧
      (divided.record ⟨3⟩ .pass).decision threeVoices = .ok (some true) ∧
      AtMost ((divided.record ⟨3⟩ .fail).decision threeVoices)
        ((divided.record ⟨3⟩ .abstain).decision threeVoices) ∧
      AtMost ((divided.record ⟨3⟩ .abstain).decision threeVoices)
        ((divided.record ⟨3⟩ .pass).decision threeVoices) ∧
      AtMost (divided.decision threeVoices)
        (({ divided with passBonus := 2 } : Tally).decision threeVoices) ∧
      AtMost (({ divided with failBonus := 2 } : Tally).decision threeVoices)
        (divided.decision threeVoices) := by
  have disjoint : divided.Disjoint := by decide +kernel
  have volume : divided.volume threeVoices = 3 := by decide +kernel
  obtain ⟨votes, support, opposition⟩ :=
    support_helps_and_opposition_hurts disjoint (m := threeVoices) (by rw [volume]; decide)
  exact ⟨disjoint, volume, by decide +kernel, by decide +kernel, (votes ⟨3⟩).1, (votes ⟨3⟩).2,
    support 2 (by decide) (by decide +kernel), opposition 2 (by decide) (by decide +kernel)⟩

/-! ## Passing without support -/

theorem unsupported_iff (h : t.Disjoint) :
    t.passBar m ≤ t.passVolume m ∧ ¬ t.failVolume m < t.passVolume m ↔
      t.supermajority = true ∧ t.volume m = 0 := by
  have within := passVolume_add_failVolume_le h m
  unfold passBar
  cases t.supermajority with
  | true =>
    simp only [if_true, true_and]
    omega
  | false =>
    simp only [Bool.false_eq_true, if_false, false_and, iff_false]
    omega

/-- A ballot passes without more for it than against it exactly if two thirds are needed of a total
that is zero. -/
theorem passes_unsupported_iff (h : t.Disjoint) (free : t.forced = none)
    (fits : t.volume m < 2 ^ 31) :
    ∃ (total pass fail : UInt32) (d : Option Bool), t.total m = .ok total ∧
      t.passCount m = .ok pass ∧ t.failCount m = .ok fail ∧ t.decision m = .ok d ∧
      (d = some true ∧ ¬ fail < pass ↔ t.supermajority = true ∧ total = 0) := by
  have room : t.volume m < t.capacity := Nat.lt_of_lt_of_le fits t.pow_le_capacity
  obtain ⟨r, summed⟩ := exists_summary h (m := m) (by omega)
  obtain ⟨hpass, hfail, htotal, -⟩ := summary_eq_ok.1 summed
  refine ⟨r.total, r.pass, r.fail, t.standing m, total_eq_ok.2 htotal, passCount_eq_ok.2 hpass,
    failCount_eq_ok.2 hfail, decision_of_free h free room, ?_⟩
  have zero : (0 : UInt32).toNat = 0 := rfl
  rw [standing_eq_true_iff, UInt32.lt_iff_toNat_lt, ← UInt32.toNat_inj, hpass, hfail, htotal, zero]
  exact unsupported_iff h

/-- Two of three are for it, and two thirds are needed. -/
def carried : Tally where
  passVoters := .ofList [⟨1⟩, ⟨3⟩]
  failVoters := .ofList [⟨2⟩]
  supermajority := true

theorem passes_unsupported_iff_carried :
    carried.Disjoint ∧ carried.forced = none ∧ carried.volume threeVoices = 3 ∧
      carried.decision threeVoices = .ok (some true) ∧
      ∃ pass fail, carried.passCount threeVoices = .ok pass ∧
        carried.failCount threeVoices = .ok fail ∧ fail < pass := by
  have disjoint : carried.Disjoint := by decide +kernel
  have volume : carried.volume threeVoices = 3 := by decide +kernel
  have decided : carried.decision threeVoices = .ok (some true) := by decide +kernel
  obtain ⟨total, pass, fail, d, htotal, hpass, hfail, stands, unsupported⟩ :=
    passes_unsupported_iff disjoint rfl (m := threeVoices) (by rw [volume]; decide)
  rw [decided, Except.ok.injEq] at stands
  refine ⟨disjoint, rfl, volume, decided, pass, fail, hpass, hfail, ?_⟩
  by_contra short
  obtain ⟨-, nothing⟩ := unsupported.1 ⟨stands.symm, short⟩
  rw [total_eq_ok, nothing, volume] at htotal
  cases htotal

/-- There is one person, who is not allowed to vote. -/
def silentHouse : IdMap Permissions := .ofList [(⟨1⟩, ⟨false, 1, true⟩)]

def unheard : Tally where
  supermajority := true

/-- With nobody to vote, a ballot that needs two thirds passes at once, and one that needs a
majority is open. -/
theorem silent_house_passes :
    unheard.Disjoint ∧ unheard.forced = none ∧ unheard.total silentHouse = .ok 0 ∧
      unheard.decision silentHouse = .ok (some true) ∧
      unheard.passCount silentHouse = .ok 0 ∧ unheard.failCount silentHouse = .ok 0 ∧
      ({ unheard with supermajority := false } : Tally).decision silentHouse = .ok none := by
  refine ⟨?_, rfl, ?_, ?_, ?_, ?_, ?_⟩ <;> decide +kernel

end Parliament.Tally
