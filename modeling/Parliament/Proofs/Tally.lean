import Mathlib.Algebra.BigOperators.Group.Finset.Basic
import Mathlib.Algebra.GroupWithZero.Nat
import Mathlib.Algebra.Order.BigOperators.Group.Finset
import Parliament.Proofs.Success
import Parliament.Proofs.Tables
import Parliament.Tally

/-! # Counting votes

A tally is read in words of limited size. Beside each count stands its volume, the same sum as a
number without a limit: a count is there exactly if its volume fits, and then it is the volume.
-/

namespace Parliament

theorem Count.exists_toNat {n : Nat} (h : n < 2 ^ 32) : ∃ c : UInt32, c.toNat = n :=
  ⟨UInt32.ofNat n, UInt32.toNat_ofNat_of_lt' h⟩

theorem Count.exists_add {a b : UInt32} (h : a.toNat + b.toNat < 2 ^ 32) :
    ∃ c, add a b = .ok c ∧ c.toNat = a.toNat + b.toNat := by
  obtain ⟨c, hc⟩ := exists_toNat h
  exact ⟨c, add_eq_ok.2 hc, hc⟩

theorem Count.sum_eq_ok_iff_sum {l : List UInt32} {c : UInt32} :
    Count.sum l = .ok c ↔ c.toNat = (l.map UInt32.toNat).sum := by
  rw [Count.sum_eq_ok, List.sum_eq_foldr, List.foldr_map]

namespace Tally

variable {t u : Tally} {m : IdMap Permissions} {c : UInt32}

/-! ## Volumes -/

def weigh (m : IdMap Permissions) (people : IdSet) : Nat :=
  (people.toList.map fun person => (weightOf m person).toNat).sum

def passVolume (t : Tally) (m : IdMap Permissions) : Nat :=
  t.passBonus.toNat + weigh m t.passVoters

def failVolume (t : Tally) (m : IdMap Permissions) : Nat :=
  t.failBonus.toNat + weigh m t.failVoters

def bonuses (t : Tally) : Nat := t.passBonus.toNat + t.failBonus.toNat

/-- Bonuses and the weights of all who are there, whether they have voted or not. -/
def volume (t : Tally) (m : IdMap Permissions) : Nat :=
  t.bonuses + (m.values.map fun p => p.weight.toNat).sum

/-! ## Counts and volumes -/

theorem weightOfAll_eq_ok {people : IdSet} :
    weightOfAll m people = .ok c ↔ c.toNat = weigh m people := by
  rw [weightOfAll, Count.sum_eq_ok_iff_sum, List.map_map]
  rfl

theorem add_weightOfAll_eq_ok {bonus : UInt32} {people : IdSet} :
    (weightOfAll m people >>= Count.add bonus) = .ok c ↔
      c.toNat = bonus.toNat + weigh m people := by
  rw [bind_eq_ok]
  constructor
  · rintro ⟨w, hw, h⟩
    rw [Count.add_eq_ok, weightOfAll_eq_ok.1 hw] at h
    exact h
  · intro h
    have bound := c.toNat_lt
    obtain ⟨w, hw⟩ := Count.exists_toNat (n := weigh m people) (by omega)
    exact ⟨w, weightOfAll_eq_ok.2 hw, Count.add_eq_ok.2 (by omega)⟩

theorem passCount_eq_ok : t.passCount m = .ok c ↔ c.toNat = t.passVolume m :=
  add_weightOfAll_eq_ok

theorem failCount_eq_ok : t.failCount m = .ok c ↔ c.toNat = t.failVolume m :=
  add_weightOfAll_eq_ok

theorem total_eq_ok : t.total m = .ok c ↔ c.toNat = t.volume m := by
  unfold total volume bonuses
  rw [bind_eq_ok]
  constructor
  · rintro ⟨bonuses, hb, h⟩
    obtain ⟨w, hw, h⟩ := bind_eq_ok.1 h
    rw [Count.sum_eq_ok_iff_sum, List.map_map] at hw
    rw [Count.add_eq_ok, Count.add_eq_ok.1 hb, hw] at h
    exact h
  · intro h
    have bound := c.toNat_lt
    obtain ⟨bonuses, hb⟩ := Count.exists_toNat (n := t.passBonus.toNat + t.failBonus.toNat)
      (by omega)
    obtain ⟨w, hw⟩ := Count.exists_toNat (n := (m.values.map fun p => p.weight.toNat).sum)
      (by omega)
    refine ⟨bonuses, Count.add_eq_ok.2 hb, bind_eq_ok.2 ⟨w, ?_, Count.add_eq_ok.2 (by omega)⟩⟩
    rw [Count.sum_eq_ok_iff_sum, List.map_map]
    exact hw

theorem abstainCount_eq_ok : t.abstainCount m = .ok c ↔
    t.volume m < 2 ^ 32 ∧ t.passVolume m + t.failVolume m + c.toNat = t.volume m := by
  unfold abstainCount
  constructor
  · intro h
    obtain ⟨all, hall, h⟩ := bind_eq_ok.1 h
    obtain ⟨pass, hpass, h⟩ := bind_eq_ok.1 h
    obtain ⟨notFor, hnot, h⟩ := bind_eq_ok.1 h
    obtain ⟨fail, hfail, h⟩ := bind_eq_ok.1 h
    rw [Count.sub_eq_ok] at hnot h
    rw [total_eq_ok] at hall
    rw [passCount_eq_ok] at hpass
    rw [failCount_eq_ok] at hfail
    -- Neither subtraction goes below zero.
    have bound := all.toNat_lt
    omega
  · rintro ⟨fits, h⟩
    obtain ⟨all, hall⟩ := Count.exists_toNat fits
    obtain ⟨pass, hpass⟩ := Count.exists_toNat (n := t.passVolume m) (by omega)
    obtain ⟨fail, hfail⟩ := Count.exists_toNat (n := t.failVolume m) (by omega)
    obtain ⟨notFor, hnot⟩ := Count.exists_toNat (n := t.failVolume m + c.toNat) (by omega)
    refine bind_eq_ok.2 ⟨all, total_eq_ok.2 hall, bind_eq_ok.2 ⟨pass, passCount_eq_ok.2 hpass,
      bind_eq_ok.2 ⟨notFor, Count.sub_eq_ok.2 (by omega), bind_eq_ok.2 ⟨fail,
        failCount_eq_ok.2 hfail, Count.sub_eq_ok.2 (by omega)⟩⟩⟩⟩

theorem summary_eq_ok {r : TallySummary} : t.summary m = .ok r ↔
    r.pass.toNat = t.passVolume m ∧ r.fail.toNat = t.failVolume m ∧
      r.total.toNat = t.volume m ∧
      r.pass.toNat + r.fail.toNat + r.abstain.toNat = r.total.toNat := by
  unfold summary
  constructor
  · intro h
    obtain ⟨pass, hpass, h⟩ := bind_eq_ok.1 h
    obtain ⟨fail, hfail, h⟩ := bind_eq_ok.1 h
    obtain ⟨abstain, habstain, h⟩ := bind_eq_ok.1 h
    obtain ⟨all, hall, h⟩ := bind_eq_ok.1 h
    obtain rfl := pure_eq_ok.1 h
    rw [passCount_eq_ok] at hpass
    rw [failCount_eq_ok] at hfail
    rw [abstainCount_eq_ok] at habstain
    rw [total_eq_ok] at hall
    refine ⟨hpass, hfail, hall, ?_⟩
    dsimp only
    omega
  · rintro ⟨hpass, hfail, hall, h⟩
    have bound := r.total.toNat_lt
    have habstain : t.abstainCount m = .ok r.abstain := abstainCount_eq_ok.2 ⟨by omega, by omega⟩
    exact bind_eq_ok.2 ⟨_, passCount_eq_ok.2 hpass, bind_eq_ok.2 ⟨_, failCount_eq_ok.2 hfail,
      bind_eq_ok.2 ⟨_, habstain, bind_eq_ok.2 ⟨_, total_eq_ok.2 hall, rfl⟩⟩⟩⟩

/-! ## Voters that differ -/

/-- Nobody has voted both for and against. -/
def Disjoint (t : Tally) : Prop := ∀ person ∈ t.passVoters, person ∉ t.failVoters

instance (t : Tally) : Decidable t.Disjoint :=
  decidable_of_iff (∀ person ∈ t.passVoters.toList, person ∉ t.failVoters) (by
    simp only [Disjoint, IdSet.mem_toList])

theorem mem_passVoters_record {person voter : Ident} {vote : Vote} :
    voter ∈ (t.record person vote).passVoters ↔
      voter = person ∧ vote = .pass ∨ voter ≠ person ∧ voter ∈ t.passVoters := by
  cases vote with
  | pass => by_cases h : voter = person <;> simp [record, h]
  | fail | abstain => simp [record]

theorem mem_failVoters_record {person voter : Ident} {vote : Vote} :
    voter ∈ (t.record person vote).failVoters ↔
      voter = person ∧ vote = .fail ∨ voter ≠ person ∧ voter ∈ t.failVoters := by
  cases vote with
  | fail => by_cases h : voter = person <;> simp [record, h]
  | pass | abstain => simp [record]

theorem Disjoint.record (h : t.Disjoint) (person : Ident) (vote : Vote) :
    (t.record person vote).Disjoint := by
  intro voter hp hf
  rw [mem_passVoters_record] at hp
  rw [mem_failVoters_record] at hf
  rcases hp with ⟨rfl, rfl⟩ | ⟨other, hp⟩
  · simp at hf
  · rcases hf with ⟨same, -⟩ | ⟨-, hf⟩
    · exact other same
    · exact h voter hp hf

theorem clearVotes_record (t : Tally) (person : Ident) (vote : Vote) :
    (t.record person vote).clearVotes = t.clearVotes := by
  cases vote <;> rfl

theorem passBonus_congr (same : u.clearVotes = t.clearVotes) :
    u.passBonus.toNat = t.passBonus.toNat :=
  (congrArg (·.passBonus.toNat) same :)

theorem failBonus_congr (same : u.clearVotes = t.clearVotes) :
    u.failBonus.toNat = t.failBonus.toNat :=
  (congrArg (·.failBonus.toNat) same :)

theorem forced_congr (same : u.clearVotes = t.clearVotes) : u.forced = t.forced :=
  (congrArg Tally.forced same :)

theorem volume_congr (same : u.clearVotes = t.clearVotes) (m : IdMap Permissions) :
    u.volume m = t.volume m :=
  (congrArg (fun t => volume t m) same :)

theorem map_weightOf_keys (m : IdMap Permissions) :
    m.keys.map (weightOf m) = m.values.map Permissions.weight := by
  rw [IdMap.keys, IdMap.values, List.map_map, List.map_map]
  refine List.map_congr_left fun e he => ?_
  have found : m.get? e.1 = some e.2 := IdMap.mem_entries_iff.1 he
  simp [weightOf, found]

theorem sum_weights_eq (m : IdMap Permissions) :
    (m.values.map fun p => p.weight.toNat).sum =
      (m.keys.map fun person => (weightOf m person).toNat).sum := by
  have all := congrArg (List.map UInt32.toNat) (map_weightOf_keys m)
  rw [List.map_map, List.map_map] at all
  exact congrArg List.sum all.symm

theorem sum_weightOf_le {l : List Ident} (distinct : l.Nodup) (m : IdMap Permissions) :
    (l.map fun person => (weightOf m person).toNat).sum ≤
      (m.values.map fun p => p.weight.toNat).sum := by
  rw [sum_weights_eq, ← List.sum_toFinset _ distinct, ← List.sum_toFinset _ m.nodup_keys]
  -- Who is not listed weighs nothing, so whoever weighs something is among all.
  refine Finset.sum_le_sum_of_ne_zero fun person _ weighs => ?_
  rw [List.mem_toFinset, IdMap.mem_keys_iff]
  cases h : m.get? person with
  | none => simp [weightOf, h] at weighs
  | some p => exact IdMap.contains_eq_true_iff.2 ⟨p, h⟩

theorem sum_weightOf_mono {l k : List Ident} (distinct : l.Nodup) (among : ∀ person ∈ l, person ∈ k)
    (m : IdMap Permissions) :
    (l.map fun person => (weightOf m person).toNat).sum ≤
      (k.map fun person => (weightOf m person).toNat).sum := by
  obtain ⟨l', perm, part⟩ := List.subperm_of_subset distinct among
  rw [← (perm.map _).sum_eq]
  exact (part.map _).sum_le_sum fun _ _ => Nat.zero_le _

theorem weigh_mono {s r : IdSet} (within : ∀ person ∈ s, person ∈ r) (m : IdMap Permissions) :
    weigh m s ≤ weigh m r :=
  sum_weightOf_mono s.nodup_toList
    (fun person there => IdSet.mem_toList.2 (within person (IdSet.mem_toList.1 there))) m

theorem passVolume_mono (bonus : t.passBonus.toNat ≤ u.passBonus.toNat)
    (voters : ∀ person ∈ t.passVoters, person ∈ u.passVoters) (m : IdMap Permissions) :
    t.passVolume m ≤ u.passVolume m :=
  Nat.add_le_add bonus (weigh_mono voters m)

theorem failVolume_mono (bonus : t.failBonus.toNat ≤ u.failBonus.toNat)
    (voters : ∀ person ∈ t.failVoters, person ∈ u.failVoters) (m : IdMap Permissions) :
    t.failVolume m ≤ u.failVolume m :=
  Nat.add_le_add bonus (weigh_mono voters m)

theorem passVolume_add_failVolume_le (h : t.Disjoint) (m : IdMap Permissions) :
    t.passVolume m + t.failVolume m ≤ t.volume m := by
  -- As nobody stands on both sides, the voters of both together are still told apart.
  have distinct : (t.passVoters.toList ++ t.failVoters.toList).Nodup := by
    refine List.nodup_append'.2 ⟨t.passVoters.nodup_toList, t.failVoters.nodup_toList, ?_⟩
    intro person hp hf
    rw [IdSet.mem_toList] at hp hf
    exact h person hp hf
  have weights := sum_weightOf_le distinct m
  rw [List.map_append, List.sum_append] at weights
  unfold passVolume failVolume volume bonuses weigh
  omega

theorem exists_summary (h : t.Disjoint) (fits : t.volume m < 2 ^ 32) :
    ∃ r, t.summary m = .ok r := by
  have within := passVolume_add_failVolume_le h m
  obtain ⟨pass, hpass⟩ := Count.exists_toNat (n := t.passVolume m) (by omega)
  obtain ⟨fail, hfail⟩ := Count.exists_toNat (n := t.failVolume m) (by omega)
  obtain ⟨all, hall⟩ := Count.exists_toNat fits
  obtain ⟨abstain, habstain⟩ :=
    Count.exists_toNat (n := t.volume m - t.passVolume m - t.failVolume m) (by omega)
  refine ⟨⟨pass, fail, abstain, all⟩, summary_eq_ok.2 ⟨hpass, hfail, hall, ?_⟩⟩
  dsimp only
  omega

end Tally

end Parliament
