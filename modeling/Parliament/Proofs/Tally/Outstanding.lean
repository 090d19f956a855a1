import Mathlib.Data.List.Induction
import Parliament.Proofs.Tally.Decision

/-! # Votes still to come

Of all that a person casts only the last vote counts. A decision may be there before all have voted.
It then holds whatever the others do, and where two thirds are needed a ballot is lost exactly when
all others together cannot carry it any more.
-/

namespace Parliament.Tally

variable {t u : Tally} {m : IdMap Permissions}

/-! ## One vote after the other -/

/-- The votes are cast in this order. -/
def recordAll (t : Tally) (votes : List (Ident × Vote)) : Tally :=
  votes.foldl (fun t v => t.record v.1 v.2) t

@[simp] theorem recordAll_nil (t : Tally) : t.recordAll [] = t := rfl

theorem recordAll_cons (t : Tally) (v : Ident × Vote) (votes : List (Ident × Vote)) :
    t.recordAll (v :: votes) = (t.record v.1 v.2).recordAll votes := rfl

theorem recordAll_append (t : Tally) (votes others : List (Ident × Vote)) :
    t.recordAll (votes ++ others) = (t.recordAll votes).recordAll others :=
  List.foldl_append

theorem clearVotes_recordAll (t : Tally) (votes : List (Ident × Vote)) :
    (t.recordAll votes).clearVotes = t.clearVotes := by
  induction votes generalizing t with
  | nil => rfl
  | cons v votes ih => rw [recordAll_cons, ih, clearVotes_record]

def lastVote (votes : List (Ident × Vote)) (person : Ident) : Option Vote :=
  (votes.filter (·.1 = person)).getLast?.map Prod.snd

theorem lastVote_append_singleton (votes : List (Ident × Vote)) (v : Ident × Vote)
    (person : Ident) :
    lastVote (votes ++ [v]) person = if v.1 = person then some v.2 else lastVote votes person := by
  unfold lastVote
  rw [List.filter_append]
  by_cases same : v.1 = person <;> simp [same]

theorem mem_passVoters_recordAll {votes : List (Ident × Vote)} {voter : Ident} :
    voter ∈ (t.recordAll votes).passVoters ↔
      lastVote votes voter = some .pass ∨ lastVote votes voter = none ∧ voter ∈ t.passVoters := by
  induction votes using List.reverseRecOn with
  | nil => simp [lastVote]
  | append_singleton votes v ih =>
    rw [recordAll_append, recordAll_cons, recordAll_nil, mem_passVoters_record,
      lastVote_append_singleton]
    by_cases same : v.1 = voter
    · simp [same]
    · simpa [same, Ne.symm same] using ih

theorem mem_failVoters_recordAll {votes : List (Ident × Vote)} {voter : Ident} :
    voter ∈ (t.recordAll votes).failVoters ↔
      lastVote votes voter = some .fail ∨ lastVote votes voter = none ∧ voter ∈ t.failVoters := by
  induction votes using List.reverseRecOn with
  | nil => simp [lastVote]
  | append_singleton votes v ih =>
    rw [recordAll_append, recordAll_cons, recordAll_nil, mem_failVoters_record,
      lastVote_append_singleton]
    by_cases same : v.1 = voter
    · simp [same]
    · simpa [same, Ne.symm same] using ih

theorem ext_voters (terms : t.clearVotes = u.clearVotes) (pass : t.passVoters = u.passVoters)
    (fail : t.failVoters = u.failVoters) : t = u := by
  obtain ⟨_, _, passBonus, failBonus, supermajority, forced⟩ := t
  obtain ⟨_, _, _, _, _, _⟩ := u
  simp only [clearVotes, mk.injEq, true_and] at terms
  simp only [mk.injEq]
  exact ⟨pass, fail, terms⟩

theorem recordAll_congr {votes others : List (Ident × Vote)}
    (same : ∀ person, lastVote votes person = lastVote others person) :
    t.recordAll votes = t.recordAll others := by
  apply ext_voters
  · rw [clearVotes_recordAll, clearVotes_recordAll]
  · apply IdSet.ext_mem
    intro voter
    rw [mem_passVoters_recordAll, mem_passVoters_recordAll, same]
  · apply IdSet.ext_mem
    intro voter
    rw [mem_failVoters_recordAll, mem_failVoters_recordAll, same]

/-- Whoever abstained may still vote. -/
def Outstanding (t : Tally) (person : Ident) : Prop :=
  person ∉ t.passVoters ∧ person ∉ t.failVoters

instance (t : Tally) (person : Ident) : Decidable (t.Outstanding person) :=
  inferInstanceAs (Decidable (_ ∧ _))

/-- What a tally may have become by votes of people who were outstanding. -/
structure Continues (t u : Tally) : Prop where
  terms : u.clearVotes = t.clearVotes
  disjoint : u.Disjoint
  pass : ∀ person ∈ t.passVoters, person ∈ u.passVoters
  fail : ∀ person ∈ t.failVoters, person ∈ u.failVoters

theorem Continues.refl (h : t.Disjoint) : t.Continues t := ⟨rfl, h, fun _ => id, fun _ => id⟩

/-- Who was outstanding at first may vote over and over again. -/
theorem Continues.record (h : t.Continues u) {person : Ident} (out : t.Outstanding person)
    (vote : Vote) : t.Continues (u.record person vote) := by
  refine ⟨?_, h.disjoint.record person vote, fun voter voted => ?_, fun voter voted => ?_⟩
  · rw [clearVotes_record, h.terms]
  · have other : voter ≠ person := fun same => out.1 (same ▸ voted)
    exact mem_passVoters_record.2 (.inr ⟨other, h.pass voter voted⟩)
  · have other : voter ≠ person := fun same => out.2 (same ▸ voted)
    exact mem_failVoters_record.2 (.inr ⟨other, h.fail voter voted⟩)

theorem Continues.recordAll (h : t.Continues u) {votes : List (Ident × Vote)}
    (out : ∀ v ∈ votes, t.Outstanding v.1) : t.Continues (u.recordAll votes) := by
  induction votes generalizing u with
  | nil => exact h
  | cons v votes ih =>
    rw [recordAll_cons]
    have first := h.record (out v List.mem_cons_self) v.2
    exact ih first fun w there => out w (List.mem_cons_of_mem v there)

/-! ## What is decided -/

namespace Continues

theorem passVolume_le (h : t.Continues u) (m : IdMap Permissions) :
    t.passVolume m ≤ u.passVolume m :=
  passVolume_mono (passBonus_congr h.terms).ge h.pass m

theorem failVolume_le (h : t.Continues u) (m : IdMap Permissions) :
    t.failVolume m ≤ u.failVolume m :=
  failVolume_mono (failBonus_congr h.terms).ge h.fail m

theorem standing_eq (h : t.Continues u) (begun : t.Disjoint) {outcome : Bool}
    (decided : t.standing m = some outcome) : u.standing m = some outcome := by
  cases outcome with
  | true =>
    rw [standing_eq_true_iff] at decided
    rw [standing_eq_true_iff, passBar_congr h.terms]
    exact decided.trans (h.passVolume_le m)
  | false =>
    rw [standing_eq_false_iff begun] at decided
    rw [standing_eq_false_iff h.disjoint, failBar_congr h.terms]
    exact decided.trans (h.failVolume_le m)

theorem decision_of_free (h : t.Continues u) (free : t.forced = none)
    (room : t.volume m < t.capacity) : u.decision m = .ok (u.standing m) :=
  Tally.decision_of_free h.disjoint ((forced_congr h.terms).trans free) (fits_congr h.terms room)

theorem decision_eq (h : t.Continues u) (begun : t.Disjoint) {outcome : Bool}
    (decided : t.decision m = .ok (some outcome)) : u.decision m = .ok (some outcome) := by
  cases imposed : t.forced with
  | some imposition =>
    rw [decision_of_forced imposed] at decided
    rw [decision_of_forced ((forced_congr h.terms).trans imposed), decided]
  | none =>
    have room := fits_of_decision imposed decided
    rw [Tally.decision_of_free begun imposed room, Except.ok.injEq] at decided
    rw [h.decision_of_free imposed room, h.standing_eq begun decided]

end Continues

/-- The first counts for three, and the last is not allowed to vote. -/
def unevenVoices : IdMap Permissions :=
  .ofList [(⟨1⟩, ⟨true, 3, true⟩), (⟨2⟩, ⟨true, 1, true⟩), (⟨3⟩, ⟨true, 1, true⟩),
    (⟨4⟩, ⟨false, 2, true⟩)]

/-- Two thirds are needed, and half of what there is stands against already. -/
def blocked : Tally where
  failVoters := .ofList [⟨1⟩]
  passBonus := 1
  supermajority := true

theorem disjoint_blocked : blocked.Disjoint := by decide +kernel

/-- Who ends a ballot as soon as it is decided does not cut anybody off: whatever those may cast who
have not voted, and however often they change their minds, the decision is the same. -/
theorem decision_stands (h : t.Disjoint) {outcome : Bool}
    (decided : t.decision m = .ok (some outcome)) {votes : List (Ident × Vote)}
    (out : ∀ v ∈ votes, t.Outstanding v.1) :
    (t.recordAll votes).decision m = .ok (some outcome) :=
  ((Continues.refl h).recordAll out).decision_eq h decided

theorem decision_stands_blocked :
    let votes : List (Ident × Vote) :=
      [(⟨2⟩, .pass), (⟨4⟩, .pass), (⟨3⟩, .fail), (⟨2⟩, .abstain), (⟨3⟩, .pass), (⟨2⟩, .pass)]
    blocked.Disjoint ∧ blocked.decision unevenVoices = .ok (some false) ∧
      (∀ v ∈ votes, blocked.Outstanding v.1) ∧
      (blocked.recordAll votes).decision unevenVoices = .ok (some false) := by
  intro votes
  have decided : blocked.decision unevenVoices = .ok (some false) := by decide +kernel
  have out : ∀ v ∈ votes, blocked.Outstanding v.1 := by decide
  exact ⟨disjoint_blocked, decided, out, decision_stands disjoint_blocked decided out⟩

/-! ## When all have voted -/

theorem passVolume_add_failVolume_eq (h : t.Disjoint)
    (all : ∀ person, m.contains person = true → ¬ t.Outstanding person) :
    t.passVolume m + t.failVolume m = t.volume m := by
  refine Nat.le_antisymm (passVolume_add_failVolume_le h m) ?_
  -- Nobody is left, so everybody stands on one side.
  have told : ∀ person ∈ m.keys, person ∈ t.passVoters.toList ++ t.failVoters.toList := by
    intro person there
    have voted := all person (IdMap.mem_keys_iff.1 there)
    rw [Outstanding, ← not_or, not_not] at voted
    rw [List.mem_append, IdSet.mem_toList, IdSet.mem_toList]
    exact voted
  have weights := sum_weightOf_mono m.nodup_keys told m
  rw [← sum_weights_eq, List.map_append, List.sum_append] at weights
  unfold passVolume failVolume volume bonuses weigh
  omega

theorem standing_eq_none_iff_of_full (full : t.passVolume m + t.failVolume m = t.volume m) :
    t.standing m = none ↔ t.supermajority = false ∧ t.passVolume m = t.failVolume m := by
  rw [standing_eq_none_iff]
  unfold failBar passBar
  cases t.supermajority with
  | true =>
    simp only [if_true, Bool.true_eq_false, false_and, iff_false]
    omega
  | false =>
    simp only [Bool.false_eq_true, if_false, true_and]
    omega

/-! ## The best that can come -/

/-- All who are outstanding vote for the ballot. -/
def rally (t : Tally) (m : IdMap Permissions) : List (Ident × Vote) :=
  (m.keys.filter fun person => t.Outstanding person).map fun person => (person, .pass)

theorem outstanding_of_mem_rally {v : Ident × Vote} (h : v ∈ t.rally m) : t.Outstanding v.1 := by
  obtain ⟨person, there, rfl⟩ := List.mem_map.1 h
  exact of_decide_eq_true (List.mem_filter.1 there).2

theorem lastVote_unanimous (people : List Ident) (vote : Vote) (person : Ident) :
    lastVote (people.map fun p => (p, vote)) person =
      if person ∈ people then some vote else none := by
  induction people using List.reverseRecOn with
  | nil => rfl
  | append_singleton people last ih =>
    rw [List.map_append, List.map_singleton, lastVote_append_singleton, ih]
    by_cases same : last = person
    · simp [same]
    · simp [same, Ne.symm same]

theorem continues_rally (h : t.Disjoint) (m : IdMap Permissions) :
    t.Continues (t.recordAll (t.rally m)) :=
  (Continues.refl h).recordAll fun _ there => outstanding_of_mem_rally there

theorem not_outstanding_rally (h : t.Disjoint) {person : Ident} (there : m.contains person = true) :
    ¬ (t.recordAll (t.rally m)).Outstanding person := by
  rintro ⟨silent, mute⟩
  have course := continues_rally h m
  have out : t.Outstanding person :=
    ⟨fun voted => silent (course.pass person voted), fun voted => mute (course.fail person voted)⟩
  refine silent (mem_passVoters_recordAll.2 (.inl ?_))
  rw [rally, lastVote_unanimous, if_pos]
  exact List.mem_filter.2 ⟨IdMap.mem_keys_iff.2 there, decide_eq_true out⟩

theorem passVolume_rally (h : t.Disjoint) (m : IdMap Permissions) :
    (t.recordAll (t.rally m)).passVolume m + t.failVolume m = t.volume m := by
  have course := continues_rally h m
  have full :=
    passVolume_add_failVolume_eq course.disjoint fun _ => not_outstanding_rally h (m := m)
  -- The others join the supporters only, so those against stay the same.
  have against : (t.recordAll (t.rally m)).failVolume m = t.failVolume m := by
    refine Nat.le_antisymm ?_ (course.failVolume_le m)
    refine failVolume_mono (failBonus_congr course.terms).le (fun voter voted => ?_) m
    obtain cast | ⟨-, before⟩ := mem_failVoters_recordAll.1 voted
    · rw [rally, lastVote_unanimous] at cast
      split at cast <;> cases cast
    · exact before
  rw [← against, full, volume_congr course.terms]

theorem standing_rally (h : t.Disjoint) (super : t.supermajority = true)
    (held : t.failVolume m < t.failBar m) : (t.recordAll (t.rally m)).standing m = some true := by
  have best := passVolume_rally h m
  have within := passBar_le_volume (m := m) super
  rw [failBar, if_pos super] at held
  rw [standing_eq_true_iff, passBar_congr (continues_rally h m).terms]
  omega

/-- Where two thirds are needed, a ballot has failed exactly if no votes of those who have not voted
can carry it any more. Once everybody has voted it is undecided only on a tie, and only where a
majority is enough. -/
theorem failed_iff_out_of_reach (h : t.Disjoint) (free : t.forced = none)
    (fits : t.volume m < 2 ^ 31) :
    ∃ (pass fail abstain : UInt32) (d : Option Bool), t.passCount m = .ok pass ∧
      t.failCount m = .ok fail ∧ t.abstainCount m = .ok abstain ∧ t.decision m = .ok d ∧
      (t.supermajority = true → (d = some false ↔
        ∀ votes : List (Ident × Vote), (∀ v ∈ votes, t.Outstanding v.1) →
          ∃ e, (t.recordAll votes).decision m = .ok e ∧ e ≠ some true)) ∧
      (abstain = 0 → (d = none ↔ t.supermajority = false ∧ pass = fail)) := by
  have room : t.volume m < t.capacity := Nat.lt_of_lt_of_le fits t.pow_le_capacity
  have stands := decision_of_free h free room
  obtain ⟨r, summed⟩ := exists_summary h (m := m) (by omega)
  obtain ⟨hpass, hfail, htotal, sum⟩ := summary_eq_ok.1 summed
  refine ⟨r.pass, r.fail, r.abstain, t.standing m, passCount_eq_ok.2 hpass, failCount_eq_ok.2 hfail,
    abstainCount_eq_ok.2 ⟨by omega, by omega⟩, stands, fun super => ⟨?_, ?_⟩, fun full => ?_⟩
  · -- A decision stands, whatever is still cast.
    intro lost votes out
    have course := (Continues.refl h).recordAll out
    rw [lost] at stands
    exact ⟨some false, course.decision_eq h stands, by simp⟩
  · -- A ballot that does not pass even if all who are left rally to it has failed.
    intro hopeless
    obtain ⟨e, after, short⟩ := hopeless (t.rally m) fun v => outstanding_of_mem_rally
    rw [(continues_rally h m).decision_of_free free room, Except.ok.injEq] at after
    rw [standing_eq_false_iff h]
    by_contra held
    exact short (after ▸ standing_rally h super (Nat.not_le.1 held))
  · rw [full] at sum
    have zero : (0 : UInt32).toNat = 0 := rfl
    rw [standing_eq_none_iff_of_full (by omega), ← UInt32.toNat_inj, hpass, hfail]

theorem failed_iff_out_of_reach_blocked :
    blocked.Disjoint ∧ blocked.forced = none ∧ blocked.volume unevenVoices = 6 ∧
      blocked.supermajority = true ∧ blocked.decision unevenVoices = .ok (some false) ∧
      ∀ votes : List (Ident × Vote), (∀ v ∈ votes, blocked.Outstanding v.1) →
        ∃ e, (blocked.recordAll votes).decision unevenVoices = .ok e ∧ e ≠ some true := by
  have volume : blocked.volume unevenVoices = 6 := by decide +kernel
  have decided : blocked.decision unevenVoices = .ok (some false) := by decide +kernel
  obtain ⟨_, _, _, d, -, -, -, stands, lost, -⟩ :=
    failed_iff_out_of_reach disjoint_blocked rfl (m := unevenVoices) (by rw [volume]; decide)
  rw [decided, Except.ok.injEq] at stands
  exact ⟨disjoint_blocked, rfl, volume, rfl, decided, (lost rfl).1 stands.symm⟩

end Parliament.Tally
