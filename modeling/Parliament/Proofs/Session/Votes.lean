import Parliament.Proofs.Session.Freshness
import Parliament.Proofs.Tally

/-! # Votes are conserved

However votes, declarations and elections follow each other, nobody stands on both sides, and what
was cast for and against, with what was not cast, is the total.
-/

namespace Parliament

/-- Every vote that could be cast is in one of the three counts. -/
structure TallySummary.Conserved (t : TallySummary) : Prop where
  sum : t.pass.toNat + t.fail.toNat + t.abstain.toNat = t.total.toNat
  le : t.pass.toNat + t.fail.toNat ≤ t.total.toNat

theorem Tally.conserved_of_summary {t : Tally} {m : IdMap Permissions} {r : TallySummary}
    (h : t.summary m = .ok r) : r.Conserved := by
  obtain ⟨-, -, -, sum⟩ := summary_eq_ok.1 h
  exact ⟨sum, by omega⟩

namespace Session

variable {γ α : Type}

/-- The voters of the ballot at hand are registered and stand on one side only. -/
structure Polled (s : Session γ α) : Prop where
  disjoint : s.floor.tally.Disjoint
  registered : ∀ person, person ∈ s.floor.tally.passVoters ∨ person ∈ s.floor.tally.failVoters →
    s.house.people.contains person = true

def Archived (s : Session γ α) : Prop := ∀ r ∈ s.history, r.tally.Conserved

/-! ## Within a call -/

theorem polled_of_eq {s t : Session γ α} (h : s.Polled) (people : t.house.people = s.house.people)
    (pass : t.floor.tally.passVoters = s.floor.tally.passVoters)
    (fail : t.floor.tally.failVoters = s.floor.tally.failVoters) : t.Polled := by
  refine ⟨?_, ?_⟩
  · rw [Tally.Disjoint, pass, fail]
    exact h.disjoint
  · rw [people, pass, fail]
    exact h.registered

theorem polled_of_empty {s : Session γ α} (pass : s.floor.tally.passVoters = .empty)
    (fail : s.floor.tally.failVoters = .empty) : s.Polled := by
  refine ⟨?_, ?_⟩
  · rw [Tally.Disjoint, pass]
    simp
  · rw [pass, fail]
    simp

theorem Bundle.polled {scope : Scope} {p q : Session γ α × Changes} (h : Bundle scope p q)
    (k : p.1.Polled) : q.1.Polled := by
  rcases h.voters with ⟨pass, fail⟩ | ⟨pass, fail⟩
  · exact polled_of_eq k h.people_eq pass fail
  · exact polled_of_empty pass fail

theorem Settling.polled [ReturningOfficer α] {s t : Session γ α} {c : Changes}
    {signals : List Signal} (h : Settling s c t signals) (k : s.Polled) : t.Polled := by
  obtain ⟨_, _, _, _, rfl⟩ := h.eq_with
  exact polled_of_eq k rfl rfl rfl

/-! ## Between two calls -/

variable [Chance γ] [ReturningOfficer α]

theorem Performed.polled {s : Session γ α} {c : Call} {o : Outcome γ α Reply}
    (h : Performed s c o) (reached : Reachable s) (k : s.Polled) : o.session.Polled := by
  cases h with
  | register phase =>
    refine ⟨k.disjoint, fun person voted => ?_⟩
    -- Nobody has voted, as nobody is registered yet.
    have known := k.registered person voted
    rw [reached.orderly.nobody phase] at known
    exact absurd known (IdMap.not_contains_empty person)
  | refuse | refuseVote | turnDown => exact k
  | closeDeclarations => exact ⟨k.disjoint, k.registered⟩
  | castVote phase known _ =>
    -- Only who has permissions can vote, and those are the registered people.
    have keys := reached.keys_permissions (by simp [PastSetup, phase])
    have registered := IdMap.contains_eq_true_iff.2 ⟨_, known⟩
    rw [IdMap.contains_congr keys] at registered
    refine ⟨k.disjoint.record _ _, fun voter voted => ?_⟩
    rw [Tally.mem_passVoters_record, Tally.mem_failVoters_record] at voted
    rcases voted with (⟨rfl, -⟩ | ⟨-, pass⟩) | (⟨rfl, -⟩ | ⟨-, fail⟩)
    · exact registered
    · exact k.registered voter (.inl pass)
    · exact registered
    · exact k.registered voter (.inr fail)
  | setUp _ effects settling =>
    have u := settling.polled ((applyProcedureEffects_bundle effects).polled k)
    exact ⟨u.disjoint, u.registered⟩
  | startBallot _ _ _ _ effects settling =>
    exact settling.polled ((applyProcedureEffects_bundle effects).polled (polled_of_empty rfl rfl))
  | miss _ _ settling => exact settling.polled ⟨k.disjoint, k.registered⟩
  | declare _ _ effects settling =>
    exact settling.polled ((carryOut_bundle effects).polled ⟨k.disjoint, k.registered⟩)
  | endBallot _ _ effects _ settling =>
    have t := (applyBallotEffects_bundle .setup effects).polled k
    have u := settling.polled ⟨t.disjoint, t.registered⟩
    exact ⟨u.disjoint, u.registered⟩

theorem Performed.archived {s : Session γ α} {c : Call} {o : Outcome γ α Reply}
    (h : Performed s c o) (k : s.Archived) : o.session.Archived := by
  intro r there
  rw [h.history_eq] at there
  rcases List.mem_append.1 there with old | new
  · exact k r old
  by_cases ends : ∃ passed, c = .endBallot passed
  · obtain ⟨passed, rfl⟩ := ends
    cases h with
    | endBallot _ _ _ counted settling =>
      rw [List.filterMap_cons, settling.records] at new
      obtain rfl := List.mem_singleton.1 new
      exact Tally.conserved_of_summary counted
  · rw [h.records_eq_nil fun passed is => ends ⟨passed, is⟩] at new
    cases new

theorem Reachable.polled {s : Session γ α} (h : Reachable s) : s.Polled := by
  induction h with
  | start hs =>
    obtain ⟨-, rfl⟩ := start_eq_ok hs
    exact polled_of_empty rfl rfl
  | perform reached performed ih => exact (performed_of_perform performed).polled reached ih

theorem Reachable.archived {s : Session γ α} (h : Reachable s) : s.Archived := by
  induction h with
  | start hs =>
    obtain ⟨-, rfl⟩ := start_eq_ok hs
    intro r hr
    simp [opening] at hr
  | perform _ performed ih => exact (performed_of_perform performed).archived ih

/-- Counts are conserved on the floor, as long as they fit in a word, and on record. -/
theorem Reachable.votes_conserved {s : Session γ α} (h : Reachable s) :
    (∀ person ∈ s.floor.tally.passVoters, person ∉ s.floor.tally.failVoters) ∧
    (∀ person, person ∈ s.floor.tally.passVoters ∨ person ∈ s.floor.tally.failVoters →
      s.house.people.contains person = true) ∧
    (s.floor.tally.volume s.permissions < 2 ^ 32 →
      ∃ t, s.tallySummary = .ok t ∧ t.total.toNat = s.floor.tally.volume s.permissions ∧
        t.Conserved) ∧
    ∀ r ∈ s.history, r.tally.Conserved := by
  refine ⟨h.polled.disjoint, h.polled.registered, fun fits => ?_, h.archived⟩
  obtain ⟨t, ht⟩ := Tally.exists_summary h.polled.disjoint fits
  obtain ⟨-, -, total, -⟩ := Tally.summary_eq_ok.1 ht
  exact ⟨t, ht, total, Tally.conserved_of_summary ht⟩

theorem votes_conserved_parish :
    (∃ t, (parishMeets.after parishEvening).tallySummary = .ok t ∧ t.Conserved) ∧
      (parishMeets.after parishEvening).history ≠ [] ∧
      ∀ r ∈ (parishMeets.after parishEvening).history, r.tally.Conserved := by
  have fits : (parishMeets.after parishEvening).floor.tally.volume
      (parishMeets.after parishEvening).permissions < 2 ^ 32 := by decide +kernel
  obtain ⟨-, -, floor, record⟩ := (reachable_parishMeets.after parishEvening).votes_conserved
  obtain ⟨t, ht, -, conserved⟩ := floor fits
  exact ⟨⟨t, ht, conserved⟩, by decide +kernel, record⟩

end Session

end Parliament
