import Parliament.Proofs.Session.Freshness

/-! # Observers keep up

An observer that listens from before setup and remembers the last signal of each kind knows
balances, active procedures, roles, affiliations and permissions as they stand between two calls.
-/

namespace Parliament

/-! ## What signals tell -/

namespace Signal

def balances? : Signal → Option (IdMap Int8)
  | currenciesModified balances => some balances
  | _ => none

def activeProcedures? : Signal → Option IdSet
  | proceduresModified active => some active
  | _ => none

/-- The roles and affiliations that came out of elections. -/
def assignments? : Signal → Option Assignments
  | electionCompleted roles affiliations => some ⟨roles, affiliations⟩
  | _ => none

def permissions? : Signal → Option (IdMap Permissions)
  | permissionsUpdated permissions => some permissions
  | _ => none

end Signal

/-- What was told last, if anything was. -/
def lastHeard {β : Type} (read : Signal → Option β) (signals : List Signal) : Option β :=
  (signals.filterMap read).getLast?

section

variable {β : Type} {read : Signal → Option β}

theorem lastHeard_append (l m : List Signal) :
    lastHeard read (l ++ m) = (lastHeard read m).or (lastHeard read l) := by
  rw [lastHeard, List.filterMap_append, List.getLast?_append]
  rfl

theorem lastHeard_cons (x : Signal) (l : List Signal) :
    lastHeard read (x :: l) = (lastHeard read l).or (read x) := by
  have single : lastHeard read [x] = read x := by
    cases h : read x <;> simp [lastHeard, h]
  rw [← List.singleton_append, lastHeard_append, single]

end

namespace Changes

variable (c : Changes) (h : House)

@[simp] theorem balances_news :
    lastHeard Signal.balances? (c.news h) = if c.currencies then some h.balances else none := by
  unfold news
  split <;> split <;> rfl

@[simp] theorem activeProcedures_news :
    lastHeard Signal.activeProcedures? (c.news h) =
      if c.procedures then some h.activeProcedures else none := by
  unfold news
  split <;> split <;> rfl

@[simp] theorem assignments_news : lastHeard Signal.assignments? (c.news h) = none := by
  unfold news
  split <;> split <;> rfl

@[simp] theorem permissions_news : lastHeard Signal.permissions? (c.news h) = none := by
  unfold news
  split <;> split <;> rfl

end Changes

namespace Session

variable {γ α : Type}

/-- Everybody is a member and belongs nowhere. -/
def firstAssignments (s : Session γ α) : Assignments where
  roles := s.house.people.mapEntries fun _ _ => .ofList [.member]
  affiliations := .empty

/-! ## Within a call -/

/-- All has been told, but for what the changes tell of. -/
structure Announced (s : Session γ α) (c : Changes) (heard : List Signal) : Prop where
  balances : c.currencies = false → s.house.balances =
    (lastHeard Signal.balances? heard).getD s.rulebook.initialBalances
  procedures : c.procedures = false → s.house.activeProcedures =
    (lastHeard Signal.activeProcedures? heard).getD s.rulebook.initiallyActive
  assignments : s.house.electorate.assignments =
    (lastHeard Signal.assignments? heard).getD s.firstAssignments
  permissions : s.permissions = (lastHeard Signal.permissions? heard).getD .empty

theorem Announced.pending {s : Session γ α} {heard : List Signal} (h : s.Announced {} heard)
    (c : Changes) : s.Announced c heard :=
  ⟨fun _ => h.balances rfl, fun _ => h.procedures rfl, h.assignments, h.permissions⟩

theorem Bundle.announced {scope : Scope} {p q : Session γ α × Changes} {heard : List Signal}
    (h : Bundle scope p q) (k : p.1.Announced p.2 heard) : q.1.Announced q.2 heard := by
  refine ⟨fun hq => ?_, fun hq => ?_, ?_, ?_⟩
  · obtain ⟨hp, same⟩ := h.noted.currencies hq
    rw [same, h.rulebook_eq]
    exact k.balances hp
  · obtain ⟨hp, same⟩ := h.noted.procedures hq
    rw [same, h.rulebook_eq]
    exact k.procedures hp
  · have told := k.assignments
    simp only [House.electorate, Electorate.assignments, firstAssignments] at told ⊢
    rw [h.people_eq, h.roles_eq, h.affiliations_eq]
    exact told
  · rw [h.permissions_eq]
    exact k.permissions

theorem Settling.told [ReturningOfficer α] {s t : Session γ α} {c : Changes}
    {signals : List Signal} (h : Settling s c t signals) :
    lastHeard Signal.balances? signals = (if c.currencies then some s.house.balances else none) ∧
    lastHeard Signal.activeProcedures? signals =
      (if c.procedures then some s.house.activeProcedures else none) ∧
    t.house.electorate.assignments =
      (lastHeard Signal.assignments? signals).getD s.house.electorate.assignments ∧
    t.permissions = (lastHeard Signal.permissions? signals).getD s.permissions := by
  cases h with
  | quiet => simp
  | amended =>
    simp [lastHeard_cons, Signal.balances?, Signal.activeProcedures?, Signal.assignments?,
      Signal.permissions?, House.electorate]
  | voted =>
    simp [lastHeard_cons, Signal.balances?, Signal.activeProcedures?, Signal.assignments?,
      Signal.permissions?, House.electorate, Electorate.assignments]

theorem Settling.announced [ReturningOfficer α] {s t : Session γ α} {c : Changes}
    {signals heard : List Signal} (h : Settling s c t signals) (k : s.Announced c heard) :
    t.Announced {} (heard ++ signals) := by
  obtain ⟨balances, procedures, assignments, permissions⟩ := h.told
  obtain ⟨_, _, _, _, rfl⟩ := h.eq_with
  refine ⟨fun _ => ?_, fun _ => ?_, ?_, ?_⟩ <;> rw [lastHeard_append, Option.getD_or]
  · rw [balances]
    cases touched : c.currencies with
    | true => rfl
    | false => exact k.balances touched
  · rw [procedures]
    cases touched : c.procedures with
    | true => rfl
    | false => exact k.procedures touched
  · rw [assignments, k.assignments]
    rfl
  · rw [permissions, k.permissions]

/-! ## Between two calls -/

/-- Before setup an observer has heard nothing. -/
structure Heard (s : Session γ α) (heard : List Signal) : Prop where
  announced : s.Announced {} heard
  silent : ¬ s.PastSetup → heard = []

theorem heard_opening (r : Rulebook) (chance : γ) (officer : α) :
    (opening r chance officer).Heard [] :=
  ⟨⟨fun _ => rfl, fun _ => rfl, rfl, rfl⟩, fun _ => rfl⟩

theorem Announced.recorded {s : Session γ α} {c : Changes} {heard : List Signal}
    (h : s.Announced c heard) (r : BallotRecord) :
    (s.recorded r).Announced c (heard ++ [.ballotVoted r]) := by
  refine ⟨fun hc => ?_, fun hc => ?_, ?_, ?_⟩ <;> rw [lastHeard_append]
  · exact h.balances hc
  · exact h.procedures hc
  · exact h.assignments
  · exact h.permissions

theorem Announced.paidBy {s : Session γ α} {heard : List Signal} (h : s.Announced {} heard)
    (paid : Confirmation.Settled γ) : (s.paidBy paid).Announced (s.paidChanges paid) heard := by
  refine ⟨fun hc => ?_, fun _ => h.procedures rfl, h.assignments, h.permissions⟩
  have unchanged : paid.balances = s.house.balances := by simpa [paidChanges] using hc
  rw [Session.paidBy, unchanged]
  exact h.balances rfl

theorem Announced.carryOut [Chance γ] {s t : Session γ α} {c d : Changes} {heard : List Signal}
    {person : Ident} {p : Procedure} (h : s.Announced c heard)
    (k : s.carryOut c person p = .ok (t, d)) : t.Announced d heard :=
  (carryOut_bundle k).announced ⟨h.balances, h.procedures, h.assignments, h.permissions⟩

variable [Chance γ] [ReturningOfficer α]

theorem Performed.announced {s : Session γ α} {c : Call} {o : Outcome γ α Reply}
    {heard : List Signal} (h : Performed s c o) (k : s.Heard heard) :
    o.session.Announced {} (heard ++ o.signals) := by
  obtain ⟨told, silent⟩ := k
  cases h with
  | register phase =>
    have nothing : heard = [] := silent (by simp [PastSetup, phase])
    subst nothing
    -- Without elections there are no affiliations yet, and the new roster brings none.
    have unsettled := congrArg Assignments.affiliations told.assignments
    refine ⟨told.balances, told.procedures, ?_, told.permissions⟩
    simp only [House.seat, House.electorate, Electorate.assignments,
      firstAssignments] at unsettled ⊢
    rw [unsettled]
    rfl
  | refuse | castVote | refuseVote | closeDeclarations | turnDown =>
    rw [List.append_nil]
    exact ⟨told.balances, told.procedures, told.assignments, told.permissions⟩
  | setUp _ effects settling =>
    have bundle := applyProcedureEffects_bundle effects
    have done := settling.announced (bundle.announced (told.pending _))
    exact ⟨done.balances, done.procedures, done.assignments, done.permissions⟩
  | startBallot _ _ _ _ effects settling =>
    have bundle := applyProcedureEffects_bundle effects
    have cleared := told.pending s.leftovers
    exact settling.announced (bundle.announced
      ⟨cleared.balances, cleared.procedures, cleared.assignments, cleared.permissions⟩)
  | miss _ _ settling => exact settling.announced (told.paidBy _)
  | declare _ _ effects settling =>
    exact settling.announced ((told.paidBy _).carryOut effects)
  | endBallot _ _ effects _ settling =>
    have bundle := applyBallotEffects_bundle .setup effects
    have done := settling.announced ((bundle.announced (told.pending {})).recorded _)
    rw [List.append_assoc] at done
    exact ⟨done.balances, done.procedures, done.assignments, done.permissions⟩

theorem Performed.silent {s : Session γ α} {c : Call} {o : Outcome γ α Reply}
    (h : Performed s c o) (early : ¬ o.session.PastSetup) : ¬ s.PastSetup ∧ o.signals = [] := by
  have before : s.phase = .uninitialized := by
    apply h.moves.early
    rw [PastSetup, Decidable.not_and_iff_not_or_not, Decidable.not_not, Decidable.not_not] at early
    exact early
  exact ⟨by simp [PastSetup, before], (h.of_uninitialized before).1⟩

theorem Performed.heard {s : Session γ α} {c : Call} {o : Outcome γ α Reply}
    {heard : List Signal} (h : Performed s c o) (k : s.Heard heard) :
    o.session.Heard (heard ++ o.signals) := by
  refine ⟨h.announced k, fun early => ?_⟩
  obtain ⟨before, nothing⟩ := h.silent early
  rw [k.silent before, nothing]
  rfl

theorem Reachable.exists_heard {s : Session γ α} (h : Reachable s) : ∃ heard, s.Heard heard := by
  induction h with
  | start hs =>
    obtain ⟨-, rfl⟩ := start_eq_ok hs
    exact ⟨[], heard_opening _ _ _⟩
  | perform _ performed ih =>
    obtain ⟨heard, k⟩ := ih
    exact ⟨_, (performed_of_perform performed).heard k⟩

theorem Heard.sit {s t : Session γ α} {calls : List Call} {minutes : List Minute}
    {heard : List Signal} (h : s.Heard heard) (k : s.sit calls = .ok (t, minutes)) :
    t.Heard (heard ++ minutes.flatMap Minute.signals) := by
  refine sit_induction (P := fun _ t minutes => t.Heard (heard ++ minutes.flatMap Minute.signals))
    ?_ ?_ k
  · simpa using h
  · intro calls u minutes c o _ ih performed
    have next := (performed_of_perform performed).heard ih
    simpa using next

/-- An observer that has listened from before setup knows how things stand, whatever is called. -/
theorem Reachable.observer_up_to_date {s t : Session γ α} {calls : List Call}
    {minutes : List Minute} (h : Reachable s) (early : ¬ s.PastSetup)
    (k : s.sit calls = .ok (t, minutes)) :
    let signals := minutes.flatMap Minute.signals
    t.house.balances = (lastHeard Signal.balances? signals).getD t.rulebook.initialBalances ∧
    t.house.activeProcedures =
      (lastHeard Signal.activeProcedures? signals).getD t.rulebook.initiallyActive ∧
    Assignments.mk t.house.roles t.house.affiliations =
      (lastHeard Signal.assignments? signals).getD t.firstAssignments ∧
    t.permissions = (lastHeard Signal.permissions? signals).getD .empty := by
  obtain ⟨heard, told⟩ := h.exists_heard
  have nothing : heard = [] := told.silent early
  have now := (told.sit k).announced
  rw [nothing, List.nil_append] at now
  exact ⟨now.balances rfl, now.procedures rfl, now.assignments, now.permissions⟩

theorem observer_up_to_date_parish :
    ∃ t minutes, ¬ parishMeets.PastSetup ∧ parishMeets.sit parishEvening = .ok (t, minutes) ∧
      let signals := minutes.flatMap Minute.signals
      t.house.balances = (lastHeard Signal.balances? signals).getD t.rulebook.initialBalances ∧
      t.house.activeProcedures =
        (lastHeard Signal.activeProcedures? signals).getD t.rulebook.initiallyActive ∧
      Assignments.mk t.house.roles t.house.affiliations =
        (lastHeard Signal.assignments? signals).getD t.firstAssignments ∧
      t.permissions = (lastHeard Signal.permissions? signals).getD .empty := by
  have early : ¬ parishMeets.PastSetup := by decide
  have sits : (parishMeets.sit parishEvening).isOk = true := by decide +kernel
  cases k : parishMeets.sit parishEvening with
  | error e => simp [k, Except.isOk, Except.toBool] at sits
  | ok r =>
    obtain ⟨t, minutes⟩ := r
    exact ⟨t, minutes, early, rfl, reachable_parishMeets.observer_up_to_date early k⟩

end Session

end Parliament
