import Parliament.Proofs.Session.Orderly

/-! # Permissions are up to date

Permissions are composed anew only when amendments were touched or an election was held. Nothing
else that they depend on ever changes, so between two calls they are what composing them would give.
-/

namespace Parliament.Session

variable {γ α : Type}

/-- Setup is over. -/
def PastSetup (s : Session γ α) : Prop := s.phase ≠ .uninitialized ∧ s.phase ≠ .initialized

instance (s : Session γ α) : Decidable s.PastSetup := inferInstanceAs (Decidable (_ ∧ _))

theorem BallotOpen.pastSetup {s : Session γ α} (h : s.BallotOpen) : s.PastSetup := by
  obtain ⟨id, stage, phase⟩ := h
  simp [PastSetup, phase]

/-- To compose the permissions anew would change nothing. -/
def Fresh (s : Session γ α) : Prop := s.composed = .ok s.permissions

/-! ## Within a call -/

theorem Bundle.fresh {scope : Scope} {p q : Session γ α × Changes} (h : Bundle scope p q)
    (k : p.2.permissions = false → p.1.Fresh) (hq : q.2.permissions = false) : q.1.Fresh := by
  obtain ⟨hp, standing, ballot, franchise⟩ := h.noted.permissions hq
  have fresh := k hp
  unfold Fresh composed at *
  rw [h.roles_eq, h.roleTable_eq, standing, ballot, franchise, h.permissions_eq]
  exact fresh

theorem Settling.fresh [ReturningOfficer α] {s t : Session γ α} {c : Changes}
    {signals : List Signal} (h : Settling s c t signals) (k : c.permissions = false → s.Fresh) :
    t.Fresh := by
  cases h with
  | quiet _ kept => exact k kept
  | amended _ _ p hp => exact hp
  | voted _ p hp => exact hp

theorem fresh_clearFloor {s : Session γ α} {started : UInt32} {id : Ident} (k : s.Fresh)
    (none : s.leftovers.permissions = false) : (s.clearFloor started id).Fresh := by
  simp only [leftovers, Bool.or_eq_false_iff, Bool.not_eq_false', List.isEmpty_iff] at none
  -- There were no amendments to drop.
  obtain ⟨ballot, franchise⟩ := none
  unfold Fresh composed at *
  rw [ballot, franchise] at k
  exact k

/-! ## Between two calls -/

variable [Chance γ] [ReturningOfficer α]

theorem Performed.fresh {s : Session γ α} {c : Call} {o : Outcome γ α Reply}
    (h : Performed s c o) (k : s.PastSetup → s.Fresh) (past : o.session.PastSetup) :
    o.session.Fresh := by
  cases h with
  | register => exact absurd rfl past.2
  | refuse | castVote | refuseVote | turnDown => exact k past
  | closeDeclarations phase => exact k (BallotOpen.pastSetup ⟨_, _, phase⟩)
  | setUp _ effects settling =>
    have bundle := applyProcedureEffects_bundle effects
    apply settling.fresh
    apply bundle.fresh
    simp [setupChanges]
  | startBallot phase _ _ _ effects settling =>
    have fresh : s.Fresh := k (by simp [PastSetup, phase])
    have bundle := applyProcedureEffects_bundle effects
    apply settling.fresh
    apply bundle.fresh
    exact fresh_clearFloor fresh
  | miss tried _ settling =>
    have fresh : s.Fresh := k tried.ballotOpen.pastSetup
    apply settling.fresh
    exact fun _ => fresh
  | declare tried _ effects settling =>
    have fresh : s.Fresh := k tried.ballotOpen.pastSetup
    apply settling.fresh
    apply (carryOut_bundle effects).fresh
    exact fun _ => fresh
  | endBallot phase _ effects _ settling =>
    have fresh : s.Fresh := k (BallotOpen.pastSetup ⟨_, _, phase⟩)
    have bundle := applyBallotEffects_bundle .setup effects
    apply settling.fresh
    apply bundle.fresh
    exact fun _ => fresh

theorem Reachable.fresh {s : Session γ α} (h : Reachable s) (past : s.PastSetup) : s.Fresh := by
  induction h with
  | start hs =>
    obtain ⟨-, rfl⟩ := start_eq_ok hs
    exact absurd rfl past.1
  | perform _ performed ih => exact (performed_of_perform performed).fresh ih past

theorem Reachable.fresh_startBallot {s : Session γ α} (h : Reachable s) {id : Ident}
    {o : Outcome γ α Reply} (k : s.perform (.startBallot id) = .ok o) : o.session.Fresh :=
  (h.perform k).fresh (BallotOpen.pastSetup ⟨id, .declaring, phase_startBallot k⟩)

theorem Reachable.keys_permissions {s : Session γ α} (h : Reachable s) (past : s.PastSetup) :
    s.permissions.keys = s.house.people.keys := by
  rw [← h.orderly.seated.keys]
  exact IdMap.keys_traverse (h.fresh past)

/-- Behind setup everybody has the permissions that follow from their roles and from the amendments
that are in force, and nobody else has any. -/
theorem Reachable.permissions_up_to_date {s : Session γ α} (h : Reachable s)
    (past : s.PastSetup) :
    Permissions.compose s.house.roles s.rulebook.roleTable
        (s.standingOverrides ++ s.ballotOverrides) s.franchise = .ok s.permissions ∧
      s.permissions.keys = s.house.people.keys := by
  have fresh : s.composed = .ok s.permissions := h.fresh past
  unfold composed at fresh
  rw [h.orderly.roleTable] at fresh
  exact ⟨fresh, h.keys_permissions past⟩

theorem permissions_up_to_date_parish :
    (parishMeets.after parishEvening).PastSetup ∧
      Permissions.compose (parishMeets.after parishEvening).house.roles
          (parishMeets.after parishEvening).rulebook.roleTable
          ((parishMeets.after parishEvening).standingOverrides ++
            (parishMeets.after parishEvening).ballotOverrides)
          (parishMeets.after parishEvening).franchise =
        .ok (parishMeets.after parishEvening).permissions ∧
      (parishMeets.after parishEvening).permissions.keys =
        (parishMeets.after parishEvening).house.people.keys := by
  have past : (parishMeets.after parishEvening).PastSetup := by decide +kernel
  exact ⟨past, (reachable_parishMeets.after parishEvening).permissions_up_to_date past⟩

end Parliament.Session
