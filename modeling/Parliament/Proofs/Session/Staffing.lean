import Parliament.Proofs.Permissions
import Parliament.Proofs.Rulebook
import Parliament.Proofs.Session.Orderly

/-! # Roles with permissions

As long as the returning officer keeps within the roles of the rule book, nobody holds a role
without permissions. Then permissions can be composed, and every bundle of effects can be settled.
-/

namespace Parliament

theorem House.within_reassign {β : Type} {h : House} {a : Assignments} {table : IdMap β}
    (within : a.Within table h.people) (member : table.contains .member = true) :
    (h.reassign a).electorate.assignments.Within table (h.reassign a).people := by
  intro person held role known hp hr
  simp only [electorate, Electorate.assignments, reassign, IdMap.get?_mapEntries,
    Option.map_eq_some_iff] at hp
  obtain ⟨_, _, rfl⟩ := hp
  rcases IdSet.mem_insert.1 hr with rfl | hr
  · exact member
  · cases given : a.roles.get? person with
    | none => simp [given] at hr
    | some held =>
      rw [given] at hr
      exact within person held role known given hr

namespace Session

variable {γ α : Type}

def Staffed (s : Session γ α) : Prop :=
  s.house.electorate.assignments.Within s.rulebook.roleTable s.house.people

/-! ## Composing and settling -/

theorem exists_composed {s : Session γ α} (h : s.Grounded) (staffed : s.Staffed) :
    ∃ m, s.composed = .ok m := by
  refine Permissions.exists_compose (fun person held hp => ?_) fun person held hp role hr => ?_
  · exact ⟨.member, h.seated.member person held hp⟩
  · have known : s.house.people.contains person = true := by
      rw [← IdMap.contains_congr h.seated.keys]
      exact IdMap.contains_eq_true_iff.2 ⟨held, hp⟩
    rw [h.roleTable]
    exact staffed person held role known hp hr

theorem contains_member (s : Session γ α) : s.rulebook.roleTable.contains .member = true :=
  Rulebook.contains_roleTable.2 (.inl (by decide))

theorem Bundle.staffed {scope : Scope} {p q : Session γ α × Changes} (h : Bundle scope p q)
    (k : p.1.Staffed) : q.1.Staffed := by
  intro person held role known hp hr
  have before : q.1.house.roles.get? person = some held := hp
  rw [h.roles_eq] at before
  rw [h.people_eq] at known
  rw [h.rulebook_eq]
  exact k person held role known before hr

variable [ReturningOfficer α]

theorem Grounded.elected {s : Session γ α} (h : s.Grounded) : s.elected.Grounded :=
  ⟨h.checked, h.roleTable, House.seated_reassign _ _, h.balances⟩

theorem Staffed.elected {s : Session γ α} (h : s.Staffed)
    (keeps : KeepsWithin α s.rulebook.roleTable) : s.elected.Staffed :=
  House.within_reassign (keeps.assign_within _ _ s.house.electorate h) s.contains_member

/-- Grounded and staffed, and the officer will keep it so. -/
structure Able (s : Session γ α) : Prop extends Grounded s where
  staffed : s.Staffed
  keeps : KeepsWithin α s.rulebook.roleTable

theorem Bundle.able {scope : Scope} {p q : Session γ α × Changes} (h : Bundle scope p q)
    (k : p.1.Able) : q.1.Able :=
  ⟨h.grounded k.toGrounded, h.staffed k.staffed, h.rulebook_eq ▸ k.keeps⟩

theorem Able.clearFloor {s : Session γ α} (h : s.Able) (started : UInt32) (id : Ident) :
    (s.clearFloor started id).Able :=
  ⟨h.toGrounded.clearFloor started id, h.staffed, h.keeps⟩

theorem Able.listing {s : Session γ α} (h : s.Able) (p : Procedure) : (s.listing p).Able :=
  ⟨h.toGrounded.listing p, h.staffed, h.keeps⟩

theorem Able.recorded {s : Session γ α} (h : s.Able) (r : BallotRecord) : (s.recorded r).Able :=
  ⟨h.toGrounded.recorded r, h.staffed, h.keeps⟩

theorem Able.exists_settle {s : Session γ α} (h : s.Able) (c : Changes) :
    ∃ p, s.settle c = .ok p := by
  obtain ⟨m, hm⟩ : ∃ m, s.holdElections.1.composed = .ok m := by
    by_cases due : s.pendingElections = []
    · rw [holdElections_of_nil due]
      exact exists_composed h.toGrounded h.staffed
    · rw [holdElections_of_ne_nil due]
      exact exists_composed h.toGrounded.elected (h.staffed.elected h.keeps)
  exact Session.exists_settle hm c

/-! ## Along a sitting -/

theorem Settling.staffed {s t : Session γ α} {c : Changes} {signals : List Signal}
    (h : Settling s c t signals) (k : s.Staffed) (keeps : KeepsWithin α s.rulebook.roleTable) :
    t.Staffed := by
  cases h with
  | quiet => exact k
  | amended => exact k
  | voted => exact k.elected keeps

variable [Chance γ]

theorem Performed.staffed {s : Session γ α} {c : Call} {o : Outcome γ α Reply}
    (h : Performed s c o) (k : s.Staffed) (keeps : KeepsWithin α s.rulebook.roleTable) :
    o.session.Staffed := by
  cases h with
  | @register _ roster =>
    intro person held role _ hp hr
    simp only [House.seat, House.electorate, Electorate.assignments, IdMap.get?_mapEntries,
      Option.map_eq_some_iff] at hp
    obtain ⟨_, _, rfl⟩ := hp
    obtain rfl : role = .member := by simpa using hr
    exact s.contains_member
  | refuse | castVote | refuseVote | closeDeclarations | turnDown => exact k
  | setUp _ effects settling =>
    have bundle := applyProcedureEffects_bundle effects
    exact settling.staffed (bundle.staffed k) (bundle.rulebook_eq ▸ keeps)
  | startBallot _ _ _ _ effects settling =>
    have bundle := applyProcedureEffects_bundle effects
    exact settling.staffed (bundle.staffed k) (bundle.rulebook_eq ▸ keeps)
  | miss _ _ settling => exact settling.staffed k keeps
  | declare _ _ effects settling =>
    have bundle := carryOut_bundle effects
    exact settling.staffed (bundle.staffed k) (bundle.rulebook_eq ▸ keeps)
  | endBallot _ _ effects _ settling =>
    have bundle := applyBallotEffects_bundle .setup effects
    exact settling.staffed (bundle.staffed k) (bundle.rulebook_eq ▸ keeps)

theorem Reachable.staffed {s : Session γ α} (h : Reachable s)
    (keeps : KeepsWithin α s.rulebook.roleTable) : s.Staffed := by
  induction h with
  | start hs =>
    obtain ⟨-, rfl⟩ := start_eq_ok hs
    intro person held role _ hp
    exact absurd hp (IdMap.get?_empty_ne_some person held)
  | perform _ performed ih =>
    have step := performed_of_perform performed
    rw [step.rulebook_eq] at keeps
    exact step.staffed (ih keeps) keeps

theorem Reachable.able {s : Session γ α} (h : Reachable s)
    (keeps : KeepsWithin α s.rulebook.roleTable) : s.Able :=
  ⟨h.orderly.toGrounded, h.staffed keeps, keeps⟩

end Session

end Parliament
