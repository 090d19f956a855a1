import Parliament.Proofs.Session.Orderly

/-! # Seats

The people of a session are those who were registered, and everybody keeps a seat as a member, no
matter what a returning officer makes of the elections. An officer that leaves people where they are
finds every seat as it was, since the session has nothing to mend in its own assignments.
-/

namespace Parliament

/-! ## Officers that retain -/

/-- The officer leaves everybody in place, whatever is to be elected. -/
def Retains {α : Type} [ReturningOfficer α] (officer : α) : Prop :=
  ∀ requests e, (ReturningOfficer.assign officer requests e).1 = e.assignments

theorem retains_statusQuo (officer : StatusQuo) : Retains officer := fun _ _ => rfl

namespace House

theorem get?_register {people : List Person} {roster roster' : IdMap Person}
    (h : register roster people = .ok roster') (id : Ident) (p : Person) :
    roster'.get? id = some p ↔ roster.get? id = some p ∨ p ∈ people ∧ p.id = id := by
  induction people generalizing roster with
  | nil =>
    obtain rfl := Except.ok.inj h
    simp
  | cons q people ih =>
    unfold register at h
    split at h
    next => simp at h
    next =>
      split at h
      next => simp at h
      next new =>
        rw [ih h, IdMap.get?_insert]
        -- A name that is seated already is refused, so this one is new.
        have absent : roster.get? q.id = none := by simpa [IdMap.contains] using new
        by_cases same : id = q.id
        · subst same
          rw [if_pos rfl, absent, Option.some.injEq, List.mem_cons]
          constructor
          · rintro (rfl | ⟨listed, named⟩)
            · exact .inr ⟨.inl rfl, rfl⟩
            · exact .inr ⟨.inr listed, named⟩
          · rintro (none | ⟨rfl | listed, named⟩)
            · simp at none
            · exact .inl rfl
            · exact .inr ⟨listed, named⟩
        · rw [if_neg same, List.mem_cons]
          refine or_congr_right (and_congr_left fun named => (or_iff_right ?_).symm)
          rintro rfl
          exact same named.symm

theorem Seated.reassign_self {h : House} (k : h.Seated) :
    h.reassign h.electorate.assignments = h := by
  have roles : (h.people.mapEntries fun id _ =>
      ((h.roles.get? id).getD .empty).insert .member) = h.roles := by
    refine IdMap.mapEntries_eq k.keys fun id _ held _ seat => ?_
    rw [seat, Option.getD_some, IdSet.insert_eq_self (k.member id held seat)]
  have affiliations : h.affiliations.filterKeys h.people.contains = h.affiliations :=
    IdMap.filterKeys_eq_self k.affiliated
  unfold reassign electorate Electorate.assignments
  dsimp only
  rw [roles, affiliations]

end House

namespace Session

variable {γ α : Type}

/-! ## Within a call -/

theorem Settling.assignments_eq [ReturningOfficer α] {s t : Session γ α} {c : Changes}
    {signals : List Signal} (h : Settling s c t signals) (seated : s.house.Seated)
    (retains : Retains s.officer) :
    t.house.electorate.assignments = s.house.electorate.assignments := by
  cases h with
  | quiet | amended => rfl
  | voted =>
    have house : s.elected.house = s.house := by
      unfold elected
      dsimp only
      rw [retains, seated.reassign_self]
    exact congrArg (·.electorate.assignments) house

theorem Bundle.assignments_eq {scope : Scope} {p q : Session γ α × Changes}
    (h : Bundle scope p q) :
    q.1.house.electorate.assignments = p.1.house.electorate.assignments :=
  congrArg (fun f : Frame α => Assignments.mk f.roles f.affiliations) h.frame_eq

theorem Settling.assignments_behind [ReturningOfficer α] {scope : Scope} {s t u : Session γ α}
    {c d : Changes} {signals : List Signal} (h : Settling t d u signals)
    (bundle : Bundle scope (s, c) (t, d)) (grounded : s.Grounded) (retains : Retains s.officer) :
    u.house.electorate.assignments = s.house.electorate.assignments := by
  have officer : t.officer = s.officer := bundle.officer_eq
  rw [h.assignments_eq (bundle.grounded grounded).seated (officer ▸ retains)]
  exact bundle.assignments_eq

/-! ## Between two calls -/

/-- The people whom the call registered. -/
def Minute.registered? (m : Minute) : Option (List Person) :=
  match m.call, m.reply with
  | .register people, .done => some people
  | _, _ => none

variable [Chance γ] [ReturningOfficer α] {s t : Session γ α} {c : Call} {o : Outcome γ α Reply}

theorem Performed.registered_eq_none (h : Performed s c o) (past : s.phase ≠ .uninitialized) :
    Minute.registered? ⟨c, o.answer, o.signals⟩ = none := by
  cases h with
  | register phase | refuse phase => exact absurd phase past
  | _ => rfl

theorem Performed.people_eq (h : Performed s c o) (past : s.phase ≠ .uninitialized) :
    o.session.house.people = s.house.people := by
  cases h with
  | register phase | refuse phase => exact absurd phase past
  | castVote | refuseVote | closeDeclarations | turnDown => rfl
  | setUp _ effects settling =>
    exact settling.people_eq.trans (applyProcedureEffects_bundle effects).people_eq
  | startBallot _ _ _ _ effects settling =>
    exact settling.people_eq.trans (applyProcedureEffects_bundle effects).people_eq
  | miss _ _ settling => exact settling.people_eq
  | declare _ _ effects settling =>
    exact settling.people_eq.trans (carryOut_bundle effects).people_eq
  | endBallot _ _ effects _ settling =>
    exact settling.people_eq.trans (applyBallotEffects_bundle .setup effects).people_eq

theorem Performed.assignments_eq (h : Performed s c o) (k : s.Orderly)
    (past : s.phase ≠ .uninitialized) (retains : Retains s.officer) :
    o.session.house.electorate.assignments = s.house.electorate.assignments := by
  have grounded := k.toGrounded
  cases h with
  | register phase | refuse phase => exact absurd phase past
  | castVote | refuseVote | closeDeclarations | turnDown => rfl
  | setUp _ effects settling =>
    exact settling.assignments_behind (applyProcedureEffects_bundle effects) grounded retains
  | @startBallot id _ started _ _ _ _ _ _ _ _ effects settling =>
    have cleared := grounded.clearFloor started id
    have kept := settling.assignments_behind (applyProcedureEffects_bundle effects) cleared retains
    exact kept
  | miss tried _ settling => exact settling.assignments_eq (tried.grounded grounded).seated retains
  | @declare _ _ p _ _ _ _ _ tried _ effects settling =>
    have paying := (tried.grounded grounded).listing p
    have kept := settling.assignments_behind (carryOut_bundle effects) paying retains
    exact kept
  | @endBallot passed id _ _ t _ _ summary _ _ _ _ effects _ settling =>
    have bundle := applyBallotEffects_bundle .setup effects
    have officer : t.officer = s.officer := bundle.officer_eq
    have record := (bundle.grounded grounded).recorded ⟨id, passed, summary, t.floor.declared⟩
    exact (settling.assignments_eq record.seated (officer ▸ retains)).trans bundle.assignments_eq

/-- Everybody is a member and nothing else, and nobody has an affiliation. -/
def Plain (s : Session γ α) : Prop :=
  s.house.electorate.assignments =
    ⟨s.house.people.mapEntries fun _ _ => .ofList [.member], .empty⟩

theorem Performed.plain (h : Performed s c o) (k : s.Orderly)
    (retains : ∀ officer : α, Retains officer) (plain : s.Plain) : o.session.Plain := by
  by_cases phase : s.phase = .uninitialized
  · rcases h.registration phase with ⟨people, roster, -, -, rfl⟩ | ⟨people, flaw, -, rfl⟩
    · have nobody : s.house.affiliations = .empty := congrArg Assignments.affiliations plain
      unfold Plain House.seat House.electorate Electorate.assignments
      rw [nobody]
    · exact plain
  · unfold Plain
    rw [h.assignments_eq k phase (retains s.officer), h.people_eq phase]
    exact plain

theorem Reachable.plain (h : Reachable s) (retains : ∀ officer : α, Retains officer) :
    s.Plain := by
  induction h with
  | start hs =>
    obtain ⟨-, rfl⟩ := start_eq_ok hs
    rfl
  | perform reached performed ih =>
    exact (performed_of_perform performed).plain reached.orderly retains ih

/-- Nobody has been registered yet, or those who are there were, all at once. -/
def Enrolled (s : Session γ α) (minutes : List Minute) : Prop :=
  if s.phase = .uninitialized then minutes.filterMap Minute.registered? = []
  else ∃ people, minutes.filterMap Minute.registered? = [people] ∧
    ∀ id p, s.house.people.get? id = some p ↔ p ∈ people ∧ p.id = id

theorem Performed.enrolled {minutes : List Minute} (h : Performed s c o)
    (k : s.Enrolled minutes) :
    o.session.Enrolled (minutes ++ [⟨c, o.answer, o.signals⟩]) := by
  unfold Enrolled at k ⊢
  rw [List.filterMap_append]
  by_cases phase : s.phase = .uninitialized
  · rw [if_pos phase] at k
    rw [k]
    rcases h.registration phase with ⟨people, roster, rfl, seated, rfl⟩ | ⟨people, flaw, rfl, rfl⟩
    · rw [if_neg (by simp)]
      refine ⟨people, rfl, fun id p => ?_⟩
      exact (House.get?_register seated id p).trans (or_iff_right (IdMap.get?_empty_ne_some id p))
    · rw [if_pos phase]
      rfl
  · rw [if_neg phase] at k
    obtain ⟨people, once, those⟩ := k
    have past : o.session.phase ≠ .uninitialized := fun early => phase (h.moves.early (.inl early))
    rw [if_neg past, h.people_eq phase, once]
    refine ⟨people, ?_, those⟩
    simp [h.registered_eq_none phase]

/-- Whatever the officer answers, the people are those who were registered, each of them is a member
and nobody else holds anything. With an officer that retains nobody ever moves. -/
theorem sitting_keeps_seats {r : Rulebook} {chance : γ} {officer : α} {s₀ : Session γ α}
    (begun : start r chance officer = .ok s₀) {calls : List Call} {minutes : List Minute}
    (sat : s₀.sit calls = .ok (t, minutes)) (past : t.phase ≠ .uninitialized) :
    (∃ people, minutes.filterMap Minute.registered? = [people] ∧
      ∀ id p, t.house.people.get? id = some p ↔ p ∈ people ∧ p.id = id) ∧
    t.house.roles.keys = t.house.people.keys ∧
    (∀ person held, t.house.roles.get? person = some held → Ident.member ∈ held) ∧
    (∀ person, t.house.affiliations.contains person = true →
      t.house.people.contains person = true) ∧
    t.pendingElections = [] ∧
    (Retains t.officer → ∀ c o, t.perform c = .ok o →
      o.session.house.roles = t.house.roles ∧
      o.session.house.affiliations = t.house.affiliations) ∧
    ((∀ officer : α, Retains officer) → t.house.affiliations = .empty ∧
      ∀ person held, t.house.roles.get? person = some held → held = .ofList [.member]) := by
  have reached : Reachable t := (Reachable.start begun).sit sat
  have orderly := reached.orderly
  have enrolled : t.Enrolled minutes := by
    refine sit_induction (P := fun _ t minutes => t.Enrolled minutes) ?_ ?_ sat
    · obtain ⟨-, rfl⟩ := start_eq_ok begun
      rfl
    · intro calls u minutes c o _ ih performed
      exact (performed_of_perform performed).enrolled ih
  rw [Enrolled, if_neg past] at enrolled
  refine ⟨enrolled, orderly.seated.keys, orderly.seated.member, orderly.seated.affiliated,
    orderly.settled, fun retains c o performed => ?_, fun retains => ?_⟩
  · have kept := (performed_of_perform performed).assignments_eq orderly past retains
    exact ⟨congrArg Assignments.roles kept, congrArg Assignments.affiliations kept⟩
  · -- Nobody ever moved, so everybody is a member and nothing else.
    have plain := reached.plain retains
    refine ⟨congrArg Assignments.affiliations plain, fun person held there => ?_⟩
    have roles : t.house.roles = t.house.people.mapEntries fun _ _ => .ofList [.member] :=
      congrArg Assignments.roles plain
    rw [roles, IdMap.get?_mapEntries, Option.map_eq_some_iff] at there
    obtain ⟨_, -, same⟩ := there
    exact same.symm

/-- The first answer forgets everybody who is there and seats a stranger. -/
def forgetful : AnswerScript :=
  ⟨[.replace ⟨.ofList [(⟨9⟩, .ofList [⟨1⟩])], .ofList [(⟨9⟩, ⟨some ⟨1⟩, none⟩)]⟩]⟩

def strangersMeet : Session DrawScript AnswerScript := opening parish (.constant 3) forgetful

theorem sitting_keeps_seats_parish :
    let t := strangersMeet.after parishEvening
    let u := parishMeets.after parishEvening
    (t.phase ≠ .uninitialized ∧ t.officer.answers = [] ∧
      t.house.roles.keys = t.house.people.keys ∧
      ∀ person, t.house.affiliations.contains person = true →
        t.house.people.contains person = true) ∧
    u.phase ≠ .uninitialized ∧ u.house.affiliations = .empty ∧
      ∀ person held, u.house.roles.get? person = some held → held = .ofList [.member] := by
  have past : (strangersMeet.after parishEvening).phase ≠ .uninitialized := by decide +kernel
  have past' : (parishMeets.after parishEvening).phase ≠ .uninitialized := by decide +kernel
  obtain ⟨minutes, sat⟩ := exists_sit_after strangersMeet parishEvening (by decide +kernel)
  obtain ⟨minutes', sat'⟩ := exists_sit_after parishMeets parishEvening (by decide +kernel)
  have begun : start parish (.constant 3) forgetful = .ok strangersMeet :=
    start_of_check check_parish _ _
  obtain ⟨-, keys, -, affiliated, -⟩ := sitting_keeps_seats begun sat past
  obtain ⟨-, -, -, -, -, -, still⟩ := sitting_keeps_seats start_parish sat' past'
  exact ⟨⟨past, by decide +kernel, keys, affiliated⟩, past', still retains_statusQuo⟩

end Session

end Parliament
