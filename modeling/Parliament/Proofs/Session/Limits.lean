import Parliament.Proofs.Permissions
import Parliament.Proofs.Session.Elections
import Parliament.Proofs.Session.Freshness
import Parliament.Proofs.Session.Seats

/-! # Limits of the vote

A limit bars everybody whom its filters do not name at the moment it is set. It is the last
amendment to be applied, so it holds through later amendments and elections, until another limit is
set or another ballot is started (`Limited`). Those who are named are as if there were no limit.
-/

namespace Parliament

namespace House

variable {h : House} {filters : List Ident} {person : Ident}

/-! ## Who is named -/

/-- A filter is the name of the person, of a role they hold, of their party or of their region. -/
def Named (h : House) (filters : List Ident) (person : Ident) : Prop :=
  person ∈ filters ∨
  (∃ held, h.roles.get? person = some held ∧ ∃ role ∈ held, role ∈ filters) ∨
  ∃ a, h.affiliations.get? person = some a ∧
    ((∃ party ∈ a.party, party ∈ filters) ∨ ∃ region ∈ a.region, region ∈ filters)

theorem contains_rolesOf {role : Ident} : (h.rolesOf person).contains role = true ↔
    ∃ held, h.roles.get? person = some held ∧ role ∈ held := by
  unfold rolesOf
  cases h.roles.get? person with
  | none => simp [← IdSet.mem_iff]
  | some held => simp [← IdSet.mem_iff]

theorem contains_affiliation {faction : Ident} :
    (h.affiliation person).contains faction = true ↔
      ∃ a, h.affiliations.get? person = some a ∧ (faction ∈ a.party ∨ faction ∈ a.region) := by
  unfold affiliation Affiliation.contains
  cases h.affiliations.get? person with
  | none => simp
  | some a => simp

theorem matchesAny_iff : h.matchesAny filters person = true ↔ h.Named filters person := by
  simp only [matchesAny, List.any_eq_true, Bool.or_eq_true, beq_iff_eq, contains_rolesOf,
    contains_affiliation]
  constructor
  · rintro ⟨f, listed, (rfl | ⟨held, seat, holds⟩) | ⟨a, belongs, party | region⟩⟩
    · exact .inl listed
    · exact .inr (.inl ⟨held, seat, f, holds, listed⟩)
    · exact .inr (.inr ⟨a, belongs, .inl ⟨f, party, listed⟩⟩)
    · exact .inr (.inr ⟨a, belongs, .inr ⟨f, region, listed⟩⟩)
  · rintro (listed | ⟨held, seat, f, holds, listed⟩ |
      ⟨a, belongs, ⟨f, party, listed⟩ | ⟨f, region, listed⟩⟩)
    · exact ⟨person, listed, .inl (.inl rfl)⟩
    · exact ⟨f, listed, .inl (.inr ⟨held, seat, holds⟩)⟩
    · exact ⟨f, listed, .inr ⟨a, belongs, .inl party⟩⟩
    · exact ⟨f, listed, .inr ⟨a, belongs, .inr region⟩⟩

instance (h : House) (filters : List Ident) (person : Ident) :
    Decidable (h.Named filters person) :=
  decidable_of_iff _ matchesAny_iff

theorem Named.congr {k : House} (same : k.electorate.assignments = h.electorate.assignments) :
    k.Named filters person ↔ h.Named filters person := by
  have roles : k.roles = h.roles := congrArg Assignments.roles same
  have affiliations : k.affiliations = h.affiliations := congrArg Assignments.affiliations same
  unfold Named
  rw [roles, affiliations]

theorem mem_franchise_iff : (person, Amendment.ofCanVote false) ∈ h.franchise filters ↔
    h.roles.contains person = true ∧ ¬ h.Named filters person := by
  unfold franchise
  rw [List.mem_map, ← matchesAny_iff]
  constructor
  · rintro ⟨k, there, same⟩
    obtain ⟨rfl, amendment⟩ := Prod.mk.inj same
    refine ⟨IdMap.mem_keys_iff.1 there, fun named => ?_⟩
    rw [if_pos named] at amendment
    cases amendment
  · rintro ⟨there, unnamed⟩
    exact ⟨person, IdMap.mem_keys_iff.2 there, by rw [if_neg unnamed]⟩

theorem filter_franchise (seated : h.roles.contains person = true) :
    ((h.franchise filters).filter (·.1 = person)).map Prod.snd =
      [if h.matchesAny filters person then .empty else .ofCanVote false] := by
  have once : h.roles.keys.filter (· = person) = [person] := by
    rw [List.filter_eq, h.roles.nodup_keys.count, if_pos (IdMap.mem_keys_iff.2 seated)]
    rfl
  rw [franchise, List.filter_map, Function.comp_def, once]
  rfl

end House

/-! ## The last amendment -/

namespace Permissions

variable {h : House} {filters : List Ident} {person : Ident} {roles : IdMap IdSet}
  {table m n : IdMap Permissions} {overrides : List Override} {held : IdSet}

theorem canVote_compose_franchise
    (composed : compose roles table overrides (h.franchise filters) = .ok m)
    (seat : roles.get? person = some held) (known : h.roles.contains person = true)
    (unnamed : ¬ h.Named filters person) :
    ∃ p, m.get? person = some p ∧ p.canVote = false := by
  obtain ⟨p, -, found⟩ := get?_compose composed seat
  -- The limit is composed behind all other amendments, so none of them gives the vote back.
  rw [amendmentsFor, House.filter_franchise known, if_neg (mt House.matchesAny_iff.1 unnamed),
    amendAll_append] at found
  exact ⟨_, found, rfl⟩

theorem get?_compose_franchise
    (composed : compose roles table overrides (h.franchise filters) = .ok m)
    (unlimited : compose roles table overrides [] = .ok n)
    (seat : roles.get? person = some held) (known : h.roles.contains person = true)
    (named : h.Named filters person) : m.get? person = n.get? person := by
  obtain ⟨p, folded, found⟩ := get?_compose composed seat
  obtain ⟨q, folded', found'⟩ := get?_compose unlimited seat
  obtain rfl := Except.ok.inj (folded.symm.trans folded')
  rw [amendmentsFor, House.filter_franchise known, if_pos (House.matchesAny_iff.2 named),
    amendAll_append] at found
  rw [amendmentsFor, List.filter_nil, List.map_nil, List.append_nil] at found'
  rw [found, found']
  rfl

end Permissions

namespace Session

variable {γ α : Type}

/-! ## Setting a limit -/

/-- A limit takes the vote from the person. -/
def Barred (s : Session γ α) (person : Ident) : Prop :=
  (person, Amendment.ofCanVote false) ∈ s.franchise

instance (s : Session γ α) (person : Ident) : Decidable (s.Barred person) :=
  inferInstanceAs (Decidable (_ ∈ _))

theorem Bearing.readied_of_ne {b : Bearing α} {c : Call} (idle : ∀ id, c ≠ .startBallot id) :
    b.readied c = b := by
  cases c with
  | startBallot id => exact absurd rfl (idle id)
  | _ => rfl

variable [ReturningOfficer α]

theorem Settling.franchise_eq {s t : Session γ α} {c : Changes} {signals : List Signal}
    (h : Settling s c t signals) : t.franchise = s.franchise := by
  obtain ⟨_, _, _, _, rfl⟩ := h.eq_with
  rfl

theorem Settling.voters_eq {s t : Session γ α} {c : Changes} {signals : List Signal}
    (h : Settling s c t signals) : t.voters = s.voters := by
  obtain ⟨_, _, _, _, rfl⟩ := h.eq_with
  rfl

section

variable {s : Session γ α} {c : Call} {o : Outcome γ α Reply} {filters : List Ident}

theorem Conducted.franchise_eq (h : Conducted s c o) :
    o.session.franchise = ((Firing.lastLimit (s.fired c o.answer)).map s.house.franchise).getD
      (s.bearing.readied c).franchise := by
  cases h with
  | still nothing _ _ _ franchise _ _ idle =>
    rw [nothing, Bearing.readied_of_ne idle]
    exact franchise
  | bundle t u _ _ _ prepared settling closed =>
    rw [← prepared.franchise, ← settling.franchise_eq]
    exact congrArg Bearing.franchise closed

theorem Conducted.voters_eq (h : Conducted s c o)
    (noVote : ∀ person vote, c ≠ .castVote person vote) :
    o.session.voters = if (Firing.lastLimit (s.fired c o.answer)).isSome then (.empty, .empty)
      else (s.bearing.readied c).voters := by
  cases h with
  | still nothing _ _ _ _ voters _ idle =>
    rw [nothing, Bearing.readied_of_ne idle]
    exact voters noVote
  | bundle t u _ _ _ prepared settling closed =>
    rw [← prepared.voters, ← settling.voters_eq]
    exact congrArg Bearing.voters closed

end

variable [Chance γ]

theorem Performed.pastSetup {s : Session γ α} {c : Call} {o : Outcome γ α Reply}
    (h : Performed s c o) (late : s.phase ≠ .uninitialized) : o.session.PastSetup :=
  ⟨fun early => late (h.moves.early (.inl early)), fun early => late (h.moves.early (.inr early))⟩

theorem Performed.late_of_fired {s : Session γ α} {c : Call} {o : Outcome γ α Reply}
    (h : Performed s c o) (fires : s.fired c o.answer ≠ []) : s.phase ≠ .uninitialized := by
  cases h with
  | register | refuse => exact absurd rfl fires
  | castVote phase | refuseVote phase | closeDeclarations phase | setUp phase | startBallot phase
    | endBallot phase => simp [phase]
  | turnDown proposal => simp [proposal.phase]
  | miss tried | declare tried => exact tried.ballotOpen.pastSetup.1

/-! ## Under a limit -/

/-- A limit with these filters is in force that was set in the house `h`. -/
structure Limited (h : House) (filters : List Ident) (t : Session γ α) : Prop where
  past : t.PastSetup
  seats : h.roles.keys = h.people.keys
  people : t.house.people = h.people
  franchise : t.franchise = h.franchise filters
  unpolled : ∀ person, h.people.contains person = true → ¬ h.Named filters person →
    person ∉ t.floor.tally.passVoters ∧ person ∉ t.floor.tally.failVoters

section

variable {h : House} {filters : List Ident} {s t : Session γ α} {c : Call}
  {o : Outcome γ α Reply} {person : Ident}

theorem Limited.exists_seat (k : Limited h filters t) (reached : Reachable t)
    (known : h.people.contains person = true) :
    h.roles.contains person = true ∧ ∃ held, t.house.roles.get? person = some held := by
  have there : t.house.roles.contains person = true := by
    rw [IdMap.contains_congr reached.orderly.seated.keys, k.people, known]
  exact ⟨(IdMap.contains_congr k.seats person).trans known, IdMap.contains_eq_true_iff.1 there⟩

theorem Limited.composed (k : Limited h filters t) (reached : Reachable t) :
    Permissions.compose t.house.roles t.rulebook.roleTable
      (t.standingOverrides ++ t.ballotOverrides) (h.franchise filters) = .ok t.permissions := by
  rw [← k.franchise]
  exact (reached.permissions_up_to_date k.past).1

theorem Limited.canVote (k : Limited h filters t) (reached : Reachable t)
    (known : h.people.contains person = true) (unnamed : ¬ h.Named filters person) :
    ∃ p, t.permissions.get? person = some p ∧ p.canVote = false := by
  obtain ⟨there, held, seat⟩ := k.exists_seat reached known
  exact Permissions.canVote_compose_franchise (k.composed reached) seat there unnamed

theorem castVote_of_not_canVote {p : Permissions} (ballot : t.BallotOpen)
    (found : t.permissions.get? person = some p) (barred : p.canVote = false) {vote : Vote}
    (votes : vote ≠ .abstain) :
    t.perform (.castVote person vote) = .ok ⟨.voted false, t, []⟩ := by
  obtain ⟨id, stage, phase⟩ := ballot
  have counts : (p.canVote || vote == .abstain) = false := by simp [barred, votes]
  simp only [perform, castVote, openBallotFor, phase, found, counts]
  rfl

theorem limited_of_lastLimit (reached : Reachable s) (k : s.perform c = .ok o)
    (limit : Firing.lastLimit (s.fired c o.answer) = some filters) :
    Limited s.house filters o.session := by
  have performed := performed_of_perform k
  have conducted := performed.conducted
  have fires := Firing.ne_nil_of_lastLimit limit
  have noVote : ∀ person vote, c ≠ .castVote person vote := by
    rintro person vote rfl
    exact fires rfl
  have late := performed.late_of_fired fires
  have voters : o.session.voters = (.empty, .empty) := by
    rw [conducted.voters_eq noVote, limit]
    rfl
  refine ⟨performed.pastSetup late, reached.orderly.seated.keys,
    performed.people_eq late, ?_, ?_⟩
  · rw [conducted.franchise_eq, limit]
    rfl
  · intro person _ _
    have pass : o.session.floor.tally.passVoters = .empty := congrArg Prod.fst voters
    have fail : o.session.floor.tally.failVoters = .empty := congrArg Prod.snd voters
    simp [pass, fail]

theorem Limited.unpolled_castVote (k : Limited h filters t) (reached : Reachable t)
    {vote : Vote} (performed : Performed t (.castVote person vote) o) {other : Ident}
    (known : h.people.contains other = true) (unnamed : ¬ h.Named filters other) :
    other ∉ o.session.floor.tally.passVoters ∧ other ∉ o.session.floor.tally.failVoters := by
  have before := k.unpolled other known unnamed
  cases performed with
  | refuseVote => exact before
  | castVote _ found allowed =>
    -- The voter may be the one who is barred, but then they have abstained.
    obtain ⟨p, there, barred⟩ := k.canVote reached known unnamed
    have abstains : other = person → vote = .abstain := by
      rintro rfl
      obtain rfl := Option.some.inj (there.symm.trans found)
      simpa [barred] using allowed
    rw [Tally.mem_passVoters_record, Tally.mem_failVoters_record]
    constructor
    · rintro (⟨same, rfl⟩ | ⟨-, counted⟩)
      · cases abstains same
      · exact before.1 counted
    · rintro (⟨same, rfl⟩ | ⟨-, counted⟩)
      · cases abstains same
      · exact before.2 counted

/-- A limit stays in force until another is set or a ballot is started. -/
theorem Limited.perform (k : Limited h filters t) (reached : Reachable t)
    (called : t.perform c = .ok o) (idle : ∀ id, c ≠ .startBallot id)
    (kept : Firing.lastLimit (t.fired c o.answer) = none) : Limited h filters o.session := by
  have performed := performed_of_perform called
  have conducted := performed.conducted
  refine ⟨performed.pastSetup k.past.1, k.seats, (performed.people_eq k.past.1).trans k.people,
    ?_, ?_⟩
  · rw [conducted.franchise_eq, kept, Bearing.readied_of_ne idle]
    exact k.franchise
  · intro other known unnamed
    -- Only a vote can bring somebody to be counted.
    by_cases votes : ∃ person vote, c = .castVote person vote
    · obtain ⟨person, vote, rfl⟩ := votes
      exact k.unpolled_castVote reached performed known unnamed
    · have same : o.session.voters = t.voters := by
        rw [conducted.voters_eq (by simpa using votes), kept, Bearing.readied_of_ne idle]
        rfl
      have pass : o.session.floor.tally.passVoters = _ := congrArg Prod.fst same
      have fail : o.session.floor.tally.failVoters = _ := congrArg Prod.snd same
      rw [pass, fail]
      exact k.unpolled other known unnamed

end

/-- None of the calls starts a ballot or sets a limit. -/
def LeavesLimit (s : Session γ α) : List Call → Prop
  | [] => True
  | c :: calls => ∀ o, s.perform c = .ok o → (∀ id, c ≠ .startBallot id) ∧
      (∀ f ∈ s.fired c o.answer, f.limit? = none) ∧ o.session.LeavesLimit calls

theorem Limited.sit {h : House} {filters : List Ident} {s t : Session γ α} {calls : List Call}
    {minutes : List Minute} (k : Limited h filters s) (reached : Reachable s)
    (sat : s.sit calls = .ok (t, minutes)) (leaves : s.LeavesLimit calls) :
    Limited h filters t := by
  induction calls generalizing s minutes with
  | nil =>
    obtain ⟨rfl, -⟩ := sit_nil_eq_ok.1 sat
    exact k
  | cons c calls ih =>
    obtain ⟨o, rest, called, sat, -⟩ := sit_cons_eq_ok.1 sat
    obtain ⟨idle, none, leaves⟩ := leaves o called
    have kept := Firing.lastLimit_eq_none_iff.2 none
    exact ih (k.perform reached called idle kept) (reached.perform called) sat leaves

section

variable {s t : Session γ α} {c : Call} {o : Outcome γ α Reply} {filters : List Ident}
  {calls : List Call} {minutes : List Minute}

/-- Whom the filters did not name when the limit was set has no vote and is not counted, whatever is
declared and whoever is elected; for everybody else it is as if there were no limit. -/
theorem Reachable.limit_holds (reached : Reachable s) (called : s.perform c = .ok o)
    (limit : Firing.lastLimit (s.fired c o.answer) = some filters)
    (sat : o.session.sit calls = .ok (t, minutes)) (leaves : o.session.LeavesLimit calls) :
    (∀ person, s.house.people.contains person = true → ¬ s.house.Named filters person →
      (∃ p, t.permissions.get? person = some p ∧ p.canVote = false) ∧
      person ∉ t.floor.tally.passVoters ∧ person ∉ t.floor.tally.failVoters ∧
      (t.BallotOpen → ∀ vote, vote ≠ .abstain →
        t.perform (.castVote person vote) = .ok ⟨.voted false, t, []⟩)) ∧
    ∃ unlimited, Permissions.compose t.house.roles t.rulebook.roleTable
        (t.standingOverrides ++ t.ballotOverrides) [] = .ok unlimited ∧
      ∀ person, s.house.people.contains person = true → s.house.Named filters person →
        t.permissions.get? person = unlimited.get? person := by
  have behind := reached.perform called
  have limited := (limited_of_lastLimit reached called limit).sit behind sat leaves
  have reached := behind.sit sat
  refine ⟨fun person known unnamed => ?_, ?_⟩
  · obtain ⟨p, found, barred⟩ := limited.canVote reached known unnamed
    obtain ⟨pass, fail⟩ := limited.unpolled person known unnamed
    exact ⟨⟨p, found, barred⟩, pass, fail,
      fun ballot vote votes => castVote_of_not_canVote ballot found barred votes⟩
  · have composed := limited.composed reached
    obtain ⟨unlimited, plain⟩ := Permissions.exists_compose_of_eq_ok composed
      (t.standingOverrides ++ t.ballotOverrides) []
    refine ⟨unlimited, plain, fun person known named => ?_⟩
    obtain ⟨there, held, seat⟩ := limited.exists_seat reached known
    exact Permissions.get?_compose_franchise composed plain seat there named

end

/-- Cuthbert is elected warden as the ballot starts, and Bede in the next election. -/
def wardensSit : Session DrawScript AnswerScript :=
  opening hustings (.constant 3) ⟨[.overlay ⟨.ofList [(⟨3⟩, .ofList [⟨1⟩])], .empty⟩,
    .overlay ⟨.ofList [(⟨2⟩, .ofList [⟨1⟩])], .empty⟩]⟩

theorem reachable_wardensSit : Reachable wardensSit := .start (start_of_check check_hustings _ _)

def wardensBegin : List Call := hustingsBegin ++ [.startBallot ⟨1⟩]

theorem leavesLimit_cons {s : Session γ α} {c : Call} {calls : List Call} (reply : Reply)
    (idle : ∀ id, c ≠ .startBallot id) (answered : (s.perform c).map (·.answer) = .ok reply)
    (none : ∀ f ∈ s.fired c reply, f.limit? = none) (rest : (s.after [c]).LeavesLimit calls) :
    s.LeavesLimit (c :: calls) := by
  intro o called
  obtain ⟨signals, called'⟩ := exists_perform_after s c answered
  obtain rfl := Except.ok.inj (called'.symm.trans called)
  exact ⟨idle, none, rest⟩

theorem limit_holds_hustings :
    let s := wardensSit.after wardensBegin
    let calls : List Call := [.castVote ⟨3⟩ .pass, .declare ⟨3⟩ ⟨6⟩, .castVote ⟨2⟩ .fail]
    ∃ o t minutes, s.perform (.declare ⟨2⟩ ⟨4⟩) = .ok o ∧
      Firing.lastLimit (s.fired (.declare ⟨2⟩ ⟨4⟩) o.answer) = some [⟨1⟩] ∧
      o.session.sit calls = .ok (t, minutes) ∧ o.session.LeavesLimit calls ∧
      ¬ s.house.Named [⟨1⟩] ⟨2⟩ ∧ t.house.Named [⟨1⟩] ⟨2⟩ ∧
      (∃ p, t.permissions.get? ⟨2⟩ = some p ∧ p.canVote = false) ∧
      t.perform (.castVote ⟨2⟩ .pass) = .ok ⟨.voted false, t, []⟩ ∧
      s.house.Named [⟨1⟩] ⟨3⟩ ∧
      ∃ unlimited, Permissions.compose t.house.roles t.rulebook.roleTable
          (t.standingOverrides ++ t.ballotOverrides) [] = .ok unlimited ∧
        t.permissions.get? ⟨3⟩ = unlimited.get? ⟨3⟩ := by
  intro s calls
  obtain ⟨signals, called⟩ : ∃ signals, s.perform (.declare ⟨2⟩ ⟨4⟩) =
      .ok ⟨.declared .confirmed, s.after [.declare ⟨2⟩ ⟨4⟩], signals⟩ :=
    exists_perform_after s _ (by decide +kernel)
  obtain ⟨minutes, sat⟩ :=
    exists_sit_after (s.after [.declare ⟨2⟩ ⟨4⟩]) calls (by decide +kernel)
  have leaves : (s.after [.declare ⟨2⟩ ⟨4⟩]).LeavesLimit calls := by
    refine leavesLimit_cons (.voted true) (by simp) (by decide +kernel)
      (by decide +kernel) ?_
    refine leavesLimit_cons (.declared .confirmed) (by simp) (by decide +kernel)
      (by decide +kernel) ?_
    exact leavesLimit_cons (.voted false) (by simp) (by decide +kernel)
      (by decide +kernel) trivial
  have limit : Firing.lastLimit (s.fired (.declare ⟨2⟩ ⟨4⟩) (.declared .confirmed)) =
      some [⟨1⟩] := by decide +kernel
  have unnamed : ¬ s.house.Named [⟨1⟩] ⟨2⟩ := by decide +kernel
  have named : s.house.Named [⟨1⟩] ⟨3⟩ := by decide +kernel
  -- Bede is barred as he is elected, and still is when all members may vote.
  obtain ⟨barred, unlimited, composed, same⟩ :=
    (reachable_wardensSit.after wardensBegin).limit_holds called limit sat leaves
  obtain ⟨there, -, -, votes⟩ := barred ⟨2⟩ (by decide +kernel) unnamed
  exact ⟨_, _, minutes, called, limit, sat, leaves, unnamed, by decide +kernel, there,
    votes (by decide +kernel) .pass (by decide), named, unlimited, composed,
    same ⟨3⟩ (by decide +kernel) named⟩

section

variable {s t : Session γ α} {c : Call} {o : Outcome γ α Reply} {filters : List Ident}

/-- A limit goes by the seats as they were before the elections of its own bundle. Without such
elections it agrees with the seats behind the call. -/
theorem Reachable.barred_iff (reached : Reachable s) (called : s.perform c = .ok o)
    (limit : Firing.lastLimit (s.fired c o.answer) = some filters) (person : Ident) :
    (o.session.Barred person ↔
      s.house.people.contains person = true ∧ ¬ s.house.Named filters person) ∧
    ((∀ f ∈ s.fired c o.answer, f.isElectoral = false) →
      (o.session.Barred person ↔ o.session.house.people.contains person = true ∧
        ¬ o.session.house.Named filters person)) := by
  have limited := limited_of_lastLimit reached called limit
  have barred : o.session.Barred person ↔
      s.house.people.contains person = true ∧ ¬ s.house.Named filters person := by
    rw [Barred, limited.franchise, House.mem_franchise_iff, IdMap.contains_congr limited.seats]
  refine ⟨barred, fun none => ?_⟩
  have fires := Firing.ne_nil_of_lastLimit limit
  have conducted := (performed_of_perform called).conducted
  have still := conducted.assignments_eq reached.orderly.settled fires none
  rw [barred, limited.people, House.Named.congr still]

end

theorem barred_iff_hustings :
    let s := wardensSit.after wardensBegin
    ∃ o, s.perform (.declare ⟨2⟩ ⟨7⟩) = .ok o ∧
      Firing.lastLimit (s.fired (.declare ⟨2⟩ ⟨7⟩) o.answer) = some [⟨1⟩] ∧
      (∀ f ∈ s.fired (.declare ⟨2⟩ ⟨7⟩) o.answer, f.isElectoral = false) ∧
      (o.session.Barred ⟨2⟩ ∧ ¬ s.house.Named [⟨1⟩] ⟨2⟩) ∧
      ¬ o.session.Barred ⟨3⟩ ∧ o.session.house.Named [⟨1⟩] ⟨3⟩ := by
  intro s
  obtain ⟨signals, called⟩ : ∃ signals, s.perform (.declare ⟨2⟩ ⟨7⟩) =
      .ok ⟨.declared .confirmed, s.after [.declare ⟨2⟩ ⟨7⟩], signals⟩ :=
    exists_perform_after s _ (by decide +kernel)
  have limit : Firing.lastLimit (s.fired (.declare ⟨2⟩ ⟨7⟩) (.declared .confirmed)) =
      some [⟨1⟩] := by decide +kernel
  have none : ∀ f ∈ s.fired (.declare ⟨2⟩ ⟨7⟩) (.declared .confirmed), f.isElectoral = false := by
    decide +kernel
  have unnamed : ¬ s.house.Named [⟨1⟩] ⟨2⟩ := by decide +kernel
  have named : (s.after [.declare ⟨2⟩ ⟨7⟩]).house.Named [⟨1⟩] ⟨3⟩ := by decide +kernel
  have reached : Reachable s := reachable_wardensSit.after wardensBegin
  have bede := (reached.barred_iff called limit ⟨2⟩).1
  have cuthbert := (reached.barred_iff called limit ⟨3⟩).2 none
  exact ⟨_, called, limit, none, ⟨bede.2 ⟨by decide +kernel, unnamed⟩, unnamed⟩,
    fun barred => (cuthbert.1 barred).2 named, named⟩

/-- Bede is barred as he is elected to the role that the limit names. -/
theorem barred_though_elected :
    let s := wardensSit.after wardensBegin
    Reachable s ∧ ∃ o, s.perform (.declare ⟨2⟩ ⟨4⟩) = .ok o ∧ o.answer = .declared .confirmed ∧
      Firing.lastLimit (s.fired (.declare ⟨2⟩ ⟨4⟩) o.answer) = some [⟨1⟩] ∧
      o.session.house.people.contains ⟨2⟩ = true ∧
      ¬ (o.session.Barred ⟨2⟩ ↔ ¬ o.session.house.Named [⟨1⟩] ⟨2⟩) := by
  intro s
  obtain ⟨signals, called⟩ : ∃ signals, s.perform (.declare ⟨2⟩ ⟨4⟩) =
      .ok ⟨.declared .confirmed, s.after [.declare ⟨2⟩ ⟨4⟩], signals⟩ :=
    exists_perform_after s _ (by decide +kernel)
  have barred : (s.after [.declare ⟨2⟩ ⟨4⟩]).Barred ⟨2⟩ := by decide +kernel
  have named : (s.after [.declare ⟨2⟩ ⟨4⟩]).house.Named [⟨1⟩] ⟨2⟩ := by decide +kernel
  have limit : Firing.lastLimit (s.fired (.declare ⟨2⟩ ⟨4⟩) (.declared .confirmed)) =
      some [⟨1⟩] := by decide +kernel
  have known : (s.after [.declare ⟨2⟩ ⟨4⟩]).house.people.contains ⟨2⟩ = true := by decide +kernel
  exact ⟨reachable_wardensSit.after wardensBegin, _, called, rfl, limit, known,
    fun same => same.1 barred named⟩

end Session

end Parliament
