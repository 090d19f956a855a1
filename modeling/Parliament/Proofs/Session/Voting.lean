import Parliament.Proofs.Session.Limits
import Parliament.Proofs.Tally.Outstanding

/-! # The last vote counts

Votes may be cast over and over again. A vote that is accepted takes the place of an earlier one by
the same person, and one that is refused leaves the earlier one standing. So where the tally is
empty at first, it shows the last accepted vote of everybody and nothing of how they took turns.
-/

namespace Parliament.Session

variable {γ α : Type} {s : Session γ α}

/-! ## Votes in a row -/

/-- Anybody may abstain. -/
def accepts (s : Session γ α) (v : Ident × Vote) : Bool :=
  v.2 == .abstain || (s.permissions.get? v.1).any (·.canVote)

def casting (votes : List (Ident × Vote)) : List Call := votes.map fun v => .castVote v.1 v.2

/-- The votes are in the tally, and all else is as it was. -/
def withVotes (s : Session γ α) (votes : List (Ident × Vote)) : Session γ α :=
  { s with floor := { s.floor with tally := s.floor.tally.recordAll votes } }

theorem withVotes_append (s : Session γ α) (votes others : List (Ident × Vote)) :
    s.withVotes (votes ++ others) = (s.withVotes votes).withVotes others := by
  simp [withVotes, Tally.recordAll_append]

variable [Chance γ] [ReturningOfficer α]

theorem perform_castVote (ballot : s.BallotOpen) {v : Ident × Vote}
    (seated : s.permissions.contains v.1 = true) :
    s.perform (.castVote v.1 v.2) =
      .ok ⟨.voted (s.accepts v), s.withVotes ([v].filter s.accepts), []⟩ := by
  obtain ⟨id, stage, phase⟩ := ballot
  have opened : s.openBallotFor .castVote = .ok (id, stage) := by rw [openBallotFor, phase]
  obtain ⟨p, found⟩ := IdMap.contains_eq_true_iff.1 seated
  have accepted : s.accepts v = (p.canVote || v.2 == .abstain) := by
    rw [accepts, found, Bool.or_comm]
    rfl
  rw [perform, castVote, opened, ok_bind, found]
  dsimp only
  rw [← accepted]
  cases heard : s.accepts v with
  | true =>
    rw [List.filter_cons_of_pos heard]
    rfl
  | false =>
    rw [List.filter_cons_of_neg (by simp [heard])]
    rfl

theorem sit_casting (ballot : s.BallotOpen) {votes : List (Ident × Vote)}
    (seated : ∀ v ∈ votes, s.permissions.contains v.1 = true) :
    s.sit (casting votes) = .ok (s.withVotes (votes.filter s.accepts),
      votes.map fun v => ⟨.castVote v.1 v.2, .voted (s.accepts v), []⟩) := by
  induction votes generalizing s with
  | nil => rfl
  | cons v votes ih =>
    have first := perform_castVote ballot (seated v List.mem_cons_self)
    -- A vote changes neither who may vote nor whether the ballot is open.
    have rest := ih (s := s.withVotes ([v].filter s.accepts)) ballot
      fun w there => seated w (List.mem_cons_of_mem v there)
    have whole : (v :: votes).filter s.accepts =
        [v].filter s.accepts ++ votes.filter s.accepts := by
      rw [← List.filter_append]
      rfl
    rw [whole, withVotes_append]
    exact sit_cons_eq_ok.2 ⟨_, _, first, rest, rfl⟩

/-! ## Since the tally was empty -/

section

variable {c : Call} {o : Outcome γ α Reply} {votes : List (Ident × Vote)}

theorem voters_of_begun (called : s.perform c = .ok o)
    (begun : (∃ id, c = .startBallot id) ∨
      (Firing.lastLimit (s.fired c o.answer)).isSome = true) :
    o.session.voters = (.empty, .empty) := by
  have conducted := (performed_of_perform called).conducted
  obtain ⟨id, rfl⟩ | limit := begun
  · rw [conducted.voters_eq (by simp)]
    split <;> rfl
  · have noVote : ∀ person vote, c ≠ .castVote person vote := by
      rintro person vote rfl
      cases limit
    rw [conducted.voters_eq noVote, if_pos limit]

/-- The tally shows the last of the votes of everybody, and nothing else has changed. -/
structure ShowsLast (s : Session γ α) (votes : List (Ident × Vote)) (t : Session γ α) : Prop where
  pass : ∀ person, person ∈ t.floor.tally.passVoters ↔
    Tally.lastVote votes person = some .pass
  fail : ∀ person, person ∈ t.floor.tally.failVoters ↔
    Tally.lastVote votes person = some .fail
  terms : t.floor.tally.clearVotes = s.floor.tally.clearVotes
  elsewhere : t = { s with floor := { s.floor with tally := t.floor.tally } }

omit [Chance γ] [ReturningOfficer α] in
theorem showsLast_withVotes (unpolled : s.voters = (.empty, .empty)) :
    s.ShowsLast votes (s.withVotes votes) := by
  have pass : s.floor.tally.passVoters = .empty := congrArg Prod.fst unpolled
  have fail : s.floor.tally.failVoters = .empty := congrArg Prod.snd unpolled
  refine ⟨fun person => ?_, fun person => ?_, Tally.clearVotes_recordAll _ _, rfl⟩
  · rw [withVotes, Tally.mem_passVoters_recordAll, pass]
    simp
  · rw [withVotes, Tally.mem_failVoters_recordAll, fail]
    simp

/-- Whatever is cast behind the start of a ballot or a limit of the vote, the last accepted vote of
everybody counts. Votes in another order, with or without some that are refused, lead to the same
session as long as everybody's own accepted votes come in the same order. -/
theorem Reachable.last_vote_counts (reached : Reachable s) (called : s.perform c = .ok o)
    (begun : (∃ id, c = .startBallot id) ∨
      (Firing.lastLimit (s.fired c o.answer)).isSome = true)
    (ballot : o.session.BallotOpen)
    (known : ∀ v ∈ votes, o.session.house.people.contains v.1 = true) :
    ∃ t, o.session.sit (casting votes) = .ok (t, votes.map fun v =>
        ⟨.castVote v.1 v.2, .voted (o.session.accepts v), []⟩) ∧
      o.session.ShowsLast (votes.filter o.session.accepts) t ∧
      ∀ others : List (Ident × Vote),
        (∀ v ∈ others, o.session.house.people.contains v.1 = true) →
        (∀ person, (others.filter o.session.accepts).filter (·.1 = person) =
          (votes.filter o.session.accepts).filter (·.1 = person)) →
        ∃ minutes, o.session.sit (casting others) = .ok (t, minutes) := by
  have keys := (reached.perform called).keys_permissions ballot.pastSetup
  have seated (votes : List (Ident × Vote))
      (known : ∀ v ∈ votes, o.session.house.people.contains v.1 = true) :
      ∀ v ∈ votes, o.session.permissions.contains v.1 = true :=
    fun v there => (IdMap.contains_congr keys v.1).trans (known v there)
  refine ⟨_, sit_casting ballot (seated votes known),
    showsLast_withVotes (voters_of_begun called begun), fun others known' same => ?_⟩
  have sat := sit_casting ballot (seated others known')
  have tally : o.session.withVotes (others.filter o.session.accepts) =
      o.session.withVotes (votes.filter o.session.accepts) := by
    rw [withVotes, withVotes, Tally.recordAll_congr]
    intro person
    rw [Tally.lastVote, Tally.lastVote, same]
  rw [tally] at sat
  exact ⟨_, sat⟩

end

theorem last_vote_counts_hustings :
    let s := wardensSit.after wardensBegin
    let votes : List (Ident × Vote) :=
      [(⟨3⟩, .pass), (⟨2⟩, .pass), (⟨3⟩, .fail), (⟨2⟩, .abstain)]
    ∃ o t minutes, s.perform (.declare ⟨2⟩ ⟨7⟩) = .ok o ∧ o.session.BallotOpen ∧
      Firing.lastLimit (s.fired (.declare ⟨2⟩ ⟨7⟩) o.answer) = some [⟨1⟩] ∧
      o.session.sit (casting votes) = .ok (t, minutes) ∧
      minutes.map (·.reply) = [.voted true, .voted false, .voted true, .voted true] ∧
      ⟨3⟩ ∈ t.floor.tally.failVoters ∧ ¬ ⟨3⟩ ∈ t.floor.tally.passVoters ∧
      ¬ ⟨2⟩ ∈ t.floor.tally.passVoters ∧
      ∃ again, o.session.sit (casting [(⟨2⟩, .abstain), (⟨3⟩, .pass), (⟨3⟩, .fail)]) =
        .ok (t, again) := by
  intro s votes
  obtain ⟨signals, called⟩ : ∃ signals, s.perform (.declare ⟨2⟩ ⟨7⟩) =
      .ok ⟨.declared .confirmed, s.after [.declare ⟨2⟩ ⟨7⟩], signals⟩ :=
    exists_perform_after s _ (by decide +kernel)
  have limit : Firing.lastLimit (s.fired (.declare ⟨2⟩ ⟨7⟩) (.declared .confirmed)) =
      some [⟨1⟩] := by decide +kernel
  -- Only wardens may vote, so Bede is not heard until he abstains.
  have heard : votes.filter (s.after [.declare ⟨2⟩ ⟨7⟩]).accepts =
      [(⟨3⟩, .pass), (⟨3⟩, .fail), (⟨2⟩, .abstain)] := by decide +kernel
  have ballot : (s.after [.declare ⟨2⟩ ⟨7⟩]).BallotOpen := by decide +kernel
  have known : ∀ v ∈ votes, (s.after [.declare ⟨2⟩ ⟨7⟩]).house.people.contains v.1 = true := by
    decide +kernel
  obtain ⟨t, sat, shows, reordered⟩ :=
    (reachable_wardensSit.after wardensBegin).last_vote_counts called
      (.inr (by rw [limit]; rfl)) ballot known
  dsimp only at sat shows reordered
  rw [heard] at shows
  have replies : (votes.map fun v => (s.after [.declare ⟨2⟩ ⟨7⟩]).accepts v) =
      [true, false, true, true] := by decide +kernel
  refine ⟨_, t, _, called, ballot, limit, sat, ?_, (shows.fail ⟨3⟩).2 rfl,
    fun supports => ?_, fun supports => ?_, reordered _ (by decide +kernel) ?_⟩
  · rw [List.map_map]
    exact congrArg (List.map Reply.voted) replies
  · cases (shows.pass ⟨3⟩).1 supports
  · cases (shows.pass ⟨2⟩).1 supports
  · intro person
    have heard' : [(⟨2⟩, .abstain), (⟨3⟩, .pass), (⟨3⟩, .fail)].filter
        (s.after [.declare ⟨2⟩ ⟨7⟩]).accepts =
          [(⟨2⟩, .abstain), (⟨3⟩, .pass), (⟨3⟩, .fail)] := by decide +kernel
    rw [heard, heard']
    by_cases bede : (⟨2⟩ : Ident) = person
    · subst bede
      rfl
    · simp [bede, List.filter_cons]

end Parliament.Session
