import Parliament.Proofs.Confirmation
import Parliament.Proofs.Session.Performed
import Parliament.Proofs.Session.Sitting
import Parliament.Proofs.Wording

/-! # Orderly sessions

What holds of every session that calls lead to: the rule book is a checked one, everybody who is
registered has a seat, balances are kept for the listed currencies and nothing waits between two
calls.
-/

namespace Parliament

/-! ## Seats -/

/-- The roles list the registered people and nobody else, everybody is a member, and only registered
people have an affiliation. -/
structure House.Seated (h : House) : Prop where
  keys : h.roles.keys = h.people.keys
  member : ∀ person held, h.roles.get? person = some held → Ident.member ∈ held
  affiliated : ∀ person, h.affiliations.contains person = true → h.people.contains person = true

namespace House

theorem seated_of_eq {h h' : House} (k : h.Seated) (people : h'.people = h.people)
    (roles : h'.roles = h.roles) (affiliations : h'.affiliations = h.affiliations) :
    h'.Seated := by
  refine ⟨?_, ?_, ?_⟩
  · rw [roles, people]
    exact k.keys
  · rw [roles]
    exact k.member
  · rw [affiliations, people]
    exact k.affiliated

theorem seated_seat {h : House} (k : h.Seated) (nobody : h.people = .empty)
    (roster : IdMap Person) : (h.seat roster).Seated := by
  refine ⟨IdMap.keys_mapEntries _ roster, ?_, ?_⟩
  · intro person held hp
    rw [seat, IdMap.get?_mapEntries, Option.map_eq_some_iff] at hp
    obtain ⟨_, _, rfl⟩ := hp
    simp
  · intro person hp
    -- Nobody is affiliated before there is anybody.
    have known := k.affiliated person hp
    rw [nobody] at known
    exact absurd known (IdMap.not_contains_empty person)

theorem seated_reassign (h : House) (a : Assignments) : (h.reassign a).Seated := by
  refine ⟨IdMap.keys_mapEntries _ h.people, ?_, ?_⟩
  · intro person held hp
    rw [reassign, IdMap.get?_mapEntries, Option.map_eq_some_iff] at hp
    obtain ⟨_, _, rfl⟩ := hp
    simp
  · intro person hp
    rw [reassign, IdMap.contains, IdMap.get?_filterKeys] at hp
    split at hp
    next known => exact known
    next => simp at hp

end House

namespace Session

variable {γ α : Type}

/-! ## Within a call -/

/-- Holds at every moment, also between the effects of a bundle. -/
structure Grounded (s : Session γ α) : Prop where
  checked : s.rulebook.check = .ok ()
  roleTable : s.roleTable = s.rulebook.roleTable
  seated : s.house.Seated
  balances : ∀ id, s.house.balances.contains id = s.rulebook.initialBalances.contains id

theorem Bundle.grounded {scope : Scope} {p q : Session γ α × Changes} (h : Bundle scope p q)
    (k : p.1.Grounded) : q.1.Grounded := by
  refine ⟨?_, ?_, ?_, ?_⟩
  · rw [h.rulebook_eq]
    exact k.checked
  · rw [h.roleTable_eq, h.rulebook_eq]
    exact k.roleTable
  · exact House.seated_of_eq k.seated h.people_eq h.roles_eq h.affiliations_eq
  · intro id
    rw [h.contains_balances, h.rulebook_eq]
    exact k.balances id

theorem Settling.grounded [ReturningOfficer α] {s t : Session γ α} {c : Changes}
    {signals : List Signal} (h : Settling s c t signals) (k : s.Grounded) : t.Grounded := by
  cases h with
  | quiet => exact k
  | amended => exact ⟨k.checked, k.roleTable, k.seated, k.balances⟩
  | voted => exact ⟨k.checked, k.roleTable, House.seated_reassign _ _, k.balances⟩

theorem Settling.pendingElections [ReturningOfficer α] {s t : Session γ α} {c : Changes}
    {signals : List Signal} (h : Settling s c t signals) : t.pendingElections = [] := by
  cases h with
  | quiet due => exact due
  | amended due => exact due
  | voted => rfl

theorem Tried.grounded [Chance γ] {s : Session γ α} {person procedure : Ident} {p : Procedure}
    {paid : Confirmation.Settled γ} (h : s.Tried person procedure p paid) (k : s.Grounded) :
    (s.paidBy paid).Grounded := by
  obtain ⟨confirmation, _, _, _, live, _, _, _, settled⟩ := h
  have charged := Confirmation.charged_settle settled
  refine ⟨k.checked, k.roleTable, House.seated_of_eq k.seated rfl rfl rfl, fun id => ?_⟩
  exact (charged.contains id).trans (k.balances id)

/-! ### Sessions that differ where nothing is looked at -/

section

variable {s : Session γ α}

theorem Grounded.clearFloor (h : s.Grounded) (started : UInt32) (id : Ident) :
    (s.clearFloor started id).Grounded :=
  ⟨h.checked, h.roleTable, House.seated_of_eq h.seated rfl rfl rfl, h.balances⟩

theorem Grounded.listing (h : s.Grounded) (p : Procedure) : (s.listing p).Grounded :=
  ⟨h.checked, h.roleTable, h.seated, h.balances⟩

theorem Grounded.recorded (h : s.Grounded) (r : BallotRecord) : (s.recorded r).Grounded :=
  ⟨h.checked, h.roleTable, House.seated_of_eq h.seated rfl rfl rfl, h.balances⟩

theorem Grounded.closed (h : s.Grounded) (next : Option Ident) : (s.closed next).Grounded :=
  ⟨h.checked, h.roleTable, House.seated_of_eq h.seated rfl rfl rfl, h.balances⟩

end

/-! ## Phases -/

/-- How a call may move a session on. -/
inductive Moves (r : Rulebook) : Phase → Phase → Prop
  | refuse : Moves r .uninitialized .uninitialized
  | register : Moves r .uninitialized .initialized
  | setUp : Moves r .initialized (.awaitingBallot none)
  | startBallot {next : Option Ident} {id : Ident} (awaited : next = none ∨ next = some id)
    (listed : (r.ballot? id).isSome = true) :
    Moves r (.awaitingBallot next) (.ballot id .declaring)
  | sit {id : Ident} {stage : Stage} : Moves r (.ballot id stage) (.ballot id stage)
  | closeDeclarations {id : Ident} {stage : Stage} :
    Moves r (.ballot id stage) (.ballot id .deciding)
  | goOn {id : Ident} {stage : Stage} (next : Ident) :
    Moves r (.ballot id stage) (.awaitingBallot (some next))
  | finish {id : Ident} {stage : Stage} : Moves r (.ballot id stage) .terminal

theorem Moves.early {r : Rulebook} {p q : Phase} (h : Moves r p q)
    (k : q = .uninitialized ∨ q = .initialized) : p = .uninitialized := by
  cases h with
  | refuse | register => rfl
  | _ => simp at k

theorem Moves.ballot {r : Rulebook} {p q : Phase} {id : Ident} {stage : Stage} (h : Moves r p q)
    (k : q = .ballot id stage) :
    (∃ stage, p = .ballot id stage) ∨ (r.ballot? id).isSome = true := by
  cases h with
  | startBallot _ listed =>
    obtain ⟨rfl, -⟩ := by simpa using k
    exact .inr listed
  | sit => exact .inl ⟨stage, k⟩
  | closeDeclarations =>
    obtain ⟨rfl, -⟩ := by simpa using k
    exact .inl ⟨_, rfl⟩
  | _ => simp at k

/-! ## Between two calls -/

structure Orderly (s : Session γ α) : Prop extends Grounded s where
  settled : s.pendingElections = []
  nobody : s.phase = .uninitialized → s.house.people = .empty
  listed : ∀ id stage, s.phase = .ballot id stage → (s.rulebook.ballot? id).isSome = true

/-- The session with which a rule book that passes begins. -/
def opening (r : Rulebook) (chance : γ) (officer : α) : Session γ α where
  rulebook := r
  roleTable := r.roleTable
  house := .ofRulebook r
  floor := {}
  phase := .uninitialized
  permissions := .empty
  standingOverrides := []
  ballotOverrides := []
  franchise := []
  pendingElections := []
  ballotsStarted := 0
  history := []
  chance := chance
  officer := officer

theorem start_eq_ok {r : Rulebook} {chance : γ} {officer : α} {s : Session γ α}
    (h : start r chance officer = .ok s) : r.check = .ok () ∧ s = opening r chance officer := by
  obtain ⟨⟨⟩, checked, h⟩ := bind_eq_ok.1 h
  exact ⟨checked, (pure_eq_ok.1 h).symm⟩

theorem start_of_check {r : Rulebook} (h : r.check = .ok ()) (chance : γ) (officer : α) :
    start r chance officer = .ok (opening r chance officer) := by
  simp only [start, h]
  rfl

theorem orderly_opening {r : Rulebook} {chance : γ} {officer : α} (h : r.check = .ok ()) :
    (opening r chance officer).Orderly := by
  refine ⟨⟨h, rfl, ⟨rfl, ?_, ?_⟩, fun _ => rfl⟩, rfl, fun _ => rfl, ?_⟩
  · intro person held hp
    exact absurd hp (IdMap.get?_empty_ne_some person held)
  · intro person hp
    exact absurd hp (IdMap.not_contains_empty person)
  · intro id stage hp
    simp [opening] at hp

variable [Chance γ] [ReturningOfficer α]

theorem Performed.grounded {s : Session γ α} {c : Call} {o : Outcome γ α Reply}
    (h : Performed s c o) (k : s.Orderly) : o.session.Grounded := by
  have grounded := k.toGrounded
  cases h with
  | register phase _ =>
    exact ⟨k.checked, k.roleTable, House.seated_seat k.seated (k.nobody phase) _, k.balances⟩
  | refuse | refuseVote | turnDown => exact grounded
  | castVote | closeDeclarations => exact ⟨k.checked, k.roleTable, k.seated, k.balances⟩
  | setUp _ effects settling =>
    have u := settling.grounded ((applyProcedureEffects_bundle effects).grounded grounded)
    exact ⟨u.checked, u.roleTable, u.seated, u.balances⟩
  | startBallot _ _ _ _ effects settling =>
    have t := (applyProcedureEffects_bundle effects).grounded (grounded.clearFloor _ _)
    exact settling.grounded t
  | miss tried _ settling => exact settling.grounded (tried.grounded grounded)
  | @declare _ _ p _ _ _ _ _ tried _ effects settling =>
    have t := (carryOut_bundle effects).grounded ((tried.grounded grounded).listing p)
    exact settling.grounded t
  | endBallot _ _ effects _ settling =>
    have t := (applyBallotEffects_bundle .setup effects).grounded grounded
    exact (settling.grounded (t.recorded _)).closed _

theorem Performed.rulebook_eq {s : Session γ α} {c : Call} {o : Outcome γ α Reply}
    (h : Performed s c o) : o.session.rulebook = s.rulebook := by
  cases h with
  | setUp _ effects settling =>
    exact settling.rulebook_eq.trans (applyProcedureEffects_bundle effects).rulebook_eq
  | startBallot _ _ _ _ effects settling =>
    exact settling.rulebook_eq.trans (applyProcedureEffects_bundle effects).rulebook_eq
  | miss _ _ settling => exact settling.rulebook_eq
  | declare _ _ effects settling =>
    exact settling.rulebook_eq.trans (carryOut_bundle effects).rulebook_eq
  | endBallot _ _ effects _ settling =>
    exact settling.rulebook_eq.trans (applyBallotEffects_bundle .setup effects).rulebook_eq
  | _ => rfl

theorem Performed.moves {s : Session γ α} {c : Call} {o : Outcome γ α Reply}
    (h : Performed s c o) : Moves s.rulebook s.phase o.session.phase := by
  cases h with
  | register phase =>
    rw [phase]
    exact .register
  | refuse phase =>
    simp only [phase]
    exact .refuse
  | setUp phase =>
    rw [phase]
    exact .setUp
  | startBallot phase awaited listed _ effects settling =>
    rw [phase, settling.phase_eq, (applyProcedureEffects_bundle effects).phase_eq]
    exact .startBallot awaited listed
  | castVote phase | refuseVote phase =>
    simp only [phase]
    exact .sit
  | closeDeclarations phase =>
    rw [phase]
    exact .closeDeclarations
  | turnDown proposal =>
    simp only [proposal.phase]
    exact .sit
  | miss tried _ settling =>
    obtain ⟨id, stage, phase⟩ := tried.ballotOpen
    rw [settling.phase_eq, phase_paidBy, phase]
    exact .sit
  | declare tried _ effects settling =>
    obtain ⟨id, stage, phase⟩ := tried.ballotOpen
    rw [settling.phase_eq, (carryOut_bundle effects).phase_eq, phase_listing, phase_paidBy, phase]
    exact .sit
  | @endBallot _ _ _ _ _ _ _ _ next _ phase =>
    rw [phase]
    cases next with
    | some next => exact .goOn next
    | none => exact .finish

theorem phase_startBallot {s : Session γ α} {id : Ident} {o : Outcome γ α Reply}
    (h : s.perform (.startBallot id) = .ok o) : o.session.phase = .ballot id .declaring := by
  cases performed_startBallot h with
  | startBallot _ _ _ _ effects settling =>
    rw [settling.phase_eq, (applyProcedureEffects_bundle effects).phase_eq]
    rfl

theorem Performed.registration {s : Session γ α} {c : Call} {o : Outcome γ α Reply}
    (h : Performed s c o) (phase : s.phase = .uninitialized) :
    (∃ people roster, c = .register people ∧ House.register .empty people = .ok roster ∧
      o = ⟨.done, { s with house := s.house.seat roster, phase := .initialized }, []⟩) ∨
    ∃ people flaw, c = .register people ∧ o = ⟨.refused flaw, s, []⟩ := by
  cases h with
  | register _ seated => exact .inl ⟨_, _, rfl, seated, rfl⟩
  | refuse => exact .inr ⟨_, _, rfl, rfl⟩
  | turnDown proposal => simp [proposal.phase] at phase
  | miss tried | declare tried =>
    obtain ⟨id, stage, k⟩ := tried.ballotOpen
    simp [k] at phase
  | setUp k | startBallot k | castVote k | refuseVote k | closeDeclarations k | endBallot k =>
    simp [k] at phase

theorem Performed.of_uninitialized {s : Session γ α} {c : Call} {o : Outcome γ α Reply}
    (h : Performed s c o) (phase : s.phase = .uninitialized) :
    o.signals = [] ∧ (o.session.phase = .initialized ∨ o.session = s) := by
  rcases h.registration phase with ⟨people, roster, -, -, rfl⟩ | ⟨people, flaw, -, rfl⟩
  · exact ⟨rfl, .inl rfl⟩
  · exact ⟨rfl, .inr rfl⟩

theorem Performed.settled {s : Session γ α} {c : Call} {o : Outcome γ α Reply}
    (h : Performed s c o) (k : s.pendingElections = []) : o.session.pendingElections = [] := by
  cases h with
  | setUp _ _ settling => exact settling.pendingElections
  | startBallot _ _ _ _ _ settling => exact settling.pendingElections
  | miss _ _ settling => exact settling.pendingElections
  | declare _ _ _ settling => exact settling.pendingElections
  | endBallot _ _ _ _ settling => exact settling.pendingElections
  | _ => exact k

theorem Performed.orderly {s : Session γ α} {c : Call} {o : Outcome γ α Reply}
    (h : Performed s c o) (k : s.Orderly) : o.session.Orderly := by
  refine ⟨h.grounded k, h.settled k.settled, fun phase => ?_, fun id stage phase => ?_⟩
  · have before := h.moves.early (.inl phase)
    rcases (h.of_uninitialized before).2 with seated | same
    · simp [seated] at phase
    · rw [same]
      exact k.nobody before
  · rw [h.rulebook_eq]
    rcases h.moves.ballot phase with ⟨stage, before⟩ | listed
    · exact k.listed id stage before
    · exact listed

theorem Reachable.orderly {s : Session γ α} (h : Reachable s) : s.Orderly := by
  induction h with
  | start hs =>
    obtain ⟨checked, rfl⟩ := start_eq_ok hs
    exact orderly_opening checked
  | perform _ performed ih => exact (performed_of_perform performed).orderly ih

/-! ## Behind a list of calls -/

theorem rulebook_eq_of_sit {s t : Session γ α} {calls : List Call} {minutes : List Minute}
    (sat : s.sit calls = .ok (t, minutes)) : t.rulebook = s.rulebook := by
  refine sit_induction (P := fun _ u _ => u.rulebook = s.rulebook) rfl ?_ sat
  intro calls u minutes c o _ ih performed
  rw [(performed_of_perform performed).rulebook_eq, ih]

/-- The session behind the calls; if one of them does not go through, the session as it was. -/
def after (s : Session γ α) (calls : List Call) : Session γ α :=
  match s.sit calls with
  | .ok (t, _) => t
  | .error _ => s

theorem rulebook_after (s : Session γ α) (calls : List Call) :
    (s.after calls).rulebook = s.rulebook := by
  unfold Session.after
  split
  next t minutes sat => exact rulebook_eq_of_sit sat
  next => rfl

theorem exists_sit_after (s : Session γ α) (calls : List Call)
    (sits : (s.sit calls).isOk = true) :
    ∃ minutes, s.sit calls = .ok (s.after calls, minutes) := by
  unfold Session.after
  split
  next t minutes sat => exact ⟨minutes, sat⟩
  next e failed => simp [failed, Except.isOk, Except.toBool] at sits

theorem exists_perform_after (s : Session γ α) (c : Call) {reply : Reply}
    (answered : (s.perform c).map (·.answer) = .ok reply) :
    ∃ signals, s.perform c = .ok ⟨reply, s.after [c], signals⟩ := by
  obtain ⟨o, performed, rfl⟩ := map_eq_ok.1 answered
  have behind : s.after [c] = o.session := by simp [Session.after, sit, performed]
  exact ⟨o.signals, by rw [behind, performed]⟩

theorem Reachable.after {s : Session γ α} (h : Reachable s) (calls : List Call) :
    Reachable (s.after calls) := by
  unfold Session.after
  split
  next t minutes sat => exact h.sit sat
  next => exact h

end Session

/-! ## A parish

A small rule book to try theorems on: one procedure of each kind, and a ballot that comes up again
as long as it passes.
-/

def parish : Rulebook where
  roles := [⟨⟨1⟩, "Warden", ⟨true, 2, true⟩⟩]
  parties := [⟨⟨1⟩, "Reform", false⟩]
  currencies := [⟨⟨1⟩, "Alms", .state, 5⟩]
  procedures := [
    ⟨⟨1⟩, "Franchise", .governmental, [⟨.permissionCanVote, [.member], 1, rfl⟩]⟩,
    ⟨⟨2⟩, "Tithe", .targeted [] true,
      [⟨.votePassBonus, [], 1, rfl⟩, ⟨.currencyAdd, [.stateFunds], 4, rfl⟩]⟩,
    ⟨⟨3⟩, "Petition", .declared (.currencyValue 2) [.member] [],
      [⟨.permissionVotes, [.member], 3, rfl⟩]⟩]
  ballots := [{
    id := ⟨1⟩
    name := "Roof"
    pass := { effects := [⟨.foundParty, [⟨1⟩], 0, rfl⟩], links := [⟨.always, .ballot ⟨1⟩⟩] }
    fail := { effects := [⟨.modifyCurrency, [⟨1⟩], -3, rfl⟩] }
    incident := false
    resolution := none }]

/-- Anybody may also declare, at no price, that members vote for two each, that two thirds are
needed and that two votes are against. -/
def proxyParish : Rulebook :=
  { parish with procedures := parish.procedures ++ [⟨⟨4⟩, "Proxy", .declared .always [] [],
      [⟨.permissionVotes, [.member], 2, rfl⟩, ⟨.supermajority, [], 0, rfl⟩,
        ⟨.voteFailBonus, [], 2, rfl⟩]⟩] }

/-- Wardens and parties are elected as a ballot starts. Anybody may also declare, at no price, that
only wardens may vote, that the same holds and wardens are elected, or that all members may vote and
wardens are elected. -/
def hustings : Rulebook :=
  { parish with procedures := parish.procedures ++ [
    ⟨⟨9⟩, "Vestry", .targeted [] true, [⟨.electAppointed, [⟨1⟩, .member], 0, rfl⟩]⟩,
    ⟨⟨5⟩, "Hustings", .targeted [] true,
      [⟨.electNominated, [⟨1⟩], 1, rfl⟩, ⟨.electParty, [], 0, rfl⟩]⟩,
    ⟨⟨7⟩, "Wardens only", .declared .always [] [], [⟨.ballotLimit, [⟨1⟩], 0, rfl⟩]⟩,
    ⟨⟨4⟩, "Closed doors", .declared .always [] [],
      [⟨.ballotLimit, [⟨1⟩], 0, rfl⟩, ⟨.electNominated, [⟨1⟩], 0, rfl⟩]⟩,
    ⟨⟨6⟩, "Open doors", .declared .always [] [],
      [⟨.permissionCanVote, [.member], 1, rfl⟩, ⟨.electNominated, [⟨1⟩], 0, rfl⟩]⟩] }

namespace Session

def parishMeets : Session DrawScript StatusQuo := opening parish (.constant 3) {}

/-- Two people vote on the roof, it passes, and they have begun to vote on it again. -/
def parishEvening : List Call := [
  .register [⟨⟨1⟩, "Ada"⟩, ⟨⟨2⟩, "Bede"⟩], .setUp, .startBallot ⟨1⟩, .castVote ⟨1⟩ .pass,
  .declare ⟨1⟩ ⟨3⟩, .endBallot true, .startBallot ⟨1⟩, .castVote ⟨2⟩ .fail]

/-- Ada is alone as the ballot is started. -/
def adaBegin : List Call := [.register [⟨⟨1⟩, "Ada"⟩], .setUp, .startBallot ⟨1⟩]

theorem check_of_english {r : Rulebook} (english : r.wording = .english)
    (entries : (do
      r.checkSpaces
      r.known.checkOwners none r.currencies
      r.procedures.forM r.known.checkProcedure
      r.ballots.forM r.known.checkBallot
      .ok ()) = .ok ()) : r.check = .ok () := by
  rw [Rulebook.check, english, Wording.check_english]
  exact entries

theorem check_parish : parish.check = .ok () := check_of_english rfl rfl

theorem start_parish : start parish (.constant 3) {} = .ok parishMeets :=
  start_of_check check_parish _ _

theorem reachable_parishMeets : Reachable parishMeets := .start start_parish

def proxyParishMeets : Session DrawScript StatusQuo := opening proxyParish (.constant 3) {}

theorem start_proxyParish : start proxyParish (.constant 3) {} = .ok proxyParishMeets :=
  start_of_check (check_of_english rfl rfl) _ _

theorem check_hustings : hustings.check = .ok () := check_of_english rfl rfl

end Session

end Parliament
