import Mathlib.Data.List.Chain
import Parliament.Proofs.Ballot
import Parliament.Proofs.Session.Orderly

/-! # The course of ballots

Phase, counter, record and the set of passed ballots are written at different moments of a ballot.
They still tell one story: that of a path through the links of the rule book. The part of a session
that tells it is its docket, and a call moves the docket on in one of six ways.
-/

namespace Parliament

/-- With this verdict on the ballot a link leads on to `next`. -/
def Rulebook.Leads (r : Rulebook) (ballot : Ident) (passed : Bool) (next : Ident) : Prop :=
  ∃ b, r.ballot? ballot = some b ∧ ∃ l ∈ (b.consequence passed).links, l.target = .ballot next

namespace Phase

/-- The ballot that is open. -/
def live? : Phase → Option Ident
  | ballot id _ => some id
  | _ => none

/-- The ballot that is open or awaited. -/
def upcoming? : Phase → Option Ident
  | ballot id _ => some id
  | awaitingBallot next => next
  | _ => none

/-- No ballot has been started. -/
def isEarly : Phase → Bool
  | uninitialized | initialized | awaitingBallot none => true
  | _ => false

theorem live?_eq_some_iff {p : Phase} {id : Ident} :
    p.live? = some id ↔ ∃ stage, p = .ballot id stage := by
  cases p <;> simp [live?]

theorem upcoming?_eq_some_iff {p : Phase} {id : Ident} :
    p.upcoming? = some id ↔
      p = .awaitingBallot (some id) ∨ ∃ stage, p = .ballot id stage := by
  cases p <;> simp [upcoming?]

end Phase

/-! ## Dockets -/

/-- What a session keeps about its ballots. -/
structure Docket where
  phase : Phase
  currentBallot : Option Ident
  onFloor : Ident
  passedBallots : IdSet
  started : UInt32
  history : List BallotRecord

namespace Docket

/-- What is kept agrees, and the record is a path through the links. -/
structure Kept (r : Rulebook) (d : Docket) : Prop where
  current : d.currentBallot = d.phase.live?
  onFloor : ∀ id ∈ d.phase.live?, d.onFloor = id
  started : d.started.toNat = d.history.length + d.phase.live?.toList.length
  passed : ∀ id, id ∈ d.passedBallots ↔ ∃ a ∈ d.history, a.ballot = id ∧ a.passed = true
  path : d.history.IsChain fun a b => r.Leads a.ballot a.passed b.ballot
  ahead : ∀ a ∈ d.history.getLast?, ∀ id ∈ d.phase.upcoming?, r.Leads a.ballot a.passed id
  early : d.phase.isEarly = true → d.history = []

/-- How a call may move a docket on. -/
inductive Step (r : Rulebook) : Docket → Docket → Prop
  | stay (d : Docket) : Step r d d
  | register (d : Docket) (phase : d.phase = .uninitialized) :
    Step r d { d with phase := .initialized }
  | setUp (d : Docket) (phase : d.phase = .initialized) :
    Step r d { d with phase := .awaitingBallot none }
  | start (d : Docket) (id : Ident) {next : Option Ident} (phase : d.phase = .awaitingBallot next)
    (awaited : next = none ∨ next = some id) {started : UInt32}
    (counted : started.toNat = d.started.toNat + 1) :
    Step r d { d with
      phase := .ballot id .declaring
      currentBallot := some id
      onFloor := id
      started := started }
  | closeDeclarations (d : Docket) {id : Ident} {stage : Stage}
    (phase : d.phase = .ballot id stage) :
    Step r d { d with phase := .ballot id .deciding }
  | finish (d : Docket) (a : BallotRecord) {stage : Stage}
    (phase : d.phase = .ballot a.ballot stage) (next : Option Ident)
    (linked : ∀ id ∈ next, r.Leads a.ballot a.passed id) :
    Step r d { d with
      phase := if next.isSome then .awaitingBallot next else .terminal
      currentBallot := none
      passedBallots := if a.passed then d.passedBallots.insert a.ballot else d.passedBallots
      history := d.history ++ [a] }

theorem Kept.withPhase {r : Rulebook} {d : Docket} (k : d.Kept r) {p : Phase}
    (live : p.live? = d.phase.live?) (upcoming : p.upcoming? = d.phase.upcoming?)
    (early : p.isEarly = true → d.phase.isEarly = true) : Kept r { d with phase := p } := by
  refine ⟨?_, ?_, ?_, k.passed, k.path, ?_, fun h => k.early (early h)⟩ <;> dsimp only
  · rw [live]
    exact k.current
  · rw [live]
    exact k.onFloor
  · rw [live]
    exact k.started
  · rw [upcoming]
    exact k.ahead

theorem Step.kept {r : Rulebook} {d e : Docket} (h : Step r d e) (k : d.Kept r) : e.Kept r := by
  cases h with
  | stay => exact k
  | register phase | setUp phase =>
    exact k.withPhase (by rw [phase]; rfl) (by rw [phase]; rfl) fun _ => by rw [phase]; rfl
  | closeDeclarations phase =>
    exact k.withPhase (by rw [phase]; rfl) (by rw [phase]; rfl) (by simp [Phase.isEarly])
  | @start id next phase awaited started counted =>
    have before : d.started.toNat = d.history.length := by
      have := k.started
      rw [phase] at this
      exact this
    refine ⟨rfl, ?_, ?_, k.passed, k.path, ?_, by simp [Phase.isEarly]⟩
    · rintro _ ⟨⟩
      rfl
    · rw [counted, before]
      rfl
    · rintro a last _ ⟨⟩
      rcases awaited with rfl | rfl
      · -- Nothing is chosen before the first ballot only, and then there is no last record.
        have nothing : d.history = [] := k.early (by rw [phase]; rfl)
        simp [nothing] at last
      · exact k.ahead a last id (by rw [phase]; rfl)
  | @finish a stage phase next linked =>
    have ended : (if next.isSome then Phase.awaitingBallot next else .terminal).live? = none := by
      split <;> rfl
    have before : d.started.toNat = d.history.length + 1 := by
      have := k.started
      rw [phase] at this
      exact this
    refine ⟨ended.symm, ?_, ?_, ?_, ?_, ?_, ?_⟩
    · rw [ended]
      simp
    · rw [ended, before]
      simp
    · intro id
      simp only [List.mem_append, List.mem_singleton, or_and_right, exists_or, exists_eq_left,
        ← k.passed]
      cases a.passed with
      | true => simp [eq_comm, or_comm]
      | false => simp
    · rw [List.isChain_append]
      refine ⟨k.path, List.isChain_singleton a, ?_⟩
      rintro b last _ ⟨⟩
      exact k.ahead b last a.ballot (by rw [phase]; rfl)
    · intro b last id there
      rw [List.getLast?_concat] at last
      obtain rfl := Option.mem_some_iff.1 last
      cases next with
      | none => simp [Phase.upcoming?] at there
      | some next => exact linked id there
    · cases next <;> simp [Phase.isEarly]

end Docket

namespace Session

variable {γ α : Type}

def docket (s : Session γ α) : Docket where
  phase := s.phase
  currentBallot := s.house.currentBallot
  onFloor := s.floor.ballot
  passedBallots := s.house.passedBallots
  started := s.ballotsStarted
  history := s.history

def Frame.docket (f : Frame α) : Docket where
  phase := f.phase
  currentBallot := f.currentBallot
  onFloor := f.ballot
  passedBallots := f.passedBallots
  started := f.ballotsStarted
  history := f.history

theorem length_live? (s : Session γ α) :
    s.phase.live?.toList.length = if s.BallotOpen then 1 else 0 := by
  split
  next ballot =>
    obtain ⟨id, stage, phase⟩ := ballot
    rw [phase]
    rfl
  next closed =>
    cases live : s.phase.live? with
    | none => rfl
    | some id =>
      obtain ⟨stage, phase⟩ := Phase.live?_eq_some_iff.1 live
      exact absurd ⟨id, stage, phase⟩ closed

theorem Bundle.docket_eq {scope : Scope} {p q : Session γ α × Changes} (h : Bundle scope p q) :
    q.1.docket = p.1.docket :=
  congrArg Frame.docket h.frame_eq

theorem Settling.docket_eq [ReturningOfficer α] {s t : Session γ α} {c : Changes}
    {signals : List Signal} (h : Settling s c t signals) : t.docket = s.docket := by
  obtain ⟨_, _, _, _, rfl⟩ := h.eq_with
  rfl

@[simp] theorem docket_recorded (s : Session γ α) (a : BallotRecord) :
    (s.recorded a).docket = { s.docket with
      passedBallots :=
        if a.passed then s.docket.passedBallots.insert a.ballot else s.docket.passedBallots
      history := s.docket.history ++ [a] } := rfl

@[simp] theorem docket_closed (s : Session γ α) (next : Option Ident) :
    (s.closed next).docket = { s.docket with
      phase := if next.isSome then .awaitingBallot next else .terminal
      currentBallot := none } := rfl

variable [Chance γ] [ReturningOfficer α]

theorem Performed.docket_step {s : Session γ α} {c : Call} {o : Outcome γ α Reply}
    (h : Performed s c o) : Docket.Step s.rulebook s.docket o.session.docket := by
  cases h with
  | register phase => exact .register s.docket phase
  | refuse | castVote | refuseVote | turnDown => exact .stay s.docket
  | closeDeclarations phase => exact .closeDeclarations s.docket phase
  | @setUp t u c signals phase effects settling =>
    have same : u.docket = s.docket :=
      settling.docket_eq.trans (applyProcedureEffects_bundle effects).docket_eq
    change Docket.Step s.rulebook s.docket { u.docket with phase := .awaitingBallot none }
    rw [same]
    exact .setUp s.docket phase
  | startBallot phase awaited _ counted effects settling =>
    rw [settling.docket_eq, (applyProcedureEffects_bundle effects).docket_eq]
    exact .start s.docket _ phase awaited (Count.add_eq_ok.1 counted)
  | miss _ _ settling =>
    rw [settling.docket_eq]
    exact .stay s.docket
  | declare _ _ effects settling =>
    rw [settling.docket_eq, (carryOut_bundle effects).docket_eq]
    exact .stay s.docket
  | @endBallot passed id _ b t u _ summary next _ phase listed effects _ settling linked =>
    have same : t.docket = s.docket := (applyBallotEffects_bundle .setup effects).docket_eq
    -- Here the docket grows, and the next ballot is chosen behind all effects.
    rw [docket_closed, settling.docket_eq, docket_recorded, same]
    refine .finish s.docket ⟨id, passed, summary, t.floor.declared⟩ phase next ?_
    rintro followed ⟨⟩
    exact ⟨b, listed, Link.exists_of_follow linked⟩

theorem Reachable.kept {s : Session γ α} (h : Reachable s) : s.docket.Kept s.rulebook := by
  induction h with
  | start hs =>
    obtain ⟨-, rfl⟩ := start_eq_ok hs
    exact ⟨rfl, by simp [opening, docket, Phase.live?], rfl,
      by simp [opening, docket, House.ofRulebook], List.isChain_nil, by simp [opening, docket],
      fun _ => rfl⟩
  | perform _ performed ih =>
    have step := performed_of_perform performed
    rw [step.rulebook_eq]
    exact step.docket_step.kept ih

theorem exists_fault_of_terminal {s : Session γ α} (ended : s.phase = .terminal) (c : Call) :
    ∃ fault, s.perform c = .error fault := by
  cases performed : s.perform c with
  | error fault => exact ⟨fault, rfl⟩
  | ok o =>
    have moves := (performed_of_perform performed).moves
    rw [ended] at moves
    cases moves

/-- The ballots of a session follow the links, what is written down about them agrees, and where the
links end so does the session. -/
theorem Reachable.follows_links {s : Session γ α} (h : Reachable s) :
    (∀ id, s.house.currentBallot = some id ↔ ∃ stage, s.phase = .ballot id stage) ∧
    (∀ id stage, s.phase = .ballot id stage → s.floor.ballot = id) ∧
    s.ballotsStarted.toNat = s.history.length + (if s.BallotOpen then 1 else 0) ∧
    (∀ id, id ∈ s.house.passedBallots ↔ ∃ a ∈ s.history, a.ballot = id ∧ a.passed = true) ∧
    (s.history.IsChain fun a b => s.rulebook.Leads a.ballot a.passed b.ballot) ∧
    (∀ a ∈ s.history.getLast?, ∀ id,
      (s.phase = .awaitingBallot (some id) ∨ ∃ stage, s.phase = .ballot id stage) →
        s.rulebook.Leads a.ballot a.passed id) ∧
    (s.phase = .awaitingBallot none → s.history = []) ∧
    (s.phase = .terminal → ∀ c, ∃ fault, s.perform c = .error fault) := by
  have kept := h.kept
  refine ⟨fun id => ?_, fun id stage phase => ?_, ?_, kept.passed, kept.path,
    fun a last id there => ?_, fun phase => ?_, exists_fault_of_terminal⟩
  · rw [← Phase.live?_eq_some_iff]
    exact kept.current ▸ Iff.rfl
  · exact kept.onFloor id (Phase.live?_eq_some_iff.2 ⟨stage, phase⟩)
  · rw [← s.length_live?]
    exact kept.started
  · exact kept.ahead a last id (Phase.upcoming?_eq_some_iff.2 there)
  · exact kept.early (by rw [docket, phase]; rfl)

theorem follows_links_parish :
    let s := parishMeets.after parishEvening
    s.phase = .ballot ⟨1⟩ .declaring ∧ s.history.length = 1 ∧
      s.ballotsStarted.toNat = s.history.length + (if s.BallotOpen then 1 else 0) ∧
      ∀ a ∈ s.history.getLast?, s.rulebook.Leads a.ballot a.passed ⟨1⟩ := by
  have phase : (parishMeets.after parishEvening).phase = .ballot ⟨1⟩ .declaring := by
    decide +kernel
  obtain ⟨-, -, started, -, -, ahead, -⟩ :=
    (reachable_parishMeets.after parishEvening).follows_links
  exact ⟨phase, by decide +kernel, started, fun a last => ahead a last ⟨1⟩ (.inr ⟨_, phase⟩)⟩

end Session

end Parliament
