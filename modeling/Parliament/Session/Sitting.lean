import Parliament.Session.Calls

/-! # Sittings

A sitting is a list of calls that all go through. The sessions that are of interest are those that a
sitting leads to, from a session that has just begun.
-/

namespace Parliament.Session

variable {γ α : Type}

/-! ## Sittings -/

structure Minute where
  call : Call
  reply : Reply
  signals : List Signal

/-- The session behind the calls, and the minutes, one for each call. -/
def sit [Chance γ] [ReturningOfficer α] (s : Session γ α) :
    List Call → Except Fault (Session γ α × List Minute)
  | [] => .ok (s, [])
  | c :: calls =>
    match s.perform c with
    | .error e => .error e
    | .ok o =>
      match o.session.sit calls with
      | .error e => .error e
      | .ok (t, minutes) => .ok (t, ⟨c, o.answer, o.signals⟩ :: minutes)

inductive Reachable [Chance γ] [ReturningOfficer α] : Session γ α → Prop
  | start {r : Rulebook} {chance : γ} {officer : α} {s : Session γ α}
    (h : start r chance officer = .ok s) : Reachable s
  | perform {s : Session γ α} {c : Call} {o : Outcome γ α Reply}
    (h : Reachable s) (k : s.perform c = .ok o) : Reachable o.session

theorem Reachable.sit [Chance γ] [ReturningOfficer α] {s t : Session γ α} {calls : List Call}
    {minutes : List Minute} (h : Reachable s) (k : s.sit calls = .ok (t, minutes)) :
    Reachable t := by
  induction calls generalizing s minutes with
  | nil =>
    simp only [Session.sit, Except.ok.injEq, Prod.mk.injEq] at k
    exact k.1 ▸ h
  | cons c calls ih =>
    simp only [Session.sit] at k
    split at k
    · simp at k
    next o ho =>
      split at k
      · simp at k
      next t' minutes' hs =>
        simp only [Except.ok.injEq, Prod.mk.injEq] at k
        obtain ⟨rfl, -⟩ := k
        exact ih (h.perform ho) hs

/-! ## What the host sees to -/

def BallotOpen (s : Session γ α) : Prop := ∃ id stage, s.phase = .ballot id stage

/-- The ballot that is awaited is the one given, or none in particular is. -/
def Awaits (s : Session γ α) (id : Ident) : Prop :=
  s.phase = .awaitingBallot none ∨ s.phase = .awaitingBallot (some id)

instance (s : Session γ α) : Decidable s.BallotOpen :=
  match h : s.phase with
  | .ballot id stage => .isTrue ⟨id, stage, h⟩
  | .uninitialized | .initialized | .awaitingBallot _ | .terminal =>
    .isFalse fun ⟨_, _, k⟩ => by simp [h] at k

instance (s : Session γ α) (id : Ident) : Decidable (s.Awaits id) :=
  inferInstanceAs (Decidable (_ ∨ _))

/-- Before it makes a call the host knows the phase and the names, and has asked whether a fixed
price can be paid. -/
def InOrder (s : Session γ α) : Call → Prop
  | .register _ => s.phase = .uninitialized
  | .setUp => s.phase = .initialized
  | .startBallot id => s.Awaits id ∧ (s.rulebook.ballot? id).isSome = true
  | .castVote person _ => s.BallotOpen ∧ s.house.people.contains person = true
  | .closeDeclarations => s.BallotOpen
  | .declare person procedure =>
    s.BallotOpen ∧ s.house.people.contains person = true ∧
      (∃ p, s.rulebook.procedure? procedure = some p ∧ p.kind.isDeclared = true) ∧
      s.canAfford person procedure = .ok true
  | .endBallot _ => s.BallotOpen

instance (s : Session γ α) : (c : Call) → Decidable (s.InOrder c)
  | .register _ => inferInstanceAs (Decidable (s.phase = .uninitialized))
  | .setUp => inferInstanceAs (Decidable (s.phase = .initialized))
  | .startBallot _ | .castVote _ _ => inferInstanceAs (Decidable (_ ∧ _))
  | .closeDeclarations | .endBallot _ => inferInstanceAs (Decidable s.BallotOpen)
  | .declare person procedure =>
    have declarable : Decidable (∃ p, s.rulebook.procedure? procedure = some p ∧
        p.kind.isDeclared = true) :=
      match h : s.rulebook.procedure? procedure with
      | some p => decidable_of_iff (p.kind.isDeclared = true) (by simp)
      | none => .isFalse (by simp)
    have affordable : Decidable (s.canAfford person procedure = .ok true) :=
      match h : s.canAfford person procedure with
      | .ok true => .isTrue rfl
      | .ok false => .isFalse (by simp)
      | .error _ => .isFalse (by simp)
    inferInstanceAs (Decidable (_ ∧ _ ∧ _ ∧ _))

end Parliament.Session
