import Parliament.Proofs.Election
import Parliament.Proofs.Session.Effects
import Parliament.Proofs.Session.Firing
import Parliament.Proofs.Session.Orderly

/-! # Elections are handed over

An effect may ask for an election. All that were asked for in a call go to the returning officer
together, once, with the parties as the effects have left them; without any the officer is not
consulted.
-/

namespace Parliament

/-! ## What effects ask for -/

namespace Firing

def isElectoral : Firing → Bool
  | procedure _ e => e.kind.isElection
  | consequence e => decide (e.kind = .foundParty ∨ e.kind = .dissolveParty)

/-- The effect asks for this election. -/
inductive Asks : Firing → ElectionRequest → Prop
  | party {id : Ident} {e : ProcedureEffect} (kind : e.kind = .electParty) :
    Asks (.procedure id e) ⟨.party, some id, .member, e.targets, e.value != 0⟩
  | region {id : Ident} {e : ProcedureEffect} (kind : e.kind = .electRegion) :
    Asks (.procedure id e) ⟨.region, some id, .member, e.targets, e.value != 0⟩
  | nominated {id role : Ident} {filters : List Ident} {e : ProcedureEffect}
    (kind : e.kind = .electNominated) (targets : e.targets = role :: filters) :
    Asks (.procedure id e) ⟨.nominated, some id, role, filters, e.value != 0⟩
  | appointed {id role : Ident} {filters : List Ident} {e : ProcedureEffect}
    (kind : e.kind = .electAppointed) (targets : e.targets = role :: filters) :
    Asks (.procedure id e) ⟨.appointed, some id, role, filters, e.value != 0⟩
  | shuffle {e : BallotEffect} (kind : e.kind = .foundParty ∨ e.kind = .dissolveParty) :
    Asks (.consequence e) ⟨.party, none, .member, e.targets, true⟩

variable {f : Firing}

theorem asks_of_request? {r : ElectionRequest} (h : f.request? = some r) : Asks f r := by
  cases f with
  | procedure id e =>
    change e.request? id = some r at h
    unfold ProcedureEffect.request? at h
    dsimp only at h
    split at h
    case h_1 kind =>
      obtain rfl := Option.some.inj h
      exact .party kind
    case h_2 kind =>
      obtain rfl := Option.some.inj h
      exact .region kind
    case h_3 kind targets =>
      obtain rfl := Option.some.inj h
      exact .nominated kind targets
    case h_4 kind targets =>
      obtain rfl := Option.some.inj h
      exact .appointed kind targets
    case h_5 => simp at h
  | consequence e =>
    obtain ⟨kind, rfl⟩ := by simpa [request?] using h
    exact .shuffle kind

theorem exists_request (h : f.isElectoral = true) : ∃ r, f.request? = some r := by
  cases f with
  | procedure id e => exact e.exists_request h id
  | consequence e =>
    have kind : e.kind = .foundParty ∨ e.kind = .dissolveParty := by simpa [isElectoral] using h
    exact ⟨_, if_pos kind⟩

theorem request?_eq_none (h : f.isElectoral = false) : f.request? = none := by
  cases f with
  | procedure id e => exact e.request?_eq_none h id
  | consequence e => exact if_neg (by simpa [isElectoral] using h)

theorem forall₂_asks (l : List Firing) :
    List.Forall₂ Asks (l.filter isElectoral) (l.filterMap request?) := by
  induction l with
  | nil => exact .nil
  | cons f l ih =>
    cases electoral : f.isElectoral with
    | true =>
      obtain ⟨r, request⟩ := exists_request electoral
      rw [List.filter_cons_of_pos electoral, List.filterMap_cons_some request]
      exact .cons (asks_of_request? request) ih
    | false =>
      rw [List.filter_cons_of_neg (by simp [electoral]),
        List.filterMap_cons_none (request?_eq_none electoral)]
      exact ih

theorem filterMap_request?_eq_nil_iff {l : List Firing} :
    l.filterMap request? = [] ↔ ¬ ∃ f ∈ l, f.isElectoral = true := by
  rw [← List.length_eq_zero_iff, ← (forall₂_asks l).length_eq, List.length_eq_zero_iff,
    List.filter_eq_nil_iff, not_exists]
  exact forall_congr' fun f => not_and.symm

end Firing

/-! ## What the officer is asked -/

structure Consultation where
  batch : List ElectionRequest
  shown : Electorate
deriving DecidableEq

/-- The officer behind a consultation. -/
def ReturningOfficer.consult {α : Type} [ReturningOfficer α] (officer : α) (q : Consultation) :
    α :=
  (assign officer q.batch q.shown).2

/-- A clerk stands beside an officer and writes down all that the officer is asked. -/
structure Clerk (α : Type) where
  officer : α
  log : List Consultation

instance {α : Type} [ReturningOfficer α] : ReturningOfficer (Clerk α) where
  assign clerk requests e :=
    let (assignments, officer) := ReturningOfficer.assign clerk.officer requests e
    (assignments, ⟨officer, clerk.log ++ [⟨requests, e⟩]⟩)

theorem Clerk.log_foldl_consult {α : Type} [ReturningOfficer α] (clerk : Clerk α)
    (l : List Consultation) :
    (l.foldl ReturningOfficer.consult clerk).log = clerk.log ++ l := by
  induction l generalizing clerk with
  | nil => exact (List.append_nil _).symm
  | cons q l ih =>
    have written : (ReturningOfficer.consult clerk q).log = clerk.log ++ [q] := rfl
    rw [List.foldl_cons, ih, written, List.append_assoc, List.singleton_append]

/-- Effects that ask for no election leave the officer alone. -/
def Firing.consultations (l : List Firing) (e : Electorate) : List Consultation :=
  if l.filterMap request? = [] then []
  else [⟨ElectionRequest.arrange (l.filterMap request?), e.regrouped l⟩]

namespace Firing

variable {l : List Firing} {e : Electorate}

theorem consultations_ne_nil_iff : consultations l e ≠ [] ↔ ∃ f ∈ l, f.isElectoral = true := by
  rw [← not_iff_not, ← filterMap_request?_eq_nil_iff, not_not, consultations]
  split <;> simp [*]

theorem eq_of_mem_consultations {q : Consultation} (h : q ∈ consultations l e) :
    q = ⟨ElectionRequest.arrange (l.filterMap request?), e.regrouped l⟩ := by
  unfold consultations at h
  split at h
  next => cases h
  next => exact List.mem_singleton.1 h

end Firing

theorem House.assignments_reassign {h k : House} (people : k.people = h.people) (a : Assignments) :
    (k.reassign a).electorate.assignments = (h.reassign a).electorate.assignments := by
  unfold reassign electorate Electorate.assignments
  rw [people]

namespace Session

open ReturningOfficer

variable {γ α : Type}

/-- What the officer is asked when the session is settled. -/
def consultations (s : Session γ α) : List Consultation :=
  if s.pendingElections = [] then []
  else [⟨ElectionRequest.arrange s.pendingElections, s.house.electorate⟩]

theorem Prepared.consultations_eq {s t : Session γ α} {c : Call} {l : List Firing} {d : Changes}
    (h : Prepared s c l t d) (settled : s.pendingElections = []) :
    t.consultations = Firing.consultations l s.house.electorate := by
  have requests := h.requests
  rw [settled, List.nil_append] at requests
  rw [consultations, requests, h.electorate]
  rfl

variable [ReturningOfficer α]

section

variable {s t : Session γ α} {c : Changes} {signals : List Signal}

theorem Settling.officer_eq (h : Settling s c t signals) :
    t.officer = s.consultations.foldl consult s.officer := by
  unfold consultations
  cases h with
  | quiet due | amended due =>
    rw [if_pos due]
    rfl
  | voted due =>
    rw [if_neg due]
    rfl

theorem Settling.house_eq_of_mem (h : Settling s c t signals) {q : Consultation}
    (asked : q ∈ s.consultations) :
    t.house = s.house.reassign (assign s.officer q.batch q.shown).1 := by
  unfold consultations at asked
  cases h with
  | quiet due | amended due => simp [due] at asked
  | voted due =>
    rw [if_neg due, List.mem_singleton] at asked
    rw [asked]
    rfl

end

section

variable {s : Session γ α} {c : Call} {o : Outcome γ α Reply}

theorem Conducted.officer_eq (h : Conducted s c o) (settled : s.pendingElections = []) :
    o.session.officer =
      (Firing.consultations (s.fired c o.answer) s.house.electorate).foldl consult s.officer := by
  cases h with
  | still nothing _ officer =>
    rw [officer, nothing]
    rfl
  | bundle t u _ _ _ prepared settling closed =>
    rw [← prepared.consultations_eq settled, ← prepared.officer, ← settling.officer_eq]
    exact congrArg Bearing.officer closed

theorem Conducted.assignments_of_mem (h : Conducted s c o) (settled : s.pendingElections = [])
    {q : Consultation}
    (asked : q ∈ Firing.consultations (s.fired c o.answer) s.house.electorate) :
    o.session.house.electorate.assignments =
      (s.house.reassign (assign s.officer q.batch q.shown).1).electorate.assignments := by
  cases h with
  | still nothing =>
    rw [nothing] at asked
    cases asked
  | bundle t u _ _ _ prepared settling closed =>
    rw [← prepared.consultations_eq settled] at asked
    have people : t.house.people = s.house.people :=
      congrArg Electorate.people prepared.electorate
    calc
      o.session.house.electorate.assignments = u.house.electorate.assignments :=
        congrArg (·.electorate.assignments) closed
      _ = (t.house.reassign _).electorate.assignments := by rw [settling.house_eq_of_mem asked]
      _ = (s.house.reassign _).electorate.assignments := House.assignments_reassign people _
      _ = _ := by rw [prepared.officer]

theorem Conducted.assignments_eq (h : Conducted s c o) (settled : s.pendingElections = [])
    (fires : s.fired c o.answer ≠ [])
    (none : ∀ f ∈ s.fired c o.answer, f.isElectoral = false) :
    o.session.house.electorate.assignments = s.house.electorate.assignments := by
  cases h with
  | still nothing => exact absurd nothing fires
  | bundle t u _ _ _ prepared settling closed =>
    have quiet : t.pendingElections = [] := by
      rw [prepared.requests, settled, List.nil_append, Firing.filterMap_request?_eq_nil_iff]
      rintro ⟨f, fired, electoral⟩
      rw [none f fired] at electoral
      cases electoral
    -- Nothing is due, so no election is held.
    have left : u.house = t.house := by
      cases settling with
      | quiet => rfl
      | amended => rfl
      | voted due => exact absurd quiet due
    calc
      o.session.house.electorate.assignments = u.house.electorate.assignments :=
        congrArg (·.electorate.assignments) closed
      _ = t.house.electorate.assignments := by rw [left]
      _ = (s.house.electorate.regrouped _).assignments := by rw [prepared.electorate]
      _ = s.house.electorate.assignments := rfl

theorem Conducted.parties_eq (h : Conducted s c o) :
    o.session.house.activeParties =
      (s.fired c o.answer).foldl Firing.regroup s.house.activeParties := by
  cases h with
  | still nothing _ _ parties => simp [nothing, parties]
  | bundle t u _ _ _ prepared settling closed =>
    have left : u.house.activeParties = t.house.activeParties := by
      obtain ⟨_, _, _, _, rfl⟩ := settling.eq_with
      rfl
    calc
      o.session.house.activeParties = u.house.activeParties :=
        congrArg (·.electorate.activeParties) closed
      _ = t.house.activeParties := left
      _ = _ := congrArg Electorate.activeParties prepared.electorate

variable [Chance γ]

/-- What the effects of a call ask for goes to the officer once and in order, all of it and nothing
else, with the parties as the effects have left them; and what the officer answers takes effect. An
officer whose clerk stands by has it in writing (`Clerk.log_foldl_consult`). -/
theorem Reachable.elections_handed_over (h : Reachable s) (k : s.perform c = .ok o) :
    let fired := s.fired c o.answer
    ∃ consulted : List Consultation,
      o.session.officer = consulted.foldl consult s.officer ∧ consulted.length ≤ 1 ∧
      (consulted ≠ [] ↔ ∃ f ∈ fired, f.isElectoral = true) ∧
      ∀ q ∈ consulted,
        (∃ asked, List.Forall₂ Firing.Asks (fired.filter Firing.isElectoral) asked ∧
          ElectionRequest.Arranged asked q.batch) ∧
        q.shown = s.house.electorate.regrouped fired ∧
        q.shown.activeParties = o.session.house.activeParties ∧
        o.session.house.electorate.assignments =
          (s.house.reassign (assign s.officer q.batch q.shown).1).electorate.assignments := by
  intro fired
  have conducted := (performed_of_perform k).conducted
  have settled := h.orderly.settled
  refine ⟨_, conducted.officer_eq settled, ?_, ?_, fun q there => ?_⟩
  · unfold Firing.consultations
    split <;> simp
  · rw [Firing.consultations_ne_nil_iff]
  · have answered := conducted.assignments_of_mem settled there
    obtain rfl := Firing.eq_of_mem_consultations there
    exact ⟨⟨_, Firing.forall₂_asks fired, ElectionRequest.arranged_arrange _⟩, rfl,
      conducted.parties_eq.symm, answered⟩

end

def clerkSits : Session DrawScript (Clerk StatusQuo) := opening hustings (.constant 3) ⟨{}, []⟩

def hustingsBegin : List Call := [.register [⟨⟨2⟩, "Bede"⟩, ⟨⟨3⟩, "Cuthbert"⟩], .setUp]

theorem reachable_clerkSits : Reachable clerkSits := .start (start_of_check check_hustings _ _)

theorem elections_handed_over_hustings :
    let s := clerkSits.after hustingsBegin
    ∃ o, s.perform (.startBallot ⟨1⟩) = .ok o ∧ s.officer.log = [] ∧
      o.session.officer.log.map (·.batch.map fun r => (r.kind, r.procedure)) =
        [[(.party, some ⟨5⟩), (.nominated, some ⟨5⟩), (.appointed, some ⟨9⟩)]] ∧
      ∀ q ∈ o.session.officer.log, ∃ asked,
        List.Forall₂ Firing.Asks
          ((s.fired (.startBallot ⟨1⟩) o.answer).filter Firing.isElectoral) asked ∧
        ElectionRequest.Arranged asked q.batch := by
  intro s
  obtain ⟨signals, called⟩ : ∃ signals, s.perform (.startBallot ⟨1⟩) =
      .ok ⟨.done, s.after [.startBallot ⟨1⟩], signals⟩ :=
    exists_perform_after s _ (by decide +kernel)
  have fresh : (clerkSits.after hustingsBegin).officer.log = [] := by decide +kernel
  have batches : (s.after [.startBallot ⟨1⟩]).officer.log.map
      (·.batch.map fun r => (r.kind, r.procedure)) =
        [[(.party, some ⟨5⟩), (.nominated, some ⟨5⟩), (.appointed, some ⟨9⟩)]] := by
    decide +kernel
  obtain ⟨consulted, behind, -, -, each⟩ :=
    (reachable_clerkSits.after hustingsBegin).elections_handed_over called
  have log : (s.after [.startBallot ⟨1⟩]).officer.log = consulted := by
    rw [show (s.after [.startBallot ⟨1⟩]).officer = _ from behind, Clerk.log_foldl_consult, fresh,
      List.nil_append]
  exact ⟨_, called, fresh, batches, fun q there => (each q (log ▸ there)).1⟩

end Session

end Parliament
