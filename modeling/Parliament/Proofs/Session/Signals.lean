import Parliament.Proofs.Session.Elections

/-! # The signals of a call

There are six kinds of signals. A call sends at most one of each, always in the same order, and what
is sent follows from what took place in the call.
-/

namespace Parliament

/-! ## Kinds of signals -/

inductive SignalKind
  | ballotVoted
  | electionPreparing
  | electionCompleted
  | permissionsUpdated
  | currenciesModified
  | proceduresModified
deriving DecidableEq

def Signal.kind : Signal → SignalKind
  | ballotVoted _ => .ballotVoted
  | electionPreparing .. => .electionPreparing
  | electionCompleted .. => .electionCompleted
  | permissionsUpdated _ => .permissionsUpdated
  | currenciesModified _ => .currenciesModified
  | proceduresModified _ => .proceduresModified

namespace SignalKind

def inOrder : List SignalKind :=
  [ballotVoted, electionPreparing, electionCompleted, permissionsUpdated, currenciesModified,
    proceduresModified]

/-- Whether a signal of this kind goes out, if a vote was closed, elections were held and these
changes were noted. -/
def isDue (voted elected : Bool) (c : Changes) : SignalKind → Bool
  | ballotVoted => voted
  | electionPreparing | electionCompleted => elected
  | permissionsUpdated => elected || c.permissions
  | currenciesModified => c.currencies
  | proceduresModified => c.procedures

def due (voted elected : Bool) (c : Changes) : List SignalKind :=
  inOrder.filter (isDue voted elected c)

theorem mem_due {voted elected : Bool} {c : Changes} {k : SignalKind} :
    k ∈ due voted elected c ↔ isDue voted elected c k = true := by
  rw [due, List.mem_filter]
  exact and_iff_right (by cases k <;> decide)

end SignalKind

namespace Session

variable {γ α : Type} [ReturningOfficer α]

/-! ## Settling -/

section

variable {s t : Session γ α} {c : Changes} {signals : List Signal}

theorem Settling.kinds (h : Settling s c t signals) :
    signals.map Signal.kind = SignalKind.due false (!s.pendingElections.isEmpty) c := by
  obtain ⟨permissions, currencies, procedures⟩ := c
  cases h with
  | quiet due kept =>
    obtain rfl : permissions = false := kept
    rw [due]
    cases currencies <;> cases procedures <;> rfl
  | amended due touched =>
    obtain rfl : permissions = true := touched
    rw [due]
    cases currencies <;> cases procedures <;> rfl
  | voted due =>
    have some : s.pendingElections.isEmpty = false := by simpa using due
    rw [some]
    cases currencies <;> cases procedures <;> rfl

theorem Settling.preparing (h : Settling s c t signals) {requests : List ElectionRequest}
    {roles : IdMap IdSet} {affiliations : IdMap Affiliation}
    (told : .electionPreparing requests roles affiliations ∈ signals) :
    roles = s.house.roles ∧ affiliations = s.house.affiliations := by
  cases h <;> simp_all [Changes.news]

theorem Settling.completed (h : Settling s c t signals) {roles : IdMap IdSet}
    {affiliations : IdMap Affiliation} (told : .electionCompleted roles affiliations ∈ signals) :
    roles = t.house.roles ∧ affiliations = t.house.affiliations := by
  cases h <;> simp_all [Changes.news]

end

/-! ## Calls -/

/-- What the signals of a call are, and what they tell. -/
structure FollowsProtocol (s : Session γ α) (c : Call) (o : Outcome γ α Reply) : Prop where
  inOrder : (o.signals.map Signal.kind).Sublist SignalKind.inOrder
  once : (o.signals.map Signal.kind).Nodup
  voted : .ballotVoted ∈ o.signals.map Signal.kind ↔ ∃ passed, c = .endBallot passed
  together : .electionPreparing ∈ o.signals.map Signal.kind ↔
    .electionCompleted ∈ o.signals.map Signal.kind
  recomposed : .electionCompleted ∈ o.signals.map Signal.kind →
    .permissionsUpdated ∈ o.signals.map Signal.kind
  before : ∀ requests roles affiliations,
    .electionPreparing requests roles affiliations ∈ o.signals →
      roles = s.house.roles ∧ affiliations = s.house.affiliations
  behind : ∀ roles affiliations, .electionCompleted roles affiliations ∈ o.signals →
    roles = o.session.house.roles ∧ affiliations = o.session.house.affiliations
  silent : ((∃ people, c = .register people) ∨ (∃ person vote, c = .castVote person vote) ∨
    c = .closeDeclarations) → o.signals = []
  permissions : .permissionsUpdated ∈ o.signals.map Signal.kind ↔
    s.Renews c ∨ .electionCompleted ∈ o.signals.map Signal.kind ∨
      ∃ f ∈ s.fired c o.answer, f.amends s.house.people = true

section

variable {s : Session γ α} {c : Call} {o : Outcome γ α Reply}

theorem Conducted.kinds (h : Conducted s c o) : ∃ voted elected changes,
    o.signals.map Signal.kind = SignalKind.due voted elected changes ∧
    (voted = true ↔ ∃ passed, c = .endBallot passed) ∧
    (changes.permissions = true ↔
      s.Renews c ∨ ∃ f ∈ s.fired c o.answer, f.amends s.house.people = true) := by
  cases h with
  | still nothing silent _ _ _ _ old _ open_ =>
    refine ⟨false, false, {}, by rw [silent]; rfl, by simpa using open_, ?_⟩
    simp [old, nothing]
  | bundle t _ d record _ prepared settling _ told ends =>
    refine ⟨record.isSome, !t.pendingElections.isEmpty, d, ?_, ends, prepared.amended⟩
    rw [told, List.map_append, settling.kinds]
    cases record <;> rfl

theorem Conducted.before (h : Conducted s c o) {requests : List ElectionRequest}
    {roles : IdMap IdSet} {affiliations : IdMap Affiliation}
    (told : .electionPreparing requests roles affiliations ∈ o.signals) :
    roles = s.house.roles ∧ affiliations = s.house.affiliations := by
  cases h with
  | still _ silent => simp [silent] at told
  | bundle _ _ _ record _ prepared settling _ all =>
    rw [all] at told
    obtain ⟨rfl, rfl⟩ := settling.preparing (by cases record <;> simpa using told)
    exact ⟨congrArg Electorate.roles prepared.electorate,
      congrArg Electorate.affiliations prepared.electorate⟩

theorem Conducted.behind (h : Conducted s c o) {roles : IdMap IdSet}
    {affiliations : IdMap Affiliation}
    (told : .electionCompleted roles affiliations ∈ o.signals) :
    roles = o.session.house.roles ∧ affiliations = o.session.house.affiliations := by
  cases h with
  | still _ silent => simp [silent] at told
  | bundle _ u _ record _ _ settling closed all =>
    have electorate : o.session.house.electorate = u.house.electorate :=
      congrArg Bearing.electorate closed
    rw [all] at told
    obtain ⟨rfl, rfl⟩ := settling.completed (by cases record <;> simpa using told)
    exact ⟨(congrArg Electorate.roles electorate).symm,
      (congrArg Electorate.affiliations electorate).symm⟩

variable [Chance γ]

theorem Performed.silent_call (h : Performed s c o) (quiet : (∃ people, c = .register people) ∨
    (∃ person vote, c = .castVote person vote) ∨ c = .closeDeclarations) : o.signals = [] := by
  cases h <;> first | rfl | simp at quiet

/-- The signals of a call come in a fixed order and once each, and every one of them has its
reason. -/
theorem signals_follow_protocol (k : s.perform c = .ok o) :
    FollowsProtocol s c o := by
  have performed := performed_of_perform k
  have conducted := performed.conducted
  obtain ⟨voted, elected, changes, kinds, closing, amended⟩ := conducted.kinds
  have told (kind : SignalKind) :
      kind ∈ o.signals.map Signal.kind ↔ kind.isDue voted elected changes = true := by
    rw [kinds, SignalKind.mem_due]
  have sub : (o.signals.map Signal.kind).Sublist SignalKind.inOrder := by
    rw [kinds]
    exact List.filter_sublist
  have updated : .permissionsUpdated ∈ o.signals.map Signal.kind ↔
      .electionCompleted ∈ o.signals.map Signal.kind ∨ changes.permissions = true := by
    rw [told, told, ← Bool.or_eq_true]
    rfl
  exact {
    inOrder := sub
    once := sub.nodup (by decide)
    voted := (told .ballotVoted).trans closing
    together := (told .electionPreparing).trans (told .electionCompleted).symm
    recomposed := fun completed => updated.2 (.inl completed)
    before := fun _ _ _ => conducted.before
    behind := fun _ _ => conducted.behind
    silent := performed.silent_call
    permissions := by rw [updated, amended, or_left_comm] }

end

theorem signals_follow_protocol_hustings :
    let s := clerkSits.after (hustingsBegin ++ [.startBallot ⟨1⟩])
    ∃ o, s.perform (.endBallot true) = .ok o ∧
      o.signals.map Signal.kind =
        [.ballotVoted, .electionPreparing, .electionCompleted, .permissionsUpdated] ∧
      s.FollowsProtocol (.endBallot true) o := by
  intro s
  have kinds : (s.perform (.endBallot true)).map (fun o => o.signals.map Signal.kind) =
      .ok [.ballotVoted, .electionPreparing, .electionCompleted, .permissionsUpdated] := by
    decide +kernel
  obtain ⟨o, k, kinds⟩ := map_eq_ok.1 kinds
  exact ⟨o, k, kinds, signals_follow_protocol k⟩

end Session

end Parliament
