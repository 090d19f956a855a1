import Parliament.Proofs.Session.Declarations
import Parliament.Proofs.Session.Firing
import Parliament.Proofs.Session.Sitting
import Parliament.Proofs.Session.Sources

/-! # What a sitting draws

Chance decides the rolls of a declaration and whom an amendment without targets falls to, and
nothing else. So what a call draws can be told from the call and its reply, and a whole sitting goes
through a script of draws one number after the other.
-/

namespace Parliament

/-! ## What is to be drawn -/

/-- A confirmation rolls as often whatever comes of it. -/
def Confirmation.rolls : Confirmation → Nat
  | diceValue _ | diceCurrency => 1
  | diceAdversarial => 2
  | always | divisionChamber | currencyValue _ => 0

def DeclarationResult.isRefusal : DeclarationResult → Bool
  | rejected reason => reason.isRefusal
  | _ => false

/-- An amendment without targets falls to one of the people, if there are any. -/
def Firing.draws (people : IdMap Person) : Firing → List DrawKind
  | procedure _ e =>
    if e.kind.isPermission ∧ e.targets = [] ∧ people.keys ≠ [] then [.choice people.keys.length]
    else []
  | consequence _ => []

namespace Session

variable {γ α : Type}

/-- The rolls of a declaration, unless it is turned down before anything is rolled. -/
def rolled (s : Session γ α) : Call → Reply → List DrawKind
  | .declare _ procedure, .declared result =>
    if result.isRefusal then []
    else
      let confirmation := (s.rulebook.procedure? procedure).bind Procedure.confirmation?
      List.replicate (confirmation.elim 0 Confirmation.rolls) .roll
  | _, _ => []

/-- What a call with this reply draws. -/
def drawing (s : Session γ α) (c : Call) (reply : Reply) : List DrawKind :=
  s.rolled c reply ++ (s.fired c reply).flatMap (Firing.draws s.house.people)

/-- What calls draw one after the other. -/
def drawings [Chance γ] [ReturningOfficer α] (s : Session γ α) : List Call → List DrawKind
  | [] => []
  | c :: calls =>
    match s.perform c with
    | .ok o => s.drawing c o.answer ++ o.session.drawings calls
    | .error _ => []

end Session

/-! ## Confirmations -/

theorem Confirmation.Settlement.consumes {γ : Type} [Chance γ] {owned : Option Ident}
    {balances : IdMap Int8} {live : Option Bool} {chance : γ} {c : Confirmation}
    {paid : Settled γ} (h : Settlement owned balances live chance c paid) :
    Consumes chance (List.replicate c.rolls .roll) paid.chance := by
  cases h with
  | always | division | price => exact .refl chance
  | roll drawn | rolledPrice drawn | unpaidPrice drawn => exact .roll drawn
  | contest drawn met | unpaidContest drawn met => exact (Consumes.roll drawn).trans (.roll met)

namespace Session

variable {γ α : Type}

/-! ## Effects -/

theorem chance_addOverride (s : Session γ α) (scope : Scope) (o : Override) :
    (s.addOverride scope o).chance = s.chance := by
  cases scope <;> rfl

section

variable [Chance γ] {s t : Session γ α} {c d : Changes} {scope : Scope}

theorem drawPerson_consumes {person : Option Ident} (h : s.drawPerson = .ok (person, t)) :
    Consumes s.chance
      (if s.house.people.keys ≠ [] then [.choice s.house.people.keys.length] else [])
      t.chance := by
  unfold drawPerson at h
  dsimp only at h
  split at h
  next nobody =>
    obtain ⟨-, rfl⟩ := Prod.mk.inj (Except.ok.inj h)
    rw [if_neg (not_not_intro (List.isEmpty_iff.1 nobody))]
    exact .refl _
  next somebody =>
    rw [if_pos (fun nobody => somebody (List.isEmpty_iff.2 nobody))]
    obtain ⟨⟨place, chance⟩, drawn, h⟩ := bind_eq_ok.1 h
    split at h
    next =>
      obtain ⟨-, rfl⟩ := Prod.mk.inj (pure_eq_ok.1 h)
      exact .choice drawn
    next => simp at h

theorem amendPermissions_consumes {id : Ident} {e : ProcedureEffect} {a : Amendment}
    (permission : e.kind.isPermission = true)
    (h : s.amendPermissions scope e.targets a c = .ok (t, d)) :
    Consumes s.chance ((Firing.procedure id e).draws s.house.people) t.chance := by
  unfold amendPermissions at h
  unfold Firing.draws
  dsimp only
  split at h
  next random =>
    obtain ⟨⟨person, u⟩, drawn, h⟩ := bind_eq_ok.1 h
    have consumed := drawPerson_consumes drawn
    simp only [permission, List.isEmpty_iff.1 random, true_and]
    cases person with
    | none =>
      obtain ⟨rfl, -⟩ := Prod.mk.inj (pure_eq_ok.1 h)
      exact consumed
    | some person =>
      obtain ⟨rfl, -⟩ := Prod.mk.inj (pure_eq_ok.1 h)
      rw [chance_addOverride]
      exact consumed
  next chosen =>
    obtain ⟨rfl, -⟩ := Prod.mk.inj (Except.ok.inj h)
    have targeted : e.targets ≠ [] := fun none => chosen (List.isEmpty_iff.2 none)
    rw [if_neg (fun all => targeted all.2.1), chance_addOverride]
    exact .refl _

theorem applyProcedureEffect_consumes {id : Ident} {e : ProcedureEffect}
    (h : applyProcedureEffect scope s c id e = .ok (t, d)) :
    Consumes s.chance ((Firing.procedure id e).draws s.house.people) t.chance := by
  -- Only an amendment of permissions may draw somebody.
  have still (other : e.kind.isPermission = false) (same : t.chance = s.chance) :
      Consumes s.chance ((Firing.procedure id e).draws s.house.people) t.chance := by
    rw [Firing.draws, if_neg (fun all => by simp [other] at all), same]
    exact .refl _
  unfold applyProcedureEffect at h
  split at h
  case h_1 is | h_2 is | h_3 is | h_4 is =>
    split at h
    next =>
      obtain ⟨rfl, -⟩ := Prod.mk.inj (Except.ok.inj h)
      exact still (by rw [is]; rfl) rfl
    next => simp at h
  case h_5 is | h_6 is | h_7 is =>
    simp only [ProcedureEffect.amendment?, is] at h
    exact amendPermissions_consumes (by rw [is]; rfl) h
  case h_8 is | h_9 is | h_10 is | h_11 is | h_12 is =>
    obtain ⟨tally, -, h⟩ := bind_eq_ok.1 h
    obtain ⟨rfl, -⟩ := Prod.mk.inj (pure_eq_ok.1 h)
    exact still (by rw [is]; rfl) rfl
  case h_13 is | h_14 is =>
    split at h
    next =>
      obtain ⟨rfl, -⟩ := Prod.mk.inj (Except.ok.inj h)
      exact still (by rw [is]; rfl) rfl
    next =>
      obtain ⟨currencies, -, h⟩ := bind_eq_ok.1 h
      obtain ⟨house, -, h⟩ := bind_eq_ok.1 h
      obtain ⟨rfl, -⟩ := Prod.mk.inj (pure_eq_ok.1 h)
      exact still (by rw [is]; rfl) rfl
  case h_15 is | h_16 is =>
    split at h <;> obtain ⟨rfl, -⟩ := Prod.mk.inj (Except.ok.inj h) <;>
    exact still (by rw [is]; rfl) rfl
  case h_17 is =>
    obtain ⟨rfl, -⟩ := Prod.mk.inj (Except.ok.inj h)
    exact still (by rw [is]; rfl) rfl

theorem foldlM_consumes {effects : List (Ident × ProcedureEffect)} {p q : Session γ α × Changes}
    (h : effects.foldlM (fun p e => applyProcedureEffect scope p.1 p.2 e.1 e.2) p = .ok q) :
    Consumes p.1.chance
      ((effects.map fun e => Firing.procedure e.1 e.2).flatMap (Firing.draws p.1.house.people))
      q.1.chance := by
  induction effects generalizing p with
  | nil =>
    rw [List.foldlM_nil, pure_eq_ok] at h
    rw [h]
    exact .refl _
  | cons e effects ih =>
    rw [List.foldlM_cons, bind_eq_ok] at h
    obtain ⟨m, first, rest⟩ := h
    have later := ih rest
    -- No effect moves the people, so the later ones draw from the same list.
    rw [(applyProcedureEffect_carriedOut first).people_eq] at later
    exact (applyProcedureEffect_consumes first).trans later

theorem applyProcedureEffects_consumes {procedures : List Procedure}
    (h : s.applyProcedureEffects c scope (effectsOf procedures) = .ok (t, d)) :
    Consumes s.chance
      ((Firing.ofProcedures procedures).flatMap (Firing.draws s.house.people)) t.chance :=
  foldlM_consumes h

end

section

variable {s t : Session γ α} {c d : Changes}

theorem chance_applyBallotEffects {effects : List BallotEffect}
    (h : s.applyBallotEffects c effects = .ok (t, d)) : t.chance = s.chance := by
  have alike := applyBallotEffects_mapChance (f := fun _ => s.chance) s c effects
  have same : s.mapChance (fun _ => s.chance) = s := rfl
  rw [same, h] at alike
  exact congrArg (·.1.chance) (Except.ok.inj alike)

theorem Settling.chance_eq [ReturningOfficer α] {signals : List Signal}
    (h : Settling s c t signals) : t.chance = s.chance := by
  obtain ⟨_, _, _, _, rfl⟩ := h.eq_with
  rfl

end

/-! ## Calls -/

variable [Chance γ] [ReturningOfficer α] {s t : Session γ α} {c : Call}

omit [ReturningOfficer α] in
theorem Tried.rolled {person procedure : Ident} {p : Procedure} {paid : Confirmation.Settled γ}
    (h : s.Tried person procedure p paid) :
    Consumes s.chance (s.rolled (.declare person procedure) (.declared paid.result))
      paid.chance := by
  obtain ⟨confirmation, declarers, ballot, stage, live, proposal, -, -, settled⟩ := h
  obtain ⟨ballots, kind⟩ := proposal.kind
  have settlement := Confirmation.settlement_of_settle settled
  have tried : paid.result.isRefusal = false := by
    cases result : paid.result with
    | rejected reason => exact settlement.not_isRefusal result
    | _ => rfl
  have asked : (s.rulebook.procedure? procedure).bind Procedure.confirmation? =
      some confirmation := by
    rw [proposal.listed, Option.bind_some, Procedure.confirmation?, kind]
    rfl
  unfold Session.rolled
  simp only [tried, asked]
  exact settlement.consumes

theorem Performed.consumes {o : Outcome γ α Reply} (h : Performed s c o) :
    Consumes s.chance (s.drawing c o.answer) o.session.chance := by
  unfold drawing
  cases h with
  | register | refuse | castVote | refuseVote | closeDeclarations => exact .refl _
  | setUp _ effects settling =>
    have drawn := applyProcedureEffects_consumes effects
    rw [← settling.chance_eq] at drawn
    exact drawn
  | startBallot _ _ _ _ effects settling =>
    have drawn := applyProcedureEffects_consumes effects
    rw [← settling.chance_eq] at drawn
    exact drawn
  | @turnDown person procedure _ _ _ _ _ reason _ refused =>
    have refused : reason.isRefusal = true := isRefusal_of_refusal? refused
    have none : s.rolled (.declare person procedure) (.declared (.rejected reason)) = [] :=
      if_pos refused
    rw [none]
    exact .refl _
  | @miss person procedure _ paid _ _ tried missed settling =>
    -- Nothing is fired, so only the confirmation draws.
    have nothing : s.fired (.declare person procedure) (.declared paid.result) = [] :=
      if_neg (by simp [missed])
    dsimp only
    rw [nothing, List.flatMap_nil, List.append_nil, settling.chance_eq]
    exact tried.rolled
  | @declare person procedure p paid _ _ _ _ tried confirmed effects settling =>
    have rolled := tried.rolled
    obtain ⟨_, _, _, _, _, proposal, _⟩ := tried
    have one : s.fired (.declare person procedure) (.declared paid.result) =
        Firing.ofProcedures [p] := by
      rw [fired, if_pos confirmed, proposal.listed]
      rfl
    have drawn := applyProcedureEffects_consumes effects
    dsimp only
    rw [one, settling.chance_eq]
    exact rolled.trans drawn
  | @endBallot passed _ _ _ t u _ _ next _ _ _ effects _ settling =>
    -- Effects of ballots amend no permissions, so nobody is drawn.
    have nobody : (s.fired (.endBallot passed) (.ended next)).flatMap
        (Firing.draws s.house.people) = [] := by
      simp [fired, Firing.draws]
    have ended : t.chance = s.chance := chance_applyBallotEffects effects
    have still : u.chance = t.chance := settling.chance_eq
    dsimp only
    rw [nobody, closed, still, ended]
    exact .refl _

/-! ## Recordings -/

/-- The session with a record beside its source, in which so much is written already. -/
def recording (s : Session γ α) (drawn : List Draw) : Session (Recorded γ) α :=
  s.mapChance fun source => ⟨source, drawn⟩

theorem perform_recording {o : Outcome γ α Reply} (h : s.perform c = .ok o) (before : List Draw) :
    ∃ drawn, (s.recording before).perform c =
        .ok ⟨o.answer, o.session.recording (before ++ drawn), o.signals⟩ ∧
      Draws s.chance drawn o.session.chance ∧ drawn.map Draw.kind = s.drawing c o.answer := by
  have alike := perform_mapChance Recorded.drawsAlike_source (s.recording before) c
  have same : (s.recording before).mapChance Recorded.source = s := rfl
  rw [same, h] at alike
  obtain ⟨p, performed, rfl⟩ := map_eq_ok.1 alike.symm
  obtain ⟨drawn, draws, kinds⟩ := (performed_of_perform performed).consumes
  obtain ⟨record, drew⟩ := Recorded.of_draws draws
  refine ⟨drawn, ?_, drew, kinds⟩
  have entered : p.session.chance.drawn = before ++ drawn := record
  rw [performed, ← entered]
  rfl

theorem sit_recording {calls : List Call} {minutes : List Minute}
    (sat : s.sit calls = .ok (t, minutes)) (before : List Draw) :
    ∃ drawn, (s.recording before).sit calls = .ok (t.recording (before ++ drawn), minutes) ∧
      Draws s.chance drawn t.chance ∧ drawn.map Draw.kind = s.drawings calls := by
  induction calls generalizing s before minutes with
  | nil =>
    obtain ⟨rfl, rfl⟩ := sit_nil_eq_ok.1 sat
    exact ⟨[], by rw [List.append_nil]; rfl, .nil _, rfl⟩
  | cons c calls ih =>
    obtain ⟨o, rest, performed, after, rfl⟩ := sit_cons_eq_ok.1 sat
    obtain ⟨first, recorded, drew, kinds⟩ := perform_recording performed before
    obtain ⟨later, resumed, further, others⟩ := ih after (before ++ first)
    refine ⟨first ++ later, ?_, drew.append further, ?_⟩
    · rw [← List.append_assoc]
      exact sit_cons_eq_ok.2 ⟨_, rest, recorded, resumed, rfl⟩
    · rw [List.map_append, kinds, others, drawings, performed]

/-- A sitting with a script of draws takes the numbers of the script in turn and begins again behind
the last. It draws what its calls are to draw and nothing else, and the script is left where the
next draw goes on. -/
theorem sitting_draws {r : Rulebook} {values : List UInt8} {script : DrawScript} {officer : α}
    {s t : Session DrawScript α} {calls : List Call} {minutes : List Minute}
    (listed : DrawScript.ofList values = .ok script) (begun : start r script officer = .ok s)
    (sat : s.sit calls = .ok (t, minutes)) :
    ∃ drawn, (s.recording []).sit calls = .ok (t.recording drawn, minutes) ∧
      drawn.map Draw.kind = s.drawings calls ∧
      (∀ i d, drawn[i]? = some d →
        ∃ value, values[i % values.length]? = some value ∧ d.number = d.kind.reduce value) ∧
      t.chance.values = values ∧ t.chance.cursor = drawn.length % values.length := by
  obtain ⟨-, rfl⟩ := start_eq_ok begun
  obtain ⟨rfl, first⟩ := DrawScript.ofList_eq_ok listed
  obtain ⟨drawn, recorded, draws, kinds⟩ := sit_recording sat []
  obtain ⟨same, cursor, number⟩ := DrawScript.replays_of_draws draws
  refine ⟨drawn, recorded, kinds, fun i d there => ?_, same, ?_⟩
  · refine ⟨script.ahead i, ?_, number i d there⟩
    have place : (script.cursor + i) % script.values.length = i % script.values.length := by
      rw [first, Nat.zero_add]
    rw [← place]
    exact List.getElem?_eq_getElem _
  · rw [cursor]
    show (script.cursor + drawn.length) % script.values.length = _
    rw [first, Nat.zero_add]

/-- As a ballot starts, somebody votes for two, and whoever wins a duel has somebody silenced. -/
def lotteryParish : Rulebook :=
  { parish with procedures := parish.procedures ++ [
    ⟨⟨7⟩, "Lots", .targeted [] true, [⟨.permissionVotes, [], 2, rfl⟩]⟩,
    ⟨⟨5⟩, "Duel", .declared .diceAdversarial [] [], [⟨.permissionCanSpeak, [], 0, rfl⟩]⟩] }

def lotteryMeets : Session DrawScript StatusQuo :=
  opening lotteryParish ⟨[4, 3, 1], 0, by decide⟩ {}

def lotteryEvening : List Call := [
  .register [⟨⟨1⟩, "Ada"⟩, ⟨⟨2⟩, "Bede"⟩], .setUp, .startBallot ⟨1⟩, .declare ⟨1⟩ ⟨5⟩,
  .castVote ⟨2⟩ .pass, .declare ⟨2⟩ ⟨5⟩, .endBallot true]

theorem sitting_draws_lottery :
    ∃ t drawn minutes, lotteryMeets.sit lotteryEvening = .ok (t, minutes) ∧
      (lotteryMeets.recording []).sit lotteryEvening = .ok (t.recording drawn, minutes) ∧
      drawn.map Draw.kind = [.choice 2, .roll, .roll, .choice 2] ∧ t.chance.cursor = 1 := by
  have listed : DrawScript.ofList [4, 3, 1] = .ok ⟨[4, 3, 1], 0, by decide⟩ := rfl
  have begun : start lotteryParish ⟨[4, 3, 1], 0, by decide⟩ {} = .ok lotteryMeets :=
    start_of_check (check_of_english rfl rfl) _ _
  obtain ⟨minutes, sat⟩ := exists_sit_after lotteryMeets lotteryEvening (by decide +kernel)
  obtain ⟨drawn, recorded, kinds, -, -, cursor⟩ := sitting_draws listed begun sat
  have due : lotteryMeets.drawings lotteryEvening = [.choice 2, .roll, .roll, .choice 2] := by
    decide +kernel
  rw [due] at kinds
  have four : drawn.length = 4 := by rw [← List.length_map, kinds]; rfl
  exact ⟨_, drawn, minutes, sat, recorded, kinds, by rw [cursor, four]; rfl⟩

end Session

end Parliament
