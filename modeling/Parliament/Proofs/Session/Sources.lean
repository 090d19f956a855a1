import Parliament.Proofs.Chance
import Parliament.Proofs.Session.Performed

/-! # Sessions with another source of chance

A session asks a source of chance for rolls and choices and does nothing else with it. So a source
may be exchanged for one that draws alike: every call comes to the same, but for the source that is
left behind.
-/

namespace Parliament

/-! ## Computations whose result is replaced -/

section

variable {ε α α' β β' : Type} {g : α → α'} {F : β → β'}

theorem bind_map {x : Except ε α} {x' : Except ε α'} {k : α → Except ε β} {k' : α' → Except ε β'}
    (first : x' = x.map g) (next : ∀ a, k' (g a) = (k a).map F) :
    (x' >>= k') = (x >>= k).map F := by
  subst first
  cases x with
  | error => rfl
  | ok a => exact next a

theorem bind_same {x : Except ε α} {k : α → Except ε β} {k' : α → Except ε β'}
    (next : ∀ a, k' a = (k a).map F) : (x >>= k') = (x >>= k).map F := by
  cases x with
  | error => rfl
  | ok a => exact next a

theorem foldlM_map {f : β → α → Except ε β} {f' : β' → α → Except ε β'}
    (step : ∀ b a, f' (F b) a = (f b a).map F) (l : List α) (b : β) :
    l.foldlM f' (F b) = (l.foldlM f b).map F := by
  induction l generalizing b with
  | nil => rfl
  | cons a l ih => exact bind_map (step b a) ih

end

/-! ## Confirmations -/

namespace Confirmation

variable {γ δ : Type} {f : γ → δ}

def Settled.mapChance (f : γ → δ) (paid : Settled γ) : Settled δ :=
  ⟨paid.result, paid.balances, f paid.chance⟩

theorem settle_mapChance [Chance γ] [Chance δ] (alike : DrawsAlike f) (c : Confirmation)
    (owned : Option Ident) (balances : IdMap Int8) (live : Option Bool) (chance : γ) :
    c.settle owned balances live (f chance) =
      (c.settle owned balances live chance).map (Settled.mapChance f) := by
  cases c with
  | always | divisionChamber => rfl
  | currencyValue value =>
    refine bind_same fun affordable => ?_
    split
    next =>
      cases owned with
      | none => rfl
      | some currency => exact bind_same fun _ => rfl
    next => rfl
  | diceValue needed =>
    unfold settle settleRoll
    rw [alike.roll]
    rfl
  | diceCurrency =>
    unfold settle settleRolledPrice
    simp only [alike.roll]
    cases owned with
    | none => rfl
    | some currency =>
      refine bind_same fun balance => ?_
      split
      next => exact bind_same fun _ => rfl
      next => rfl
  | diceAdversarial =>
    unfold settle settleContest
    simp only [alike.roll]
    cases owned with
    | none => rfl
    | some currency =>
      refine bind_same fun balance => ?_
      split
      next => exact bind_same fun _ => rfl
      next => rfl

end Confirmation

namespace Session

variable {γ δ α β : Type}

def mapChance (f : γ → δ) (s : Session γ α) : Session δ α :=
  { s with chance := f s.chance }

def Outcome.mapChance (f : γ → δ) (o : Outcome γ α β) : Outcome δ α β :=
  ⟨o.answer, o.session.mapChance f, o.signals⟩

variable [Chance γ] [Chance δ] {f : γ → δ}

/-! ## Effects -/

theorem drawPerson_mapChance (alike : DrawsAlike f) (s : Session γ α) :
    (s.mapChance f).drawPerson = s.drawPerson.map (Prod.map id (mapChance f)) := by
  unfold drawPerson
  dsimp only [mapChance]
  split
  next => rfl
  next =>
    refine bind_map (alike.choose _ _) ?_
    rintro ⟨place, next⟩
    dsimp only
    split <;> rfl

omit [Chance γ] [Chance δ] in
theorem addOverride_mapChance (s : Session γ α) (scope : Scope) (o : Override) :
    (s.mapChance f).addOverride scope o = (s.addOverride scope o).mapChance f := by
  cases scope <;> rfl

theorem amendPermissions_mapChance (alike : DrawsAlike f) (s : Session γ α) (scope : Scope)
    (targets : List Ident) (a : Amendment) (c : Changes) :
    (s.mapChance f).amendPermissions scope targets a c =
      (s.amendPermissions scope targets a c).map (Prod.map (mapChance f) id) := by
  unfold amendPermissions
  split
  next =>
    refine bind_map (drawPerson_mapChance alike s) ?_
    rintro ⟨person | person, t⟩
    · rfl
    · exact congrArg Except.ok (congrArg (·, _) (addOverride_mapChance t scope _))
  next => exact congrArg Except.ok (congrArg (·, _) (addOverride_mapChance s scope _))

omit [Chance γ] [Chance δ] in
theorem adjustBalances_mapChance (s : Session γ α) (amount : Int8) (currencies : List Ident)
    (c : Changes) :
    (s.mapChance f).adjustBalances amount currencies c =
      (s.adjustBalances amount currencies c).map (Prod.map (mapChance f) id) :=
  bind_same fun _ => rfl

theorem applyProcedureEffect_mapChance (alike : DrawsAlike f) (scope : Scope) (s : Session γ α)
    (c : Changes) (procedure : Ident) (e : ProcedureEffect) :
    applyProcedureEffect scope (s.mapChance f) c procedure e =
      (applyProcedureEffect scope s c procedure e).map (Prod.map (mapChance f) id) := by
  unfold applyProcedureEffect
  cases e.kind with
  | electParty | electRegion | electNominated | electAppointed =>
    dsimp only
    cases e.request? procedure <;> rfl
  | permissionCanVote | permissionVotes | permissionCanSpeak =>
    dsimp only
    cases e.amendment? with
    | none => rfl
    | some a => exact amendPermissions_mapChance alike s scope e.targets a c
  | votePassBonus | voteFailBonus | supermajority | ballotPass | ballotFail =>
    exact bind_same fun _ => rfl
  | currencyAdd | currencySubtract =>
    dsimp only
    split
    next => rfl
    next => exact bind_same fun l => adjustBalances_mapChance s e.delta l c
  | procedureActivate | procedureRemove =>
    dsimp only
    split <;> rfl
  | ballotLimit => rfl

theorem applyProcedureEffects_mapChance (alike : DrawsAlike f) (s : Session γ α) (c : Changes)
    (scope : Scope) (effects : List (Ident × ProcedureEffect)) :
    (s.mapChance f).applyProcedureEffects c scope effects =
      (s.applyProcedureEffects c scope effects).map (Prod.map (mapChance f) id) :=
  foldlM_map (F := Prod.map (mapChance f) id)
    (fun p e => applyProcedureEffect_mapChance alike scope p.1 p.2 e.1 e.2) effects (s, c)

theorem carryOut_mapChance (alike : DrawsAlike f) (s : Session γ α) (c : Changes)
    (person : Ident) (p : Procedure) :
    (s.mapChance f).carryOut c person p = (s.carryOut c person p).map (Prod.map (mapChance f) id) :=
  applyProcedureEffects_mapChance alike (s.listing p) c (.declared person) (effectsOf [p])

omit [Chance γ] [Chance δ] in
theorem applyBallotEffect_mapChance (s : Session γ α) (c : Changes) (e : BallotEffect) :
    applyBallotEffect (s.mapChance f) c e =
      (applyBallotEffect s c e).map (Prod.map (mapChance f) id) := by
  unfold applyBallotEffect
  cases e.kind with
  | replaceProcedure => exact bind_same fun _ => rfl
  | modifyCurrency => exact bind_same fun l => adjustBalances_mapChance s e.value l c
  | _ => rfl

omit [Chance γ] [Chance δ] in
theorem applyBallotEffects_mapChance (s : Session γ α) (c : Changes)
    (effects : List BallotEffect) :
    (s.mapChance f).applyBallotEffects c effects =
      (s.applyBallotEffects c effects).map (Prod.map (mapChance f) id) :=
  foldlM_map (F := Prod.map (mapChance f) id)
    (fun p e => applyBallotEffect_mapChance p.1 p.2 e) effects (s, c)

/-! ## Settling -/

section

variable [ReturningOfficer α]

omit [Chance γ] [Chance δ] in
theorem holdElections_mapChance (s : Session γ α) :
    (s.mapChance f).holdElections = s.holdElections.map (mapChance f) id := by
  by_cases due : s.pendingElections = []
  · rw [holdElections_of_nil due, holdElections_of_nil (s := s.mapChance f) due]
    rfl
  · rw [holdElections_of_ne_nil due, holdElections_of_ne_nil (s := s.mapChance f) due]
    rfl

omit [Chance γ] [Chance δ] [ReturningOfficer α] in
theorem recomposeIf_mapChance (needed : Bool) (s : Session γ α) :
    (s.mapChance f).recomposeIf needed =
      (s.recomposeIf needed).map (Prod.map (mapChance f) id) := by
  unfold recomposeIf
  split
  next => exact bind_same fun _ => rfl
  next => rfl

omit [Chance γ] [Chance δ] in
theorem settle_mapChance (s : Session γ α) (c : Changes) :
    (s.mapChance f).settle c = (s.settle c).map (Prod.map (mapChance f) id) := by
  unfold settle
  rw [holdElections_mapChance]
  exact bind_map (recomposeIf_mapChance _ s.holdElections.1) fun _ => rfl

/-! ## Calls -/

omit [Chance γ] [Chance δ] [ReturningOfficer α] in
theorem register_mapChance (s : Session γ α) (people : List Person) :
    (s.mapChance f).register people = (s.register people).map (Outcome.mapChance f) := by
  unfold Session.register
  have phase : (s.mapChance f).phase = s.phase := rfl
  rw [phase]
  cases s.phase with
  | uninitialized =>
    dsimp only
    cases House.register .empty people <;> rfl
  | _ => rfl

theorem setUp_mapChance (alike : DrawsAlike f) (s : Session γ α) :
    (s.mapChance f).setUp = s.setUp.map (Outcome.mapChance f) := by
  unfold Session.setUp
  have phase : (s.mapChance f).phase = s.phase := rfl
  rw [phase]
  cases s.phase with
  | initialized =>
    refine bind_map (applyProcedureEffects_mapChance alike s _ _ _) fun p => ?_
    exact bind_map (settle_mapChance p.1 p.2) fun _ => rfl
  | _ => rfl

theorem startBallot_mapChance (alike : DrawsAlike f) (s : Session γ α) (id : Ident) :
    (s.mapChance f).startBallot id = (s.startBallot id).map (Outcome.mapChance f) := by
  unfold Session.startBallot
  have phase : (s.mapChance f).phase = s.phase := rfl
  have book : (s.mapChance f).rulebook = s.rulebook := rfl
  rw [phase, book]
  cases s.phase with
  | awaitingBallot next =>
    dsimp only
    split
    next => rfl
    next =>
      split
      next => rfl
      next =>
        refine bind_same fun started => ?_
        refine bind_map (applyProcedureEffects_mapChance alike (s.clearFloor started id) _ _ _)
          fun p => ?_
        exact bind_map (settle_mapChance p.1 p.2) fun _ => rfl
  | _ => rfl

omit [Chance γ] [Chance δ] [ReturningOfficer α] in
theorem castVote_mapChance (s : Session γ α) (person : Ident) (vote : Vote) :
    (s.mapChance f).castVote person vote = (s.castVote person vote).map (Outcome.mapChance f) := by
  unfold Session.castVote
  refine bind_same fun _ => ?_
  dsimp only [mapChance]
  cases s.permissions.get? person with
  | none => rfl
  | some p =>
    dsimp only
    split <;> rfl

omit [Chance γ] [Chance δ] [ReturningOfficer α] in
theorem closeDeclarations_mapChance (s : Session γ α) :
    (s.mapChance f).closeDeclarations = s.closeDeclarations.map (Outcome.mapChance f) :=
  bind_same fun _ => rfl

theorem declareOpen_mapChance (alike : DrawsAlike f) (s : Session γ α) (person : Ident)
    (p : Procedure) (confirmation : Confirmation) :
    (s.mapChance f).declareOpen person p confirmation =
      (s.declareOpen person p confirmation).map (Outcome.mapChance f) := by
  unfold declareOpen
  refine bind_same fun live => ?_
  refine bind_map (confirmation.settle_mapChance alike _ _ live s.chance) fun paid => ?_
  dsimp only [Confirmation.Settled.mapChance]
  split
  next =>
    refine bind_map (carryOut_mapChance alike (s.paidBy paid) _ person p) fun q => ?_
    exact bind_map (settle_mapChance q.1 q.2) fun _ => rfl
  next =>
    refine bind_map (g := Prod.map (mapChance f) id) rfl fun q => ?_
    exact bind_map (settle_mapChance q.1 q.2) fun _ => rfl

theorem declare_mapChance (alike : DrawsAlike f) (s : Session γ α) (person procedure : Ident) :
    (s.mapChance f).declare person procedure =
      (s.declare person procedure).map (Outcome.mapChance f) := by
  unfold Session.declare
  refine bind_same fun place => ?_
  dsimp only
  have people : (s.mapChance f).house = s.house := rfl
  rw [people]
  split
  next => rfl
  next =>
    refine bind_same fun p => ?_
    cases p.kind with
    | declared confirmation declarers ballots =>
      refine bind_same fun refusal => ?_
      cases refusal with
      | some reason => rfl
      | none => exact declareOpen_mapChance alike s person p confirmation
    | _ => rfl

omit [Chance γ] [Chance δ] in
theorem endBallot_mapChance (s : Session γ α) (passed : Bool) :
    (s.mapChance f).endBallot passed = (s.endBallot passed).map (Outcome.mapChance f) := by
  unfold Session.endBallot
  refine bind_same fun place => ?_
  refine bind_same fun b => ?_
  refine bind_map (applyBallotEffects_mapChance s {} _) fun p => ?_
  refine bind_same fun summary => ?_
  let record : BallotRecord := ⟨place.1, passed, summary, p.1.floor.declared⟩
  refine bind_map (settle_mapChance (p.1.recorded record) p.2) fun q => ?_
  exact bind_same fun _ => rfl

/-- A call does not depend on how the source draws, only on what is drawn. -/
theorem perform_mapChance (alike : DrawsAlike f) (s : Session γ α) (c : Call) :
    (s.mapChance f).perform c = (s.perform c).map (Outcome.mapChance f) := by
  cases c with
  | register people => exact bind_map (register_mapChance s people) fun _ => rfl
  | setUp => exact bind_map (setUp_mapChance alike s) fun _ => rfl
  | startBallot id => exact bind_map (startBallot_mapChance alike s id) fun _ => rfl
  | castVote person vote => exact bind_map (castVote_mapChance s person vote) fun _ => rfl
  | closeDeclarations => exact bind_map (closeDeclarations_mapChance s) fun _ => rfl
  | declare person procedure =>
    exact bind_map (declare_mapChance alike s person procedure) fun _ => rfl
  | endBallot passed => exact bind_map (endBallot_mapChance s passed) fun _ => rfl

end

end Session

end Parliament
