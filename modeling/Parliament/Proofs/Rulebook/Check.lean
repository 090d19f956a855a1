import Parliament.Proofs.Condition
import Parliament.Proofs.Rulebook
import Parliament.Proofs.Success
import Parliament.Proofs.Wording
import Parliament.Rulebook.Check

/-! # What the checks of a rule book look for

Each check passes exactly if what it looks at is in order, as `Rulebook.WellFormed` has it.
-/

namespace Parliament.Rulebook

variable {r : Rulebook} {owner : Referrer} {id : Ident}

/-! ## Names -/

theorem isReserved_eq_false {a : Ident} : a.isReserved = false ↔ a < Ident.firstReserved := by
  rw [← Bool.not_eq_true, Ident.isReserved_iff, Ident.lt_def]
  show ¬ 248 ≤ a.val.toNat ↔ a.val.toNat < 248
  omega

theorem checkNames_eq_ok {space : Space} {allowed : Ident → Bool} {seen : IdSet}
    {l : List Ident} : checkNames space allowed seen l = .ok () ↔
      l.Nodup ∧ ∀ a ∈ l, a ∉ seen ∧ (a < Ident.firstReserved ∨ allowed a = true) := by
  induction l generalizing seen with
  | nil => simp [checkNames]
  | cons a l ih =>
    have free : (a < Ident.firstReserved ∨ allowed a = true) ↔
        ¬ (a.isReserved && !allowed a) = true := by
      rw [← isReserved_eq_false]
      cases a.isReserved <;> cases allowed a <;> simp
    unfold checkNames
    rw [List.nodup_cons, List.forall_mem_cons, free]
    split
    next reserved => simp [reserved]
    next =>
      split
      next repeated => simp [IdSet.mem_iff, repeated]
      next fresh =>
        rw [ih]
        simp only [IdSet.mem_insert, not_or]
        constructor
        · rintro ⟨distinct, rest⟩
          have first : a ∉ l := fun ha => (rest a ha).1.1 rfl
          refine ⟨⟨first, distinct⟩, ⟨fresh, by assumption⟩, fun b hb => ?_⟩
          exact ⟨(rest b hb).1.2, (rest b hb).2⟩
        · rintro ⟨⟨first, distinct⟩, -, rest⟩
          refine ⟨distinct, fun b hb => ⟨⟨?_, (rest b hb).1⟩, (rest b hb).2⟩⟩
          rintro rfl
          exact first hb

theorem checkUnreserved_eq_ok {space : Space} {l : List Ident} :
    checkUnreserved space l = .ok () ↔ Free l := by
  rw [checkUnreserved, checkNames_eq_ok]
  constructor
  · rintro ⟨distinct, all⟩
    exact ⟨distinct, fun a ha => by simpa using (all a ha).2⟩
  · rintro ⟨distinct, unreserved⟩
    exact ⟨distinct, fun a ha => ⟨IdSet.not_mem_empty a, .inl (unreserved a ha)⟩⟩

theorem checkSpaces_eq_ok : r.checkSpaces = .ok () ↔
    ((r.roles.map (·.id)).Nodup ∧
      ∀ d ∈ r.roles, d.id < Ident.firstReserved ∨ d.id ∈ Ident.namedRoles) ∧
    Free (r.parties.map (·.id) ++ r.regions.map (·.id)) ∧ Free (r.currencies.map (·.id)) ∧
    Free (r.procedures.map (·.id)) ∧ Free (r.ballots.map (·.id)) := by
  unfold checkSpaces
  rw [andThen_eq_ok, andThen_eq_ok, andThen_eq_ok, andThen_eq_ok, checkNames_eq_ok,
    checkUnreserved_eq_ok, checkUnreserved_eq_ok, checkUnreserved_eq_ok, checkUnreserved_eq_ok]
  have roles : (∀ a ∈ r.roles.map (·.id), a ∉ IdSet.empty ∧
      (a < Ident.firstReserved ∨ a.isNamedRole = true)) ↔
      ∀ d ∈ r.roles, d.id < Ident.firstReserved ∨ d.id ∈ Ident.namedRoles := by
    simp [Ident.isNamedRole]
  rw [roles]

/-! ## What is known -/

@[simp] theorem mem_known_roles : id ∈ r.known.roles ↔ r.ListsRole id := by
  simp [known, ListsRole]

@[simp] theorem mem_known_parties : id ∈ r.known.parties ↔ r.ListsParty id := by
  simp [known, ListsParty]

@[simp] theorem mem_known_regions : id ∈ r.known.regions ↔ r.ListsRegion id := by
  simp [known, ListsRegion]

@[simp] theorem mem_known_currencies : id ∈ r.known.currencies ↔ r.ListsCurrency id := by
  simp [known, ListsCurrency]

@[simp] theorem mem_known_procedures : id ∈ r.known.procedures ↔ r.ListsProcedure id := by
  simp [known, ListsProcedure]

@[simp] theorem mem_known_targeted : id ∈ r.known.targeted ↔ r.ListsTargeted id := by
  simp only [known, ListsTargeted, IdSet.mem_ofList, List.mem_map, List.mem_filter]
  constructor
  · rintro ⟨p, ⟨hp, kind⟩, rfl⟩
    exact ⟨p, hp, rfl, kind⟩
  · rintro ⟨p, hp, rfl, kind⟩
    exact ⟨p, ⟨hp, kind⟩, rfl⟩

@[simp] theorem mem_known_ballots : id ∈ r.known.ballots ↔ r.ListsBallot id := by
  simp [known, ListsBallot]

theorem need_eq_ok {space : Space} {names : IdSet} :
    need owner space names id = .ok () ↔ id ∈ names := by
  rw [IdSet.mem_iff, need]
  split
  next h => simp [h]
  next h => simp [h]

theorem forM_need_eq_ok {space : Space} {names : IdSet} {l : List Ident} :
    l.forM (need owner space names) = .ok () ↔ ∀ id ∈ l, id ∈ names := by
  rw [forM_eq_ok]
  simp only [need_eq_ok]

theorem needStateCurrency_eq_ok : r.known.needStateCurrency owner = .ok () ↔ r.HasTreasury := by
  rw [← isSome_stateCurrency, Known.needStateCurrency]
  show (if r.stateCurrency.isSome = true then _ else _) = _ ↔ _
  split
  next h => simp [h]
  next h => simp [h]

theorem not_listsCurrency (free : Free (r.currencies.map (·.id)))
    (h : ¬ id < Ident.firstReserved) : ¬ r.ListsCurrency id := by
  rintro ⟨c, hc, rfl⟩
  exact h (free.unreserved c.id (List.mem_map_of_mem hc))

theorem needPayee_eq_ok (free : Free (r.currencies.map (·.id))) :
    r.known.needPayee owner id = .ok () ↔ r.ListsPayee id := by
  unfold Known.needPayee ListsPayee
  split
  next state =>
    subst state
    have unlisted : ¬ r.ListsCurrency .stateFunds := not_listsCurrency free (by decide)
    rw [needStateCurrency_eq_ok]
    simp only [unlisted, false_or, true_and]
    simp [Ident.stateFunds, Ident.partyFunds, Ident.regionFunds]
  next other =>
    split
    next funds => simp [← or_assoc, funds]
    next named =>
      rw [not_or] at named
      rw [need_eq_ok, mem_known_currencies]
      simp [named, other]

/-! ## Conditions -/

theorem checkPart_eq_ok {c : Condition} : r.known.checkPart owner c = .ok () ↔
    (∀ ballot passed, c = .ballotPassed ballot passed → r.ListsBallot ballot) ∧
    (∀ currency comparison value, c = .currencyValue currency comparison value →
      r.ListsCurrency currency) ∧
    ∀ procedure active, c = .procedureActive procedure active → r.ListsProcedure procedure := by
  cases c <;> simp [Known.checkPart, need_eq_ok]

theorem checkCondition_eq_ok {c : Condition} :
    r.known.checkCondition owner c = .ok () ↔ r.CoversCondition c := by
  unfold Known.checkCondition
  rw [forM_eq_ok]
  simp only [Condition.mem_parts, checkPart_eq_ok]
  constructor
  · intro h
    exact ⟨fun ballot passed k => (h _ k).1 ballot passed rfl,
      fun currency comparison value k => (h _ k).2.1 currency comparison value rfl,
      fun procedure active k => (h _ k).2.2 procedure active rfl⟩
  · intro h d k
    refine ⟨?_, ?_, ?_⟩
    · rintro ballot passed rfl
      exact h.ballots ballot passed k
    · rintro currency comparison value rfl
      exact h.currencies currency comparison value k
    · rintro procedure active rfl
      exact h.procedures procedure active k

/-! ## Procedures -/

theorem checkKind_eq_ok {kind : ProcedureKind} :
    r.known.checkKind owner kind = .ok () ↔ r.CoversKind kind := by
  cases kind with
  | governmental => exact iff_of_true rfl trivial
  | targeted =>
    rw [Known.checkKind, forM_need_eq_ok]
    simp only [CoversKind, mem_known_ballots]
  | declared =>
    rw [Known.checkKind, andThen_eq_ok, forM_need_eq_ok, forM_need_eq_ok]
    simp only [CoversKind, mem_known_roles, mem_known_ballots]

theorem checkOwnFunds_eq_ok {kind : ProcedureKind} {e : ProcedureEffect} :
    r.known.checkOwnFunds owner kind e = .ok () ↔
      (kind.isDeclared = false → e.kind.isCurrency = true → e.targets = [] → r.HasTreasury) := by
  unfold Known.checkOwnFunds
  split
  next h =>
    simp only [Bool.and_eq_true, Bool.not_eq_true', List.isEmpty_iff] at h
    simp [needStateCurrency_eq_ok, h]
  next h =>
    simp only [Bool.and_eq_true, Bool.not_eq_true', List.isEmpty_iff, not_and] at h
    refine iff_of_true rfl fun undeclared currency own => ?_
    exact absurd own (h ⟨undeclared, currency⟩)

theorem checkProcedureTarget_eq_ok (free : Free (r.currencies.map (·.id)))
    {kind : ProcedureEffectKind} : r.known.checkProcedureTarget owner kind id = .ok () ↔
      (kind.isCurrency = true → r.ListsPayee id) ∧ (kind.isPermission = true → r.ListsRole id) ∧
      (kind = .procedureActivate ∨ kind = .procedureRemove → r.ListsTargeted id) := by
  cases kind <;>
    simp [Known.checkProcedureTarget, ProcedureEffectKind.isCurrency,
      ProcedureEffectKind.isPermission, need_eq_ok, needPayee_eq_ok free]

theorem checkElectedRole_eq_ok {e : ProcedureEffect} :
    r.known.checkElectedRole owner e = .ok () ↔
      (e.kind = .electNominated ∨ e.kind = .electAppointed →
        ∀ id ∈ e.targets.head?, r.ListsRole id) := by
  have first : (e.targets.take 1).forM (need owner .role r.known.roles) = .ok () ↔
      ∀ id ∈ e.targets.head?, r.ListsRole id := by
    rw [forM_need_eq_ok]
    cases e.targets <;> simp
  unfold Known.checkElectedRole
  split
  next h => rw [first, h, forall_prop_of_true (.inl rfl)]
  next h => rw [first, h, forall_prop_of_true (.inr rfl)]
  next nominated appointed =>
    refine iff_of_true rfl ?_
    rintro (h | h)
    · exact absurd h nominated
    · exact absurd h appointed

theorem checkProcedureEffect_eq_ok (free : Free (r.currencies.map (·.id))) {p : Procedure}
    {e : ProcedureEffect} :
    r.known.checkProcedureEffect p e = .ok () ↔ r.CoversProcedureEffect p.kind e := by
  unfold Known.checkProcedureEffect
  dsimp only
  rw [guard_eq_ok, andThen_eq_ok, andThen_eq_ok, forM_eq_ok, checkOwnFunds_eq_ok,
    checkElectedRole_eq_ok]
  simp only [checkProcedureTarget_eq_ok free]
  constructor
  · rintro ⟨scope, treasury, targets, elected⟩
    refine ⟨fun h => ?_, treasury, fun h id hid => (targets id hid).1 h,
      fun h id hid => (targets id hid).2.1 h, elected, fun h id hid => (targets id hid).2.2 h⟩
    simpa [h] using scope
  · intro h
    refine ⟨?_, h.treasury, fun id hid => ⟨fun k => h.payees k id hid, fun k => h.roles k id hid,
      fun k => h.procedures k id hid⟩, h.electedRole⟩
    rw [Bool.and_eq_true]
    rintro ⟨governmental, floor⟩
    rw [h.scope governmental] at floor
    simp at floor

theorem checkProcedure_eq_ok (free : Free (r.currencies.map (·.id))) {p : Procedure} :
    r.known.checkProcedure p = .ok () ↔ r.CoversProcedure p := by
  unfold Known.checkProcedure
  rw [andThen_eq_ok, forM_eq_ok, checkKind_eq_ok]
  simp only [checkProcedureEffect_eq_ok free]
  exact ⟨fun ⟨kind, effects⟩ => ⟨kind, effects⟩, fun h => ⟨h.kind, h.effects⟩⟩

/-! ## Ballots -/

theorem checkLink_eq_ok {ballot : Ident} {l : Link} :
    r.known.checkLink ballot l = .ok () ↔ r.CoversLink l := by
  obtain ⟨condition, target⟩ := l
  unfold Known.checkLink
  dsimp only
  rw [guard_eq_ok, andThen_eq_ok, checkCondition_eq_ok, Condition.readsVote_iff, not_exists]
  cases target with
  | ballot next =>
    simp only [need_eq_ok, mem_known_ballots]
    constructor
    · rintro ⟨noVote, covered, listed⟩
      exact ⟨covered, noVote, by simpa [LinkTarget.ballot?] using listed⟩
    · intro h
      exact ⟨h.noVote, h.condition, h.target next rfl⟩
  | finish =>
    constructor
    · rintro ⟨noVote, covered, -⟩
      exact ⟨covered, noVote, by simp [LinkTarget.ballot?]⟩
    · intro h
      exact ⟨h.noVote, h.condition, rfl⟩

theorem checkBallotTarget_eq_ok (free : Free (r.currencies.map (·.id)))
    {kind : BallotEffectKind} : r.known.checkBallotTarget owner kind id = .ok () ↔
      (kind = .foundParty ∨ kind = .dissolveParty → r.ListsParty id) ∧
      (kind = .activateProcedure ∨ kind = .removeProcedure ∨ kind = .replaceProcedure →
        r.ListsTargeted id) ∧
      (kind = .modifyCurrency → r.ListsPayee id) := by
  cases kind <;> simp [Known.checkBallotTarget, need_eq_ok, needPayee_eq_ok free]

theorem checkConsequence_eq_ok (free : Free (r.currencies.map (·.id))) {ballot : Ident}
    {c : Consequence} : r.known.checkConsequence ballot c = .ok () ↔ r.CoversConsequence c := by
  unfold Known.checkConsequence
  rw [andThen_eq_ok, forM_eq_ok, forM_eq_ok]
  simp only [forM_eq_ok, checkLink_eq_ok, checkBallotTarget_eq_ok free]
  constructor
  · rintro ⟨links, effects⟩
    refine ⟨fun e he => ⟨fun h id hid => ?_, fun h id hid => ?_, fun h id hid => ?_⟩, links⟩
    · exact (effects e he id hid).1 h
    · exact (effects e he id hid).2.1 h
    · exact (effects e he id hid).2.2 h
  · intro h
    refine ⟨h.links, fun e he id hid => ⟨fun k => ?_, fun k => ?_, fun k => ?_⟩⟩
    · exact (h.effects e he).parties k id hid
    · exact (h.effects e he).procedures k id hid
    · exact (h.effects e he).payees k id hid

theorem checkResolution_eq_ok {b : Ballot} : r.known.checkResolution b = .ok () ↔
    (∀ c ∈ b.resolution, r.CoversCondition c) ∧
      (b.incident = true → b.resolution.isSome = true) := by
  unfold Known.checkResolution
  split
  next c h => simp [h, checkCondition_eq_ok]
  next h =>
    split
    next incident => simp [h, incident]
    next incident => simp [h, incident]

theorem checkBallot_eq_ok (free : Free (r.currencies.map (·.id))) {b : Ballot} :
    r.known.checkBallot b = .ok () ↔ r.CoversBallot b := by
  unfold Known.checkBallot
  rw [andThen_eq_ok, andThen_eq_ok, checkResolution_eq_ok, checkConsequence_eq_ok free,
    checkConsequence_eq_ok free]
  exact ⟨fun ⟨⟨resolution, resolvable⟩, pass, fail⟩ => ⟨pass, fail, resolution, resolvable⟩,
    fun h => ⟨⟨h.resolution, h.resolvable⟩, h.pass, h.fail⟩⟩

/-! ## Currencies -/

theorem checkOwners_eq_ok {first : Option Ident} {l : List CurrencyDef} :
    r.known.checkOwners first l = .ok () ↔
      first.toList.length + (l.filter fun c => c.owner = .state).length ≤ 1 ∧
        ∀ c ∈ l, r.ListsOwner c.owner := by
  induction l generalizing first with
  | nil => cases first <;> simp [Known.checkOwners]
  | cons c l ih =>
    unfold Known.checkOwners
    rw [List.forall_mem_cons]
    cases owner : c.owner with
    | state =>
      cases first with
      | none =>
        dsimp only
        rw [ih, List.filter_cons_of_pos (by simp [owner])]
        simp [ListsOwner, Nat.add_comm]
      | some id =>
        rw [List.filter_cons_of_pos (by simp [owner])]
        -- The state owns a currency already.
        refine iff_of_false (by simp) ?_
        rintro ⟨atMost, -⟩
        simp only [Option.toList_some, List.length_cons, List.length_nil] at atMost
        omega
    | party id =>
      dsimp only
      rw [andThen_eq_ok, need_eq_ok, mem_known_parties, ih,
        List.filter_cons_of_neg (by simp [owner])]
      exact and_left_comm
    | region id =>
      dsimp only
      rw [andThen_eq_ok, need_eq_ok, mem_known_regions, ih,
        List.filter_cons_of_neg (by simp [owner])]
      exact and_left_comm

/-! ## The whole book -/

theorem check_eq_ok : r.check = .ok () ↔
    r.checkSpaces = .ok () ∧ r.known.checkOwners none r.currencies = .ok () ∧
      (∀ p ∈ r.procedures, r.known.checkProcedure p = .ok ()) ∧
      (∀ b ∈ r.ballots, r.known.checkBallot b = .ok ()) ∧ r.wording.check = .ok () := by
  rw [check, andThen_eq_ok, andThen_eq_ok, andThen_eq_ok, andThen_eq_ok, forM_eq_ok, forM_eq_ok]

/-- What a session relies on: whatever is referred to in procedures and ballots is there. -/
structure Covered (r : Rulebook) : Prop where
  currencies : Free (r.currencies.map (·.id))
  procedures : ∀ p ∈ r.procedures, r.CoversProcedure p
  ballots : ∀ b ∈ r.ballots, r.CoversBallot b

theorem covered_of_check (h : r.check = .ok ()) : r.Covered := by
  obtain ⟨spaces, -, procedures, ballots, -⟩ := check_eq_ok.1 h
  obtain ⟨-, -, free, -, -⟩ := checkSpaces_eq_ok.1 spaces
  exact ⟨free, fun p hp => (checkProcedure_eq_ok free).1 (procedures p hp),
    fun b hb => (checkBallot_eq_ok free).1 (ballots b hb)⟩

theorem CoversBallot.consequence {b : Ballot} (h : r.CoversBallot b) (passed : Bool) :
    r.CoversConsequence (b.consequence passed) := by
  cases passed with
  | true => exact h.pass
  | false => exact h.fail

theorem Covered.consequence (h : r.Covered) {id : Ident} {b : Ballot}
    (listed : r.ballot? id = some b) (passed : Bool) :
    r.CoversConsequence (b.consequence passed) :=
  (h.ballots b (mem_of_ballot? listed)).consequence passed

/-- The order of the checks decides which flaw is reported, but not whether there is one. -/
theorem check_eq_ok_iff_wellFormed : r.check = .ok () ↔ r.WellFormed := by
  rw [check_eq_ok, checkSpaces_eq_ok, checkOwners_eq_ok, Wording.check_eq_ok]
  simp only [Option.toList_none, List.length_nil, Nat.zero_add]
  constructor
  · rintro ⟨⟨⟨distinct, allowed⟩, factions, free, procedureNames, ballotNames⟩,
      ⟨oneTreasury, owners⟩, procedures, ballots, wording⟩
    refine ⟨distinct, allowed, factions, free, procedureNames, ballotNames, oneTreasury, owners,
      fun p hp => ?_, fun b hb => ?_, wording⟩
    · exact (checkProcedure_eq_ok free).1 (procedures p hp)
    · exact (checkBallot_eq_ok free).1 (ballots b hb)
  · intro h
    have free := h.currencies
    refine ⟨⟨⟨h.rolesDistinct, h.rolesAllowed⟩, h.factions, free, h.procedures, h.ballots⟩,
      ⟨h.oneTreasury, h.owners⟩, fun p hp => ?_, fun b hb => ?_, h.wording⟩
    · exact (checkProcedure_eq_ok free).2 (h.procedureEntries p hp)
    · exact (checkBallot_eq_ok free).2 (h.ballotEntries b hb)

end Parliament.Rulebook
