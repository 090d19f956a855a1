import Parliament.Proofs.Rulebook.Check

/-! # Clashes of names

A rule book is checked for many flaws, but that a name is reserved or used twice is for the check of
the names alone to find. Once the names pass, whatever is wrong with the book is something else.
-/

namespace Parliament

/-- A name that cannot be used: it is reserved or belongs to something else. -/
def Flaw.IsClash : Flaw → Prop
  | .reservedName _ _ | .repeatedName _ _ => True
  | _ => False

namespace Rulebook

/-- The check may find a flaw, but not a clash. -/
def Clashless (x : Except Flaw Unit) : Prop := ∀ flaw, x = .error flaw → ¬ flaw.IsClash

@[simp] theorem clashless_ok : Clashless (.ok ()) := nofun

@[simp] theorem clashless_error {flaw : Flaw} : Clashless (.error flaw) ↔ ¬ flaw.IsClash := by
  simp [Clashless]

theorem Clashless.andThen {x y : Except Flaw Unit} (hx : Clashless x) (hy : Clashless y) :
    Clashless (do x; y) := by
  intro flaw h
  obtain first | ⟨-, second⟩ := andThen_eq_error.1 h
  · exact hx flaw first
  · exact hy flaw second

theorem clashless_forM {α : Type} {f : α → Except Flaw Unit} {l : List α}
    (h : ∀ a, Clashless (f a)) : Clashless (l.forM f) := by
  intro flaw failed
  obtain ⟨-, a, -, -, -, found⟩ := forM_eq_error.1 failed
  exact h a flaw found

theorem Clashless.guard {c : Prop} [Decidable c] {flaw : Flaw} {x : Except Flaw Unit}
    (other : ¬ flaw.IsClash) (hx : Clashless x) :
    Clashless (if c then do { let _ ← (Except.error flaw : Except Flaw Unit); x } else x) := by
  split
  · exact clashless_error.2 other
  · exact hx

variable {k : Known} {owner : Referrer} {id : Ident}

theorem clashless_need {space : Space} {names : IdSet} :
    Clashless (need owner space names id) := by
  unfold need
  split <;> simp [Flaw.IsClash]

namespace Known

theorem clashless_needStateCurrency : Clashless (k.needStateCurrency owner) := by
  unfold needStateCurrency
  split <;> simp [Flaw.IsClash]

theorem clashless_needPayee : Clashless (k.needPayee owner id) := by
  unfold needPayee
  split
  · exact clashless_needStateCurrency
  · split
    · exact clashless_ok
    · exact clashless_need

/-! ## Conditions and procedures -/

theorem clashless_checkCondition {c : Condition} : Clashless (k.checkCondition owner c) := by
  refine clashless_forM fun d => ?_
  cases d with
  | ballotPassed | currencyValue | procedureActive => exact clashless_need
  | _ => exact clashless_ok

theorem clashless_checkKind {kind : ProcedureKind} : Clashless (k.checkKind owner kind) := by
  cases kind with
  | governmental => exact clashless_ok
  | targeted => exact clashless_forM fun _ => clashless_need
  | declared =>
    exact .andThen (clashless_forM fun _ => clashless_need) (clashless_forM fun _ => clashless_need)

theorem clashless_checkProcedureTarget {kind : ProcedureEffectKind} :
    Clashless (k.checkProcedureTarget owner kind id) := by
  cases kind with
  | currencyAdd | currencySubtract => exact clashless_needPayee
  | permissionCanVote | permissionVotes | permissionCanSpeak | procedureActivate
  | procedureRemove => exact clashless_need
  | _ => exact clashless_ok

theorem clashless_checkElectedRole {e : ProcedureEffect} :
    Clashless (k.checkElectedRole owner e) := by
  unfold checkElectedRole
  split
  · exact clashless_forM fun _ => clashless_need
  · exact clashless_forM fun _ => clashless_need
  · exact clashless_ok

theorem clashless_checkOwnFunds {kind : ProcedureKind} {e : ProcedureEffect} :
    Clashless (k.checkOwnFunds owner kind e) := by
  unfold checkOwnFunds
  split
  · exact clashless_needStateCurrency
  · exact clashless_ok

theorem clashless_checkProcedure {p : Procedure} : Clashless (k.checkProcedure p) := by
  refine .andThen clashless_checkKind (clashless_forM fun e => .guard (by simp [Flaw.IsClash]) ?_)
  refine .andThen clashless_checkOwnFunds (.andThen ?_ clashless_checkElectedRole)
  exact clashless_forM fun _ => clashless_checkProcedureTarget

/-! ## Ballots and currencies -/

theorem clashless_checkLink {ballot : Ident} {l : Link} : Clashless (k.checkLink ballot l) := by
  refine .guard (by simp [Flaw.IsClash]) (.andThen clashless_checkCondition ?_)
  cases l.target with
  | ballot => exact clashless_need
  | finish => exact clashless_ok

theorem clashless_checkBallotTarget {kind : BallotEffectKind} :
    Clashless (k.checkBallotTarget owner kind id) := by
  cases kind with
  | modifyCurrency => exact clashless_needPayee
  | _ => exact clashless_need

theorem clashless_checkConsequence {ballot : Ident} {c : Consequence} :
    Clashless (k.checkConsequence ballot c) :=
  .andThen (clashless_forM fun _ => clashless_checkLink)
    (clashless_forM fun _ => clashless_forM fun _ => clashless_checkBallotTarget)

theorem clashless_checkResolution {b : Ballot} : Clashless (k.checkResolution b) := by
  unfold checkResolution
  split
  · exact clashless_checkCondition
  · split <;> simp [Flaw.IsClash]

theorem clashless_checkBallot {b : Ballot} : Clashless (k.checkBallot b) :=
  .andThen clashless_checkResolution
    (.andThen clashless_checkConsequence clashless_checkConsequence)

theorem clashless_checkOwners {first : Option Ident} {l : List CurrencyDef} :
    Clashless (k.checkOwners first l) := by
  induction l generalizing first with
  | nil => exact clashless_ok
  | cons c l ih =>
    unfold checkOwners
    cases c.owner with
    | state =>
      cases first with
      | none => exact ih
      | some => simp [Flaw.IsClash]
    | party => exact .andThen clashless_need ih
    | region => exact .andThen clashless_need ih

end Known

theorem clashless_checkWording {w : Wording} : Clashless w.check := by
  unfold Wording.check
  split <;> simp [Flaw.IsClash]

/-! ## The whole book -/

theorem check_eq_clash_iff {r : Rulebook} {flaw : Flaw} (clash : flaw.IsClash) :
    r.check = .error flaw ↔ r.checkSpaces = .error flaw := by
  have others : Clashless (do
      r.known.checkOwners none r.currencies
      r.procedures.forM r.known.checkProcedure
      r.ballots.forM r.known.checkBallot
      r.wording.check) :=
    .andThen Known.clashless_checkOwners
      (.andThen (clashless_forM fun _ => Known.clashless_checkProcedure)
        (.andThen (clashless_forM fun _ => Known.clashless_checkBallot) clashless_checkWording))
  rw [check, andThen_eq_error, or_iff_left]
  rintro ⟨-, found⟩
  exact others flaw found clash

end Rulebook

end Parliament
