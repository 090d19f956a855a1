import Parliament.Ident
import Parliament.Vocabulary

/-! # Effects

An effect is a kind, a list of targets and a signed byte. Only sound combinations are effects: the
type carries the proof, so nothing has to be checked when an effect is applied.
-/

namespace Parliament

/-! ## What can be wrong with an effect -/

inductive EffectDefect
  | noTargets
  | wrongArity (expected actual : Nat)
  | zeroValue
  | valueOutOfRange (value : Int8)
deriving DecidableEq

structure EffectError where
  kind : String
  defect : EffectDefect
deriving DecidableEq

def EffectError.message (e : EffectError) : String :=
  match e.defect with
  | .noTargets => s!"{e.kind} effect must carry at least one target"
  | .wrongArity expected actual =>
    s!"{e.kind} effect needs exactly {expected} targets, got {actual}"
  | .zeroValue => s!"{e.kind} effect cannot carry a zero value"
  | .valueOutOfRange value => s!"{e.kind} effect value {value.toInt} is out of range"

/-! ## Effects of procedures -/

inductive ProcedureEffectKind
  | electParty
  | electRegion
  | electNominated
  | electAppointed
  | permissionCanVote
  | permissionVotes
  | permissionCanSpeak
  | votePassBonus
  | voteFailBonus
  | supermajority
  | currencyAdd
  | currencySubtract
  | procedureActivate
  | procedureRemove
  | ballotLimit
  | ballotPass
  | ballotFail
deriving DecidableEq, Inhabited

namespace ProcedureEffectKind

def word : ProcedureEffectKind → String
  | electParty => "elect_party"
  | electRegion => "elect_region"
  | electNominated => "elect_nominated"
  | electAppointed => "elect_appointed"
  | permissionCanVote => "permission_can_vote"
  | permissionVotes => "permission_votes"
  | permissionCanSpeak => "permission_can_speak"
  | votePassBonus => "vote_pass_bonus"
  | voteFailBonus => "vote_fail_bonus"
  | supermajority => "supermajority"
  | currencyAdd => "currency_add"
  | currencySubtract => "currency_subtract"
  | procedureActivate => "procedure_activate"
  | procedureRemove => "procedure_remove"
  | ballotLimit => "ballot_limit"
  | ballotPass => "ballot_pass"
  | ballotFail => "ballot_fail"

def all : List ProcedureEffectKind :=
  [electParty, electRegion, electNominated, electAppointed, permissionCanVote, permissionVotes,
    permissionCanSpeak, votePassBonus, voteFailBonus, supermajority, currencyAdd,
    currencySubtract, procedureActivate, procedureRemove, ballotLimit, ballotPass, ballotFail]

instance : Vocabulary ProcedureEffectKind := ⟨"ProcedureEffectKind", all, word⟩

theorem find?_word (k : ProcedureEffectKind) :
    Vocabulary.find? ProcedureEffectKind k.word = some k := by
  cases k <;> decide

def isElection : ProcedureEffectKind → Bool
  | electParty | electRegion | electNominated | electAppointed => true
  | _ => false

def isPermission : ProcedureEffectKind → Bool
  | permissionCanVote | permissionVotes | permissionCanSpeak => true
  | _ => false

def isCurrency : ProcedureEffectKind → Bool
  | currencyAdd | currencySubtract => true
  | _ => false

/-- The kind makes sense only while a ballot is open. -/
def isBallotScoped : ProcedureEffectKind → Bool
  | votePassBonus | voteFailBonus | supermajority | ballotLimit | ballotPass | ballotFail => true
  | _ => false

def needsTargets : ProcedureEffectKind → Bool
  | electNominated | electAppointed | ballotLimit | procedureActivate | procedureRemove => true
  | _ => false

def defect? (kind : ProcedureEffectKind) (targets : List Ident) (value : Int8) :
    Option EffectDefect :=
  if kind.isCurrency && value == 0 then some .zeroValue
  else if kind.needsTargets && targets.isEmpty then some .noTargets
  else if (kind == votePassBonus || kind == voteFailBonus) && decide (value ≤ 0) then
    some (.valueOutOfRange value)
  else if kind == permissionVotes && decide (value < 0) then some (.valueOutOfRange value)
  else none

end ProcedureEffectKind

/-- The targets are currencies, roles, procedures, or people to be filtered, as the kind has it. -/
structure ProcedureEffect where
  kind : ProcedureEffectKind
  targets : List Ident
  value : Int8
  sound : kind.defect? targets value = none
deriving DecidableEq

namespace ProcedureEffect

def make (kind : ProcedureEffectKind) (targets : List Ident) (value : Int8) :
    Except EffectError ProcedureEffect :=
  match h : kind.defect? targets value with
  | none => .ok ⟨kind, targets, value, h⟩
  | some d => .error ⟨kind.word, d⟩

theorem make_eq_ok (e : ProcedureEffect) : make e.kind e.targets e.value = .ok e := by
  unfold make
  split
  · rfl
  · next h => simp [e.sound] at h

theorem targets_ne_nil (e : ProcedureEffect) (h : e.kind.needsTargets = true) :
    e.targets ≠ [] := by
  intro ht
  have hs := e.sound
  simp only [ProcedureEffectKind.defect?, h, ht, List.isEmpty_nil, Bool.and_self, if_true] at hs
  split at hs <;> simp at hs

end ProcedureEffect

/-! ## Effects of ballots -/

inductive BallotEffectKind
  | foundParty
  | dissolveParty
  | activateProcedure
  | removeProcedure
  | replaceProcedure
  | modifyCurrency
deriving DecidableEq, Inhabited

namespace BallotEffectKind

def word : BallotEffectKind → String
  | foundParty => "found_party"
  | dissolveParty => "dissolve_party"
  | activateProcedure => "activate_procedure"
  | removeProcedure => "remove_procedure"
  | replaceProcedure => "replace_procedure"
  | modifyCurrency => "modify_currency"

def all : List BallotEffectKind :=
  [foundParty, dissolveParty, activateProcedure, removeProcedure, replaceProcedure, modifyCurrency]

instance : Vocabulary BallotEffectKind := ⟨"BallotEffectKind", all, word⟩

theorem find?_word (k : BallotEffectKind) : Vocabulary.find? BallotEffectKind k.word = some k := by
  cases k <;> decide

def defect? (kind : BallotEffectKind) (targets : List Ident) (value : Int8) :
    Option EffectDefect :=
  if targets.isEmpty then some .noTargets
  else if kind == replaceProcedure && targets.length != 2 then
    some (.wrongArity 2 targets.length)
  else if kind == modifyCurrency && value == 0 then some .zeroValue
  else none

end BallotEffectKind

/-- The targets are parties, procedures or currencies, as the kind has it. There is at least one. -/
structure BallotEffect where
  kind : BallotEffectKind
  targets : List Ident
  value : Int8
  sound : kind.defect? targets value = none
deriving DecidableEq

namespace BallotEffect

def make (kind : BallotEffectKind) (targets : List Ident) (value : Int8) :
    Except EffectError BallotEffect :=
  match h : kind.defect? targets value with
  | none => .ok ⟨kind, targets, value, h⟩
  | some d => .error ⟨kind.word, d⟩

theorem make_eq_ok (e : BallotEffect) : make e.kind e.targets e.value = .ok e := by
  unfold make
  split
  · rfl
  · next h => simp [e.sound] at h

end BallotEffect

end Parliament
