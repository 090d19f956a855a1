import Mathlib.Tactic.SplitIfs
import Parliament.Description
import Parliament.Proofs.Success
import Parliament.Proofs.Wording

/-! # Descriptions that can be given

Which keys a description looks up can be told from what is described, whatever it is about and
whoever has a name. It can be given if the wording has them all. The keys that every wording needs
are those that some description looks up.
-/

namespace Parliament

/-! ## Keys

The keys that a description looks up, in this order.
-/

def Comparison.keys (c : Comparison) : List String := ["comparison." ++ c.word]

namespace Condition

mutual

def keys : Condition → List String
  | always => ["condition.always"]
  | never => ["condition.never"]
  | all cs => keysOfAll cs ++ ["condition.and"]
  | any cs => keysOfAll cs ++ ["condition.or"]
  | vote true => ["condition.vote.pass"]
  | vote false => ["condition.vote.fail"]
  | ballotPassed _ passed =>
    [if passed then "condition.ballot.passed" else "condition.ballot.failed"]
  | passedCount comparison _ => comparison.keys ++ ["condition.passed_count"]
  | currencyValue _ comparison _ => comparison.keys ++ ["condition.currency_value"]
  | procedureActive _ active =>
    [if active then "condition.procedure.active" else "condition.procedure.inactive"]

def keysOfAll : List Condition → List String
  | [] => []
  | c :: cs => keys c ++ keysOfAll cs

end

end Condition

def keysOfPayee (a : Ident) : List String :=
  if a = .stateFunds then ["target.state"]
  else if a = .partyFunds then ["target.party"]
  else if a = .regionFunds then ["target.region"]
  else []

namespace ProcedureEffect

def keysOfTargets (e : ProcedureEffect) : List String :=
  if e.targets.isEmpty && e.kind.isPermission then ["target.random"]
  else if e.targets.isEmpty && e.kind.isCurrency then ["target.owned"]
  else if e.kind.isCurrency then e.targets.flatMap keysOfPayee
  else []

def keys (e : ProcedureEffect) : List String := e.keysOfTargets ++ ["effect." ++ e.kind.word]

end ProcedureEffect

def BallotEffect.keys (e : BallotEffect) : List String :=
  (if e.kind = .modifyCurrency then e.targets.flatMap keysOfPayee else []) ++
    ["effect." ++ e.kind.word]

def Confirmation.keys (c : Confirmation) : List String := ["confirmation." ++ c.word]

def Procedure.keys (p : Procedure) : List String :=
  p.effects.flatMap ProcedureEffect.keys ++ p.confirmation?.elim [] Confirmation.keys ++
    ["procedure." ++ p.kind.word]

/-! ## Keys that are there -/

def Wording.Covers (w : Wording) (keys : List String) : Prop :=
  ∀ key ∈ keys, (w.get? key).isSome = true

section

variable {w : Wording} {t : NameTable}

@[simp] theorem Wording.covers_nil : w.Covers [] := by simp [Covers]

@[simp] theorem Wording.covers_append {l m : List String} :
    w.Covers (l ++ m) ↔ w.Covers l ∧ w.Covers m :=
  List.forall_mem_append

theorem Wording.covers_flatMap {α : Type} {l : List α} {keys : α → List String} :
    w.Covers (l.flatMap keys) ↔ ∀ a ∈ l, w.Covers (keys a) := by
  simp only [Covers, List.forall_mem_flatMap]

theorem Wording.exists_render_iff {key : String} (values : List (String × String)) :
    (∃ text, w.render key values = .ok text) ↔ w.Covers [key] := by
  unfold render
  cases there : w.get? key <;> simp [Covers, there]

/-! ## Conditions -/

theorem Comparison.exists_describe_iff (c : Comparison) :
    (∃ text, c.describe w = .ok text) ↔ w.Covers c.keys :=
  Wording.exists_render_iff []

namespace Condition

mutual

theorem exists_describe_iff :
    (c : Condition) → ((∃ text, c.describe t w = .ok text) ↔ w.Covers c.keys)
  | .all cs | .any cs => by
    rw [describe, keys, Wording.covers_append, ← exists_describeAll_iff cs]
    exact exists_bind_iff fun _ => Wording.exists_render_iff _
  | .passedCount comparison _ | .currencyValue _ comparison _ => by
    rw [describe, keys, Wording.covers_append, ← comparison.exists_describe_iff]
    exact exists_bind_iff fun _ => Wording.exists_render_iff _
  | .always | .never | .vote true | .vote false | .ballotPassed _ _ | .procedureActive _ _ => by
    rw [describe, keys]
    exact Wording.exists_render_iff _

theorem exists_describeAll_iff :
    (cs : List Condition) → ((∃ texts, describeAll t w cs = .ok texts) ↔ w.Covers (keysOfAll cs))
  | [] => by simp [describeAll, keysOfAll]
  | c :: cs => by
    rw [describeAll, keysOfAll, Wording.covers_append, ← exists_describe_iff c,
      ← exists_describeAll_iff cs]
    exact exists_bind_iff fun _ => exists_bind_pure_iff

end

end Condition

/-! ## Effects -/

theorem exists_describePayee_iff (a : Ident) :
    (∃ text, describePayee t w a = .ok text) ↔ w.Covers (keysOfPayee a) := by
  unfold describePayee keysOfPayee
  split_ifs
  · exact Wording.exists_render_iff []
  · exact Wording.exists_render_iff []
  · exact Wording.exists_render_iff []
  · simp

theorem exists_describePayees_iff (targets : List Ident) :
    (∃ text, describePayees t w targets = .ok text) ↔ w.Covers (targets.flatMap keysOfPayee) := by
  rw [Wording.covers_flatMap]
  simp only [← exists_describePayee_iff (t := t)]
  exact exists_bind_pure_iff.trans exists_mapM_iff

theorem ProcedureEffect.exists_describeTargets_iff (e : ProcedureEffect) :
    (∃ text, e.describeTargets t w = .ok text) ↔ w.Covers e.keysOfTargets := by
  unfold describeTargets keysOfTargets
  split_ifs with random owned currency
  · exact Wording.exists_render_iff []
  · exact Wording.exists_render_iff []
  · cases kind : e.kind with
    | currencyAdd | currencySubtract => exact exists_describePayees_iff e.targets
    | _ => simp [kind, ProcedureEffectKind.isCurrency] at currency
  · cases kind : e.kind with
    | currencyAdd | currencySubtract => simp [kind, ProcedureEffectKind.isCurrency] at currency
    | _ => simp

theorem ProcedureEffect.exists_describe_iff (e : ProcedureEffect) :
    (∃ text, e.describe t w = .ok text) ↔ w.Covers e.keys := by
  rw [describe, keys, Wording.covers_append, ← e.exists_describeTargets_iff]
  exact exists_bind_iff fun _ => Wording.exists_render_iff _

theorem BallotEffect.exists_describeTargets_iff (e : BallotEffect) :
    (∃ text, e.describeTargets t w = .ok text) ↔
      w.Covers (if e.kind = .modifyCurrency then e.targets.flatMap keysOfPayee else []) := by
  unfold describeTargets
  cases e.kind with
  | modifyCurrency => exact exists_describePayees_iff e.targets
  | _ => simp

theorem BallotEffect.exists_describe_iff (e : BallotEffect) :
    (∃ text, e.describe t w = .ok text) ↔ w.Covers e.keys := by
  rw [describe, keys, Wording.covers_append, ← e.exists_describeTargets_iff]
  exact exists_bind_iff fun _ => Wording.exists_render_iff _

/-! ## Procedures -/

theorem Confirmation.exists_describe_iff (c : Confirmation) :
    (∃ text, c.describe w = .ok text) ↔ w.Covers c.keys :=
  Wording.exists_render_iff _

theorem Procedure.exists_describe_iff (p : Procedure) :
    (∃ text, p.describe t w = .ok text) ↔ w.Covers p.keys := by
  have effects : (∃ texts, p.effects.mapM (·.describe t w) = .ok texts) ↔
      w.Covers (p.effects.flatMap ProcedureEffect.keys) := by
    rw [exists_mapM_iff, Wording.covers_flatMap]
    exact forall₂_congr fun e _ => e.exists_describe_iff
  rw [describe, keys, List.append_assoc, Wording.covers_append, Wording.covers_append, ← effects]
  refine exists_bind_iff fun _ => ?_
  cases p.confirmation? with
  | none =>
    rw [Option.elim_none, and_iff_right Wording.covers_nil]
    exact Wording.exists_render_iff _
  | some c =>
    rw [Option.elim_some, ← c.exists_describe_iff]
    exact exists_bind_iff fun _ => Wording.exists_render_iff _

end

/-! ## All that can be described -/

inductive Describable
  | condition (c : Condition)
  | procedureEffect (e : ProcedureEffect)
  | ballotEffect (e : BallotEffect)
  | confirmation (c : Confirmation)
  | procedure (p : Procedure)

namespace Describable

def describe (t : NameTable) (w : Wording) : Describable → Except Fault String
  | condition c => c.describe t w
  | procedureEffect e => e.describe t w
  | ballotEffect e => e.describe t w
  | confirmation c => c.describe w
  | procedure p => p.describe t w

def keys : Describable → List String
  | condition c => c.keys
  | procedureEffect e => e.keys
  | ballotEffect e => e.keys
  | confirmation c => c.keys
  | procedure p => p.keys

theorem exists_describe_iff {t : NameTable} {w : Wording} (d : Describable) :
    (∃ text, d.describe t w = .ok text) ↔ w.Covers d.keys := by
  cases d with
  | condition c => exact c.exists_describe_iff
  | procedureEffect e => exact e.exists_describe_iff
  | ballotEffect e => exact e.exists_describe_iff
  | confirmation c => exact c.exists_describe_iff
  | procedure p => exact p.exists_describe_iff

end Describable

/-! ## Keys that are needed -/

section

open Wording (neededKeys)

theorem Comparison.keys_subset (c : Comparison) : c.keys ⊆ neededKeys := by
  cases c <;> decide

namespace Condition

mutual

theorem keys_subset : (c : Condition) → c.keys ⊆ neededKeys
  | .all cs | .any cs => by
    rw [keys]
    exact List.append_subset.2 ⟨keysOfAll_subset cs, by decide⟩
  | .passedCount comparison _ | .currencyValue _ comparison _ => by
    rw [keys]
    exact List.append_subset.2 ⟨comparison.keys_subset, by decide⟩
  | .always | .never | .vote true | .vote false | .ballotPassed _ true | .ballotPassed _ false
  | .procedureActive _ true | .procedureActive _ false => by
    rw [keys]
    decide

theorem keysOfAll_subset : (cs : List Condition) → keysOfAll cs ⊆ neededKeys
  | [] => List.nil_subset _
  | c :: cs => by
    rw [keysOfAll]
    exact List.append_subset.2 ⟨keys_subset c, keysOfAll_subset cs⟩

end

end Condition

theorem keysOfPayee_subset (a : Ident) : keysOfPayee a ⊆ neededKeys := by
  unfold keysOfPayee
  split_ifs
  all_goals decide

theorem keysOfPayees_subset (targets : List Ident) :
    targets.flatMap keysOfPayee ⊆ neededKeys := by
  intro key mem
  obtain ⟨a, -, there⟩ := List.mem_flatMap.1 mem
  exact keysOfPayee_subset a there

theorem ProcedureEffect.keys_subset (e : ProcedureEffect) : e.keys ⊆ neededKeys := by
  refine List.append_subset.2 ⟨?_, by cases e.kind <;> decide⟩
  unfold keysOfTargets
  split_ifs
  · decide
  · decide
  · exact keysOfPayees_subset e.targets
  · decide

theorem BallotEffect.keys_subset (e : BallotEffect) : e.keys ⊆ neededKeys := by
  refine List.append_subset.2 ⟨?_, by cases e.kind <;> decide⟩
  split_ifs
  · exact keysOfPayees_subset e.targets
  · decide

theorem Confirmation.keys_subset (c : Confirmation) : c.keys ⊆ neededKeys := by
  cases c <;> (rw [keys, word]; decide)

theorem Procedure.keys_subset (p : Procedure) : p.keys ⊆ neededKeys := by
  refine List.append_subset.2 ⟨List.append_subset.2 ⟨?_, ?_⟩, ?_⟩
  · intro key mem
    obtain ⟨e, -, there⟩ := List.mem_flatMap.1 mem
    exact e.keys_subset there
  · cases p.confirmation? with
    | none => exact List.nil_subset _
    | some c => exact c.keys_subset
  · cases p.kind <;> (rw [ProcedureKind.word]; decide)

theorem Describable.keys_subset (d : Describable) : d.keys ⊆ neededKeys := by
  cases d with
  | condition c => exact c.keys_subset
  | procedureEffect e => exact e.keys_subset
  | ballotEffect e => exact e.keys_subset
  | confirmation c => exact c.keys_subset
  | procedure p => exact p.keys_subset

end

/-! ## Keys that are looked up -/

namespace Describable

/-- Descriptions that look up every needed key between them. -/
def samples : List Describable :=
  [.always, .never, .all [], .any [], .vote true, .vote false, .ballotPassed ⟨0⟩ true,
      .ballotPassed ⟨0⟩ false, .procedureActive ⟨0⟩ true, .procedureActive ⟨0⟩ false,
      .currencyValue ⟨0⟩ .equal 0].map condition ++
    Comparison.all.map (fun c => condition (.passedCount c 0)) ++
    ProcedureEffectKind.all.map (fun kind =>
      procedureEffect ⟨kind, [⟨0⟩], 1, by cases kind <;> rfl⟩) ++
    [⟨.permissionVotes, [], 1, rfl⟩, ⟨.currencyAdd, [], 1, rfl⟩,
      ⟨.currencyAdd, [.stateFunds, .partyFunds, .regionFunds], 1, rfl⟩].map procedureEffect ++
    BallotEffectKind.all.map (fun kind =>
      ballotEffect ⟨kind, [⟨0⟩, ⟨1⟩], 1, by cases kind <;> rfl⟩) ++
    [.always, .divisionChamber, .currencyValue 0, .diceValue 0, .diceCurrency,
      .diceAdversarial].map confirmation ++
    [.governmental, .targeted [] true, .declared .always [] []].map fun kind =>
      procedure ⟨⟨0⟩, "", kind, []⟩

theorem neededKeys_subset : Wording.neededKeys ⊆ samples.flatMap keys := by
  decide +kernel

end Describable

/-- A wording passes exactly if everything can be described with it, whatever has a name and
whatever has none. -/
theorem Wording.check_iff_describes (w : Wording) (t : NameTable) :
    w.check = .ok () ↔ ∀ d : Describable, ∃ text, d.describe t w = .ok text := by
  rw [check_eq_ok]
  simp only [Describable.exists_describe_iff]
  constructor
  · intro complete d key mem
    exact complete key (d.keys_subset mem)
  · intro covered key needed
    obtain ⟨d, -, mem⟩ := List.mem_flatMap.1 (Describable.neededKeys_subset needed)
    exact covered d key mem

end Parliament
