import Mathlib.Data.List.Sort
import Parliament.Election

/-! # How requests are arranged

To arrange requests is to sort them by insertion, and requests of equal rank keep their order.
-/

namespace Parliament.ElectionRequest

/-! ## The order of requests -/

def Precedes (a b : ElectionRequest) : Prop := a.mayPrecede b = true

instance : DecidableRel Precedes := fun a b => inferInstanceAs (Decidable (a.mayPrecede b = true))

/-- The place of a request among all: elections among factions, then elections to roles without a
procedure, then those of the procedures. -/
def rank (r : ElectionRequest) : Nat :=
  if r.kind.fillsRole then (r.procedure.map fun p => p.toNat + 2).getD 1 else 0

theorem precedes_iff {a b : ElectionRequest} : Precedes a b ↔ a.rank ≤ b.rank := by
  unfold Precedes mayPrecede rank
  cases a.kind.fillsRole <;> cases b.kind.fillsRole <;>
    cases a.procedure <;> cases b.procedure <;> simp [Ident.lt_def, Ident.toNat]

instance : Std.Total Precedes where
  total a b := by
    rw [precedes_iff, precedes_iff]
    exact Nat.le_total _ _

instance : IsTrans ElectionRequest Precedes where
  trans a b c := by
    rw [precedes_iff, precedes_iff, precedes_iff]
    exact Nat.le_trans

/-! ## Arranging -/

theorem place_eq_orderedInsert (a : ElectionRequest) (l : List ElectionRequest) :
    a.place l = l.orderedInsert Precedes a := by
  induction l with
  | nil => rfl
  | cons b l ih =>
    rw [place, List.orderedInsert_cons, ih]
    rfl

theorem arrange_eq_insertionSort (l : List ElectionRequest) :
    arrange l = l.insertionSort Precedes := by
  induction l with
  | nil => rfl
  | cons a l ih =>
    rw [List.insertionSort_cons, ← ih, ← place_eq_orderedInsert]
    rfl

theorem pairwise_arrange (l : List ElectionRequest) : (arrange l).Pairwise Precedes := by
  rw [arrange_eq_insertionSort]
  exact List.pairwise_insertionSort Precedes l

theorem filter_arrange {p : ElectionRequest → Bool} {n : Nat}
    (same : ∀ r, p r = true → r.rank = n) (l : List ElectionRequest) :
    (arrange l).filter p = l.filter p := by
  have equal : (l.filter p).Pairwise Precedes := by
    refine List.pairwise_of_forall_mem_list fun a ha b hb => ?_
    rw [precedes_iff, same a (List.mem_filter.1 ha).2, same b (List.mem_filter.1 hb).2]
  have within : (l.filter p).Sublist (arrange l) := by
    rw [arrange_eq_insertionSort]
    exact List.sublist_insertionSort equal List.filter_sublist
  have sub : (l.filter p).Sublist ((arrange l).filter p) := by
    simpa using within.filter p
  exact (sub.eq_of_length ((arrange_perm l).filter p).length_eq.symm).symm

theorem eq_filter_append_filter {l : List ElectionRequest} (sorted : l.Pairwise Precedes) :
    l = l.filter (! ·.kind.fillsRole) ++ l.filter (·.kind.fillsRole) := by
  induction l with
  | nil => rfl
  | cons a l ih =>
    obtain ⟨first, rest⟩ := List.pairwise_cons.1 sorted
    cases role : a.kind.fillsRole with
    | false =>
      rw [List.filter_cons_of_pos (by simp [role]), List.filter_cons_of_neg (by simp [role]),
        List.cons_append, ← ih rest]
    | true =>
      -- Behind an election to a role there are none among factions.
      have roles : ∀ b ∈ l, b.kind.fillsRole = true := by
        intro b hb
        have before : a.mayPrecede b = true := first b hb
        cases kind : b.kind.fillsRole with
        | true => rfl
        | false => simp [mayPrecede, role, kind] at before
      have none : l.filter (! ·.kind.fillsRole) = [] := by
        rw [List.filter_eq_nil_iff]
        intro b hb
        simp [roles b hb]
      rw [List.filter_cons_of_neg (by simp [role]), none, List.nil_append,
        List.filter_cons_of_pos (by simp [role]), List.filter_eq_self.2 roles]

/-! ## Batches -/

/-- What was asked for is in the batch, no more and no less. Elections among factions come first, as
they were asked for; those to roles follow by the name of their procedure, and where that is the
same as they were asked for. -/
structure Arranged (asked batch : List ElectionRequest) : Prop where
  perm : batch.Perm asked
  factionsFirst : batch =
    asked.filter (! ·.kind.fillsRole) ++ batch.filter (·.kind.fillsRole)
  byProcedure : (batch.filter (·.kind.fillsRole)).Pairwise fun a b =>
    ∀ p ∈ a.procedure, ∀ q ∈ b.procedure, p.toNat ≤ q.toNat
  ties : ∀ procedure,
    batch.filter (fun r => r.kind.fillsRole && r.procedure == procedure) =
      asked.filter fun r => r.kind.fillsRole && r.procedure == procedure

theorem arranged_arrange (l : List ElectionRequest) : Arranged l (arrange l) := by
  refine ⟨arrange_perm l, ?_, ?_, fun procedure => ?_⟩
  · have factions : (arrange l).filter (! ·.kind.fillsRole) = l.filter (! ·.kind.fillsRole) := by
      refine filter_arrange (n := 0) (fun r faction => ?_) l
      have faction : r.kind.fillsRole = false := by simpa using faction
      simp [rank, faction]
    rw [← factions]
    exact eq_filter_append_filter (pairwise_arrange l)
  · refine ((pairwise_arrange l).filter _).imp_of_mem fun {a b} ha hb before p hp q hq => ?_
    rw [precedes_iff, rank, rank, if_pos (List.mem_filter.1 ha).2,
      if_pos (List.mem_filter.1 hb).2, Option.mem_def.1 hp, Option.mem_def.1 hq] at before
    simpa using before
  · refine filter_arrange (n := (procedure.map fun p => p.toNat + 2).getD 1) (fun r h => ?_) l
    rw [Bool.and_eq_true, beq_iff_eq] at h
    rw [rank, if_pos h.1, h.2]

end Parliament.ElectionRequest
