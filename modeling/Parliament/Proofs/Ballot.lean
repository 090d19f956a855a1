import Parliament.Ballot
import Parliament.Proofs.Condition

/-! # Links that are followed

Links are asked in order, and the first one that holds is followed. Whether there is an answer, and
whether it depends on the vote, is a matter of the conditions alone.
-/

namespace Parliament

theorem LinkTarget.ballot?_eq_some_iff {t : LinkTarget} {id : Ident} :
    t.ballot? = some id ↔ t = .ballot id := by
  cases t <;> simp [ballot?]

theorem LinkTarget.ballot?_eq_none_iff {t : LinkTarget} : t.ballot? = none ↔ t = .finish := by
  cases t <;> simp [ballot?]

namespace Link

variable {v : Condition.View} {links : List Link} {l : Link} {next : Option Ident}

/-! ## The first link that holds -/

/-- The conditions of the links before it do not hold, and its own does. -/
def IsFirst (v : Condition.View) (links : List Link) (l : Link) : Prop :=
  ∃ before after, links = before ++ l :: after ∧
    (∀ m ∈ before, m.condition.evaluate v = .ok false) ∧ l.condition.evaluate v = .ok true

def NoneHolds (v : Condition.View) (links : List Link) : Prop :=
  ∀ l ∈ links, l.condition.evaluate v = .ok false

theorem IsFirst.mem (h : IsFirst v links l) : l ∈ links := by
  obtain ⟨before, after, rfl, -⟩ := h
  simp

theorem follow_append {before : List Link} (passed : NoneHolds v before) (links : List Link) :
    follow v (before ++ links) = follow v links := by
  induction before with
  | nil => rfl
  | cons m before ih =>
    rw [List.cons_append, follow, passed m List.mem_cons_self]
    exact ih fun n there => passed n (List.mem_cons_of_mem m there)

theorem follow_of_noneHolds (h : NoneHolds v links) : follow v links = .ok none := by
  rw [← List.append_nil links, follow_append h]
  rfl

theorem IsFirst.follow (h : IsFirst v links l) : follow v links = .ok l.target.ballot? := by
  obtain ⟨before, after, rfl, passed, holds⟩ := h
  rw [follow_append passed, Link.follow, holds]

theorem follow_cases (h : follow v links = .ok next) :
    (∃ l, IsFirst v links l ∧ l.target.ballot? = next) ∨ NoneHolds v links ∧ next = none := by
  induction links with
  | nil => exact .inr ⟨by simp [NoneHolds], (Except.ok.inj h).symm⟩
  | cons m links ih =>
    rw [follow] at h
    split at h
    next holds => exact .inl ⟨m, ⟨[], links, rfl, by simp, holds⟩, Except.ok.inj h⟩
    next fails =>
      rcases ih h with ⟨l, ⟨before, after, rfl, passed, holds⟩, target⟩ | ⟨passed, nothing⟩
      · exact .inl ⟨l, ⟨m :: before, after, rfl, List.forall_mem_cons.2 ⟨fails, passed⟩, holds⟩,
          target⟩
      · exact .inr ⟨List.forall_mem_cons.2 ⟨fails, passed⟩, nothing⟩
    next => cases h

theorem follow_eq_some_iff (h : follow v links = .ok next) (ballot : Ident) :
    next = some ballot ↔ ∃ l, IsFirst v links l ∧ l.target = .ballot ballot := by
  simp only [← LinkTarget.ballot?_eq_some_iff]
  constructor
  · rintro rfl
    rcases follow_cases h with first | ⟨-, nothing⟩
    · exact first
    · cases nothing
  · rintro ⟨l, first, target⟩
    rw [first.follow, target] at h
    exact (Except.ok.inj h).symm

theorem follow_eq_none_iff (h : follow v links = .ok next) :
    next = none ↔ NoneHolds v links ∨ ∃ l, IsFirst v links l ∧ l.target = .finish := by
  simp only [← LinkTarget.ballot?_eq_none_iff]
  constructor
  · rintro rfl
    exact (follow_cases h).symm.imp_left And.left
  · rintro (passed | ⟨l, first, target⟩)
    · rw [follow_of_noneHolds passed] at h
      exact (Except.ok.inj h).symm
    · rw [first.follow, target] at h
      exact (Except.ok.inj h).symm

theorem exists_of_follow {ballot : Ident} (h : follow v links = .ok (some ballot)) :
    ∃ l ∈ links, l.target = .ballot ballot := by
  obtain ⟨l, first, target⟩ := (follow_eq_some_iff h ballot).1 rfl
  exact ⟨l, first.mem, target⟩

/-! ## Answers -/

theorem exists_follow (h : ∀ l ∈ links, l.condition.Answerable v) :
    ∃ next, follow v links = .ok next := by
  induction links with
  | nil => exact ⟨none, rfl⟩
  | cons l links ih =>
    obtain ⟨b, hb⟩ := Condition.exists_evaluate l.condition (h l List.mem_cons_self)
    rw [follow, hb]
    cases b with
    | true => exact ⟨_, rfl⟩
    | false => exact ih fun m hm => h m (List.mem_cons_of_mem l hm)

theorem follow_withForced (blind : ∀ l ∈ links, l.condition.readsVote = false)
    (forced : Option Bool) : follow { v with forced := forced } links = follow v links := by
  induction links with
  | nil => rfl
  | cons l links ih =>
    have first := blind l List.mem_cons_self
    rw [follow, follow, Condition.evaluate_withForced forced l.condition first,
      ih fun m hm => blind m (List.mem_cons_of_mem l hm)]

end Link

end Parliament
