import Mathlib.Data.List.Induction
import Parliament.Proofs.Success
import Parliament.Session.Sitting

/-! # Sittings call by call

A sitting can be taken apart between any two calls, and what the next call keeps holds behind the
whole sitting (`sit_induction`).
-/

namespace Parliament.Session

variable {γ α : Type} [Chance γ] [ReturningOfficer α] {s t : Session γ α}

theorem sit_nil_eq_ok {minutes : List Minute} :
    s.sit [] = .ok (t, minutes) ↔ t = s ∧ minutes = [] := by
  rw [sit, Except.ok.injEq, Prod.mk.injEq]
  exact and_congr eq_comm eq_comm

theorem sit_cons_eq_ok {c : Call} {calls : List Call} {minutes : List Minute} :
    s.sit (c :: calls) = .ok (t, minutes) ↔
      ∃ o rest, s.perform c = .ok o ∧ o.session.sit calls = .ok (t, rest) ∧
        minutes = ⟨c, o.answer, o.signals⟩ :: rest := by
  rw [sit]
  split
  next e failed => simp [failed]
  next o performed =>
    split
    next e failed => simp [performed, failed]
    next u rest sat =>
      rw [Except.ok.injEq, Prod.mk.injEq]
      constructor
      · rintro ⟨rfl, rfl⟩
        exact ⟨o, rest, performed, sat, rfl⟩
      · rintro ⟨o', rest', performed', sat', rfl⟩
        obtain rfl := Except.ok.inj (performed.symm.trans performed')
        rw [sat, Except.ok.injEq, Prod.mk.injEq] at sat'
        obtain ⟨rfl, rfl⟩ := sat'
        exact ⟨rfl, rfl⟩

theorem sit_append_eq_ok {before calls : List Call} {minutes : List Minute} :
    s.sit (before ++ calls) = .ok (t, minutes) ↔
      ∃ u first rest, s.sit before = .ok (u, first) ∧ u.sit calls = .ok (t, rest) ∧
        minutes = first ++ rest := by
  induction before generalizing s minutes with
  | nil =>
    constructor
    · intro sat
      exact ⟨s, [], minutes, rfl, sat, rfl⟩
    · rintro ⟨u, first, rest, begun, sat, rfl⟩
      obtain ⟨rfl, rfl⟩ := sit_nil_eq_ok.1 begun
      exact sat
  | cons c before ih =>
    rw [List.cons_append, sit_cons_eq_ok]
    constructor
    · rintro ⟨o, others, performed, whole, rfl⟩
      obtain ⟨u, first, rest, begun, sat, rfl⟩ := ih.1 whole
      exact ⟨u, _ :: first, rest, sit_cons_eq_ok.2 ⟨o, first, performed, begun, rfl⟩, sat, rfl⟩
    · rintro ⟨u, all, rest, both, sat, rfl⟩
      obtain ⟨o, first, performed, begun, rfl⟩ := sit_cons_eq_ok.1 both
      exact ⟨o, first ++ rest, performed, ih.2 ⟨u, first, rest, begun, sat, rfl⟩, rfl⟩

/-- The last call comes last: `P` speaks of the calls so far, of the session behind them and of
their minutes. -/
theorem sit_induction {P : List Call → Session γ α → List Minute → Prop} (begun : P [] s [])
    (call : ∀ calls u minutes c o, s.sit calls = .ok (u, minutes) → P calls u minutes →
      u.perform c = .ok o →
      P (calls ++ [c]) o.session (minutes ++ [⟨c, o.answer, o.signals⟩]))
    {calls : List Call} {minutes : List Minute} (sat : s.sit calls = .ok (t, minutes)) :
    P calls t minutes := by
  induction calls using List.reverseRecOn generalizing t minutes with
  | nil =>
    obtain ⟨rfl, rfl⟩ := sit_nil_eq_ok.1 sat
    exact begun
  | append_singleton calls c ih =>
    obtain ⟨u, first, rest, before, last, rfl⟩ := sit_append_eq_ok.1 sat
    obtain ⟨o, nothing, performed, done, rfl⟩ := sit_cons_eq_ok.1 last
    obtain ⟨rfl, rfl⟩ := sit_nil_eq_ok.1 done
    exact call calls u first c o before (ih before) performed

end Parliament.Session
