import Parliament.Chance
import Parliament.Proofs.Success

/-! # What is drawn from a source of chance

Draws are rolls and choices, counted together. A script answers the draws one after the other with
its numbers, from the first again behind the last. A source can keep a record of what is drawn from
it, and nobody who draws can tell.
-/

namespace Parliament

/-! ## Draws -/

inductive DrawKind
  | roll
  | choice (size : Nat)
deriving DecidableEq

/-- What a draw of this kind makes of a number of a script: a choice is reduced to the size of the
list. -/
def DrawKind.reduce : DrawKind → UInt8 → Nat
  | roll, value => value.toNat
  | choice size, value => value.toNat % size

structure Draw where
  kind : DrawKind
  number : Nat
deriving DecidableEq

/-- The source gets from one place to another by these draws, one after the other. -/
inductive Draws {γ : Type} [Chance γ] : γ → List Draw → γ → Prop
  | nil (c : γ) : Draws c [] c
  | roll {c next last : γ} {value : UInt8} {l : List Draw}
    (drawn : Chance.roll c = (value, next)) (rest : Draws next l last) :
    Draws c (⟨.roll, value.toNat⟩ :: l) last
  | choice {c next last : γ} {size place : Nat} {l : List Draw}
    (drawn : Chance.choose size c = .ok (place, next)) (rest : Draws next l last) :
    Draws c (⟨.choice size, place⟩ :: l) last

namespace Draws

variable {γ : Type} [Chance γ] {c d e : γ} {l m : List Draw}

theorem append (h : Draws c l d) (k : Draws d m e) : Draws c (l ++ m) e := by
  induction h with
  | nil => exact k
  | roll drawn _ ih => exact .roll drawn (ih k)
  | choice drawn _ ih => exact .choice drawn (ih k)

end Draws

/-- The source gets from one place to another by draws of these kinds. -/
def Consumes {γ : Type} [Chance γ] (c : γ) (kinds : List DrawKind) (d : γ) : Prop :=
  ∃ l, Draws c l d ∧ l.map Draw.kind = kinds

namespace Consumes

variable {γ : Type} [Chance γ] {c d e : γ} {kinds more : List DrawKind}

theorem refl (c : γ) : Consumes c [] c := ⟨[], .nil c, rfl⟩

theorem trans (h : Consumes c kinds d) (k : Consumes d more e) :
    Consumes c (kinds ++ more) e := by
  obtain ⟨l, draws, rfl⟩ := h
  obtain ⟨m, further, rfl⟩ := k
  exact ⟨l ++ m, draws.append further, List.map_append⟩

theorem roll {value : UInt8} (drawn : Chance.roll c = (value, d)) : Consumes c [.roll] d :=
  ⟨_, .roll drawn (.nil d), rfl⟩

theorem choice {size place : Nat} (drawn : Chance.choose size c = .ok (place, d)) :
    Consumes c [.choice size] d :=
  ⟨_, .choice drawn (.nil d), rfl⟩

end Consumes

/-! ## Draws from a script -/

namespace DrawScript

/-- The number for the draw with this index, if the next draw has the index zero. -/
def ahead (s : DrawScript) (i : Nat) : UInt8 :=
  s.values.get ⟨(s.cursor + i) % s.values.length,
    Nat.mod_lt _ (Nat.lt_of_le_of_lt (Nat.zero_le _) s.cursor_lt)⟩

theorem ahead_zero (s : DrawScript) : s.ahead 0 = s.current := by
  have still : (s.cursor + 0) % s.values.length = s.cursor := Nat.mod_eq_of_lt s.cursor_lt
  unfold ahead current
  congr 2

theorem ahead_advance (s : DrawScript) (i : Nat) : s.advance.ahead i = s.ahead (i + 1) := by
  have further : ((s.cursor + 1) % s.values.length + i) % s.values.length =
      (s.cursor + (i + 1)) % s.values.length := by
    rw [Nat.mod_add_mod]
    congr 1
    omega
  unfold ahead advance
  congr 2

/-- How a script answers a list of draws, and where it stands behind them. -/
structure Replays (s : DrawScript) (l : List Draw) (t : DrawScript) : Prop where
  values : t.values = s.values
  cursor : t.cursor = (s.cursor + l.length) % s.values.length
  number : ∀ i (d : Draw), l[i]? = some d → d.number = d.kind.reduce (s.ahead i)

theorem Replays.cons {s t : DrawScript} {l : List Draw} (h : Replays s.advance l t)
    (kind : DrawKind) : Replays s (⟨kind, kind.reduce s.current⟩ :: l) t := by
  refine ⟨h.values, ?_, fun i d there => ?_⟩
  · rw [h.cursor, advance, Nat.mod_add_mod, List.length_cons]
    congr 1
    omega
  · cases i with
    | zero =>
      obtain rfl := Option.some.inj there
      rw [ahead_zero]
    | succ i =>
      rw [← ahead_advance]
      exact h.number i d there

theorem replays_of_draws {s t : DrawScript} {l : List Draw} (h : Draws s l t) : Replays s l t := by
  induction h with
  | nil s => exact ⟨rfl, (Nat.mod_eq_of_lt s.cursor_lt).symm, by simp⟩
  | @roll s next _ value l drawn _ ih =>
    obtain ⟨rfl, rfl⟩ := Prod.mk.inj drawn
    exact ih.cons .roll
  | @choice s next _ size place l drawn _ ih =>
    simp only [Chance.choose] at drawn
    split at drawn
    next => simp at drawn
    next =>
      obtain ⟨rfl, rfl⟩ := Prod.mk.inj (Except.ok.inj drawn)
      exact ih.cons (.choice size)

theorem ofList_eq_ok {values : List UInt8} {s : DrawScript} (h : ofList values = .ok s) :
    s.values = values ∧ s.cursor = 0 := by
  unfold ofList at h
  split at h
  next =>
    obtain rfl := Except.ok.inj h
    exact ⟨rfl, rfl⟩
  next => simp at h

end DrawScript

/-! ## Sources that keep a record -/

/-- A source, and what has been drawn from it so far. -/
structure Recorded (γ : Type) where
  source : γ
  drawn : List Draw

namespace Recorded

variable {γ : Type} [Chance γ]

instance : Chance (Recorded γ) where
  choose size r := do
    let (place, next) ← Chance.choose size r.source
    return (place, ⟨next, r.drawn ++ [⟨.choice size, place⟩]⟩)
  roll r :=
    let (value, next) := Chance.roll r.source
    (value, ⟨next, r.drawn ++ [⟨.roll, value.toNat⟩]⟩)

theorem of_draws {r t : Recorded γ} {l : List Draw} (h : Draws r l t) :
    t.drawn = r.drawn ++ l ∧ Draws r.source l t.source := by
  induction h with
  | nil r => exact ⟨(List.append_nil _).symm, .nil _⟩
  | roll drawn _ ih =>
    obtain ⟨rfl, rfl⟩ := Prod.mk.inj drawn
    obtain ⟨record, rest⟩ := ih
    refine ⟨?_, .roll rfl rest⟩
    rw [record, List.append_assoc]
    rfl
  | choice drawn _ ih =>
    obtain ⟨⟨place, next⟩, found, drawn⟩ := bind_eq_ok.1 drawn
    obtain ⟨rfl, rfl⟩ := Prod.mk.inj (pure_eq_ok.1 drawn)
    obtain ⟨record, rest⟩ := ih
    refine ⟨?_, .choice found rest⟩
    rw [record, List.append_assoc]
    rfl

end Recorded

/-! ## Sources that draw alike -/

/-- Whether one draws from a source or from what `f` makes of it makes no difference to what is
drawn. -/
structure DrawsAlike {γ δ : Type} [Chance γ] [Chance δ] (f : γ → δ) : Prop where
  roll : ∀ c, Chance.roll (f c) = ((Chance.roll c).1, f (Chance.roll c).2)
  choose : ∀ size c,
    Chance.choose size (f c) = (Chance.choose size c).map fun p => (p.1, f p.2)

theorem Recorded.drawsAlike_source {γ : Type} [Chance γ] :
    DrawsAlike (Recorded.source : Recorded γ → γ) := by
  refine ⟨fun _ => rfl, fun size r => ?_⟩
  simp only [Chance.choose]
  cases Chance.choose size r.source <;> rfl

end Parliament
