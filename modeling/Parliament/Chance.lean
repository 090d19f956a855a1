import Parliament.Fault

/-! # Chance

A session draws rolls and choices from a source of chance. A source may be a script that is replayed
or a generator that starts from a seed.
-/

namespace Parliament

/-- A value of `γ` is where the source stands; every draw moves it on. -/
class Chance (γ : Type) where
  /-- A place in a list of the given size. -/
  choose : Nat → γ → Except Fault (Nat × γ)
  roll : γ → UInt8 × γ

/-- A choice from a list that is not empty is a place in it. -/
class LawfulChance (γ : Type) [Chance γ] : Prop where
  choose_lt (size : Nat) (chance : γ) (h : 0 < size) :
    ∃ place next, Chance.choose size chance = .ok (place, next) ∧ place < size

/-! ## Scripts -/

/-- Numbers that are drawn one after the other and, behind the last, from the first again. -/
structure DrawScript where
  values : List UInt8
  cursor : Nat
  cursor_lt : cursor < values.length
deriving DecidableEq

namespace DrawScript

def ofList (values : List UInt8) : Except Fault DrawScript :=
  if h : 0 < values.length then .ok ⟨values, 0, h⟩ else .error .emptyScript

def constant (value : UInt8) : DrawScript := ⟨[value], 0, Nat.zero_lt_one⟩

instance : Inhabited DrawScript := ⟨constant 1⟩

def current (s : DrawScript) : UInt8 := s.values.get ⟨s.cursor, s.cursor_lt⟩

def advance (s : DrawScript) : DrawScript :=
  ⟨s.values, (s.cursor + 1) % s.values.length,
    Nat.mod_lt _ (Nat.lt_of_le_of_lt (Nat.zero_le _) s.cursor_lt)⟩

/-- A choice is the number drawn, reduced to the size of the list. -/
instance : Chance DrawScript where
  choose size s :=
    if size = 0 then .error .emptyChoice else .ok (s.current.toNat % size, s.advance)
  roll s := (s.current, s.advance)

instance : LawfulChance DrawScript where
  choose_lt size s h :=
    ⟨s.current.toNat % size, s.advance, if_neg (Nat.ne_of_gt h), Nat.mod_lt _ h⟩

end DrawScript

/-! ## Seeds -/

/-- Pseudo-random numbers of `StdGen`. They stay in range and the same seed draws the same ones, but
they are not the stream of any other random generator. -/
structure SeededChance where
  state : StdGen

namespace SeededChance

def ofSeed (seed : Nat) : SeededChance := ⟨mkStdGen seed⟩

def below (size : Nat) (s : SeededChance) : Nat × SeededChance :=
  let (n, state) := stdNext s.state
  (n % size, ⟨state⟩)

instance : Chance SeededChance where
  choose size s := if size = 0 then .error .emptyChoice else .ok (below size s)
  roll s :=
    let (n, s) := below 6 s
    (n.toUInt8 + 1, s)

instance : LawfulChance SeededChance where
  choose_lt size s h :=
    ⟨(below size s).1, (below size s).2, if_neg (Nat.ne_of_gt h), Nat.mod_lt _ h⟩

end SeededChance

end Parliament
