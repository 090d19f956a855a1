import Parliament.Vocabulary

/-! # Comparisons -/

namespace Parliament

inductive Comparison
  | equal
  | notEqual
  | less
  | lessEqual
  | greater
  | greaterEqual
deriving DecidableEq, Inhabited

namespace Comparison

def word : Comparison → String
  | equal => "equal"
  | notEqual => "not_equal"
  | less => "less"
  | lessEqual => "less_equal"
  | greater => "greater"
  | greaterEqual => "greater_equal"

def all : List Comparison := [equal, notEqual, less, lessEqual, greater, greaterEqual]

instance : Vocabulary Comparison := ⟨"Comparison", all, word⟩

theorem find?_word (c : Comparison) : Vocabulary.find? Comparison c.word = some c := by
  cases c <;> decide

def holds (c : Comparison) (a b : Int) : Bool :=
  match c with
  | equal => decide (a = b)
  | notEqual => decide (a ≠ b)
  | less => decide (a < b)
  | lessEqual => decide (a ≤ b)
  | greater => decide (b < a)
  | greaterEqual => decide (b ≤ a)

end Comparison

end Parliament
