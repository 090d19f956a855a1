import Parliament.Condition

/-! # The plain reading of conditions

What a condition says, without regard to the order in which it is looked at: which conditions stand
in it, and whether it holds.
-/

namespace Parliament.Condition

/-- The first condition is the second or stands in it. -/
inductive Within : Condition → Condition → Prop
  | self (c : Condition) : Within c c
  | inAll {c d : Condition} {cs : List Condition} (h : d ∈ cs) (k : Within c d) : Within c (.all cs)
  | inAny {c d : Condition} {cs : List Condition} (h : d ∈ cs) (k : Within c d) : Within c (.any cs)

/-- Every currency whose balance the condition compares is there. -/
def Answerable (v : View) (c : Condition) : Prop :=
  ∀ currency comparison value, Within (.currencyValue currency comparison value) c →
    v.currencies.contains currency = true

inductive Holds (v : View) : Condition → Prop
  | always : Holds v .always
  | all {cs : List Condition} (h : ∀ c ∈ cs, Holds v c) : Holds v (.all cs)
  | any {c : Condition} {cs : List Condition} (h : c ∈ cs) (k : Holds v c) : Holds v (.any cs)
  | vote {passed : Bool} (h : v.forced = some passed) : Holds v (.vote passed)
  | ballotPassed {ballot : Ident} {passed : Bool} (h : v.passedBallots.contains ballot = passed) :
    Holds v (.ballotPassed ballot passed)
  | passedCount {comparison : Comparison} {value : UInt8}
    (h : comparison.holds v.passedBallots.size value.toNat = true) :
    Holds v (.passedCount comparison value)
  | currencyValue {currency : Ident} {comparison : Comparison} {value balance : Int8}
    (h : v.currencies.get? currency = some balance)
    (k : comparison.holds balance.toInt value.toInt = true) :
    Holds v (.currencyValue currency comparison value)
  | procedureActive {procedure : Ident} {active : Bool}
    (h : v.activeProcedures.contains procedure = active) :
    Holds v (.procedureActive procedure active)

end Parliament.Condition
