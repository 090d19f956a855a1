import Parliament.Json

/-! # Numbers in JSON

A number that is written as an integer is held exactly. Any other is of no use here, but it must not
be too large, and its size is worked out in doubles: the leading digits are rounded to a double, the
power of ten that is left is rounded to a double, and their product must not overflow.
-/

namespace Parliament.Json

/-! ## Digits -/

def digitValue (c : Char) : Nat := c.toNat - '0'.toNat

def digitsValue (digits : List Char) : Nat := digits.foldl (fun n c => 10 * n + digitValue c) 0

def maxWord : Nat := 18446744073709551615

/-- Appends digits to a number as long as it stays within 64 bits. The digits that are left over
come second. -/
def appendDigits (n : Nat) : List Char → Nat × List Char
  | [] => (n, [])
  | c :: digits =>
    if 10 * n + digitValue c ≤ maxWord then appendDigits (10 * n + digitValue c) digits
    else (n, c :: digits)

/-! ## Doubles -/

/-- The double nearest to an integer, as an integer of its own. A tie goes to the even one. -/
def roundToDouble (n : Nat) : Nat :=
  let unit := Nat.pow 2 (Nat.log2 n + 1 - 53)
  let low := n / unit
  let rest := n % unit
  if unit < 2 * rest || (unit == 2 * rest && low % 2 == 1) then (low + 1) * unit else low * unit

/-- From here on a number rounds to no finite double. -/
def overflowBound : Nat := Nat.pow 2 1024 - Nat.pow 2 970

structure Scaled where
  significand : Nat
  exponent : Int

/-- The powers of ten that a double holds end at 308. -/
def Scaled.fitsDouble (s : Scaled) : Bool :=
  s.significand == 0 || decide (s.exponent < 0) ||
    (decide (s.exponent ≤ 308) &&
      decide (roundToDouble s.significand * roundToDouble (Nat.pow 10 s.exponent.toNat)
        < overflowBound))

/-! ## Numerals -/

/-- The parts of a number: sign, integer digits, fraction digits, and exponent with its sign. -/
structure Numeral where
  negative : Bool
  whole : List Char
  fraction : Option (List Char)
  exponent : Option (Bool × List Char)

def Numeral.exponentValue (n : Numeral) : Int :=
  match n.exponent with
  | none => 0
  | some (negative, digits) => if negative then -(digitsValue digits : Int) else digitsValue digits

def splitSign : List Char → Bool × List Char
  | '-' :: rest => (true, rest)
  | rest => (false, rest)

def splitFraction : List Char → Option (List Char) × List Char
  | '.' :: rest => (some (rest.takeWhile Char.isDigit), rest.dropWhile Char.isDigit)
  | rest => (none, rest)

def splitExponent : List Char → Option (Bool × List Char) × List Char
  | c :: rest =>
    if c = 'e' ∨ c = 'E' then
      let (negative, rest) :=
        match rest with
        | '+' :: rest => (false, rest)
        | rest => splitSign rest
      (some (negative, rest.takeWhile Char.isDigit), rest.dropWhile Char.isDigit)
    else (none, c :: rest)
  | [] => (none, [])

/-- No part may be empty, and the integer part has no needless zero in front. -/
def Numeral.ofChars? (cs : List Char) : Option Numeral :=
  let (negative, rest) := splitSign cs
  let whole := rest.takeWhile Char.isDigit
  let (fraction, rest) := splitFraction (rest.dropWhile Char.isDigit)
  let (exponent, rest) := splitExponent rest
  if whole.isEmpty || (whole.head? == some '0' && 1 < whole.length) || !rest.isEmpty
      || fraction == some [] || (exponent.map Prod.snd) == some [] then none
  else some ⟨negative, whole, fraction, exponent⟩

/-- Of the integer digits those that are left over count as zeros. Of the fraction they are
dropped. -/
def Numeral.scaled (n : Numeral) : Scaled :=
  let fraction := n.fraction.getD []
  let (whole, zeros) := appendDigits 0 n.whole
  let (significand, dropped) := appendDigits whole fraction
  ⟨significand, zeros.length - (fraction.length - dropped.length) + n.exponentValue⟩

/-- Zero with a minus sign is no integer. -/
def Numeral.value (n : Numeral) : Json :=
  if !n.scaled.fitsDouble then .defect .illegible
  else if n.fraction.isSome || n.exponent.isSome then .defect .fraction
  else if n.negative then
    if digitsValue n.whole = 0 then .defect .fraction else .int (-(digitsValue n.whole : Int))
  else .int (digitsValue n.whole)

end Parliament.Json
