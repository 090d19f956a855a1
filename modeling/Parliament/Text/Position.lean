/-! # Positions in messages

A message about a text may end in the place that it is about, as in ` at line 3 column 4`. The place
is no part of what the message says.
-/

namespace Parliament.Text

def dropStart? (start : List Char) (text : List Char) : Option (List Char) :=
  if start.isPrefixOf text then some (text.drop start.length) else none

def reversedValue : List Char → Nat
  | [] => 0
  | c :: digits => (c.toNat - '0'.toNat) + 10 * reversedValue digits

/-- A count of lines or columns has at least one digit and fits in 64 bits. -/
def dropCount? (reversed : List Char) : Option (List Char) :=
  let digits := reversed.takeWhile Char.isDigit
  if digits.isEmpty || 18446744073709551615 < reversedValue digits then none
  else some (reversed.dropWhile Char.isDigit)

/-- The message is read from its end. -/
def dropPosition? (reversed : List Char) : Option (List Char) := do
  let rest ← dropCount? reversed
  let rest ← dropStart? " column ".toList.reverse rest
  let rest ← dropCount? rest
  dropStart? " at line ".toList.reverse rest

def withoutPosition (message : String) : String :=
  match dropPosition? message.toList.reverse with
  | some rest => String.ofList rest.reverse
  | none => message

end Parliament.Text
