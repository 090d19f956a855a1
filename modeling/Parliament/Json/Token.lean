import Parliament.Json.Number

/-! # The tokens of a JSON text

A text is read once, character by character. The first character that fits nowhere ends the reading
with the token `bad`.
-/

namespace Parliament.Json

inductive Token
  | openArray
  | closeArray
  | openObject
  | closeObject
  | comma
  | colon
  | text (s : Option String)
  /-- A number, `true`, `false` or `null`. -/
  | scalar (j : Json)
  | bad

/-! ## Numbers -/

def Token.ofNumber (cs : List Char) : Token :=
  match Numeral.ofChars? cs with
  | some n => .scalar n.value
  | none => .bad

def isNumberChar (c : Char) : Bool :=
  c.isDigit || c == '-' || c == '+' || c == '.' || c == 'e' || c == 'E'

/-! ## Texts

A text comes as 16-bit units where it is escaped and as code points elsewhere. Two units that form a
surrogate pair spell one character, and a surrogate alone spells none.
-/

def isHighSurrogate (n : Nat) : Bool := 0xD800 ≤ n && n < 0xDC00

def isLowSurrogate (n : Nat) : Bool := 0xDC00 ≤ n && n < 0xE000

/-- What was spelled so far stands in `out`, last character first. The number, if there is one, is a
high surrogate that waits for its partner. -/
def spellFrom (out : List Char) : Option Nat → List Nat → Option (List Char)
  | none, [] => some out.reverse
  | some _, [] => none
  | some high, n :: units =>
    if isLowSurrogate n then
      spellFrom (Char.ofNat (0x10000 + (high - 0xD800) * 0x400 + (n - 0xDC00)) :: out) none units
    else none
  | none, n :: units =>
    if isHighSurrogate n then spellFrom out (some n) units
    else if isLowSurrogate n then none
    else spellFrom (Char.ofNat n :: out) none units

def spell (units : List Nat) : Option String := (spellFrom [] none units).map String.ofList

def hexValue? (c : Char) : Option Nat :=
  if c.isDigit then some (c.toNat - '0'.toNat)
  else if 'a' ≤ c ∧ c ≤ 'f' then some (c.toNat - 'a'.toNat + 10)
  else if 'A' ≤ c ∧ c ≤ 'F' then some (c.toNat - 'A'.toNat + 10)
  else none

def shortEscape? (c : Char) : Option Nat :=
  if c = '"' ∨ c = '\\' ∨ c = '/' then some c.toNat
  else if c = 'b' then some 8
  else if c = 'f' then some 12
  else if c = 'n' then some 10
  else if c = 'r' then some 13
  else if c = 't' then some 9
  else none

/-! ## Reading -/

/-- Where the reading stands. Units and characters are held last first. -/
inductive Scan
  | between
  | number (chars : List Char)
  | word (left : List Char) (value : Json)
  | text (units : List Nat)
  | escape (units : List Nat)
  | hex (units : List Nat) (left : Nat) (value : Nat)
  | stopped

def isBlank (c : Char) : Bool := c == ' ' || c == '\n' || c == '\t' || c == '\r'

def scanBetween (c : Char) : List Token × Scan :=
  if isBlank c then ([], .between)
  else if c = '[' then ([.openArray], .between)
  else if c = ']' then ([.closeArray], .between)
  else if c = '\x7b' then ([.openObject], .between)
  else if c = '\x7d' then ([.closeObject], .between)
  else if c = ',' then ([.comma], .between)
  else if c = ':' then ([.colon], .between)
  else if c = '"' then ([], .text [])
  else if c = 't' then ([], .word ['r', 'u', 'e'] (.bool true))
  else if c = 'f' then ([], .word ['a', 'l', 's', 'e'] (.bool false))
  else if c = 'n' then ([], .word ['u', 'l', 'l'] .null)
  else if c.isDigit || c == '-' then ([], .number [c])
  else ([.bad], .stopped)

def scanChar (c : Char) : Scan → List Token × Scan
  | .between => scanBetween c
  | .number chars =>
    if isNumberChar c then ([], .number (c :: chars))
    else
      match Token.ofNumber chars.reverse with
      | .bad => ([.bad], .stopped)
      | token => (token :: (scanBetween c).1, (scanBetween c).2)
  | .word [] _ => ([.bad], .stopped)
  | .word [d] value => if c = d then ([.scalar value], .between) else ([.bad], .stopped)
  | .word (d :: left) value => if c = d then ([], .word left value) else ([.bad], .stopped)
  | .text units =>
    if c = '"' then ([.text (spell units.reverse)], .between)
    else if c = '\\' then ([], .escape units)
    else if c.toNat < 32 then ([.bad], .stopped)
    else ([], .text (c.toNat :: units))
  | .escape units =>
    if c = 'u' then ([], .hex units 4 0)
    else
      match shortEscape? c with
      | some n => ([], .text (n :: units))
      | none => ([.bad], .stopped)
  | .hex units left value =>
    match hexValue? c with
    | none => ([.bad], .stopped)
    | some n =>
      if left ≤ 1 then ([], .text ((16 * value + n) :: units))
      else ([], .hex units (left - 1) (16 * value + n))
  | .stopped => ([], .stopped)

/-- What the end of the text makes of where the reading stands. -/
def scanEnd : Scan → List Token
  | .between | .stopped => []
  | .number chars => [Token.ofNumber chars.reverse]
  | _ => [.bad]

def scanStep (s : List Token × Scan) (c : Char) : List Token × Scan :=
  let (tokens, next) := scanChar c s.2
  (tokens.reverse ++ s.1, next)

def tokens (cs : List Char) : List Token :=
  let (tokens, last) := cs.foldl scanStep ([], .between)
  tokens.reverse ++ scanEnd last

end Parliament.Json
