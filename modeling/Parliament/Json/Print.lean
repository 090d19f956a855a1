import Parliament.Json

/-! # Printing JSON

On one line and without blanks.
-/

namespace Parliament.Json

def hexDigits (n : Nat) : String :=
  let digits := Nat.toDigits 16 n
  String.ofList (List.replicate (4 - digits.length) '0' ++ digits)

def escaped (c : Char) : String :=
  if c = '"' then "\\\""
  else if c = '\\' then "\\\\"
  else if c.toNat < 32 then "\\u" ++ hexDigits c.toNat
  else c.toString

def printText (out : String) (s : String) : String :=
  (s.toList.foldl (fun out c => out ++ escaped c) (out ++ "\"")) ++ "\""

mutual

/-- Prints behind `out`. A value that could not be read has no text of its own. -/
def printTo (out : String) : Json → String
  | .null | .defect _ => out ++ "null"
  | .bool b => out ++ (if b then "true" else "false")
  | .int n => out ++ toString n
  | .text s => printText out s
  | .array items => printItems (out ++ "[") "" items ++ "]"
  | .object fields => printFields (out ++ "\x7b") "" fields ++ "\x7d"

def printItems (out : String) (before : String) : List Json → String
  | [] => out
  | j :: items => printItems (printTo (out ++ before) j) "," items

def printFields (out : String) (before : String) : List (Option String × Json) → String
  | [] => out
  | (key, j) :: fields =>
    printFields (printTo (printText (out ++ before) (key.getD "") ++ ":") j) "," fields

end

def print (j : Json) : String := printTo "" j

end Parliament.Json
