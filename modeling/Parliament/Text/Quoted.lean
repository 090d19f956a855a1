import Parliament.Text.Invisible

/-! # Quoted text

How a message shows a text: in double quotes, with what would break the line or would not be seen
written as escapes.
-/

namespace Parliament.Text

/-- The code point between braces behind `\u`, in as few digits as it takes. -/
def codePointEscape (c : Char) : String :=
  "\\u\x7b" ++ String.ofList (Nat.toDigits 16 c.toNat) ++ "\x7d"

def quotedChar (c : Char) : String :=
  if c = '"' then "\\\""
  else if c = '\\' then "\\\\"
  else if c = '\n' then "\\n"
  else if c = '\r' then "\\r"
  else if c = '\t' then "\\t"
  else if c.toNat = 0 then "\\0"
  else if isInvisible c then codePointEscape c
  else c.toString

def quoted (s : String) : String :=
  "\"" ++ s.toList.foldl (fun out c => out ++ quotedChar c) "" ++ "\""

end Parliament.Text
