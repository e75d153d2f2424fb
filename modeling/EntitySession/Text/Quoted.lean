import EntitySession.Text.Invisible

/-!
# Quoted text

A text in double quotes that shows every character: the quote and the backslash are escaped, line
ends, tabs and NUL are written with a sign of their own, and whatever else cannot be seen alone is
written by its code point.
-/

set_option autoImplicit false

namespace EntitySession

namespace Text

/-- A character as it stands in quoted text. -/
def escape (c : Char) : List Char :=
  if c = '"' then ['\\', '"']
  else if c = '\\' then ['\\', '\\']
  else if c = '\n' then ['\\', 'n']
  else if c = '\r' then ['\\', 'r']
  else if c = '\t' then ['\\', 't']
  else if c = '\x00' then ['\\', '0']
  else if isInvisible c then ['\\', 'u', '\x7b'] ++ Nat.toDigits 16 c.toNat ++ ['\x7d']
  else [c]

/-- The text in quotes. -/
def quote (s : String) : String := "\"" ++ String.ofList (s.toList.flatMap escape) ++ "\""

end Text

end EntitySession
