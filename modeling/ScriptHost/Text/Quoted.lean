import ScriptHost.Text.Printable

/-!
# Quoted strings

The quoted form of a string stands between double quotes and shows what cannot
be seen: NUL, tab, line feed, carriage return, quote and backslash have short
escapes, and every other unprintable or grapheme-extending character is written
with its code point.
-/

namespace ScriptHost.Text

/-- The digits of a number in base sixteen, in lower case. -/
def hex (n : Nat) : String := String.ofList (Nat.toDigits 16 n)

/-- One character of a quoted string. -/
def escapeChar (c : Char) : String :=
  if c = '\x00' then "\\0"
  else if c = '\t' then "\\t"
  else if c = '\n' then "\\n"
  else if c = '\r' then "\\r"
  else if c = '"' then "\\\""
  else if c = '\\' then "\\\\"
  else if isPrintable c && !extendsGrapheme c then String.singleton c
  else "\\u\x7b" ++ hex c.toNat ++ "\x7d"

/-- The quoted form of a string. -/
def quote (s : String) : String :=
  "\"" ++ String.join (s.toList.map escapeChar) ++ "\""

end ScriptHost.Text
