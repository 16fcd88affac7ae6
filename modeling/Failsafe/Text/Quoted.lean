import Failsafe.Unicode.Printable

/-!
# Quoted text

`quoted` writes a text between double quotes so that nothing in it can be mistaken: quotes, backslashes and
the common controls are escaped by a backslash, every other character that would not show, or would join the
one in front of it, by its code point.
-/

namespace Failsafe.Text

/-- A code point in lower-case hexadecimal digits. -/
def codePoint (c : Char) : String :=
  "\\u\x7b" ++ String.ofList (Nat.toDigits 16 c.toNat) ++ "\x7d"

/-- A character of a quoted text. -/
def quotedChar (c : Char) : String :=
  if c = '\x00' then "\\0"
  else if c = '\t' then "\\t"
  else if c = '\r' then "\\r"
  else if c = '\n' then "\\n"
  else if c = '"' then "\\\""
  else if c = '\\' then "\\\\"
  else if Unicode.isShown c then c.toString
  else codePoint c

def quoted (s : String) : String :=
  "\"" ++ String.join (s.toList.map quotedChar) ++ "\""

end Failsafe.Text
