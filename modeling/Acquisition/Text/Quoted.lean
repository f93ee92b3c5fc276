import Acquisition.Number.Hexadecimal
import Acquisition.Text.Unprintable

/-!
# Quoted text

A quoted text stands between double quotes.  Quotes and backslashes are escaped,
four controls have a short escape, and any other character that cannot be shown
is written as its code point in braces.
-/

namespace Acquisition.Text.Quoted

/-- How one character is written between quotes. -/
def escape (char : Char) : String :=
  if char = '\x00' then "\\0"
  else if char = '\t' then "\\t"
  else if char = '\r' then "\\r"
  else if char = '\n' then "\\n"
  else if char = '"' then "\\\""
  else if char = '\\' then "\\\\"
  else if isUnprintable char then "\\u\x7b" ++ Number.hexadecimal char.toNat ++ "\x7d"
  else char.toString

/-- A text between quotes. -/
def quote (text : String) : String :=
  "\"" ++ String.join (text.toList.map escape) ++ "\""

end Acquisition.Text.Quoted
