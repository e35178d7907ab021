/-
  Text as messages quote it: between quotes, with a backslash before the quote in use and before
  a backslash, short names for tab, line feed, carriage return and NUL, and every other hidden
  character by its number in hexadecimal.
-/
import ChangeLog.Text.Shown

namespace ChangeLog.Text

/-- Lower-case hexadecimal digits of a number, without leading zeros. -/
def hexNumber (n : Nat) : String := String.ofList (Nat.toDigits 16 n)

/-- One character of a text that stands between the quotes `quote`. -/
def quoteItem (quote c : Char) : String :=
  if c = quote ∨ c = '\\' then String.ofList ['\\', c]
  else if c = '\t' then "\\t"
  else if c = '\n' then "\\n"
  else if c = '\r' then "\\r"
  else if c = '\x00' then "\\0"
  else if isShown c then String.ofList [c]
  else "\\u\x7b" ++ hexNumber c.toNat ++ "\x7d"

/-- A text between double quotes. -/
def quote (s : String) : String := "\"" ++ String.join (s.toList.map (quoteItem '"')) ++ "\""

/-- A character between single quotes. -/
def quoteChar (c : Char) : String := "'" ++ quoteItem '\'' c ++ "'"

end ChangeLog.Text
