import ShadingExport.Text.Unprintable

/-!
# Texts in diagnostics

A text in a diagnostic stands between quotation marks, and what would not be seen in it is escaped:
the quotation mark, the backslash, line ends and tabs by a letter, the other characters without a
shape by their code point.
-/

namespace ShadingExport.Text

/-- The lower-case hexadecimal numeral of a number. -/
def hexadecimal (number : Nat) : String := String.ofList (Nat.toDigits 16 number)

/-- A character as it stands in a diagnostic. -/
def diagnosticChar (char : Char) : String :=
  if char == '"' then "\\\""
  else if char == '\\' then "\\\\"
  else if char == '\n' then "\\n"
  else if char == '\r' then "\\r"
  else if char == '\t' then "\\t"
  else if char.toNat == 0 then "\\0"
  else if isUnprintable char then "\\u\x7b" ++ hexadecimal char.toNat ++ "\x7d"
  else char.toString

/-- A text as it stands in a diagnostic. -/
def diagnostic (text : String) : String :=
  "\"" ++ String.join (text.toList.map diagnosticChar) ++ "\""

end ShadingExport.Text
