import ShadingExport.Json.Basic
import ShadingExport.Decimal.Notation

/-!
# Writing JSON

A value is written without spaces (`Json.compact`) or with every item and member on a line of its
own (`Json.pretty`). Members are written in the order in which the object holds them. In strings
only the quotation mark, the backslash and control characters are escaped.
-/

namespace ShadingExport

namespace Json

/-- The escape of a control character that has no letter of its own: four hexadecimal digits. -/
def controlEscape (code : Nat) : String :=
  "\\u00" ++ String.ofList [Nat.digitChar (code / 16), Nat.digitChar (code % 16)]

/-- The text that stands for a character inside a string. -/
def escapeChar (char : Char) : String :=
  if char == '"' then "\\\""
  else if char == '\\' then "\\\\"
  else if char.toNat == 0x08 then "\\b"
  else if char.toNat == 0x0C then "\\f"
  else if char == '\n' then "\\n"
  else if char == '\r' then "\\r"
  else if char == '\t' then "\\t"
  else if char.toNat < 0x20 then controlEscape char.toNat
  else char.toString

/-- A string between quotation marks. -/
def quoted (text : String) : String :=
  "\"" ++ String.join (text.toList.map escapeChar) ++ "\""

/-- A number or a literal name. Infinities and NaN have no numeral and are written as `null`. -/
def floatText (value : Float) : String :=
  if value.isFinite then Decimal.text value else "null"

mutual

/-- A value without spaces. A piece without a value is written as `null`. -/
def compact : Json → String
  | .null => "null"
  | .bool value => toString value
  | .int value => toString value
  | .float value => floatText value
  | .string value => quoted value
  | .array items => "[" ++ ",".intercalate (compactItems items) ++ "]"
  | .object members => "\x7b" ++ ",".intercalate (compactMembers members) ++ "\x7d"
  | .unreadable => "null"

/-- The items of an array without spaces. -/
def compactItems : List Json → List String
  | [] => []
  | item :: rest => compact item :: compactItems rest

/-- The members of an object without spaces. -/
def compactMembers : List (String × Json) → List String
  | [] => []
  | (key, value) :: rest => (quoted key ++ ":" ++ compact value) :: compactMembers rest

end

/-- The lines of a container: every entry on a line of its own, two spaces deeper than the
brackets. A container without entries stays on one line. -/
def block (depth : Nat) (opening closing : String) (entries : List String) : String :=
  if entries.isEmpty then opening ++ closing
  else
    let indent := String.ofList (List.replicate (2 * depth) ' ')
    let deeper := "\n" ++ indent ++ "  "
    opening ++ deeper ++ ("," ++ deeper).intercalate entries ++ "\n" ++ indent ++ closing

mutual

/-- A value on several lines, inside `depth` containers. -/
def prettyAt (depth : Nat) : Json → String
  | .null => "null"
  | .bool value => toString value
  | .int value => toString value
  | .float value => floatText value
  | .string value => quoted value
  | .array items => block depth "[" "]" (prettyItems depth items)
  | .object members => block depth "\x7b" "\x7d" (prettyMembers depth members)
  | .unreadable => "null"

/-- The items of an array that lies inside `depth` containers. -/
def prettyItems (depth : Nat) : List Json → List String
  | [] => []
  | item :: rest => prettyAt (depth + 1) item :: prettyItems depth rest

/-- The members of an object that lies inside `depth` containers. -/
def prettyMembers (depth : Nat) : List (String × Json) → List String
  | [] => []
  | (key, value) :: rest =>
    (quoted key ++ ": " ++ prettyAt (depth + 1) value) :: prettyMembers depth rest

end

/-- A value on several lines, with an indentation of two spaces. -/
def pretty (json : Json) : String := prettyAt 0 json

end Json

end ShadingExport
