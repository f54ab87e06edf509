import ShadingExport.Json.Basic

/-!
# Tokens of a JSON text

`Token.scan?` splits a text into punctuation, words and strings. The scanner moves over the text
one character at a time; between tokens it skips blanks, and it fails on a character that no token
admits. A word is the longest run of characters that are neither blank nor punctuation nor a
quotation mark, and has to be a literal name or a numeral.

A string's characters are collected as code units: raw characters as their code points, escapes as
written. `joinSurrogates?` then pairs the surrogates, and fails where one stands alone.
-/

namespace ShadingExport

namespace Json

/-- A token of a JSON text. -/
inductive Token where
  /-- An opening square bracket. -/
  | openArray
  /-- A closing square bracket. -/
  | closeArray
  /-- An opening curly bracket. -/
  | openObject
  /-- A closing curly bracket. -/
  | closeObject
  /-- The mark between items or members. -/
  | comma
  /-- The mark between a key and its value. -/
  | colon
  /-- A literal name or a numeral, as the value it writes. -/
  | word (value : Json)
  /-- A string; it has no content if a surrogate in it is unpaired. -/
  | text (content : Option String)

/-- The four blanks of the grammar: space, tab, line feed and carriage return. -/
def isBlank (char : Char) : Bool :=
  char == ' ' || char == '\t' || char == '\n' || char == '\r'

/-- The token that a punctuation character is. -/
def Token.punctuation? : Char → Option Token
  | '[' => some .openArray
  | ']' => some .closeArray
  | '\x7b' => some .openObject
  | '\x7d' => some .closeObject
  | ',' => some .comma
  | ':' => some .colon
  | _ => none

/-- The least and the greatest integer that are kept as integers: those of signed and of unsigned
words of 64 bits. -/
def integerRange : Int × Int := (-0x8000000000000000, 0xFFFFFFFFFFFFFFFF)

/-- The value of a numeral. A negative zero is a double, since no integer has its sign, and so is
an integer out of range. -/
def ofNumeral (numeral : Decimal.Numeral) : Json :=
  let value := numeral.toInt
  if numeral.integral && !(numeral.negative && value == 0)
      && integerRange.1 ≤ value && value ≤ integerRange.2 then .int value
  else match numeral.toFloat? with
    | some value => .float value
    | none => .unreadable

/-- The value of a word. -/
def ofWord? (letters : List Char) : Option Json :=
  if letters = ['n', 'u', 'l', 'l'] then some .null
  else if letters = ['t', 'r', 'u', 'e'] then some (.bool true)
  else if letters = ['f', 'a', 'l', 's', 'e'] then some (.bool false)
  else (Decimal.Numeral.parse? letters).map ofNumeral

/-- A code unit that begins a surrogate pair. -/
def isHighSurrogate (unit : Nat) : Bool := 0xD800 ≤ unit && unit < 0xDC00

/-- A code unit that ends a surrogate pair. -/
def isLowSurrogate (unit : Nat) : Bool := 0xDC00 ≤ unit && unit < 0xE000

/-- The characters of a list of code units, the last one first, put in order before those that
are `joined` already; every surrogate has to be paired. -/
def joinSurrogates? (joined : List Char) : List Nat → Option (List Char)
  | [] => some joined
  | low :: high :: rest =>
    if isLowSurrogate low then
      if isHighSurrogate high then
        let code := 0x10000 + (high - 0xD800) * 0x400 + (low - 0xDC00)
        joinSurrogates? (Char.ofNat code :: joined) rest
      else none
    -- The list runs backwards, so a high surrogate that is met first lacks its partner.
    else if isHighSurrogate low then none
    else joinSurrogates? (Char.ofNat low :: joined) (high :: rest)
  | [unit] =>
    if isHighSurrogate unit || isLowSurrogate unit then none
    else some (Char.ofNat unit :: joined)

/-- The code unit that a one-letter escape stands for. -/
def escapedUnit? : Char → Option Nat
  | '"' => some 0x22
  | '\\' => some 0x5C
  | '/' => some 0x2F
  | 'b' => some 0x08
  | 'f' => some 0x0C
  | 'n' => some 0x0A
  | 'r' => some 0x0D
  | 't' => some 0x09
  | _ => none

/-- The value of a hexadecimal digit. -/
def hexDigit? (char : Char) : Option Nat :=
  if '0' ≤ char && char ≤ '9' then some (char.toNat - '0'.toNat)
  else if 'a' ≤ char && char ≤ 'f' then some (char.toNat - 'a'.toNat + 10)
  else if 'A' ≤ char && char ≤ 'F' then some (char.toNat - 'A'.toNat + 10)
  else none

/-- Where the scanner is; collected characters and units are in reverse. -/
inductive Position where
  /-- Between two tokens. -/
  | between
  /-- In a word. -/
  | word (letters : List Char)
  /-- In a string. -/
  | text (units : List Nat)
  /-- Behind a backslash in a string. -/
  | escape (units : List Nat)
  /-- In a four-digit escape of a string, with the digits read so far as a count and a value. -/
  | code (units : List Nat) (count value : Nat)

/-- The scanner: its position and the tokens before it, in reverse. -/
structure Scanner where
  /-- Where the scanner is. -/
  position : Position
  /-- The tokens read so far, the last one first. -/
  tokens : List Token

namespace Scanner

/-- The scanner before the first character. -/
def start : Scanner := ⟨.between, []⟩

/-- Reads a character that stands between two tokens. -/
def begin (tokens : List Token) (char : Char) : Scanner :=
  if isBlank char then ⟨.between, tokens⟩
  else match Token.punctuation? char with
    | some token => ⟨.between, token :: tokens⟩
    | none => if char == '"' then ⟨.text [], tokens⟩ else ⟨.word [char], tokens⟩

/-- Ends a word. -/
def endWord? (letters : List Char) (tokens : List Token) : Option (List Token) :=
  (ofWord? letters.reverse).map (.word · :: tokens)

/-- Ends a string with the given code units, the last one first. -/
def endText (units : List Nat) (tokens : List Token) : List Token :=
  .text ((joinSurrogates? [] units).map String.ofList) :: tokens

/-- Reads one character. Raw control characters are not allowed in a string. -/
def step? (scanner : Scanner) (char : Char) : Option Scanner :=
  match scanner.position with
  | .between => some (begin scanner.tokens char)
  | .word letters =>
    -- The character that ends a word belongs to the next token.
    if isBlank char || (Token.punctuation? char).isSome || char == '"' then
      (endWord? letters scanner.tokens).map (begin · char)
    else some ⟨.word (char :: letters), scanner.tokens⟩
  | .text units =>
    if char == '"' then some ⟨.between, endText units scanner.tokens⟩
    else if char == '\\' then some ⟨.escape units, scanner.tokens⟩
    else if char.toNat < 0x20 then none
    else some ⟨.text (char.toNat :: units), scanner.tokens⟩
  | .escape units =>
    if char == 'u' then some ⟨.code units 0 0, scanner.tokens⟩
    else (escapedUnit? char).map fun unit => ⟨.text (unit :: units), scanner.tokens⟩
  | .code units count value =>
    (hexDigit? char).map fun digit =>
      let value := value * 16 + digit
      if count = 3 then ⟨.text (value :: units), scanner.tokens⟩
      else ⟨.code units (count + 1) value, scanner.tokens⟩

/-- The tokens at the end of the text; a string has to be closed by then. -/
def finish? (scanner : Scanner) : Option (List Token) :=
  match scanner.position with
  | .between => some scanner.tokens.reverse
  | .word letters => (endWord? letters scanner.tokens).map List.reverse
  | _ => none

end Scanner

/-- The tokens of a text. -/
def Token.scan? (text : List Char) : Option (List Token) :=
  (text.foldlM Scanner.step? Scanner.start).bind Scanner.finish?

end Json

end ShadingExport
