/-!
# Texts without terminal controls

A terminal obeys control sequences instead of showing them. `visible` drops the sequences of a text
and its single control characters; white space stays. A text that holds no control character but
white space stays as it is (`visible_eq_self`), and no other control character is left in any text
(`isShown_of_mem_visible`).

A sequence starts with the escape character. What follows tells its kind, and the kind tells its
end: control sequences end with a letter, commands with the bell, strings with a terminator. A
device string has a head of parameters and intermediate characters, in which no terminator counts.
A new escape character abandons every sequence, and so do the two cancelling characters. White space
interrupts an escape or control sequence: text is shown again until the next control character,
behind which the sequence goes on.
-/

namespace ShadingExport.Text

/-- The white space among the control characters: tab, line feed, form feed and carriage return. -/
def isBlankControl (char : Char) : Bool :=
  char == '\t' || char == '\n' || char.toNat == 0x0C || char == '\r'

/-- A control character of ASCII. -/
def isControl (char : Char) : Bool :=
  char.toNat < 0x20 || char.toNat == 0x7F

/-- The character may stay in a text. -/
def isShown (char : Char) : Bool :=
  !isControl char || isBlankControl char

/-- The character is no printable one of ASCII, and only of those are sequences made. -/
def isForeign (char : Char) : Bool :=
  isControl char || 0x80 ≤ char.toNat

/-- The character starts a sequence. -/
def isEscape (char : Char) : Bool :=
  char.toNat == 0x1B

/-- The character abandons the sequence that it stands in. -/
def isCancel (char : Char) : Bool :=
  char.toNat == 0x18 || char.toNat == 0x1A

/-- The one-byte string terminator is part of the encoding of the character. -/
def holdsTerminator (char : Char) : Bool :=
  (String.utf8EncodeChar char).contains 0x9C

/-- A sequence in which white space is still shown. -/
inductive Sequence where
  /-- The kind of the sequence is not known yet. -/
  | escape
  /-- An escape sequence with intermediate characters. -/
  | intermediate
  /-- The parameters of a control sequence. -/
  | control
  deriving DecidableEq, Repr

/-- A part of the head of a device string. -/
inductive DevicePart where
  /-- Right behind the start of the string. -/
  | entry
  /-- Behind its first parameter character. -/
  | parameters
  /-- Behind its first intermediate character. -/
  | intermediate
  deriving DecidableEq, Repr

/-- A place between two characters of a text. -/
inductive Position where
  /-- Outside of sequences. -/
  | text
  /-- In a sequence. -/
  | inside (sequence : Sequence)
  /-- Behind white space that interrupts a sequence. -/
  | interrupted (sequence : Sequence)
  /-- In the head of a device string. -/
  | device (part : DevicePart)
  /-- In a command of the operating system. -/
  | command
  /-- In a string. -/
  | string
  deriving DecidableEq, Repr

/-- The place behind a printable character of ASCII that belongs to a sequence. -/
def Sequence.next (sequence : Sequence) (char : Char) : Position :=
  match sequence with
  | .escape =>
    if char == '[' then .inside .control
    else if char == ']' then .command
    else if char == 'P' then .device .entry
    else if char == 'X' || char == '^' || char == '_' then .string
    else if char < '0' then .inside .intermediate
    else .text
  | .intermediate => if char < '0' then .inside .intermediate else .text
  | .control => if char < '@' then .inside .control else .text

/-- The place behind a printable character of ASCII in the head of a device string. A private
marker may only come first and a parameter never follows an intermediate character: a malformed
head is over as one that has got its letter. -/
def DevicePart.next (part : DevicePart) (char : Char) : Position :=
  if char < '0' then .device .intermediate
  else
    match part with
    | .entry => if char < '@' then .device .parameters else .string
    | .parameters => if char < '<' then .device .parameters else .string
    | .intermediate => .string

namespace Position

/-- The place behind a character. -/
def next (position : Position) (char : Char) : Position :=
  if isEscape char then .inside .escape
  else if isCancel char then .text
  else
    match position with
    | .text => .text
    | .inside sequence =>
      if isBlankControl char then .interrupted sequence
      else if isForeign char then .inside sequence
      else sequence.next char
    | .interrupted sequence =>
      -- A character beyond ASCII belongs to no sequence, so the interrupted one is over.
      if 0x80 ≤ char.toNat then .text
      else if isShown char then .interrupted sequence
      else .inside sequence
    | .device part => if isForeign char then .device part else part.next char
    | .command => if char.toNat == 0x07 then .text else .command
    | .string => if holdsTerminator char then .text else .string

/-- A character at this place is shown. -/
def shows (position : Position) (char : Char) : Bool :=
  match position with
  | .text => isShown char
  | .interrupted _ => isShown char
  | .inside _ => isBlankControl char
  | _ => false

/-- Reads a character: the place behind it, and the characters shown so far, the last one first. -/
def read (state : Position × List Char) (char : Char) : Position × List Char :=
  (state.1.next char, if state.1.shows char then char :: state.2 else state.2)

end Position

/-- The part of a text that is shown. -/
def visible (text : List Char) : List Char :=
  (text.foldl Position.read (.text, [])).2.reverse

/-- Only characters that may stay are shown. -/
theorem Position.isShown_of_shows {position : Position} {char : Char}
    (shown : position.shows char) : isShown char := by
  cases position <;> simp_all [Position.shows, isShown]

/-- A character that may stay is no start of a sequence and abandons none. -/
theorem next_text_of_isShown {char : Char} (shown : isShown char) :
    Position.next .text char = .text := by
  have noEscape : isEscape char = false := by
    cases escape : isEscape char with
    | false => rfl
    | true =>
      have same : char = '\x1B' := Char.toNat_inj.1 (by simpa [isEscape] using escape)
      subst same
      exact absurd shown (by decide)
  simp [Position.next, noEscape]

/-- A text in which every character may stay is shown as it is. -/
theorem visible_eq_self {text : List Char} (shown : ∀ char ∈ text, isShown char) :
    visible text = text := by
  have general : ∀ (rest before : List Char), (∀ char ∈ rest, isShown char) →
      rest.foldl Position.read (.text, before) = (.text, rest.reverse ++ before) := by
    intro rest
    induction rest with
    | nil => intro before _; rfl
    | cons head tail ih =>
      intro before allShown
      have headShown := allShown head List.mem_cons_self
      have step : Position.read (.text, before) head = (.text, head :: before) := by
        simp [Position.read, Position.shows, headShown, next_text_of_isShown headShown]
      have tailShown : ∀ char ∈ tail, isShown char :=
        fun char inTail => allShown char (List.mem_cons_of_mem _ inTail)
      rw [List.foldl_cons, step, ih _ tailShown]
      simp
  simp [visible, general text [] shown]

/-- What is shown of a text holds only characters that may stay. -/
theorem isShown_of_mem_visible {text : List Char} {char : Char} (member : char ∈ visible text) :
    isShown char := by
  have general : ∀ (rest : List Char) (state : Position × List Char),
      (∀ earlier ∈ state.2, isShown earlier) →
        ∀ later ∈ (rest.foldl Position.read state).2, isShown later := by
    intro rest
    induction rest with
    | nil => exact fun _ allShown => allShown
    | cons head tail ih =>
      intro state allShown
      refine ih _ fun earlier inState => ?_
      unfold Position.read at inState
      split at inState
      · rename_i headShown
        rcases List.mem_cons.1 inState with rfl | old
        · exact Position.isShown_of_shows headShown
        · exact allShown earlier old
      · exact allShown earlier inState
  exact general text (.text, []) (fun _ none => absurd none List.not_mem_nil) char
    (List.mem_reverse.1 member)

end ShadingExport.Text
