import ShadingExport.Json.Token

/-!
# JSON documents

`Json.parse?` reads a whole text as one value. It goes through the tokens once and keeps the
containers that are open, innermost first; each token either completes a value, which is delivered
to the innermost open container, or opens or closes a container, or moves the reader on to the
token that has to follow. Containers nested deeper than `maximalDepth` are read but have no value.
-/

namespace ShadingExport

namespace Json

/-- The greatest number of containers, each inside the one before, that have a value. -/
def maximalDepth : Nat := 127

/-- A container of which the end has not been read yet; what was read is in reverse. -/
inductive OpenContainer where
  /-- An array with the items read so far. -/
  | array (items : List Json)
  /-- An object with the members read so far, the key of the member being read, and whether every
  key so far has a content. -/
  | object (members : List (String × Json)) (key : Option String) (sound : Bool)

/-- What the next token may be. -/
inductive Expectation where
  /-- A value. -/
  | value
  /-- A value or the end of an array. -/
  | firstItem
  /-- A key or the end of an object. -/
  | firstKey
  /-- A key. -/
  | key
  /-- The colon behind a key. -/
  | colon
  /-- A comma or the end of the innermost container. -/
  | separator
  deriving DecidableEq

/-- The state of the reader between two tokens. -/
inductive Reading where
  /-- The document goes on: what may follow, and the open containers. -/
  | inside (expected : Expectation) (containers : List OpenContainer)
  /-- The document is complete. -/
  | complete (value : Json)

namespace Reading

/-- Delivers a value to the innermost open container, or completes the document. -/
def deliver (value : Json) : List OpenContainer → Reading
  | [] => .complete value
  | .array items :: outer => .inside .separator (.array (value :: items) :: outer)
  | .object members key sound :: outer =>
    let members := match key with
      | some key => (key, value) :: members
      | none => members
    .inside .separator (.object members key sound :: outer)

/-- Whether a container inside the `outer` ones is nested too deeply to have a value. -/
def isTooDeep (outer : List OpenContainer) : Bool :=
  !(outer.drop (maximalDepth - 1)).isEmpty

/-- The value of a container that is closed inside the `outer` ones. -/
def closed (outer : List OpenContainer) : OpenContainer → Json
  | .array items => if isTooDeep outer then .unreadable else .array items.reverse
  | .object members _ sound =>
    if sound && !isTooDeep outer then .object members.reverse else .unreadable

/-- Reads a value or its opening bracket. -/
def startValue? (containers : List OpenContainer) : Token → Option Reading
  | .word value => some (deliver value containers)
  | .text (some content) => some (deliver (.string content) containers)
  | .text none => some (deliver .unreadable containers)
  | .openArray => some (.inside .firstItem (.array [] :: containers))
  | .openObject => some (.inside .firstKey (.object [] none true :: containers))
  | _ => none

/-- Reads the key of a member of the innermost container. -/
def startMember? : List OpenContainer → Token → Option Reading
  | .object members _ sound :: outer, .text key =>
    some (.inside .colon (.object members key (sound && key.isSome) :: outer))
  | _, _ => none

/-- Closes the innermost container if the token is its closing bracket. -/
def close? : List OpenContainer → Token → Option Reading
  | .array items :: outer, .closeArray =>
    some (deliver (closed outer (.array items)) outer)
  | .object members key sound :: outer, .closeObject =>
    some (deliver (closed outer (.object members key sound)) outer)
  | _, _ => none

/-- What follows a comma in the innermost container. -/
def afterComma : List OpenContainer → Expectation
  | .object .. :: _ => .key
  | _ => .value

/-- Reads one token. -/
def step? : Reading → Token → Option Reading
  | .complete _, _ => none
  | .inside .value containers, token => startValue? containers token
  -- Behind an opening bracket the container may end at once; behind a comma it may not.
  | .inside .firstItem containers, token =>
    (close? containers token).or (startValue? containers token)
  | .inside .firstKey containers, token =>
    (close? containers token).or (startMember? containers token)
  | .inside .key containers, token => startMember? containers token
  | .inside .colon containers, .colon => some (.inside .value containers)
  | .inside .colon _, _ => none
  | .inside .separator containers, .comma => some (.inside (afterComma containers) containers)
  | .inside .separator containers, token => close? containers token

/-- The value of the document, if it is complete. -/
def value? : Reading → Option Json
  | .complete value => some value
  | .inside .. => none

end Reading

/-- The value that a sequence of tokens writes. -/
def ofTokens? (tokens : List Token) : Option Json :=
  (tokens.foldlM Reading.step? (.inside .value [])).bind Reading.value?

/-- The value that a text writes. -/
def parse? (text : String) : Option Json :=
  (Token.scan? text.toList).bind ofTokens?

end Json

end ShadingExport
