import ShadingExport.Json.Document
import ShadingExport.Proofs.FloatConversion

/-!
# Documents hold finite numbers

Reading a document never yields an infinity or a NaN: a numeral is an integer of 64 bits, whose
double is finite, or has a finite double, or is left without a value. `Json.IsFinite` says so of
every number in a value, and `Json.isFinite_of_parse?` carries it from the words of a text through
the scanner and through the open containers of the reader to the value of the whole document.
-/

namespace ShadingExport

namespace Json

/-- Every number in the value is a finite double. -/
inductive IsFinite : Json → Prop where
  /-- There is no number in `null`. -/
  | null : IsFinite .null
  /-- There is no number in a truth value. -/
  | bool (value : Bool) : IsFinite (.bool value)
  /-- An integer counts as the nearest double. -/
  | int {value : Int} (hfinite : (Decimal.ofInt value).isFinite) : IsFinite (.int value)
  /-- A double counts as itself. -/
  | float {value : Float} (hfinite : value.isFinite) : IsFinite (.float value)
  /-- There is no number in a string. -/
  | string (value : String) : IsFinite (.string value)
  /-- Every item of an array counts. -/
  | array {items : List Json} (hitems : ∀ item ∈ items, IsFinite item) : IsFinite (.array items)
  /-- The value of every member of an object counts. -/
  | object {members : List (String × Json)} (hmembers : ∀ member ∈ members, IsFinite member.2) :
    IsFinite (.object members)
  /-- A piece without a value has no number. -/
  | unreadable : IsFinite .unreadable

/-- The double that a finite value writes is finite. -/
theorem IsFinite.isFinite_of_float? {json : Json} (h : json.IsFinite) {value : Float}
    (hvalue : json.float? = some value) : value.isFinite := by
  cases h with
  | int hfinite =>
    rw [← Option.some.inj hvalue]
    exact hfinite
  | float hfinite =>
    rw [← Option.some.inj hvalue]
    exact hfinite
  | null | bool | string | array | object | unreadable => cases hvalue

/-- What every step of a partial fold preserves holds at its end. -/
theorem foldlM_preserves {state input : Type} {step? : state → input → Option state}
    {Inv : state → Prop} {Valid : input → Prop}
    (hstep : ∀ {current next item}, Valid item → Inv current → step? current item = some next →
      Inv next)
    {items : List input} (hitems : ∀ item ∈ items, Valid item) {first last : state}
    (hfirst : Inv first) (hrun : items.foldlM step? first = some last) : Inv last := by
  induction items generalizing first with
  | nil =>
    cases hrun
    exact hfirst
  | cons head rest ih =>
    rw [List.foldlM_cons, Option.bind_eq_bind, Option.bind_eq_some_iff] at hrun
    obtain ⟨next, hnext, hrest⟩ := hrun
    exact ih (fun item hitem => hitems item (List.mem_cons_of_mem _ hitem))
      (hstep (hitems head List.mem_cons_self) hfirst hnext) hrest

/-! ## Words -/

/-- The value of a numeral is finite. -/
theorem isFinite_ofNumeral (numeral : Decimal.Numeral) : (ofNumeral numeral).IsFinite := by
  simp only [ofNumeral]
  split
  · next hint =>
    simp only [integerRange, Bool.and_eq_true] at hint
    obtain ⟨⟨-, hlow⟩, hhigh⟩ := hint
    have hlow := of_decide_eq_true hlow
    have hhigh := of_decide_eq_true hhigh
    exact .int (Decimal.isFinite_ofInt (by omega))
  · split
    · next hvalue => exact .float (Decimal.Numeral.isFinite_of_toFloat? hvalue)
    · exact .unreadable

/-- The value of a word is finite. -/
theorem isFinite_of_ofWord? {letters : List Char} {value : Json}
    (h : ofWord? letters = some value) : value.IsFinite := by
  unfold ofWord? at h
  split at h
  · cases h
    exact .null
  · split at h
    · cases h
      exact .bool true
    · split at h
      · cases h
        exact .bool false
      · obtain ⟨numeral, -, rfl⟩ := Option.map_eq_some_iff.mp h
        exact isFinite_ofNumeral numeral

/-! ## Tokens -/

/-- The value of the token, if it is a word, is finite. -/
def Token.IsFinite : Token → Prop
  | .word value => value.IsFinite
  | _ => True

/-- Every token read so far is finite. -/
def Scanner.IsFinite (scanner : Scanner) : Prop :=
  ∀ token ∈ scanner.tokens, token.IsFinite

section Scanning

variable {tokens : List Token} (htokens : ∀ token ∈ tokens, token.IsFinite)
include htokens

/-- A character between two tokens adds punctuation at most. -/
theorem Scanner.isFinite_begin (char : Char) : (Scanner.begin tokens char).IsFinite := by
  unfold Scanner.begin
  split
  · exact htokens
  · split
    · next token htoken =>
      refine List.forall_mem_cons.mpr ⟨?_, htokens⟩
      unfold Token.punctuation? at htoken
      split at htoken <;> cases htoken <;> trivial
    · split
      · exact htokens
      · exact htokens

/-- The word that ends is finite. -/
theorem Scanner.isFinite_of_endWord? {letters : List Char} {after : List Token}
    (h : Scanner.endWord? letters tokens = some after) : ∀ token ∈ after, token.IsFinite := by
  obtain ⟨value, hvalue, rfl⟩ := Option.map_eq_some_iff.mp h
  exact List.forall_mem_cons.mpr ⟨isFinite_of_ofWord? hvalue, htokens⟩

end Scanning

/-- **One character keeps the tokens finite**: only the end of a word adds a value. -/
theorem Scanner.isFinite_of_step? {scanner after : Scanner} {char : Char}
    (h : scanner.IsFinite) (hstep : scanner.step? char = some after) : after.IsFinite := by
  obtain ⟨position, tokens⟩ := scanner
  cases position with
  | between =>
    cases hstep
    exact isFinite_begin h char
  | word letters =>
    simp only [step?] at hstep
    split at hstep
    · obtain ⟨ended, hended, rfl⟩ := Option.map_eq_some_iff.mp hstep
      exact isFinite_begin (isFinite_of_endWord? h hended) char
    · cases hstep
      exact h
  | text units =>
    simp only [step?] at hstep
    split at hstep
    · cases hstep
      exact List.forall_mem_cons.mpr ⟨trivial, h⟩
    · split at hstep
      · cases hstep
        exact h
      · split at hstep
        · cases hstep
        · cases hstep
          exact h
  | escape units =>
    simp only [step?] at hstep
    split at hstep
    · cases hstep
      exact h
    · obtain ⟨unit, -, rfl⟩ := Option.map_eq_some_iff.mp hstep
      exact h
  | code units count value =>
    simp only [step?] at hstep
    obtain ⟨digit, -, rfl⟩ := Option.map_eq_some_iff.mp hstep
    split <;> exact h

/-- The tokens of a text are finite. -/
theorem Token.isFinite_of_scan? {text : List Char} {tokens : List Token}
    (h : Token.scan? text = some tokens) : ∀ token ∈ tokens, token.IsFinite := by
  obtain ⟨scanner, hscanner, hfinish⟩ := Option.bind_eq_some_iff.mp h
  have hfinite : scanner.IsFinite :=
    foldlM_preserves (fun _ => Scanner.isFinite_of_step?) (fun _ _ => trivial)
      (fun _ hnil => absurd hnil List.not_mem_nil) hscanner
  obtain ⟨position, read⟩ := scanner
  cases position with
  | between =>
    cases hfinish
    exact fun token htoken => hfinite token (List.mem_reverse.mp htoken)
  | word letters =>
    obtain ⟨ended, hended, rfl⟩ := Option.map_eq_some_iff.mp hfinish
    exact fun token htoken =>
      Scanner.isFinite_of_endWord? hfinite hended token (List.mem_reverse.mp htoken)
  | text | escape | code => cases hfinish

/-! ## Documents -/

/-- Every number read into the container so far is finite. -/
def OpenContainer.IsFinite : OpenContainer → Prop
  | .array items => ∀ item ∈ items, item.IsFinite
  | .object members _ _ => ∀ member ∈ members, member.2.IsFinite

namespace Reading

/-- Every number read so far is finite. -/
def IsFinite : Reading → Prop
  | .inside _ containers => ∀ container ∈ containers, container.IsFinite
  | .complete value => value.IsFinite

section Containers

variable {containers : List OpenContainer}
  (hcontainers : ∀ container ∈ containers, container.IsFinite)
include hcontainers

/-- A finite value is delivered into finite containers. -/
theorem isFinite_deliver {value : Json} (hvalue : value.IsFinite) :
    (deliver value containers).IsFinite := by
  cases containers with
  | nil => exact hvalue
  | cons innermost outer =>
    obtain ⟨hinnermost, houter⟩ := List.forall_mem_cons.mp hcontainers
    cases innermost with
    | array items =>
      exact List.forall_mem_cons.mpr ⟨List.forall_mem_cons.mpr ⟨hvalue, hinnermost⟩, houter⟩
    | object members key sound =>
      refine List.forall_mem_cons.mpr ⟨?_, houter⟩
      cases key with
      | none => exact hinnermost
      | some key => exact List.forall_mem_cons.mpr ⟨hvalue, hinnermost⟩

/-- A value that begins leaves everything finite. -/
theorem isFinite_of_startValue? {token : Token} (htoken : token.IsFinite) {after : Reading}
    (h : startValue? containers token = some after) : after.IsFinite := by
  cases token with
  | word value =>
    cases h
    exact isFinite_deliver hcontainers htoken
  | text content =>
    cases content with
    | none =>
      cases h
      exact isFinite_deliver hcontainers .unreadable
    | some content =>
      cases h
      exact isFinite_deliver hcontainers (.string content)
  | openArray =>
    cases h
    exact List.forall_mem_cons.mpr ⟨fun _ hnil => absurd hnil List.not_mem_nil, hcontainers⟩
  | openObject =>
    cases h
    exact List.forall_mem_cons.mpr ⟨fun _ hnil => absurd hnil List.not_mem_nil, hcontainers⟩
  | closeArray | closeObject | comma | colon => cases h

/-- A key leaves everything finite. -/
theorem isFinite_of_startMember? {token : Token} {after : Reading}
    (h : startMember? containers token = some after) : after.IsFinite := by
  unfold startMember? at h
  split at h
  · cases h
    obtain ⟨hinnermost, houter⟩ := List.forall_mem_cons.mp hcontainers
    exact List.forall_mem_cons.mpr ⟨hinnermost, houter⟩
  · cases h

/-- A container that ends is delivered as a finite value. -/
theorem isFinite_of_close? {token : Token} {after : Reading}
    (h : close? containers token = some after) : after.IsFinite := by
  unfold close? at h
  split at h
  · cases h
    obtain ⟨hinnermost, houter⟩ := List.forall_mem_cons.mp hcontainers
    refine isFinite_deliver houter ?_
    unfold closed
    dsimp only
    split
    · exact .unreadable
    · exact .array fun item hitem => hinnermost item (List.mem_reverse.mp hitem)
  · cases h
    obtain ⟨hinnermost, houter⟩ := List.forall_mem_cons.mp hcontainers
    refine isFinite_deliver houter ?_
    unfold closed
    dsimp only
    split
    · exact .object fun member hmember => hinnermost member (List.mem_reverse.mp hmember)
    · exact .unreadable
  · cases h

end Containers

/-- **One token keeps everything finite.** -/
theorem isFinite_of_step? {token : Token} (htoken : token.IsFinite) {reading after : Reading}
    (h : reading.IsFinite) (hstep : reading.step? token = some after) : after.IsFinite := by
  cases reading with
  | complete value => cases hstep
  | inside expected containers =>
    cases expected with
    | value => exact isFinite_of_startValue? h htoken hstep
    | firstItem =>
      rcases Option.or_eq_some_iff.mp hstep with hclose | ⟨-, hstart⟩
      · exact isFinite_of_close? h hclose
      · exact isFinite_of_startValue? h htoken hstart
    | firstKey =>
      rcases Option.or_eq_some_iff.mp hstep with hclose | ⟨-, hstart⟩
      · exact isFinite_of_close? h hclose
      · exact isFinite_of_startMember? h hstart
    | key => exact isFinite_of_startMember? h hstep
    | colon =>
      cases token <;> cases hstep
      exact h
    | separator =>
      cases token with
      | comma =>
        cases hstep
        exact h
      | openArray | closeArray | openObject | closeObject | colon | word | text =>
        exact isFinite_of_close? h hstep

end Reading

/-- The value that finite tokens write is finite. -/
theorem isFinite_of_ofTokens? {tokens : List Token} (htokens : ∀ token ∈ tokens, token.IsFinite)
    {json : Json} (h : ofTokens? tokens = some json) : json.IsFinite := by
  obtain ⟨reading, hreading, hvalue⟩ := Option.bind_eq_some_iff.mp h
  have hempty : (Reading.inside .value []).IsFinite := fun _ hnil => absurd hnil List.not_mem_nil
  have hfinite : reading.IsFinite :=
    foldlM_preserves (fun htoken => Reading.isFinite_of_step? htoken) htokens hempty hreading
  cases reading with
  | complete value =>
    cases hvalue
    exact hfinite
  | inside => cases hvalue

/-- **The numbers of a document are finite.** -/
theorem isFinite_of_parse? {text : String} {json : Json} (h : parse? text = some json) :
    json.IsFinite := by
  obtain ⟨tokens, htokens, hjson⟩ := Option.bind_eq_some_iff.mp h
  exact isFinite_of_ofTokens? (Token.isFinite_of_scan? htokens) hjson

end Json

end ShadingExport
