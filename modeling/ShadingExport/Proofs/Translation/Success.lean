import ShadingExport.Translation.Basic

/-!
# Translations that succeed

A translation succeeds if its outcome is a result (`Translation.Succeeds`), and it ensures what
holds of its events and its result whenever it succeeds (`Translation.Ensures`). Both are read off a
sequence step by step (`Translation.succeeds_bind`, `Translation.ensures_bind`), so no proof about a
translator opens the definition of sequencing again.
-/

namespace ShadingExport

namespace Translation

variable {α β : Type}

/-- An outcome used as a step of a translation is that outcome without events. -/
@[simp] theorem liftM_except (outcome : Except TranslationError α) :
    (liftM outcome : Translation α) = ofExcept outcome := rfl

/-- A value that is read is passed on. -/
theorem ofExcept_ok_bind (value : α) (next : α → Translation β) :
    ofExcept (.ok value) >>= next = next value :=
  pure_bind value next

/-- An error that is read is the failure of the sequence. -/
theorem ofExcept_error_bind (error : TranslationError) (next : α → Translation β) :
    ofExcept (.error error) >>= next = fail error :=
  rfl

/-- A sequence depends on its rest only at the value of its first step. -/
theorem bind_congr_ok {first : Translation α} {next next' : α → Translation β}
    (h : ∀ value, first.outcome = .ok value → next value = next' value) :
    first >>= next = first >>= next' := by
  simp only [bind, Translation.bind]
  cases hfirst : first.outcome with
  | error error => rfl
  | ok value => simp only [h value hfirst]

/-- A function is applied to the result, without events of its own. -/
@[simp] theorem events_map (function : α → β) (translation : Translation α) :
    (function <$> translation).events = translation.events := by
  rw [← bind_pure_comp]
  cases h : translation.outcome with
  | error error => rw [events_bind_error _ h]
  | ok value => rw [events_bind_ok _ h, events_pure, List.append_nil]

/-- A function is applied to the result, and a failure stays. -/
@[simp] theorem outcome_map (function : α → β) (translation : Translation α) :
    (function <$> translation).outcome = translation.outcome.map function := by
  rw [← bind_pure_comp]
  cases h : translation.outcome with
  | error error => exact outcome_bind_error _ h
  | ok value => exact outcome_bind_ok _ h

/-! ## Success -/

/-- The outcome is a result. -/
def Succeeds (translation : Translation α) : Prop := ∃ value, translation.outcome = .ok value

@[simp] theorem succeeds_pure (value : α) : (pure value : Translation α).Succeeds := ⟨value, rfl⟩

@[simp] theorem not_succeeds_fail (error : TranslationError) :
    ¬ (fail error : Translation α).Succeeds := by
  rintro ⟨value, h⟩
  cases h

@[simp] theorem succeeds_ofExcept {outcome : Except TranslationError α} :
    (ofExcept outcome).Succeeds ↔ ∃ value, outcome = .ok value := Iff.rfl

@[simp] theorem succeeds_emit_bind {event : Event} {next : Unit → Translation α} :
    (emit event >>= next).Succeeds ↔ (next ()).Succeeds := by
  rw [Succeeds, outcome_bind_ok next rfl]
  rfl

@[simp] theorem succeeds_report_bind {message : Report} {next : Unit → Translation α} :
    (report message >>= next).Succeeds ↔ (next ()).Succeeds :=
  succeeds_emit_bind

@[simp] theorem succeeds_ofExcept_bind {outcome : Except TranslationError α}
    {next : α → Translation β} :
    (ofExcept outcome >>= next).Succeeds ↔
      ∃ value, outcome = .ok value ∧ (next value).Succeeds := by
  cases outcome with
  | error error =>
    constructor
    · rintro ⟨_, h⟩
      cases h
    · rintro ⟨_, h, -⟩
      cases h
  | ok value =>
    rw [Succeeds, outcome_bind_ok next rfl]
    constructor
    · intro h
      exact ⟨value, rfl, h⟩
    · rintro ⟨_, ⟨⟩, h⟩
      exact h

/-- A check succeeds if it is passed and what follows it succeeds. -/
@[simp] theorem succeeds_ite_fail {condition : Prop} [Decidable condition]
    {error : TranslationError} {rest : Translation α} :
    (if condition then fail error else rest).Succeeds ↔ ¬ condition ∧ rest.Succeeds := by
  by_cases h : condition
  · rw [if_pos h]
    exact iff_of_false (not_succeeds_fail error) fun hcontra => hcontra.1 h
  · rw [if_neg h]
    exact (and_iff_right h).symm

/-- A report on the way decides nothing. -/
@[simp] theorem succeeds_ite_report {condition : Prop} [Decidable condition] {message : Report}
    {rest : Translation α} :
    (if condition then report message >>= fun _ => rest else rest).Succeeds ↔ rest.Succeeds := by
  by_cases h : condition
  · rw [if_pos h]
    exact succeeds_report_bind
  · rw [if_neg h]

/-- A sequence succeeds if its first step gives a value and the rest succeeds on it. -/
theorem succeeds_bind {first : Translation α} {next : α → Translation β} :
    (first >>= next).Succeeds ↔ ∃ value, first.outcome = .ok value ∧ (next value).Succeeds := by
  cases h : first.outcome with
  | error error =>
    constructor
    · rintro ⟨_, hbind⟩
      rw [outcome_bind_error next h] at hbind
      cases hbind
    · rintro ⟨_, hvalue, -⟩
      cases hvalue
  | ok value =>
    rw [Succeeds, outcome_bind_ok next h]
    constructor
    · intro hnext
      exact ⟨value, rfl, hnext⟩
    · rintro ⟨_, ⟨⟩, hnext⟩
      exact hnext

/-- If the value of the first step does not matter to the rest, a sequence succeeds if both of its
parts do. -/
theorem succeeds_bind_of_forall {first : Translation α} {next : α → Translation β}
    {condition : Prop} (hnext : ∀ value, (next value).Succeeds ↔ condition) :
    (first >>= next).Succeeds ↔ first.Succeeds ∧ condition := by
  rw [succeeds_bind]
  constructor
  · rintro ⟨value, hvalue, hsucceeds⟩
    exact ⟨⟨value, hvalue⟩, (hnext value).mp hsucceeds⟩
  · rintro ⟨⟨value, hvalue⟩, hcondition⟩
    exact ⟨value, hvalue, (hnext value).mpr hcondition⟩

/-- A rest that always succeeds decides nothing. -/
theorem succeeds_bind_of_succeeds {first : Translation α} {next : α → Translation β}
    (hnext : ∀ value, (next value).Succeeds) : (first >>= next).Succeeds ↔ first.Succeeds := by
  rw [succeeds_bind_of_forall fun value => iff_true_intro (hnext value), and_true]

/-- Applying a function to the value of a step decides nothing. -/
@[simp] theorem succeeds_map {first : Translation α} {function : α → β} :
    (function <$> first).Succeeds ↔ first.Succeeds := by
  rw [← bind_pure_comp]
  exact succeeds_bind_of_succeeds fun value => succeeds_pure _

/-! ## What success ensures -/

/-- If there is a result, the events and the result are related as stated. -/
def Ensures (translation : Translation α) (post : List Event → α → Prop) : Prop :=
  ∀ value, translation.outcome = .ok value → post translation.events value

/-- What is ensured may be weakened. -/
theorem Ensures.mono {translation : Translation α} {post post' : List Event → α → Prop}
    (h : translation.Ensures post) (himp : ∀ events value, post events value → post' events value) :
    translation.Ensures post' :=
  fun value hvalue => himp _ value (h value hvalue)

section Steps

variable {post : List Event → α → Prop} {post' : List Event → β → Prop}

@[simp] theorem ensures_pure {value : α} :
    (pure value : Translation α).Ensures post ↔ post [] value := by
  constructor
  · intro h
    exact h value rfl
  · rintro h _ ⟨⟩
    exact h

@[simp] theorem ensures_fail {error : TranslationError} :
    (fail error : Translation α).Ensures post := by
  rintro _ ⟨⟩

@[simp] theorem ensures_ofExcept {outcome : Except TranslationError α} :
    (ofExcept outcome).Ensures post ↔ ∀ value, outcome = .ok value → post [] value := Iff.rfl

/-- **A sequence ensures** what its first step ensures that the rest ensures. -/
@[simp] theorem ensures_bind {first : Translation α} {next : α → Translation β} :
    (first >>= next).Ensures post' ↔
      first.Ensures fun before value =>
        (next value).Ensures fun after result => post' (before ++ after) result := by
  unfold Ensures
  cases hfirst : first.outcome with
  | error error =>
    -- After a failure both sides promise nothing.
    rw [outcome_bind_error next hfirst]
    constructor
    · rintro _ _ ⟨⟩
    · rintro _ _ ⟨⟩
  | ok value =>
    rw [outcome_bind_ok next hfirst, events_bind_ok next hfirst]
    constructor
    · rintro h _ ⟨⟩
      exact h
    · intro h
      exact h value rfl

@[simp] theorem ensures_map {first : Translation α} {function : α → β} :
    (function <$> first).Ensures post' ↔
      first.Ensures fun events value => post' events (function value) := by
  rw [← bind_pure_comp, ensures_bind]
  simp only [ensures_pure, List.append_nil]

@[simp] theorem ensures_emit {event : Event} {post : List Event → Unit → Prop} :
    (emit event).Ensures post ↔ post [event] () := by
  constructor
  · intro h
    exact h () rfl
  · rintro h _ ⟨⟩
    exact h

@[simp] theorem ensures_report {message : Report} {post : List Event → Unit → Prop} :
    (report message).Ensures post ↔ post [.report message] () :=
  ensures_emit

/-- A choice ensures what both of its sides ensure. -/
theorem ensures_ite {condition : Prop} [Decidable condition] {first second : Translation α}
    (hfirst : first.Ensures post) (hsecond : second.Ensures post) :
    (if condition then first else second).Ensures post := by
  split
  · exact hfirst
  · exact hsecond

end Steps

end Translation

end ShadingExport
