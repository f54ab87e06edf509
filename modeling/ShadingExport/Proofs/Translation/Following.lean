import ShadingExport.Proofs.Translation.Success

/-!
# Translations that do the same

One translation follows another if, wherever the other succeeds, it succeeds too, with the same
events and with a related result (`Translation.Follows`). Where it also has to repeat failures, it
fails with the same events and with the very same error, so that the two can only be told apart by
their results. A sequence follows another one step by step (`Translation.follows_bind`).
-/

namespace ShadingExport

/-- Two outcomes agree: both are results, and these are related, or both are the same error. -/
inductive OutcomesAgree {α β : Type} (related : α → β → Prop) :
    Except TranslationError α → Except TranslationError β → Prop where
  /-- Related results. -/
  | ok {value : α} {value' : β} (h : related value value') :
    OutcomesAgree related (.ok value) (.ok value')
  /-- The same error. -/
  | error (error : TranslationError) : OutcomesAgree related (.error error) (.error error)

/-- Outcomes agree after related functions of the results. -/
theorem OutcomesAgree.map {α β α' β' : Type} {related : α → β → Prop} {related' : α' → β' → Prop}
    {function : α → α'} {function' : β → β'} {outcome : Except TranslationError α}
    {outcome' : Except TranslationError β} (h : OutcomesAgree related outcome outcome')
    (hfunction : ∀ value value', related value value' →
      related' (function value) (function' value')) :
    OutcomesAgree related' (outcome.map function) (outcome'.map function') := by
  cases h with
  | ok h => exact .ok (hfunction _ _ h)
  | error error => exact .error error

namespace Translation

variable {α β α' β' : Type} {failures : Prop}

/-- The second translation follows the first: it repeats its events wherever the first succeeds, and
gives a related result; and failures too, if these have to be repeated. -/
structure Follows (failures : Prop) (related : α → α' → Prop) (first : Translation α)
    (second : Translation α') : Prop where
  /-- A result is followed by the same events and a related result. -/
  ok : ∀ value, first.outcome = .ok value →
    second.events = first.events ∧ ∃ value', second.outcome = .ok value' ∧ related value value'
  /-- A failure is followed by the same events and the same error. -/
  error : failures → ∀ error, first.outcome = .error error →
    second.events = first.events ∧ second.outcome = .error error

/-- A translation follows itself if its results are related to themselves. -/
theorem follows_self {related : α → α → Prop} {translation : Translation α}
    (h : ∀ value, translation.outcome = .ok value → related value value) :
    Follows failures related translation translation where
  ok := fun value hvalue => ⟨rfl, value, hvalue, h value hvalue⟩
  error := fun _ _ herror => ⟨rfl, herror⟩

/-- Results may be related more loosely. -/
theorem Follows.mono {related related' : α → α' → Prop} {first : Translation α}
    {second : Translation α'} (h : Follows failures related first second)
    (himp : ∀ value value', related value value' → related' value value') :
    Follows failures related' first second where
  ok := by
    intro value hvalue
    obtain ⟨hevents, value', hvalue', hrelated⟩ := h.ok value hvalue
    exact ⟨hevents, value', hvalue', himp value value' hrelated⟩
  error := h.error

theorem follows_pure {related : α → α' → Prop} {value : α} {value' : α'}
    (h : related value value') :
    Follows failures related (pure value : Translation α) (pure value' : Translation α') where
  ok := by
    rintro _ ⟨⟩
    exact ⟨rfl, value', rfl, h⟩
  error := by
    rintro _ _ ⟨⟩

/-- **A sequence follows a sequence** if its first step follows the first step, and the rest follows
the rest on related values. -/
theorem follows_bind {related : α → α' → Prop} {related' : β → β' → Prop}
    {first : Translation α} {second : Translation α'} {next : α → Translation β}
    {next' : α' → Translation β'} (h : Follows failures related first second)
    (hnext : ∀ value value', first.outcome = .ok value → related value value' →
      Follows failures related' (next value) (next' value')) :
    Follows failures related' (first >>= next) (second >>= next') := by
  cases hfirst : first.outcome with
  | error error =>
    constructor
    · intro value hvalue
      rw [outcome_bind_error next hfirst] at hvalue
      cases hvalue
    · intro hfailures error' herror'
      obtain ⟨hevents, houtcome⟩ := h.error hfailures error hfirst
      rw [outcome_bind_error next hfirst] at herror'
      cases herror'
      rw [events_bind_error next hfirst, events_bind_error next' houtcome]
      exact ⟨hevents, outcome_bind_error next' houtcome⟩
  | ok value =>
    obtain ⟨hevents, value', houtcome, hrelated⟩ := h.ok value hfirst
    have hrest := hnext value value' hfirst hrelated
    constructor
    · intro result hresult
      rw [outcome_bind_ok next hfirst] at hresult
      obtain ⟨hevents', result', hresult', hrelated'⟩ := hrest.ok result hresult
      refine ⟨?_, result', ?_, hrelated'⟩
      · rw [events_bind_ok next hfirst, events_bind_ok next' houtcome, hevents, hevents']
      · rw [outcome_bind_ok next' houtcome, hresult']
    · intro hfailures error herror
      rw [outcome_bind_ok next hfirst] at herror
      obtain ⟨hevents', herror'⟩ := hrest.error hfailures error herror
      rw [events_bind_ok next hfirst, events_bind_ok next' houtcome,
        outcome_bind_ok next' houtcome, hevents, hevents']
      exact ⟨rfl, herror'⟩

/-- After a common first step, the rests are compared at each of its values. -/
theorem follows_bind_same {related : β → β' → Prop} {first : Translation α}
    {next : α → Translation β} {next' : α → Translation β'}
    (hnext : ∀ value, first.outcome = .ok value →
      Follows failures related (next value) (next' value)) :
    Follows failures related (first >>= next) (first >>= next') := by
  have hsame : Follows failures Eq first first := follows_self fun _ _ => rfl
  refine follows_bind hsame fun value value' hvalue heq => ?_
  subst heq
  exact hnext value hvalue

/-- Where failures need not be repeated, a failure is followed by anything. -/
theorem follows_of_error {related : α → α' → Prop} {first : Translation α}
    {second : Translation α'} {error : TranslationError} (h : first.outcome = .error error) :
    Follows False related first second where
  ok := by
    intro value hvalue
    rw [h] at hvalue
    cases hvalue
  error := False.elim

/-- Where the first succeeds, the events are the same and the outcomes agree. -/
theorem Follows.agree_of_ok {related : α → α' → Prop} {first : Translation α}
    {second : Translation α'} (h : Follows failures related first second) {value : α}
    (hvalue : first.outcome = .ok value) :
    second.events = first.events ∧ OutcomesAgree related first.outcome second.outcome := by
  obtain ⟨hevents, value', houtcome, hrelated⟩ := h.ok value hvalue
  rw [hvalue, houtcome]
  exact ⟨hevents, .ok hrelated⟩

/-- Where failures are repeated, the events are the same and the outcomes agree. -/
theorem Follows.agree {related : α → α' → Prop} {first : Translation α} {second : Translation α'}
    (h : Follows True related first second) :
    second.events = first.events ∧ OutcomesAgree related first.outcome second.outcome := by
  cases hfirst : first.outcome with
  | error error =>
    obtain ⟨hevents, houtcome⟩ := h.error trivial error hfirst
    rw [houtcome]
    exact ⟨hevents, .error error⟩
  | ok value =>
    rw [← hfirst]
    exact h.agree_of_ok hfirst

end Translation

end ShadingExport
