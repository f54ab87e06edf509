import ShadingExport.Record.Basic
import ShadingExport.Report
import ShadingExport.Graph.Basic

/-!
# Translations

Translating a graph has effects on its surroundings: it reports, it leaves traces, and it asks for
images to be placed. A `Translation α` records them as a list of events beside its outcome, a
result or an error. Events happen in order and stay when a later step fails
(`Translation.events_bind_ok`, `Translation.events_bind_error`); the outcome never depends on the
surroundings.
-/

namespace ShadingExport

/-- An effect of a translation. -/
inductive Event where
  /-- A message to the user. -/
  | report (report : Report)
  /-- A note on the course of the translation. -/
  | trace (trace : Trace)
  /-- An image is needed as a texture. -/
  | texture (image : Image)
  deriving DecidableEq, Repr

/-- A computation with events and an outcome. -/
structure Translation (α : Type) where
  /-- What happens on the way, in order. -/
  events : List Event
  /-- The result, or why there is none. -/
  outcome : Except TranslationError α

/-- What became of a translation that cannot fail any more. -/
structure Settled (α : Type) where
  /-- What happened on the way, in order. -/
  events : List Event
  /-- The result. -/
  value : α

namespace Translation

variable {α β : Type}

/-- A result without events. -/
protected def pure (value : α) : Translation α := ⟨[], .ok value⟩

/-- One computation after another; the second does not happen if the first fails. -/
protected def bind (first : Translation α) (next : α → Translation β) : Translation β :=
  match first.outcome with
  | .ok value => ⟨first.events ++ (next value).events, (next value).outcome⟩
  | .error error => ⟨first.events, .error error⟩

instance : Monad Translation where
  pure := Translation.pure
  bind := Translation.bind

/-- An event without a result. -/
def emit (event : Event) : Translation Unit := ⟨[event], .ok ()⟩

/-- A report without a result. -/
def report (report : Report) : Translation Unit := emit (.report report)

/-- A failure. -/
def fail (error : TranslationError) : Translation α := ⟨[], .error error⟩

/-- An outcome without events. -/
def ofExcept (outcome : Except TranslationError α) : Translation α := ⟨[], outcome⟩

instance : MonadLift (Except TranslationError) Translation where
  monadLift := ofExcept

/-- Settles a failure by a report and a replacement; what happened before it stays. -/
def settle (translation : Translation α) (handle : TranslationError → Report × α) : Settled α :=
  match translation.outcome with
  | .ok value => ⟨translation.events, value⟩
  | .error error => ⟨translation.events ++ [.report (handle error).1], (handle error).2⟩

/-- The reports of a list of events, in order. -/
def reportsOf (events : List Event) : List Report :=
  events.filterMap fun
    | .report report => some report
    | _ => none

/-- The images that a list of events asks for, in order. -/
def imagesOf (events : List Event) : List Image :=
  events.filterMap fun
    | .texture image => some image
    | _ => none

@[simp] theorem events_pure (value : α) : (pure value : Translation α).events = [] := rfl

@[simp] theorem outcome_pure (value : α) : (pure value : Translation α).outcome = .ok value := rfl

@[simp] theorem events_emit (event : Event) : (emit event).events = [event] := rfl

@[simp] theorem outcome_emit (event : Event) : (emit event).outcome = .ok () := rfl

@[simp] theorem events_report (message : Report) :
    (report message).events = [.report message] := rfl

@[simp] theorem outcome_report (message : Report) : (report message).outcome = .ok () := rfl

@[simp] theorem events_fail (error : TranslationError) :
    (fail error : Translation α).events = [] := rfl

@[simp] theorem outcome_fail (error : TranslationError) :
    (fail error : Translation α).outcome = .error error := rfl

@[simp] theorem events_ofExcept (outcome : Except TranslationError α) :
    (ofExcept outcome).events = [] := rfl

@[simp] theorem outcome_ofExcept (outcome : Except TranslationError α) :
    (ofExcept outcome).outcome = outcome := rfl

/-- After a result, the events of the next computation follow. -/
theorem events_bind_ok {first : Translation α} {value : α} (next : α → Translation β)
    (result : first.outcome = .ok value) :
    (first >>= next).events = first.events ++ (next value).events := by
  simp [bind, Translation.bind, result]

/-- After a result, the outcome is that of the next computation. -/
theorem outcome_bind_ok {first : Translation α} {value : α} (next : α → Translation β)
    (result : first.outcome = .ok value) : (first >>= next).outcome = (next value).outcome := by
  simp [bind, Translation.bind, result]

/-- After a failure, nothing else happens. -/
theorem events_bind_error {first : Translation α} {error : TranslationError}
    (next : α → Translation β) (failure : first.outcome = .error error) :
    (first >>= next).events = first.events := by
  simp [bind, Translation.bind, failure]

/-- A failure is passed on. -/
theorem outcome_bind_error {first : Translation α} {error : TranslationError}
    (next : α → Translation β) (failure : first.outcome = .error error) :
    (first >>= next).outcome = .error error := by
  simp [bind, Translation.bind, failure]

/-- A result is settled as it is. -/
theorem settle_of_ok {translation : Translation α} {value : α}
    (handle : TranslationError → Report × α) (result : translation.outcome = .ok value) :
    translation.settle handle = ⟨translation.events, value⟩ := by
  simp [settle, result]

/-- A failure is settled by its report and its replacement. -/
theorem settle_of_error {translation : Translation α} {error : TranslationError}
    (handle : TranslationError → Report × α) (failure : translation.outcome = .error error) :
    translation.settle handle =
      ⟨translation.events ++ [.report (handle error).1], (handle error).2⟩ := by
  simp [settle, failure]

instance : LawfulMonad Translation := LawfulMonad.mk' Translation
  (fun translation => by
    obtain ⟨events, outcome⟩ := translation
    cases outcome <;> simp [Functor.map, Translation.bind, Translation.pure])
  (fun value next => by simp [bind, pure, Translation.bind, Translation.pure])
  (fun first second third => by
    obtain ⟨events, outcome⟩ := first
    cases outcome with
    | error => rfl
    | ok value =>
      simp only [bind, Translation.bind]
      cases (second value).outcome <;> simp)

end Translation

end ShadingExport
