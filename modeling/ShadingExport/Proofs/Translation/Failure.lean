import ShadingExport.Proofs.Translation.Success

/-!
# How translations fail

A translation fails only in some ways if every error that it can have is one of these
(`Translation.FailsOnly`). Of a sequence, this is asked of every step that is reached
(`Translation.failsOnly_bind`).
-/

namespace ShadingExport

namespace Translation

variable {α β : Type} {allowed : TranslationError → Prop}

/-- If there is no result, the error is one of those allowed. -/
def FailsOnly (translation : Translation α) (allowed : TranslationError → Prop) : Prop :=
  ∀ error, translation.outcome = .error error → allowed error

@[simp] theorem failsOnly_pure {value : α} : (pure value : Translation α).FailsOnly allowed := by
  rintro _ ⟨⟩

@[simp] theorem failsOnly_emit {event : Event} : (emit event).FailsOnly allowed := by
  rintro _ ⟨⟩

@[simp] theorem failsOnly_report {message : Report} : (report message).FailsOnly allowed :=
  failsOnly_emit

@[simp] theorem failsOnly_fail {error : TranslationError} :
    (fail error : Translation α).FailsOnly allowed ↔ allowed error := by
  constructor
  · intro h
    exact h error rfl
  · rintro h _ ⟨⟩
    exact h

@[simp] theorem failsOnly_ofExcept {outcome : Except TranslationError α} :
    (ofExcept outcome).FailsOnly allowed ↔ ∀ error, outcome = .error error → allowed error :=
  Iff.rfl

/-- **A sequence fails only as its steps do**, the later ones on the values that they can get. -/
@[simp] theorem failsOnly_bind {first : Translation α} {next : α → Translation β} :
    (first >>= next).FailsOnly allowed ↔
      first.FailsOnly allowed ∧
        ∀ value, first.outcome = .ok value → (next value).FailsOnly allowed := by
  unfold FailsOnly
  cases hfirst : first.outcome with
  | error error =>
    rw [outcome_bind_error next hfirst]
    constructor
    · intro h
      refine ⟨?_, ?_⟩
      · rintro _ ⟨⟩
        exact h error rfl
      · rintro _ ⟨⟩
    · rintro ⟨h, -⟩ _ ⟨⟩
      exact h error rfl
  | ok value =>
    rw [outcome_bind_ok next hfirst]
    constructor
    · intro h
      refine ⟨?_, ?_⟩
      · rintro _ ⟨⟩
      · rintro _ ⟨⟩
        exact h
    · rintro ⟨-, h⟩
      exact h value rfl

@[simp] theorem failsOnly_report_bind {message : Report} {next : Unit → Translation α} :
    (report message >>= next).FailsOnly allowed ↔ (next ()).FailsOnly allowed := by
  rw [failsOnly_bind]
  constructor
  · intro h
    exact h.2 () rfl
  · intro h
    exact ⟨failsOnly_report, fun _ _ => h⟩

@[simp] theorem failsOnly_map {first : Translation α} {function : α → β} :
    (function <$> first).FailsOnly allowed ↔ first.FailsOnly allowed := by
  rw [← bind_pure_comp, failsOnly_bind]
  exact and_iff_left fun _ _ => failsOnly_pure

/-- A choice fails only as its sides do, each where it is taken. -/
theorem failsOnly_ite {condition : Prop} [Decidable condition] {first second : Translation α}
    (hfirst : condition → first.FailsOnly allowed)
    (hsecond : ¬ condition → second.FailsOnly allowed) :
    (if condition then first else second).FailsOnly allowed := by
  split
  · next h => exact hfirst h
  · next h => exact hsecond h

/-- More errors may be allowed. -/
theorem FailsOnly.mono {translation : Translation α} {allowed allowed' : TranslationError → Prop}
    (h : translation.FailsOnly allowed) (himp : ∀ error, allowed error → allowed' error) :
    translation.FailsOnly allowed' :=
  fun error herror => himp error (h error herror)

end Translation

end ShadingExport
