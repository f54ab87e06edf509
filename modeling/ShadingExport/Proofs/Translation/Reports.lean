import ShadingExport.Proofs.Translation.Success

/-!
# What translations report

A translation reports only messages of some kind if each of its reports is of that kind, whether it
succeeds or fails (`Translation.ReportsOnly`). Of a sequence this is asked of every step that is
reached (`Translation.reportsOnly_bind`). The kind of a message can be how its text begins
(`Report.Begins`).
-/

namespace ShadingExport

/-- The text of the report begins in this way. -/
def Report.Begins (report : Report) (beginning : String) : Prop :=
  beginning.toList <+: report.message.toList

instance (report : Report) (beginning : String) : Decidable (report.Begins beginning) :=
  inferInstanceAs (Decidable (_ <+: _))

/-- A text begins with its first part. -/
theorem toList_isPrefix_append (first second : String) :
    first.toList <+: (first ++ second).toList := by
  rw [String.toList_append]
  exact List.prefix_append _ _

namespace Translation

variable {α β : Type} {allowed : Report → Prop}

@[simp] theorem reportsOf_nil : reportsOf [] = [] := rfl

@[simp] theorem reportsOf_append (first second : List Event) :
    reportsOf (first ++ second) = reportsOf first ++ reportsOf second :=
  List.filterMap_append

@[simp] theorem reportsOf_report (report : Report) : reportsOf [.report report] = [report] := rfl

/-- Every report is one of those allowed, whatever the outcome. -/
def ReportsOnly (translation : Translation α) (allowed : Report → Prop) : Prop :=
  ∀ report ∈ reportsOf translation.events, allowed report

@[simp] theorem reportsOnly_pure {value : α} :
    (pure value : Translation α).ReportsOnly allowed :=
  List.forall_mem_nil _

@[simp] theorem reportsOnly_fail {error : TranslationError} :
    (fail error : Translation α).ReportsOnly allowed :=
  List.forall_mem_nil _

@[simp] theorem reportsOnly_ofExcept {outcome : Except TranslationError α} :
    (ofExcept outcome).ReportsOnly allowed :=
  List.forall_mem_nil _

@[simp] theorem reportsOnly_report {message : Report} :
    (report message).ReportsOnly allowed ↔ allowed message :=
  List.forall_mem_singleton

@[simp] theorem reportsOnly_texture {image : Image} :
    (emit (.texture image)).ReportsOnly allowed :=
  List.forall_mem_nil _

@[simp] theorem reportsOnly_trace {trace : Trace} : (emit (.trace trace)).ReportsOnly allowed :=
  List.forall_mem_nil _

/-- **A sequence reports what its steps report**, the later ones on the values that they can get. -/
@[simp] theorem reportsOnly_bind {first : Translation α} {next : α → Translation β} :
    (first >>= next).ReportsOnly allowed ↔
      first.ReportsOnly allowed ∧
        ∀ value, first.outcome = .ok value → (next value).ReportsOnly allowed := by
  unfold ReportsOnly
  cases hfirst : first.outcome with
  | error error =>
    rw [events_bind_error next hfirst]
    refine (and_iff_left ?_).symm
    rintro _ ⟨⟩
  | ok value =>
    rw [events_bind_ok next hfirst, reportsOf_append, List.forall_mem_append]
    refine and_congr_right fun _ => ?_
    constructor
    · rintro h _ ⟨⟩
      exact h
    · intro h
      exact h value rfl

end Translation

end ShadingExport
