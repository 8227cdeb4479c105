/-!
# Outcomes of checks

When checks made one after the other succeed, and when a check whose faults are named anew does.
-/

namespace Wordbook

variable {Fault Renamed Result Next : Type}

theorem bind_eq_ok_iff
    {outcome : Except Fault Result}
    {next : Result → Except Fault Next}
    {value : Next} :
    (outcome >>= next) = .ok value ↔
      ∃ result, outcome = .ok result ∧ next result = .ok value := by
  cases outcome with
  | ok result =>
      constructor
      · exact fun reached => ⟨result, rfl, reached⟩
      · rintro ⟨_, ⟨⟩, reached⟩
        exact reached
  | error fault =>
      constructor
      · nofun
      · rintro ⟨_, ⟨⟩, _⟩

theorem ok_bind (result : Result) (next : Result → Except Fault Next) :
    (Except.ok result >>= next) = next result := rfl

@[simp] theorem mapError_ok (rename : Fault → Renamed) (result : Result) :
    (Except.ok result).mapError rename = .ok result := rfl

@[simp] theorem mapError_error (rename : Fault → Renamed) (fault : Fault) :
    (Except.error fault : Except Fault Result).mapError rename = .error (rename fault) := rfl

@[simp] theorem mapError_eq_ok_iff
    {rename : Fault → Renamed}
    {outcome : Except Fault Result}
    {value : Result} :
    outcome.mapError rename = .ok value ↔ outcome = .ok value := by
  cases outcome <;> simp

/-! ## Success -/

theorem isOk_iff {outcome : Except Fault Result} :
    outcome.isOk = true ↔ ∃ result, outcome = .ok result := by
  cases outcome <;> simp [Except.isOk, Except.toBool]

@[simp] theorem isOk_ok (result : Result) : (Except.ok result : Except Fault Result).isOk = true :=
  rfl

theorem isOk_bind_iff
    {outcome : Except Fault Result}
    {next : Result → Except Fault Next} :
    (outcome >>= next).isOk = true ↔
      ∃ result, outcome = .ok result ∧ (next result).isOk = true := by
  simp only [isOk_iff, bind_eq_ok_iff]
  constructor
  · rintro ⟨value, result, first, second⟩
    exact ⟨result, first, value, second⟩
  · rintro ⟨result, first, value, second⟩
    exact ⟨value, result, first, second⟩

@[simp] theorem isOk_bind_pure (outcome : Except Fault Result) (change : Result → Next) :
    (outcome >>= fun result => pure (change result)).isOk = outcome.isOk := by
  cases outcome <;> rfl

@[simp] theorem isOk_map (change : Result → Next) (outcome : Except Fault Result) :
    (change <$> outcome).isOk = outcome.isOk := by
  cases outcome <;> rfl

/-- Checks of some values succeed together when each of them does. -/
theorem isOk_mapM_iff {check : Result → Except Fault Next} {values : List Result} :
    (values.mapM check).isOk = true ↔ ∀ value ∈ values, (check value).isOk = true := by
  induction values with
  | nil => simp [pure, Except.pure]
  | cons value values inductionHypothesis =>
      rw [List.mapM_cons, isOk_bind_iff, List.forall_mem_cons, ← inductionHypothesis]
      cases check value with
      | ok result => simp
      | error fault => simp [isOk_iff]

end Wordbook
