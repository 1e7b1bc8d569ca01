/-!
# Results that may be faults

Facts about steps that may fail: a sequence succeeds if and only if it succeeds at every step, a
value that is returned is the result, and another wording of a fault changes no result.
-/

namespace CallGraph

namespace Fallible

variable {ε α β : Type}

/-- A step and what follows it succeed together only if both do. -/
theorem of_bind_eq_ok {step : Except ε α} {next : α → Except ε β} {result : β}
    (run : (step >>= next) = .ok result) :
    ∃ middle, step = .ok middle ∧ next middle = .ok result := by
  cases step with
  | error fault => simp [bind, Except.bind] at run
  | ok middle => exact ⟨middle, rfl, run⟩

/-- What is returned is the result. -/
theorem of_pure_eq_ok {value result : α} (run : (pure value : Except ε α) = .ok result) :
    value = result := by
  simpa [pure, Except.pure] using run

/-- A step and what follows it succeed together if and only if both do. -/
theorem bind_eq_ok_iff {step : Except ε α} {next : α → Except ε β} {result : β} :
    (step >>= next) = .ok result ↔ ∃ middle, step = .ok middle ∧ next middle = .ok result := by
  constructor
  · exact of_bind_eq_ok
  · rintro ⟨middle, rfl, run⟩
    exact run

/-- A step and what follows it fail if either fails. -/
theorem bind_eq_error_iff {step : Except ε α} {next : α → Except ε β} {fault : ε} :
    (step >>= next) = .error fault ↔
      step = .error fault ∨ ∃ middle, step = .ok middle ∧ next middle = .error fault := by
  cases step <;> simp [bind, Except.bind]

/-- What is returned is the result, and nothing else is. -/
@[simp]
theorem pure_eq_ok_iff {value result : α} :
    (pure value : Except ε α) = .ok result ↔ value = result := by
  simp [pure, Except.pure]

@[simp]
theorem mapError_ok {φ : Type} {reword : ε → φ} {value : α} :
    (.ok value : Except ε α).mapError reword = .ok value :=
  rfl

@[simp]
theorem mapError_error {φ : Type} {reword : ε → φ} {cause : ε} :
    (.error cause : Except ε α).mapError reword = .error (reword cause) :=
  rfl

/-- A result stays the same when faults are worded in another way. -/
@[simp]
theorem mapError_eq_ok_iff {φ : Type} {step : Except ε α} {reword : ε → φ} {result : α} :
    step.mapError reword = .ok result ↔ step = .ok result := by
  cases step <;> simp

/-- A reworded fault comes from a fault. -/
@[simp]
theorem mapError_eq_error_iff {φ : Type} {step : Except ε α} {reword : ε → φ} {fault : φ} :
    step.mapError reword = .error fault ↔ ∃ cause, step = .error cause ∧ reword cause = fault := by
  cases step <;> simp

/-- A function applied to a result succeeds if and only if there is a result. -/
@[simp]
theorem map_eq_ok_iff {step : Except ε α} {function : α → β} {result : β} :
    step.map function = .ok result ↔ ∃ middle, step = .ok middle ∧ function middle = result := by
  cases step <;> simp [Except.map]

@[simp]
theorem map_eq_error_iff {step : Except ε α} {function : α → β} {fault : ε} :
    step.map function = .error fault ↔ step = .error fault := by
  cases step <;> simp [Except.map]

@[simp]
theorem functorMap_eq_ok_iff {step : Except ε α} {function : α → β} {result : β} :
    (function <$> step) = .ok result ↔ ∃ middle, step = .ok middle ∧ function middle = result :=
  map_eq_ok_iff

@[simp]
theorem functorMap_eq_error_iff {step : Except ε α} {function : α → β} {fault : ε} :
    (function <$> step) = .error fault ↔ step = .error fault :=
  map_eq_error_iff

/-- There is a value to go on with if and only if there is a result. -/
@[simp]
theorem toOption_eq_some_iff {step : Except ε α} {result : α} :
    step.toOption = some result ↔ step = .ok result := by
  cases step <;> simp [Except.toOption]

/-- A step for each input succeeds throughout if and only if every step does, with one result for
each input. -/
theorem mapM_eq_ok_iff {step : α → Except ε β} {inputs : List α} {results : List β} :
    inputs.mapM step = .ok results ↔ inputs.map step = results.map .ok := by
  induction inputs generalizing results with
  | nil =>
      rw [List.mapM_nil, pure_eq_ok_iff, List.map_nil, eq_comm, eq_comm (a := []),
        List.map_eq_nil_iff]
  | cons input inputs ih =>
      rw [List.mapM_cons, bind_eq_ok_iff]
      constructor
      · rintro ⟨first, found, run⟩
        obtain ⟨rest, others, built⟩ := of_bind_eq_ok run
        obtain rfl := of_pure_eq_ok built
        rw [List.map_cons, List.map_cons, found, ih.mp others]
      · intro found
        cases results with
        | nil => contradiction
        | cons first rest =>
            rw [List.map_cons, List.map_cons, List.cons.injEq] at found
            refine ⟨first, found.1, ?_⟩
            rw [ih.mpr found.2]
            rfl

/-- Rewording the faults of steps changes no results. -/
theorem mapM_mapError_of_ok {φ : Type} {step : α → Except ε β} {inputs : List α} {results : List β}
    (reword : ε → φ) (succeeded : inputs.mapM step = .ok results) :
    inputs.mapM (fun input => (step input).mapError reword) = .ok results := by
  rw [mapM_eq_ok_iff] at succeeded ⊢
  have reworded := congrArg (List.map (Except.mapError reword)) succeeded
  rw [List.map_map, List.map_map] at reworded
  exact reworded

/-- Steps that succeed throughout succeed for each input. -/
theorem exists_of_mapM_eq_ok {step : α → Except ε β} {inputs : List α} {results : List β}
    (succeeded : inputs.mapM step = .ok results) {input : α} (member : input ∈ inputs) :
    ∃ result, step input = .ok result := by
  have found : step input ∈ inputs.map step := List.mem_map_of_mem member
  rw [mapM_eq_ok_iff.mp succeeded] at found
  obtain ⟨result, -, result_eq⟩ := List.mem_map.mp found
  exact ⟨result, result_eq.symm⟩

/-- A step for each input fails throughout if and only if one step does, with the first fault. -/
theorem mapM_eq_error_iff {step : α → Except ε β} {inputs : List α} {fault : ε} :
    inputs.mapM step = .error fault ↔
      ∃ front input back, inputs = front ++ input :: back ∧
        (∀ other ∈ front, ∃ result, step other = .ok result) ∧ step input = .error fault := by
  induction inputs with
  | nil => simp [pure, Except.pure]
  | cons first rest ih =>
      rw [List.mapM_cons, bind_eq_error_iff]
      constructor
      · rintro (failed | ⟨result, found, failed⟩)
        · exact ⟨[], first, rest, rfl, List.forall_mem_nil _, failed⟩
        · rcases bind_eq_error_iff.mp failed with failed | ⟨_, _, contra⟩
          · obtain ⟨front, input, back, rfl, succeeded, failed⟩ := ih.mp failed
            refine ⟨first :: front, input, back, rfl, ?_, failed⟩
            exact List.forall_mem_cons.mpr ⟨⟨result, found⟩, succeeded⟩
          · cases contra
      · rintro ⟨front, input, back, split, succeeded, failed⟩
        cases front with
        | nil =>
            cases split
            exact .inl failed
        | cons _ front =>
            cases split
            obtain ⟨⟨result, found⟩, succeeded⟩ := List.forall_mem_cons.mp succeeded
            refine .inr ⟨result, found, bind_eq_error_iff.mpr (.inl ?_)⟩
            exact ih.mpr ⟨front, input, back, rfl, succeeded, failed⟩

/-- Steps that succeed for each input succeed throughout. -/
theorem exists_mapM_eq_ok {step : α → Except ε β} {inputs : List α}
    (each : ∀ input ∈ inputs, ∃ result, step input = .ok result) :
    ∃ results, inputs.mapM step = .ok results := by
  cases run : inputs.mapM step with
  | ok results => exact ⟨results, rfl⟩
  | error fault =>
      obtain ⟨front, input, back, split, -, failed⟩ := mapM_eq_error_iff.mp run
      obtain ⟨result, found⟩ := each input (by simp [split])
      rw [found] at failed
      contradiction

/-- A step behind each of the steps may as well be taken behind all of them, if these succeed. -/
theorem mapM_bind_of_ok {γ : Type} {step : α → Except ε β} {inputs : List α} {results : List β}
    (succeeded : inputs.mapM step = .ok results) (next : β → Except ε γ) :
    inputs.mapM (fun input => step input >>= next) = results.mapM next := by
  rw [mapM_eq_ok_iff] at succeeded
  induction inputs generalizing results with
  | nil =>
      obtain rfl := List.map_eq_nil_iff.mp succeeded.symm
      rfl
  | cons input inputs ih =>
      cases results with
      | nil => contradiction
      | cons result results =>
          rw [List.map_cons, List.map_cons, List.cons.injEq] at succeeded
          obtain ⟨found, rest⟩ := succeeded
          rw [List.mapM_cons, List.mapM_cons, found, ih rest]
          rfl

/-- Steps that all succeed do so for fewer inputs as well.  The inputs that are kept are known by
their results. -/
theorem mapM_filter_eq_ok {step : α → Except ε β} {kept : α → Bool} {keptResult : β → Bool}
    (agree : ∀ input result, step input = .ok result → keptResult result = kept input)
    {inputs : List α} {results : List β} (succeeded : inputs.mapM step = .ok results) :
    (inputs.filter kept).mapM step = .ok (results.filter keptResult) := by
  rw [mapM_eq_ok_iff] at succeeded ⊢
  induction inputs generalizing results with
  | nil =>
      obtain rfl := List.map_eq_nil_iff.mp succeeded.symm
      rfl
  | cons input inputs ih =>
      cases results with
      | nil => contradiction
      | cons result results =>
          rw [List.map_cons, List.map_cons, List.cons.injEq] at succeeded
          obtain ⟨found, rest⟩ := succeeded
          have same := agree input result found
          by_cases keep : kept input = true
          · rw [List.filter_cons_of_pos keep, List.filter_cons_of_pos (same.trans keep),
              List.map_cons, List.map_cons, found, ih rest]
          · rw [List.filter_cons_of_neg keep, List.filter_cons_of_neg (same ▸ keep), ih rest]

end Fallible

end CallGraph
