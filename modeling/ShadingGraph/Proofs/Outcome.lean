/-! # Outcomes of fallible steps

What the success or the error of a sequence of fallible steps says about each of them.
-/

namespace ShadingGraph.Outcome

variable {ε δ α β : Type}

theorem bind_eq_ok {first : Except ε α} {next : α → Except ε β} {b : β} :
    (first >>= next) = .ok b ↔ ∃ a, first = .ok a ∧ next a = .ok b := by
  cases first <;> simp [bind, Except.bind]

theorem bind_eq_error {first : Except ε α} {next : α → Except ε β} {error : ε} :
    (first >>= next) = .error error ↔
      first = .error error ∨ ∃ a, first = .ok a ∧ next a = .error error := by
  cases first <;> simp [bind, Except.bind]

theorem pure_eq_ok {a b : α} : (pure a : Except ε α) = .ok b ↔ a = b :=
  ⟨fun same => by cases same; rfl, fun same => same ▸ rfl⟩

theorem map_eq_ok {first : Except ε α} {change : α → β} {b : β} :
    first.map change = .ok b ↔ ∃ a, first = .ok a ∧ change a = b := by
  cases first <;> simp [Except.map]

theorem map_eq_error {first : Except ε α} {change : α → β} {error : ε} :
    first.map change = .error error ↔ first = .error error := by
  cases first <;> simp [Except.map]

theorem mapError_eq_ok {first : Except ε α} {change : ε → δ} {a : α} :
    first.mapError change = .ok a ↔ first = .ok a := by
  constructor <;> intro same <;> cases first <;> cases same <;> rfl

theorem mapError_eq_error {first : Except ε α} {change : ε → δ} {error : δ} :
    first.mapError change = .error error ↔ ∃ cause, first = .error cause ∧ change cause = error := by
  cases first with
  | ok value => exact ⟨nofun, nofun⟩
  | error cause =>
      constructor
      · intro same
        exact ⟨cause, rfl, Except.error.inj same⟩
      · rintro ⟨_, same, rfl⟩
        cases same
        rfl

theorem ok_bind {a : α} {next : α → Except ε β} : (Except.ok a >>= next) = next a := rfl

theorem throw_bind {error : ε} {next : α → Except ε β} :
    (throw error >>= next : Except ε β) = throw error := rfl

theorem demand_eq_ok {condition : Prop} [Decidable condition] {next : Except ε α} {error : ε}
    {a : α} : (if condition then next else throw error) = .ok a ↔ condition ∧ next = .ok a := by
  by_cases holds : condition
  · simp [holds]
  · simp [holds, throw, throwThe, MonadExceptOf.throw]

theorem refuse_eq_ok {condition : Prop} [Decidable condition] {next : Except ε α} {error : ε}
    {a : α} : (if condition then throw error else next) = .ok a ↔ ¬condition ∧ next = .ok a := by
  by_cases holds : condition
  · simp [holds, throw, throwThe, MonadExceptOf.throw]
  · simp [holds]

def failsWith [DecidableEq ε] (outcome : Except ε α) (error : ε) : Bool :=
  match outcome with
  | .error found => found = error
  | .ok _ => false

theorem eq_error_of_failsWith [DecidableEq ε] {outcome : Except ε α} {error : ε}
    (fails : failsWith outcome error = true) : outcome = .error error := by
  cases outcome with
  | error found => rw [of_decide_eq_true fails]
  | ok value => cases fails

def yields (outcome : Except ε α) (property : α → Prop) [DecidablePred property] : Bool :=
  match outcome with
  | .ok value => property value
  | .error _ => false

theorem yields_eq_true {outcome : Except ε α} {property : α → Prop} [DecidablePred property] :
    yields outcome property = true ↔ ∃ value, outcome = .ok value ∧ property value := by
  cases outcome <;> simp [yields]

theorem exists_of_yields {outcome : Except ε α} {property : α → Prop} [DecidablePred property]
    (holds : yields outcome property = true) : ∃ value, outcome = .ok value ∧ property value :=
  yields_eq_true.mp holds

/-- Both succeed with related values, or both fail with the same error. -/
inductive Agree (related : α → β → Prop) : Except ε α → Except ε β → Prop where
  | ok {a : α} {b : β} (values : related a b) : Agree related (.ok a) (.ok b)
  | error (error : ε) : Agree related (.error error) (.error error)

end ShadingGraph.Outcome
