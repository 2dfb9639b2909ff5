import Mathlib.Data.List.Forall2
import Mathlib.Order.Defs.Unbundled

/-!
# Steps that may fail

A sync and the extraction inside it are made of steps that act on a state and end with a value or an
error. Two steps one after the other succeed when both do, and fail with the first error
(`bind_eq_ok_iff`, `bind_eq_error_iff`).

A property of steps is composable if a step made of steps that have it has it as well
(`Composable`). What is composable and holds of the elementary steps of a program holds of the
program, which is said once for each program and not once for each property.

Two such properties are used. What a step does to its state, however it ends, is stated by a
relation between the state before and the state after, which is composable if it is reflexive and
transitive (`Keeps.composable`). That a step does the same from two states is stated by a relation
between the two, which it has to carry over (`Agrees.composable`).

A value that steps give was given by one of them, at a state between the first and the last one
(`EndedBetween`, `forall₂_of_mapM`).
-/

set_option autoImplicit false

namespace SourceIndex.Fallible

variable {κ σ α β : Type}

/-! ## Results of composed steps -/

theorem map_eq_ok_iff {outcome : Except κ α} {change : α → β} {result : β} :
    outcome.map change = .ok result ↔ ∃ value, outcome = .ok value ∧ change value = result := by
  cases outcome with
  | error error => simp [Except.map]
  | ok value => simp [Except.map]

theorem map_eq_error_iff {outcome : Except κ α} {change : α → β} {error : κ} :
    outcome.map change = .error error ↔ outcome = .error error := by
  cases outcome with
  | error cause => simp [Except.map]
  | ok value => simp [Except.map]

theorem pure_eq_ok_iff {value result : α} {state after : σ} :
    (pure value : ExceptT κ (StateM σ) α) state = (.ok result, after) ↔
      value = result ∧ state = after := by
  constructor
  · intro equal
    cases equal
    exact ⟨rfl, rfl⟩
  · rintro ⟨rfl, rfl⟩
    rfl

theorem pure_ne_error {value : α} {state after : σ} {error : κ} :
    (pure value : ExceptT κ (StateM σ) α) state ≠ (.error error, after) := by
  intro equal
  cases equal

theorem throw_ne_ok {cause : κ} {state after : σ} {value : α} :
    (throw cause : ExceptT κ (StateM σ) α) state ≠ (.ok value, after) := by
  intro equal
  cases equal

theorem bind_apply_of_ok {step : ExceptT κ (StateM σ) α} {state between : σ} {value : α}
    (done : step state = (.ok value, between)) (next : α → ExceptT κ (StateM σ) β) :
    (step >>= next) state = next value between := by
  change ExceptT.bindCont next (step state).1 (step state).2 = _
  rw [done]
  rfl

theorem bind_apply_of_error {step : ExceptT κ (StateM σ) α} {state between : σ} {error : κ}
    (failed : step state = (.error error, between)) (next : α → ExceptT κ (StateM σ) β) :
    (step >>= next) state = (.error error, between) := by
  change ExceptT.bindCont next (step state).1 (step state).2 = _
  rw [failed]
  rfl

/-- What follows a step goes on in the state that it left. -/
theorem state_bind_apply (step : StateM σ α) (next : α → StateM σ β) (state : σ) :
    (step >>= next) state = next (step state).1 (step state).2 := rfl

/-- Two steps succeed together when both do. -/
theorem bind_eq_ok_iff {step : ExceptT κ (StateM σ) α} {next : α → ExceptT κ (StateM σ) β}
    {state after : σ} {result : β} :
    (step >>= next) state = (.ok result, after) ↔
      ∃ value between, step state = (.ok value, between) ∧
        next value between = (.ok result, after) := by
  cases ended : step state with
  | mk outcome between =>
    cases outcome with
    | ok value =>
      rw [bind_apply_of_ok ended]
      constructor
      · exact fun done => ⟨value, between, rfl, done⟩
      · rintro ⟨_, _, same, done⟩
        cases same
        exact done
    | error error =>
      rw [bind_apply_of_error ended]
      constructor
      · intro equal
        cases equal
      · rintro ⟨_, _, same, _⟩
        cases same

/-- Two steps fail with the error of the first one that does. -/
theorem bind_eq_error_iff {step : ExceptT κ (StateM σ) α} {next : α → ExceptT κ (StateM σ) β}
    {state after : σ} {error : κ} :
    (step >>= next) state = (.error error, after) ↔
      step state = (.error error, after) ∨
        ∃ value between, step state = (.ok value, between) ∧
          next value between = (.error error, after) := by
  cases ended : step state with
  | mk outcome between =>
    cases outcome with
    | ok value =>
      rw [bind_apply_of_ok ended]
      constructor
      · exact fun failed => .inr ⟨value, between, rfl, failed⟩
      · rintro (same | ⟨_, _, same, failed⟩)
        · cases same
        · cases same
          exact failed
    | error cause =>
      rw [bind_apply_of_error ended]
      constructor
      · intro same
        cases same
        exact .inl rfl
      · rintro (same | ⟨_, _, same, _⟩)
        · cases same
          rfl
        · cases same

/-- Two steps end where the first one fails, or where the second one ends. -/
theorem bind_cases {step : ExceptT κ (StateM σ) α} {next : α → ExceptT κ (StateM σ) β}
    {state after : σ} {result : Except κ β} (ended : (step >>= next) state = (result, after)) :
    (∃ error, step state = (.error error, after) ∧ result = .error error) ∨
      ∃ value between, step state = (.ok value, between) ∧
        next value between = (result, after) := by
  cases result with
  | ok value => exact .inr (bind_eq_ok_iff.1 ended)
  | error error =>
    rcases bind_eq_error_iff.1 ended with first | second
    · exact .inl ⟨error, first, rfl⟩
    · exact .inr second

/-! ## Properties of composed steps -/

/-- The step can end with a value. -/
def Returns (step : ExceptT κ (StateM σ) α) (value : α) : Prop :=
  ∃ state after, step state = (.ok value, after)

/-- A property that a step made of steps with the property has as well. What follows a step needs it
only after the values that the step can end with. -/
structure Composable (holds : (α : Type) → ExceptT κ (StateM σ) α → Prop) : Prop where
  pure : ∀ {α : Type} (value : α), holds α (Pure.pure value)
  throw : ∀ {α : Type} (cause : κ), holds α (MonadExcept.throw cause)
  bind : ∀ {α β : Type} {step : ExceptT κ (StateM σ) α} {next : α → ExceptT κ (StateM σ) β},
    holds α step → (∀ value, Returns step value → holds β (next value)) → holds β (step >>= next)

/-- A composable property of a step for each item holds of all these steps in order. -/
theorem Composable.mapM {holds : (α : Type) → ExceptT κ (StateM σ) α → Prop}
    (composable : Composable holds) {body : α → ExceptT κ (StateM σ) β} (items : List α)
    (each : ∀ item ∈ items, holds β (body item)) : holds (List β) (items.mapM body) := by
  induction items with
  | nil => exact composable.pure []
  | cons item rest ih =>
    rw [List.mapM_cons]
    refine composable.bind (each item List.mem_cons_self) fun first _ => ?_
    refine composable.bind (ih fun other member => each other (List.mem_cons_of_mem item member))
      fun others _ => ?_
    exact composable.pure (first :: others)

/-! ## What a step does to its state -/

/-- However the step ends, the state after it is related to the state before it. -/
def Keeps (related : σ → σ → Prop) (step : ExceptT κ (StateM σ) α) : Prop :=
  ∀ state, related state (step state).2

namespace Keeps

variable {related : σ → σ → Prop}

theorem of_eq {step : ExceptT κ (StateM σ) α} (keeps : Keeps related step) {state after : σ}
    {result : Except κ α} (ended : step state = (result, after)) : related state after := by
  have here := keeps state
  rwa [ended] at here

theorem ok {step : ExceptT κ (StateM σ) α} (keeps : Keeps related step) {state after : σ}
    {value : α} (done : step state = (.ok value, after)) : related state after :=
  keeps.of_eq done

theorem error {step : ExceptT κ (StateM σ) α} (keeps : Keeps related step) {state after : σ}
    {cause : κ} (failed : step state = (.error cause, after)) : related state after :=
  keeps.of_eq failed

/-- A relation that is reflexive and transitive is kept step by step. -/
theorem composable [IsPreorder σ related] :
    Composable fun (α : Type) (step : ExceptT κ (StateM σ) α) => Keeps related step where
  pure _ state := refl_of related state
  throw _ state := refl_of related state
  bind := by
    intro α β step next first second state
    rcases ended : step state with ⟨cause | value, between⟩
    · rw [bind_apply_of_error ended]
      exact first.error ended
    · rw [bind_apply_of_ok ended]
      exact trans_of related (first.ok ended) (second value ⟨state, between, ended⟩ between)

end Keeps

/-! ## What was done in between -/

/-- Between two states the step was taken and ended with a value. -/
def EndedBetween (related : σ → σ → Prop) (step : ExceptT κ (StateM σ) α) (first last : σ)
    (value : α) : Prop :=
  ∃ start finish, related first start ∧ step start = (.ok value, finish) ∧ related finish last

namespace EndedBetween

variable {related : σ → σ → Prop} [IsPreorder σ related] {step : ExceptT κ (StateM σ) α}
variable {first last start finish : σ} {value : α}

theorem of_eq_ok (done : step first = (.ok value, last)) :
    EndedBetween related step first last value :=
  ⟨first, last, refl_of related first, done, refl_of related last⟩

theorem widen (between : EndedBetween related step start finish value)
    (before : related first start) (after : related finish last) :
    EndedBetween related step first last value := by
  obtain ⟨entered, left, earlier, done, later⟩ := between
  exact ⟨entered, left, trans_of related before earlier, done, trans_of related later after⟩

end EndedBetween

/-- What is given for a list of items is given for one item after another. -/
theorem forall₂_of_mapM {related : σ → σ → Prop} [IsPreorder σ related]
    {body : α → ExceptT κ (StateM σ) β} (keeps : ∀ item, Keeps related (body item))
    {items : List α} {values : List β} {first last : σ}
    (done : items.mapM body first = (.ok values, last)) :
    List.Forall₂ (fun item value => EndedBetween related (body item) first last value)
      items values := by
  induction items generalizing values first with
  | nil =>
    cases done
    exact .nil
  | cons item rest ih =>
    rw [List.mapM_cons] at done
    obtain ⟨value, between, here, done⟩ := bind_eq_ok_iff.1 done
    obtain ⟨others, finish, there, done⟩ := bind_eq_ok_iff.1 done
    obtain ⟨rfl, rfl⟩ := pure_eq_ok_iff.1 done
    have before := (keeps item).ok here
    have after := (Keeps.composable.mapM rest fun other _ => keeps other).ok there
    refine .cons ((EndedBetween.of_eq_ok here).widen (refl_of related first) after) ?_
    exact (ih there).imp fun _ _ between => between.widen before (refl_of related finish)

/-! ## What a step does from two states -/

/-- From related states the step ends the same way, and in related states. -/
def Agrees (related : σ → σ → Prop) (step : ExceptT κ (StateM σ) α) : Prop :=
  ∀ left right, related left right →
    (step left).1 = (step right).1 ∧ related (step left).2 (step right).2

/-- Steps that do the same from related states do so together. -/
theorem Agrees.composable {related : σ → σ → Prop} :
    Composable fun (α : Type) (step : ExceptT κ (StateM σ) α) => Agrees related step where
  pure _ _ _ alike := ⟨rfl, alike⟩
  throw _ _ _ alike := ⟨rfl, alike⟩
  bind := by
    intro α β step next first second left right alike
    obtain ⟨same, ended⟩ := first left right alike
    rcases here : step left with ⟨cause | value, between⟩
    · rcases there : step right with ⟨reason | other, last⟩
      · rw [here, there] at same ended
        cases same
        rw [bind_apply_of_error here, bind_apply_of_error there]
        exact ⟨rfl, ended⟩
      · rw [here, there] at same
        cases same
    · rcases there : step right with ⟨reason | other, last⟩
      · rw [here, there] at same
        cases same
      · rw [here, there] at same ended
        cases same
        rw [bind_apply_of_ok here, bind_apply_of_ok there]
        exact second value ⟨left, between, here⟩ between last ended

end SourceIndex.Fallible
