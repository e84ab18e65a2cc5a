import Mathlib

set_option autoImplicit false

namespace Machine

variable {State Input : Type*}

-- A deterministic machine is its step function; a run feeds it a list of inputs.
def run (step : State → Input → State) (start : State) (inputs : List Input) : State :=
  inputs.foldl step start

-- Every step of the run starts in a state that meets the guard for its input.
def Guarded (step : State → Input → State) (guard : State → Input → Prop) : State → List Input → Prop
  | _, [] => True
  | state, input :: rest => guard state input ∧ Guarded step guard (step state input) rest

instance Guarded.decidable (step : State → Input → State) (guard : State → Input → Prop) [∀ state input, Decidable (guard state input)] :
    (start : State) → (inputs : List Input) → Decidable (Guarded step guard start inputs)
  | _, [] => inferInstanceAs (Decidable True)
  | state, input :: rest =>
      have := Guarded.decidable step guard (step state input) rest
      inferInstanceAs (Decidable (guard state input ∧ Guarded step guard (step state input) rest))

-- The property holds in every state the run passes through, the first and the last included.
def Throughout (step : State → Input → State) (property : State → Prop) : State → List Input → Prop
  | state, [] => property state
  | state, input :: rest => property state ∧ Throughout step property (step state input) rest

instance Throughout.decidable (step : State → Input → State) (property : State → Prop) [∀ state, Decidable (property state)] :
    (start : State) → (inputs : List Input) → Decidable (Throughout step property start inputs)
  | state, [] => inferInstanceAs (Decidable (property state))
  | state, input :: rest =>
      have := Throughout.decidable step property (step state input) rest
      inferInstanceAs (Decidable (property state ∧ Throughout step property (step state input) rest))

@[simp] theorem run_nil (step : State → Input → State) (start : State) : run step start [] = start := rfl

@[simp] theorem run_cons (step : State → Input → State) (start : State) (input : Input) (rest : List Input) :
    run step start (input :: rest) = run step (step start input) rest := rfl

theorem run_append (step : State → Input → State) (start : State) (first second : List Input) :
    run step start (first ++ second) = run step (run step start first) second :=
  List.foldl_append

theorem guarded_trivial (step : State → Input → State) (guard : State → Input → Prop) (always : ∀ state input, guard state input)
    (start : State) (inputs : List Input) : Guarded step guard start inputs := by
  induction inputs generalizing start with
  | nil => trivial
  | cons input rest ih => exact ⟨always start input, ih (step start input)⟩

theorem guarded_append (step : State → Input → State) (guard : State → Input → Prop) (start : State)
    (first second : List Input) :
    Guarded step guard start (first ++ second) ↔
      Guarded step guard start first ∧ Guarded step guard (run step start first) second := by
  induction first generalizing start with
  | nil => simp [Guarded]
  | cons input rest ih => simp [Guarded, ih, and_assoc]

theorem guarded_iff_each (step : State → Input → State) (guard : State → Input → Prop) (start : State) (inputs : List Input) :
    Guarded step guard start inputs ↔
      ∀ before input after, inputs = before ++ input :: after → guard (run step start before) input := by
  constructor
  · rintro guarded before input after rfl
    exact ((guarded_append step guard start before (input :: after)).mp guarded).2.1
  · intro each
    induction inputs generalizing start with
    | nil => trivial
    | cons first rest ih =>
        refine ⟨each [] first rest rfl, ih (step start first) (fun before input after split => ?_)⟩
        exact each (first :: before) input after (congrArg (first :: ·) split)

theorem guarded_and (step : State → Input → State) (first second : State → Input → Prop) (start : State) (inputs : List Input)
    (one : Guarded step first start inputs) (other : Guarded step second start inputs) :
    Guarded step (fun state input => first state input ∧ second state input) start inputs := by
  induction inputs generalizing start with
  | nil => trivial
  | cons input rest ih => exact ⟨⟨one.1, other.1⟩, ih (step start input) one.2 other.2⟩

theorem guarded_iff_among (step : State → Input → State) (first second : State → Input → Prop) (invariant : State → Prop)
    (allowed : Input → Prop) (same : ∀ state input, allowed input → invariant state → (first state input ↔ second state input))
    (keeps : ∀ state input, allowed input → invariant state → invariant (step state input)) (start : State) (inputs : List Input)
    (kind : ∀ input ∈ inputs, allowed input) (initial : invariant start) :
    Guarded step first start inputs ↔ Guarded step second start inputs := by
  induction inputs generalizing start with
  | nil => exact Iff.rfl
  | cons input rest ih =>
      have one := kind input List.mem_cons_self
      exact and_congr (same start input one initial)
        (ih (step start input) (fun later member => kind later (List.mem_cons_of_mem _ member)) (keeps start input one initial))

theorem guarded_among (step : State → Input → State) (guard : State → Input → Prop) (allowed : Input → Prop) (start : State)
    (inputs : List Input) (kind : ∀ input ∈ inputs, allowed input) (guarded : Guarded step guard start inputs) :
    Guarded step (fun state input => allowed input ∧ guard state input) start inputs := by
  induction inputs generalizing start with
  | nil => trivial
  | cons input rest ih =>
      exact ⟨⟨kind input List.mem_cons_self, guarded.1⟩,
        ih (step start input) (fun later member => kind later (List.mem_cons_of_mem _ member)) guarded.2⟩

section Invariants

variable (step : State → Input → State) (guard : State → Input → Prop) (invariant : State → Prop)

theorem run_invariant (keeps : ∀ state input, invariant state → guard state input → invariant (step state input))
    (start : State) (inputs : List Input) (initial : invariant start) (guarded : Guarded step guard start inputs) :
    invariant (run step start inputs) := by
  induction inputs generalizing start with
  | nil => exact initial
  | cons input rest ih => exact ih (step start input) (keeps start input initial guarded.1) guarded.2

theorem guarded_of_invariant (weaker : State → Input → Prop) (enough : ∀ state input, invariant state → guard state input → weaker state input)
    (keeps : ∀ state input, invariant state → guard state input → invariant (step state input))
    (start : State) (inputs : List Input) (initial : invariant start) (guarded : Guarded step guard start inputs) :
    Guarded step weaker start inputs := by
  induction inputs generalizing start with
  | nil => trivial
  | cons input rest ih =>
      exact ⟨enough start input initial guarded.1, ih (step start input) (keeps start input initial guarded.1) guarded.2⟩

theorem throughout_of_guarded (property : State → Prop) (enough : ∀ state, invariant state → property state)
    (keeps : ∀ state input, invariant state → guard state input → invariant (step state input))
    (start : State) (inputs : List Input) (initial : invariant start) (guarded : Guarded step guard start inputs) :
    Throughout step property start inputs := by
  induction inputs generalizing start with
  | nil => exact enough start initial
  | cons input rest ih =>
      exact ⟨enough start initial, ih (step start input) (keeps start input initial guarded.1) guarded.2⟩

theorem throughout_start (property : State → Prop) (start : State) (inputs : List Input)
    (holds : Throughout step property start inputs) : property start := by
  cases inputs with
  | nil => exact holds
  | cons input rest => exact holds.1

theorem throughout_mono (first second : State → Prop) (weaker : ∀ state, first state → second state) (start : State) (inputs : List Input)
    (holds : Throughout step first start inputs) : Throughout step second start inputs := by
  induction inputs generalizing start with
  | nil => exact weaker start holds
  | cons input rest ih => exact ⟨weaker start holds.1, ih (step start input) holds.2⟩

theorem throughout_steps (property : State → Prop) (start : State) (inputs : List Input)
    (holds : Throughout step property start inputs) : Guarded step (fun state input => property (step state input)) start inputs := by
  induction inputs generalizing start with
  | nil => trivial
  | cons input rest ih => exact ⟨throughout_start step property (step start input) rest holds.2, ih (step start input) holds.2⟩

-- Where a step outside the guard always breaks the property, the guard is the
-- exact condition under which the property survives the whole run. Only inputs of
-- an allowed kind need be looked at.
theorem throughout_iff_guarded_among (allowed : Input → Prop) (property : State → Prop)
    (enough : ∀ state, invariant state → property state)
    (keeps : ∀ state input, allowed input → invariant state → guard state input → invariant (step state input))
    (breaks : ∀ state input, allowed input → invariant state → ¬ guard state input → ¬ property (step state input))
    (start : State) (inputs : List Input) (kind : ∀ input ∈ inputs, allowed input) (initial : invariant start) :
    Throughout step property start inputs ↔ Guarded step guard start inputs := by
  induction inputs generalizing start with
  | nil => exact ⟨fun _ => trivial, fun _ => enough start initial⟩
  | cons input rest ih =>
      have first := kind input List.mem_cons_self
      have later (next : State) (held : invariant next) :=
        ih next (fun input member => kind input (List.mem_cons_of_mem _ member)) held
      constructor
      · intro holds
        have met : guard start input := by
          by_contra unmet
          exact breaks start input first initial unmet (throughout_start step property (step start input) rest holds.2)
        exact ⟨met, (later _ (keeps start input first initial met)).mp holds.2⟩
      · intro guarded
        exact ⟨enough start initial, (later _ (keeps start input first initial guarded.1)).mpr guarded.2⟩

theorem throughout_iff_guarded (property : State → Prop) (enough : ∀ state, invariant state → property state)
    (keeps : ∀ state input, invariant state → guard state input → invariant (step state input))
    (breaks : ∀ state input, invariant state → ¬ guard state input → ¬ property (step state input))
    (start : State) (inputs : List Input) (initial : invariant start) :
    Throughout step property start inputs ↔ Guarded step guard start inputs :=
  throughout_iff_guarded_among step guard invariant (fun _ => True) property enough (fun state input _ => keeps state input)
    (fun state input _ => breaks state input) start inputs (fun _ _ => trivial) initial

theorem throughout_run (property : State → Prop) (start : State) (first second : List Input)
    (holds : Throughout step property start (first ++ second)) : property (run step start first) := by
  induction first generalizing start with
  | nil => exact throughout_start step property start second holds
  | cons input rest ih => exact ih (step start input) holds.2

end Invariants

section Counts

variable (step : State → Input → State) (counted : State → Input → Bool)

def count : State → List Input → Nat
  | _, [] => 0
  | state, input :: rest => (counted state input).toNat + count (step state input) rest

theorem count_append (start : State) (first second : List Input) :
    count step counted start (first ++ second) = count step counted start first + count step counted (run step start first) second := by
  induction first generalizing start with
  | nil => exact (Nat.zero_add _).symm
  | cons input rest ih => rw [List.cons_append, count, ih, count, run_cons, Nat.add_assoc]

theorem count_le_length (start : State) (inputs : List Input) : count step counted start inputs ≤ inputs.length := by
  induction inputs generalizing start with
  | nil => exact Nat.le_refl 0
  | cons input rest ih =>
      rw [count, List.length_cons, Nat.add_comm]
      exact Nat.add_le_add (ih (step start input)) (Bool.toNat_le _)

theorem run_counted (invariant : Nat → State → Prop) (bound : Nat)
    (keeps : ∀ number state input, invariant number state → number + (counted state input).toNat < bound →
      invariant (number + (counted state input).toNat) (step state input))
    (start : State) (inputs : List Input) (number : Nat) (initial : invariant number start)
    (few : number + count step counted start inputs < bound) :
    invariant (number + count step counted start inputs) (run step start inputs) := by
  induction inputs generalizing start number with
  | nil => exact initial
  | cons input rest ih =>
      rw [count, ← Nat.add_assoc] at few ⊢
      exact ih (step start input) _ (keeps number start input initial (Nat.lt_of_le_of_lt (Nat.le_add_right _ _) few)) few

end Counts

theorem foldl_frame {Item View : Type*} (step : State → Item → State) (view : State → View)
    (frame : ∀ state item, view (step state item) = view state) (items : List Item) (start : State) :
    view (items.foldl step start) = view start := by
  induction items generalizing start with
  | nil => rfl
  | cons item rest ih => rw [List.foldl_cons, ih, frame]

theorem foldl_keeps {Item : Type*} (step : State → Item → State) (property : State → Prop)
    (keeps : ∀ state item, property state → property (step state item)) (items : List Item) (start : State)
    (initial : property start) : property (items.foldl step start) := by
  induction items generalizing start with
  | nil => exact initial
  | cons item rest ih => exact ih (step start item) (keeps start item initial)

end Machine
