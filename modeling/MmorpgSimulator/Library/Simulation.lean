import MmorpgSimulator.Library.Run

set_option autoImplicit false

namespace Machine

variable {Concrete Input Abstract Label : Type*}

-- Each step of the first machine is one step of the second, or none that can be seen there.
structure Simulates (step : Concrete → Input → Concrete) (act : Abstract → Label → Abstract) (view : Concrete → Abstract)
    (label : Input → Option Label) : Prop where
  acts : ∀ state input seen, label input = some seen → view (step state input) = act (view state) seen
  rests : ∀ state input, label input = none → view (step state input) = view state

variable {step : Concrete → Input → Concrete} {act : Abstract → Label → Abstract} {view : Concrete → Abstract}
  {label : Input → Option Label}

theorem Simulates.run (simulates : Simulates step act view label) (start : Concrete) (inputs : List Input) :
    view (run step start inputs) = Machine.run act (view start) (inputs.filterMap label) := by
  induction inputs generalizing start with
  | nil => rfl
  | cons input rest ih =>
      rw [run_cons, ih (step start input)]
      cases seen : label input with
      | none => rw [List.filterMap_cons_none seen, simulates.rests start input seen]
      | some other => rw [List.filterMap_cons_some seen, run_cons, simulates.acts start input other seen]

theorem Simulates.count (simulates : Simulates step act view label) (counted : Abstract → Label → Bool) (start : Concrete)
    (inputs : List Input) :
    Machine.count step (fun state input => (label input).any (counted (view state))) start inputs =
      Machine.count act counted (view start) (inputs.filterMap label) := by
  induction inputs generalizing start with
  | nil => rfl
  | cons input rest ih =>
      rw [Machine.count, ih (step start input)]
      cases seen : label input with
      | none =>
          rw [List.filterMap_cons_none seen, simulates.rests start input seen]
          exact Nat.zero_add _
      | some other =>
          rw [List.filterMap_cons_some seen, Machine.count, simulates.acts start input other seen]
          rfl

theorem Simulates.invariant (simulates : Simulates step act view label) (property : Abstract → Prop) (start : Concrete)
    (always : ∀ labels, property (Machine.run act (view start) labels)) (inputs : List Input) :
    property (view (Machine.run step start inputs)) := by
  rw [simulates.run start inputs]
  exact always _

end Machine
