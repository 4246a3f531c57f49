import KanasSensors.Foundation.Machine

/-! One machine simulated by another that takes several steps, or none, for each of its own.

`view` gives the inputs the second machine takes for a step of the first, `keep` the part
of the first machine's output the second one accounts for. The run lemma says that a run
of the first is a run of the second over what it views, with the same kept output.
-/

set_option autoImplicit false

namespace Foundation

variable {State Input Output Target View Item : Type}

namespace Machine

def outputs (n : Machine Target View (List Item)) (t : Target) (views : List View) : List Item :=
  (n.trace t views).flatMap (·.output)

@[simp] theorem outputs_nil (n : Machine Target View (List Item)) (t : Target) :
    n.outputs t [] = [] := rfl

@[simp] theorem outputs_cons (n : Machine Target View (List Item)) (t : Target) (v : View)
    (rest : List View) : n.outputs t (v :: rest) = (n.step t v).2 ++ n.outputs (n.step t v).1 rest :=
  rfl

theorem outputs_append (n : Machine Target View (List Item)) (t : Target) (first rest : List View) :
    n.outputs t (first ++ rest) = n.outputs t first ++ n.outputs (n.run t first) rest := by
  rw [outputs, trace_append, List.flatMap_append]
  rfl

end Machine

structure Simulation (m : Machine State Input Output) (n : Machine Target View (List Item)) where
  related : State → Target → Prop
  guard : Input → Prop
  view : State → Input → List View
  keep : Output → List Item
  state : ∀ s t i, related s t → guard i → related (m.step s i).1 (n.run t (view s i))
  output : ∀ s t i, related s t → guard i → keep (m.step s i).2 = n.outputs t (view s i)

namespace Simulation

variable {m : Machine State Input Output} {n : Machine Target View (List Item)}
variable (simulation : Simulation m n)

def views (s : State) (inputs : List Input) : List View :=
  (m.trace s inputs).flatMap fun t => simulation.view t.source t.input

def kept (s : State) (inputs : List Input) : List Item :=
  (m.trace s inputs).flatMap fun t => simulation.keep t.output

theorem views_cons (s : State) (i : Input) (rest : List Input) :
    simulation.views s (i :: rest) = simulation.view s i ++ simulation.views (m.step s i).1 rest := rfl

theorem kept_cons (s : State) (i : Input) (rest : List Input) :
    simulation.kept s (i :: rest) = simulation.keep (m.step s i).2 ++ simulation.kept (m.step s i).1 rest :=
  rfl

theorem run {s : State} {t : Target} (start : simulation.related s t) (inputs : List Input)
    (guarded : ∀ i ∈ inputs, simulation.guard i) :
    simulation.related (m.run s inputs) (n.run t (simulation.views s inputs)) ∧
      simulation.kept s inputs = n.outputs t (simulation.views s inputs) := by
  induction inputs generalizing s t with
  | nil => exact ⟨start, rfl⟩
  | cons i rest ih =>
    have met := guarded i List.mem_cons_self
    have next := simulation.state s t i start met
    obtain ⟨last, later⟩ := ih next fun other member => guarded other (List.mem_cons_of_mem _ member)
    constructor
    · rw [views_cons, Machine.run_append]
      exact last
    · rw [views_cons, kept_cons, Machine.outputs_append, later, simulation.output s t i start met]

end Simulation
end Foundation
