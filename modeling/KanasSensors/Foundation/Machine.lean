import Mathlib.Data.List.Basic
import Mathlib.Order.RelClasses

/-! Deterministic machines driven by a list of inputs, and what holds along their runs.

A run is kept as the list of its transitions, so that a statement can speak about
the state before an input, the input, what was put out and the state after.
-/

set_option autoImplicit false

namespace Foundation

structure Machine (State Input Output : Type) where
  step : State → Input → State × Output

structure Transition (State Input Output : Type) where
  source : State
  input : Input
  output : Output
  target : State

namespace Machine

variable {State Input Output : Type} (m : Machine State Input Output)

def fire (s : State) (i : Input) : Transition State Input Output :=
  ⟨s, i, (m.step s i).2, (m.step s i).1⟩

def trace : State → List Input → List (Transition State Input Output)
  | _, [] => []
  | s, i :: rest => m.fire s i :: trace (m.step s i).1 rest

def run : State → List Input → State
  | s, [] => s
  | s, i :: rest => run (m.step s i).1 rest

@[simp] theorem run_nil (s : State) : m.run s [] = s := rfl

@[simp] theorem run_cons (s : State) (i : Input) (rest : List Input) :
    m.run s (i :: rest) = m.run (m.step s i).1 rest := rfl

@[simp] theorem trace_nil (s : State) : m.trace s [] = [] := rfl

@[simp] theorem trace_cons (s : State) (i : Input) (rest : List Input) :
    m.trace s (i :: rest) = m.fire s i :: m.trace (m.step s i).1 rest := rfl

theorem run_append (s : State) (first rest : List Input) :
    m.run s (first ++ rest) = m.run (m.run s first) rest := by
  induction first generalizing s with
  | nil => rfl
  | cons i first ih => exact ih _

theorem trace_append (s : State) (first rest : List Input) :
    m.trace s (first ++ rest) = m.trace s first ++ m.trace (m.run s first) rest := by
  induction first generalizing s with
  | nil => rfl
  | cons i first ih => exact congrArg (m.fire s i :: ·) (ih _)

theorem mem_trace {s : State} {inputs : List Input} {t : Transition State Input Output}
    (member : t ∈ m.trace s inputs) : t = m.fire t.source t.input := by
  induction inputs generalizing s with
  | nil => cases member
  | cons i rest ih =>
    rcases List.mem_cons.mp member with rfl | member
    · rfl
    · exact ih member

theorem output_of_mem_trace {s : State} {inputs : List Input} {t : Transition State Input Output}
    (member : t ∈ m.trace s inputs) : t.output = (m.step t.source t.input).2 :=
  congrArg Transition.output (m.mem_trace member)

/-- The invariant rule: where each transition meets `guard`, an invariant that such
transitions keep holds before and after every one of them. -/
theorem trace_invariant (inv : State → Prop) (guard : State → Input → Prop)
    (kept : ∀ s i, inv s → guard s i → inv (m.step s i).1)
    (s : State) (inputs : List Input) (start : inv s)
    (guarded : ∀ t ∈ m.trace s inputs, guard t.source t.input) :
    ∀ t ∈ m.trace s inputs, inv t.source ∧ inv t.target := by
  induction inputs generalizing s with
  | nil => intro t member; cases member
  | cons i rest ih =>
    have next := kept s i start (guarded _ List.mem_cons_self)
    intro t member
    rcases List.mem_cons.mp member with rfl | member
    · exact ⟨start, next⟩
    · exact ih _ next (fun t' member' => guarded t' (List.mem_cons_of_mem _ member')) t member

theorem run_invariant (inv : State → Prop) (guard : State → Input → Prop)
    (kept : ∀ s i, inv s → guard s i → inv (m.step s i).1)
    (s : State) (inputs : List Input) (start : inv s)
    (guarded : ∀ t ∈ m.trace s inputs, guard t.source t.input) : inv (m.run s inputs) := by
  induction inputs generalizing s with
  | nil => exact start
  | cons i rest ih =>
    apply ih
    · exact kept s i start (guarded _ List.mem_cons_self)
    · exact fun t member => guarded t (List.mem_cons_of_mem _ member)

/-- Where a step from a good state stays good exactly when it meets `guard`, the
states of a run are good exactly when its transitions meet `guard`. The inputs of the
run are among those the step is known for. -/
theorem trace_iff_of (allowed : Input → Prop) (good : State → Prop) (guard : State → Input → Prop)
    (step_iff : ∀ s i, allowed i → good s → (good (m.step s i).1 ↔ guard s i))
    (s : State) (inputs : List Input) (inside : ∀ i ∈ inputs, allowed i) (start : good s) :
    (∀ t ∈ m.trace s inputs, good t.target) ↔ ∀ t ∈ m.trace s inputs, guard t.source t.input := by
  induction inputs generalizing s with
  | nil => simp
  | cons i rest ih =>
    have here := step_iff s i (inside i List.mem_cons_self) start
    have inside' := fun other member => inside other (List.mem_cons_of_mem i member)
    simp only [trace_cons, List.forall_mem_cons, fire]
    constructor
    · rintro ⟨next, later⟩
      exact ⟨here.mp next, (ih _ inside' next).mp later⟩
    · rintro ⟨met, later⟩
      have next := here.mpr met
      exact ⟨next, (ih _ inside' next).mpr later⟩

theorem trace_iff (good : State → Prop) (guard : State → Input → Prop)
    (step_iff : ∀ s i, good s → (good (m.step s i).1 ↔ guard s i))
    (s : State) (inputs : List Input) (start : good s) :
    (∀ t ∈ m.trace s inputs, good t.target) ↔ ∀ t ∈ m.trace s inputs, guard t.source t.input :=
  m.trace_iff_of (fun _ => True) good guard (fun s i _ => step_iff s i) s inputs (fun _ _ => trivial) start

/-- The ranking rule: where each step from a state of the invariant is done or lowers the
rank within the invariant, a run is done at some time, whatever its inputs. -/
theorem exists_run_done {Rank : Type} [LT Rank] [WellFoundedLT Rank] (inv done : State → Prop)
    (rank : State → Rank)
    (lower : ∀ s i, inv s → done (m.step s i).1 ∨ (inv (m.step s i).1 ∧ rank (m.step s i).1 < rank s))
    (s : State) (start : inv s) (inputs : Nat → Input) : ∃ n, done (m.run s ((List.range n).map inputs)) := by
  have below : Acc (· < ·) (rank s) := wellFounded_lt.apply _
  generalize at_most : rank s = r at below
  induction below generalizing s inputs with
  | intro r _ ih =>
    obtain ⟨n, later⟩ : ∃ n, done (m.run (m.step s (inputs 0)).1 ((List.range n).map fun k => inputs (k + 1))) := by
      rcases lower s (inputs 0) start with ended | ⟨still, lowered⟩
      · exact ⟨0, ended⟩
      · exact ih _ (at_most ▸ lowered) _ still _ rfl
    refine ⟨n + 1, ?_⟩
    rw [List.range_succ_eq_map, List.map_cons, List.map_map]
    exact later

end Machine
end Foundation
