import KanasSensors.Hub.Device
import KanasSensors.Hub.Refinement

/-! What stands around the driver: the device, the queue of its descriptor, and the callers.

A step of a host makes calls of the driver, lets events into the queue, and puts out what calls
that are over have stored; what is stored meanwhile for a call that is still in progress is held. Whatever the host does,
its driver is the hub, and events go from the queue through the reader into the event loop.
-/

set_option autoImplicit false

namespace KanasSensors

open Foundation

variable {F : Type} [FloatArith F]

def Moment.switching : Moment F → Option (Int × Int)
  | .enabling handle enabled => some (handle, enabled)
  | .taken _ _ _ => none

def Call.switching : Call → Option (Int × Int)
  | .setEnable handle enabled _ => some (handle, enabled)
  | _ => none

def Hub.initial : Hub F :=
  ⟨∅, fun _ => FloatArith.ofInt 0, fun _ => FloatArith.ofInt 0, fun _ => FloatArith.ofInt 0⟩

namespace Accelerometer

theorem arrived_append (a : Accelerometer F) (first rest : List Call) :
    a.arrived (first ++ rest) = a.arrived first ++ (driver.run a first).arrived rest := by
  rw [arrived, driver.trace_append, List.flatMap_append]
  rfl

theorem history_switching (a : Accelerometer F) (calls : List Call) :
    (a.history calls).filterMap Moment.switching = calls.filterMap Call.switching := by
  induction calls generalizing a with
  | nil => rfl
  | cons call rest ih =>
    have taken : a.history (call :: rest) = a.moments call ++ (a.answer call).1.history rest := rfl
    have here : (a.moments call).filterMap Moment.switching = (Call.switching call).toList := by
      cases call with
      | readEvents count fd =>
        rw [moments, List.filterMap_map]
        exact List.filterMap_eq_nil_iff.mpr fun _ _ => rfl
      | _ => rfl
    rw [taken, List.filterMap_append, ih, here, List.filterMap_cons]
    cases Call.switching call with
    | none => rfl
    | some _ => rfl

end Accelerometer

structure Host (State Input F : Type) [FloatArith F] where
  machine : Machine State Input (List (SensorsEvent F))
  acc : State → Accelerometer F
  kernel : State → List InputEvent
  held : State → List (SensorsEvent F)
  calls : State → Input → List Call
  entered : State → Input → List InputEvent
  switching : Input → Option (Int × Int)
  performs : ∀ s i, ∃ stored, (acc s).Performs (calls s i) (acc (machine.step s i).1) stored ∧
    held s ++ stored = (machine.step s i).2 ++ held (machine.step s i).1
  stream : ∀ s i, kernel s ++ entered s i = (acc s).arrived (calls s i) ++ kernel (machine.step s i).1
  switched : ∀ s i, (calls s i).filterMap Call.switching = (switching i).toList

namespace Host

variable {State Input : Type} (host : Host State Input F)

def allCalls (s : State) (inputs : List Input) : List Call :=
  (host.machine.trace s inputs).flatMap fun t => host.calls t.source t.input

def inflow (s : State) (inputs : List Input) : List InputEvent :=
  (host.machine.trace s inputs).flatMap fun t => host.entered t.source t.input

def moments (s : State) (inputs : List Input) : List (Moment F) := (host.acc s).history (host.allCalls s inputs)

theorem run_performs (s : State) (inputs : List Input) :
    ∃ stored, (host.acc s).Performs (host.allCalls s inputs) (host.acc (host.machine.run s inputs)) stored ∧
      host.held s ++ stored = host.machine.outputs s inputs ++ host.held (host.machine.run s inputs) := by
  induction inputs generalizing s with
  | nil => exact ⟨[], .refl _, List.append_nil _⟩
  | cons i rest ih =>
    obtain ⟨stored, performs, handed⟩ := host.performs s i
    obtain ⟨further, later, last⟩ := ih (host.machine.step s i).1
    refine ⟨stored ++ further, performs.append later, ?_⟩
    -- what is stored in this step goes out with it, or is held on to
    calc host.held s ++ (stored ++ further)
      _ = (host.machine.step s i).2 ++ (host.held (host.machine.step s i).1 ++ further) := by
        rw [← List.append_assoc, handed, List.append_assoc]
      _ = host.machine.outputs s (i :: rest) ++ host.held (host.machine.run s (i :: rest)) := by
        rw [last, Machine.outputs_cons, List.append_assoc]
        rfl

theorem run_queue (s : State) (inputs : List Input) :
    host.kernel s ++ host.inflow s inputs =
      (host.acc s).arrived (host.allCalls s inputs) ++ host.kernel (host.machine.run s inputs) := by
  induction inputs generalizing s with
  | nil => exact List.append_nil _
  | cons i rest ih =>
    have came : host.inflow s (i :: rest) =
        host.entered s i ++ host.inflow (host.machine.step s i).1 rest := rfl
    have called : host.allCalls s (i :: rest) =
        host.calls s i ++ host.allCalls (host.machine.step s i).1 rest := rfl
    -- the rest begins with the queue, and the driver, of after this step
    obtain ⟨stored, performs, -⟩ := host.performs s i
    rw [came, called, ← List.append_assoc, host.stream, List.append_assoc, ih,
      Accelerometer.arrived_append, performs.state, List.append_assoc]
    rfl

theorem run_switching (s : State) (inputs : List Input) :
    (host.moments s inputs).filterMap Moment.switching = inputs.filterMap host.switching := by
  rw [moments, Accelerometer.history_switching]
  induction inputs generalizing s with
  | nil => rfl
  | cons i rest ih =>
    have called : host.allCalls s (i :: rest) =
        host.calls s i ++ host.allCalls (host.machine.step s i).1 rest := rfl
    rw [called, List.filterMap_append, host.switched, ih, List.filterMap_cons]
    cases host.switching i with
    | none => rfl
    | some _ => rfl

/-- In any run the events go through the queue, the reader and the event loop in order:
those taken, then those unread in the reader, then those still queued. -/
theorem run_conserves {s : State} (unread : (host.acc s).mInputReader.unread = []) (inputs : List Input) :
    host.kernel s ++ host.inflow s inputs = (host.moments s inputs).filterMap Moment.event ++
      (host.acc (host.machine.run s inputs)).mInputReader.unread ++ host.kernel (host.machine.run s inputs) := by
  have reader := (host.acc s).run_stream (host.allCalls s inputs)
  obtain ⟨stored, performs, -⟩ := host.run_performs s inputs
  rw [unread, List.nil_append, performs.state] at reader
  rw [run_queue, reader]
  rfl

/-- What has been put out in any run and what is held at its end are what the hub reports of the
moments of the run, and the driver is where they lead the hub. -/
theorem run_refines {s : State} (marked : (host.acc s).Marked) (nothing : host.held s = []) (inputs : List Input) :
    let meanings := (host.moments s inputs).flatMap fun moment => moment.meaning.toList
    (host.machine.outputs s inputs ++ host.held (host.machine.run s inputs)).filterMap SensorsEvent.report =
        (Hub.hub Hub.tuning).outputs (host.acc s).hub meanings ∧
      (host.acc (host.machine.run s inputs)).hub = (Hub.hub Hub.tuning).run (host.acc s).hub meanings := by
  intro meanings
  obtain ⟨stored, performs, handed⟩ := host.run_performs s inputs
  have follows := Accelerometer.driver_follows marked (host.allCalls s inputs)
  -- all that is stored in the run is out or held
  rw [nothing, List.nil_append] at handed
  constructor
  · rw [← handed, ← performs.stored]
    exact follows.reports
  · rw [← performs.state]
    exact follows.state.symm

end Host
end KanasSensors
