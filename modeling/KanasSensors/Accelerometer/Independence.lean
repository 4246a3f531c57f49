import KanasSensors.Accelerometer.Stream

/-! The accelerometer's own events, apart from the two sensors that share its object.

`Alone` is an accelerometer with nothing beside it: one bit, one pending event. The
object is simulated by it over the input events it takes and the calls that switch the
accelerometer, so two runs that agree on these agree on its events.
-/

set_option autoImplicit false

namespace KanasSensors

open Foundation

variable {F : Type}

inductive MainInput where
  | event (event : InputEvent)
  | switched (enabled : Bool)

def Moment.mainInput : Moment F → Option MainInput
  | .enabling handle enabled => if handle = idA then some (.switched (enabled != 0)) else none
  | .taken _ event _ => some (.event event)

namespace SensorsEvent

def type : SensorsEvent F → SensorType
  | data event => event.type
  | metaData event => event.type

def isAccelerometer (event : SensorsEvent F) : Bool := event.type = .accelerometer

end SensorsEvent

def Sensor.type : Sensor → SensorType
  | main => .accelerometer
  | linearAcceleration => .linearAcceleration
  | significantMotion => .significantMotion

structure Alone (F : Type) where
  enabled : Bool
  pending : DataEvent F

namespace Alone

variable [FloatArith F]

def step (s : Alone F) : MainInput → Alone F × List (SensorsEvent F)
  | .switched enabled => ({ s with enabled }, [])
  | .event event =>
    if event.type = evRel then
      match axisOf event.code with
      | some axis =>
        let acceleration :=
          Function.update s.pending.acceleration axis (accUnitConversion event.value)
        ({ s with pending := { s.pending with acceleration } }, [])
      | none => (s, [])
    else if event.type = evSyn ∧ s.enabled = true then
      let pending := { s.pending with timestamp := timevalToNano event.time }
      ({ s with pending }, [.data pending])
    else (s, [])

def alone : Machine (Alone F) MainInput (List (SensorsEvent F)) := ⟨step⟩

end Alone

open Alone

namespace Accelerometer

def Typed (a : Accelerometer F) : Prop := ∀ sensor, (a.mPendingEvents sensor).type = sensor.type

def mainPart (a : Accelerometer F) : Alone F where
  enabled := BitMask.test a.mEnabled Sensor.main.index
  pending := a.mPendingEvents .main

theorem Typed.of_labels {a b : Accelerometer F} (typed : a.Typed) (same : b.labels = a.labels) :
    b.Typed :=
  fun sensor => (congrArg Prod.snd (congrFun same sensor)).trans (typed sensor)

theorem Alike.mainPart {a b : Accelerometer F} (alike : a.Alike b) : b.mainPart = a.mainPart := by
  rw [Accelerometer.mainPart, Accelerometer.mainPart, alike.mEnabled, alike.mPendingEvents]

theorem report_other {a : Accelerometer F} (typed : a.Typed) (sensor : Sensor)
    (other : sensor ≠ .main) (time : Timeval) : (a.report sensor time).1.mainPart = a.mainPart ∧
      (a.report sensor time).2.filter SensorsEvent.isAccelerometer = [] := by
  have kind : (a.mPendingEvents sensor).type ≠ .accelerometer := by
    rw [typed sensor]
    cases sensor <;> first | exact absurd rfl other | decide
  constructor
  · simp [report, mainPart, Function.update_of_ne other.symm]
  · simp [report, SensorsEvent.isAccelerometer, SensorsEvent.type, kind]

theorem acknowledge_other {a : Accelerometer F} (typed : a.Typed) (sensor : Sensor)
    (other : sensor ≠ .main) (time : Timeval) :
    (a.acknowledge sensor time).1.mainPart = a.mainPart ∧
      (a.acknowledge sensor time).2.filter SensorsEvent.isAccelerometer = [] := by
  unfold acknowledge
  split
  · exact report_other typed sensor other time
  · exact ⟨rfl, rfl⟩

variable [FloatArith F]

theorem accelerate_mainPart (a : Accelerometer F) (axis : Axis) (value : F) :
    (a.accelerate axis value).mainPart = { a.mainPart with pending := { a.mainPart.pending with
      acceleration := Function.update a.mainPart.pending.acceleration axis value } } := by
  simp only [accelerate]
  split <;> rfl

theorem create_typed (memory : Uninitialised) (files : Sysfs) :
    (create memory files : Accelerometer F).Typed := by
  intro sensor
  cases sensor <;> rfl

theorem consume_alone {a : Accelerometer F} (typed : a.Typed) (event : InputEvent) :
    (a.consume event).1.mainPart = (a.mainPart.step (.event event)).1 ∧
      (a.consume event).2.filter SensorsEvent.isAccelerometer =
        (a.mainPart.step (.event event)).2 := by
  unfold consume Alone.step
  by_cases rel : event.type = evRel
  · simp only [if_pos rel]
    cases axisOf event.code with
    | none => exact ⟨rfl, rfl⟩
    | some axis => exact ⟨a.accelerate_mainPart axis _, rfl⟩
  · simp only [if_neg rel]
    split
    · next gesture =>
      have notSyn : ¬(event.type = evSyn ∧ a.mainPart.enabled = true) := by
        rintro ⟨syn, -⟩
        exact absurd (gesture.1.symm.trans syn) (by decide)
      rw [if_neg notSyn]
      -- the bit cleared is not the accelerometer's
      let b := { a with mEnabled := BitMask.clear a.mEnabled Sensor.significantMotion.index }
      have cleared : b.mainPart = a.mainPart := by simp [b, mainPart, Sensor.index]
      have kept : b.Typed := typed
      obtain ⟨share, none_own⟩ := report_other kept .significantMotion (by decide) event.time
      exact ⟨share.trans cleared, none_own⟩
    · by_cases syn : event.type = evSyn
      · rw [if_pos syn]
        have typed' := typed.of_labels (a.acknowledge_labels .main event.time)
        have second := acknowledge_other typed' .linearAcceleration (by decide) event.time
        rw [List.filter_append, second.1, second.2, List.append_nil]
        cases active : BitMask.test a.mEnabled Sensor.main.index with
        | true =>
          have own : (a.mPendingEvents .main).type = .accelerometer := typed .main
          simp [acknowledge, report, active, mainPart, syn, SensorsEvent.isAccelerometer,
            SensorsEvent.type, own]
        | false => simp [acknowledge, active, mainPart]
      · have silent : ¬(event.type = evSyn ∧ a.mainPart.enabled = true) := fun both => syn both.1
        rw [if_neg syn, if_neg silent]
        exact ⟨rfl, rfl⟩

def loopAlone : Simulation (@consumer F _) (@alone F _) where
  related a s := a.Typed ∧ a.mainPart = s
  guard _ := True
  view _ event := [.event event]
  keep stored := stored.filter SensorsEvent.isAccelerometer
  state := by
    rintro a s event ⟨typed, rfl⟩ -
    exact ⟨typed.of_labels (a.consume_labels event), (consume_alone typed event).1⟩
  output := by
    rintro a s event ⟨typed, rfl⟩ -
    exact (consume_alone typed event).2.trans (List.append_nil _).symm

theorem loopAlone_views (a : Accelerometer F) (events : List InputEvent) :
    loopAlone.views a events = (a.takes events).filterMap Moment.mainInput := by
  induction events generalizing a with
  | nil => rfl
  | cons event rest ih => exact congrArg (MainInput.event event :: ·) (ih _)

theorem loopAlone_kept (a : Accelerometer F) (events : List InputEvent) :
    loopAlone.kept a events = (a.emitted events).filter SensorsEvent.isAccelerometer := by
  rw [emitted, List.filter_flatMap]
  rfl

omit [FloatArith F] in
theorem completions_none (mFlushed : BitVec 32) :
    (FlushState.completions mFlushed : List (SensorsEvent F)).filter SensorsEvent.isAccelerometer = [] := by
  rw [FlushState.completions, List.filter_map]
  simp [Function.comp_def, FlushState.flushComplete, SensorsEvent.isAccelerometer, SensorsEvent.type]

theorem answer_alone {a : Accelerometer F} (typed : a.Typed) (call : Call) :
    (a.answer call).1.mainPart =
        alone.run a.mainPart ((a.moments call).filterMap Moment.mainInput) ∧
      (a.answer call).2.stored.filter SensorsEvent.isAccelerometer =
        alone.outputs a.mainPart ((a.moments call).filterMap Moment.mainInput) := by
  obtain ⟨handle, enabled, outcome, rfl⟩ | ⟨events, passes⟩ := a.answer_cases call
  · obtain ⟨files, same⟩ := a.setEnable_frame handle enabled outcome
    have bit := test_maskSwitched a.mEnabled handle enabled .main
    have own : Sensor.main.handle = idA := rfl
    rw [own] at bit
    simp only [answer, same, moments, List.filterMap_cons, List.filterMap_nil, Moment.mainInput]
    by_cases switches : handle = idA
    · rw [if_pos switches] at bit ⊢
      exact ⟨congrArg (Alone.mk · _) bit, rfl⟩
    · rw [if_neg switches] at bit ⊢
      exact ⟨congrArg (Alone.mk · _) bit, rfl⟩
  · obtain ⟨⟨-, share⟩, own⟩ := loopAlone.run ⟨typed, rfl⟩ events fun _ _ => trivial
    obtain ⟨flushed, -, stored⟩ := passes.stored
    rw [loopAlone_views, ← passes.moments] at share own
    rw [loopAlone_kept] at own
    constructor
    · rw [passes.after.mainPart]
      exact share
    · rw [stored, List.filter_append, completions_none, List.nil_append]
      exact own

def objectAlone : Simulation (@driver F _) (@alone F _) where
  related a s := a.Typed ∧ a.mainPart = s
  guard _ := True
  view a call := (a.moments call).filterMap Moment.mainInput
  keep reply := reply.stored.filter SensorsEvent.isAccelerometer
  state := by
    rintro a s call ⟨typed, rfl⟩ -
    exact ⟨typed.of_labels (a.answer_labels call), (answer_alone typed call).1⟩
  output := by
    rintro a s call ⟨typed, rfl⟩ -
    exact (answer_alone typed call).2

/-- What the accelerometer alone is driven by in a run: the input events taken, and the
calls that switch it, in their order. -/
def heard (a : Accelerometer F) (calls : List Call) : List MainInput :=
  (a.history calls).filterMap Moment.mainInput

theorem handedOut_alone {a : Accelerometer F} (typed : a.Typed) (calls : List Call) :
    (a.handedOut calls).filter SensorsEvent.isAccelerometer =
      alone.outputs a.mainPart (a.heard calls) := by
  obtain ⟨-, own⟩ := objectAlone.run ⟨typed, rfl⟩ calls fun _ _ => trivial
  rw [handedOut, List.filter_flatMap, heard, history, List.filterMap_flatMap]
  exact own

/-- Two runs from one reachable state that take the same input events, with the same
switching of the accelerometer in the same places, hand out the same accelerometer
events, whatever else their calls do. -/
theorem accelerometer_independent (memory : Uninitialised) (files : Sysfs)
    (setup first second : List Call) :
    let object : Accelerometer F := driver.run (create memory files) setup
    object.heard first = object.heard second →
    (object.handedOut first).filter SensorsEvent.isAccelerometer =
      (object.handedOut second).filter SensorsEvent.isAccelerometer := by
  intro object same
  have typed : object.Typed :=
    (create_typed memory files).of_labels (driver_labels (create memory files) setup)
  rw [handedOut_alone typed first, handedOut_alone typed second]
  exact congrArg _ same

theorem accelerometer_independent_of_others :
    let object : Accelerometer ℚ := driver.run blank [.setEnable idA 1 .written]
    let sample : InputEvent := ⟨⟨0, 0⟩, evRel, eventTypeAccelX, 1024⟩
    let syn : InputEvent := ⟨⟨0, 0⟩, evSyn, 0, 0⟩
    (object.handedOut [.readEvents 8 (.ofQueue [sample, syn] 2)]).filter SensorsEvent.isAccelerometer =
      (object.handedOut [.setEnable idSM 1 .openFailed, .readEvents 1 (.ofQueue [sample, syn] 1),
        .setEnable idLA 1 .written, .flush idLA, .readEvents 3 (.ofQueue [syn] 1)]).filter
          SensorsEvent.isAccelerometer :=
  accelerometer_independent _ _ [.setEnable idA 1 .written] _ _ rfl

end Accelerometer
end KanasSensors
