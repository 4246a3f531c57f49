import KanasSensors.Accelerometer.Model
import KanasSensors.Foundation.Machine
import Mathlib.Algebra.GroupWithZero.Nat

/-! What the event loop does with one input event, and with a sequence of them.

`demand` is the number of slots an event needs; it looks only at the two bits of the
mask that no input event changes. The sequence is the run of a machine whose step is
`consume`, so that a statement can speak about the mask at the moment an event is taken.
-/

set_option autoImplicit false

namespace KanasSensors

open Foundation

def isGesture (event : InputEvent) : Prop := event.type = evMsc ∧ event.code = mscGesture

instance (event : InputEvent) : Decidable (isGesture event) := inferInstanceAs (Decidable (_ ∧ _))

def bothEnabled (mEnabled : BitVec 32) : Bool :=
  BitMask.test mEnabled Sensor.main.index && BitMask.test mEnabled Sensor.linearAcceleration.index

def demand (mEnabled : BitVec 32) (event : InputEvent) : Nat :=
  if isGesture event then 1
  else if event.type = evSyn then
    (BitMask.test mEnabled Sensor.main.index).toNat +
      (BitMask.test mEnabled Sensor.linearAcceleration.index).toNat
  else 0

def demands (mEnabled : BitVec 32) (events : List InputEvent) : Nat :=
  (events.map (demand mEnabled)).sum

@[simp] theorem demands_nil (mEnabled : BitVec 32) : demands mEnabled [] = 0 := rfl

@[simp] theorem demands_cons (mEnabled : BitVec 32) (event : InputEvent) (rest : List InputEvent) :
    demands mEnabled (event :: rest) = demand mEnabled event + demands mEnabled rest := by
  simp [demands]

namespace Accelerometer

variable {F : Type}

structure Untouched (a b : Accelerometer F) : Prop where
  mDelay : b.mDelay = a.mDelay
  mFlushed : b.mFlushed = a.mFlushed
  mInputReader : b.mInputReader = a.mInputReader
  files : b.files = a.files

theorem Untouched.trans {a b c : Accelerometer F} (first : a.Untouched b) (second : b.Untouched c) :
    a.Untouched c :=
  ⟨second.mDelay.trans first.mDelay, second.mFlushed.trans first.mFlushed,
    second.mInputReader.trans first.mInputReader, second.files.trans first.files⟩

def labels (a : Accelerometer F) (sensor : Sensor) : Int × SensorType :=
  ((a.mPendingEvents sensor).sensor, (a.mPendingEvents sensor).type)

theorem report_labels (a : Accelerometer F) (sensor : Sensor) (time : Timeval) :
    (a.report sensor time).1.labels = a.labels := by
  funext other
  by_cases same : other = sensor
  · subst same; simp [report, labels]
  · simp [report, labels, same]

theorem acknowledge_labels (a : Accelerometer F) (sensor : Sensor) (time : Timeval) :
    (a.acknowledge sensor time).1.labels = a.labels := by
  unfold acknowledge
  split
  · exact a.report_labels sensor time
  · rfl

theorem acknowledge_untouched (a : Accelerometer F) (sensor : Sensor) (time : Timeval) :
    a.Untouched (a.acknowledge sensor time).1 := by
  unfold acknowledge
  split <;> exact ⟨rfl, rfl, rfl, rfl⟩

@[simp] theorem acknowledge_mEnabled (a : Accelerometer F) (sensor : Sensor) (time : Timeval) :
    (a.acknowledge sensor time).1.mEnabled = a.mEnabled := by
  unfold acknowledge
  split <;> rfl

theorem acknowledge_length (a : Accelerometer F) (sensor : Sensor) (time : Timeval) :
    (a.acknowledge sensor time).2.length = (BitMask.test a.mEnabled sensor.index).toNat := by
  unfold acknowledge
  cases BitMask.test a.mEnabled sensor.index <;> rfl

variable [FloatArith F]

theorem accelerate_untouched (a : Accelerometer F) (axis : Axis) (value : F) :
    a.Untouched (a.accelerate axis value) := by
  simp only [accelerate]
  split <;> exact ⟨rfl, rfl, rfl, rfl⟩

@[simp] theorem accelerate_mEnabled (a : Accelerometer F) (axis : Axis) (value : F) :
    (a.accelerate axis value).mEnabled = a.mEnabled := by
  simp only [accelerate]
  split <;> rfl

theorem accelerate_labels (a : Accelerometer F) (axis : Axis) (value : F) :
    (a.accelerate axis value).labels = a.labels := by
  funext other
  simp only [accelerate]
  split <;> cases other <;> rfl

theorem consume_cases (a : Accelerometer F) (event : InputEvent) :
    (¬isGesture event ∧ event.type ≠ evSyn ∧ a.consume event = (a, [])) ∨
    (¬isGesture event ∧ event.type ≠ evSyn ∧ ∃ axis,
      a.consume event = (a.accelerate axis (accUnitConversion event.value), [])) ∨
    (isGesture event ∧ a.consume event =
      { a with mEnabled := BitMask.clear a.mEnabled Sensor.significantMotion.index }.report
        .significantMotion event.time) ∨
    (¬isGesture event ∧ event.type = evSyn ∧ a.consume event =
      (((a.acknowledge .main event.time).1.acknowledge .linearAcceleration event.time).1,
        (a.acknowledge .main event.time).2 ++
          ((a.acknowledge .main event.time).1.acknowledge .linearAcceleration event.time).2)) := by
  unfold isGesture
  by_cases rel : event.type = evRel
  · have other : ¬(event.type = evMsc ∧ event.code = mscGesture) := by
      rintro ⟨msc, -⟩
      rw [rel] at msc
      exact absurd msc (by decide)
    have notSyn : event.type ≠ evSyn := by rw [rel]; decide
    cases coded : axisOf event.code with
    | none => exact .inl ⟨other, notSyn, by simp only [consume, if_pos rel, coded]⟩
    | some axis => exact .inr (.inl ⟨other, notSyn, axis, by simp only [consume, if_pos rel, coded]⟩)
  · by_cases gesture : event.type = evMsc ∧ event.code = mscGesture
    · exact .inr (.inr (.inl ⟨gesture, by rw [consume, if_neg rel, if_pos gesture]⟩))
    · by_cases syn : event.type = evSyn
      · exact .inr (.inr (.inr ⟨gesture, syn, by
          rw [consume, if_neg rel, if_neg gesture, if_pos syn]⟩))
      · exact .inl ⟨gesture, syn, by rw [consume, if_neg rel, if_neg gesture, if_neg syn]⟩

theorem consume_untouched (a : Accelerometer F) (event : InputEvent) :
    a.Untouched (a.consume event).1 := by
  obtain ⟨-, -, same⟩ | ⟨-, -, axis, same⟩ | ⟨-, same⟩ | ⟨-, -, same⟩ := a.consume_cases event
  · rw [same]; exact ⟨rfl, rfl, rfl, rfl⟩
  · rw [same]; exact a.accelerate_untouched axis _
  · rw [same]; exact ⟨rfl, rfl, rfl, rfl⟩
  · rw [same]; exact (a.acknowledge_untouched .main _).trans (acknowledge_untouched _ _ _)

theorem consume_labels (a : Accelerometer F) (event : InputEvent) :
    (a.consume event).1.labels = a.labels := by
  obtain ⟨-, -, same⟩ | ⟨-, -, axis, same⟩ | ⟨-, same⟩ | ⟨-, -, same⟩ := a.consume_cases event
  · rw [same]
  · rw [same]; exact a.accelerate_labels axis _
  · rw [same]; exact report_labels _ _ _
  · rw [same]; exact (acknowledge_labels _ _ _).trans (acknowledge_labels _ _ _)

theorem consume_mEnabled (a : Accelerometer F) (event : InputEvent) :
    (a.consume event).1.mEnabled = if isGesture event then
      BitMask.clear a.mEnabled Sensor.significantMotion.index else a.mEnabled := by
  obtain ⟨other, -, same⟩ | ⟨other, -, axis, same⟩ | ⟨gesture, same⟩ | ⟨other, -, same⟩ :=
    a.consume_cases event
  · rw [same, if_neg other]
  · rw [same, if_neg other, accelerate_mEnabled]
  · rw [same, if_pos gesture]; rfl
  · simp only [same, if_neg other, acknowledge_mEnabled]

theorem consume_length (a : Accelerometer F) (event : InputEvent) :
    (a.consume event).2.length = demand a.mEnabled event := by
  unfold demand
  obtain ⟨other, notSyn, same⟩ | ⟨other, notSyn, axis, same⟩ | ⟨gesture, same⟩ | ⟨other, syn, same⟩ :=
    a.consume_cases event
  · rw [same, if_neg other, if_neg notSyn]; rfl
  · rw [same, if_neg other, if_neg notSyn]; rfl
  · rw [same, if_pos gesture]; rfl
  · simp only [same, if_neg other, if_pos syn, List.length_append, acknowledge_length,
      acknowledge_mEnabled]

theorem demand_consume (a : Accelerometer F) (event : InputEvent) :
    demand (a.consume event).1.mEnabled = demand a.mEnabled := by
  funext other
  rw [consume_mEnabled]
  split
  · simp only [demand, BitMask.test_clear, Sensor.index]
    simp
  · rfl

theorem accelerate_frame (a : Accelerometer F) (axis : Axis) (value : F) (mFlushed : BitVec 32)
    (ring : EventRing InputEvent 32) :
    { a with mFlushed, mInputReader := ring }.accelerate axis value =
      { a.accelerate axis value with mFlushed, mInputReader := ring } := by
  simp only [accelerate]
  split <;> rfl

omit [FloatArith F] in
theorem acknowledge_frame (a : Accelerometer F) (sensor : Sensor) (time : Timeval)
    (mFlushed : BitVec 32) (ring : EventRing InputEvent 32) :
    { a with mFlushed, mInputReader := ring }.acknowledge sensor time =
      ({ (a.acknowledge sensor time).1 with mFlushed, mInputReader := ring },
        (a.acknowledge sensor time).2) := by
  simp only [acknowledge]
  split <;> rfl

theorem consume_frame (a : Accelerometer F) (event : InputEvent) (mFlushed : BitVec 32)
    (ring : EventRing InputEvent 32) :
    { a with mFlushed, mInputReader := ring }.consume event =
      ({ (a.consume event).1 with mFlushed, mInputReader := ring }, (a.consume event).2) := by
  unfold consume
  split
  · cases axisOf event.code with
    | none => rfl
    | some axis => simp only [accelerate_frame]
  · split
    · rfl
    · split
      · simp only [acknowledge_frame]
      · rfl

def consumer : Machine (Accelerometer F) InputEvent (List (SensorsEvent F)) := ⟨consume⟩

def emitted (a : Accelerometer F) (events : List InputEvent) : List (SensorsEvent F) :=
  (consumer.trace a events).flatMap (·.output)

@[simp] theorem emitted_nil (a : Accelerometer F) : a.emitted [] = [] := rfl

@[simp] theorem emitted_cons (a : Accelerometer F) (event : InputEvent) (rest : List InputEvent) :
    a.emitted (event :: rest) = (a.consume event).2 ++ (a.consume event).1.emitted rest := rfl

theorem emitted_length (a : Accelerometer F) (events : List InputEvent) :
    (a.emitted events).length = demands a.mEnabled events := by
  induction events generalizing a with
  | nil => rfl
  | cons event rest ih =>
    simp only [emitted_cons, List.length_append, consume_length, ih, demands, demand_consume,
      List.map_cons, List.sum_cons]

theorem run_frame (a : Accelerometer F) (events : List InputEvent) (mFlushed : BitVec 32)
    (ring : EventRing InputEvent 32) :
    consumer.run { a with mFlushed, mInputReader := ring } events =
      { consumer.run a events with mFlushed, mInputReader := ring } := by
  induction events generalizing a with
  | nil => rfl
  | cons event rest ih =>
    have first := a.consume_frame event mFlushed ring
    simp only [Machine.run_cons, consumer] at ih ⊢
    rw [first, ih]

theorem emitted_frame (a : Accelerometer F) (events : List InputEvent) (mFlushed : BitVec 32)
    (ring : EventRing InputEvent 32) :
    emitted { a with mFlushed, mInputReader := ring } events = a.emitted events := by
  induction events generalizing a with
  | nil => rfl
  | cons event rest ih => simp only [emitted_cons, consume_frame, ih]

theorem run_untouched (a : Accelerometer F) (events : List InputEvent) :
    a.Untouched (consumer.run a events) := by
  induction events generalizing a with
  | nil => exact ⟨rfl, rfl, rfl, rfl⟩
  | cons event rest ih => exact (a.consume_untouched event).trans (ih _)

theorem run_labels (a : Accelerometer F) (events : List InputEvent) :
    (consumer.run a events).labels = a.labels :=
  consumer.run_invariant (fun b => b.labels = a.labels) (fun _ _ => True)
    (fun b event same _ => (b.consume_labels event).trans same) a events rfl fun _ _ => trivial

end Accelerometer
end KanasSensors
