import Mathlib.Data.Fintype.Basic
import KanasSensors.Accelerometer.Coherence
import KanasSensors.Accelerometer.Stream
import KanasSensors.Hub.Model

/-! The class `Accelerometer` does what the hub does.

Of an object the hub sees the bits of the mask as a set, the two readings among the pending
events and the gravity. An `input_event` means at most one input of the hub, and so does a
`setEnable` call; the calls themselves, and where they cut the stream, mean nothing to it.
-/

set_option autoImplicit false

namespace KanasSensors

open Foundation

variable {F : Type}

instance : Fintype Sensor where
  elems := {.main, .linearAcceleration, .significantMotion}
  complete sensor := by cases sensor <;> simp

def SensorsEvent.report : SensorsEvent F → Option (Report F (BitVec 64))
  | .data event => (origin (.data event)).map fun sensor => ⟨sensor, event.timestamp, event.acceleration⟩
  | .metaData _ => none

section
variable [FloatArith F]

def Hub.tuning : Hub.Tuning F where
  smooth gravity value := FloatArith.alpha * gravity + (FloatArith.ofInt 1 - FloatArith.alpha) * value
  mark := Function.update (fun _ => FloatArith.ofInt 0) .x (FloatArith.ofInt 1)

def InputEvent.meaning (event : InputEvent) : Option (HubInput F (BitVec 64)) :=
  if event.type = evRel then (axisOf event.code).map fun axis => .sample axis (accUnitConversion event.value)
  else if isGesture event then some (.motion (timevalToNano event.time))
  else if event.type = evSyn then some (.frame (timevalToNano event.time))
  else none

def Moment.meaning : Moment F → Option (HubInput F (BitVec 64))
  | .enabling handle enabled =>
    (Accelerometer.enableFile handle).map fun owner => .switch owner.1 (enabled != 0)
  | .taken _ event _ => event.meaning

end

namespace Accelerometer

def hub (a : Accelerometer F) : Hub F where
  enabled := Finset.univ.filter fun sensor => BitMask.test a.mEnabled sensor.index = true
  reading := (a.mPendingEvents .main).acceleration
  gravity := a.mGravity
  linear := (a.mPendingEvents .linearAcceleration).acceleration

@[simp] theorem mem_hub_enabled (a : Accelerometer F) (sensor : Sensor) :
    sensor ∈ a.hub.enabled ↔ BitMask.test a.mEnabled sensor.index = true := by
  simp [hub]

theorem hub_congr {a b : Accelerometer F} (mEnabled : b.mEnabled = a.mEnabled)
    (acceleration : ∀ sensor, (b.mPendingEvents sensor).acceleration = (a.mPendingEvents sensor).acceleration)
    (mGravity : b.mGravity = a.mGravity) : b.hub = a.hub := by
  unfold hub
  rw [mEnabled, acceleration .main, acceleration .linearAcceleration, mGravity]

theorem Alike.hub {a b : Accelerometer F} (alike : a.Alike b) : b.hub = a.hub :=
  hub_congr alike.mEnabled (fun sensor => by rw [alike.mPendingEvents]) alike.mGravity

theorem hub_cleared (a : Accelerometer F) (sensor : Sensor) :
    { a with mEnabled := BitMask.clear a.mEnabled sensor.index }.hub =
      { a.hub with enabled := a.hub.enabled.erase sensor } := by
  have same : { a with mEnabled := BitMask.clear a.mEnabled sensor.index }.hub.enabled =
      a.hub.enabled.erase sensor := by
    ext other
    by_cases own : other = sensor <;> simp [own, Sensor.index_eq_iff]
  rw [← same]
  rfl

theorem hub_switched (a : Accelerometer F) (sensor : Sensor) (enabled : Int) :
    { a with mEnabled := maskSwitched a.mEnabled sensor.handle enabled }.hub =
      { a.hub with enabled :=
        if enabled != 0 then insert sensor a.hub.enabled else a.hub.enabled.erase sensor } := by
  have same : { a with mEnabled := maskSwitched a.mEnabled sensor.handle enabled }.hub.enabled =
      if enabled != 0 then insert sensor a.hub.enabled else a.hub.enabled.erase sensor := by
    ext other
    rw [mem_hub_enabled, test_maskSwitched_handle]
    by_cases own : other = sensor <;> by_cases off : enabled = 0 <;>
      simp [own, off, Sensor.index_eq_iff]
  rw [← same]
  rfl

variable [FloatArith F]

structure Marked (a : Accelerometer F) : Prop where
  labelled : a.Labelled
  mark : (a.mPendingEvents .significantMotion).acceleration = Hub.tuning.mark

theorem Marked.of_alike {a b : Accelerometer F} (marked : a.Marked) (alike : a.Alike b) : b.Marked :=
  ⟨marked.labelled.of_labels alike.labels, by rw [alike.mPendingEvents]; exact marked.mark⟩

theorem create_marked (memory : Uninitialised) (files : Sysfs) :
    (create memory files : Accelerometer F).Marked :=
  ⟨create_labelled memory files, rfl⟩

theorem create_hub (memory : Uninitialised) (files : Sysfs) :
    (create memory files : Accelerometer F).hub =
      ⟨∅, fun _ => FloatArith.ofInt 0, fun _ => FloatArith.ofInt 0, fun _ => FloatArith.ofInt 0⟩ := by
  have off : (create memory files : Accelerometer F).hub.enabled = ∅ := by
    ext sensor
    simp [create]
  rw [← off]
  rfl

theorem report_hub {a : Accelerometer F} (marked : a.Marked) (sensor : Sensor) (time : Timeval) :
    (a.report sensor time).1.hub = a.hub ∧ (a.report sensor time).1.Marked ∧
      (a.report sensor time).2.filterMap SensorsEvent.report =
        [a.hub.report Hub.tuning sensor (timevalToNano time)] := by
  refine ⟨hub_congr rfl (fun other => a.report_acceleration sensor time other) rfl,
    ⟨marked.labelled.of_labels (a.report_labels sensor time), ?_⟩, ?_⟩
  · rw [report_acceleration]
    exact marked.mark
  · have origin := report_origin marked.labelled sensor time
    simp only [report, List.map_cons, List.map_nil, List.cons.injEq, and_true] at origin
    -- the one-shot event is never written again, so its mark is the initial one
    have values : (a.mPendingEvents sensor).acceleration = a.hub.values Hub.tuning sensor := by
      cases sensor with
      | main => rfl
      | linearAcceleration => rfl
      | significantMotion => exact marked.mark
    simp only [report, SensorsEvent.report, List.filterMap_cons, List.filterMap_nil]
    rw [origin, Option.map_some, values]
    rfl

theorem acknowledge_hub {a : Accelerometer F} (marked : a.Marked) (sensor : Sensor) (time : Timeval) :
    (a.acknowledge sensor time).1.hub = a.hub ∧ (a.acknowledge sensor time).1.Marked ∧
      (a.acknowledge sensor time).2.filterMap SensorsEvent.report =
        ([sensor].filter (· ∈ a.hub.enabled)).map fun sensor =>
          a.hub.report Hub.tuning sensor (timevalToNano time) := by
  unfold acknowledge
  by_cases enabled : BitMask.test a.mEnabled sensor.index = true
  · have member : sensor ∈ a.hub.enabled := (a.mem_hub_enabled sensor).mpr enabled
    simpa [enabled, member] using report_hub marked sensor time
  · have absent : sensor ∉ a.hub.enabled := fun member => enabled ((a.mem_hub_enabled sensor).mp member)
    simpa [enabled, absent] using marked

omit [FloatArith F] in
theorem filters_iff (a : Accelerometer F) : a.hub.Filters ↔
    (BitMask.test a.mEnabled Sensor.linearAcceleration.index ||
      BitMask.test a.mEnabled Sensor.significantMotion.index) = true := by
  rw [Hub.Filters, mem_hub_enabled, mem_hub_enabled, Bool.or_eq_true]

theorem accelerate_hub {a : Accelerometer F} (marked : a.Marked) (axis : Axis) (value : F) :
    (a.accelerate axis value).hub = (a.hub.take Hub.tuning (.sample (T := BitVec 64) axis value)).1 ∧
      (a.accelerate axis value).Marked := by
  have mark := marked.mark
  constructor
  · simp only [accelerate, Hub.take]
    by_cases filters : a.hub.Filters
    · rw [if_pos (a.filters_iff.mp filters), if_pos (by exact filters)]
      rfl
    · rw [if_neg fun set => filters (a.filters_iff.mpr set), if_neg (by exact filters)]
      rfl
  · refine ⟨marked.labelled.of_labels (a.accelerate_labels axis value), ?_⟩
    simp only [accelerate]
    split <;> exact mark

/-- From `a` to `b` the object stored what the hub reports of these inputs, and `b` is
where they lead the hub. -/
structure Follows (a : Accelerometer F) (inputs : List (HubInput F (BitVec 64))) (b : Accelerometer F)
    (stored : List (SensorsEvent F)) : Prop where
  marked : b.Marked
  state : (Hub.hub Hub.tuning).run a.hub inputs = b.hub
  reports : stored.filterMap SensorsEvent.report = (Hub.hub Hub.tuning).outputs a.hub inputs

theorem Follows.refl {a : Accelerometer F} (marked : a.Marked) : a.Follows [] a [] := ⟨marked, rfl, rfl⟩

theorem Follows.append {a b c : Accelerometer F} {first second : List (HubInput F (BitVec 64))}
    {stored further : List (SensorsEvent F)} (left : a.Follows first b stored)
    (right : b.Follows second c further) : a.Follows (first ++ second) c (stored ++ further) := by
  refine ⟨right.marked, ?_, ?_⟩
  · rw [Machine.run_append, left.state, right.state]
  · rw [List.filterMap_append, Machine.outputs_append, left.state, left.reports, right.reports]

theorem Follows.step {a b : Accelerometer F} {input : HubInput F (BitVec 64)}
    {stored : List (SensorsEvent F)} (marked : b.Marked)
    (state : (a.hub.take Hub.tuning input).1 = b.hub)
    (reports : stored.filterMap SensorsEvent.report = (a.hub.take Hub.tuning input).2) :
    a.Follows [input] b stored :=
  ⟨marked, state, reports.trans (List.append_nil _).symm⟩

/-- A gesture is reported whether or not the sensor is on. -/
theorem gesture_follows {a : Accelerometer F} (marked : a.Marked) (time : Timeval) :
    let cleared := { a with mEnabled := BitMask.clear a.mEnabled Sensor.significantMotion.index }
    a.Follows [.motion (timevalToNano time)] (cleared.report .significantMotion time).1
      (cleared.report .significantMotion time).2 := by
  intro cleared
  have still : cleared.Marked := ⟨marked.labelled, marked.mark⟩
  obtain ⟨state, further, reports⟩ := report_hub still .significantMotion time
  refine .step further ?_ reports
  rw [state, a.hub_cleared]
  rfl

theorem syn_follows {a : Accelerometer F} (marked : a.Marked) (time : Timeval) :
    a.Follows [.frame (timevalToNano time)]
      ((a.acknowledge .main time).1.acknowledge .linearAcceleration time).1
      ((a.acknowledge .main time).2 ++
        ((a.acknowledge .main time).1.acknowledge .linearAcceleration time).2) := by
  obtain ⟨middle, still, first⟩ := acknowledge_hub marked .main time
  obtain ⟨last, further, second⟩ := acknowledge_hub still .linearAcceleration time
  refine .step further (by rw [last, middle]; rfl) ?_
  rw [List.filterMap_append, first, second, middle, ← List.map_append, ← List.filter_append]
  rfl

theorem consume_follows {a : Accelerometer F} (marked : a.Marked) (event : InputEvent) :
    a.Follows event.meaning.toList (a.consume event).1 (a.consume event).2 := by
  unfold InputEvent.meaning consume
  by_cases rel : event.type = evRel
  · rw [if_pos rel, if_pos rel]
    cases axisOf event.code with
    | none => exact .refl marked
    | some axis =>
      obtain ⟨state, still⟩ := accelerate_hub marked axis (accUnitConversion event.value)
      exact .step still state.symm (a.hub.take_sample_reports Hub.tuning axis _).symm
  -- `meaning` asks the same questions in the same order
  · rw [if_neg rel, if_neg rel]
    by_cases gesture : event.type = evMsc ∧ event.code = mscGesture
    · rw [if_pos gesture, if_pos (by exact gesture)]
      exact gesture_follows marked event.time
    · rw [if_neg gesture, if_neg (by exact gesture)]
      by_cases syn : event.type = evSyn
      · rw [if_pos syn, if_pos syn]
        exact syn_follows marked event.time
      · rw [if_neg syn, if_neg syn]
        exact .refl marked

theorem takes_follows {a : Accelerometer F} (marked : a.Marked) (events : List InputEvent) :
    a.Follows ((a.takes events).flatMap fun moment => moment.meaning.toList)
      (consumer.run a events) (a.emitted events) := by
  induction events generalizing a with
  | nil => exact .refl marked
  | cons event rest ih =>
    have first := consume_follows marked event
    exact first.append (ih first.marked)

theorem answer_follows {a : Accelerometer F} (marked : a.Marked) (call : Call) :
    a.Follows ((a.moments call).flatMap fun moment => moment.meaning.toList) (a.answer call).1
      (a.answer call).2.stored := by
  obtain ⟨handle, enabled, outcome, rfl⟩ | ⟨events, passes⟩ := a.answer_cases call
  · obtain ⟨files, same⟩ := a.setEnable_frame handle enabled outcome
    have nothing : (a.answer (.setEnable handle enabled outcome)).2.stored = [] := rfl
    have moved : (a.answer (.setEnable handle enabled outcome)).1 =
        { a with mEnabled := maskSwitched a.mEnabled handle enabled, files } := same
    have one : ((a.moments (.setEnable handle enabled outcome)).flatMap fun moment =>
        moment.meaning.toList) = (Moment.meaning (.enabling handle enabled)).toList := List.append_nil _
    rw [nothing, moved, one]
    obtain ⟨unknown, -⟩ | ⟨sensor, rfl, known⟩ := enableFile_cases handle
    -- a handle of no sensor switches nothing on either side
    · simp only [Moment.meaning, maskSwitched, unknown]
      exact ⟨⟨marked.labelled, marked.mark⟩, rfl, rfl⟩
    · simp only [Moment.meaning, known]
      exact .step ⟨marked.labelled, marked.mark⟩ (a.hub_switched sensor enabled).symm rfl
  · obtain ⟨flushed, -, stored⟩ := passes.stored
    obtain ⟨still, state, reports⟩ := takes_follows marked events
    rw [passes.moments, stored]
    refine ⟨still.of_alike passes.after, ?_, ?_⟩
    · rw [state, passes.after.hub]
    -- completions are meta data
    · have silent : (FlushState.completions (F := F) flushed).filterMap SensorsEvent.report = [] := by
        simp [FlushState.completions, FlushState.flushComplete, SensorsEvent.report]
      rw [List.filterMap_append, silent, List.nil_append, reports]

def follows : Simulation (@driver F _) (Hub.hub (V := F) (T := BitVec 64) Hub.tuning) where
  related a h := a.Marked ∧ a.hub = h
  guard _ := True
  view a call := (a.moments call).flatMap fun moment => moment.meaning.toList
  keep reply := reply.stored.filterMap SensorsEvent.report
  state := by
    rintro a h call ⟨marked, rfl⟩ -
    have step := answer_follows marked call
    exact ⟨step.marked, step.state.symm⟩
  output := by
    rintro a h call ⟨marked, rfl⟩ -
    exact (answer_follows marked call).reports

def meanings (a : Accelerometer F) (calls : List Call) : List (HubInput F (BitVec 64)) :=
  (a.history calls).flatMap fun moment => moment.meaning.toList

theorem follows_views (a : Accelerometer F) (calls : List Call) :
    follows.views a calls = a.meanings calls := by
  rw [meanings, history, List.flatMap_assoc]
  rfl

theorem driver_follows {a : Accelerometer F} (marked : a.Marked) (calls : List Call) :
    a.Follows (a.meanings calls) (driver.run a calls) (a.handedOut calls) := by
  obtain ⟨⟨still, state⟩, reports⟩ := follows.run ⟨marked, rfl⟩ calls fun _ _ => trivial
  rw [follows_views] at state reports
  refine ⟨still, state.symm, ?_⟩
  rw [handedOut, List.filterMap_flatMap]
  exact reports

end Accelerometer
end KanasSensors
