import KanasSensors.Accelerometer.Gating
import KanasSensors.Accelerometer.Tracking

/-! The linear acceleration reported with a frame, against the samples taken so far.

Every sample updates the accelerometer's own reading; the gravity filter and the linear
reading follow only where linear acceleration or significant motion is enabled. So the
linear reading belongs to the last sample that went through the filter, which need not
be the last one taken.
-/

set_option autoImplicit false

namespace KanasSensors

open Foundation

variable {F : Type} [FloatArith F]

def filters (mEnabled : BitVec 32) : Bool :=
  BitMask.test mEnabled Sensor.linearAcceleration.index ||
    BitMask.test mEnabled Sensor.significantMotion.index

def Moment.sample (axis : Axis) : Moment F → Option (BitVec 32 × F)
  | .enabling _ _ => none
  | .taken mEnabled event _ =>
    if event.type = evRel ∧ axisOf event.code = some axis then
      some (mEnabled, accUnitConversion event.value)
    else none

def samples (axis : Axis) (past : List (Moment F)) : List (BitVec 32 × F) :=
  past.filterMap (Moment.sample axis)

def lastSample (axis : Axis) (past : List (Moment F)) : Option (BitVec 32 × F) :=
  (samples axis past).getLast?

def lastFiltered (axis : Axis) (past : List (Moment F)) : Option F :=
  (((samples axis past).filter fun sample => filters sample.1).getLast?).map Prod.snd

theorem samples_idle {axis : Axis} {moment : Moment F} (idle : moment.sample axis = none)
    (past : List (Moment F)) : samples axis (past ++ [moment]) = samples axis past := by
  simp [samples, idle]

theorem samples_taken {axis : Axis} {moment : Moment F} {sample : BitVec 32 × F}
    (taken : moment.sample axis = some sample) (past : List (Moment F)) :
    samples axis (past ++ [moment]) = samples axis past ++ [sample] := by
  simp [samples, taken]

theorem lastSample_taken {axis : Axis} {moment : Moment F} {sample : BitVec 32 × F}
    (taken : moment.sample axis = some sample) (past : List (Moment F)) :
    lastSample axis (past ++ [moment]) = some sample := by
  rw [lastSample, samples_taken taken, List.getLast?_concat]

theorem lastFiltered_taken {axis : Axis} {moment : Moment F} {sample : BitVec 32 × F}
    (taken : moment.sample axis = some sample) (through : filters sample.1 = true)
    (past : List (Moment F)) : lastFiltered axis (past ++ [moment]) = some sample.2 := by
  rw [lastFiltered, samples_taken taken, List.filter_append, List.filter_singleton, through]
  simp

theorem lastFiltered_past {axis : Axis} {moment : Moment F} {sample : BitVec 32 × F}
    (taken : moment.sample axis = some sample) (past_filter : filters sample.1 = false)
    (past : List (Moment F)) : lastFiltered axis (past ++ [moment]) = lastFiltered axis past := by
  rw [lastFiltered, lastFiltered, samples_taken taken, List.filter_append, List.filter_singleton,
    past_filter]
  simp

theorem lastFiltered_of_last {axis : Axis} {past : List (Moment F)} {sample : BitVec 32 × F}
    (last : lastSample axis past = some sample) (through : filters sample.1 = true) :
    lastFiltered axis past = some sample.2 := by
  obtain ⟨front, whole⟩ := List.getLast?_eq_some_iff.mp last
  rw [lastFiltered, whole, List.filter_append, List.filter_singleton, through]
  simp

namespace Accelerometer

structure Coherent (a : Accelerometer F) (past : List (Moment F)) : Prop where
  main : ∀ axis, (a.mPendingEvents .main).acceleration axis =
    ((lastSample axis past).map Prod.snd).getD (FloatArith.ofInt 0)
  linear : ∀ axis, (a.mPendingEvents .linearAcceleration).acceleration axis =
    ((lastFiltered axis past).map (· - a.mGravity axis)).getD (FloatArith.ofInt 0)

omit [FloatArith F] in
theorem report_acceleration (a : Accelerometer F) (sensor : Sensor) (time : Timeval) (other : Sensor) :
    ((a.report sensor time).1.mPendingEvents other).acceleration =
      (a.mPendingEvents other).acceleration := by
  by_cases same : other = sensor
  · subst same; simp [report]
  · simp [report, same]

omit [FloatArith F] in
theorem acknowledge_acceleration (a : Accelerometer F) (sensor : Sensor) (time : Timeval)
    (other : Sensor) : ((a.acknowledge sensor time).1.mPendingEvents other).acceleration =
      (a.mPendingEvents other).acceleration := by
  unfold acknowledge
  split
  · exact a.report_acceleration sensor time other
  · rfl

omit [FloatArith F] in
theorem acknowledge_mGravity (a : Accelerometer F) (sensor : Sensor) (time : Timeval) :
    (a.acknowledge sensor time).1.mGravity = a.mGravity := by
  unfold acknowledge
  split <;> rfl

theorem accelerate_main (a : Accelerometer F) (axis : Axis) (value : F) :
    ((a.accelerate axis value).mPendingEvents .main).acceleration =
      Function.update (a.mPendingEvents .main).acceleration axis value := by
  simp only [accelerate]
  split <;> rfl

theorem accelerate_filtered {a : Accelerometer F} (through : filters a.mEnabled = true) (axis : Axis)
    (value : F) : ∃ gravity,
    gravity = FloatArith.alpha * a.mGravity axis +
      (FloatArith.ofInt 1 - FloatArith.alpha) * value ∧
    (a.accelerate axis value).mGravity = Function.update a.mGravity axis gravity ∧
      ((a.accelerate axis value).mPendingEvents .linearAcceleration).acceleration =
        Function.update (a.mPendingEvents .linearAcceleration).acceleration axis (value - gravity) := by
  refine ⟨_, rfl, ?_⟩
  simp only [filters] at through
  simp only [accelerate, through, if_true]
  exact ⟨trivial, rfl⟩

theorem accelerate_past {a : Accelerometer F} (off : filters a.mEnabled = false) (axis : Axis)
    (value : F) : (a.accelerate axis value).mGravity = a.mGravity ∧
      ((a.accelerate axis value).mPendingEvents .linearAcceleration).acceleration =
        (a.mPendingEvents .linearAcceleration).acceleration := by
  simp only [filters] at off
  simp only [accelerate, off, Bool.false_eq_true, if_false]
  exact ⟨trivial, rfl⟩

structure Still (a b : Accelerometer F) : Prop where
  main : (b.mPendingEvents .main).acceleration = (a.mPendingEvents .main).acceleration
  linear : (b.mPendingEvents .linearAcceleration).acceleration =
    (a.mPendingEvents .linearAcceleration).acceleration
  mGravity : b.mGravity = a.mGravity

theorem consume_sampled (a : Accelerometer F) (event : InputEvent) (stored : List (SensorsEvent F)) :
    (∃ axis value, (Moment.taken a.mEnabled event stored).sample axis = some (a.mEnabled, value) ∧
      (∀ other ≠ axis, (Moment.taken a.mEnabled event stored).sample other = none) ∧
      (a.consume event).1 = a.accelerate axis value) ∨
    ((∀ axis, (Moment.taken a.mEnabled event stored).sample axis = none) ∧
      a.Still (a.consume event).1) := by
  unfold Accelerometer.consume
  split
  · next rel =>
    cases coded : axisOf event.code with
    | none => exact .inr ⟨by simp [Moment.sample, coded], rfl, rfl, rfl⟩
    | some axis =>
      refine .inl ⟨axis, accUnitConversion event.value, ?_, ?_, rfl⟩
      · simp [Moment.sample, rel, coded]
      · intro other apart
        simp [Moment.sample, coded, apart.symm]
  · next other =>
    refine .inr ⟨by simp [Moment.sample, other], ?_⟩
    split
    · exact ⟨report_acceleration _ _ _ _, report_acceleration _ _ _ _, rfl⟩
    · split
      · constructor
        · simp only [acknowledge_acceleration]
        · simp only [acknowledge_acceleration]
        · simp only [acknowledge_mGravity]
      · exact ⟨rfl, rfl, rfl⟩

theorem Coherent.idle {a b : Accelerometer F} {past : List (Moment F)} (coherent : a.Coherent past)
    {moment : Moment F} (idle : ∀ axis, moment.sample axis = none) (still : a.Still b) :
    b.Coherent (past ++ [moment]) := by
  constructor
  · intro axis
    rw [still.main, lastSample, samples_idle (idle axis)]
    exact coherent.main axis
  · intro axis
    rw [still.linear, still.mGravity, lastFiltered, samples_idle (idle axis)]
    exact coherent.linear axis

theorem Coherent.accelerate {a : Accelerometer F} {past : List (Moment F)}
    (coherent : a.Coherent past) (axis : Axis) (value : F) {moment : Moment F}
    (taken : moment.sample axis = some (a.mEnabled, value))
    (others : ∀ other ≠ axis, moment.sample other = none) :
    (a.accelerate axis value).Coherent (past ++ [moment]) := by
  constructor
  · intro other
    rw [accelerate_main]
    by_cases own : other = axis
    · subst own
      rw [Function.update_self, lastSample_taken taken]
      rfl
    · rw [Function.update_of_ne own, lastSample, samples_idle (others other own)]
      exact coherent.main other
  · intro other
    by_cases own : other = axis
    · subst own
      cases through : filters a.mEnabled with
      | true =>
        obtain ⟨gravity, -, mGravity, linear⟩ := accelerate_filtered through other value
        rw [linear, mGravity, Function.update_self, Function.update_self,
          lastFiltered_taken taken through]
        rfl
      | false =>
        -- neither the reading nor the filter follows the sample
        obtain ⟨mGravity, linear⟩ := accelerate_past through other value
        rw [linear, mGravity, lastFiltered_past taken through]
        exact coherent.linear other
    · rw [lastFiltered, samples_idle (others other own)]
      cases through : filters a.mEnabled with
      | true =>
        obtain ⟨gravity, -, mGravity, linear⟩ := accelerate_filtered through axis value
        rw [linear, mGravity, Function.update_of_ne own, Function.update_of_ne own]
        exact coherent.linear other
      | false =>
        obtain ⟨mGravity, linear⟩ := accelerate_past through axis value
        rw [linear, mGravity]
        exact coherent.linear other

theorem Coherent.consume {a : Accelerometer F} {past : List (Moment F)} (coherent : a.Coherent past)
    (event : InputEvent) (stored : List (SensorsEvent F)) :
    (a.consume event).1.Coherent (past ++ [.taken a.mEnabled event stored]) := by
  obtain ⟨axis, value, taken, others, same⟩ | ⟨idle, still⟩ := a.consume_sampled event stored
  · rw [same]
    exact coherent.accelerate axis value taken others
  · exact coherent.idle idle still

theorem Coherent.of_alike {a b : Accelerometer F} {past : List (Moment F)} (coherent : a.Coherent past)
    (alike : a.Alike b) : b.Coherent past := by
  constructor
  · rw [alike.mPendingEvents]
    exact coherent.main
  · rw [alike.mPendingEvents, alike.mGravity]
    exact coherent.linear

theorem coherent_tracked : Tracked (Coherent (F := F)) where
  consume _ _ event coherent := coherent.consume event _
  switch a _ handle enabled outcome coherent := by
    obtain ⟨files, same⟩ := a.setEnable_frame handle enabled outcome
    rw [same]
    exact coherent.idle (fun _ => rfl) ⟨rfl, rfl, rfl⟩
  alike _ _ _ alike coherent := coherent.of_alike alike

theorem create_coherent (memory : Uninitialised) (files : Sysfs) :
    (create memory files : Accelerometer F).Coherent [] :=
  ⟨fun _ => rfl, fun _ => rfl⟩

end Accelerometer

namespace ReadState

theorem drainStep_acc {s next : ReadState F} (taken : s.drainStep = some next) :
    ∃ ring, next.acc =
      { (s.acc.consume s.acc.mInputReader.readEvent.1).1 with mInputReader := ring } := by
  simp only [drainStep, foldl_store] at taken
  split_ifs at taken with full available
  cases taken
  exact ⟨_, rfl⟩

end ReadState

namespace Accelerometer

theorem rounds_coherent {a : Accelerometer F} {past : List (Moment F)} (coherent : a.Coherent past)
    (labelled : a.Labelled) {count : Int} {data_fd : SysRead InputEvent}
    {front back : List (ReadState F)} {s : ReadState F}
    (split : a.rounds count data_fd = front ++ s :: back) :
    s.acc.Labelled ∧ s.acc.Coherent (past ++ front.map round) := by
  simp only [rounds] at split
  split at split
  · simp at split
  · rw [FlushState.flush_loop] at split
    apply Loop.visited_invariant
      (fun before s => s.acc.Labelled ∧ s.acc.Coherent (past ++ before.map round)) _ _ [] _ _ split
    · intro before s next held taken
      obtain ⟨ring, same⟩ := ReadState.drainStep_acc taken
      have further := held.2.consume s.acc.mInputReader.readEvent.1
        (s.acc.consume s.acc.mInputReader.readEvent.1).2
      rw [same, List.map_append, List.map_singleton, ← List.append_assoc]
      exact ⟨consume_labelled held.1 _, further.main, further.linear⟩
    · rw [List.map_nil, List.append_nil]
      exact ⟨labelled, coherent.main, coherent.linear⟩

theorem consume_linear {a : Accelerometer F} (labelled : a.Labelled) {event : InputEvent}
    {stored : DataEvent F} (emitted : .data stored ∈ (a.consume event).2)
    (linear : stored.sensor = idLA) :
    stored.acceleration = (a.mPendingEvents .linearAcceleration).acceleration := by
  have acknowledged : ∀ (b : Accelerometer F), b.Labelled → ∀ sensor,
      .data stored ∈ (b.acknowledge sensor event.time).2 →
      sensor = .linearAcceleration ∧ stored.acceleration = (b.mPendingEvents sensor).acceleration := by
    intro b own sensor member
    unfold acknowledge at member
    split at member
    · have same := SensorsEvent.data.inj (List.mem_singleton.mp member)
      have label := own sensor
      rw [same] at linear ⊢
      refine ⟨?_, rfl⟩
      rw [← Sensor.handle_eq_iff, ← label]
      exact linear
    · cases member
  obtain ⟨-, -, same⟩ | ⟨-, -, axis, same⟩ | ⟨-, same⟩ | ⟨-, -, same⟩ := a.consume_cases event
  · rw [same] at emitted
    cases emitted
  · rw [same] at emitted
    cases emitted
  · rw [same] at emitted
    have motion := SensorsEvent.data.inj (List.mem_singleton.mp emitted)
    have label := labelled .significantMotion
    rw [motion] at linear
    exact absurd (label.symm.trans linear) (by decide)
  · rw [same] at emitted
    rcases List.mem_append.mp emitted with main | second
    · exact absurd (acknowledged a labelled .main main).1 (by decide)
    · have reading := (acknowledged _ (acknowledge_labelled labelled _ _) _ second).2
      rw [reading, acknowledge_acceleration]

/-- In any run of a new object, wherever the event loop stores a linear-acceleration
event, each of its components is the last sample of that axis that went through the
gravity filter, less the gravity entry of that moment. Where the last sample of the axis
went through the filter, that is the accelerometer's own component less the entry. -/
theorem linear_coherent (memory : Uninitialised) (files : Sysfs) (calls : List Call) (count : Int)
    (data_fd : SysRead InputEvent) (front back : List (ReadState F)) (s : ReadState F)
    (split : (driver.run (create memory files) calls).rounds count data_fd = front ++ s :: back)
    (stored : DataEvent F)
    (emitted : .data stored ∈ (s.acc.consume s.acc.mInputReader.readEvent.1).2)
    (linear : stored.sensor = idLA) (axis : Axis) :
    let past := (create memory files).history calls ++ front.map round
    stored.acceleration axis =
        ((lastFiltered axis past).map (· - s.acc.mGravity axis)).getD (FloatArith.ofInt 0) ∧
      ∀ sample, lastSample axis past = some sample → filters sample.1 = true →
        stored.acceleration axis =
          (s.acc.mPendingEvents .main).acceleration axis - s.acc.mGravity axis := by
  intro past
  have before := coherent_tracked.history (create_coherent (F := F) memory files) calls
  obtain ⟨labelled, coherent⟩ := rounds_coherent before
    (driver_labelled (create_labelled memory files) calls) split
  have reading := congrFun (consume_linear labelled emitted linear) axis
  rw [reading]
  constructor
  · exact coherent.linear axis
  · intro sample last through
    rw [coherent.linear axis, coherent.main axis, List.nil_append, last,
      lastFiltered_of_last last through]
    rfl

theorem linear_coherent_one_sample :
    ∃ first second, (driver.run blank [.setEnable idLA 1 .written]).rounds 8 (.ofQueue
        [⟨⟨0, 0⟩, evRel, eventTypeAccelX, 1024⟩, ⟨⟨0, 0⟩, evSyn, 0, 0⟩] 2) = [first] ++ second :: [] ∧
      let past := blank.history [.setEnable idLA 1 .written] ++ [first].map round
      (second.acc.mPendingEvents .linearAcceleration).acceleration .x =
          ((lastFiltered .x past).map (· - second.acc.mGravity .x)).getD (FloatArith.ofInt 0) ∧
        ∀ sample, lastSample .x past = some sample → filters sample.1 = true →
          (second.acc.mPendingEvents .linearAcceleration).acceleration .x =
            (second.acc.mPendingEvents .main).acceleration .x - second.acc.mGravity .x := by
  refine ⟨_, _, rfl, ?_⟩
  exact linear_coherent _ _ [.setEnable idLA 1 .written] 8
    (.ofQueue [⟨⟨0, 0⟩, evRel, eventTypeAccelX, 1024⟩, ⟨⟨0, 0⟩, evSyn, 0, 0⟩] 2)
    [_] [] _ rfl _ List.mem_cons_self rfl .x

/-- The accelerometer's sample of a frame, and linear acceleration switched on before
the frame's `EV_SYN`. -/
theorem linear_incoherent : ¬∀ (calls : List Call) (count : Int) (data_fd : SysRead InputEvent),
    ∀ s ∈ (driver.run blank calls).rounds count data_fd,
      s.acc.mInputReader.readEvent.1.type = evSyn →
      ∀ stored : DataEvent ℚ, .data stored ∈ (s.acc.consume s.acc.mInputReader.readEvent.1).2 →
        stored.sensor = idLA → ∀ axis, stored.acceleration axis =
          (s.acc.mPendingEvents .main).acceleration axis - s.acc.mGravity axis := by
  intro always
  have coherent := always [.setEnable idA 1 .written,
      .readEvents 8 (.ofQueue [⟨⟨0, 0⟩, evRel, eventTypeAccelX, 1024⟩] 1),
      .setEnable idLA 1 .written]
    8 (.ofQueue [⟨⟨0, 0⟩, evSyn, 0, 0⟩] 1) _ List.mem_cons_self rfl _
    (List.mem_cons_of_mem _ List.mem_cons_self) rfl .x
  revert coherent
  decide +kernel

end Accelerometer
end KanasSensors
