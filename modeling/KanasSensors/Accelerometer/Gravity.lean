import KanasSensors.Accelerometer.Coherence
import KanasSensors.Accelerometer.Stream
import KanasSensors.Foundation.Smoothing

/-! The gravity filter in exact arithmetic, over the whole history of an object.

A gravity entry is the exponentially weighted mean of the samples that went through the
filter, whatever was switched on and off between them. A linear reading is then what the
last of these samples leaves after smoothing.
-/

set_option autoImplicit false

namespace KanasSensors

open Foundation Smoothing

section
variable {F : Type} [FloatArith F]

def filtered (axis : Axis) (past : List (Moment F)) : List F :=
  ((samples axis past).filter fun sample => filters sample.1).map Prod.snd

theorem lastFiltered_eq (axis : Axis) (past : List (Moment F)) :
    lastFiltered axis past = (filtered axis past).getLast? := by
  rw [lastFiltered, filtered, List.getLast?_map]

theorem filtered_idle {axis : Axis} {moment : Moment F} (idle : moment.sample axis = none)
    (past : List (Moment F)) : filtered axis (past ++ [moment]) = filtered axis past := by
  rw [filtered, filtered, samples_idle idle]

theorem filtered_taken {axis : Axis} {moment : Moment F} {sample : BitVec 32 × F}
    (taken : moment.sample axis = some sample) (past : List (Moment F)) :
    filtered axis (past ++ [moment]) =
      if filters sample.1 then filtered axis past ++ [sample.2] else filtered axis past := by
  rw [filtered, samples_taken taken, List.filter_append, List.filter_singleton]
  cases filters sample.1 with
  | true =>
    rw [if_pos rfl, List.map_append]
    rfl
  | false =>
    rw [if_neg Bool.false_ne_true, cond_false, List.append_nil]
    rfl

omit [FloatArith F] in
theorem SensorsEvent.origin_linear_iff (stored : SensorsEvent F) :
    stored.origin = some .linearAcceleration ↔
      ∃ event, stored = .data event ∧ event.sensor = idLA := by
  cases stored with
  | metaData event => simp [origin]
  | data event =>
    simp only [origin, SensorsEvent.data.injEq, exists_eq_left']
    split_ifs with main linear motion
    · simp [main, idA, idLA]
    · simp [linear]
    · simp [motion, idSM, idLA]
    · simp [linear]

theorem linear_mem_emits (mEnabled : BitVec 32) (event : InputEvent) :
    Sensor.linearAcceleration ∈ emits mEnabled event ↔
      event.type = evSyn ∧ BitMask.test mEnabled Sensor.linearAcceleration.index = true := by
  unfold emits
  by_cases gesture : isGesture event
  · have other : event.type ≠ evSyn := by
      rw [gesture.1]
      decide
    simp [gesture, other]
  · rw [if_neg gesture]
    by_cases syn : event.type = evSyn
    · simp [syn]
    · simp [syn]

namespace Accelerometer

theorem linear_emitted_iff {a : Accelerometer F} (labelled : a.Labelled) (event : InputEvent) :
    (∃ stored, .data stored ∈ (a.consume event).2 ∧ stored.sensor = idLA) ↔
      event.type = evSyn ∧ BitMask.test a.mEnabled Sensor.linearAcceleration.index = true := by
  have listed : some Sensor.linearAcceleration ∈ (a.consume event).2.map SensorsEvent.origin ↔
      Sensor.linearAcceleration ∈ emits a.mEnabled event := by
    rw [consume_origin labelled, List.mem_map]
    simp
  rw [← linear_mem_emits, ← listed, List.mem_map]
  constructor
  · rintro ⟨stored, member, linear⟩
    exact ⟨_, member, (SensorsEvent.origin_linear_iff _).mpr ⟨stored, rfl, linear⟩⟩
  · rintro ⟨event, member, linear⟩
    obtain ⟨stored, rfl, own⟩ := (SensorsEvent.origin_linear_iff event).mp linear
    exact ⟨stored, member, own⟩

end Accelerometer
end

namespace Accelerometer

/-- An object over its history: each gravity entry is the mean of what was filtered. -/
structure Smoothed (a : Accelerometer ℚ) (past : List (Moment ℚ)) : Prop where
  labelled : a.Labelled
  coherent : a.Coherent past
  mGravity : ∀ axis, a.mGravity axis = mean FloatArith.alpha (filtered axis past)

theorem create_smoothed (memory : Uninitialised) (files : Sysfs) :
    (create memory files : Accelerometer ℚ).Smoothed [] :=
  ⟨create_labelled memory files, create_coherent memory files, fun _ => rfl⟩

theorem accelerate_smoothed {a : Accelerometer ℚ} {past : List (Moment ℚ)}
    (entries : ∀ axis, a.mGravity axis = mean FloatArith.alpha (filtered axis past)) {axis : Axis}
    {value : ℚ} {moment : Moment ℚ} (taken : moment.sample axis = some (a.mEnabled, value))
    (others : ∀ other ≠ axis, moment.sample other = none) (any : Axis) :
    (a.accelerate axis value).mGravity any =
      mean FloatArith.alpha (filtered any (past ++ [moment])) := by
  by_cases own : any = axis
  · subst own
    rw [filtered_taken taken]
    cases through : filters a.mEnabled with
    | true =>
      obtain ⟨gravity, step, mGravity, -⟩ := accelerate_filtered through any value
      rw [mGravity, Function.update_self, step, if_pos rfl, mean_concat, entries]
      rfl
    | false =>
      rw [(accelerate_past through any value).1, if_neg Bool.false_ne_true]
      exact entries any
  · rw [filtered_idle (others any own)]
    cases through : filters a.mEnabled with
    | true =>
      obtain ⟨gravity, -, mGravity, -⟩ := accelerate_filtered through axis value
      rw [mGravity, Function.update_of_ne own]
      exact entries any
    | false =>
      rw [(accelerate_past through axis value).1]
      exact entries any

theorem smoothed_tracked : Tracked Smoothed where
  consume a past event smoothed := by
    refine ⟨consume_labelled smoothed.labelled event, smoothed.coherent.consume event _, ?_⟩
    intro any
    obtain ⟨axis, value, taken, others, same⟩ | ⟨idle, still⟩ :=
      a.consume_sampled event (a.consume event).2
    · rw [same]
      exact accelerate_smoothed smoothed.mGravity taken others any
    · rw [still.mGravity, filtered_idle (idle any)]
      exact smoothed.mGravity any
  switch a past handle enabled outcome smoothed := by
    have coherent := coherent_tracked.switch a past handle enabled outcome smoothed.coherent
    obtain ⟨files, same⟩ := a.setEnable_frame handle enabled outcome
    rw [same] at coherent ⊢
    refine ⟨smoothed.labelled, coherent, fun axis => ?_⟩
    rw [filtered_idle rfl]
    exact smoothed.mGravity axis
  alike a b past alike smoothed := by
    refine ⟨smoothed.labelled.of_labels alike.labels, smoothed.coherent.of_alike alike, ?_⟩
    rw [alike.mGravity]
    exact smoothed.mGravity

theorem Smoothed.linear {a : Accelerometer ℚ} {past : List (Moment ℚ)} (smoothed : a.Smoothed past)
    (axis : Axis) : (a.mPendingEvents .linearAcceleration).acceleration axis =
      residual FloatArith.alpha (filtered axis past) := by
  rw [smoothed.coherent.linear axis, smoothed.mGravity axis, lastFiltered_eq]
  rfl

def ReportsAfter (history front : List (Moment ℚ)) : Prop :=
  ∃ mEnabled event stored back, history = front ++ .taken mEnabled event stored :: back ∧
    event.type = evSyn ∧ BitMask.test mEnabled Sensor.linearAcceleration.index = true

variable (memory : Uninitialised) (files : Sysfs) (calls : List Call)

/-- Each linear-acceleration event a new object hands out was reported at some moment, and
says how far the last filtered sample of each axis lay from the mean then. -/
theorem linear_handed {stored : DataEvent ℚ}
    (member : .data stored ∈ (create memory files).handedOut calls) (linear : stored.sensor = idLA) :
    ∃ front, ReportsAfter ((create memory files).history calls) front ∧
      ∀ axis, stored.acceleration axis = residual FloatArith.alpha (filtered axis front) := by
  obtain ⟨moment, made, emitted⟩ := (mem_handedOut _ calls stored).mp member
  cases moment with
  | enabling handle enabled => cases emitted
  | taken mEnabled event output =>
    obtain ⟨front, back, split⟩ := List.append_of_mem made
    obtain ⟨b, smoothed, rfl, rfl⟩ :=
      smoothed_tracked.taken (create_smoothed memory files) calls front mEnabled event output back split
    have due := (linear_emitted_iff smoothed.labelled event).mp ⟨stored, emitted, linear⟩
    refine ⟨front, ⟨_, event, _, back, split, due⟩, fun axis => ?_⟩
    rw [consume_linear smoothed.labelled emitted linear, smoothed.linear axis]

theorem linear_reported {front : List (Moment ℚ)}
    (reports : ReportsAfter ((create memory files).history calls) front) :
    ∃ stored, .data stored ∈ (create memory files).handedOut calls ∧ stored.sensor = idLA ∧
      ∀ axis, stored.acceleration axis = residual FloatArith.alpha (filtered axis front) := by
  obtain ⟨mEnabled, event, output, back, split, due⟩ := reports
  obtain ⟨b, smoothed, rfl, rfl⟩ :=
    smoothed_tracked.taken (create_smoothed memory files) calls front mEnabled event output back split
  obtain ⟨stored, emitted, linear⟩ := (linear_emitted_iff smoothed.labelled event).mpr due
  have made : .taken b.mEnabled event (b.consume event).2 ∈ (create memory files).history calls := by
    rw [split]
    exact List.mem_append_right _ List.mem_cons_self
  refine ⟨stored, (mem_handedOut _ calls stored).mpr ⟨_, made, emitted⟩, linear, fun axis => ?_⟩
  rw [consume_linear smoothed.labelled emitted linear, smoothed.linear axis]

theorem filtered_arrived {front : List (Moment ℚ)} (before : front <+: (create memory files).history calls)
    {axis : Axis} {value : ℚ} (member : value ∈ filtered axis front) :
    ∃ event ∈ (create memory files : Accelerometer ℚ).arrived calls,
      event.type = evRel ∧ value = accUnitConversion event.value := by
  obtain ⟨sample, through, rfl⟩ := List.mem_map.mp member
  obtain ⟨moment, made, taken⟩ := List.mem_filterMap.mp (List.mem_filter.mp through).1
  cases moment with
  | enabling handle enabled => cases taken
  | taken mEnabled event output =>
    simp only [Moment.sample] at taken
    split at taken
    · next rel =>
      cases taken
      refine ⟨event, ?_, rel.1, rfl⟩
      -- the events taken are the front of those that came in
      have stream := (create memory files : Accelerometer ℚ).run_stream calls
      have unread : (create memory files : Accelerometer ℚ).mInputReader.unread = [] :=
        EventRing.create_unread memory.mBuffer (by decide)
      rw [unread, List.nil_append] at stream
      rw [stream]
      exact List.mem_append_left _ (List.mem_filterMap.mpr ⟨_, before.subset made, rfl⟩)
    · cases taken

end Accelerometer
end KanasSensors
