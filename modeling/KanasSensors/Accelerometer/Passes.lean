import KanasSensors.Accelerometer.Control
import KanasSensors.Accelerometer.Driver

/-! A call of the object, seen as a pass over the input events it takes.

Besides `setEnable`, which moves one bit of the mask, a call does nothing that the event
loop can see but to run the loop over some events, which may be none. What holds of the
run of a machine over these events then holds of the call.
-/

set_option autoImplicit false

namespace KanasSensors

open Foundation

variable {F : Type}

namespace Accelerometer

structure Alike (a b : Accelerometer F) : Prop where
  mEnabled : b.mEnabled = a.mEnabled
  mPendingEvents : b.mPendingEvents = a.mPendingEvents
  mGravity : b.mGravity = a.mGravity

theorem Alike.refl (a : Accelerometer F) : a.Alike a := ⟨rfl, rfl, rfl⟩

theorem Alike.trans {a b c : Accelerometer F} (first : a.Alike b) (second : b.Alike c) : a.Alike c :=
  ⟨second.mEnabled.trans first.mEnabled, second.mPendingEvents.trans first.mPendingEvents,
    second.mGravity.trans first.mGravity⟩

theorem Alike.report {a b : Accelerometer F} (alike : a.Alike b) (sensor : Sensor) (time : Timeval) :
    (a.report sensor time).1.Alike (b.report sensor time).1 ∧
      (b.report sensor time).2 = (a.report sensor time).2 := by
  obtain ⟨mEnabled, mPendingEvents, mGravity⟩ := alike
  simp only [Accelerometer.report, mPendingEvents]
  exact ⟨⟨mEnabled, rfl, mGravity⟩, trivial⟩

theorem Alike.acknowledge {a b : Accelerometer F} (alike : a.Alike b) (sensor : Sensor)
    (time : Timeval) :
    (a.acknowledge sensor time).1.Alike (b.acknowledge sensor time).1 ∧
      (b.acknowledge sensor time).2 = (a.acknowledge sensor time).2 := by
  simp only [Accelerometer.acknowledge, alike.mEnabled]
  split
  · exact alike.report sensor time
  · exact ⟨alike, rfl⟩

theorem Alike.labels {a b : Accelerometer F} (alike : a.Alike b) : b.labels = a.labels := by
  unfold Accelerometer.labels
  rw [alike.mPendingEvents]

def arrivals (a : Accelerometer F) : Call → List InputEvent
  | .readEvents count data_fd => if count < 1 then [] else a.mInputReader.taken data_fd
  | _ => []

theorem arrivals_not_ok {a : Accelerometer F} {count : Int} {data_fd : SysRead InputEvent}
    (idle : ¬a.Reads count data_fd) : a.arrivals (.readEvents count data_fd) = [] := by
  simp only [arrivals]
  split
  · rfl
  · next large =>
    apply EventRing.taken_of_fails
    by_contra filled
    exact idle ⟨by omega, filled⟩

variable [FloatArith F]

theorem Alike.accelerate {a b : Accelerometer F} (alike : a.Alike b) (axis : Axis) (value : F) :
    (a.accelerate axis value).Alike (b.accelerate axis value) := by
  obtain ⟨mEnabled, mPendingEvents, mGravity⟩ := alike
  simp only [Accelerometer.accelerate, mEnabled, mPendingEvents, mGravity]
  split
  · exact ⟨rfl, rfl, rfl⟩
  · exact ⟨rfl, rfl, rfl⟩

theorem Alike.consume {a b : Accelerometer F} (alike : a.Alike b) (event : InputEvent) :
    (a.consume event).1.Alike (b.consume event).1 ∧ (b.consume event).2 = (a.consume event).2 := by
  unfold Accelerometer.consume
  split
  · cases axisOf event.code with
    | none => exact ⟨alike, rfl⟩
    | some axis => exact ⟨alike.accelerate axis _, rfl⟩
  · split
    · have cleared : Alike
          { a with mEnabled := BitMask.clear a.mEnabled Sensor.significantMotion.index }
          { b with mEnabled := BitMask.clear b.mEnabled Sensor.significantMotion.index } :=
        ⟨by rw [alike.mEnabled], alike.mPendingEvents, alike.mGravity⟩
      exact cleared.report .significantMotion event.time
    · split
      · obtain ⟨main, first⟩ := alike.acknowledge .main event.time
        obtain ⟨linear, second⟩ := main.acknowledge .linearAcceleration event.time
        exact ⟨linear, by simp only [first, second]⟩
      · exact ⟨alike, rfl⟩

theorem Alike.run {a b : Accelerometer F} (alike : a.Alike b) (events : List InputEvent) :
    (consumer.run a events).Alike (consumer.run b events) := by
  induction events generalizing a b with
  | nil => exact alike
  | cons event rest ih => exact ih (alike.consume event).1

theorem Alike.emitted {a b : Accelerometer F} (alike : a.Alike b) (events : List InputEvent) :
    b.emitted events = a.emitted events := by
  induction events generalizing a b with
  | nil => rfl
  | cons event rest ih =>
    obtain ⟨further, same⟩ := alike.consume event
    rw [emitted_cons, emitted_cons, same, ih further]

structure Passes (a : Accelerometer F) (call : Call) (events : List InputEvent) : Prop where
  after : (consumer.run a events).Alike (a.answer call).1
  moments : a.moments call = a.takes events
  stored : ∃ flushed, (flushed = 0 ∨ flushed = a.mFlushed) ∧
    (a.answer call).2.stored = FlushState.completions flushed ++ a.emitted events
  stream : a.mInputReader.unread ++ a.arrivals call =
    events ++ (a.answer call).1.mInputReader.unread
  mFlushed : (∀ handle, call ≠ .flush handle) →
    (a.answer call).1.mFlushed = a.mFlushed ∨ (a.answer call).1.mFlushed = 0

theorem Passes.idle {a : Accelerometer F} {call : Call} {mDelay : Int} {mFlushed : BitVec 32}
    {ring : EventRing InputEvent 32} {files : Sysfs}
    (same : (a.answer call).1 = { a with mDelay, mFlushed, mInputReader := ring, files })
    (unread : ring.unread = a.mInputReader.unread)
    (kept : (∀ handle, call ≠ .flush handle) → mFlushed = a.mFlushed)
    (stored : (a.answer call).2.stored = []) (moments : a.moments call = [])
    (arrivals : a.arrivals call = []) : a.Passes call [] := by
  constructor
  · rw [same]
    exact ⟨rfl, rfl, rfl⟩
  · exact moments
  · exact ⟨0, .inl rfl, stored⟩
  · rw [same, arrivals, List.append_nil]
    exact unread.symm
  · intro other
    rw [same]
    exact .inl (kept other)

theorem Passes.read {a : Accelerometer F} {count : Int} {data_fd : SysRead InputEvent}
    (reads : a.Reads count data_fd) :
    a.Passes (.readEvents count data_fd) (a.passed count data_fd) := by
  obtain ⟨ring, unread, result⟩ := readEvents_ok reads
  have large : ¬count < 1 := by have := reads.count_pos; omega
  constructor
  · rw [answer, result]
    exact ⟨rfl, rfl, rfl⟩
  · exact rounds_ok reads
  · rw [answer, result]
    exact ⟨a.mFlushed, .inr rfl, rfl⟩
  · rw [answer, result, arrivals, if_neg large]
    exact (unread ▸ List.take_append_drop _ _).symm
  · intro _
    rw [answer, result]
    exact .inr rfl

theorem answer_cases (a : Accelerometer F) (call : Call) :
    (∃ handle enabled outcome, call = .setEnable handle enabled outcome) ∨
      ∃ events, a.Passes call events := by
  cases call with
  | setEnable handle enabled outcome => exact .inl ⟨handle, enabled, outcome, rfl⟩
  | setDelay handle delay_ns outcome =>
    obtain ⟨mDelay, files, same⟩ := a.setDelay_frame handle delay_ns outcome
    exact .inr ⟨[], .idle same rfl (fun _ => rfl) rfl rfl rfl⟩
  | batch handle flags period_ns timeout outcome =>
    obtain ⟨mDelay, files, same⟩ := a.batch_frame handle flags period_ns timeout outcome
    exact .inr ⟨[], .idle same rfl (fun _ => rfl) rfl rfl rfl⟩
  | flush handle =>
    obtain ⟨mFlushed, same⟩ := a.flush_frame handle
    exact .inr ⟨[], .idle same rfl (fun other => absurd rfl (other handle)) rfl rfl rfl⟩
  | readEvents count data_fd =>
    by_cases reads : a.Reads count data_fd
    · exact .inr ⟨a.passed count data_fd, .read reads⟩
    · obtain ⟨⟨ring, unread, same⟩, -, nothing⟩ := readEvents_not_ok reads
      refine .inr ⟨[], .idle same unread (fun _ => rfl) nothing ?_ (arrivals_not_ok reads)⟩
      rw [moments, rounds_not_ok reads, List.map_nil]

theorem answer_stored (a : Accelerometer F) (call : Call) :
    ∃ flushes : List MetaEvent, (a.answer call).2.stored =
      flushes.map .metaData ++ (a.moments call).flatMap Moment.stored := by
  obtain ⟨handle, enabled, outcome, rfl⟩ | ⟨events, passes⟩ := a.answer_cases call
  · exact ⟨[], rfl⟩
  · obtain ⟨flushed, -, stored⟩ := passes.stored
    refine ⟨(BitMask.positions flushed).map fun (i : Nat) =>
      (⟨.metaData, .metaData, (i : Int), 0⟩ : MetaEvent), ?_⟩
    rw [stored, passes.moments, takes_stored, FlushState.completions, List.map_map]
    rfl

theorem answer_labels (a : Accelerometer F) (call : Call) : (a.answer call).1.labels = a.labels := by
  obtain ⟨handle, enabled, outcome, rfl⟩ | ⟨events, passes⟩ := a.answer_cases call
  · obtain ⟨files, same⟩ := a.setEnable_frame handle enabled outcome
    rw [answer, same]
    rfl
  · exact passes.after.labels.trans (a.run_labels events)

theorem driver_labels (a : Accelerometer F) (calls : List Call) :
    (driver.run a calls).labels = a.labels :=
  driver.run_invariant (fun b => b.labels = a.labels) (fun _ _ => True)
    (fun b call same _ => (b.answer_labels call).trans same) a calls rfl fun _ _ => trivial

end Accelerometer
end KanasSensors
