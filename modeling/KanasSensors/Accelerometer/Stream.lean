import KanasSensors.Accelerometer.Passes
import KanasSensors.Foundation.Simulation

/-! Runs of calls against the one stream of input events they work through.

Whatever the calls are, the events taken off the reader are a front part of the events
that came in. Where no call touches the mask or asks for a flush, the split into calls
and reads is invisible: the run puts out what one pass over the stream puts out.
-/

set_option autoImplicit false

namespace KanasSensors

open Foundation

variable {F : Type}

def Moment.event : Moment F → Option InputEvent
  | .enabling _ _ => none
  | .taken _ event _ => some event

def Call.isQuiet : Call → Bool
  | .setEnable _ _ _ => false
  | .flush _ => false
  | _ => true

namespace Accelerometer

variable [FloatArith F]

def consumed (a : Accelerometer F) (call : Call) : List InputEvent :=
  (a.moments call).filterMap Moment.event

def arrived (a : Accelerometer F) (calls : List Call) : List InputEvent :=
  (driver.trace a calls).flatMap fun t => arrivals t.source t.input

/-- Everything the calls of a run stored for their callers. -/
def handedOut (a : Accelerometer F) (calls : List Call) : List (SensorsEvent F) :=
  (driver.trace a calls).flatMap fun t => t.output.stored

@[simp] theorem takes_events (a : Accelerometer F) (events : List InputEvent) :
    (a.takes events).filterMap Moment.event = events := by
  induction events generalizing a with
  | nil => rfl
  | cons event rest ih => exact congrArg (event :: ·) (ih _)

theorem Passes.consumed {a : Accelerometer F} {call : Call} {events : List InputEvent}
    (passes : a.Passes call events) : a.consumed call = events := by
  rw [Accelerometer.consumed, passes.moments, takes_events]

theorem answer_stream (a : Accelerometer F) (call : Call) :
    a.mInputReader.unread ++ a.arrivals call =
      a.consumed call ++ (a.answer call).1.mInputReader.unread := by
  obtain ⟨handle, enabled, outcome, rfl⟩ | ⟨events, passes⟩ := a.answer_cases call
  · obtain ⟨files, same⟩ := a.setEnable_frame handle enabled outcome
    simp only [answer, same, arrivals, List.append_nil]
    rfl
  · rw [passes.consumed]
    exact passes.stream

theorem run_stream (a : Accelerometer F) (calls : List Call) :
    a.mInputReader.unread ++ a.arrived calls =
      (a.history calls).filterMap Moment.event ++ (driver.run a calls).mInputReader.unread := by
  induction calls generalizing a with
  | nil => exact List.append_nil _
  | cons call rest ih =>
    have came : a.arrived (call :: rest) = a.arrivals call ++ (a.answer call).1.arrived rest := rfl
    have taken : a.history (call :: rest) = a.moments call ++ (a.answer call).1.history rest := rfl
    calc a.mInputReader.unread ++ a.arrived (call :: rest)
        = (a.mInputReader.unread ++ a.arrivals call) ++ (a.answer call).1.arrived rest := by
          rw [came, List.append_assoc]
      _ = a.consumed call ++
            ((a.answer call).1.mInputReader.unread ++ (a.answer call).1.arrived rest) := by
          rw [answer_stream, List.append_assoc]
      _ = a.consumed call ++ (((a.answer call).1.history rest).filterMap Moment.event ++
            (driver.run (a.answer call).1 rest).mInputReader.unread) := by rw [ih]
      _ = (a.history (call :: rest)).filterMap Moment.event ++
            (driver.run a (call :: rest)).mInputReader.unread := by
          rw [taken, List.filterMap_append, List.append_assoc]
          rfl

theorem handedOut_data (a : Accelerometer F) (calls : List Call) :
    (a.handedOut calls).filterMap SensorsEvent.dataEvent =
      (a.history calls).flatMap fun moment => moment.stored.filterMap SensorsEvent.dataEvent := by
  induction calls generalizing a with
  | nil => rfl
  | cons call rest ih =>
    obtain ⟨flushes, stored⟩ := a.answer_stored call
    have no_data : (flushes.map SensorsEvent.metaData).filterMap
        (SensorsEvent.dataEvent (F := F)) = [] := by
      simp [List.filterMap_map, Function.comp_def, SensorsEvent.dataEvent]
    have out : a.handedOut (call :: rest) =
        (a.answer call).2.stored ++ (a.answer call).1.handedOut rest := rfl
    have taken : a.history (call :: rest) = a.moments call ++ (a.answer call).1.history rest := rfl
    rw [out, taken, List.filterMap_append, ih, stored, List.filterMap_append, no_data,
      List.nil_append, List.flatMap_append, List.filterMap_flatMap]

theorem mem_handedOut (a : Accelerometer F) (calls : List Call) (stored : DataEvent F) :
    .data stored ∈ a.handedOut calls ↔ ∃ moment ∈ a.history calls, .data stored ∈ moment.stored := by
  rw [← SensorsEvent.mem_dataEvents, handedOut_data, List.mem_flatMap]
  simp only [SensorsEvent.mem_dataEvents]

theorem answer_pass {a : Accelerometer F} (clear : a.mFlushed = 0) {call : Call}
    (quiet : call.isQuiet = true) :
    (a.answer call).2.stored = a.emitted (a.consumed call) ∧
      (consumer.run a (a.consumed call)).Alike (a.answer call).1 ∧ (a.answer call).1.mFlushed = 0 := by
  obtain ⟨handle, enabled, outcome, rfl⟩ | ⟨events, passes⟩ := a.answer_cases call
  · cases quiet
  · rw [passes.consumed]
    refine ⟨?_, passes.after, ?_⟩
    · obtain ⟨flushed, none_pending, stored⟩ := passes.stored
      rw [clear, or_self] at none_pending
      rw [stored, none_pending]
      rfl
    · have unasked : ∀ handle, call ≠ .flush handle := by
        rintro handle rfl
        cases quiet
      rcases passes.mFlushed unasked with kept | answered
      · rw [kept, clear]
      · exact answered

def passes : Simulation (@driver F _) (@consumer F _) where
  related a b := Alike b a ∧ a.mFlushed = 0
  guard call := call.isQuiet = true
  view := consumed
  keep reply := reply.stored
  state := by
    rintro a b call ⟨alike, clear⟩ quiet
    obtain ⟨-, after, still⟩ := answer_pass clear quiet
    exact ⟨(alike.run _).trans after, still⟩
  output := by
    rintro a b call ⟨alike, clear⟩ quiet
    obtain ⟨stored, -, -⟩ := answer_pass clear quiet
    exact stored.trans (alike.emitted _)

theorem passes_views (a : Accelerometer F) (calls : List Call) :
    passes.views a calls = (a.history calls).filterMap Moment.event := by
  rw [history, List.filterMap_flatMap]
  rfl

/-- Chunking does not matter: a run of quiet calls that works a stream off completely,
however the stream is split into reads and the reads into calls, hands out what one
pass over the stream puts out, and leaves the object as the pass leaves it. -/
theorem reads_eq_single_pass (a : Accelerometer F) (clear : a.mFlushed = 0)
    (stream : List InputEvent) (calls : List Call) (quiet : ∀ call ∈ calls, call.isQuiet = true)
    (fed : a.mInputReader.unread ++ a.arrived calls = stream)
    (drained : (driver.run a calls).mInputReader.unread = []) :
    a.handedOut calls = a.emitted stream ∧
      (driver.run a calls).mEnabled = (consumer.run a stream).mEnabled ∧
      (driver.run a calls).mPendingEvents = (consumer.run a stream).mPendingEvents ∧
      (driver.run a calls).mGravity = (consumer.run a stream).mGravity := by
  have whole : (a.history calls).filterMap Moment.event = stream := by
    have balance := a.run_stream calls
    rw [fed, drained, List.append_nil] at balance
    exact balance.symm
  obtain ⟨⟨alike, -⟩, out⟩ := passes.run ⟨Alike.refl a, clear⟩ calls quiet
  rw [passes_views, whole] at out alike
  exact ⟨out, alike.mEnabled, alike.mPendingEvents, alike.mGravity⟩

theorem reads_eq_single_pass_split_frame :
    let object : Accelerometer ℚ := { blank with mEnabled := 1 }
    let sample : InputEvent := ⟨⟨0, 0⟩, evRel, eventTypeAccelX, 1024⟩
    let syn : InputEvent := ⟨⟨0, 0⟩, evSyn, 0, 0⟩
    let calls : List Call :=
      [.readEvents 1 (.ofQueue [sample, syn] 1), .readEvents 1 (.ofQueue [syn] 1)]
    object.handedOut calls = object.emitted [sample, syn] ∧
      (driver.run object calls).mEnabled = (consumer.run object [sample, syn]).mEnabled ∧
      (driver.run object calls).mPendingEvents = (consumer.run object [sample, syn]).mPendingEvents ∧
      (driver.run object calls).mGravity = (consumer.run object [sample, syn]).mGravity :=
  reads_eq_single_pass { blank with mEnabled := 1 } rfl _ _ (by decide) rfl (by decide +kernel)

end Accelerometer
end KanasSensors
