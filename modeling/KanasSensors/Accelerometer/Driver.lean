import KanasSensors.Accelerometer.Reading

/-! The object under any order of calls, as a machine, and the event loop round by
round inside its `readEvents` calls.

A moment is what a statement about activation can point at: a `setEnable` call, or one
round of the event loop with the mask it began under and the events it stored.
-/

set_option autoImplicit false

namespace KanasSensors

open Foundation

inductive Call where
  | setEnable (handle enabled : Int) (outcome : SysfsOutcome)
  | setDelay (handle delay_ns : Int) (outcome : SysfsOutcome)
  | batch (handle flags period_ns timeout : Int) (outcome : SysfsOutcome)
  | flush (handle : Int)
  | readEvents (count : Int) (data_fd : SysRead InputEvent)

inductive Moment (F : Type) where
  | enabling (handle enabled : Int)
  | taken (mEnabled : BitVec 32) (event : InputEvent) (emitted : List (SensorsEvent F))

def Moment.stored {F : Type} : Moment F → List (SensorsEvent F)
  | .enabling _ _ => []
  | .taken _ _ emitted => emitted

namespace Accelerometer

variable {F : Type} [FloatArith F]

def answer (a : Accelerometer F) : Call → Accelerometer F × Reply F
  | .setEnable handle enabled outcome =>
    let (a, err) := a.setEnable handle enabled outcome
    (a, ⟨err, []⟩)
  | .setDelay handle delay_ns outcome =>
    let (a, err) := a.setDelay handle delay_ns outcome
    (a, ⟨err, []⟩)
  | .batch handle flags period_ns timeout outcome =>
    let (a, err) := a.batch handle flags period_ns timeout outcome
    (a, ⟨err, []⟩)
  | .flush handle =>
    let (a, err) := a.flush handle
    (a, ⟨err, []⟩)
  | .readEvents count data_fd => a.readEvents count data_fd

def driver : Machine (Accelerometer F) Call (Reply F) := ⟨answer⟩

def rounds (a : Accelerometer F) (count : Int) (data_fd : SysRead InputEvent) : List (ReadState F) :=
  let (ring, n) := a.mInputReader.fill data_fd
  if count < 1 ∨ n < 0 then [] else
  let flushed := (Loop.run FlushState.flushStep 32
    ⟨⟨{ a with mInputReader := ring }, [], count, 0⟩, 0⟩).toReadState
  Loop.visited ReadState.drainStep flushed.acc.mInputReader.unread.length flushed

def round (s : ReadState F) : Moment F :=
  .taken s.acc.mEnabled s.acc.mInputReader.readEvent.1
    (s.acc.consume s.acc.mInputReader.readEvent.1).2

def moments (a : Accelerometer F) : Call → List (Moment F)
  | .setEnable handle enabled _ => [.enabling handle enabled]
  | .readEvents count data_fd => (a.rounds count data_fd).map round
  | _ => []

def history (a : Accelerometer F) (calls : List Call) : List (Moment F) :=
  (driver.trace a calls).flatMap fun t => moments t.source t.input

def takes (a : Accelerometer F) (events : List InputEvent) : List (Moment F) :=
  (consumer.trace a events).map fun t => .taken t.source.mEnabled t.input t.output

theorem takes_cons (a : Accelerometer F) (event : InputEvent) (rest : List InputEvent) :
    a.takes (event :: rest) =
      .taken a.mEnabled event (a.consume event).2 :: (a.consume event).1.takes rest := rfl

theorem takes_frame (a : Accelerometer F) (events : List InputEvent) (mFlushed : BitVec 32)
    (ring : EventRing InputEvent 32) :
    takes { a with mFlushed, mInputReader := ring } events = a.takes events := by
  induction events generalizing a with
  | nil => rfl
  | cons event rest ih => simp only [takes_cons, consume_frame, ih]

end Accelerometer

namespace ReadState

variable {F : Type} [FloatArith F]

theorem visited_rounds (fuel : Nat) (s : ReadState F)
    (enough : s.acc.mInputReader.unread.length ≤ fuel) :
    (Loop.visited drainStep fuel s).map Accelerometer.round = s.acc.takes
      (s.acc.mInputReader.unread.take (reach s.acc.mEnabled s.count s.acc.mInputReader.unread)) := by
  induction fuel generalizing s with
  | zero =>
    have empty := List.length_eq_zero_iff.mp (Nat.le_zero.mp enough)
    simp [empty, Loop.visited, Accelerometer.takes]
  | succ fuel ih =>
    cases queue : s.acc.mInputReader.unread with
    | nil =>
      rw [Loop.visited_of_none (drainStep_empty s queue), List.take_nil]
      rfl
    | cons event rest =>
      by_cases full : s.count = 0
      · have left : drainStep s = none := by rw [drainStep, if_pos full]
        rw [Loop.visited_of_none left, reach, if_pos full]
        rfl
      · -- a round is the moment of the event it takes; the rest is the queue's tail
        obtain ⟨next, unread, shown, taken⟩ := drainStep_cons s queue full
        rw [queue, List.length_cons] at enough
        have rest_unread : (s.afterEvents [event] next).acc.mInputReader.unread = rest := unread
        have further := ih (s.afterEvents [event] next) (by rw [rest_unread]; omega)
        rw [rest_unread] at further
        rw [Loop.visited_of_some taken, List.map_cons, further, reach_cons s event rest next full,
          List.take_succ_cons, Accelerometer.takes_cons, Accelerometer.round, shown]
        exact congrArg (_ :: ·) (Accelerometer.takes_frame (s.acc.consume event).1 _ _ next)

end ReadState

namespace Accelerometer

variable {F : Type} [FloatArith F]

theorem rounds_ok {a : Accelerometer F} {count : Int} {data_fd : SysRead InputEvent}
    (reads : a.Reads count data_fd) :
    (a.rounds count data_fd).map round = a.takes (a.passed count data_fd) := by
  obtain ⟨count_pos, filled⟩ := reads
  rw [← EventRing.fill_negative_iff] at filled
  have refused : ¬(count < 1 ∨ (a.mInputReader.fill data_fd).2 < 0) := by omega
  simp only [rounds, if_neg refused, FlushState.flush_loop]
  rw [ReadState.visited_rounds _ _ (Nat.le_refl _)]
  simp only [FlushState.afterFlush, EventRing.fill_unread, FlushState.completions_length]
  exact takes_frame a _ 0 (a.mInputReader.fill data_fd).1

theorem takes_stored (a : Accelerometer F) (events : List InputEvent) :
    (a.takes events).flatMap Moment.stored = a.emitted events := by
  induction events generalizing a with
  | nil => rfl
  | cons event rest ih => rw [takes_cons, List.flatMap_cons, ih, emitted_cons]; rfl

theorem rounds_not_ok {a : Accelerometer F} {count : Int} {data_fd : SysRead InputEvent}
    (idle : ¬a.Reads count data_fd) : a.rounds count data_fd = [] := by
  have refused : count < 1 ∨ (a.mInputReader.fill data_fd).2 < 0 := by
    rw [EventRing.fill_negative_iff]
    by_contra both
    rw [not_or] at both
    exact idle ⟨by omega, both.2⟩
  simp only [rounds, if_pos refused]

end Accelerometer
end KanasSensors
