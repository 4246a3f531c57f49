import KanasSensors.Accelerometer.Consume

/-! One call of `readEvents`, as a function of the queue it finds.

The flush loop stores one event for each bit of `mFlushed`; the event loop then runs
`consume` over a front part of the queue, whose length `reach` reads off the mask and
the room left. `readEvents_ok` puts the two together.
-/

set_option autoImplicit false

namespace KanasSensors

open Foundation

/-- How many events of a queue the loop takes before `count` is zero. A count that
has gone negative stops nothing. -/
def reach (mEnabled : BitVec 32) : Int → List InputEvent → Nat
  | _, [] => 0
  | room, event :: rest =>
    if room = 0 then 0 else reach mEnabled (room - demand mEnabled event) rest + 1

theorem reach_congr {mEnabled other : BitVec 32} (same : demand mEnabled = demand other) (room : Int)
    (queue : List InputEvent) : reach mEnabled room queue = reach other room queue := by
  induction queue generalizing room with
  | nil => rfl
  | cons event rest ih => rw [reach, reach, same, ih]

variable {F : Type}

namespace ReadState

theorem foldl_store (s : ReadState F) (events : List (SensorsEvent F)) :
    events.foldl store s = { s with
      stored := s.stored ++ events
      count := s.count - events.length
      numEventReceived := s.numEventReceived + events.length } := by
  induction events generalizing s with
  | nil => simp
  | cons event rest ih =>
    rw [List.foldl_cons, ih]
    simp only [store, List.append_assoc, List.singleton_append, List.length_cons,
      ReadState.mk.injEq, true_and]
    constructor <;> omega

end ReadState

namespace FlushState

def completions (mFlushed : BitVec 32) : List (SensorsEvent F) :=
  (BitMask.positions mFlushed).map flushComplete

theorem completions_length (mFlushed : BitVec 32) :
    (completions (F := F) mFlushed).length = (BitMask.positions mFlushed).length := by
  simp [completions]

def afterFlush (s : ReadState F) (events : List (SensorsEvent F)) : ReadState F where
  acc := { s.acc with mFlushed := 0 }
  stored := s.stored ++ events
  count := s.count - events.length
  numEventReceived := s.numEventReceived + events.length

theorem afterFlush_nil {s : ReadState F} (none_pending : s.acc.mFlushed = 0) : afterFlush s [] = s := by
  cases s with | mk acc stored count numEventReceived =>
    cases acc
    simp only at none_pending
    subst none_pending
    simp [afterFlush]

theorem mask_eq_zero {mask : BitVec 32} (empty : ∀ i < 32, BitMask.test mask i = false) :
    mask = 0 := by
  apply (BitMask.eq_zero_iff mask).mpr
  intro i
  by_cases inside : i < 32
  · exact empty i inside
  · exact BitMask.test_of_ge mask (by omega)

/-- The flush loop from a `sensorId` below which every bit is clear. The induction is
on the bits left; clearing a bit the loop has passed does not change the ones ahead. -/
theorem flush_run (k i : Nat) (s : ReadState F) (rounds : i + k = 32)
    (below : ∀ j < i, BitMask.test s.acc.mFlushed j = false) :
    (Loop.run flushStep k ⟨s, i⟩).toReadState =
      afterFlush s (((List.range' i k).filter (BitMask.test s.acc.mFlushed)).map flushComplete) := by
  induction k generalizing i s with
  | zero =>
    -- all 32 positions passed
    have none_pending := mask_eq_zero (fun j inside => below j (by omega))
    exact (afterFlush_nil none_pending).symm
  | succ k ih =>
    by_cases pending : s.acc.mFlushed = 0
    · have left : flushStep ⟨s, i⟩ = none := by rw [flushStep, if_pos pending]
      have nothing : (List.range' i (k + 1)).filter (BitMask.test s.acc.mFlushed) = [] := by
        rw [pending]; simp
      rw [Loop.run_of_none left, nothing]
      exact (afterFlush_nil pending).symm
    · rw [List.range'_succ]
      by_cases here : BitMask.test s.acc.mFlushed i = true
      · have taken : flushStep ⟨s, i⟩ = some ⟨{ s.store (flushComplete i) with
            acc := { s.acc with mFlushed := BitMask.clear s.acc.mFlushed i } }, i + 1⟩ := by
          rw [flushStep, if_neg pending, if_pos here]; rfl
        -- the bit cleared lies behind the positions still ahead
        have ahead : (List.range' (i + 1) k).filter (BitMask.test (BitMask.clear s.acc.mFlushed i)) =
            (List.range' (i + 1) k).filter (BitMask.test s.acc.mFlushed) := by
          apply List.filter_congr
          intro j member
          have later : j ≠ i := by have := (List.mem_range'_1.mp member).1; omega
          simp [later]
        rw [Loop.run_of_some taken, ih (i + 1) _ (by omega), List.filter_cons_of_pos here]
        · simp only [ahead, afterFlush, ReadState.store, List.map_cons, List.append_assoc,
            List.singleton_append, List.length_cons, ReadState.mk.injEq, true_and]
          constructor <;> omega
        · intro j passed
          by_cases same : j = i
          · simp [same]
          · simp [same, below j (by omega)]
      · have taken : flushStep ⟨s, i⟩ = some ⟨s, i + 1⟩ := by
          rw [flushStep, if_neg pending, if_neg here]
        rw [Loop.run_of_some taken, ih (i + 1) _ (by omega), List.filter_cons_of_neg here]
        intro j passed
        by_cases same : j = i
        · rw [same]; simpa using here
        · exact below j (by omega)

theorem flush_loop (s : ReadState F) :
    (Loop.run flushStep 32 ⟨s, 0⟩).toReadState = afterFlush s (completions s.acc.mFlushed) := by
  rw [flush_run 32 0 s rfl (by intro j none_below; omega), completions, BitMask.positions,
    List.range_eq_range']

/-- The fuel is enough: the flush loop ends because `mFlushed` is zero. -/
theorem flush_stops (s : ReadState F) : flushStep (Loop.run flushStep 32 ⟨s, 0⟩) = none := by
  have ended : (Loop.run flushStep 32 ⟨s, 0⟩).acc.mFlushed = 0 :=
    congrArg (fun t => t.acc.mFlushed) (flush_loop s)
  rw [flushStep, if_pos ended]

end FlushState

namespace ReadState

variable [FloatArith F]

def afterEvents (s : ReadState F) (events : List InputEvent) (ring : EventRing InputEvent 32) :
    ReadState F where
  acc := { Accelerometer.consumer.run s.acc events with mInputReader := ring }
  stored := s.stored ++ s.acc.emitted events
  count := s.count - (s.acc.emitted events).length
  numEventReceived := s.numEventReceived + (s.acc.emitted events).length

theorem afterEvents_nil (s : ReadState F) : s.afterEvents [] s.acc.mInputReader = s := by
  cases s
  simp [afterEvents]

theorem afterEvents_cons (s : ReadState F) (event : InputEvent) (rest : List InputEvent)
    (next ring : EventRing InputEvent 32) :
    (s.afterEvents [event] next).afterEvents rest ring = s.afterEvents (event :: rest) ring := by
  have frame := Accelerometer.run_frame (s.acc.consume event).1 rest (s.acc.consume event).1.mFlushed next
  have same := Accelerometer.emitted_frame (s.acc.consume event).1 rest
    (s.acc.consume event).1.mFlushed next
  have step : Accelerometer.consumer.step s.acc event = s.acc.consume event := rfl
  have flushed := (Accelerometer.run_untouched (s.acc.consume event).1 rest).mFlushed
  simp only [afterEvents, Machine.run_cons, Machine.run_nil, step, Accelerometer.emitted_cons,
    Accelerometer.emitted_nil, List.append_nil, frame, same, flushed, List.append_assoc,
    List.length_append, ReadState.mk.injEq, true_and]
  constructor <;> omega

theorem reach_cons (s : ReadState F) (event : InputEvent) (rest : List InputEvent)
    (next : EventRing InputEvent 32) (room : s.count ≠ 0) :
    reach s.acc.mEnabled s.count (event :: rest) =
      reach (s.afterEvents [event] next).acc.mEnabled (s.afterEvents [event] next).count rest + 1 := by
  have same := Accelerometer.demand_consume s.acc event
  have spent := Accelerometer.consume_length s.acc event
  rw [reach, if_neg room]
  congr 1
  simp only [afterEvents, Accelerometer.emitted_cons, Accelerometer.emitted_nil,
    List.append_nil, spent]
  exact (reach_congr same _ _).symm

theorem drainStep_empty (s : ReadState F) (empty : s.acc.mInputReader.unread = []) :
    drainStep s = none := by
  have value := s.acc.mInputReader.readEvent_value
  rw [if_pos empty] at value
  rw [drainStep]
  split
  · rfl
  · rw [dif_neg (by simp [value])]

theorem drainStep_cons (s : ReadState F) {event : InputEvent} {rest : List InputEvent}
    (queue : s.acc.mInputReader.unread = event :: rest) (room : s.count ≠ 0) :
    ∃ next : EventRing InputEvent 32, next.unread = rest ∧
      s.acc.mInputReader.readEvent.1 = event ∧
      drainStep s = some (s.afterEvents [event] next) := by
  have available : s.acc.mInputReader.readEvent.2 ≠ 0 := by
    rw [s.acc.mInputReader.readEvent_value, if_neg (by rw [queue]; exact List.cons_ne_nil _ _)]
    decide
  have split := s.acc.mInputReader.unread_eq_cons available
  rw [queue, List.cons.injEq] at split
  refine ⟨s.acc.mInputReader.next available, split.2.symm, split.1.symm, ?_⟩
  rw [drainStep, if_neg room, dif_pos available, ← split.1]
  simp only [foldl_store, afterEvents, Accelerometer.emitted_cons, Accelerometer.emitted_nil,
    List.append_nil]
  rfl

theorem drain_stops (fuel : Nat) (s : ReadState F)
    (enough : s.acc.mInputReader.unread.length ≤ fuel) :
    drainStep (Loop.run drainStep fuel s) = none := by
  apply Loop.run_stops (fun s : ReadState F => s.acc.mInputReader.unread.length) _ fuel s enough
  intro s next taken
  have room : s.count ≠ 0 := by
    intro full
    rw [drainStep, if_pos full] at taken
    cases taken
  cases queue : s.acc.mInputReader.unread with
  | nil =>
    rw [drainStep_empty s queue] at taken
    cases taken
  | cons event rest =>
    obtain ⟨ring, unread, -, step⟩ := drainStep_cons s queue room
    rw [step, Option.some.injEq] at taken
    subst taken
    have left : (s.afterEvents [event] ring).acc.mInputReader.unread = rest := unread
    rw [left, List.length_cons]
    exact Nat.lt_succ_self _

theorem drain_run (fuel : Nat) (s : ReadState F)
    (enough : s.acc.mInputReader.unread.length ≤ fuel) :
    ∃ ring : EventRing InputEvent 32,
      ring.unread = s.acc.mInputReader.unread.drop
        (reach s.acc.mEnabled s.count s.acc.mInputReader.unread) ∧
      Loop.run drainStep fuel s = s.afterEvents
        (s.acc.mInputReader.unread.take (reach s.acc.mEnabled s.count s.acc.mInputReader.unread)) ring := by
  induction fuel generalizing s with
  | zero =>
    have empty := List.length_eq_zero_iff.mp (Nat.le_zero.mp enough)
    exact ⟨s.acc.mInputReader, by simp [empty, reach], by simp [empty, Loop.run, afterEvents_nil]⟩
  | succ fuel ih =>
    cases queue : s.acc.mInputReader.unread with
    | nil =>
      refine ⟨s.acc.mInputReader, by simp [queue, reach], ?_⟩
      rw [Loop.run_of_none (drainStep_empty s queue), List.take_nil, afterEvents_nil]
    | cons event rest =>
      by_cases full : s.count = 0
      · have left : drainStep s = none := by rw [drainStep, if_pos full]
        have nothing : reach s.acc.mEnabled s.count (event :: rest) = 0 := by rw [reach, if_pos full]
        refine ⟨s.acc.mInputReader, by simp [queue, nothing], ?_⟩
        rw [Loop.run_of_none left, nothing, List.take_zero, afterEvents_nil]
      · obtain ⟨next, unread, -, taken⟩ := drainStep_cons s queue full
        rw [queue, List.length_cons] at enough
        have rest_unread : (s.afterEvents [event] next).acc.mInputReader.unread = rest := unread
        obtain ⟨ring, remaining, result⟩ := ih (s.afterEvents [event] next)
          (by rw [rest_unread]; omega)
        have further := reach_cons s event rest next full
        rw [rest_unread] at remaining result
        refine ⟨ring, ?_, ?_⟩
        · rw [further, List.drop_succ_cons, remaining]
        · rw [Loop.run_of_some taken, result, afterEvents_cons, further, List.take_succ_cons]

end ReadState

namespace Accelerometer

variable [FloatArith F]

def queue (a : Accelerometer F) (data_fd : SysRead InputEvent) : List InputEvent :=
  a.mInputReader.unread ++ a.mInputReader.taken data_fd

def room (a : Accelerometer F) (count : Int) : Int :=
  count - (BitMask.positions a.mFlushed).length

def passed (a : Accelerometer F) (count : Int) (data_fd : SysRead InputEvent) : List InputEvent :=
  (a.queue data_fd).take (reach a.mEnabled (a.room count) (a.queue data_fd))

structure Reads (a : Accelerometer F) (count : Int) (data_fd : SysRead InputEvent) : Prop where
  count_pos : 1 ≤ count
  filled : ¬a.mInputReader.ReadFails data_fd

omit [FloatArith F] in
theorem reads_ofQueue (a : Accelerometer F) {count : Int} (large : 1 ≤ count) (queue : List InputEvent)
    (most : Nat) : a.Reads count (.ofQueue queue most) :=
  ⟨large, fun failed => absurd failed.2 (by simp [SysRead.ofQueue, ReadResult.succeeded])⟩

theorem readEvents_ok {a : Accelerometer F} {count : Int} {data_fd : SysRead InputEvent}
    (reads : a.Reads count data_fd) :
    ∃ ring : EventRing InputEvent 32,
      ring.unread = (a.queue data_fd).drop (reach a.mEnabled (a.room count) (a.queue data_fd)) ∧
      a.readEvents count data_fd =
        ({ consumer.run a (a.passed count data_fd) with mFlushed := 0, mInputReader := ring },
          { value := ((FlushState.completions a.mFlushed ++
              a.emitted (a.passed count data_fd)).length : Int)
            stored := FlushState.completions a.mFlushed ++ a.emitted (a.passed count data_fd) }) := by
  obtain ⟨count_pos, filled⟩ := reads
  rw [← EventRing.fill_negative_iff] at filled
  let begun : ReadState F := ⟨{ a with mInputReader := (a.mInputReader.fill data_fd).1 }, [], count, 0⟩
  let flushed := FlushState.afterFlush begun (FlushState.completions a.mFlushed)
  -- both loops in turn: the flush loop empties `mFlushed`, the event loop starts from there
  have loops : a.readEvents count data_fd =
      let drained := Loop.run ReadState.drainStep flushed.acc.mInputReader.unread.length flushed
      (drained.acc, ⟨drained.numEventReceived, drained.stored⟩) := by
    rw [readEvents, if_neg (by omega)]
    simp only [if_neg filled, FlushState.flush_loop]
    rfl
  have unread : flushed.acc.mInputReader.unread = a.queue data_fd :=
    a.mInputReader.fill_unread data_fd
  have left : flushed.count = a.room count := by
    simp only [flushed, begun, FlushState.afterFlush, FlushState.completions, List.length_map, room]
  obtain ⟨ring, remaining, result⟩ := ReadState.drain_run _ flushed (Nat.le_refl _)
  rw [unread, left] at remaining result
  refine ⟨ring, remaining, ?_⟩
  have run : consumer.run flushed.acc (a.passed count data_fd) = _ :=
    run_frame a (a.passed count data_fd) 0 (a.mInputReader.fill data_fd).1
  have emit : flushed.acc.emitted (a.passed count data_fd) = _ :=
    emitted_frame a (a.passed count data_fd) 0 (a.mInputReader.fill data_fd).1
  have same : Loop.run ReadState.drainStep (a.queue data_fd).length flushed =
      flushed.afterEvents (a.passed count data_fd) ring := result
  rw [loops, unread, same]
  simp only [ReadState.afterEvents, run, emit]
  simp [flushed, begun, FlushState.afterFlush]

theorem readEvents_refused {a : Accelerometer F} {count : Int} (data_fd : SysRead InputEvent)
    (small : count < 1) : a.readEvents count data_fd = (a, ⟨-Errno.einval.code, []⟩) := by
  rw [readEvents, if_pos small]

theorem readEvents_failed {a : Accelerometer F} {count : Int} {data_fd : SysRead InputEvent}
    (large : 1 ≤ count) (failed : a.mInputReader.ReadFails data_fd) :
    a.readEvents count data_fd =
      ({ a with mInputReader := (a.mInputReader.fill data_fd).1 },
        ⟨(a.mInputReader.fill data_fd).2, []⟩) := by
  rw [← EventRing.fill_negative_iff] at failed
  rw [readEvents, if_neg (by omega)]
  simp only [if_pos failed]

theorem readEvents_not_ok {a : Accelerometer F} {count : Int} {data_fd : SysRead InputEvent}
    (idle : ¬a.Reads count data_fd) :
    (∃ ring : EventRing InputEvent 32, ring.unread = a.mInputReader.unread ∧
      (a.readEvents count data_fd).1 = { a with mInputReader := ring }) ∧
    (a.readEvents count data_fd).2.value < 0 ∧ (a.readEvents count data_fd).2.stored = [] := by
  by_cases small : count < 1
  · rw [readEvents_refused data_fd small]
    exact ⟨⟨a.mInputReader, rfl, rfl⟩, show -Errno.einval.code < 0 by decide, rfl⟩
  · have failed : a.mInputReader.ReadFails data_fd := by
      by_contra filled
      exact idle ⟨by omega, filled⟩
    have negative := (a.mInputReader.fill_negative_iff data_fd).mpr failed
    rw [readEvents_failed (by omega) failed]
    refine ⟨⟨(a.mInputReader.fill data_fd).1, ?_, rfl⟩, negative, rfl⟩
    rw [EventRing.fill_unread, EventRing.taken_of_fails failed, List.append_nil]

end Accelerometer
end KanasSensors
