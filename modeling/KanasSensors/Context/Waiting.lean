import KanasSensors.Accelerometer.Control
import KanasSensors.Accelerometer.Reading
import KanasSensors.Context.Entries
import KanasSensors.Context.Rounds

/-! The device in front of the kernel's queue: where its loop can wait, and what is
still unread there.

A wait in `poll` always finds the reader empty, because a read that leaves events
behind has filled the caller's array. A wait in `read` need not: the readiness the
device acts on may be left over from a call before.
-/

set_option autoImplicit false

namespace KanasSensors

open Foundation

variable {F : Type} [FloatArith F]

structure World (F : Type) where
  ctx : SensorsPollContext (Accelerometer F)
  kernel : List InputEvent

/-- What happens in one round: the events that end a wait in `read`, how many the read
hands over beside the first, the events that arrive for the poll, and how it ends. A `read`
does not fail here, and is not torn; a poll that does not fail reports what is queued. -/
structure Happening where
  late : List InputEvent
  more : Nat
  arrivals : List InputEvent
  failure : Option Errno
  wake : BitVec 16

structure Polling (F : Type) where
  s : PollState (Accelerometer F) F
  kernel : List InputEvent

namespace Polling

variable (p : Polling F)

def reads : Bool :=
  p.s.wantsRead Accelerometer.base && decide (1 ≤ p.s.count) &&
    decide (0 < p.s.ctx.acc.mInputReader.reader.mFreeSpace)

/-- The `read` of this round waits: nothing is queued on the descriptor. -/
def readWaits : Bool := p.reads && p.kernel.isEmpty

def queued (h : Happening) : List InputEvent := if p.readWaits then h.late else p.kernel

def sysRead (h : Happening) : SysRead InputEvent := .ofQueue (p.queued h) (h.more + 1)

def half (h : Happening) : PollState (Accelerometer F) F :=
  p.s.readSensors Accelerometer.base (p.sysRead h)

def kernelAfter (h : Happening) : List InputEvent :=
  let taken := if p.reads then (p.s.ctx.acc.mInputReader.taken (p.sysRead h)).length else 0
  (p.queued h).drop taken ++ h.arrivals

def pollResult (h : Happening) : PollResult :=
  match h.failure with
  | some errno => .failed errno
  | none => .ready (if p.kernelAfter h = [] then 0 else 1) h.wake

def waitsAtTop : List (EventRing InputEvent 32) :=
  if p.readWaits then [p.s.ctx.acc.mInputReader] else []

def waitsAtPoll (h : Happening) : List (EventRing InputEvent 32) :=
  if (p.half h).count ≠ 0 ∧ (p.half h).nbEvents = 0 then [(p.half h).ctx.acc.mInputReader] else []

def round (h : Happening) : Progress (Accelerometer F) F :=
  p.s.round Accelerometer.base ⟨p.sysRead h, p.pollResult h⟩

def waits (p : Polling F) : List Happening → List (EventRing InputEvent 32)
  | [] => p.waitsAtTop
  | h :: rest => p.waitsAtTop ++ p.waitsAtPoll h ++
    match p.round h with
    | .again next => (Polling.mk next (p.kernelAfter h)).waits rest
    | .returned _ _ => []

/-- The device and the queue when the call has returned, or at the last thing that happens. -/
def world (p : Polling F) : List Happening → World F
  | [] => ⟨p.s.ctx, p.kernel⟩
  | h :: rest =>
    match p.round h with
    | .again next => (Polling.mk next (p.kernelAfter h)).world rest
    | .returned last _ => ⟨last.ctx, p.kernelAfter h⟩

end Polling

inductive WorldInput where
  | arrive (events : List InputEvent)
  | activate (handle enabled : Int) (outcome : SysfsOutcome) (wrote : Bool)
  | setDelay (handle ns : Int) (outcome : SysfsOutcome)
  | batch (handle flags period_ns timeout : Int) (outcome : SysfsOutcome)
  | flush (handle : Int)
  | pollEvents (count : Int) (room : 1 ≤ count) (happenings : List Happening)

namespace World

def polling (w : World F) (count : Int) : Polling F := ⟨.start w.ctx count, w.kernel⟩

/-- A control call. An access outside `mSensors`, by `activate` or `setDelay` on a handle that is
not mapped, is undefined in the code and leaves the device as it was here. -/
def control (w : World F) : WorldInput → Option (SensorsPollContext (Accelerometer F) × Int)
  | .activate handle enabled outcome wrote =>
    w.ctx.activate Accelerometer.base handle enabled outcome wrote
  | .setDelay handle ns outcome => w.ctx.setDelay Accelerometer.base handle ns outcome
  | .batch handle flags period_ns timeout outcome =>
    w.ctx.batch Accelerometer.base handle flags period_ns timeout outcome
  | .flush handle => w.ctx.flush Accelerometer.base handle
  | .arrive _ | .pollEvents _ _ _ => none

/-- The device in its world; a step puts out the readers found at its waits. -/
def device : Machine (World F) WorldInput (List (EventRing InputEvent 32)) where
  step w
  | .arrive events => ({ w with kernel := w.kernel ++ events }, [])
  | .pollEvents count _ happenings =>
    ((w.polling count).world happenings, (w.polling count).waits happenings)
  | call => ({ w with ctx := ((w.control call).map Prod.fst).getD w.ctx }, [])

/-- Unread events come with the readiness of the descriptor still cached. -/
def Covered (c : SensorsPollContext (Accelerometer F)) : Prop :=
  c.acc.mInputReader.unread ≠ [] → BitMask.test c.accRevents pollIn = true

/-- A `pollEvents` call that finds unread events and a free slot, and no event queued. -/
def Stale (w : World F) : WorldInput → Prop
  | .pollEvents _ _ _ => w.ctx.acc.mInputReader.unread ≠ [] ∧
      0 < w.ctx.acc.mInputReader.reader.mFreeSpace ∧ w.kernel = []
  | _ => False

end World

open World

theorem reach_full {mEnabled : BitVec 32} {room : Int} {queue : List InputEvent}
    (left : queue.drop (reach mEnabled room queue) ≠ []) :
    room = demands mEnabled (queue.take (reach mEnabled room queue)) := by
  induction queue generalizing room with
  | nil => simp at left
  | cons event rest ih =>
    rw [reach] at left ⊢
    split
    · next full => simpa using full
    · next more =>
      rw [if_neg more, List.drop_succ_cons] at left
      have further := ih left
      rw [List.take_succ_cons, demands_cons]
      omega

namespace Accelerometer

theorem readEvents_full {a : Accelerometer F} {count : Int} {data_fd : SysRead InputEvent}
    (reads : a.Reads count data_fd) (left : (a.readEvents count data_fd).1.mInputReader.unread ≠ []) :
    (a.readEvents count data_fd).2.value = count := by
  obtain ⟨ring, unread, result⟩ := readEvents_ok reads
  rw [result] at left ⊢
  have full := reach_full (show (a.queue data_fd).drop _ ≠ [] from unread ▸ left)
  have spent : (a.emitted (a.passed count data_fd)).length = _ := a.emitted_length _
  simp only [List.length_append, FlushState.completions_length, spent]
  rw [room] at full
  simp only [passed, room]
  omega

end Accelerometer

namespace Polling

variable {p : Polling F}

/-- At the top of a round: covered, and nothing unread once `count` has gone below one. -/
structure Ready (s : PollState (Accelerometer F) F) : Prop where
  covered : Covered s.ctx
  spent : s.count < 1 → s.ctx.acc.mInputReader.unread = []

theorem Ready.half (ready : Ready p.s) (h : Happening) :
    Covered (p.half h).ctx ∧ ((p.half h).count ≠ 0 → (p.half h).ctx.acc.mInputReader.unread = []) := by
  unfold Polling.half PollState.readSensors
  split
  · next wants =>
    have cached : BitMask.test p.s.ctx.accRevents pollIn = true := by
      simp only [PollState.wantsRead, Accelerometer.base, Bool.and_eq_true, Bool.or_false] at wants
      exact wants.2
    by_cases large : 1 ≤ p.s.count
    · have reads := p.s.ctx.acc.reads_ofQueue large (p.queued h) (h.more + 1)
      -- events left behind mean `nb = count`: no room, and `revents` not cleared
      have full := fun left => p.s.ctx.acc.readEvents_full reads left
      refine ⟨fun left => ?_, fun room => ?_⟩
      · have value := full left
        simpa only [Accelerometer.base, sysRead, value, Int.lt_irrefl, if_false] using cached
      · by_contra left
        have value := full left
        simp only [Accelerometer.base, sysRead, value, Int.sub_self, ne_eq, not_true_eq_false] at room
    · -- refused before the reader is touched
      have empty := ready.spent (by omega)
      simp only [Accelerometer.base, Accelerometer.readEvents_refused _ (show p.s.count < 1 by omega)]
      exact ⟨fun left => absurd empty left, fun _ => empty⟩
  · next idle =>
    refine ⟨ready.covered, fun room => ?_⟩
    by_contra left
    -- unread events, hence cached readiness, and room: the round would have read
    apply idle
    simp only [PollState.wantsRead, Accelerometer.base, ready.covered left, Bool.true_or, Bool.and_true,
      bne_iff_ne]
    exact room

omit [FloatArith F] in
theorem covered_of_empty {c : SensorsPollContext (Accelerometer F)}
    (empty : c.acc.mInputReader.unread = []) : Covered c :=
  fun left => absurd empty left

theorem Ready.round (ready : Ready p.s) (h : Happening) :
    (∃ next, p.round h = .again next ∧ next.ctx.acc.mInputReader.unread = []) ∨
    ∃ last value, p.round h = .returned last value ∧ Covered last.ctx := by
  obtain ⟨covered, empty⟩ := ready.half h
  have unfolded : p.round h = (p.half h).pollFds (p.pollResult h) := rfl
  rw [unfolded]
  obtain ⟨-, ended⟩ | ⟨errno, -, -, ended⟩ | ⟨acc, wake, room, -, looped⟩ :=
    (p.half h).pollFds_polls (p.pollResult h)
  · exact .inr ⟨_, _, ended, covered⟩
  · exact .inr ⟨_, _, ended, covered⟩
  · have still : ((p.half h).polled acc wake).ctx.acc.mInputReader.unread = [] := by
      rw [PollState.polled_acc]
      exact empty room
    rw [looped]
    rcases PollState.loopEnd_cases ((p.half h).polled acc wake) with again | ended
    · exact .inl ⟨_, again, still⟩
    · exact .inr ⟨_, _, ended, covered_of_empty still⟩

theorem Ready.waitsAtPoll (ready : Ready p.s) (h : Happening) :
    ∀ ring ∈ p.waitsAtPoll h, ring.unread = [] := by
  intro ring member
  unfold Polling.waitsAtPoll at member
  split at member
  · next waits => exact List.mem_singleton.mp member ▸ (ready.half h).2 waits.1
  · cases member

theorem waitsAtTop_of_empty (empty : p.s.ctx.acc.mInputReader.unread = []) :
    ∀ ring ∈ p.waitsAtTop, ring.unread = [] := by
  intro ring member
  unfold waitsAtTop at member
  split at member
  · exact List.mem_singleton.mp member ▸ empty
  · cases member

theorem waits_of_empty (happenings : List Happening) (p : Polling F)
    (empty : p.s.ctx.acc.mInputReader.unread = []) : ∀ ring ∈ p.waits happenings, ring.unread = [] := by
  induction happenings generalizing p with
  | nil => exact waitsAtTop_of_empty empty
  | cons h rest ih =>
    have ready : Ready p.s := ⟨covered_of_empty empty, fun _ => empty⟩
    have front := List.forall_mem_append.mpr ⟨waitsAtTop_of_empty empty, ready.waitsAtPoll h⟩
    rw [waits]
    refine List.forall_mem_append.mpr ⟨front, ?_⟩
    rcases ready.round h with ⟨next, again, still⟩ | ⟨last, value, done, -⟩
    · simp only [again]
      exact ih ⟨next, p.kernelAfter h⟩ still
    · simp only [done]
      exact fun ring member => absurd member List.not_mem_nil

/-- Only the first `read` of a call can find events unread. -/
theorem Ready.waits_iff (ready : Ready p.s) (happenings : List Happening) :
    (∀ ring ∈ p.waits happenings, ring.unread = []) ↔ ∀ ring ∈ p.waitsAtTop, ring.unread = [] := by
  cases happenings with
  | nil => exact Iff.rfl
  | cons h rest =>
    have later : ∀ ring ∈ (match p.round h with
        | .again next => (Polling.mk next (p.kernelAfter h)).waits rest
        | .returned _ _ => []), ring.unread = [] := by
      rcases ready.round h with ⟨next, again, still⟩ | ⟨last, value, done, -⟩
      · simp only [again]
        exact waits_of_empty rest ⟨next, p.kernelAfter h⟩ still
      · simp only [done]
        exact fun ring member => absurd member List.not_mem_nil
    rw [waits, List.forall_mem_append, List.forall_mem_append]
    exact ⟨fun all => all.1.1, fun top => ⟨⟨top, ready.waitsAtPoll h⟩, later⟩⟩

theorem Ready.world (happenings : List Happening) {p : Polling F} (ready : Ready p.s) :
    Covered (p.world happenings).ctx := by
  induction happenings generalizing p with
  | nil => exact ready.covered
  | cons h rest ih =>
    rw [Polling.world]
    rcases ready.round h with ⟨next, again, still⟩ | ⟨last, value, done, covered⟩
    · simp only [again]
      exact ih (p := ⟨next, p.kernelAfter h⟩) ⟨covered_of_empty still, fun _ => still⟩
    · simp only [done]
      exact covered

theorem waitsAtTop_start_iff {w : World F} (covered : Covered w.ctx) {count : Int} (room : 1 ≤ count)
    (happenings : List Happening) :
    (∀ ring ∈ (w.polling count).waitsAtTop, ring.unread = []) ↔
      ¬w.Stale (.pollEvents count room happenings) := by
  simp only [Stale, waitsAtTop, readWaits, reads, polling, PollState.start, PollState.wantsRead,
    Accelerometer.base, Bool.or_false]
  constructor
  · rintro quiet ⟨left, slot, queue⟩
    have nonzero : count ≠ 0 := by omega
    simp [covered left, room, slot, queue, nonzero, left] at quiet
  · intro fresh ring member
    split at member
    · next waits =>
      rw [List.mem_singleton.mp member]
      by_contra left
      simp only [Bool.and_eq_true, List.isEmpty_iff] at waits
      exact fresh ⟨left, of_decide_eq_true waits.1.2, waits.2⟩
    · cases member

end Polling

namespace World

theorem control_frame {w : World F} {call : WorldInput}
    {next : SensorsPollContext (Accelerometer F)} {err : Int}
    (done : w.control call = some (next, err)) :
    next.acc.mInputReader = w.ctx.acc.mInputReader ∧ next.accRevents = w.ctx.accRevents := by
  cases call with
  | arrive events => cases done
  | pollEvents count room happenings => cases done
  | activate handle enabled outcome wrote =>
    rw [control] at done
    obtain ⟨wakePipe, rfl⟩ := SensorsPollContext.activate_frame done
    obtain ⟨files, frame⟩ := w.ctx.acc.setEnable_frame handle enabled outcome
    exact ⟨congrArg (·.mInputReader) frame, rfl⟩
  | setDelay handle ns outcome =>
    rw [control] at done
    rcases SensorsPollContext.setDelay_frame done with rfl | rfl
    · exact ⟨rfl, rfl⟩
    · obtain ⟨mDelay, files, frame⟩ := w.ctx.acc.setDelay_frame handle ns outcome
      exact ⟨congrArg (·.mInputReader) frame, rfl⟩
  | batch handle flags period_ns timeout outcome =>
    rw [control] at done
    rcases SensorsPollContext.batch_frame done with rfl | rfl
    · exact ⟨rfl, rfl⟩
    · obtain ⟨mDelay, files, frame⟩ := w.ctx.acc.batch_frame handle flags period_ns timeout outcome
      exact ⟨congrArg (·.mInputReader) frame, rfl⟩
  | flush handle =>
    rw [control] at done
    rcases SensorsPollContext.flush_frame done with rfl | rfl
    · exact ⟨rfl, rfl⟩
    · obtain ⟨mFlushed, frame⟩ := w.ctx.acc.flush_frame handle
      exact ⟨congrArg (·.mInputReader) frame, rfl⟩

theorem Covered.step {w : World F} (covered : Covered w.ctx) (input : WorldInput) :
    Covered (device.step w input).1.ctx := by
  have controlled : Covered (((w.control input).map Prod.fst).getD w.ctx) := by
    refine SensorsPollContext.settled_rule covered fun next err done => ?_
    obtain ⟨reader, revents⟩ := control_frame done
    intro left
    rw [revents]
    exact covered (reader ▸ left)
  cases input with
  | arrive events => exact covered
  | pollEvents count room happenings =>
    refine Polling.Ready.world happenings ⟨covered, fun small => ?_⟩
    simp only [polling, PollState.start] at small
    omega
  | activate => exact controlled
  | setDelay => exact controlled
  | batch => exact controlled
  | flush => exact controlled

theorem step_waits_iff {w : World F} (covered : Covered w.ctx) (input : WorldInput) :
    (∀ ring ∈ (device.step w input).2, ring.unread = []) ↔ ¬w.Stale input := by
  cases input with
  | pollEvents count room happenings =>
    have ready : Polling.Ready (w.polling count).s := by
      refine ⟨covered, fun small => ?_⟩
      simp only [polling, PollState.start] at small
      omega
    exact (ready.waits_iff happenings).trans (Polling.waitsAtTop_start_iff covered room happenings)
  | _ => exact ⟨fun _ => not_false, fun _ ring member => absurd member List.not_mem_nil⟩

/-- In every run of a new device, whatever the counts and arrivals, and as long as the reads of
queued events succeed, no wait finds an event unread exactly when no `pollEvents` call begins
stale. -/
theorem waits_iff_stale (memory : Accelerometer.Uninitialised) (files : Sysfs)
    (kernel : List InputEvent) (inputs : List WorldInput) :
    let start : World F := ⟨.create (Accelerometer.create memory files), kernel⟩
    (∀ t ∈ device.trace start inputs, ∀ ring ∈ t.output, ring.unread = []) ↔
      ∀ t ∈ device.trace start inputs, ¬t.source.Stale t.input := by
  intro start
  have covered : Covered start.ctx :=
    Polling.covered_of_empty (EventRing.create_unread memory.mBuffer (by decide))
  have always := device.trace_invariant (fun w => Covered w.ctx) (fun _ _ => True)
    (fun w input covered _ => covered.step input) start inputs covered (fun _ _ => trivial)
  refine forall₂_congr fun t member => ?_
  rw [device.output_of_mem_trace member]
  exact step_waits_iff (always t member).1 t.input

/-- Two frames in one kernel batch, read out with room for one event each time. -/
theorem read_waits_on_unread : ¬∀ inputs : List WorldInput,
    ∀ t ∈ device.trace ⟨.create Accelerometer.blank, []⟩ inputs, ∀ ring ∈ t.output,
      ring.unread = [] := by
  intro always
  let syn : InputEvent := ⟨⟨0, 0⟩, evSyn, 0, 0⟩
  let nothing : Happening := ⟨[], 31, [], none, 0⟩
  have quiet := always [.activate idA 1 .written true, .arrive [syn, syn],
    .pollEvents 1 (by decide) [nothing, nothing], .pollEvents 1 (by decide) []]
  have lengths : ∀ t ∈ device.trace ⟨.create Accelerometer.blank, []⟩
      [.activate idA 1 .written true, .arrive [syn, syn],
        .pollEvents 1 (by decide) [nothing, nothing], .pollEvents 1 (by decide) []],
      ∀ ring ∈ t.output, ring.unread.length = 0 :=
    fun t member ring waited => by rw [quiet t member ring waited]; rfl
  revert lengths
  decide +kernel

end World
end KanasSensors
