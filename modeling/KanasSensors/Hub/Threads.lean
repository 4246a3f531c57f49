import KanasSensors.Hub.Drained

/-! The poll thread between the threads that control the device.

A `pollEvents` call waits in `read` and in `poll`, and other threads make their calls meanwhile. The
halves of a round and the control calls are the steps here, none of them within another; a half
goes on when its wait is over, and a step that cannot be taken leaves everything as it is.
-/

set_option autoImplicit false

namespace KanasSensors

open Foundation

variable {F : Type} [FloatArith F]

inductive ControlCall where
  | activate (handle enabled : Int) (outcome : SysfsOutcome) (wrote : Bool)
  | setDelay (handle ns : Int) (outcome : SysfsOutcome)
  | batch (handle flags period_ns timeout : Int) (outcome : SysfsOutcome)
  | flush (handle : Int)

namespace ControlCall

def deviceCall : ControlCall → DeviceCall
  | activate handle enabled outcome wrote => .other (.activate handle enabled outcome wrote)
  | setDelay handle ns outcome => .setDelay handle ns outcome
  | batch handle flags period_ns timeout outcome => .batch handle flags period_ns timeout outcome
  | flush handle => .other (.flush handle)

def worldInput : ControlCall → WorldInput
  | activate handle enabled outcome wrote => .activate handle enabled outcome wrote
  | setDelay handle ns outcome => .setDelay handle ns outcome
  | batch handle flags period_ns timeout outcome => .batch handle flags period_ns timeout outcome
  | flush handle => .flush handle

end ControlCall

inductive PollPc where
  | idle
  | top
  | between

structure Threads (F : Type) extends Polling F where
  pc : PollPc

inductive ThreadAct where
  | arrive (events : List InputEvent)
  | control (call : ControlCall)
  | pollEvents (count : Int) (room : 1 ≤ count)
  | read (more : Nat)
  | poll (failure : Option Errno)

namespace ThreadAct

def arrivals : ThreadAct → List InputEvent
  | arrive events => events
  | _ => []

def switching : ThreadAct → Option (Int × Int)
  | control (.activate handle enabled _ _) => some (handle, enabled)
  | _ => none

end ThreadAct

namespace Threads

def boot (memory : Accelerometer.Uninitialised) (files : Sysfs) (kernel : List InputEvent) : Threads F :=
  ⟨⟨.start (.create (.create memory files)) 0, kernel⟩, .idle⟩

def answered (more : Nat) : Happening := ⟨[], more, [], none, 0⟩

def readHalf (t : Threads F) (more : Nat) : Threads F :=
  -- the wait goes on until something is queued
  if t.readWaits then t
  else ⟨⟨t.half (answered more), t.kernelAfter (answered more)⟩, .between⟩

def pollWaits (t : Threads F) : Bool :=
  t.s.count != 0 && t.s.nbEvents == 0 && t.kernel.isEmpty && t.s.ctx.wakePipe.isEmpty

/-- What is queued and what is in the pipe, and neither `POLLERR` nor `POLLHUP` nor `POLLNVAL`. -/
def pollResult (t : Threads F) : Option Errno → PollResult
  | some errno => .failed errno
  | none => .ready (if t.kernel = [] then 0 else 1) (if t.s.ctx.wakePipe = [] then 0 else 1)

def pollHalf (t : Threads F) (failure : Option Errno) : Threads F × List (SensorsEvent F) :=
  -- a signal can end the wait, nothing else of the thread's own
  if t.pollWaits && failure.isNone then (t, [])
  else
    match t.s.pollFds (t.pollResult failure) with
    | .again s => (⟨⟨s, t.kernel⟩, .top⟩, [])
    | .returned s _ => (⟨⟨s, t.kernel⟩, .idle⟩, s.slots.map Prod.snd)

/-- A step puts out what a call has stored when it returns, whatever it returns: what is in
`slots` counts also where the call ends with `-errno`, and where it lies past the array's end.
Reads of queued events succeed. A control call on a handle that is not mapped does nothing. -/
def step (t : Threads F) : ThreadAct → Threads F × List (SensorsEvent F)
  | .arrive events => ({ t with kernel := t.kernel ++ events }, [])
  | .control call => ({ t with s := { t.s with ctx := t.s.ctx.after call.deviceCall } }, [])
  | .pollEvents count _ =>
    match t.pc with
    | .idle => (⟨⟨.start t.s.ctx count, t.kernel⟩, .top⟩, [])
    | _ => (t, [])
  | .read more =>
    match t.pc with
    | .top => (t.readHalf more, [])
    | _ => (t, [])
  | .poll failure =>
    match t.pc with
    | .between => t.pollHalf failure
    | _ => (t, [])

def held (t : Threads F) : List (SensorsEvent F) :=
  match t.pc with
  | .idle => []
  | _ => t.s.slots.map Prod.snd

def calls (t : Threads F) : ThreadAct → List Call
  | .control call => t.s.ctx.driverCalls call.deviceCall
  | .read more =>
    match t.pc with
    | .top => if t.readWaits then [] else t.s.driverCall (t.sysRead (answered more))
    | _ => []
  | _ => []

theorem control_performs (c : SensorsPollContext (Accelerometer F)) (call : ControlCall) :
    c.acc.Performs (c.driverCalls call.deviceCall) (c.after call.deviceCall).acc [] := by
  have performs := c.after_performs call.deviceCall
  have nothing : c.storedBy call.deviceCall = [] := by cases call <;> rfl
  rwa [nothing] at performs

theorem control_arrived (c : SensorsPollContext (Accelerometer F)) (call : ControlCall) :
    c.acc.arrived (c.driverCalls call.deviceCall) = [] := by
  cases call with
  | flush handle =>
    simp only [ControlCall.deviceCall, SensorsPollContext.driverCalls]
    split <;> rfl
  | _ => rfl

theorem readHalf_performs (t : Threads F) (more : Nat) (pc : t.pc = .top) : ∃ stored,
    t.s.ctx.acc.Performs (t.calls (.read more)) (t.readHalf more).s.ctx.acc stored ∧
      t.held ++ stored = (t.readHalf more).held := by
  simp only [calls, readHalf, held, pc]
  by_cases waits : t.readWaits = true
  · simp only [waits, if_true, pc]
    exact ⟨[], .refl _, List.append_nil _⟩
  · simp only [waits, Bool.false_eq_true, if_false]
    -- what the read stores is held until the call returns
    obtain ⟨stored, performs, slots⟩ := t.s.readSensors_performs (t.sysRead (answered more))
    exact ⟨stored, performs, slots.symm⟩

omit [FloatArith F] in
theorem pollHalf_hands (t : Threads F) (failure : Option Errno) (pc : t.pc = .between) :
    (t.pollHalf failure).1.s.ctx.acc = t.s.ctx.acc ∧ (t.pollHalf failure).1.kernel = t.kernel ∧
      t.held = (t.pollHalf failure).2 ++ (t.pollHalf failure).1.held := by
  have acc := t.s.pollFds_acc (t.pollResult failure)
  have slots := (t.s.pollFds_sameBuffer (t.pollResult failure)).slots
  unfold pollHalf
  split
  · exact ⟨rfl, rfl, rfl⟩
  · cases ended : t.s.pollFds (t.pollResult failure) with
    | again s =>
      rw [ended, Progress.state_again] at acc slots
      exact ⟨acc, rfl, by simp [held, pc, slots]⟩
    | returned s value =>
      rw [ended, Progress.state_returned] at acc slots
      exact ⟨acc, rfl, by simp [held, pc, slots]⟩

theorem step_performs (t : Threads F) (a : ThreadAct) : ∃ stored,
    t.s.ctx.acc.Performs (t.calls a) (t.step a).1.s.ctx.acc stored ∧
      t.held ++ stored = (t.step a).2 ++ (t.step a).1.held := by
  cases a with
  | arrive events => exact ⟨[], .refl _, List.append_nil _⟩
  | control call => exact ⟨[], control_performs t.s.ctx call, List.append_nil _⟩
  | pollEvents count room =>
    refine ⟨[], ?_⟩
    cases pc : t.pc <;> simp only [calls, step, held, pc]
    · exact ⟨.refl _, rfl⟩
    · exact ⟨.refl _, List.append_nil _⟩
    · exact ⟨.refl _, List.append_nil _⟩
  | read more =>
    cases pc : t.pc with
    | top =>
      have half := t.readHalf_performs more pc
      simpa only [step, pc, List.nil_append] using half
    | _ =>
      simp only [calls, step, pc]
      exact ⟨[], .refl _, List.append_nil _⟩
  | poll failure =>
    refine ⟨[], ?_⟩
    cases pc : t.pc with
    | between =>
      obtain ⟨acc, -, held⟩ := t.pollHalf_hands failure pc
      simp only [step, pc, calls, acc, List.append_nil]
      exact ⟨.refl _, held⟩
    | _ =>
      simp only [calls, step, pc]
      exact ⟨.refl _, List.append_nil _⟩

theorem step_stream (t : Threads F) (a : ThreadAct) :
    t.kernel ++ a.arrivals = t.s.ctx.acc.arrived (t.calls a) ++ (t.step a).1.kernel := by
  cases a with
  | arrive events => rfl
  | control call =>
    have none_read := control_arrived t.s.ctx call
    simp only [calls, none_read]
    exact List.append_nil _
  | pollEvents count room =>
    simp only [calls, step]
    cases t.pc <;> exact List.append_nil _
  | read more =>
    cases pc : t.pc with
    | top =>
      simp only [calls, step, readHalf, pc]
      by_cases waits : t.readWaits = true
      · simp only [waits, if_true]
        exact List.append_nil _
      -- the queue of a read that does not wait is the queue as it stands
      · have takes := t.round_takes (answered more)
        have queued : t.queued (answered more) = t.kernel := if_neg waits
        rw [queued] at takes
        simp only [waits, Bool.false_eq_true, if_false]
        exact takes
    | _ =>
      simp only [calls, step, pc]
      exact List.append_nil _
  | poll failure =>
    cases pc : t.pc with
    | between =>
      obtain ⟨-, kernel, -⟩ := t.pollHalf_hands failure pc
      simp only [step, pc, calls, kernel]
      exact List.append_nil _
    | _ =>
      simp only [calls, step, pc]
      exact List.append_nil _

theorem step_switching (t : Threads F) (a : ThreadAct) :
    (t.calls a).filterMap Call.switching = a.switching.toList := by
  cases a with
  | control call =>
    cases call with
    | flush handle =>
      simp only [calls, ControlCall.deviceCall, SensorsPollContext.driverCalls]
      split <;> rfl
    | _ => rfl
  | read more =>
    simp only [calls, PollState.driverCall]
    split
    · split
      · rfl
      · split <;> rfl
    · rfl
  | _ => rfl

def host : Host (Threads F) ThreadAct F where
  machine := ⟨step⟩
  acc t := t.s.ctx.acc
  kernel t := t.kernel
  held := held
  calls := calls
  entered _ a := a.arrivals
  switching := ThreadAct.switching
  performs := step_performs
  stream := step_stream
  switched := step_switching

theorem inflow_eq (t : Threads F) (acts : List ThreadAct) :
    host.inflow t acts = acts.flatMap ThreadAct.arrivals := by
  induction acts generalizing t with
  | nil => rfl
  | cons a rest ih => exact congrArg (a.arrivals ++ ·) (ih (t.step a).1)

/-- Between the steps: what `Ready` asks at the top of a round, what the read half leaves after it,
and cached readiness for what is unread outside of a call. -/
def Poised (t : Threads F) : Prop :=
  match t.pc with
  | .idle => World.Covered t.s.ctx
  | .top => Polling.Ready t.s
  | .between => World.Covered t.s.ctx ∧ (t.s.count ≠ 0 → t.s.ctx.acc.mInputReader.unread = [])

omit [FloatArith F] in
theorem poised_congr {s s' : PollState (Accelerometer F) F} {kernel kernel' : List InputEvent} {pc : PollPc}
    (poised : Poised ⟨⟨s, kernel⟩, pc⟩) (count : s'.count = s.count)
    (reader : s'.ctx.acc.mInputReader = s.ctx.acc.mInputReader)
    (revents : s'.ctx.accRevents = s.ctx.accRevents) : Poised ⟨⟨s', kernel'⟩, pc⟩ := by
  have covered : World.Covered s'.ctx ↔ World.Covered s.ctx := by
    unfold World.Covered
    rw [reader, revents]
  cases pc with
  | idle => exact covered.mpr poised
  | top =>
    have ready : Polling.Ready s := poised
    refine ⟨covered.mpr ready.covered, fun small => ?_⟩
    rw [reader]
    exact ready.spent (count ▸ small)
  | between =>
    refine ⟨covered.mpr poised.1, fun room => ?_⟩
    rw [reader]
    exact poised.2 (count ▸ room)

theorem control_leaves (c : SensorsPollContext (Accelerometer F)) (call : ControlCall) :
    (c.after call.deviceCall).acc.mInputReader = c.acc.mInputReader ∧
      (c.after call.deviceCall).accRevents = c.accRevents := by
  let w : World F := ⟨c, []⟩
  have settled : c.after call.deviceCall = ((w.control call.worldInput).map Prod.fst).getD c := by
    cases call <;> rfl
  -- no handle, known or not, leads to the reader
  rw [settled]
  exact SensorsPollContext.settled_rule
    (P := fun next => next.acc.mInputReader = c.acc.mInputReader ∧ next.accRevents = c.accRevents)
    ⟨rfl, rfl⟩ fun next err done => World.control_frame (w := w) done

omit [FloatArith F] in
theorem pollHalf_poised (t : Threads F) (failure : Option Errno) (pc : t.pc = .between) (poised : Poised t) :
    Poised (t.pollHalf failure).1 := by
  have between := poised
  simp only [Poised, pc] at between
  obtain ⟨covered, empty⟩ := between
  unfold pollHalf
  split
  · exact poised
  · obtain ⟨-, ended⟩ | ⟨errno, -, -, ended⟩ | ⟨acc, wake, room, -, looped⟩ :=
      t.s.pollFds_polls (t.pollResult failure)
    · rw [ended]
      exact covered
    · rw [ended]
      exact covered
    · -- the poll was made with room left, so with the reader empty
      have still : (t.s.polled acc wake).ctx.acc.mInputReader.unread = [] := by
        rw [PollState.polled_acc]
        exact empty room
      have caught_up := Polling.covered_of_empty still
      rw [looped]
      rcases PollState.loopEnd_cases (t.s.polled acc wake) with again | ended
      · rw [again]
        exact ⟨caught_up, fun _ => still⟩
      · rw [ended]
        exact caught_up

theorem step_poised (t : Threads F) (poised : Poised t) (a : ThreadAct) : Poised (t.step a).1 := by
  cases a with
  | arrive events => exact poised_congr poised rfl rfl rfl
  | control call =>
    obtain ⟨reader, revents⟩ := control_leaves t.s.ctx call
    exact poised_congr poised rfl reader revents
  | pollEvents count room =>
    cases pc : t.pc with
    | idle =>
      simp only [Poised, pc] at poised
      simp only [step, pc]
      refine ⟨poised, fun small => ?_⟩
      simp only [PollState.start] at small
      omega
    | _ => simpa only [step, pc] using poised
  | read more =>
    cases pc : t.pc with
    | top =>
      simp only [step, pc, readHalf]
      split
      · exact poised
      -- this is where `Ready` of the top becomes what the poll half needs
      · have ready : Polling.Ready t.s := by simpa only [Poised, pc] using poised
        exact ready.half (p := t.toPolling) (answered more)
    | _ => simpa only [step, pc] using poised
  | poll failure =>
    cases pc : t.pc with
    | between => simpa only [step, pc] using t.pollHalf_poised failure pc poised
    | _ => simpa only [step, pc] using poised

section Booted

variable (memory : Accelerometer.Uninitialised) (files : Sysfs) (kernel : List InputEvent)
variable (acts : List ThreadAct)

theorem boot_unread : (boot memory files kernel : Threads F).s.ctx.acc.mInputReader.unread = [] :=
  EventRing.create_unread memory.mBuffer (by decide)

theorem run_poised : Poised (host.machine.run (boot memory files kernel : Threads F) acts) :=
  host.machine.run_invariant Poised (fun _ _ => True) (fun t a poised _ => t.step_poised poised a) _ acts
    (Polling.covered_of_empty (boot_unread memory files kernel)) fun _ _ => trivial

/-- However the threads interleave, what the calls that are over have stored, whatever they return,
and what the one in progress has stored is what the hub reports; and every event that has arrived
is worked off, unread or queued, in order. -/
theorem threads_refine_hub :
    let start : Threads F := boot memory files kernel
    let final := host.machine.run start acts
    let moments := host.moments start acts
    let meanings := moments.flatMap fun moment => moment.meaning.toList
    (host.machine.outputs start acts ++ final.held).filterMap SensorsEvent.report =
        (Hub.hub Hub.tuning).outputs Hub.initial meanings ∧
      final.s.ctx.acc.hub = (Hub.hub Hub.tuning).run Hub.initial meanings ∧
      moments.filterMap Moment.switching = acts.filterMap ThreadAct.switching ∧
      kernel ++ acts.flatMap ThreadAct.arrivals =
        moments.filterMap Moment.event ++ final.s.ctx.acc.mInputReader.unread ++ final.kernel := by
  intro start final moments meanings
  have marked : start.s.ctx.acc.Marked := Accelerometer.create_marked memory files
  have from_off : start.s.ctx.acc.hub = Hub.initial := Accelerometer.create_hub memory files
  obtain ⟨reports, state⟩ := host.run_refines (s := start) marked rfl acts
  have conserved := host.run_conserves (s := start) (boot_unread memory files kernel) acts
  rw [inflow_eq] at conserved
  rw [← from_off]
  exact ⟨reports, state, host.run_switching start acts, conserved⟩

/-- As long as reads of queued events succeed, the poll thread waits in `poll` only when every event
that ever arrived has been worked off. -/
theorem poll_waits_drained
    (between : (host.machine.run (boot memory files kernel : Threads F) acts).pc = .between)
    (waits : (host.machine.run (boot memory files kernel : Threads F) acts).pollWaits = true) :
    let start : Threads F := boot memory files kernel
    kernel ++ acts.flatMap ThreadAct.arrivals = (host.moments start acts).filterMap Moment.event := by
  intro start
  have poised := run_poised (F := F) memory files kernel acts
  simp only [Poised, between] at poised
  simp only [pollWaits, Bool.and_eq_true, bne_iff_ne, List.isEmpty_iff] at waits
  -- with room left the read half has left nothing unread
  obtain ⟨⟨⟨room, -⟩, queued⟩, -⟩ := waits
  have unread := poised.2 room
  have conserved : start.kernel ++ host.inflow start acts = (host.moments start acts).filterMap Moment.event ++
      (host.machine.run start acts).s.ctx.acc.mInputReader.unread ++ (host.machine.run start acts).kernel :=
    host.run_conserves (s := start) (boot_unread memory files kernel) acts
  rw [inflow_eq] at conserved
  rw [unread, queued, List.append_nil, List.append_nil] at conserved
  exact conserved

end Booted

theorem poll_waits_drained_frame :
    let syn : InputEvent := ⟨⟨0, 0⟩, evSyn, 0, 0⟩
    let acts : List ThreadAct := [.control (.activate idA 1 .written true), .arrive [syn],
      .pollEvents 2 (by decide), .read 31, .poll none, .read 31, .poll none, .pollEvents 2 (by decide), .read 31]
    let start : Threads ℚ := boot ⟨0, fun _ => 0, fun _ => ⟨⟨0, 0⟩, 0, 0, 0⟩⟩ ⟨"0", "0", "0"⟩ []
    [] ++ acts.flatMap ThreadAct.arrivals = (host.moments start acts).filterMap Moment.event :=
  poll_waits_drained ⟨0, fun _ => 0, fun _ => ⟨⟨0, 0⟩, 0, 0, 0⟩⟩ ⟨"0", "0", "0"⟩ [] _ rfl rfl

end Threads
end KanasSensors
