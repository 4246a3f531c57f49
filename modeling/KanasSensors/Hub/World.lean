import KanasSensors.Context.Waiting
import KanasSensors.Hub.Host

/-! The device in front of the kernel's queue does what the hub does.

Input events arrive while no call is in progress, while a read waits and before a poll; they
wait in the queue and in the reader, and leave both in rounds of the event loop. However the
arrivals, the calls and their answers interleave, the events go through in the order they came,
none is lost and none is taken twice, and what is stored for the callers is what the hub reports
of them. Whether a caller learns of all that was stored depends on what its call returns.
-/

set_option autoImplicit false

namespace KanasSensors

open Foundation

variable {F : Type} [FloatArith F]

namespace Polling

def rounds (p : Polling F) : List Happening → List Round
  | [] => []
  | h :: rest => ⟨p.sysRead h, p.pollResult h⟩ ::
    match p.round h with
    | .again next => (Polling.mk next (p.kernelAfter h)).rounds rest
    | .returned _ _ => []

def entered (p : Polling F) : List Happening → List InputEvent
  | [] => []
  | h :: rest => (if p.readWaits then h.late else []) ++ h.arrivals ++
    match p.round h with
    | .again next => (Polling.mk next (p.kernelAfter h)).entered rest
    | .returned _ _ => []

theorem world_ctx (p : Polling F) (happenings : List Happening) :
    (p.world happenings).ctx = (p.s.pollEvents Accelerometer.base (p.rounds happenings)).state.ctx := by
  induction happenings generalizing p with
  | nil => rfl
  | cons h rest ih =>
    have same : p.round h = p.s.round Accelerometer.base ⟨p.sysRead h, p.pollResult h⟩ := rfl
    rw [world, rounds, PollState.pollEvents, ← same]
    cases p.round h with
    | again next => exact ih _
    | returned last value => rfl

theorem queued_eq (p : Polling F) (h : Happening) :
    p.kernel ++ (if p.readWaits then h.late else []) = p.queued h := by
  unfold queued
  split
  · next waits =>
    unfold readWaits at waits
    rw [Bool.and_eq_true, List.isEmpty_iff] at waits
    rw [waits.2, List.nil_append]
  · exact List.append_nil _

theorem taken_prefix (ring : EventRing InputEvent 32) (queue : List InputEvent) (most : Nat) :
    ring.taken (.ofQueue queue most) <+: queue := by
  unfold EventRing.taken InputEventCircularReader.taken
  split
  · exact List.nil_prefix
  · exact List.take_prefix _ _

theorem round_arrived (p : Polling F) (h : Happening) :
    p.s.ctx.acc.arrived (p.s.driverCall (p.sysRead h)) =
      if p.reads then p.s.ctx.acc.mInputReader.taken (p.sysRead h) else [] := by
  have one : ∀ call, p.s.ctx.acc.arrived [call] = p.s.ctx.acc.arrivals call := fun _ => List.append_nil _
  unfold PollState.driverCall reads
  by_cases wants : p.s.wantsRead Accelerometer.base = true
  · rw [if_pos wants, one, Accelerometer.arrivals]
    by_cases small : p.s.count < 1
    · have refused : decide (1 ≤ p.s.count) = false := decide_eq_false (by omega)
      simp [small, refused]
    -- a full reader issues no `read`, though `readEvents` is called
    · by_cases full : p.s.ctx.acc.mInputReader.reader.mFreeSpace = 0
      · have nothing : p.s.ctx.acc.mInputReader.taken (p.sysRead h) = [] := by
          simp [EventRing.taken, InputEventCircularReader.taken, full]
        simp [nothing]
      · have large : 1 ≤ p.s.count := by omega
        simp [wants, small, large, Nat.pos_of_ne_zero full]
  · rw [if_neg wants]
    simp [wants, Accelerometer.arrived]

theorem round_takes (p : Polling F) (h : Happening) :
    p.queued h ++ h.arrivals =
      p.s.ctx.acc.arrived (p.s.driverCall (p.sysRead h)) ++ p.kernelAfter h := by
  rw [round_arrived, kernelAfter]
  split
  · have front := taken_prefix p.s.ctx.acc.mInputReader (p.queued h) (h.more + 1)
    rw [← List.append_assoc]
    exact congrArg (· ++ h.arrivals) (List.prefix_iff_eq_append.mp front).symm
  · rfl

/-- Of what is queued at first and what arrives during a call, a front part goes into the
reader and the rest stays queued. -/
theorem stream (p : Polling F) (happenings : List Happening) :
    p.kernel ++ p.entered happenings =
      p.s.ctx.acc.arrived (p.s.driverCalls (p.rounds happenings)) ++ (p.world happenings).kernel := by
  induction happenings generalizing p with
  | nil => exact List.append_nil _
  | cons h rest ih =>
    have same : p.round h = p.s.round Accelerometer.base ⟨p.sysRead h, p.pollResult h⟩ := rfl
    -- of the events of this round, what is not taken is queued for the next
    have front : p.kernel ++ ((if p.readWaits then h.late else []) ++ h.arrivals) =
        p.s.ctx.acc.arrived (p.s.driverCall (p.sysRead h)) ++ p.kernelAfter h := by
      rw [← List.append_assoc, queued_eq, round_takes]
    rw [entered, world, rounds, PollState.driverCalls, ← same, Accelerometer.arrived_append,
      ← List.append_assoc p.kernel, front]
    obtain ⟨stored, performs, -⟩ := p.s.readSensors_performs (p.sysRead h)
    have acc := (p.half h).pollFds_acc (p.pollResult h)
    have whole : (p.half h).pollFds (p.pollResult h) = p.round h := rfl
    rw [whole] at acc
    cases ended : p.round h with
    | again next =>
      rw [ended, Progress.state_again] at acc
      -- the poll half leaves the driver where the read half brought it
      have moved : Accelerometer.driver.run p.s.ctx.acc (p.s.driverCall (p.sysRead h)) = next.ctx.acc :=
        performs.state.trans acc.symm
      rw [moved, List.append_assoc, List.append_assoc]
      exact congrArg _ (ih ⟨next, p.kernelAfter h⟩)
    | returned last value => simp [Accelerometer.arrived]

end Polling

def WorldInput.switching : WorldInput → Option (Int × Int)
  | .activate handle enabled _ _ => some (handle, enabled)
  | _ => none

namespace PollState

theorem driverCalls_switching (s : PollState (Accelerometer F) F) (rounds : List Round) :
    (s.driverCalls rounds).filterMap Call.switching = [] := by
  induction rounds generalizing s with
  | nil => rfl
  | cons r rest ih =>
    have here : (s.driverCall r.read).filterMap Call.switching = [] := by
      unfold driverCall
      split <;> rfl
    rw [driverCalls, List.filterMap_append, here]
    cases s.round Accelerometer.base r with
    | again next => exact ih next
    | returned last value => rfl

end PollState

namespace World

def deviceCall (w : World F) : WorldInput → Option DeviceCall
  | .arrive _ => none
  | .activate handle enabled outcome wrote => some (.other (.activate handle enabled outcome wrote))
  | .setDelay handle ns outcome => some (.setDelay handle ns outcome)
  | .batch handle flags period_ns timeout outcome => some (.batch handle flags period_ns timeout outcome)
  | .flush handle => some (.other (.flush handle))
  | .pollEvents count _ happenings =>
    some (.other (.pollEvents count ((w.polling count).rounds happenings)))

def entered (w : World F) : WorldInput → List InputEvent
  | .arrive events => events
  | .pollEvents count _ happenings => (w.polling count).entered happenings
  | _ => []

def driverCalls (w : World F) (input : WorldInput) : List Call :=
  ((w.deviceCall input).map w.ctx.driverCalls).getD []

def stored (w : World F) (input : WorldInput) : List (SensorsEvent F) :=
  ((w.deviceCall input).map w.ctx.storedBy).getD []

/-- The device in its world; a step puts out what `pollEvents` stores, whatever it returns. -/
def delivery : Machine (World F) WorldInput (List (SensorsEvent F)) where
  step w input := ((device.step w input).1, w.stored input)

theorem step_ctx (w : World F) (input : WorldInput) :
    (delivery.step w input).1.ctx = ((w.deviceCall input).map w.ctx.after).getD w.ctx := by
  cases input with
  | pollEvents count room happenings => exact (w.polling count).world_ctx happenings
  | _ => rfl

theorem step_performs (w : World F) (input : WorldInput) :
    w.ctx.acc.Performs (w.driverCalls input) (delivery.step w input).1.ctx.acc
      (delivery.step w input).2 := by
  rw [step_ctx]
  change w.ctx.acc.Performs (w.driverCalls input) _ (w.stored input)
  unfold driverCalls stored
  cases w.deviceCall input with
  | none => exact .refl w.ctx.acc
  | some call => exact w.ctx.after_performs call

theorem step_stream (w : World F) (input : WorldInput) :
    w.kernel ++ w.entered input =
      w.ctx.acc.arrived (w.driverCalls input) ++ (delivery.step w input).1.kernel := by
  cases input with
  | arrive events => rfl
  | pollEvents count room happenings => exact (w.polling count).stream happenings
  | activate handle enabled outcome wrote => exact List.append_nil _
  | setDelay handle ns outcome => exact List.append_nil _
  | batch handle flags period_ns timeout outcome => exact List.append_nil _
  | flush handle =>
    have none_read : w.ctx.acc.arrived (w.driverCalls (.flush handle)) = [] := by
      simp only [driverCalls, deviceCall, Option.map_some, Option.getD_some,
        SensorsPollContext.driverCalls]
      split
      · rfl
      · rfl
    rw [none_read]
    exact List.append_nil _

theorem step_switching (w : World F) (input : WorldInput) :
    (w.driverCalls input).filterMap Call.switching = input.switching.toList := by
  cases input with
  | pollEvents count room happenings =>
    exact (PollState.start w.ctx count).driverCalls_switching ((w.polling count).rounds happenings)
  | flush handle =>
    simp only [driverCalls, deviceCall, Option.map_some, Option.getD_some, SensorsPollContext.driverCalls]
    split <;> rfl
  | _ => rfl

def calls (w : World F) (inputs : List WorldInput) : List Call :=
  (delivery.trace w inputs).flatMap fun t => t.source.driverCalls t.input

def inflow (w : World F) (inputs : List WorldInput) : List InputEvent :=
  (delivery.trace w inputs).flatMap fun t => t.source.entered t.input

def moments (w : World F) (inputs : List WorldInput) : List (Moment F) :=
  w.ctx.acc.history (w.calls inputs)

def host : Host (World F) WorldInput F where
  machine := delivery
  acc w := w.ctx.acc
  kernel := World.kernel
  held _ := []
  calls := driverCalls
  entered := entered
  switching := WorldInput.switching
  performs w input := ⟨_, w.step_performs input, (List.append_nil _).symm⟩
  stream := step_stream
  switched := step_switching

def boot (memory : Accelerometer.Uninitialised) (files : Sysfs) (kernel : List InputEvent) : World F :=
  ⟨.create (.create memory files), kernel⟩

theorem boot_unread (memory : Accelerometer.Uninitialised) (files : Sysfs) (kernel : List InputEvent) :
    (boot memory files kernel : World F).ctx.acc.mInputReader.unread = [] :=
  EventRing.create_unread memory.mBuffer (by decide)

end World

namespace World

variable (memory : Accelerometer.Uninitialised) (files : Sysfs) (kernel : List InputEvent)
variable (inputs : List WorldInput)

/-- No event is lost, taken twice or taken out of turn on its way from the queue through the
reader into the event loop, in runs whose reads do not fail and are not torn. -/
theorem events_conserved :
    let start : World F := boot memory files kernel
    let final := delivery.run start inputs
    kernel ++ start.inflow inputs = (start.moments inputs).filterMap Moment.event ++
      final.ctx.acc.mInputReader.unread ++ final.kernel :=
  host.run_conserves (s := boot memory files kernel) (boot_unread memory files kernel) inputs

/-- What is stored for the callers of a new device in any run is what the hub reports of the
switchings and of the input events, in the order they are worked off. -/
theorem device_refines_hub :
    let start : World F := boot memory files kernel
    let meanings := (start.moments inputs).flatMap fun moment => moment.meaning.toList
    (delivery.outputs start inputs).filterMap SensorsEvent.report =
        (Hub.hub Hub.tuning).outputs Hub.initial meanings ∧
      (delivery.run start inputs).ctx.acc.hub = (Hub.hub Hub.tuning).run Hub.initial meanings ∧
      (start.moments inputs).filterMap Moment.switching = inputs.filterMap WorldInput.switching := by
  intro start meanings
  have marked : start.ctx.acc.Marked := Accelerometer.create_marked memory files
  have from_off : start.ctx.acc.hub = Hub.initial := Accelerometer.create_hub memory files
  obtain ⟨reports, state⟩ := host.run_refines (s := start) marked rfl inputs
  rw [← from_off]
  refine ⟨?_, state, host.run_switching start inputs⟩
  have whole : delivery.outputs start inputs ++ [] = delivery.outputs start inputs := List.append_nil _
  rw [← whole]
  exact reports

end World
end KanasSensors
