import KanasSensors.Hub.Threads

/-! The device that is called once at a time is one way the threads interleave.

A call that returns, of a system that answers truly, is a schedule of halves, with what arrives
meanwhile put between them. Whatever holds of the threads in all their interleavings therefore
holds of the device in front of the queue.
-/

set_option autoImplicit false

namespace KanasSensors

open Foundation

variable {F : Type} [FloatArith F]

namespace Polling

/-- True answers in a round: a wait in `read` ends when events come, `poll` reports the pipe as
it is, and does not end a wait with nothing to report. -/
structure Answers (p : Polling F) (h : Happening) : Prop where
  late : p.readWaits = true → h.late ≠ []
  wake : h.wake = if (p.half h).ctx.wakePipe = [] then 0 else 1
  poll : h.failure = none → (p.half h).count ≠ 0 → (p.half h).nbEvents = 0 →
    p.kernelAfter h ≠ [] ∨ (p.half h).ctx.wakePipe ≠ []

def Whole (p : Polling F) : List Happening → Prop
  | [] => False
  | h :: rest => p.Answers h ∧
    match p.round h with
    | .again next => (Polling.mk next (p.kernelAfter h)).Whole rest
    | .returned _ _ => True

def roundActs (p : Polling F) (h : Happening) : List ThreadAct :=
  (if p.readWaits then [.arrive h.late] else []) ++ [.read h.more, .arrive h.arrivals, .poll h.failure]

def acts (p : Polling F) : List Happening → List ThreadAct
  | [] => []
  | h :: rest => p.roundActs h ++
    match p.round h with
    | .again next => (Polling.mk next (p.kernelAfter h)).acts rest
    | .returned _ _ => []

def ended (kernel : List InputEvent) : Progress (Accelerometer F) F → Threads F × List (SensorsEvent F)
  | .again s => (⟨⟨s, kernel⟩, .top⟩, [])
  | .returned s _ => (⟨⟨s, kernel⟩, .idle⟩, s.slots.map Prod.snd)

theorem readHalf_queued {p : Polling F} {h : Happening} (answers : p.Answers h) :
    ∃ kernel, (Threads.mk ⟨p.s, p.queued h⟩ .top).readHalf h.more = ⟨⟨p.half h, kernel⟩, .between⟩ ∧
      kernel ++ h.arrivals = p.kernelAfter h := by
  let q : Polling F := ⟨p.s, p.queued h⟩
  -- either the queue was not empty, or the late events end the wait
  have goes : q.readWaits = false := by
    have same : q.readWaits = (p.reads && (p.queued h).isEmpty) := rfl
    rw [same, queued]
    by_cases waits : p.readWaits = true
    · simp [waits, answers.late waits]
    · rw [if_neg waits]
      exact Bool.not_eq_true _ ▸ waits
  have front : q.queued (Threads.answered h.more) = p.queued h := if_neg (by simp [goes])
  have read : q.sysRead (Threads.answered h.more) = p.sysRead h := by
    rw [sysRead, front]
    rfl
  have half : q.half (Threads.answered h.more) = p.half h := by
    rw [Polling.half, read]
    rfl
  refine ⟨q.kernelAfter (Threads.answered h.more), ?_, ?_⟩
  · rw [← half]
    exact if_neg (by simp [goes] : ¬q.readWaits = true)
  · rw [kernelAfter, kernelAfter, front, read]
    have still : (Threads.answered h.more).arrivals = [] := rfl
    rw [still, List.append_nil]
    rfl

theorem pollHalf_answered {p : Polling F} {h : Happening} (answers : p.Answers h) :
    (Threads.mk ⟨p.half h, p.kernelAfter h⟩ .between).pollHalf h.failure =
      ended (p.kernelAfter h) (p.round h) := by
  let t : Threads F := ⟨⟨p.half h, p.kernelAfter h⟩, .between⟩
  -- a poll that answers has something to report, or no need to wait
  have goes : (t.pollWaits && h.failure.isNone) = false := by
    by_contra waits
    simp only [Bool.not_eq_false, Bool.and_eq_true, Threads.pollWaits, bne_iff_ne, beq_iff_eq,
      List.isEmpty_iff, Option.isNone_iff_eq_none] at waits
    obtain ⟨⟨⟨⟨room, nothing⟩, queued⟩, pipe⟩, silent⟩ := waits
    rcases answers.poll silent room nothing with more | byte
    · exact more queued
    · exact byte pipe
  have result : t.pollResult h.failure = p.pollResult h := by
    rw [pollResult]
    cases h.failure with
    | some errno => rfl
    | none => rw [answers.wake]; rfl
  have unfolded : p.round h = t.s.pollFds (t.pollResult h.failure) := result ▸ rfl
  rw [unfolded]
  change t.pollHalf h.failure = _
  rw [Threads.pollHalf, if_neg (by simp [goes])]
  cases t.s.pollFds (t.pollResult h.failure) <;> rfl

theorem run_round {p : Polling F} {h : Happening} (answers : p.Answers h) :
    Threads.host.machine.run ⟨p, .top⟩ (p.roundActs h) = (ended (p.kernelAfter h) (p.round h)).1 ∧
      Threads.host.machine.outputs ⟨p, .top⟩ (p.roundActs h) = (ended (p.kernelAfter h) (p.round h)).2 := by
  obtain ⟨kernel, read, whole⟩ := readHalf_queued answers
  have poll := pollHalf_answered answers
  -- from here on it does not matter whether the events came late or were queued
  have rest : ∀ t : Threads F, t = ⟨⟨p.s, p.queued h⟩, .top⟩ →
      Threads.host.machine.run t [.read h.more, .arrive h.arrivals, .poll h.failure] =
          (ended (p.kernelAfter h) (p.round h)).1 ∧
        Threads.host.machine.outputs t [.read h.more, .arrive h.arrivals, .poll h.failure] =
          (ended (p.kernelAfter h) (p.round h)).2 := by
    rintro t rfl
    have first : Threads.step ⟨⟨p.s, p.queued h⟩, .top⟩ (.read h.more) = (⟨⟨p.half h, kernel⟩, .between⟩, []) := by
      rw [← read]
      rfl
    have second : Threads.step ⟨⟨p.half h, kernel⟩, .between⟩ (.arrive h.arrivals) =
        (⟨⟨p.half h, p.kernelAfter h⟩, .between⟩, []) := by
      rw [← whole]
      rfl
    have third : Threads.step ⟨⟨p.half h, p.kernelAfter h⟩, .between⟩ (.poll h.failure) =
        ended (p.kernelAfter h) (p.round h) := poll
    simp only [Threads.host, Machine.run_cons, Machine.run_nil, Machine.outputs_cons, Machine.outputs_nil,
      first, second, third, List.nil_append, List.append_nil, and_self]
  have queue := p.queued_eq h
  unfold roundActs
  split
  · next waits =>
    rw [if_pos waits] at queue
    exact rest ⟨⟨p.s, p.kernel ++ h.late⟩, .top⟩ (by rw [queue])
  · next ready =>
    rw [if_neg ready, List.append_nil] at queue
    exact rest ⟨p, .top⟩ (by rw [← queue])

theorem run_call (happenings : List Happening) {p : Polling F} (whole : p.Whole happenings) :
    ∃ last, (p.s.pollEvents Accelerometer.base (p.rounds happenings)).state = last ∧
      Threads.host.machine.run ⟨p, .top⟩ (p.acts happenings) = ⟨⟨last, (p.world happenings).kernel⟩, .idle⟩ ∧
      Threads.host.machine.outputs ⟨p, .top⟩ (p.acts happenings) = last.slots.map Prod.snd := by
  induction happenings generalizing p with
  | nil => exact whole.elim
  | cons h rest ih =>
    obtain ⟨answers, onward⟩ := whole
    obtain ⟨state, output⟩ := run_round answers
    have same : p.round h = p.s.round Accelerometer.base ⟨p.sysRead h, p.pollResult h⟩ := rfl
    rw [acts, rounds, world, PollState.pollEvents, ← same, Machine.run_append, Machine.outputs_append, state, output]
    cases stands : p.round h with
    | again next =>
      rw [stands] at onward
      exact ih onward
    | returned last value => exact ⟨last, rfl, rfl, List.append_nil _⟩

theorem acts_arrivals (p : Polling F) (happenings : List Happening) :
    (p.acts happenings).flatMap ThreadAct.arrivals = p.entered happenings := by
  induction happenings generalizing p with
  | nil => rfl
  | cons h rest ih =>
    have here : (p.roundActs h).flatMap ThreadAct.arrivals = (if p.readWaits then h.late else []) ++ h.arrivals := by
      unfold roundActs
      split <;> simp [ThreadAct.arrivals]
    rw [acts, entered, List.flatMap_append, here]
    cases p.round h with
    | again next => exact congrArg _ (ih ⟨next, p.kernelAfter h⟩)
    | returned last value => rfl

end Polling

def WorldInput.controlled : WorldInput → Option WorldInput
  | .arrive _ | .pollEvents _ _ _ => none
  | call => some call

def ThreadAct.controlled : ThreadAct → Option WorldInput
  | .control call => some call.worldInput
  | _ => none

theorem Polling.acts_controlled (p : Polling F) (happenings : List Happening) :
    (p.acts happenings).filterMap ThreadAct.controlled = [] := by
  induction happenings generalizing p with
  | nil => rfl
  | cons h rest ih =>
    have here : (p.roundActs h).filterMap ThreadAct.controlled = [] := by
      unfold Polling.roundActs
      split <;> rfl
    rw [Polling.acts, List.filterMap_append, here]
    cases p.round h with
    | again next => exact ih ⟨next, p.kernelAfter h⟩
    | returned last value => rfl

namespace World

def Whole (w : World F) : WorldInput → Prop
  | .pollEvents count _ happenings => (w.polling count).Whole happenings
  | _ => True

def schedule (w : World F) : WorldInput → List ThreadAct
  | .arrive events => [.arrive events]
  | .activate handle enabled outcome wrote => [.control (.activate handle enabled outcome wrote)]
  | .setDelay handle ns outcome => [.control (.setDelay handle ns outcome)]
  | .batch handle flags period_ns timeout outcome => [.control (.batch handle flags period_ns timeout outcome)]
  | .flush handle => [.control (.flush handle)]
  | .pollEvents count room happenings => .pollEvents count room :: (w.polling count).acts happenings

def schedules (w : World F) (inputs : List WorldInput) : List ThreadAct :=
  (delivery.trace w inputs).flatMap fun t => t.source.schedule t.input

structure Stands (w : World F) (t : Threads F) : Prop where
  pc : t.pc = .idle
  ctx : t.s.ctx = w.ctx
  kernel : t.kernel = w.kernel

theorem schedule_arrivals (w : World F) (input : WorldInput) :
    (w.schedule input).flatMap ThreadAct.arrivals = w.entered input := by
  cases input with
  | arrive events => exact List.append_nil _
  | pollEvents count room happenings => exact (w.polling count).acts_arrivals happenings
  | _ => rfl

theorem schedule_controlled (w : World F) (input : WorldInput) :
    (w.schedule input).filterMap ThreadAct.controlled = input.controlled.toList := by
  cases input with
  | pollEvents count room happenings => exact (w.polling count).acts_controlled happenings
  | _ => rfl

theorem Stands.step {w : World F} {t : Threads F} (stands : Stands w t) {input : WorldInput}
    (whole : w.Whole input) :
    Stands (delivery.step w input).1 (Threads.host.machine.run t (w.schedule input)) ∧
      Threads.host.machine.outputs t (w.schedule input) = (delivery.step w input).2 := by
  obtain ⟨pc, ctx, kernel⟩ := stands
  -- the four control calls are one step on both sides
  have controlled : ∀ call : ControlCall, w.schedule input = [.control call] →
      (delivery.step w input).1.ctx = w.ctx.after call.deviceCall → (delivery.step w input).1.kernel = w.kernel →
      (delivery.step w input).2 = [] →
      Stands (delivery.step w input).1 (Threads.host.machine.run t (w.schedule input)) ∧
        Threads.host.machine.outputs t (w.schedule input) = (delivery.step w input).2 := by
    intro call one after queue silent
    rw [one, silent]
    exact ⟨⟨pc, (congrArg (·.after call.deviceCall) ctx).trans after.symm, kernel.trans queue.symm⟩, rfl⟩
  cases input with
  | arrive events => exact ⟨⟨pc, ctx, congrArg (· ++ events) kernel⟩, rfl⟩
  | activate handle enabled outcome wrote => exact controlled (.activate handle enabled outcome wrote) rfl rfl rfl rfl
  | setDelay handle ns outcome => exact controlled (.setDelay handle ns outcome) rfl rfl rfl rfl
  | batch handle flags period_ns timeout outcome =>
    exact controlled (.batch handle flags period_ns timeout outcome) rfl rfl rfl rfl
  | flush handle => exact controlled (.flush handle) rfl rfl rfl rfl
  | pollEvents count room happenings =>
    have enters : Threads.step t (.pollEvents count room) = (⟨w.polling count, .top⟩, []) := by
      simp only [Threads.step, pc, ctx, kernel]
      rfl
    obtain ⟨last, ends, state, output⟩ := Polling.run_call happenings whole
    have step : Threads.host.machine.step = (Threads.step : Threads F → _) := rfl
    rw [schedule, Machine.run_cons, Machine.outputs_cons, step, enters, state, output]
    have reached : (delivery.step w (.pollEvents count room happenings)).1.ctx = last.ctx :=
      ((w.polling count).world_ctx happenings).trans (congrArg (·.ctx) ends)
    exact ⟨⟨rfl, reached.symm, rfl⟩, congrArg (·.slots.map Prod.snd) ends.symm⟩

theorem Stands.run {w : World F} {t : Threads F} (stands : Stands w t) (inputs : List WorldInput)
    (whole : ∀ u ∈ delivery.trace w inputs, u.source.Whole u.input) :
    Stands (delivery.run w inputs) (Threads.host.machine.run t (w.schedules inputs)) ∧
      Threads.host.machine.outputs t (w.schedules inputs) = delivery.outputs w inputs := by
  induction inputs generalizing w t with
  | nil => exact ⟨stands, rfl⟩
  | cons input rest ih =>
    rw [Machine.trace_cons, List.forall_mem_cons] at whole
    have scheduled : w.schedules (input :: rest) =
        w.schedule input ++ (delivery.step w input).1.schedules rest := rfl
    have first : w.Whole input := whole.1
    obtain ⟨next, here⟩ := stands.step first
    obtain ⟨last, later⟩ := ih next whole.2
    rw [scheduled, Machine.run_append, Machine.outputs_append, Machine.outputs_cons, here, later]
    exact ⟨last, rfl⟩

theorem schedules_same (w : World F) (inputs : List WorldInput) :
    (w.schedules inputs).flatMap ThreadAct.arrivals = w.inflow inputs ∧
      (w.schedules inputs).filterMap ThreadAct.controlled = inputs.filterMap WorldInput.controlled := by
  induction inputs generalizing w with
  | nil => exact ⟨rfl, rfl⟩
  | cons input rest ih =>
    have scheduled : w.schedules (input :: rest) =
        w.schedule input ++ (delivery.step w input).1.schedules rest := rfl
    obtain ⟨arrivals, calls⟩ := ih (delivery.step w input).1
    rw [scheduled, List.flatMap_append, List.filterMap_append, arrivals, calls, schedule_arrivals,
      schedule_controlled, List.filterMap_cons]
    refine ⟨rfl, ?_⟩
    cases input.controlled with
    | none => rfl
    | some call => rfl

/-- Every run of the device in which the calls return and the system answers truly is an
interleaving of the threads: with the same arrivals and control calls in the same order, the
threads come to the same device and queue, and the same events are stored for the callers. -/
theorem run_is_interleaving (memory : Accelerometer.Uninitialised) (files : Sysfs) (kernel : List InputEvent)
    (inputs : List WorldInput)
    (whole : ∀ t ∈ delivery.trace (boot memory files kernel : World F) inputs, t.source.Whole t.input) :
    let start : World F := boot memory files kernel
    ∃ acts, acts.flatMap ThreadAct.arrivals = start.inflow inputs ∧
      acts.filterMap ThreadAct.controlled = inputs.filterMap WorldInput.controlled ∧
      Stands (delivery.run start inputs) (Threads.host.machine.run (.boot memory files kernel) acts) ∧
      Threads.host.machine.outputs (.boot memory files kernel) acts = delivery.outputs start inputs := by
  intro start
  obtain ⟨arrivals, calls⟩ := start.schedules_same inputs
  obtain ⟨stands, outputs⟩ := Stands.run (w := start) (t := .boot memory files kernel) ⟨rfl, rfl, rfl⟩ inputs whole
  exact ⟨start.schedules inputs, arrivals, calls, stands, outputs⟩

theorem run_is_interleaving_frame :
    let syn : InputEvent := ⟨⟨0, 0⟩, evSyn, 0, 0⟩
    let inputs : List WorldInput := [.activate idA 1 .written true, .arrive [syn],
      .pollEvents 2 (by decide) [⟨[], 31, [], none, 1⟩, ⟨[], 31, [], none, 0⟩]]
    let memory : Accelerometer.Uninitialised := ⟨0, fun _ => 0, fun _ => ⟨⟨0, 0⟩, 0, 0, 0⟩⟩
    let start : World ℚ := boot memory ⟨"0", "0", "0"⟩ []
    ∃ acts, acts.flatMap ThreadAct.arrivals = start.inflow inputs ∧
      acts.filterMap ThreadAct.controlled = inputs.filterMap WorldInput.controlled ∧
      Stands (delivery.run start inputs) (Threads.host.machine.run (.boot memory ⟨"0", "0", "0"⟩ []) acts) ∧
      Threads.host.machine.outputs (.boot memory ⟨"0", "0", "0"⟩ []) acts = delivery.outputs start inputs := by
  refine run_is_interleaving ⟨0, fun _ => 0, fun _ => ⟨⟨0, 0⟩, 0, 0, 0⟩⟩ ⟨"0", "0", "0"⟩ [] _ ?_
  refine List.forall_mem_cons.mpr ⟨trivial, List.forall_mem_cons.mpr ⟨trivial, List.forall_mem_cons.mpr ⟨?_, ?_⟩⟩⟩
  · have wakes : ∀ p : Polling ℚ, p.readWaits = false → p.readWaits = true → ([] : List InputEvent) ≠ [] :=
      fun p ready waits => absurd waits (by simp [ready])
    exact ⟨⟨wakes _ rfl, rfl, fun _ _ _ => .inl (by decide)⟩,
      ⟨wakes _ rfl, rfl, fun _ _ nothing => absurd nothing (by decide)⟩, trivial⟩
  · exact fun t member => absurd member List.not_mem_nil

end World
end KanasSensors
