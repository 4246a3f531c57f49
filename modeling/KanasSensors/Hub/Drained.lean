import KanasSensors.Context.EmptyHanded
import KanasSensors.Hub.World

/-! A `pollEvents` call that returns fewer events than it was asked for has caught up.

The loop ends with room in the caller's array only after a `poll` that reports nothing, and it
turns to that `poll` only with the reader empty. So whatever arrived before has been worked off
by then, and all of it has been reported.
-/

set_option autoImplicit false

namespace KanasSensors

open Foundation

variable {F : Type} [FloatArith F]

namespace Polling

theorem half_whole (p : Polling F) (h : Happening) :
    (p.half h).nbEvents + (p.half h).count = p.s.nbEvents + p.s.count := by
  unfold half
  by_cases wants : p.s.wantsRead Accelerometer.base = true
  · obtain ⟨reply, -, -, nbEvents, count, -⟩ :=
      PollState.readSensors_read Accelerometer.base (p.sysRead h) wants
    omega
  · rw [(PollState.readSensors_idle Accelerometer.base (p.sysRead h) wants).2]

theorem Ready.round_drained {p : Polling F} (ready : Ready p.s) (h : Happening)
    {last : PollState (Accelerometer F) F} {value : Int} (done : p.round h = .returned last (.events value))
    (short : value ≠ p.s.nbEvents + p.s.count) :
    last.ctx.acc.mInputReader.unread = [] ∧ p.kernelAfter h = [] := by
  have whole := p.half_whole h
  have unfolded : p.round h = (p.half h).pollFds (p.pollResult h) := rfl
  rw [unfolded] at done
  obtain ⟨full, ended⟩ | ⟨errno, -, -, ended⟩ | ⟨acc, wake, room, answer, looped⟩ :=
    (p.half h).pollFds_polls (p.pollResult h)
  · -- the array is full, so the value is the whole of it
    rw [ended, Progress.returned.injEq, PollReturn.events.injEq] at done
    omega
  · rw [ended] at done
    cases done
  · have same := congrArg Progress.state (looped.symm.trans done)
    rw [PollState.loopEnd_state, Progress.state_returned] at same
    obtain ⟨stops, -⟩ := PollState.loopEnd_returned (looped.symm.trans done)
    have left : ((p.half h).polled acc wake).count = (p.half h).count := rfl
    have silent : acc = 0 := (PollState.polled_n_eq_zero (stops.resolve_right (left ▸ room))).1
    constructor
    · rw [← same, PollState.polled_acc]
      exact (ready.half h).2 room
    · unfold pollResult at answer
      cases failure : h.failure with
      | some errno => simp [failure] at answer
      | none =>
        simp only [failure, PollResult.ready.injEq] at answer
        by_contra queued
        rw [if_neg queued, silent] at answer
        exact absurd answer.1 (by decide)

theorem Ready.drained (happenings : List Happening) {p : Polling F} (ready : Ready p.s)
    {last : PollState (Accelerometer F) F} {value : Int}
    (done : p.s.pollEvents Accelerometer.base (p.rounds happenings) = .returned last (.events value))
    (short : value ≠ p.s.nbEvents + p.s.count) :
    (p.world happenings).ctx.acc.mInputReader.unread = [] ∧ (p.world happenings).kernel = [] := by
  induction happenings generalizing p with
  | nil => cases done
  | cons h rest ih =>
    have same : p.round h = p.s.round Accelerometer.base ⟨p.sysRead h, p.pollResult h⟩ := rfl
    have kept := ((p.half h).pollFds_sameBuffer (p.pollResult h))
    have unfolded : (p.half h).pollFds (p.pollResult h) = p.round h := rfl
    rw [unfolded] at kept
    rw [rounds, PollState.pollEvents, ← same] at done
    rw [Polling.world]
    cases ended : p.round h with
    | again next =>
      rw [ended] at done kept
      rcases ready.round h with ⟨other, again, still⟩ | ⟨other, stop, returned, -⟩
      · have meant : next = other := by
          rw [ended, Progress.again.injEq] at again
          exact again
        have total := p.half_whole h
        rw [← kept.nbEvents, ← kept.count] at total
        rw [Progress.state_again] at total
        exact ih (p := ⟨next, p.kernelAfter h⟩)
          ⟨covered_of_empty (meant ▸ still), fun _ => meant ▸ still⟩ done (total ▸ short)
      · rw [ended] at returned
        cases returned
    | returned final stop =>
      rw [ended] at done
      obtain ⟨rfl, rfl⟩ := Progress.returned.inj done
      exact ready.round_drained h ended short

end Polling

namespace World

def answer (w : World F) (count : Int) (happenings : List Happening) : Progress (Accelerometer F) F :=
  (w.polling count).s.pollEvents Accelerometer.base ((w.polling count).rounds happenings)

theorem run_covered {w : World F} (covered : Covered w.ctx) (inputs : List WorldInput) :
    Covered (delivery.run w inputs).ctx :=
  delivery.run_invariant (fun w => Covered w.ctx) (fun _ _ => True)
    (fun _ input covered _ => covered.step input) w inputs covered fun _ _ => trivial

/-- After a call that returns fewer events than asked for, in any run of a new device, every
event that ever arrived has been worked off. -/
theorem short_poll_drains (memory : Accelerometer.Uninitialised) (files : Sysfs)
    (kernel : List InputEvent) (inputs : List WorldInput) (count : Int) (room : 1 ≤ count)
    (happenings : List Happening) (last : PollState (Accelerometer F) F) (value : Int)
    (done : (delivery.run (boot memory files kernel) inputs).answer count happenings =
      .returned last (.events value))
    (short : value ≠ count) :
    let start : World F := boot memory files kernel
    let run := inputs ++ [.pollEvents count room happenings]
    (start.moments run).filterMap Moment.event = kernel ++ start.inflow run := by
  intro start run
  have covered : Covered (delivery.run start inputs).ctx :=
    run_covered (Polling.covered_of_empty (boot_unread memory files kernel)) inputs
  have ready : Polling.Ready ((delivery.run start inputs).polling count).s := by
    refine ⟨covered, fun small => ?_⟩
    simp only [polling, PollState.start] at small
    omega
  have total : ((delivery.run start inputs).polling count).s.nbEvents +
      ((delivery.run start inputs).polling count).s.count = count := Int.zero_add count
  -- the last poll of the call found the queue empty behind an empty reader
  obtain ⟨unread, queued⟩ := ready.drained happenings done (by rw [total]; exact short)
  have final : delivery.run start run =
      ((delivery.run start inputs).polling count).world happenings := by
    rw [Machine.run_append]
    rfl
  have conserved : kernel ++ start.inflow run = (start.moments run).filterMap Moment.event ++
      (delivery.run start run).ctx.acc.mInputReader.unread ++ (delivery.run start run).kernel :=
    host.run_conserves (s := start) (boot_unread memory files kernel) run
  rw [conserved, final, unread, queued, List.append_nil, List.append_nil]

theorem short_poll_drains_frame :
    let syn : InputEvent := ⟨⟨0, 0⟩, evSyn, 0, 0⟩
    let quiet : Happening := ⟨[], 31, [], none, 0⟩
    let start : World ℚ := boot ⟨0, fun _ => 0, fun _ => ⟨⟨0, 0⟩, 0, 0, 0⟩⟩ ⟨"0", "0", "0"⟩ []
    let run : List WorldInput :=
      [.activate idA 1 .written true, .arrive [syn]] ++ [.pollEvents 2 (by decide) [quiet, quiet]]
    (start.moments run).filterMap Moment.event = [] ++ start.inflow run :=
  short_poll_drains ⟨0, fun _ => 0, fun _ => ⟨⟨0, 0⟩, 0, 0, 0⟩⟩ ⟨"0", "0", "0"⟩ [] _ 2 (by decide)
    _ _ 1 rfl (by decide)

end World
end KanasSensors
