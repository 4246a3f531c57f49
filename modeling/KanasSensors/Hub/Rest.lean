import Mathlib.Data.Prod.Lex
import KanasSensors.Context.Turns
import KanasSensors.Hub.Threads

/-! The poll thread left alone comes to rest.

Without arrivals and control calls it goes round only for what is queued already and for what is
in the wake pipe. From its second round on it takes something from one of them each time, or makes
up for a count that has gone below zero.
-/

set_option autoImplicit false

namespace KanasSensors.Threads

open Foundation

variable {F : Type} [FloatArith F]

def Resting (t : Threads F) : Prop :=
  match t.pc with
  | .idle => True
  | .top => t.readWaits = true
  | .between => t.pollWaits = true

def turn (answer : Nat × Option Errno) : List ThreadAct := [.read answer.1, .poll answer.2]

def alone : Machine (Threads F) (Nat × Option Errno) Unit where
  step t answer := (host.machine.run t (turn answer), ())

theorem alone_run (t : Threads F) (answers : List (Nat × Option Errno)) :
    alone.run t answers = host.machine.run t (answers.flatMap turn) := by
  induction answers generalizing t with
  | nil => rfl
  | cons answer rest ih =>
    rw [List.flatMap_cons, Machine.run_append]
    exact ih (host.machine.run t (turn answer))

/-- What a poll half leaves that goes round again: something was reported, of the descriptor or of
the pipe, and `revents` says what is queued. -/
structure Turned (t u : Threads F) : Prop where
  top : u.pc = .top
  room : u.s.count ≠ 0
  count : u.s.count = t.s.count
  acc : u.s.ctx.acc = t.s.ctx.acc
  kernel : u.kernel = t.kernel
  revents : u.s.ctx.accRevents = if u.kernel = [] then 0 else 1
  wakePipe : u.s.ctx.wakePipe = t.s.ctx.wakePipe.drop 1
  reported : u.kernel ≠ [] ∨ t.s.ctx.wakePipe ≠ []

theorem pollHalf_turned {t : Threads F} (failure : Option Errno) (pc : t.pc = .between) :
    Resting (t.pollHalf failure).1 ∨ Turned t (t.pollHalf failure).1 := by
  unfold pollHalf
  split
  · next waits =>
    rw [Bool.and_eq_true] at waits
    left
    simpa only [Resting, pc] using waits.1
  · obtain ⟨-, ended⟩ | ⟨errno, -, -, ended⟩ | ⟨acc, wake, room, answer, looped⟩ :=
      t.s.pollFds_polls (t.pollResult failure)
    · rw [ended]
      exact .inl trivial
    · rw [ended]
      exact .inl trivial
    · by_cases goes : (t.s.polled acc wake).n ≠ 0 ∧ (t.s.polled acc wake).count ≠ 0
      · rw [looped, PollState.loopEnd, if_pos goes]
        cases failure with
        | some errno => cases answer
        | none =>
          simp only [pollResult, PollResult.ready.injEq] at answer
          obtain ⟨rfl, rfl⟩ := answer
          right
          refine ⟨rfl, goes.2, rfl, PollState.polled_acc _ _ _, rfl, PollState.polled_accRevents _ _ _, ?_, ?_⟩
          · rw [PollState.polled_wakePipe]
            by_cases empty : t.s.ctx.wakePipe = []
            · simp [empty]
            · rw [if_neg empty, if_pos (by decide)]
          -- `n` would be zero with neither of them ready, and the loop would end
          · by_contra silent
            rw [not_or, not_not, not_not] at silent
            have none_ready : (t.s.polled (if t.kernel = [] then 0 else 1)
                (if t.s.ctx.wakePipe = [] then 0 else 1)).n = 0 := by
              rw [if_pos silent.1, if_pos silent.2]
              rfl
            exact goes.1 none_ready
      · rw [looped, PollState.loopEnd, if_neg goes]
        exact .inl trivial

structure Primed (t : Threads F) : Prop where
  top : t.pc = .top
  room : t.s.count ≠ 0
  unread : t.s.ctx.acc.mInputReader.unread = []
  revents : t.s.ctx.accRevents = if t.kernel = [] then 0 else 1

omit [FloatArith F] in
theorem Turned.primed {t u : Threads F} (turned : Turned t u) (poised : Poised t) (pc : t.pc = .between) :
    Primed u := by
  simp only [Poised, pc] at poised
  refine ⟨turned.top, turned.room, ?_, turned.revents⟩
  rw [turned.acc]
  exact poised.2 (turned.count ▸ turned.room)

theorem turn_primed {t : Threads F} (poised : Poised t) (answer : Nat × Option Errno) :
    Resting (alone.step t answer).1 ∨ Primed (alone.step t answer).1 := by
  have round : (alone.step t answer).1 = ((t.step (.read answer.1)).1.step (.poll answer.2)).1 := rfl
  have halfway : Poised (t.step (.read answer.1)).1 := t.step_poised poised _
  have onward : ∀ u : Threads F, Poised u → u.pc = .between →
      Resting (u.step (.poll answer.2)).1 ∨ Primed (u.step (.poll answer.2)).1 := by
    intro u poised pc
    simp only [step, pc]
    exact (pollHalf_turned answer.2 pc).imp_right fun turned => turned.primed poised pc
  rw [round]
  cases pc : t.pc with
  | idle => exact .inl (by simp [step, Resting, pc])
  | top =>
    by_cases waits : t.readWaits = true
    · exact .inl (by simp [step, readHalf, Resting, pc, waits])
    · exact onward _ halfway (by simp [step, readHalf, pc, waits])
  | between =>
    have still : (t.step (.read answer.1)).1 = t := by simp only [step, pc]
    rw [still]
    exact onward t poised pc

/-- What there is to go round for, and then what `count` lacks. -/
def rank (t : Threads F) : ℕ ×ₗ ℕ := toLex (t.kernel.length + t.s.ctx.wakePipe.length, (-t.s.count).toNat)

namespace Primed

variable {t : Threads F}

omit [FloatArith F] in
theorem poised (primed : Primed t) : Poised t := by
  simp only [Poised, primed.top]
  exact ⟨Polling.covered_of_empty primed.unread, fun _ => primed.unread⟩

theorem wantsRead_iff (primed : Primed t) : t.s.wantsRead Accelerometer.base = true ↔ t.kernel ≠ [] := by
  simp only [PollState.wantsRead, Accelerometer.base, Bool.or_false, Bool.and_eq_true, bne_iff_ne,
    primed.revents]
  constructor
  · rintro ⟨-, readable⟩ empty
    rw [if_pos empty] at readable
    exact absurd readable (by decide)
  · intro queued
    rw [if_neg queued]
    exact ⟨primed.room, by decide⟩

theorem readWaits (primed : Primed t) : t.readWaits = false := by
  by_contra waits
  simp only [Polling.readWaits, Polling.reads, Bool.not_eq_false, Bool.and_eq_true, List.isEmpty_iff] at waits
  exact primed.wantsRead_iff.mp waits.1.1.1 waits.2

omit [FloatArith F] in
theorem space (primed : Primed t) : 0 < t.s.ctx.acc.mInputReader.reader.mFreeSpace := by
  have total := t.s.ctx.acc.mInputReader.sound.held_le
  have size := t.s.ctx.acc.mInputReader.size
  have nothing := congrArg List.length primed.unread
  rw [EventRing.unread, InputEventCircularReader.unread_length] at nothing
  simp only [List.length_nil] at nothing
  omega

theorem kernelAfter (primed : Primed t) (more : Nat) : t.kernelAfter (answered more) =
    if t.reads then t.kernel.drop (min (more + 1) t.s.ctx.acc.mInputReader.reader.mFreeSpace) else t.kernel := by
  have front : t.queued (answered more) = t.kernel := if_neg (by simp [primed.readWaits])
  have taken : t.s.ctx.acc.mInputReader.taken (t.sysRead (answered more)) =
      t.kernel.take (min (more + 1) t.s.ctx.acc.mInputReader.reader.mFreeSpace) := by
    rw [Polling.sysRead, front]
    exact if_neg (Nat.pos_iff_ne_zero.mp primed.space)
  have still : (answered more).arrivals = [] := rfl
  rw [Polling.kernelAfter, front, taken, still, List.append_nil]
  split
  · rw [List.length_take]
    exact (List.drop_eq_drop_iff).mpr (by omega)
  · rfl

/-- The read half takes an event where there is room for one; where `count` is below zero it is
refused, and the code it is refused with is taken from `count`. -/
theorem readHalf_takes (primed : Primed t) (more : Nat) (queued : t.kernel ≠ []) :
    (t.readHalf more).kernel.length < t.kernel.length ∨
      (t.readHalf more).kernel = t.kernel ∧ t.s.count < 0 ∧ t.s.count < (t.readHalf more).s.count := by
  have wants := primed.wantsRead_iff.mpr queued
  have after := primed.kernelAfter more
  simp only [readHalf, primed.readWaits, Bool.false_eq_true, if_false]
  by_cases large : 1 ≤ t.s.count
  · left
    have reads : t.reads = true := by simp [Polling.reads, wants, large, primed.space]
    -- the `read` hands over one event at least, and there is a slot for it
    have some_queued := List.length_pos_iff.mpr queued
    have space := primed.space
    rw [after, if_pos reads, List.length_drop]
    omega
  · right
    have room := primed.room
    have negative : t.s.count < 0 := by omega
    have refused := t.s.ctx.acc.readEvents_refused (t.sysRead (answered more)) (show t.s.count < 1 by omega)
    have code : Errno.einval.code = 22 := rfl
    -- `count -= nb` with `nb = -EINVAL`
    refine ⟨?_, negative, ?_⟩
    · rw [after, if_neg (by simp [Polling.reads, large])]
    · rw [Polling.half, PollState.readSensors, if_pos wants]
      simp only [Accelerometer.base, refused]
      omega

theorem readHalf_idle (primed : Primed t) (more : Nat) (empty : t.kernel = []) :
    t.readHalf more = ⟨⟨t.s, []⟩, .between⟩ := by
  have idle : ¬t.s.wantsRead Accelerometer.base = true := fun wants => primed.wantsRead_iff.mp wants empty
  have half : t.half (answered more) = t.s :=
    (PollState.readSensors_idle Accelerometer.base (t.sysRead (answered more)) idle).2
  have after := primed.kernelAfter more
  rw [if_neg (by simp [Polling.reads, idle]), empty] at after
  simp only [readHalf, primed.readWaits, Bool.false_eq_true, if_false, half, after]

theorem readHalf_wakePipe (primed : Primed t) (more : Nat) :
    (t.readHalf more).s.ctx.wakePipe = t.s.ctx.wakePipe := by
  simp only [readHalf, primed.readWaits, Bool.false_eq_true, if_false]
  exact t.s.readSensors_wakePipe Accelerometer.base (t.sysRead (answered more))

theorem turn_lowers (primed : Primed t) (answer : Nat × Option Errno) :
    Resting (alone.step t answer).1 ∨
      (Primed (alone.step t answer).1 ∧ rank (alone.step t answer).1 < rank t) := by
  have read : (t.step (.read answer.1)).1 = t.readHalf answer.1 := by simp only [step, primed.top]
  have pc : (t.readHalf answer.1).pc = .between := by
    simp only [readHalf, primed.readWaits, Bool.false_eq_true, if_false]
  have halfway : Poised (t.readHalf answer.1) := read ▸ t.step_poised primed.poised _
  have round : (alone.step t answer).1 = ((t.readHalf answer.1).pollHalf answer.2).1 := by
    change ((t.step (.read answer.1)).1.step (.poll answer.2)).1 = _
    rw [read]
    simp only [step, pc]
  rw [round]
  refine (pollHalf_turned answer.2 pc).imp_right fun turned => ⟨turned.primed halfway pc, ?_⟩
  have pipe := primed.readHalf_wakePipe answer.1
  rw [rank, rank, Prod.Lex.toLex_lt_toLex, turned.wakePipe, turned.kernel, turned.count, pipe,
    List.length_drop]
  by_cases queued : t.kernel = []
  · -- nothing queued, so it was a byte in the pipe
    have idle := primed.readHalf_idle answer.1 queued
    have byte : t.s.ctx.wakePipe ≠ [] := by
      have reported := turned.reported
      rw [turned.kernel, pipe, idle] at reported
      exact reported.resolve_left (not_not.mpr rfl)
    have bytes := List.length_pos_iff.mpr byte
    left
    simp only [idle, queued, List.length_nil]
    omega
  -- the second component counts only where the first stays, so a read may leave `count` anywhere
  · rcases primed.readHalf_takes answer.1 queued with fewer | ⟨same, negative, raised⟩
    · left
      simp only
      omega
    · rw [same]
      simp only
      omega

end Primed

/-- However the threads have interleaved, and however many events each read hands over and whichever
polls fail from then on: the poll thread on its own comes to rest, out of its call or waiting. Reads
that fail, and polls that report an error of a descriptor, are not among the answers. -/
theorem poll_thread_rests (memory : Accelerometer.Uninitialised) (files : Sysfs) (kernel : List InputEvent)
    (acts : List ThreadAct) (answers : Nat → Nat × Option Errno) :
    ∃ n, Resting (host.machine.run (boot memory files kernel : Threads F)
      (acts ++ ((List.range n).map answers).flatMap turn)) := by
  let t : Threads F := host.machine.run (boot memory files kernel) acts
  have poised : Poised t := run_poised memory files kernel acts
  obtain ⟨n, rests⟩ : ∃ n, Resting (alone.run t ((List.range n).map answers)) := by
    -- the first round has no rank: the readiness it goes by may be stale
    rcases turn_primed poised (answers 0) with rests | primed
    · exact ⟨1, rests⟩
    · obtain ⟨n, rests⟩ := alone.exists_run_done Primed Resting rank (fun t answer primed => primed.turn_lowers answer)
        (alone.step t (answers 0)).1 primed fun k => answers (k + 1)
      refine ⟨n + 1, ?_⟩
      rw [List.range_succ_eq_map, List.map_cons, List.map_map]
      exact rests
  refine ⟨n, ?_⟩
  rw [Machine.run_append, ← alone_run]
  exact rests

end KanasSensors.Threads
