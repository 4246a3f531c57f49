import KanasSensors.Context.Rounds

/-! The rounds after which `pollEvents` goes round again, and what each has achieved.

The loop goes on for as long as `poll` reports anything, and acts on one bit of what it
reports. A round has achieved something exactly where that bit is what went round with
it: readiness to read, of the sensor or of a pipe with a byte in it.
-/

set_option autoImplicit false

namespace KanasSensors

open Foundation

variable {σ F : Type}

structure Turn (σ F : Type) where
  s : PollState σ F
  r : Round
  next : PollState σ F

namespace Turn

def Woke (t : Turn σ F) : Prop := t.next.ctx.wakePipe.length < t.s.ctx.wakePipe.length

instance (t : Turn σ F) : Decidable t.Woke := inferInstanceAs (Decidable (_ < _))

def Reads (base : SensorBase σ F) (t : Turn σ F) : Prop := ∀ fd, t.next.readCall base fd ≠ []

def Readable (t : Turn σ F) : Prop :=
  ∃ acc wake, t.r.poll = .ready acc wake ∧ (BitMask.test acc pollIn = true ∨
    (BitMask.test wake pollIn = true ∧ t.s.ctx.wakePipe ≠ []))

end Turn

namespace PollState

variable (base : SensorBase σ F)

def turns (s : PollState σ F) : List Round → List (Turn σ F)
  | [] => []
  | r :: rest =>
    match s.round base r with
    | .again next => ⟨s, r, next⟩ :: next.turns rest
    | .returned _ _ => []

theorem readSensors_wakePipe (s : PollState σ F) (fd : SysRead InputEvent) :
    (s.readSensors base fd).ctx.wakePipe = s.ctx.wakePipe := by
  unfold readSensors
  split <;> rfl

theorem pollFds_wakePipe (s : PollState σ F) (result : PollResult) :
    (s.pollFds result).state.ctx.wakePipe.length ≤ s.ctx.wakePipe.length := by
  obtain ⟨-, ended⟩ | ⟨errno, -, -, ended⟩ | ⟨acc, wake, -, -, looped⟩ := s.pollFds_polls result
  · rw [ended]; exact Nat.le_refl _
  · rw [ended]; exact Nat.le_refl _
  · rw [looped, loopEnd_state, polled_wakePipe]
    split
    · rw [List.length_drop]
      omega
    · exact Nat.le_refl _

theorem round_wakePipe (s : PollState σ F) (r : Round) :
    (s.round base r).state.ctx.wakePipe.length ≤ s.ctx.wakePipe.length := by
  have kept := pollFds_wakePipe (s.readSensors base r.read) r.poll
  rw [readSensors_wakePipe] at kept
  exact kept

theorem round_again {s next : PollState σ F} {r : Round} (again : s.round base r = .again next) :
    (s.readSensors base r.read).count ≠ 0 ∧
      ∃ acc wake, r.poll = .ready acc wake ∧ next = (s.readSensors base r.read).polled acc wake := by
  rw [round] at again
  obtain ⟨-, ended⟩ | ⟨errno, -, -, ended⟩ | ⟨acc, wake, room, answer, looped⟩ :=
    (s.readSensors base r.read).pollFds_polls r.poll
  · rw [ended] at again
    cases again
  · rw [ended] at again
    cases again
  · -- the end of the loop leaves the state as it was polled
    have same := congrArg Progress.state (looped.symm.trans again)
    rw [loopEnd_state, Progress.state_again] at same
    exact ⟨room, acc, wake, answer, same.symm⟩

theorem mem_turns {s : PollState σ F} {rounds : List Round} {t : Turn σ F}
    (member : t ∈ s.turns base rounds) : t.s.round base t.r = .again t.next := by
  induction rounds generalizing s with
  | nil => cases member
  | cons r rest ih =>
    rw [turns] at member
    cases ended : s.round base r with
    | again next =>
      rw [ended] at member
      rcases List.mem_cons.mp member with rfl | member
      · exact ended
      · exact ih member
    | returned last value =>
      rw [ended] at member
      cases member

theorem reads_iff {t : Turn σ F} : t.Reads base ↔ t.next.wantsRead base = true := by
  unfold Turn.Reads readCall
  split
  · next wants => simp [wants]
  · next idle =>
    constructor
    · intro reads
      exact absurd rfl (reads (.failing .eio))
    · intro wants
      exact absurd wants idle

/-- Where every turn wakes or leads to a read, turns are paid for by bytes and reads. The
one read not paid for yet is the one still to come. -/
theorem turns_le (s : PollState σ F) (rounds : List Round)
    (progress : ∀ t ∈ s.turns base rounds, t.Woke ∨ t.Reads base) :
    (s.turns base rounds).length + (s.pollEvents base rounds).state.ctx.wakePipe.length ≤
      s.ctx.wakePipe.length + (s.readCalls base rounds).length + (!s.wantsRead base).toNat := by
  induction rounds generalizing s with
  | nil =>
    simp only [turns, pollEvents, Progress.state_again, readCalls, List.length_nil]
    omega
  | cons r rest ih =>
    have top : (s.readCall base r.read).length + (!s.wantsRead base).toNat = 1 := by
      unfold readCall
      cases s.wantsRead base <;> rfl
    have pipe := s.round_wakePipe base r
    rw [turns, pollEvents, readCalls, List.length_append]
    rw [turns] at progress
    cases ended : s.round base r with
    | returned last value =>
      rw [ended] at pipe
      simp only [Progress.state_returned, List.length_nil] at pipe ⊢
      omega
    | again next =>
      rw [ended] at progress pipe
      rw [List.forall_mem_cons] at progress
      have later := ih next progress.2
      simp only [Progress.state_again, List.length_cons] at pipe ⊢
      rcases progress.1 with woke | reads
      · -- a byte for this turn, and at most one read outstanding for the next
        have byte : next.ctx.wakePipe.length < s.ctx.wakePipe.length := woke
        have due : (!next.wantsRead base).toNat ≤ 1 := Bool.toNat_le _
        omega
      · -- the next round begins with the read that pays for this turn
        rw [(reads_iff base).mp reads, Bool.not_true, Bool.toNat_false] at later
        omega

variable [FloatArith F]

theorem turn_iff {t : Turn (Accelerometer F) F}
    (again : t.s.round Accelerometer.base t.r = .again t.next) :
    t.Woke ∨ t.Reads Accelerometer.base ↔ t.Readable := by
  obtain ⟨room, acc, wake, answer, left⟩ := round_again Accelerometer.base again
  have still : t.next.count ≠ 0 := left ▸ room
  have reads : t.Reads Accelerometer.base ↔ BitMask.test acc pollIn = true := by
    rw [reads_iff, wantsRead, bne_iff_ne.mpr still, Bool.true_and, left, polled_accRevents]
    change (BitMask.test acc pollIn || false) = true ↔ _
    rw [Bool.or_false]
  have woke : t.Woke ↔ BitMask.test wake pollIn = true ∧ t.s.ctx.wakePipe ≠ [] := by
    rw [Turn.Woke, left, polled_wakePipe, readSensors_wakePipe]
    cases pipe : t.s.ctx.wakePipe with
    | nil => simp
    | cons byte rest =>
      split
      · next taken => simp [taken]
      · next kept => simp [kept]
  rw [woke, reads, or_comm]
  constructor
  · exact fun readable => ⟨acc, wake, answer, readable⟩
  · rintro ⟨acc', wake', answer', readable⟩
    rw [answer] at answer'
    cases answer'
    exact readable

end PollState
end KanasSensors
