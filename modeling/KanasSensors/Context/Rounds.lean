import KanasSensors.Context.Accounting

/-! The rounds of a `pollEvents` call, one rule for all that holds along them.

A round has two halves, and only the first of them touches the driver and the caller's
array. What both halves keep holds where a round turns to `poll`, and at the return.
-/

set_option autoImplicit false

namespace KanasSensors

open Foundation

variable {σ F : Type}

namespace Progress

def state : Progress σ F → PollState σ F
  | again s => s
  | returned s _ => s

@[simp] theorem state_again (s : PollState σ F) : (again s).state = s := rfl

@[simp] theorem state_returned (s : PollState σ F) (value : PollReturn) :
    (returned s value).state = s := rfl

end Progress

namespace PollState

variable (base : SensorBase σ F)

def halves (s : PollState σ F) : List Round → List (PollState σ F)
  | [] => []
  | r :: rest => s.readSensors base r.read ::
    match s.round base r with
    | .again next => next.halves rest
    | .returned _ _ => []

@[simp] theorem loopEnd_state (s : PollState σ F) : s.loopEnd.state = s := by
  unfold loopEnd
  split <;> rfl

theorem polled_acc (s : PollState σ F) (acc wake : BitVec 16) :
    (s.polled acc wake).ctx.acc = s.ctx.acc := by
  simp only [polled]
  split <;> rfl

theorem polled_wakePipe (s : PollState σ F) (acc wake : BitVec 16) :
    (s.polled acc wake).ctx.wakePipe =
      if BitMask.test wake pollIn then s.ctx.wakePipe.drop 1 else s.ctx.wakePipe := by
  simp only [polled]
  split <;> rfl

theorem polled_accRevents (s : PollState σ F) (acc wake : BitVec 16) :
    (s.polled acc wake).ctx.accRevents = acc := by
  simp only [polled]
  split <;> rfl

theorem polled_n_eq_zero {s : PollState σ F} {acc wake : BitVec 16}
    (none : (s.polled acc wake).n = 0) : acc = 0 ∧ wake = 0 := by
  simp only [polled] at none
  constructor
  · by_contra reported
    rw [if_pos reported] at none
    split at none <;> omega
  · by_contra reported
    rw [if_pos reported] at none
    split at none <;> omega

theorem pollFds_acc (s : PollState σ F) (result : PollResult) :
    (s.pollFds result).state.ctx.acc = s.ctx.acc := by
  obtain ⟨-, ended⟩ | ⟨errno, -, -, ended⟩ | ⟨acc, wake, -, -, looped⟩ := s.pollFds_polls result
  · rw [ended]; rfl
  · rw [ended]; rfl
  · rw [looped, loopEnd_state, polled_acc]

theorem pollFds_sameBuffer (s : PollState σ F) (result : PollResult) :
    s.SameBuffer (s.pollFds result).state := by
  obtain ⟨t, same, again | done | ⟨errno, done⟩⟩ := s.pollFds_cases result
  · rw [again]; exact same
  · rw [done]; exact same
  · rw [done]; exact same

/-- The invariant rule of a call, for `readEvents` calls that are all `good`. -/
theorem pollEvents_rule (inv : PollState σ F → Prop) (good : ReadCall F → Prop)
    (read : ∀ s fd, inv s → (∀ call ∈ s.readCall base fd, good call) → inv (s.readSensors base fd))
    (poll : ∀ s t : PollState σ F, s.SameBuffer t → t.ctx.acc = s.ctx.acc → inv s → inv t)
    (s : PollState σ F) (rounds : List Round) (start : inv s)
    (made : ∀ call ∈ s.readCalls base rounds, good call) :
    (∀ half ∈ s.halves base rounds, inv half) ∧ inv (s.pollEvents base rounds).state := by
  induction rounds generalizing s with
  | nil => exact ⟨fun half member => absurd member List.not_mem_nil, start⟩
  | cons r rest ih =>
    have half := read s r.read start fun call member => made call (List.mem_append_left _ member)
    have whole : inv (s.round base r).state :=
      poll _ _ (pollFds_sameBuffer _ r.poll) (pollFds_acc _ r.poll) half
    rw [readCalls] at made
    rw [halves, pollEvents, List.forall_mem_cons]
    cases ended : s.round base r with
    | again next =>
      rw [ended] at whole made
      obtain ⟨later, last⟩ := ih next whole fun call member =>
        made call (List.mem_append_right _ member)
      exact ⟨⟨half, later⟩, last⟩
    | returned last value =>
      rw [ended] at whole
      exact ⟨⟨half, fun other member => absurd member List.not_mem_nil⟩, whole⟩

theorem pollEvents_invariant (inv : σ → Prop)
    (kept : ∀ acc count fd, inv acc → inv (base.readEvents acc count fd).1) (s : PollState σ F)
    (rounds : List Round) (start : inv s.ctx.acc) : inv (s.pollEvents base rounds).state.ctx.acc := by
  apply (s.pollEvents_rule base (fun s => inv s.ctx.acc) (fun _ => True) _ _ rounds start
    fun _ _ => trivial).2
  · intro s fd held _
    unfold readSensors
    split
    · exact kept _ _ _ held
    · exact held
  · intro s t _ same held
    exact same ▸ held

theorem readSensors_slots (s : PollState σ F) (fd : SysRead InputEvent) :
    s.slots <+: (s.readSensors base fd).slots := by
  unfold readSensors
  split
  · exact List.prefix_append _ _
  · exact List.prefix_refl _

end PollState
end KanasSensors
