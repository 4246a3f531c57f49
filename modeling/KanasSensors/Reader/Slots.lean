import KanasSensors.Reader.Fifo

/-! Where `fill` writes, against the slots whose events are still to be consumed.

A fill writes in two places: `read` stores from the head on, as far as there is free
space, and what came to lie past slot `N` is copied back to the start of the buffer.
-/

set_option autoImplicit false

namespace KanasSensors

open Foundation.Circular

variable {α : Type}

namespace InputEventCircularReader

def target (r : InputEventCircularReader α) : Set Nat := Set.Ico r.mHead (r.mHead + r.mFreeSpace)

def overrun (r : InputEventCircularReader α) (batch : List α) : Nat :=
  r.mHead + batch.length - r.mBufferEnd

def copySource (r : InputEventCircularReader α) (batch : List α) : Set Nat :=
  Set.Ico r.mBufferEnd (r.mBufferEnd + r.overrun batch)

def copyTarget (r : InputEventCircularReader α) (batch : List α) : Set Nat :=
  Set.Ico 0 (r.overrun batch)

theorem fill_outside (r : InputEventCircularReader α) (fd : SysRead α) {slot : Nat}
    (ahead : slot ∉ r.target)
    (back : ∀ batch, fd.answer r.mFreeSpace = .records batch → slot ∉ r.copyTarget batch) :
    (r.fill fd).1.mBuffer slot = r.mBuffer slot := by
  have within : ∀ k ≤ r.mFreeSpace, slot ∉ Set.Ico r.mHead (r.mHead + k) := by
    intro k fits inside
    exact ahead ⟨inside.1, Nat.lt_of_lt_of_le inside.2 (Nat.add_le_add_left fits _)⟩
  obtain ⟨-, same, -⟩ | ⟨-, -, value, -, -, same⟩ | ⟨-, batch, answer, -, fits, -, same⟩ :=
    r.fill_cases fd
  · rw [same]
  · rw [same]
    exact write_outside r.mBuffer r.mHead _ (within _ (fd.fits r.mFreeSpace))
  · rw [same]
    exact lay_outside r.mBuffer r.mBufferEnd r.mHead batch (within _ fits) (back batch answer)

variable {r : InputEventCircularReader α}

theorem Sound.target_inside (sound : r.Sound) : r.target ⊆ Set.Iio (2 * r.mBufferEnd) := by
  intro slot inside
  have head := sound.head.1
  have free := sound.free_le
  have below : slot < r.mHead + r.mFreeSpace := inside.2
  change slot < 2 * r.mBufferEnd
  omega

theorem Sound.copyTarget_inside (sound : r.Sound) {batch : List α} (fits : batch.length ≤ r.mFreeSpace) :
    r.copyTarget batch ⊆ Set.Iio r.mBufferEnd := by
  intro slot inside
  have head := sound.head.1
  have free := sound.free_le
  have below : slot < r.mHead + batch.length - r.mBufferEnd := inside.2
  change slot < r.mBufferEnd
  omega

theorem Sound.copySource_target (sound : r.Sound) {batch : List α} (fits : batch.length ≤ r.mFreeSpace) :
    r.copySource batch ⊆ r.target := by
  rintro slot ⟨from_end, to_end⟩
  have head := sound.head.1
  unfold overrun at to_end
  constructor <;> omega

theorem Sound.copy_disjoint (sound : r.Sound) {batch : List α} (fits : batch.length ≤ r.mFreeSpace) :
    Disjoint (r.copyTarget batch) (r.copySource batch) := by
  apply Set.disjoint_left.mpr
  intro slot inside source
  exact absurd (sound.copyTarget_inside fits inside) (Nat.not_lt.mpr source.1)

theorem Sound.target_free (sound : r.Sound) :
    Disjoint r.target (occupied r.mBufferEnd r.mCurr r.held) :=
  sound.head.ahead_free sound.curr_lt (Nat.le_of_eq sound.held_le)

theorem Sound.copyTarget_free (sound : r.Sound) {batch : List α} (fits : batch.length ≤ r.mFreeSpace) :
    Disjoint (r.copyTarget batch) (occupied r.mBufferEnd r.mCurr r.held) := by
  have total := sound.held_le
  exact sound.head.back_free (by omega)

end InputEventCircularReader

namespace Session

def pending (s : Session α) : List α := s.filled.drop s.consumed.length

def pendingSlots (s : Session α) : Set Nat :=
  occupied s.reader.mBufferEnd s.reader.mCurr s.pending.length

variable {numEvents : Nat} {s : Session α}

theorem Lossless.pending_eq (lossless : s.Lossless numEvents) : s.pending = s.reader.unread := by
  rw [pending, lossless.balance, List.drop_left]

theorem Lossless.pendingSlots_eq (lossless : s.Lossless numEvents) :
    s.pendingSlots = occupied s.reader.mBufferEnd s.reader.mCurr s.reader.held := by
  rw [pendingSlots, lossless.pending_eq, InputEventCircularReader.unread_length]

structure WritesFree (numEvents : Nat) (s : Session α) : Prop where
  target_inside : s.reader.target ⊆ Set.Iio (2 * numEvents)
  target_free : Disjoint s.reader.target s.pendingSlots
  copied : ∀ (fd : SysRead α) (batch : List α), fd.answer s.reader.mFreeSpace = .records batch →
    s.reader.copyTarget batch ⊆ Set.Iio numEvents ∧
    s.reader.copySource batch ⊆ s.reader.target ∧
    Disjoint (s.reader.copyTarget batch) (s.reader.copySource batch) ∧
    Disjoint (s.reader.copyTarget batch) s.pendingSlots
  nowhere_else : ∀ (fd : SysRead α) (slot : Nat),
    (s.reader.fill fd).1.mBuffer slot ≠ s.reader.mBuffer slot → slot ∈ s.reader.target ∨
      ∃ batch, fd.answer s.reader.mFreeSpace = .records batch ∧ slot ∈ s.reader.copyTarget batch

theorem Lossless.writesFree (lossless : s.Lossless numEvents) : s.WritesFree numEvents := by
  have sound := lossless.sound
  refine ⟨?_, ?_, ?_, ?_⟩
  · exact lossless.size ▸ sound.target_inside
  · rw [lossless.pendingSlots_eq]
    exact sound.target_free
  · intro fd batch answer
    have fits : batch.length ≤ s.reader.mFreeSpace := by
      have stored := fd.fits s.reader.mFreeSpace
      rwa [answer] at stored
    refine ⟨?_, sound.copySource_target fits, sound.copy_disjoint fits, ?_⟩
    · exact lossless.size ▸ sound.copyTarget_inside fits
    · rw [lossless.pendingSlots_eq]
      exact sound.copyTarget_free fits
  · intro fd slot changed
    by_contra outside
    rw [not_or, not_exists] at outside
    apply changed
    apply s.reader.fill_outside fd outside.1
    intro batch answer back
    exact outside.2 batch ⟨answer, back⟩

theorem WritesFree.kept (free : s.WritesFree numEvents) (fd : SysRead α) {slot : Nat}
    (pending : slot ∈ s.pendingSlots) : (s.reader.fill fd).1.mBuffer slot = s.reader.mBuffer slot := by
  by_contra changed
  rcases free.nowhere_else fd slot changed with ahead | ⟨batch, answer, back⟩
  · exact Set.disjoint_left.mp free.target_free ahead pending
  · exact Set.disjoint_left.mp (free.copied fd batch answer).2.2.2 back pending

end Session

/-- In every run from a fresh reader, of any capacity: the slots handed to `read` lie in
the buffer, and the slots copied back to lie in its lower half and apart from those copied
from; none of them holds an event still to be consumed; nothing else is written. So each of
these events stays where it is under every fill. -/
theorem fill_writes_free (numEvents : Nat) (positive : 0 < numEvents) (memory : Nat → α)
    (s : Session α) (run : Relation.ReflTransGen Session.Step (Session.fresh numEvents memory) s) :
    s.WritesFree numEvents ∧
    ∀ (i : Nat) (inside : i < s.pending.length),
      s.reader.mBuffer (wrap s.reader.mBufferEnd (s.reader.mCurr + i)) = s.pending[i] ∧
      ∀ fd : SysRead α, (s.reader.fill fd).1.mBuffer
        (wrap s.reader.mBufferEnd (s.reader.mCurr + i)) = s.pending[i] := by
  have lossless := Session.run_lossless run (Session.fresh_lossless positive memory)
  have free := lossless.writesFree
  refine ⟨free, fun i inside => ?_⟩
  have shown : s.reader.mBuffer (wrap s.reader.mBufferEnd (s.reader.mCurr + i)) = s.pending[i] := by
    have same := lossless.pending_eq
    simp only [same, InputEventCircularReader.unread]
    exact (window_getElem _ _ _ _ _ _).symm
  exact ⟨shown, fun fd => (free.kept fd ⟨i, inside, rfl⟩).trans shown⟩

theorem fill_writes_free_wrapped :
    ∃ s : Session Nat, s.pending = [3, 4] ∧ s.reader.mCurr = 2 ∧ s.WritesFree 3 := by
  refine ⟨_, ?_, ?_, (fill_writes_free 3 (by decide) (fun _ => 0) _
    (.tail (.tail (.tail (.tail (.tail (.single (.fill _ (.ofQueue [1, 2, 3] 3)))
      (.readEvent _ ?_)) (.next _ 1 ?_)) (.readEvent _ ?_)) (.next _ 2 ?_))
      (.fill _ (.ofQueue [4] 1)))).1⟩
  all_goals rfl

end KanasSensors
