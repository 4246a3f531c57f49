import KanasSensors.Reader.Model

/-! The invariant of the circular reader, and the queue it stands for.

`EventRing` carries the invariant as a field. Everything above this module sees a
reader only through `unread`: `fill` appends to it, `readEvent` shows its head and
`next` drops that head.
-/

set_option autoImplicit false

namespace KanasSensors

open Foundation.Circular

namespace InputEventCircularReader

variable {α : Type}

def held (r : InputEventCircularReader α) : Nat := r.mBufferEnd - r.mFreeSpace

def unread (r : InputEventCircularReader α) : List α :=
  window r.mBuffer r.mBufferEnd r.mCurr r.held

structure Sound (r : InputEventCircularReader α) : Prop where
  curr_lt : r.mCurr < r.mBufferEnd
  free_le : r.mFreeSpace ≤ r.mBufferEnd
  head : HeadAt r.mBufferEnd r.mCurr r.held r.mHead

/-- The events a `fill` adds: none without free space, where no read is issued. -/
def taken (r : InputEventCircularReader α) (fd : SysRead α) : List α :=
  if r.mFreeSpace = 0 then [] else (fd.answer r.mFreeSpace).delivered

@[simp] theorem unread_length (r : InputEventCircularReader α) : r.unread.length = r.held := by
  simp [unread]

theorem create_sound (numEvents : Nat) (memory : Nat → α) (positive : 0 < numEvents) :
    (create numEvents memory).Sound where
  curr_lt := positive
  free_le := Nat.le_refl _
  head := by simp [HeadAt, create, held]

@[simp] theorem create_unread (numEvents : Nat) (memory : Nat → α) :
    (create numEvents memory).unread = [] := by
  simp [unread, create, held]

/-- The three things a `fill` can do: nothing, for want of free space; write into
free cells and report an error or no event; lay a batch down and move the head. -/
theorem fill_cases (r : InputEventCircularReader α) (fd : SysRead α) :
    (r.mFreeSpace = 0 ∧ r.fill fd = (r, 0) ∧ r.taken fd = []) ∨
    (0 < r.mFreeSpace ∧ r.taken fd = [] ∧ ∃ value : Int, value ≤ 0 ∧
      (value < 0 ↔ (fd.answer r.mFreeSpace).succeeded = false) ∧
      r.fill fd = ({ r with
        mBuffer := write r.mBuffer r.mHead (fd.answer r.mFreeSpace).cells }, value)) ∨
    (0 < r.mFreeSpace ∧ ∃ batch, fd.answer r.mFreeSpace = .records batch ∧ batch ≠ [] ∧
      batch.length ≤ r.mFreeSpace ∧ r.taken fd = batch ∧
      r.fill fd = ({ r with
        mBuffer := lay r.mBuffer r.mBufferEnd r.mHead batch
        mHead := if r.mBufferEnd < r.mHead + batch.length then
          r.mHead + batch.length - r.mBufferEnd else r.mHead + batch.length
        mFreeSpace := r.mFreeSpace - batch.length }, (batch.length : Int))) := by
  by_cases full : r.mFreeSpace = 0
  · exact .inl ⟨full, by simp [fill, full], by simp [taken, full]⟩
  · right
    have space : 0 < r.mFreeSpace := by omega
    have fits := fd.fits r.mFreeSpace
    cases nread : fd.answer r.mFreeSpace with
    | failed errno =>
      have positive := errno.positive
      refine .inl ⟨space, by simp [taken, full, nread, ReadResult.delivered], -errno.code,
        by omega, ?_, by simp [fill, full, nread]⟩
      simp only [ReadResult.succeeded, iff_true]
      omega
    | torn whole last =>
      exact .inl ⟨space, by simp [taken, full, nread, ReadResult.delivered], -22, by decide,
        by simp [ReadResult.succeeded], by simp [fill, full, nread, Errno.einval]⟩
    | records batch =>
      rw [nread] at fits
      by_cases none_read : batch = []
      · exact .inl ⟨space, by simp [taken, full, nread, ReadResult.delivered, none_read], 0,
          Int.le_refl 0, by simp [ReadResult.succeeded], by simp [fill, full, nread, none_read]⟩
      · have some_read : batch.length ≠ 0 := by simpa using none_read
        refine .inr ⟨space, batch, rfl, none_read, fits,
          by simp [taken, full, nread, ReadResult.delivered], ?_⟩
        by_cases past : r.mBufferEnd < r.mHead + batch.length
        · simp [fill, full, nread, some_read, past, lay, ReadResult.cells]
        · simp [fill, full, nread, some_read, past, lay, ReadResult.cells]

def ReadFails (r : InputEventCircularReader α) (fd : SysRead α) : Prop :=
  0 < r.mFreeSpace ∧ (fd.answer r.mFreeSpace).succeeded = false

theorem fill_negative_iff (r : InputEventCircularReader α) (fd : SysRead α) :
    (r.fill fd).2 < 0 ↔ r.ReadFails fd := by
  unfold ReadFails
  obtain ⟨full, same, -⟩ | ⟨space, -, value, -, failed, same⟩ | ⟨-, batch, answer, -, -, -, same⟩ :=
    r.fill_cases fd
  · simp [same, full]
  · rw [same, ← failed]
    exact ⟨fun negative => ⟨space, negative⟩, fun both => both.2⟩
  · simp [same, answer, ReadResult.succeeded]

theorem taken_of_fails {r : InputEventCircularReader α} {fd : SysRead α} (failed : r.ReadFails fd) :
    r.taken fd = [] := by
  obtain ⟨space, answer⟩ := failed
  obtain ⟨-, -, taken⟩ | ⟨-, taken, -⟩ | ⟨-, batch, records, -⟩ := r.fill_cases fd
  · exact taken
  · exact taken
  · rw [records] at answer
    cases answer

theorem fill_size (r : InputEventCircularReader α) (fd : SysRead α) :
    (r.fill fd).1.mBufferEnd = r.mBufferEnd := by
  obtain ⟨-, same, -⟩ | ⟨-, -, value, -, -, same⟩ | ⟨-, batch, -, -, -, -, same⟩ := r.fill_cases fd
  all_goals rw [same]

theorem Sound.held_le {r : InputEventCircularReader α} (sound : r.Sound) :
    r.held + r.mFreeSpace = r.mBufferEnd := by
  have bound := sound.free_le
  simp only [held]
  omega

theorem fill_sound {r : InputEventCircularReader α} (sound : r.Sound) (fd : SysRead α) :
    (r.fill fd).1.Sound := by
  have total := sound.held_le
  obtain ⟨-, same, -⟩ | ⟨-, -, value, -, -, same⟩ | ⟨-, batch, -, -, fits, -, same⟩ := r.fill_cases fd
  · rw [same]; exact sound
  · rw [same]; exact ⟨sound.curr_lt, sound.free_le, sound.head⟩
  · rw [same]
    have more : r.mBufferEnd - (r.mFreeSpace - batch.length) = r.held + batch.length := by
      simp only [held]; omega
    refine ⟨sound.curr_lt, Nat.le_trans (Nat.sub_le _ _) sound.free_le, ?_⟩
    simpa only [held, more] using sound.head.advance sound.curr_lt (by omega)

theorem fill_unread {r : InputEventCircularReader α} (sound : r.Sound) (fd : SysRead α) :
    (r.fill fd).1.unread = r.unread ++ r.taken fd := by
  have total := sound.held_le
  have cells := fd.fits r.mFreeSpace
  obtain ⟨-, same, taken⟩ | ⟨-, taken, value, -, -, same⟩ | ⟨-, batch, -, -, fits, taken, same⟩ :=
    r.fill_cases fd
  · rw [same, taken, List.append_nil]
  · rw [same, taken, List.append_nil]
    exact window_write_held r.mBuffer r.mBufferEnd r.mCurr r.held r.mHead _ sound.curr_lt
      (by omega) sound.head
  · rw [same, taken]
    have more : r.mBufferEnd - (r.mFreeSpace - batch.length) = r.held + batch.length := by
      simp only [held]; omega
    simpa only [unread, held, more] using
      window_lay r.mBuffer r.mBufferEnd r.mCurr r.held r.mHead batch sound.curr_lt (by omega) sound.head

theorem readEvent_value {r : InputEventCircularReader α} (sound : r.Sound) :
    r.readEvent.2 = if r.unread = [] then 0 else 1 := by
  have bound := sound.free_le
  have length := r.unread_length
  by_cases empty : r.unread = []
  · rw [if_pos empty]
    rw [empty, List.length_nil] at length
    simp only [held] at length
    rw [readEvent, if_neg (by omega)]
  · rw [if_neg empty]
    have positive := List.length_pos_iff.mpr empty
    rw [length] at positive
    simp only [held] at positive
    rw [readEvent, if_pos (by omega)]

theorem unread_eq_cons {r : InputEventCircularReader α} (sound : r.Sound) (some_held : 0 < r.held) :
    r.unread = r.readEvent.1 :: r.next.unread := by
  have total := sound.held_le
  have less : r.mBufferEnd - (r.mFreeSpace + 1) = r.held - 1 := by simp only [held]; omega
  have split : r.held = (r.held - 1) + 1 := by omega
  rw [unread, split, window_succ r.mBuffer r.mBufferEnd r.mCurr (r.held - 1) sound.curr_lt (by omega)]
  simp only [readEvent, unread, next, held, less]

theorem next_sound {r : InputEventCircularReader α} (sound : r.Sound) (some_held : 0 < r.held) :
    r.next.Sound := by
  have total := sound.held_le
  have head := sound.head
  have less : r.mBufferEnd - (r.mFreeSpace + 1) = r.held - 1 := by simp only [held]; omega
  have split : r.held = (r.held - 1) + 1 := by omega
  rw [split] at head
  refine ⟨?_, by simp only [next]; omega, ?_⟩
  · have inside := sound.curr_lt
    simp only [next]
    split_ifs <;> omega
  · simpa only [next, held, less] using head.take sound.curr_lt (by omega)

end InputEventCircularReader

/-- A circular reader of a given capacity whose head, cursor and free space agree. -/
structure EventRing (α : Type) (numEvents : Nat) where
  reader : InputEventCircularReader α
  size : reader.mBufferEnd = numEvents
  sound : reader.Sound

namespace EventRing

variable {α : Type} {numEvents : Nat}

def create (memory : Nat → α) (positive : 0 < numEvents) : EventRing α numEvents where
  reader := .create numEvents memory
  size := rfl
  sound := InputEventCircularReader.create_sound numEvents memory positive

def unread (ring : EventRing α numEvents) : List α := ring.reader.unread

def taken (ring : EventRing α numEvents) (fd : SysRead α) : List α := ring.reader.taken fd

def ReadFails (ring : EventRing α numEvents) (fd : SysRead α) : Prop := ring.reader.ReadFails fd

def fill (ring : EventRing α numEvents) (fd : SysRead α) : EventRing α numEvents × Int :=
  (⟨(ring.reader.fill fd).1, (ring.reader.fill_size fd).trans ring.size,
    InputEventCircularReader.fill_sound ring.sound fd⟩, (ring.reader.fill fd).2)

def readEvent (ring : EventRing α numEvents) : α × Int := ring.reader.readEvent

theorem readEvent_value (ring : EventRing α numEvents) :
    ring.readEvent.2 = if ring.unread = [] then 0 else 1 :=
  InputEventCircularReader.readEvent_value ring.sound

theorem held_of_readEvent (ring : EventRing α numEvents) (available : ring.readEvent.2 ≠ 0) :
    0 < ring.reader.held := by
  rw [readEvent_value] at available
  have nonempty : ring.unread ≠ [] := by
    intro empty
    exact available (if_pos empty)
  rw [← ring.reader.unread_length]
  exact List.length_pos_iff.mpr nonempty

/-- `next`, which the library calls only after `readEvent` returned 1. -/
def next (ring : EventRing α numEvents) (available : ring.readEvent.2 ≠ 0) : EventRing α numEvents where
  reader := ring.reader.next
  size := ring.size
  sound := InputEventCircularReader.next_sound ring.sound (ring.held_of_readEvent available)

@[simp] theorem create_unread (memory : Nat → α) (positive : 0 < numEvents) :
    (create memory positive).unread = [] :=
  InputEventCircularReader.create_unread numEvents memory

@[simp] theorem fill_unread (ring : EventRing α numEvents) (fd : SysRead α) :
    (ring.fill fd).1.unread = ring.unread ++ ring.taken fd :=
  InputEventCircularReader.fill_unread ring.sound fd

theorem fill_negative_iff (ring : EventRing α numEvents) (fd : SysRead α) :
    (ring.fill fd).2 < 0 ↔ ring.ReadFails fd :=
  ring.reader.fill_negative_iff fd

theorem taken_of_fails {ring : EventRing α numEvents} {fd : SysRead α} (failed : ring.ReadFails fd) :
    ring.taken fd = [] :=
  InputEventCircularReader.taken_of_fails failed

theorem unread_eq_cons (ring : EventRing α numEvents) (available : ring.readEvent.2 ≠ 0) :
    ring.unread = ring.readEvent.1 :: (ring.next available).unread :=
  InputEventCircularReader.unread_eq_cons ring.sound (ring.held_of_readEvent available)

end EventRing
end KanasSensors
