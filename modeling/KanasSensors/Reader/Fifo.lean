import KanasSensors.Reader.Ring
import Mathlib.Logic.Relation

/-! The reader as its client sees it: any order of `fill`, `readEvent` and `next`
that calls `next` only on an event `readEvent` has just shown.

The session keeps three records the code does not: the event shown and not yet
consumed, every event consumed so far, and every event a `fill` reported as read.
-/

set_option autoImplicit false

namespace KanasSensors

open InputEventCircularReader

variable {α : Type}

structure Session (α : Type) where
  reader : InputEventCircularReader α
  shown : Option α
  consumed : List α
  filled : List α

namespace Session

def fresh (numEvents : Nat) (memory : Nat → α) : Session α :=
  ⟨.create numEvents memory, none, [], []⟩

/-- The events a `fill` reports: as many cells of what `read` stored as it returns. -/
def reported (r : InputEventCircularReader α) (fd : SysRead α) : List α :=
  (fd.answer r.mFreeSpace).cells.take (r.fill fd).2.toNat

inductive Step : Session α → Session α → Prop where
  | fill (s : Session α) (fd : SysRead α) :
      Step s { s with
        reader := (s.reader.fill fd).1
        filled := s.filled ++ reported s.reader fd }
  | readEvent (s : Session α) : s.reader.readEvent.2 = 1 →
      Step s { s with shown := some s.reader.readEvent.1 }
  | readNothing (s : Session α) : s.reader.readEvent.2 = 0 →
      Step s { s with shown := none }
  | next (s : Session α) (event : α) : s.shown = some event →
      Step s { s with
        reader := s.reader.next
        shown := none
        consumed := s.consumed ++ [event] }

structure Lossless (numEvents : Nat) (s : Session α) : Prop where
  sound : s.reader.Sound
  size : s.reader.mBufferEnd = numEvents
  balance : s.filled = s.consumed ++ s.reader.unread
  shown : ∀ event, s.shown = some event → s.reader.unread.head? = some event

theorem reported_eq_taken {r : InputEventCircularReader α} (fd : SysRead α) :
    reported r fd = r.taken fd := by
  unfold reported
  obtain ⟨-, same, taken⟩ | ⟨-, taken, value, negative, -, same⟩ |
    ⟨-, batch, answer, -, -, taken, same⟩ := r.fill_cases fd
  · rw [same, taken]; rfl
  · rw [same, taken, Int.toNat_of_nonpos negative, List.take_zero]
  · rw [same, taken, answer]
    exact List.take_of_length_le (Nat.le_refl _)

theorem fresh_lossless {numEvents : Nat} (positive : 0 < numEvents) (memory : Nat → α) :
    (fresh numEvents memory).Lossless numEvents where
  sound := create_sound numEvents memory positive
  size := rfl
  balance := by simp [fresh]
  shown := by intro event none_shown; cases none_shown

theorem held_of_head {r : InputEventCircularReader α} {event : α}
    (head : r.unread.head? = some event) : 0 < r.held := by
  rw [← r.unread_length]
  apply List.length_pos_iff.mpr
  intro empty
  rw [empty] at head
  cases head

theorem Step.lossless {numEvents : Nat} {s t : Session α} (step : Step s t)
    (before : s.Lossless numEvents) : t.Lossless numEvents := by
  obtain ⟨sound, size, balance, shown⟩ := before
  cases step with
  | fill fd =>
    have unread := fill_unread sound fd
    refine ⟨fill_sound sound fd, (s.reader.fill_size fd).trans size, ?_, ?_⟩
    -- an event shown before the fill is still the head after it
    · simp only [reported_eq_taken, unread, balance, List.append_assoc]
    · intro event same
      have head := shown event same
      have nonempty : s.reader.unread ≠ [] := List.length_pos_iff.mp (by
        rw [unread_length]; exact held_of_head head)
      simp only [unread, List.head?_append_of_ne_nil _ nonempty, head]
  | readEvent available =>
    refine ⟨sound, size, balance, ?_⟩
    intro event same
    have nonempty : s.reader.unread ≠ [] := by
      intro empty
      rw [readEvent_value sound, if_pos empty] at available
      cases available
    have held : 0 < s.reader.held := by
      rw [← s.reader.unread_length]; exact List.length_pos_iff.mpr nonempty
    simp only at same ⊢
    rw [unread_eq_cons sound held, List.head?_cons, same]
  | readNothing _ =>
    refine ⟨sound, size, balance, ?_⟩
    intro event same
    cases same
  | next event same =>
    -- the event consumed is the one shown, hence the head of the unread events
    have head := shown event same
    have held := held_of_head head
    have split := unread_eq_cons sound held
    rw [split, List.head?_cons, Option.some.injEq] at head
    refine ⟨next_sound sound held, size, ?_, ?_⟩
    · simp only [balance, List.append_assoc, List.singleton_append]
      rw [split, head]
    · intro event' none_shown
      cases none_shown

theorem run_lossless {numEvents : Nat} {s t : Session α}
    (run : Relation.ReflTransGen Step s t) (start : s.Lossless numEvents) : t.Lossless numEvents := by
  induction run with
  | refl => exact start
  | tail _ step ih => exact step.lossless ih

end Session

/-- In every run from a fresh reader, the events consumed are the front of the events
the fills reported, the unread events are the rest, and the free space counts the
remaining cells. What a `fill` reports are the whole records of a `read` that succeeds, and
one that reports an error leaves the unread events alone. -/
theorem reader_lossless_fifo (numEvents : Nat) (positive : 0 < numEvents) (memory : Nat → α)
    (s : Session α) (run : Relation.ReflTransGen Session.Step (Session.fresh numEvents memory) s) :
    s.consumed <+: s.filled ∧
    s.filled.drop s.consumed.length = s.reader.unread ∧
    s.reader.mFreeSpace + (s.filled.length - s.consumed.length) = numEvents ∧
    ∀ fd, Session.reported s.reader fd =
        (if s.reader.mFreeSpace = 0 then [] else (fd.answer s.reader.mFreeSpace).delivered) ∧
      ((s.reader.fill fd).2 < 0 → (s.reader.fill fd).1.unread = s.reader.unread) := by
  have lossless := Session.run_lossless run (Session.fresh_lossless positive memory)
  have balance := lossless.balance
  refine ⟨⟨s.reader.unread, balance.symm⟩, ?_, ?_, ?_⟩
  · rw [balance, List.drop_left]
  · have total := lossless.sound.held_le
    rw [balance, List.length_append, unread_length, Nat.add_sub_cancel_left, Nat.add_comm, total,
      lossless.size]
  · refine fun fd => ⟨Session.reported_eq_taken fd, fun failed => ?_⟩
    have taken := taken_of_fails ((s.reader.fill_negative_iff fd).mp failed)
    rw [fill_unread lossless.sound, taken, List.append_nil]

theorem reader_lossless_fifo_wrapped :
    ∃ s : Session Nat, s.filled = [1, 2, 3] ∧ s.consumed = [1] ∧
      s.filled.drop s.consumed.length = s.reader.unread := by
  refine ⟨_, ?_, ?_, (reader_lossless_fifo 2 (by decide) (fun _ => 0) _
    (.tail (.tail (.tail (.single (.fill _ (.ofQueue [1, 2] 2))) (.readEvent _ ?_)) (.next _ 1 ?_))
      (.fill _ (.ofQueue [3] 2)))).2.1⟩
  all_goals rfl

end KanasSensors
