import KanasSensors.Accelerometer.Reading

/-! When `readEvents` stays inside the caller's array.

The loop tests `count` once for each input event, and an `EV_SYN` may take two slots.
The array overflows when it is entered with one slot left, or when the pending
flushes alone need more slots than there are.
-/

set_option autoImplicit false

namespace KanasSensors

open Foundation

theorem demand_le (mEnabled : BitVec 32) (event : InputEvent) : demand mEnabled event ≤ 2 := by
  unfold demand
  have first := Bool.toNat_le (BitMask.test mEnabled Sensor.main.index)
  have second := Bool.toNat_le (BitMask.test mEnabled Sensor.linearAcceleration.index)
  split_ifs <;> omega

theorem demand_eq_two (mEnabled : BitVec 32) (event : InputEvent) :
    demand mEnabled event = 2 ↔ event.type = evSyn ∧ bothEnabled mEnabled = true := by
  unfold demand bothEnabled
  by_cases gesture : isGesture event
  · have notSyn : event.type ≠ evSyn := by rw [gesture.1]; decide
    simp [gesture, notSyn]
  · by_cases syn : event.type = evSyn
    · rw [if_neg gesture, if_pos syn]
      cases BitMask.test mEnabled Sensor.main.index <;>
        cases BitMask.test mEnabled Sensor.linearAcceleration.index <;> simp [syn]
    · simp [gesture, syn]

/-- No `EV_SYN` that needs two slots is met with one slot left. -/
def NoTightPair (mEnabled : BitVec 32) (room : Int) (queue : List InputEvent) : Prop :=
  ∀ i event, queue[i]? = some event → demand mEnabled event = 2 →
    (demands mEnabled (queue.take i) : Int) + 1 ≠ room

theorem noTightPair_cons (mEnabled : BitVec 32) (room : Int) (event : InputEvent)
    (rest : List InputEvent) : NoTightPair mEnabled room (event :: rest) ↔
      (demand mEnabled event = 2 → room ≠ 1) ∧
        NoTightPair mEnabled (room - demand mEnabled event) rest := by
  have later : ∀ i, (demands mEnabled ((event :: rest).take (i + 1)) : Int) + 1 ≠ room ↔
      (demands mEnabled (rest.take i) : Int) + 1 ≠ room - demand mEnabled event := by
    intro i
    rw [List.take_succ_cons, demands_cons]
    omega
  unfold NoTightPair
  rw [← Nat.and_forall_add_one]
  simp only [List.getElem?_cons_succ, later]
  refine and_congr ?_ Iff.rfl
  simp [eq_comm]

theorem demands_reach_le_iff (mEnabled : BitVec 32) (room : Int) (queue : List InputEvent)
    (some_room : 0 ≤ room) :
    (demands mEnabled (queue.take (reach mEnabled room queue)) : Int) ≤ room ↔
      NoTightPair mEnabled room queue := by
  induction queue generalizing room with
  | nil => simp [some_room, NoTightPair]
  | cons event rest ih =>
    have most := demand_le mEnabled event
    by_cases full : room = 0
    · rw [reach, if_pos full]
      simp only [List.take_zero, demands_nil, full]
      constructor
      · intro _ i other _ _
        omega
      · intro _
        exact Int.le_refl 0
    · rw [reach, if_neg full, List.take_succ_cons, demands_cons, noTightPair_cons]
      by_cases fits : (demand mEnabled event : Int) ≤ room
      · rw [← ih (room - demand mEnabled event) (by omega)]
        omega
      · -- an event that does not fit is a pair met with one slot left
        have tight : demand mEnabled event = 2 ∧ room = 1 := by omega
        constructor
        · intro within
          omega
        · intro apart
          exact absurd tight.2 (apart.1 tight.1)

namespace Accelerometer

variable {F : Type}

/-- The pending flushes fit, and no `EV_SYN` of the queue that both sensors answer
comes when the events before it have left exactly one slot. -/
def RoomFor (a : Accelerometer F) (count : Int) (data_fd : SysRead InputEvent) : Prop :=
  ((BitMask.positions a.mFlushed).length : Int) ≤ count ∧
  (bothEnabled a.mEnabled = true → ∀ i event, (a.queue data_fd)[i]? = some event →
    event.type = evSyn →
    ((BitMask.positions a.mFlushed).length : Int) +
      demands a.mEnabled ((a.queue data_fd).take i) + 1 ≠ count)

theorem passed_fits_iff (a : Accelerometer F) (count : Int) (data_fd : SysRead InputEvent) :
    ((BitMask.positions a.mFlushed).length : Int) + demands a.mEnabled (a.passed count data_fd) ≤ count ↔
      a.RoomFor count data_fd := by
  by_cases flushes : ((BitMask.positions a.mFlushed).length : Int) ≤ count
  · have loop := demands_reach_le_iff a.mEnabled (a.room count) (a.queue data_fd)
      (by simp only [room]; omega)
    simp only [NoTightPair, demand_eq_two, room] at loop
    constructor
    · intro within
      refine ⟨flushes, fun both i event position syn => ?_⟩
      have apart := loop.mp (by simp only [passed, room] at within; omega) i event position ⟨syn, both⟩
      omega
    · rintro ⟨-, apart⟩
      have within := loop.mpr (by
        rintro i event position ⟨syn, both⟩
        have far := apart both i event position syn
        omega)
      simp only [passed, room]
      omega
  · constructor
    · intro within
      omega
    · rintro ⟨within, -⟩
      omega

variable [FloatArith F]

/-- `readEvents` stores and returns at most `count` exactly when the read fails, so
that nothing is stored, or the events it finds leave room in the sense of `RoomFor`. -/
theorem readEvents_within_count_iff (a : Accelerometer F) (count : Int)
    (data_fd : SysRead InputEvent) (positive : 1 ≤ count) :
    (((a.readEvents count data_fd).2.stored.length : Int) ≤ count ∧
      (a.readEvents count data_fd).2.value ≤ count) ↔
    (a.mInputReader.ReadFails data_fd ∨ a.RoomFor count data_fd) := by
  by_cases failed : a.mInputReader.ReadFails data_fd
  · have negative := (a.mInputReader.fill_negative_iff data_fd).mpr failed
    rw [readEvents_failed positive failed]
    simp only [List.length_nil]
    exact ⟨fun _ => .inl failed, fun _ => by omega⟩
  · obtain ⟨ring, -, result⟩ := readEvents_ok ⟨positive, failed⟩
    rw [result]
    simp only [List.length_append, FlushState.completions_length, emitted_length, and_self]
    rw [← a.passed_fits_iff count data_fd]
    exact ⟨fun within => .inr (by omega), fun either => by
      rcases either with impossible | within
      · exact absurd impossible failed
      · omega⟩

def oneSyn : SysRead InputEvent := .ofQueue [⟨⟨0, 0⟩, evSyn, 0, 0⟩] 1

theorem readEvents_overruns : ¬∀ (a : Accelerometer ℚ) (count : Int) (data_fd : SysRead InputEvent),
    1 ≤ count → ((a.readEvents count data_fd).2.stored.length : Int) ≤ count ∧
      (a.readEvents count data_fd).2.value ≤ count := by
  intro always
  have overrun := always { blank with mEnabled := 3 } 1 oneSyn (by decide)
  revert overrun
  decide +kernel

theorem readEvents_two_slots :
    (({ blank with mEnabled := 3 }.readEvents 2 oneSyn).2.stored.length : Int) ≤ 2 ∧
      ({ blank with mEnabled := 3 }.readEvents 2 oneSyn).2.value ≤ 2 := by
  refine (readEvents_within_count_iff { blank with mEnabled := 3 } 2 oneSyn (by decide)).mpr
    (.inr ⟨by decide +kernel, fun _ i event position _ => ?_⟩)
  cases i with
  | zero => decide +kernel
  | succ i =>
    have single : queue { blank with mEnabled := 3 } oneSyn = [⟨⟨0, 0⟩, evSyn, 0, 0⟩] := rfl
    rw [single] at position
    simp at position

end Accelerometer
end KanasSensors
