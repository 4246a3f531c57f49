import KanasSensors.Accelerometer.Reading

/-! The flush loop, for a mask of any content.

The loop states no bound for `sensorId`. What bounds it is that the bits it has passed are
clear: a mask that is not yet zero has a set bit at `sensorId` or above, and there is none
past the end of the word.
-/

set_option autoImplicit false

namespace KanasSensors

open Foundation

variable {F : Type}

namespace FlushState

def Passed (s : FlushState F) : Prop := ∀ i < s.sensorId, BitMask.test s.acc.mFlushed i = false

theorem passed_start (s : ReadState F) : Passed ⟨s, 0⟩ := by
  intro i none_below
  exact absurd none_below (Nat.not_lt_zero i)

theorem flushStep_some {s next : FlushState F} (taken : s.flushStep = some next) :
    s.acc.mFlushed ≠ 0 ∧ next.sensorId = s.sensorId + 1 ∧
      ∀ i, BitMask.test next.acc.mFlushed i =
        (BitMask.test s.acc.mFlushed i && !decide (i = s.sensorId)) := by
  unfold flushStep at taken
  split at taken
  · cases taken
  · next pending =>
    split at taken
    · cases taken
      exact ⟨pending, rfl, BitMask.test_clear s.acc.mFlushed s.sensorId⟩
    · next absent =>
      cases taken
      refine ⟨pending, rfl, fun i => ?_⟩
      by_cases here : i = s.sensorId
      · rw [here, eq_false_of_ne_true absent, Bool.false_and]
      · rw [decide_eq_false here, Bool.not_false, Bool.and_true]

theorem Passed.flushStep {s next : FlushState F} (passed : s.Passed) (taken : s.flushStep = some next) :
    next.Passed := by
  obtain ⟨-, position, bits⟩ := flushStep_some taken
  intro i below
  rw [bits i]
  by_cases here : i = s.sensorId
  · rw [decide_eq_true here, Bool.not_true, Bool.and_false]
  · rw [passed i (by omega), Bool.false_and]

theorem Passed.sensorId_lt {s next : FlushState F} (passed : s.Passed)
    (taken : s.flushStep = some next) : s.sensorId < 32 := by
  by_contra past
  have pending := (flushStep_some taken).1
  exact pending (mask_eq_zero fun i inside => passed i (by omega))

def metaEvents (mFlushed : BitVec 32) : List MetaEvent :=
  (BitMask.positions mFlushed).map fun i : Nat => ⟨.metaData, .metaData, i, 0⟩

theorem completions_eq (mFlushed : BitVec 32) :
    (completions mFlushed : List (SensorsEvent F)) = (metaEvents mFlushed).map .metaData := by
  rw [completions, metaEvents, List.map_map]
  rfl

theorem visited_sensorId (fuel : Nat) (s : FlushState F) (passed : s.Passed) :
    ∀ t ∈ Loop.visited flushStep fuel s, t.sensorId < 32 := by
  intro t member
  obtain ⟨there, next, taken⟩ :=
    Loop.visited_holds (fun _ _ held step => Passed.flushStep held step) fuel s passed t member
  exact there.sensorId_lt taken

theorem visited_rounds (fuel : Nat) (s : FlushState F) (passed : s.Passed) :
    (Loop.visited flushStep fuel s).length ≤ 32 - s.sensorId := by
  apply Loop.visited_length_le (fun _ _ held step => Passed.flushStep held step)
    (fun t => 32 - t.sensorId) _ fuel s passed
  intro t next held taken
  have inside := Passed.sensorId_lt held taken
  have position := (flushStep_some taken).2.1
  omega

/-- The flush loop of `readEvents`, for every content of `mFlushed`: however long it is
given, it makes no more than 32 rounds and shifts by less than 32 in each; it ends, with
`mFlushed` zero; and it stores `META_DATA` events, one with the number of each bit that was
set, by strictly increasing number. -/
theorem flush_drains (s : ReadState F) :
    (∀ fuel, (Loop.visited flushStep fuel ⟨s, 0⟩).length ≤ 32 ∧
      ∀ t ∈ Loop.visited flushStep fuel ⟨s, 0⟩, t.sensorId < 32) ∧
    flushStep (Loop.run flushStep 32 ⟨s, 0⟩) = none ∧
    (Loop.run flushStep 32 ⟨s, 0⟩).acc.mFlushed = 0 ∧
    ∃ events : List MetaEvent,
      (Loop.run flushStep 32 ⟨s, 0⟩).stored = s.stored ++ events.map .metaData ∧
      (∀ event ∈ events, event.version = .metaData ∧ event.type = .metaData ∧ event.what = 0) ∧
      (events.map MetaEvent.sensor).Pairwise (· < ·) ∧
      ∀ sensor : Int, sensor ∈ events.map MetaEvent.sensor ↔
        ∃ i : Nat, sensor = i ∧ BitMask.test s.acc.mFlushed i = true := by
  have whole := flush_loop s
  have numbers : (metaEvents s.acc.mFlushed).map MetaEvent.sensor =
      (BitMask.positions s.acc.mFlushed).map Int.ofNat := List.map_map
  refine ⟨fun fuel => ⟨?_, ?_⟩, flush_stops s, ?_, metaEvents s.acc.mFlushed, ?_, ?_, ?_, ?_⟩
  · exact visited_rounds fuel ⟨s, 0⟩ (passed_start s)
  · exact visited_sensorId fuel ⟨s, 0⟩ (passed_start s)
  · exact congrArg (·.acc.mFlushed) whole
  · rw [← completions_eq]
    exact congrArg ReadState.stored whole
  · intro event member
    obtain ⟨i, -, rfl⟩ := List.mem_map.mp member
    exact ⟨rfl, rfl, rfl⟩
  · rw [numbers, List.pairwise_map]
    exact (BitMask.positions_increasing s.acc.mFlushed).imp Int.ofNat_lt.mpr
  · intro sensor
    rw [numbers, List.mem_map]
    constructor
    · rintro ⟨i, member, rfl⟩
      exact ⟨i, rfl, (BitMask.mem_positions _ i).mp member⟩
    · rintro ⟨i, rfl, pending⟩
      exact ⟨i, (BitMask.mem_positions _ i).mpr pending, rfl⟩

end FlushState
end KanasSensors
