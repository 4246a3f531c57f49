import KanasSensors.Accelerometer.Stream
import KanasSensors.Context.Device
import KanasSensors.Foundation.Simulation

/-! The calls of the driver behind the entry points of the device.

Every entry point comes to a list of driver calls, empty where a handle is refused; those
of a `pollEvents` call are the reads of its rounds. The device holds the driver these calls
lead to, and its caller's array what they stored.
-/

set_option autoImplicit false

namespace KanasSensors

open Foundation

variable {F : Type} [FloatArith F]

namespace Accelerometer

structure Performs (a : Accelerometer F) (calls : List Call) (b : Accelerometer F)
    (stored : List (SensorsEvent F)) : Prop where
  state : driver.run a calls = b
  stored : a.handedOut calls = stored

theorem handedOut_append (a : Accelerometer F) (first rest : List Call) :
    a.handedOut (first ++ rest) = a.handedOut first ++ (driver.run a first).handedOut rest := by
  rw [handedOut, driver.trace_append, List.flatMap_append]
  rfl

theorem Performs.refl (a : Accelerometer F) : a.Performs [] a [] := ⟨rfl, rfl⟩

theorem Performs.append {a b c : Accelerometer F} {first rest : List Call}
    {stored further : List (SensorsEvent F)} (left : a.Performs first b stored)
    (right : b.Performs rest c further) : a.Performs (first ++ rest) c (stored ++ further) := by
  constructor
  · rw [driver.run_append, left.state, right.state]
  · rw [handedOut_append, left.state, left.stored, right.stored]

theorem Performs.one (a : Accelerometer F) (call : Call) :
    a.Performs [call] (a.answer call).1 (a.answer call).2.stored :=
  ⟨rfl, List.append_nil _⟩

end Accelerometer

namespace PollState

def driverCall (s : PollState (Accelerometer F) F) (fd : SysRead InputEvent) : List Call :=
  if s.wantsRead Accelerometer.base then [.readEvents s.count fd] else []

def driverCalls (s : PollState (Accelerometer F) F) : List Round → List Call
  | [] => []
  | r :: rest => s.driverCall r.read ++
    match s.round Accelerometer.base r with
    | .again next => next.driverCalls rest
    | .returned _ _ => []

theorem readSensors_performs (s : PollState (Accelerometer F) F) (fd : SysRead InputEvent) :
    ∃ stored, s.ctx.acc.Performs (s.driverCall fd) (s.readSensors Accelerometer.base fd).ctx.acc stored ∧
      (s.readSensors Accelerometer.base fd).slots.map Prod.snd = s.slots.map Prod.snd ++ stored := by
  unfold driverCall readSensors
  split
  · refine ⟨_, .one s.ctx.acc (.readEvents s.count fd), ?_⟩
    rw [List.map_append, place_events]
    rfl
  · exact ⟨[], .refl _, (List.append_nil _).symm⟩

theorem pollEvents_performs (s : PollState (Accelerometer F) F) (rounds : List Round) :
    ∃ stored, s.ctx.acc.Performs (s.driverCalls rounds)
        (s.pollEvents Accelerometer.base rounds).state.ctx.acc stored ∧
      (s.pollEvents Accelerometer.base rounds).state.slots.map Prod.snd = s.slots.map Prod.snd ++ stored := by
  induction rounds generalizing s with
  | nil => exact ⟨[], .refl _, (List.append_nil _).symm⟩
  | cons r rest ih =>
    obtain ⟨stored, performs, slots⟩ := s.readSensors_performs r.read
    have acc := (s.readSensors Accelerometer.base r.read).pollFds_acc r.poll
    have same := ((s.readSensors Accelerometer.base r.read).pollFds_sameBuffer r.poll).slots
    -- the poll half touches neither the driver nor the slots
    have whole : (s.readSensors Accelerometer.base r.read).pollFds r.poll =
        s.round Accelerometer.base r := rfl
    rw [whole] at acc same
    rw [driverCalls, pollEvents]
    cases ended : s.round Accelerometer.base r with
    | again next =>
      rw [ended, Progress.state_again] at acc same
      obtain ⟨further, later, more⟩ := ih next
      rw [acc] at later
      refine ⟨stored ++ further, performs.append later, ?_⟩
      rw [more, same, slots, List.append_assoc]
    | returned last value =>
      rw [ended, Progress.state_returned] at acc same
      refine ⟨stored, ?_, ?_⟩
      · simpa only [List.append_nil, Progress.state_returned, acc] using performs
      · simpa only [Progress.state_returned, same] using slots

end PollState

namespace SensorsPollContext

def driverCalls (c : SensorsPollContext (Accelerometer F)) : DeviceCall → List Call
  | .setDelay handle ns outcome => [.setDelay handle ns outcome]
  | .batch handle flags period_ns timeout outcome => [.batch handle flags period_ns timeout outcome]
  | .other (.activate handle enabled outcome _) => [.setEnable handle enabled outcome]
  | .other (.flush handle) => if handleToDriver handle < 0 then [] else [.flush handle]
  | .other (.pollEvents count rounds) => (PollState.start c count).driverCalls rounds

theorem after_performs (c : SensorsPollContext (Accelerometer F)) (call : DeviceCall) :
    c.acc.Performs (c.driverCalls call) (c.after call).acc (c.storedBy call) := by
  cases call with
  | setDelay handle ns outcome => exact ⟨(c.setDelay_acc handle ns outcome).symm, rfl⟩
  | batch handle flags period_ns timeout outcome =>
    exact ⟨(c.batch_acc handle flags period_ns timeout outcome).symm, rfl⟩
  | other call =>
    cases call with
    | activate handle enabled outcome wrote =>
      refine ⟨?_, rfl⟩
      obtain ⟨unknown, other⟩ | ⟨sensor, rfl, -⟩ := Accelerometer.enableFile_cases handle
      · -- an access outside `mSensors` on the one side, a refusal on the other
        have outside : c.mSensors (handleToDriver handle) = none := by
          rw [handleToDriver_unknown other]
          rfl
        simp only [after, afterCall, activate, outside, Option.map_none, Option.getD_none]
        simp only [driverCalls, Machine.run_cons, Machine.run_nil, Accelerometer.driver,
          Accelerometer.answer, Accelerometer.setEnable, unknown]
      · cases sensor <;> rfl
    | flush handle =>
      obtain ⟨-, other⟩ | ⟨sensor, rfl, -⟩ := Accelerometer.enableFile_cases handle
      · have negative : handleToDriver handle < 0 := by
          rw [handleToDriver_unknown other]
          decide
        simp only [driverCalls, after, afterCall, flush, if_pos negative]
        exact .refl c.acc
      · cases sensor <;> exact ⟨rfl, rfl⟩
    | pollEvents count rounds =>
      obtain ⟨stored, performs, slots⟩ := (PollState.start c count).pollEvents_performs rounds
      have whole : c.storedBy (.other (.pollEvents count rounds)) = stored := slots
      rw [whole]
      exact performs

end SensorsPollContext
end KanasSensors
