import KanasSensors.Accelerometer.Stream

/-! The order of delivered timestamps.

Every data event is stamped with the time of the input event that makes the loop store
it, whichever sensor's pending event it is. The order of the input stream is therefore
the order of the stamps, once `timevalToNano` is known to be exact on normalised times.
-/

set_option autoImplicit false

namespace KanasSensors

open Foundation

namespace Timeval

structure Normalised (t : Timeval) : Prop where
  sec : 0 ≤ t.tvSec.toInt
  usec : 0 ≤ t.tvUsec.toInt
  usec_lt : t.tvUsec.toInt < 1000000

def NotAfter (t u : Timeval) : Prop :=
  t.tvSec.toInt < u.tvSec.toInt ∨
    (t.tvSec.toInt = u.tvSec.toInt ∧ t.tvUsec.toInt ≤ u.tvUsec.toInt)

instance (t : Timeval) : Decidable t.Normalised :=
  decidable_of_iff (0 ≤ t.tvSec.toInt ∧ 0 ≤ t.tvUsec.toInt ∧ t.tvUsec.toInt < 1000000)
    ⟨fun ⟨sec, usec, usec_lt⟩ => ⟨sec, usec, usec_lt⟩, fun ⟨sec, usec, usec_lt⟩ => ⟨sec, usec, usec_lt⟩⟩

instance (t u : Timeval) : Decidable (t.NotAfter u) := inferInstanceAs (Decidable (_ ∨ _))

/-- `timevalToNano` computes on `t` what it computes on the integers: neither the
32-bit product nor the 64-bit sum overflows. -/
structure Exact (t : Timeval) : Prop where
  product : (t.tvUsec * 1000#32).toInt = t.tvUsec.toInt * 1000
  sum : (timevalToNano t).toInt = t.tvSec.toInt * 1000000000 + t.tvUsec.toInt * 1000

theorem Normalised.exact {t : Timeval} (normalised : t.Normalised) : t.Exact := by
  obtain ⟨sec, usec, usec_lt⟩ := normalised
  have sec_lt : t.tvSec.toInt < 2147483648 := BitVec.toInt_lt
  have thousand : (1000#32).toInt = 1000 := by decide
  have billion : (1000000000#64).toInt = 1000000000 := by decide
  have product : (t.tvUsec * 1000#32).toInt = t.tvUsec.toInt * 1000 := by
    rw [BitVec.toInt_mul, thousand]
    apply Int.bmod_eq_of_le <;> omega
  have seconds : (t.tvSec.signExtend 64 * 1000000000#64).toInt = t.tvSec.toInt * 1000000000 := by
    rw [BitVec.toInt_mul, BitVec.toInt_signExtend_of_le (by decide), billion]
    apply Int.bmod_eq_of_le <;> omega
  refine ⟨product, ?_⟩
  rw [timevalToNano, BitVec.toInt_add, seconds, BitVec.toInt_signExtend_of_le (by decide), product]
  apply Int.bmod_eq_of_le <;> omega

theorem Normalised.nano_le {t u : Timeval} (first : t.Normalised) (second : u.Normalised)
    (order : t.NotAfter u) : (timevalToNano t).toInt ≤ (timevalToNano u).toInt := by
  rw [first.exact.sum, second.exact.sum]
  have bound := first.usec_lt
  have nonneg := second.usec
  rcases order with earlier | ⟨same, within⟩
  · omega
  · omega

end Timeval

variable {F : Type}

def SensorsEvent.stamp : SensorsEvent F → Option (BitVec 64)
  | .data event => some event.timestamp
  | .metaData _ => none

def Moment.stamps (moment : Moment F) : List (BitVec 64) := moment.stored.filterMap SensorsEvent.stamp

def Moment.Stamped (moment : Moment F) : Prop :=
  ∀ stamp ∈ moment.stamps, ∃ event, moment.event = some event ∧ stamp = timevalToNano event.time

namespace Accelerometer

theorem acknowledge_stamps (a : Accelerometer F) (sensor : Sensor) (time : Timeval) :
    ∀ stamp ∈ (a.acknowledge sensor time).2.filterMap SensorsEvent.stamp,
      stamp = timevalToNano time := by
  intro stamp member
  unfold acknowledge at member
  split at member
  · exact List.mem_singleton.mp member
  · cases member

variable [FloatArith F]

theorem consume_stamps (a : Accelerometer F) (event : InputEvent) :
    ∀ stamp ∈ (a.consume event).2.filterMap SensorsEvent.stamp,
      stamp = timevalToNano event.time := by
  intro stamp member
  obtain ⟨-, -, same⟩ | ⟨-, -, axis, same⟩ | ⟨-, same⟩ | ⟨-, -, same⟩ := a.consume_cases event
  · rw [same] at member
    cases member
  · rw [same] at member
    cases member
  · rw [same] at member
    exact List.mem_singleton.mp member
  · rw [same, List.filterMap_append] at member
    rcases List.mem_append.mp member with main | linear
    · exact acknowledge_stamps _ _ _ stamp main
    · exact acknowledge_stamps _ _ _ stamp linear

theorem takes_stamped (a : Accelerometer F) (events : List InputEvent) :
    ∀ moment ∈ a.takes events, moment.Stamped := by
  induction events generalizing a with
  | nil => exact fun moment member => absurd member List.not_mem_nil
  | cons event rest ih =>
    rw [takes_cons, List.forall_mem_cons]
    constructor
    · exact fun stamp member => ⟨event, rfl, a.consume_stamps event stamp member⟩
    · exact ih (a.consume event).1

theorem moments_stamped (a : Accelerometer F) (call : Call) :
    ∀ moment ∈ a.moments call, moment.Stamped := by
  obtain ⟨handle, enabled, outcome, rfl⟩ | ⟨events, passes⟩ := a.answer_cases call
  · intro moment member stamp stamped
    rw [List.mem_singleton.mp member] at stamped
    cases stamped
  · rw [passes.moments]
    exact a.takes_stamped events

theorem history_stamped (a : Accelerometer F) (calls : List Call) :
    ∀ moment ∈ a.history calls, moment.Stamped := by
  intro moment member
  obtain ⟨t, -, inside⟩ := List.mem_flatMap.mp member
  exact moments_stamped t.source t.input moment inside

theorem handedOut_stamps (a : Accelerometer F) (calls : List Call) :
    (a.handedOut calls).filterMap SensorsEvent.stamp = (a.history calls).flatMap Moment.stamps := by
  have stamps : ∀ events : List (SensorsEvent F), events.filterMap SensorsEvent.stamp =
      (events.filterMap SensorsEvent.dataEvent).map (·.timestamp) := by
    intro events
    rw [List.map_filterMap]
    congr 1
    funext stored
    cases stored <;> rfl
  unfold Moment.stamps
  simp only [stamps]
  rw [handedOut_data, List.map_flatMap]

/-- Delivered timestamps never go backwards: in any run over a stream of normalised
times that do not decrease, the data events handed out bear stamps that do not decrease,
and `timevalToNano` is exact on every time of the stream. -/
theorem timestamps_ordered (a : Accelerometer F) (calls : List Call)
    (normalised : ∀ event ∈ a.mInputReader.unread ++ a.arrived calls, event.time.Normalised)
    (ordered : (a.mInputReader.unread ++ a.arrived calls).Pairwise
      fun event later => event.time.NotAfter later.time) :
    ((a.handedOut calls).filterMap SensorsEvent.stamp).Pairwise
        (fun stamp later => stamp.toInt ≤ later.toInt) ∧
      ∀ event ∈ a.mInputReader.unread ++ a.arrived calls, event.time.Exact := by
  refine ⟨?_, fun event member => (normalised event member).exact⟩
  rw [run_stream] at normalised ordered
  have taken := (List.pairwise_filterMap.mp (List.pairwise_append.mp ordered).1)
  have stamped := a.history_stamped calls
  have inside : ∀ moment ∈ a.history calls, ∀ event, moment.event = some event →
      event.time.Normalised := fun moment member event took =>
    normalised event (List.mem_append_left _ (List.mem_filterMap.mpr ⟨moment, member, took⟩))
  rw [handedOut_stamps, List.pairwise_flatMap]
  constructor
  · -- the stamps of one moment are all the same
    intro moment member
    apply List.pairwise_of_forall_mem_list
    intro stamp first later second
    obtain ⟨event, took, rfl⟩ := stamped moment member stamp first
    obtain ⟨other, took', rfl⟩ := stamped moment member later second
    rw [took, Option.some.injEq] at took'
    exact took' ▸ Int.le_refl _
  · apply List.Pairwise.imp_of_mem _ taken
    intro moment next member member' order stamp first later second
    obtain ⟨event, took, rfl⟩ := stamped moment member stamp first
    obtain ⟨other, took', rfl⟩ := stamped next member' later second
    exact (inside moment member event took).nano_le (inside next member' other took')
      (order event took other took')

theorem timestamps_ordered_at_limit :
    let object : Accelerometer ℚ := { blank with mEnabled := 3 }
    let calls : List Call := [.readEvents 4 (.ofQueue
      [⟨⟨5, 999999⟩, evSyn, 0, 0⟩, ⟨⟨2147483647, 999999⟩, evSyn, 0, 0⟩] 2)]
    ((object.handedOut calls).filterMap SensorsEvent.stamp).Pairwise
        (fun stamp later => stamp.toInt ≤ later.toInt) ∧
      ∀ event ∈ object.mInputReader.unread ++ object.arrived calls, event.time.Exact :=
  timestamps_ordered { blank with mEnabled := 3 } _ (by decide +kernel) (by decide +kernel)

end Accelerometer
end KanasSensors
