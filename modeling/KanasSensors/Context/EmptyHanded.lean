import Mathlib.Algebra.Order.BigOperators.Group.List
import Mathlib.Algebra.Order.Ring.Int
import KanasSensors.Context.Rounds

/-! What the caller of `pollEvents` is sure to get from a call that returns.

The call waits without end only while it has nothing to hand back. A wait that does not
end by itself ends with something reported, and the loop goes round for it; so it is left
with the array full, or after a poll that was in a position to find nothing.
-/

set_option autoImplicit false

namespace KanasSensors

variable {σ F : Type}

namespace PollAct

def gained : PollAct → Int
  | read _ value => value
  | poll _ _ => 0

/-- A read stores no more than it was asked for and does not fail; nor does a poll, and
one without timeout does not time out. -/
def Behaves : PollAct → Prop
  | read count value => 0 ≤ value ∧ value ≤ count
  | poll _ (.failed _) => False
  | poll timeout (.ready acc wake) => timeout = infinite → ¬(acc = 0 ∧ wake = 0)

instance : (act : PollAct) → Decidable act.Behaves
  | read _ _ => inferInstanceAs (Decidable (_ ∧ _))
  | poll _ (.failed _) => inferInstanceAs (Decidable False)
  | poll _ (.ready _ _) => inferInstanceAs (Decidable (_ → _))

theorem Behaves.gained_nonneg {act : PollAct} (behaves : act.Behaves) : 0 ≤ act.gained := by
  cases act with
  | read count value => exact behaves.1
  | poll timeout answer => exact Int.le_refl 0

end PollAct

def Timed (nbEvents : Int) : List PollAct → Prop
  | [] => True
  | .read _ value :: rest => Timed (nbEvents + value) rest
  | .poll timeout _ :: rest => timeout = (if nbEvents ≠ 0 then 0 else infinite) ∧ Timed nbEvents rest

def collected (acts : List PollAct) : Int := (acts.map PollAct.gained).sum

@[simp] theorem collected_append (front back : List PollAct) :
    collected (front ++ back) = collected front + collected back := by
  rw [collected, List.map_append, List.sum_append, collected, collected]

theorem timed_append {nbEvents : Int} {front back : List PollAct} :
    Timed nbEvents (front ++ back) ↔ Timed nbEvents front ∧ Timed (nbEvents + collected front) back := by
  induction front generalizing nbEvents with
  | nil => simp [Timed, collected]
  | cons act rest ih =>
    cases act with
    | read count value =>
      rw [List.cons_append, Timed, Timed, ih, Int.add_assoc]
      rfl
    | poll timeout answer =>
      have nothing : collected (.poll timeout answer :: rest) = collected rest := Int.zero_add _
      rw [List.cons_append, Timed, Timed, ih, and_assoc, nothing]

namespace PollState

structure Recorded (s : PollState σ F) : Prop where
  timed : Timed 0 s.acts
  total : collected s.acts = s.nbEvents

variable (base : SensorBase σ F)

theorem readSensors_acts (s : PollState σ F) (fd : SysRead InputEvent) :
    s.acts <+: (s.readSensors base fd).acts := by
  by_cases wants : s.wantsRead base = true
  · obtain ⟨reply, -, -, -, -, -, acts⟩ := readSensors_read base fd wants
    rw [acts]
    exact List.prefix_append _ _
  · have idle := (readSensors_idle base fd wants).2
    exact ⟨[], (List.append_nil _).trans (congrArg PollState.acts idle.symm)⟩

theorem Recorded.readSensors {s : PollState σ F} (recorded : Recorded s) (fd : SysRead InputEvent) :
    Recorded (s.readSensors base fd) := by
  by_cases wants : s.wantsRead base = true
  · obtain ⟨reply, -, -, nbEvents, -, -, acts⟩ := readSensors_read base fd wants
    constructor
    · rw [acts, timed_append]
      exact ⟨recorded.timed, trivial⟩
    · rw [acts, nbEvents, collected_append, recorded.total]
      simp [collected, PollAct.gained]
  · rw [(readSensors_idle base fd wants).2]
    exact recorded

theorem pollFds_acts (s : PollState σ F) (answer : PollResult) :
    (s.pollFds answer).state.acts =
      s.acts ++ if s.count ≠ 0 then [.poll s.timeout answer] else [] := by
  obtain ⟨full, ended⟩ | ⟨errno, room, -, ended⟩ | ⟨acc, wake, room, rfl, looped⟩ := s.pollFds_polls answer
  · rw [ended, Progress.state_returned, if_neg (not_not.mpr full), List.append_nil]
  · rw [ended, if_pos room]
    rfl
  · rw [looped, loopEnd_state, if_pos room]
    rfl

theorem Recorded.pollFds {s : PollState σ F} (recorded : Recorded s) (answer : PollResult) :
    Recorded (s.pollFds answer).state := by
  have acts := s.pollFds_acts answer
  have nbEvents := (pollFds_sameBuffer s answer).nbEvents
  by_cases room : s.count ≠ 0
  · rw [if_pos room] at acts
    constructor
    · rw [acts, timed_append, recorded.total, Int.zero_add]
      exact ⟨recorded.timed, rfl, trivial⟩
    · rw [acts, nbEvents, collected_append, recorded.total]
      exact Int.add_zero _
  · rw [if_neg room, List.append_nil] at acts
    exact ⟨acts ▸ recorded.timed, by rw [acts, nbEvents, recorded.total]⟩

theorem round_acts (s : PollState σ F) (r : Round) :
    (s.readSensors base r.read).acts <+: (s.round base r).state.acts := by
  rw [round, pollFds_acts]
  exact List.prefix_append _ _

theorem pollEvents_acts (s : PollState σ F) (rounds : List Round) :
    s.acts <+: (s.pollEvents base rounds).state.acts := by
  induction rounds generalizing s with
  | nil => exact List.prefix_refl _
  | cons r rest ih =>
    have through := (s.readSensors_acts base r.read).trans (s.round_acts base r)
    rw [pollEvents]
    cases ended : s.round base r with
    | again next =>
      rw [ended] at through
      exact through.trans (ih next)
    | returned last value =>
      rw [ended] at through
      exact through

theorem Recorded.pollEvents {s : PollState σ F} (recorded : Recorded s) (rounds : List Round) :
    Recorded (s.pollEvents base rounds).state := by
  induction rounds generalizing s with
  | nil => exact recorded
  | cons r rest ih =>
    have whole : Recorded (s.round base r).state := (recorded.readSensors base r.read).pollFds r.poll
    rw [PollState.pollEvents]
    cases ended : s.round base r with
    | again next =>
      rw [ended] at whole
      exact ih whole
    | returned last value =>
      rw [ended] at whole
      exact whole

structure Collecting (count0 : Int) (s : PollState σ F) : Prop where
  collected : 0 ≤ s.nbEvents
  room : 0 ≤ s.count
  whole : s.nbEvents + s.count = count0

variable {count0 : Int}

theorem Collecting.sameBuffer {s t : PollState σ F} (collecting : Collecting count0 s)
    (same : s.SameBuffer t) : Collecting count0 t := by
  obtain ⟨-, count, nbEvents, -⟩ := same
  constructor
  · exact nbEvents ▸ collecting.collected
  · exact count ▸ collecting.room
  · rw [nbEvents, count, collecting.whole]

theorem Collecting.readSensors {s : PollState σ F} (collecting : Collecting count0 s)
    (fd : SysRead InputEvent) (behaves : ∀ act ∈ (s.readSensors base fd).acts, act.Behaves) :
    Collecting count0 (s.readSensors base fd) := by
  by_cases wants : s.wantsRead base = true
  · obtain ⟨reply, -, -, nbEvents, count, -, acts⟩ := readSensors_read base fd wants
    have made : .read s.count reply.value ∈ (s.readSensors base fd).acts := by
      rw [acts]
      exact List.mem_append_right _ List.mem_cons_self
    have fits : 0 ≤ reply.value ∧ reply.value ≤ s.count := behaves _ made
    obtain ⟨collected, room, whole⟩ := collecting
    constructor <;> omega
  · rw [(readSensors_idle base fd wants).2]
    exact collecting

theorem loopEnd_returned {s last : PollState σ F} {value : PollReturn}
    (returned : s.loopEnd = .returned last value) :
    (s.n = 0 ∨ s.count = 0) ∧ value = .events s.nbEvents := by
  unfold loopEnd at returned
  split at returned
  · cases returned
  · next stops =>
    cases returned
    exact ⟨by omega, rfl⟩

theorem pollFds_returned {s last : PollState σ F} {answer : PollResult} {value : PollReturn}
    (collecting : Collecting count0 s) (asked : 1 ≤ count0)
    (behaves : ∀ act ∈ last.acts, act.Behaves) (returned : s.pollFds answer = .returned last value) :
    ∃ nbEvents, value = .events nbEvents ∧ 1 ≤ nbEvents ∧ nbEvents ≤ count0 := by
  obtain ⟨collected, room, whole⟩ := collecting
  have acts := s.pollFds_acts answer
  rw [returned, Progress.state_returned] at acts
  obtain ⟨full, ended⟩ | ⟨errno, room', rfl, ended⟩ | ⟨acc, wake, room', rfl, looped⟩ :=
    s.pollFds_polls answer
  · rw [ended] at returned
    cases returned
    exact ⟨s.nbEvents, rfl, by omega, by omega⟩
  · rw [if_pos room'] at acts
    have impossible : PollAct.Behaves (.poll s.timeout (.failed errno)) :=
      behaves _ (acts ▸ List.mem_append_right _ List.mem_cons_self)
    exact impossible.elim
  · rw [if_pos room'] at acts
    have waited : PollAct.Behaves (.poll s.timeout (.ready acc wake)) :=
      behaves _ (acts ▸ List.mem_append_right _ List.mem_cons_self)
    rw [looped] at returned
    obtain ⟨stopped, rfl⟩ := loopEnd_returned returned
    -- the room is still there, so it was the poll that found nothing
    have quiet := polled_n_eq_zero (stopped.resolve_right room')
    have some_collected : s.nbEvents ≠ 0 := by
      intro nothing
      exact waited (if_neg (not_not.mpr nothing)) quiet
    refine ⟨s.nbEvents, rfl, ?_, ?_⟩ <;> omega

theorem pollEvents_returned {s last : PollState σ F} {rounds : List Round} {value : PollReturn}
    (collecting : Collecting count0 s) (asked : 1 ≤ count0) (behaves : ∀ act ∈ last.acts, act.Behaves)
    (returned : s.pollEvents base rounds = .returned last value) :
    ∃ nbEvents, value = .events nbEvents ∧ 1 ≤ nbEvents ∧ nbEvents ≤ count0 := by
  induction rounds generalizing s with
  | nil => cases returned
  | cons r rest ih =>
    have through := s.round_acts base r
    rw [PollState.pollEvents] at returned
    cases ended : s.round base r with
    | again next =>
      rw [ended] at returned through
      have kept := next.pollEvents_acts base rest
      simp only [returned] at kept
      have half := collecting.readSensors base r.read fun act made =>
        behaves act ((through.trans kept).mem made)
      have same := pollFds_sameBuffer (s.readSensors base r.read) r.poll
      rw [round] at ended
      rw [ended, Progress.state_again] at same
      exact ih (half.sameBuffer same) returned
    | returned last' value' =>
      rw [ended] at returned through
      cases returned
      have half := collecting.readSensors base r.read fun act made => behaves act (through.mem made)
      exact pollFds_returned half asked behaves ended

theorem Recorded.timeout_eq {s : PollState σ F} {front back : List PollAct} {timeout : Int}
    {answer : PollResult} (recorded : Recorded s) (behaves : ∀ act ∈ s.acts, act.Behaves)
    (split : s.acts = front ++ .poll timeout answer :: back)
    (something : ∃ act ∈ front, 0 < act.gained) : timeout = 0 := by
  have timed := recorded.timed
  rw [split] at timed behaves
  have gains : ∀ gain ∈ front.map PollAct.gained, 0 ≤ gain := by
    intro gain member
    obtain ⟨act, made, rfl⟩ := List.mem_map.mp member
    exact (behaves act (List.mem_append_left _ made)).gained_nonneg
  obtain ⟨act, made, gain⟩ := something
  have part : act.gained ≤ collected front := List.single_le_sum gains _ (List.mem_map_of_mem made)
  rw [timed_append] at timed
  exact timed.2.1.trans (if_pos (by omega))

end PollState

/-- For every driver, every state and every number of rounds: where every read and poll
of the call behaves, a call that returns hands back at least one event and at most
`count`, and after a read that gave something no poll waits without end. -/
theorem pollEvents_never_empty_handed (base : SensorBase σ F) (ctx : SensorsPollContext σ)
    (count : Int) (asked : 1 ≤ count) (rounds : List Round)
    (behaves : ∀ act ∈ ((PollState.start ctx count).pollEvents base rounds).state.acts, act.Behaves) :
    (∀ last value, (PollState.start ctx count).pollEvents base rounds = .returned last value →
      ∃ nbEvents, value = .events nbEvents ∧ 1 ≤ nbEvents ∧ nbEvents ≤ count) ∧
    ∀ front timeout answer back,
      ((PollState.start ctx count).pollEvents base rounds).state.acts =
        front ++ .poll timeout answer :: back →
      (∃ act ∈ front, 0 < act.gained) → timeout ≠ infinite := by
  constructor
  · intro last value returned
    have collecting : PollState.Collecting count (PollState.start ctx count (F := F)) := by
      refine ⟨Int.le_refl 0, ?_, Int.zero_add count⟩
      simp only [PollState.start]
      omega
    rw [returned] at behaves
    exact PollState.pollEvents_returned base collecting asked behaves returned
  · intro front timeout answer back split something
    have recorded : PollState.Recorded (PollState.start ctx count (F := F)) := ⟨trivial, rfl⟩
    rw [(recorded.pollEvents base rounds).timeout_eq behaves split something]
    decide

theorem pollEvents_never_empty_handed_one_event :
    let rounds := [⟨.failing .eio, .ready 1 0⟩, ⟨.ofQueue [⟨⟨0, 0⟩, evSyn, 0, 0⟩] 1, .ready 0 0⟩]
    let call := (PollState.start (F := ℚ) listening 8).pollEvents Accelerometer.base rounds
    (∀ last value, call = .returned last value →
      ∃ nbEvents, value = .events nbEvents ∧ 1 ≤ nbEvents ∧ nbEvents ≤ 8) ∧
    ∀ front timeout answer back, call.state.acts = front ++ .poll timeout answer :: back →
      (∃ act ∈ front, 0 < act.gained) → timeout ≠ infinite :=
  pollEvents_never_empty_handed Accelerometer.base listening 8 (by decide) _ (by decide +kernel)

end KanasSensors
