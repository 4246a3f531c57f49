import KanasSensors.Context.Model

/-! The buffer accounting of `pollEvents`, for any driver and any answers of the system.

The loop adds every result of `readEvents` to its three variables, an error code
included. The accounting is therefore kept for as long as no result is an error.
-/

set_option autoImplicit false

namespace KanasSensors

variable {σ F : Type}

/-- The write pointer stands behind the `nbEvents` slots filled so far, and `count` is
the rest of the caller's array. -/
structure Accounted (count0 : Int) (s : PollState σ F) : Prop where
  data : s.data = s.nbEvents
  nonneg : 0 ≤ s.nbEvents
  le : s.nbEvents ≤ count0
  count : s.count = count0 - s.nbEvents
  filled : s.slots.map Prod.fst = (List.range s.nbEvents.toNat).map Int.ofNat

namespace ReadCall

/-- A result of `readEvents`: an error and nothing written, or at most `count` events. -/
def Answered (call : ReadCall F) : Prop :=
  (call.reply.value < 0 ∧ call.reply.stored = []) ∨
  (0 ≤ call.reply.value ∧ call.reply.value ≤ call.count ∧
    call.reply.value = call.reply.stored.length)

instance (call : ReadCall F) : Decidable call.Answered := inferInstanceAs (Decidable (_ ∨ _))

def HandedTail (count0 : Int) (call : ReadCall F) : Prop :=
  0 ≤ call.data ∧ call.data + call.count = count0

end ReadCall

namespace PollState

theorem place_offsets (data : Int) (events : List (SensorsEvent F)) :
    (place data events).map Prod.fst = (List.range events.length).map fun i => data + Int.ofNat i := by
  induction events generalizing data with
  | nil => rfl
  | cons event rest ih =>
    rw [place, List.map_cons, ih, List.length_cons, List.range_succ_eq_map, List.map_cons, List.map_map]
    refine congrArg₂ _ (by simp) (List.map_congr_left fun i _ => ?_)
    simp only [Function.comp_apply, Int.ofNat_eq_natCast]
    omega

theorem place_events (data : Int) (events : List (SensorsEvent F)) :
    (place data events).map Prod.snd = events := by
  induction events generalizing data with
  | nil => rfl
  | cons event rest ih => rw [place, List.map_cons, ih]

theorem place_filled {slots : List (Int × SensorsEvent F)} {nbEvents : Int} (nonneg : 0 ≤ nbEvents)
    (filled : slots.map Prod.fst = (List.range nbEvents.toNat).map Int.ofNat)
    (events : List (SensorsEvent F)) : (slots ++ place nbEvents events).map Prod.fst =
      (List.range (nbEvents + events.length).toNat).map Int.ofNat := by
  have total : (nbEvents + events.length).toNat = nbEvents.toNat + events.length := by omega
  rw [List.map_append, filled, place_offsets, total, List.range_add, List.map_append, List.map_map]
  refine congrArg _ (List.map_congr_left fun i _ => ?_)
  simp only [Function.comp_apply, Int.ofNat_eq_natCast]
  omega

variable (base : SensorBase σ F)

theorem readSensors_read {s : PollState σ F} (fd : SysRead InputEvent) (wants : s.wantsRead base = true) :
    ∃ reply, s.readCall base fd = [⟨s.data, s.count, reply⟩] ∧
      (s.readSensors base fd).data = s.data + reply.value ∧
      (s.readSensors base fd).nbEvents = s.nbEvents + reply.value ∧
      (s.readSensors base fd).count = s.count - reply.value ∧
      (s.readSensors base fd).slots = s.slots ++ place s.data reply.stored ∧
      (s.readSensors base fd).acts = s.acts ++ [.read s.count reply.value] := by
  refine ⟨(base.readEvents s.ctx.acc s.count fd).2, if_pos wants, ?_⟩
  rw [readSensors, if_pos wants]
  exact ⟨rfl, rfl, rfl, rfl, rfl⟩

theorem readSensors_idle {s : PollState σ F} (fd : SysRead InputEvent)
    (idle : ¬s.wantsRead base = true) : s.readCall base fd = [] ∧ s.readSensors base fd = s :=
  ⟨if_neg idle, if_neg idle⟩

structure SameBuffer (s t : PollState σ F) : Prop where
  data : t.data = s.data
  count : t.count = s.count
  nbEvents : t.nbEvents = s.nbEvents
  slots : t.slots = s.slots

theorem loopEnd_cases (s : PollState σ F) :
    s.loopEnd = .again s ∨ s.loopEnd = .returned s (.events s.nbEvents) := by
  unfold loopEnd
  split
  · exact .inl rfl
  · exact .inr rfl

/-- The three ways through the poll half: no poll with the array full, a poll that fails,
and one that leads to the end of the loop. -/
theorem pollFds_polls (s : PollState σ F) (result : PollResult) :
    (s.count = 0 ∧ s.pollFds result = .returned s (.events s.nbEvents)) ∨
    (∃ errno, s.count ≠ 0 ∧ result = .failed errno ∧
      s.pollFds result = .returned (s.asked result) (.failed errno)) ∨
    ∃ acc wake, s.count ≠ 0 ∧ result = .ready acc wake ∧
      s.pollFds result = (s.polled acc wake).loopEnd := by
  unfold pollFds
  split
  · next room =>
    cases result with
    | failed errno => exact .inr (.inl ⟨errno, room, rfl, rfl⟩)
    | ready acc wake => exact .inr (.inr ⟨acc, wake, room, rfl, rfl⟩)
  · next full =>
    have ended : s.loopEnd = .returned s (.events s.nbEvents) := if_neg fun both => full both.2
    exact .inl ⟨not_not.mp full, ended⟩

theorem pollFds_cases (s : PollState σ F) (result : PollResult) :
    ∃ t, s.SameBuffer t ∧ (s.pollFds result = .again t ∨
      s.pollFds result = .returned t (.events t.nbEvents) ∨
      ∃ errno, s.pollFds result = .returned t (.failed errno)) := by
  obtain ⟨-, ended⟩ | ⟨errno, -, -, ended⟩ | ⟨acc, wake, -, -, looped⟩ := s.pollFds_polls result
  · exact ⟨s, ⟨rfl, rfl, rfl, rfl⟩, .inr (.inl ended)⟩
  · exact ⟨s.asked result, ⟨rfl, rfl, rfl, rfl⟩, .inr (.inr ⟨errno, ended⟩)⟩
  · rw [looped]
    exact ⟨s.polled acc wake, ⟨rfl, rfl, rfl, rfl⟩, (s.polled acc wake).loopEnd_cases.imp id .inl⟩

end PollState

open PollState

namespace Accounted

variable {count0 : Int} {s : PollState σ F}

theorem sameBuffer {t : PollState σ F} (accounted : Accounted count0 s) (same : s.SameBuffer t) :
    Accounted count0 t := by
  obtain ⟨data, count, nbEvents, slots⟩ := same
  exact ⟨by rw [data, nbEvents, accounted.data], by rw [nbEvents]; exact accounted.nonneg,
    by rw [nbEvents]; exact accounted.le, by rw [count, nbEvents, accounted.count],
    by rw [slots, nbEvents, accounted.filled]⟩

theorem slots_length (accounted : Accounted count0 s) : (s.slots.length : Int) = s.nbEvents := by
  have length := congrArg List.length accounted.filled
  simp only [List.length_map, List.length_range] at length
  have nonneg := accounted.nonneg
  omega

theorem handedTail (accounted : Accounted count0 s) (reply : Reply F) :
    (ReadCall.mk s.data s.count reply).HandedTail count0 := by
  have data := accounted.data
  have nonneg := accounted.nonneg
  have count := accounted.count
  constructor <;> simp only <;> omega

variable (base : SensorBase σ F)

theorem readSensors_iff (accounted : Accounted count0 s) (fd : SysRead InputEvent)
    (answered : ∀ call ∈ s.readCall base fd, call.Answered) :
    Accounted count0 (s.readSensors base fd) ↔ ∀ call ∈ s.readCall base fd, 0 ≤ call.reply.value := by
  by_cases wants : s.wantsRead base = true
  · obtain ⟨reply, call, data, nbEvents, count, slots, -⟩ := readSensors_read base fd wants
    rw [call] at answered ⊢
    have contract := answered _ List.mem_cons_self
    simp only [List.mem_singleton, forall_eq]
    constructor
    · intro kept
      have before := accounted.slots_length
      have after := kept.slots_length
      rw [slots, nbEvents, List.length_append] at after
      -- an error stores nothing and yet lowers `nbEvents` below the slots filled
      rcases contract with ⟨negative, nothing⟩ | ⟨nonneg, -, -⟩
      · simp only at negative nothing
        rw [nothing] at after
        simp only [place, List.length_nil] at after
        omega
      · exact nonneg
    · intro positive
      rcases contract with ⟨negative, -⟩ | ⟨nonneg, fits, length⟩
      · exact absurd positive (Int.not_le.mpr negative)
      · simp only at nonneg fits length
        have nonneg' := accounted.nonneg
        have room := accounted.count
        have pointer := accounted.data
        refine ⟨by rw [data, nbEvents, pointer], by rw [nbEvents]; omega, by rw [nbEvents]; omega,
          by rw [count, nbEvents]; omega, ?_⟩
        rw [slots, nbEvents, pointer, length]
        exact place_filled nonneg' accounted.filled reply.stored
  · obtain ⟨none_made, same⟩ := readSensors_idle base fd wants
    rw [none_made, same]
    simp [accounted]

end Accounted

structure KeepsAccount (base : SensorBase σ F) (count0 : Int) (s : PollState σ F)
    (rounds : List Round) : Prop where
  points : ∀ point ∈ s.points base rounds, Accounted count0 point
  tails : ∀ call ∈ s.readCalls base rounds, call.HandedTail count0
  value : ∀ last nbEvents, s.pollEvents base rounds = .returned last (.events nbEvents) →
    nbEvents = last.slots.length

namespace KeepsAccount

variable {base : SensorBase σ F} {count0 : Int} {s : PollState σ F} {r : Round} {rest : List Round}

theorem middle (keeps : KeepsAccount base count0 s (r :: rest)) :
    Accounted count0 (s.readSensors base r.read) :=
  keeps.points _ (List.mem_cons_of_mem _ List.mem_cons_self)

theorem tail_of_accounted (accounted : Accounted count0 s) (fd : SysRead InputEvent) :
    ∀ call ∈ s.readCall base fd, call.HandedTail count0 := by
  intro call member
  by_cases wants : s.wantsRead base = true
  · obtain ⟨reply, made, -⟩ := readSensors_read base fd wants
    rw [made, List.mem_singleton] at member
    exact member ▸ accounted.handedTail reply
  · rw [(readSensors_idle base fd wants).1] at member
    cases member

theorem again_iff {next : PollState σ F} (round : s.round base r = .again next)
    (accounted : Accounted count0 s) (half : Accounted count0 (s.readSensors base r.read)) :
    KeepsAccount base count0 s (r :: rest) ↔ KeepsAccount base count0 next rest := by
  constructor
  · rintro ⟨points, tails, value⟩
    simp only [PollState.points, readCalls, pollEvents, round, List.forall_mem_cons,
      List.forall_mem_append] at points tails value
    exact ⟨points.2.2, tails.2, value⟩
  · rintro ⟨points, tails, value⟩
    refine ⟨?_, ?_, ?_⟩
    · simp only [PollState.points, round, List.forall_mem_cons]
      exact ⟨accounted, half, points⟩
    · simp only [readCalls, round, List.forall_mem_append]
      exact ⟨tail_of_accounted accounted r.read, tails⟩
    · simpa only [pollEvents, round] using value

theorem returned {last : PollState σ F} {value : PollReturn}
    (round : s.round base r = .returned last value)
    (accounted : Accounted count0 s) (half : Accounted count0 (s.readSensors base r.read))
    (final : Accounted count0 last)
    (same : ∀ nbEvents, value = .events nbEvents → nbEvents = last.nbEvents) :
    KeepsAccount base count0 s (r :: rest) := by
  refine ⟨?_, ?_, ?_⟩
  · simp only [PollState.points, round, List.forall_mem_cons]
    exact ⟨accounted, half, final, fun point member => absurd member List.not_mem_nil⟩
  · simpa only [readCalls, round, List.append_nil] using tail_of_accounted accounted r.read
  · intro last' nbEvents returned
    simp only [pollEvents, round, Progress.returned.injEq] at returned
    obtain ⟨rfl, events⟩ := returned
    rw [same nbEvents events, final.slots_length]

end KeepsAccount

theorem Accounted.keepsAccount_iff {count0 : Int} {s : PollState σ F} (accounted : Accounted count0 s)
    (base : SensorBase σ F) (rounds : List Round)
    (answered : ∀ call ∈ s.readCalls base rounds, call.Answered) :
    KeepsAccount base count0 s rounds ↔ ∀ call ∈ s.readCalls base rounds, 0 ≤ call.reply.value := by
  induction rounds generalizing s with
  | nil =>
    refine ⟨fun _ call member => absurd member List.not_mem_nil, fun _ => ⟨?_, ?_, ?_⟩⟩
    · simpa [PollState.points] using accounted
    · intro call member
      exact absurd member List.not_mem_nil
    · intro last nbEvents returned
      cases returned
  | cons r rest ih =>
    have half := accounted.readSensors_iff base r.read
      (fun call member => answered call (List.mem_append_left _ member))
    obtain ⟨t, same, again | done | ⟨errno, done⟩⟩ := (s.readSensors base r.read).pollFds_cases r.poll
    · -- the loop goes round again from `t`
      have round : s.round base r = .again t := again
      have later := fun kept : Accounted count0 (s.readSensors base r.read) =>
        ih (kept.sameBuffer same) (fun call member => answered call (by
          rw [readCalls, round]; exact List.mem_append_right _ member))
      simp only [readCalls, round, List.forall_mem_append, ← half]
      constructor
      · intro keeps
        exact ⟨keeps.middle, (later keeps.middle).mp
          ((KeepsAccount.again_iff round accounted keeps.middle).mp keeps)⟩
      · rintro ⟨kept, rest_ok⟩
        exact (KeepsAccount.again_iff round accounted kept).mpr ((later kept).mpr rest_ok)
    · have round : s.round base r = .returned t (.events t.nbEvents) := done
      simp only [readCalls, round, List.append_nil, ← half]
      exact ⟨fun keeps => keeps.middle, fun kept => .returned round accounted kept
        (kept.sameBuffer same) (fun nbEvents events => (PollReturn.events.inj events).symm)⟩
    · have round : s.round base r = .returned t (.failed errno) := done
      simp only [readCalls, round, List.append_nil, ← half]
      exact ⟨fun keeps => keeps.middle, fun kept => .returned round accounted kept
        (kept.sameBuffer same) (fun nbEvents events => by cases events)⟩

/-- The accounting of a call is kept, at every point of its loop, exactly when none of
its `readEvents` calls returns an error. -/
theorem pollEvents_accounting_iff (base : SensorBase σ F) (ctx : SensorsPollContext σ) (count0 : Int)
    (room : 1 ≤ count0) (rounds : List Round)
    (answered : ∀ call ∈ (PollState.start ctx count0).readCalls base rounds, call.Answered) :
    KeepsAccount base count0 (.start ctx count0) rounds ↔
      ∀ call ∈ (PollState.start ctx count0).readCalls base rounds, 0 ≤ call.reply.value :=
  Accounted.keepsAccount_iff ⟨rfl, Int.le_refl 0, by simp only [PollState.start]; omega,
    (Int.sub_zero count0).symm, rfl⟩ base rounds answered

def listening : SensorsPollContext (Accelerometer ℚ) :=
  .create { Accelerometer.blank with mEnabled := 1 }

theorem pollEvents_accounting_one_event :
    KeepsAccount Accelerometer.base 8 (.start listening 8)
      [⟨.failing .eio, .ready 1 0⟩, ⟨.ofQueue [⟨⟨0, 0⟩, evSyn, 0, 0⟩] 1, .ready 0 0⟩] :=
  (pollEvents_accounting_iff Accelerometer.base listening 8 (by decide) _ (by decide +kernel)).mpr
    (by decide +kernel)

/-- A read error of the second round leaves the pointer before the caller's array. -/
theorem pollEvents_loses_account : ¬∀ (count0 : Int) (rounds : List Round), 1 ≤ count0 →
    (∀ call ∈ (PollState.start listening count0).readCalls Accelerometer.base rounds, call.Answered) →
    KeepsAccount Accelerometer.base count0 (.start listening count0) rounds := by
  intro always
  have keeps := always 8 [⟨.failing .eio, .ready 1 0⟩, ⟨.failing .eio, .ready 1 0⟩] (by decide)
    (by decide +kernel)
  have inside : ∀ point ∈ (PollState.start listening 8).points Accelerometer.base
      [⟨.failing .eio, .ready 1 0⟩, ⟨.failing .eio, .ready 1 0⟩], 0 ≤ point.nbEvents :=
    fun point member => (keeps.points point member).nonneg
  revert inside
  decide +kernel

end KanasSensors
