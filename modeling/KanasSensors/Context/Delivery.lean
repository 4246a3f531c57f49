import KanasSensors.Context.Rounds
import Mathlib.Data.List.Induction

/-! What the readers of the device produce, and what its callers are handed.

A call reads in one round and polls in the next, and a poll that fails ends it at once
with an error code. The events of the rounds before are then in an array whose length
the caller is not told, and in no ring any more.
-/

set_option autoImplicit false

namespace KanasSensors

variable {σ F : Type}

def cell (slots : List (Int × SensorsEvent F)) (i : Nat) : Option (SensorsEvent F) :=
  (slots.reverse.find? fun slot => slot.1 = (i : Int)).map Prod.snd

def cells (slots : List (Int × SensorsEvent F)) (r : Nat) : List (SensorsEvent F) :=
  (List.range r).filterMap (cell slots)

theorem cells_filled {slots : List (Int × SensorsEvent F)}
    (filled : slots.map Prod.fst = (List.range slots.length).map Int.ofNat) :
    cells slots slots.length = slots.map Prod.snd := by
  induction slots using List.reverseRecOn with
  | nil => rfl
  | append_singleton slots slot ih =>
    rw [List.length_append, List.length_singleton, List.range_succ, List.map_append,
      List.map_append] at filled
    obtain ⟨front, last⟩ := List.append_inj' filled rfl
    have offset : slot.1 = (slots.length : Int) := by simpa using last
    -- the cells before the last one are not written again
    have before : (List.range slots.length).filterMap (cell (slots ++ [slot])) =
        (List.range slots.length).filterMap (cell slots) := by
      apply List.filterMap_congr
      intro i member
      have inside := List.mem_range.mp member
      have apart : ¬slot.1 = (i : Int) := by omega
      simp [cell, apart]
    have here : cell (slots ++ [slot]) slots.length = some slot.2 := by
      simp [cell, offset]
    rw [cells, List.length_append, List.length_singleton, List.range_succ, List.filterMap_append, before,
      List.filterMap_cons_some here, List.filterMap_nil, List.map_append]
    exact congrArg (· ++ [slot.2]) (ih front)

structure Packed (s : PollState σ F) : Prop where
  data : s.data = s.nbEvents
  nonneg : 0 ≤ s.nbEvents
  filled : s.slots.map Prod.fst = (List.range s.nbEvents.toNat).map Int.ofNat

theorem Packed.cells {s : PollState σ F} (packed : Packed s) :
    cells s.slots s.nbEvents.toNat = s.slots.map Prod.snd := by
  have length := congrArg List.length packed.filled
  simp only [List.length_map, List.length_range] at length
  have filled := packed.filled
  rw [← length] at filled ⊢
  exact cells_filled filled

namespace PollState

variable (base : SensorBase σ F)

def pollAnswers (s : PollState σ F) : List Round → List PollResult
  | [] => []
  | r :: rest => (if (s.readSensors base r.read).count ≠ 0 then [r.poll] else []) ++
    match s.round base r with
    | .again next => next.pollAnswers rest
    | .returned _ _ => []

def Succeeds (read : ReadCall F) : Prop := read.Answered ∧ 0 ≤ read.reply.value

instance (read : ReadCall F) : Decidable (Succeeds read) := inferInstanceAs (Decidable (_ ∧ _))

theorem Succeeds.value {read : ReadCall F} (succeeds : Succeeds read) :
    read.reply.value = read.reply.stored.length := by
  obtain ⟨⟨negative, -⟩ | ⟨-, -, length⟩, nonneg⟩ := succeeds
  · exact absurd nonneg (Int.not_le.mpr negative)
  · exact length

theorem packed_read {s : PollState σ F} (packed : Packed s) (fd : SysRead InputEvent)
    (succeed : ∀ read ∈ s.readCall base fd, Succeeds read) : Packed (s.readSensors base fd) := by
  by_cases wants : s.wantsRead base = true
  · obtain ⟨reply, made, data, nbEvents, -, slots, -⟩ := readSensors_read base fd wants
    rw [made] at succeed
    have length : reply.value = reply.stored.length := (succeed _ List.mem_cons_self).value
    have nonneg := packed.nonneg
    constructor
    · rw [data, nbEvents, packed.data]
    · rw [nbEvents]
      omega
    · rw [slots, nbEvents, packed.data, length]
      exact place_filled nonneg packed.filled reply.stored
  · rw [(readSensors_idle base fd wants).2]
    exact packed

theorem packed_poll {s t : PollState σ F} (same : s.SameBuffer t) (packed : Packed s) : Packed t := by
  obtain ⟨data, -, nbEvents, slots⟩ := same
  constructor
  · rw [data, nbEvents, packed.data]
  · rw [nbEvents]
    exact packed.nonneg
  · rw [slots, nbEvents]
    exact packed.filled

theorem slots_readCalls (s : PollState σ F) (rounds : List Round) :
    (s.pollEvents base rounds).state.slots.map Prod.snd =
      s.slots.map Prod.snd ++ (s.readCalls base rounds).flatMap (·.reply.stored) := by
  induction rounds generalizing s with
  | nil => exact (List.append_nil _).symm
  | cons r rest ih =>
    have half : (s.readSensors base r.read).slots.map Prod.snd =
        s.slots.map Prod.snd ++ (s.readCall base r.read).flatMap (·.reply.stored) := by
      by_cases wants : s.wantsRead base = true
      · obtain ⟨reply, made, -, -, -, slots, -⟩ := readSensors_read base r.read wants
        rw [made, slots, List.map_append, place_events, List.flatMap_singleton]
      · obtain ⟨made, idle⟩ := readSensors_idle base r.read wants
        rw [made, idle, List.flatMap_nil, List.append_nil]
    have whole := (pollFds_sameBuffer (s.readSensors base r.read) r.poll).slots
    rw [pollEvents, readCalls, List.flatMap_append, ← List.append_assoc, ← half, ← whole]
    change _ = (s.round base r).state.slots.map Prod.snd ++ _
    cases ended : s.round base r with
    | again next => exact ih next
    | returned last value => exact (List.append_nil _).symm

theorem returned_cases {s last : PollState σ F} {rounds : List Round} {value : PollReturn}
    (returned : s.pollEvents base rounds = .returned last value) :
    (value = .events last.nbEvents ∧ ∀ errno, .failed errno ∉ s.pollAnswers base rounds) ∨
    ∃ errno, value = .failed errno ∧ .failed errno ∈ s.pollAnswers base rounds := by
  induction rounds generalizing s with
  | nil => cases returned
  | cons r rest ih =>
    rw [pollEvents] at returned
    rw [pollAnswers]
    obtain ⟨full, ended⟩ | ⟨errno, room, answer, ended⟩ | ⟨acc, wake, room, answer, looped⟩ :=
      (s.readSensors base r.read).pollFds_polls r.poll
    · have whole : s.round base r = .returned _ _ := ended
      rw [whole] at returned ⊢
      cases returned
      rw [if_neg (not_not.mpr full)]
      exact .inl ⟨rfl, fun errno => List.not_mem_nil⟩
    · have whole : s.round base r = .returned _ _ := ended
      rw [whole] at returned ⊢
      cases returned
      rw [if_pos room, answer]
      exact .inr ⟨errno, rfl, List.mem_cons_self⟩
    · rw [if_pos room, answer]
      rcases loopEnd_cases ((s.readSensors base r.read).polled acc wake) with again | ended
      · have whole : s.round base r = .again _ := looped.trans again
        rw [whole] at returned ⊢
        rcases ih returned with ⟨events, none_failed⟩ | ⟨errno, failed, member⟩
        · left
          refine ⟨events, fun errno member => ?_⟩
          rcases List.mem_cons.mp member with impossible | later
          · cases impossible
          · exact none_failed errno later
        · exact .inr ⟨errno, failed, List.mem_cons_of_mem _ member⟩
      · have whole : s.round base r = .returned _ _ := looped.trans ended
        rw [whole] at returned ⊢
        cases returned
        left
        exact ⟨rfl, fun errno member => by cases List.mem_singleton.mp member⟩

end PollState

open PollState

/-- A `pollEvents` call that has returned, from whatever state other calls left the
device in. -/
structure FinishedCall (base : SensorBase σ F) where
  ctx : SensorsPollContext σ
  count : Int
  rounds : List Round
  last : PollState σ F
  value : PollReturn
  returned : (PollState.start ctx count).pollEvents base rounds = .returned last value

namespace FinishedCall

variable {base : SensorBase σ F}

def reads (call : FinishedCall base) : List (ReadCall F) :=
  (PollState.start call.ctx call.count).readCalls base call.rounds

def produced (call : FinishedCall base) : List (SensorsEvent F) := call.reads.flatMap (·.reply.stored)

/-- The first `r` events of the caller's array, for a call that returned `r`. -/
def handed (call : FinishedCall base) : List (SensorsEvent F) :=
  match call.value with
  | .failed _ => []
  | .events r => cells call.last.slots r.toNat

def PollFailed (call : FinishedCall base) : Prop :=
  ∃ errno, .failed errno ∈ (PollState.start call.ctx call.count).pollAnswers base call.rounds

theorem stored (call : FinishedCall base) : call.last.slots.map Prod.snd = call.produced := by
  have whole := (PollState.start call.ctx call.count).slots_readCalls base call.rounds
  rw [call.returned] at whole
  exact whole

theorem packed (call : FinishedCall base) (succeed : ∀ read ∈ call.reads, Succeeds read) :
    Packed call.last := by
  have whole := ((PollState.start call.ctx call.count).pollEvents_rule base Packed Succeeds
    (fun s fd held made => packed_read base held fd made)
    (fun s t same _ held => packed_poll same held) call.rounds
    ⟨rfl, Int.le_refl 0, rfl⟩ succeed).2
  rw [call.returned] at whole
  exact whole

theorem handed_cases (call : FinishedCall base) (succeed : ∀ read ∈ call.reads, Succeeds read) :
    (¬call.PollFailed ∧ call.handed = call.produced) ∨ (call.PollFailed ∧ call.handed = []) := by
  rcases returned_cases base call.returned with ⟨events, none_failed⟩ | ⟨errno, failed, member⟩
  · left
    constructor
    · rintro ⟨errno, member⟩
      exact none_failed errno member
    · rw [handed, events]
      exact (call.packed succeed).cells.trans call.stored
  · right
    exact ⟨⟨errno, member⟩, by rw [handed, failed]⟩

theorem handed_length_le (calls : List (FinishedCall base))
    (succeed : ∀ call ∈ calls, ∀ read ∈ call.reads, Succeeds read) :
    (calls.flatMap handed).length ≤ (calls.flatMap produced).length := by
  induction calls with
  | nil => exact Nat.le_refl 0
  | cons call rest ih =>
    have later := ih fun other member => succeed other (List.mem_cons_of_mem _ member)
    rw [List.flatMap_cons, List.flatMap_cons, List.length_append, List.length_append]
    rcases call.handed_cases (succeed call List.mem_cons_self) with ⟨-, same⟩ | ⟨-, nothing⟩
    · rw [same]
      omega
    · rw [nothing, List.length_nil]
      omega

/-- Over any sequence of calls whose reads succeed, the callers are handed exactly what
the reads produced, if and only if no call had a poll fail and had produced an event. -/
theorem handed_eq_produced_iff (calls : List (FinishedCall base))
    (succeed : ∀ call ∈ calls, ∀ read ∈ call.reads, Succeeds read) :
    calls.flatMap handed = calls.flatMap produced ↔
      ∀ call ∈ calls, call.PollFailed → call.produced = [] := by
  induction calls with
  | nil => simp
  | cons call rest ih =>
    have succeed' : ∀ other ∈ rest, ∀ read ∈ other.reads, Succeeds read :=
      fun other member => succeed other (List.mem_cons_of_mem _ member)
    have tail := ih succeed'
    rw [List.flatMap_cons, List.flatMap_cons, List.forall_mem_cons]
    rcases call.handed_cases (succeed call List.mem_cons_self) with ⟨sound, same⟩ | ⟨failed, nothing⟩
    · rw [same, List.append_cancel_left_eq]
      exact ⟨fun later => ⟨fun failed => absurd failed sound, tail.mp later⟩, fun both => tail.mpr both.2⟩
    · rw [nothing, List.nil_append]
      constructor
      · intro same
        -- what this call loses the later ones cannot make up for
        have bound := handed_length_le rest succeed'
        have length := congrArg List.length same
        rw [List.length_append] at length
        have empty : call.produced = [] := List.length_eq_zero_iff.mp (by omega)
        rw [empty, List.nil_append] at same
        exact ⟨fun _ => empty, tail.mp same⟩
      · rintro ⟨empty, later⟩
        rw [empty failed, List.nil_append]
        exact tail.mpr later

def oneEvent : FinishedCall (Accelerometer.base (F := ℚ)) where
  ctx := listening
  count := 8
  rounds := [⟨.failing .eio, .ready 1 0⟩, ⟨.ofQueue [⟨⟨0, 0⟩, evSyn, 0, 0⟩] 1, .ready 0 0⟩]
  last := _
  value := _
  returned := rfl

theorem handed_eq_produced_one_event :
    [oneEvent].flatMap handed = [oneEvent].flatMap produced ↔
      ∀ call ∈ [oneEvent], call.PollFailed → call.produced = [] :=
  handed_eq_produced_iff [oneEvent] (by decide +kernel)

/-- The same event, and then a poll that fails. -/
theorem failed_poll_loses_event : ¬∀ calls : List (FinishedCall (Accelerometer.base (F := ℚ))),
    (∀ call ∈ calls, ∀ read ∈ call.reads, Succeeds read) →
    calls.flatMap handed = calls.flatMap produced := by
  intro always
  have same := always [⟨listening, 8, [⟨.failing .eio, .ready 1 0⟩,
    ⟨.ofQueue [⟨⟨0, 0⟩, evSyn, 0, 0⟩] 1, .failed .eio⟩], _, _, rfl⟩] (by decide +kernel)
  have lengths := congrArg List.length same
  revert lengths
  decide +kernel

end FinishedCall
end KanasSensors
