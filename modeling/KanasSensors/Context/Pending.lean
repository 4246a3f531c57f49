import KanasSensors.Accelerometer.Solicited
import KanasSensors.Context.Device
import KanasSensors.Context.Waiting

/-! A pending flush against the waits of `pollEvents`.

The driver answers a flush in its `readEvents`, behind the `read` of the reader, and the
device calls that only for a readiness it has cached. So the completion can wait for sensor
data in two places: in `poll` when no readiness is cached, and in `read` when one is.
-/

set_option autoImplicit false

namespace KanasSensors

open Foundation

variable {F : Type}

namespace PollState

variable {σ : Type} (base : SensorBase σ F)

def delivered (h : Sensor) (s : PollState σ F) : Bool := s.slots.any fun slot => slot.2.completes h.handle

theorem delivered_read {h : Sensor} {s : PollState σ F} (done : s.delivered h = true)
    (fd : SysRead InputEvent) : (s.readSensors base fd).delivered h = true := by
  obtain ⟨slot, member, own⟩ := List.any_eq_true.mp done
  exact List.any_eq_true.mpr ⟨slot, (s.readSensors_slots base fd).mem member, own⟩

theorem delivered_poll {h : Sensor} {s t : PollState σ F} (same : s.SameBuffer t) :
    t.delivered h = s.delivered h := by
  rw [delivered, delivered, same.slots]

end PollState

open PollState

variable [FloatArith F]

theorem readEvents_completes_sensor (a : Accelerometer F) (h : Sensor) (count : Int)
    (fd : SysRead InputEvent) : (a.readEvents count fd).2.stored.any (·.completes h.handle) = true ↔
      a.Reads count fd ∧ BitMask.test a.mFlushed h.index = true := by
  rw [AskLedger.readEvents_completes, h.handle_eq_index]
  simp only [Int.natCast_inj, exists_eq_left]

theorem readEvents_idle {a : Accelerometer F} {i : Nat} (idle : BitMask.test a.mFlushed i = false)
    (count : Int) (fd : SysRead InputEvent) :
    BitMask.test (a.readEvents count fd).1.mFlushed i = false := by
  by_cases reads : a.Reads count fd
  · obtain ⟨ring, -, result⟩ := Accelerometer.readEvents_ok reads
    rw [result]
    exact BitMask.test_zero i
  · obtain ⟨⟨ring, -, same⟩, -⟩ := Accelerometer.readEvents_not_ok reads
    rw [same]
    exact idle

theorem delivered_half_iff {h : Sensor} (s : PollState (Accelerometer F) F) (fd : SysRead InputEvent) :
    (s.readSensors Accelerometer.base fd).delivered h = true ↔ s.delivered h = true ∨
      (s.wantsRead Accelerometer.base = true ∧ s.ctx.acc.Reads s.count fd ∧
        BitMask.test s.ctx.acc.mFlushed h.index = true) := by
  by_cases wants : s.wantsRead Accelerometer.base = true
  · have placed := place_events s.data (s.ctx.acc.readEvents s.count fd).2.stored
    have completes := readEvents_completes_sensor s.ctx.acc h s.count fd
    rw [← placed, List.any_map] at completes
    rw [readSensors, if_pos wants, delivered, List.any_append, Bool.or_eq_true]
    apply or_congr Iff.rfl
    rw [and_iff_right wants]
    exact completes
  · rw [(readSensors_idle Accelerometer.base fd wants).2]
    exact ⟨.inl, fun done => done.resolve_right fun read => wants read.1⟩

theorem wantsRead_iff (s : PollState (Accelerometer F) F) :
    s.wantsRead Accelerometer.base = true ↔ s.count ≠ 0 ∧ BitMask.test s.ctx.accRevents pollIn = true := by
  simp [wantsRead, Accelerometer.base]

/-- One round of a call in front of the queue, in which the `read` may fail as well. -/
structure Trial where
  failedRead : Option Errno
  happening : Happening

def Trial.Answered (t : Trial) : Prop := t.failedRead = none ∧ t.happening.failure = none

namespace Polling

variable (p : Polling F)

def tryRead (t : Trial) : SysRead InputEvent :=
  match t.failedRead with
  | some errno => .failing errno
  | none => p.sysRead t.happening

def tried (t : Trial) : PollState (Accelerometer F) F :=
  p.s.readSensors Accelerometer.base (p.tryRead t)

/-- The queue when the poll is issued; a `read` that fails takes nothing from it. -/
def queueAtPoll (t : Trial) : List InputEvent :=
  match t.failedRead with
  | some _ => p.kernel
  | none =>
    let taken := if p.reads then (p.s.ctx.acc.mInputReader.taken (p.sysRead t.happening)).length else 0
    (p.queued t.happening).drop taken

def queueAfter (t : Trial) : List InputEvent := p.queueAtPoll t ++ t.happening.arrivals

def tryPoll (t : Trial) : PollResult :=
  match t.happening.failure with
  | some errno => .failed errno
  | none => .ready (if p.queueAfter t = [] then 0 else 1) t.happening.wake

/-- The poll of the round is made without a timeout and has nothing to report. -/
def pollWaits (t : Trial) : Bool :=
  (p.tried t).count != 0 && (p.tried t).timeout == infinite && (p.tried t).ctx.wakePipe.isEmpty &&
    (p.queueAtPoll t).isEmpty

def attempt (t : Trial) : Progress (Accelerometer F) F :=
  p.s.round Accelerometer.base ⟨p.tryRead t, p.tryPoll t⟩

/-- The states in which a call stops: at each wait in `read` or in `poll`, and at its return. -/
def stops (p : Polling F) : List Trial → List (PollState (Accelerometer F) F)
  | [] => if p.readWaits then [p.s] else []
  | t :: rest => (if p.readWaits then [p.s] else []) ++ (if p.pollWaits t then [p.tried t] else []) ++
    match p.attempt t with
    | .again next => (Polling.mk next (p.queueAfter t)).stops rest
    | .returned last _ => [last]

def reached (p : Polling F) : List Trial → PollState (Accelerometer F) F
  | [] => p.s
  | t :: rest =>
    match p.attempt t with
    | .again next => (Polling.mk next (p.queueAfter t)).reached rest
    | .returned last _ => last

/-- A call has stored the completion wherever it stops, and within two rounds. -/
structure Prompt (h : Sensor) (p : Polling F) (trials : List Trial) : Prop where
  stops : ∀ s ∈ p.stops trials, s.delivered h = true
  soon : 2 ≤ trials.length → (p.reached trials).delivered h = true

theorem attempt_answered (happening : Happening) : p.attempt ⟨none, happening⟩ = p.round happening := rfl

/-- Where the reads do not fail, trials are rounds of the device in its world. -/
theorem world_eq_reached (happenings : List Happening) :
    (p.world happenings).ctx = (p.reached (happenings.map (Trial.mk none))).ctx := by
  induction happenings generalizing p with
  | nil => rfl
  | cons happening rest ih =>
    rw [List.map_cons, Polling.world, Polling.reached, attempt_answered]
    cases p.round happening with
    | again next => exact ih _
    | returned last value => rfl

variable {p} {h : Sensor}

theorem attempt_delivered {t : Trial} (done : (p.tried t).delivered h = true) :
    (p.attempt t).state.delivered h = true :=
  (delivered_poll (pollFds_sameBuffer _ (p.tryPoll t))).trans done

theorem stops_of_tried {t : Trial} {rest : List Trial}
    (top : p.readWaits = true → p.s.delivered h = true) (done : (p.tried t).delivered h = true)
    (later : ∀ next : PollState (Accelerometer F) F, next.delivered h = true →
      (∀ s ∈ (Polling.mk next (p.queueAfter t)).stops rest, s.delivered h = true) ∧
        ((Polling.mk next (p.queueAfter t)).reached rest).delivered h = true) :
    (∀ s ∈ p.stops (t :: rest), s.delivered h = true) ∧ (p.reached (t :: rest)).delivered h = true := by
  have whole := attempt_delivered done
  have front : ∀ s ∈ (if p.readWaits then [p.s] else []) ++ (if p.pollWaits t then [p.tried t] else []),
      s.delivered h = true := by
    intro s member
    rcases List.mem_append.mp member with atRead | atPoll
    · split at atRead
      · next waits => exact List.mem_singleton.mp atRead ▸ top waits
      · cases atRead
    · split at atPoll
      · exact List.mem_singleton.mp atPoll ▸ done
      · cases atPoll
  rw [Polling.stops, Polling.reached, List.forall_mem_append]
  cases result : p.attempt t with
  | again next =>
    rw [result] at whole
    exact ⟨⟨front, (later next whole).1⟩, (later next whole).2⟩
  | returned last value =>
    rw [result] at whole
    exact ⟨⟨front, fun s member => List.mem_singleton.mp member ▸ whole⟩, whole⟩

theorem stops_of_delivered (trials : List Trial) (p : Polling F) (done : p.s.delivered h = true) :
    (∀ s ∈ p.stops trials, s.delivered h = true) ∧ (p.reached trials).delivered h = true := by
  induction trials generalizing p with
  | nil =>
    refine ⟨fun s member => ?_, done⟩
    rw [Polling.stops] at member
    split at member
    · exact List.mem_singleton.mp member ▸ done
    · cases member
  | cons t rest ih =>
    exact stops_of_tried (fun _ => done) (delivered_read _ done _) fun next stored => ih ⟨next, _⟩ stored

theorem reads_iff : p.reads = true ↔
    (p.s.count ≠ 0 ∧ BitMask.test p.s.ctx.accRevents pollIn = true) ∧ 1 ≤ p.s.count ∧
      0 < p.s.ctx.acc.mInputReader.reader.mFreeSpace := by
  rw [reads, Bool.and_eq_true, Bool.and_eq_true, wantsRead_iff, decide_eq_true_iff, decide_eq_true_iff,
    and_assoc]

theorem readWaits_iff (room : 1 ≤ p.s.count) : p.readWaits = true ↔
    BitMask.test p.s.ctx.accRevents pollIn = true ∧
      0 < p.s.ctx.acc.mInputReader.reader.mFreeSpace ∧ p.kernel = [] := by
  have nonzero : p.s.count ≠ 0 := by omega
  rw [readWaits, Bool.and_eq_true, Polling.reads_iff, List.isEmpty_iff]
  simp only [nonzero, room, ne_eq, not_false_eq_true, true_and, and_assoc]

theorem tryRead_fails_iff (t : Trial) : p.s.ctx.acc.mInputReader.ReadFails (p.tryRead t) ↔
    0 < p.s.ctx.acc.mInputReader.reader.mFreeSpace ∧ t.failedRead ≠ none := by
  obtain ⟨failedRead, happening⟩ := t
  cases failedRead with
  | none => simp [tryRead, sysRead, EventRing.ReadFails, InputEventCircularReader.ReadFails,
      SysRead.ofQueue, ReadResult.succeeded]
  | some errno => simp [tryRead, EventRing.ReadFails, InputEventCircularReader.ReadFails,
      SysRead.failing, ReadResult.succeeded]

theorem tried_delivered_iff (fresh : p.s.delivered h = false) (room : 1 ≤ p.s.count) (t : Trial) :
    (p.tried t).delivered h = true ↔ BitMask.test p.s.ctx.acc.mFlushed h.index = true ∧
      BitMask.test p.s.ctx.accRevents pollIn = true ∧
        (p.s.ctx.acc.mInputReader.reader.mFreeSpace = 0 ∨ t.failedRead = none) := by
  have nonzero : p.s.count ≠ 0 := by omega
  have fails := tryRead_fails_iff (p := p) t
  rw [tried, delivered_half_iff, wantsRead_iff, fresh]
  constructor
  · rintro (impossible | ⟨⟨-, cached⟩, reads, pending⟩)
    · cases impossible
    · refine ⟨pending, cached, ?_⟩
      by_contra neither
      rw [not_or] at neither
      exact reads.filled (fails.mpr ⟨Nat.pos_of_ne_zero neither.1, neither.2⟩)
  · rintro ⟨pending, cached, answered⟩
    refine .inr ⟨⟨nonzero, cached⟩, ⟨room, fun failed => ?_⟩, pending⟩
    obtain ⟨space, error⟩ := fails.mp failed
    rcases answered with full | none_failed
    · omega
    · exact error none_failed

theorem stops_of_ready {t : Trial} (room : 1 ≤ p.s.count)
    (pending : BitMask.test p.s.ctx.acc.mFlushed h.index = true)
    (cached : BitMask.test p.s.ctx.accRevents pollIn = true)
    (ready : p.s.ctx.acc.mInputReader.reader.mFreeSpace = 0 ∨ p.kernel ≠ [] ∧ t.failedRead = none)
    (rest : List Trial) :
    (∀ s ∈ p.stops (t :: rest), s.delivered h = true) ∧ (p.reached (t :: rest)).delivered h = true := by
  by_cases fresh : p.s.delivered h = true
  · exact stops_of_delivered (t :: rest) p fresh
  · have done := (tried_delivered_iff (Bool.eq_false_iff.mpr fresh) room t).mpr
      ⟨pending, cached, ready.imp id And.right⟩
    refine stops_of_tried (fun waits => ?_) done fun next stored => stops_of_delivered rest _ stored
    obtain ⟨-, space, empty⟩ := (readWaits_iff room).mp waits
    rcases ready with full | ⟨queued, -⟩
    · omega
    · exact absurd empty queued

theorem attempt_failed {t : Trial} {errno : Errno} (failed : t.happening.failure = some errno) :
    ∃ last value, p.attempt t = .returned last value ∧ last.slots = (p.tried t).slots := by
  have answer : p.tryPoll t = .failed errno := by rw [tryPoll, failed]
  have unfolded : p.attempt t = (p.tried t).pollFds (p.tryPoll t) := rfl
  rw [unfolded, answer]
  obtain ⟨-, ended⟩ | ⟨error, -, -, ended⟩ | ⟨acc, wake, -, impossible, -⟩ :=
    (p.tried t).pollFds_polls (.failed errno)
  · exact ⟨_, _, ended, rfl⟩
  · exact ⟨_, _, ended, rfl⟩
  · cases impossible

theorem prompt_iff_trial (fresh : p.s.delivered h = false) (room : 1 ≤ p.s.count)
    (failedRead : Option Errno) :
    (∀ happening rest, Prompt h p (⟨failedRead, happening⟩ :: rest)) ↔
      BitMask.test p.s.ctx.acc.mFlushed h.index = true ∧
        BitMask.test p.s.ctx.accRevents pollIn = true ∧
          (p.s.ctx.acc.mInputReader.reader.mFreeSpace = 0 ∨ p.kernel ≠ [] ∧ failedRead = none) := by
  constructor
  · intro prompt
    have stops := (prompt ⟨[], 0, [], some .eio, 0⟩ []).stops
    obtain ⟨last, value, ended, slots⟩ := attempt_failed (p := p)
      (t := ⟨failedRead, ⟨[], 0, [], some .eio, 0⟩⟩) rfl
    rw [Polling.stops, ended, List.forall_mem_append, List.forall_mem_append] at stops
    have stored := stops.2 last List.mem_cons_self
    rw [delivered, slots] at stored
    obtain ⟨pending, cached, answered⟩ := (tried_delivered_iff fresh room _).mp stored
    refine ⟨pending, cached, ?_⟩
    by_contra neither
    rw [not_or, not_and] at neither
    have quiet : p.readWaits ≠ true := by
      intro waits
      rw [if_pos waits] at stops
      have early := stops.1.1 p.s List.mem_cons_self
      rw [fresh] at early
      cases early
    have queued : p.kernel ≠ [] := fun empty =>
      quiet ((readWaits_iff room).mpr ⟨cached, Nat.pos_of_ne_zero neither.1, empty⟩)
    exact neither.2 queued (answered.resolve_left neither.1)
  · rintro ⟨pending, cached, ready⟩ happening rest
    have all := stops_of_ready (t := ⟨failedRead, happening⟩) room pending cached ready rest
    exact ⟨all.1, fun _ => all.2⟩

/-- A call that finds neither readiness nor an event works off the wake pipe, and waits. -/
theorem delivered_of_idle {p : Polling F} (idle : BitMask.test p.s.ctx.accRevents pollIn = false)
    (empty : p.kernel = []) (room : p.s.count ≠ 0) (none_yet : p.s.nbEvents = 0)
    (stops : ∀ trials, (∀ t ∈ trials, t.Answered) → ∀ s ∈ p.stops trials, s.delivered h = true) :
    p.s.delivered h = true := by
  let quiet (wake : BitVec 16) : Trial := ⟨none, ⟨[], 0, [], none, wake⟩⟩
  have unread : ∀ {p : Polling F} wake, BitMask.test p.s.ctx.accRevents pollIn = false →
      p.tried (quiet wake) = p.s := by
    intro p wake idle
    apply (readSensors_idle Accelerometer.base _ _).2
    rw [wantsRead_iff, idle]
    exact fun wants => Bool.false_ne_true wants.2
  have still : ∀ {p : Polling F} wake, BitMask.test p.s.ctx.accRevents pollIn = false →
      p.kernel = [] → p.queueAtPoll (quiet wake) = [] := by
    intro p wake idle empty
    have unasked : p.reads = false := by simp [reads, wantsRead, Accelerometer.base, idle]
    simp [queueAtPoll, queued, readWaits, quiet, unasked, empty]
  induction bytes : p.s.ctx.wakePipe generalizing p with
  | nil =>
    have waits : p.pollWaits (quiet 0) = true := by
      have none_queued : (p.queueAtPoll (quiet 0)).isEmpty = true := by rw [still 0 idle empty]; rfl
      rw [pollWaits, none_queued, unread 0 idle]
      simp [room, timeout, none_yet, bytes]
    have all := stops [quiet 0] fun t member => List.mem_singleton.mp member ▸ ⟨rfl, rfl⟩
    rw [Polling.stops, List.forall_mem_append, List.forall_mem_append, if_pos waits] at all
    have stored := all.1.2 _ List.mem_cons_self
    rwa [unread 0 idle] at stored
  | cons byte rest ih =>
    have after : p.queueAfter (quiet 1) = [] := by rw [queueAfter, still 1 idle empty]; rfl
    have woken : p.attempt (quiet 1) = .again (p.s.polled 0 1) := by
      have answer : p.tryPoll (quiet 1) = .ready 0 1 := by rw [tryPoll, after]; rfl
      have one : (p.s.polled 0 1).n = 1 := rfl
      have unfolded : p.attempt (quiet 1) = (p.tried (quiet 1)).pollFds (p.tryPoll (quiet 1)) := rfl
      rw [unfolded, unread 1 idle, answer, pollFds, if_pos room]
      exact if_pos ⟨by rw [one]; decide, room⟩
    rw [← delivered_poll (s := p.s) (t := p.s.polled 0 1) ⟨rfl, rfl, rfl, rfl⟩]
    apply ih (p := ⟨p.s.polled 0 1, []⟩) (by rw [polled_accRevents]; rfl) rfl room none_yet
    · intro trials answered s member
      apply stops (quiet 1 :: trials) (List.forall_mem_cons.mpr ⟨⟨rfl, rfl⟩, answered⟩)
      rw [Polling.stops, woken, after]
      exact List.mem_append_right _ member
    · rw [polled_wakePipe, bytes]
      rfl

theorem reached_undelivered (trials : List Trial) {p : Polling F} (fresh : p.s.delivered h = false)
    (idle : BitMask.test p.s.ctx.acc.mFlushed h.index = false) : (p.reached trials).delivered h = false := by
  induction trials generalizing p with
  | nil => exact fresh
  | cons t rest ih =>
    have half : (p.tried t).delivered h = false ∧
        BitMask.test (p.tried t).ctx.acc.mFlushed h.index = false := by
      constructor
      · apply Bool.eq_false_iff.mpr
        rw [tried, Ne, delivered_half_iff, fresh, idle]
        simp
      · by_cases wants : p.s.wantsRead Accelerometer.base = true
        · rw [tried, readSensors, if_pos wants]
          exact readEvents_idle idle _ _
        · rw [tried, (readSensors_idle Accelerometer.base _ wants).2]
          exact idle
    have whole : (p.attempt t).state.delivered h = false ∧
        BitMask.test (p.attempt t).state.ctx.acc.mFlushed h.index = false :=
      ⟨(delivered_poll (pollFds_sameBuffer _ (p.tryPoll t))).trans half.1,
        (congrArg (fun a : Accelerometer F => BitMask.test a.mFlushed h.index)
          (pollFds_acc _ (p.tryPoll t))).trans half.2⟩
    rw [Polling.reached]
    cases result : p.attempt t with
    | again next =>
      rw [result] at whole
      exact ih (p := ⟨next, p.queueAfter t⟩) whole.1 whole.2
    | returned last value =>
      rw [result] at whole
      exact whole.1

theorem attempt_queued {t : Trial} (answered : t.Answered) (room : p.s.count ≠ 0)
    (uncached : ¬BitMask.test p.s.ctx.accRevents pollIn = true) (queued : p.kernel ≠ []) :
    p.readWaits = false ∧ p.pollWaits t = false ∧ p.queueAfter t ≠ [] ∧
      p.attempt t = .again (p.s.polled 1 t.happening.wake) := by
  have idle : ¬p.s.wantsRead Accelerometer.base = true := fun wants => uncached (wantsRead_iff _ |>.mp wants).2
  have unasked : p.reads = false := by simp [reads, idle]
  have tried : p.tried t = p.s := (readSensors_idle Accelerometer.base _ idle).2
  have same : p.queueAtPoll t = p.kernel := by
    simp [queueAtPoll, answered.1, Polling.queued, readWaits, unasked]
  have still : p.queueAfter t ≠ [] := by
    rw [queueAfter, same]
    exact fun empty => queued (List.append_eq_nil_iff.mp empty).1
  refine ⟨by simp [readWaits, unasked], by simp [pollWaits, same, queued], still, ?_⟩
  have answer : p.tryPoll t = .ready 1 t.happening.wake := by
    rw [tryPoll, answered.2]
    exact congrArg (PollResult.ready · _) (if_neg still)
  have unfolded : p.attempt t = (p.tried t).pollFds (p.tryPoll t) := rfl
  have reported : (p.s.polled 1 t.happening.wake).n ≠ 0 :=
    fun none => absurd (polled_n_eq_zero none).1 (by decide)
  rw [unfolded, tried, answer, pollFds, if_pos room]
  exact if_pos ⟨reported, room⟩

theorem prompt_nil (quiet : p.readWaits = false) : Prompt h p [] := by
  refine ⟨fun s member => ?_, fun two => absurd two (by decide)⟩
  rw [Polling.stops, quiet] at member
  cases member

theorem prompt_of_queued {t : Trial} {rest : List Trial} (room : 1 ≤ p.s.count)
    (pending : BitMask.test p.s.ctx.acc.mFlushed h.index = true)
    (uncached : ¬BitMask.test p.s.ctx.accRevents pollIn = true) (queued : p.kernel ≠ [])
    (answered : ∀ t' ∈ t :: rest, t'.Answered) : Prompt h p (t :: rest) := by
  rw [List.forall_mem_cons] at answered
  obtain ⟨atRead, atPoll, still, again⟩ := attempt_queued answered.1 (by omega) uncached queued
  let q : Polling F := ⟨p.s.polled 1 t.happening.wake, p.queueAfter t⟩
  have stops : p.stops (t :: rest) = q.stops rest := by
    rw [Polling.stops, again, atRead, atPoll]
    rfl
  have reached : p.reached (t :: rest) = q.reached rest := by rw [Polling.reached, again]
  cases rest with
  | nil =>
    have quiet : q.readWaits = false := by simp [readWaits, q, still]
    exact ⟨stops ▸ (prompt_nil (h := h) quiet).stops, fun two => absurd two (Nat.lt_irrefl 1)⟩
  | cons second later =>
    have acc : q.s.ctx.acc = p.s.ctx.acc := polled_acc p.s 1 t.happening.wake
    have revents : q.s.ctx.accRevents = 1 := polled_accRevents p.s 1 t.happening.wake
    have all := stops_of_ready (p := q) (t := second) (h := h) room (acc ▸ pending) (by rw [revents]; rfl)
      (.inr ⟨still, (answered.2 second List.mem_cons_self).1⟩) later
    exact ⟨stops ▸ all.1, fun _ => reached ▸ all.2⟩

theorem queued_of_prompt (fresh : p.s.delivered h = false) (room : 1 ≤ p.s.count)
    (none_yet : p.s.nbEvents = 0)
    (stops : ∀ trials, (∀ t ∈ trials, t.Answered) → ∀ s ∈ p.stops trials, s.delivered h = true) :
    p.kernel ≠ [] ∨ BitMask.test p.s.ctx.accRevents pollIn = true ∧
      p.s.ctx.acc.mInputReader.reader.mFreeSpace = 0 := by
  by_contra neither
  rw [not_or, not_not, not_and] at neither
  obtain ⟨empty, space⟩ := neither
  have stored : p.s.delivered h = true := by
    by_cases cached : BitMask.test p.s.ctx.accRevents pollIn = true
    · have waits := (readWaits_iff room).mpr ⟨cached, Nat.pos_of_ne_zero (space cached), empty⟩
      have all := stops [] fun t member => absurd member List.not_mem_nil
      rw [Polling.stops, if_pos waits] at all
      exact all p.s List.mem_cons_self
    · exact delivered_of_idle (Bool.eq_false_iff.mpr cached) empty (by omega) none_yet stops
  rw [fresh] at stored
  cases stored

theorem prompt_iff_answered (fresh : p.s.delivered h = false) (room : 1 ≤ p.s.count)
    (none_yet : p.s.nbEvents = 0) :
    (∀ trials, (∀ t ∈ trials, t.Answered) → Prompt h p trials) ↔
      BitMask.test p.s.ctx.acc.mFlushed h.index = true ∧ (p.kernel ≠ [] ∨
        BitMask.test p.s.ctx.accRevents pollIn = true ∧
          p.s.ctx.acc.mInputReader.reader.mFreeSpace = 0) := by
  constructor
  · intro prompt
    refine ⟨?_, queued_of_prompt fresh room none_yet fun trials answered => (prompt trials answered).stops⟩
    by_contra idle
    let quiet : Trial := ⟨none, ⟨[], 0, [], none, 0⟩⟩
    have answered : ∀ t ∈ [quiet, quiet], t.Answered := by
      intro t member
      simp only [List.mem_cons, List.not_mem_nil, or_false, or_self] at member
      exact member ▸ ⟨rfl, rfl⟩
    have soon := (prompt [quiet, quiet] answered).soon (Nat.le_refl 2)
    rw [reached_undelivered _ fresh (Bool.eq_false_iff.mpr idle)] at soon
    cases soon
  · rintro ⟨pending, ready⟩ trials answered
    cases trials with
    | nil =>
      apply prompt_nil
      rw [← Bool.not_eq_true, readWaits_iff room]
      rintro ⟨-, space, empty⟩
      rcases ready with queued | ⟨-, full⟩
      · exact queued empty
      · omega
    | cons t rest =>
      by_cases cached : BitMask.test p.s.ctx.accRevents pollIn = true
      · have first : t.failedRead = none := (answered t List.mem_cons_self).1
        have all := stops_of_ready (t := t) room pending cached
          (ready.elim (fun queued => .inr ⟨queued, first⟩) fun full => .inl full.2) rest
        exact ⟨all.1, fun _ => all.2⟩
      · exact prompt_of_queued room pending cached (ready.resolve_right fun both => cached both.1) answered

end Polling

open Polling

namespace SensorsPollContext

theorem readSensors_pending {h : Sensor} {s : PollState (Accelerometer F) F}
    (due : s.delivered h = true ∨ BitMask.test s.ctx.acc.mFlushed h.index = true)
    (fd : SysRead InputEvent) :
    (s.readSensors Accelerometer.base fd).delivered h = true ∨
      BitMask.test (s.readSensors Accelerometer.base fd).ctx.acc.mFlushed h.index = true := by
  rcases due with done | pending
  · exact .inl (delivered_read _ done fd)
  · by_cases wants : s.wantsRead Accelerometer.base = true
    · by_cases reads : s.ctx.acc.Reads s.count fd
      · exact .inl ((delivered_half_iff s fd).mpr (.inr ⟨wants, reads, pending⟩))
      · obtain ⟨⟨ring, -, same⟩, -⟩ := Accelerometer.readEvents_not_ok reads
        right
        rw [readSensors, if_pos wants]
        simp only [Accelerometer.base, same]
        exact pending
    · rw [(readSensors_idle Accelerometer.base fd wants).2]
      exact .inr pending

theorem device_pending {c : SensorsPollContext (Accelerometer F)} {h : Sensor}
    (pending : BitMask.test c.acc.mFlushed h.index = true) (call : DeviceCall)
    (unanswered : (c.storedBy call).any (·.completes h.handle) = false) :
    BitMask.test (c.after call).acc.mFlushed h.index = true := by
  cases call with
  | setDelay handle ns outcome =>
    obtain ⟨mDelay, files, same⟩ := c.acc.setDelay_frame handle ns outcome
    rw [after, setDelay_acc, same]
    exact pending
  | batch handle flags period_ns timeout outcome =>
    obtain ⟨mDelay, files, same⟩ := c.acc.batch_frame handle flags period_ns timeout outcome
    rw [after, batch_acc, same]
    exact pending
  | other call =>
    cases call with
    | activate handle enabled outcome wrote =>
      let kept (next : SensorsPollContext (Accelerometer F)) := BitMask.test next.acc.mFlushed h.index = true
      refine settled_rule (P := kept) pending fun next err done => ?_
      obtain ⟨wakePipe, rfl⟩ := activate_frame done
      obtain ⟨files, same⟩ := c.acc.setEnable_frame handle enabled outcome
      exact (congrArg (fun a => BitMask.test a.mFlushed h.index) same).trans pending
    | flush handle =>
      obtain ⟨-, unknown⟩ | ⟨target, rfl, -⟩ := Accelerometer.enableFile_cases handle
      · simp only [after, afterCall, flush, handleToDriver_unknown unknown]
        exact pending
      · have reached : (c.after (.other (.flush target.handle))).acc = (c.acc.flush target.handle).1 := by
          cases target <;> rfl
        rw [reached, c.acc.flush_test target h, pending, ite_self]
    | pollEvents count rounds =>
      have due := ((PollState.start c count).pollEvents_rule Accelerometer.base
        (fun s => s.delivered h = true ∨ BitMask.test s.ctx.acc.mFlushed h.index = true) (fun _ => True)
        (fun s fd held _ => readSensors_pending held fd)
        (fun s t same acc held => by rw [delivered_poll same, acc]; exact held) rounds (.inr pending)
        fun _ _ => trivial).2
      apply due.resolve_left
      rw [storedBy, List.any_map] at unanswered
      exact Bool.eq_false_iff.mp unanswered

theorem flush_pending {c next : SensorsPollContext (Accelerometer F)} {h : Sensor}
    (accepted : c.flush Accelerometer.base h.handle = some (next, 0)) :
    BitMask.test next.acc.mFlushed h.index = true := by
  have result : c.flush Accelerometer.base h.handle =
      some ({ c with acc := (c.acc.flush h.handle).1 }, (c.acc.flush h.handle).2) := by
    cases h <;> rfl
  rw [result, Option.some.injEq, Prod.mk.injEq] at accepted
  rw [← accepted.1, c.acc.flush_test h h, accepted.2]
  simp

end SensorsPollContext
end KanasSensors
