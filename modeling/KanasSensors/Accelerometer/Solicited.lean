import KanasSensors.Accelerometer.Flush

/-! Flush completions against the requests that solicit them.

The bits of `mFlushed` are answered without a look at who set them. A completion is
therefore solicited exactly where every bit was set by a request of an enabled sensor:
the constructor has to have found the word zero, and no request may have been accepted
on the strength of another sensor's bit.
-/

set_option autoImplicit false

namespace KanasSensors

open Foundation

variable {F : Type}

/-- The object, and for each handle whether a `flush` call made while its sensor was
enabled has returned 0 and is not answered yet. -/
structure AskLedger (F : Type) where
  acc : Accelerometer F
  isOpen : Int → Bool

namespace FlushState

theorem completions_any (mFlushed : BitVec 32) (handle : Int) :
    (completions (F := F) mFlushed).any (·.completes handle) = true ↔
      ∃ i : Nat, (i : Int) = handle ∧ BitMask.test mFlushed i = true := by
  simp only [completions, List.any_map, List.any_eq_true, BitMask.mem_positions, Function.comp_apply,
    flushComplete, SensorsEvent.completes, beq_iff_eq]
  exact exists_congr fun i => and_comm

end FlushState

namespace AskLedger

variable [FloatArith F]

def note (l : AskLedger F) (reply : Reply F) : Call → Int → Bool
  | .flush handle =>
    if reply.value = 0 ∧ l.acc.getEnable handle = 1 then Function.update l.isOpen handle true
    else l.isOpen
  | _ => fun handle => l.isOpen handle && !reply.stored.any (·.completes handle)

def asks : Machine (AskLedger F) Call (Reply F) where
  step l call := (⟨(l.acc.answer call).1, l.note (l.acc.answer call).2 call⟩, (l.acc.answer call).2)

/-- Whatever `readEvents` call comes next, it completes open requests only. -/
def Solicited (l : AskLedger F) : Prop :=
  ∀ (count : Int) (data_fd : SysRead InputEvent) (handle : Int),
    (l.acc.readEvents count data_fd).2.stored.any (·.completes handle) = true → l.isOpen handle = true

/-- A `flush` that finds some sensor enabled finds its own enabled, or a request open. -/
def Backed (l : AskLedger F) : Call → Prop
  | .flush handle => l.acc.mEnabled ≠ 0 → l.acc.getEnable handle = 1 ∨ l.isOpen handle = true
  | _ => True

def ShiftDefined : Call → Prop
  | .flush handle => 0 ≤ handle ∧ handle < 32
  | _ => True

instance : DecidablePred ShiftDefined
  | .flush _ => inferInstanceAs (Decidable (_ ∧ _))
  | .setEnable _ _ _ | .setDelay _ _ _ | .batch _ _ _ _ _ | .readEvents _ _ =>
    inferInstanceAs (Decidable True)

theorem readEvents_completes (a : Accelerometer F) (count : Int) (data_fd : SysRead InputEvent)
    (handle : Int) : (a.readEvents count data_fd).2.stored.any (·.completes handle) = true ↔
      a.Reads count data_fd ∧ ∃ i : Nat, (i : Int) = handle ∧ BitMask.test a.mFlushed i = true := by
  by_cases reads : a.Reads count data_fd
  · obtain ⟨ring, -, result⟩ := Accelerometer.readEvents_ok reads
    have none_else : (a.emitted (a.passed count data_fd)).any (·.completes handle) = false := by
      have count_zero := a.emitted_no_completion (a.passed count data_fd) handle
      rw [List.countP_eq_zero] at count_zero
      exact List.any_eq_false.mpr count_zero
    rw [result, List.any_append, none_else, Bool.or_false, FlushState.completions_any]
    exact ⟨fun pending => ⟨reads, pending⟩, fun both => both.2⟩
  · obtain ⟨-, -, nothing⟩ := Accelerometer.readEvents_not_ok reads
    rw [nothing]
    constructor
    · intro impossible
      cases impossible
    · intro both
      exact absurd both.1 reads

theorem solicited_iff_bits (l : AskLedger F) :
    l.Solicited ↔ ∀ i : Nat, BitMask.test l.acc.mFlushed i = true → l.isOpen i = true := by
  constructor
  · intro solicited i pending
    apply solicited 1 (.ofQueue [] 0) i
    rw [readEvents_completes]
    exact ⟨l.acc.reads_ofQueue (by decide) [] 0, i, rfl, pending⟩
  · intro bits count data_fd handle completed
    obtain ⟨-, i, rfl, pending⟩ := (readEvents_completes _ _ _ _).mp completed
    exact bits i pending

theorem Solicited.of_same {l next : AskLedger F} (solicited : l.Solicited)
    (mFlushed : next.acc.mFlushed = l.acc.mFlushed)
    (isOpen : ∀ handle, next.isOpen handle = l.isOpen handle) : next.Solicited := by
  rw [solicited_iff_bits] at solicited ⊢
  intro i pending
  rw [isOpen]
  rw [mFlushed] at pending
  exact solicited i pending

theorem Solicited.flush_iff {l : AskLedger F} (solicited : l.Solicited) {handle : Int}
    (defined : 0 ≤ handle ∧ handle < 32) :
    (asks.step l (.flush handle)).1.Solicited ↔ l.Backed (.flush handle) := by
  by_cases idle : l.acc.mEnabled = 0
  · -- refused: nothing is set, nothing is opened
    have refused : l.acc.flush handle = (l.acc, -Errno.einval.code) := by
      rw [Accelerometer.flush, if_neg (not_not.mpr idle)]
    have kept : (asks.step l (.flush handle)).1.Solicited := by
      apply solicited.of_same
      · simp only [asks, Accelerometer.answer, refused]
      · simp [asks, Accelerometer.answer, refused, note, Errno.einval]
    exact ⟨fun _ accepted => absurd idle accepted, fun _ => kept⟩
  · have accepted : l.acc.flush handle =
        ({ l.acc with mFlushed := BitMask.set l.acc.mFlushed handle.toNat }, 0) := by
      rw [Accelerometer.flush, if_pos idle]
    have inside : handle.toNat < 32 := by omega
    have own : ((handle.toNat : Nat) : Int) = handle := Int.toNat_of_nonneg defined.1
    rw [solicited_iff_bits] at solicited ⊢
    simp only [asks, Accelerometer.answer, accepted, note, true_and, BitMask.test_set _ inside,
      Bool.or_eq_true, decide_eq_true_eq]
    constructor
    · intro bits _
      have asked := bits handle.toNat (.inr rfl)
      rw [own] at asked
      split at asked
      · next enabled => exact .inl enabled
      · exact .inr asked
    · intro backed i pending
      -- the bit just set is the handle's; the others were solicited before
      have before : i = handle.toNat ∨ l.isOpen i = true := pending.symm.imp id (solicited i)
      rcases before with rfl | still
      · rw [own]
        split
        · exact Function.update_self ..
        · next disabled => exact (backed idle).resolve_left disabled
      · split
        · by_cases same : (i : Int) = handle
          · rw [same]
            exact Function.update_self ..
          · rw [Function.update_of_ne same]
            exact still
        · exact still

theorem Solicited.step_iff {l : AskLedger F} (call : Call) (defined : ShiftDefined call)
    (solicited : l.Solicited) : (asks.step l call).1.Solicited ↔ l.Backed call := by
  cases call with
  | flush handle => exact solicited.flush_iff defined
  | readEvents count data_fd =>
    refine ⟨fun _ => trivial, fun _ => ?_⟩
    by_cases reads : l.acc.Reads count data_fd
    · -- every bit is answered, so none is left to solicit
      obtain ⟨ring, -, result⟩ := Accelerometer.readEvents_ok reads
      rw [solicited_iff_bits]
      intro i pending
      simp only [asks, Accelerometer.answer, result] at pending
      rw [show (0 : BitVec 32) = 0#32 from rfl, BitMask.test_zero] at pending
      cases pending
    · obtain ⟨⟨ring, -, same⟩, -, nothing⟩ := Accelerometer.readEvents_not_ok reads
      apply solicited.of_same
      · simp only [asks, Accelerometer.answer, same]
      · intro handle
        simp only [asks, Accelerometer.answer, note, nothing, List.any_nil, Bool.not_false, Bool.and_true]
  | _ =>
    refine ⟨fun _ => trivial, fun _ => ?_⟩
    refine solicited.of_same (l.acc.answer_mFlushed ?_ ?_) fun other => Bool.and_true _
    · intro handle same
      cases same
    · intro count data_fd same
      cases same

theorem Solicited.completes_open {l : AskLedger F} (solicited : l.Solicited) (call : Call) {handle : Int}
    (completed : (asks.step l call).2.stored.any (·.completes handle) = true) : l.isOpen handle = true := by
  cases call with
  | readEvents count data_fd => exact solicited count data_fd handle completed
  | setEnable | setDelay | batch | flush => cases completed

/-- Where every state of a run is solicited, each completion that a call of it stores answers
an open request. -/
theorem stored_solicited {s : AskLedger F} {calls : List Call} (start : s.Solicited)
    (later : ∀ t ∈ asks.trace s calls, t.target.Solicited) :
    ∀ t ∈ asks.trace s calls, ∀ handle, t.output.stored.any (·.completes handle) = true →
      t.source.isOpen handle = true := by
  induction calls generalizing s with
  | nil => exact fun t member => absurd member List.not_mem_nil
  | cons call rest ih =>
    rw [Machine.trace_cons, List.forall_mem_cons] at later ⊢
    exact ⟨fun handle => start.completes_open call, ih later.1 later.2⟩

theorem create_solicited_iff (memory : Accelerometer.Uninitialised) (files : Sysfs) :
    Solicited (F := F) ⟨.create memory files, fun _ => false⟩ ↔ memory.mFlushed = 0 := by
  rw [solicited_iff_bits]
  simp only [Accelerometer.create, Bool.false_eq_true, imp_false, Bool.not_eq_true]
  exact (BitMask.eq_zero_iff memory.mFlushed).symm

/-- In any run of a new object, before and after every call the completions of a next
`readEvents` are solicited exactly when the constructor found `mFlushed` zero and every
`flush` accepted in the run is backed by its own sensor or an open request. -/
theorem completions_solicited_iff (memory : Accelerometer.Uninitialised) (files : Sysfs)
    (calls : List Call) (defined : ∀ call ∈ calls, ShiftDefined call) :
    let start : AskLedger F := ⟨.create memory files, fun _ => false⟩
    (start.Solicited ∧ ∀ t ∈ asks.trace start calls, t.target.Solicited) ↔
      memory.mFlushed = 0 ∧ ∀ t ∈ asks.trace start calls, t.source.Backed t.input := by
  intro start
  have run := asks.trace_iff_of ShiftDefined Solicited Backed
    (fun l call allowed solicited => solicited.step_iff call allowed) start calls defined
  constructor
  · rintro ⟨fresh, always⟩
    exact ⟨(create_solicited_iff memory files).mp fresh, (run fresh).mp always⟩
  · rintro ⟨zero, backed⟩
    have fresh : start.Solicited := (create_solicited_iff memory files).mpr zero
    exact ⟨fresh, (run fresh).mpr backed⟩

theorem completions_solicited_of_enabled :
    let start : AskLedger ℚ := ⟨Accelerometer.blank, fun _ => false⟩
    let calls : List Call := [.setEnable idA 1 .written, .flush idA, .readEvents 8 (.ofQueue [] 0)]
    (start.Solicited ∧ ∀ t ∈ asks.trace start calls, t.target.Solicited) ↔
      (0 : BitVec 32) = 0 ∧ ∀ t ∈ asks.trace start calls, t.source.Backed t.input :=
  completions_solicited_iff ⟨0, fun _ => 0, fun _ => ⟨⟨0, 0⟩, 0, 0, 0⟩⟩ _ _ (by decide)

/-- With only the accelerometer enabled, a request for linear acceleration is accepted. -/
theorem completion_of_disabled : ¬∀ (memory : Accelerometer.Uninitialised) (calls : List Call),
    (∀ call ∈ calls, ShiftDefined call) →
    let start : AskLedger ℚ := ⟨.create memory ⟨"0", "0", "0"⟩, fun _ => false⟩
    start.Solicited ∧ ∀ t ∈ asks.trace start calls, t.target.Solicited := by
  intro always
  have solicited := (always ⟨0, fun _ => 0, fun _ => ⟨⟨0, 0⟩, 0, 0, 0⟩⟩
    [.setEnable idA 1 .written, .flush idLA] (by decide)).2 _ (List.mem_cons_of_mem _ List.mem_cons_self)
    8 (.ofQueue [] 0) idLA (by decide +kernel)
  revert solicited
  decide +kernel

end AskLedger
end KanasSensors
