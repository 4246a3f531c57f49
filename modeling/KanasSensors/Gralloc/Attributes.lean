import KanasSensors.Gralloc.Ownership

/-! What is told of a buffer: what it was allocated with, until it is freed. -/

set_option autoImplicit false

namespace Gralloc

open Foundation

def Buffer.sameAs {H : Type} (buffer other : Buffer H) : Prop :=
  buffer = { other with mReferenceCount := buffer.mReferenceCount }

namespace Process

variable {H : Type} [DecidableEq H]

def Ends (handle : H) (call : ProcessCall H) : Prop :=
  call = .module (.free handle) ∨ call = .module (.unregisterBuffer handle)

section
variable {s t : Process H}

def Keeps (handle : H) (s t : Process H) : Prop :=
  ∃ calls, t.log = s.log ++ calls ∧ ((∀ call ∈ calls, ¬Ends handle call) → ∀ buffer,
    s.adapter.mBuffers handle = some buffer → ∃ now, t.adapter.mBuffers handle = some now ∧ now.sameAs buffer)

theorem Happens.keeps (settled : s.Settled) (happens : Happens s t) (handle : H) : Keeps handle s t := by
  cases happens with
  | idle adapter same descriptors calls nothing =>
    exact ⟨calls, rfl, fun _ buffer present => ⟨buffer, (congrFun same handle).trans present, rfl⟩⟩
  | opened other call absent begins elsewhere =>
    exact ⟨[call], rfl, fun _ buffer present => ⟨buffer, present, rfl⟩⟩
  | discarded other mine => exact ⟨_, rfl, fun _ buffer present => ⟨buffer, present, rfl⟩⟩
  | born adapter new call absent one entries descriptors begins elsewhere =>
    refine ⟨[call], rfl, fun _ buffer present => ?_⟩
    have own : handle ≠ new.mHandle := by
      rintro rfl
      cases absent.symm.trans present
    exact ⟨buffer, (congrFun entries handle).trans ((Function.update_of_ne own _ _).trans present), rfl⟩
  | counted other entry count references there right positive =>
    refine ⟨[], (List.append_nil _).symm, fun _ buffer present => ?_⟩
    by_cases own : handle = other
    · subst own
      cases there.symm.trans present
      exact ⟨_, Function.update_self _ _ _, rfl⟩
    · exact ⟨buffer, (Function.update_of_ne own _ _).trans present, rfl⟩
  | ended other entry there last =>
    refine ⟨_, rfl, fun spared buffer present => ?_⟩
    have named := ((settled.handles other).inUse entry there).1
    by_cases own : handle = other
    · subst own
      have gone : ∃ call ∈ (Gralloc1On0Adapter.disposal entry).map ProcessCall.module, Ends handle call := by
        simp only [Gralloc1On0Adapter.disposal, named]
        cases entry.mWasAllocated <;> simp [Ends]
      obtain ⟨call, member, ends⟩ := gone
      exact absurd ends (spared call member)
    · exact ⟨buffer, (Function.update_of_ne own _ _).trans present, rfl⟩

omit [DecidableEq H] in
theorem Keeps.trans {handle : H} {u : Process H} (first : Keeps handle s t) (second : Keeps handle t u) :
    Keeps handle s u := by
  obtain ⟨calls, log, kept⟩ := first
  obtain ⟨more, later, again⟩ := second
  refine ⟨calls ++ more, by rw [later, log, List.append_assoc], fun spared buffer present => ?_⟩
  rw [List.forall_mem_append] at spared
  obtain ⟨now, there, same⟩ := kept spared.1 buffer present
  obtain ⟨last, present, alike⟩ := again spared.2 now there
  refine ⟨last, present, ?_⟩
  unfold Buffer.sameAs at *
  rw [alike, same]

theorem steps_keep (settled : s.Settled) (chain : Relation.ReflTransGen Happens s t) (handle : H) :
    Keeps handle s t := by
  induction chain with
  | refl => exact ⟨[], (List.append_nil _).symm, fun _ buffer present => ⟨buffer, present, rfl⟩⟩
  | tail before happens ih => exact ih.trans (happens.keeps (settled.steps before) handle)

theorem run_happens (convert : UsageConversion) (settled : s.Settled) (acts : List (Act H))
    (sane : ∀ t ∈ (process convert).trace s acts, t.source.Sane t.input) :
    Relation.ReflTransGen Happens s ((process convert).run s acts) := by
  induction acts generalizing s with
  | nil => exact .refl
  | cons a rest ih =>
    rw [Machine.trace_cons, List.forall_mem_cons] at sane
    have first := act_happens convert settled.descriptors settled.handles sane.1
    exact first.trans (ih (settled.steps first) sane.2)

end

/-- What every query of the device says of a buffer that was allocated. The device does not
look for the layers of a buffer on the adapter, and says so. -/
structure Answers (a : Gralloc1On0Adapter H) (handle : H) (width height format : BitVec 32)
    (producerUsage consumerUsage id : BitVec 64) (stride : BitVec 32) : Prop where
  backingStore : Device.getBackingStore a handle = (.noError, some id)
  consumerUsage : Device.getConsumerUsage a handle = (.noError, some consumerUsage)
  dimensions : Device.getDimensions a handle = (.noError, some (width, height))
  format : Device.getFormat a handle = (.noError, some format)
  layerCount : Device.getLayerCount a handle = (.unsupported, none)
  producerUsage : Device.getProducerUsage a handle = (.noError, some producerUsage)
  stride : Device.getStride a handle = (.noError, some stride)

omit [DecidableEq H] in
theorem answers_of_entry {a : Gralloc1On0Adapter H} {handle : H} {buffer : Buffer H}
    (present : a.mBuffers handle = some buffer) :
    Answers a handle buffer.mDescriptor.width buffer.mDescriptor.height buffer.mDescriptor.format
      buffer.mDescriptor.producerUsage buffer.mDescriptor.consumerUsage buffer.mStore buffer.mStride := by
  have told : ∀ {Value : Type} (member : Buffer H → Value),
      Device.query (a.callBufferFunction member handle) = (.noError, some (member buffer)) := by
    intro Value member
    rw [Device.query_callBufferFunction, Gralloc1On0Adapter.callBufferFunction, Gralloc1On0Adapter.getBuffer,
      present]
  exact ⟨told _, told _, told _, told _, rfl, told _, told _⟩

/-- A request for a buffer of one layer and of no size zero, with a usage of gralloc0. -/
structure AllocationRequest where
  width : BitVec 32
  height : BitVec 32
  format : BitVec 32
  layerCount : BitVec 32
  usage : BitVec 32
  graphicBufferId : BitVec 64
  wide : 0 < width
  high : 0 < height
  single : layerCount ≤ 1

def AllocationRequest.met (r : AllocationRequest) (handle : H) (stride : BitVec 32) : Act H :=
  .allocate r.width r.height r.format r.layerCount (r.usage.setWidth 64) r.graphicBufferId
    (.allocated handle stride)

theorem asked_usage (convert : UsageConversion) (id : BitVec 64) (r : AllocationRequest) :
    GraphicBufferAllocator.asked convert id r.width r.height r.format (r.usage.setWidth 64) =
      ⟨id, r.width, r.height, r.format, 1, (convert.convert0To1 r.usage).1,
        (convert.convert0To1 r.usage).2⟩ := by
  have whole : (r.usage.setWidth 64).setWidth 32 = r.usage := by
    rw [BitVec.setWidth_setWidth_of_le _ (by decide), BitVec.setWidth_eq]
  rw [GraphicBufferAllocator.asked, whole]

/-- A request that the module meets succeeds, and every query tells what was asked for and given
from then on, whatever else is done, until the module is told to free the handle. -/
theorem allocated_answers (convert : UsageConversion) (before after : List (Act H)) (r : AllocationRequest)
    (handle : H) (stride : BitVec 32)
    (sane : ∀ t ∈ (process convert).trace start (before ++ r.met handle stride :: after),
      t.source.Sane t.input) :
    let given := ((process convert).run start before).act convert (r.met handle stride)
    let t := (process convert).run given.1 after
    given.2 = .noError ∧ ∀ calls, t.log = given.1.log ++ calls → (∀ call ∈ calls, ¬Ends handle call) →
      Answers t.adapter handle r.width r.height r.format (convert.convert0To1 r.usage).1
        (convert.convert0To1 r.usage).2 r.graphicBufferId stride := by
  intro given t
  rw [Machine.trace_append, List.forall_mem_append, Machine.trace_cons, List.forall_mem_cons] at sane
  obtain ⟨earlier, now, later⟩ := sane
  have settled : ((process convert).run start before).Settled :=
    start_settled.steps (run_happens convert start_settled before earlier)
  have absent : ((process convert).run start before).adapter.mBuffers handle = none :=
    (stateOf_absent_iff.mp now).1
  have less : ¬1 < r.layerCount := by
    rw [BitVec.not_lt]
    exact r.single
  have whole := GraphicBufferAllocator.allocate_eq convert r.width r.height r.format r.layerCount
    (r.usage.setWidth 64) r.graphicBufferId (.allocated handle stride) (settled.descriptors _)
  simp only [less, if_false, Gralloc1On0Adapter.allocate, Session.emplace_absent absent] at whole
  have entry : given.1.adapter.mBuffers handle = some (.create handle r.graphicBufferId
      (GraphicBufferAllocator.asked convert ((process convert).run start before).adapter.sNextBufferDescriptorId
        r.width r.height r.format (r.usage.setWidth 64)) stride true) := by
    simp [given, act, AllocationRequest.met, whole]
  refine ⟨by simp [given, act, AllocationRequest.met, whole], ?_⟩
  intro calls log spared
  have after_settled := settled.steps (act_happens convert settled.descriptors settled.handles now)
  obtain ⟨all, grown, kept⟩ := steps_keep after_settled (run_happens convert after_settled after later) handle
  have same : all = calls := List.append_cancel_left (grown.symm.trans log)
  obtain ⟨buffer, present, alike⟩ := kept (same ▸ spared) _ entry
  have answers := answers_of_entry present
  rw [alike, asked_usage] at answers
  exact answers

theorem allocated_answers_shared :
    let r : AllocationRequest := ⟨16, 32, 1, 1, 0x302, 9, by decide, by decide, by decide⟩
    let given := (start : Process Nat).act .masked (r.met 5 64)
    let t := (process .masked).run given.1 [.retain 5, .freeBuffer 5, .receive 6]
    given.2 = .noError ∧ Answers t.adapter 5 16 32 1 0x202 0x102 9 64 := by
  have whole := allocated_answers .masked [] [.retain 5, .freeBuffer 5, .receive (6 : Nat)]
    ⟨16, 32, 1, 1, 0x302, 9, by decide, by decide, by decide⟩ 5 64
    (by
      intro t member
      simp only [List.nil_append, Machine.trace, List.mem_cons, List.not_mem_nil, or_false] at member
      rcases member with rfl | rfl | rfl | rfl
      · rfl
      · exact (by decide : (1 : Nat) + 1 < 2 ^ 32)
      · trivial
      · rfl)
  exact ⟨whole.1, whole.2 [.nativeHandleCreate 6] rfl (by simp [Ends])⟩

end Process
end Gralloc
