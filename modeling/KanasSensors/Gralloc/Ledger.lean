import Mathlib.Algebra.Group.Nat.Defs
import KanasSensors.Foundation.Protocol
import KanasSensors.Gralloc.Model

/-! The adapter between its clients, who hold references, and the module, whose handles have a
life of their own.

A handle is allocated and freed, or registered, unregistered, closed and deleted, in that order.
Whatever the clients call, the adapter keeps every handle to that order, and ends a handle's
life exactly when the last reference to it is given back.
-/

set_option autoImplicit false

namespace Gralloc

open Foundation

inductive HandleState where
  | absent
  | allocated
  | registered
  | unregistered
  | closed
  deriving DecidableEq

section
variable {H : Type} [DecidableEq H]

def HandleState.step (handle : H) (state : HandleState) : ModuleCall H → Option HandleState
  | .alloc _ _ _ _ given =>
    if given = some handle then if state = .absent then some .allocated else none else some state
  | .free other => if other = handle then if state = .allocated then some .absent else none else some state
  | .registerBuffer other done =>
    if other = handle ∧ done = true then if state = .absent then some .registered else none else some state
  | .unregisterBuffer other =>
    if other = handle then if state = .registered then some .unregistered else none else some state
  | .nativeHandleClose other =>
    if other = handle then if state = .unregistered then some .closed else none else some state
  | .nativeHandleDelete other =>
    if other = handle then if state = .closed then some .absent else none else some state

def lifeOf (handle : H) : Protocol HandleState (ModuleCall H) := ⟨HandleState.step handle⟩

end

/-- The calls that make and end buffers; the setters change descriptors only. -/
inductive Request (H : Type) where
  | createDescriptor
  | destroyDescriptor (descriptor : BitVec 64)
  | set (descriptorId : BitVec 64) (member : Descriptor → Descriptor)
  | allocateWithId (descriptorId store : BitVec 64) (answer : AllocAnswer H)
  | retain (handle : H)
  | release (handle : H)
  | retainGraphicBuffer (graphicBuffer : GraphicBuffer H) (registered : Bool)

namespace Gralloc1On0Adapter

variable {H : Type} [DecidableEq H] (usage : UsageConversion)

def answer (a : Gralloc1On0Adapter H) : Request H → Gralloc1On0Adapter H × Gralloc1Error × List (ModuleCall H)
  | .createDescriptor => (a.createDescriptor.1, a.createDescriptor.2.error, [])
  | .destroyDescriptor descriptor =>
    ((a.destroyDescriptor descriptor).1, (a.destroyDescriptor descriptor).2.error, [])
  | .set descriptorId member =>
    ((a.callDescriptorFunction descriptorId member).1, (a.callDescriptorFunction descriptorId member).2.error, [])
  | .allocateWithId descriptorId store answer =>
    let (a, outcome) := a.allocateWithIdHook usage descriptorId store answer
    (a, outcome.error, outcome.calls)
  | .retain handle =>
    let (a, outcome) := managementHook retain a handle
    (a, outcome.error, outcome.calls)
  | .release handle =>
    let (a, outcome) := managementHook release a handle
    (a, outcome.error, outcome.calls)
  | .retainGraphicBuffer graphicBuffer registered =>
    let (a, outcome) := a.retainGraphicBuffer graphicBuffer registered
    (a, outcome.error, outcome.calls)

def stateOf (a : Gralloc1On0Adapter H) (handle : H) : HandleState :=
  match a.mBuffers handle with
  | none => .absent
  | some buffer => if buffer.mWasAllocated then .allocated else .registered

end Gralloc1On0Adapter

structure Session (H : Type) where
  adapter : Gralloc1On0Adapter H
  log : List (ModuleCall H)
  held : H → Nat

namespace Session

variable {H : Type} [DecidableEq H]

def start : Session H := ⟨.create, [], fun _ => 0⟩

def Request.holding : Request H → Option (H × Int)
  | .allocateWithId _ _ (.allocated handle _) => some (handle, 1)
  | .retain handle => some (handle, 1)
  | .release handle => some (handle, -1)
  | .retainGraphicBuffer graphicBuffer _ => some (graphicBuffer.handle, 1)
  | _ => none

def holdings (held : H → Nat) (request : Request H) (error : Gralloc1Error) : H → Nat :=
  match Request.holding request with
  | none => held
  | some (handle, change) =>
    if error = .noError then Function.update held handle ((held handle : Int) + change).toNat else held

def serve (usage : UsageConversion) (s : Session H) (request : Request H) : Session H × Gralloc1Error :=
  let (adapter, error, calls) := s.adapter.answer usage request
  (⟨adapter, s.log ++ calls, holdings s.held request error⟩, error)

def session (usage : UsageConversion) : Machine (Session H) (Request H) Gralloc1Error := ⟨serve usage⟩

/-- The module gives out a handle that is not in use, and the count of a buffer has room. -/
def Sane (s : Session H) : Request H → Prop
  | .allocateWithId _ _ (.allocated handle _) => s.adapter.mBuffers handle = none
  | .retain handle => s.held handle + 1 < 2 ^ 32
  | .retainGraphicBuffer graphicBuffer _ => s.held graphicBuffer.handle + 1 < 2 ^ 32
  | _ => True

structure Balanced (s : Session H) (handle : H) : Prop where
  life : (lifeOf handle).schedule .absent s.log = some (s.adapter.stateOf handle)
  unheld : s.adapter.mBuffers handle = none → s.held handle = 0
  inUse : ∀ buffer, s.adapter.mBuffers handle = some buffer →
    buffer.mHandle = handle ∧ buffer.mReferenceCount.toNat = s.held handle ∧ 0 < s.held handle

/-- What a call can do: nothing to the buffers, or bring one into use, or count its references
up or down, or end it. -/
inductive Served (s : Session H) : Session H → Prop where
  | idle (adapter : Gralloc1On0Adapter H) (same : adapter.mBuffers = s.adapter.mBuffers)
    (calls : List (ModuleCall H))
    (nothing : ∀ handle state, (lifeOf handle).schedule state calls = some state) :
    Served s ⟨adapter, s.log ++ calls, s.held⟩
  | born (adapter : Gralloc1On0Adapter H) (buffer : Buffer H) (call : ModuleCall H)
    (absent : s.adapter.mBuffers buffer.mHandle = none) (one : buffer.mReferenceCount = 1)
    (entries : adapter.mBuffers = Function.update s.adapter.mBuffers buffer.mHandle (some buffer))
    (begins : HandleState.step buffer.mHandle .absent call = some (adapter.stateOf buffer.mHandle))
    (elsewhere : ∀ handle, handle ≠ buffer.mHandle → ∀ state, HandleState.step handle state call = some state) :
    Served s ⟨adapter, s.log ++ [call],
      Function.update s.held buffer.mHandle (s.held buffer.mHandle + 1)⟩
  | retained (handle : H) (buffer : Buffer H) (present : s.adapter.mBuffers handle = some buffer)
    (room : s.held handle + 1 < 2 ^ 32) :
    Served s ⟨{ s.adapter with mBuffers := Function.update s.adapter.mBuffers handle (some buffer.retain) },
      s.log, Function.update s.held handle (s.held handle + 1)⟩
  | lowered (handle : H) (buffer : Buffer H) (present : s.adapter.mBuffers handle = some buffer)
    (more : buffer.release.2 = false) :
    Served s ⟨{ s.adapter with mBuffers := Function.update s.adapter.mBuffers handle (some buffer.release.1) },
      s.log, Function.update s.held handle (s.held handle - 1)⟩
  | ended (handle : H) (buffer : Buffer H) (present : s.adapter.mBuffers handle = some buffer)
    (last : buffer.release.2 = true) :
    Served s ⟨{ s.adapter with mBuffers := Function.update s.adapter.mBuffers handle none },
      s.log ++ Gralloc1On0Adapter.disposal buffer, Function.update s.held handle (s.held handle - 1)⟩

theorem emplace_absent {K V : Type} [DecidableEq K] {entries : K → Option V} {key : K}
    (absent : entries key = none) (value : V) : emplace entries key value = Function.update entries key (some value) := by
  unfold emplace
  rw [absent]

theorem lifeOf_disposal {buffer : Buffer H} {handle : H} (apart : buffer.mHandle ≠ handle)
    (state : HandleState) :
    (lifeOf handle).schedule state (Gralloc1On0Adapter.disposal buffer) = some state := by
  simp only [Gralloc1On0Adapter.disposal]
  cases buffer.mWasAllocated <;> simp [Protocol.schedule, lifeOf, HandleState.step, apart]

section
variable (usage : UsageConversion) {s : Session H}

theorem served_allocate {descriptorId store : BitVec 64} {answer : AllocAnswer H}
    (sane : s.Sane (.allocateWithId descriptorId store answer)) :
    Served s (s.serve usage (.allocateWithId descriptorId store answer)).1 := by
  cases found : s.adapter.getDescriptor descriptorId with
  | none =>
    have refused : s.adapter.allocateWithIdHook usage descriptorId store answer =
        (s.adapter, ⟨.badDescriptor, none, []⟩) := by
      simp only [Gralloc1On0Adapter.allocateWithIdHook, found]
    have same : (s.serve usage (.allocateWithId descriptorId store answer)).1 = ⟨s.adapter, s.log ++ [], s.held⟩ := by
      cases answer <;> simp [serve, Gralloc1On0Adapter.answer, refused, holdings, Request.holding]
    rw [same]
    exact .idle s.adapter rfl [] fun _ _ => rfl
  | some descriptor =>
    have made : s.adapter.allocateWithIdHook usage descriptorId store answer =
        s.adapter.allocate usage descriptor store answer := by
      simp only [Gralloc1On0Adapter.allocateWithIdHook, found]
    cases answer with
    | failed =>
      simp only [serve, Gralloc1On0Adapter.answer, made, Gralloc1On0Adapter.allocate, holdings,
        Request.holding]
      refine .idle s.adapter rfl _ fun handle state => ?_
      simp [Protocol.schedule, lifeOf, HandleState.step]
    | allocated handle stride =>
      simp only [serve, Gralloc1On0Adapter.answer, made, Gralloc1On0Adapter.allocate, holdings,
        Request.holding, if_true]
      -- a handle in use would keep its old entry, which is why the module may not give one out
      refine .born _ (.create handle store descriptor stride true) _ sane rfl (emplace_absent sane _) ?_ ?_
      · simp [HandleState.step, Buffer.create, Gralloc1On0Adapter.stateOf, emplace_absent sane]
      · intro other apart state
        have own : handle ≠ other := fun same => apart same.symm
        simp [HandleState.step, own]

theorem served_retain {handle : H} (sane : s.Sane (.retain handle))
    (keyed : ∀ buffer, s.adapter.mBuffers handle = some buffer → buffer.mHandle = handle) :
    Served s (s.serve usage (.retain handle)).1 := by
  cases present : s.adapter.mBuffers handle with
  | none =>
    simp only [serve, Gralloc1On0Adapter.answer, Gralloc1On0Adapter.managementHook,
      Gralloc1On0Adapter.getBuffer, present, holdings, Request.holding]
    exact .idle s.adapter rfl [] fun _ _ => rfl
  | some buffer =>
    have own := keyed buffer present
    simp only [serve, Gralloc1On0Adapter.answer, Gralloc1On0Adapter.managementHook,
      Gralloc1On0Adapter.getBuffer, present, Gralloc1On0Adapter.retain, holdings, Request.holding, own,
      if_true, List.append_nil]
    exact .retained handle buffer present sane

theorem served_release {handle : H}
    (keyed : ∀ buffer, s.adapter.mBuffers handle = some buffer → buffer.mHandle = handle) :
    Served s (s.serve usage (.release handle)).1 := by
  cases present : s.adapter.mBuffers handle with
  | none =>
    simp only [serve, Gralloc1On0Adapter.answer, Gralloc1On0Adapter.managementHook,
      Gralloc1On0Adapter.getBuffer, present, holdings, Request.holding]
    exact .idle s.adapter rfl [] fun _ _ => rfl
  | some buffer =>
    have own := keyed buffer present
    -- one reference less, whether or not it was the last
    have fewer : ((s.held handle : Int) + -1).toNat = s.held handle - 1 := by omega
    cases last : buffer.release.2 with
    | true =>
      simp only [serve, Gralloc1On0Adapter.answer, Gralloc1On0Adapter.managementHook,
        Gralloc1On0Adapter.getBuffer, present, Gralloc1On0Adapter.release, last, holdings,
        Request.holding, own, if_true, fewer]
      exact .ended handle buffer present last
    | false =>
      simp only [serve, Gralloc1On0Adapter.answer, Gralloc1On0Adapter.managementHook,
        Gralloc1On0Adapter.getBuffer, present, Gralloc1On0Adapter.release, last, holdings,
        Request.holding, own, if_true, fewer, Bool.false_eq_true, if_false, List.append_nil]
      exact .lowered handle buffer present last

theorem served_retainGraphicBuffer {graphicBuffer : GraphicBuffer H} {registered : Bool}
    (sane : s.Sane (.retainGraphicBuffer graphicBuffer registered)) :
    Served s (s.serve usage (.retainGraphicBuffer graphicBuffer registered)).1 := by
  cases present : s.adapter.mBuffers graphicBuffer.handle with
  | some buffer =>
    simp only [serve, Gralloc1On0Adapter.answer, Gralloc1On0Adapter.retainGraphicBuffer, present,
      holdings, Request.holding, if_true, List.append_nil]
    exact .retained graphicBuffer.handle buffer present sane
  | none =>
    cases registered with
    | false =>
      simp only [serve, Gralloc1On0Adapter.answer, Gralloc1On0Adapter.retainGraphicBuffer, present,
        holdings, Request.holding, Bool.false_eq_true, if_false]
      refine .idle s.adapter rfl _ fun handle state => ?_
      simp [Protocol.schedule, lifeOf, HandleState.step]
    | true =>
      simp only [serve, Gralloc1On0Adapter.answer, Gralloc1On0Adapter.retainGraphicBuffer, present,
        holdings, Request.holding, if_true]
      refine .born _ (.create graphicBuffer.handle _ _ _ false) _ present rfl (emplace_absent present _) ?_ ?_
      · simp [HandleState.step, Buffer.create, Gralloc1On0Adapter.stateOf, emplace_absent present]
      · intro other apart state
        have own : graphicBuffer.handle ≠ other := fun same => apart same.symm
        simp [HandleState.step, own]

theorem served {request : Request H} (sane : s.Sane request)
    (keyed : ∀ handle buffer, s.adapter.mBuffers handle = some buffer → buffer.mHandle = handle) :
    Served s (s.serve usage request).1 := by
  have unchanged : ∀ adapter : Gralloc1On0Adapter H, adapter.mBuffers = s.adapter.mBuffers →
      Served s ⟨adapter, s.log ++ [], s.held⟩ := fun adapter same => .idle adapter same [] fun _ _ => rfl
  cases request with
  | createDescriptor => exact unchanged _ rfl
  | destroyDescriptor descriptor =>
    refine unchanged _ ?_
    unfold Gralloc1On0Adapter.destroyDescriptor
    split <;> rfl
  | set descriptorId member =>
    refine unchanged _ ?_
    unfold Gralloc1On0Adapter.callDescriptorFunction
    split <;> rfl
  | allocateWithId descriptorId store answer => exact served_allocate usage sane
  | retain handle => exact served_retain usage sane (keyed handle)
  | release handle => exact served_release usage (keyed handle)
  | retainGraphicBuffer graphicBuffer registered => exact served_retainGraphicBuffer usage sane

end

omit [DecidableEq H] in
theorem retain_count {buffer : Buffer H} {held : Nat} (count : buffer.mReferenceCount.toNat = held)
    (room : held + 1 < 2 ^ 32) : buffer.retain.mReferenceCount.toNat = held + 1 := by
  simp only [Buffer.retain, BitVec.toNat_add, count]
  exact Nat.mod_eq_of_lt room

omit [DecidableEq H] in
theorem release_count {buffer : Buffer H} {held : Nat} (count : buffer.mReferenceCount.toNat = held)
    (positive : 0 < held) : buffer.release.1.mReferenceCount.toNat = held - 1 ∧
      (buffer.release.2 = true ↔ held = 1) := by
  have lower : (buffer.mReferenceCount - 1).toNat = held - 1 := by
    rw [BitVec.toNat_sub_of_le]
    · rw [count]
      rfl
    · rw [BitVec.le_def, count]
      exact positive
  refine ⟨lower, ?_⟩
  simp only [Buffer.release, beq_iff_eq]
  rw [← BitVec.toNat_inj, lower]
  change held - 1 = 0 ↔ held = 1
  omega

namespace Balanced

variable {s t : Session H} {handle : H}

theorem frame (balanced : s.Balanced handle) (entry : t.adapter.mBuffers handle = s.adapter.mBuffers handle)
    (references : t.held handle = s.held handle)
    (life : (lifeOf handle).schedule .absent t.log = (lifeOf handle).schedule .absent s.log) :
    t.Balanced handle := by
  have same : t.adapter.stateOf handle = s.adapter.stateOf handle := by
    unfold Gralloc1On0Adapter.stateOf
    rw [entry]
  constructor
  · rw [life, balanced.life, same]
  · intro absent
    exact references.trans (balanced.unheld (entry ▸ absent))
  · intro buffer present
    rw [references]
    exact balanced.inUse buffer (entry ▸ present)

theorem counted {buffer changed : Buffer H} (balanced : s.Balanced handle)
    (present : s.adapter.mBuffers handle = some buffer) (entry : t.adapter.mBuffers handle = some changed)
    (own : changed.mHandle = buffer.mHandle) (kind : changed.mWasAllocated = buffer.mWasAllocated)
    (count : changed.mReferenceCount.toNat = t.held handle) (positive : 0 < t.held handle)
    (log : t.log = s.log) : t.Balanced handle := by
  have same : t.adapter.stateOf handle = s.adapter.stateOf handle := by
    unfold Gralloc1On0Adapter.stateOf
    rw [entry, present]
    simp only [kind]
  constructor
  · rw [log, balanced.life, same]
  · intro gone
    rw [entry] at gone
    cases gone
  · intro other there
    rw [entry] at there
    cases there
    exact ⟨own.trans (balanced.inUse buffer present).1, count, positive⟩

theorem schedule_more (balanced : s.Balanced handle) (calls : List (ModuleCall H)) :
    (lifeOf handle).schedule .absent (s.log ++ calls) =
      (lifeOf handle).schedule (s.adapter.stateOf handle) calls := by
  rw [Protocol.schedule_append, balanced.life]
  rfl

theorem step (all : ∀ handle, s.Balanced handle) (served : Served s t) (handle : H) : t.Balanced handle := by
  have balanced := all handle
  cases served with
  | idle adapter same calls nothing =>
    refine balanced.frame (congrFun same handle) rfl ?_
    rw [balanced.schedule_more, balanced.life]
    exact nothing handle _
  | born adapter buffer call absent one entries begins elsewhere =>
    by_cases own : handle = buffer.mHandle
    · subst own
      have entry : adapter.mBuffers buffer.mHandle = some buffer := by
        rw [entries, Function.update_self]
      have before : s.adapter.stateOf buffer.mHandle = .absent := by
        unfold Gralloc1On0Adapter.stateOf
        rw [absent]
      have unheld := balanced.unheld absent
      constructor
      · rw [balanced.schedule_more, before]
        exact congrArg (· >>= pure) begins
      · intro gone
        rw [entry] at gone
        cases gone
      · intro other there
        rw [entry] at there
        cases there
        refine ⟨rfl, ?_, ?_⟩ <;> simp [one, unheld]
    · refine balanced.frame ?_ (Function.update_of_ne own _ _) ?_
      · exact (congrFun entries handle).trans (Function.update_of_ne own _ _)
      · rw [balanced.schedule_more, balanced.life]
        exact congrArg (· >>= pure) (elsewhere handle own _)
  | retained other buffer present room =>
    by_cases own : handle = other
    · subst own
      obtain ⟨-, count, -⟩ := balanced.inUse buffer present
      have now : Function.update s.held handle (s.held handle + 1) handle = s.held handle + 1 :=
        Function.update_self _ _ _
      exact balanced.counted present (Function.update_self _ _ _) rfl rfl
        ((retain_count count room).trans now.symm) (Nat.lt_of_lt_of_eq (Nat.succ_pos _) now.symm) rfl
    · exact balanced.frame (Function.update_of_ne own _ _) (Function.update_of_ne own _ _) rfl
  | lowered other buffer present more =>
    by_cases own : handle = other
    · subst own
      obtain ⟨-, count, positive⟩ := balanced.inUse buffer present
      obtain ⟨lower, last⟩ := release_count count positive
      have several : s.held handle ≠ 1 := by
        intro one
        rw [last.mpr one] at more
        cases more
      have now : Function.update s.held handle (s.held handle - 1) handle = s.held handle - 1 :=
        Function.update_self _ _ _
      exact balanced.counted present (Function.update_self _ _ _) rfl rfl (lower.trans now.symm)
        (Nat.lt_of_lt_of_eq (by omega) now.symm) rfl
    · exact balanced.frame (Function.update_of_ne own _ _) (Function.update_of_ne own _ _) rfl
  | ended other buffer present last =>
    obtain ⟨named, count, positive⟩ := (all other).inUse buffer present
    by_cases own : handle = other
    · subst own
      -- the reference given back was the last one held
      have one := (release_count count positive).2.mp last
      have entry : Function.update s.adapter.mBuffers handle none handle = none := Function.update_self _ _ _
      constructor
      · rw [balanced.schedule_more]
        simp only [Gralloc1On0Adapter.stateOf, present, Function.update_self,
          Gralloc1On0Adapter.disposal, named]
        cases buffer.mWasAllocated <;> simp [Protocol.schedule, lifeOf, HandleState.step]
      · intro _
        simp [one]
      · intro other there
        cases entry.symm.trans there
    · refine balanced.frame (Function.update_of_ne own _ _) (Function.update_of_ne own _ _) ?_
      rw [balanced.schedule_more, balanced.life]
      exact lifeOf_disposal (fun same => own (same.symm.trans named)) _

end Balanced

theorem start_balanced (handle : H) : (start : Session H).Balanced handle :=
  ⟨rfl, fun _ => rfl, fun _ present => by cases present⟩

/-- In every run of sane calls every handle lives by the rules of the module, is in the table
exactly while references to it are held, and is counted right. -/
theorem handles_balanced (usage : UsageConversion) (requests : List (Request H))
    (sane : ∀ t ∈ (session usage).trace start requests, t.source.Sane t.input) (handle : H) :
    ((session usage).run start requests).Balanced handle :=
  (session usage).run_invariant (fun s => ∀ handle, s.Balanced handle) Sane
    (fun _ _ all sane =>
      Balanced.step all (served usage sane fun handle buffer present => ((all handle).inUse buffer present).1))
    start requests start_balanced sane handle

theorem handles_balanced_reused :
    let requests : List (Request Nat) := [.createDescriptor, .allocateWithId 1 7 (.allocated 5 64),
      .retain 5, .release 5, .release 5, .retainGraphicBuffer ⟨5, 9, 16, 16, 1, 0, 16⟩ true]
    ((session .unused).run start requests).Balanced 5 := by
  refine handles_balanced _ _ ?_ 5
  intro t member
  simp only [Machine.trace, List.mem_cons, List.not_mem_nil, or_false] at member
  rcases member with rfl | rfl | rfl | rfl | rfl | rfl
  · trivial
  · rfl
  · exact (by decide : (1 : Nat) + 1 < 2 ^ 32)
  · trivial
  · trivial
  · exact (by decide : (0 : Nat) + 1 < 2 ^ 32)

end Session
end Gralloc
