import KanasSensors.Gralloc.Device
import KanasSensors.Gralloc.Ledger

/-! The native handles of a process, from the cloning or the allocation to the deletion.

A handle is raw, and some client's to close, until the module has it registered; from then on
it is the adapter's. Whatever the allocator, the mapper and the buffers are asked for, and
however it fails, no handle is closed or deleted twice or after its time, and none is left over.
-/

set_option autoImplicit false

namespace Gralloc

open Foundation

inductive NativeState where
  | absent
  | raw
  | closed
  | allocated
  | registered
  deriving DecidableEq

namespace NativeState

variable {H : Type} [DecidableEq H]

def become (state before after : NativeState) : Option NativeState := if state = before then some after else none

/-- The life of one native handle. It is cloned, and tried to be registered, only while it is open. -/
def step (handle : H) (state : NativeState) : ProcessCall H → Option NativeState
  | .nativeHandleCreate other => if other = handle then state.become .absent .raw else some state
  | .nativeHandleClone source given =>
    if given = some handle then state.become .absent .raw
    else if source = handle ∧ (state = .absent ∨ state = .closed) then none
    else some state
  | .nativeHandleClose other => if other = handle then state.become .raw .closed else some state
  | .nativeHandleDelete other => if other = handle then state.become .closed .absent else some state
  | .module (.alloc _ _ _ _ given) =>
    if given = some handle then state.become .absent .allocated else some state
  | .module (.free other) => if other = handle then state.become .allocated .absent else some state
  | .module (.registerBuffer other done) =>
    if other = handle then state.become .raw (if done then .registered else .raw) else some state
  | .module (.unregisterBuffer other) => if other = handle then state.become .registered .raw else some state
  | .module (.nativeHandleClose other) => if other = handle then state.become .raw .closed else some state
  | .module (.nativeHandleDelete other) => if other = handle then state.become .closed .absent else some state

end NativeState

def nativeLifeOf {H : Type} [DecidableEq H] (handle : H) : Protocol NativeState (ProcessCall H) :=
  ⟨NativeState.step handle⟩

def Buffer.native {H : Type} (buffer : Buffer H) : NativeState :=
  if buffer.mWasAllocated then .allocated else .registered

/-- The adapter of the process, what has happened to handles, the raw handles that clients own,
and the references they hold. -/
structure Process (H : Type) where
  adapter : Gralloc1On0Adapter H
  log : List (ProcessCall H)
  raw : H → Bool
  held : H → Nat

/-- What clients do. A raw handle comes out of a parcel, and one that was not taken is thrown away. -/
inductive Act (H : Type) where
  | receive (handle : H)
  | discard (handle : H)
  | allocate (width height format layerCount : BitVec 32) (usage graphicBufferId : BitVec 64)
      (answer : AllocAnswer H)
  | free (handle : H)
  | retain (handle : H)
  | initWithHandle (buffer : NativeBuffer H) (handle : H) (method : HandleWrapMethod) (given : Attributes)
      (clone imports : Option H) (registered : Bool)
  | freeBuffer (handle : H)

namespace Process

variable {H : Type} [DecidableEq H]

def start : Process H := ⟨.create, [], fun _ => false, fun _ => 0⟩

def stateOf (s : Process H) (handle : H) : NativeState :=
  match s.adapter.mBuffers handle with
  | some buffer => buffer.native
  | none => if s.raw handle then .raw else .absent

def released (s : Process H) (handle : H) (adapter : Gralloc1On0Adapter H) (error : Gralloc1Error)
    (calls : List (ProcessCall H)) : Process H :=
  ⟨adapter, s.log ++ calls, s.raw,
    if error = .noError then Function.update s.held handle (s.held handle - 1) else s.held⟩

def initialised (s : Process H) (handle : H) (method : HandleWrapMethod) (adapter : Gralloc1On0Adapter H)
    (done : NativeBuffer.Initialised H) : Process H :=
  let imported := done.status = .noError ∧ (method = .takeUnregisteredHandle ∨ method = .cloneHandle)
  ⟨adapter, s.log ++ done.calls,
    if imported ∧ method = .takeUnregisteredHandle then Function.update s.raw handle false else s.raw,
    if imported then done.buffer.handle.elim s.held fun now => Function.update s.held now (s.held now + 1)
    else s.held⟩

def act (convert : UsageConversion) (s : Process H) : Act H → Process H × Status
  | .receive handle =>
    ({ s with log := s.log ++ [.nativeHandleCreate handle], raw := Function.update s.raw handle true }, .noError)
  | .discard handle =>
    ({ s with
        log := s.log ++ [.nativeHandleClose handle, .nativeHandleDelete handle]
        raw := Function.update s.raw handle false }, .noError)
  | .allocate width height format layerCount usage graphicBufferId answer =>
    let (adapter, allocated) :=
      GraphicBufferAllocator.allocate convert s.adapter width height format layerCount usage graphicBufferId answer
    let held := match allocated.handle with
      | some handle => Function.update s.held handle (s.held handle + 1)
      | none => s.held
    (⟨adapter, s.log ++ allocated.calls.map .module, s.raw, held⟩, allocated.status)
  | .free handle =>
    let (adapter, outcome) := GraphicBufferAllocator.free s.adapter handle
    (s.released handle adapter outcome.error (outcome.calls.map .module), .gralloc1 outcome.error)
  | .retain handle =>
    let (adapter, outcome) := Device.retain s.adapter handle
    let held := if outcome.error = .noError then Function.update s.held handle (s.held handle + 1) else s.held
    (⟨adapter, s.log ++ outcome.calls.map .module, s.raw, held⟩, .gralloc1 outcome.error)
  | .initWithHandle buffer handle method given clone imports registered =>
    let (adapter, done) := buffer.initWithHandle s.adapter handle method given clone imports registered
    (s.initialised handle method adapter done, done.status)
  | .freeBuffer handle =>
    let (adapter, error, calls) := GraphicBufferMapper.freeBuffer s.adapter handle
    (s.released handle adapter error calls, .gralloc1 error)

def process (convert : UsageConversion) : Machine (Process H) (Act H) Status := ⟨act convert⟩

/-- New handles are new, clients give only raw handles away that are theirs, and clone none that
is gone; a count has room. -/
def Sane (s : Process H) : Act H → Prop
  | .receive handle => s.stateOf handle = .absent
  | .discard handle => s.raw handle = true
  | .allocate _ _ _ _ _ _ (.allocated handle _) => s.stateOf handle = .absent
  | .retain handle => s.held handle + 1 < 2 ^ 32
  | .initWithHandle _ handle method _ clone imports _ =>
    (method = .takeUnregisteredHandle → s.raw handle = true) ∧
      (method = .cloneHandle → s.stateOf handle ≠ .absent) ∧
      (∀ given, clone = some given → s.stateOf given = .absent) ∧
      (∀ given, imports = some given → s.stateOf given = .absent ∧ clone ≠ some given)
  | _ => True

structure Owned (s : Process H) (handle : H) : Prop where
  life : (nativeLifeOf handle).schedule .absent s.log = some (s.stateOf handle)
  apart : s.raw handle = true → s.adapter.mBuffers handle = none
  unheld : s.adapter.mBuffers handle = none → s.held handle = 0
  inUse : ∀ buffer, s.adapter.mBuffers handle = some buffer →
    buffer.mHandle = handle ∧ buffer.mReferenceCount.toNat = s.held handle ∧ 0 < s.held handle

inductive Happens (s : Process H) : Process H → Prop where
  | idle (adapter : Gralloc1On0Adapter H) (same : adapter.mBuffers = s.adapter.mBuffers)
    (descriptors : adapter.mDescriptors = s.adapter.mDescriptors) (calls : List (ProcessCall H))
    (nothing : ∀ handle, (nativeLifeOf handle).schedule (s.stateOf handle) calls = some (s.stateOf handle)) :
    Happens s { s with adapter, log := s.log ++ calls }
  | opened (handle : H) (call : ProcessCall H) (absent : s.stateOf handle = .absent)
    (begins : NativeState.step handle .absent call = some .raw)
    (elsewhere : ∀ other, other ≠ handle →
      NativeState.step other (s.stateOf other) call = some (s.stateOf other)) :
    Happens s { s with log := s.log ++ [call], raw := Function.update s.raw handle true }
  | discarded (handle : H) (mine : s.raw handle = true) :
    Happens s { s with
      log := s.log ++ [.nativeHandleClose handle, .nativeHandleDelete handle]
      raw := Function.update s.raw handle false }
  | born (adapter : Gralloc1On0Adapter H) (buffer : Buffer H) (call : ProcessCall H)
    (absent : s.adapter.mBuffers buffer.mHandle = none) (one : buffer.mReferenceCount = 1)
    (entries : adapter.mBuffers = Function.update s.adapter.mBuffers buffer.mHandle (some buffer))
    (descriptors : adapter.mDescriptors = s.adapter.mDescriptors)
    (begins : NativeState.step buffer.mHandle (s.stateOf buffer.mHandle) call = some buffer.native)
    (elsewhere : ∀ handle, handle ≠ buffer.mHandle → ∀ state, NativeState.step handle state call = some state) :
    Happens s ⟨adapter, s.log ++ [call], Function.update s.raw buffer.mHandle false,
      Function.update s.held buffer.mHandle (s.held buffer.mHandle + 1)⟩
  | counted (handle : H) (buffer : Buffer H) (count : BitVec 32) (references : Nat)
    (present : s.adapter.mBuffers handle = some buffer) (right : count.toNat = references)
    (positive : 0 < references) :
    Happens s { s with
      adapter := { s.adapter with
        mBuffers := Function.update s.adapter.mBuffers handle (some { buffer with mReferenceCount := count }) }
      held := Function.update s.held handle references }
  | ended (handle : H) (buffer : Buffer H) (present : s.adapter.mBuffers handle = some buffer)
    (last : s.held handle = 1) :
    Happens s { s with
      adapter := { s.adapter with mBuffers := Function.update s.adapter.mBuffers handle none }
      log := s.log ++ (Gralloc1On0Adapter.disposal buffer).map .module
      held := Function.update s.held handle 0 }

section
variable {s : Process H} {handle : H}

omit [DecidableEq H] in
theorem stateOf_present {buffer : Buffer H} (present : s.adapter.mBuffers handle = some buffer) :
    s.stateOf handle = buffer.native := by
  unfold stateOf
  rw [present]

omit [DecidableEq H] in
theorem stateOf_raw (absent : s.adapter.mBuffers handle = none) (mine : s.raw handle = true) :
    s.stateOf handle = .raw := by
  unfold stateOf
  rw [absent]
  exact if_pos mine

omit [DecidableEq H] in
theorem stateOf_absent_iff :
    s.stateOf handle = .absent ↔ s.adapter.mBuffers handle = none ∧ s.raw handle = false := by
  unfold stateOf Buffer.native
  cases s.adapter.mBuffers handle with
  | none => cases s.raw handle <;> simp
  | some buffer => cases kind : buffer.mWasAllocated <;> simp [kind]

end

namespace Owned

variable {s t : Process H} {handle : H}

theorem frame (owned : s.Owned handle) (calls : List (ProcessCall H))
    (entry : t.adapter.mBuffers handle = s.adapter.mBuffers handle) (raw : t.raw handle = s.raw handle)
    (references : t.held handle = s.held handle) (log : t.log = s.log ++ calls)
    (nothing : (nativeLifeOf handle).schedule (s.stateOf handle) calls = some (s.stateOf handle)) :
    t.Owned handle := by
  have same : t.stateOf handle = s.stateOf handle := by
    unfold stateOf
    rw [entry, raw]
  constructor
  · rw [log, Protocol.schedule_append, owned.life, same]
    exact nothing
  · intro mine
    rw [entry]
    exact owned.apart (raw ▸ mine)
  · intro absent
    rw [references]
    exact owned.unheld (entry ▸ absent)
  · intro buffer present
    rw [references]
    exact owned.inUse buffer (entry ▸ present)

theorem schedule_more (owned : s.Owned handle) (calls : List (ProcessCall H)) :
    (nativeLifeOf handle).schedule .absent (s.log ++ calls) =
      (nativeLifeOf handle).schedule (s.stateOf handle) calls := by
  rw [Protocol.schedule_append, owned.life]
  rfl

theorem outside {mine : Bool} (entry : t.adapter.mBuffers handle = none) (unheld : t.held handle = 0)
    (raw : t.raw handle = mine)
    (life : (nativeLifeOf handle).schedule .absent t.log = some (if mine then .raw else .absent)) :
    t.Owned handle := by
  refine ⟨?_, fun _ => entry, fun _ => unheld, fun buffer present => ?_⟩
  · unfold stateOf
    rw [life, entry, raw]
  · cases entry.symm.trans present

theorem inside {buffer : Buffer H} (entry : t.adapter.mBuffers handle = some buffer)
    (raw : t.raw handle = false) (own : buffer.mHandle = handle)
    (count : buffer.mReferenceCount.toNat = t.held handle) (positive : 0 < t.held handle)
    (life : (nativeLifeOf handle).schedule .absent t.log = some buffer.native) : t.Owned handle := by
  constructor
  · rw [life, stateOf_present entry]
  · intro mine
    cases raw.symm.trans mine
  · intro absent
    cases entry.symm.trans absent
  · intro other present
    cases entry.symm.trans present
    exact ⟨own, count, positive⟩

theorem raw_of_entry (owned : s.Owned handle) {buffer : Buffer H}
    (present : s.adapter.mBuffers handle = some buffer) : s.raw handle = false := by
  cases mine : s.raw handle with
  | false => rfl
  | true => cases (owned.apart mine).symm.trans present

theorem step (all : ∀ handle, s.Owned handle) (happens : Happens s t) (handle : H) : t.Owned handle := by
  have owned := all handle
  cases happens with
  | idle adapter same descriptors calls nothing =>
    exact owned.frame calls (congrFun same handle) rfl rfl rfl (nothing handle)
  | opened other call absent begins elsewhere =>
    by_cases own : handle = other
    · subst own
      have entry := (stateOf_absent_iff.mp absent).1
      refine outside entry (owned.unheld entry) (Function.update_self _ _ _) ?_
      rw [owned.schedule_more, absent]
      exact congrArg (· >>= pure) begins
    · exact owned.frame [call] rfl (Function.update_of_ne own _ _) rfl rfl
        (congrArg (· >>= pure) (elsewhere handle own))
  | discarded other mine =>
    by_cases own : handle = other
    · subst own
      have entry := owned.apart mine
      refine outside entry (owned.unheld entry) (Function.update_self _ _ _) ?_
      rw [owned.schedule_more, stateOf_raw entry mine]
      simp [Protocol.schedule, nativeLifeOf, NativeState.step, NativeState.become]
    · refine owned.frame _ rfl (Function.update_of_ne own _ _) rfl rfl ?_
      simp [Protocol.schedule, nativeLifeOf, NativeState.step, Ne.symm own]
  | born adapter buffer call absent one entries descriptors begins elsewhere =>
    by_cases own : handle = buffer.mHandle
    · subst own
      have entry : adapter.mBuffers buffer.mHandle = some buffer :=
        (congrFun entries _).trans (Function.update_self _ _ _)
      have now : Function.update s.held buffer.mHandle (s.held buffer.mHandle + 1) buffer.mHandle = 1 := by
        rw [Function.update_self, owned.unheld absent]
      refine inside entry (Function.update_self _ _ _) rfl ?_ (Nat.lt_of_lt_of_eq Nat.one_pos now.symm) ?_
      · rw [one]
        exact now.symm
      · rw [owned.schedule_more]
        exact congrArg (· >>= pure) begins
    · exact owned.frame [call] ((congrFun entries handle).trans (Function.update_of_ne own _ _))
        (Function.update_of_ne own _ _) (Function.update_of_ne own _ _) rfl
        (congrArg (· >>= pure) (elsewhere handle own _))
  | counted other buffer count references present right positive =>
    by_cases own : handle = other
    · subst own
      have now : Function.update s.held handle references handle = references := Function.update_self _ _ _
      refine inside (Function.update_self _ _ _) (owned.raw_of_entry present)
        (owned.inUse buffer present).1 (right.trans now.symm) (Nat.lt_of_lt_of_eq positive now.symm) ?_
      have before := owned.life
      rw [stateOf_present present] at before
      exact before
    · exact owned.frame [] (Function.update_of_ne own _ _) rfl (Function.update_of_ne own _ _)
        (List.append_nil _).symm rfl
  | ended other buffer present last =>
    have named := ((all other).inUse buffer present).1
    by_cases own : handle = other
    · subst own
      have entry : Function.update s.adapter.mBuffers handle none handle = none := Function.update_self _ _ _
      refine outside entry (Function.update_self _ _ _) (owned.raw_of_entry present) ?_
      rw [owned.schedule_more, stateOf_present present]
      simp only [Gralloc1On0Adapter.disposal, Buffer.native, named]
      cases buffer.mWasAllocated <;>
        simp [Protocol.schedule, nativeLifeOf, NativeState.step, NativeState.become]
    · refine owned.frame _ (Function.update_of_ne own _ _) rfl (Function.update_of_ne own _ _) rfl ?_
      simp only [Gralloc1On0Adapter.disposal, named]
      cases buffer.mWasAllocated <;>
        simp [Protocol.schedule, nativeLifeOf, NativeState.step, Ne.symm own]

end Owned
section
variable {s t : Process H}

omit [DecidableEq H] in
theorem stateOf_open (s : Process H) (handle : H) : s.stateOf handle ≠ .closed := by
  unfold stateOf Buffer.native
  cases s.adapter.mBuffers handle with
  | none => cases s.raw handle <;> simp
  | some buffer => cases kind : buffer.mWasAllocated <;> simp [kind]

def withClone (s : Process H) (source given : H) : Process H :=
  { s with
    log := s.log ++ [.nativeHandleClone source (some given)]
    raw := Function.update s.raw given true }

theorem cloned {source given : H} (live : s.stateOf source ≠ .absent) (absent : s.stateOf given = .absent) :
    Happens s (s.withClone source given) := by
  refine .opened given _ absent (by simp [NativeState.step, NativeState.become]) ?_
  intro other apart
  have free : ¬(source = other ∧ (s.stateOf other = .absent ∨ s.stateOf other = .closed)) := by
    rintro ⟨rfl, gone | gone⟩
    · exact live gone
    · exact stateOf_open s source gone
  simp [NativeState.step, Ne.symm apart, free]

theorem not_cloned {source : H} (live : s.stateOf source ≠ .absent) :
    Happens s { s with log := s.log ++ [.nativeHandleClone source none] } := by
  refine .idle s.adapter rfl rfl _ fun handle => ?_
  have free : ¬(source = handle ∧ (s.stateOf handle = .absent ∨ s.stateOf handle = .closed)) := by
    rintro ⟨rfl, gone | gone⟩
    · exact live gone
    · exact stateOf_open s source gone
  simp [Protocol.schedule, nativeLifeOf, NativeState.step, free]

theorem not_registered {handle : H} (raw : s.stateOf handle = .raw) :
    Happens s { s with log := s.log ++ [.module (.registerBuffer handle false)] } := by
  refine .idle s.adapter rfl rfl _ fun other => ?_
  by_cases own : handle = other
  · subst own
    simp [Protocol.schedule, nativeLifeOf, NativeState.step, NativeState.become, raw]
  · simp [Protocol.schedule, nativeLifeOf, NativeState.step, own]

theorem registered_happens (buffer : GraphicBuffer H) {given : H} (absent : s.adapter.mBuffers given = none)
    (raw : s.stateOf given = .raw) :
    Happens s ⟨{ s.adapter with
        sNextBufferDescriptorId := s.adapter.sNextBufferDescriptorId + 1
        mBuffers := emplace s.adapter.mBuffers given (.create given buffer.id
          (Gralloc1On0Adapter.graphicDescriptor s.adapter.sNextBufferDescriptorId buffer) buffer.stride false) },
      s.log ++ [.module (.registerBuffer given true)], Function.update s.raw given false,
      Function.update s.held given (s.held given + 1)⟩ := by
  refine .born _ (.create given buffer.id _ buffer.stride false) _ absent rfl
    (Session.emplace_absent absent _) rfl ?_ ?_
  · simp [Buffer.create, raw, NativeState.step, NativeState.become, Buffer.native]
  · intro handle apart state
    have own : given ≠ handle := fun same => apart same.symm
    simp [NativeState.step, own]

theorem imports_happen (buffer : GraphicBuffer H) {imports : Option H} (registered : Bool)
    (owned : s.Owned buffer.handle) (mine : s.raw buffer.handle = true)
    (fresh : ∀ given, imports = some given → s.stateOf given = .absent) :
    let (adapter, imported) := GraphicBufferMapper.importBuffer s.adapter buffer imports registered
    Relation.ReflTransGen Happens s (if imported.error = .noError then
      ⟨adapter, s.log ++ imported.calls, Function.update s.raw buffer.handle false,
        Function.update s.held imported.handle (s.held imported.handle + 1)⟩
      else { s with adapter, log := s.log ++ imported.calls }) := by
  have live : s.stateOf buffer.handle ≠ .absent := by
    rw [stateOf_raw (owned.apart mine) mine]
    simp
  cases imports with
  | none => exact .single (not_cloned live)
  | some given =>
    obtain ⟨entry, free⟩ := stateOf_absent_iff.mp (fresh given rfl)
    have first := cloned live (fresh given rfl)
    have own : (s.withClone buffer.handle given).raw given = true := Function.update_self _ _ _
    have raw : (s.withClone buffer.handle given).stateOf given = .raw := stateOf_raw entry own
    have back : Function.update (Function.update s.raw given true) given false = s.raw := by
      rw [Function.update_idem, ← free, Function.update_eq_self]
    cases registered with
    | false =>
      rw [GraphicBufferMapper.importBuffer_refused entry]
      have chain := Relation.ReflTransGen.tail (.tail (.single first) (not_registered raw))
        (.discarded given own)
      simp only [withClone, back, List.append_assoc] at chain
      exact chain
    | true =>
      rw [GraphicBufferMapper.importBuffer_taken entry]
      have other : buffer.handle ≠ given := by
        intro same
        rw [same, free] at mine
        cases mine
      have taken := registered_happens (s := s.withClone buffer.handle given) buffer entry raw
      have still : Function.update (s.withClone buffer.handle given).raw given false buffer.handle = true := by
        rw [Function.update_of_ne other]
        exact (Function.update_of_ne other _ _).trans mine
      have chain := Relation.ReflTransGen.tail (.tail (.single first) taken) (.discarded buffer.handle still)
      simp only [withClone, back, List.append_assoc] at chain
      exact chain

theorem retain_happens {handle : H} (owned : s.Owned handle) (room : s.held handle + 1 < 2 ^ 32) :
    let (adapter, outcome) := Device.retain s.adapter handle
    Relation.ReflTransGen Happens s ⟨adapter, s.log ++ outcome.calls.map .module, s.raw,
      if outcome.error = .noError then Function.update s.held handle (s.held handle + 1) else s.held⟩ := by
  cases present : s.adapter.mBuffers handle with
  | none =>
    simp only [Device.retain, Gralloc1On0Adapter.managementHook, Gralloc1On0Adapter.getBuffer, present]
    exact .single (.idle s.adapter rfl rfl [] fun _ => rfl)
  | some buffer =>
    obtain ⟨own, count, -⟩ := owned.inUse buffer present
    simp only [Device.retain, Gralloc1On0Adapter.managementHook, Gralloc1On0Adapter.getBuffer, present,
      Gralloc1On0Adapter.retain, own, if_true, List.map_nil, List.append_nil]
    exact .single (.counted handle buffer _ _ present (Session.retain_count count room) (Nat.succ_pos _))

theorem release_happens {handle : H} (owned : s.Owned handle) :
    let (adapter, outcome) := Device.release s.adapter handle
    Relation.ReflTransGen Happens s (s.released handle adapter outcome.error (outcome.calls.map .module)) := by
  cases present : s.adapter.mBuffers handle with
  | none =>
    simp only [Device.release, Gralloc1On0Adapter.managementHook, Gralloc1On0Adapter.getBuffer, present]
    exact .single (.idle s.adapter rfl rfl [] fun _ => rfl)
  | some buffer =>
    obtain ⟨own, count, positive⟩ := owned.inUse buffer present
    obtain ⟨lower, zero⟩ := Session.release_count count positive
    cases last : buffer.release.2 with
    | true =>
      have one := zero.mp last
      simp only [Device.release, Gralloc1On0Adapter.managementHook, Gralloc1On0Adapter.getBuffer, present,
        Gralloc1On0Adapter.release, own, last, released, if_true, one, Nat.sub_self]
      exact .single (.ended handle buffer present one)
    | false =>
      have several : s.held handle ≠ 1 := by
        intro one
        rw [zero.mpr one] at last
        cases last
      simp only [Device.release, Gralloc1On0Adapter.managementHook, Gralloc1On0Adapter.getBuffer, present,
        Gralloc1On0Adapter.release, own, last, released, if_true, Bool.false_eq_true, if_false, List.map_nil,
        List.append_nil]
      exact .single (.counted handle buffer _ _ present lower (by omega))

theorem allocate_happens (convert : UsageConversion) {width height format layerCount : BitVec 32}
    {usage graphicBufferId : BitVec 64} {answer : AllocAnswer H} (fresh : ∀ id, s.adapter.mDescriptors id = none)
    (sane : s.Sane (.allocate width height format layerCount usage graphicBufferId answer)) :
    Relation.ReflTransGen Happens s
      (s.act convert (.allocate width height format layerCount usage graphicBufferId answer)).1 := by
  simp only [act, GraphicBufferAllocator.allocate_eq convert width height format layerCount usage graphicBufferId
    answer (fresh _)]
  let next : Gralloc1On0Adapter H :=
    { s.adapter with sNextBufferDescriptorId := s.adapter.sNextBufferDescriptorId + 1 }
  by_cases more : 1 < layerCount
  · simp only [more, if_true]
    exact .single (.idle next rfl rfl [] fun _ => rfl)
  · simp only [more, if_false]
    cases answer with
    | failed =>
      simp only [Gralloc1On0Adapter.allocate]
      refine .single (.idle next rfl rfl _ fun handle => ?_)
      simp [Protocol.schedule, nativeLifeOf, NativeState.step]
    | allocated handle stride =>
      obtain ⟨absent, free⟩ := stateOf_absent_iff.mp sane
      have kept : s.raw = Function.update s.raw handle false := by
        rw [← free, Function.update_eq_self]
      simp only [Gralloc1On0Adapter.allocate, List.map_cons, List.map_nil]
      rw [kept]
      refine .single (.born _ (.create handle graphicBufferId _ stride true) _ absent rfl
        (Session.emplace_absent absent _) rfl ?_ ?_)
      · have before : s.stateOf handle = .absent := sane
        simp [Buffer.create, before, NativeState.step, NativeState.become, Buffer.native]
      · intro other apart state
        have own : handle ≠ other := fun same => apart same.symm
        simp [NativeState.step, own]

theorem given_happens {b : NativeBuffer H} {handle : H} {method : HandleWrapMethod} {given : Attributes}
    {imports : Option H} {registered : Bool} (cloning : method ≠ .cloneHandle) (owned : s.Owned handle)
    (mine : method = .takeUnregisteredHandle → s.raw handle = true)
    (fresh : ∀ given, imports = some given → s.stateOf given = .absent) :
    let (adapter, done) := b.initWithClone s.adapter handle none method given imports registered
    Relation.ReflTransGen Happens s (s.initialised handle method adapter done) := by
  by_cases takes : method = .takeUnregisteredHandle
  · subst takes
    have chain := imports_happen ((b.wrap (some handle) .takeUnregisteredHandle given).graphicBuffer handle)
      registered owned (mine rfl) fresh
    rcases result : GraphicBufferMapper.importBuffer s.adapter
      ((b.wrap (some handle) .takeUnregisteredHandle given).graphicBuffer handle) imports registered with
      ⟨adapter, imported⟩
    simp only [result] at chain
    simp only [NativeBuffer.initWithClone, if_true, result]
    by_cases ok : imported.error = .noError
    · simpa [initialised, ok, NativeBuffer.graphicBuffer] using chain
    · simpa [initialised, ok, NativeBuffer.wrap] using chain
  · simp only [NativeBuffer.initWithClone, takes, if_false]
    simpa [initialised, takes, cloning, NativeBuffer.wrap] using
      Relation.ReflTransGen.single (Happens.idle s.adapter rfl rfl [] fun _ => rfl)

theorem init_happens {b : NativeBuffer H} {handle : H} {method : HandleWrapMethod} {given : Attributes}
    {clone imports : Option H} {registered : Bool} (all : ∀ handle, s.Owned handle)
    (sane : s.Sane (.initWithHandle b handle method given clone imports registered)) :
    let (adapter, done) := b.initWithHandle s.adapter handle method given clone imports registered
    Relation.ReflTransGen Happens s (s.initialised handle method adapter done) := by
  obtain ⟨mine, live, first, second⟩ := sane
  by_cases cloning : method = .cloneHandle
  · subst cloning
    cases clone with
    | none =>
      simpa [NativeBuffer.initWithHandle, initialised] using Relation.ReflTransGen.single (not_cloned (live rfl))
    | some clone =>
      obtain ⟨entry, free⟩ := stateOf_absent_iff.mp (first clone rfl)
      have opened := cloned (live rfl) (first clone rfl)
      have own : (s.withClone handle clone).raw clone = true := Function.update_self _ _ _
      have back : Function.update (Function.update s.raw clone true) clone false = s.raw := by
        rw [Function.update_idem, ← free, Function.update_eq_self]
      have fresh : ∀ given, imports = some given → (s.withClone handle clone).stateOf given = .absent := by
        intro given imported
        obtain ⟨absent, apart⟩ := second given imported
        obtain ⟨other, unowned⟩ := stateOf_absent_iff.mp absent
        refine stateOf_absent_iff.mpr ⟨other, ?_⟩
        exact (Function.update_of_ne (fun same => apart (congrArg some same.symm)) _ _).trans unowned
      have chain := imports_happen ((b.wrap (some clone) .takeUnregisteredHandle given).graphicBuffer clone)
        registered (Owned.step all opened clone) own fresh
      rcases result : GraphicBufferMapper.importBuffer s.adapter
        ((b.wrap (some clone) .takeUnregisteredHandle given).graphicBuffer clone) imports registered with
        ⟨adapter, imported⟩
      have same : (s.withClone handle clone).adapter = s.adapter := rfl
      simp only [same, result] at chain
      simp only [NativeBuffer.initWithHandle, if_true, NativeBuffer.initWithClone, result]
      by_cases ok : imported.error = .noError
      · have whole := chain.head opened
        simpa [initialised, ok, NativeBuffer.graphicBuffer, withClone, back] using whole
      · simp only [ok, if_false] at chain
        have whole := (chain.head opened).tail (.discarded clone own)
        simpa [initialised, ok, NativeBuffer.wrap, withClone, back] using whole
  · simp only [NativeBuffer.initWithHandle, cloning, if_false]
    exact given_happens cloning (all handle) mine fun given imported => (second given imported).1

theorem act_happens (convert : UsageConversion) {a : Act H} (fresh : ∀ id, s.adapter.mDescriptors id = none)
    (all : ∀ handle, s.Owned handle) (sane : s.Sane a) : Relation.ReflTransGen Happens s (s.act convert a).1 := by
  cases a with
  | receive handle =>
    refine .single (.opened handle _ sane (by simp [NativeState.step, NativeState.become]) ?_)
    intro other apart
    simp [NativeState.step, Ne.symm apart]
  | discard handle => exact .single (.discarded handle sane)
  | allocate width height format layerCount usage graphicBufferId answer =>
    exact allocate_happens convert fresh sane
  | free handle => exact release_happens (all handle)
  | retain handle => exact retain_happens (all handle) sane
  | initWithHandle buffer handle method given clone imports registered => exact init_happens all sane
  | freeBuffer handle => exact release_happens (all handle)

end

structure Settled (s : Process H) : Prop where
  descriptors : ∀ id, s.adapter.mDescriptors id = none
  handles : ∀ handle, s.Owned handle

theorem Settled.step {s t : Process H} (settled : s.Settled) (happens : Happens s t) : t.Settled := by
  refine ⟨fun id => ?_, Owned.step settled.handles happens⟩
  cases happens with
  | idle adapter same descriptors calls nothing => exact (congrFun descriptors id).trans (settled.descriptors id)
  | born adapter buffer call absent one entries descriptors begins elsewhere =>
    exact (congrFun descriptors id).trans (settled.descriptors id)
  | _ => exact settled.descriptors id

theorem Settled.steps {s t : Process H} (settled : s.Settled) (chain : Relation.ReflTransGen Happens s t) :
    t.Settled := by
  induction chain with
  | refl => exact settled
  | tail _ happens ih => exact ih.step happens

theorem start_settled : (start : Process H).Settled :=
  ⟨fun _ => rfl, fun _ => ⟨rfl, fun _ => rfl, fun _ => rfl, fun _ present => by cases present⟩⟩

/-- In every run no handle is closed or deleted out of turn, and at any time each is absent, or
raw and a client's, or in the table with the references held of it. -/
theorem handles_settled (convert : UsageConversion) (acts : List (Act H))
    (sane : ∀ t ∈ (process convert).trace start acts, t.source.Sane t.input) :
    ((process convert).run start acts).Settled :=
  (process convert).run_invariant Settled Sane
    (fun _ _ settled sane => settled.steps (act_happens convert settled.descriptors settled.handles sane))
    start acts start_settled sane

/-- A handle is cloned and imported, the original fails to be and is thrown away, and the
handle is freed and comes back from an allocation. -/
theorem handles_settled_imported :
    let buffer : NativeBuffer Nat := ⟨9, none, 0, 0, 0, 0, 0, 0, .ownNone⟩
    let given : Attributes := ⟨16, 16, 1, 1, 0, 16⟩
    let acts : List (Act Nat) := [.receive 1, .initWithHandle buffer 1 .cloneHandle given (some 2) (some 3) true,
      .initWithHandle buffer 1 .takeUnregisteredHandle given none (some 4) false, .discard 1, .freeBuffer 3,
      .allocate 16 16 1 1 0x302 9 (.allocated 3 16)]
    ((process .masked).run start acts).Settled := by
  refine handles_settled _ _ ?_
  intro t member
  simp only [Machine.trace, List.mem_cons, List.not_mem_nil, or_false] at member
  rcases member with rfl | rfl | rfl | rfl | rfl | rfl
  · rfl
  · refine ⟨fun taking => (by cases taking), fun _ => (by decide : NativeState.raw ≠ .absent), ?_, ?_⟩
    · rintro given ⟨⟩
      rfl
    · rintro given ⟨⟩
      exact ⟨rfl, by decide⟩
  · refine ⟨fun _ => rfl, fun cloning => (by cases cloning), fun given none => (by cases none), ?_⟩
    rintro given ⟨⟩
    exact ⟨rfl, by decide⟩
  · rfl
  · trivial
  · rfl

end Process
end Gralloc
