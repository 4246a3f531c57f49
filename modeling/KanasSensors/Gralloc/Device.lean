import KanasSensors.Gralloc.Model

/-! `Gralloc1::Device` over the adapter, and its clients: the allocator, the mapper and the
buffers of libui, where there is no gralloc2 service.

What `native_handle_clone` gives is part of a call, as the answers of the module are.
-/

set_option autoImplicit false

namespace Gralloc

inductive Capability where
  | layeredBuffers
  | onAdapter
  | releaseImplyDelete
  deriving DecidableEq

/-- The `status_t` of the clients; the mapper returns errors of the device as they are. -/
inductive Status where
  | noError
  | noMemory
  | badValue
  | gralloc1 (error : Gralloc1Error)
  deriving DecidableEq

inductive ProcessCall (H : Type) where
  | nativeHandleCreate (handle : H)
  | nativeHandleClone (handle : H) (given : Option H)
  | nativeHandleClose (handle : H)
  | nativeHandleDelete (handle : H)
  | module (call : ModuleCall H)

namespace Gralloc1On0Adapter

def supportedCapabilities : List Capability := [.onAdapter, .releaseImplyDelete]

/-- The count stored through `outCount`, and what is stored through `outCapabilities`, if that
is not null. -/
def doGetCapabilities (outCount : Nat) (outCapabilities : Bool) : Nat × List Capability :=
  if outCapabilities then
    let outCount := min outCount supportedCapabilities.length
    (outCount, supportedCapabilities.take outCount)
  else (supportedCapabilities.length, [])

variable {H : Type} [DecidableEq H]

def having (a : Gralloc1On0Adapter H) (id : BitVec 64) (descriptor : Descriptor) : Gralloc1On0Adapter H :=
  { a with mDescriptors := Function.update a.mDescriptors id (some descriptor) }

omit [DecidableEq H] in
theorem createDescriptor_eq {a : Gralloc1On0Adapter H}
    (fresh : a.mDescriptors a.sNextBufferDescriptorId = none) : a.createDescriptor =
      (having { a with sNextBufferDescriptorId := a.sNextBufferDescriptorId + 1 } a.sNextBufferDescriptorId
        (.create a.sNextBufferDescriptorId), ⟨.noError, some a.sNextBufferDescriptorId, []⟩) := by
  simp [createDescriptor, having, emplace, fresh]

omit [DecidableEq H] in
theorem having_call (a : Gralloc1On0Adapter H) (id : BitVec 64) (descriptor : Descriptor)
    (member : Descriptor → Descriptor) : (a.having id descriptor).callDescriptorFunction id member =
      (a.having id (member descriptor), ⟨.noError, none, []⟩) := by
  simp [callDescriptorFunction, having, getDescriptor]

theorem having_allocate (convert : UsageConversion) (a : Gralloc1On0Adapter H) (id : BitVec 64)
    (descriptor : Descriptor) (store : BitVec 64) (answer : AllocAnswer H) :
    (a.having id descriptor).allocateWithIdHook convert id store answer =
      ((a.allocate convert descriptor store answer).1.having id descriptor,
        (a.allocate convert descriptor store answer).2) := by
  cases answer <;> simp [allocateWithIdHook, having, getDescriptor, allocate]

omit [DecidableEq H] in
theorem having_destroy {a : Gralloc1On0Adapter H} {id : BitVec 64} (descriptor : Descriptor)
    (absent : a.mDescriptors id = none) : (a.having id descriptor).destroyDescriptor id = (a, ⟨.noError, none, []⟩) := by
  have back : Function.update a.mDescriptors id none = a.mDescriptors := by
    rw [← absent, Function.update_eq_self]
  simp [destroyDescriptor, having, back]

end Gralloc1On0Adapter

namespace Device

variable {H : Type} [DecidableEq H]

def loadCapabilities : List Capability :=
  let (numCapabilities, _) := Gralloc1On0Adapter.doGetCapabilities 0 false
  (Gralloc1On0Adapter.doGetCapabilities numCapabilities true).2

def hasCapability (capability : Capability) : Bool := loadCapabilities.contains capability

/-- The other `allocate` is for devices that have a function of the name. -/
def allocate (usage : UsageConversion) (a : Gralloc1On0Adapter H) (deviceId id : BitVec 64)
    (answer : AllocAnswer H) : Gralloc1On0Adapter H × Outcome H H :=
  if hasCapability .onAdapter then a.allocateWithIdHook usage deviceId id answer
  else (a, ⟨.unsupported, none, []⟩)

def retain (a : Gralloc1On0Adapter H) (buffer : H) : Gralloc1On0Adapter H × Outcome H H :=
  a.managementHook Gralloc1On0Adapter.retain buffer

def retainGraphicBuffer (a : Gralloc1On0Adapter H) (buffer : GraphicBuffer H) (registered : Bool) :
    Gralloc1On0Adapter H × Outcome H H :=
  if hasCapability .onAdapter then a.retainGraphicBuffer buffer registered else retain a buffer.handle

def release (a : Gralloc1On0Adapter H) (buffer : H) : Gralloc1On0Adapter H × Outcome H H :=
  a.managementHook Gralloc1On0Adapter.release buffer

/-- The out parameter of a query is written where the function has no error to report. -/
def query {Value : Type} (answer : Gralloc1Error × Option Value) : Gralloc1Error × Option Value :=
  if answer.1 = .noError then answer else (answer.1, none)

def getDimensions (a : Gralloc1On0Adapter H) (buffer : H) := query (a.getDimensions buffer)
def getFormat (a : Gralloc1On0Adapter H) (buffer : H) := query (a.getFormat buffer)

def getLayerCount (a : Gralloc1On0Adapter H) (buffer : H) : Gralloc1Error × Option (BitVec 32) :=
  if hasCapability .layeredBuffers then query (a.getLayerCount buffer) else (.unsupported, none)

def getProducerUsage (a : Gralloc1On0Adapter H) (buffer : H) := query (a.getProducerUsage buffer)
def getConsumerUsage (a : Gralloc1On0Adapter H) (buffer : H) := query (a.getConsumerUsage buffer)
def getBackingStore (a : Gralloc1On0Adapter H) (buffer : H) := query (a.getBackingStore buffer)
def getStride (a : Gralloc1On0Adapter H) (buffer : H) := query (a.getStride buffer)

omit [DecidableEq H] in
@[simp] theorem query_callBufferFunction {Value : Type} (member : Buffer H → Value) (a : Gralloc1On0Adapter H)
    (buffer : H) : query (a.callBufferFunction member buffer) = a.callBufferFunction member buffer := by
  unfold Gralloc1On0Adapter.callBufferFunction
  cases a.getBuffer buffer <;> rfl

end Device

namespace GraphicBufferAllocator

open Gralloc1On0Adapter

variable {H : Type} [DecidableEq H]

structure Allocated (H : Type) where
  status : Status
  handle : Option H
  stride : Option (BitVec 32)
  calls : List (ModuleCall H)

/-- The descriptor goes with the last reference to it, on every way out. -/
def leave (a : Gralloc1On0Adapter H) (descriptor : BitVec 64) (allocated : Allocated H) :
    Gralloc1On0Adapter H × Allocated H :=
  ((a.destroyDescriptor descriptor).1, allocated)

/-- From `if (layerCount < 1)` on; the lines above it, which look at sizes of zero, are in a
file that the patch changes and that is not part of the sources. -/
def allocate (convert : UsageConversion) (a : Gralloc1On0Adapter H) (width height format layerCount : BitVec 32)
    (usage graphicBufferId : BitVec 64) (answer : AllocAnswer H) : Gralloc1On0Adapter H × Allocated H :=
  let layerCount := if layerCount < 1 then 1 else layerCount
  let (producerUsage, consumerUsage) := convert.convert0To1 (usage.setWidth 32)
  let descriptor := a.createDescriptor.2.out.getD 0
  let a := a.createDescriptor.1
  let (a, set) := a.setDimensionsHook descriptor width height
  if set.error ≠ .noError then leave a descriptor ⟨.badValue, none, none, []⟩ else
  let (a, set) := a.setFormatHook descriptor format
  if set.error ≠ .noError then leave a descriptor ⟨.badValue, none, none, []⟩ else
  let (a, layered) :=
    if Device.hasCapability .layeredBuffers then
      let (a, set) := a.setLayerCountHook descriptor layerCount
      (a, set.error = .noError)
    else (a, !decide (1 < layerCount))
  if ¬layered then leave a descriptor ⟨.badValue, none, none, []⟩ else
  let (a, set) := a.setProducerUsageHook descriptor producerUsage
  if set.error ≠ .noError then leave a descriptor ⟨.badValue, none, none, []⟩ else
  let (a, set) := a.setConsumerUsageHook descriptor consumerUsage
  if set.error ≠ .noError then leave a descriptor ⟨.badValue, none, none, []⟩ else
  let (a, given) := Device.allocate convert a descriptor graphicBufferId answer
  match given.error, given.out with
  | .noError, some handle =>
    let (_, stride) := Device.getStride a handle
    leave a descriptor ⟨.noError, some handle, stride, given.calls⟩
  | _, _ => leave a descriptor ⟨.noMemory, none, none, given.calls⟩

def free (a : Gralloc1On0Adapter H) (handle : H) : Gralloc1On0Adapter H × Outcome H H := Device.release a handle

def asked (convert : UsageConversion) (id : BitVec 64) (width height format : BitVec 32) (usage : BitVec 64) :
    Descriptor :=
  let (producerUsage, consumerUsage) := convert.convert0To1 (usage.setWidth 32)
  ⟨id, width, height, format, 1, producerUsage, consumerUsage⟩

theorem allocate_eq (convert : UsageConversion) {a : Gralloc1On0Adapter H} (width height format layerCount : BitVec 32)
    (usage graphicBufferId : BitVec 64) (answer : AllocAnswer H)
    (fresh : a.mDescriptors a.sNextBufferDescriptorId = none) :
    allocate convert a width height format layerCount usage graphicBufferId answer =
      let next := { a with sNextBufferDescriptorId := a.sNextBufferDescriptorId + 1 }
      if 1 < layerCount then (next, ⟨.badValue, none, none, []⟩)
      else
        let (next, given) := Gralloc1On0Adapter.allocate convert next
          (asked convert a.sNextBufferDescriptorId width height format usage) graphicBufferId answer
        match given.out with
        | none => (next, ⟨.noMemory, none, none, given.calls⟩)
        | some handle => (next, ⟨.noError, some handle, (Device.getStride next handle).2, given.calls⟩) := by
  have one : (1 < if layerCount < 1 then 1 else layerCount) ↔ 1 < layerCount := by
    split
    · rename_i less
      refine iff_of_false (by decide) ?_
      bv_omega
    · rfl
  have layered : Device.hasCapability .layeredBuffers = false := rfl
  have adapter : Device.hasCapability .onAdapter = true := rfl
  simp only [GraphicBufferAllocator.allocate, createDescriptor_eq fresh, Option.getD_some, setDimensionsHook,
    setFormatHook, setProducerUsageHook, setConsumerUsageHook, having_call, layered, one, Bool.false_eq_true,
    if_false, ne_eq, not_true_eq_false, Device.allocate, adapter, if_true, having_allocate, leave]
  by_cases more : 1 < layerCount
  · simp only [more, decide_true, Bool.not_true, Bool.false_eq_true, not_false_iff, if_true]
    rw [having_destroy _ (by exact fresh)]
  · simp only [more, decide_false, Bool.not_false, not_true_eq_false, if_false]
    cases answer <;>
      simp only [Gralloc1On0Adapter.allocate] <;>
      rw [having_destroy _ (by exact fresh)] <;>
      rfl

end GraphicBufferAllocator

namespace GraphicBufferMapper

variable {H : Type} [DecidableEq H]

structure Imported (H : Type) where
  handle : H
  error : Gralloc1Error
  calls : List (ProcessCall H)

def importBuffer (a : Gralloc1On0Adapter H) (buffer : GraphicBuffer H) (clone : Option H) (registered : Bool) :
    Gralloc1On0Adapter H × Imported H :=
  let rawHandle := buffer.handle
  match clone with
  | none => (a, ⟨rawHandle, .noResources, [.nativeHandleClone rawHandle none]⟩)
  | some clonedHandle =>
    let (a, retained) := Device.retainGraphicBuffer a { buffer with handle := clonedHandle } registered
    let calls := .nativeHandleClone rawHandle (some clonedHandle) :: retained.calls.map .module
    if retained.error ≠ .noError then
      (a, ⟨rawHandle, retained.error,
        calls ++ [.nativeHandleClose clonedHandle, .nativeHandleDelete clonedHandle]⟩)
    else
      -- the raw handle is owned by the buffer and is now replaced
      (a, ⟨clonedHandle, .noError, calls ++ [.nativeHandleClose rawHandle, .nativeHandleDelete rawHandle]⟩)

theorem importBuffer_refused {a : Gralloc1On0Adapter H} {buffer : GraphicBuffer H} {given : H}
    (absent : a.mBuffers given = none) : importBuffer a buffer (some given) false =
      (a, ⟨buffer.handle, .noResources, [.nativeHandleClone buffer.handle (some given),
        .module (.registerBuffer given false), .nativeHandleClose given, .nativeHandleDelete given]⟩) := by
  have adapter : Device.hasCapability .onAdapter = true := rfl
  simp [importBuffer, Device.retainGraphicBuffer, adapter, Gralloc1On0Adapter.retainGraphicBuffer, absent]

theorem importBuffer_taken {a : Gralloc1On0Adapter H} {buffer : GraphicBuffer H} {given : H}
    (absent : a.mBuffers given = none) : importBuffer a buffer (some given) true =
      ({ a with
          sNextBufferDescriptorId := a.sNextBufferDescriptorId + 1
          mBuffers := emplace a.mBuffers given (.create given buffer.id
            (Gralloc1On0Adapter.graphicDescriptor a.sNextBufferDescriptorId buffer) buffer.stride false) },
        ⟨given, .noError, [.nativeHandleClone buffer.handle (some given),
          .module (.registerBuffer given true), .nativeHandleClose buffer.handle,
          .nativeHandleDelete buffer.handle]⟩) := by
  have adapter : Device.hasCapability .onAdapter = true := rfl
  simp [importBuffer, Device.retainGraphicBuffer, adapter, Gralloc1On0Adapter.retainGraphicBuffer, absent,
    Gralloc1On0Adapter.graphicDescriptor]

def freeBuffer (a : Gralloc1On0Adapter H) (handle : H) :
    Gralloc1On0Adapter H × Gralloc1Error × List (ProcessCall H) :=
  let (a, released) := Device.release a handle
  let calls := released.calls.map .module
  if Device.hasCapability .releaseImplyDelete then (a, released.error, calls)
  else (a, released.error, calls ++ [.nativeHandleClose handle, .nativeHandleDelete handle])

end GraphicBufferMapper

inductive HandleWrapMethod where
  | wrapHandle
  | takeHandle
  | takeUnregisteredHandle
  | cloneHandle
  deriving DecidableEq

inductive Owner where
  | ownNone
  | ownHandle
  deriving DecidableEq

structure NativeBuffer (H : Type) where
  id : BitVec 64
  handle : Option H
  width : BitVec 32
  height : BitVec 32
  format : BitVec 32
  layerCount : BitVec 32
  usage : BitVec 64
  stride : BitVec 32
  mOwner : Owner

structure Attributes where
  width : BitVec 32
  height : BitVec 32
  format : BitVec 32
  layerCount : BitVec 32
  usage : BitVec 64
  stride : BitVec 32

namespace NativeBuffer

variable {H : Type} [DecidableEq H]

def wrap (b : NativeBuffer H) (handle : Option H) (method : HandleWrapMethod) (given : Attributes) : NativeBuffer H :=
  { b with
    width := given.width
    height := given.height
    stride := given.stride
    format := given.format
    usage := given.usage
    layerCount := given.layerCount
    handle := handle
    mOwner := if method = .wrapHandle then .ownNone else .ownHandle }

def graphicBuffer (b : NativeBuffer H) (handle : H) : GraphicBuffer H :=
  ⟨handle, b.id, b.width, b.height, b.format, b.usage, b.stride⟩

structure Initialised (H : Type) where
  buffer : NativeBuffer H
  status : Status
  calls : List (ProcessCall H)

def initWithClone (a : Gralloc1On0Adapter H) (b : NativeBuffer H) (handle : H) (clone : Option H)
    (method : HandleWrapMethod) (given : Attributes) (imports : Option H) (registered : Bool) :
    Gralloc1On0Adapter H × Initialised H :=
  let b := b.wrap (some handle) method given
  if method = .takeUnregisteredHandle then
    let (a, imported) := GraphicBufferMapper.importBuffer a (b.graphicBuffer handle) imports registered
    if imported.error ≠ .noError then
      let cleanup := match clone with
        | some clone => [.nativeHandleClose clone, .nativeHandleDelete clone]
        | none => []
      (a, ⟨b.wrap none .wrapHandle ⟨0, 0, 0, 0, 0, 0⟩, .gralloc1 imported.error, imported.calls ++ cleanup⟩)
    else (a, ⟨{ b with handle := some imported.handle }, .noError, imported.calls⟩)
  else (a, ⟨b, .noError, []⟩)

/-- `clone` is what the first `native_handle_clone` gives, `imports` that of the import. -/
def initWithHandle (a : Gralloc1On0Adapter H) (b : NativeBuffer H) (handle : H) (method : HandleWrapMethod)
    (given : Attributes) (clone imports : Option H) (registered : Bool) :
    Gralloc1On0Adapter H × Initialised H :=
  if method = .cloneHandle then
    match clone with
    | none => (a, ⟨b, .noMemory, [.nativeHandleClone handle none]⟩)
    | some clone =>
      let (a, done) := initWithClone a b clone (some clone) .takeUnregisteredHandle given imports registered
      (a, { done with calls := .nativeHandleClone handle (some clone) :: done.calls })
  else initWithClone a b handle none method given imports registered

end NativeBuffer
end Gralloc
