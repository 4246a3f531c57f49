import Mathlib.Data.List.Basic
import Mathlib.Logic.Function.Basic
import KanasSensors.Foundation.Machine

/-! `Gralloc1On0Adapter`: the functions of a gralloc1 device over a gralloc0 module.

The adapter keeps the descriptors its clients set up and a reference count for every buffer it
has allocated or registered. Handles are pointers and of any type here. What the module answers
is part of a call, and the calls that reach the module are put out; of a buffer's own fields
those that the module is not asked about are read back by the query functions alone.
-/

set_option autoImplicit false

namespace Gralloc

open Foundation

inductive Gralloc1Error where
  | noError
  | badDescriptor
  | badHandle
  | badValue
  | notShared
  | noResources
  | undefined
  | unsupported
  deriving DecidableEq

/-- `android_convertGralloc1To0Usage` and `android_convertGralloc0To1Usage`, of a library that
is not part of the sources. -/
structure UsageConversion where
  convert1To0 : BitVec 64 → BitVec 64 → BitVec 32
  convert0To1 : BitVec 32 → BitVec 64 × BitVec 64

def UsageConversion.unused : UsageConversion := ⟨fun _ _ => 0, fun _ => (0, 0)⟩

/-- The library's conversion of usages that are not often read or written by software:
every bit stays in place, on the side or the sides that have it. -/
def UsageConversion.masked : UsageConversion where
  convert1To0 producerUsage consumerUsage := (producerUsage ||| consumerUsage).setWidth 32
  convert0To1 usage := ((usage &&& 0xC24222).setWidth 64, (usage &&& 0x1159902).setWidth 64)

def halPixelFormatImplementationDefined : BitVec 32 := 0x22

structure Descriptor where
  id : BitVec 64
  width : BitVec 32
  height : BitVec 32
  format : BitVec 32
  layerCount : BitVec 32
  producerUsage : BitVec 64
  consumerUsage : BitVec 64
  deriving DecidableEq

namespace Descriptor

def create (id : BitVec 64) : Descriptor := ⟨id, 0, 0, halPixelFormatImplementationDefined, 1, 0, 0⟩

def setDimensions (width height : BitVec 32) (d : Descriptor) : Descriptor := { d with width, height }
def setFormat (format : BitVec 32) (d : Descriptor) : Descriptor := { d with format }
def setLayerCount (layerCount : BitVec 32) (d : Descriptor) : Descriptor := { d with layerCount }
def setProducerUsage (producerUsage : BitVec 64) (d : Descriptor) : Descriptor := { d with producerUsage }
def setConsumerUsage (consumerUsage : BitVec 64) (d : Descriptor) : Descriptor := { d with consumerUsage }

end Descriptor

/-- `mReferenceCount` is a `size_t` of a 32-bit target. -/
structure Buffer (H : Type) where
  mHandle : H
  mReferenceCount : BitVec 32
  mStore : BitVec 64
  mDescriptor : Descriptor
  mStride : BitVec 32
  mWasAllocated : Bool

namespace Buffer

variable {H : Type}

def create (handle : H) (store : BitVec 64) (descriptor : Descriptor) (stride : BitVec 32)
    (wasAllocated : Bool) : Buffer H := ⟨handle, 1, store, descriptor, stride, wasAllocated⟩

def retain (b : Buffer H) : Buffer H := { b with mReferenceCount := b.mReferenceCount + 1 }

def release (b : Buffer H) : Buffer H × Bool :=
  let b := { b with mReferenceCount := b.mReferenceCount - 1 }
  (b, b.mReferenceCount == 0)

end Buffer

structure GraphicBuffer (H : Type) where
  handle : H
  id : BitVec 64
  width : BitVec 32
  height : BitVec 32
  format : BitVec 32
  usage : BitVec 64
  stride : BitVec 32

/-- The calls that reach the gralloc0 module, and those of `native_handle_close` and
`native_handle_delete`. Of those whose answer the adapter looks at there is the answer too. -/
inductive ModuleCall (H : Type) where
  | alloc (width height format usage : BitVec 32) (given : Option H)
  | free (handle : H)
  | registerBuffer (handle : H) (done : Bool)
  | unregisterBuffer (handle : H)
  | nativeHandleClose (handle : H)
  | nativeHandleDelete (handle : H)

inductive AllocAnswer (H : Type) where
  | failed
  | allocated (handle : H) (stride : BitVec 32)

/-- What a function returns, what it stores through its out parameter, and what it called. -/
structure Outcome (H Value : Type) where
  error : Gralloc1Error
  out : Option Value
  calls : List (ModuleCall H)

structure Gralloc1On0Adapter (H : Type) where
  mDescriptors : BitVec 64 → Option Descriptor
  mBuffers : H → Option (Buffer H)
  sNextBufferDescriptorId : BitVec 64

/-- `unordered_map::emplace`: an entry that is there already stays. -/
def emplace {K V : Type} [DecidableEq K] (entries : K → Option V) (key : K) (value : V) : K → Option V :=
  match entries key with
  | none => Function.update entries key (some value)
  | some _ => entries

namespace Gralloc1On0Adapter

variable {H : Type}

def create : Gralloc1On0Adapter H := ⟨fun _ => none, fun _ => none, 1⟩

def createDescriptor (a : Gralloc1On0Adapter H) : Gralloc1On0Adapter H × Outcome H (BitVec 64) :=
  let descriptorId := a.sNextBufferDescriptorId
  ({ a with
      sNextBufferDescriptorId := descriptorId + 1
      mDescriptors := emplace a.mDescriptors descriptorId (.create descriptorId) },
    ⟨.noError, some descriptorId, []⟩)

def destroyDescriptor (a : Gralloc1On0Adapter H) (descriptor : BitVec 64) :
    Gralloc1On0Adapter H × Outcome H (BitVec 64) :=
  if (a.mDescriptors descriptor).isNone then (a, ⟨.badDescriptor, none, []⟩)
  else ({ a with mDescriptors := Function.update a.mDescriptors descriptor none }, ⟨.noError, none, []⟩)

def getDescriptor (a : Gralloc1On0Adapter H) (descriptorId : BitVec 64) : Option Descriptor :=
  a.mDescriptors descriptorId

def callDescriptorFunction (a : Gralloc1On0Adapter H) (descriptorId : BitVec 64)
    (member : Descriptor → Descriptor) : Gralloc1On0Adapter H × Outcome H (BitVec 64) :=
  match a.getDescriptor descriptorId with
  | none => (a, ⟨.badDescriptor, none, []⟩)
  | some descriptor =>
    ({ a with mDescriptors := Function.update a.mDescriptors descriptorId (some (member descriptor)) },
      ⟨.noError, none, []⟩)

def setConsumerUsageHook (a : Gralloc1On0Adapter H) (descriptorId : BitVec 64) (usage : BitVec 64) :=
  a.callDescriptorFunction descriptorId (.setConsumerUsage usage)

def setDimensionsHook (a : Gralloc1On0Adapter H) (descriptorId : BitVec 64) (width height : BitVec 32) :=
  a.callDescriptorFunction descriptorId (.setDimensions width height)

def setFormatHook (a : Gralloc1On0Adapter H) (descriptorId : BitVec 64) (format : BitVec 32) :=
  a.callDescriptorFunction descriptorId (.setFormat format)

def setLayerCountHook (a : Gralloc1On0Adapter H) (descriptorId : BitVec 64) (layerCount : BitVec 32) :=
  a.callDescriptorFunction descriptorId (.setLayerCount layerCount)

def setProducerUsageHook (a : Gralloc1On0Adapter H) (descriptorId : BitVec 64) (usage : BitVec 64) :=
  a.callDescriptorFunction descriptorId (.setProducerUsage usage)

variable [DecidableEq H]

def getBuffer (a : Gralloc1On0Adapter H) (bufferHandle : H) : Option (Buffer H) := a.mBuffers bufferHandle

def allocate (usage : UsageConversion) (a : Gralloc1On0Adapter H) (descriptor : Descriptor)
    (store : BitVec 64) (answer : AllocAnswer H) : Gralloc1On0Adapter H × Outcome H H :=
  let call := ModuleCall.alloc descriptor.width descriptor.height descriptor.format
    (usage.convert1To0 descriptor.producerUsage descriptor.consumerUsage)
  match answer with
  | .failed => (a, ⟨.noResources, none, [call none]⟩)
  | .allocated handle stride =>
    ({ a with mBuffers := emplace a.mBuffers handle (.create handle store descriptor stride true) },
      ⟨.noError, some handle, [call (some handle)]⟩)

def allocateWithIdHook (usage : UsageConversion) (a : Gralloc1On0Adapter H) (descriptorId store : BitVec 64)
    (answer : AllocAnswer H) : Gralloc1On0Adapter H × Outcome H H :=
  match a.getDescriptor descriptorId with
  | none => (a, ⟨.badDescriptor, none, []⟩)
  | some descriptor => a.allocate usage descriptor store answer

def retain (a : Gralloc1On0Adapter H) (buffer : Buffer H) : Gralloc1On0Adapter H × Outcome H H :=
  ({ a with mBuffers := Function.update a.mBuffers buffer.mHandle (some buffer.retain) },
    ⟨.noError, none, []⟩)

/-- What becomes of a buffer whose last reference is gone. -/
def disposal (buffer : Buffer H) : List (ModuleCall H) :=
  let handle := buffer.mHandle
  if buffer.mWasAllocated then [.free handle]
  else [.unregisterBuffer handle, .nativeHandleClose handle, .nativeHandleDelete handle]

def release (a : Gralloc1On0Adapter H) (buffer : Buffer H) : Gralloc1On0Adapter H × Outcome H H :=
  let handle := buffer.mHandle
  if buffer.release.2 then
    ({ a with mBuffers := Function.update a.mBuffers handle none }, ⟨.noError, none, disposal buffer⟩)
  else
    ({ a with mBuffers := Function.update a.mBuffers handle (some buffer.release.1) }, ⟨.noError, none, []⟩)

def managementHook (member : Gralloc1On0Adapter H → Buffer H → Gralloc1On0Adapter H × Outcome H H)
    (a : Gralloc1On0Adapter H) (bufferHandle : H) : Gralloc1On0Adapter H × Outcome H H :=
  match a.getBuffer bufferHandle with
  | none => (a, ⟨.badHandle, none, []⟩)
  | some buffer => member a buffer

/-- The descriptor a registered buffer is given: the one usage serves for both. -/
def graphicDescriptor (id : BitVec 64) (graphicBuffer : GraphicBuffer H) : Descriptor :=
  Descriptor.create id |>.setDimensions graphicBuffer.width graphicBuffer.height
    |>.setFormat graphicBuffer.format |>.setProducerUsage graphicBuffer.usage
    |>.setConsumerUsage graphicBuffer.usage

/-- `retain` of a `GraphicBuffer`. `registered` is whether `registerBuffer` returns zero. -/
def retainGraphicBuffer (a : Gralloc1On0Adapter H) (graphicBuffer : GraphicBuffer H) (registered : Bool) :
    Gralloc1On0Adapter H × Outcome H H :=
  let handle := graphicBuffer.handle
  match a.mBuffers handle with
  | some buffer =>
    ({ a with mBuffers := Function.update a.mBuffers handle (some buffer.retain) }, ⟨.noError, none, []⟩)
  | none =>
    if registered then
      let descriptor := graphicDescriptor a.sNextBufferDescriptorId graphicBuffer
      ({ a with
          sNextBufferDescriptorId := a.sNextBufferDescriptorId + 1
          mBuffers := emplace a.mBuffers handle
            (.create handle graphicBuffer.id descriptor graphicBuffer.stride false) },
        ⟨.noError, none, [.registerBuffer handle true]⟩)
    else (a, ⟨.noResources, none, [.registerBuffer handle false]⟩)

def callBufferFunction {Value : Type} (member : Buffer H → Value) (a : Gralloc1On0Adapter H)
    (bufferHandle : H) : Gralloc1Error × Option Value :=
  match a.getBuffer bufferHandle with
  | none => (.badHandle, none)
  | some buffer => (.noError, some (member buffer))

def getBackingStore (a : Gralloc1On0Adapter H) := a.callBufferFunction Buffer.mStore
def getConsumerUsage (a : Gralloc1On0Adapter H) := a.callBufferFunction fun b => b.mDescriptor.consumerUsage
def getDimensions (a : Gralloc1On0Adapter H) :=
  a.callBufferFunction fun b => (b.mDescriptor.width, b.mDescriptor.height)
def getFormat (a : Gralloc1On0Adapter H) := a.callBufferFunction fun b => b.mDescriptor.format
def getLayerCount (a : Gralloc1On0Adapter H) := a.callBufferFunction fun b => b.mDescriptor.layerCount
def getProducerUsage (a : Gralloc1On0Adapter H) := a.callBufferFunction fun b => b.mDescriptor.producerUsage
def getStride (a : Gralloc1On0Adapter H) := a.callBufferFunction Buffer.mStride
def getNumFlexPlanes (a : Gralloc1On0Adapter H) := a.callBufferFunction fun _ => (4 : BitVec 32)

end Gralloc1On0Adapter
end Gralloc
