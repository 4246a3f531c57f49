import KanasSensors.Accelerometer.Attributes
import KanasSensors.Context.Device

/-! The instances of the device in a process, with their descriptors and the attribute files.

`open_sensors` makes one and `device__close` ends it; in between the framework calls its entry
points. The process has other descriptors too, and opens and closes them at any time.
-/

set_option autoImplicit false

namespace KanasSensors

open Foundation

/-- `wakeFds`: the two ends of the pipe, or what was in the array if `pipe` failed. -/
inductive WakeFds where
  | created (read write : Nat)
  | failed (read write : Int)

namespace WakeFds

def pipe (alloc : Allocator) (table : Descriptors) (made : Bool) (held : Int × Int) : Descriptors × WakeFds :=
  if made then
    let read := alloc.next table.inUse
    let table : Descriptors := (read, .empty) :: table
    let write := alloc.next table.inUse
    ((write, .empty) :: table, .created read write)
  else (table, .failed held.1 held.2)

/-- `close(mPollFds[wake].fd)` and `close(mWritePipeFd)`. -/
def close (table : Descriptors) : WakeFds → Descriptors
  | created read write => (table.close read).close write
  -- whatever numbers were in the array are closed
  | failed read write => (table.close read).close write

def fds : WakeFds → List Nat
  | created read write => [read, write]
  | failed _ _ => []

end WakeFds

def Descriptors.writeSysAttribute (alloc : Allocator) (table : Descriptors) (path : CString) :
    SysfsOutcome → Descriptors
  | .openFailed => table
  | _ =>
    let fd := alloc.next table.inUse
    close ((fd, path) :: table) fd

/-- What `write_sys_attribute` goes through: the buffer of the instance, the descriptors of the
process, and the attribute files of the system. -/
structure AttributeState where
  path : AttributePath
  descriptors : Descriptors
  sysfs : CString → String

namespace AttributeState

def write (alloc : Allocator) (s : AttributeState) (w : AttributeWrite) : AttributeState :=
  let path := s.path.select w.file
  { path
    descriptors := s.descriptors.writeSysAttribute alloc path.path w.outcome
    sysfs := if w.done then Function.update s.sysfs path.path w.value else s.sysfs }

def writes (alloc : Allocator) (s : AttributeState) (ws : List AttributeWrite) : AttributeState :=
  ws.foldl (write alloc) s

end AttributeState

structure SensorsInstance (F : Type) where
  ctx : SensorsPollContext (Accelerometer F)
  input_name : CString
  data_fd : Int
  path : AttributePath
  wakeFds : WakeFds

structure InstanceMemory where
  input_name : CString
  uninitialised : Accelerometer.Uninitialised
  input_sysfs_path : Nat → UInt8
  wakeFds : Int × Int

structure HalProcess (F : Type) where
  descriptors : Descriptors
  sysfs : CString → String
  instances : List (SensorsInstance F)
  others : List Nat

inductive HalAct where
  | openSensors (memory : InstanceMemory) (dir : Option (List DirEntry)) (piped : Bool)
  | deviceCall (k : Nat) (call : DeviceCall)
  | deviceClose (k : Nat) (outcome : Sensor → SysfsOutcome)
  | otherOpen (path : CString)
  | otherClose (fd : Nat)

namespace SensorsPollContext

variable {F : Type} [FloatArith F]

/-- What a call writes. `setDelay` leaves a call with the interval in force to itself, as the
driver does. -/
def writes (c : SensorsPollContext (Accelerometer F)) : DeviceCall → List AttributeWrite
  | .setDelay handle ns outcome => c.acc.setDelayWrites handle ns outcome
  | .batch handle _ period_ns _ outcome => c.acc.batchWrites handle period_ns outcome
  | .other (.activate handle enabled outcome _) => c.acc.setEnableWrites handle enabled outcome
  | .other _ => []

end SensorsPollContext

namespace SensorsInstance

variable {F : Type}

def directory (inst : SensorsInstance F) : CString := AttributePath.directory inst.data_fd inst.input_name

def fds (inst : SensorsInstance F) : List Nat :=
  (if 0 ≤ inst.data_fd then [inst.data_fd.toNat] else []) ++ inst.wakeFds.fds

end SensorsInstance

namespace HalProcess

variable {F : Type} [FloatArith F] (alloc : Allocator)

def attributes (p : HalProcess F) (path : AttributePath) : Sysfs :=
  let text file := p.sysfs (path.select file).path
  ⟨text .enable, text .enSigMotion, text .pollDelay⟩

/-- The constructors after `openInput`. -/
def construct (p : HalProcess F) (memory : InstanceMemory) (piped : Bool) (input : InputState) (data_fd : Int) :
    HalProcess F :=
  let path := AttributePath.create memory.input_sysfs_path data_fd input.input_name
  let acc := Accelerometer.create memory.uninitialised (p.attributes path)
  let (descriptors, wakeFds) := WakeFds.pipe alloc input.descriptors piped memory.wakeFds
  { p with
    descriptors
    instances := ⟨.create acc, input.input_name, data_fd, path, wakeFds⟩ :: p.instances }

def openSensors (p : HalProcess F) (memory : InstanceMemory) (dir : Option (List DirEntry)) (piped : Bool) :
    HalProcess F :=
  let (input, data_fd) := openInput alloc accInputName dir ⟨memory.input_name, p.descriptors⟩
  p.construct alloc memory piped input data_fd

def deviceCall (p : HalProcess F) (k : Nat) (call : DeviceCall) : HalProcess F :=
  match p.instances[k]? with
  | none => p
  | some inst =>
    let s := AttributeState.writes alloc ⟨inst.path, p.descriptors, p.sysfs⟩ (inst.ctx.writes call)
    { p with
      descriptors := s.descriptors
      sysfs := s.sysfs
      instances := p.instances.set k { inst with ctx := inst.ctx.after call, path := s.path } }

/-- The destructors of the driver, of `SensorBase` and of the device. -/
def deviceClose (p : HalProcess F) (k : Nat) (outcome : Sensor → SysfsOutcome) : HalProcess F :=
  match p.instances[k]? with
  | none => p
  | some inst =>
    let s := AttributeState.writes alloc ⟨inst.path, p.descriptors, p.sysfs⟩ (inst.ctx.acc.destroyWrites outcome)
    let descriptors := if 0 ≤ inst.data_fd then s.descriptors.close inst.data_fd else s.descriptors
    { p with
      descriptors := inst.wakeFds.close descriptors
      sysfs := s.sysfs
      instances := p.instances.eraseIdx k }

def act (p : HalProcess F) : HalAct → HalProcess F
  | .openSensors memory dir piped => p.openSensors alloc memory dir piped
  | .deviceCall k call => p.deviceCall alloc k call
  | .deviceClose k outcome => p.deviceClose alloc k outcome
  | .otherOpen path =>
    let fd := alloc.next p.descriptors.inUse
    { p with descriptors := (fd, path) :: p.descriptors, others := fd :: p.others }
  | .otherClose fd => { p with descriptors := p.descriptors.close fd, others := p.others.erase fd }

def process : Machine (HalProcess F) HalAct Unit := ⟨fun p a => (p.act alloc a, ())⟩

end HalProcess
end KanasSensors
