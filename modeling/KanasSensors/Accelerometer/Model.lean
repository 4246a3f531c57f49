import KanasSensors.Accelerometer.Events
import KanasSensors.Foundation.BitMask
import KanasSensors.Foundation.Loop
import KanasSensors.Reader.Ring

/-! The class `Accelerometer`, member function by member function.

A function that reaches the system takes the system's answer as an argument. The
descriptor and the path buffers are not kept: in their place stand the answers of
the `read` on the one, and the attribute files behind the other.
-/

set_option autoImplicit false

namespace KanasSensors

open Foundation

/-- The attribute files under `input_sysfs_path`, by the text last written to each. -/
structure Sysfs where
  enable : String
  enSigMotion : String
  pollDelay : String

inductive SysfsFile where
  | enable
  | enSigMotion
  | pollDelay
  deriving DecidableEq

namespace Sysfs

def text (files : Sysfs) : SysfsFile → String
  | .enable => files.enable
  | .enSigMotion => files.enSigMotion
  | .pollDelay => files.pollDelay

def put (files : Sysfs) (file : SysfsFile) (value : String) : Sysfs :=
  match file with
  | .enable => { files with enable := value }
  | .enSigMotion => { files with enSigMotion := value }
  | .pollDelay => { files with pollDelay := value }

end Sysfs

/-- `SensorBase::write_sys_attribute`, which hides the free function of the same name. -/
def writeSysAttribute (files : Sysfs) (file : SysfsFile) (value : String) (outcome : SysfsOutcome) :
    Sysfs × Int :=
  match outcome with
  | .openFailed => (files, -1)
  | .writeFailed errno => (files, -errno.code)
  | .written => (files.put file value, 0)

structure Accelerometer (F : Type) where
  mEnabled : BitVec 32
  mDelay : Int
  mFlushed : BitVec 32
  mPendingEvents : Sensor → DataEvent F
  mInputReader : EventRing InputEvent 32
  mGravity : Axis → F
  files : Sysfs

structure Reply (F : Type) where
  value : Int
  stored : List (SensorsEvent F)

namespace Accelerometer

variable {F : Type} [FloatArith F]

/-- The members the constructor leaves as the allocator returned them. -/
structure Uninitialised where
  mFlushed : BitVec 32
  timestamp : Sensor → BitVec 64
  mBuffer : Nat → InputEvent

def create (memory : Uninitialised) (files : Sysfs) : Accelerometer F where
  mEnabled := 0
  mDelay := 60000000
  mFlushed := memory.mFlushed
  mPendingEvents := fun
    | .main => ⟨.sizeofEvent, idA, .accelerometer, memory.timestamp .main, fun _ => FloatArith.ofInt 0⟩
    | .linearAcceleration => ⟨.sizeofEvent, idLA, .linearAcceleration,
        memory.timestamp .linearAcceleration, fun _ => FloatArith.ofInt 0⟩
    | .significantMotion => ⟨.sizeofEvent, idSM, .significantMotion,
        memory.timestamp .significantMotion,
        Function.update (fun _ => FloatArith.ofInt 0) .x (FloatArith.ofInt 1)⟩
  mInputReader := .create memory.mBuffer (by decide)
  mGravity := fun _ => FloatArith.ofInt 0
  files := files

def blank : Accelerometer ℚ :=
  create ⟨0, fun _ => 0, fun _ => ⟨⟨0, 0⟩, 0, 0, 0⟩⟩ ⟨"0", "0", "0"⟩

/-- The `switch` of `setEnable`: the bit a handle owns and the file it writes. -/
def enableFile (handle : Int) : Option (Sensor × SysfsFile) :=
  if handle = idA then some (.main, .enable)
  else if handle = idSM then some (.significantMotion, .enSigMotion)
  else if handle = idLA then some (.linearAcceleration, .enable)
  else none

def setEnable (a : Accelerometer F) (handle enabled : Int) (outcome : SysfsOutcome) :
    Accelerometer F × Int :=
  match enableFile handle with
  | none => (a, -Errno.einval.code)
  | some (sensor, enable_file) =>
    let mEnabled := if enabled ≠ 0 then BitMask.set a.mEnabled sensor.index
      else BitMask.clear a.mEnabled sensor.index
    let buffer := if mEnabled ≠ 0 then "1" else "0"
    let (files, err) := writeSysAttribute a.files enable_file buffer outcome
    ({ a with mEnabled, files }, err)

/-- `(int32_t)(delay_ns / 1000000)`: a division that truncates, then a narrowing that wraps. -/
def delayMillis (delay_ns : Int) : Int := (BitVec.ofInt 32 (delay_ns.tdiv 1000000)).toInt

def setDelay (a : Accelerometer F) (handle delay_ns : Int) (outcome : SysfsOutcome) :
    Accelerometer F × Int :=
  if handle = idSM then (a, 0)
  else if handle = idLA ∨ handle = idA then
    if a.mDelay ≠ delay_ns then
      let (files, err) := writeSysAttribute a.files .pollDelay (delayMillis delay_ns).repr outcome
      if err = 0 then ({ a with mDelay := delay_ns, files }, err) else ({ a with files }, err)
    else (a, 0)
  else (a, -Errno.einval.code)

def getDelay (a : Accelerometer F) (handle : Int) : Int :=
  if handle = idA ∨ handle = idLA then a.mDelay else 0

def getEnable (a : Accelerometer F) (handle : Int) : Int :=
  match enableFile handle with
  | none => 0
  | some (sensor, _) => if BitMask.test a.mEnabled sensor.index then 1 else 0

def batch (a : Accelerometer F) (handle _flags period_ns _timeout : Int) (outcome : SysfsOutcome) :
    Accelerometer F × Int :=
  if a.mEnabled ≠ 0 then ((a.setDelay handle period_ns outcome).1, 0) else (a, 0)

/-- `1 << handle` is defined for handles 0 to 31; callers pass 0, 1 or 2. -/
def flush (a : Accelerometer F) (handle : Int) : Accelerometer F × Int :=
  if a.mEnabled ≠ 0 then ({ a with mFlushed := BitMask.set a.mFlushed handle.toNat }, 0)
  else (a, -Errno.einval.code)

def accelerate (a : Accelerometer F) (axis : Axis) (value : F) : Accelerometer F :=
  let main := a.mPendingEvents .main
  let a := { a with
    mPendingEvents := Function.update a.mPendingEvents .main
      { main with acceleration := Function.update main.acceleration axis value } }
  if BitMask.test a.mEnabled Sensor.linearAcceleration.index ||
      BitMask.test a.mEnabled Sensor.significantMotion.index then
    let gravity := FloatArith.alpha * a.mGravity axis +
      (FloatArith.ofInt 1 - FloatArith.alpha) * value
    let linear := a.mPendingEvents .linearAcceleration
    { a with
      mGravity := Function.update a.mGravity axis gravity
      mPendingEvents := Function.update a.mPendingEvents .linearAcceleration
        { linear with acceleration := Function.update linear.acceleration axis (value - gravity) } }
  else a

def report (a : Accelerometer F) (sensor : Sensor) (time : Timeval) :
    Accelerometer F × List (SensorsEvent F) :=
  let event := { a.mPendingEvents sensor with timestamp := timevalToNano time }
  ({ a with mPendingEvents := Function.update a.mPendingEvents sensor event }, [.data event])

def acknowledge (a : Accelerometer F) (sensor : Sensor) (time : Timeval) :
    Accelerometer F × List (SensorsEvent F) :=
  if BitMask.test a.mEnabled sensor.index then a.report sensor time else (a, [])

/-- The body of the event loop for one input event: the next state, and the events
stored. Each stored event takes one slot off `count` and adds one to the result. -/
def consume (a : Accelerometer F) (event : InputEvent) : Accelerometer F × List (SensorsEvent F) :=
  if event.type = evRel then
    match axisOf event.code with
    | some axis => (a.accelerate axis (accUnitConversion event.value), [])
    | none => (a, [])
  else if event.type = evMsc ∧ event.code = mscGesture then
    -- one shot: the bit is cleared whether or not it was set
    { a with mEnabled := BitMask.clear a.mEnabled Sensor.significantMotion.index }.report
      .significantMotion event.time
  else if event.type = evSyn then
    let (a, first) := a.acknowledge .main event.time
    let (a, second) := a.acknowledge .linearAcceleration event.time
    (a, first ++ second)
  else (a, [])

end Accelerometer

structure ReadState (F : Type) where
  acc : Accelerometer F
  stored : List (SensorsEvent F)
  count : Int
  numEventReceived : Int

namespace ReadState

variable {F : Type} [FloatArith F]

/-- `*data++ = event; count--; numEventReceived++`. -/
def store (s : ReadState F) (event : SensorsEvent F) : ReadState F :=
  { s with
    stored := s.stored ++ [event]
    count := s.count - 1
    numEventReceived := s.numEventReceived + 1 }

/-- One round of `while (count && mInputReader.readEvent(&event))`. -/
def drainStep (s : ReadState F) : Option (ReadState F) :=
  if s.count = 0 then none
  else if available : s.acc.mInputReader.readEvent.2 ≠ 0 then
    let (acc, emitted) := s.acc.consume s.acc.mInputReader.readEvent.1
    let s' := emitted.foldl store { s with acc }
    some { s' with acc := { s'.acc with mInputReader := s.acc.mInputReader.next available } }
  else none

end ReadState

structure FlushState (F : Type) extends ReadState F where
  sensorId : Nat

namespace FlushState

variable {F : Type}

def flushComplete (sensorId : Nat) : SensorsEvent F :=
  .metaData ⟨.metaData, .metaData, sensorId, 0⟩

def flushStep (s : FlushState F) : Option (FlushState F) :=
  if s.acc.mFlushed = 0 then none
  else if BitMask.test s.acc.mFlushed s.sensorId then
    let s' := s.toReadState.store (flushComplete s.sensorId)
    some ⟨{ s' with acc := { s'.acc with mFlushed := BitMask.clear s'.acc.mFlushed s.sensorId } },
      s.sensorId + 1⟩
  else some { s with sensorId := s.sensorId + 1 }

end FlushState

namespace Accelerometer

variable {F : Type} [FloatArith F]

/-- The fuel of each loop bounds its rounds: one for each bit of `mFlushed`, and one
for each unread event. -/
def readEvents (a : Accelerometer F) (count : Int) (data_fd : SysRead InputEvent) :
    Accelerometer F × Reply F :=
  if count < 1 then (a, ⟨-Errno.einval.code, []⟩) else
  let (ring, n) := a.mInputReader.fill data_fd
  let a := { a with mInputReader := ring }
  if n < 0 then (a, ⟨n, []⟩) else
  let flushed := (Loop.run FlushState.flushStep 32 ⟨⟨a, [], count, 0⟩, 0⟩).toReadState
  let drained := Loop.run ReadState.drainStep flushed.acc.mInputReader.unread.length flushed
  (drained.acc, ⟨drained.numEventReceived, drained.stored⟩)

def switchOff (a : Accelerometer F) (sensor : Sensor) (outcome : SysfsOutcome) : Accelerometer F :=
  if BitMask.test a.mEnabled sensor.index then (a.setEnable sensor.handle 0 outcome).1 else a

/-- The destructor: each sensor still enabled when its turn comes is switched off. -/
def destroy (a : Accelerometer F) (outcome : Sensor → SysfsOutcome) : Accelerometer F :=
  let a := a.switchOff .main (outcome .main)
  let a := a.switchOff .linearAcceleration (outcome .linearAcceleration)
  a.switchOff .significantMotion (outcome .significantMotion)

end Accelerometer
end KanasSensors
