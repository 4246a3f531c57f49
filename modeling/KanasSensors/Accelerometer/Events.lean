import Mathlib.Data.Rat.Defs
import Mathlib.Logic.Function.Basic

/-! The two event formats: `input_event` as the kernel queues it, and
`sensors_event_t` as the framework receives it.

Fields the modelled functions neither read nor write are left out: the reserved
words, and the entries of `data` past the first three, which `memset` leaves zero.
-/

set_option autoImplicit false

namespace KanasSensors

structure Timeval where
  tvSec : BitVec 32
  tvUsec : BitVec 32

structure InputEvent where
  time : Timeval
  type : BitVec 16
  code : BitVec 16
  value : BitVec 32

def evSyn : BitVec 16 := 0x00
def evRel : BitVec 16 := 0x02
def evMsc : BitVec 16 := 0x04
def mscGesture : BitVec 16 := 0x02

def eventTypeAccelX : BitVec 16 := 0x00
def eventTypeAccelY : BitVec 16 := 0x01
def eventTypeAccelZ : BitVec 16 := 0x02

/-- `t.tv_sec*1000000000LL + t.tv_usec*1000`: the first product is computed in 64
bits, the second in the 32 bits of its operands. -/
def timevalToNano (t : Timeval) : BitVec 64 :=
  t.tvSec.signExtend 64 * 1000000000#64 + (t.tvUsec * 1000#32).signExtend 64

/-- The arithmetic of C's `float`, left uninterpreted: its operations, the conversion
from `int`, and the two constants of the code that are not integers. -/
class FloatArith (F : Type) extends Add F, Sub F, Mul F, Div F where
  ofInt : Int → F
  alpha : F
  gravityEarth : F

/-- Exact rational arithmetic, with the decimal values of the constants. -/
instance : FloatArith ℚ where
  ofInt n := n
  alpha := 4 / 5
  gravityEarth := 980665 / 100000

variable {F : Type} [FloatArith F]

def accUnitConversion (value : BitVec 32) : F :=
  FloatArith.ofInt value.toInt * FloatArith.gravityEarth / FloatArith.ofInt 1024

def idA : Int := 0
def idLA : Int := 1
def idSM : Int := 2

/-- The virtual sensors of the class, in the order of its `enum`. -/
inductive Sensor where
  | main
  | linearAcceleration
  | significantMotion
  deriving DecidableEq

namespace Sensor

/-- The enumerator's value, which is also the sensor's bit in `mEnabled`. -/
def index : Sensor → Nat
  | main => 0
  | linearAcceleration => 1
  | significantMotion => 2

def handle : Sensor → Int
  | main => idA
  | linearAcceleration => idLA
  | significantMotion => idSM

end Sensor

inductive Axis where
  | x
  | y
  | z
  deriving DecidableEq

def axisOf (code : BitVec 16) : Option Axis :=
  if code = eventTypeAccelX then some .x
  else if code = eventTypeAccelY then some .y
  else if code = eventTypeAccelZ then some .z
  else none

inductive SensorType where
  | accelerometer
  | linearAcceleration
  | significantMotion
  | metaData
  deriving DecidableEq

/-- The two values `version` is set to: `sizeof(sensors_event_t)` and `META_DATA_VERSION`. -/
inductive EventVersion where
  | sizeofEvent
  | metaData
  deriving DecidableEq

structure DataEvent (F : Type) where
  version : EventVersion
  sensor : Int
  type : SensorType
  timestamp : BitVec 64
  acceleration : Axis → F

/-- A `META_DATA` event. Its own `sensor` and `timestamp` are zeroed and not kept. -/
structure MetaEvent where
  version : EventVersion
  type : SensorType
  sensor : Int
  what : Int
  deriving DecidableEq

/-- `sensors_event_t`, by the member of its union that is in use. -/
inductive SensorsEvent (F : Type) where
  | data (event : DataEvent F)
  | metaData (event : MetaEvent)

namespace SensorsEvent

def origin : SensorsEvent F → Option Sensor
  | data event =>
    if event.sensor = idA then some .main
    else if event.sensor = idLA then some .linearAcceleration
    else if event.sensor = idSM then some .significantMotion
    else none
  | metaData _ => none

def dataEvent : SensorsEvent F → Option (DataEvent F)
  | data event => some event
  | metaData _ => none

omit [FloatArith F] in
theorem mem_dataEvents {events : List (SensorsEvent F)} {event : DataEvent F} :
    event ∈ events.filterMap dataEvent ↔ .data event ∈ events := by
  rw [List.mem_filterMap]
  constructor
  · rintro ⟨stored, member, same⟩
    cases stored with
    | metaData other => cases same
    | data other =>
      cases same
      exact member
  · exact fun member => ⟨_, member, rfl⟩

def completes : SensorsEvent F → Int → Bool
  | data _, _ => false
  | metaData event, handle => event.sensor == handle

end SensorsEvent
end KanasSensors
