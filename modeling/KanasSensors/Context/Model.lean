import KanasSensors.Accelerometer.Model

/-! `sensors_poll_context_t`: the entry points of the device, over the driver behind them.

The driver is reached through the virtual functions of `SensorBase` alone. Descriptors
are not kept; of each `pollfd` there is `revents`, and of the pipe its contents.
-/

set_option autoImplicit false

namespace KanasSensors

open Foundation

structure SensorBase (σ F : Type) where
  readEvents : σ → Int → SysRead InputEvent → σ × Reply F
  hasPendingEvents : σ → Bool
  setEnable : σ → Int → Int → SysfsOutcome → σ × Int
  getEnable : σ → Int → Int
  setDelay : σ → Int → Int → SysfsOutcome → σ × Int
  getDelay : σ → Int → Int
  batch : σ → Int → Int → Int → Int → SysfsOutcome → σ × Int
  flush : σ → Int → σ × Int

/-- The class overrides every one of them but `hasPendingEvents`. -/
def Accelerometer.base {F : Type} [FloatArith F] : SensorBase (Accelerometer F) F where
  readEvents := readEvents
  hasPendingEvents _ := false
  setEnable := setEnable
  getEnable := getEnable
  setDelay := setDelay
  getDelay := getDelay
  batch := batch
  flush := flush

def pollIn : Nat := 0

def infinite : Int := -1

def wakeMessage : Char := 'W'

/-- `acc` is the one element of `mSensors`. -/
structure SensorsPollContext (σ : Type) where
  acc : σ
  accRevents : BitVec 16
  wakeRevents : BitVec 16
  wakePipe : List Char

namespace SensorsPollContext

variable {σ F : Type} (base : SensorBase σ F)

def create (acc : σ) : SensorsPollContext σ := ⟨acc, 0, 0, []⟩

def handleToDriver (handle : Int) : Int :=
  if handle = idLA ∨ handle = idSM ∨ handle = idA then 0 else -Errno.einval.code

/-- `mSensors[index]`; there is nothing at an index outside the array. -/
def mSensors (c : SensorsPollContext σ) (index : Int) : Option σ :=
  if index = 0 then some c.acc else none

/-- `none` is an access outside `mSensors`. `wrote` is whether the pipe took the byte. -/
def activate (c : SensorsPollContext σ) (handle enabled : Int) (outcome : SysfsOutcome) (wrote : Bool) :
    Option (SensorsPollContext σ × Int) :=
  (c.mSensors (handleToDriver handle)).map fun sensor =>
    let (acc, err) := base.setEnable sensor handle enabled outcome
    let wakePipe := if enabled ≠ 0 ∧ err = 0 ∧ wrote then c.wakePipe ++ [wakeMessage] else c.wakePipe
    ({ c with acc, wakePipe }, err)

def setDelaySub (c : SensorsPollContext σ) (handle ns : Int) (outcome : SysfsOutcome) :
    Option (SensorsPollContext σ × Int) :=
  (c.mSensors (handleToDriver handle)).map fun sensor =>
    let en := base.getEnable sensor handle
    let cur := base.getDelay sensor handle
    -- the second branch is the one for a driver with dependencies
    if en ≤ 1 then
      if cur ≠ ns then
        let (acc, err) := base.setDelay sensor handle ns outcome
        ({ c with acc }, err)
      else (c, 0)
    else if ns < cur then
      let (acc, err) := base.setDelay sensor handle ns outcome
      ({ c with acc }, err)
    else (c, 0)

def setDelay (c : SensorsPollContext σ) (handle ns : Int) (outcome : SysfsOutcome) :
    Option (SensorsPollContext σ × Int) :=
  c.setDelaySub base handle ns outcome

def batch (c : SensorsPollContext σ) (handle flags period_ns timeout : Int) (outcome : SysfsOutcome) :
    Option (SensorsPollContext σ × Int) :=
  -- `batch` and `flush` check the index before they use it
  let index := handleToDriver handle
  if index < 0 then some (c, index) else
  (c.mSensors index).map fun sensor =>
    let (acc, err) := base.batch sensor handle flags period_ns timeout outcome
    ({ c with acc }, err)

def flush (c : SensorsPollContext σ) (handle : Int) : Option (SensorsPollContext σ × Int) :=
  let index := handleToDriver handle
  if index < 0 then some (c, index) else
  (c.mSensors index).map fun sensor =>
    let (acc, err) := base.flush sensor handle
    ({ c with acc }, err)

end SensorsPollContext

inductive PollResult where
  | failed (errno : Errno)
  | ready (acc wake : BitVec 16)

inductive PollReturn where
  | failed (errno : Errno)
  | events (nbEvents : Int)

inductive PollAct where
  | read (count value : Int)
  | poll (timeout : Int) (answer : PollResult)

/-- The locals of `pollEvents`. `data` is the write pointer, as an offset from where it
started; `slots` is what was stored, each event with its offset, and `acts` the calls made. -/
structure PollState (σ F : Type) where
  ctx : SensorsPollContext σ
  data : Int
  count : Int
  nbEvents : Int
  n : Int
  slots : List (Int × SensorsEvent F)
  acts : List PollAct

structure Round where
  read : SysRead InputEvent
  poll : PollResult

inductive Progress (σ F : Type) where
  | again (s : PollState σ F)
  | returned (s : PollState σ F) (value : PollReturn)

structure ReadCall (F : Type) where
  data : Int
  count : Int
  reply : Reply F

namespace PollState

variable {σ F : Type} (base : SensorBase σ F)

def start (ctx : SensorsPollContext σ) (count : Int) : PollState σ F := ⟨ctx, 0, count, 0, 0, [], []⟩

def wantsRead (s : PollState σ F) : Bool :=
  s.count != 0 && (BitMask.test s.ctx.accRevents pollIn || base.hasPendingEvents s.ctx.acc)

def place (data : Int) : List (SensorsEvent F) → List (Int × SensorsEvent F)
  | [] => []
  | event :: rest => (data, event) :: place (data + 1) rest

/-- The `for` loop over the drivers, of which there is one. -/
def readSensors (s : PollState σ F) (fd : SysRead InputEvent) : PollState σ F :=
  if s.wantsRead base then
    let (acc, reply) := base.readEvents s.ctx.acc s.count fd
    -- the value counts as a number of events here, an error code included
    let nb := reply.value
    let accRevents := if nb < s.count then 0 else s.ctx.accRevents
    { s with
      ctx := { s.ctx with acc, accRevents }
      count := s.count - nb
      nbEvents := s.nbEvents + nb
      data := s.data + nb
      slots := s.slots ++ place s.data reply.stored
      acts := s.acts ++ [.read s.count nb] }
  else s

/-- `nbEvents ? 0 : -1`. -/
def timeout (s : PollState σ F) : Int := if s.nbEvents ≠ 0 then 0 else infinite

def asked (s : PollState σ F) (answer : PollResult) : PollState σ F :=
  { s with acts := s.acts ++ [.poll s.timeout answer] }

/-- A successful `poll`, and the wake byte read when the pipe is reported readable. -/
def polled (s : PollState σ F) (acc wake : BitVec 16) : PollState σ F :=
  let ctx := { s.ctx with accRevents := acc, wakeRevents := wake }
  { s.asked (.ready acc wake) with
    n := (if acc ≠ 0 then 1 else 0) + (if wake ≠ 0 then 1 else 0)
    ctx := if BitMask.test wake pollIn then { ctx with wakePipe := ctx.wakePipe.drop 1, wakeRevents := 0 }
      else ctx }

/-- `while (n && count)`. -/
def loopEnd (s : PollState σ F) : Progress σ F :=
  if s.n ≠ 0 ∧ s.count ≠ 0 then .again s else .returned s (.events s.nbEvents)

def pollFds (s : PollState σ F) (result : PollResult) : Progress σ F :=
  if s.count ≠ 0 then
    match result with
    | .failed errno => .returned (s.asked result) (.failed errno)
    | .ready acc wake => (s.polled acc wake).loopEnd
  else s.loopEnd

def round (s : PollState σ F) (r : Round) : Progress σ F := (s.readSensors base r.read).pollFds r.poll

def pollEvents (s : PollState σ F) : List Round → Progress σ F
  | [] => .again s
  | r :: rest =>
    match s.round base r with
    | .again next => next.pollEvents rest
    | .returned last value => .returned last value

def points (s : PollState σ F) : List Round → List (PollState σ F)
  | [] => [s]
  | r :: rest => s :: s.readSensors base r.read ::
    match s.round base r with
    | .again next => next.points rest
    | .returned last _ => [last]

def readCall (s : PollState σ F) (fd : SysRead InputEvent) : List (ReadCall F) :=
  if s.wantsRead base then [⟨s.data, s.count, (base.readEvents s.ctx.acc s.count fd).2⟩] else []

def readCalls (s : PollState σ F) : List Round → List (ReadCall F)
  | [] => []
  | r :: rest => s.readCall base r.read ++
    match s.round base r with
    | .again next => next.readCalls rest
    | .returned _ _ => []

end PollState
end KanasSensors
