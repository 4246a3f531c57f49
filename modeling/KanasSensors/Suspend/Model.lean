import Mathlib.Data.Finset.Erase
import Mathlib.Data.Finset.Insert
import Mathlib.Logic.Function.Basic
import KanasSensors.Foundation.Protocol

/-! `autosuspend_earlysuspend.c`: the callers of `enable` and `disable`, the early suspend
thread, and the frame buffer that both of them go by.

A caller writes to `/sys/power/state` and waits on a condition variable until the thread has
seen the frame buffer follow. Every step of a thread that another thread can tell from the one
before it is a step here; the mutex has its owner and the condition its waiters. A `write` or a
`read` that `TEMP_FAILURE_RETRY` repeats counts once, with the answer it ends with.
-/

set_option autoImplicit false

namespace Libsuspend

/-- `earlysuspend_state`, and what the frame buffer and `/sys/power/state` can be in. -/
inductive EarlysuspendState where
  | on
  | mem
  deriving DecidableEq

namespace EarlysuspendState

def other : EarlysuspendState → EarlysuspendState
  | on => mem
  | mem => on

@[simp] theorem other_other (w : EarlysuspendState) : w.other.other = w := by cases w <;> rfl

@[simp] theorem other_ne (w : EarlysuspendState) : w.other ≠ w := by cases w <;> decide

@[simp] theorem ne_other (w : EarlysuspendState) : w ≠ w.other := w.other_ne.symm

theorem eq_other_of_ne {v w : EarlysuspendState} (apart : v ≠ w) : v = w.other := by
  cases v <;> cases w <;> simp_all [other]

end EarlysuspendState

/-- What was last written to `/sys/power/state`, and what the frame buffer is in. -/
structure Kernel where
  power : EarlysuspendState
  fb : EarlysuspendState

/-- Where a call stands: about to write, to lock, to test the state under the mutex, blocked on
the condition, taken off it but not yet in possession of the mutex, about to unlock. -/
inductive CallPc where
  | writing
  | locking
  | testing
  | waiting
  | woken
  | unlocking
  deriving DecidableEq

inductive Caller where
  | idle
  | calling (want : EarlysuspendState) (pc : CallPc)
  deriving DecidableEq

inductive MonitorPc where
  | reading
  | locking
  | storing
  | signalling
  | unlocking
  deriving DecidableEq

/-- The thread in the half that waits for `target`; `absent` before it is created and after
it has returned. -/
inductive Monitor where
  | absent
  | running (target : EarlysuspendState) (pc : MonitorPc)
  deriving DecidableEq

/-- The threads that can own the mutex: `none` stands for the early suspend thread. -/
abbrev Thread (ι : Type) := Option ι

structure Suspend (ι : Type) where
  wait_for_earlysuspend : Bool
  earlysuspend_state : EarlysuspendState
  earlysuspend_mutex : Option (Thread ι)
  earlysuspend_cond : Finset ι
  monitor : Monitor
  caller : ι → Caller
  kernel : Kernel

/-- `pthread_cond_signal` takes some waiter off the condition, if there is one; `spurious` is a
return of `pthread_cond_wait` that no signal has caused. -/
inductive Action (ι : Type) where
  | call (i : ι) (want : EarlysuspendState)
  | write (i : ι) (done : Bool)
  | advance (i : ι)
  | spurious (i : ι)
  | read (done : Bool)
  | monitor
  | signal (woken : Option ι)
  | settle

def autosuspend_earlysuspend_enable {ι : Type} (i : ι) : Action ι := .call i .mem
def autosuspend_earlysuspend_disable {ι : Type} (i : ι) : Action ι := .call i .on

namespace Suspend

variable {ι : Type} [DecidableEq ι]

def move (s : Suspend ι) (i : ι) (c : Caller) : Suspend ι :=
  { s with caller := Function.update s.caller i c }

def wake (s : Suspend ι) (i : ι) (want : EarlysuspendState) : Suspend ι :=
  { s.move i (.calling want .woken) with earlysuspend_cond := s.earlysuspend_cond.erase i }

/-- The call after its `write`: an error is returned at once, and so is success where the
thread was not started. -/
def written (s : Suspend ι) (i : ι) (want : EarlysuspendState) (done : Bool) : Suspend ι :=
  if done then
    { s.move i (if s.wait_for_earlysuspend then .calling want .locking else .idle) with
      kernel := { s.kernel with power := want } }
  else s.move i .idle

def advance (s : Suspend ι) (i : ι) (want : EarlysuspendState) : CallPc → Option (Suspend ι)
  | .locking | .woken =>
    if s.earlysuspend_mutex = none then
      some { s.move i (.calling want .testing) with earlysuspend_mutex := some (some i) }
    else none
  | .testing =>
    if s.earlysuspend_state = want then some (s.move i (.calling want .unlocking))
    else some { s.move i (.calling want .waiting) with
      earlysuspend_mutex := none
      earlysuspend_cond := insert i s.earlysuspend_cond }
  | .unlocking => some { s.move i .idle with earlysuspend_mutex := none }
  | .writing | .waiting => none

/-- `wait_for_fb_sleep` or `wait_for_fb_wake`, by the state waited for: it does not return
before the frame buffer is in that state, unless it fails. -/
def waitForFb (s : Suspend ι) (target : EarlysuspendState) (done : Bool) : Option (Suspend ι) :=
  if done then
    if s.kernel.fb = target then some { s with monitor := .running target .locking } else none
  else some { s with monitor := .absent }

/-- The critical section of `earlysuspend_thread_func`, but for the signal in it. -/
def publish (s : Suspend ι) (target : EarlysuspendState) : MonitorPc → Option (Suspend ι)
  | .locking =>
    if s.earlysuspend_mutex = none then
      some { s with earlysuspend_mutex := some none, monitor := .running target .storing }
    else none
  | .storing => some { s with earlysuspend_state := target, monitor := .running target .signalling }
  | .unlocking => some { s with earlysuspend_mutex := none, monitor := .running target.other .reading }
  | .reading | .signalling => none

def signal (s : Suspend ι) (target : EarlysuspendState) : Option ι → Option (Suspend ι)
  | none => if s.earlysuspend_cond = ∅ then some { s with monitor := .running target .unlocking } else none
  | some i =>
    match s.caller i with
    | .calling want .waiting => some { s.wake i want with monitor := .running target .unlocking }
    | _ => none

def step (s : Suspend ι) : Action ι → Option (Suspend ι)
  | .call i want =>
    match s.caller i with
    | .idle => some (s.move i (.calling want .writing))
    | .calling _ _ => none
  | .write i done =>
    match s.caller i with
    | .calling want .writing => some (s.written i want done)
    | _ => none
  | .advance i =>
    match s.caller i with
    | .calling want pc => s.advance i want pc
    | .idle => none
  | .spurious i =>
    match s.caller i with
    | .calling want .waiting => some (s.wake i want)
    | _ => none
  | .read done =>
    match s.monitor with
    | .running target .reading => s.waitForFb target done
    | _ => none
  | .monitor =>
    match s.monitor with
    | .running target pc => s.publish target pc
    | .absent => none
  | .signal woken =>
    match s.monitor with
    | .running target .signalling => s.signal target woken
    | _ => none
  -- the frame buffer only moves to what was last asked for
  | .settle =>
    if s.kernel.fb = s.kernel.power then none
    else some { s with kernel := { s.kernel with fb := s.kernel.power } }

def returns (s : Suspend ι) : Action ι → Option (EarlysuspendState × Int)
  | .write i done =>
    match s.caller i with
    | .calling want .writing =>
      if done then if s.wait_for_earlysuspend then none else some (want, 0) else some (want, -1)
    | _ => none
  | .advance i =>
    match s.caller i with
    | .calling want .unlocking => some (want, 0)
    | _ => none
  | _ => none

end Suspend

def protocol (ι : Type) [DecidableEq ι] : Foundation.Protocol (Suspend ι) (Action ι) := ⟨Suspend.step⟩

/-- How `wait_for_fb_wake` ends while the library is set up. A failed one says nothing about
whether the frame buffer has followed by then. -/
inductive FbWait where
  | succeeded
  | failed (settled : Bool)

structure InitAnswers where
  opened : Bool
  wrote : Bool
  sleepThere : Bool
  wakeThere : Bool
  wait : FbWait
  created : Bool

def Kernel.waited (k : Kernel) : FbWait → Kernel
  | .succeeded => { k with fb := .on }
  | .failed settled => if settled then { k with fb := k.power } else k

/-- The result of `wait_for_fb_wake` is not looked at. -/
def start_earlysuspend_thread {ι : Type} (answers : InitAnswers) (s : Suspend ι) : Suspend ι :=
  if answers.sleepThere = false then s
  else if answers.wakeThere = false then s
  else
    let s := { s with kernel := s.kernel.waited answers.wait }
    if answers.created then
      { s with monitor := .running .mem .reading, wait_for_earlysuspend := true }
    else s

/-- `none` is a null pointer: the caller goes on to the next kind of autosuspend. -/
def autosuspend_earlysuspend_init {ι : Type} (k : Kernel) (answers : InitAnswers) : Option (Suspend ι) :=
  if answers.opened = false then none
  else if answers.wrote = false then none
  else some (start_earlysuspend_thread answers
    ⟨false, .on, none, ∅, .absent, fun _ => .idle, { k with power := .on }⟩)

end Libsuspend
