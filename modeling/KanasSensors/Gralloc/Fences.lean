import Mathlib.Data.List.Perm.Basic
import KanasSensors.Gralloc.Model
import KanasSensors.Platform.Descriptors

/-! The fences of `lock` and `unlock`, and who has their descriptors.

A fence closes its descriptor with the last reference to it, and `dup` of one that has none
gives none. What is passed to the module is the module's to close. A call of `dup` may fail,
and the module may fail a call; `none` is the descriptor -1.
-/

set_option autoImplicit false

namespace Gralloc

open Foundation
open KanasSensors (Allocator)

abbrev Fds := List Nat

namespace Fds

/-- `Fence::dup`; it fails unless it `grants`. -/
def dup (alloc : Allocator) (grants : Bool) (fds : Fds) : Option Nat → Fds × Option Nat
  | some _ => if grants then (alloc.next fds :: fds, some (alloc.next fds)) else (fds, none)
  | none => (fds, none)

def close (fds : Fds) : Option Nat → Fds
  | some fd => fds.erase fd
  | none => fds

end Fds

structure GrallocModule where
  mMinorVersion : Nat
  lockAsync_ycbcr : Bool
  lock_ycbcr : Bool

inductive LockWay where
  | asynchronous
  | synchronous
  | unsupported

/-- The usages by the CPU, which are not part of the sources. -/
structure CpuUsage where
  producerCpuUsage : BitVec 64
  consumerCpuUsage : BitVec 64

/-- The arguments of a lock. Of the access region and the out pointer it matters whether they are null. -/
structure LockArguments (H : Type) where
  buffer : H
  producerUsage : BitVec 64
  consumerUsage : BitVec 64
  accessRegion : Bool
  outData : Bool

structure LockOutcome where
  fds : Fds
  given : Option Nat
  error : Gralloc1Error

namespace Gralloc1On0Adapter

def lock (m : GrallocModule) : LockWay := if 3 ≤ m.mMinorVersion then .asynchronous else .synchronous

def lockYCbCr (m : GrallocModule) : LockWay :=
  if 3 ≤ m.mMinorVersion ∧ m.lockAsync_ycbcr then .asynchronous
  else if m.lock_ycbcr then .synchronous
  else .unsupported

/-- The locking itself. An asynchronous one passes a descriptor of the fence on. -/
def perform (alloc : Allocator) (way : LockWay) (grants : Bool) (result : Int) (fds : Fds)
    (acquireFence : Option Nat) : LockOutcome :=
  let error := if result ≠ 0 then .unsupported else .noError
  match way with
  | .asynchronous =>
    let (fds, fd) := Fds.dup alloc grants fds acquireFence
    -- the module owns what it is given, also when it fails
    ⟨fds, fd, error⟩
  | .synchronous => ⟨fds, none, error⟩
  | .unsupported => ⟨fds, none, .unsupported⟩

variable {H : Type}

/-- The ways out of `lockHook` before it has made a fence of the descriptor. -/
def lockRefused (cpu : CpuUsage) (a : Gralloc1On0Adapter H) (arguments : LockArguments H) : Option Gralloc1Error :=
  if !arguments.outData && arguments.producerUsage &&& cpu.producerCpuUsage != 0 then some .badValue
  else if !arguments.outData && arguments.consumerUsage &&& cpu.consumerCpuUsage != 0 then some .badValue
  else if (a.mBuffers arguments.buffer).isNone then some .badHandle
  else if !arguments.accessRegion then some .badValue
  else none

def lockHook (cpu : CpuUsage) (alloc : Allocator) (a : Gralloc1On0Adapter H) (way : LockWay)
    (arguments : LockArguments H) (grants : Bool) (result : Int) (fds : Fds) (acquireFenceFd : Option Nat) :
    LockOutcome :=
  match lockRefused cpu a arguments with
  -- no `Fence` takes the descriptor over, and nobody closes it
  | some error => ⟨fds, none, error⟩
  | none =>
    let outcome := perform alloc way grants result fds acquireFenceFd
    { outcome with fds := Fds.close outcome.fds acquireFenceFd }

/-- `signals` is whether `unlockAsync` stores a descriptor. -/
def unlock (alloc : Allocator) (m : GrallocModule) (signals : Bool) (result : Int) (fds : Fds) : Fds × Option Nat :=
  if 3 ≤ m.mMinorVersion then
    let (fds, fenceFd) := if signals then (alloc.next fds :: fds, some (alloc.next fds)) else (fds, none)
    -- a failed `unlockAsync` may have stored a descriptor
    if result ≠ 0 then (Fds.close fds fenceFd, none) else (fds, fenceFd)
  else (fds, none)

def unlockHook (alloc : Allocator) (m : GrallocModule) (a : Gralloc1On0Adapter H) (buffer : H) (signals : Bool)
    (result : Int) (grants : Bool) (fds : Fds) : Fds × Option Nat × Gralloc1Error :=
  if (a.mBuffers buffer).isNone then (fds, none, .badHandle)
  else
    let (fds, releaseFence) := unlock alloc m signals result fds
    let (fds, outReleaseFenceFd) := Fds.dup alloc grants fds releaseFence
    (Fds.close fds releaseFence, outReleaseFenceFd, .noError)

end Gralloc1On0Adapter

namespace GraphicBufferMapper

variable {H : Type}

/-- `lockAsync`, and `lockAsyncYCbCr` on the adapter. The mapper makes a fence of the descriptor, and
the device passes a duplicate on. -/
def lockAsync (cpu : CpuUsage) (alloc : Allocator) (a : Gralloc1On0Adapter H) (way : LockWay)
    (arguments : LockArguments H) (first second : Bool) (result : Int) (fds : Fds) (fenceFd : Option Nat) :
    LockOutcome :=
  let (fds, acquireFence) := Fds.dup alloc first fds fenceFd
  let outcome := Gralloc1On0Adapter.lockHook cpu alloc a way arguments second result fds acquireFence
  { outcome with fds := Fds.close outcome.fds fenceFd }

def unlockAsync (alloc : Allocator) (m : GrallocModule) (a : Gralloc1On0Adapter H) (buffer : H) (signals : Bool)
    (result : Int) (first second : Bool) (fds : Fds) : Fds × Option Nat × Gralloc1Error :=
  let (fds, fence, error) := Gralloc1On0Adapter.unlockHook alloc m a buffer signals result first fds
  if error ≠ .noError then (fds, none, error)
  else
    let (fds, fenceFd) := Fds.dup alloc second fds fence
    (Fds.close fds fence, fenceFd, error)

end GraphicBufferMapper

namespace Fds

theorem dup_fds (alloc : Allocator) (grants : Bool) (fds : Fds) (fence : Option Nat) :
    (dup alloc grants fds fence).1 = (dup alloc grants fds fence).2.toList ++ fds := by
  cases fence <;> cases grants <;> rfl

theorem dup_length (alloc : Allocator) (grants : Bool) (fds : Fds) (fence : Option Nat) :
    (dup alloc grants fds fence).2.toList.length = if fence.isSome && grants then 1 else 0 := by
  cases fence <;> cases grants <;> rfl

theorem dup_nodup (alloc : Allocator) (grants : Bool) {fds : Fds} (fence : Option Nat) (nodup : fds.Nodup) :
    (dup alloc grants fds fence).1.Nodup := by
  cases fence <;> cases grants <;> simp only [dup, if_true, Bool.false_eq_true, if_false] <;>
    first | exact nodup | exact List.nodup_cons.mpr ⟨alloc.fresh fds, nodup⟩

theorem close_perm {fds : Fds} {fd : Option Nat} (inUse : ∀ n ∈ fd, n ∈ fds) :
    (fd.toList ++ close fds fd).Perm fds := by
  cases fd with
  | none => exact List.Perm.refl _
  | some n => exact (List.perm_cons_erase (inUse n rfl)).symm

theorem relay_perm (alloc : Allocator) (grants : Bool) {fds rest : Fds} {fence : Option Nat}
    (top : fds.Perm (fence.toList ++ rest)) :
    (close (dup alloc grants fds fence).1 fence).Perm ((dup alloc grants fds fence).2.toList ++ rest) := by
  have duplicated := dup_fds alloc grants fds fence
  have inUse : ∀ fd ∈ fence, fd ∈ (dup alloc grants fds fence).1 := by
    intro fd member
    rw [duplicated]
    refine List.mem_append_right _ (top.mem_iff.mpr ?_)
    exact List.mem_append_left _ (Option.mem_toList.mpr member)
  have closed := close_perm inUse
  rw [duplicated] at closed ⊢
  -- compare with the closed fence put back
  refine (List.perm_append_left_iff fence.toList).mp (closed.trans ?_)
  exact (top.append_left _).trans (List.perm_append_comm_assoc _ _ _)

theorem close_nodup {fds : Fds} (fd : Option Nat) (nodup : fds.Nodup) : (close fds fd).Nodup := by
  cases fd with
  | none => exact nodup
  | some n => exact nodup.erase n

end Fds

namespace Gralloc1On0Adapter

theorem perform_fds (alloc : Allocator) (way : LockWay) (grants : Bool) (result : Int) (fds : Fds)
    (acquireFence : Option Nat) : (perform alloc way grants result fds acquireFence).fds =
      (perform alloc way grants result fds acquireFence).given.toList ++ fds := by
  cases way with
  | asynchronous => exact Fds.dup_fds alloc grants fds acquireFence
  | _ => rfl

theorem perform_nodup (alloc : Allocator) (way : LockWay) (grants : Bool) (result : Int) {fds : Fds}
    (acquireFence : Option Nat) (nodup : fds.Nodup) :
    (perform alloc way grants result fds acquireFence).fds.Nodup := by
  cases way with
  | asynchronous => exact Fds.dup_nodup alloc grants acquireFence nodup
  | _ => exact nodup

variable {H : Type}

theorem lockHook_perm (cpu : CpuUsage) (alloc : Allocator) (a : Gralloc1On0Adapter H) (way : LockWay)
    (arguments : LockArguments H) (grants : Bool) (result : Int) {fds : Fds} {acquireFenceFd : Option Nat}
    (inUse : ∀ fd ∈ acquireFenceFd, fd ∈ fds) :
    let outcome := lockHook cpu alloc a way arguments grants result fds acquireFenceFd
    (acquireFenceFd.toList ++ outcome.fds).Perm
      (outcome.given.toList ++ (if (lockRefused cpu a arguments).isSome then acquireFenceFd.toList else []) ++
        fds) := by
  cases refused : lockRefused cpu a arguments with
  | some error => simp [lockHook, refused]
  | none =>
    have still : ∀ fd ∈ acquireFenceFd, fd ∈ (perform alloc way grants result fds acquireFenceFd).fds := by
      intro fd member
      rw [perform_fds]
      exact List.mem_append_right _ (inUse fd member)
    have closed := Fds.close_perm still
    rw [perform_fds] at closed
    simpa [lockHook, refused, perform_fds] using closed

theorem unlock_fds (alloc : Allocator) (m : GrallocModule) (signals : Bool) (result : Int) (fds : Fds) :
    (unlock alloc m signals result fds).1 = (unlock alloc m signals result fds).2.toList ++ fds := by
  unfold unlock
  split
  · cases signals <;> by_cases failed : result ≠ 0 <;> simp [failed, Fds.close]
  · rfl

theorem unlock_nodup (alloc : Allocator) (m : GrallocModule) (signals : Bool) (result : Int) {fds : Fds}
    (nodup : fds.Nodup) : (unlock alloc m signals result fds).1.Nodup := by
  unfold unlock
  split
  · cases signals <;> by_cases failed : result ≠ 0 <;> simp [failed, Fds.close, nodup, alloc.fresh fds]
  · exact nodup

theorem lockHook_nodup (cpu : CpuUsage) (alloc : Allocator) (a : Gralloc1On0Adapter H) (way : LockWay)
    (arguments : LockArguments H) (grants : Bool) (result : Int) {fds : Fds} (acquireFenceFd : Option Nat)
    (nodup : fds.Nodup) : (lockHook cpu alloc a way arguments grants result fds acquireFenceFd).fds.Nodup := by
  unfold lockHook
  split
  · exact nodup
  · exact Fds.close_nodup _ (perform_nodup alloc way grants result acquireFenceFd nodup)

end Gralloc1On0Adapter

namespace GraphicBufferMapper

variable {H : Type}

theorem lockAsync_perm (cpu : CpuUsage) (alloc : Allocator) (a : Gralloc1On0Adapter H) (way : LockWay)
    (arguments : LockArguments H) (first second : Bool) (result : Int) {fds : Fds} {fenceFd : Option Nat}
    (inUse : ∀ fd ∈ fenceFd, fd ∈ fds) :
    let outcome := lockAsync cpu alloc a way arguments first second result fds fenceFd
    ∃ lost : Fds, lost.length =
        (if (Gralloc1On0Adapter.lockRefused cpu a arguments).isSome && (fenceFd.isSome && first) then 1 else 0) ∧
      (fenceFd.toList ++ outcome.fds).Perm (outcome.given.toList ++ (lost ++ fds)) := by
  let acquireFence := (Fds.dup alloc first fds fenceFd).2
  let lost : Fds := if (Gralloc1On0Adapter.lockRefused cpu a arguments).isSome then acquireFence.toList else []
  refine ⟨lost, ?_, ?_⟩
  · cases refused : (Gralloc1On0Adapter.lockRefused cpu a arguments).isSome with
    | true =>
      simp only [lost, refused, if_true, Bool.true_and]
      exact Fds.dup_length alloc first fds fenceFd
    | false => simp [lost, refused]
  · have duplicated := Fds.dup_fds alloc first fds fenceFd
    let inner := Gralloc1On0Adapter.lockHook cpu alloc a way arguments second result
      (Fds.dup alloc first fds fenceFd).1 acquireFence
    have hook : (acquireFence.toList ++ inner.fds).Perm
        (inner.given.toList ++ lost ++ (Fds.dup alloc first fds fenceFd).1) := by
      refine Gralloc1On0Adapter.lockHook_perm cpu alloc a way arguments second result fun fd member => ?_
      rw [duplicated]
      exact List.mem_append_left _ (Option.mem_toList.mpr member)
    rw [duplicated] at hook
    have rest : inner.fds.Perm (inner.given.toList ++ lost ++ fds) :=
      (List.perm_append_left_iff _).mp (hook.trans (List.perm_append_comm_assoc _ _ _))
    rw [List.append_assoc] at rest
    have closed : (fenceFd.toList ++ Fds.close inner.fds fenceFd).Perm inner.fds := by
      refine Fds.close_perm fun fd member => rest.mem_iff.mpr ?_
      exact List.mem_append_right _ (List.mem_append_right _ (inUse fd member))
    exact closed.trans rest

theorem lockAsync_nodup (cpu : CpuUsage) (alloc : Allocator) (a : Gralloc1On0Adapter H) (way : LockWay)
    (arguments : LockArguments H) (first second : Bool) (result : Int) {fds : Fds} (fenceFd : Option Nat)
    (nodup : fds.Nodup) : (lockAsync cpu alloc a way arguments first second result fds fenceFd).fds.Nodup :=
  Fds.close_nodup _ (Gralloc1On0Adapter.lockHook_nodup cpu alloc a way arguments second result _
    (Fds.dup_nodup alloc first fenceFd nodup))

theorem unlockAsync_perm (alloc : Allocator) (m : GrallocModule) (a : Gralloc1On0Adapter H) (buffer : H)
    (signals : Bool) (result : Int) (first second : Bool) {fds : Fds} (nodup : fds.Nodup) :
    let (now, fenceFd, _) := unlockAsync alloc m a buffer signals result first second fds
    now.Perm (fenceFd.toList ++ fds) ∧ now.Nodup := by
  have opened := Gralloc1On0Adapter.unlock_fds alloc m signals result fds
  have fine := Gralloc1On0Adapter.unlock_nodup alloc m signals result nodup
  cases unknown : (a.mBuffers buffer).isNone with
  | true => simpa [unlockAsync, Gralloc1On0Adapter.unlockHook, unknown] using nodup
  | false =>
    have hook := Fds.relay_perm alloc first (List.Perm.of_eq opened)
    have mapper := Fds.relay_perm alloc second hook
    simp only [unlockAsync, Gralloc1On0Adapter.unlockHook, unknown, Bool.false_eq_true, if_false, ne_eq,
      not_true_eq_false]
    refine ⟨mapper, ?_⟩
    exact Fds.close_nodup _ (Fds.dup_nodup _ _ _ (Fds.close_nodup _ (Fds.dup_nodup _ _ _ fine)))

end GraphicBufferMapper

structure Fencing where
  fds : Fds
  callers : Fds
  module : Fds

/-- What is done with fences. A lock is one of `lockAsync` or one of `lockAsyncYCbCr`; the table of
the adapter is the one of the time. -/
inductive FenceAct (H : Type) where
  | receive
  | close (fd : Nat)
  | lock (a : Gralloc1On0Adapter H) (ycbcr : Bool) (arguments : LockArguments H) (fenceFd : Option Nat)
      (first second : Bool) (result : Int)
  | unlock (a : Gralloc1On0Adapter H) (buffer : H) (signals : Bool) (result : Int) (first second : Bool)
  | moduleCloses (fd : Nat)

namespace Fencing

variable {H : Type} (cpu : CpuUsage) (alloc : Allocator) (m : GrallocModule)

def act (s : Fencing) : FenceAct H → Fencing × Gralloc1Error
  | .receive => (⟨alloc.next s.fds :: s.fds, alloc.next s.fds :: s.callers, s.module⟩, .noError)
  | .close fd => (⟨Fds.close s.fds (some fd), Fds.close s.callers (some fd), s.module⟩, .noError)
  | .lock a ycbcr arguments fenceFd first second result =>
    let way := if ycbcr then Gralloc1On0Adapter.lockYCbCr m else Gralloc1On0Adapter.lock m
    let outcome := GraphicBufferMapper.lockAsync cpu alloc a way arguments first second result s.fds fenceFd
    (⟨outcome.fds, Fds.close s.callers fenceFd, outcome.given.toList ++ s.module⟩, outcome.error)
  | .unlock a buffer signals result first second =>
    let (fds, fenceFd, error) :=
      GraphicBufferMapper.unlockAsync alloc m a buffer signals result first second s.fds
    (⟨fds, fenceFd.toList ++ s.callers, s.module⟩, error)
  | .moduleCloses fd => (⟨Fds.close s.fds (some fd), s.callers, Fds.close s.module (some fd)⟩, .noError)

def fencing : Machine Fencing (FenceAct H) Gralloc1Error := ⟨act cpu alloc m⟩

/-- Everyone gives away or closes what is theirs. -/
def Sane (s : Fencing) : FenceAct H → Prop
  | .close fd => fd ∈ s.callers
  | .lock _ _ _ fenceFd _ _ _ => ∀ fd ∈ fenceFd, fd ∈ s.callers
  | .moduleCloses fd => fd ∈ s.module
  | _ => True

def loses : FenceAct H → Bool
  | .lock a _ arguments fenceFd first _ _ =>
    (Gralloc1On0Adapter.lockRefused cpu a arguments).isSome && (fenceFd.isSome && first)
  | _ => false

structure Accounted (s : Fencing) (leaked : Fds) : Prop where
  nodup : s.fds.Nodup
  owners : s.fds.Perm (s.callers ++ (s.module ++ leaked))

theorem Accounted.step {s : Fencing} {leaked : Fds} (accounted : s.Accounted leaked) {a : FenceAct H}
    (sane : s.Sane a) : ∃ lost : Fds, lost.length = (if loses cpu a then 1 else 0) ∧
      (s.act cpu alloc m a).1.Accounted (lost ++ leaked) := by
  obtain ⟨nodup, owners⟩ := accounted
  have inside : ∀ {fd : Option Nat}, (∀ n ∈ fd, n ∈ s.callers) → ∀ n ∈ fd, n ∈ s.fds :=
    fun mine n member => owners.mem_iff.mpr (List.mem_append_left _ (mine n member))
  cases a with
  | receive => exact ⟨[], rfl, List.nodup_cons.mpr ⟨alloc.fresh s.fds, nodup⟩, owners.cons _⟩
  | close fd =>
    refine ⟨[], rfl, nodup.erase fd, ?_⟩
    have erased := owners.erase fd
    rw [List.erase_append_left _ sane] at erased
    exact erased
  | lock a ycbcr arguments fenceFd first second result =>
    obtain ⟨lost, count, hook⟩ := GraphicBufferMapper.lockAsync_perm cpu alloc a
      (if ycbcr then Gralloc1On0Adapter.lockYCbCr m else Gralloc1On0Adapter.lock m) arguments first second result
      (inside sane)
    refine ⟨lost, count, GraphicBufferMapper.lockAsync_nodup cpu alloc a _ arguments first second result fenceFd
      nodup, ?_⟩
    have closed := Fds.close_perm sane
    -- three equalities of multisets, taken at one descriptor
    refine List.perm_iff_count.mpr fun n => ?_
    have opened := hook.count_eq n
    have owned := owners.count_eq n
    have given := closed.count_eq n
    simp only [List.count_append] at opened owned given
    simp only [act, List.count_append]
    omega
  | unlock a buffer signals result first second =>
    obtain ⟨opened, fine⟩ := GraphicBufferMapper.unlockAsync_perm alloc m a buffer signals result first second nodup
    refine ⟨[], rfl, fine, opened.trans ?_⟩
    simp only [List.nil_append, act, List.append_assoc]
    exact owners.append_left _
  | moduleCloses fd =>
    refine ⟨[], rfl, nodup.erase fd, List.perm_iff_count.mpr fun n => ?_⟩
    have mine : fd ∈ s.fds := owners.mem_iff.mpr (List.mem_append_right _ (List.mem_append_left _ sane))
    have owned := owners.count_eq n
    have before := (List.perm_cons_erase mine).count_eq n
    have given := (List.perm_cons_erase sane).count_eq n
    simp only [List.count_append, List.count_cons] at owned before given
    simp only [act, Fds.close, List.nil_append, List.count_append]
    omega

theorem accounted_run {s : Fencing} {leaked : Fds} (accounted : s.Accounted leaked) (acts : List (FenceAct H))
    (sane : ∀ t ∈ (fencing cpu alloc m).trace s acts, t.source.Sane t.input) :
    ∃ more : Fds, more.length = acts.countP (loses cpu) + leaked.length ∧
      ((fencing cpu alloc m).run s acts).Accounted more := by
  induction acts generalizing s leaked with
  | nil => exact ⟨leaked, (Nat.zero_add _).symm, accounted⟩
  | cons a rest ih =>
    rw [Machine.trace_cons, List.forall_mem_cons] at sane
    obtain ⟨lost, count, next⟩ := accounted.step cpu alloc m sane.1
    obtain ⟨more, total, last⟩ := ih next sane.2
    refine ⟨more, ?_, last⟩
    change lost.length = if loses cpu a = true then 1 else 0 at count
    rw [total, List.length_append, count, List.countP_cons]
    omega

/-- In every run each descriptor is closed or still in its owner's hands, but for one with every
lock that the hook refuses: unknown buffers, and null pointers that do not fit. -/
theorem fences_accounted (acts : List (FenceAct H))
    (sane : ∀ t ∈ (fencing cpu alloc m).trace ⟨[], [], []⟩ acts, t.source.Sane t.input) :
    ∃ leaked : Fds, leaked.length = acts.countP (loses cpu) ∧
      ((fencing cpu alloc m).run ⟨[], [], []⟩ acts).Accounted leaked :=
  accounted_run cpu alloc m (s := ⟨[], [], []⟩) ⟨List.nodup_nil, List.Perm.refl _⟩ acts sane

theorem fences_accounted_unknown :
    let arguments : LockArguments Nat := ⟨5, 0, 0, true, true⟩
    let acts : List (FenceAct Nat) := [.receive, .lock .create false arguments (some (Allocator.lowest.next []))
      true true 0]
    ∃ leaked : Fds, leaked.length = 1 ∧
      ((fencing ⟨0, 0⟩ Allocator.lowest ⟨3, false, false⟩).run ⟨[], [], []⟩ acts).Accounted leaked := by
  intro arguments acts
  have sane : ∀ t ∈ (fencing ⟨0, 0⟩ Allocator.lowest ⟨3, false, false⟩).trace ⟨[], [], []⟩ acts,
      t.source.Sane t.input := by
    intro t member
    simp only [acts, Machine.trace, List.mem_cons, List.not_mem_nil, or_false] at member
    rcases member with rfl | rfl
    · trivial
    · rintro fd ⟨⟩
      exact List.mem_cons_self
  obtain ⟨leaked, count, accounted⟩ := fences_accounted ⟨0, 0⟩ Allocator.lowest ⟨3, false, false⟩ acts sane
  exact ⟨leaked, count, accounted⟩

end Fencing
end Gralloc
