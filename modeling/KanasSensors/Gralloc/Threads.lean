import Mathlib.Algebra.BigOperators.Group.Finset.Basic
import Mathlib.Algebra.Order.BigOperators.Group.Finset
import Mathlib.Data.Fintype.BigOperators
import KanasSensors.Gralloc.Ledger

/-! The adapter under several threads at once.

`retain` and `release` look the buffer up under `mBufferMutex`, let go of the mutex, and take it
again to count; `alloc` runs outside the mutex, and its buffer is put into the table after. What
a thread has looked up is a shared object, which stays what it is when the table changes. A
thread makes its calls on handles it holds a reference to, and references can be passed on.
-/

set_option autoImplicit false

namespace Gralloc

open Foundation

inductive Management where
  | retain
  | release
  deriving DecidableEq

/-- What a thread is in the middle of, with the mutex free. -/
inductive Pending (H : Type) where
  | idle
  | managing (member : Management) (handle : H) (object : Nat)
  | emplacing (buffer : Buffer H)

/-- `objects` are the buffers ever made, by number; `own` are the references each thread holds. -/
structure Shared (H ι : Type) where
  mBuffers : H → Option Nat
  objects : Nat → Buffer H
  made : Nat
  sNextBufferDescriptorId : BitVec 64
  log : List (ModuleCall H)
  pending : ι → Pending H
  own : ι → H → Nat

/-- The locked sections, one by one, and the call of `alloc` outside of them. -/
inductive Section (H ι : Type) where
  | lookup (i : ι) (member : Management) (handle : H)
  | manage (i : ι)
  | alloc (i : ι) (descriptor : Descriptor) (store : BitVec 64) (answer : AllocAnswer H)
  | emplace (i : ι)
  | retainGraphicBuffer (i : ι) (graphicBuffer : GraphicBuffer H) (registered : Bool)
  | pass (i j : ι) (handle : H)

def Buffer.inUse {H : Type} (buffer : Buffer H) : HandleState :=
  if buffer.mWasAllocated then .allocated else .registered

theorem Buffer.inUse_ne {H : Type} (buffer : Buffer H) : buffer.inUse ≠ .absent := by
  unfold inUse
  cases buffer.mWasAllocated <;> simp

namespace Shared

variable {H ι : Type} [DecidableEq H] [DecidableEq ι]

def start (memory : Nat → Buffer H) : Shared H ι :=
  ⟨fun _ => none, memory, 0, 1, [], fun _ => .idle, fun _ _ => 0⟩

def gain (s : Shared H ι) (i : ι) (handle : H) (references : Nat) : ι → H → Nat :=
  Function.update s.own i (Function.update (s.own i) handle references)

/-- The second section of `retain` and of `release`, on the object looked up before. -/
def managed (s : Shared H ι) (i : ι) (handle : H) (object : Nat) : Management → Shared H ι
  | .retain =>
    { s with
      objects := Function.update s.objects object (s.objects object).retain
      pending := Function.update s.pending i .idle
      own := s.gain i handle (s.own i handle + 1) }
  | .release =>
    let buffer := s.objects object
    let s := { s with
      objects := Function.update s.objects object buffer.release.1
      pending := Function.update s.pending i .idle
      own := s.gain i handle (s.own i handle - 1) }
    -- under the same lock as the count
    if buffer.release.2 then
      { s with
        mBuffers := Function.update s.mBuffers buffer.mHandle none
        log := s.log ++ Gralloc1On0Adapter.disposal buffer }
    else s

def insert (s : Shared H ι) (i : ι) (buffer : Buffer H) : Shared H ι :=
  { s with
    mBuffers := emplace s.mBuffers buffer.mHandle s.made
    objects := Function.update s.objects s.made buffer
    made := s.made + 1
    pending := Function.update s.pending i .idle
    own := s.gain i buffer.mHandle (s.own i buffer.mHandle + 1) }

def step (usage : UsageConversion) (s : Shared H ι) : Section H ι → Option (Shared H ι)
  | .lookup i member handle =>
    match s.pending i with
    | .idle =>
      match s.mBuffers handle with
      -- `GRALLOC1_ERROR_BAD_HANDLE`
      | none => some s
      | some object => some { s with pending := Function.update s.pending i (.managing member handle object) }
    | _ => none
  | .manage i =>
    match s.pending i with
    | .managing member handle object => some (s.managed i handle object member)
    | _ => none
  | .alloc i descriptor store answer =>
    match s.pending i with
    | .idle =>
      let call := ModuleCall.alloc descriptor.width descriptor.height descriptor.format
        (usage.convert1To0 descriptor.producerUsage descriptor.consumerUsage)
      match answer with
      | .failed => some { s with log := s.log ++ [call none] }
      | .allocated handle stride =>
        some { s with
          log := s.log ++ [call (some handle)]
          pending := Function.update s.pending i (.emplacing (.create handle store descriptor stride true)) }
    | _ => none
  | .emplace i =>
    match s.pending i with
    | .emplacing buffer => some (s.insert i buffer)
    | _ => none
  | .retainGraphicBuffer i graphicBuffer registered =>
    match s.pending i with
    | .idle =>
      let handle := graphicBuffer.handle
      match s.mBuffers handle with
      | some object =>
        some { s with
          objects := Function.update s.objects object (s.objects object).retain
          own := s.gain i handle (s.own i handle + 1) }
      | none =>
        if registered then
          let descriptor := Gralloc1On0Adapter.graphicDescriptor s.sNextBufferDescriptorId graphicBuffer
          some (insert { s with
              sNextBufferDescriptorId := s.sNextBufferDescriptorId + 1
              log := s.log ++ [.registerBuffer handle true] } i
            (.create handle graphicBuffer.id descriptor graphicBuffer.stride false))
        else some { s with log := s.log ++ [.registerBuffer handle false] }
    | _ => none
  | .pass i j handle =>
    match s.pending i with
    | .idle =>
      if 0 < s.own i handle then
        let s := { s with own := s.gain i handle (s.own i handle - 1) }
        some { s with own := s.gain j handle (s.own j handle + 1) }
      else none
    | _ => none

def sections (usage : UsageConversion) : Protocol (Shared H ι) (Section H ι) := ⟨step usage⟩

section
variable [Fintype ι]

def held (s : Shared H ι) (handle : H) : Nat := ∑ i, s.own i handle

def life (s : Shared H ι) (handle : H) : Option HandleState := (lifeOf handle).schedule .absent s.log

/-- A thread manages handles it holds, a count has room, and neither does the module give out a
handle that it has out already nor a client register one. -/
def Disciplined (s : Shared H ι) : Section H ι → Prop
  | .lookup i _ handle => 0 < s.own i handle
  | .manage i => ∀ handle object, s.pending i = .managing .retain handle object → s.held handle + 1 < 2 ^ 32
  | .alloc _ _ _ (.allocated handle _) => s.life handle = some .absent
  | .retainGraphicBuffer _ graphicBuffer _ =>
    s.held graphicBuffer.handle + 1 < 2 ^ 32 ∧
      (s.mBuffers graphicBuffer.handle = none → s.life graphicBuffer.handle = some .absent)
  | _ => True

structure Consistent (s : Shared H ι) : Prop where
  entry : ∀ handle object, s.mBuffers handle = some object → object < s.made ∧
    (s.objects object).mHandle = handle ∧ (s.objects object).mReferenceCount.toNat = s.held handle ∧
    0 < s.held handle ∧ s.life handle = some (s.objects object).inUse
  vacant : ∀ handle, s.mBuffers handle = none → s.held handle = 0
  gone : ∀ handle, s.mBuffers handle = none →
    (∀ i buffer, s.pending i = .emplacing buffer → buffer.mHandle ≠ handle) → s.life handle = some .absent
  looked : ∀ i member handle object, s.pending i = .managing member handle object →
    s.mBuffers handle = some object ∧ 0 < s.own i handle
  coming : ∀ i buffer, s.pending i = .emplacing buffer → s.mBuffers buffer.mHandle = none ∧
    s.life buffer.mHandle = some .allocated ∧ buffer.mReferenceCount = 1 ∧ buffer.mWasAllocated = true
  single : ∀ i j first second, s.pending i = .emplacing first → s.pending j = .emplacing second →
    first.mHandle = second.mHandle → i = j

variable {s : Shared H ι}

omit [DecidableEq H] [DecidableEq ι] in
theorem own_le_held (s : Shared H ι) (i : ι) (handle : H) : s.own i handle ≤ s.held handle :=
  Finset.single_le_sum (f := fun i => s.own i handle) (fun _ _ => Nat.zero_le _) (Finset.mem_univ i)

omit [DecidableEq H] in
theorem own_add_le_held (s : Shared H ι) {i j : ι} (apart : i ≠ j) (handle : H) :
    s.own i handle + s.own j handle ≤ s.held handle := by
  have pair : ∑ k ∈ {i, j}, s.own k handle = s.own i handle + s.own j handle := Finset.sum_pair apart
  rw [← pair]
  exact Finset.sum_le_sum_of_subset (Finset.subset_univ _)

omit [Fintype ι] in
theorem gain_own (s : Shared H ι) (i j : ι) (handle other : H) (references : Nat) :
    s.gain i handle references j other =
      if j = i ∧ other = handle then references else s.own j other := by
  unfold gain
  by_cases thread : j = i
  · subst thread
    by_cases own : other = handle <;> simp [own]
  · simp [thread]

theorem gain_held (s : Shared H ι) (i : ι) (handle : H) (references : Nat) :
    ∑ j, s.gain i handle references j handle = s.held handle - s.own i handle + references := by
  have changed : ∀ j, s.gain i handle references j handle =
      Function.update (fun j => s.own j handle) i references j := by
    intro j
    rw [gain_own]
    by_cases thread : j = i <;> simp [thread]
  have rest := Finset.sum_update_of_mem (Finset.mem_univ i) (fun j => s.own j handle) references
  have whole := Finset.sum_update_of_mem (Finset.mem_univ i) (fun j => s.own j handle) (s.own i handle)
  rw [Function.update_eq_self] at whole
  unfold held
  rw [Finset.sum_congr rfl fun j _ => changed j, rest, whole]
  omega

theorem gain_held_other (s : Shared H ι) (i : ι) {handle other : H} (references : Nat) (apart : other ≠ handle) :
    ∑ j, s.gain i handle references j other = s.held other :=
  Finset.sum_congr rfl fun j _ => by rw [gain_own, if_neg fun both => apart both.2]

omit [DecidableEq H] [Fintype ι] in
theorem now_pending {pending : ι → Pending H} {i k : ι} {put there : Pending H}
    (now : Function.update pending i put k = there) : k = i ∧ there = put ∨ k ≠ i ∧ pending k = there := by
  by_cases own : k = i
  · subst own
    exact .inl ⟨rfl, (Function.update_self k put pending ▸ now).symm⟩
  · exact .inr ⟨own, (Function.update_of_ne own put pending).symm.trans now⟩

omit [DecidableEq H] [Fintype ι] in
theorem still_pending {pending : ι → Pending H} {i k : ι} {there : Pending H}
    (now : Function.update pending i .idle k = there) (busy : there ≠ .idle) : k ≠ i ∧ pending k = there :=
  (now_pending now).resolve_left fun put => busy put.2

omit [DecidableEq H] [Fintype ι] in
theorem idle_emplacing {pending : ι → Pending H} {i : ι} (not : ∀ buffer, pending i ≠ .emplacing buffer)
    (k : ι) (buffer : Buffer H) :
    Function.update pending i .idle k = .emplacing buffer ↔ pending k = .emplacing buffer := by
  by_cases own : k = i
  · subst own
    exact iff_of_false (by simp) (not buffer)
  · simp [own]

omit [DecidableEq ι] [Fintype ι] in
theorem life_append (s : Shared H ι) (handle : H) (calls : List (ModuleCall H)) :
    (lifeOf handle).schedule .absent (s.log ++ calls) =
      (s.life handle).bind fun state => (lifeOf handle).schedule state calls :=
  Protocol.schedule_append _ _ _ _

namespace Consistent

variable {t : Shared H ι}

omit [DecidableEq ι] in
theorem free_vacant (c : s.Consistent) {handle : H} (free : s.life handle = some .absent) :
    s.mBuffers handle = none := by
  cases present : s.mBuffers handle with
  | none => rfl
  | some object =>
    have used := (c.entry handle object present).2.2.2.2
    rw [free] at used
    exact absurd (Option.some.inj used).symm (Buffer.inUse_ne _)

omit [DecidableEq ι] in
theorem free_coming (c : s.Consistent) {handle : H} (free : s.life handle = some .absent) {k : ι}
    {buffer : Buffer H} (coming : s.pending k = .emplacing buffer) : buffer.mHandle ≠ handle := by
  intro same
  have used := (c.coming k buffer coming).2.1
  rw [same, free] at used
  cases used

omit [DecidableEq ι] in
theorem recount (c : s.Consistent) (table : t.mBuffers = s.mBuffers) (made : t.made = s.made)
    (life : ∀ handle, t.life handle = s.life handle)
    (emplacing : ∀ k buffer, t.pending k = .emplacing buffer ↔ s.pending k = .emplacing buffer)
    (entries : ∀ handle object, s.mBuffers handle = some object →
      (t.objects object).mHandle = handle ∧ (t.objects object).inUse = (s.objects object).inUse ∧
        (t.objects object).mReferenceCount.toNat = t.held handle ∧ 0 < t.held handle)
    (vacant : ∀ handle, s.mBuffers handle = none → t.held handle = 0)
    (looked : ∀ k member handle object, t.pending k = .managing member handle object →
      s.mBuffers handle = some object ∧ 0 < t.own k handle) : t.Consistent := by
  constructor
  · intro handle object present
    rw [table] at present
    obtain ⟨number, -, -, -, used⟩ := c.entry handle object present
    obtain ⟨named, same, count, positive⟩ := entries handle object present
    rw [made, life, same]
    exact ⟨number, named, count, positive, used⟩
  · intro handle absent
    exact vacant handle (table ▸ absent)
  · intro handle absent nobody
    rw [life]
    exact c.gone handle (table ▸ absent) fun k buffer coming => nobody k buffer ((emplacing k buffer).mpr coming)
  · intro k member handle object there
    rw [table]
    exact looked k member handle object there
  · intro k buffer coming
    rw [table, life]
    exact c.coming k buffer ((emplacing k buffer).mp coming)
  · intro k l first second one two
    exact c.single k l first second ((emplacing k first).mp one) ((emplacing l second).mp two)

theorem counted (c : s.Consistent) (i : ι) {handle : H} {object references : Nat} {changed : Buffer H}
    (present : s.mBuffers handle = some object)
    (notEmplacing : ∀ buffer, s.pending i ≠ .emplacing buffer)
    (named : changed.mHandle = handle) (same : changed.inUse = (s.objects object).inUse)
    (count : changed.mReferenceCount.toNat = s.held handle - s.own i handle + references)
    (positive : 0 < s.held handle - s.own i handle + references) :
    Consistent { s with
      objects := Function.update s.objects object changed
      pending := Function.update s.pending i .idle
      own := s.gain i handle references } := by
  -- an object is the entry of one handle only
  have mine : ∀ other number, s.mBuffers other = some number → number = object → other = handle := by
    rintro other number there rfl
    exact (c.entry other _ there).2.1.symm.trans (c.entry handle _ present).2.1
  refine c.recount rfl rfl (fun _ => rfl) ?_ ?_ ?_ ?_
  · exact fun k buffer => idle_emplacing notEmplacing k buffer
  · intro other number there
    by_cases own : other = handle
    · subst own
      rw [present] at there
      cases there
      have entry : Function.update s.objects object changed object = changed := Function.update_self _ _ _
      have holds := gain_held s i other references
      simp only [entry]
      exact ⟨named, same, count.trans holds.symm, Nat.lt_of_lt_of_eq positive holds.symm⟩
    · obtain ⟨-, known, right, some, -⟩ := c.entry other number there
      have entry : Function.update s.objects object changed number = s.objects number :=
        Function.update_of_ne (fun equal => own (mine other number there equal)) _ _
      have holds := gain_held_other s i references own
      simp only [entry]
      exact ⟨known, trivial, right.trans holds.symm, Nat.lt_of_lt_of_eq some holds.symm⟩
  · intro other absent
    have apart : other ≠ handle := by
      rintro rfl
      rw [present] at absent
      cases absent
    exact (gain_held_other s i references apart).trans (c.vacant other absent)
  · intro k member other number there
    obtain ⟨apart, before⟩ := still_pending there (by simp)
    obtain ⟨entry, some⟩ := c.looked k member other number before
    refine ⟨entry, ?_⟩
    simp only [gain_own, apart, false_and, if_false]
    exact some

/-- The last reference goes: nobody else holds one, so nobody has the object looked up. -/
theorem ended (c : s.Consistent) (i : ι) {handle : H} {object : Nat} {changed : Buffer H}
    (present : s.mBuffers handle = some object) (notEmplacing : ∀ buffer, s.pending i ≠ .emplacing buffer)
    (mine : 0 < s.own i handle) (last : s.held handle = 1) :
    Consistent { s with
      objects := Function.update s.objects object changed
      pending := Function.update s.pending i .idle
      own := s.gain i handle (s.own i handle - 1)
      mBuffers := Function.update s.mBuffers (s.objects object).mHandle none
      log := s.log ++ Gralloc1On0Adapter.disposal (s.objects object) } := by
  obtain ⟨number, named, -, -, used⟩ := c.entry handle object present
  rw [named]
  have elsewhere : ∀ other, other ≠ handle →
      (lifeOf other).schedule .absent (s.log ++ Gralloc1On0Adapter.disposal (s.objects object)) =
        s.life other := by
    intro other apart
    rw [life_append]
    cases life : s.life other with
    | none => rfl
    | some state => exact Session.lifeOf_disposal (fun same => apart (same.symm.trans named)) state
  have ends : (lifeOf handle).schedule .absent (s.log ++ Gralloc1On0Adapter.disposal (s.objects object)) =
      some .absent := by
    rw [life_append, used]
    simp only [Gralloc1On0Adapter.disposal, Buffer.inUse, named]
    cases (s.objects object).mWasAllocated <;> simp [Protocol.schedule, lifeOf, HandleState.step]
  have nobody : s.held handle - s.own i handle + (s.own i handle - 1) = 0 := by
    have := own_le_held s i handle
    omega
  have entries : ∀ other number, Function.update s.mBuffers handle none other = some number →
      other ≠ handle ∧ s.mBuffers other = some number := by
    intro other number there
    by_cases own : other = handle
    · subst own
      rw [Function.update_self] at there
      cases there
    · rw [Function.update_of_ne own] at there
      exact ⟨own, there⟩
  constructor
  · intro other number there
    obtain ⟨apart, before⟩ := entries other number there
    obtain ⟨below, known, count, some, life⟩ := c.entry other number before
    have distinct : number ≠ object := by
      rintro rfl
      exact apart (known.symm.trans named)
    have entry : Function.update s.objects object changed number = s.objects number :=
      Function.update_of_ne distinct _ _
    have holds := gain_held_other s i (s.own i handle - 1) apart
    simp only [entry]
    exact ⟨below, known, count.trans holds.symm, Nat.lt_of_lt_of_eq some holds.symm,
      (elsewhere other apart).trans life⟩
  · intro other absent
    by_cases own : other = handle
    · subst own
      exact (gain_held s i other _).trans nobody
    · have before : s.mBuffers other = none := (Function.update_of_ne own _ _).symm.trans absent
      exact (gain_held_other s i _ own).trans (c.vacant other before)
  · intro other absent coming
    by_cases own : other = handle
    · subst own
      exact ends
    · have before : s.mBuffers other = none := (Function.update_of_ne own _ _).symm.trans absent
      refine (elsewhere other own).trans (c.gone other before fun k buffer there => ?_)
      exact coming k buffer ((idle_emplacing notEmplacing k buffer).mpr there)
  · intro k member other number there
    obtain ⟨thread, before⟩ := still_pending there (by simp)
    obtain ⟨entry, some⟩ := c.looked k member other number before
    have apart : other ≠ handle := by
      rintro rfl
      have := own_add_le_held s thread other
      omega
    refine ⟨(Function.update_of_ne apart _ _).trans entry, ?_⟩
    simp only [gain_own, thread, false_and, if_false]
    exact some
  · intro k buffer there
    obtain ⟨thread, before⟩ := still_pending there (by simp)
    obtain ⟨absent, life, one⟩ := c.coming k buffer before
    have apart : buffer.mHandle ≠ handle := by
      intro same
      rw [same, present] at absent
      cases absent
    exact ⟨(Function.update_of_ne apart _ _).trans absent, (elsewhere _ apart).trans life, one⟩
  · intro k l first second one two
    exact c.single k l first second (still_pending one (by simp)).2 (still_pending two (by simp)).2

theorem allocated (c : s.Consistent) (i : ι) {buffer : Buffer H} {call : ModuleCall H}
    (notEmplacing : ∀ buffer, s.pending i ≠ .emplacing buffer)
    (free : s.life buffer.mHandle = some .absent)
    (begins : HandleState.step buffer.mHandle .absent call = some .allocated)
    (elsewhere : ∀ handle, handle ≠ buffer.mHandle → ∀ state, HandleState.step handle state call = some state)
    (one : buffer.mReferenceCount = 1) (kind : buffer.mWasAllocated = true) :
    Consistent { s with
      log := s.log ++ [call]
      pending := Function.update s.pending i (.emplacing buffer) } := by
  have absent := c.free_vacant free
  have here : (lifeOf buffer.mHandle).schedule .absent (s.log ++ [call]) = some .allocated := by
    rw [life_append, free]
    exact congrArg (· >>= pure) begins
  have others : ∀ handle, handle ≠ buffer.mHandle →
      (lifeOf handle).schedule .absent (s.log ++ [call]) = s.life handle := by
    intro handle apart
    rw [life_append]
    cases life : s.life handle with
    | none => rfl
    | some state => exact congrArg (· >>= pure) (elsewhere handle apart state)
  constructor
  · intro handle object present
    have apart : handle ≠ buffer.mHandle := by
      rintro rfl
      cases absent.symm.trans present
    obtain ⟨below, named, count, positive, life⟩ := c.entry handle object present
    exact ⟨below, named, count, positive, (others handle apart).trans life⟩
  · exact c.vacant
  · intro handle gone nobody
    have apart : handle ≠ buffer.mHandle := fun same =>
      nobody i buffer (Function.update_self _ _ _) same.symm
    refine (others handle apart).trans (c.gone handle gone fun k other there => ?_)
    have thread : k ≠ i := fun same => notEmplacing other (same ▸ there)
    exact nobody k other ((Function.update_of_ne thread _ _).trans there)
  · intro k member handle object there
    obtain ⟨-, wrong⟩ | ⟨-, before⟩ := now_pending there
    · cases wrong
    · exact c.looked k member handle object before
  · intro k other there
    obtain ⟨-, mine⟩ | ⟨-, before⟩ := now_pending there
    · cases mine
      exact ⟨absent, here, one, kind⟩
    · obtain ⟨vacant, life, rest⟩ := c.coming k other before
      exact ⟨vacant, (others _ (c.free_coming free before)).trans life, rest⟩
  · intro k l first second thereFirst thereSecond same
    obtain ⟨own, mine⟩ | ⟨-, before⟩ := now_pending thereFirst
    · obtain ⟨alike, -⟩ | ⟨-, after⟩ := now_pending thereSecond
      · exact own.trans alike.symm
      · cases mine
        exact absurd same.symm (c.free_coming free after)
    · obtain ⟨-, mine⟩ | ⟨-, after⟩ := now_pending thereSecond
      · cases mine
        exact absurd same (c.free_coming free before)
      · exact c.single k l first second before after same

theorem inserted (c : s.Consistent) (i : ι) {buffer : Buffer H} {log : List (ModuleCall H)} (id : BitVec 64)
    (absent : s.mBuffers buffer.mHandle = none) (one : buffer.mReferenceCount = 1)
    (here : (lifeOf buffer.mHandle).schedule .absent log = some buffer.inUse)
    (others : ∀ handle, handle ≠ buffer.mHandle → (lifeOf handle).schedule .absent log = s.life handle)
    (mine : ∀ other, s.pending i = .emplacing other → other.mHandle = buffer.mHandle)
    (apart : ∀ k other, k ≠ i → s.pending k = .emplacing other → other.mHandle ≠ buffer.mHandle) :
    Consistent (insert { s with sNextBufferDescriptorId := id, log := log } i buffer) := by
  have unheld : s.held buffer.mHandle = 0 := c.vacant _ absent
  have unowned : s.own i buffer.mHandle = 0 := Nat.le_zero.mp (unheld ▸ own_le_held s i buffer.mHandle)
  have table : emplace s.mBuffers buffer.mHandle s.made =
      Function.update s.mBuffers buffer.mHandle (some s.made) := Session.emplace_absent absent _
  have now : (insert { s with sNextBufferDescriptorId := id, log := log } i buffer).held buffer.mHandle = 1 := by
    refine (gain_held s i buffer.mHandle _).trans ?_
    rw [unheld, unowned]
  have still : ∀ handle, handle ≠ buffer.mHandle →
      (insert { s with sNextBufferDescriptorId := id, log := log } i buffer).held handle = s.held handle :=
    fun handle other => gain_held_other s i _ other
  constructor
  · intro handle object present
    simp only [insert, table] at present
    by_cases own : handle = buffer.mHandle
    · subst own
      rw [Function.update_self] at present
      cases present
      have entry : Function.update s.objects s.made buffer s.made = buffer := Function.update_self _ _ _
      rw [now]
      simp only [insert, entry]
      exact ⟨Nat.lt_succ_self _, trivial, by rw [one]; rfl, Nat.one_pos, here⟩
    · rw [Function.update_of_ne own] at present
      obtain ⟨below, named, count, positive, life⟩ := c.entry handle object present
      have entry : Function.update s.objects s.made buffer object = s.objects object :=
        Function.update_of_ne (Nat.ne_of_lt below) _ _
      rw [still handle own]
      simp only [insert, entry]
      exact ⟨Nat.lt_succ_of_lt below, named, count, positive, (others handle own).trans life⟩
  · intro handle gone
    simp only [insert, table] at gone
    by_cases own : handle = buffer.mHandle
    · rw [own, Function.update_self] at gone
      cases gone
    · rw [Function.update_of_ne own] at gone
      exact (still handle own).trans (c.vacant handle gone)
  · intro handle gone nobody
    simp only [insert, table] at gone
    by_cases own : handle = buffer.mHandle
    · rw [own, Function.update_self] at gone
      cases gone
    · rw [Function.update_of_ne own] at gone
      refine (others handle own).trans (c.gone handle gone fun k other there same => ?_)
      by_cases thread : k = i
      · subst thread
        exact own (same.symm.trans (mine other there))
      · exact nobody k other ((Function.update_of_ne thread _ _).trans there) same
  · intro k member handle object there
    obtain ⟨thread, before⟩ := still_pending there (by simp)
    obtain ⟨entry, some⟩ := c.looked k member handle object before
    have own : handle ≠ buffer.mHandle := by
      rintro rfl
      cases absent.symm.trans entry
    simp only [insert, table, gain_own, thread, false_and, if_false]
    exact ⟨(Function.update_of_ne own _ _).trans entry, some⟩
  · intro k other there
    obtain ⟨thread, before⟩ := still_pending there (by simp)
    obtain ⟨vacant, life, rest⟩ := c.coming k other before
    have own := apart k other thread before
    simp only [insert, table]
    exact ⟨(Function.update_of_ne own _ _).trans vacant, (others _ own).trans life, rest⟩
  · intro k l first second thereFirst thereSecond
    exact c.single k l first second (still_pending thereFirst (by simp)).2 (still_pending thereSecond (by simp)).2

theorem managed (c : s.Consistent) (i : ι) {member : Management} {handle : H} {object : Nat}
    (present : s.mBuffers handle = some object) (mine : 0 < s.own i handle)
    (notEmplacing : ∀ buffer, s.pending i ≠ .emplacing buffer)
    (room : member = .retain → s.held handle + 1 < 2 ^ 32) : (s.managed i handle object member).Consistent := by
  obtain ⟨-, named, count, positive, -⟩ := c.entry handle object present
  have inside := own_le_held s i handle
  cases member with
  | retain =>
    refine c.counted i present notEmplacing named rfl ?_ (by omega)
    rw [Session.retain_count count (room rfl)]
    omega
  | release =>
    obtain ⟨lower, last⟩ := Session.release_count count positive
    unfold Shared.managed
    cases zero : (s.objects object).release.2 with
    | true =>
      simp only [zero, if_true]
      exact c.ended i present notEmplacing mine (last.mp zero)
    | false =>
      simp only [zero, Bool.false_eq_true, if_false]
      have several : s.held handle ≠ 1 := by
        intro one
        rw [last.mpr one] at zero
        cases zero
      refine c.counted i present notEmplacing named rfl ?_ (by omega)
      rw [lower]
      omega

theorem passed (c : s.Consistent) {i : ι} (j : ι) {handle : H} (idle : s.pending i = .idle)
    (mine : 0 < s.own i handle) :
    let given := { s with own := s.gain i handle (s.own i handle - 1) }
    Consistent { given with own := given.gain j handle (given.own j handle + 1) } := by
  intro given
  have inside := own_le_held s i handle
  have fewer : given.held handle = s.held handle - s.own i handle + (s.own i handle - 1) := gain_held s i handle _
  have taken := own_le_held given j handle
  -- the sum loses one reference of `i` and gains one of `j`
  have same : ∀ other,
      held { given with own := given.gain j handle (given.own j handle + 1) } other = s.held other := by
    intro other
    by_cases own : other = handle
    · subst own
      refine (gain_held given j other _).trans ?_
      omega
    · exact (gain_held_other given j _ own).trans (gain_held_other s i _ own)
  refine c.recount rfl rfl (fun _ => rfl) (fun _ _ => Iff.rfl) ?_ ?_ ?_
  · intro other object present
    obtain ⟨-, named, count, positive, -⟩ := c.entry other object present
    exact ⟨named, rfl, count.trans (same other).symm, Nat.lt_of_lt_of_eq positive (same other).symm⟩
  · intro other absent
    exact (same other).trans (c.vacant other absent)
  · intro k member other object there
    obtain ⟨entry, some⟩ := c.looked k member other object there
    refine ⟨entry, ?_⟩
    have thread : k ≠ i := by
      rintro rfl
      cases idle.symm.trans there
    have kept : given.own k other = s.own k other := by
      simp only [given, gain_own, thread, false_and, if_false]
    simp only [gain_own]
    split
    · omega
    · rw [kept]
      exact some

theorem registered (c : s.Consistent) (i : ι) {buffer : Buffer H} (id : BitVec 64) (idle : s.pending i = .idle)
    (absent : s.mBuffers buffer.mHandle = none) (free : s.life buffer.mHandle = some .absent)
    (one : buffer.mReferenceCount = 1) (kind : buffer.mWasAllocated = false) :
    Consistent (insert { s with
      sNextBufferDescriptorId := id
      log := s.log ++ [.registerBuffer buffer.mHandle true] } i buffer) := by
  refine c.inserted i id absent one ?_ ?_ ?_ ?_
  · rw [life_append, free]
    simp [Protocol.schedule, lifeOf, HandleState.step, Buffer.inUse, kind]
  · intro handle apart
    rw [life_append]
    cases life : s.life handle with
    | none => rfl
    | some state => simp [Protocol.schedule, lifeOf, HandleState.step, Ne.symm apart]
  · intro other there
    cases idle.symm.trans there
  · exact fun k other _ there => c.free_coming free there

omit [DecidableEq ι] in
theorem declined (c : s.Consistent) {call : ModuleCall H}
    (nothing : ∀ handle state, HandleState.step handle state call = some state) :
    Consistent { s with log := s.log ++ [call] } := by
  refine c.recount rfl rfl ?_ (fun _ _ => Iff.rfl) ?_ c.vacant c.looked
  · intro handle
    refine (life_append s handle [call]).trans ?_
    cases life : s.life handle with
    | none => rfl
    | some state => exact congrArg (· >>= pure) (nothing handle state)
  · intro handle object present
    obtain ⟨-, named, count, positive, -⟩ := c.entry handle object present
    exact ⟨named, rfl, count, positive⟩

theorem found (c : s.Consistent) {i : ι} (member : Management) {handle : H} {object : Nat}
    (idle : s.pending i = .idle) (present : s.mBuffers handle = some object) (mine : 0 < s.own i handle) :
    Consistent { s with pending := Function.update s.pending i (.managing member handle object) } := by
  refine c.recount rfl rfl (fun _ => rfl) ?_ ?_ c.vacant ?_
  · intro k buffer
    by_cases own : k = i
    · subst own
      simp [idle]
    · simp [own]
  · intro other number there
    obtain ⟨-, named, count, positive, -⟩ := c.entry other number there
    exact ⟨named, rfl, count, positive⟩
  · intro k other key number there
    obtain ⟨own, put⟩ | ⟨-, before⟩ := now_pending there
    · cases own
      cases put
      exact ⟨present, mine⟩
    · exact c.looked k other key number before

theorem step_lookup (c : s.Consistent) {usage : UsageConversion} {i : ι} {member : Management} {handle : H}
    (disciplined : s.Disciplined (.lookup i member handle))
    (moved : Shared.step usage s (.lookup i member handle) = some t) : t.Consistent := by
  simp only [Shared.step] at moved
  split at moved
  · rename_i idle
    split at moved
    · cases moved
      exact c
    · rename_i object present
      cases moved
      exact c.found member idle present disciplined
  · cases moved

theorem step_manage (c : s.Consistent) {usage : UsageConversion} {i : ι}
    (disciplined : s.Disciplined (.manage i)) (moved : Shared.step usage s (.manage i) = some t) :
    t.Consistent := by
  simp only [Shared.step] at moved
  split at moved
  · rename_i member handle object busy
    cases moved
    obtain ⟨present, mine⟩ := c.looked i member handle object busy
    refine c.managed i present mine ?_ ?_
    · intro buffer there
      cases busy.symm.trans there
    · rintro rfl
      exact disciplined handle object busy
  · cases moved

theorem step_alloc (c : s.Consistent) {usage : UsageConversion} {i : ι} {descriptor : Descriptor}
    {store : BitVec 64} {answer : AllocAnswer H} (disciplined : s.Disciplined (.alloc i descriptor store answer))
    (moved : Shared.step usage s (.alloc i descriptor store answer) = some t) : t.Consistent := by
  simp only [Shared.step] at moved
  split at moved
  · rename_i idle
    cases answer with
    | failed =>
      cases moved
      exact c.declined fun handle state => by simp [HandleState.step]
    | allocated handle stride =>
      cases moved
      refine c.allocated i ?_ disciplined ?_ ?_ rfl rfl
      · intro buffer there
        cases idle.symm.trans there
      · simp [HandleState.step, Buffer.create]
      · intro other apart state
        have own : handle ≠ other := fun same => apart same.symm
        simp [HandleState.step, own]
  · cases moved

theorem step_emplace (c : s.Consistent) {usage : UsageConversion} {i : ι}
    (moved : Shared.step usage s (.emplace i) = some t) : t.Consistent := by
  simp only [Shared.step] at moved
  split at moved
  · rename_i buffer busy
    cases moved
    obtain ⟨absent, life, one, kind⟩ := c.coming i buffer busy
    refine c.inserted i s.sNextBufferDescriptorId absent one ?_ (fun _ _ => rfl) ?_ ?_
    · rw [Buffer.inUse, kind]
      exact life
    · intro other there
      cases busy.symm.trans there
      rfl
    -- no other thread has the same handle under way
    · exact fun k other thread there same => thread (c.single k i other buffer there busy same)
  · cases moved

theorem step_retainGraphicBuffer (c : s.Consistent) {usage : UsageConversion} {i : ι}
    {graphicBuffer : GraphicBuffer H} {registered : Bool}
    (disciplined : s.Disciplined (.retainGraphicBuffer i graphicBuffer registered))
    (moved : Shared.step usage s (.retainGraphicBuffer i graphicBuffer registered) = some t) : t.Consistent := by
  simp only [Shared.step] at moved
  split at moved
  · rename_i idle
    split at moved
    · rename_i object present
      cases moved
      obtain ⟨-, named, count, positive, -⟩ := c.entry _ object present
      have inside := own_le_held s i graphicBuffer.handle
      have same : (s.objects object).retain.mHandle = graphicBuffer.handle := named
      have more : (s.objects object).retain.mReferenceCount.toNat = s.held graphicBuffer.handle -
          s.own i graphicBuffer.handle + (s.own i graphicBuffer.handle + 1) := by
        rw [Session.retain_count count disciplined.1]
        omega
      have counted := c.counted i present (fun buffer there => by cases idle.symm.trans there) same rfl more
        (by omega)
      -- the thread was idle and stays so
      rw [← idle, Function.update_eq_self] at counted
      exact counted
    · rename_i absent
      cases registered with
      | false =>
        cases moved
        exact c.declined fun handle state => by simp [HandleState.step]
      | true =>
        cases moved
        exact c.registered i _ idle absent (disciplined.2 absent) rfl rfl
  · cases moved

theorem step_pass (c : s.Consistent) {usage : UsageConversion} {i j : ι} {handle : H}
    (moved : Shared.step usage s (.pass i j handle) = some t) : t.Consistent := by
  simp only [Shared.step] at moved
  split at moved
  · rename_i idle
    split at moved
    · rename_i mine
      cases moved
      exact c.passed j idle mine
    · cases moved
  · cases moved

theorem step (c : s.Consistent) {usage : UsageConversion} {action : Section H ι}
    (disciplined : s.Disciplined action) (moved : Shared.step usage s action = some t) : t.Consistent := by
  cases action with
  | lookup i member handle => exact c.step_lookup disciplined moved
  | manage i => exact c.step_manage disciplined moved
  | alloc i descriptor store answer => exact c.step_alloc disciplined moved
  | emplace i => exact c.step_emplace moved
  | retainGraphicBuffer i graphicBuffer registered => exact c.step_retainGraphicBuffer disciplined moved
  | pass i j handle => exact c.step_pass moved

end Consistent

omit [DecidableEq H] [DecidableEq ι] in
theorem start_held (memory : Nat → Buffer H) (handle : H) : (start memory : Shared H ι).held handle = 0 := by
  simp [held, start]

omit [DecidableEq ι] in
theorem start_consistent (memory : Nat → Buffer H) : (start memory : Shared H ι).Consistent where
  entry _ _ present := by cases present
  vacant handle _ := start_held memory handle
  gone _ _ _ := rfl
  looked _ _ _ _ there := by cases there
  coming _ _ there := by cases there
  single _ _ _ _ there := by cases there

/-- However the sections of the threads interleave, an object that was looked up is in the
table still when its count is changed, a count is what all the threads hold of the handle, and
every handle lives by the rules of the module. -/
theorem threads_consistent (usage : UsageConversion) (memory : Nat → Buffer H) {s : Shared H ι}
    (reaches : (sections usage).Reaches Disciplined (start memory) s) : s.Consistent :=
  Protocol.Reaches.keeps (sections usage) Consistent
    (fun _ _ _ consistent disciplined moved => consistent.step disciplined moved)
    (start_consistent memory) reaches

end

/-- One thread has allocated a buffer and passed a reference to another, and both have looked
the buffer up to give their references back. -/
def releasing : List (Section Nat Bool) :=
  [.alloc false (.create 1) 7 (.allocated 5 64), .emplace false, .lookup false .retain 5, .manage false,
    .pass false true 5, .lookup false .release 5, .lookup true .release 5]

def blank (_ : Nat) : Buffer Nat := .create 0 0 (.create 0) 0 true
def shared : Shared Nat Bool := ((sections .unused).schedule (start blank) releasing).getD (start blank)

theorem shared_reaches : (sections .unused).Reaches Disciplined (start blank) shared := by
  refine .head ⟨.alloc false (.create 1) 7 (.allocated 5 64), rfl, rfl⟩ ?_
  refine .head ⟨.emplace false, trivial, rfl⟩ ?_
  refine .head ⟨.lookup false .retain 5, Nat.one_pos, rfl⟩ ?_
  refine .head ⟨.manage false, fun _ _ there => ?_, rfl⟩ ?_
  · cases there
    decide
  refine .head ⟨.pass false true 5, trivial, rfl⟩ ?_
  refine .head ⟨.lookup false .release 5, Nat.one_pos, rfl⟩ ?_
  exact .single ⟨.lookup true .release 5, Nat.one_pos, rfl⟩

theorem threads_consistent_releasing :
    shared.Consistent ∧ ∀ thread, shared.pending thread = .managing .release 5 0 := by
  refine ⟨threads_consistent .unused blank shared_reaches, fun thread => ?_⟩
  cases thread <;> rfl

end Shared
end Gralloc
