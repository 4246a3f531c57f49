import KanasSensors.Gralloc.Threads

/-! The sections of the threads against the functions of the adapter called one at a time.

`retain` and `release` show in the table as a whole at their second section, on the entry that
is there by then, and `allocate` shows where its buffer is put in.
-/

set_option autoImplicit false

namespace Gralloc

open Foundation

def Management.function {H : Type} [DecidableEq H] :
    Management → Gralloc1On0Adapter H → Buffer H → Gralloc1On0Adapter H × Outcome H H
  | .retain => Gralloc1On0Adapter.retain
  | .release => Gralloc1On0Adapter.release

namespace Shared

variable {H ι : Type} [DecidableEq H] [DecidableEq ι]

/-- The adapter as a client sees it who is alone; its descriptors are behind another mutex. -/
def adapter (mDescriptors : BitVec 64 → Option Descriptor) (s : Shared H ι) : Gralloc1On0Adapter H :=
  ⟨mDescriptors, fun handle => (s.mBuffers handle).map s.objects, s.sNextBufferDescriptorId⟩

def completed (usage : UsageConversion) (mDescriptors : BitVec 64 → Option Descriptor) (s : Shared H ι) :
    Section H ι → Option (Gralloc1On0Adapter H × Outcome H H)
  | .manage i =>
    match s.pending i with
    | .managing member handle _ => some ((s.adapter mDescriptors).managementHook member.function handle)
    | _ => none
  | .emplace i =>
    match s.pending i with
    | .emplacing buffer =>
      some ((s.adapter mDescriptors).allocate usage buffer.mDescriptor buffer.mStore
        (.allocated buffer.mHandle buffer.mStride))
    | _ => none
  | .retainGraphicBuffer _ graphicBuffer registered =>
    some ((s.adapter mDescriptors).retainGraphicBuffer graphicBuffer registered)
  | _ => none

variable [Fintype ι] {s t : Shared H ι}

namespace Consistent

omit [DecidableEq ι] in
theorem entries_update (c : s.Consistent) {handle : H} {object : Nat} (present : s.mBuffers handle = some object)
    (changed : Buffer H) : (fun other => (s.mBuffers other).map (Function.update s.objects object changed)) =
      Function.update (fun other => (s.mBuffers other).map s.objects) handle (some changed) := by
  funext other
  by_cases own : other = handle
  · subst own
    simp [present]
  · rw [Function.update_of_ne own]
    cases there : s.mBuffers other with
    | none => rfl
    | some number =>
      have distinct : number ≠ object := by
        rintro rfl
        exact own ((c.entry other number there).2.1.symm.trans (c.entry handle number present).2.1)
      simp [distinct]

omit [DecidableEq ι] in
theorem entries_insert (c : s.Consistent) {handle : H} (absent : s.mBuffers handle = none) (buffer : Buffer H) :
    (fun other => (emplace s.mBuffers handle s.made other).map (Function.update s.objects s.made buffer)) =
      emplace (fun other => (s.mBuffers other).map s.objects) handle buffer := by
  have view : emplace (fun other => (s.mBuffers other).map s.objects) handle buffer =
      Function.update (fun other => (s.mBuffers other).map s.objects) handle (some buffer) :=
    Session.emplace_absent (by simp [absent]) buffer
  rw [Session.emplace_absent absent, view]
  funext other
  by_cases own : other = handle
  · subst own
    simp
  · rw [Function.update_of_ne own, Function.update_of_ne own]
    cases there : s.mBuffers other with
    | none => rfl
    | some number =>
      have older : number ≠ s.made := Nat.ne_of_lt (c.entry other number there).1
      simp [older]

omit [DecidableEq ι] [Fintype ι] in
theorem entries_erase (entries : H → Option Nat) (objects : Nat → Buffer H) (handle : H) :
    (fun other => (Function.update entries handle none other).map objects) =
      Function.update (fun other => (entries other).map objects) handle none := by
  funext other
  by_cases own : other = handle
  · subst own
    simp
  · simp [own]

theorem managed_function (c : s.Consistent) (mDescriptors : BitVec 64 → Option Descriptor) (i : ι)
    (member : Management) {handle : H} {object : Nat} (present : s.mBuffers handle = some object) :
    (s.managed i handle object member).adapter mDescriptors =
        ((s.adapter mDescriptors).managementHook member.function handle).1 ∧
      (s.managed i handle object member).log =
        s.log ++ ((s.adapter mDescriptors).managementHook member.function handle).2.calls ∧
      ((s.adapter mDescriptors).managementHook member.function handle).2.error = .noError := by
  have view : (s.adapter mDescriptors).getBuffer handle = some (s.objects object) := by
    simp [Gralloc1On0Adapter.getBuffer, adapter, present]
  have named := (c.entry handle object present).2.1
  simp only [Gralloc1On0Adapter.managementHook, view]
  cases member with
  | retain =>
    simp only [Management.function, Gralloc1On0Adapter.retain, Shared.managed, adapter, named,
      c.entries_update present, List.append_nil, and_self]
  | release =>
    cases last : (s.objects object).release.2 with
    | true =>
      simp only [Management.function, Gralloc1On0Adapter.release, Shared.managed, adapter, named, last,
        if_true, entries_erase, c.entries_update present, Function.update_idem, and_self]
    | false =>
      simp only [Management.function, Gralloc1On0Adapter.release, Shared.managed, adapter, named, last,
        Bool.false_eq_true, if_false, c.entries_update present, List.append_nil, and_self]

theorem retained_function (c : s.Consistent) {usage : UsageConversion} {i : ι}
    (mDescriptors : BitVec 64 → Option Descriptor) {graphicBuffer : GraphicBuffer H} {registered : Bool}
    (moved : Shared.step usage s (.retainGraphicBuffer i graphicBuffer registered) = some t) :
    t.adapter mDescriptors = ((s.adapter mDescriptors).retainGraphicBuffer graphicBuffer registered).1 ∧
      t.log = s.log ++ ((s.adapter mDescriptors).retainGraphicBuffer graphicBuffer registered).2.calls := by
  simp only [Shared.step] at moved
  split at moved
  · split at moved
    · rename_i object present
      cases moved
      simp only [Gralloc1On0Adapter.retainGraphicBuffer, adapter, present, Option.map_some,
        c.entries_update present, List.append_nil, and_self]
    · rename_i absent
      cases registered with
      | false =>
        cases moved
        simp [Gralloc1On0Adapter.retainGraphicBuffer, adapter, absent]
      | true =>
        cases moved
        simp only [Gralloc1On0Adapter.retainGraphicBuffer, adapter, absent, Option.map_none, insert,
          Buffer.create, c.entries_insert absent, if_true, and_self]
  · cases moved

theorem emplaced_function (c : s.Consistent) (usage : UsageConversion) {i : ι} {buffer : Buffer H}
    (mDescriptors : BitVec 64 → Option Descriptor) (coming : s.pending i = .emplacing buffer) :
    (s.insert i buffer).adapter mDescriptors = ((s.adapter mDescriptors).allocate usage buffer.mDescriptor
      buffer.mStore (.allocated buffer.mHandle buffer.mStride)).1 := by
  obtain ⟨absent, -, one, kind⟩ := c.coming i buffer coming
  have same : Buffer.create buffer.mHandle buffer.mStore buffer.mDescriptor buffer.mStride true = buffer := by
    unfold Buffer.create
    rw [← one, ← kind]
  simp only [Gralloc1On0Adapter.allocate, adapter, insert, same, c.entries_insert absent]

end Consistent

/-- In every interleaved run each function has its whole effect on the table in one section, on
the table that is there by then; the other sections leave the table alone. A buffer that was
looked up to be retained or released is still there to be. -/
theorem sections_atomic (usage : UsageConversion) (memory : Nat → Buffer H)
    (mDescriptors : BitVec 64 → Option Descriptor)
    (reaches : (sections usage).Reaches Disciplined (start memory) s) {action : Section H ι}
    (moved : (sections usage).step s action = some t) :
    match s.completed usage mDescriptors action with
    | some (adapter, outcome) => t.adapter mDescriptors = adapter ∧
      ((∃ i, action = .emplace i) ∨ t.log = s.log ++ outcome.calls) ∧
      ((∃ i, action = .manage i) → outcome.error = .noError)
    | none => t.adapter mDescriptors = s.adapter mDescriptors := by
  have c : s.Consistent := Protocol.Reaches.keeps (sections usage) Consistent
    (fun _ _ _ consistent disciplined moved => consistent.step disciplined moved)
    (start_consistent memory) reaches
  change step usage s action = some t at moved
  cases action with
  | lookup i member handle =>
    simp only [step] at moved
    split at moved <;> try split at moved
    all_goals cases moved
    all_goals rfl
  | manage i =>
    simp only [step] at moved
    split at moved
    · rename_i member handle object busy
      cases moved
      have present := (c.looked i member handle object busy).1
      obtain ⟨table, log, error⟩ := c.managed_function mDescriptors i member present
      simp only [completed, busy]
      exact ⟨table, .inr log, fun _ => error⟩
    · cases moved
  | alloc i descriptor store answer =>
    simp only [step] at moved
    split at moved <;> try split at moved
    all_goals cases moved
    all_goals rfl
  | emplace i =>
    simp only [step] at moved
    split at moved
    · rename_i buffer busy
      cases moved
      simp only [completed, busy]
      exact ⟨c.emplaced_function usage mDescriptors busy, .inl ⟨i, rfl⟩, by rintro ⟨_, ⟨⟩⟩⟩
    · cases moved
  | retainGraphicBuffer i graphicBuffer registered =>
    obtain ⟨table, log⟩ := c.retained_function mDescriptors moved
    exact ⟨table, .inr log, by rintro ⟨_, ⟨⟩⟩⟩
  | pass i j handle =>
    simp only [step] at moved
    split at moved <;> try split at moved
    all_goals cases moved
    all_goals rfl

theorem sections_atomic_releasing : ∃ t : Shared Nat Bool,
    (sections .unused).step shared (.manage true) = some t ∧
      t.adapter (fun _ => none) =
        ((shared.adapter fun _ => none).managementHook Gralloc1On0Adapter.release 5).1 := by
  obtain ⟨t, moved⟩ : ∃ t, (sections .unused).step shared (.manage true) = some t := ⟨_, rfl⟩
  exact ⟨t, moved, (sections_atomic .unused blank (fun _ => none) shared_reaches moved).1⟩

end Shared
end Gralloc
