import Mathlib.Data.List.Induction
import Mathlib.Data.List.Nodup
import Mathlib.Data.List.Perm.Subperm
import KanasSensors.Gralloc.Model

/-! `GraphicBufferMapper::lockAsyncYCbCr`: a lock that gives the planes of a picture.

The device is the adapter or has flexible layouts; what it answers is given. A layout that is
not fit for a picture is given back by an unlock.
-/

set_option autoImplicit false

namespace Gralloc

inductive FlexComponent where
  | y
  | cb
  | cr
  | other (component : BitVec 32)
  deriving DecidableEq

structure FlexPlane where
  top_left : BitVec 32
  component : FlexComponent
  bits_per_component : BitVec 32
  bits_used : BitVec 32
  h_increment : BitVec 32
  v_increment : BitVec 32

inductive FlexFormat where
  | yCbCr
  | other (format : BitVec 32)
  deriving DecidableEq

structure FlexLayout where
  format : FlexFormat
  planes : List FlexPlane

structure AndroidYCbCr where
  y : BitVec 32
  cb : BitVec 32
  cr : BitVec 32
  ystride : BitVec 32
  cstride : BitVec 32
  chroma_step : BitVec 32

/-- What a device answers about one buffer. It fills as many planes as it has room for. -/
structure LockDevice where
  onAdapter : Bool
  lockYCbCr : Gralloc1Error × AndroidYCbCr
  getNumFlexPlanes : Gralloc1Error × Nat
  lockFlex : Nat → Gralloc1Error × FlexLayout
  fills : ∀ numPlanes, (lockFlex numPlanes).2.planes.length = numPlanes

inductive LockCall where
  | lock (error : Gralloc1Error)
  | unlock

structure Locked where
  error : Gralloc1Error
  ycbcr : Option AndroidYCbCr
  calls : List LockCall

namespace GraphicBufferMapper

structure Planes where
  yPlane : Option FlexPlane
  cbPlane : Option FlexPlane
  crPlane : Option FlexPlane

/-- The body of the loop over the planes. -/
def findPlane (found : Planes) (plane : FlexPlane) : Planes :=
  match plane.component with
  | .y => { found with yPlane := some plane }
  | .cb => { found with cbPlane := some plane }
  | .cr => { found with crPlane := some plane }
  | .other _ => found

def findPlanes (planes : List FlexPlane) : Planes := planes.foldl findPlane ⟨none, none, none⟩

def packed (y cb cr : FlexPlane) : AndroidYCbCr :=
  ⟨y.top_left, cb.top_left, cr.top_left, y.v_increment, cb.v_increment, cb.h_increment⟩

def unfit : Locked := ⟨.unsupported, none, [.lock .noError, .unlock]⟩

/-- The part of `lockAsyncYCbCr` that has the layout locked. `isValidYCbCrPlane` is given. -/
def packLayout (isValidYCbCrPlane : FlexPlane → Bool) (flexLayout : FlexLayout) : Locked :=
  if flexLayout.format ≠ .yCbCr then unfit else
  match findPlanes flexLayout.planes with
  | ⟨some yPlane, some cbPlane, some crPlane⟩ =>
    if !isValidYCbCrPlane yPlane then unfit else
    if !isValidYCbCrPlane cbPlane then unfit else
    if !isValidYCbCrPlane crPlane then unfit else
    if cbPlane.v_increment ≠ crPlane.v_increment then unfit else
    if cbPlane.h_increment ≠ crPlane.h_increment then unfit else
    ⟨.noError, some (packed yPlane cbPlane crPlane), [.lock .noError]⟩
  | _ => unfit

def lockAsyncYCbCr (isValidYCbCrPlane : FlexPlane → Bool) (device : LockDevice) : Locked :=
  if device.onAdapter then
    let (error, ycbcr) := device.lockYCbCr
    ⟨error, if error = .noError then some ycbcr else none, [.lock error]⟩
  else
  let (error, numPlanes) := device.getNumFlexPlanes
  if error ≠ .noError then ⟨error, none, []⟩ else
  if numPlanes < 3 then ⟨.unsupported, none, []⟩ else
  let (error, flexLayout) := device.lockFlex numPlanes
  if error ≠ .noError then ⟨error, none, [.lock error]⟩ else
  packLayout isValidYCbCrPlane flexLayout

def lastPlane (component : FlexComponent) (planes : List FlexPlane) : Option FlexPlane :=
  planes.reverse.find? fun plane => plane.component = component

/-- The layout shows a picture in its last planes. -/
structure Shows (isValidYCbCrPlane : FlexPlane → Bool) (layout : FlexLayout) (y cb cr : FlexPlane) : Prop where
  format : layout.format = .yCbCr
  yPlane : lastPlane .y layout.planes = some y
  cbPlane : lastPlane .cb layout.planes = some cb
  crPlane : lastPlane .cr layout.planes = some cr
  valid : isValidYCbCrPlane y = true ∧ isValidYCbCrPlane cb = true ∧ isValidYCbCrPlane cr = true
  step : cb.v_increment = cr.v_increment
  stride : cb.h_increment = cr.h_increment

def depth : List LockCall → Int
  | [] => 0
  | .lock error :: rest => (if error = .noError then 1 else 0) + depth rest
  | .unlock :: rest => depth rest - 1

theorem findPlanes_append (planes : List FlexPlane) (plane : FlexPlane) :
    findPlanes (planes ++ [plane]) = findPlane (findPlanes planes) plane := List.foldl_append

theorem lastPlane_append (component : FlexComponent) (planes : List FlexPlane) (plane : FlexPlane) :
    lastPlane component (planes ++ [plane]) =
      if plane.component = component then some plane else lastPlane component planes := by
  simp only [lastPlane, List.reverse_append, List.reverse_cons, List.reverse_nil, List.nil_append,
    List.singleton_append, List.find?_cons]
  split <;> simp_all

theorem findPlanes_eq (planes : List FlexPlane) :
    findPlanes planes = ⟨lastPlane .y planes, lastPlane .cb planes, lastPlane .cr planes⟩ := by
  induction planes using List.reverseRecOn with
  | nil => rfl
  | append_singleton planes plane ih =>
    rw [findPlanes_append, ih, lastPlane_append, lastPlane_append, lastPlane_append, findPlane]
    cases kind : plane.component <;> simp

theorem lastPlane_mem {component : FlexComponent} {planes : List FlexPlane} {plane : FlexPlane}
    (last : lastPlane component planes = some plane) : plane ∈ planes ∧ plane.component = component := by
  constructor
  · exact List.mem_reverse.mp (List.mem_of_find?_eq_some last)
  · have kind := List.find?_some last
    exact of_decide_eq_true kind

theorem Shows.three_le {isValidYCbCrPlane : FlexPlane → Bool} {layout : FlexLayout} {y cb cr : FlexPlane}
    (shows : Shows isValidYCbCrPlane layout y cb cr) : 3 ≤ layout.planes.length := by
  obtain ⟨yIn, yKind⟩ := lastPlane_mem shows.yPlane
  obtain ⟨cbIn, cbKind⟩ := lastPlane_mem shows.cbPlane
  obtain ⟨crIn, crKind⟩ := lastPlane_mem shows.crPlane
  have apart : [y, cb, cr].Nodup := by
    refine List.Nodup.of_map FlexPlane.component ?_
    simp [yKind, cbKind, crKind]
  have inside : [y, cb, cr] ⊆ layout.planes := by
    intro plane member
    simp only [List.mem_cons, List.not_mem_nil, or_false] at member
    rcases member with rfl | rfl | rfl <;> assumption
  exact (apart.subperm inside).length_le

section
variable {isValidYCbCrPlane : FlexPlane → Bool}

theorem packLayout_shows {layout : FlexLayout} {y cb cr : FlexPlane} (shows : Shows isValidYCbCrPlane layout y cb cr) :
    packLayout isValidYCbCrPlane layout = ⟨.noError, some (packed y cb cr), [.lock .noError]⟩ := by
  simp [packLayout, findPlanes_eq, shows.format, shows.yPlane, shows.cbPlane, shows.crPlane, shows.valid,
    shows.step, shows.stride]

theorem packLayout_unfit {layout : FlexLayout} (shown : ¬∃ y cb cr, Shows isValidYCbCrPlane layout y cb cr) :
    packLayout isValidYCbCrPlane layout = unfit := by
  unfold packLayout
  rw [findPlanes_eq]
  split
  · rfl
  · rename_i format
    split
    · rename_i y cb cr found
      obtain ⟨yPlane, cbPlane, crPlane⟩ := Planes.mk.inj found
      split
      · rfl
      · split
        · rfl
        · split
          · rfl
          · split
            · rfl
            · split
              · rfl
              · rename_i yValid cbValid crValid step stride
                refine absurd ⟨y, cb, cr, ?_⟩ shown
                simp only [Bool.not_eq_true, Bool.not_eq_false', ne_eq, not_not] at *
                exact ⟨format, yPlane, cbPlane, crPlane, ⟨yValid, cbValid, crValid⟩, step, stride⟩
    · rfl

/-- The buffer is left locked exactly if there is no error. With flexible layouts that is where
a locked layout shows a picture, and the picture is the last plane of each component. -/
theorem lockAsyncYCbCr_locks (isValidYCbCrPlane : FlexPlane → Bool) (device : LockDevice) :
    let locked := lockAsyncYCbCr isValidYCbCrPlane device
    depth locked.calls = (if locked.error = .noError then 1 else 0) ∧
      (locked.ycbcr.isSome ↔ locked.error = .noError) ∧
      (device.onAdapter = false → ∀ picture, locked.ycbcr = some picture ↔
        device.getNumFlexPlanes.1 = .noError ∧ (device.lockFlex device.getNumFlexPlanes.2).1 = .noError ∧
          ∃ y cb cr, Shows isValidYCbCrPlane (device.lockFlex device.getNumFlexPlanes.2).2 y cb cr ∧
            picture = packed y cb cr) := by
  intro locked
  cases adapter : device.onAdapter with
  | true =>
    have whole : locked = ⟨device.lockYCbCr.1, if device.lockYCbCr.1 = .noError then some device.lockYCbCr.2
        else none, [.lock device.lockYCbCr.1]⟩ := by
      simp only [locked, lockAsyncYCbCr, adapter, if_true]
    rw [whole]
    by_cases ok : device.lockYCbCr.1 = .noError <;> simp [depth, ok]
  | false =>
    by_cases counted : device.getNumFlexPlanes.1 = .noError
    · by_cases few : device.getNumFlexPlanes.2 < 3
      · have whole : locked = ⟨.unsupported, none, []⟩ := by
          simp [locked, lockAsyncYCbCr, adapter, counted, few]
        rw [whole]
        refine ⟨rfl, by simp, fun _ picture => iff_of_false (by simp) ?_⟩
        rintro ⟨-, -, y, cb, cr, shows, -⟩
        have three := shows.three_le
        rw [device.fills] at three
        omega
      · by_cases ok : (device.lockFlex device.getNumFlexPlanes.2).1 = .noError
        · have whole : locked = packLayout isValidYCbCrPlane (device.lockFlex device.getNumFlexPlanes.2).2 := by
            simp only [locked, lockAsyncYCbCr, adapter, counted, few, ok, Bool.false_eq_true, if_false, ne_eq,
              not_true_eq_false]
          rw [whole]
          by_cases shown : ∃ y cb cr,
              Shows isValidYCbCrPlane (device.lockFlex device.getNumFlexPlanes.2).2 y cb cr
          · obtain ⟨y, cb, cr, shows⟩ := shown
            rw [packLayout_shows shows]
            refine ⟨rfl, by simp, fun _ picture => ?_⟩
            constructor
            · rintro ⟨⟩
              exact ⟨counted, ok, y, cb, cr, shows, rfl⟩
            · rintro ⟨-, -, y', cb', cr', again, rfl⟩
              cases shows.yPlane.symm.trans again.yPlane
              cases shows.cbPlane.symm.trans again.cbPlane
              cases shows.crPlane.symm.trans again.crPlane
              rfl
          · rw [packLayout_unfit shown]
            refine ⟨rfl, by simp [unfit], fun _ picture => iff_of_false (by simp [unfit]) ?_⟩
            rintro ⟨-, -, y, cb, cr, shows, -⟩
            exact shown ⟨y, cb, cr, shows⟩
        · have whole : locked = ⟨(device.lockFlex device.getNumFlexPlanes.2).1, none,
              [.lock (device.lockFlex device.getNumFlexPlanes.2).1]⟩ := by
            simp [locked, lockAsyncYCbCr, adapter, counted, few, ok]
          rw [whole]
          simp [depth, ok]
    · have whole : locked = ⟨device.getNumFlexPlanes.1, none, []⟩ := by
        simp [locked, lockAsyncYCbCr, adapter, counted]
      rw [whole]
      simp [depth, counted]

end

end GraphicBufferMapper
end Gralloc
