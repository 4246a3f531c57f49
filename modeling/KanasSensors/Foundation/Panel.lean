import Mathlib.Data.Set.Basic

/-! Switches that share indicator lines.

Throwing a switch writes the one line it drives, and writes it lit when any switch of
the whole panel is on. A line is therefore right only as long as the switches that
are on all drive it.
-/

set_option autoImplicit false

namespace Foundation

structure Panel (S L : Type) where
  on : Set S
  lit : Set L

namespace Panel

variable {S L : Type} (drives : S → L)

def throw (p : Panel S L) (s : S) (up : Prop) : Panel S L where
  on := {t | (t = s ∧ up) ∨ (t ≠ s ∧ t ∈ p.on)}
  lit := {l | (l = drives s ∧ ∃ t, (t = s ∧ up) ∨ (t ≠ s ∧ t ∈ p.on)) ∨ (l ≠ drives s ∧ l ∈ p.lit)}

/-- Throw the switches of a list that are on, one after the other, to off. -/
inductive Shutdown : Panel S L → List S → Panel S L → Prop where
  | nil (p : Panel S L) : Shutdown p [] p
  | skip {p q : Panel S L} {s : S} {rest : List S} :
      s ∉ p.on → Shutdown p rest q → Shutdown p (s :: rest) q
  | off {p q : Panel S L} {s : S} {rest : List S} :
      s ∈ p.on → Shutdown (p.throw drives s False) rest q → Shutdown p (s :: rest) q

/-- A line is lit exactly when a switch that drives it is on, and only one line is. -/
structure Clean (p : Panel S L) : Prop where
  lit_iff : ∀ l, l ∈ p.lit ↔ ∃ s ∈ p.on, drives s = l
  single : ∀ s ∈ p.on, ∀ t ∈ p.on, drives s = drives t

/-- A switch that drives another line than `s` is on. -/
def Crosses (p : Panel S L) (s : S) : Prop := ∃ t ∈ p.on, drives t ≠ drives s

/-- A lit line that no sequence of throws can put out before the last switch is off. -/
def Stuck (p : Panel S L) : Prop := ∃ l ∈ p.lit, ∃ t ∈ p.on, drives t ≠ l

def Stranded (p : Panel S L) : Prop := p.on = ∅ ∧ p.lit.Nonempty

variable {drives} {p : Panel S L} {s : S} {up : Prop}

theorem Clean.dark (clean : p.Clean drives) (off : p.on = ∅) : p.lit = ∅ := by
  ext l
  rw [clean.lit_iff, off]
  simp

theorem Clean.throw (clean : p.Clean drives) (straight : ¬p.Crosses drives s) :
    (p.throw drives s up).Clean drives := by
  have own : ∀ t ∈ (p.throw drives s up).on, drives t = drives s := by
    rintro t (⟨rfl, -⟩ | ⟨-, on⟩)
    · rfl
    · by_contra other
      exact straight ⟨t, on, other⟩
  refine ⟨fun l => ⟨?_, ?_⟩, fun t on u on' => (own t on).trans (own u on').symm⟩
  · rintro (⟨rfl, t, on⟩ | ⟨other, lit⟩)
    · exact ⟨t, on, own t on⟩
    · obtain ⟨t, on, rfl⟩ := (clean.lit_iff l).mp lit
      exact absurd ⟨t, on, other⟩ straight
  · rintro ⟨t, on, rfl⟩
    exact .inl ⟨own t on, t, on⟩

theorem Crosses.throw (crossed : p.Crosses drives s) : (p.throw drives s up).Stuck drives := by
  obtain ⟨t, on, other⟩ := crossed
  have apart : t ≠ s := fun same => other (congrArg drives same)
  exact ⟨drives s, .inl ⟨rfl, t, .inr ⟨apart, on⟩⟩, t, .inr ⟨apart, on⟩, other⟩

theorem Stuck.throw (stuck : p.Stuck drives) :
    (p.throw drives s up).Stuck drives ∨ (p.throw drives s up).Stranded := by
  obtain ⟨l, lit, t, on, other⟩ := stuck
  by_cases own : drives s = l
  · have apart : t ≠ s := fun same => other (same ▸ own)
    exact .inl ⟨l, .inl ⟨own.symm, t, .inr ⟨apart, on⟩⟩, t, .inr ⟨apart, on⟩, other⟩
  · have still : l ∈ (p.throw drives s up).lit := .inr ⟨fun same => own same.symm, lit⟩
    by_cases left : ∃ u, u ∈ (p.throw drives s up).on
    · obtain ⟨u, on'⟩ := left
      by_cases elsewhere : drives u = l
      · -- the switch that is left drives `l`, and the line just written is lit as well
        exact .inl ⟨drives s, .inl ⟨rfl, u, on'⟩, u, on', fun same => own (same.symm.trans elsewhere)⟩
      · exact .inl ⟨l, still, u, on', elsewhere⟩
    · exact .inr ⟨Set.eq_empty_iff_forall_notMem.mpr (fun u on' => left ⟨u, on'⟩), l, still⟩

namespace Shutdown

variable {q : Panel S L} {order : List S}

theorem off_of_mem (down : Shutdown drives p order q) :
    (∀ t ∈ q.on, t ∈ p.on) ∧ ∀ t ∈ order, t ∉ q.on := by
  induction down with
  | nil p => exact ⟨fun t on => on, fun t member => absurd member List.not_mem_nil⟩
  | @skip p q s rest already _ ih =>
    refine ⟨ih.1, fun t member on => ?_⟩
    rcases List.mem_cons.mp member with rfl | member
    · exact already (ih.1 t on)
    · exact ih.2 t member on
  | @off p q s rest _ _ ih =>
    have less : ∀ t ∈ q.on, t ≠ s ∧ t ∈ p.on := by
      intro t on
      rcases ih.1 t on with ⟨-, impossible⟩ | kept
      · exact absurd impossible not_false
      · exact kept
    refine ⟨fun t on => (less t on).2, fun t member on => ?_⟩
    rcases List.mem_cons.mp member with rfl | member
    · exact (less t on).1 rfl
    · exact ih.2 t member on

theorem empty (down : Shutdown drives p order q) (all : ∀ s, s ∈ order) : q.on = ∅ :=
  Set.eq_empty_iff_forall_notMem.mpr fun t => down.off_of_mem.2 t (all t)

/-- From a clean panel the shutdown leaves every line dark, in any order. -/
theorem clean (down : Shutdown drives p order q) (start : p.Clean drives) : q.Clean drives := by
  induction down with
  | nil p => exact start
  | skip _ _ ih => exact ih start
  | @off p q s rest on _ ih =>
    refine ih (start.throw ?_)
    rintro ⟨t, on', other⟩
    exact other (start.single t on' s on)

/-- From a stuck panel no order of shutdown puts every line out. -/
theorem stranded (down : Shutdown drives p order q) (start : p.Stuck drives ∨ p.Stranded)
    (all : q.on = ∅) : q.Stranded := by
  induction down with
  | nil p =>
    rcases start with ⟨l, -, t, on, -⟩ | stranded
    · rw [all] at on
      exact absurd on (Set.notMem_empty t)
    · exact stranded
  | skip _ _ ih => exact ih start all
  | @off p q s rest on _ ih =>
    rcases start with stuck | ⟨off, -⟩
    · exact ih stuck.throw all
    · rw [off] at on
      exact absurd on (Set.notMem_empty s)

end Shutdown
end Panel
end Foundation
