import Mathlib.Logic.Function.Basic
import Mathlib.Data.Nat.Notation

/-!
# Mutable objects

The objects of a device live in a heap: an object is referred to by its index,
and is never removed. `Heap.Evolves R` compares two states of a heap: every
object is still there and has changed only as `R` allows.
-/

/-- A heap of mutable objects. -/
structure Heap (α : Type) where
  /-- how many objects have been allocated -/
  size : ℕ
  /-- the object with a given reference -/
  get : ℕ → α

namespace Heap

variable {α : Type}

/-- The heap with no object in it. -/
def empty [Inhabited α] : Heap α := ⟨0, fun _ => default⟩

/-- Allocate an object; its reference is the old size. -/
def alloc (h : Heap α) (a : α) : Heap α := ⟨h.size + 1, Function.update h.get h.size a⟩

/-- Change the object at `i`. -/
def modify (h : Heap α) (i : ℕ) (f : α → α) : Heap α :=
  { h with get := Function.update h.get i (f (h.get i)) }

@[simp] theorem size_alloc (h : Heap α) (a : α) : (h.alloc a).size = h.size + 1 := rfl

@[simp] theorem size_modify (h : Heap α) (i : ℕ) (f : α → α) : (h.modify i f).size = h.size := rfl

theorem get_alloc (h : Heap α) (a : α) (j : ℕ) :
    (h.alloc a).get j = if j = h.size then a else h.get j := by
  simp [alloc, Function.update_apply]

theorem get_modify (h : Heap α) (i : ℕ) (f : α → α) (j : ℕ) :
    (h.modify i f).get j = if j = i then f (h.get i) else h.get j := by
  simp only [modify, Function.update_apply]

/-- What holds of all objects after an allocation. -/
theorem forall_alloc {h : Heap α} {a : α} {p : α → Prop} (hh : ∀ i < h.size, p (h.get i))
    (ha : p a) : ∀ i < (h.alloc a).size, p ((h.alloc a).get i) := by
  intro i hi
  rw [get_alloc]
  split
  · exact ha
  · exact hh i (by rw [size_alloc] at hi; omega)

/-- What holds of all objects after a change. -/
theorem forall_modify {h : Heap α} {j : ℕ} {f : α → α} {p : α → Prop}
    (hh : ∀ i < h.size, p (h.get i)) (hf : j < h.size → p (h.get j) → p (f (h.get j))) :
    ∀ i < (h.modify j f).size, p ((h.modify j f).get i) := by
  intro i hi
  rw [get_modify]
  split
  · next he => subst he; exact hf hi (hh i hi)
  · exact hh i hi

section Each

variable {R : α → α → Prop} (hR : ∀ a, R a a) (h : Heap α)
include hR

/-- One object changes as `R` allows. -/
theorem each_modify (i : ℕ) {f : α → α} (hf : R (h.get i) (f (h.get i))) (j : ℕ) :
    R (h.get j) ((h.modify i f).get j) := by
  rw [get_modify]
  split
  · next he => subst he; exact hf
  · exact hR _

/-- Every object may become the new one. -/
theorem each_alloc {a : α} (ha : ∀ b, R b a) (j : ℕ) : R (h.get j) ((h.alloc a).get j) := by
  rw [get_alloc]
  split
  · exact ha _
  · exact hR _

end Each

/-- Every object is still there and has changed only as `R` allows. -/
def Evolves (R : α → α → Prop) (h h' : Heap α) : Prop :=
  h.size ≤ h'.size ∧ ∀ i < h.size, R (h.get i) (h'.get i)

variable {R : α → α → Prop} {h h' h'' : Heap α}

theorem Evolves.refl (hR : ∀ a, R a a) (h : Heap α) : Evolves R h h :=
  ⟨Nat.le_refl _, fun _ _ => hR _⟩

theorem Evolves.trans (hR : ∀ {a b c}, R a b → R b c → R a c) (h₁ : Evolves R h h')
    (h₂ : Evolves R h' h'') : Evolves R h h'' :=
  ⟨Nat.le_trans h₁.1 h₂.1, fun i hi => hR (h₁.2 i hi) (h₂.2 i (Nat.lt_of_lt_of_le hi h₁.1))⟩

theorem evolves_alloc (hR : ∀ a, R a a) (h : Heap α) (a : α) : Evolves R h (h.alloc a) := by
  refine ⟨Nat.le_succ _, ?_⟩
  intro i hi
  rw [get_alloc, if_neg (Nat.ne_of_lt hi)]
  exact hR _

theorem evolves_modify (hR : ∀ a, R a a) (h : Heap α) (i : ℕ) {f : α → α}
    (hf : R (h.get i) (f (h.get i))) : Evolves R h (h.modify i f) :=
  ⟨Nat.le_refl _, fun j _ => each_modify hR h i hf j⟩

end Heap
