import Mathlib.Logic.Relation
import Mathlib.Algebra.Ring.Nat

/-!
# Objects on a heap

A `Heap` holds the objects that are alive.  An object gets an address that no
object had before it, so an address that was freed stays dead.  A pointer that
is none is null.
-/

/-- Objects that are alive, by address.  Nothing lives from `next` on. -/
structure Heap (α : Type) where
  cell : Nat → Option α
  next : Nat
  unused : ∀ p, next ≤ p → cell p = none

namespace Heap

variable {α : Type} {h : Heap α} {a b : α} {p q : Nat}

def empty : Heap α := ⟨fun _ => none, 0, fun _ _ => rfl⟩

/-- `new`; the object is at the address `h.next`. -/
def alloc (h : Heap α) (a : α) : Heap α where
  cell p := if p = h.next then some a else h.cell p
  next := h.next + 1
  unused p le := by
    have after : p ≠ h.next := by omega
    rw [if_neg after]
    exact h.unused p (by omega)

/-- `delete` -/
def free (h : Heap α) (p : Nat) : Heap α where
  cell q := if q = p then none else h.cell q
  next := h.next
  unused q le := by
    by_cases same : q = p
    · rw [if_pos same]
    · rw [if_neg same]
      exact h.unused q le

/-- The object behind a pointer: none of the null pointer and of one that was freed. -/
def deref (h : Heap α) : Option Nat → Option α
  | none => none
  | some p => h.cell p

@[simp] theorem deref_null : h.deref none = none := rfl

@[simp] theorem deref_some : h.deref (some p) = h.cell p := rfl

@[simp] theorem cell_alloc_next : (h.alloc a).cell h.next = some a := if_pos rfl

/-- An object that is alive is not at the next address. -/
theorem ne_next (alive : h.cell p = some b) : p ≠ h.next := by
  intro same
  rw [h.unused p (by omega)] at alive
  cases alive

theorem cell_alloc (alive : h.cell p = some b) : (h.alloc a).cell p = some b :=
  (if_neg (ne_next alive)).trans alive

theorem cell_free_of_ne (other : q ≠ p) : (h.free p).cell q = h.cell q := if_neg other


end Heap
