import Mathlib.Logic.Function.Basic
import Mathlib.Tactic.Common

/-!
# Memory made of cells

A heap gives the cell at each address, or `none` where no cell can be read.
Programs over it live in `Option`, and a program is described by what it leaves
at the addresses of its footprint and by `Kept` for all others.
-/

universe u

/-- A pointer to a cell; `none` is the null pointer. -/
abbrev Pointer := Option Nat

/-- The cell at each address. -/
abbrev Heap (Cell : Type u) := Nat → Option Cell

namespace Heap

variable {Cell : Type u}

/-- Store one cell. -/
def write (heap : Heap Cell) (address : Nat) (cell : Cell) : Heap Cell :=
  Function.update heap address (some cell)

@[simp] theorem write_self (heap : Heap Cell) (address : Nat) (cell : Cell) :
    heap.write address cell address = some cell :=
  Function.update_self ..

theorem write_other (heap : Heap Cell) {address other : Nat} (cell : Cell)
    (different : other ≠ address) :
    heap.write address cell other = heap other :=
  Function.update_of_ne different ..

/-- The two heaps agree outside a footprint. -/
def Kept (footprint : List Nat) (before after : Heap Cell) : Prop :=
  ∀ address, address ∉ footprint → after address = before address

namespace Kept

variable {footprint wider : List Nat} {first second third : Heap Cell}

theorem refl (footprint : List Nat) (heap : Heap Cell) :
    Kept footprint heap heap := fun _ _ => rfl

theorem mono (kept : Kept footprint first second)
    (inside : ∀ address ∈ footprint, address ∈ wider) :
    Kept wider first second :=
  fun address outside => kept address (mt (inside address) outside)

theorem trans (one : Kept footprint first second)
    (two : Kept footprint second third) : Kept footprint first third :=
  fun address outside =>
    (two address outside).trans (one address outside)

theorem write {address : Nat} (member : address ∈ footprint)
    (heap : Heap Cell) (cell : Cell) :
    Kept footprint heap (heap.write address cell) := by
  intro other outside
  apply heap.write_other cell
  rintro rfl
  exact outside member

end Kept

/-- The heap without some cells. -/
def clear (heap : Heap Cell) (gone : List Nat) : Heap Cell :=
  fun address => if address ∈ gone then none else heap address

/-- Give one cell back.  Where there is no cell, nothing can be given back, so
a second `free` of one address fails. -/
def free (heap : Heap Cell) (address : Nat) : Option (Heap Cell) := do
  let _ ← heap address
  return heap.clear [address]

@[simp] theorem clear_nil (heap : Heap Cell) : heap.clear [] = heap := by
  funext address
  simp [clear]

theorem clear_of_mem {heap : Heap Cell} {gone : List Nat} {address : Nat}
    (member : address ∈ gone) : heap.clear gone address = none :=
  if_pos member

theorem clear_of_not_mem {heap : Heap Cell} {gone : List Nat}
    {address : Nat} (outside : address ∉ gone) :
    heap.clear gone address = heap address :=
  if_neg outside

theorem clear_clear (heap : Heap Cell) (first second : List Nat) :
    (heap.clear first).clear second = heap.clear (first ++ second) := by
  funext address
  simp only [clear, List.mem_append]
  split_ifs with inSecond inBoth inBoth inFirst inFirst <;> grind

theorem clear_congr (heap : Heap Cell) {first second : List Nat}
    (same : first.Perm second) : heap.clear first = heap.clear second := by
  funext address
  simp only [clear, same.mem_iff]

theorem free_eq {heap : Heap Cell} {address : Nat} {cell : Cell}
    (allocated : heap address = some cell) :
    heap.free address = some (heap.clear [address]) := by
  simp [free, allocated]

theorem Kept.clear (heap : Heap Cell) (gone : List Nat) :
    Kept gone heap (heap.clear gone) :=
  fun _ outside => clear_of_not_mem outside

end Heap
