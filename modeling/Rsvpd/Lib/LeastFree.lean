import Mathlib.Data.Finset.Max

/-!
# Allocators that give the least free item

A pool holds the taken items of a finite range.  Allocation takes the least
free item of the range, and a release makes one item free again.
-/

namespace LeastFree

variable {κ : Type*} [LinearOrder κ]

structure Pool (range : Finset κ) where
  taken : Finset κ
  within : taken ⊆ range

namespace Pool

variable {range : Finset κ}

def empty : Pool range := ⟨∅, Finset.empty_subset range⟩

/-- The items that can still be taken. -/
def free (pool : Pool range) : Finset κ := range \ pool.taken

/-- Mark an item of the range as taken. -/
def take (item : κ) (inRange : item ∈ range) (pool : Pool range) :
    Pool range :=
  ⟨insert item pool.taken, Finset.insert_subset inRange pool.within⟩

theorem least_mem_range {pool : Pool range} (any : pool.free.Nonempty) :
    pool.free.min' any ∈ range :=
  (Finset.mem_sdiff.mp (pool.free.min'_mem any)).1

/-- Take the least free item; `none` and no change when all are taken. -/
def allocate (pool : Pool range) : Option κ × Pool range :=
  if any : pool.free.Nonempty then
    (some (pool.free.min' any), pool.take _ (least_mem_range any))
  else (none, pool)

/-- Make an item free; `false` and no change for an item out of range. -/
def release (item : κ) (pool : Pool range) : Bool × Pool range :=
  if item ∈ range then
    (true, ⟨pool.taken.erase item,
      (Finset.erase_subset _ _).trans pool.within⟩)
  else (false, pool)

theorem allocate_full {pool : Pool range} (full : range ⊆ pool.taken) :
    pool.allocate = (none, pool) := by
  rw [allocate, dif_neg]
  rw [free, Finset.sdiff_eq_empty_iff_subset.mpr full]
  exact Finset.not_nonempty_empty

theorem allocate_least {pool : Pool range} {item : κ}
    (inRange : item ∈ range) (isFree : item ∉ pool.taken)
    (least : ∀ other ∈ range, other < item → other ∈ pool.taken) :
    pool.allocate = (some item, pool.take item inRange) := by
  have member : item ∈ pool.free := Finset.mem_sdiff.mpr ⟨inRange, isFree⟩
  have same : pool.free.min' ⟨item, member⟩ = item := by
    apply le_antisymm (Finset.min'_le _ _ member)
    apply Finset.le_min'
    intro other otherFree
    obtain ⟨otherRange, otherNot⟩ := Finset.mem_sdiff.mp otherFree
    by_contra below
    exact otherNot (least other otherRange (not_le.mp below))
  rw [allocate, dif_pos ⟨item, member⟩]
  simp only [same]

theorem card_allocate {pool : Pool range}
    (room : pool.taken.card < range.card) :
    pool.allocate.2.taken.card = pool.taken.card + 1 := by
  have any : pool.free.Nonempty := by
    rw [free, Finset.sdiff_nonempty]
    intro all
    exact absurd (Finset.card_le_card all) (not_le.mpr room)
  rw [allocate, dif_pos any]
  exact Finset.card_insert_of_notMem
    (Finset.mem_sdiff.mp (pool.free.min'_mem any)).2

@[simp] theorem mem_take {pool : Pool range} {item other : κ}
    (inRange : item ∈ range) :
    other ∈ (pool.take item inRange).taken ↔
      other = item ∨ other ∈ pool.taken :=
  Finset.mem_insert

theorem mem_release {pool : Pool range} {item other : κ} :
    other ∈ (pool.release item).2.taken ↔
      other ≠ item ∧ other ∈ pool.taken := by
  by_cases inRange : item ∈ range
  · rw [release, if_pos inRange]
    exact Finset.mem_erase
  · rw [release, if_neg inRange]
    refine ⟨fun member => ⟨?_, member⟩, And.right⟩
    rintro rfl
    exact inRange (pool.within member)

end Pool

end LeastFree
