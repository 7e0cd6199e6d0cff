import Mathlib.Data.Fintype.EquivFin
import Mathlib.Data.List.Nodup
import Rsvpd.Lib.Heap

/-!
# Singly linked lists in memory

A list in memory is told by its cells, each the address and the content of a
link.  A segment is a part of a list in front of a pointer; a whole list ends
in front of the null pointer, and then no address occurs twice in it.
-/

universe u

/-- A cell of a linked list. -/
structure Link (α : Type u) where
  content : α
  next : Pointer
deriving DecidableEq

namespace LinkedList

variable {α : Type u}

/-- The addresses and contents of a list, from its first cell on. -/
abbrev Cells (α : Type u) := List (Nat × α)

def addresses (cells : Cells α) : List Nat := cells.map Prod.fst

def contents (cells : Cells α) : List α := cells.map Prod.snd

/-- The pointer to the first cell, or to what lies behind them. -/
def entry : Cells α → Pointer → Pointer
  | [], stop => stop
  | cell :: _, _ => some cell.1

/-- The pointer to the last cell. -/
def final (cells : Cells α) : Pointer := cells.getLast?.map Prod.fst

/-- The cells lie in memory, linked up to the pointer `stop`. -/
def Segment (heap : Heap (Link α)) : Cells α → Pointer → Prop
  | [], _ => True
  | cell :: rest, stop =>
      heap cell.1 = some ⟨cell.2, entry rest stop⟩ ∧ Segment heap rest stop

@[simp] theorem addresses_nil : addresses ([] : Cells α) = [] := rfl

@[simp] theorem addresses_cons (cell : Nat × α) (cells : Cells α) :
    addresses (cell :: cells) = cell.1 :: addresses cells := rfl

@[simp] theorem addresses_append (front back : Cells α) :
    addresses (front ++ back) = addresses front ++ addresses back :=
  List.map_append

@[simp] theorem contents_nil : contents ([] : Cells α) = [] := rfl

@[simp] theorem contents_cons (cell : Nat × α) (cells : Cells α) :
    contents (cell :: cells) = cell.2 :: contents cells := rfl

@[simp] theorem contents_append (front back : Cells α) :
    contents (front ++ back) = contents front ++ contents back :=
  List.map_append

@[simp] theorem entry_cons (cell : Nat × α) (cells : Cells α)
    (stop : Pointer) : entry (cell :: cells) stop = some cell.1 := rfl

@[simp] theorem entry_append (front back : Cells α) (stop : Pointer) :
    entry (front ++ back) stop = entry front (entry back stop) := by
  cases front <;> rfl

theorem entry_congr {cells cells' : Cells α} {stop : Pointer}
    (same : addresses cells' = addresses cells) :
    entry cells' stop = entry cells stop := by
  cases cells with
  | nil =>
      rw [addresses_nil, addresses, List.map_eq_nil_iff] at same
      rw [same]
  | cons cell cells =>
      cases cells' with
      | nil => cases same
      | cons cell' cells' => exact congrArg some (List.cons.inj same).1

@[simp] theorem final_concat (cells : Cells α) (cell : Nat × α) :
    final (cells ++ [cell]) = some cell.1 := by
  rw [final, List.getLast?_concat, Option.map_some]

section Segments

variable {heap after : Heap (Link α)} {cells front back : Cells α}
  {cell : Nat × α} {stop : Pointer}

@[simp] theorem segment_nil : Segment heap [] stop := trivial

theorem segment_cons :
    Segment heap (cell :: cells) stop ↔
      heap cell.1 = some ⟨cell.2, entry cells stop⟩ ∧
        Segment heap cells stop := Iff.rfl

theorem segment_append :
    Segment heap (front ++ back) stop ↔
      Segment heap front (entry back stop) ∧ Segment heap back stop := by
  induction front with
  | nil => simp
  | cons cell front ih =>
      rw [List.cons_append, segment_cons, segment_cons, entry_append, ih,
        and_assoc]

theorem Segment.frame (segment : Segment heap cells stop)
    (same : ∀ address ∈ addresses cells, after address = heap address) :
    Segment after cells stop := by
  induction cells with
  | nil => exact segment_nil
  | cons cell cells ih =>
      rw [addresses_cons, List.forall_mem_cons] at same
      exact ⟨same.1.trans segment.1, ih segment.2 same.2⟩

theorem Segment.read (segment : Segment heap (front ++ cell :: back) stop) :
    heap cell.1 = some ⟨cell.2, entry back stop⟩ :=
  (segment_append.mp segment).2.1

theorem Segment.isSome (segment : Segment heap cells stop) {address : Nat}
    (member : address ∈ addresses cells) : (heap address).isSome := by
  obtain ⟨cell, inside, rfl⟩ := List.mem_map.mp member
  obtain ⟨front, back, rfl⟩ := List.append_of_mem inside
  rw [segment.read]
  rfl

theorem Segment.unique {other : Cells α} (list : Segment heap cells none)
    (otherList : Segment heap other none)
    (same : entry cells none = entry other none) : cells = other := by
  induction cells generalizing other with
  | nil =>
      cases other with
      | nil => rfl
      | cons cell other => cases same
  | cons cell cells ih =>
      cases other with
      | nil => cases same
      | cons otherCell other =>
          obtain ⟨address, content⟩ := cell
          obtain ⟨otherAddress, otherContent⟩ := otherCell
          cases same
          obtain ⟨here, rest⟩ := list
          obtain ⟨otherHere, otherRest⟩ := otherList
          obtain ⟨rfl, further⟩ := Link.mk.inj
            (Option.some.inj (here.symm.trans otherHere))
          rw [ih rest otherRest further]

theorem Segment.nodup (list : Segment heap cells none) :
    (addresses cells).Nodup := by
  induction cells with
  | nil => exact List.nodup_nil
  | cons cell cells ih =>
      refine List.nodup_cons.mpr ⟨?_, ih list.2⟩
      intro again
      obtain ⟨other, member, same⟩ := List.mem_map.mp again
      obtain ⟨front, back, rfl⟩ := List.append_of_mem member
      have tail := (segment_append.mp list.2).2
      have equal := list.unique tail (by simp [same])
      have lengths := congrArg List.length equal
      simp only [List.length_cons, List.length_append] at lengths
      omega

theorem Segment.relink {rest : Cells α}
    (segment : Segment heap (front ++ cell :: back) stop)
    (further : Segment heap rest stop) (content : α)
    (notInFront : cell.1 ∉ addresses front)
    (notBehind : cell.1 ∉ addresses rest) :
    Segment (heap.write cell.1 ⟨content, entry rest stop⟩)
      (front ++ (cell.1, content) :: rest) stop := by
  have others {cells : Cells α} (outside : cell.1 ∉ addresses cells) :
      ∀ address ∈ addresses cells,
        heap.write cell.1 ⟨content, entry rest stop⟩ address =
          heap address := by
    intro address member
    exact heap.write_other _ fun same => outside (same ▸ member)
  refine segment_append.mpr ⟨?_, ?_, ?_⟩
  · exact (segment_append.mp segment).1.frame (others notInFront)
  · exact heap.write_self _ _
  · exact further.frame (others notBehind)

end Segments

/-- Any contents can be put into memory as a list, away from the cells in
use. -/
theorem exists_segment (heap : Heap (Link α)) (used : List Nat)
    (items : List α) :
    ∃ after cells, contents cells = items ∧ Segment after cells none ∧
      List.Disjoint (addresses cells) used ∧
      Heap.Kept (addresses cells) heap after := by
  induction items with
  | nil => exact ⟨heap, [], rfl, segment_nil, nofun, .refl _ _⟩
  | cons item items ih =>
      obtain ⟨after, cells, shape, list, apart, kept⟩ := ih
      obtain ⟨address, fresh⟩ :=
        Infinite.exists_notMem_finset (used ++ addresses cells).toFinset
      rw [List.mem_toFinset, List.mem_append, not_or] at fresh
      obtain ⟨unused, notInside⟩ := fresh
      refine ⟨after.write address ⟨item, entry cells none⟩,
        (address, item) :: cells, ?_, ⟨?_, ?_⟩, ?_, ?_⟩
      · rw [contents_cons, shape]
      · exact after.write_self _ _
      · exact list.frame fun other member =>
          after.write_other _ fun same => notInside (same ▸ member)
      · rw [addresses_cons, List.disjoint_cons_left]
        exact ⟨unused, apart⟩
      · rw [addresses_cons]
        exact (kept.mono fun _ => List.mem_cons_of_mem _).trans
          (.write List.mem_cons_self _ _)

end LinkedList
