import Mathlib.Data.List.Induction
import Mathlib.Tactic.Common

/-!
# Records read in turn

A reader takes a record when its header and the length that the header states
fit in front of the end, and goes on behind it.  Whatever the bytes are, it
stops, and what it has taken lies inside.
-/

universe u

namespace Framing

/-- The header of a record, and the way from a record of a given length to the
next. -/
structure Layout where
  header : Nat
  headerPositive : 0 < header
  advance : Nat → Nat
  covers : ∀ length, length ≤ advance length

namespace Layout

section Records

variable (layout : Layout) (lengthAt : Nat → Nat) (stop : Nat)

/-- The record at a position is whole. -/
def Fits (start : Nat) : Prop :=
  start + layout.header ≤ stop ∧ layout.header ≤ lengthAt start ∧
    start + lengthAt start ≤ stop

instance (start : Nat) : Decidable (layout.Fits lengthAt stop start) :=
  inferInstanceAs (Decidable (_ ∧ _))

theorem Fits.mono {layout : Layout} {lengthAt : Nat → Nat}
    {stop further start : Nat} (fits : layout.Fits lengthAt stop start)
    (le : stop ≤ further) : layout.Fits lengthAt further start :=
  ⟨Nat.le_trans fits.1 le, fits.2.1, Nat.le_trans fits.2.2 le⟩

/-- The records that are taken from a position on. -/
def records (start : Nat) : List Nat :=
  if _ : layout.Fits lengthAt stop start then
    start :: records (start + layout.advance (lengthAt start))
  else []
termination_by stop - start
decreasing_by
  have positive := layout.headerPositive
  have covers := layout.covers (lengthAt start)
  obtain ⟨header, long, _⟩ := ‹layout.Fits lengthAt stop start›
  omega

variable {layout lengthAt stop} {start : Nat}

theorem records_of_fits (fits : layout.Fits lengthAt stop start) :
    layout.records lengthAt stop start =
      start :: layout.records lengthAt stop
        (start + layout.advance (lengthAt start)) := by
  rw [records, dif_pos fits]

theorem records_of_not_fits (misfit : ¬layout.Fits lengthAt stop start) :
    layout.records lengthAt stop start = [] := by
  rw [records, dif_neg misfit]

theorem fits_of_mem_records {record : Nat}
    (member : record ∈ layout.records lengthAt stop start) :
    start ≤ record ∧ layout.Fits lengthAt stop record := by
  induction start using records.induct layout lengthAt stop with
  | case1 start fits ih =>
      rw [records_of_fits fits] at member
      rcases List.mem_cons.mp member with rfl | later
      · exact ⟨Nat.le_refl record, fits⟩
      · obtain ⟨behind, whole⟩ := ih later
        exact ⟨Nat.le_trans (Nat.le_add_right start _) behind, whole⟩
  | case2 start misfit =>
      rw [records_of_not_fits misfit] at member
      exact absurd member List.not_mem_nil

variable (layout lengthAt stop start) in
theorem header_mul_records_length_le :
    layout.header * (layout.records lengthAt stop start).length ≤
      stop - start := by
  induction start using records.induct layout lengthAt stop with
  | case1 start fits ih =>
      have covers := layout.covers (lengthAt start)
      obtain ⟨header, long, _⟩ := id fits
      rw [records_of_fits fits, List.length_cons, Nat.mul_succ]
      omega
  | case2 start misfit =>
      rw [records_of_not_fits misfit]
      exact Nat.zero_le _

end Records

end Layout

section Kinds

variable {α : Type u} (kind : α → Nat)

/-- The last item of one kind. -/
def lastOfKind (slot : Nat) (items : List α) : Option α :=
  (items.filter fun item => kind item = slot).getLast?

/-- Note an item in the slot of its kind, if there is one. -/
def note (slots : List (Option α)) (item : α) : List (Option α) :=
  slots.set (kind item) (some item)

@[simp] theorem length_note (slots : List (Option α)) (item : α) :
    (note kind slots item).length = slots.length :=
  List.length_set

theorem lastOfKind_concat (slot : Nat) (items : List α) (item : α) :
    lastOfKind kind slot (items ++ [item]) =
      if kind item = slot then some item else lastOfKind kind slot items := by
  unfold lastOfKind
  rw [List.filter_append]
  split_ifs with same <;> simp [same]

@[simp] theorem length_foldl_note (slots : List (Option α))
    (items : List α) :
    (items.foldl (note kind) slots).length = slots.length := by
  induction items generalizing slots with
  | nil => rfl
  | cons item items ih =>
      rw [List.foldl_cons, ih, length_note]

/-- Empty slots in which every item was noted tell the last item of each
kind. -/
theorem getElem?_foldl_note {slot count : Nat} (inside : slot < count)
    (items : List α) :
    (items.foldl (note kind) (List.replicate count none))[slot]? =
      some (lastOfKind kind slot items) := by
  induction items using List.reverseRecOn with
  | nil => simp [lastOfKind, inside]
  | append_singleton items item ih =>
      rw [List.foldl_append, List.foldl_cons, List.foldl_nil, note,
        lastOfKind_concat, List.getElem?_set]
      split_ifs with same outside
      · rfl
      · rw [length_foldl_note, List.length_replicate, same] at outside
        exact absurd inside outside
      · exact ih

end Kinds

end Framing
