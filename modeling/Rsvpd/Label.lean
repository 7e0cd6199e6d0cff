import Rsvpd.Lib.PackedBits
import Rsvpd.Record

/-!
# The label allocator

`label_mgt.c` keeps the allocated labels in `label_bitmap`, 32 to a word.
-/

namespace Rsvpd

def labelMin : Nat := 16
def labelMax : Nat := 65535
def labelCount : Nat := labelMax - labelMin + 1
def bitmapWords : Nat := (labelCount + 31) / 32

abbrev LabelBitmap := PackedBits 32 bitmapWords

def LabelBitmap.empty : LabelBitmap := fun _ => 0

theorem word_inRange {index : Nat} (inRange : index < labelCount) :
    index / 32 < bitmapWords := by
  unfold bitmapWords
  omega

/-- The loop of `allocate_label` with `remaining` values of `i` to go. -/
def allocateLabelLoop (bitmap : LabelBitmap) : Nat → U32 × LabelBitmap
  | 0 => (-1, bitmap)
  | remaining + 1 =>
      let i := labelCount - (remaining + 1)
      have inRange : i < labelCount := Nat.sub_lt (by decide) (by omega)
      let word : Fin bitmapWords := ⟨i / 32, word_inRange inRange⟩
      if bitmap word &&& PackedBits.mask 32 i = 0 then
        (BitVec.ofNat 32 (labelMin + i),
          Function.update bitmap word
            (bitmap word ||| PackedBits.mask 32 i))
      else
        allocateLabelLoop bitmap remaining

def allocateLabel (bitmap : LabelBitmap) : U32 × LabelBitmap :=
  allocateLabelLoop bitmap labelCount

def freeLabel (label : U32) (bitmap : LabelBitmap) : U8 × LabelBitmap :=
  if inRange : labelMin ≤ label.toNat ∧ label.toNat ≤ labelMax then
    let index := label.toNat - labelMin
    let word : Fin bitmapWords := ⟨index / 32, word_inRange (by
      unfold index labelCount
      omega)⟩
    (1, Function.update bitmap word
      (bitmap word &&& ~~~PackedBits.mask 32 index))
  else
    (0, bitmap)

/-- Is the label marked allocated in the bitmap? -/
def isAllocated (bitmap : LabelBitmap) (label : U32) : Bool :=
  decide (labelMin ≤ label.toNat) && decide (label.toNat ≤ labelMax) &&
    PackedBits.bit bitmap (label.toNat - labelMin)

theorem isAllocated_range {bitmap : LabelBitmap} {label : U32}
    (allocated : isAllocated bitmap label = true) :
    labelMin ≤ label.toNat ∧ label.toNat ≤ labelMax := by
  simp only [isAllocated, Bool.and_eq_true, decide_eq_true_eq] at allocated
  exact allocated.1

@[simp] theorem isAllocated_empty (label : U32) :
    isAllocated LabelBitmap.empty label = false := by
  simp [isAllocated, PackedBits.bit, LabelBitmap.empty]

/-- What `allocate_label` may do: find the least free label and mark it, or
fail because every label is taken. -/
inductive Allocates (bitmap : LabelBitmap) : U32 × LabelBitmap → Prop where
  | full (taken : ∀ label : U32, labelMin ≤ label.toNat →
        label.toNat ≤ labelMax → isAllocated bitmap label = true) :
      Allocates bitmap (-1, bitmap)
  | fresh (label : U32) (bitmap' : LabelBitmap)
      (low : labelMin ≤ label.toNat) (high : label.toNat ≤ labelMax)
      (free : isAllocated bitmap label = false)
      (least : ∀ other : U32, labelMin ≤ other.toNat →
        other.toNat < label.toNat → isAllocated bitmap other = true)
      (marked : ∀ other, isAllocated bitmap' other =
        (decide (other = label) || isAllocated bitmap other)) :
      Allocates bitmap (label, bitmap')

private theorem label_le {index : Nat} (inRange : index < labelCount) :
    labelMin + index ≤ labelMax := by
  unfold labelCount labelMin labelMax at *
  omega

private theorem label_toNat {index : Nat} (inRange : index < labelCount) :
    (BitVec.ofNat 32 (labelMin + index)).toNat = labelMin + index := by
  have small : labelMax < 2 ^ 32 := by decide
  rw [BitVec.toNat_ofNat]
  exact Nat.mod_eq_of_lt (Nat.lt_of_le_of_lt (label_le inRange) small)

private theorem bit_label {index : Nat} (inRange : index < labelCount)
    (bitmap : LabelBitmap) :
    isAllocated bitmap (BitVec.ofNat 32 (labelMin + index)) =
      PackedBits.bit bitmap index := by
  simp [isAllocated, label_toNat inRange, label_le inRange]

theorem allocateLabelLoop_allocates (bitmap : LabelBitmap) (remaining : Nat)
    (bound : remaining ≤ labelCount)
    (taken : ∀ label : U32, labelMin ≤ label.toNat →
      label.toNat < labelMin + (labelCount - remaining) →
        isAllocated bitmap label = true) :
    Allocates bitmap (allocateLabelLoop bitmap remaining) := by
  induction remaining with
  | zero =>
      apply Allocates.full
      intro label low high
      apply taken label low
      unfold labelCount labelMin labelMax at *
      omega
  | succ remaining ih =>
      have inRange : labelCount - (remaining + 1) < labelCount :=
        Nat.sub_lt (by decide) (by omega)
      generalize hIndex : labelCount - (remaining + 1) = index at *
      have labelNat := label_toNat inRange
      have bitHere := bit_label inRange bitmap
      simp only [allocateLabelLoop, hIndex]
      split
      case isTrue clear =>
        rw [PackedBits.and_mask_eq_zero_iff (by decide)] at clear
        apply Allocates.fresh
        · omega
        · rw [labelNat]
          exact label_le inRange
        · rw [bitHere, PackedBits.bit, dif_pos (word_inRange inRange), clear]
        · intro other low below
          rw [labelNat] at below
          exact taken other low below
        · intro other
          simp only [isAllocated]
          rw [PackedBits.bit_set (by decide)]
          by_cases same : other = BitVec.ofNat 32 (labelMin + index)
          · subst same
            simp [labelNat, label_le inRange]
          · by_cases low : labelMin ≤ other.toNat
            · have different : other.toNat - labelMin ≠ index := by
                intro sameIndex
                apply same
                apply BitVec.eq_of_toNat_eq
                omega
              simp [same, different]
            · simp [same, low]
      case isFalse set =>
        rw [PackedBits.and_mask_eq_zero_iff (by decide)] at set
        apply ih (by omega)
        intro label low below
        by_cases earlier : label.toNat < labelMin + index
        · exact taken label low earlier
        · have here : label = BitVec.ofNat 32 (labelMin + index) := by
            apply BitVec.eq_of_toNat_eq
            omega
          rw [here, bitHere, PackedBits.bit,
            dif_pos (word_inRange inRange)]
          simpa using set

theorem allocateLabel_allocates (bitmap : LabelBitmap) :
    Allocates bitmap (allocateLabel bitmap) := by
  apply allocateLabelLoop_allocates bitmap labelCount (Nat.le_refl _)
  intro label low below
  omega

theorem freeLabel_isAllocated (label other : U32) (bitmap : LabelBitmap) :
    isAllocated (freeLabel label bitmap).2 other =
      (decide (other ≠ label) && isAllocated bitmap other) := by
  by_cases inRange : labelMin ≤ label.toNat ∧ label.toNat ≤ labelMax
  · rw [freeLabel, dif_pos inRange]
    simp only [isAllocated]
    rw [PackedBits.bit_clear (by decide)]
    by_cases same : other = label
    · simp [same]
    · by_cases low : labelMin ≤ other.toNat
      · have different : other.toNat - labelMin ≠ label.toNat - labelMin := by
          intro sameIndex
          apply same
          apply BitVec.eq_of_toNat_eq
          omega
        simp [same, different]
      · simp [low]
  · rw [freeLabel, dif_neg inRange]
    by_cases same : other = label
    · subst same
      have free : isAllocated bitmap other = false := by
        by_contra allocated
        apply inRange
        exact isAllocated_range (by simpa using allocated)
      simp [free]
    · simp [same]

end Rsvpd
