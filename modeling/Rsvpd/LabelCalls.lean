import Rsvpd.Label
import Rsvpd.Lib.LeastFree
import Mathlib.Order.Interval.Finset.Nat

/-!
# Histories of the label allocator

A history is any sequence of `allocate_label` and `free_label` calls on an
array that starts as zeros.  Here the array is a list of words, and an access
outside of it has no result.
-/

namespace Rsvpd

open LeastFree

/-- The loop of `allocate_label` with `remaining` values of `i` to go. -/
def allocateWordsLoop (words : List U32) :
    Nat → Option (U32 × List U32)
  | 0 => some (-1, words)
  | remaining + 1 => do
      let i := labelCount - (remaining + 1)
      let word ← words[i / 32]?
      if word &&& PackedBits.mask 32 i = 0 then
        some (BitVec.ofNat 32 (labelMin + i),
          words.set (i / 32) (word ||| PackedBits.mask 32 i))
      else
        allocateWordsLoop words remaining

def allocateWords (words : List U32) : Option (U32 × List U32) :=
  allocateWordsLoop words labelCount

def freeWords (label : U32) (words : List U32) :
    Option (U8 × List U32) :=
  if label.toNat < labelMin ∨ label.toNat > labelMax then some (0, words)
  else do
    let index := label.toNat - labelMin
    let word ← words[index / 32]?
    some (1, words.set (index / 32) (word &&& ~~~PackedBits.mask 32 index))

inductive LabelCall where
  | allocate
  | free (label : U32)

/-- What a call returns. -/
inductive LabelAnswer where
  | allocated (label : U32)
  | freed (ret : U8)
deriving DecidableEq

/-- One call; `none` when it reads or writes outside the array. -/
def LabelCall.onWords (words : List U32) :
    LabelCall → Option (LabelAnswer × List U32)
  | .allocate => (allocateWords words).map (Prod.map .allocated id)
  | .free label => (freeWords label words).map (Prod.map .freed id)

/-- The answers of a history, and the array after it. -/
def runLabelCalls : List LabelCall → List U32 →
    Option (List LabelAnswer × List U32)
  | [], words => some ([], words)
  | call :: calls, words => do
      let (answer, words) ← call.onWords words
      let (answers, words) ← runLabelCalls calls words
      some (answer :: answers, words)

/-- The labels that can be given: 65520 of them. -/
def labelRange : Finset Nat := Finset.Icc labelMin labelMax

theorem labelRange_card : labelRange.card = 65520 := by
  simp [labelRange, labelMin, labelMax]

theorem mem_labelRange {label : Nat} :
    label ∈ labelRange ↔ labelMin ≤ label ∧ label ≤ labelMax :=
  Finset.mem_Icc

/-- One call on the set of taken labels. -/
def LabelCall.onPool (pool : Pool labelRange) :
    LabelCall → LabelAnswer × Pool labelRange
  | .allocate =>
      match pool.allocate with
      | (some label, pool) => (.allocated (BitVec.ofNat 32 label), pool)
      | (none, pool) => (.allocated 0xFFFFFFFF, pool)
  | .free label =>
      match pool.release label.toNat with
      | (true, pool) => (.freed 1, pool)
      | (false, pool) => (.freed 0, pool)

theorem LabelCall.onPool_allocate (pool : Pool labelRange) :
    (LabelCall.allocate.onPool pool).2 = pool.allocate.2 := by
  rw [onPool]
  rcases pool.allocate with ⟨_ | label, pool⟩ <;> rfl

def poolLabelCalls : List LabelCall → Pool labelRange →
    List LabelAnswer × Pool labelRange
  | [], pool => ([], pool)
  | call :: calls, pool =>
      let (answer, pool) := call.onPool pool
      let (answers, pool) := poolLabelCalls calls pool
      (answer :: answers, pool)

section Words

variable (bitmap : LabelBitmap)

theorem ofFn_word {index : Nat} (inRange : index < labelCount) :
    (List.ofFn bitmap)[index / 32]? =
      some (bitmap ⟨index / 32, word_inRange inRange⟩) := by
  rw [List.getElem?_ofFn, dif_pos (word_inRange inRange)]

theorem ofFn_set {index : Nat} (inRange : index < labelCount) (word : U32) :
    (List.ofFn bitmap).set (index / 32) word =
      List.ofFn (Function.update bitmap
        ⟨index / 32, word_inRange inRange⟩ word) := by
  apply List.ext_getElem
  · simp
  · intro position _ _
    simp only [List.getElem_set, List.getElem_ofFn, Function.update_apply,
      Fin.ext_iff, eq_comm]

theorem allocateWordsLoop_ofFn {remaining : Nat}
    (bound : remaining ≤ labelCount) :
    allocateWordsLoop (List.ofFn bitmap) remaining =
      some (Prod.map id List.ofFn (allocateLabelLoop bitmap remaining)) := by
  induction remaining with
  | zero => rfl
  | succ remaining ih =>
      have inRange : labelCount - (remaining + 1) < labelCount :=
        Nat.sub_lt (by decide) (Nat.succ_pos remaining)
      simp only [allocateWordsLoop, allocateLabelLoop,
        ofFn_word bitmap inRange, ofFn_set bitmap inRange,
        Option.bind_eq_bind, Option.bind_some]
      split
      case isTrue => rfl
      case isFalse => exact ih (Nat.le_of_succ_le bound)

theorem allocateWords_ofFn :
    allocateWords (List.ofFn bitmap) =
      some (Prod.map id List.ofFn (allocateLabel bitmap)) :=
  allocateWordsLoop_ofFn bitmap (Nat.le_refl labelCount)

theorem freeWords_ofFn (label : U32) :
    freeWords label (List.ofFn bitmap) =
      some (Prod.map id List.ofFn (freeLabel label bitmap)) := by
  rw [freeWords, freeLabel]
  by_cases inRange : labelMin ≤ label.toNat ∧ label.toNat ≤ labelMax
  · have index : label.toNat - labelMin < labelCount := by
      unfold labelCount
      omega
    rw [dif_pos inRange, if_neg (by omega)]
    simp only [ofFn_word bitmap index, ofFn_set bitmap index,
      Option.bind_eq_bind, Option.bind_some]
    rfl
  · rw [dif_neg inRange, if_pos (by omega)]
    rfl

end Words

/-- The marked labels are the taken ones. -/
def Represents (bitmap : LabelBitmap) (pool : Pool labelRange) : Prop :=
  ∀ label : U32, isAllocated bitmap label = true ↔ label.toNat ∈ pool.taken

theorem represents_empty : Represents .empty .empty := by
  intro label
  simp [Pool.empty]

section Represents

variable {bitmap : LabelBitmap} {pool : Pool labelRange}

theorem exists_label {number : Nat} (inRange : number ∈ labelRange) :
    ∃ label : U32, label.toNat = number := by
  have small : labelMax < 2 ^ 32 := by decide
  obtain ⟨_, high⟩ := mem_labelRange.mp inRange
  refine ⟨BitVec.ofNat 32 number, ?_⟩
  rw [BitVec.toNat_ofNat]
  exact Nat.mod_eq_of_lt (Nat.lt_of_le_of_lt high small)

theorem Represents.allocate (represents : Represents bitmap pool) :
    LabelAnswer.allocated (allocateLabel bitmap).1 =
        (LabelCall.allocate.onPool pool).1 ∧
      Represents (allocateLabel bitmap).2
        (LabelCall.allocate.onPool pool).2 := by
  have allocates := allocateLabel_allocates bitmap
  generalize allocateLabel bitmap = result at allocates
  cases allocates with
  | full taken =>
      have full : pool.allocate = (none, pool) := by
        apply Pool.allocate_full
        intro number inRange
        obtain ⟨label, rfl⟩ := exists_label inRange
        obtain ⟨low, high⟩ := mem_labelRange.mp inRange
        exact (represents label).mp (taken label low high)
      rw [LabelCall.onPool, full]
      exact ⟨rfl, represents⟩
  | fresh label bitmap' low high free least marked =>
      have inRange : label.toNat ∈ labelRange :=
        mem_labelRange.mpr ⟨low, high⟩
      have taken : pool.allocate =
          (some label.toNat, pool.take label.toNat inRange) := by
        apply Pool.allocate_least
        · rw [← represents, free]
          exact Bool.false_ne_true
        · intro number otherRange below
          obtain ⟨other, rfl⟩ := exists_label otherRange
          exact (represents other).mp
            (least other (mem_labelRange.mp otherRange).1 below)
      rw [LabelCall.onPool, taken]
      refine ⟨by simp, fun other => ?_⟩
      rw [marked, Bool.or_eq_true, decide_eq_true_eq, Pool.mem_take,
        represents other, BitVec.toNat_inj]

theorem Represents.free (represents : Represents bitmap pool)
    (label : U32) :
    LabelAnswer.freed (freeLabel label bitmap).1 =
        ((LabelCall.free label).onPool pool).1 ∧
      Represents (freeLabel label bitmap).2
        ((LabelCall.free label).onPool pool).2 := by
  have answers : LabelAnswer.freed (freeLabel label bitmap).1 =
        ((LabelCall.free label).onPool pool).1 ∧
      ((LabelCall.free label).onPool pool).2 =
        (pool.release label.toNat).2 := by
    by_cases inRange : labelMin ≤ label.toNat ∧ label.toNat ≤ labelMax
    · simp [freeLabel, inRange, LabelCall.onPool, Pool.release,
        mem_labelRange]
    · simp [freeLabel, inRange, LabelCall.onPool, Pool.release,
        mem_labelRange]
  refine ⟨answers.1, fun other => ?_⟩
  rw [answers.2, freeLabel_isAllocated, Bool.and_eq_true, decide_eq_true_eq,
    Pool.mem_release, represents other, ne_eq, ne_eq, BitVec.toNat_inj]

end Represents

theorem LabelCall.onWords_represents (call : LabelCall)
    {bitmap : LabelBitmap} {pool : Pool labelRange}
    (represents : Represents bitmap pool) :
    ∃ bitmap', call.onWords (List.ofFn bitmap) =
        some ((call.onPool pool).1, List.ofFn bitmap') ∧
      Represents bitmap' (call.onPool pool).2 := by
  cases call with
  | allocate =>
      obtain ⟨answer, kept⟩ := represents.allocate
      refine ⟨_, ?_, kept⟩
      rw [onWords, allocateWords_ofFn, ← answer]
      simp only [Option.map_some, Prod.map_apply', id_eq]
  | free label =>
      obtain ⟨answer, kept⟩ := represents.free label
      refine ⟨_, ?_, kept⟩
      rw [onWords, freeWords_ofFn, ← answer]
      simp only [Option.map_some, Prod.map_apply', id_eq]

theorem runLabelCalls_represents (calls : List LabelCall)
    {bitmap : LabelBitmap} {pool : Pool labelRange}
    (represents : Represents bitmap pool) :
    ∃ bitmap', runLabelCalls calls (List.ofFn bitmap) =
        some ((poolLabelCalls calls pool).1, List.ofFn bitmap') ∧
      Represents bitmap' (poolLabelCalls calls pool).2 := by
  induction calls generalizing bitmap pool with
  | nil => exact ⟨bitmap, rfl, represents⟩
  | cons call calls ih =>
      obtain ⟨bitmap', answered, kept⟩ := call.onWords_represents represents
      obtain ⟨bitmap'', rest, keptRest⟩ := ih kept
      refine ⟨bitmap'', ?_, keptRest⟩
      simp only [runLabelCalls, answered, rest, poolLabelCalls,
        Option.bind_eq_bind, Option.bind_some]

/-- Every history of calls on the zeroed array stays in the array and answers
as the set of taken labels does, and the array marks exactly this set. -/
theorem labelCalls_refine_pool (calls : List LabelCall) :
    ∃ bitmap : LabelBitmap,
      runLabelCalls calls (List.replicate bitmapWords 0) =
        some ((poolLabelCalls calls .empty).1, List.ofFn bitmap) ∧
      ∀ label : U32, isAllocated bitmap label = true ↔
        label.toNat ∈ (poolLabelCalls calls .empty).2.taken := by
  have zeroed : List.replicate bitmapWords (0 : U32) =
      List.ofFn LabelBitmap.empty :=
    (List.ofFn_const bitmapWords 0).symm
  rw [zeroed]
  exact runLabelCalls_represents calls represents_empty

end Rsvpd
