import Mathlib.Logic.Function.Basic
import Mathlib.Tactic.Common

/-!
# Sets of indices packed into words

`count` words of `width` bits hold the membership bits of the indices below
`width * count`: index `i` is bit `i % width` of word `i / width`.
-/

abbrev PackedBits (width count : Nat) := Fin count → BitVec width

namespace PackedBits

variable {width count : Nat}

/-- The word with only the bit of `index` set. -/
def mask (width index : Nat) : BitVec width :=
  BitVec.ofNat width 1 <<< (index % width)

/-- Membership of an index; indices past the last word are absent. -/
def bit (bits : PackedBits width count) (index : Nat) : Bool :=
  if inRange : index / width < count then
    (bits ⟨index / width, inRange⟩).getLsbD (index % width)
  else false

theorem getLsbD_mask (positive : 0 < width) (index position : Nat) :
    (mask width index).getLsbD position =
      decide (position = index % width) := by
  have inWord : index % width < width := Nat.mod_lt _ positive
  rw [mask, ← BitVec.twoPow_eq, BitVec.getLsbD_twoPow]
  simp [inWord, eq_comm]

theorem and_mask_eq_zero_iff (positive : 0 < width) (word : BitVec width)
    (index : Nat) :
    word &&& mask width index = 0 ↔
      word.getLsbD (index % width) = false := by
  have inWord : index % width < width := Nat.mod_lt _ positive
  constructor
  · intro zero
    have masked := congrArg (fun w => w.getLsbD (index % width)) zero
    simpa [getLsbD_mask positive] using masked
  · intro clear
    apply BitVec.eq_of_getLsbD_eq
    intro position _
    rw [BitVec.getLsbD_and, getLsbD_mask positive]
    by_cases here : position = index % width
    · simp [here, clear]
    · simp [here]

theorem index_eq {first second : Nat}
    (sameWord : first / width = second / width)
    (sameBit : first % width = second % width) : first = second := by
  rw [← Nat.div_add_mod first width, ← Nat.div_add_mod second width,
    sameWord, sameBit]

section Update

variable (positive : 0 < width) (bits : PackedBits width count) {index : Nat}
  (inRange : index / width < count) (other : Nat)

theorem bit_of_word (sameWord : other / width = index / width) :
    bit bits other =
      (bits ⟨index / width, inRange⟩).getLsbD (other % width) := by
  have otherRange : other / width < count := sameWord ▸ inRange
  have sameFin : (⟨other / width, otherRange⟩ : Fin count) =
      ⟨index / width, inRange⟩ := Fin.ext sameWord
  rw [bit, dif_pos otherRange, sameFin]

theorem bit_update (word : BitVec width) :
    bit (Function.update bits ⟨index / width, inRange⟩ word) other =
      if other / width = index / width then word.getLsbD (other % width)
      else bit bits other := by
  split
  case isTrue sameWord =>
    rw [bit_of_word _ inRange other sameWord, Function.update_self]
  case isFalse otherWord =>
    unfold bit
    split
    case isTrue otherRange =>
      have differ : (⟨other / width, otherRange⟩ : Fin count) ≠
          ⟨index / width, inRange⟩ := fun same =>
        otherWord (congrArg Fin.val same)
      rw [Function.update_of_ne differ]
    case isFalse => rfl

include positive

theorem getLsbD_mask_of_word (sameWord : other / width = index / width) :
    (mask width index).getLsbD (other % width) = decide (other = index) := by
  rw [getLsbD_mask positive, decide_eq_decide]
  exact ⟨index_eq sameWord, congrArg (· % width)⟩

variable (index) in
theorem bit_set :
    bit (Function.update bits ⟨index / width, inRange⟩
      (bits ⟨index / width, inRange⟩ ||| mask width index)) other =
        (decide (other = index) || bit bits other) := by
  rw [bit_update]
  split
  case isTrue sameWord =>
    rw [BitVec.getLsbD_or, getLsbD_mask_of_word positive other sameWord,
      bit_of_word bits inRange other sameWord, Bool.or_comm]
  case isFalse otherWord =>
    have different : other ≠ index := fun same => otherWord (by rw [same])
    simp [different]

variable (index) in
theorem bit_clear :
    bit (Function.update bits ⟨index / width, inRange⟩
      (bits ⟨index / width, inRange⟩ &&& ~~~mask width index)) other =
        (decide (other ≠ index) && bit bits other) := by
  rw [bit_update]
  split
  case isTrue sameWord =>
    have inWord : other % width < width := Nat.mod_lt _ positive
    rw [BitVec.getLsbD_and, BitVec.getLsbD_not, decide_eq_true inWord,
      getLsbD_mask_of_word positive other sameWord, Bool.true_and,
      bit_of_word bits inRange other sameWord, Bool.and_comm, decide_not]
  case isFalse otherWord =>
    have different : other ≠ index := fun same => otherWord (by rw [same])
    simp [different]

end Update

end PackedBits
