import Mathlib.Data.Nat.Bitwise
import Mathlib.Order.Lattice
import Mathlib.Tactic.Common

/-!
# Address prefixes

An address is a word of `width` bits.  Two addresses share a prefix of a given
length when they agree above their low bits; masking both compares exactly
that.  Among the items of a list that match, those with the longest prefix are
the longest matches.
-/

namespace Prefix

variable {width : Nat}

/-- The word whose first `length` bits are set. -/
def mask (width length : Nat) : BitVec width :=
  ~~~((BitVec.ofNat width 1 <<< (width - length)) - 1)

/-- The two addresses agree in their first `length` bits. -/
def Shared (length : Nat) (first second : BitVec width) : Prop :=
  ∀ index, width - length ≤ index →
    first.getLsbD index = second.getLsbD index

theorem Shared.symm {length : Nat} {first second : BitVec width}
    (shared : Shared length first second) : Shared length second first :=
  fun index high => (shared index high).symm

theorem Shared.trans {length : Nat} {first second third : BitVec width}
    (left : Shared length first second)
    (right : Shared length second third) : Shared length first third :=
  fun index high => (left index high).trans (right index high)

theorem Shared.mono {length shorter : Nat} {first second : BitVec width}
    (shared : Shared length first second) (le : shorter ≤ length) :
    Shared shorter first second := by
  intro index high
  apply shared
  omega

theorem low_ones (width count : Nat) :
    (BitVec.ofNat width 1 <<< count) - 1 =
      BitVec.ofNat width (2 ^ count - 1) := by
  have power : BitVec.ofNat width 1 <<< count =
      BitVec.ofNat width (2 ^ count) := by
    apply BitVec.eq_of_toNat_eq
    rw [← BitVec.twoPow_eq, BitVec.toNat_twoPow, BitVec.toNat_ofNat]
  rw [BitVec.sub_eq_iff_eq_add, power]
  exact (congrArg (BitVec.ofNat width)
    (Nat.sub_add_cancel Nat.one_le_two_pow).symm).trans
      (BitVec.ofNat_add (2 ^ count - 1) 1)

theorem getLsbD_mask (length : Nat) {index : Nat} (inWord : index < width) :
    (mask width length).getLsbD index = decide (width - length ≤ index) := by
  rw [mask, low_ones, BitVec.getLsbD_not, BitVec.getLsbD_ofNat,
    Nat.testBit_two_pow_sub_one]
  by_cases high : width - length ≤ index
  · simp [inWord, high]
  · simp [inWord, high, Nat.lt_of_not_le high]

theorem and_mask_eq_iff (length : Nat) (first second : BitVec width) :
    first &&& mask width length = second &&& mask width length ↔
      Shared length first second := by
  constructor
  · intro masked index high
    by_cases inWord : index < width
    · have bits := congrArg (fun word => word.getLsbD index) masked
      simp only [BitVec.getLsbD_and, getLsbD_mask length inWord, high,
        decide_true, Bool.and_true] at bits
      exact bits
    · rw [BitVec.getLsbD_of_ge _ _ (Nat.le_of_not_lt inWord),
        BitVec.getLsbD_of_ge _ _ (Nat.le_of_not_lt inWord)]
  · intro shared
    apply BitVec.eq_of_getLsbD_eq
    intro index inWord
    rw [BitVec.getLsbD_and, BitVec.getLsbD_and, getLsbD_mask length inWord]
    by_cases high : width - length ≤ index
    · rw [shared index high]
    · simp [high]

theorem Shared.length_lt {zeros length : Nat} {address network : BitVec width}
    (clear : Shared zeros address 0)
    (shared : Shared length address network)
    (nonzero : ¬Shared length network 0) : zeros < length := by
  by_contra longer
  have clear := clear.mono (Nat.le_of_not_lt longer)
  exact nonzero (shared.symm.trans clear)

section Longest

variable {ρ κ : Type*} [LinearOrder κ] {matching : ρ → Prop}
  {length : ρ → κ}

/-- A matching item of the list with the greatest length. -/
structure Longest (matching : ρ → Prop) (length : ρ → κ) (items : List ρ)
    (item : ρ) : Prop where
  listed : item ∈ items
  matched : matching item
  greatest : ∀ other ∈ items, matching other → length other ≤ length item

theorem Longest.length_eq {items : List ρ} {first second : ρ}
    (left : Longest matching length items first)
    (right : Longest matching length items second) :
    length first = length second :=
  le_antisymm (right.greatest first left.listed left.matched)
    (left.greatest second right.listed right.matched)

theorem Longest.of_length_eq {items : List ρ} {first second : ρ}
    (longest : Longest matching length items first) (listed : second ∈ items)
    (matched : matching second) (same : length second = length first) :
    Longest matching length items second :=
  ⟨listed, matched, fun other member matchesOther =>
    same ▸ longest.greatest other member matchesOther⟩

/-- A match with no longer one ahead of it is a longest match when none behind
it is longer. -/
theorem longest_split_iff {front back : List ρ} {item : ρ}
    (matched : matching item)
    (ahead : ∀ other ∈ front, matching other → length other ≤ length item) :
    Longest matching length (front ++ item :: back) item ↔
      ∀ other ∈ back, matching other → length other ≤ length item := by
  constructor
  · intro longest other member
    exact longest.greatest other
      (List.mem_append_right _ (List.mem_cons_of_mem _ member))
  · intro behind
    refine ⟨List.mem_append_cons_self, matched, fun other member => ?_⟩
    rcases List.mem_append.mp member with inFront | inRest
    · exact ahead other inFront
    · rcases List.mem_cons.mp inRest with rfl | inBack
      · exact fun _ => le_refl _
      · exact behind other inBack

end Longest

end Prefix
