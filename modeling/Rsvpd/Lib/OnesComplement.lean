import Mathlib.Data.BitVec
import Mathlib.Data.Nat.ModEq
import Mathlib.Tactic.Common
import Mathlib.Tactic.Ring

/-!
# Ones-complement sums

Words of `w` bits are added with an end-around carry.  Up to the two
representations of zero this is addition modulo `2 ^ w - 1`; `Represents` also
says which of the two a sum gives: all zeros only for the sum of zeros.
-/

namespace OnesComplement

variable {w : Nat}

/-- Addition with an end-around carry. -/
def add (x y : BitVec w) : BitVec w :=
  let sum := x.toNat + y.toNat
  BitVec.ofNat w (sum / 2 ^ w + sum % 2 ^ w)

/-- The ones-complement sum of some words. -/
def sum (words : List (BitVec w)) : BitVec w := words.foldl add 0#w

/-- The word stands for the number. -/
def Represents (x : BitVec w) (n : Nat) : Prop :=
  x.toNat ≡ n [MOD 2 ^ w - 1] ∧ (x = 0#w ↔ n = 0)

theorem fold_modEq (n : Nat) :
    n / 2 ^ w + n % 2 ^ w ≡ n [MOD 2 ^ w - 1] := by
  have one : 2 ^ w ≡ 1 [MOD 2 ^ w - 1] := by
    have split : 2 ^ w = 1 + (2 ^ w - 1) := by
      have := Nat.two_pow_pos w
      omega
    conv_lhs => rw [split]
    exact Nat.add_modEq_right
  calc
    n / 2 ^ w + n % 2 ^ w = 1 * (n / 2 ^ w) + n % 2 ^ w := by rw [one_mul]
    _ ≡ 2 ^ w * (n / 2 ^ w) + n % 2 ^ w [MOD 2 ^ w - 1] :=
      (one.symm.mul_right _).add_right _
    _ = n := Nat.div_add_mod n (2 ^ w)

theorem fold_eq_zero {n : Nat} : n / 2 ^ w + n % 2 ^ w = 0 ↔ n = 0 := by
  constructor
  · intro empty
    rw [Nat.add_eq_zero_iff] at empty
    rw [← Nat.div_add_mod n (2 ^ w), empty.1, empty.2]
    rfl
  · rintro rfl
    simp

theorem fold_lt {n : Nat} (bound : n + 2 ≤ 2 ^ w + 2 ^ w) :
    n / 2 ^ w + n % 2 ^ w < 2 ^ w := by
  by_cases carries : n < 2 ^ w
  · rw [Nat.div_eq_of_lt carries, Nat.mod_eq_of_lt carries]
    omega
  · have large : 2 ^ w ≤ n := Nat.le_of_not_lt carries
    rw [Nat.div_eq_sub_div (Nat.two_pow_pos w) large,
      Nat.div_eq_of_lt (by omega), Nat.mod_eq_sub_mod large,
      Nat.mod_eq_of_lt (by omega)]
    omega

theorem eq_or_zero_of_modEq {a b modulus : Nat} (le : a ≤ b)
    (bound : b ≤ modulus) (same : a ≡ b [MOD modulus]) : a = b ∨ a = 0 := by
  have divides : modulus ∣ b - a := (Nat.modEq_iff_dvd' le).mp same
  by_cases equal : b - a = 0
  · exact .inl (by omega)
  · have large : modulus ≤ b - a := Nat.le_of_dvd (by omega) divides
    exact .inr (by omega)

namespace Represents

variable {x y : BitVec w} {m n : Nat}

private theorem unique_of_le (le : x.toNat ≤ y.toNat)
    (first : Represents x n) (second : Represents y n) : x = y := by
  have bound : y.toNat ≤ 2 ^ w - 1 := Nat.le_sub_one_of_lt y.isLt
  rcases eq_or_zero_of_modEq le bound (first.1.trans second.1.symm) with
    same | zero
  · exact BitVec.eq_of_toNat_eq same
  · have xZero : x = 0#w := BitVec.eq_of_toNat_eq zero
    rw [xZero, second.2.mpr (first.2.mp xZero)]

theorem unique (first : Represents x n) (second : Represents y n) :
    x = y := by
  rcases Nat.le_total x.toNat y.toNat with le | le
  · exact unique_of_le le first second
  · exact (unique_of_le le second first).symm

theorem congr (represents : Represents x m) (same : m ≡ n [MOD 2 ^ w - 1])
    (zero : m = 0 ↔ n = 0) : Represents x n :=
  ⟨represents.1.trans same, represents.2.trans zero⟩

theorem zero : Represents 0#w 0 :=
  ⟨by rw [BitVec.toNat_zero], by simp⟩

theorem self (x : BitVec w) : Represents x x.toNat :=
  ⟨rfl, by rw [← BitVec.toNat_inj, BitVec.toNat_zero]⟩

theorem fold (small : n / 2 ^ w + n % 2 ^ w < 2 ^ w) :
    Represents (BitVec.ofNat w (n / 2 ^ w + n % 2 ^ w)) n := by
  have toNat : (BitVec.ofNat w (n / 2 ^ w + n % 2 ^ w)).toNat =
      n / 2 ^ w + n % 2 ^ w := by
    rw [BitVec.toNat_ofNat, Nat.mod_eq_of_lt small]
  have represents := self (BitVec.ofNat w (n / 2 ^ w + n % 2 ^ w))
  rw [toNat] at represents
  exact represents.congr (fold_modEq n) fold_eq_zero

theorem add (first : Represents x m) (second : Represents y n) :
    Represents (OnesComplement.add x y) (m + n) := by
  have xBound := x.isLt
  have yBound := y.isLt
  have small := fold_lt (w := w) (n := x.toNat + y.toNat) (by omega)
  refine (fold small).congr (first.1.add second.1) ?_
  have xZero : x.toNat = 0 ↔ m = 0 := by
    rw [← first.2, ← BitVec.toNat_inj, BitVec.toNat_zero]
  have yZero : y.toNat = 0 ↔ n = 0 := by
    rw [← second.2, ← BitVec.toNat_inj, BitVec.toNat_zero]
  rw [Nat.add_eq_zero_iff, Nat.add_eq_zero_iff, xZero, yZero]

private theorem foldl_add (represents : Represents x n)
    (words : List (BitVec w)) :
    Represents (words.foldl OnesComplement.add x)
      (n + (words.map BitVec.toNat).sum) := by
  induction words generalizing x n with
  | nil => exact represents
  | cons word words ih =>
      have next := ih (represents.add (self word))
      rwa [Nat.add_assoc, ← List.sum_cons, ← List.map_cons] at next

theorem sum (words : List (BitVec w)) :
    Represents (OnesComplement.sum words) (words.map BitVec.toNat).sum := by
  have total := foldl_add zero words
  rwa [Nat.zero_add] at total

/-- Two carry folds are enough for every sum below `2 ^ w * 2 ^ w`, the second
one with the carry left in place and cut off. -/
theorem foldTwice (bound : n < 2 ^ w * 2 ^ w) :
    Represents (BitVec.ofNat w
      (n / 2 ^ w + n % 2 ^ w + (n / 2 ^ w + n % 2 ^ w) / 2 ^ w)) n := by
  have positive := Nat.two_pow_pos w
  have high : n / 2 ^ w < 2 ^ w := Nat.div_lt_of_lt_mul bound
  have low : n % 2 ^ w < 2 ^ w := Nat.mod_lt n positive
  generalize once : n / 2 ^ w + n % 2 ^ w = folded
  have modEq : folded ≡ n [MOD 2 ^ w - 1] := once ▸ fold_modEq n
  have zero : folded = 0 ↔ n = 0 := once ▸ fold_eq_zero
  have small : folded / 2 ^ w + folded % 2 ^ w < 2 ^ w :=
    fold_lt (by omega)
  have cut : BitVec.ofNat w (folded + folded / 2 ^ w) =
      BitVec.ofNat w (folded / 2 ^ w + folded % 2 ^ w) := by
    apply BitVec.eq_of_toNat_eq
    rw [BitVec.toNat_ofNat, BitVec.toNat_ofNat, Nat.add_comm folded,
      Nat.add_mod, Nat.add_mod (folded / 2 ^ w) (folded % 2 ^ w),
      Nat.mod_mod]
  rw [cut]
  exact (fold small).congr modEq zero

theorem compl (represents : Represents x n)
    (total : Represents y (n + (~~~x).toNat)) : y = BitVec.allOnes w := by
  have ones : x.toNat + (~~~x).toNat = 2 ^ w - 1 := by
    have := x.isLt
    rw [BitVec.toNat_not]
    omega
  have modEq : (BitVec.allOnes w).toNat ≡ n + (~~~x).toNat
      [MOD 2 ^ w - 1] := by
    have added := represents.1.add_right (~~~x).toNat
    rwa [ones, ← BitVec.toNat_allOnes] at added
  have xZero : x.toNat = 0 ↔ n = 0 := by
    rw [← represents.2, ← BitVec.toNat_inj, BitVec.toNat_zero]
  have zero : BitVec.allOnes w = 0#w ↔ n + (~~~x).toNat = 0 := by
    rw [← BitVec.toNat_inj, BitVec.toNat_allOnes, BitVec.toNat_zero]
    omega
  exact total.unique ⟨modEq, zero⟩

end Represents

end OnesComplement
