import Rsvpd.Lib.HeightTree
import Mathlib.Data.List.Range
import Mathlib.Data.List.Perm.Subperm
import Mathlib.Data.Nat.Fib.Basic

/-!
# How deep a balanced tree can be

An AVL tree of a given depth has at least a Fibonacci number of nodes, and a
tree with distinct keys below a bound has at most that many.
-/

universe u

namespace HeightTree

variable {α : Type u}

theorem length_toList (tree : HeightTree α) :
    tree.toList.length = tree.size := by
  induction tree with
  | null => rfl
  | node data left right height ihLeft ihRight =>
      rw [toList_node, size_node, List.length_append, List.length_cons,
        ihLeft, ihRight, Nat.add_assoc]

theorem fib_le_size {tree : HeightTree α} (avl : tree.Avl) :
    Nat.fib (tree.depth + 2) ≤ tree.size + 1 := by
  induction tree with
  | null => simp
  | node data left right height ihLeft ihRight =>
      obtain ⟨_, leftNear, rightNear, leftAvl, rightAvl⟩ := avl
      have leftLarge := ihLeft leftAvl
      have rightLarge := ihRight rightAvl
      -- One subtree is one level lower, the other at most two.
      have split : Nat.fib (1 + max left.depth right.depth + 2) ≤
          Nat.fib (left.depth + 2) + Nat.fib (right.depth + 2) := by
        rcases Nat.le_total left.depth right.depth with le | le
        · rw [Nat.max_eq_right le, Nat.fib_add_two]
          have lower : Nat.fib (1 + right.depth) ≤ Nat.fib (left.depth + 2) :=
            Nat.fib_mono (by omega)
          have upper : 1 + right.depth + 1 = right.depth + 2 := by omega
          rw [upper]
          omega
        · rw [Nat.max_eq_left le, Nat.fib_add_two]
          have lower : Nat.fib (1 + left.depth) ≤ Nat.fib (right.depth + 2) :=
            Nat.fib_mono (by omega)
          have upper : 1 + left.depth + 1 = left.depth + 2 := by omega
          rw [upper]
          omega
      rw [depth_node, size_node]
      omega

theorem size_le_of_keys {tree : HeightTree α} (key : α → Nat) {bound : Nat}
    (distinct : (tree.toList.map key).Nodup)
    (below : ∀ item ∈ tree.toList, key item < bound) :
    tree.size ≤ bound := by
  have inside : tree.toList.map key ⊆ List.range bound := by
    intro image member
    obtain ⟨item, listed, rfl⟩ := List.mem_map.mp member
    exact List.mem_range.mpr (below item listed)
  have shorter := (List.subperm_of_subset distinct inside).length_le
  rwa [List.length_map, length_toList, List.length_range] at shorter

/-- An AVL tree is lower than a depth whose Fibonacci number exceeds its
size. -/
theorem depth_lt_of_fib {tree : HeightTree α} (avl : tree.Avl) {depth : Nat}
    (large : tree.size + 1 < Nat.fib (depth + 2)) : tree.depth < depth := by
  by_contra deep
  have grown : Nat.fib (depth + 2) ≤ Nat.fib (tree.depth + 2) :=
    Nat.fib_mono (by omega)
  have := fib_le_size avl
  omega

end HeightTree
