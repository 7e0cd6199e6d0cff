import Mathlib.Order.Basic
import Mathlib.Tactic.Common

/-!
# Binary trees with a cached height

Every node stores an item, two subtrees and a height that an algorithm is
expected to keep up to date.  `depth` is the true height; `Avl` says that the
cached heights are true and that siblings differ by at most one level.
-/

universe u

/-- A binary tree whose nodes cache a height. -/
inductive HeightTree (α : Type u) where
  | null : HeightTree α
  | node (data : α) (left right : HeightTree α) (height : Nat) : HeightTree α
deriving DecidableEq, Repr

namespace HeightTree

variable {α : Type u}

/-- The items from left to right. -/
def toList : HeightTree α → List α
  | null => []
  | node data left right _ => left.toList ++ data :: right.toList

/-- The number of nodes. -/
def size : HeightTree α → Nat
  | null => 0
  | node _ left right _ => left.size + right.size + 1

/-- The true height: the number of nodes on a longest path downwards. -/
def depth : HeightTree α → Nat
  | null => 0
  | node _ left right _ => 1 + max left.depth right.depth

/-- The AVL representation invariant. -/
def Avl : HeightTree α → Prop
  | null => True
  | node _ left right height =>
      height = 1 + max left.depth right.depth ∧
        left.depth ≤ right.depth + 1 ∧ right.depth ≤ left.depth + 1 ∧
        left.Avl ∧ right.Avl

@[simp] theorem toList_null : (null : HeightTree α).toList = [] := rfl

@[simp] theorem toList_node (data : α) (left right : HeightTree α)
    (height : Nat) :
    (node data left right height).toList =
      left.toList ++ data :: right.toList := rfl

@[simp] theorem size_null : (null : HeightTree α).size = 0 := rfl

@[simp] theorem size_node (data : α) (left right : HeightTree α)
    (height : Nat) :
    (node data left right height).size = left.size + right.size + 1 := rfl

theorem size_left_lt (data : α) (left right : HeightTree α) (height : Nat) :
    left.size < (node data left right height).size := by
  rw [size_node]
  omega

theorem size_right_lt (data : α) (left right : HeightTree α)
    (height : Nat) : right.size < (node data left right height).size := by
  rw [size_node]
  omega

@[simp] theorem depth_null : (null : HeightTree α).depth = 0 := rfl

@[simp] theorem depth_node (data : α) (left right : HeightTree α)
    (height : Nat) :
    (node data left right height).depth =
      1 + max left.depth right.depth := rfl

@[simp] theorem avl_null : (null : HeightTree α).Avl := trivial

@[simp] theorem avl_node (data : α) (left right : HeightTree α)
    (height : Nat) :
    (node data left right height).Avl ↔
      height = 1 + max left.depth right.depth ∧
        left.depth ≤ right.depth + 1 ∧ right.depth ≤ left.depth + 1 ∧
        left.Avl ∧ right.Avl := Iff.rfl

theorem exists_node_of_depth_pos {tree : HeightTree α}
    (deep : 0 < tree.depth) :
    ∃ data left right height, tree = node data left right height := by
  cases tree with
  | null => simp at deep
  | node data left right height => exact ⟨data, left, right, height, rfl⟩

/-- The tree with every item changed and its shape kept. -/
def map {β : Type u} (change : α → β) : HeightTree α → HeightTree β
  | null => null
  | node data left right height =>
      node (change data) (left.map change) (right.map change) height

section Map

variable {β : Type u} (change : α → β)

theorem toList_map (tree : HeightTree α) :
    (tree.map change).toList = tree.toList.map change := by
  induction tree with
  | null => rfl
  | node data left right height ihLeft ihRight =>
      simp [map, ihLeft, ihRight]

theorem depth_map (tree : HeightTree α) :
    (tree.map change).depth = tree.depth := by
  induction tree with
  | null => rfl
  | node data left right height ihLeft ihRight =>
      simp [map, ihLeft, ihRight]

theorem avl_map {tree : HeightTree α} (avl : tree.Avl) :
    (tree.map change).Avl := by
  induction tree with
  | null => exact avl
  | node data left right height ihLeft ihRight =>
      obtain ⟨cached, leftNear, rightNear, leftAvl, rightAvl⟩ := avl
      rw [map, avl_node, depth_map, depth_map]
      exact ⟨cached, leftNear, rightNear, ihLeft leftAvl, ihRight rightAvl⟩

end Map

end HeightTree
