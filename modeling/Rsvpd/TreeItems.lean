import Rsvpd.Tree

/-!
# The tree functions only move items

Rotations and both rebalancings look at heights and, in `insert_node`, at what
the comparator says.  So they commute with every change of the items that the
comparator does not see, in particular with forgetting where an item lies.
-/

namespace Rsvpd

open HeightTree

variable {α β : Type} (change : α → β)

@[simp] theorem getHeight_map (node : DbNode α) :
    getHeight (node.map change) = getHeight node := by
  cases node <;> rfl

@[simp] theorem getBalance_map (node : DbNode α) :
    getBalance (node.map change) = getBalance node := by
  cases node with
  | null => rfl
  | node data left right height => simp [map, getBalance]

@[simp] theorem data?_map (node : DbNode α) :
    data? (node.map change) = (data? node).map change := by
  cases node <;> rfl

theorem withHeight_map (data : α) (left right : DbNode α) :
    withHeight (change data) (left.map change) (right.map change) =
      (withHeight data left right).map change := by
  simp [withHeight, map]

theorem rightRotate_map (node : DbNode α) :
    rightRotate (node.map change) =
      (rightRotate node).map (HeightTree.map change) := by
  cases node with
  | null => rfl
  | node y left yRight yHeight =>
      cases left with
      | null => rfl
      | node x xLeft t2 xHeight =>
          simp [map, rightRotate, withHeight_map]

theorem leftRotate_map (node : DbNode α) :
    leftRotate (node.map change) =
      (leftRotate node).map (HeightTree.map change) := by
  cases node with
  | null => rfl
  | node x xLeft right xHeight =>
      cases right with
      | null => rfl
      | node y t2 yRight yHeight =>
          simp [map, leftRotate, withHeight_map]

theorem leftRight_map (data : α) (left right : DbNode α) (height : Nat) :
    ((leftRotate (left.map change)).bind fun left =>
        rightRotate (.node (change data) left (right.map change) height)) =
      ((leftRotate left).bind fun left =>
        rightRotate (.node data left right height)).map
          (HeightTree.map change) := by
  rw [leftRotate_map, Option.map_bind, Option.bind_map]
  exact congrArg _ (funext fun left' =>
    rightRotate_map change (.node data left' right height))

theorem rightLeft_map (data : α) (left right : DbNode α) (height : Nat) :
    ((rightRotate (right.map change)).bind fun right =>
        leftRotate (.node (change data) (left.map change) right height)) =
      ((rightRotate right).bind fun right =>
        leftRotate (.node data left right height)).map
          (HeightTree.map change) := by
  rw [rightRotate_map, Option.map_bind, Option.bind_map]
  exact congrArg _ (funext fun right' =>
    leftRotate_map change (.node data left right' height))

theorem deleteRebalance_map (data : α) (left right : DbNode α) :
    deleteRebalance (change data) (left.map change) (right.map change) =
      (deleteRebalance data left right).map (HeightTree.map change) := by
  simp only [deleteRebalance, Option.bind_eq_bind, withHeight_map,
    getBalance_map, getHeight_map]
  split_ifs
  · exact rightRotate_map change _
  · exact leftRight_map change ..
  · exact leftRotate_map change _
  · exact rightLeft_map change ..
  · rfl

theorem minData_map (node : DbNode α) :
    minData (node.map change) = (minData node).map change := by
  fun_induction minData node with
  | case1 => rfl
  | case2 => rfl
  | case3 data leftData leftLeft leftRight leftHeight right height ih =>
      exact ih

theorem setMinData_map (data : α) (node : DbNode α) :
    setMinData (change data) (node.map change) =
      (setMinData data node).map change := by
  fun_induction setMinData data node with
  | case1 => rfl
  | case2 => rfl
  | case3 nodeData leftData leftLeft leftRight leftHeight right height ih =>
      simpa [map, setMinData] using ih

section Insert

variable [Record α] [Record β] (same : ∀ first second,
  Record.compareInsert (change first) (change second) =
    Record.compareInsert first second)

include same

theorem insertRebalance_map (data nodeData : α) (left right : DbNode α) :
    insertRebalance (change data) (change nodeData) (left.map change)
        (right.map change) =
      (insertRebalance data nodeData left right).map
        (HeightTree.map change) := by
  simp only [insertRebalance, Option.bind_eq_bind, withHeight_map,
    getBalance_map, getHeight_map, data?_map, Option.bind_map,
    Function.comp_def, same]
  split_ifs
  · rw [Option.map_bind]
    refine congrArg _ (funext fun leftData => ?_)
    dsimp only [Function.comp_def]
    split_ifs
    · exact rightRotate_map change _
    · exact leftRight_map change ..
    · rfl
  · rw [Option.map_bind]
    refine congrArg _ (funext fun rightData => ?_)
    dsimp only [Function.comp_def]
    split_ifs
    · exact leftRotate_map change _
    · exact rightLeft_map change ..
    · rfl
  · rfl

theorem insertNode_map (malloc : Bool) (data : α) (node : DbNode α) :
    insertNode malloc (change data) (node.map change) =
      (insertNode malloc data node).map (HeightTree.map change) := by
  induction node with
  | null => cases malloc <;> rfl
  | node nodeData left right height ihLeft ihRight =>
      simp only [map, insertNode, Option.bind_eq_bind, same, ihLeft, ihRight]
      split_ifs with below above
      · rw [Option.map_bind, Option.bind_map]
        exact congrArg _ (funext fun left' =>
          insertRebalance_map change same data nodeData left' right)
      · rw [Option.map_bind, Option.bind_map]
        exact congrArg _ (funext fun right' =>
          insertRebalance_map change same data nodeData left right')
      · rfl

end Insert

end Rsvpd
