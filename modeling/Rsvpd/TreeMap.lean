import Rsvpd.Lib.KeyedList
import Rsvpd.TreeBalance

/-!
# The AVL tree as a finite map

The in-order list of records is the canonical form of the map from tunnel ids
to records.  Rotations do not change it, `insert_node` and `delete_node` act
on it as `KeyedList.insertNew` and `KeyedList.erase`, and `search_node` reads
it.  A `RecordTree` carries the invariants that make this work.
-/

namespace Rsvpd

open HeightTree

variable {α : Type}

theorem rightRotate_toList {node rotated : DbNode α}
    (step : rightRotate node = some rotated) :
    rotated.toList = node.toList := by
  unfold rightRotate at step
  split at step
  · cases step
    simp [withHeight]
  · cases step

theorem leftRotate_toList {node rotated : DbNode α}
    (step : leftRotate node = some rotated) :
    rotated.toList = node.toList := by
  unfold leftRotate at step
  split at step
  · cases step
    simp [withHeight]
  · cases step

theorem leftRight_toList {data : α} {left right rotated : DbNode α}
    {height : Nat}
    (step : (leftRotate left).bind (fun left' =>
      rightRotate (.node data left' right height)) = some rotated) :
    rotated.toList = left.toList ++ data :: right.toList := by
  obtain ⟨left', inner, outer⟩ := Option.bind_eq_some_iff.mp step
  rw [rightRotate_toList outer, toList_node, leftRotate_toList inner]

theorem rightLeft_toList {data : α} {left right rotated : DbNode α}
    {height : Nat}
    (step : (rightRotate right).bind (fun right' =>
      leftRotate (.node data left right' height)) = some rotated) :
    rotated.toList = left.toList ++ data :: right.toList := by
  obtain ⟨right', inner, outer⟩ := Option.bind_eq_some_iff.mp step
  rw [leftRotate_toList outer, toList_node, rightRotate_toList inner]

theorem withHeight_toList (data : α) (left right : DbNode α) :
    (withHeight data left right).toList =
      left.toList ++ data :: right.toList := rfl

theorem deleteRebalance_toList {data : α} {left right balanced : DbNode α}
    (step : deleteRebalance data left right = some balanced) :
    balanced.toList = left.toList ++ data :: right.toList := by
  simp only [deleteRebalance, Option.bind_eq_bind] at step
  split at step
  · split at step
    · exact rightRotate_toList step
    · exact leftRight_toList step
  · split at step
    · split at step
      · exact leftRotate_toList step
      · exact rightLeft_toList step
    · cases step
      exact withHeight_toList data left right

theorem insertRebalance_toList [Record α] {data nodeData : α}
    {left right balanced : DbNode α}
    (step : insertRebalance data nodeData left right = some balanced) :
    balanced.toList = left.toList ++ nodeData :: right.toList := by
  simp only [insertRebalance, Option.bind_eq_bind] at step
  split at step
  · obtain ⟨leftData, _, step⟩ := Option.bind_eq_some_iff.mp step
    split at step
    · exact rightRotate_toList step
    · split at step
      · exact leftRight_toList step
      · cases step
        exact withHeight_toList nodeData left right
  · split at step
    · obtain ⟨rightData, _, step⟩ := Option.bind_eq_some_iff.mp step
      split at step
      · exact leftRotate_toList step
      · split at step
        · exact rightLeft_toList step
        · cases step
          exact withHeight_toList nodeData left right
    · cases step
      exact withHeight_toList nodeData left right

section Operations

variable [Record α]

/-- The records strictly increase in tunnel id from left to right. -/
def Ordered (node : DbNode α) : Prop :=
  KeyedList.Ascending Record.key node.toList

theorem ordered_null : Ordered (.null : DbNode α) := List.Pairwise.nil

theorem insertNode_toList {data : α} {node inserted : DbNode α}
    (ordered : Ordered node)
    (step : insertNode true data node = some inserted) :
    inserted.toList = KeyedList.insertNew Record.key data node.toList := by
  induction node generalizing inserted with
  | null =>
      cases step
      rfl
  | node nodeData left right height ihLeft ihRight =>
      obtain ⟨leftOk, rightOk, _, _⟩ := KeyedList.ascending_split ordered
      simp only [insertNode, Option.bind_eq_bind, compareInsert_neg,
        gt_iff_lt, compareInsert_pos] at step
      rw [toList_node]
      rcases Nat.lt_trichotomy (Record.key data) (Record.key nodeData) with
        below | same | above
      · rw [if_pos below] at step
        obtain ⟨left', inner, outer⟩ := Option.bind_eq_some_iff.mp step
        rw [insertRebalance_toList outer, ihLeft leftOk inner,
          KeyedList.insertNew_split_left below]
      · rw [if_neg (by omega), if_neg (by omega)] at step
        cases step
        have found := KeyedList.lookup_split_here ordered
        rw [← same] at found
        exact (KeyedList.insertNew_of_present ordered found).symm
      · rw [if_neg (by omega), if_pos above] at step
        obtain ⟨right', inner, outer⟩ := Option.bind_eq_some_iff.mp step
        rw [insertRebalance_toList outer, ihRight rightOk inner,
          KeyedList.insertNew_split_right ordered above]

theorem insertRebalance_restores (data : α) {nodeData : α}
    {left right : DbNode α} {height : Nat}
    (avl : (HeightTree.node nodeData left right height).Avl) :
    insertRebalance data nodeData left right =
      some (.node nodeData left right height) := by
  obtain ⟨cached, leftNear, rightNear, leftAvl, rightAvl⟩ := avl
  rw [insertRebalance_near data nodeData leftAvl rightAvl leftNear rightNear,
    withHeight, getHeight_eq_depth leftAvl, getHeight_eq_depth rightAvl,
    cached]

theorem insertNode_noMemory {data : α} {node : DbNode α} (avl : node.Avl) :
    insertNode false data node = some node := by
  induction node with
  | null => rfl
  | node nodeData left right height ihLeft ihRight =>
      have restored := insertRebalance_restores data avl
      obtain ⟨_, _, _, leftAvl, rightAvl⟩ := avl
      simp [insertNode, ihLeft leftAvl, ihRight rightAvl, restored]

theorem insertNode_present (malloc : Bool) {data : α} {node : DbNode α}
    (avl : node.Avl) (ordered : Ordered node)
    (present : ∃ stored ∈ node.toList,
      Record.key stored = Record.key data) :
    insertNode malloc data node = some node := by
  induction node with
  | null =>
      obtain ⟨stored, member, _⟩ := present
      cases member
  | node nodeData left right height ihLeft ihRight =>
      have restored := insertRebalance_restores data avl
      obtain ⟨_, _, _, leftAvl, rightAvl⟩ := avl
      obtain ⟨leftOk, rightOk, below, above⟩ :=
        KeyedList.ascending_split ordered
      obtain ⟨stored, member, same⟩ := present
      rw [toList_node, List.mem_append, List.mem_cons] at member
      simp only [insertNode, Option.bind_eq_bind, compareInsert_neg,
        gt_iff_lt, compareInsert_pos]
      rcases member with inLeft | rfl | inRight
      · have smaller := below stored inLeft
        rw [if_pos (by omega), ihLeft leftAvl leftOk ⟨stored, inLeft, same⟩]
        exact restored
      · rw [if_neg (by omega), if_neg (by omega)]
      · have larger := above stored inRight
        rw [if_neg (by omega), if_pos (by omega),
          ihRight rightAvl rightOk ⟨stored, inRight, same⟩]
        exact restored

theorem searchNode_data (tunnelId : U16) {node : DbNode α}
    (ordered : Ordered node) :
    data? (searchNode tunnelId node) =
      KeyedList.lookup Record.key tunnelId.toNat node.toList := by
  induction node with
  | null => rfl
  | node data left right height ihLeft ihRight =>
      obtain ⟨leftOk, rightOk, _, _⟩ := KeyedList.ascending_split ordered
      simp only [searchNode, compareDel_eq_zero, compareDel_neg, toList_node]
      rcases Nat.lt_trichotomy tunnelId.toNat (Record.key data) with
        below | same | above
      · rw [if_neg (by omega), if_pos below, ihLeft leftOk,
          KeyedList.lookup_split_left ordered below]
      · rw [if_pos same, same, KeyedList.lookup_split_here ordered]
        rfl
      · rw [if_neg (by omega), if_neg (by omega), ihRight rightOk,
          KeyedList.lookup_split_right ordered above]

omit [Record α] in
theorem minData_toList {node : DbNode α} {least : α}
    (found : minData node = some least) (data : α) :
    ∃ rest, node.toList = least :: rest ∧
      (setMinData data node).toList = data :: rest := by
  fun_induction minData node with
  | case1 => cases found
  | case2 nodeData right height =>
      cases found
      exact ⟨right.toList, rfl, rfl⟩
  | case3 nodeData leftData leftLeft leftRight leftHeight right height ih =>
      obtain ⟨rest, before, after⟩ := ih found
      refine ⟨rest ++ nodeData :: right.toList, ?_, ?_⟩
      · rw [toList_node, before, List.cons_append]
      · rw [setMinData, toList_node, after, List.cons_append]

/-- A record that is below a tree may replace the least record of the tree:
it then stands first, and the tree is still ordered. -/
theorem setMinData_ordered {data least : α} {node : DbNode α}
    (found : minData node = some least) (ordered : Ordered node)
    (below : ∀ item ∈ node.toList, Record.key data < Record.key item) :
    ∃ rest, node.toList = least :: rest ∧
      (setMinData data node).toList = data :: rest ∧
      Ordered (setMinData data node) := by
  obtain ⟨rest, before, after⟩ := minData_toList found data
  rw [Ordered, before] at ordered
  rw [before] at below
  refine ⟨rest, before, after, ?_⟩
  rw [Ordered, after]
  apply List.Pairwise.cons
  · intro item member
    exact below item (List.mem_cons_of_mem _ member)
  · exact (KeyedList.ascending_cons ordered).1

omit [Record α] in
theorem deleteBelow_inv {below : Option (DbNode α × List α)}
    (rebalance : DbNode α → Option (DbNode α)) {deleted : DbNode α}
    {freed : List α}
    (step : (below.bind fun result =>
      (rebalance result.1).bind fun node => some (node, result.2)) =
        some (deleted, freed)) :
    ∃ sub, below = some (sub, freed) ∧ rebalance sub = some deleted := by
  obtain ⟨⟨sub, _⟩, inner, step⟩ := Option.bind_eq_some_iff.mp step
  obtain ⟨balanced, balance, step⟩ := Option.bind_eq_some_iff.mp step
  cases step
  exact ⟨sub, inner, balance⟩

/-- `delete_node` removes the record of the given tunnel id from the in-order
list and frees exactly that record. -/
theorem deleteNode_toList {tunnelId : U16} {node deleted : DbNode α}
    {freed : List α} (ordered : Ordered node)
    (step : deleteNode tunnelId node = some (deleted, freed)) :
    deleted.toList =
        KeyedList.erase Record.key tunnelId.toNat node.toList ∧
      freed = (KeyedList.lookup Record.key tunnelId.toNat
        node.toList).toList := by
  fun_induction deleteNode tunnelId node generalizing deleted freed with
  | case1 target =>
      cases step
      exact ⟨rfl, rfl⟩
  | case2 target data left right height below ih =>
      rw [compareDel_neg] at below
      obtain ⟨leftOk, _, _, _⟩ := KeyedList.ascending_split ordered
      obtain ⟨left', inner, balance⟩ :=
        deleteBelow_inv (deleteRebalance data · right) step
      obtain ⟨erased, freedOne⟩ := ih leftOk inner
      rw [toList_node, KeyedList.erase_split_left ordered below,
        KeyedList.lookup_split_left ordered below,
        deleteRebalance_toList balance, erased]
      exact ⟨rfl, freedOne⟩
  | case3 target data left right height notBelow above ih =>
      rw [gt_iff_lt, compareDel_pos] at above
      obtain ⟨_, rightOk, _, _⟩ := KeyedList.ascending_split ordered
      obtain ⟨right', inner, balance⟩ :=
        deleteBelow_inv (deleteRebalance data left ·) step
      obtain ⟨erased, freedOne⟩ := ih rightOk inner
      rw [toList_node, KeyedList.erase_split_right ordered above,
        KeyedList.lookup_split_right ordered above,
        deleteRebalance_toList balance, erased]
      exact ⟨rfl, freedOne⟩
  | case4 target data height notBelow notAbove =>
      have same := key_eq_of_compareDel notBelow notAbove
      cases step
      rw [toList_node, same, KeyedList.erase_split_here ordered,
        KeyedList.lookup_split_here ordered]
      exact ⟨rfl, rfl⟩
  | case5 target data height notBelow notAbove tempData tempLeft tempRight
      tempHeight =>
      have same := key_eq_of_compareDel notBelow notAbove
      obtain ⟨balanced, balance, step⟩ := Option.bind_eq_some_iff.mp step
      cases step
      rw [toList_node, same, KeyedList.erase_split_here ordered,
        KeyedList.lookup_split_here ordered, deleteRebalance_toList balance]
      exact ⟨rfl, rfl⟩
  | case6 target data height notBelow notAbove tempData tempLeft tempRight
      tempHeight =>
      have same := key_eq_of_compareDel notBelow notAbove
      obtain ⟨balanced, balance, step⟩ := Option.bind_eq_some_iff.mp step
      cases step
      rw [toList_node, same, KeyedList.erase_split_here ordered,
        KeyedList.lookup_split_here ordered, deleteRebalance_toList balance]
      exact ⟨by simp, rfl⟩
  | case7 target data height notBelow notAbove leftData leftLeft leftRight
      leftHeight rightData rightLeft rightRight rightHeight right =>
      rename_i ih
      have same := key_eq_of_compareDel notBelow notAbove
      obtain ⟨least, leastFound, step⟩ := Option.bind_eq_some_iff.mp step
      obtain ⟨right', inner, balance⟩ := deleteBelow_inv
        (deleteRebalance least
          (.node leftData leftLeft leftRight leftHeight) ·) step
      -- The removed record is below the whole right subtree, so after the
      -- swap it stands first there and the second deletion finds it.
      obtain ⟨_, rightOk, _, rightAbove⟩ := KeyedList.ascending_split ordered
      obtain ⟨rest, rightList, swappedList, swappedOk⟩ :=
        setMinData_ordered leastFound rightOk rightAbove
      obtain ⟨erased, freedOne⟩ := ih swappedOk inner
      have erased : right'.toList = rest := by
        rw [erased, swappedList]
        exact KeyedList.erase_head data rest
      have freedOne : freed = [data] := by
        rw [freedOne, swappedList]
        exact congrArg Option.toList (KeyedList.lookup_head data rest)
      rw [toList_node, same, KeyedList.erase_split_here ordered,
        KeyedList.lookup_split_here ordered, deleteRebalance_toList balance,
        erased, freedOne, ← rightList]
      exact ⟨rfl, rfl⟩

end Operations

end Rsvpd
