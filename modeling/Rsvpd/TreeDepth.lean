import Rsvpd.Lib.HeightBound
import Rsvpd.TreeCalls

/-!
# Recursion depth of the tree functions

How many calls of a recursive function are open at once, the last one on
`NULL` included.  No function goes deeper than the tree is high, and 65536
tunnel ids fit in 22 levels.
-/

namespace Rsvpd

open HeightTree

variable {α : Type} [Record α]

/-- The nested calls of `insert_node`. -/
def insertNodeCalls (data : α) : DbNode α → Nat
  | .null => 1
  | .node nodeData left right _ =>
      let cmpResult := Record.compareInsert data nodeData
      if cmpResult < 0 then 1 + insertNodeCalls data left
      else if cmpResult > 0 then 1 + insertNodeCalls data right
      else 1

/-- The nested calls of `delete_node`.  A node with two children swaps its
record downwards and starts again in the right subtree. -/
def deleteNodeCalls (tunnelId : U16) : DbNode α → Nat
  | .null => 1
  | .node data left right _ =>
      if Record.compareDel tunnelId data < 0 then
        1 + deleteNodeCalls tunnelId left
      else if Record.compareDel tunnelId data > 0 then
        1 + deleteNodeCalls tunnelId right
      else
        match left with
        | .null => 1
        | .node _ _ _ _ =>
            match right with
            | .null => 1
            | .node rightData rightLeft rightRight rightHeight =>
                1 + deleteNodeCalls (Record.tunnelId data) (setMinData data
                  (.node rightData rightLeft rightRight rightHeight))
termination_by node => node.size
decreasing_by
  · exact HeightTree.size_left_lt ..
  · exact HeightTree.size_right_lt ..
  · rw [setMinData_size]
    exact HeightTree.size_right_lt ..

/-- The nested calls of `search_node`. -/
def searchNodeCalls (tunnelId : U16) : DbNode α → Nat
  | .null => 1
  | .node data left right _ =>
      if Record.compareDel tunnelId data = 0 then 1
      else if Record.compareDel tunnelId data < 0 then
        1 + searchNodeCalls tunnelId left
      else
        1 + searchNodeCalls tunnelId right

omit [Record α] in
/-- The nested calls of `display_tree` and of `display_tree_debug`; where
`display_tree` returns early it does not enter the right subtree. -/
def displayTreeCalls : DbNode α → Nat
  | .null => 1
  | .node _ left right _ =>
      1 + max (displayTreeCalls left) (displayTreeCalls right)

theorem insertNodeCalls_le (data : α) (node : DbNode α) :
    insertNodeCalls data node ≤ node.depth + 1 := by
  fun_induction insertNodeCalls data node with
  | case1 => simp
  | case2 nodeData left right height cmpResult below ih =>
      rw [depth_node]
      omega
  | case3 nodeData left right height cmpResult notBelow above ih =>
      rw [depth_node]
      omega
  | case4 => simp

theorem deleteNodeCalls_le (tunnelId : U16) (node : DbNode α) :
    deleteNodeCalls tunnelId node ≤ node.depth + 1 := by
  fun_induction deleteNodeCalls tunnelId node with
  | case1 => simp
  | case2 tunnelId data left right height below ih =>
      rw [depth_node]
      omega
  | case3 tunnelId data left right height notBelow above ih =>
      rw [depth_node]
      omega
  | case4 => simp
  | case5 => simp
  | case6 tunnelId data height notBelow notAbove leftData leftLeft leftRight
      leftHeight rightData rightLeft rightRight rightHeight ih =>
      rw [setMinData_depth] at ih
      rw [depth_node]
      omega

theorem searchNodeCalls_le (tunnelId : U16) (node : DbNode α) :
    searchNodeCalls tunnelId node ≤ node.depth + 1 := by
  fun_induction searchNodeCalls tunnelId node with
  | case1 => simp
  | case2 => simp
  | case3 data left right height notHere below ih =>
      rw [depth_node]
      omega
  | case4 data left right height notHere notBelow ih =>
      rw [depth_node]
      omega

omit [Record α] in
theorem displayTreeCalls_eq (node : DbNode α) :
    displayTreeCalls node = node.depth + 1 := by
  induction node with
  | null => rfl
  | node data left right height ihLeft ihRight =>
      rw [displayTreeCalls, ihLeft, ihRight, depth_node]
      omega

theorem RecordTree.size_le (table : RecordTree α) :
    table.tree.size ≤ 65536 := by
  apply size_le_of_keys Record.key
  · exact (List.pairwise_map.mpr table.ordered).imp Nat.ne_of_lt
  · intro record _
    exact (Record.tunnelId record).isLt

theorem RecordTree.depth_le (table : RecordTree α) :
    table.tree.depth ≤ 22 := by
  have size := table.size_le
  have large : table.tree.size + 1 < Nat.fib (23 + 2) := by
    have fib : Nat.fib (23 + 2) = 75025 := by decide +kernel
    omega
  exact Nat.le_of_lt_succ (depth_lt_of_fib table.avl large)

/-- After every history of calls the tree has at most 22 levels and no
function opens more than 23 calls at once. -/
theorem treeCalls_depth (calls : List (Bool × TreeCall α)) :
    ∃ node, runCalls calls (.null : DbNode α) = some node ∧
      getHeight node ≤ 22 ∧ node.depth ≤ 22 ∧
      (∀ data, insertNodeCalls data node ≤ 23) ∧
      (∀ tunnelId, deleteNodeCalls tunnelId node ≤ 23) ∧
      (∀ tunnelId, searchNodeCalls tunnelId node ≤ 23) ∧
      displayTreeCalls node ≤ 23 := by
  obtain ⟨table, run⟩ := runCalls_keeps calls (RecordTree.null : RecordTree α)
  have depth := table.depth_le
  refine ⟨table.tree, run, ?_, depth, ?_, ?_, ?_, ?_⟩
  · rwa [getHeight_eq_depth table.avl]
  · intro data
    exact (insertNodeCalls_le data table.tree).trans (by omega)
  · intro tunnelId
    exact (deleteNodeCalls_le tunnelId table.tree).trans (by omega)
  · intro tunnelId
    exact (searchNodeCalls_le tunnelId table.tree).trans (by omega)
  · rw [displayTreeCalls_eq]
    omega

end Rsvpd
