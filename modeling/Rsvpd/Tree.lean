import Rsvpd.Lib.HeightTree
import Rsvpd.Record

/-!
# The AVL tree of path and reservation records

The tree functions of `rsvp_db.c`.  Their results live in `Option`: `none` is
a read through a NULL pointer, for instance a rotation of a node that lacks
the child it lifts.  `create_node` receives the outcome of its `malloc`, and
`delete_node` also returns the records it hands to `free`.
-/

namespace Rsvpd

/-- `struct db_node`; `NULL` is `HeightTree.null`. -/
abbrev DbNode := HeightTree

open HeightTree

variable {α : Type}

def getHeight : DbNode α → Nat
  | .null => 0
  | .node _ _ _ height => height

def getBalance : DbNode α → Int
  | .null => 0
  | .node _ left right _ => (getHeight left : Int) - (getHeight right : Int)

/-- `node->data`. -/
def data? : DbNode α → Option α
  | .null => none
  | .node data _ _ _ => some data

/-- A node whose height has just been recomputed from its children. -/
def withHeight (data : α) (left right : DbNode α) : DbNode α :=
  .node data left right (1 + max (getHeight left) (getHeight right))

def rightRotate : DbNode α → Option (DbNode α)
  | .node y (.node x xLeft t2 _) yRight _ =>
      some (withHeight x xLeft (withHeight y t2 yRight))
  | _ => none

def leftRotate : DbNode α → Option (DbNode α)
  | .node x xLeft (.node y t2 yRight _) _ =>
      some (withHeight y (withHeight x xLeft t2) yRight)
  | _ => none

/-- `create_node`; `malloc` says whether the allocation succeeds. -/
def createNode (malloc : Bool) (data : α) : DbNode α :=
  if malloc then .node data .null .null 1 else .null

/-- `min_node(node)->data`. -/
def minData : DbNode α → Option α
  | .null => none
  | .node data .null _ _ => some data
  | .node _ (.node leftData leftLeft leftRight leftHeight) _ _ =>
      minData (.node leftData leftLeft leftRight leftHeight)

def setMinData (data : α) : DbNode α → DbNode α
  | .null => .null
  | .node _ .null right height => .node data .null right height
  | .node nodeData (.node leftData leftLeft leftRight leftHeight) right
        height =>
      .node nodeData
        (setMinData data (.node leftData leftLeft leftRight leftHeight))
        right height

theorem setMinData_size (data : α) (node : DbNode α) :
    (setMinData data node).size = node.size := by
  fun_induction setMinData data node with
  | case1 => rfl
  | case2 => rfl
  | case3 nodeData leftData leftLeft leftRight leftHeight right height ih =>
      simp [ih]

section

variable [Record α]

/-- The end of `insert_node`: update the height and rebalance by comparing
keys.  The four tests of the source are grouped by the sign of `balance`. -/
def insertRebalance (data nodeData : α) (left right : DbNode α) :
    Option (DbNode α) := do
  let node := withHeight nodeData left right
  let balance := getBalance node
  if balance > 1 then
    let leftData ← data? left
    if Record.compareInsert data leftData < 0 then
      rightRotate node
    else if Record.compareInsert data leftData > 0 then
      let left ← leftRotate left
      rightRotate (.node nodeData left right (getHeight node))
    else
      some node
  else if balance < -1 then
    let rightData ← data? right
    if Record.compareInsert data rightData > 0 then
      leftRotate node
    else if Record.compareInsert data rightData < 0 then
      let right ← rightRotate right
      leftRotate (.node nodeData left right (getHeight node))
    else
      some node
  else
    some node

def insertNode (malloc : Bool) (data : α) : DbNode α → Option (DbNode α)
  | .null => some (createNode malloc data)
  | .node nodeData left right height => do
      let cmpResult := Record.compareInsert data nodeData
      if cmpResult < 0 then
        let left ← insertNode malloc data left
        insertRebalance data nodeData left right
      else if cmpResult > 0 then
        let right ← insertNode malloc data right
        insertRebalance data nodeData left right
      else
        some (.node nodeData left right height)

/-- The end of `delete_node`: update the height and rebalance by comparing
balance factors. -/
def deleteRebalance (nodeData : α) (left right : DbNode α) :
    Option (DbNode α) := do
  let node := withHeight nodeData left right
  let balance := getBalance node
  if balance > 1 then
    if getBalance left ≥ 0 then
      rightRotate node
    else
      let left ← leftRotate left
      rightRotate (.node nodeData left right (getHeight node))
  else if balance < -1 then
    if getBalance right ≤ 0 then
      leftRotate node
    else
      let right ← rightRotate right
      leftRotate (.node nodeData left right (getHeight node))
  else
    some node

/-- `delete_node`.  A node with two children swaps its record with the least
record of the right subtree and deletes again in there. -/
def deleteNode (tunnelId : U16) :
    DbNode α → Option (DbNode α × List α)
  | .null => some (.null, [])
  | .node data left right _ =>
      if Record.compareDel tunnelId data < 0 then do
        let (left, freed) ← deleteNode tunnelId left
        let node ← deleteRebalance data left right
        return (node, freed)
      else if Record.compareDel tunnelId data > 0 then do
        let (right, freed) ← deleteNode tunnelId right
        let node ← deleteRebalance data left right
        return (node, freed)
      else
        match left, right with
        | .null, .null => some (.null, [data])
        | .null, .node tempData tempLeft tempRight _
        | .node tempData tempLeft tempRight _, .null => do
            let node ← deleteRebalance tempData tempLeft tempRight
            return (node, [data])
        | .node leftData leftLeft leftRight leftHeight,
          .node rightData rightLeft rightRight rightHeight => do
            let right := .node rightData rightLeft rightRight rightHeight
            let dataKeep ← minData right
            let (right, freed) ←
              deleteNode (Record.tunnelId data) (setMinData data right)
            let node ← deleteRebalance dataKeep
              (.node leftData leftLeft leftRight leftHeight) right
            return (node, freed)
termination_by node => node.size
decreasing_by
  · exact HeightTree.size_left_lt ..
  · exact HeightTree.size_right_lt ..
  · rw [setMinData_size]
    exact HeightTree.size_right_lt ..

def searchNode (tunnelId : U16) : DbNode α → DbNode α
  | .null => .null
  | .node data left right height =>
      if Record.compareDel tunnelId data = 0 then
        .node data left right height
      else if Record.compareDel tunnelId data < 0 then
        searchNode tunnelId left
      else
        searchNode tunnelId right

end

end Rsvpd
