import Rsvpd.Tree
import Mathlib.Tactic.Linarith

/-!
# AVL balance of insertion and deletion

`insert_node` picks its rotation by comparing keys and `delete_node` by
balance factors.  Both are reduced to the same two shapes: a single rotation
of a node whose heavy child leans outwards, and a double rotation of a node
whose heavy child leans inwards.
-/

namespace Rsvpd

open HeightTree

variable {α : Type}

theorem getHeight_eq_depth {node : DbNode α} (avl : node.Avl) :
    getHeight node = node.depth := by
  cases node with
  | null => rfl
  | node data left right height => exact avl.1

@[simp] theorem withHeight_depth (data : α) (left right : DbNode α) :
    (withHeight data left right).depth = 1 + max left.depth right.depth := rfl

theorem withHeight_avl {data : α} {left right : DbNode α}
    (leftAvl : left.Avl) (rightAvl : right.Avl)
    (leftNear : left.depth ≤ right.depth + 1)
    (rightNear : right.depth ≤ left.depth + 1) :
    (withHeight data left right).Avl := by
  refine ⟨?_, leftNear, rightNear, leftAvl, rightAvl⟩
  rw [getHeight_eq_depth leftAvl, getHeight_eq_depth rightAvl]

theorem getBalance_withHeight (data : α) {left right : DbNode α}
    (leftAvl : left.Avl) (rightAvl : right.Avl) :
    getBalance (withHeight data left right) =
      (left.depth : Int) - (right.depth : Int) := by
  simp [getBalance, withHeight, getHeight_eq_depth leftAvl,
    getHeight_eq_depth rightAvl]

theorem getBalance_node {data : α} {left right : DbNode α} {height : Nat}
    (avl : (HeightTree.node data left right height).Avl) :
    getBalance (HeightTree.node data left right height) =
      (left.depth : Int) - (right.depth : Int) := by
  obtain ⟨_, _, _, leftAvl, rightAvl⟩ := avl
  simp [getBalance, getHeight_eq_depth leftAvl, getHeight_eq_depth rightAvl]

theorem rightRotate_single (data : α) {leftData : α}
    {leftLeft leftRight right : DbNode α} {leftHeight height : Nat}
    (leftAvl : (HeightTree.node leftData leftLeft leftRight leftHeight).Avl)
    (rightAvl : right.Avl)
    (heavy : max leftLeft.depth leftRight.depth = right.depth + 1)
    (outwards : leftRight.depth ≤ leftLeft.depth) :
    ∃ rotated,
      rightRotate (.node data
        (.node leftData leftLeft leftRight leftHeight) right height) =
          some rotated ∧
      rotated.Avl ∧
      rotated.depth = leftRight.depth + 2 := by
  obtain ⟨_, leftNear, rightNear, leftLeftAvl, leftRightAvl⟩ := leftAvl
  refine ⟨_, rfl, ?_, ?_⟩
  · apply withHeight_avl leftLeftAvl
    · apply withHeight_avl leftRightAvl rightAvl <;> omega
    · rw [withHeight_depth]; omega
    · rw [withHeight_depth]; omega
  · rw [withHeight_depth, withHeight_depth]; omega

theorem leftRotate_single (data : α) {rightData : α}
    {left rightLeft rightRight : DbNode α} {rightHeight height : Nat}
    (leftAvl : left.Avl)
    (rightAvl : (HeightTree.node rightData rightLeft rightRight
      rightHeight).Avl)
    (heavy : max rightLeft.depth rightRight.depth = left.depth + 1)
    (outwards : rightLeft.depth ≤ rightRight.depth) :
    ∃ rotated,
      leftRotate (.node data left
        (.node rightData rightLeft rightRight rightHeight) height) =
          some rotated ∧
      rotated.Avl ∧
      rotated.depth = rightLeft.depth + 2 := by
  obtain ⟨_, leftNear, rightNear, rightLeftAvl, rightRightAvl⟩ := rightAvl
  refine ⟨_, rfl, ?_, ?_⟩
  · refine withHeight_avl ?_ rightRightAvl ?_ ?_
    · apply withHeight_avl leftAvl rightLeftAvl <;> omega
    · rw [withHeight_depth]; omega
    · rw [withHeight_depth]; omega
  · rw [withHeight_depth, withHeight_depth]; omega

theorem rightRotate_double (data : α) {leftData : α}
    {leftLeft leftRight right : DbNode α} {leftHeight height : Nat}
    (leftAvl : (HeightTree.node leftData leftLeft leftRight leftHeight).Avl)
    (rightAvl : right.Avl)
    (heavy : max leftLeft.depth leftRight.depth = right.depth + 1)
    (inwards : leftLeft.depth < leftRight.depth) :
    ∃ left' rotated,
      leftRotate (.node leftData leftLeft leftRight leftHeight) =
        some left' ∧
      rightRotate (.node data left' right height) = some rotated ∧
      rotated.Avl ∧ rotated.depth = right.depth + 2 := by
  obtain ⟨_, leftNear, rightNear, leftLeftAvl, leftRightAvl⟩ := leftAvl
  obtain ⟨midData, midLeft, midRight, midHeight, rfl⟩ :=
    exists_node_of_depth_pos (show 0 < leftRight.depth by omega)
  obtain ⟨_, midLeftNear, midRightNear, midLeftAvl, midRightAvl⟩ :=
    leftRightAvl
  rw [depth_node] at *
  refine ⟨_, _, rfl, rfl, ?_, ?_⟩
  · apply withHeight_avl
    · apply withHeight_avl leftLeftAvl midLeftAvl <;> omega
    · apply withHeight_avl midRightAvl rightAvl <;> omega
    · rw [withHeight_depth, withHeight_depth]; omega
    · rw [withHeight_depth, withHeight_depth]; omega
  · rw [withHeight_depth, withHeight_depth, withHeight_depth]; omega

theorem leftRotate_double (data : α) {rightData : α}
    {left rightLeft rightRight : DbNode α} {rightHeight height : Nat}
    (leftAvl : left.Avl)
    (rightAvl : (HeightTree.node rightData rightLeft rightRight
      rightHeight).Avl)
    (heavy : max rightLeft.depth rightRight.depth = left.depth + 1)
    (inwards : rightRight.depth < rightLeft.depth) :
    ∃ right' rotated,
      rightRotate (.node rightData rightLeft rightRight rightHeight) =
        some right' ∧
      leftRotate (.node data left right' height) = some rotated ∧
      rotated.Avl ∧ rotated.depth = left.depth + 2 := by
  obtain ⟨_, leftNear, rightNear, rightLeftAvl, rightRightAvl⟩ := rightAvl
  obtain ⟨midData, midLeft, midRight, midHeight, rfl⟩ :=
    exists_node_of_depth_pos (show 0 < rightLeft.depth by omega)
  obtain ⟨_, midLeftNear, midRightNear, midLeftAvl, midRightAvl⟩ :=
    rightLeftAvl
  rw [depth_node] at *
  refine ⟨_, _, rfl, rfl, ?_, ?_⟩
  · apply withHeight_avl
    · apply withHeight_avl leftAvl midLeftAvl <;> omega
    · apply withHeight_avl midRightAvl rightRightAvl <;> omega
    · rw [withHeight_depth, withHeight_depth]; omega
    · rw [withHeight_depth, withHeight_depth]; omega
  · rw [withHeight_depth, withHeight_depth, withHeight_depth]; omega

theorem deleteRebalance_near (data : α) {left right : DbNode α}
    (leftAvl : left.Avl) (rightAvl : right.Avl)
    (leftNear : left.depth ≤ right.depth + 1)
    (rightNear : right.depth ≤ left.depth + 1) :
    deleteRebalance data left right = some (withHeight data left right) := by
  have balance := getBalance_withHeight data leftAvl rightAvl
  have notLeft : ¬getBalance (withHeight data left right) > 1 := by omega
  have notRight : ¬getBalance (withHeight data left right) < -1 := by omega
  rw [deleteRebalance, if_neg notLeft, if_neg notRight]

theorem deleteRebalance_leftHeavy (data : α) {left right : DbNode α}
    (leftAvl : left.Avl) (rightAvl : right.Avl)
    (heavy : left.depth = right.depth + 2) :
    ∃ balanced, deleteRebalance data left right = some balanced ∧
      balanced.Avl ∧ left.depth ≤ balanced.depth ∧
      balanced.depth ≤ left.depth + 1 := by
  have balance := getBalance_withHeight data leftAvl rightAvl
  obtain ⟨leftData, leftLeft, leftRight, leftHeight, rfl⟩ :=
    exists_node_of_depth_pos (show 0 < left.depth by omega)
  have lean := getBalance_node leftAvl
  rw [depth_node] at *
  by_cases outwards : leftRight.depth ≤ leftLeft.depth
  · obtain ⟨rotated, step, avl, depth⟩ :=
      rightRotate_single data leftAvl rightAvl (by omega) outwards
    refine ⟨rotated, ?_, avl, ?_, ?_⟩
    · rw [deleteRebalance, if_pos (by omega), if_pos (by omega)]
      exact step
    all_goals have := leftAvl.2.1; omega
  · obtain ⟨left', rotated, inner, outer, avl, depth⟩ :=
      rightRotate_double data leftAvl rightAvl (by omega) (by omega)
    refine ⟨rotated, ?_, avl, ?_, ?_⟩
    · rw [deleteRebalance, if_pos (by omega), if_neg (by omega), inner]
      exact outer
    all_goals omega

theorem deleteRebalance_rightHeavy (data : α) {left right : DbNode α}
    (leftAvl : left.Avl) (rightAvl : right.Avl)
    (heavy : right.depth = left.depth + 2) :
    ∃ balanced, deleteRebalance data left right = some balanced ∧
      balanced.Avl ∧ right.depth ≤ balanced.depth ∧
      balanced.depth ≤ right.depth + 1 := by
  have balance := getBalance_withHeight data leftAvl rightAvl
  obtain ⟨rightData, rightLeft, rightRight, rightHeight, rfl⟩ :=
    exists_node_of_depth_pos (show 0 < right.depth by omega)
  have lean := getBalance_node rightAvl
  rw [depth_node] at *
  by_cases outwards : rightLeft.depth ≤ rightRight.depth
  · obtain ⟨rotated, step, avl, depth⟩ :=
      leftRotate_single data leftAvl rightAvl (by omega) outwards
    refine ⟨rotated, ?_, avl, ?_, ?_⟩
    · rw [deleteRebalance, if_neg (by omega), if_pos (by omega),
        if_pos (by omega)]
      exact step
    all_goals have := rightAvl.2.2.1; omega
  · obtain ⟨right', rotated, inner, outer, avl, depth⟩ :=
      leftRotate_double data leftAvl rightAvl (by omega) (by omega)
    refine ⟨rotated, ?_, avl, ?_, ?_⟩
    · rw [deleteRebalance, if_neg (by omega), if_pos (by omega),
        if_neg (by omega), inner]
      exact outer
    all_goals omega

/-- Rebalancing repairs any node whose AVL children differ by at most two
levels, and never loses more than one level. -/
theorem deleteRebalance_avl (data : α) {left right : DbNode α}
    (leftAvl : left.Avl) (rightAvl : right.Avl)
    (leftNear : left.depth ≤ right.depth + 2)
    (rightNear : right.depth ≤ left.depth + 2) :
    ∃ balanced, deleteRebalance data left right = some balanced ∧
      balanced.Avl ∧
      max left.depth right.depth ≤ balanced.depth ∧
      balanced.depth ≤ 1 + max left.depth right.depth ∧
      (left.depth ≤ right.depth + 1 → right.depth ≤ left.depth + 1 →
        balanced.depth = 1 + max left.depth right.depth) := by
  by_cases leftHeavy : left.depth = right.depth + 2
  · obtain ⟨balanced, step, avl, low, high⟩ :=
      deleteRebalance_leftHeavy data leftAvl rightAvl leftHeavy
    refine ⟨balanced, step, avl, ?_, ?_, ?_⟩
    all_goals omega
  · by_cases rightHeavy : right.depth = left.depth + 2
    · obtain ⟨balanced, step, avl, low, high⟩ :=
        deleteRebalance_rightHeavy data leftAvl rightAvl rightHeavy
      refine ⟨balanced, step, avl, ?_, ?_, ?_⟩
      all_goals omega
    · have left' : left.depth ≤ right.depth + 1 := by omega
      have right' : right.depth ≤ left.depth + 1 := by omega
      have depth := withHeight_depth data left right
      refine ⟨withHeight data left right,
        deleteRebalance_near data leftAvl rightAvl left' right',
        withHeight_avl leftAvl rightAvl left' right', ?_, ?_, ?_⟩
      all_goals omega

theorem deleteRebalance_node {data : α} {left right : DbNode α} {height : Nat}
    (avl : (HeightTree.node data left right height).Avl) :
    ∃ balanced, deleteRebalance data left right = some balanced ∧
      balanced.Avl ∧
      balanced.depth = (HeightTree.node data left right height).depth := by
  obtain ⟨_, leftNear, rightNear, leftAvl, rightAvl⟩ := avl
  exact ⟨_, deleteRebalance_near data leftAvl rightAvl leftNear rightNear,
    withHeight_avl leftAvl rightAvl leftNear rightNear,
    withHeight_depth data left right⟩

theorem setMinData_depth (data : α) (node : DbNode α) :
    (setMinData data node).depth = node.depth := by
  fun_induction setMinData data node with
  | case1 => rfl
  | case2 => rfl
  | case3 nodeData leftData leftLeft leftRight leftHeight right height ih =>
      rw [depth_node, ih, depth_node _ (.node _ _ _ _)]

theorem setMinData_avl {data : α} {node : DbNode α} (avl : node.Avl) :
    (setMinData data node).Avl := by
  fun_induction setMinData data node with
  | case1 => exact avl
  | case2 => exact avl
  | case3 nodeData leftData leftLeft leftRight leftHeight right height ih =>
      obtain ⟨cached, leftNear, rightNear, leftAvl, rightAvl⟩ := avl
      rw [avl_node, setMinData_depth]
      exact ⟨cached, leftNear, rightNear, ih leftAvl, rightAvl⟩

theorem exists_minData {data : α} {left right : DbNode α} {height : Nat} :
    ∃ least, minData (.node data left right height) = some least := by
  induction left generalizing data right height with
  | null => exact ⟨data, rfl⟩
  | node leftData leftLeft leftRight leftHeight ihLeft ihRight =>
      exact ihLeft

/-- `delete_node` never reads through NULL on an AVL tree, keeps it an AVL
tree, and shortens it by at most one level. -/
theorem deleteNode_avl [Record α] (tunnelId : U16) {node : DbNode α}
    (avl : node.Avl) :
    ∃ deleted freed, deleteNode tunnelId node = some (deleted, freed) ∧
      deleted.Avl ∧ deleted.depth ≤ node.depth ∧
      node.depth ≤ deleted.depth + 1 := by
  fun_induction deleteNode tunnelId node with
  | case1 target => exact ⟨.null, [], rfl, trivial, by simp, by simp⟩
  | case2 target data left right height below ih =>
      obtain ⟨_, leftNear, rightNear, leftAvl, rightAvl⟩ := avl
      obtain ⟨left', freed, step, left'Avl, notGrown, shrunk⟩ := ih leftAvl
      obtain ⟨balanced, balance, balancedAvl, low, high, exact'⟩ :=
        deleteRebalance_avl data left'Avl rightAvl
          (by omega) (by omega)
      refine ⟨balanced, freed, by simp [step, balance], balancedAvl, ?_, ?_⟩
      all_goals rw [depth_node]; omega
  | case3 target data left right height notBelow above ih =>
      obtain ⟨_, leftNear, rightNear, leftAvl, rightAvl⟩ := avl
      obtain ⟨right', freed, step, right'Avl, notGrown, shrunk⟩ := ih rightAvl
      obtain ⟨balanced, balance, balancedAvl, low, high, exact'⟩ :=
        deleteRebalance_avl data leftAvl right'Avl
          (by omega) (by omega)
      refine ⟨balanced, freed, by simp [step, balance], balancedAvl, ?_, ?_⟩
      all_goals rw [depth_node]; omega
  | case4 target data height notBelow notAbove =>
      exact ⟨.null, [data], rfl, trivial, by simp, by simp⟩
  | case5 target data height notBelow notAbove tempData tempLeft tempRight
      tempHeight =>
      obtain ⟨_, leftNear, rightNear, leftAvl, rightAvl⟩ := avl
      obtain ⟨balanced, balance, balancedAvl, depth⟩ :=
        deleteRebalance_node rightAvl
      refine ⟨balanced, [data], by simp [balance], balancedAvl, ?_, ?_⟩
      all_goals rw [depth]; simp only [depth_node, depth_null]; omega
  | case6 target data height notBelow notAbove tempData tempLeft tempRight
      tempHeight =>
      obtain ⟨_, leftNear, rightNear, leftAvl, rightAvl⟩ := avl
      obtain ⟨balanced, balance, balancedAvl, depth⟩ :=
        deleteRebalance_node leftAvl
      refine ⟨balanced, [data], by simp [balance], balancedAvl, ?_, ?_⟩
      all_goals rw [depth]; simp only [depth_node, depth_null]; omega
  | case7 target data height notBelow notAbove leftData leftLeft leftRight
      leftHeight rightData rightLeft rightRight rightHeight right ih =>
      obtain ⟨_, leftNear, rightNear, leftAvl, rightAvl⟩ := avl
      obtain ⟨least, leastFound⟩ : ∃ least, minData right = some least :=
        exists_minData
      have rightDepth : right.depth = (HeightTree.node rightData rightLeft
        rightRight rightHeight).depth := rfl
      have swappedAvl : (setMinData data right).Avl := setMinData_avl rightAvl
      obtain ⟨right', freed, step, right'Avl, notGrown, shrunk⟩ :=
        ih swappedAvl
      rw [setMinData_depth] at notGrown shrunk
      obtain ⟨balanced, balance, balancedAvl, low, high, same⟩ :=
        deleteRebalance_avl least leftAvl right'Avl
          (by omega) (by omega)
      refine ⟨balanced, freed, by simp [leastFound, step, balance],
        balancedAvl, ?_, ?_⟩
      all_goals rw [depth_node _ (.node _ _ _ _)]; omega

/-- How an insertion below `data` may change an AVL tree: it keeps its depth,
or it grows by one level and then leans towards the side of the new record. -/
def GrewTowards [Record α] (data : α) (before after : DbNode α) : Prop :=
  after.depth = before.depth ∨
    after.depth = before.depth + 1 ∧
      (before = .null ∨
        ∃ nodeData left right height,
          after = .node nodeData left right height ∧
            ((Record.key data < Record.key nodeData ∧
                left.depth = right.depth + 1) ∨
              (Record.key nodeData < Record.key data ∧
                right.depth = left.depth + 1)))

theorem insertRebalance_near [Record α] (data nodeData : α)
    {left right : DbNode α} (leftAvl : left.Avl) (rightAvl : right.Avl)
    (leftNear : left.depth ≤ right.depth + 1)
    (rightNear : right.depth ≤ left.depth + 1) :
    insertRebalance data nodeData left right =
      some (withHeight nodeData left right) := by
  have balance :=
    getBalance_withHeight nodeData leftAvl rightAvl
  have notLeft : ¬getBalance (withHeight nodeData left right) > 1 := by omega
  have notRight : ¬getBalance (withHeight nodeData left right) < -1 := by
    omega
  rw [insertRebalance, if_neg notLeft, if_neg notRight]

/-- After an insertion on the left, the key comparison picks the rotation
that repairs the node. -/
theorem insertRebalance_left [Record α] {data nodeData : α}
    {old left right : DbNode α} (below : Record.key data < Record.key nodeData)
    (leftAvl : left.Avl) (rightAvl : right.Avl)
    (grew : GrewTowards data old left)
    (oldNear : old.depth ≤ right.depth + 1)
    (rightNear : right.depth ≤ old.depth + 1) :
    ∃ balanced, insertRebalance data nodeData left right = some balanced ∧
      balanced.Avl ∧
      GrewTowards data (.node nodeData old right 0) balanced := by
  have balance :=
    getBalance_withHeight nodeData leftAvl rightAvl
  by_cases near : left.depth ≤ right.depth + 1
  · -- No rotation: the node grew only if its left side became the deeper one.
    have rightNear' : right.depth ≤ left.depth + 1 := by
      rcases grew with same | ⟨taller, _⟩ <;> omega
    refine ⟨_, insertRebalance_near _ _ leftAvl rightAvl near rightNear',
      withHeight_avl leftAvl rightAvl near rightNear', ?_⟩
    by_cases deeper : left.depth = right.depth + 1 ∧ old.depth = right.depth
    · refine Or.inr ⟨?_, Or.inr ⟨nodeData, left, right, _, rfl,
        Or.inl ⟨below, deeper.1⟩⟩⟩
      rw [withHeight_depth, depth_node]; omega
    · left
      rw [withHeight_depth, depth_node]
      rcases grew with same | ⟨taller, _⟩ <;> omega
  · rcases grew with same | ⟨taller, rfl | leaning⟩
    · omega
    · rw [depth_null] at *; omega
    · obtain ⟨leftData, leftLeft, leftRight, leftHeight, rfl, lean⟩ := leaning
      have heavy : getBalance (withHeight nodeData
          (.node leftData leftLeft leftRight leftHeight) right) > 1 := by
        omega
      rw [depth_node] at *
      rcases lean with ⟨keyBelow, outwards⟩ | ⟨keyAbove, inwards⟩
      · obtain ⟨rotated, step, avl, depth⟩ :=
          rightRotate_single nodeData leftAvl rightAvl
            (by omega) (by omega)
        refine ⟨rotated, ?_, avl, ?_⟩
        · simp only [insertRebalance, if_pos heavy, data?,
            Option.bind_eq_bind, Option.bind_some,
            if_pos ((compareInsert_neg data leftData).mpr keyBelow)]
          exact step
        · left
          rw [depth_node]; omega
      · obtain ⟨left', rotated, inner, outer, avl, depth⟩ :=
          rightRotate_double nodeData leftAvl rightAvl
            (by omega) (by omega)
        refine ⟨rotated, ?_, avl, ?_⟩
        · have notBelow : ¬Record.compareInsert data leftData < 0 := by
            rw [compareInsert_neg]; omega
          simp only [insertRebalance, if_pos heavy, data?,
            Option.bind_eq_bind, Option.bind_some, if_neg notBelow,
            if_pos ((compareInsert_pos data leftData).mpr keyAbove), inner]
          exact outer
        · left
          rw [depth_node]; omega

theorem insertRebalance_right [Record α] {data nodeData : α}
    {old left right : DbNode α} (above : Record.key nodeData < Record.key data)
    (leftAvl : left.Avl) (rightAvl : right.Avl)
    (grew : GrewTowards data old right)
    (oldNear : old.depth ≤ left.depth + 1)
    (leftNear : left.depth ≤ old.depth + 1) :
    ∃ balanced, insertRebalance data nodeData left right = some balanced ∧
      balanced.Avl ∧
      GrewTowards data (.node nodeData left old 0) balanced := by
  have balance :=
    getBalance_withHeight nodeData leftAvl rightAvl
  by_cases near : right.depth ≤ left.depth + 1
  · have leftNear' : left.depth ≤ right.depth + 1 := by
      rcases grew with same | ⟨taller, _⟩ <;> omega
    refine ⟨_, insertRebalance_near _ _ leftAvl rightAvl leftNear' near,
      withHeight_avl leftAvl rightAvl leftNear' near, ?_⟩
    by_cases deeper : right.depth = left.depth + 1 ∧ old.depth = left.depth
    · refine Or.inr ⟨?_, Or.inr ⟨nodeData, left, right, _, rfl,
        Or.inr ⟨above, deeper.1⟩⟩⟩
      rw [withHeight_depth, depth_node]; omega
    · left
      rw [withHeight_depth, depth_node]
      rcases grew with same | ⟨taller, _⟩ <;> omega
  · rcases grew with same | ⟨taller, rfl | leaning⟩
    · omega
    · rw [depth_null] at *; omega
    · obtain ⟨rightData, rightLeft, rightRight, rightHeight, rfl, lean⟩ :=
        leaning
      have notHeavy : ¬getBalance (withHeight nodeData left
          (.node rightData rightLeft rightRight rightHeight)) > 1 := by
        omega
      have heavy : getBalance (withHeight nodeData left
          (.node rightData rightLeft rightRight rightHeight)) < -1 := by
        omega
      rw [depth_node] at *
      rcases lean with ⟨keyBelow, inwards⟩ | ⟨keyAbove, outwards⟩
      · obtain ⟨right', rotated, inner, outer, avl, depth⟩ :=
          leftRotate_double nodeData leftAvl rightAvl
            (by omega) (by omega)
        refine ⟨rotated, ?_, avl, ?_⟩
        · have notAbove : ¬Record.compareInsert data rightData > 0 := by
            rw [gt_iff_lt, compareInsert_pos]; omega
          simp only [insertRebalance, if_neg notHeavy, if_pos heavy, data?,
            Option.bind_eq_bind, Option.bind_some, if_neg notAbove,
            if_pos ((compareInsert_neg data rightData).mpr keyBelow), inner]
          exact outer
        · left
          rw [depth_node]; omega
      · obtain ⟨rotated, step, avl, depth⟩ :=
          leftRotate_single nodeData leftAvl rightAvl
            (by omega) (by omega)
        refine ⟨rotated, ?_, avl, ?_⟩
        · simp only [insertRebalance, if_neg notHeavy, if_pos heavy, data?,
            Option.bind_eq_bind, Option.bind_some,
            if_pos ((compareInsert_pos data rightData).mpr keyAbove)]
          exact step
        · left
          rw [depth_node]; omega

theorem insertNode_avl [Record α] (malloc : Bool) (data : α) {node : DbNode α}
    (avl : node.Avl) :
    ∃ inserted, insertNode malloc data node = some inserted ∧
      inserted.Avl ∧ GrewTowards data node inserted := by
  induction node with
  | null =>
      refine ⟨_, rfl, ?_, ?_⟩
      · cases malloc <;> simp [createNode]
      · cases malloc
        · exact Or.inl rfl
        · exact Or.inr ⟨rfl, Or.inl rfl⟩
  | node nodeData left right height ihLeft ihRight =>
      have whole := avl
      obtain ⟨_, leftNear, rightNear, leftAvl, rightAvl⟩ := avl
      rcases Nat.lt_trichotomy (Record.key data) (Record.key nodeData) with
        below | same | above
      · obtain ⟨left', step, left'Avl, grew⟩ := ihLeft leftAvl
        obtain ⟨balanced, balance, balancedAvl, grown⟩ :=
          insertRebalance_left below left'Avl rightAvl grew leftNear rightNear
        refine ⟨balanced, ?_, balancedAvl, ?_⟩
        · simp [insertNode, compareInsert_neg, below, step, balance]
        · simpa [GrewTowards] using grown
      · refine ⟨_, ?_, whole, Or.inl rfl⟩
        simp [insertNode, compareInsert_neg, compareInsert_pos, same]
      · obtain ⟨right', step, right'Avl, grew⟩ := ihRight rightAvl
        obtain ⟨balanced, balance, balancedAvl, grown⟩ :=
          insertRebalance_right above leftAvl right'Avl grew
            rightNear leftNear
        refine ⟨balanced, ?_, balancedAvl, ?_⟩
        · simp [insertNode, compareInsert_neg, compareInsert_pos, above,
            Nat.lt_asymm above, step, balance]
        · simpa [GrewTowards] using grown

end Rsvpd
