import Rsvpd.Lib.Heap
import Rsvpd.TreeMap

/-!
# The insertion on nodes in memory

`insert_node` as the source has it, with node addresses, stores into `left`,
`right` and `height`, and pointers as results.  A tree of pairs says which
node lies at which address; on the memory of such a tree the insertion does
what `insertNode` does on the tree.
-/

namespace Rsvpd

/-- `struct db_node` in memory. -/
structure NodeCell (α : Type) where
  data : α
  left : Pointer
  right : Pointer
  height : Nat
deriving DecidableEq

abbrev NodeHeap (α : Type) := Heap (NodeCell α)

variable {α : Type}

section Functions

variable (heap : NodeHeap α)

/-- `node->left = left`. -/
def setLeftAt (node : Nat) (left : Pointer) : Option (NodeHeap α) := do
  let cell ← heap node
  return heap.write node { cell with left := left }

/-- `node->right = right`. -/
def setRightAt (node : Nat) (right : Pointer) : Option (NodeHeap α) := do
  let cell ← heap node
  return heap.write node { cell with right := right }

def getHeightAt : Pointer → Option Nat
  | none => some 0
  | some node => do
      let cell ← heap node
      return cell.height

def getBalanceAt : Pointer → Option Int
  | none => some 0
  | some node => do
      let cell ← heap node
      let left ← getHeightAt heap cell.left
      let right ← getHeightAt heap cell.right
      return (left : Int) - (right : Int)

/-- `node->height = 1 + max(get_height(node->left), get_height(node->right))`.
-/
def updateHeightAt (node : Nat) : Option (NodeHeap α) := do
  let cell ← heap node
  let left ← getHeightAt heap cell.left
  let right ← getHeightAt heap cell.right
  return heap.write node { cell with height := 1 + max left right }

def rightRotateAt (y : Nat) : Option (Pointer × NodeHeap α) := do
  let x ← (← heap y).left
  let t2 := (← heap x).right
  let heap ← setRightAt heap x (some y)
  let heap ← setLeftAt heap y t2
  let heap ← updateHeightAt heap y
  let heap ← updateHeightAt heap x
  return (some x, heap)

def leftRotateAt (x : Nat) : Option (Pointer × NodeHeap α) := do
  let y ← (← heap x).right
  let t2 := (← heap y).left
  let heap ← setLeftAt heap y (some x)
  let heap ← setRightAt heap x t2
  let heap ← updateHeightAt heap x
  let heap ← updateHeightAt heap y
  return (some y, heap)

/-- `create_node`; `malloc` is the address that it gets, if any. -/
def createNodeAt (malloc : Pointer) (data : α) : Pointer × NodeHeap α :=
  match malloc with
  | none => (none, heap)
  | some node => (some node, heap.write node ⟨data, none, none, 1⟩)

variable [Record α]

/-- The rotations at the end of `insert_node`; the four tests are grouped by
the sign of `balance`. -/
def insertRotateAt (data : α) (node : Nat) :
    Option (Pointer × NodeHeap α) := do
  let cell ← heap node
  let balance ← getBalanceAt heap (some node)
  if balance > 1 then
    let leftData := (← heap (← cell.left)).data
    if Record.compareInsert data leftData < 0 then
      rightRotateAt heap node
    else if Record.compareInsert data leftData > 0 then
      let (left, heap) ← leftRotateAt heap (← cell.left)
      let heap ← setLeftAt heap node left
      rightRotateAt heap node
    else
      return (some node, heap)
  else if balance < -1 then
    let rightData := (← heap (← cell.right)).data
    if Record.compareInsert data rightData > 0 then
      leftRotateAt heap node
    else if Record.compareInsert data rightData < 0 then
      let (right, heap) ← rightRotateAt heap (← cell.right)
      let heap ← setRightAt heap node right
      leftRotateAt heap node
    else
      return (some node, heap)
  else
    return (some node, heap)

/-- The end of `insert_node`. -/
def insertRebalanceAt (data : α) (node : Nat) :
    Option (Pointer × NodeHeap α) := do
  let heap ← updateHeightAt heap node
  insertRotateAt heap data node

/-- `insert_node`, with a bound on the depth of its recursion. -/
def insertNodeAt (malloc : Pointer) (data : α) :
    Nat → NodeHeap α → Pointer → Option (Pointer × NodeHeap α)
  | _, heap, none => some (createNodeAt heap malloc data)
  | 0, _, some _ => none
  | fuel + 1, heap, some node => do
      let cell ← heap node
      let cmpResult := Record.compareInsert data cell.data
      if cmpResult < 0 then
        let (left, heap) ← insertNodeAt malloc data fuel heap cell.left
        let heap ← setLeftAt heap node left
        insertRebalanceAt heap data node
      else if cmpResult > 0 then
        let (right, heap) ← insertNodeAt malloc data fuel heap cell.right
        let heap ← setRightAt heap node right
        insertRebalanceAt heap data node
      else
        return (some node, heap)

end Functions

/-- The record of a node, whatever its address. -/
instance [Record α] : Record (Nat × α) where
  tunnelId node := Record.tunnelId node.2
  compareInsert a b := Record.compareInsert a.2 b.2
  compareDel tunnelId b := Record.compareDel tunnelId b.2
  compareInsert_eq a b := Record.compareInsert_eq a.2 b.2
  compareDel_eq tunnelId b := Record.compareDel_eq tunnelId b.2

/-- The pointer to a tree whose nodes carry their addresses. -/
def root : DbNode (Nat × α) → Pointer
  | .null => none
  | .node node _ _ _ => some node.1

/-- The addresses of the nodes. -/
def addresses (tree : DbNode (Nat × α)) : List Nat :=
  tree.toList.map Prod.fst

/-- Every node of the tree lies at its address, with pointers to its children.
-/
def Stores (heap : NodeHeap α) : DbNode (Nat × α) → Prop
  | .null => True
  | .node node left right height =>
      heap node.1 = some ⟨node.2, root left, root right, height⟩ ∧
        Stores heap left ∧ Stores heap right

@[simp] theorem root_null :
    root (.null : DbNode (Nat × α)) = none := rfl

@[simp] theorem root_node (node : Nat × α) (left right : DbNode (Nat × α))
    (height : Nat) : root (.node node left right height) = some node.1 := rfl

@[simp] theorem addresses_node (node : Nat × α)
    (left right : DbNode (Nat × α)) (height : Nat) :
    addresses (.node node left right height) =
      addresses left ++ node.1 :: addresses right := by
  simp [addresses]

theorem Stores.frame {heap heap' : NodeHeap α} {tree : DbNode (Nat × α)}
    (stores : Stores heap tree)
    (same : ∀ address ∈ addresses tree, heap' address = heap address) :
    Stores heap' tree := by
  induction tree with
  | null => trivial
  | node node left right height ihLeft ihRight =>
      obtain ⟨here, leftStored, rightStored⟩ := stores
      simp only [addresses_node, List.mem_append, List.mem_cons] at same
      exact ⟨(same _ (.inr (.inl rfl))).trans here,
        ihLeft leftStored fun address member => same _ (.inl member),
        ihRight rightStored fun address member =>
          same _ (.inr (.inr member))⟩

theorem Stores.write {heap : NodeHeap α} {tree : DbNode (Nat × α)}
    (stores : Stores heap tree) {address : Nat}
    (outside : address ∉ addresses tree) (cell : NodeCell α) :
    Stores (heap.write address cell) tree := by
  apply stores.frame
  intro other member
  apply heap.write_other cell
  rintro rfl
  exact outside member

theorem Stores.kept {heap heap' : NodeHeap α} {tree : DbNode (Nat × α)}
    {address : Nat} (stores : Stores heap tree)
    (kept : Heap.Kept [address] heap heap')
    (outside : address ∉ addresses tree) : Stores heap' tree := by
  apply stores.frame
  intro other member
  apply kept other
  rw [List.mem_singleton]
  rintro rfl
  exact outside member

theorem Stores.eq {heap heap' : NodeHeap α} {tree : DbNode (Nat × α)}
    (stores : Stores heap tree) (stores' : Stores heap' tree) :
    ∀ address ∈ addresses tree, heap' address = heap address := by
  induction tree with
  | null => simp [addresses]
  | node node left right height ihLeft ihRight =>
      obtain ⟨here, leftStored, rightStored⟩ := stores
      obtain ⟨here', leftStored', rightStored'⟩ := stores'
      intro address member
      simp only [addresses_node, List.mem_append, List.mem_cons] at member
      rcases member with below | rfl | above
      · exact ihLeft leftStored leftStored' address below
      · exact here'.trans here.symm
      · exact ihRight rightStored rightStored' address above

theorem getHeightAt_root {heap : NodeHeap α} {tree : DbNode (Nat × α)}
    (stores : Stores heap tree) :
    getHeightAt heap (root tree) = some (getHeight tree) := by
  cases tree with
  | null => rfl
  | node node left right height =>
      simp [root, getHeightAt, stores.1, getHeight]

section Node

variable {heap : NodeHeap α} {node : Nat × α}
  {left right : DbNode (Nat × α)} {height : Nat}
  (here : heap node.1 = some ⟨node.2, root left, root right, height⟩)
  (leftStored : Stores heap left) (rightStored : Stores heap right)

include here leftStored rightStored

theorem updateHeightAt_stores (leftOut : node.1 ∉ addresses left)
    (rightOut : node.1 ∉ addresses right) :
    ∃ heap', updateHeightAt heap node.1 = some heap' ∧
      Stores heap' (withHeight node left right) ∧
      Heap.Kept [node.1] heap heap' := by
  refine ⟨heap.write node.1 ⟨node.2, root left, root right,
    1 + max (getHeight left) (getHeight right)⟩, ?_, ?_, ?_⟩
  · simp [updateHeightAt, here, getHeightAt_root leftStored,
      getHeightAt_root rightStored]
  · exact ⟨heap.write_self .., leftStored.write leftOut _,
      rightStored.write rightOut _⟩
  · exact .write List.mem_cons_self _ _

theorem getBalanceAt_eq :
    getBalanceAt heap (some node.1) =
      some ((getHeight left : Int) - (getHeight right : Int)) := by
  simp [getBalanceAt, here, getHeightAt_root leftStored,
    getHeightAt_root rightStored]

end Node

theorem nodup_addresses_node {node : Nat × α} {left right : DbNode (Nat × α)}
    {height : Nat} :
    (addresses (.node node left right height)).Nodup ↔
      (addresses left).Nodup ∧ (addresses right).Nodup ∧
        node.1 ∉ addresses left ∧ node.1 ∉ addresses right ∧
        ∀ address ∈ addresses right, address ∉ addresses left := by
  rw [addresses_node, List.nodup_append, List.nodup_cons]
  constructor
  · rintro ⟨leftOnce, ⟨nodeRight, rightOnce⟩, apart⟩
    exact ⟨leftOnce, rightOnce,
      fun below => apart _ below _ List.mem_cons_self rfl, nodeRight,
      fun _ above below => apart _ below _ (List.mem_cons_of_mem _ above) rfl⟩
  · rintro ⟨leftOnce, rightOnce, nodeLeft, nodeRight, apart⟩
    refine ⟨leftOnce, ⟨nodeRight, rightOnce⟩, ?_⟩
    rintro address below _ member rfl
    rcases List.mem_cons.mp member with rfl | above
    · exact nodeLeft below
    · exact apart _ above below

/-- The result points to the tree, which lies in the new heap; no other
address has changed. -/
def Realizes (heap : NodeHeap α) (result : Option (Pointer × NodeHeap α))
    (tree : DbNode (Nat × α)) : Prop :=
  ∃ heap', result = some (root tree, heap') ∧ Stores heap' tree ∧
    Heap.Kept (addresses tree) heap heap'

theorem Realizes.after {heap heap' : NodeHeap α}
    {result : Option (Pointer × NodeHeap α)} {tree : DbNode (Nat × α)}
    (kept : Heap.Kept (addresses tree) heap heap')
    (realizes : Realizes heap' result tree) :
    Realizes heap result tree := by
  obtain ⟨heap'', returned, stored, kept'⟩ := realizes
  exact ⟨heap'', returned, stored, kept.trans kept'⟩

theorem rightRotateAt_realizes {heap : NodeHeap α} {y x : Nat × α}
    {xLeft t2 yRight : DbNode (Nat × α)} {xHeight yHeight : Nat}
    (stores : Stores heap
      (.node y (.node x xLeft t2 xHeight) yRight yHeight))
    (distinct : (addresses
      (.node y (.node x xLeft t2 xHeight) yRight yHeight)).Nodup) :
    Realizes heap (rightRotateAt heap y.1)
      (withHeight x xLeft (withHeight y t2 yRight)) := by
  obtain ⟨atY, ⟨atX, xLeftStored, t2Stored⟩, yRightStored⟩ := stores
  have memberX : x.1 ∈ addresses
      (withHeight x xLeft (withHeight y t2 yRight)) := by simp [withHeight]
  have memberY : y.1 ∈ addresses
      (withHeight x xLeft (withHeight y t2 yRight)) := by simp [withHeight]
  simp only [addresses_node, List.nodup_append, List.nodup_cons,
    List.mem_append, List.mem_cons] at distinct
  have yx : y.1 ≠ x.1 := by grind
  have xOut : x.1 ∉ addresses xLeft ∧ x.1 ∉ addresses t2 ∧
      x.1 ∉ addresses yRight := by grind
  have yOut : y.1 ∉ addresses xLeft ∧ y.1 ∉ addresses t2 ∧
      y.1 ∉ addresses yRight := by grind
  -- `x->right = y; y->left = T2`
  let heap1 := heap.write x.1 ⟨x.2, root xLeft, some y.1, xHeight⟩
  let heap2 := heap1.write y.1 ⟨y.2, root t2, root yRight, yHeight⟩
  have t2Stored2 : Stores heap2 t2 :=
    (t2Stored.write xOut.2.1 _).write yOut.2.1 _
  have yRightStored2 : Stores heap2 yRight :=
    (yRightStored.write xOut.2.2 _).write yOut.2.2 _
  -- the height of `y`, then that of `x` above it
  have atY2 : heap2 y.1 = some ⟨y.2, root t2, root yRight, yHeight⟩ :=
    heap1.write_self ..
  obtain ⟨heap3, heightY, yStored, kept3⟩ := updateHeightAt_stores
    atY2 t2Stored2 yRightStored2 yOut.2.1 yOut.2.2
  have xLeftStored3 : Stores heap3 xLeft :=
    ((xLeftStored.write xOut.1 _).write yOut.1 _).kept kept3 yOut.1
  have atX3 : heap3 x.1 = some ⟨x.2, root xLeft, some y.1, xHeight⟩ :=
    (kept3 x.1 (by simpa using yx.symm)).trans
      ((heap1.write_other _ yx.symm).trans (heap.write_self ..))
  have xAbove : x.1 ∉ addresses (withHeight y t2 yRight) := by
    simp only [withHeight, addresses_node, List.mem_append, List.mem_cons,
      not_or]
    exact ⟨xOut.2.1, yx.symm, xOut.2.2⟩
  obtain ⟨heap4, heightX, xStored, kept4⟩ :=
    updateHeightAt_stores atX3 xLeftStored3 yStored xOut.1 xAbove
  refine ⟨heap4, ?_, xStored, ?_⟩
  · have atY1 : heap1 y.1 = heap y.1 := Heap.write_other _ _ yx
    have setRight : setRightAt heap x.1 (some y.1) = some heap1 := by
      simp [setRightAt, atX, heap1]
    have setLeft : setLeftAt heap1 y.1 (root t2) = some heap2 := by
      simp [setLeftAt, atY1, atY, heap2]
    simp only [rightRotateAt, atY, root_node, Option.bind_eq_bind,
      Option.bind_some, atX, setRight, setLeft, heightY, heightX]
    rfl
  · exact (((Heap.Kept.write memberX _ _).trans
      (Heap.Kept.write memberY _ _)).trans
      (kept3.mono (List.forall_mem_singleton.mpr memberY))).trans
      (kept4.mono (List.forall_mem_singleton.mpr memberX))

theorem leftRotateAt_realizes {heap : NodeHeap α} {x y : Nat × α}
    {xLeft t2 yRight : DbNode (Nat × α)} {xHeight yHeight : Nat}
    (stores : Stores heap
      (.node x xLeft (.node y t2 yRight yHeight) xHeight))
    (distinct : (addresses
      (.node x xLeft (.node y t2 yRight yHeight) xHeight)).Nodup) :
    Realizes heap (leftRotateAt heap x.1)
      (withHeight y (withHeight x xLeft t2) yRight) := by
  obtain ⟨atX, xLeftStored, atY, t2Stored, yRightStored⟩ := stores
  have memberX : x.1 ∈ addresses
      (withHeight y (withHeight x xLeft t2) yRight) := by simp [withHeight]
  have memberY : y.1 ∈ addresses
      (withHeight y (withHeight x xLeft t2) yRight) := by simp [withHeight]
  simp only [addresses_node, List.nodup_append, List.nodup_cons,
    List.mem_append, List.mem_cons] at distinct
  have xy : x.1 ≠ y.1 := by grind
  have xOut : x.1 ∉ addresses xLeft ∧ x.1 ∉ addresses t2 ∧
      x.1 ∉ addresses yRight := by grind
  have yOut : y.1 ∉ addresses xLeft ∧ y.1 ∉ addresses t2 ∧
      y.1 ∉ addresses yRight := by grind
  -- `y->left = x; x->right = T2`
  let heap1 := heap.write y.1 ⟨y.2, some x.1, root yRight, yHeight⟩
  let heap2 := heap1.write x.1 ⟨x.2, root xLeft, root t2, xHeight⟩
  have t2Stored2 : Stores heap2 t2 :=
    (t2Stored.write yOut.2.1 _).write xOut.2.1 _
  have xLeftStored2 : Stores heap2 xLeft :=
    (xLeftStored.write yOut.1 _).write xOut.1 _
  -- the height of `x`, then that of `y` above it
  have atX2 : heap2 x.1 = some ⟨x.2, root xLeft, root t2, xHeight⟩ :=
    heap1.write_self ..
  obtain ⟨heap3, heightX, xStored, kept3⟩ := updateHeightAt_stores
    atX2 xLeftStored2 t2Stored2 xOut.1 xOut.2.1
  have yRightStored3 : Stores heap3 yRight :=
    ((yRightStored.write yOut.2.2 _).write xOut.2.2 _).kept kept3 xOut.2.2
  have atY3 : heap3 y.1 = some ⟨y.2, some x.1, root yRight, yHeight⟩ :=
    (kept3 y.1 (by simpa using xy.symm)).trans
      ((heap1.write_other _ xy.symm).trans (heap.write_self ..))
  have yAbove : y.1 ∉ addresses (withHeight x xLeft t2) := by
    simp only [withHeight, addresses_node, List.mem_append, List.mem_cons,
      not_or]
    exact ⟨yOut.1, xy.symm, yOut.2.1⟩
  obtain ⟨heap4, heightY, yStored, kept4⟩ :=
    updateHeightAt_stores atY3 xStored yRightStored3 yAbove yOut.2.2
  refine ⟨heap4, ?_, yStored, ?_⟩
  · have atX1 : heap1 x.1 = heap x.1 := Heap.write_other _ _ xy
    have setLeft : setLeftAt heap y.1 (some x.1) = some heap1 := by
      simp [setLeftAt, atY, heap1]
    have setRight : setRightAt heap1 x.1 (root t2) = some heap2 := by
      simp [setRightAt, atX1, atX, heap2]
    simp only [leftRotateAt, atX, root_node, Option.bind_eq_bind,
      Option.bind_some, atY, setRight, setLeft, heightY, heightX]
    rfl
  · exact (((Heap.Kept.write memberY _ _).trans
      (Heap.Kept.write memberX _ _)).trans
      (kept3.mono (List.forall_mem_singleton.mpr memberX))).trans
      (kept4.mono (List.forall_mem_singleton.mpr memberY))

/-- A rotation of the source succeeds wherever that of the tree does. -/
theorem rightRotateAt_of_step {heap : NodeHeap α}
    {node rotated : DbNode (Nat × α)} {address : Nat}
    (here : root node = some address) (stores : Stores heap node)
    (distinct : (addresses node).Nodup)
    (step : rightRotate node = some rotated) :
    Realizes heap (rightRotateAt heap address) rotated := by
  unfold rightRotate at step
  split at step
  · cases here
    cases step
    exact rightRotateAt_realizes stores distinct
  · cases step

theorem leftRotateAt_of_step {heap : NodeHeap α}
    {node rotated : DbNode (Nat × α)} {address : Nat}
    (here : root node = some address) (stores : Stores heap node)
    (distinct : (addresses node).Nodup)
    (step : leftRotate node = some rotated) :
    Realizes heap (leftRotateAt heap address) rotated := by
  unfold leftRotate at step
  split at step
  · cases here
    cases step
    exact leftRotateAt_realizes stores distinct
  · cases step

theorem Stores.data? {heap : NodeHeap α} {tree : DbNode (Nat × α)}
    {item : Nat × α} (stores : Stores heap tree)
    (top : data? tree = some item) :
    root tree = some item.1 ∧
      ∃ cell, heap item.1 = some cell ∧ cell.data = item.2 := by
  cases tree with
  | null => cases top
  | node node left right height =>
      cases top
      exact ⟨rfl, _, stores.1, rfl⟩

section Child

variable {heap heap' : NodeHeap α} {node : Nat × α}
  {left right child : DbNode (Nat × α)} {height : Nat}
  (stores : Stores heap (.node node left right height))
  (kept : Heap.Kept (addresses child) heap heap')
  (stored : Stores heap' child)

include stores kept stored

theorem setLeftAt_stores
    (distinct : (addresses (.node node child right height)).Nodup) :
    ∃ heap'', setLeftAt heap' node.1 (root child) = some heap'' ∧
      Stores heap'' (.node node child right height) ∧
      Heap.Kept (addresses (.node node child right height)) heap heap'' := by
  obtain ⟨here, _, rightStored⟩ := stores
  obtain ⟨_, _, nodeChild, nodeRight, apart⟩ :=
    nodup_addresses_node.mp distinct
  have here' : heap' node.1 =
      some ⟨node.2, root left, root right, height⟩ :=
    (kept _ nodeChild).trans here
  have rightStored' : Stores heap' right :=
    rightStored.frame fun address member => kept _ (apart _ member)
  refine ⟨heap'.write node.1 ⟨node.2, root child, root right, height⟩,
    by simp [setLeftAt, here'], ⟨heap'.write_self ..,
      stored.write nodeChild _, rightStored'.write nodeRight _⟩, ?_⟩
  rw [addresses_node]
  exact (kept.mono fun _ => List.mem_append_left _).trans
    (Heap.Kept.write (List.mem_append_right _ List.mem_cons_self) _ _)

theorem setRightAt_stores
    (distinct : (addresses (.node node left child height)).Nodup) :
    ∃ heap'', setRightAt heap' node.1 (root child) = some heap'' ∧
      Stores heap'' (.node node left child height) ∧
      Heap.Kept (addresses (.node node left child height)) heap heap'' := by
  obtain ⟨here, leftStored, _⟩ := stores
  obtain ⟨_, _, nodeLeft, nodeChild, apart⟩ :=
    nodup_addresses_node.mp distinct
  have here' : heap' node.1 =
      some ⟨node.2, root left, root right, height⟩ :=
    (kept _ nodeChild).trans here
  have leftStored' : Stores heap' left :=
    leftStored.frame fun address member =>
      kept _ fun above => apart _ above member
  refine ⟨heap'.write node.1 ⟨node.2, root left, root child, height⟩,
    by simp [setRightAt, here'], ⟨heap'.write_self ..,
      leftStored'.write nodeLeft _, stored.write nodeChild _⟩, ?_⟩
  rw [addresses_node]
  exact (kept.mono fun _ member =>
    List.mem_append_right _ (List.mem_cons_of_mem _ member)).trans
      (Heap.Kept.write (List.mem_append_right _ List.mem_cons_self) _ _)

end Child

theorem addresses_congr {tree tree' : DbNode (Nat × α)}
    (same : tree.toList = tree'.toList) : addresses tree = addresses tree' :=
  congrArg (List.map Prod.fst) same

theorem insertRebalance_addresses [Record α] {data node : Nat × α}
    {left right balanced : DbNode (Nat × α)}
    (step : insertRebalance data node left right = some balanced)
    (height : Nat) :
    addresses balanced = addresses (.node node left right height) :=
  addresses_congr (insertRebalance_toList step)

theorem insertRotateAt_realizes [Record α] {heap : NodeHeap α}
    {data node : Nat × α} {left right balanced : DbNode (Nat × α)}
    (stores : Stores heap (withHeight node left right))
    (distinct : (addresses (withHeight node left right)).Nodup)
    (step : insertRebalance data node left right = some balanced) :
    Realizes heap (insertRotateAt heap data.2 node.1) balanced := by
  have whole := stores
  obtain ⟨here, leftStored, rightStored⟩ := stores
  obtain ⟨leftOnce, rightOnce, _⟩ := nodup_addresses_node.mp distinct
  have balance : getBalanceAt heap (some node.1) =
      some (getBalance (withHeight node left right)) :=
    getBalanceAt_eq here leftStored rightStored
  have footprint : addresses balanced =
      addresses (withHeight node left right) :=
    insertRebalance_addresses step _
  simp only [insertRebalance, Option.bind_eq_bind] at step
  simp only [insertRotateAt, Option.bind_eq_bind, here, balance,
    Option.bind_some]
  by_cases leftHeavy : getBalance (withHeight node left right) > 1
  · rw [if_pos leftHeavy] at step ⊢
    obtain ⟨leftData, top, step⟩ := Option.bind_eq_some_iff.mp step
    obtain ⟨leftRoot, cell, leftCell, sameData⟩ := leftStored.data? top
    simp only [leftRoot, leftCell, Option.bind_some, sameData]
    change (if Record.compareInsert data.2 leftData.2 < 0 then _
      else if Record.compareInsert data.2 leftData.2 > 0 then _ else _) = _
      at step
    split_ifs at step ⊢ with below above
    · exact rightRotateAt_of_step rfl whole distinct step
    · obtain ⟨left', inner, outer⟩ := Option.bind_eq_some_iff.mp step
      obtain ⟨heap2, returned, stored2, kept2⟩ :=
        leftRotateAt_of_step leftRoot leftStored leftOnce inner
      have same (height : Nat) : addresses (.node node left' right height) =
          addresses (withHeight node left right) := by
        simp [withHeight, addresses_congr (leftRotate_toList inner)]
      have distinct3 (height : Nat) :
          (addresses (.node node left' right height)).Nodup := by
        rwa [same]
      obtain ⟨heap3, set, stored3, kept3⟩ :=
        setLeftAt_stores whole kept2 stored2 (distinct3 _)
      simp only [returned, Option.bind_some, set]
      refine Realizes.after ?_
        (rightRotateAt_of_step rfl stored3 (distinct3 _) outer)
      rwa [footprint, ← same]
    · cases step
      exact ⟨heap, rfl, whole, Heap.Kept.refl _ _⟩
  · rw [if_neg leftHeavy] at step ⊢
    by_cases rightHeavy : getBalance (withHeight node left right) < -1
    · rw [if_pos rightHeavy] at step ⊢
      obtain ⟨rightData, top, step⟩ := Option.bind_eq_some_iff.mp step
      obtain ⟨rightRoot, cell, rightCell, sameData⟩ := rightStored.data? top
      simp only [rightRoot, rightCell, Option.bind_some, sameData]
      change (if Record.compareInsert data.2 rightData.2 > 0 then _
        else if Record.compareInsert data.2 rightData.2 < 0 then _ else _) = _
        at step
      split_ifs at step ⊢ with above below
      · exact leftRotateAt_of_step rfl whole distinct step
      · obtain ⟨right', inner, outer⟩ := Option.bind_eq_some_iff.mp step
        obtain ⟨heap2, returned, stored2, kept2⟩ :=
          rightRotateAt_of_step rightRoot rightStored rightOnce inner
        have same (height : Nat) :
            addresses (.node node left right' height) =
              addresses (withHeight node left right) := by
          simp [withHeight, addresses_congr (rightRotate_toList inner)]
        have distinct3 (height : Nat) :
            (addresses (.node node left right' height)).Nodup := by
          rwa [same]
        obtain ⟨heap3, set, stored3, kept3⟩ :=
          setRightAt_stores whole kept2 stored2 (distinct3 _)
        simp only [returned, Option.bind_some, set]
        refine Realizes.after ?_
          (leftRotateAt_of_step rfl stored3 (distinct3 _) outer)
        rwa [footprint, ← same]
      · cases step
        exact ⟨heap, rfl, whole, Heap.Kept.refl _ _⟩
    · rw [if_neg rightHeavy] at step ⊢
      cases step
      exact ⟨heap, rfl, whole, Heap.Kept.refl _ _⟩

theorem insertRebalanceAt_realizes [Record α] {heap : NodeHeap α}
    {data node : Nat × α} {left right balanced : DbNode (Nat × α)}
    {height : Nat} (stores : Stores heap (.node node left right height))
    (distinct : (addresses (.node node left right height)).Nodup)
    (step : insertRebalance data node left right = some balanced) :
    Realizes heap (insertRebalanceAt heap data.2 node.1) balanced := by
  obtain ⟨here, leftStored, rightStored⟩ := stores
  obtain ⟨_, _, nodeLeft, nodeRight, _⟩ := nodup_addresses_node.mp distinct
  obtain ⟨heap1, updated, stored1, kept1⟩ := updateHeightAt_stores here
    leftStored rightStored nodeLeft nodeRight
  have distinct1 : (addresses (withHeight node left right)).Nodup := by
    simpa [withHeight] using distinct
  have member : node.1 ∈ addresses balanced := by
    rw [insertRebalance_addresses step height]
    simp
  simp only [insertRebalanceAt, updated, Option.bind_eq_bind,
    Option.bind_some]
  exact Realizes.after
    (kept1.mono (List.forall_mem_singleton.mpr member))
    (insertRotateAt_realizes stored1 distinct1 step)

theorem insertNode_perm [Record α] {malloc : Bool} {data : α}
    {node inserted : DbNode α}
    (step : insertNode malloc data node = some inserted) :
    inserted.toList.Perm node.toList ∨
      malloc = true ∧ inserted.toList.Perm (data :: node.toList) := by
  induction node generalizing inserted with
  | null =>
      cases step
      cases malloc
      · exact .inl (List.Perm.refl _)
      · exact .inr ⟨rfl, List.Perm.refl _⟩
  | node nodeData left right height ihLeft ihRight =>
      simp only [insertNode, Option.bind_eq_bind] at step
      rw [HeightTree.toList_node]
      split_ifs at step with below above
      · obtain ⟨left', inner, outer⟩ := Option.bind_eq_some_iff.mp step
        rw [insertRebalance_toList outer]
        rcases ihLeft inner with same | ⟨allocated, grown⟩
        · exact .inl (same.append_right _)
        · exact .inr ⟨allocated, grown.append_right _⟩
      · obtain ⟨right', inner, outer⟩ := Option.bind_eq_some_iff.mp step
        rw [insertRebalance_toList outer]
        rcases ihRight inner with same | ⟨allocated, grown⟩
        · exact .inl ((same.cons _).append_left _)
        · refine .inr ⟨allocated, ?_⟩
          exact ((grown.cons _).append_left _).trans
            (((List.Perm.swap ..).append_left _).trans List.perm_middle)
      · cases step
        exact .inl (List.Perm.refl _)

section Insert

variable [Record α] {malloc : Pointer} {data : α}
  {tree inserted : DbNode (Nat × α)}
  (step : insertNode malloc.isSome (malloc.getD 0, data) tree =
    some inserted)

include step

theorem insertNode_addresses :
    (addresses inserted).Perm (addresses tree) ∨
      (addresses inserted).Perm (malloc.toList ++ addresses tree) := by
  rcases insertNode_perm step with same | ⟨allocated, grown⟩
  · exact .inl (same.map _)
  · obtain ⟨address, rfl⟩ := Option.isSome_iff_exists.mp allocated
    exact .inr (grown.map _)

theorem not_mem_insertNode_addresses {address : Nat}
    (new : address ∉ malloc) (old : address ∉ addresses tree) :
    address ∉ addresses inserted := by
  rcases insertNode_addresses step with same | grown
  · exact mt same.mem_iff.mp old
  · rw [grown.mem_iff, List.mem_append, Option.mem_toList]
    exact not_or.mpr ⟨new, old⟩

theorem insertNode_distinct (distinct : (addresses tree).Nodup)
    (fresh : ∀ address ∈ malloc, address ∉ addresses tree) :
    (addresses inserted).Nodup := by
  rcases insertNode_addresses step with same | grown
  · exact same.nodup_iff.mpr distinct
  · rw [grown.nodup_iff]
    cases malloc with
    | none => exact distinct
    | some address => exact List.nodup_cons.mpr ⟨fresh _ rfl, distinct⟩

end Insert

/-- On the memory of a tree `insert_node` does what `insertNode` does on the
tree: its recursion is no deeper than the tree, and it changes no other memory
than the nodes of the resulting tree. -/
theorem insertNodeAt_realizes [Record α] (malloc : Pointer) (data : α)
    {tree inserted : DbNode (Nat × α)} {heap : NodeHeap α} {fuel : Nat}
    (stores : Stores heap tree) (distinct : (addresses tree).Nodup)
    (fresh : ∀ address ∈ malloc, address ∉ addresses tree)
    (enough : tree.depth ≤ fuel)
    (step : insertNode malloc.isSome (malloc.getD 0, data) tree =
      some inserted) :
    Realizes heap (insertNodeAt malloc data fuel heap (root tree))
      inserted := by
  induction tree generalizing heap fuel inserted with
  | null =>
      cases step
      rw [root_null, insertNodeAt]
      cases malloc with
      | none => exact ⟨heap, rfl, trivial, Heap.Kept.refl _ _⟩
      | some address =>
          exact ⟨_, rfl, ⟨heap.write_self .., trivial, trivial⟩,
            Heap.Kept.write List.mem_cons_self _ _⟩
  | node node left right height ihLeft ihRight =>
      rw [HeightTree.depth_node] at enough
      obtain ⟨fuel, rfl⟩ : ∃ below, fuel = below + 1 :=
        Nat.exists_eq_succ_of_ne_zero (by omega)
      have whole := stores
      obtain ⟨here, leftStored, rightStored⟩ := stores
      obtain ⟨leftOnce, rightOnce, nodeLeft, nodeRight, apart⟩ :=
        nodup_addresses_node.mp distinct
      simp only [addresses_node, List.mem_append, List.mem_cons, not_or]
        at fresh
      simp only [insertNode, Option.bind_eq_bind] at step
      change (if Record.compareInsert data node.2 < 0 then _
        else if Record.compareInsert data node.2 > 0 then _ else _) = _
        at step
      simp only [root_node, insertNodeAt, Option.bind_eq_bind, here,
        Option.bind_some]
      split_ifs at step ⊢ with below above
      · obtain ⟨left', inner, outer⟩ := Option.bind_eq_some_iff.mp step
        have freshLeft : ∀ address ∈ malloc, address ∉ addresses left :=
          fun address member => (fresh address member).1
        have enoughLeft : left.depth ≤ fuel := by omega
        obtain ⟨heap2, returned, stored2, kept2⟩ :=
          ihLeft leftStored leftOnce freshLeft enoughLeft inner
        have distinct3 : (addresses
            (.node node left' right height)).Nodup := by
          refine nodup_addresses_node.mpr
            ⟨insertNode_distinct inner leftOnce freshLeft, rightOnce, ?_,
              nodeRight, ?_⟩
          · exact not_mem_insertNode_addresses inner
              (fun member => (fresh _ member).2.1 rfl) nodeLeft
          · intro address above
            exact not_mem_insertNode_addresses inner
              (fun member => (fresh _ member).2.2 above)
              (apart address above)
        obtain ⟨heap3, set, stored3, kept3⟩ :=
          setLeftAt_stores whole kept2 stored2 distinct3
        have rebalanced :=
          insertRebalanceAt_realizes stored3 distinct3 outer
        rw [← insertRebalance_addresses outer height] at kept3
        simp only [returned, Option.bind_some, set]
        exact rebalanced.after kept3
      · obtain ⟨right', inner, outer⟩ := Option.bind_eq_some_iff.mp step
        have freshRight : ∀ address ∈ malloc, address ∉ addresses right :=
          fun address member => (fresh address member).2.2
        have enoughRight : right.depth ≤ fuel := by omega
        obtain ⟨heap2, returned, stored2, kept2⟩ :=
          ihRight rightStored rightOnce freshRight enoughRight inner
        have distinct3 : (addresses
            (.node node left right' height)).Nodup := by
          refine nodup_addresses_node.mpr
            ⟨leftOnce, insertNode_distinct inner rightOnce freshRight,
              nodeLeft, ?_, ?_⟩
          · exact not_mem_insertNode_addresses inner
              (fun member => (fresh _ member).2.1 rfl) nodeRight
          · intro address above below
            exact not_mem_insertNode_addresses inner
              (fun member => (fresh _ member).1 below)
              (fun member => apart address member below) above
        obtain ⟨heap3, set, stored3, kept3⟩ :=
          setRightAt_stores whole kept2 stored2 distinct3
        have rebalanced :=
          insertRebalanceAt_realizes stored3 distinct3 outer
        rw [← insertRebalance_addresses outer height] at kept3
        simp only [returned, Option.bind_some, set]
        exact rebalanced.after kept3
      · cases step
        exact ⟨heap, rfl, whole, Heap.Kept.refl _ _⟩

/-- An insertion that finds its tunnel id taken, or gets no memory, returns
the same root and leaves every cell as it was. -/
theorem insertNodeAt_unchanged [Record α] (malloc : Pointer) (data : α)
    (tree : DbNode (Nat × α)) (heap : NodeHeap α) (fuel : Nat)
    (stores : Stores heap tree) (distinct : (addresses tree).Nodup)
    (fresh : ∀ address ∈ malloc, address ∉ addresses tree)
    (avl : tree.Avl) (ordered : Ordered tree) (enough : tree.depth ≤ fuel)
    (blocked : (∃ node ∈ tree.toList,
      Record.tunnelId node = Record.tunnelId data) ∨ malloc = none) :
    insertNodeAt malloc data fuel heap (root tree) =
      some (root tree, heap) := by
  have unchanged : insertNode malloc.isSome (malloc.getD 0, data) tree =
      some tree := by
    rcases blocked with ⟨node, member, same⟩ | rfl
    · exact insertNode_present _ avl ordered
        ⟨node, member, congrArg BitVec.toNat same⟩
    · exact insertNode_noMemory avl
  obtain ⟨heap', returned, stored, kept⟩ :=
    insertNodeAt_realizes malloc data stores distinct fresh enough unchanged
  have same : heap' = heap := by
    funext address
    by_cases inside : address ∈ addresses tree
    · exact stores.eq stored address inside
    · exact kept address inside
  rw [returned, same]

/-- A record of a tunnel id. -/
def recordOf (tunnelId : U16) : ResvMsg :=
  { (default : ResvMsg) with tunnelId := tunnelId }

/-- Tunnels 3, 5 and 8 at the addresses 30, 50 and 80. -/
def threeNodes : DbNode (Nat × ResvMsg) :=
  .node (50, recordOf 5) (.node (30, recordOf 3) .null .null 1)
    (.node (80, recordOf 8) .null .null 1) 2

/-- The memory of that tree. -/
def threeCells : NodeHeap ResvMsg := fun address =>
  if address = 50 then some ⟨recordOf 5, some 30, some 80, 2⟩
  else if address = 30 then some ⟨recordOf 3, none, none, 1⟩
  else if address = 80 then some ⟨recordOf 8, none, none, 1⟩
  else none

theorem threeCells_stores : Stores threeCells threeNodes := by
  simp [Stores, threeCells, threeNodes]

/-- Tunnel 3 is taken, and for tunnel 4 there is no memory. -/
theorem threeNodes_unchanged :
    insertNodeAt (some 90) (recordOf 3) 2 threeCells (some 50) =
        some (some 50, threeCells) ∧
      insertNodeAt none (recordOf 4) 2 threeCells (some 50) =
        some (some 50, threeCells) := by
  have avl : threeNodes.Avl := by simp [threeNodes]
  have ordered : Ordered threeNodes := by
    simp [Ordered, KeyedList.Ascending, threeNodes, Record.key,
      Record.tunnelId, recordOf]
  have unchanged := fun malloc data => insertNodeAt_unchanged malloc data
    threeNodes threeCells 2 threeCells_stores (by decide)
  exact ⟨unchanged (some 90) (recordOf 3) (by decide) avl ordered (by decide)
      (.inl ⟨(30, recordOf 3), by decide, rfl⟩),
    unchanged none (recordOf 4) (by decide) avl ordered (by decide)
      (.inr rfl)⟩

end Rsvpd
