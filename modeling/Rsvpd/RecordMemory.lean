import Rsvpd.TreeItems
import Rsvpd.TreeMemory

/-!
# Nodes and records in memory

The tree functions with `data` as a pointer to a record of its own:
`delete_node` gives a record and a node back to `free`, and a node with two
children gets the record of the least node to its right in exchange for its
own.  A tree of pairs says for every node where it lies and where its record
lies; on the memory of such a tree the functions read no memory that has been
given back and give nothing back twice.
-/

namespace Rsvpd

/-- The memory of one tree.  A node holds the address of its record; where
the source tests that address against `NULL`, a comparator has already read
the record. -/
structure TreeHeap (α : Type) where
  nodes : NodeHeap Nat
  records : Heap α

variable {α : Type}

section Functions

/-- `node->data = data`. -/
def setDataAt (heap : NodeHeap α) (node : Nat) (data : α) :
    Option (NodeHeap α) := do
  let cell ← heap node
  return heap.write node { cell with data := data }

/-- `min_node`, with a bound on its loop. -/
def minNodeAt (heap : NodeHeap α) : Nat → Nat → Option Nat
  | 0, _ => none
  | fuel + 1, current => do
      match (← heap current).left with
      | none => return current
      | some left => minNodeAt heap fuel left

/-- The end of `delete_node` on a node that is not `NULL`; the four tests are
grouped by the sign of `balance`. -/
def deleteRebalanceAt (heap : NodeHeap α) (node : Nat) :
    Option (Pointer × NodeHeap α) := do
  let heap ← updateHeightAt heap node
  let cell ← heap node
  let balance ← getBalanceAt heap (some node)
  if balance > 1 then
    if (← getBalanceAt heap cell.left) ≥ 0 then
      rightRotateAt heap node
    else
      let (left, heap) ← leftRotateAt heap (← cell.left)
      let heap ← setLeftAt heap node left
      rightRotateAt heap node
  else if balance < -1 then
    if (← getBalanceAt heap cell.right) ≤ 0 then
      leftRotateAt heap node
    else
      let (right, heap) ← rightRotateAt heap (← cell.right)
      let heap ← setRightAt heap node right
      leftRotateAt heap node
  else
    return (some node, heap)

/-- The end of `delete_node`. -/
def deleteTailIn (memory : TreeHeap α) :
    Pointer → Option (Pointer × TreeHeap α)
  | none => some (none, memory)
  | some node => do
      let (node, nodes) ← deleteRebalanceAt memory.nodes node
      return (node, { memory with nodes := nodes })

variable [Record α]

/-- `cmp1(data, other)`. -/
def compareInsertIn (records : Heap α) (data other : Nat) : Option Int := do
  return Record.compareInsert (← records data) (← records other)

/-- The rotations at the end of `insert_node`; the four tests are grouped by
the sign of `balance`. -/
def insertRotateIn (records : Heap α) (data : Nat) (heap : NodeHeap Nat)
    (node : Nat) : Option (Pointer × NodeHeap Nat) := do
  let cell ← heap node
  let balance ← getBalanceAt heap (some node)
  if balance > 1 then
    let leftData := (← heap (← cell.left)).data
    let cmpResult ← compareInsertIn records data leftData
    if cmpResult < 0 then
      rightRotateAt heap node
    else if cmpResult > 0 then
      let (left, heap) ← leftRotateAt heap (← cell.left)
      let heap ← setLeftAt heap node left
      rightRotateAt heap node
    else
      return (some node, heap)
  else if balance < -1 then
    let rightData := (← heap (← cell.right)).data
    let cmpResult ← compareInsertIn records data rightData
    if cmpResult > 0 then
      leftRotateAt heap node
    else if cmpResult < 0 then
      let (right, heap) ← rightRotateAt heap (← cell.right)
      let heap ← setRightAt heap node right
      leftRotateAt heap node
    else
      return (some node, heap)
  else
    return (some node, heap)

/-- `insert_node`, with a bound on the depth of its recursion; `malloc` is the
address that `create_node` gets, if any. -/
def insertNodeIn (records : Heap α) (malloc : Pointer) (data : Nat) :
    Nat → NodeHeap Nat → Pointer → Option (Pointer × NodeHeap Nat)
  | _, heap, none => some (createNodeAt heap malloc data)
  | 0, _, some _ => none
  | fuel + 1, heap, some node => do
      let cell ← heap node
      let cmpResult ← compareInsertIn records data cell.data
      if cmpResult < 0 then
        let (left, heap) ← insertNodeIn records malloc data fuel heap cell.left
        let heap ← setLeftAt heap node left
        let heap ← updateHeightAt heap node
        insertRotateIn records data heap node
      else if cmpResult > 0 then
        let (right, heap) ←
          insertNodeIn records malloc data fuel heap cell.right
        let heap ← setRightAt heap node right
        let heap ← updateHeightAt heap node
        insertRotateIn records data heap node
      else
        return (some node, heap)

/-- `delete_node`, with a bound on the depth of its recursion. -/
def deleteNodeIn : Nat → U16 → TreeHeap α → Pointer →
    Option (Pointer × TreeHeap α)
  | _, _, memory, none => some (none, memory)
  | 0, _, _, some _ => none
  | fuel + 1, tunnelId, memory, some node => do
      let cell ← memory.nodes node
      let cmpResult := Record.compareDel tunnelId (← memory.records cell.data)
      if cmpResult < 0 then
        let (left, memory) ← deleteNodeIn fuel tunnelId memory cell.left
        let nodes ← setLeftAt memory.nodes node left
        deleteTailIn { memory with nodes := nodes } (some node)
      else if cmpResult > 0 then
        let (right, memory) ← deleteNodeIn fuel tunnelId memory cell.right
        let nodes ← setRightAt memory.nodes node right
        deleteTailIn { memory with nodes := nodes } (some node)
      else
        match cell.left, cell.right with
        | some _, some right => do
            let temp ← minNodeAt memory.nodes fuel right
            let dataKeep := (← memory.nodes temp).data
            let dataRemove := cell.data
            let nodes ← setDataAt memory.nodes node dataKeep
            let nodes ← setDataAt nodes temp dataRemove
            let removed ← memory.records dataRemove
            let (right, memory) ← deleteNodeIn fuel (Record.tunnelId removed)
              { memory with nodes := nodes } (some right)
            let nodes ← setRightAt memory.nodes node right
            deleteTailIn { memory with nodes := nodes } (some node)
        | left, right => do
            let records ← memory.records.free cell.data
            let nodes ← memory.nodes.free node
            deleteTailIn ⟨nodes, records⟩ (left.or right)

/-- `search_node`, with a bound on the depth of its recursion. -/
def searchNodeIn (tunnelId : U16) (memory : TreeHeap α) :
    Nat → Pointer → Option Pointer
  | _, none => some none
  | 0, some _ => none
  | fuel + 1, some node => do
      let cell ← memory.nodes node
      let record ← memory.records cell.data
      if Record.compareDel tunnelId record = 0 then
        return some node
      else if Record.compareDel tunnelId record < 0 then
        searchNodeIn tunnelId memory fuel cell.left
      else
        searchNodeIn tunnelId memory fuel cell.right

omit [Record α] in
/-- `free_tree`, with a bound on the depth of its recursion. -/
def freeTreeIn : Nat → TreeHeap α → Pointer → Option (TreeHeap α)
  | _, memory, none => some memory
  | 0, _, some _ => none
  | fuel + 1, memory, some node => do
      let memory ← freeTreeIn fuel memory (← memory.nodes node).left
      let memory ← freeTreeIn fuel memory (← memory.nodes node).right
      let records ← memory.records.free (← memory.nodes node).data
      let nodes ← memory.nodes.free node
      return ⟨nodes, records⟩

end Functions

/-- The addresses of the records. -/
def blocks (tree : DbNode (Nat × Nat)) : List Nat :=
  tree.toList.map Prod.snd

/-- The tree of the records themselves. -/
def contents (read : Nat → α) (tree : DbNode (Nat × Nat)) : DbNode α :=
  tree.map fun item => read item.2

@[simp] theorem blocks_node (item : Nat × Nat)
    (left right : DbNode (Nat × Nat)) (height : Nat) :
    blocks (.node item left right height) =
      blocks left ++ item.2 :: blocks right := by
  simp [blocks]

@[simp] theorem contents_null (read : Nat → α) :
    contents read .null = .null := rfl

@[simp] theorem contents_node (read : Nat → α) (item : Nat × Nat)
    (left right : DbNode (Nat × Nat)) (height : Nat) :
    contents read (.node item left right height) =
      .node (read item.2) (contents read left) (contents read right)
        height := rfl

theorem contents_congr {read read' : Nat → α} {tree : DbNode (Nat × Nat)}
    (same : ∀ block ∈ blocks tree, read' block = read block) :
    contents read' tree = contents read tree := by
  induction tree with
  | null => rfl
  | node item left right height ihLeft ihRight =>
      simp only [blocks_node, List.mem_append, List.mem_cons] at same
      rw [contents_node, contents_node,
        ihLeft fun block member => same block (.inl member),
        ihRight fun block member => same block (.inr (.inr member)),
        same item.2 (.inr (.inl rfl))]

theorem minData_contents (read : Nat → α) (tree : DbNode (Nat × Nat)) :
    minData (contents read tree) =
      (minData tree).map fun item => read item.2 :=
  minData_map _ tree

theorem setMinData_contents (read : Nat → α) (item : Nat × Nat)
    (tree : DbNode (Nat × Nat)) :
    setMinData (read item.2) (contents read tree) =
      contents read (setMinData item tree) :=
  setMinData_map (fun item => read item.2) item tree

theorem exchange_contents [Record α] {read : Nat → α} {item : Nat × Nat}
    (left right : DbNode (Nat × Nat)) {deleted : DbNode α}
    {records : List α}
    (step : ((minData (contents read right)).bind fun dataKeep =>
      (deleteNode (Record.tunnelId (read item.2))
        (setMinData (read item.2) (contents read right))).bind fun result =>
          (deleteRebalance dataKeep (contents read left) result.1).bind
            fun node => some (node, result.2)) = some (deleted, records)) :
    ∃ least sub, minData right = some least ∧
      deleteNode (Record.tunnelId (read item.2))
        (contents read (setMinData (least.1, item.2) right)) =
          some (sub, records) ∧
      deleteRebalance (read least.2) (contents read left) sub =
        some deleted := by
  rw [minData_contents] at step
  obtain ⟨_, found, step⟩ := Option.bind_eq_some_iff.mp step
  obtain ⟨least, leastFound, rfl⟩ := Option.map_eq_some_iff.mp found
  obtain ⟨sub, inner, balance⟩ := deleteBelow_inv
    (deleteRebalance (read least.2) (contents read left) ·) step
  refine ⟨least, sub, leastFound, ?_, balance⟩
  rw [← setMinData_contents]
  exact inner

theorem blocks_congr {tree tree' : DbNode (Nat × Nat)}
    (same : tree'.toList = tree.toList) : blocks tree' = blocks tree :=
  congrArg (List.map Prod.snd) same

theorem Stores.isSome {heap : NodeHeap α} {tree : DbNode (Nat × α)}
    (stores : Stores heap tree) {address : Nat}
    (member : address ∈ addresses tree) : (heap address).isSome := by
  induction tree with
  | null => simp [addresses] at member
  | node node left right height ihLeft ihRight =>
      obtain ⟨here, leftStored, rightStored⟩ := stores
      rw [addresses_node, List.mem_append, List.mem_cons] at member
      rcases member with below | rfl | above
      · exact ihLeft leftStored below
      · simp [here]
      · exact ihRight rightStored above

/-- A tree lies in memory: its nodes and its records are allocated, no two
nodes at one address and no two records at one address. -/
structure Lies (memory : TreeHeap α) (read : Nat → α)
    (tree : DbNode (Nat × Nat)) : Prop where
  stored : Stores memory.nodes tree
  distinct : (addresses tree).Nodup
  unshared : (blocks tree).Nodup
  readable : ∀ block ∈ blocks tree, memory.records block = some (read block)

theorem Lies.frame {memory memory' : TreeHeap α} {read : Nat → α}
    {tree : DbNode (Nat × Nat)} (lies : Lies memory read tree)
    (nodes : ∀ address ∈ addresses tree,
      memory'.nodes address = memory.nodes address)
    (records : ∀ block ∈ blocks tree,
      memory'.records block = memory.records block) :
    Lies memory' read tree where
  stored := lies.stored.frame nodes
  distinct := lies.distinct
  unshared := lies.unshared
  readable block member :=
    (records block member).trans (lies.readable block member)

namespace Lies

variable {memory : TreeHeap α} {read : Nat → α} {item : Nat × Nat}
  {below above : DbNode (Nat × Nat)} {height : Nat}
  (lies : Lies memory read (.node item below above height))

include lies

theorem left : Lies memory read below where
  stored := lies.stored.2.1
  distinct := (nodup_addresses_node.mp lies.distinct).1
  unshared := by
    have unshared := lies.unshared
    rw [blocks_node, List.nodup_append] at unshared
    exact unshared.1
  readable block member := lies.readable block <| by simp [member]

theorem right : Lies memory read above where
  stored := lies.stored.2.2
  distinct := (nodup_addresses_node.mp lies.distinct).2.1
  unshared := by
    have unshared := lies.unshared
    rw [blocks_node, List.nodup_append, List.nodup_cons] at unshared
    exact unshared.2.1.2
  readable block member := lies.readable block <| by simp [member]

theorem record : memory.records item.2 = some (read item.2) :=
  lies.readable item.2 (by simp)

end Lies

theorem deleteRebalance_addresses {node : Nat × α}
    {left right balanced : DbNode (Nat × α)}
    (step : deleteRebalance node left right = some balanced)
    (height : Nat) :
    addresses balanced = addresses (.node node left right height) :=
  addresses_congr (deleteRebalance_toList step)

theorem getBalanceAt_root {heap : NodeHeap α} {tree : DbNode (Nat × α)}
    (stores : Stores heap tree) :
    getBalanceAt heap (root tree) = some (getBalance tree) := by
  cases tree with
  | null => rfl
  | node node left right height =>
      exact getBalanceAt_eq stores.1 stores.2.1 stores.2.2

section Rebalance

variable {heap : NodeHeap α} {node : Nat × α}
  {left right balanced : DbNode (Nat × α)} {height : Nat}
  (stores : Stores heap (.node node left right height))
  (distinct : (addresses (.node node left right height)).Nodup)

include stores distinct

theorem leftRightAt_realizes
    (step : (leftRotate left).bind (fun left =>
      rightRotate (.node node left right height)) = some balanced) :
    Realizes heap ((root left).bind fun address =>
      (leftRotateAt heap address).bind fun result =>
        (setLeftAt result.2 node.1 result.1).bind fun heap =>
          rightRotateAt heap node.1) balanced := by
  obtain ⟨left', inner, outer⟩ := Option.bind_eq_some_iff.mp step
  obtain ⟨leftOnce, _⟩ := nodup_addresses_node.mp distinct
  obtain ⟨address, here⟩ : ∃ address, root left = some address := by
    cases left with
    | null => cases inner
    | node => exact ⟨_, rfl⟩
  obtain ⟨heap1, returned, stored1, kept1⟩ :=
    leftRotateAt_of_step here stores.2.1 leftOnce inner
  have same : addresses (.node node left' right height) =
      addresses (.node node left right height) := by
    simp [addresses_congr (leftRotate_toList inner)]
  obtain ⟨heap2, set, stored2, kept2⟩ :=
    setLeftAt_stores stores kept1 stored1 (same ▸ distinct)
  simp only [here, returned, Option.bind_some, set]
  refine Realizes.after ?_
    (rightRotateAt_of_step rfl stored2 (same ▸ distinct) outer)
  rwa [addresses_congr (rightRotate_toList outer)]

theorem rightLeftAt_realizes
    (step : (rightRotate right).bind (fun right =>
      leftRotate (.node node left right height)) = some balanced) :
    Realizes heap ((root right).bind fun address =>
      (rightRotateAt heap address).bind fun result =>
        (setRightAt result.2 node.1 result.1).bind fun heap =>
          leftRotateAt heap node.1) balanced := by
  obtain ⟨right', inner, outer⟩ := Option.bind_eq_some_iff.mp step
  obtain ⟨_, rightOnce, _⟩ := nodup_addresses_node.mp distinct
  obtain ⟨address, here⟩ : ∃ address, root right = some address := by
    cases right with
    | null => cases inner
    | node => exact ⟨_, rfl⟩
  obtain ⟨heap1, returned, stored1, kept1⟩ :=
    rightRotateAt_of_step here stores.2.2 rightOnce inner
  have same : addresses (.node node left right' height) =
      addresses (.node node left right height) := by
    simp [addresses_congr (rightRotate_toList inner)]
  obtain ⟨heap2, set, stored2, kept2⟩ :=
    setRightAt_stores stores kept1 stored1 (same ▸ distinct)
  simp only [here, returned, Option.bind_some, set]
  refine Realizes.after ?_
    (leftRotateAt_of_step rfl stored2 (same ▸ distinct) outer)
  rwa [addresses_congr (leftRotate_toList outer)]

end Rebalance

theorem deleteRebalanceAt_realizes {heap : NodeHeap α} {node : Nat × α}
    {left right balanced : DbNode (Nat × α)} {height : Nat}
    (stores : Stores heap (.node node left right height))
    (distinct : (addresses (.node node left right height)).Nodup)
    (step : deleteRebalance node left right = some balanced) :
    Realizes heap (deleteRebalanceAt heap node.1) balanced := by
  obtain ⟨here, leftStored, rightStored⟩ := stores
  obtain ⟨_, _, nodeLeft, nodeRight, _⟩ := nodup_addresses_node.mp distinct
  obtain ⟨heap1, updated, stored1, kept1⟩ := updateHeightAt_stores here
    leftStored rightStored nodeLeft nodeRight
  have distinct1 : (addresses (withHeight node left right)).Nodup := by
    simpa [withHeight] using distinct
  have member : node.1 ∈ addresses balanced := by
    rw [deleteRebalance_addresses step height]
    simp
  refine Realizes.after
    (kept1.mono (List.forall_mem_singleton.mpr member)) ?_
  have whole := stored1
  obtain ⟨here1, leftStored1, rightStored1⟩ := stored1
  have balance : getBalanceAt heap1 (some node.1) =
      some (getBalance (withHeight node left right)) :=
    getBalanceAt_eq here1 leftStored1 rightStored1
  simp only [deleteRebalance, Option.bind_eq_bind] at step
  simp only [deleteRebalanceAt, updated, Option.bind_eq_bind,
    Option.bind_some, here1, balance, getBalanceAt_root leftStored1,
    getBalanceAt_root rightStored1]
  split_ifs at step ⊢
  · exact rightRotateAt_of_step rfl whole distinct1 step
  · exact leftRightAt_realizes whole distinct1 step
  · exact leftRotateAt_of_step rfl whole distinct1 step
  · exact rightLeftAt_realizes whole distinct1 step
  · cases step
    exact ⟨heap1, rfl, whole, Heap.Kept.refl _ _⟩

theorem minNodeAt_eq {heap : NodeHeap α} {tree : DbNode (Nat × α)}
    {least : Nat × α} {fuel : Nat} (stores : Stores heap tree)
    (found : minData tree = some least) (enough : tree.depth ≤ fuel) :
    ((root tree).bind fun address => minNodeAt heap fuel address) =
      some least.1 := by
  fun_induction minData tree generalizing fuel with
  | case1 => cases found
  | case2 node right height =>
      cases found
      obtain ⟨fuel, rfl⟩ : ∃ below, fuel = below + 1 :=
        Nat.exists_eq_succ_of_ne_zero (by grind [HeightTree.depth_node])
      simp [minNodeAt, stores.1]
  | case3 node leftNode leftLeft leftRight leftHeight right height ih =>
      rw [HeightTree.depth_node] at enough
      obtain ⟨fuel, rfl⟩ : ∃ below, fuel = below + 1 :=
        Nat.exists_eq_succ_of_ne_zero (by omega)
      have rest := ih stores.2.1 found (show _ ≤ fuel by omega)
      simpa [minNodeAt, stores.1] using rest

theorem setDataAt_least {heap : NodeHeap α} {tree : DbNode (Nat × α)}
    {least : Nat × α} (data : α) (stores : Stores heap tree)
    (distinct : (addresses tree).Nodup)
    (found : minData tree = some least) :
    (∃ cell, heap least.1 = some cell ∧ cell.data = least.2) ∧
      ∃ heap', setDataAt heap least.1 data = some heap' ∧
        root (setMinData (least.1, data) tree) = root tree ∧
        Stores heap' (setMinData (least.1, data) tree) ∧
        Heap.Kept [least.1] heap heap' := by
  fun_induction minData tree with
  | case1 => cases found
  | case2 node right height =>
      cases found
      obtain ⟨_, _, _, nodeRight, _⟩ := nodup_addresses_node.mp distinct
      refine ⟨⟨_, stores.1, rfl⟩, _, by simp [setDataAt, stores.1]; rfl,
        rfl, ?_, Heap.Kept.write List.mem_cons_self _ _⟩
      exact ⟨heap.write_self .., trivial, stores.2.2.write nodeRight _⟩
  | case3 node leftNode leftLeft leftRight leftHeight right height ih =>
      obtain ⟨leftOnce, _, nodeLeft, _, apart⟩ :=
        nodup_addresses_node.mp distinct
      obtain ⟨cell, heap', set, sameRoot, stored, kept⟩ :=
        ih stores.2.1 leftOnce found
      obtain ⟨rest, before, _⟩ := minData_toList found least
      have inLeft : least.1 ∈ addresses
          (.node leftNode leftLeft leftRight leftHeight) := by
        rw [addresses, before]
        exact List.mem_cons_self
      have nodeApart : node.1 ≠ least.1 := fun same => nodeLeft (same ▸ inLeft)
      refine ⟨cell, heap', set, rfl, ⟨?_, stored, ?_⟩, kept⟩
      · rw [kept node.1 (by simpa using nodeApart), sameRoot]
        exact stores.1
      · exact stores.2.2.kept kept fun above => apart _ above inLeft

/-- From one tree in memory to the other: the freed nodes and records are no
longer there, and nothing else has changed outside the nodes of the first
tree. -/
structure Freeing (memory memory' : TreeHeap α)
    (tree tree' : DbNode (Nat × Nat)) (freed : List (Nat × Nat)) : Prop where
  stored : Stores memory'.nodes tree'
  nodes_perm : (addresses tree).Perm (freed.map Prod.fst ++ addresses tree')
  blocks_perm : (blocks tree).Perm (freed.map Prod.snd ++ blocks tree')
  kept : Heap.Kept (addresses tree) memory.nodes memory'.nodes
  gone : ∀ item ∈ freed, memory'.nodes item.1 = none
  records : memory'.records = memory.records.clear (freed.map Prod.snd)

/-- A result that points to a tree with the given records, the others having
been freed. -/
def Removes (memory : TreeHeap α) (read : Nat → α)
    (tree : DbNode (Nat × Nat)) (result : Option (Pointer × TreeHeap α))
    (deleted : DbNode α) (records : List α) : Prop :=
  ∃ tree' memory' freed, result = some (root tree', memory') ∧
    contents read tree' = deleted ∧
    (freed.map fun item => read item.2) = records ∧
    Freeing memory memory' tree tree' freed

namespace Freeing

variable {memory memory' : TreeHeap α} {read : Nat → α}
  {tree tree' : DbNode (Nat × Nat)} {freed : List (Nat × Nat)}
  (freeing : Freeing memory memory' tree tree' freed)

include freeing

theorem addresses_subset {address : Nat}
    (member : address ∈ addresses tree') : address ∈ addresses tree :=
  freeing.nodes_perm.mem_iff.mpr (List.mem_append_right _ member)

theorem blocks_subset {block : Nat} (member : block ∈ blocks tree') :
    block ∈ blocks tree :=
  freeing.blocks_perm.mem_iff.mpr (List.mem_append_right _ member)

theorem freed_subset {item : Nat × Nat} (member : item ∈ freed) :
    item.1 ∈ addresses tree :=
  freeing.nodes_perm.mem_iff.mpr
    (List.mem_append_left _ (List.mem_map_of_mem member))

theorem lies (lies : Lies memory read tree) : Lies memory' read tree' := by
  have nodes := freeing.nodes_perm.nodup_iff.mp lies.distinct
  have blocks := freeing.blocks_perm.nodup_iff.mp lies.unshared
  rw [List.nodup_append] at nodes blocks
  refine ⟨freeing.stored, nodes.2.1, blocks.2.1, ?_⟩
  intro block member
  rw [freeing.records, Heap.clear_of_not_mem]
  · exact lies.readable block (freeing.blocks_subset member)
  · exact fun freed => blocks.2.2 block freed block member rfl

end Freeing

theorem perm_leave {β : Type} {first second gone rest : List β}
    (item : β) (split : second.Perm (gone ++ rest)) :
    (first ++ item :: second).Perm (gone ++ (first ++ item :: rest)) := by
  have below : (first ++ item :: second).Perm
      ((first ++ [item]) ++ (gone ++ rest)) := by
    simpa using (split.cons item).append_left first
  have across := List.perm_append_comm_assoc (first ++ [item]) gone rest
  simpa using below.trans across

section Below

variable {memory memory' : TreeHeap α} {read : Nat → α} {item : Nat × Nat}
  {left right : DbNode (Nat × Nat)} {height : Nat}
  {freed : List (Nat × Nat)}
  (lies : Lies memory read (.node item left right height))

include lies

theorem Freeing.setLeft {left' : DbNode (Nat × Nat)}
    (freeing : Freeing memory memory' left left' freed) :
    ∃ nodes, setLeftAt memory'.nodes item.1 (root left') = some nodes ∧
      Freeing memory { memory' with nodes := nodes }
        (.node item left right height) (.node item left' right height)
        freed := by
  obtain ⟨here, _, rightStored⟩ := lies.stored
  obtain ⟨_, _, nodeLeft, nodeRight, apart⟩ :=
    nodup_addresses_node.mp lies.distinct
  have here' : memory'.nodes item.1 =
      some ⟨item.2, root left, root right, height⟩ :=
    (freeing.kept _ nodeLeft).trans here
  refine ⟨memory'.nodes.write item.1 ⟨item.2, root left', root right, height⟩,
    by simp [setLeftAt, here'], ⟨?_, ?_, ?_, ?_, ?_, freeing.records⟩⟩
  · refine ⟨Heap.write_self .., freeing.stored.write ?_ _, ?_⟩
    · exact mt freeing.addresses_subset nodeLeft
    · refine (rightStored.frame fun address member => ?_).write nodeRight _
      exact freeing.kept address (apart address member)
  · simpa using freeing.nodes_perm.append_right (item.1 :: addresses right)
  · simpa using freeing.blocks_perm.append_right (item.2 :: blocks right)
  · refine (freeing.kept.mono fun address member => ?_).trans
      (Heap.Kept.write ?_ _ _)
    · simp [member]
    · simp
  · intro other member
    refine (Heap.write_other _ _ ?_).trans (freeing.gone other member)
    intro same
    exact nodeLeft (same ▸ freeing.freed_subset member)

theorem Freeing.setRight {right' : DbNode (Nat × Nat)}
    (freeing : Freeing memory memory' right right' freed) :
    ∃ nodes, setRightAt memory'.nodes item.1 (root right') = some nodes ∧
      Freeing memory { memory' with nodes := nodes }
        (.node item left right height) (.node item left right' height)
        freed := by
  obtain ⟨here, leftStored, _⟩ := lies.stored
  obtain ⟨_, _, nodeLeft, nodeRight, apart⟩ :=
    nodup_addresses_node.mp lies.distinct
  have here' : memory'.nodes item.1 =
      some ⟨item.2, root left, root right, height⟩ :=
    (freeing.kept _ nodeRight).trans here
  refine ⟨memory'.nodes.write item.1 ⟨item.2, root left, root right', height⟩,
    by simp [setRightAt, here'], ⟨?_, ?_, ?_, ?_, ?_, freeing.records⟩⟩
  · refine ⟨Heap.write_self .., ?_, freeing.stored.write ?_ _⟩
    · refine (leftStored.frame fun address member => ?_).write nodeLeft _
      exact freeing.kept address fun above => apart address above member
    · exact mt freeing.addresses_subset nodeRight
  · simpa using perm_leave item.1 freeing.nodes_perm
  · simpa using perm_leave item.2 freeing.blocks_perm
  · refine (freeing.kept.mono fun address member => ?_).trans
      (Heap.Kept.write ?_ _ _)
    · simp [member]
    · simp
  · intro other member
    refine (Heap.write_other _ _ ?_).trans (freeing.gone other member)
    intro same
    exact nodeRight (same ▸ freeing.freed_subset member)

end Below

theorem Freeing.tail {memory memory' : TreeHeap α} {read : Nat → α}
    {tree left right : DbNode (Nat × Nat)} {item : Nat × Nat} {height : Nat}
    {freed : List (Nat × Nat)} {deleted : DbNode α}
    (lies : Lies memory read tree)
    (freeing : Freeing memory memory' tree (.node item left right height)
      freed)
    (balance : deleteRebalance (read item.2) (contents read left)
      (contents read right) = some deleted) :
    Removes memory read tree (deleteTailIn memory' (some item.1)) deleted
      (freed.map fun item => read item.2) := by
  obtain ⟨balanced, step, rfl⟩ := Option.map_eq_some_iff.mp
    ((deleteRebalance_map (fun item => read item.2) item left right).symm.trans
      balance)
  have items := deleteRebalance_toList step
  have same := deleteRebalance_addresses step height
  obtain ⟨nodes, returned, stored, kept⟩ := deleteRebalanceAt_realizes
    freeing.stored (freeing.lies lies).distinct step
  refine ⟨balanced, { memory' with nodes := nodes }, freed,
    by simp [deleteTailIn, returned], rfl, rfl,
    stored, ?_, ?_, ?_, ?_, freeing.records⟩
  · rw [same]
    exact freeing.nodes_perm
  · have sameBlocks : blocks balanced =
        blocks (.node item left right height) := blocks_congr items
    rw [sameBlocks]
    exact freeing.blocks_perm
  · rw [same] at kept
    exact freeing.kept.trans (kept.mono fun _ => freeing.addresses_subset)
  · intro other member
    have nodes := freeing.nodes_perm.nodup_iff.mp lies.distinct
    rw [List.nodup_append] at nodes
    refine (kept other.1 ?_).trans (freeing.gone other member)
    intro inside
    exact nodes.2.2 _ (List.mem_map_of_mem member) _ (same ▸ inside) rfl

theorem Lies.freeNode {memory : TreeHeap α} {read : Nat → α}
    {item : Nat × Nat} {left right child : DbNode (Nat × Nat)} {height : Nat}
    (lies : Lies memory read (.node item left right height))
    (only : left = .null ∧ child = right ∨ child = left ∧ right = .null) :
    ∃ records nodes, memory.records.free item.2 = some records ∧
      memory.nodes.free item.1 = some nodes ∧
      Freeing memory ⟨nodes, records⟩ (.node item left right height) child
        [item] := by
  have childStored : Stores memory.nodes child ∧
      item.1 ∉ addresses child := by
    obtain ⟨_, _, nodeLeft, nodeRight, _⟩ :=
      nodup_addresses_node.mp lies.distinct
    rcases only with ⟨_, rfl⟩ | ⟨rfl, _⟩
    · exact ⟨lies.stored.2.2, nodeRight⟩
    · exact ⟨lies.stored.2.1, nodeLeft⟩
  have items : (HeightTree.node item left right height).toList.Perm
      (item :: child.toList) := by
    rcases only with ⟨rfl, rfl⟩ | ⟨rfl, rfl⟩
    · exact List.Perm.refl _
    · exact List.perm_append_singleton ..
  refine ⟨memory.records.clear [item.2], memory.nodes.clear [item.1],
    Heap.free_eq lies.record, Heap.free_eq lies.stored.1,
    ?_, items.map Prod.fst, items.map Prod.snd, ?_, ?_, rfl⟩
  · refine childStored.1.frame fun address member =>
      Heap.clear_of_not_mem ?_
    rintro inside
    exact childStored.2 (List.mem_singleton.mp inside ▸ member)
  · exact (Heap.Kept.clear _ _).mono (by simp)
  · simp [Heap.clear]

/-- A node with two children exchanges its record with the least node to its
right. -/
theorem Lies.exchange {memory : TreeHeap α} {read : Nat → α}
    {item least : Nat × Nat} {left right : DbNode (Nat × Nat)} {height : Nat}
    (lies : Lies memory read (.node item left right height))
    (found : minData right = some least) :
    ∃ cell nodes nodes', memory.nodes least.1 = some cell ∧
      cell.data = least.2 ∧
      setDataAt memory.nodes item.1 least.2 = some nodes ∧
      setDataAt nodes least.1 item.2 = some nodes' ∧
      root (setMinData (least.1, item.2) right) = root right ∧
      Freeing memory { memory with nodes := nodes' }
        (.node item left right height)
        (.node (item.1, least.2) left (setMinData (least.1, item.2) right)
          height) [] := by
  obtain ⟨here, leftStored, rightStored⟩ := lies.stored
  obtain ⟨_, rightOnce, nodeLeft, nodeRight, apart⟩ :=
    nodup_addresses_node.mp lies.distinct
  obtain ⟨rest, before, after⟩ := minData_toList found (least.1, item.2)
  have inRight : least.1 ∈ addresses right := by
    rw [addresses, before]
    exact List.mem_cons_self
  have nodeApart : item.1 ≠ least.1 := fun same => nodeRight (same ▸ inRight)
  let nodes := memory.nodes.write item.1
    ⟨least.2, root left, root right, height⟩
  have rightStored' : Stores nodes right := rightStored.write nodeRight _
  obtain ⟨⟨cell, atLeast, sameData⟩, nodes', set, sameRoot, stored, kept⟩ :=
    setDataAt_least item.2 rightStored' rightOnce found
  refine ⟨cell, nodes, nodes', ?_, sameData,
    by simp [setDataAt, here, nodes], set, sameRoot,
    ⟨⟨?_, ?_, stored⟩, ?_, ?_, ?_, by simp, by simp⟩⟩
  · exact (Heap.write_other _ _ nodeApart.symm).symm.trans atLeast
  · rw [sameRoot]
    exact (kept item.1 (by simpa using nodeApart)).trans (Heap.write_self ..)
  · exact (leftStored.write nodeLeft _).kept kept (apart _ inRight)
  · simp [addresses, before, after]
  · have blocksBefore : blocks right = least.2 :: rest.map Prod.snd := by
      simp [blocks, before]
    have blocksAfter : blocks (setMinData (least.1, item.2) right) =
        item.2 :: rest.map Prod.snd := by
      simp [blocks, after]
    rw [blocks_node, blocks_node, blocksBefore, blocksAfter]
    exact (List.Perm.swap ..).append_left _
  · refine (Heap.Kept.write ?_ _ _).trans (kept.mono ?_)
    · simp
    · simp [inRight]

theorem Freeing.after {memory memory' memory'' : TreeHeap α}
    {tree tree' tree'' : DbNode (Nat × Nat)} {freed : List (Nat × Nat)}
    (first : Freeing memory memory' tree tree' [])
    (second : Freeing memory' memory'' tree' tree'' freed) :
    Freeing memory memory'' tree tree'' freed where
  stored := second.stored
  nodes_perm := first.nodes_perm.trans second.nodes_perm
  blocks_perm := first.blocks_perm.trans second.blocks_perm
  kept := first.kept.trans
    (second.kept.mono fun _ => first.addresses_subset)
  gone := second.gone
  records := by
    have same := first.records
    rw [List.map_nil, Heap.clear_nil] at same
    rw [second.records, same]

theorem removes_null (memory : TreeHeap α) (read : Nat → α) :
    Removes memory read .null (some (none, memory)) .null [] :=
  ⟨.null, memory, [], rfl, rfl, rfl, trivial, List.Perm.refl _,
    List.Perm.refl _, Heap.Kept.refl _ _, by simp, by simp⟩

section Delete

variable [Record α] {memory : TreeHeap α} {read : Nat → α}
  {item : Nat × Nat} {left right : DbNode (Nat × Nat)} {height : Nat}
  {fuel : Nat} {tunnelId : U16} {deleted : DbNode α} {records : List α}

/-- `delete_node`, to a depth of its recursion, does on memory what
`deleteNode` does on the tree of records. -/
def DeletesWithin (read : Nat → α) (fuel : Nat) : Prop :=
  ∀ {memory : TreeHeap α} {tree : DbNode (Nat × Nat)} {tunnelId : U16}
    {deleted : DbNode α} {records : List α},
    Lies memory read tree → tree.depth ≤ fuel →
    deleteNode tunnelId (contents read tree) = some (deleted, records) →
    Removes memory read tree
      (deleteNodeIn fuel tunnelId memory (root tree)) deleted records

variable (lies : Lies memory read (.node item left right height))
  (step : deleteNode tunnelId (contents read (.node item left right height)) =
    some (deleted, records))

include lies step

theorem Lies.deleteNodeIn_left (deletes : DeletesWithin read fuel)
    (enough : left.depth ≤ fuel)
    (below : Record.compareDel tunnelId (read item.2) < 0) :
    Removes memory read (.node item left right height)
      (deleteNodeIn (fuel + 1) tunnelId memory (some item.1)) deleted
      records := by
  rw [contents_node, deleteNode.eq_def] at step
  simp only [below, if_true] at step
  obtain ⟨sub, inner, balance⟩ := deleteBelow_inv
    (deleteRebalance (read item.2) · (contents read right)) step
  obtain ⟨left', memory', freed, returned, rfl, rfl, freeing⟩ :=
    deletes lies.left enough inner
  obtain ⟨nodes, set, whole⟩ := freeing.setLeft lies
  simp only [deleteNodeIn, Option.bind_eq_bind, lies.stored.1, lies.record,
    below, if_true, returned, set, Option.bind_some]
  exact whole.tail lies balance

theorem Lies.deleteNodeIn_right (deletes : DeletesWithin read fuel)
    (enough : right.depth ≤ fuel)
    (above : 0 < Record.compareDel tunnelId (read item.2)) :
    Removes memory read (.node item left right height)
      (deleteNodeIn (fuel + 1) tunnelId memory (some item.1)) deleted
      records := by
  have notBelow : ¬Record.compareDel tunnelId (read item.2) < 0 := by omega
  rw [contents_node, deleteNode.eq_def] at step
  simp only [notBelow, above, if_true, if_false] at step
  obtain ⟨sub, inner, balance⟩ := deleteBelow_inv
    (deleteRebalance (read item.2) (contents read left) ·) step
  obtain ⟨right', memory', freed, returned, rfl, rfl, freeing⟩ :=
    deletes lies.right enough inner
  obtain ⟨nodes, set, whole⟩ := freeing.setRight lies
  simp only [deleteNodeIn, Option.bind_eq_bind, lies.stored.1, lies.record,
    notBelow, above, gt_iff_lt, if_true, if_false, returned, set,
    Option.bind_some]
  exact whole.tail lies balance

theorem Lies.deleteNodeIn_free
    (equal : Record.compareDel tunnelId (read item.2) = 0)
    (only : left = .null ∨ right = .null) :
    Removes memory read (.node item left right height)
      (deleteNodeIn (fuel + 1) tunnelId memory (some item.1)) deleted
      records := by
  rw [contents_node, deleteNode.eq_def] at step
  simp only [equal, Int.lt_irrefl, gt_iff_lt, if_false] at step
  simp only [deleteNodeIn, Option.bind_eq_bind, lies.stored.1, lies.record,
    equal, Int.lt_irrefl, gt_iff_lt, if_false, Option.bind_some]
  cases left with
  | null =>
      obtain ⟨records, nodes, freeRecord, freeNode, freeing⟩ :=
        lies.freeNode (.inl ⟨rfl, rfl⟩)
      simp only [root_null, freeRecord, freeNode, Option.bind_some,
        Option.none_or]
      cases right with
      | null =>
          cases step
          exact ⟨.null, _, [item], rfl, rfl, rfl, freeing⟩
      | node temp tempLeft tempRight tempHeight =>
          obtain ⟨balanced, balance, step⟩ := Option.bind_eq_some_iff.mp step
          cases step
          exact freeing.tail lies balance
  | node temp tempLeft tempRight tempHeight =>
      obtain rfl := only.resolve_left fun same => by cases same
      obtain ⟨records, nodes, freeRecord, freeNode, freeing⟩ :=
        lies.freeNode (.inr ⟨rfl, rfl⟩)
      simp only [root_null, root_node, freeRecord, freeNode,
        Option.bind_some, Option.some_or]
      obtain ⟨balanced, balance, step⟩ := Option.bind_eq_some_iff.mp step
      cases step
      exact freeing.tail lies balance

/-- A node that is found with two children takes the record of the least node
to its right, and its own is deleted there. -/
theorem Lies.deleteNodeIn_exchange (deletes : DeletesWithin read fuel)
    (enough : right.depth ≤ fuel)
    (equal : Record.compareDel tunnelId (read item.2) = 0)
    (both : ¬(left = .null ∨ right = .null)) :
    Removes memory read (.node item left right height)
      (deleteNodeIn (fuel + 1) tunnelId memory (some item.1)) deleted
      records := by
  rw [contents_node, deleteNode.eq_def] at step
  simp only [equal, Int.lt_irrefl, gt_iff_lt, if_false] at step
  cases left with
  | null => exact absurd (.inl rfl) both
  | node leftItem leftLeft leftRight leftHeight =>
      cases right with
      | null => exact absurd (.inr rfl) both
      | node rightItem rightLeft rightRight rightHeight =>
          obtain ⟨least, sub, leastFound, inner, balance⟩ :=
            exchange_contents
              (.node leftItem leftLeft leftRight leftHeight)
              (.node rightItem rightLeft rightRight rightHeight) step
          have leastAt := minNodeAt_eq lies.stored.2.2 leastFound enough
          obtain ⟨cell, nodes, nodes', atLeast, sameData, set, set', sameRoot,
            exchanged⟩ := lies.exchange leastFound
          have lies' := exchanged.lies lies
          obtain ⟨right', memory', freed, returned, rfl, rfl, freeing⟩ :=
            deletes lies'.right (by rwa [setMinData_depth]) inner
          obtain ⟨nodes'', set'', whole⟩ := freeing.setRight lies'
          rw [sameRoot] at returned
          simp only [root_node, Option.bind_some] at leastAt returned
          simp only [deleteNodeIn, Option.bind_eq_bind, lies.stored.1,
            lies.record, equal, Int.lt_irrefl, gt_iff_lt, if_false,
            root_node, leastAt, atLeast, sameData, set, set', returned,
            set'', Option.bind_some]
          have finished := Freeing.tail lies (exchanged.after whole) balance
          exact finished

end Delete

/-- On the memory of a tree `delete_node` does what `deleteNode` does on the
tree of its records: every address that it reads or frees is allocated, and it
frees one node and one record when it finds its tunnel id, else nothing. -/
theorem deleteNodeIn_removes [Record α] {memory : TreeHeap α}
    {read : Nat → α} {tree : DbNode (Nat × Nat)} {deleted : DbNode α}
    {records : List α} {fuel : Nat} {tunnelId : U16}
    (lies : Lies memory read tree) (enough : tree.depth ≤ fuel)
    (step : deleteNode tunnelId (contents read tree) =
      some (deleted, records)) :
    Removes memory read tree
      (deleteNodeIn fuel tunnelId memory (root tree)) deleted records := by
  induction fuel generalizing memory tree deleted records tunnelId with
  | zero =>
      cases tree with
      | null =>
          rw [contents_null, deleteNode] at step
          cases step
          simpa only [root_null, deleteNodeIn] using removes_null memory read
      | node item left right height => simp at enough
  | succ fuel ih =>
      cases tree with
      | null =>
          rw [contents_null, deleteNode] at step
          cases step
          simpa only [root_null, deleteNodeIn] using removes_null memory read
      | node item left right height =>
          rw [HeightTree.depth_node] at enough
          rw [root_node]
          rcases Int.lt_trichotomy
            (Record.compareDel tunnelId (read item.2)) 0 with
            below | equal | above
          · exact lies.deleteNodeIn_left step ih (by omega) below
          · by_cases only : left = .null ∨ right = .null
            · exact lies.deleteNodeIn_free step equal only
            · exact lies.deleteNodeIn_exchange step ih (by omega) equal only
          · exact lies.deleteNodeIn_right step ih (by omega) above

end Rsvpd
