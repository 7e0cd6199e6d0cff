import Rsvpd.Lib.Transition
import Rsvpd.RecordMemory
import Rsvpd.TreeDepth

/-!
# Runs of the tree functions on memory

A tree starts as `NULL`; each call fills in a record for which `malloc` has
given memory that is not in use and inserts it, or deletes a tunnel id.  Over
every such run the memory stays that of the record tree: every node and every
record in use belongs to the tree, but for the records that were not added,
which are never freed.
-/

namespace Rsvpd

open Transition

variable {α : Type}

/-- Record addresses are compared through the records there. -/
@[reducible] def Record.via [Record α] (read : Nat → α) : Record Nat where
  tunnelId block := Record.tunnelId (read block)
  compareInsert a b := Record.compareInsert (read a) (read b)
  compareDel tunnelId b := Record.compareDel tunnelId (read b)
  compareInsert_eq a b := Record.compareInsert_eq (read a) (read b)
  compareDel_eq tunnelId b := Record.compareDel_eq tunnelId (read b)

private theorem nodup_grown {malloc : Pointer} {before after : List Nat}
    (grown : after.Perm before ∨ after.Perm (malloc.toList ++ before))
    (distinct : before.Nodup)
    (fresh : ∀ address ∈ malloc, address ∉ before) : after.Nodup := by
  rcases grown with same | grown
  · exact same.nodup_iff.mpr distinct
  · rw [grown.nodup_iff]
    cases malloc with
    | none => exact distinct
    | some address => exact List.nodup_cons.mpr ⟨fresh _ rfl, distinct⟩

section Insert

variable [Record α] [Record Nat] {records : Heap α} {read : Nat → α}
  (via : ∀ a b : Nat, Record.compareInsert a b =
    Record.compareInsert (read a) (read b))
  {data : Nat} (new : records data = some (read data))

include via new

theorem compareInsertIn_eq {other : Nat}
    (readable : records other = some (read other)) :
    compareInsertIn records data other =
      some (Record.compareInsert data other) := by
  simp [compareInsertIn, new, readable, via]

theorem insertRotateIn_eq {heap : NodeHeap Nat} {item : Nat × Nat}
    {left right : DbNode (Nat × Nat)} {height : Nat}
    (stores : Stores heap (.node item left right height))
    (readable : ∀ block ∈ blocks (.node item left right height),
      records block = some (read block)) :
    insertRotateIn records data heap item.1 =
      insertRotateAt heap data item.1 := by
  obtain ⟨here, leftStored, rightStored⟩ := stores
  have compared : ∀ child : DbNode (Nat × Nat), Stores heap child →
      (∀ block ∈ blocks child, records block = some (read block)) →
      ∀ (address : Nat) (cell : NodeCell Nat), root child = some address →
        heap address = some cell →
        compareInsertIn records data cell.data =
          some (Record.compareInsert data cell.data) := by
    intro child stored readable address cell atRoot atCell
    cases child with
    | null => cases atRoot
    | node top below above height =>
        cases atRoot
        cases stored.1.symm.trans atCell
        exact compareInsertIn_eq via new (readable _ (by simp))
  simp only [insertRotateIn, insertRotateAt, Option.bind_eq_bind, here,
    Option.bind_some]
  refine Option.bind_congr fun balance _ => ?_
  split_ifs
  · refine Option.bind_congr fun address atLeft => ?_
    refine Option.bind_congr fun cell atCell => ?_
    rw [compared left leftStored (fun block member =>
      readable block (by simp [member])) address cell atLeft atCell]
    rfl
  · refine Option.bind_congr fun address atRight => ?_
    refine Option.bind_congr fun cell atCell => ?_
    rw [compared right rightStored (fun block member =>
      readable block (by simp [member])) address cell atRight atCell]
    rfl
  · rfl

theorem insertTail_eq {heap : NodeHeap Nat} {item : Nat × Nat}
    {left right : DbNode (Nat × Nat)} {height : Nat}
    (stores : Stores heap (.node item left right height))
    (distinct : (addresses (.node item left right height)).Nodup)
    (readable : ∀ block ∈ blocks (.node item left right height),
      records block = some (read block)) :
    ((updateHeightAt heap item.1).bind fun heap =>
        insertRotateIn records data heap item.1) =
      (updateHeightAt heap item.1).bind fun heap =>
        insertRotateAt heap data item.1 := by
  obtain ⟨_, _, nodeLeft, nodeRight, _⟩ := nodup_addresses_node.mp distinct
  obtain ⟨heap', updated, stored, _⟩ := updateHeightAt_stores stores.1
    stores.2.1 stores.2.2 nodeLeft nodeRight
  simp only [updated, Option.bind_some]
  exact insertRotateIn_eq via new stored readable

omit [Record α] via in
theorem insertNode_readable {malloc : Pointer}
    {tree inserted : DbNode (Nat × Nat)}
    (readable : ∀ block ∈ blocks tree, records block = some (read block))
    (step : insertNode malloc.isSome (malloc.getD 0, data) tree =
      some inserted) :
    ∀ block ∈ blocks inserted, records block = some (read block) := by
  intro block member
  rcases insertNode_perm step with same | ⟨_, grown⟩
  · exact readable block ((same.map Prod.snd).mem_iff.mp member)
  · rcases List.mem_cons.mp ((grown.map Prod.snd).mem_iff.mp member) with
      rfl | old
    · exact new
    · exact readable block old

theorem insertNodeIn_eq {malloc : Pointer} {heap : NodeHeap Nat}
    {tree inserted : DbNode (Nat × Nat)} {fuel : Nat}
    (stores : Stores heap tree) (distinct : (addresses tree).Nodup)
    (readable : ∀ block ∈ blocks tree, records block = some (read block))
    (fresh : ∀ address ∈ malloc, address ∉ addresses tree)
    (enough : tree.depth ≤ fuel)
    (step : insertNode malloc.isSome (malloc.getD 0, data) tree =
      some inserted) :
    insertNodeIn records malloc data fuel heap (root tree) =
      insertNodeAt malloc data fuel heap (root tree) := by
  induction tree generalizing fuel inserted with
  | null => cases fuel <;> rfl
  | node item left right height ihLeft ihRight =>
      rw [HeightTree.depth_node] at enough
      obtain ⟨fuel, rfl⟩ : ∃ below, fuel = below + 1 :=
        Nat.exists_eq_succ_of_ne_zero (by omega)
      have whole := stores
      obtain ⟨here, leftStored, rightStored⟩ := stores
      obtain ⟨leftOnce, rightOnce, _⟩ := nodup_addresses_node.mp distinct
      simp only [blocks_node, List.mem_append, List.mem_cons] at readable
      have compared := compareInsertIn_eq via new
        (readable item.2 (.inr (.inl rfl)))
      simp only [insertNode, Option.bind_eq_bind] at step
      change (if Record.compareInsert data item.2 < 0 then _
        else if Record.compareInsert data item.2 > 0 then _ else _) = _
        at step
      simp only [root_node, insertNodeIn, insertNodeAt, insertRebalanceAt,
        Option.bind_eq_bind, here, Option.bind_some, compared]
      split_ifs at step ⊢ with below above
      · obtain ⟨left', inner, outer⟩ := Option.bind_eq_some_iff.mp step
        have freshLeft : ∀ address ∈ malloc, address ∉ addresses left :=
          fun address taken member => fresh address taken (by simp [member])
        have readableLeft : ∀ block ∈ blocks left,
            records block = some (read block) :=
          fun block member => readable block (.inl member)
        have enoughLeft : left.depth ≤ fuel := by omega
        obtain ⟨heap2, returned, stored2, kept2⟩ := insertNodeAt_realizes
          malloc data leftStored leftOnce freshLeft enoughLeft inner
        have once : (addresses (.node item left' right height)).Nodup := by
          refine nodup_grown ?_ distinct fresh
          simp only [addresses_node, ← List.append_assoc]
          exact (insertNode_addresses inner).imp
            (·.append_right _) (·.append_right _)
        obtain ⟨heap3, set, stored3, _⟩ :=
          setLeftAt_stores whole kept2 stored2 once
        have readable' := insertNode_readable new readableLeft inner
        simp only [ihLeft leftStored leftOnce readableLeft freshLeft
          enoughLeft inner, returned, Option.bind_some, set]
        refine insertTail_eq via new stored3 once fun block member => ?_
        simp only [blocks_node, List.mem_append, List.mem_cons] at member
        exact member.elim (readable' block) fun member =>
          readable block (.inr member)
      · obtain ⟨right', inner, outer⟩ := Option.bind_eq_some_iff.mp step
        have freshRight : ∀ address ∈ malloc, address ∉ addresses right :=
          fun address taken member => fresh address taken (by simp [member])
        have readableRight : ∀ block ∈ blocks right,
            records block = some (read block) :=
          fun block member => readable block (.inr (.inr member))
        have enoughRight : right.depth ≤ fuel := by omega
        obtain ⟨heap2, returned, stored2, kept2⟩ := insertNodeAt_realizes
          malloc data rightStored rightOnce freshRight enoughRight inner
        have once : (addresses (.node item left right' height)).Nodup := by
          refine nodup_grown ?_ distinct fresh
          simp only [addresses_node]
          exact (insertNode_addresses inner).imp
            (fun same => (same.cons _).append_left _) (perm_leave _)
        obtain ⟨heap3, set, stored3, _⟩ :=
          setRightAt_stores whole kept2 stored2 once
        have readable' := insertNode_readable new readableRight inner
        simp only [ihRight rightStored rightOnce readableRight freshRight
          enoughRight inner, returned, Option.bind_some, set]
        refine insertTail_eq via new stored3 once fun block member => ?_
        simp only [blocks_node, List.mem_append, List.mem_cons] at member
        rcases member with below | here | member
        · exact readable block (.inl below)
        · exact readable block (.inr (.inl here))
        · exact readable' block member
      · rfl

end Insert

private theorem leave_last {β : Type} (first second : List β) (item : β) :
    ((first ++ second) ++ [item]).Perm (first ++ item :: second) := by
  rw [List.append_assoc]
  exact (List.perm_append_singleton item second).append_left first

section Functions

variable [Record α] {memory : TreeHeap α} {read : Nat → α}
  {tree : DbNode (Nat × Nat)} {fuel : Nat}

/-- On the memory of a tree `insert_node` does what `insertNode` does on the
tree of its records. -/
theorem insertNodeIn_realizes (lies : Lies memory read tree)
    {malloc : Pointer} {data : Nat} {grown : DbNode α}
    (new : memory.records data = some (read data))
    (fresh : ∀ address ∈ malloc, address ∉ addresses tree)
    (enough : tree.depth ≤ fuel)
    (step : insertNode malloc.isSome (read data) (contents read tree) =
      some grown) :
    ∃ inserted nodes, insertNodeIn memory.records malloc data fuel
        memory.nodes (root tree) = some (root inserted, nodes) ∧
      contents read inserted = grown ∧ Stores nodes inserted ∧
      Heap.Kept (addresses inserted) memory.nodes nodes ∧
      (inserted.toList.Perm tree.toList ∨ ∃ address, malloc = some address ∧
        inserted.toList.Perm ((address, data) :: tree.toList)) := by
  let _ : Record Nat := Record.via read
  have via : ∀ a b : Nat, Record.compareInsert a b =
      Record.compareInsert (read a) (read b) := fun _ _ => rfl
  obtain ⟨inserted, step', rfl⟩ := Option.map_eq_some_iff.mp
    ((insertNode_map (fun item : Nat × Nat => read item.2) (fun _ _ => rfl)
      malloc.isSome (malloc.getD 0, data) tree).symm.trans step)
  obtain ⟨nodes, returned, stored, kept⟩ := insertNodeAt_realizes malloc data
    lies.stored lies.distinct fresh enough step'
  refine ⟨inserted, nodes, ?_, rfl, stored, kept, ?_⟩
  · rw [insertNodeIn_eq via new lies.stored lies.distinct lies.readable fresh
      enough step', returned]
  · refine (insertNode_perm step').imp_right ?_
    rintro ⟨allocated, perm⟩
    obtain ⟨address, rfl⟩ := Option.isSome_iff_exists.mp allocated
    exact ⟨address, rfl, perm⟩

theorem searchNodeIn_eq (lies : Lies memory read tree) (tunnelId : U16)
    (enough : tree.depth ≤ fuel) :
    ∃ found, searchNodeIn tunnelId memory fuel (root tree) = some found ∧
      (found.bind fun node => (memory.nodes node).bind fun cell =>
        memory.records cell.data) =
      data? (searchNode tunnelId (contents read tree)) := by
  induction tree generalizing fuel with
  | null => exact ⟨none, by cases fuel <;> rfl, rfl⟩
  | node item left right height ihLeft ihRight =>
      rw [HeightTree.depth_node] at enough
      obtain ⟨fuel, rfl⟩ : ∃ below, fuel = below + 1 :=
        Nat.exists_eq_succ_of_ne_zero (by omega)
      have here := lies.stored.1
      simp only [root_node, searchNodeIn, Option.bind_eq_bind, here,
        Option.bind_some, lies.record, contents_node, searchNode]
      split_ifs
      · exact ⟨some item.1, rfl, by simp [here, lies.record, data?]⟩
      · exact ihLeft lies.left (by omega)
      · exact ihRight lies.right (by omega)

omit [Record α] in
theorem freeTreeIn_eq (lies : Lies memory read tree)
    (enough : tree.depth ≤ fuel) :
    freeTreeIn fuel memory (root tree) =
      some ⟨memory.nodes.clear (addresses tree),
        memory.records.clear (blocks tree)⟩ := by
  induction tree generalizing memory fuel with
  | null => cases fuel <;> simp [freeTreeIn, addresses, blocks]
  | node item left right height ihLeft ihRight =>
      rw [HeightTree.depth_node] at enough
      obtain ⟨fuel, rfl⟩ : ∃ below, fuel = below + 1 :=
        Nat.exists_eq_succ_of_ne_zero (by omega)
      have here := lies.stored.1
      obtain ⟨_, _, nodeLeft, nodeRight, apart⟩ :=
        nodup_addresses_node.mp lies.distinct
      have unshared := lies.unshared
      simp only [blocks_node, List.nodup_append, List.nodup_cons] at unshared
      have rightLies : Lies ⟨memory.nodes.clear (addresses left),
          memory.records.clear (blocks left)⟩ read right :=
        lies.right.frame
          (fun address member => Heap.clear_of_not_mem (apart address member))
          (fun block member => Heap.clear_of_not_mem fun below =>
            unshared.2.2 block below block (.tail _ member) rfl)
      -- the node and its record outlive both subtrees
      have here1 : memory.nodes.clear (addresses left) item.1 =
          some ⟨item.2, root left, root right, height⟩ :=
        (Heap.clear_of_not_mem nodeLeft).trans here
      have here2 : (memory.nodes.clear (addresses left)).clear
          (addresses right) item.1 =
            some ⟨item.2, root left, root right, height⟩ :=
        (Heap.clear_of_not_mem nodeRight).trans here1
      have record2 : (memory.records.clear (blocks left)).clear
          (blocks right) item.2 = some (read item.2) := by
        rw [Heap.clear_of_not_mem unshared.2.1.1, Heap.clear_of_not_mem]
        · exact lies.record
        · exact fun below => unshared.2.2 _ below _ (.head _) rfl
      simp only [root_node, freeTreeIn, Option.bind_eq_bind, here,
        Option.bind_some, ihLeft lies.left (show _ ≤ fuel by omega), here1,
        ihRight rightLies (show _ ≤ fuel by omega), here2,
        Heap.free_eq here2, Heap.free_eq record2]
      simp only [Heap.clear_clear]
      rw [Heap.clear_congr _ (leave_last (addresses left) _ item.1),
        Heap.clear_congr _ (leave_last (blocks left) _ item.2),
        addresses_node, blocks_node]
      rfl

end Functions

/-- `path_tree` or `resv_tree` with the memory behind it. -/
structure TreeState (α : Type) where
  tree : Pointer
  memory : TreeHeap α

/-- One call: a record filled in at the address that `malloc` gave it, with
the outcome of the `malloc` for its node; a record for which
`path_tree_insert` then finds no route; or a deletion. -/
inductive MemoryCall (α : Type) where
  | insert (block : Nat) (malloc : Pointer) (data : α)
  | noRoute (block : Nat) (data : α)
  | delete (tunnelId : U16)

/-- More calls than any tree function opens at once. -/
def recursionBound : Nat := 22

namespace TreeState

/-- A tree that is `NULL`, with nothing in use. -/
def null : TreeState α := ⟨none, ⟨fun _ => none, fun _ => none⟩⟩

variable [Record α]

/-- One call on memory. -/
def call (state : TreeState α) : MemoryCall α → Option (TreeState α)
  | .insert block malloc data => do
      let records := state.memory.records.write block data
      let (tree, nodes) ← insertNodeIn records malloc block recursionBound
        state.memory.nodes state.tree
      return ⟨tree, nodes, records⟩
  | .noRoute block data =>
      some { state with memory :=
        { state.memory with records := state.memory.records.write block data } }
  | .delete tunnelId => do
      let (tree, memory) ←
        deleteNodeIn recursionBound tunnelId state.memory state.tree
      return ⟨tree, memory⟩

/-- `malloc` gives memory that is not in use. -/
def Fresh (state : TreeState α) : MemoryCall α → Prop
  | .insert block malloc _ =>
      (state.memory.records block).isNone ∧
        ∀ address ∈ malloc, (state.memory.nodes address).isNone
  | .noRoute block _ => (state.memory.records block).isNone
  | .delete _ => True

instance (state : TreeState α) :
    (call : MemoryCall α) → Decidable (state.Fresh call)
  | .insert _ _ _ => inferInstanceAs (Decidable (_ ∧ _))
  | .noRoute _ _ => inferInstanceAs (Decidable (_ = true))
  | .delete _ => inferInstanceAs (Decidable True)

end TreeState

namespace MemoryCall

variable [Record α]

/-- The same call on the record tree. -/
def on (table : RecordTree α) : MemoryCall α → RecordTree α
  | .insert _ malloc data => table.insert malloc.isSome data
  | .noRoute _ _ => table
  | .delete tunnelId => table.delete tunnelId

/-- The record that a call allocates and does not add: its tunnel id is taken,
there is no memory for a node, or there is no route. -/
def wasted (table : RecordTree α) : MemoryCall α → List Nat
  | .insert block malloc data =>
      if malloc.isSome ∧ (table.find (Record.tunnelId data)).isNone then []
      else [block]
  | .noRoute block _ => [block]
  | .delete _ => []

/-- The records that a run allocates and does not add. -/
def wastedBlocks : RecordTree α → List (MemoryCall α) → List Nat
  | _, [] => []
  | table, call :: calls =>
      call.wasted table ++ wastedBlocks (call.on table) calls

end MemoryCall

theorem MemoryCall.wasted_insert [Record α] (table : RecordTree α)
    (block : Nat) (malloc : Pointer) (data : α) :
    MemoryCall.wasted table (.insert block malloc data) = [] ∨
      MemoryCall.wasted table (.insert block malloc data) = [block] := by
  simp only [MemoryCall.wasted]
  split_ifs
  · exact .inl rfl
  · exact .inr rfl

theorem RecordTree.length_insert [Record α] (table : RecordTree α)
    (block : Nat) (malloc : Pointer) (data : α) :
    (table.insert malloc.isSome data).records.length +
        (MemoryCall.wasted table (.insert block malloc data)).length =
      table.records.length + 1 := by
  cases malloc with
  | none => simp [MemoryCall.wasted, RecordTree.insert_noMemory]
  | some address =>
      cases found : table.find (Record.tunnelId data) with
      | none =>
          simp [MemoryCall.wasted, found,
            (RecordTree.records_insert_perm data found).length_eq]
      | some record =>
          have taken := found
          rw [RecordTree.find_eq_lookup] at taken
          have same : (table.insert true data).records = table.records := by
            rw [RecordTree.records_insert]
            exact KeyedList.insertNew_of_present table.ordered taken
          simp [MemoryCall.wasted, found, same]

namespace TreeState

variable [Record α]

/-- The memory is that of a tree with the given records, and of some records
besides. -/
structure Holds (state : TreeState α) (table : RecordTree α)
    (wasted : List Nat) (tree : DbNode (Nat × Nat)) (read : Nat → α) :
    Prop where
  lies : Lies state.memory read tree
  top : root tree = state.tree
  records : contents read tree = table.tree
  nodesUsed : ∀ address,
    (state.memory.nodes address).isSome ↔ address ∈ addresses tree
  blocksUsed : ∀ block,
    (state.memory.records block).isSome ↔ block ∈ blocks tree ++ wasted
  apart : (blocks tree ++ wasted).Nodup

namespace Holds

variable {state : TreeState α} {table : RecordTree α} {wasted : List Nat}
  {tree : DbNode (Nat × Nat)} {read : Nat → α}

theorem null (read : Nat → α) :
    Holds TreeState.null RecordTree.null [] .null read where
  lies := ⟨trivial, .nil, .nil, nofun⟩
  top := rfl
  records := rfl
  nodesUsed _ := by simp [TreeState.null, addresses]
  blocksUsed _ := by simp [TreeState.null, blocks]
  apart := .nil

variable (holds : Holds state table wasted tree read)

include holds

theorem depth_le : tree.depth ≤ recursionBound := by
  rw [← HeightTree.depth_map (fun item : Nat × Nat => read item.2) tree]
  have below := table.depth_le
  rwa [← holds.records] at below

theorem delete (tunnelId : U16) :
    ∃ state' tree', state.call (.delete tunnelId) = some state' ∧
      Holds state' (table.delete tunnelId) wasted tree' read := by
  obtain ⟨records, step⟩ := table.deleteNode_eq tunnelId
  rw [← holds.records] at step
  obtain ⟨tree', memory', freed, returned, deleted, _, freeing⟩ :=
    deleteNodeIn_removes holds.lies holds.depth_le step
  have nodes := freeing.nodes_perm.nodup_iff.mp holds.lies.distinct
  rw [List.nodup_append] at nodes
  have split : (blocks tree ++ wasted).Perm
      (freed.map Prod.snd ++ (blocks tree' ++ wasted)) := by
    simpa using freeing.blocks_perm.append_right wasted
  have apart := split.nodup_iff.mp holds.apart
  rw [List.nodup_append] at apart
  refine ⟨⟨root tree', memory'⟩, tree', ?_, freeing.lies holds.lies, rfl,
    deleted, ?_, ?_, apart.2.1⟩
  · rw [holds.top] at returned
    simp [call, returned]
  · intro address
    by_cases inside : address ∈ addresses tree
    · rcases List.mem_append.mp (freeing.nodes_perm.mem_iff.mp inside) with
        gone | left
      · obtain ⟨item, member, rfl⟩ := List.mem_map.mp gone
        have outside : item.1 ∉ addresses tree' :=
          fun left => nodes.2.2 _ gone _ left rfl
        simp [freeing.gone item member, outside]
      · simp [freeing.stored.isSome left, left]
    · rw [freeing.kept address inside, holds.nodesUsed]
      simp [inside, mt freeing.addresses_subset inside]
  · intro block
    rw [freeing.records]
    by_cases gone : block ∈ freed.map Prod.snd
    · rw [Heap.clear_of_mem gone]
      simpa using fun left => apart.2.2 block gone block left rfl
    · rw [Heap.clear_of_not_mem gone, holds.blocksUsed, split.mem_iff]
      simp [gone]

theorem blocks_insert {block : Nat} {malloc : Pointer} {data : α}
    {inserted : DbNode (Nat × Nat)} {read' : Nat → α}
    (grown : contents read' inserted =
      (table.insert malloc.isSome data).tree)
    (items : inserted.toList.Perm tree.toList ∨
      ∃ address, malloc = some address ∧
        inserted.toList.Perm ((address, block) :: tree.toList)) :
    (blocks inserted ++ (wasted ++
      MemoryCall.wasted table (.insert block malloc data))).Perm
        (block :: (blocks tree ++ wasted)) := by
  have after : inserted.toList.length =
      (table.insert malloc.isSome data).records.length := by
    rw [RecordTree.records, ← grown, contents, HeightTree.toList_map,
      List.length_map]
  have before : tree.toList.length = table.records.length := by
    rw [RecordTree.records, ← holds.records, contents, HeightTree.toList_map,
      List.length_map]
  have lengths := table.length_insert block malloc data
  rcases items with same | ⟨address, rfl, added⟩
  · rcases MemoryCall.wasted_insert table block malloc data with none | one
    · rw [none, ← after, ← before, same.length_eq] at lengths
      simp at lengths
    · rw [one, ← List.append_assoc]
      exact (((same.map Prod.snd).append_right wasted).append_right _).trans
        (List.perm_append_singleton ..)
  · rcases MemoryCall.wasted_insert table block (some address) data with
      none | one
    · rw [none, List.append_nil]
      exact (added.map Prod.snd).append_right wasted
    · rw [one, ← after, ← before, added.length_eq] at lengths
      simp at lengths

theorem insert {block : Nat} {malloc : Pointer} {data : α}
    (fresh : state.Fresh (.insert block malloc data)) :
    ∃ state' tree' read', state.call (.insert block malloc data) =
        some state' ∧
      Holds state' (table.insert malloc.isSome data)
        (wasted ++ MemoryCall.wasted table (.insert block malloc data)) tree'
        read' := by
  obtain ⟨freshBlock, freshNode⟩ := fresh
  have unused : block ∉ blocks tree ++ wasted := by
    intro used
    have := (holds.blocksUsed block).mpr used
    simp_all
  have freshAddress : ∀ address ∈ malloc, address ∉ addresses tree := by
    intro address taken used
    have := (holds.nodesUsed address).mpr used
    simp_all
  -- the memory with the new record, read as before where the tree lies
  let records := state.memory.records.write block data
  let read' := Function.update read block data
  have newBlock : read' block = data := Function.update_self ..
  have oldBlock : ∀ other ∈ blocks tree, read' other = read other := by
    intro other member
    apply Function.update_of_ne
    rintro rfl
    exact unused (List.mem_append_left _ member)
  have lies : Lies ⟨state.memory.nodes, records⟩ read' tree :=
    { holds.lies with
      readable := by
        intro other member
        rw [oldBlock other member, ← holds.lies.readable other member]
        apply Heap.write_other
        rintro rfl
        exact unused (List.mem_append_left _ member) }
  have new : records block = some (read' block) := by
    rw [newBlock]
    exact Heap.write_self ..
  have step := table.insertNode_eq malloc.isSome data
  rw [← holds.records, ← contents_congr oldBlock, ← newBlock] at step
  obtain ⟨inserted, nodes, returned, grown, stored, kept, items⟩ :=
    insertNodeIn_realizes lies new freshAddress holds.depth_le step
  rw [newBlock] at grown
  have whole := holds.blocks_insert grown items
  have addressesGrown : (addresses inserted).Perm (addresses tree) ∨
      (addresses inserted).Perm (malloc.toList ++ addresses tree) := by
    refine items.imp (·.map Prod.fst) ?_
    rintro ⟨address, rfl, added⟩
    exact added.map Prod.fst
  have apart := whole.nodup_iff.mpr (List.nodup_cons.mpr ⟨unused, holds.apart⟩)
  refine ⟨⟨root inserted, nodes, records⟩, inserted, read', ?_,
    ⟨stored, nodup_grown addressesGrown holds.lies.distinct freshAddress,
      (List.nodup_append.mp apart).1, ?_⟩, rfl, grown, ?_, ?_, apart⟩
  · rw [holds.top] at returned
    simp only [call, Option.bind_eq_bind]
    rw [returned]
    rfl
  · intro other member
    rcases items with same | ⟨address, rfl, added⟩
    · exact lies.readable other ((same.map Prod.snd).mem_iff.mp member)
    · rcases List.mem_cons.mp ((added.map Prod.snd).mem_iff.mp member) with
        rfl | old
      · exact new
      · exact lies.readable other old
  · intro address
    by_cases inside : address ∈ addresses inserted
    · simp [stored.isSome inside, inside]
    · have outside : address ∉ addresses tree := by
        rcases addressesGrown with same | grown
        · exact mt same.mem_iff.mpr inside
        · exact fun old => inside
            (grown.mem_iff.mpr (List.mem_append_right _ old))
      have same := kept address inside
      dsimp only at same ⊢
      rw [same, holds.nodesUsed]
      simp [inside, outside]
  · intro other
    rw [whole.mem_iff, List.mem_cons, ← holds.blocksUsed]
    by_cases same : other = block
    · subst same
      simp [records]
    · simp [records, Heap.write_other _ _ same, same]

theorem noRoute {block : Nat} {data : α}
    (fresh : state.Fresh (.noRoute block data)) :
    ∃ state', state.call (.noRoute block data) = some state' ∧
      Holds state' table (wasted ++ [block]) tree read := by
  have unused : block ∉ blocks tree ++ wasted := by
    intro used
    have := (holds.blocksUsed block).mpr used
    simp_all [Fresh]
  refine ⟨_, rfl, ?_, holds.top, holds.records, holds.nodesUsed, ?_, ?_⟩
  · refine holds.lies.frame (fun _ _ => rfl) fun other member => ?_
    apply Heap.write_other
    rintro rfl
    exact unused (List.mem_append_left _ member)
  · intro other
    rw [← List.append_assoc, List.mem_append, ← holds.blocksUsed,
      List.mem_singleton]
    by_cases same : other = block
    · simp [same]
    · simp [Heap.write_other _ _ same, same]
  · rw [← List.append_assoc]
    exact (List.perm_append_singleton ..).nodup_iff.mpr
      (List.nodup_cons.mpr ⟨unused, holds.apart⟩)

theorem run {calls : List (MemoryCall α)} {final : TreeState α}
    (run : runEvents (guarded call Fresh) state calls = some final) :
    ∃ tree' read', Holds final (calls.foldl MemoryCall.on table)
      (wasted ++ MemoryCall.wastedBlocks table calls) tree' read' := by
  induction calls generalizing state table wasted tree read with
  | nil =>
      cases run
      exact ⟨tree, read, by simpa [MemoryCall.wastedBlocks] using holds⟩
  | cons head calls ih =>
      obtain ⟨next, taken, rest⟩ := runEvents_cons.mp run
      rw [guarded] at taken
      split at taken
      case isFalse => cases taken
      case isTrue fresh =>
      rw [List.foldl_cons, MemoryCall.wastedBlocks, ← List.append_assoc]
      cases head with
      | insert block malloc data =>
          obtain ⟨state', tree', read', step, kept⟩ := holds.insert fresh
          cases step.symm.trans taken
          exact ih kept rest
      | noRoute block data =>
          obtain ⟨state', step, kept⟩ := holds.noRoute fresh
          cases step.symm.trans taken
          exact ih kept rest
      | delete tunnelId =>
          obtain ⟨state', tree', step, kept⟩ := holds.delete tunnelId
          cases step.symm.trans taken
          rw [MemoryCall.wasted, List.append_nil]
          exact ih kept rest

end Holds

section Runs

variable [Inhabited α] {calls : List (MemoryCall α)} {state : TreeState α}
  (run : runEvents (guarded call Fresh) null calls = some state)

include run

theorem run_holds :
    ∃ tree read, Holds state (calls.foldl MemoryCall.on RecordTree.null)
      (MemoryCall.wastedBlocks RecordTree.null calls) tree read :=
  (Holds.null fun _ => default).run run

/-- No run gets to a call that reads memory it has freed, frees memory twice
or follows a NULL pointer; and the search finds in memory what the record tree
holds. -/
theorem run_safe {next : MemoryCall α} (fresh : state.Fresh next)
    (tunnelId : U16) :
    (state.call next).isSome ∧
      ∃ found, searchNodeIn tunnelId state.memory recursionBound state.tree =
          some found ∧
        (found.bind fun node => (state.memory.nodes node).bind fun cell =>
          state.memory.records cell.data) =
        (calls.foldl MemoryCall.on RecordTree.null).find tunnelId := by
  obtain ⟨tree, read, holds⟩ := run_holds run
  constructor
  · cases next with
    | insert block malloc data =>
        obtain ⟨state', _, _, step, _⟩ := holds.insert fresh
        simp [step]
    | noRoute block data => rfl
    | delete target =>
        obtain ⟨state', _, step, _⟩ := holds.delete target
        simp [step]
  · rw [← holds.top, RecordTree.find, ← holds.records]
    exact searchNodeIn_eq holds.lies tunnelId holds.depth_le

/-- After every run the nodes in use are those of the tree, and the records in
use are those of the tree and those that were allocated and not added; freeing
the tree leaves the latter and no node. -/
theorem run_ledger :
    ∃ tree read, Holds state (calls.foldl MemoryCall.on RecordTree.null)
        (MemoryCall.wastedBlocks RecordTree.null calls) tree read ∧
      ∃ memory, freeTreeIn recursionBound state.memory state.tree =
          some memory ∧
        (∀ address, memory.nodes address = none) ∧
        ∀ block, (memory.records block).isSome ↔
          block ∈ MemoryCall.wastedBlocks RecordTree.null calls := by
  obtain ⟨tree, read, holds⟩ := run_holds run
  have freed := freeTreeIn_eq holds.lies holds.depth_le
  rw [holds.top] at freed
  refine ⟨tree, read, holds, _, freed, ?_, ?_⟩
  · intro address
    by_cases inside : address ∈ addresses tree
    · exact Heap.clear_of_mem inside
    · refine (Heap.clear_of_not_mem inside).trans ?_
      exact Option.not_isSome_iff_eq_none.mp
        (mt (holds.nodesUsed address).mp inside)
  · intro block
    have apart := (List.nodup_append.mp holds.apart).2.2
    dsimp only
    by_cases inside : block ∈ blocks tree
    · rw [Heap.clear_of_mem inside]
      simpa using fun other => apart block inside block other rfl
    · rw [Heap.clear_of_not_mem inside, holds.blocksUsed]
      simp [inside]

end Runs

/-- Tunnels 5, 3 and 8 are inserted, 3 once more, for 4 there is no route, and
5 is deleted. -/
def sampleCalls : List (MemoryCall ResvMsg) :=
  [.insert 100 (some 10) (recordOf 5), .insert 101 (some 11) (recordOf 3),
    .insert 102 (some 12) (recordOf 8), .insert 103 (some 13) (recordOf 3),
    .noRoute 104 (recordOf 4), .delete 5]

theorem sampleCalls_run :
    (runEvents (guarded call Fresh) null sampleCalls).isSome := by
  decide

/-- After these calls tunnel 3 can be deleted. -/
theorem sampleCalls_safe :
    ∃ state, runEvents (guarded call Fresh) null sampleCalls = some state ∧
      (state.call (.delete 3)).isSome ∧
      ∃ found, searchNodeIn 8 state.memory recursionBound state.tree =
          some found ∧
        (found.bind fun node => (state.memory.nodes node).bind fun cell =>
          state.memory.records cell.data) =
        (sampleCalls.foldl MemoryCall.on RecordTree.null).find 8 := by
  obtain ⟨state, run⟩ := Option.isSome_iff_exists.mp sampleCalls_run
  have fresh : state.Fresh (.delete 3) := trivial
  exact ⟨state, run, run_safe run fresh 8⟩

/-- The second record of tunnel 3 and that of tunnel 4 are never freed. -/
theorem sampleCalls_ledger :
    ∃ state, runEvents (guarded call Fresh) null sampleCalls = some state ∧
      ∃ tree read, Holds state (sampleCalls.foldl MemoryCall.on
          RecordTree.null) [103, 104] tree read ∧
        ∃ memory, freeTreeIn recursionBound state.memory state.tree =
            some memory ∧
          (∀ address, memory.nodes address = none) ∧
          ∀ block, (memory.records block).isSome ↔ block ∈ [103, 104] := by
  obtain ⟨state, run⟩ := Option.isSome_iff_exists.mp sampleCalls_run
  have wasted : MemoryCall.wastedBlocks RecordTree.null sampleCalls =
      [103, 104] := by decide
  have ledger := run_ledger run
  rw [wasted] at ledger
  exact ⟨state, run, ledger⟩

end TreeState

end Rsvpd
