import Rsvpd.RecordTree
import Mathlib.Data.List.Induction

/-!
# Histories of tree calls

A history is any sequence of `insert_node` and `delete_node` calls on a tree
that starts empty.  The tree after a history is compared with the map that
the history describes: the record of a tunnel id is the first one inserted
since the last deletion of that id.
-/

namespace Rsvpd

open HeightTree

variable {α : Type} [Record α]

/-- One call of a client of the tree. -/
inductive TreeCall (α : Type) where
  | insert (data : α)
  | delete (tunnelId : U16)

def runCall (malloc : Bool) (call : TreeCall α) (node : DbNode α) :
    Option (DbNode α) :=
  match call with
  | .insert data => insertNode malloc data node
  | .delete tunnelId => (deleteNode tunnelId node).map Prod.fst

/-- A history, each call with the outcome of its `malloc`. -/
def runCalls (calls : List (Bool × TreeCall α)) (node : DbNode α) :
    Option (DbNode α) :=
  calls.foldlM (fun node call => runCall call.1 call.2 node) node

namespace TreeCall

/-- Does the call delete this tunnel id? -/
def deletes (tunnelId : U16) : TreeCall α → Bool
  | .insert _ => false
  | .delete target => target == tunnelId

/-- The record the call inserts under this tunnel id. -/
def inserted? (tunnelId : U16) : TreeCall α → Option α
  | .insert data =>
      if Record.tunnelId data = tunnelId then some data else none
  | .delete _ => none

end TreeCall

/-- The calls after the last deletion of a tunnel id. -/
def sinceDelete (tunnelId : U16) (calls : List (TreeCall α)) :
    List (TreeCall α) :=
  (calls.reverse.takeWhile fun call => !call.deletes tunnelId).reverse

/-- The first record inserted under a tunnel id since its last deletion. -/
def mapped (calls : List (TreeCall α)) (tunnelId : U16) : Option α :=
  (sinceDelete tunnelId calls).findSome? (TreeCall.inserted? tunnelId)

@[simp] theorem mapped_nil (tunnelId : U16) :
    mapped ([] : List (TreeCall α)) tunnelId = none := rfl

theorem mapped_insert (calls : List (TreeCall α)) (data : α)
    (tunnelId : U16) :
    mapped (calls ++ [.insert data]) tunnelId =
      if tunnelId = Record.tunnelId data then
        (mapped calls tunnelId).or (some data)
      else mapped calls tunnelId := by
  by_cases same : tunnelId = Record.tunnelId data
  · simp [mapped, sinceDelete, TreeCall.deletes, TreeCall.inserted?,
      List.findSome?_append, same]
  · simp [mapped, sinceDelete, TreeCall.deletes, TreeCall.inserted?,
      List.findSome?_append, same, Ne.symm same]

theorem mapped_delete (calls : List (TreeCall α)) (removed tunnelId : U16) :
    mapped (calls ++ [.delete removed]) tunnelId =
      if tunnelId = removed then none else mapped calls tunnelId := by
  by_cases same : tunnelId = removed
  · simp [mapped, sinceDelete, TreeCall.deletes, same]
  · simp [mapped, sinceDelete, TreeCall.deletes, TreeCall.inserted?,
      List.findSome?_append, same, Ne.symm same]

theorem runCall_keeps (malloc : Bool) (call : TreeCall α)
    (table : RecordTree α) :
    ∃ table' : RecordTree α,
      runCall malloc call table.tree = some table'.tree ∧
        table' = match call with
          | .insert data => table.insert malloc data
          | .delete tunnelId => table.delete tunnelId := by
  cases call with
  | insert data =>
      exact ⟨_, RecordTree.insertNode_eq malloc data table, rfl⟩
  | delete tunnelId =>
      obtain ⟨freed, step⟩ := RecordTree.deleteNode_eq tunnelId table
      exact ⟨table.delete tunnelId, by simp [runCall, step], rfl⟩

theorem runCalls_keeps (calls : List (Bool × TreeCall α))
    (table : RecordTree α) :
    ∃ table' : RecordTree α,
      runCalls calls table.tree = some table'.tree := by
  induction calls generalizing table with
  | nil => exact ⟨table, rfl⟩
  | cons call calls ih =>
      obtain ⟨next, step, _⟩ := runCall_keeps call.1 call.2 table
      obtain ⟨final, rest⟩ := ih next
      refine ⟨final, ?_⟩
      rw [runCalls, List.foldlM_cons, step]
      exact rest

/-- Every history leaves an AVL tree and never reads through NULL: no rotation
is applied to a node that lacks the child it lifts. -/
theorem treeCalls_balanced (calls : List (Bool × TreeCall α)) :
    ∃ node, runCalls calls (.null : DbNode α) = some node ∧ node.Avl := by
  obtain ⟨table, run⟩ := runCalls_keeps calls (RecordTree.null : RecordTree α)
  exact ⟨table.tree, run, table.avl⟩

theorem runCalls_find (calls : List (TreeCall α)) :
    ∃ table : RecordTree α,
      runCalls (calls.map (true, ·)) .null = some table.tree ∧
        ∀ tunnelId, table.find tunnelId = mapped calls tunnelId := by
  induction calls using List.reverseRecOn with
  | nil => exact ⟨RecordTree.null, rfl, fun _ => rfl⟩
  | append_singleton calls call ih =>
      obtain ⟨table, run, found⟩ := ih
      obtain ⟨table', step, result⟩ := runCall_keeps true call table
      refine ⟨table', ?_, ?_⟩
      · unfold runCalls at run ⊢
        rw [List.map_append, List.foldlM_append, run]
        simpa using step
      · intro tunnelId
        cases call with
        | insert data =>
            subst result
            rw [RecordTree.find_insert, mapped_insert, found]
            rfl
        | delete removed =>
            subst result
            rw [RecordTree.find_delete, mapped_delete, found]

/-- After every history with successful allocations the tree is the finite
map that the history describes, listed in increasing tunnel id, and deleting
any tunnel id then frees exactly the record mapped there. -/
theorem treeCalls_refine_map (calls : List (TreeCall α)) :
    ∃ node, runCalls (calls.map (true, ·)) (.null : DbNode α) = some node ∧
      (∀ tunnelId, data? (searchNode tunnelId node) =
        mapped calls tunnelId) ∧
      node.toList.Pairwise (fun first second =>
        (Record.tunnelId first).toNat < (Record.tunnelId second).toNat) ∧
      (∀ record, record ∈ node.toList ↔
        mapped calls (Record.tunnelId record) = some record) ∧
      ∀ tunnelId, ∃ deleted, deleteNode tunnelId node =
        some (deleted, (mapped calls tunnelId).toList) := by
  obtain ⟨table, run, found⟩ := runCalls_find calls
  refine ⟨table.tree, run, found, table.ordered, ?_, ?_⟩
  · intro record
    rw [← found]
    exact RecordTree.mem_records_iff
  · intro tunnelId
    obtain ⟨freed, step⟩ := RecordTree.deleteNode_eq tunnelId table
    refine ⟨(table.delete tunnelId).tree, ?_⟩
    rw [step, (deleteNode_toList table.ordered step).2, ← found,
      RecordTree.find_eq_lookup]
    rfl

end Rsvpd
