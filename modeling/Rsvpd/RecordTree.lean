import Rsvpd.TreeMap

/-!
# Record trees with their invariant

`path_tree` and `resv_tree` only ever hold results of `insert_node` and
`delete_node`, so the daemon's state keeps them as trees that carry the AVL
and ordering invariants.  On these the two functions are total.
-/

namespace Rsvpd

open HeightTree

/-- An AVL tree ordered by tunnel id. -/
structure RecordTree (α : Type) [Record α] where
  tree : DbNode α
  avl : tree.Avl
  ordered : Ordered tree

namespace RecordTree

variable {α : Type} [Record α]

theorem eq_of_tree {first second : RecordTree α}
    (same : first.tree = second.tree) : first = second := by
  cases first
  cases second
  cases same
  rfl

instance [DecidableEq α] : DecidableEq (RecordTree α) := fun first second =>
  decidable_of_iff (first.tree = second.tree)
    ⟨eq_of_tree, fun same => same ▸ rfl⟩

/-- The `NULL` tree. -/
def null : RecordTree α := ⟨.null, trivial, ordered_null⟩

/-- `tree == NULL`. -/
def isNull (table : RecordTree α) : Bool :=
  match table.tree with
  | .null => true
  | .node _ _ _ _ => false

/-- The records in increasing tunnel id. -/
def records (table : RecordTree α) : List α := table.tree.toList

/-- `search_node(tree, tunnel_id, cmp)->data`, or `none` when the search
returns `NULL`. -/
def find (tunnelId : U16) (table : RecordTree α) : Option α :=
  data? (searchNode tunnelId table.tree)

theorem insertNode_isSome (malloc : Bool) (data : α) (table : RecordTree α) :
    (insertNode malloc data table.tree).isSome := by
  obtain ⟨inserted, step, _, _⟩ := insertNode_avl malloc data table.avl
  simp [step]

theorem deleteNode_isSome (tunnelId : U16) (table : RecordTree α) :
    (deleteNode tunnelId table.tree).isSome := by
  obtain ⟨deleted, freed, step, _⟩ := deleteNode_avl tunnelId table.avl
  simp [step]

theorem insertNode_keeps {malloc : Bool} {data : α} {table : RecordTree α}
    {inserted : DbNode α}
    (step : insertNode malloc data table.tree = some inserted) :
    inserted.Avl ∧ Ordered inserted := by
  obtain ⟨inserted', step', avl, _⟩ := insertNode_avl malloc data table.avl
  cases step.symm.trans step'
  refine ⟨avl, ?_⟩
  cases malloc with
  | false =>
      cases step.symm.trans (insertNode_noMemory table.avl)
      exact table.ordered
  | true =>
      rw [Ordered, insertNode_toList table.ordered step]
      exact KeyedList.ascending_insertNew data table.ordered

theorem deleteNode_keeps {tunnelId : U16} {table : RecordTree α}
    {result : DbNode α × List α}
    (step : deleteNode tunnelId table.tree = some result) :
    result.1.Avl ∧ Ordered result.1 := by
  obtain ⟨deleted, freed, step', avl, _⟩ := deleteNode_avl tunnelId table.avl
  cases step.symm.trans step'
  refine ⟨avl, ?_⟩
  rw [Ordered, (deleteNode_toList table.ordered step).1]
  exact KeyedList.ascending_erase _ table.ordered

/-- `insert_node` on a tree with its invariant. -/
def insert (malloc : Bool) (data : α) (table : RecordTree α) :
    RecordTree α :=
  let inserted := (insertNode malloc data table.tree).get
    (insertNode_isSome malloc data table)
  have keeps := insertNode_keeps (Option.some_get _).symm
  ⟨inserted, keeps.1, keeps.2⟩

/-- `delete_node` on a tree with its invariant. -/
def delete (tunnelId : U16) (table : RecordTree α) : RecordTree α :=
  let deleted := (deleteNode tunnelId table.tree).get
    (deleteNode_isSome tunnelId table)
  have keeps := deleteNode_keeps (Option.some_get _).symm
  ⟨deleted.1, keeps.1, keeps.2⟩

theorem insertNode_eq (malloc : Bool) (data : α) (table : RecordTree α) :
    insertNode malloc data table.tree =
      some (table.insert malloc data).tree :=
  (Option.some_get _).symm

theorem deleteNode_eq (tunnelId : U16) (table : RecordTree α) :
    ∃ freed, deleteNode tunnelId table.tree =
      some ((table.delete tunnelId).tree, freed) :=
  ⟨_, (Option.some_get (deleteNode_isSome tunnelId table)).symm⟩

theorem key_eq_iff {record : α} {tunnelId : U16} :
    Record.key record = tunnelId.toNat ↔
      Record.tunnelId record = tunnelId :=
  BitVec.toNat_inj

theorem records_ascending (table : RecordTree α) :
    KeyedList.Ascending Record.key table.records := table.ordered

theorem find_eq_lookup (tunnelId : U16) (table : RecordTree α) :
    table.find tunnelId =
      KeyedList.lookup Record.key tunnelId.toNat table.records :=
  searchNode_data tunnelId table.ordered

theorem find_tunnelId {table : RecordTree α} {tunnelId : U16} {record : α}
    (found : table.find tunnelId = some record) :
    Record.tunnelId record = tunnelId := by
  rw [find_eq_lookup] at found
  exact key_eq_iff.mp (KeyedList.lookup_some found).2

theorem mem_records_iff {table : RecordTree α} {record : α} :
    record ∈ table.records ↔
      table.find (Record.tunnelId record) = some record := by
  rw [find_eq_lookup]
  exact KeyedList.mem_iff_lookup table.records_ascending

theorem mem_of_find {table : RecordTree α} {tunnelId : U16} {record : α}
    (found : table.find tunnelId = some record) : record ∈ table.records := by
  rw [find_eq_lookup] at found
  exact (KeyedList.lookup_some found).1

@[simp] theorem find_null (tunnelId : U16) :
    (null : RecordTree α).find tunnelId = none := rfl

@[simp] theorem records_null : (null : RecordTree α).records = [] := rfl

theorem records_insert (data : α) (table : RecordTree α) :
    (table.insert true data).records =
      KeyedList.insertNew Record.key data table.records :=
  insertNode_toList table.ordered (insertNode_eq true data table)

theorem insert_noMemory (data : α) (table : RecordTree α) :
    table.insert false data = table := by
  apply eq_of_tree
  exact Option.some_injective _
    ((insertNode_eq false data table).symm.trans
      (insertNode_noMemory table.avl))

theorem records_delete (tunnelId : U16) (table : RecordTree α) :
    (table.delete tunnelId).records =
      KeyedList.erase Record.key tunnelId.toNat table.records := by
  obtain ⟨freed, step⟩ := deleteNode_eq tunnelId table
  exact (deleteNode_toList table.ordered step).1

/-- Insertion adds the record under its tunnel id unless the id is taken or
the allocation fails, and changes nothing else. -/
theorem find_insert (malloc : Bool) (data : α) (table : RecordTree α)
    (tunnelId : U16) :
    (table.insert malloc data).find tunnelId =
      if tunnelId = Record.tunnelId data then
        (table.find tunnelId).or (if malloc then some data else none)
      else table.find tunnelId := by
  cases malloc with
  | false => simp [insert_noMemory]
  | true =>
      rw [find_eq_lookup, records_insert,
        KeyedList.lookup_insertNew table.records_ascending, ← find_eq_lookup]
      have sameKey : tunnelId.toNat = Record.key data ↔
          tunnelId = Record.tunnelId data := BitVec.toNat_inj
      simp [sameKey]

theorem find_delete (removed tunnelId : U16) (table : RecordTree α) :
    (table.delete removed).find tunnelId =
      if tunnelId = removed then none else table.find tunnelId := by
  rw [find_eq_lookup, records_delete,
    KeyedList.lookup_erase table.records_ascending, ← find_eq_lookup]
  simp [BitVec.toNat_inj]

theorem find_insert_cases {malloc : Bool} {data record : α}
    {table : RecordTree α} {tunnelId : U16}
    (found : (table.insert malloc data).find tunnelId = some record) :
    record = data ∨ table.find tunnelId = some record := by
  rw [find_insert] at found
  split at found
  case isTrue =>
    cases before : table.find tunnelId with
    | some old => exact .inr (by simpa [before] using found)
    | none =>
        cases malloc with
        | false => simp [before] at found
        | true => exact .inl (by simpa [before, eq_comm] using found)
  case isFalse => exact .inr found

theorem find_insert_some (malloc : Bool) (data : α) {table : RecordTree α}
    {tunnelId : U16} {record : α}
    (found : table.find tunnelId = some record) :
    (table.insert malloc data).find tunnelId = some record := by
  rw [find_insert, found]
  split <;> rfl

theorem find_insert_self (data : α) {table : RecordTree α} {tunnelId : U16}
    (same : Record.tunnelId data = tunnelId)
    (missing : table.find tunnelId = none) :
    (table.insert true data).find tunnelId = some data := by
  simp [find_insert, same, missing]

@[simp] theorem find_delete_self (tunnelId : U16) (table : RecordTree α) :
    (table.delete tunnelId).find tunnelId = none := by
  simp [find_delete]

theorem find_of_missing {table : RecordTree α} {removed : U16}
    (missing : table.find removed = none) (tunnelId : U16) :
    table.find tunnelId =
      if tunnelId = removed then none else table.find tunnelId := by
  split
  case isTrue same => rw [same, missing]
  case isFalse => rfl

theorem records_insert_perm (data : α) {table : RecordTree α}
    (missing : table.find (Record.tunnelId data) = none) :
    (table.insert true data).records.Perm (data :: table.records) := by
  rw [records_insert]
  rw [find_eq_lookup] at missing
  exact KeyedList.insertNew_perm table.records_ascending missing

theorem isNull_iff {table : RecordTree α} :
    table.isNull = true ↔ ∀ tunnelId, table.find tunnelId = none := by
  constructor
  · intro empty tunnelId
    unfold isNull at empty
    unfold find
    cases shape : table.tree with
    | null => rfl
    | node data left right height => simp [shape] at empty
  · intro missing
    by_contra nonempty
    unfold isNull at nonempty
    split at nonempty
    · exact nonempty rfl
    · rename_i data left right height shape
      have member : data ∈ table.records := by simp [records, shape]
      rw [mem_records_iff, missing] at member
      cases member

theorem mem_insert_of_mem (malloc : Bool) (data : α) {table : RecordTree α}
    {record : α} (member : record ∈ table.records) :
    record ∈ (table.insert malloc data).records := by
  rw [mem_records_iff] at member ⊢
  exact find_insert_some malloc data member

theorem mem_insert_cases {malloc : Bool} {data record : α}
    {table : RecordTree α}
    (member : record ∈ (table.insert malloc data).records) :
    record = data ∨ record ∈ table.records := by
  rw [mem_records_iff] at member
  exact (find_insert_cases member).imp_right mem_of_find

theorem mem_insert_self {data : α} {table : RecordTree α}
    (missing : table.find (Record.tunnelId data) = none) :
    data ∈ (table.insert true data).records :=
  mem_of_find (find_insert_self _ rfl missing)

/-- Storing an insertion only when its result is not `NULL` is the same as
storing it always. -/
theorem eq_insert_of_isNull {malloc : Bool} {data : α}
    {table : RecordTree α} (empty : (table.insert malloc data).isNull = true) :
    table.insert malloc data = table := by
  cases malloc with
  | false => exact insert_noMemory data table
  | true =>
      have absent := isNull_iff.mp empty (Record.tunnelId data)
      rw [find_insert, if_pos rfl] at absent
      simp at absent

section Write

variable (tunnelId : U16) (change : α → α)

/-- The change of one record, on any record. -/
def changeAt (record : α) : α :=
  if Record.tunnelId record = tunnelId then change record else record

variable (keeps : ∀ record, Record.tunnelId (change record) =
  Record.tunnelId record)

include keeps in
theorem changeAt_key (record : α) :
    Record.key (changeAt tunnelId change record) = Record.key record := by
  unfold changeAt
  split
  · rw [Record.key, keeps, Record.key]
  · rfl

/-- Assignments through `search_node(tree, tunnel_id, cmp)->data` that leave
the tunnel id of the record alone. -/
def write (table : RecordTree α) : RecordTree α :=
  ⟨table.tree.map (changeAt tunnelId change), avl_map _ table.avl, by
    rw [Ordered, toList_map]
    exact KeyedList.ascending_map (changeAt_key tunnelId change keeps)
      table.ordered⟩

theorem find_write (target : U16) (table : RecordTree α) :
    (table.write tunnelId change keeps).find target =
      (table.find target).map fun record =>
        if target = tunnelId then change record else record := by
  have written : (table.write tunnelId change keeps).records =
      table.records.map (changeAt tunnelId change) := toList_map _ table.tree
  rw [find_eq_lookup, written,
    KeyedList.lookup_map (changeAt_key tunnelId change keeps),
    ← find_eq_lookup]
  cases found : table.find target with
  | none => rfl
  | some record =>
      rw [Option.map_some, Option.map_some, changeAt,
        find_tunnelId found]

end Write

end RecordTree

end Rsvpd
