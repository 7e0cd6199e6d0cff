import Rsvpd.SessionList
import Rsvpd.Lib.LinkedList

/-!
# Session lists in memory

`delete_session` as the source has it, on cells with addresses, pointers and
`free`.  A freed cell can be read and still holds what it held last; it is
neither written nor freed again.  `print_session` only reads and is left out.
-/

namespace Rsvpd

open LinkedList

/-- The memory of the sessions, with the cells given to `free`, in order. -/
structure SessionMemory where
  heap : Heap (Link Session)
  freed : List Nat

namespace SessionMemory

variable (m : SessionMemory) (address : Nat)

/-- The cell may be written and freed. -/
def Live : Prop := (m.heap address).isSome ∧ address ∉ m.freed

instance : Decidable (m.Live address) := inferInstanceAs (Decidable (_ ∧ _))

/-- `*sess = cell`. -/
def store (cell : Link Session) : Option SessionMemory :=
  if m.Live address then some { m with heap := m.heap.write address cell }
  else none

def free : Option SessionMemory :=
  if m.Live address then some { m with freed := m.freed ++ [address] }
  else none

end SessionMemory

/-- `delete_session`: the memory after the call, and the new head. -/
def deleteSessionAt (m : SessionMemory) (head sess prev : Pointer) :
    Option (SessionMemory × Pointer) :=
  match head with
  | none => some (m, none)
  | some temp =>
      if head = sess then do
        let cell ← m.heap temp
        let m ← m.free temp
        return (m, cell.next)
      else do
        let sess ← sess
        let cell ← m.heap sess
        match cell.next with
        | none => do
            let prev ← prev
            let last ← m.heap prev
            let m ← m.store prev { last with next := none }
            let m ← m.free sess
            return (m, head)
        | some temp => do
            let next ← m.heap temp
            let m ← m.store sess next
            let m ← m.free temp
            return (m, head)

/-- The cells in front of the next one to visit, what the cursor reads, the
cells from the next one on, and the address of the cell that is freed. -/
structure Deletion where
  front : Cells Session
  reads : Session
  back : Cells Session
  gone : Nat

/-- The list after a deletion. -/
def Deletion.cells (deletion : Deletion) : Cells Session :=
  deletion.front ++ deletion.back

/-- What `delete_session` does to the cell between `before` and `after`. -/
def deleteCell (before : Cells Session) (cell : Nat × Session)
    (after : Cells Session) : Deletion :=
  match before, after with
  | [], after => ⟨[], cell.2, after, cell.1⟩
  | before, [] => ⟨before, cell.2, [], cell.1⟩
  | before, next :: rest =>
      ⟨before ++ [(cell.1, next.2)], next.2, rest, next.1⟩

section DeleteCell

variable (before : Cells Session) (cell next : Nat × Session)
  (after : Cells Session)

theorem deleteCell_last (behind : before ≠ []) :
    deleteCell before cell [] = ⟨before, cell.2, [], cell.1⟩ := by
  cases before with
  | nil => exact absurd rfl behind
  | cons first before => rfl

theorem deleteCell_pull (behind : before ≠ []) :
    deleteCell before cell (next :: after) =
      ⟨before ++ [(cell.1, next.2)], next.2, after, next.1⟩ := by
  cases before with
  | nil => exact absurd rfl behind
  | cons first before => rfl

theorem deleteSession_contents :
    deleteSession (contents before) cell.2 (contents after) =
      (contents (deleteCell before cell after).front,
        (deleteCell before cell after).reads,
        contents (deleteCell before cell after).back) := by
  cases before <;> cases after <;> simp [deleteCell, deleteSession]

theorem contents_deleteCell :
    contents (deleteCell before cell after).cells =
      contents before ++ contents after := by
  cases before <;> cases after <;> simp [deleteCell, Deletion.cells]

theorem deleteCell_length :
    (deleteCell before cell after).back.length ≤ after.length := by
  cases before <;> cases after <;> simp [deleteCell]

theorem deleteCell_cells_length :
    (deleteCell before cell after).cells.length ≤
      (before ++ cell :: after).length := by
  have lengths := congrArg List.length
    (contents_deleteCell before cell after)
  simp only [contents, List.length_append, List.length_map] at lengths
  rw [List.length_append, List.length_cons]
  omega

theorem final_deleteCell (front : (deleteCell before cell after).front ≠ [])
    (back : (deleteCell before cell after).back ≠ []) :
    final (deleteCell before cell after).front = some cell.1 := by
  cases before with
  | nil => exact absurd rfl front
  | cons first before =>
      cases after with
      | nil => exact absurd rfl back
      | cons next after => exact final_concat _ _

theorem addresses_deleteCell :
    (addresses (before ++ cell :: after)).Perm
      ((deleteCell before cell after).gone ::
        addresses (deleteCell before cell after).cells) := by
  cases before with
  | nil => exact List.Perm.refl _
  | cons first before =>
      cases after with
      | nil =>
          have moved : (addresses (first :: before) ++ cell.1 :: []).Perm
              (cell.1 :: (addresses (first :: before) ++ [])) :=
            List.perm_middle
          simpa [deleteCell, Deletion.cells] using moved
      | cons next after =>
          have moved : ((addresses (first :: before) ++ [cell.1]) ++
              next.1 :: addresses after).Perm
              (next.1 :: ((addresses (first :: before) ++ [cell.1]) ++
                addresses after)) := List.perm_middle
          simpa [deleteCell, Deletion.cells] using moved

end DeleteCell

/-- The memory after a deletion, from the memory before it; only cells with
the given addresses have changed. -/
structure Deletes (m m' : SessionMemory) (deletion : Deletion)
    (cursor : Nat) (footprint : List Nat) : Prop where
  list : Segment m'.heap deletion.cells none
  reads : m'.heap cursor =
    some ⟨deletion.reads, entry deletion.back none⟩
  freed : m'.freed = m.freed ++ [deletion.gone]
  frame : Heap.Kept footprint m.heap m'.heap

/-- The cells at `cells` that are not at `remaining` were freed, and nothing
outside `cells` was touched. -/
structure Shrinks (m m' : SessionMemory) (cells remaining : List Nat) :
    Prop where
  freed : ∃ gone, m'.freed = m.freed ++ gone ∧
    cells.Perm (gone ++ remaining)
  frame : Heap.Kept cells m.heap m'.heap

section Shrinks

variable {m m' m'' : SessionMemory} {cells remaining : List Nat}

theorem Shrinks.refl (m : SessionMemory) (cells : List Nat) :
    Shrinks m m cells cells where
  freed := ⟨[], (List.append_nil _).symm, .refl _⟩
  frame := .refl _ _

theorem Shrinks.subset (shrinks : Shrinks m m' cells remaining) :
    remaining ⊆ cells := by
  obtain ⟨gone, _, split⟩ := shrinks.freed
  exact fun address member =>
    split.mem_iff.mpr (List.mem_append_right _ member)

theorem Shrinks.trans {fewer : List Nat}
    (first : Shrinks m m' cells remaining)
    (second : Shrinks m' m'' remaining fewer) :
    Shrinks m m'' cells fewer := by
  obtain ⟨gone, freed, split⟩ := first.freed
  obtain ⟨further, freed', split'⟩ := second.freed
  refine ⟨⟨gone ++ further, ?_, ?_⟩, ?_⟩
  · rw [freed', freed, List.append_assoc]
  · rw [List.append_assoc]
    exact split.trans (split'.append_left gone)
  · exact first.frame.trans (second.frame.mono first.subset)

theorem Shrinks.behind (shrinks : Shrinks m m' cells remaining)
    (others : List Nat) :
    Shrinks m m' (others ++ cells) (others ++ remaining) := by
  obtain ⟨gone, freed, split⟩ := shrinks.freed
  refine ⟨⟨gone, freed, ?_⟩, shrinks.frame.mono fun _ =>
    List.mem_append_right _⟩
  refine (split.append_left others).trans ?_
  rw [← List.append_assoc, ← List.append_assoc]
  exact List.perm_append_comm.append_right remaining

theorem Shrinks.before (shrinks : Shrinks m m' cells remaining)
    (others : List Nat) :
    Shrinks m m' (cells ++ others) (remaining ++ others) := by
  obtain ⟨gone, freed, split⟩ := shrinks.freed
  refine ⟨⟨gone, freed, ?_⟩, shrinks.frame.mono fun _ =>
    List.mem_append_left _⟩
  rw [← List.append_assoc]
  exact split.append_right others

/-- No other cell is in use. -/
def SessionMemory.Covered (m : SessionMemory) (cells : List Nat) : Prop :=
  ∀ address, m.Live address → address ∈ cells

theorem Shrinks.covered (shrinks : Shrinks m m' cells remaining)
    (covered : m.Covered cells) : m'.Covered remaining := by
  obtain ⟨gone, freed, split⟩ := shrinks.freed
  intro address ⟨allocated, notFreed⟩
  rw [freed, List.mem_append, not_or] at notFreed
  have inside : address ∈ cells := by
    by_contra outside
    rw [shrinks.frame address outside] at allocated
    exact outside (covered address ⟨allocated, notFreed.1⟩)
  exact (List.mem_append.mp (split.mem_iff.mp inside)).resolve_left
    notFreed.2

theorem Deletes.shrinks {before after : Cells Session}
    {cell : Nat × Session} {cursor : Nat}
    (deletes : Deletes m m' (deleteCell before cell after) cursor
      (addresses (before ++ cell :: after))) :
    Shrinks m m' (addresses (before ++ cell :: after))
      (addresses (deleteCell before cell after).cells) :=
  ⟨⟨_, deletes.freed, addresses_deleteCell before cell after⟩,
    deletes.frame⟩

end Shrinks

section Calls

variable {m : SessionMemory} {before after : Cells Session}
  {cell : Nat × Session} {prev : Pointer}

theorem SessionMemory.store_of_live {address : Nat} (live : m.Live address)
    (cell : Link Session) :
    m.store address cell =
      some { m with heap := m.heap.write address cell } := if_pos live

theorem SessionMemory.free_of_live {address : Nat} (live : m.Live address) :
    m.free address = some { m with freed := m.freed ++ [address] } :=
  if_pos live

theorem deleteSessionAt_first (list : Segment m.heap (cell :: after) none)
    (live : cell.1 ∉ m.freed) :
    ∃ m', deleteSessionAt m (some cell.1) (some cell.1) prev =
        some (m', entry after none) ∧
      Deletes m m' (deleteCell [] cell after) cell.1
        (addresses (cell :: after)) := by
  have read := list.1
  have here : m.Live cell.1 := ⟨by rw [read]; rfl, live⟩
  refine ⟨{ m with freed := m.freed ++ [cell.1] }, ?_, ?_⟩
  · rw [deleteSessionAt, if_pos rfl]
    simp only [read, m.free_of_live here, Option.bind_eq_bind,
      Option.bind_some, Option.pure_def]
  · exact
      { list := list.2
        reads := read
        freed := rfl
        frame := Heap.Kept.refl _ _ }

theorem deleteSessionAt_last {init : Cells Session} {last : Nat × Session}
    (list : Segment m.heap (init ++ [last] ++ [cell]) none)
    (live : ∀ address ∈ addresses (init ++ [last] ++ [cell]),
      address ∉ m.freed) {head : Nat} (other : head ≠ cell.1) :
    ∃ m', deleteSessionAt m (some head) (some cell.1) (some last.1) =
        some (m', some head) ∧
      Deletes m m' (deleteCell (init ++ [last]) cell []) cell.1
        (addresses (init ++ [last] ++ [cell])) := by
  have read : m.heap cell.1 = some ⟨cell.2, none⟩ := list.read
  have readLast : m.heap last.1 = some ⟨last.2, some cell.1⟩ := by
    rw [List.append_assoc] at list
    exact list.read
  have distinct := list.nodup
  simp only [addresses_append, addresses_cons, addresses_nil,
    List.nodup_append, List.mem_append, List.mem_singleton] at distinct
  have different : cell.1 ≠ last.1 :=
    (distinct.2.2 last.1 (.inr rfl) cell.1 rfl).symm
  have notInFront : last.1 ∉ addresses init :=
    fun member => distinct.1.2.2 last.1 member last.1 rfl rfl
  let linked : SessionMemory :=
    { m with heap := m.heap.write last.1 ⟨last.2, none⟩ }
  have liveLast : m.Live last.1 :=
    ⟨by rw [readLast]; rfl, live _ (by simp)⟩
  have readAfter : linked.heap cell.1 = some ⟨cell.2, none⟩ :=
    (m.heap.write_other _ different).trans read
  have liveAfter : linked.Live cell.1 :=
    ⟨by rw [readAfter]; rfl, live _ (by simp)⟩
  refine ⟨{ linked with freed := m.freed ++ [cell.1] }, ?_, ?_⟩
  · rw [deleteSessionAt, if_neg (by simpa using other)]
    simp only [read, readLast, m.store_of_live liveLast,
      linked.free_of_live liveAfter, Option.bind_eq_bind, Option.bind_some,
      Option.pure_def, linked]
  · rw [List.append_assoc] at list
    rw [deleteCell_last _ _ (by simp)]
    exact
      { list := by
          rw [Deletion.cells, List.append_nil]
          exact list.relink segment_nil last.2 notInFront nofun
        reads := readAfter
        freed := rfl
        frame := Heap.Kept.write (by simp) _ _ }

/-- Behind the head a cell with a successor takes its content over, and the
successor is freed. -/
theorem deleteSessionAt_pull {next : Nat × Session}
    (list : Segment m.heap (before ++ cell :: next :: after) none)
    (live : ∀ address ∈ addresses (before ++ cell :: next :: after),
      address ∉ m.freed) {head : Nat} (other : head ≠ cell.1)
    (behind : before ≠ []) :
    ∃ m', deleteSessionAt m (some head) (some cell.1) prev =
        some (m', some head) ∧
      Deletes m m' (deleteCell before cell (next :: after)) cell.1
        (addresses (before ++ cell :: next :: after)) := by
  have read : m.heap cell.1 = some ⟨cell.2, some next.1⟩ := list.read
  have rest := (segment_append.mp list).2.2
  have readNext : m.heap next.1 = some ⟨next.2, entry after none⟩ := rest.1
  have distinct := list.nodup
  simp only [addresses_append, addresses_cons, List.nodup_append,
    List.nodup_cons, List.mem_cons, not_or] at distinct
  obtain ⟨_, ⟨⟨different, notBehind⟩, _⟩, apart⟩ := distinct
  have notInFront : cell.1 ∉ addresses before :=
    fun member => apart cell.1 member cell.1 (.inl rfl) rfl
  let pulled : SessionMemory :=
    { m with heap := m.heap.write cell.1 ⟨next.2, entry after none⟩ }
  have liveHere : m.Live cell.1 :=
    ⟨by rw [read]; rfl, live _ (by simp)⟩
  have readAfter : pulled.heap next.1 = some ⟨next.2, entry after none⟩ :=
    (m.heap.write_other _ (Ne.symm different)).trans readNext
  have liveAfter : pulled.Live next.1 :=
    ⟨by rw [readAfter]; rfl, live _ (by simp)⟩
  refine ⟨{ pulled with freed := m.freed ++ [next.1] }, ?_, ?_⟩
  · rw [deleteSessionAt, if_neg (by simpa using other)]
    simp only [read, readNext, m.store_of_live liveHere,
      pulled.free_of_live liveAfter, Option.bind_eq_bind, Option.bind_some,
      Option.pure_def, pulled]
  · rw [deleteCell_pull _ _ _ _ behind]
    exact
      { list := by
          rw [Deletion.cells, List.append_assoc]
          exact list.relink rest.2 next.2 notInFront notBehind
        reads := m.heap.write_self _ _
        freed := rfl
        frame := Heap.Kept.write (by simp) _ _ }

/-- A call with the cell behind `before`, where `prev` points to the last cell
of `before` if there is one. -/
theorem deleteSessionAt_spec
    (list : Segment m.heap (before ++ cell :: after) none)
    (live : ∀ address ∈ addresses (before ++ cell :: after),
      address ∉ m.freed) (behind : before ≠ [] → prev = final before) :
    ∃ m', deleteSessionAt m (entry (before ++ cell :: after) none)
        (some cell.1) prev =
          some (m', entry (deleteCell before cell after).cells none) ∧
      Deletes m m' (deleteCell before cell after) cell.1
        (addresses (before ++ cell :: after)) := by
  cases before with
  | nil => exact deleteSessionAt_first list (live _ List.mem_cons_self)
  | cons first front =>
      have other : first.1 ≠ cell.1 := by
        have distinct := list.nodup
        intro same
        simp [same] at distinct
      cases after with
      | nil =>
          have nonempty : first :: front ≠ [] := List.cons_ne_nil _ _
          obtain ⟨init, last, shape⟩ :=
            (first :: front).eq_nil_or_concat'.resolve_left nonempty
          rw [behind nonempty, shape, final_concat]
          rw [shape] at list live
          have called := deleteSessionAt_last list live other
          rw [← shape] at called ⊢
          exact called
      | cons next after =>
          exact deleteSessionAt_pull list live other (List.cons_ne_nil _ _)

end Calls

/-- Two lists without a common cell, none of them freed. -/
structure Apart (m : SessionMemory) (cells others : Cells Session) :
    Prop where
  list : Segment m.heap cells none
  otherList : Segment m.heap others none
  apart : List.Disjoint (addresses cells) (addresses others)
  live : ∀ address ∈ addresses cells, address ∉ m.freed
  otherLive : ∀ address ∈ addresses others, address ∉ m.freed

namespace Apart

variable {m m' : SessionMemory} {before after others : Cells Session}
  {cell : Nat × Session} {prev : Pointer}

theorem symm (lists : Apart m before others) : Apart m others before :=
  { list := lists.otherList
    otherList := lists.list
    apart := fun _ there here => lists.apart here there
    live := lists.otherLive
    otherLive := lists.live }

theorem deleted (lists : Apart m (before ++ cell :: after) others)
    (deletes : Deletes m m' (deleteCell before cell after) cell.1
      (addresses (before ++ cell :: after))) :
    Apart m' (deleteCell before cell after).cells others := by
  have cells := addresses_deleteCell before cell after
  have distinct := cells.nodup_iff.mp lists.list.nodup
  have inside {address : Nat}
      (member : address ∈ addresses (deleteCell before cell after).cells) :
      address ∈ addresses (before ++ cell :: after) :=
    cells.mem_iff.mpr (List.mem_cons_of_mem _ member)
  exact
    { list := deletes.list
      otherList := lists.otherList.frame fun address member =>
        deletes.frame address fun here => lists.apart here member
      apart := fun address member => lists.apart (inside member)
      live := by
        intro address member
        rw [deletes.freed, List.mem_append, List.mem_singleton, not_or]
        refine ⟨lists.live address (inside member), ?_⟩
        rintro rfl
        exact (List.nodup_cons.mp distinct).1 member
      otherLive := by
        intro address member
        rw [deletes.freed, List.mem_append, List.mem_singleton, not_or]
        refine ⟨lists.otherLive address member, ?_⟩
        rintro rfl
        exact lists.apart (cells.mem_iff.mpr List.mem_cons_self) member }

end Apart

/-- One call of `delete_session`. -/
structure DeleteCall where
  before : SessionMemory
  head : Pointer
  sess : Pointer
  prev : Pointer
  after : SessionMemory
  ret : Pointer

/-- The call names the head or the cell behind `prev`; the list at the new head
lost exactly the content of `sess`, and exactly one cell was freed, which had
been in the list and is no longer in it. -/
structure DeleteCall.Sound (call : DeleteCall) : Prop where
  named : call.sess = call.head ∨ ∃ prev last, call.prev = some prev ∧
    call.before.heap prev = some last ∧ last.next = call.sess
  deletes : ∃ before cell after cells,
    Segment call.before.heap (before ++ cell :: after) none ∧
    call.head = entry (before ++ cell :: after) none ∧
    call.sess = some cell.1 ∧
    Segment call.after.heap cells none ∧
    call.ret = entry cells none ∧
    contents cells = contents before ++ contents after ∧
    ∃ gone, call.after.freed = call.before.freed ++ [gone] ∧
      gone ∉ call.before.freed ∧
      gone ∈ addresses (before ++ cell :: after) ∧ gone ∉ addresses cells

theorem DeleteCall.sound_of_deletes {m m' : SessionMemory}
    {before after : Cells Session} {cell : Nat × Session} {prev : Pointer}
    (list : Segment m.heap (before ++ cell :: after) none)
    (live : ∀ address ∈ addresses (before ++ cell :: after),
      address ∉ m.freed) (behind : before ≠ [] → prev = final before)
    (deletes : Deletes m m' (deleteCell before cell after) cell.1
      (addresses (before ++ cell :: after))) :
    DeleteCall.Sound ⟨m, entry (before ++ cell :: after) none, some cell.1,
      prev, m', entry (deleteCell before cell after).cells none⟩ := by
  have cells := addresses_deleteCell before cell after
  have distinct := cells.nodup_iff.mp list.nodup
  have inside := cells.mem_iff.mpr List.mem_cons_self
  constructor
  · by_cases first : before = []
    · rw [first]
      exact .inl rfl
    · obtain ⟨init, last, rfl⟩ := before.eq_nil_or_concat'.resolve_left first
      rw [List.append_assoc] at list
      refine .inr ⟨last.1, _, ?_, list.read, rfl⟩
      rw [behind first, final_concat]
  · exact ⟨before, cell, after, _, list, rfl, rfl, deletes.list, rfl,
      contents_deleteCell before cell after, _, deletes.freed,
      live _ inside, inside, (List.nodup_cons.mp distinct).1⟩

end Rsvpd
