import Rsvpd.PointerSweeps

/-!
# Sessions in memory: search and insertion

`search_session` refreshes a cell in place and `insert_session` links a new
cell in front.  `malloc` may give a cell again that was freed before; what it
never gives is one that is in use.
-/

namespace Rsvpd

open LinkedList

/-- `search_session`, with fuel for its loop: the memory after the call, and
the cell that is found. -/
def searchSessionAt (now : Int) (tunnelId : U16) :
    Nat → SessionMemory → Pointer → Option (SessionMemory × Pointer)
  | 0, _, _ => none
  | _ + 1, m, none => some (m, none)
  | fuel + 1, m, some temp => do
      let cell ← m.heap temp
      if cell.content.tunnelId = tunnelId then
        let m ← m.store temp
          { cell with content := { cell.content with lastPathTime := now } }
        return (m, some temp)
      else
        searchSessionAt now tunnelId fuel m cell.next

/-- A cell that `malloc` gives is no longer free. -/
def SessionMemory.alloc (m : SessionMemory) (address : Nat)
    (cell : Link Session) : SessionMemory where
  heap := m.heap.write address cell
  freed := m.freed.filter (· ≠ address)

/-- `insert_session`; `malloc` is the address that it gets. -/
def insertSessionAt (malloc : Nat) (now : Int) (tunnelId : U16)
    (sender receiver : InAddr) (dest : U8) (m : SessionMemory)
    (sess : Pointer) : SessionMemory × Pointer :=
  let temp : Session :=
    { sender, receiver, tunnelId, dest, del := 0, lastPathTime := now }
  (m.alloc malloc ⟨temp, sess⟩, some malloc)

section Search

variable {m : SessionMemory} {cells others : Cells Session}

/-- The search changes the time of one cell, or nothing. -/
structure Searches (m m' : SessionMemory) (cells cells' : Cells Session) :
    Prop where
  list : Segment m'.heap cells' none
  inPlace : addresses cells' = addresses cells
  freed : m'.freed = m.freed
  kept : Heap.Kept (addresses cells) m.heap m'.heap

theorem searchSessionAt_spec (now : Int) (tunnelId : U16) {fuel : Nat}
    (list : Segment m.heap cells none)
    (live : ∀ address ∈ addresses cells, address ∉ m.freed)
    (enough : cells.length < fuel) :
    ∃ m' found temp cells', searchSessionAt now tunnelId fuel m
        (entry cells none) = some (m', found) ∧
      searchSession now tunnelId (contents cells) =
        (temp, contents cells') ∧
      found.isSome = temp.isSome ∧ Searches m m' cells cells' := by
  induction cells generalizing fuel with
  | nil =>
      obtain ⟨fuel, rfl⟩ :=
        Nat.exists_eq_succ_of_ne_zero (Nat.ne_zero_of_lt enough)
      exact ⟨m, none, none, [], rfl, rfl, rfl, trivial, rfl, rfl,
        .refl _ _⟩
  | cons cell rest ih =>
      obtain ⟨fuel, rfl⟩ :=
        Nat.exists_eq_succ_of_ne_zero (Nat.ne_zero_of_lt enough)
      have distinct := list.nodup
      obtain ⟨here, tail⟩ := list
      rw [addresses_cons, List.nodup_cons] at distinct
      simp only [entry_cons, searchSessionAt, here, Option.bind_eq_bind,
        Option.bind_some, contents_cons, searchSession]
      by_cases same : cell.2.tunnelId = tunnelId
      · have inUse : m.Live cell.1 :=
          ⟨by rw [here]; rfl, live _ List.mem_cons_self⟩
        let temp : Session := { cell.2 with lastPathTime := now }
        refine ⟨{ m with heap := m.heap.write cell.1 ⟨temp, entry rest none⟩ },
          some cell.1, some temp, (cell.1, temp) :: rest, ?_, ?_, rfl, ?_⟩
        · rw [if_pos same, m.store_of_live inUse]
          rfl
        · simp [same, temp]
        · refine ⟨⟨Heap.write_self .., ?_⟩, rfl, rfl,
            .write List.mem_cons_self _ _⟩
          refine tail.frame fun address member => Heap.write_other _ _ ?_
          rintro rfl
          exact distinct.1 member
      · obtain ⟨m', found, temp, rest', searched, onList, isSome,
          searches⟩ :=
        ih tail (fun address member => live address (.tail _ member))
          (Nat.lt_of_succ_lt_succ enough)
        refine ⟨m', found, temp, cell :: rest', ?_, ?_, isSome, ?_⟩
        · rw [if_neg same, searched]
        · simp [same, onList]
        · refine ⟨⟨?_, searches.list⟩, by simp [searches.inPlace],
            searches.freed, searches.kept.mono fun _ => .tail _⟩
          rw [entry_congr searches.inPlace]
          exact (searches.kept _ distinct.1).trans here

theorem Searches.length {m' : SessionMemory} {cells' : Cells Session}
    (searches : Searches m m' cells cells') :
    cells'.length = cells.length := by
  simpa [addresses] using congrArg List.length searches.inPlace

theorem Apart.searched {m' : SessionMemory} {cells' : Cells Session}
    (lists : Apart m cells others) (searches : Searches m m' cells cells') :
    Apart m' cells' others where
  list := searches.list
  otherList := lists.otherList.frame fun address member =>
    searches.kept address fun here => lists.apart here member
  apart := by
    rw [searches.inPlace]
    exact lists.apart
  live := by
    rw [searches.inPlace, searches.freed]
    exact lists.live
  otherLive := by
    rw [searches.freed]
    exact lists.otherLive

theorem Apart.isLive (lists : Apart m cells others) {address : Nat}
    (member : address ∈ addresses cells) : m.Live address :=
  ⟨lists.list.isSome member, lists.live address member⟩

theorem Apart.of_searched_live {m' : SessionMemory} {cells' : Cells Session}
    (lists : Apart m cells others) (searches : Searches m m' cells cells')
    {address : Nat} (live : m'.Live address) : m.Live address := by
  obtain ⟨allocated, notFreed⟩ := live
  by_cases inside : address ∈ addresses cells
  · exact lists.isLive inside
  · rw [searches.kept address inside] at allocated
    rw [searches.freed] at notFreed
    exact ⟨allocated, notFreed⟩

theorem Apart.searched_covered {m' : SessionMemory} {cells' : Cells Session}
    (lists : Apart m cells others) (searches : Searches m m' cells cells')
    (covered : m.Covered (addresses cells ++ addresses others)) :
    m'.Covered (addresses cells' ++ addresses others) := by
  intro address live
  rw [searches.inPlace]
  exact covered address (lists.of_searched_live searches live)

theorem SessionMemory.Covered.alloc {inUse : List Nat}
    (covered : m.Covered inUse) (malloc : Nat) (cell : Link Session) :
    (m.alloc malloc cell).Covered (malloc :: inUse) := by
  intro address ⟨allocated, notFreed⟩
  by_cases same : address = malloc
  · exact List.mem_cons.mpr (.inl same)
  · refine .tail _ (covered address ⟨?_, fun freed => notFreed ?_⟩)
    · rwa [← Heap.write_other m.heap cell same]
    · exact List.mem_filter.mpr ⟨freed, by simpa using same⟩

theorem SessionMemory.Covered.symm {inUse further : List Nat}
    (covered : m.Covered (inUse ++ further)) :
    m.Covered (further ++ inUse) :=
  fun address live => List.perm_append_comm.mem_iff.mp (covered address live)

theorem Apart.alloc (lists : Apart m cells others) {malloc : Nat}
    (fresh : ¬m.Live malloc) (content : Session) :
    Apart (m.alloc malloc ⟨content, entry cells none⟩)
      ((malloc, content) :: cells) others := by
  have outside : malloc ∉ addresses cells :=
    fun member => fresh (lists.isLive member)
  have outsideOther : malloc ∉ addresses others :=
    fun member => fresh (lists.symm.isLive member)
  have kept (address : Nat) (different : address ≠ malloc) :
      (m.alloc malloc ⟨content, entry cells none⟩).heap address =
        m.heap address := Heap.write_other _ _ different
  refine ⟨⟨Heap.write_self .., ?_⟩, ?_, ?_, ?_, ?_⟩
  · refine lists.list.frame fun address member => kept address ?_
    rintro rfl
    exact outside member
  · refine lists.otherList.frame fun address member => kept address ?_
    rintro rfl
    exact outsideOther member
  · rw [addresses_cons, List.disjoint_cons_left]
    exact ⟨outsideOther, lists.apart⟩
  · intro address member freed
    obtain ⟨freed, different⟩ := List.mem_filter.mp freed
    rcases List.mem_cons.mp member with rfl | member
    · simp at different
    · exact lists.live address member freed
  · intro address member freed
    exact lists.otherLive address member (List.mem_of_mem_filter freed)

end Search

end Rsvpd
