import Mathlib.Data.List.Induction
import Mathlib.Data.List.Nodup
import Mathlib.Tactic.Common

/-!
# Sweeps that delete in place

A cursor walks a singly linked list and deletes cells on the way.  A cell
that is neither the first nor the last one is deleted by copying its
successor over it: the cursor then reads the successor and moves on behind
it, so the successor is kept without a visit.
-/

namespace Sweep

variable {α : Type*}

/-- Delete the cell between `before` and `after`: the cells in front of the
next cell to visit, what the cursor reads afterwards, and the cells to
visit. -/
def deleteInPlace (before : List α) (cell : α) (after : List α) :
    List α × α × List α :=
  match before, after with
  | [], after => ([], cell, after)
  | before, [] => (before, cell, [])
  | before, next :: rest => (before ++ [next], next, rest)

theorem deleteInPlace_length (before : List α) (cell : α) (after : List α) :
    (deleteInPlace before cell after).2.2.length ≤ after.length := by
  unfold deleteInPlace
  split <;> simp

theorem deleteInPlace_list (before : List α) (cell : α) (after : List α) :
    (deleteInPlace before cell after).1 ++
      (deleteInPlace before cell after).2.2 = before ++ after := by
  unfold deleteInPlace
  split <;> simp

/-- One visit of the cursor.  A deletion tells what the cursor reads after it
and the list it leaves. -/
inductive Visit (α : Type*) where
  | keep (cell : α)
  | delete (cell reads : α) (list : List α)

namespace Visit

/-- The contents that the visit finds. -/
def cell : Visit α → α
  | .keep cell => cell
  | .delete cell _ _ => cell

/-- The list after the visit, from the list before it. -/
def listAfter (list : List α) : Visit α → List α
  | .keep _ => list
  | .delete _ _ list' => list'

/-- The contents that the visit deletes. -/
def deleted? : Visit α → Option α
  | .keep _ => none
  | .delete cell _ _ => some cell

/-- What the cursor reads after a deletion. -/
def reads? : Visit α → Option α
  | .keep _ => none
  | .delete _ reads _ => some reads

end Visit

variable (doomed : α → Prop) [DecidablePred doomed]

/-- The visits of a cursor between `before` and `rest`. -/
def sweep (before rest : List α) : List (Visit α) :=
  match rest with
  | [] => []
  | cell :: after =>
      if doomed cell then
        let deleted := deleteInPlace before cell after
        .delete cell deleted.2.1 (deleted.1 ++ deleted.2.2) ::
          sweep deleted.1 deleted.2.2
      else
        .keep cell :: sweep (before ++ [cell]) after
termination_by rest.length
decreasing_by
  · exact Nat.lt_succ_of_le (deleteInPlace_length _ _ _)
  · simp

variable {doomed}

@[simp] theorem sweep_nil (before : List α) :
    sweep doomed before [] = [] := by
  rw [sweep]

theorem sweep_keep (before after : List α) {cell : α}
    (kept : ¬doomed cell) :
    sweep doomed before (cell :: after) =
      .keep cell :: sweep doomed (before ++ [cell]) after := by
  rw [sweep, if_neg kept]

theorem sweep_first {cell : α} (after : List α) (gone : doomed cell) :
    sweep doomed [] (cell :: after) =
      .delete cell cell after :: sweep doomed [] after := by
  rw [sweep, if_pos gone]
  rfl

theorem sweep_last {before : List α} {cell : α} (behind : before ≠ [])
    (gone : doomed cell) :
    sweep doomed before [cell] = [.delete cell cell before] := by
  cases before with
  | nil => exact absurd rfl behind
  | cons first before =>
      rw [sweep, if_pos gone]
      simp [deleteInPlace]

theorem sweep_pull {before : List α} {cell next : α} (after : List α)
    (behind : before ≠ []) (gone : doomed cell) :
    sweep doomed before (cell :: next :: after) =
      .delete cell next (before ++ next :: after) ::
        sweep doomed (before ++ [next]) after := by
  cases before with
  | nil => exact absurd rfl behind
  | cons first before =>
      rw [sweep, if_pos gone]
      simp [deleteInPlace]

variable (doomed)

/-- One case for each way the cursor moves. -/
theorem sweep_induction {motive : List α → List α → Prop}
    (nil : ∀ before, motive before [])
    (keep : ∀ before cell after, ¬doomed cell →
      motive (before ++ [cell]) after → motive before (cell :: after))
    (first : ∀ cell after, doomed cell →
      motive [] after → motive [] (cell :: after))
    (last : ∀ before cell, before ≠ [] → doomed cell → motive before [cell])
    (pull : ∀ before cell next after, before ≠ [] → doomed cell →
      motive (before ++ [next]) after →
        motive before (cell :: next :: after))
    (before rest : List α) : motive before rest := by
  induction before, rest using sweep.induct doomed with
  | case1 before => exact nil before
  | case2 before cell after gone deleted ih =>
      cases before with
      | nil => exact first cell after gone ih
      | cons head before =>
          cases after with
          | nil => exact last _ cell (List.cons_ne_nil _ _) gone
          | cons next after =>
              exact pull _ cell next after (List.cons_ne_nil _ _) gone ih
  | case3 before cell after kept ih => exact keep before cell after kept ih

theorem loop_eq_foldl {State : Type*}
    (loop : List α → List α → State → State) (visit : State → Visit α → State)
    (nil : ∀ before s, loop before [] s = s)
    (cons : ∀ before cell after s, loop before (cell :: after) s =
      if doomed cell then
        let deleted := deleteInPlace before cell after
        loop deleted.1 deleted.2.2
          (visit s (.delete cell deleted.2.1 (deleted.1 ++ deleted.2.2)))
      else loop (before ++ [cell]) after (visit s (.keep cell)))
    (before rest : List α) (s : State) :
    loop before rest s = (sweep doomed before rest).foldl visit s := by
  induction before, rest using sweep.induct doomed generalizing s with
  | case1 before => rw [nil, sweep_nil, List.foldl_nil]
  | case2 before cell after gone deleted ih =>
      rw [cons, if_pos gone, sweep, if_pos gone, List.foldl_cons]
      exact ih _
  | case3 before cell after kept ih =>
      rw [cons, if_neg kept, sweep_keep _ _ kept, List.foldl_cons, ih]

/-- The list after the sweep. -/
def remaining (before rest : List α) : List α :=
  (sweep doomed before rest).foldl Visit.listAfter (before ++ rest)

/-- The cells that the sweep deletes. -/
def deletions (before rest : List α) : List α :=
  (sweep doomed before rest).filterMap Visit.deleted?

/-- A sweep that starts at the head passes over the cell behind `before`: an
odd number of doomed cells stands directly in front of it, and some other
cell ahead of them. -/
def PassedOver (before : List α) : Prop :=
  (∃ kept ∈ before, ¬doomed kept) ∧
    (before.reverse.takeWhile doomed).length % 2 = 1

instance : DecidablePred (PassedOver doomed) := fun _ =>
  inferInstanceAs (Decidable (_ ∧ _))

/-- The cursor stands behind the cells `front` of the list the sweep started
from, of which `before` is left. -/
structure AtCursor (front before : List α) : Prop where
  first : before = [] ↔ ∀ cell ∈ front, doomed cell
  visited : ¬PassedOver doomed front

variable {doomed}

theorem passedOver_nil : ¬PassedOver doomed [] := by
  rintro ⟨⟨kept, member, _⟩, _⟩
  cases member

theorem passedOver_keep {before : List α} {cell : α} (kept : ¬doomed cell) :
    ¬PassedOver doomed (before ++ [cell]) := by
  rintro ⟨_, odd⟩
  simp [List.takeWhile_cons_of_neg, kept] at odd

theorem passedOver_doomed {before : List α} {cell : α} (gone : doomed cell) :
    PassedOver doomed (before ++ [cell]) ↔
      (∃ kept ∈ before, ¬doomed kept) ∧ ¬PassedOver doomed before := by
  have ahead : (∃ kept ∈ before ++ [cell], ¬doomed kept) ↔
      ∃ kept ∈ before, ¬doomed kept := by
    simp [or_and_right, exists_or, gone]
  unfold PassedOver
  rw [ahead]
  simp only [List.reverse_append, List.reverse_singleton,
    List.singleton_append, gone, decide_true,
    List.takeWhile_cons_of_pos, List.length_cons]
  constructor
  · rintro ⟨other, odd⟩
    exact ⟨other, fun both => by omega⟩
  · rintro ⟨other, notBoth⟩
    refine ⟨other, ?_⟩
    by_contra even
    exact notBoth ⟨other, by omega⟩

namespace AtCursor

variable {front before : List α} {cell next : α}

theorem start : AtCursor doomed [] [] :=
  ⟨by simp, passedOver_nil⟩

theorem keep (kept : ¬doomed cell) :
    AtCursor doomed (front ++ [cell]) (before ++ [cell]) :=
  ⟨by simp [kept], passedOver_keep kept⟩

theorem drop (cursor : AtCursor doomed front []) (gone : doomed cell) :
    AtCursor doomed (front ++ [cell]) [] := by
  have allDoomed := cursor.first.mp rfl
  constructor
  · simpa [gone, or_imp, forall_and] using allDoomed
  · intro passed
    obtain ⟨⟨kept, member, isKept⟩, _⟩ := (passedOver_doomed gone).mp passed
    exact isKept (allDoomed kept member)

theorem passesOver (cursor : AtCursor doomed front before)
    (behind : before ≠ []) (gone : doomed cell) :
    PassedOver doomed (front ++ [cell]) := by
  rw [passedOver_doomed gone]
  refine ⟨?_, cursor.visited⟩
  have notAll := mt cursor.first.mpr behind
  push Not at notAll
  exact notAll

theorem pull (cursor : AtCursor doomed front before) (behind : before ≠ [])
    (gone : doomed cell) :
    AtCursor doomed (front ++ [cell] ++ [next]) (before ++ [next]) := by
  have passed := cursor.passesOver behind gone
  obtain ⟨kept, member, isKept⟩ := passed.1
  constructor
  · constructor
    · intro empty
      simp at empty
    · intro allDoomed
      exact absurd (allDoomed kept (List.mem_append_left _ member)) isKept
  · by_cases nextGone : doomed next
    · rw [passedOver_doomed nextGone]
      exact fun both => both.2 passed
    · exact passedOver_keep nextGone

end AtCursor

/-- The visit deletes the cell exactly when it is doomed. -/
def Visit.Fits (doomed : α → Prop) : Visit α → Prop
  | .keep cell => ¬doomed cell
  | .delete cell _ _ => doomed cell

theorem fits_of_mem {before rest : List α} {visit : Visit α}
    (member : visit ∈ sweep doomed before rest) : visit.Fits doomed := by
  induction before, rest using sweep_induction doomed with
  | nil before => simp at member
  | keep before cell after kept ih =>
      rw [sweep_keep _ _ kept, List.mem_cons] at member
      rcases member with rfl | later
      · exact kept
      · exact ih later
  | first cell after gone ih =>
      rw [sweep_first _ gone, List.mem_cons] at member
      rcases member with rfl | later
      · exact gone
      · exact ih later
  | last before cell behind gone =>
      rw [sweep_last behind gone, List.mem_singleton] at member
      cases member
      exact gone
  | pull before cell next after behind gone ih =>
      rw [sweep_pull _ behind gone, List.mem_cons] at member
      rcases member with rfl | later
      · exact gone
      · exact ih later

theorem doomed_of_delete {before rest list : List α} {cell reads : α}
    (member : .delete cell reads list ∈ sweep doomed before rest) :
    doomed cell := fits_of_mem member

theorem mem_sweep_visited {front before rest : List α} {visit : Visit α}
    (cursor : AtCursor doomed front before)
    (member : visit ∈ sweep doomed before rest) :
    ∃ mid post, rest = mid ++ visit.cell :: post ∧
      ¬PassedOver doomed (front ++ mid) := by
  induction before, rest using sweep_induction doomed generalizing front with
  | nil before => simp at member
  | keep before cell after kept ih =>
      rw [sweep_keep _ _ kept, List.mem_cons] at member
      rcases member with rfl | later
      · exact ⟨[], after, rfl, by simpa using cursor.visited⟩
      · obtain ⟨mid, post, rfl, visited⟩ := ih (.keep kept) later
        exact ⟨cell :: mid, post, rfl, by simpa using visited⟩
  | first cell after gone ih =>
      rw [sweep_first _ gone, List.mem_cons] at member
      rcases member with rfl | later
      · exact ⟨[], after, rfl, by simpa using cursor.visited⟩
      · obtain ⟨mid, post, rfl, visited⟩ := ih (cursor.drop gone) later
        exact ⟨cell :: mid, post, rfl, by simpa using visited⟩
  | last before cell behind gone =>
      rw [sweep_last behind gone, List.mem_singleton] at member
      cases member
      exact ⟨[], [], rfl, by simpa using cursor.visited⟩
  | pull before cell next after behind gone ih =>
      rw [sweep_pull _ behind gone, List.mem_cons] at member
      rcases member with rfl | later
      · exact ⟨[], next :: after, rfl, by simpa using cursor.visited⟩
      · obtain ⟨mid, post, rfl, visited⟩ := ih (cursor.pull behind gone) later
        exact ⟨cell :: next :: mid, post, rfl, by simpa using visited⟩

/-- After a deletion the cursor reads the deleted cell, or the cell behind it
which the sweep passes over. -/
theorem mem_sweep_delete {front before rest list : List α} {cell reads : α}
    (cursor : AtCursor doomed front before)
    (member : .delete cell reads list ∈ sweep doomed before rest) :
    (reads = cell ∧ ∃ mid post, rest = mid ++ cell :: post ∧
      ((∀ other ∈ front ++ mid, doomed other) ∨ post = [])) ∨
    ∃ mid post, rest = mid ++ cell :: reads :: post ∧
      PassedOver doomed (front ++ mid ++ [cell]) := by
  induction before, rest using sweep_induction doomed generalizing front with
  | nil before => simp at member
  | keep before head after kept ih =>
      rw [sweep_keep _ _ kept, List.mem_cons] at member
      rcases member with here | later
      · cases here
      · obtain ⟨same, mid, post, rfl, ends⟩ | ⟨mid, post, rfl, passed⟩ :=
          ih (.keep kept) later
        · exact .inl ⟨same, head :: mid, post, rfl, by simpa using ends⟩
        · exact .inr ⟨head :: mid, post, rfl, by simpa using passed⟩
  | first head after gone ih =>
      rw [sweep_first _ gone, List.mem_cons] at member
      rcases member with here | later
      · cases here
        refine .inl ⟨rfl, [], _, rfl, .inl ?_⟩
        simpa using cursor.first.mp rfl
      · obtain ⟨same, mid, post, rfl, ends⟩ | ⟨mid, post, rfl, passed⟩ :=
          ih (cursor.drop gone) later
        · exact .inl ⟨same, head :: mid, post, rfl, by simpa using ends⟩
        · exact .inr ⟨head :: mid, post, rfl, by simpa using passed⟩
  | last before head behind gone =>
      rw [sweep_last behind gone, List.mem_singleton] at member
      cases member
      exact .inl ⟨rfl, [], [], rfl, .inr rfl⟩
  | pull before head next after behind gone ih =>
      rw [sweep_pull _ behind gone, List.mem_cons] at member
      rcases member with here | later
      · cases here
        refine .inr ⟨[], after, rfl, ?_⟩
        simpa using cursor.passesOver behind gone
      · obtain ⟨same, mid, post, rfl, ends⟩ | ⟨mid, post, rfl, passed⟩ :=
          ih (cursor.pull behind gone) later
        · exact .inl
            ⟨same, head :: next :: mid, post, rfl, by simpa using ends⟩
        · exact .inr ⟨head :: next :: mid, post, rfl, by simpa using passed⟩

theorem sweep_reaches {front before mid : List α} (rest : List α)
    (cursor : AtCursor doomed front before)
    (visited : ¬PassedOver doomed (front ++ mid)) :
    ∃ before', AtCursor doomed (front ++ mid) before' ∧
      sweep doomed before' rest <:+ sweep doomed before (mid ++ rest) := by
  generalize shape : mid ++ rest = cells
  induction before, cells using sweep_induction doomed
    generalizing front mid with
  | nil before =>
      obtain ⟨rfl, rfl⟩ := List.append_eq_nil_iff.mp shape
      exact ⟨before, by simpa using cursor, List.suffix_rfl⟩
  | keep before cell after kept ih =>
      cases mid with
      | nil =>
          cases shape
          exact ⟨before, by simpa using cursor, List.suffix_rfl⟩
      | cons first mid =>
          obtain ⟨rfl, rfl⟩ := List.cons.inj shape
          obtain ⟨before', reached, goesOn⟩ :=
            ih (.keep kept) (by simpa using visited) rfl
          rw [sweep_keep _ _ kept]
          exact ⟨before', by simpa using reached,
            goesOn.trans (List.suffix_cons _ _)⟩
  | first cell after gone ih =>
      cases mid with
      | nil =>
          cases shape
          exact ⟨[], by simpa using cursor, List.suffix_rfl⟩
      | cons first mid =>
          obtain ⟨rfl, rfl⟩ := List.cons.inj shape
          obtain ⟨before', reached, goesOn⟩ :=
            ih (cursor.drop gone) (by simpa using visited) rfl
          rw [sweep_first _ gone]
          exact ⟨before', by simpa using reached,
            goesOn.trans (List.suffix_cons _ _)⟩
  | last before cell behind gone =>
      cases mid with
      | nil =>
          cases shape
          exact ⟨before, by simpa using cursor, List.suffix_rfl⟩
      | cons first mid =>
          obtain ⟨rfl, empty⟩ := List.cons.inj shape
          obtain ⟨rfl, rfl⟩ := List.append_eq_nil_iff.mp empty
          exact absurd (cursor.passesOver behind gone) visited
  | pull before cell next after behind gone ih =>
      match mid with
      | [] =>
          cases shape
          exact ⟨before, by simpa using cursor, List.suffix_rfl⟩
      | [first] =>
          obtain ⟨rfl, _⟩ := List.cons.inj shape
          exact absurd (cursor.passesOver behind gone) visited
      | first :: second :: mid =>
          obtain ⟨rfl, tail⟩ := List.cons.inj shape
          obtain ⟨rfl, rfl⟩ := List.cons.inj tail
          obtain ⟨before', reached, goesOn⟩ :=
            ih (cursor.pull behind gone) (by simpa using visited) rfl
          rw [sweep_pull _ behind gone]
          exact ⟨before', by simpa using reached,
            goesOn.trans (List.suffix_cons _ _)⟩

/-- The cell behind an odd number of doomed cells is read when the one in
front of it is deleted. -/
theorem passedOver_read {front post : List α} {next : α}
    (passed : PassedOver doomed front) :
    ∃ cell list, .delete cell next list ∈
      sweep doomed [] (front ++ next :: post) := by
  obtain ⟨front, cell, rfl⟩ : ∃ front' cell, front = front' ++ [cell] := by
    cases front using List.reverseRecOn with
    | nil => exact absurd passed passedOver_nil
    | append_singleton front' cell => exact ⟨front', cell, rfl⟩
  have gone : doomed cell := by
    by_contra kept
    exact passedOver_keep kept passed
  obtain ⟨⟨kept, member, isKept⟩, visited⟩ := (passedOver_doomed gone).mp passed
  obtain ⟨before, cursor, goesOn⟩ :=
    sweep_reaches (cell :: next :: post) .start visited
  have behind : before ≠ [] :=
    fun empty => isKept (cursor.first.mp empty kept member)
  refine ⟨cell, before ++ next :: post, ?_⟩
  rw [List.append_assoc, List.singleton_append]
  apply goesOn.subset
  rw [sweep_pull _ behind gone]
  exact List.mem_cons_self

/-- The sweep of these cells visits the cell. -/
def Visits (doomed : α → Prop) [DecidablePred doomed] (cells : List α)
    (cell : α) : Prop :=
  ∃ front post, cells = front ++ cell :: post ∧ ¬PassedOver doomed front

/-- The cursor reads the cell after some deletion: the sweep passes over it,
or deletes it as the first or the last cell that is left. -/
def Reads (doomed : α → Prop) [DecidablePred doomed] (cells : List α)
    (cell : α) : Prop :=
  ∃ front post, cells = front ++ cell :: post ∧
    (PassedOver doomed front ∨
      doomed cell ∧ ((∀ other ∈ front, doomed other) ∨ post = []))

theorem Visits.mem {cells : List α} {cell : α}
    (visited : Visits doomed cells cell) : cell ∈ cells := by
  obtain ⟨front, post, rfl, _⟩ := visited
  exact List.mem_append_right _ List.mem_cons_self

theorem mem_sweep_iff_visits {cells : List α} {cell : α} :
    (∃ visit ∈ sweep doomed [] cells, visit.cell = cell) ↔
      Visits doomed cells cell := by
  constructor
  · rintro ⟨visit, member, rfl⟩
    obtain ⟨front, post, shape, visited⟩ := mem_sweep_visited .start member
    exact ⟨front, post, shape, visited⟩
  · rintro ⟨front, post, rfl, visited⟩
    obtain ⟨before, cursor, goesOn⟩ :=
      sweep_reaches (cell :: post) .start visited
    by_cases gone : doomed cell
    · rw [sweep, if_pos gone] at goesOn
      exact ⟨_, goesOn.subset List.mem_cons_self, rfl⟩
    · refine ⟨.keep cell, goesOn.subset ?_, rfl⟩
      rw [sweep_keep _ _ gone]
      exact List.mem_cons_self

theorem mem_deletions {before rest : List α} {cell : α} :
    cell ∈ deletions doomed before rest ↔
      ∃ reads list, .delete cell reads list ∈ sweep doomed before rest := by
  rw [deletions, List.mem_filterMap]
  constructor
  · rintro ⟨visit, member, deletes⟩
    cases visit with
    | keep kept => cases deletes
    | delete deleted reads list =>
        cases deletes
        exact ⟨reads, list, member⟩
  · rintro ⟨reads, list, member⟩
    exact ⟨_, member, rfl⟩

theorem mem_deletions_iff {cells : List α} {cell : α} :
    cell ∈ deletions doomed [] cells ↔
      Visits doomed cells cell ∧ doomed cell := by
  rw [mem_deletions, ← mem_sweep_iff_visits]
  constructor
  · rintro ⟨reads, list, member⟩
    exact ⟨⟨_, member, rfl⟩, doomed_of_delete member⟩
  · rintro ⟨⟨visit, member, rfl⟩, gone⟩
    cases visit with
    | keep kept => exact absurd gone (fits_of_mem member)
    | delete deleted reads list => exact ⟨reads, list, member⟩

theorem mem_sweep_iff_reads {cells : List α} {reads : α} :
    (∃ cell list, .delete cell reads list ∈ sweep doomed [] cells) ↔
      Reads doomed cells reads := by
  constructor
  · rintro ⟨cell, list, member⟩
    rcases mem_sweep_delete .start member with
      ⟨rfl, front, post, shape, ends⟩ | ⟨front, post, shape, passed⟩
    · exact ⟨front, post, shape, .inr ⟨doomed_of_delete member, ends⟩⟩
    · exact ⟨front ++ [cell], post, by simp [shape], .inl passed⟩
  · rintro ⟨front, post, rfl, passed | ⟨gone, ends⟩⟩
    · exact passedOver_read passed
    · by_cases passed : PassedOver doomed front
      · exact passedOver_read passed
      · obtain ⟨before, cursor, goesOn⟩ :=
          sweep_reaches (reads :: post) .start passed
        refine ⟨reads, before ++ post, goesOn.subset ?_⟩
        by_cases behind : before = []
        · rw [behind, sweep_first _ gone]
          exact List.mem_cons_self
        · rcases ends with allDoomed | rfl
          · exact absurd (cursor.first.mpr (by simpa using allDoomed)) behind
          · simp [sweep_last behind gone]

private theorem split_unique {front post front' post' : List α} {cell : α}
    (nodup : (front ++ cell :: post).Nodup)
    (same : front ++ cell :: post = front' ++ cell :: post') :
    front = front' ∧ post = post' := by
  have behind : cell ∉ front ∧ cell ∉ post := by
    rw [List.nodup_middle, List.nodup_cons, List.mem_append, not_or] at nodup
    exact nodup.1
  obtain ⟨sameFront, _, samePost⟩ :=
    (List.append_cons_inj_of_notMem behind.1 behind.2).mp same
  exact ⟨sameFront, samePost⟩

theorem visits_iff {cells front post : List α} {cell : α}
    (nodup : cells.Nodup) (shape : cells = front ++ cell :: post) :
    Visits doomed cells cell ↔ ¬PassedOver doomed front := by
  constructor
  · rintro ⟨front', post', shape', visited⟩
    rw [shape] at nodup shape'
    obtain ⟨rfl, _⟩ := split_unique nodup shape'
    exact visited
  · exact fun visited => ⟨front, post, shape, visited⟩

theorem reads_iff {cells front post : List α} {cell : α}
    (nodup : cells.Nodup) (shape : cells = front ++ cell :: post) :
    Reads doomed cells cell ↔ PassedOver doomed front ∨
      doomed cell ∧ ((∀ other ∈ front, doomed other) ∨ post = []) := by
  constructor
  · rintro ⟨front', post', shape', ends⟩
    rw [shape] at nodup shape'
    obtain ⟨rfl, rfl⟩ := split_unique nodup shape'
    exact ends
  · exact fun ends => ⟨front, post, shape, ends⟩

theorem reads_sublist (before rest : List α) :
    ((sweep doomed before rest).filterMap Visit.reads?).Sublist rest := by
  induction before, rest using sweep_induction doomed with
  | nil before => simp
  | keep before cell after kept ih =>
      rw [sweep_keep _ _ kept, List.filterMap_cons_none rfl]
      exact ih.cons cell
  | first cell after gone ih =>
      rw [sweep_first _ gone, List.filterMap_cons]
      exact ih.cons_cons cell
  | last before cell behind gone =>
      rw [sweep_last behind gone]
      exact List.Sublist.refl [cell]
  | pull before cell next after behind gone ih =>
      rw [sweep_pull _ behind gone, List.filterMap_cons]
      exact (ih.cons_cons next).cons cell

theorem cells_sublist (before rest : List α) :
    ((sweep doomed before rest).map Visit.cell).Sublist rest := by
  induction before, rest using sweep_induction doomed with
  | nil before => simp
  | keep before cell after kept ih =>
      rw [sweep_keep _ _ kept]
      exact ih.cons_cons cell
  | first cell after gone ih =>
      rw [sweep_first _ gone]
      exact ih.cons_cons cell
  | last before cell behind gone =>
      rw [sweep_last behind gone]
      exact List.Sublist.refl [cell]
  | pull before cell next after behind gone ih =>
      rw [sweep_pull _ behind gone]
      exact (ih.cons next).cons_cons cell

@[simp] theorem remaining_nil (before : List α) :
    remaining doomed before [] = before := by
  simp [remaining]

theorem remaining_keep (before after : List α) {cell : α}
    (kept : ¬doomed cell) :
    remaining doomed before (cell :: after) =
      remaining doomed (before ++ [cell]) after := by
  simp [remaining, sweep_keep _ _ kept, Visit.listAfter]

theorem remaining_first {cell : α} (after : List α) (gone : doomed cell) :
    remaining doomed [] (cell :: after) = remaining doomed [] after := by
  simp [remaining, sweep_first _ gone, Visit.listAfter]

theorem remaining_last {before : List α} {cell : α} (behind : before ≠ [])
    (gone : doomed cell) : remaining doomed before [cell] = before := by
  simp [remaining, sweep_last behind gone, Visit.listAfter]

theorem remaining_pull {before : List α} {cell next : α} (after : List α)
    (behind : before ≠ []) (gone : doomed cell) :
    remaining doomed before (cell :: next :: after) =
      remaining doomed (before ++ [next]) after := by
  simp [remaining, sweep_pull _ behind gone, Visit.listAfter]

@[simp] theorem deletions_nil (before : List α) :
    deletions doomed before [] = [] := by
  simp [deletions]

theorem deletions_keep (before after : List α) {cell : α}
    (kept : ¬doomed cell) :
    deletions doomed before (cell :: after) =
      deletions doomed (before ++ [cell]) after := by
  rw [deletions, sweep_keep _ _ kept]
  exact List.filterMap_cons_none rfl

theorem deletions_first {cell : α} (after : List α) (gone : doomed cell) :
    deletions doomed [] (cell :: after) =
      cell :: deletions doomed [] after := by
  rw [deletions, sweep_first _ gone]
  exact List.filterMap_cons_some rfl

theorem deletions_last {before : List α} {cell : α} (behind : before ≠ [])
    (gone : doomed cell) : deletions doomed before [cell] = [cell] := by
  rw [deletions, sweep_last behind gone]
  exact List.filterMap_cons_some rfl

theorem deletions_pull {before : List α} {cell next : α} (after : List α)
    (behind : before ≠ []) (gone : doomed cell) :
    deletions doomed before (cell :: next :: after) =
      cell :: deletions doomed (before ++ [next]) after := by
  rw [deletions, sweep_pull _ behind gone]
  exact List.filterMap_cons_some rfl

theorem deletions_append_remaining (doomed : α → Prop)
    [DecidablePred doomed] (before rest : List α) :
    (deletions doomed before rest ++ remaining doomed before rest).Perm
      (before ++ rest) := by
  induction before, rest using sweep_induction doomed with
  | nil before => simp
  | keep before cell after kept ih =>
      rw [deletions_keep _ _ kept, remaining_keep _ _ kept]
      simpa using ih
  | first cell after gone ih =>
      rw [deletions_first _ gone, remaining_first _ gone]
      exact ih.cons cell
  | last before cell behind gone =>
      rw [deletions_last behind gone, remaining_last behind gone]
      exact List.perm_append_comm
  | pull before cell next after behind gone ih =>
      rw [deletions_pull _ behind gone, remaining_pull _ behind gone]
      rw [List.append_assoc, List.singleton_append] at ih
      exact (ih.cons cell).trans List.perm_middle.symm

theorem remaining_length_le (doomed : α → Prop) [DecidablePred doomed]
    (cells : List α) : (remaining doomed [] cells).length ≤ cells.length := by
  have placed := (deletions_append_remaining doomed [] cells).length_eq
  rw [List.length_append, List.nil_append] at placed
  omega

theorem mem_deletions_or (doomed : α → Prop) [DecidablePred doomed]
    {cells : List α} {cell : α} (member : cell ∈ cells) :
    cell ∈ deletions doomed [] cells ∨ cell ∈ remaining doomed [] cells := by
  rw [← List.mem_append]
  exact (deletions_append_remaining doomed [] cells).mem_iff.mpr member

theorem mem_of_remaining {cells : List α} {cell : α}
    (left : cell ∈ remaining doomed [] cells) : cell ∈ cells :=
  (deletions_append_remaining doomed [] cells).mem_iff.mp
    (List.mem_append_right _ left)

theorem mem_remaining_or (doomed : α → Prop) [DecidablePred doomed]
    (before : List α) {rest : List α} {cell : α}
    (member : cell ∈ before ++ rest) :
    cell ∈ remaining doomed before rest ∨
      ∃ reads list, .delete cell reads list ∈ sweep doomed before rest := by
  have placed := (deletions_append_remaining doomed before rest).mem_iff.mpr
    member
  rcases List.mem_append.mp placed with gone | left
  · exact .inr (mem_deletions.mp gone)
  · exact .inl left

theorem mem_remaining_of_kept {before rest : List α} {cell : α}
    (member : cell ∈ before ++ rest) (kept : ¬doomed cell) :
    cell ∈ remaining doomed before rest := by
  rcases mem_remaining_or doomed before member with
    left | ⟨reads, list, deleted⟩
  · exact left
  · exact absurd (doomed_of_delete deleted) kept

theorem mem_remaining_iff {cells front post : List α} {cell : α}
    (nodup : cells.Nodup) (shape : cells = front ++ cell :: post)
    (gone : doomed cell) :
    cell ∈ remaining doomed [] cells ↔ PassedOver doomed front := by
  have deleted : cell ∈ deletions doomed [] cells ↔
      ¬PassedOver doomed front := by
    rw [mem_deletions_iff, visits_iff nodup shape]
    exact and_iff_left gone
  have placed := deletions_append_remaining doomed [] cells
  have apart := placed.nodup_iff.mpr nodup
  have member : cell ∈ cells := shape ▸ List.mem_append_cons_self
  constructor
  · intro left
    by_contra visited
    exact (List.nodup_append.mp apart).2.2 cell (deleted.mpr visited) cell
      left rfl
  · intro passed
    exact (mem_deletions_or doomed member).resolve_left
      fun taken => deleted.mp taken passed

section Folds

variable {State Step Field Key Value : Type*} (act : State → Step → State)

theorem foldl_keeps {field : State → Field}
    (keeps : ∀ state step, field (act state step) = field state)
    (steps : List Step) (state : State) :
    field (steps.foldl act state) = field state := by
  induction steps generalizing state with
  | nil => rfl
  | cons step steps ih => rw [List.foldl_cons, ih, keeps]

/-- Steps that append only allowed items to a field, as long as something
else is kept, append only allowed items together. -/
theorem foldl_appends (field : State → List Field) (keeps : State → Prop)
    {allowed : Field → Prop} {steps : List Step}
    (appends : ∀ state, ∀ step ∈ steps, keeps state →
      keeps (act state step) ∧
        ∃ new, field (act state step) = field state ++ new ∧
          ∀ item ∈ new, allowed item)
    {state : State} (kept : keeps state) :
    ∃ new, field (steps.foldl act state) = field state ++ new ∧
      ∀ item ∈ new, allowed item := by
  induction steps generalizing state with
  | nil => exact ⟨[], by simp, by simp⟩
  | cons step steps ih =>
      obtain ⟨keptNext, first, firstShape, firstAllowed⟩ :=
        appends state step List.mem_cons_self kept
      obtain ⟨rest, restShape, restAllowed⟩ := ih
        (fun state later member =>
          appends state later (List.mem_cons_of_mem step member)) keptNext
      refine ⟨first ++ rest, ?_, ?_⟩
      · rw [List.foldl_cons, restShape, firstShape, List.append_assoc]
      · intro item member
        rcases List.mem_append.mp member with here | later
        · exact firstAllowed item here
        · exact restAllowed item later

/-- Steps that each remove at most one key of a map remove together the keys
they remove one by one. -/
theorem foldl_removes [DecidableEq Key]
    (find : State → Key → Option Value) {removed : Step → Option Key}
    (removes : ∀ state step key, find (act state step) key =
      if removed step = some key then none else find state key)
    (steps : List Step) (state : State) (key : Key) :
    find (steps.foldl act state) key =
      if key ∈ steps.filterMap removed then none else find state key := by
  induction steps generalizing state with
  | nil => rfl
  | cons step steps ih =>
      rw [List.foldl_cons, ih, removes]
      by_cases later : key ∈ steps.filterMap removed
      · have member : key ∈ (step :: steps).filterMap removed := by
          obtain ⟨other, inSteps, removesIt⟩ := List.mem_filterMap.mp later
          exact List.mem_filterMap.mpr
            ⟨other, List.mem_cons_of_mem _ inSteps, removesIt⟩
        rw [if_pos later, if_pos member]
      · have member : key ∈ (step :: steps).filterMap removed ↔
            removed step = some key := by
          simp only [List.mem_filterMap, List.mem_cons,
            exists_eq_or_imp] at later ⊢
          exact or_iff_left later
        rw [if_neg later]
        simp only [member]

end Folds

end Sweep
