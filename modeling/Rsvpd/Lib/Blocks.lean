import Rsvpd.Lib.Records

/-!
# Blocks that a writer put side by side

A writer encodes items one behind the other.  When each block is as long as
the layout advances over the length that its header states, the reader of
`Layout.records` stops at every block once, in order, and at nothing else.
-/

namespace Framing

variable {α Byte : Type*}

/-- Memory holds the bytes from a position on. -/
def Shows (memory : Nat → Byte) : Nat → List Byte → Prop
  | _, [] => True
  | start, byte :: bytes =>
      memory start = byte ∧ Shows memory (start + 1) bytes

section Shows

variable {memory : Nat → Byte} {start : Nat} {bytes : List Byte}

theorem shows_append {front back : List Byte} :
    Shows memory start (front ++ back) ↔
      Shows memory start front ∧ Shows memory (start + front.length) back := by
  induction front generalizing start with
  | nil => exact iff_of_eq (true_and _).symm
  | cons byte front ih =>
      have shift : start + 1 + front.length =
          start + (byte :: front).length := by
        rw [List.length_cons]
        omega
      simp only [List.cons_append, Shows, ih, shift, and_assoc]

theorem Shows.get (shows : Shows memory start bytes) {i : Nat}
    (inside : i < bytes.length) : memory (start + i) = bytes[i] := by
  induction bytes generalizing start i with
  | nil => cases inside
  | cons byte bytes ih =>
      cases i with
      | zero => exact shows.1
      | succ i =>
          have further := ih shows.2 (Nat.lt_of_succ_lt_succ inside)
          rwa [Nat.add_assoc, Nat.add_comm 1 i] at further

theorem shows_getD (front bytes : List Byte) (beyond : Nat → Byte) :
    Shows (fun i => (front ++ bytes).getD i (beyond i)) front.length
      bytes := by
  induction bytes generalizing front with
  | nil => trivial
  | cons byte bytes ih =>
      have further := ih (front ++ [byte])
      rw [List.length_append, List.append_assoc] at further
      exact ⟨by simp, further⟩

end Shows

section Blocks

variable (encode : α → List Byte)

/-- The items with the positions at which their blocks start. -/
def places : Nat → List α → List (Nat × α)
  | _, [] => []
  | start, item :: items =>
      (start, item) :: places (start + (encode item).length) items

variable {encode} {memory : Nat → Byte} {start : Nat} {items : List α}

theorem places_items :
    (places encode start items).map Prod.snd = items := by
  induction items generalizing start with
  | nil => rfl
  | cons item items ih => rw [places, List.map_cons, ih]

theorem item_mem_of_mem_places {place : Nat × α}
    (member : place ∈ places encode start items) : place.2 ∈ items := by
  have mapped := List.mem_map_of_mem (f := Prod.snd) member
  rwa [places_items] at mapped

theorem Shows.at_places
    (shows : Shows memory start (items.flatMap encode)) {place : Nat × α}
    (member : place ∈ places encode start items) :
    Shows memory place.1 (encode place.2) := by
  induction items generalizing start with
  | nil => cases member
  | cons item items ih =>
      rw [List.flatMap_cons, shows_append] at shows
      rcases List.mem_cons.mp member with rfl | later
      · exact shows.1
      · exact ih shows.2 later

theorem place_inside {place : Nat × α}
    (member : place ∈ places encode start items) :
    start ≤ place.1 ∧ place.1 + (encode place.2).length ≤
      start + (items.flatMap encode).length := by
  induction items generalizing start with
  | nil => cases member
  | cons item items ih =>
      rw [List.flatMap_cons, List.length_append]
      rcases List.mem_cons.mp member with rfl | later
      · exact ⟨Nat.le_refl _, by dsimp only; omega⟩
      · have inside := ih later
        omega

/-- The reader takes the blocks and nothing else. -/
theorem Layout.records_eq_places (layout : Layout) {lengthAt : Nat → Nat}
    (stated : ∀ place ∈ places encode start items,
      layout.header ≤ lengthAt place.1 ∧
        (encode place.2).length = layout.advance (lengthAt place.1)) :
    layout.records lengthAt (start + (items.flatMap encode).length) start =
      (places encode start items).map Prod.fst := by
  induction items generalizing start with
  | nil =>
      refine Layout.records_of_not_fits fun fits => ?_
      have positive := layout.headerPositive
      have header := fits.1
      rw [List.flatMap_nil, List.length_nil] at header
      omega
  | cons item items ih =>
      obtain ⟨here, later⟩ := List.forall_mem_cons.mp stated
      obtain ⟨long, size⟩ := here
      dsimp only at long size
      have covers := layout.covers (lengthAt start)
      have stop : start + ((item :: items).flatMap encode).length =
          start + (encode item).length + (items.flatMap encode).length := by
        rw [List.flatMap_cons, List.length_append]
        omega
      have fits : layout.Fits lengthAt
          (start + ((item :: items).flatMap encode).length) start := by
        refine ⟨?_, long, ?_⟩ <;> omega
      rw [Layout.records_of_fits fits, ← size, stop, ih later]
      rfl

end Blocks

section Kinds

variable {β : Type*}

theorem lastOfKind_map {kind : β → Nat} (f : α → β) (slot : Nat)
    (items : List α) :
    lastOfKind kind slot (items.map f) =
      (lastOfKind (fun item => kind (f item)) slot items).map f := by
  rw [lastOfKind, List.filter_map, List.getLast?_map]
  rfl

theorem lastOfKind_congr {kind other : α → Nat} {items : List α}
    (same : ∀ item ∈ items, kind item = other item) (slot : Nat) :
    lastOfKind kind slot items = lastOfKind other slot items := by
  have filtered : (items.filter fun item => kind item = slot) =
      items.filter fun item => other item = slot := by
    refine List.filter_congr fun item member => ?_
    rw [same item member]
  rw [lastOfKind, filtered, lastOfKind]

theorem mem_of_lastOfKind {kind : α → Nat} {slot : Nat} {items : List α}
    {item : α} (last : lastOfKind kind slot items = some item) :
    item ∈ items ∧ kind item = slot := by
  have filtered := List.mem_filter.mp (List.mem_of_getLast? last)
  exact ⟨filtered.1, of_decide_eq_true filtered.2⟩

end Kinds

end Framing
