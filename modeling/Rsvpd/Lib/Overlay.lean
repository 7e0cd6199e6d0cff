import Mathlib.Data.List.Basic

/-!
# Buffers that are partly overwritten

A buffer in memory is given as a row of pieces.  A stored piece is
overwritten; a kept piece still holds what memory held before.  The buffer
tells two memories apart exactly at the addresses of its kept pieces.
-/

namespace Overlay

variable {Byte : Type*}

/-- The bytes of memory at `size` addresses from `start` on. -/
def window (memory : Nat → Byte) (start size : Nat) : List Byte :=
  (List.range' start size).map memory

inductive Piece (Byte : Type*) where
  | stored (bytes : List Byte)
  | kept (size : Nat)

def Piece.size : Piece Byte → Nat
  | .stored bytes => bytes.length
  | .kept size => size

/-- What a piece at `start` holds. -/
def Piece.contents (memory : Nat → Byte) (start : Nat) :
    Piece Byte → List Byte
  | .stored bytes => bytes
  | .kept size => window memory start size

/-- The buffer of the pieces that stand one behind the other from `start`. -/
def contents (memory : Nat → Byte) : Nat → List (Piece Byte) → List Byte
  | _, [] => []
  | start, piece :: pieces =>
      piece.contents memory start ++ contents memory (start + piece.size) pieces

def size : List (Piece Byte) → Nat
  | [] => 0
  | piece :: pieces => piece.size + size pieces

/-- The addresses at which memory shows through. -/
def keptAt : Nat → List (Piece Byte) → List Nat
  | _, [] => []
  | start, .stored bytes :: pieces => keptAt (start + bytes.length) pieces
  | start, .kept size :: pieces =>
      List.range' start size ++ keptAt (start + size) pieces

variable {first second memory : Nat → Byte} {start : Nat}
  {pieces : List (Piece Byte)}

@[simp] theorem length_window (size : Nat) :
    (window memory start size).length = size := by
  rw [window, List.length_map, List.length_range']

theorem window_eq_iff {size : Nat} :
    window first start size = window second start size ↔
      ∀ i ∈ List.range' start size, first i = second i :=
  List.map_inj_left

@[simp] theorem Piece.length_contents (piece : Piece Byte) :
    (piece.contents memory start).length = piece.size := by
  cases piece with
  | stored bytes => rfl
  | kept size => exact length_window size

theorem length_contents (pieces : List (Piece Byte)) :
    (contents memory start pieces).length = size pieces := by
  induction pieces generalizing start with
  | nil => rfl
  | cons piece pieces ih =>
      rw [contents, List.length_append, Piece.length_contents, ih]
      rfl

theorem le_of_mem_keptAt {i : Nat} (kept : i ∈ keptAt start pieces) :
    start ≤ i := by
  induction pieces generalizing start with
  | nil => cases kept
  | cons piece pieces ih =>
      cases piece with
      | stored bytes => exact Nat.le_of_add_right_le (ih kept)
      | kept size =>
          rcases List.mem_append.mp kept with here | later
          · exact (List.mem_range'_1.mp here).1
          · exact Nat.le_of_add_right_le (ih later)

theorem getElem?_contents {i : Nat} (kept : start + i ∈ keptAt start pieces) :
    (contents memory start pieces)[i]? = some (memory (start + i)) := by
  induction pieces generalizing start i with
  | nil => cases kept
  | cons piece pieces ih =>
      have behind (later : start + i ∈ keptAt (start + piece.size) pieces) :
          (contents memory start (piece :: pieces))[i]? =
            some (memory (start + i)) := by
        have fits : piece.size ≤ i :=
          Nat.le_of_add_le_add_left (le_of_mem_keptAt later)
        obtain ⟨j, rfl⟩ := Nat.exists_eq_add_of_le fits
        rw [← Nat.add_assoc] at later ⊢
        rw [contents, List.getElem?_append_right (by simp), ← ih later,
          Piece.length_contents, Nat.add_sub_cancel_left]
      cases piece with
      | stored bytes => exact behind kept
      | kept size =>
          rcases List.mem_append.mp kept with here | later
          · have inPiece : i < size := by
              have := (List.mem_range'_1.mp here).2
              omega
            rw [contents, List.getElem?_append_left (by simpa),
              Piece.contents, window, List.getElem?_map,
              List.getElem?_range' inPiece, Nat.one_mul]
            rfl
          · exact behind later

/-- Two memories give the same buffer exactly when they agree wherever they
show through. -/
theorem contents_eq_iff :
    contents first start pieces = contents second start pieces ↔
      ∀ i ∈ keptAt start pieces, first i = second i := by
  induction pieces generalizing start with
  | nil => simp [contents, keptAt]
  | cons piece pieces ih =>
      have apart : contents first start (piece :: pieces) =
            contents second start (piece :: pieces) ↔
          piece.contents first start = piece.contents second start ∧
            contents first (start + piece.size) pieces =
              contents second (start + piece.size) pieces := by
        apply List.append_eq_append_iff_of_size_eq_left
        rw [Piece.length_contents, Piece.length_contents]
      rw [apart, ih]
      cases piece with
      | stored bytes => simp [keptAt, Piece.contents, Piece.size]
      | kept size =>
          rw [Piece.contents, Piece.contents, window_eq_iff, keptAt,
            List.forall_mem_append]
          rfl

end Overlay
