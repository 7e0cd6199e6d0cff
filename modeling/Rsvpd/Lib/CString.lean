import Mathlib.Data.BitVec
import Mathlib.Data.List.Basic
import Mathlib.Data.List.TakeWhile
import Mathlib.Tactic.Common

/-!
# C strings in buffers of a fixed size

A buffer is the list of its bytes.  Stores outside it, and a search for a
terminating zero that would run past its end, have no result.  `Holds` says
which text a buffer holds; the string functions are described by it.
-/

namespace CString

abbrev Byte := BitVec 8

/-- The buffer holds the text: its bytes up to the first zero. -/
def Holds (buffer text : List Byte) : Prop :=
  0 ∉ text ∧ ∃ rest, buffer = text ++ 0 :: rest

/-- Store one byte. -/
def store (buffer : List Byte) (at' : Nat) (byte : Byte) :
    Option (List Byte) :=
  if at' < buffer.length then some (buffer.set at' byte) else none

def strlen (buffer : List Byte) : Option Nat :=
  buffer.findIdx? (· == 0)

/-- Copy at most `count` bytes of a text to an offset and terminate it. -/
def copyText : List Byte → Nat → Nat → List Byte → Option (List Byte)
  | byte :: source, count + 1, at', buffer => do
      let buffer ← store buffer at' byte
      copyText source count (at' + 1) buffer
  | _, _, at', buffer => store buffer at' 0

def strncat (buffer source : List Byte) (count : Nat) :
    Option (List Byte) := do
  let length ← strlen buffer
  copyText source count length buffer

theorem Holds.length_lt {buffer text : List Byte}
    (holds : Holds buffer text) : text.length < buffer.length := by
  obtain ⟨_, rest, rfl⟩ := holds
  simp

theorem strlen_holds {buffer text : List Byte} (holds : Holds buffer text) :
    strlen buffer = some text.length := by
  obtain ⟨noZero, rest, rfl⟩ := holds
  have absent : text.findIdx? (· == 0) = none := by
    rw [List.findIdx?_eq_none_iff]
    intro byte member
    rw [beq_eq_false_iff_ne]
    rintro rfl
    exact noZero member
  rw [strlen, List.findIdx?_append, absent, Option.none_or,
    List.findIdx?_cons]
  simp

theorem copyText_eq (source : List Byte) (count : Nat)
    (front tail : List Byte) (room : min count source.length < tail.length) :
    copyText source count front.length (front ++ tail) =
      some (front ++ (source.take count ++
        0 :: tail.drop (min count source.length + 1))) := by
  induction source generalizing count front tail with
  | nil =>
      obtain ⟨byte, tail, rfl⟩ : ∃ byte rest, tail = byte :: rest :=
        List.exists_cons_of_length_pos (by simpa using room)
      simp [copyText, store]
  | cons next source ih =>
      cases count with
      | zero =>
          obtain ⟨byte, tail, rfl⟩ : ∃ byte rest, tail = byte :: rest :=
            List.exists_cons_of_length_pos (by simpa using room)
          simp [copyText, store]
      | succ count =>
          rw [List.length_cons, Nat.succ_min_succ] at room
          obtain ⟨byte, tail, rfl⟩ : ∃ byte rest, tail = byte :: rest :=
            List.exists_cons_of_length_pos (by omega)
          have stored := ih count (front ++ [next]) tail (by simpa using room)
          have here : store (front ++ byte :: tail) front.length next =
              some (front ++ next :: tail) := by simp [store]
          simp only [List.append_assoc, List.singleton_append,
            List.length_append, List.length_singleton] at stored
          simp only [copyText, here, Option.bind_eq_bind, Option.bind_some,
            stored, List.take_succ_cons, List.cons_append, List.length_cons,
            Nat.succ_min_succ, List.drop_succ_cons]

theorem strncat_holds {buffer text source : List Byte}
    (holds : Holds buffer text) (noZero : 0 ∉ source) (count : Nat)
    (room : text.length + min count source.length < buffer.length) :
    ∃ buffer', strncat buffer source count = some buffer' ∧
      buffer'.length = buffer.length ∧
      Holds buffer' (text ++ source.take count) := by
  have length := strlen_holds holds
  obtain ⟨textZero, rest, rfl⟩ := holds
  have inside : min count source.length < (0 :: rest).length := by
    rw [List.length_append] at room
    omega
  have copied := copyText_eq source count text (0 :: rest) inside
  refine ⟨text ++ (source.take count ++
      0 :: (0 :: rest).drop (min count source.length + 1)),
    by rw [strncat, length]; exact copied, ?_, ?_,
    (0 :: rest).drop (min count source.length + 1), ?_⟩
  · simp only [List.length_append, List.length_cons, List.length_take,
      List.length_drop]
    rw [List.length_cons] at inside
    omega
  · rw [List.mem_append, not_or]
    exact ⟨textZero, mt List.mem_of_mem_take noZero⟩
  · exact (List.append_assoc ..).symm

theorem store_last_holds {buffer text : List Byte}
    (holds : Holds buffer text) :
    ∃ buffer', store buffer (buffer.length - 1) 0 = some buffer' ∧
      buffer'.length = buffer.length ∧ Holds buffer' text := by
  obtain ⟨noZero, rest, rfl⟩ := holds
  refine ⟨(text ++ 0 :: rest).set ((text ++ 0 :: rest).length - 1) 0,
    if_pos (by simp), by simp, noZero, rest.set (rest.length - 1) 0, ?_⟩
  have past : (text ++ 0 :: rest).length - 1 = text.length + rest.length := by
    simp
  rw [past, List.set_append_right _ _ (Nat.le_add_right _ _),
    Nat.add_sub_cancel_left]
  cases rest with
  | nil => rfl
  | cons byte rest => rfl

def read (buffer : List Byte) : Option (List Byte) :=
  (strlen buffer).map buffer.take

def strcpy (dest source : List Byte) : Option (List Byte) := do
  let text ← read source
  copyText text text.length 0 dest

/-- `strcmp(first, second) == 0`. -/
def strcmpEqual (first second : List Byte) : Option Bool := do
  let text ← read first
  let other ← read second
  return text == other

/-- A literal in the program text. -/
def cLiteral (text : List Byte) : List Byte := text ++ [0]

theorem Holds.cLiteral {text : List Byte} (noZero : 0 ∉ text) :
    Holds (cLiteral text) text :=
  ⟨noZero, [], rfl⟩

theorem read_holds {buffer text : List Byte} (holds : Holds buffer text) :
    read buffer = some text := by
  have length := strlen_holds holds
  obtain ⟨_, rest, rfl⟩ := holds
  rw [read, length, Option.map_some, List.take_left]

theorem strcpy_holds {dest source text : List Byte}
    (holds : Holds source text) (room : text.length < dest.length) :
    ∃ dest', strcpy dest source = some dest' ∧
      dest'.length = dest.length ∧ Holds dest' text := by
  have copied := copyText_eq text text.length [] dest (by simpa using room)
  simp only [List.nil_append, List.length_nil, List.take_length,
    Nat.min_self] at copied
  refine ⟨text ++ 0 :: dest.drop (text.length + 1), ?_, ?_, holds.1, _, rfl⟩
  · rw [strcpy, read_holds holds]
    exact copied
  · simp only [List.length_append, List.length_cons, List.length_drop]
    omega

theorem strcmpEqual_holds {first second text other : List Byte}
    (holds : Holds first text) (holds' : Holds second other) :
    strcmpEqual first second = some (text == other) := by
  rw [strcmpEqual, read_holds holds, read_holds holds']
  rfl

/-- The bytes of an ASCII string. -/
def ofString (string : String) : List Byte :=
  string.toList.map fun char => BitVec.ofNat 8 char.toNat

/-- A text without a zero byte, of at most `bound` bytes. -/
structure Text (bound : Nat) where
  bytes : List Byte
  noZero : 0 ∉ bytes
  short : bytes.length ≤ bound

namespace Text

variable {m n : Nat}

def append (first : Text m) (second : Text n) : Text (m + n) where
  bytes := first.bytes ++ second.bytes
  noZero := by
    rw [List.mem_append, not_or]
    exact ⟨first.noZero, second.noZero⟩
  short := by
    have := first.short
    have := second.short
    rw [List.length_append]
    omega

instance : HAppend (Text m) (Text n) (Text (m + n)) := ⟨append⟩

def weaken (text : Text m) (le : m ≤ n) : Text n where
  bytes := text.bytes
  noZero := text.noZero
  short := text.short.trans le

def literal (string : String) (noZero : 0 ∉ ofString string) :
    Text string.toList.length where
  bytes := ofString string
  noZero := noZero
  short := by simp [ofString]

/-- The string in the first bytes of an array; it ends at the first zero, or
with the array. -/
def ofArray (array : List Byte) : Text array.length where
  bytes := array.takeWhile (· ≠ 0)
  noZero member := by simpa using List.mem_takeWhile_imp member
  short := (List.takeWhile_prefix _).length_le

/-- A number that fits in some decimal digits. -/
def decimal (number digits : Nat)
    (fits : 0 < digits ∧ number < 10 ^ digits) : Text digits where
  bytes := (Nat.toDigits 10 number).map fun char =>
    BitVec.ofNat 8 char.toNat
  noZero := by
    rw [List.mem_map]
    rintro ⟨char, member, zero⟩
    have digit := Nat.isDigit_of_mem_toDigits (by decide) (by decide) member
    obtain ⟨low, high⟩ := Char.isDigit_iff_toNat.mp digit
    have small : char.toNat < 2 ^ 8 := Nat.lt_of_le_of_lt high (by decide)
    have code := congrArg BitVec.toNat zero
    rw [BitVec.toNat_ofNat, Nat.mod_eq_of_lt small] at code
    rw [code] at low
    exact absurd low (by decide)
  short := by
    rw [List.length_map]
    exact (Nat.length_toDigits_le_iff (by decide) fits.1).mpr fits.2

def u8 (number : BitVec 8) : Text 3 :=
  decimal number.toNat 3 ⟨by decide, by have := number.isLt; omega⟩

def u16 (number : BitVec 16) : Text 5 :=
  decimal number.toNat 5 ⟨by decide, by have := number.isLt; omega⟩

def i32 (number : BitVec 32) : Text 11 :=
  let digits := decimal number.toInt.natAbs 10
    ⟨by decide, by
      have := BitVec.le_two_mul_toInt (x := number)
      have := BitVec.two_mul_toInt_lt (x := number)
      omega⟩
  if number.toInt < 0 then literal "-" (by decide) ++ digits
  else digits.weaken (by decide)

end Text

end CString
