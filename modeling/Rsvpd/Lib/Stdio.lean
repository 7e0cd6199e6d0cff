import Rsvpd.Lib.Format

/-!
# Lines and numbers from an input stream

The input is the list of the bytes that were not read yet.  `fgets` takes a
line feed along with its line if there is room, and otherwise leaves the end of
the line to the next call.
-/

namespace CString

/-- The bytes that `fgets` takes, at most so many, and what it leaves. -/
def takeLine : Nat → List Byte → List Byte × List Byte
  | count + 1, byte :: input =>
      if byte = 10 then ([byte], input)
      else
        let (line, rest) := takeLine count input
        (byte :: line, rest)
  | _, input => ([], input)

/-- `fgets` into a buffer, with what it leaves of the input.  At the end of the
input it stores nothing. -/
def fgets (buffer : List Byte) (size : Nat) (input : List Byte) :
    Option (List Byte × List Byte) :=
  if input = [] then some (buffer, [])
  else
    let (line, rest) := takeLine (size - 1) input
    (copyText line line.length 0 buffer).map (·, rest)

theorem takeLine_short {line : List Byte} (noFeed : 10 ∉ line) {count : Nat}
    (short : line.length < count) (rest : List Byte) :
    takeLine count (line ++ 10 :: rest) = (line ++ [10], rest) := by
  induction line generalizing count with
  | nil =>
      obtain ⟨count, rfl⟩ := Nat.exists_eq_succ_of_ne_zero short.ne'
      rfl
  | cons byte line ih =>
      obtain ⟨other, later⟩ := not_or.mp (mt List.mem_cons.mpr noFeed)
      obtain ⟨count, rfl⟩ :=
        Nat.exists_eq_succ_of_ne_zero (Nat.ne_zero_of_lt short)
      have further := ih later (Nat.lt_of_succ_lt_succ short)
      simp only [List.cons_append, takeLine, if_neg (Ne.symm other), further]

theorem takeLine_long {line : List Byte} (noFeed : 10 ∉ line) {count : Nat}
    (long : count ≤ line.length) (rest : List Byte) :
    takeLine count (line ++ rest) =
      (line.take count, line.drop count ++ rest) := by
  induction line generalizing count with
  | nil =>
      cases Nat.le_zero.mp long
      rfl
  | cons byte line ih =>
      obtain ⟨other, later⟩ := not_or.mp (mt List.mem_cons.mpr noFeed)
      cases count with
      | zero => rfl
      | succ count =>
          have further := ih later (Nat.le_of_succ_le_succ long)
          simp only [List.cons_append, takeLine, if_neg (Ne.symm other),
            further, List.take_succ_cons, List.drop_succ_cons]

theorem fgets_holds {buffer input line rest : List Byte} {size : Nat}
    (more : input ≠ []) (taken : takeLine (size - 1) input = (line, rest))
    (noZero : 0 ∉ line) (room : line.length < buffer.length) :
    ∃ buffer', fgets buffer size input = some (buffer', rest) ∧
      buffer'.length = buffer.length ∧ Holds buffer' line := by
  have copied := copyText_eq line line.length [] buffer (by simpa using room)
  simp only [List.nil_append, List.length_nil, List.take_length, Nat.min_self]
    at copied
  refine ⟨line ++ 0 :: buffer.drop (line.length + 1), ?_, ?_, noZero, _, rfl⟩
  · rw [fgets, if_neg more, taken]
    dsimp only
    rw [copied, Option.map_some]
  · simp only [List.length_append, List.length_cons, List.length_drop]
    omega

/-- `isspace` of the C locale. -/
def isSpace (byte : Byte) : Bool :=
  byte == 32 || (9 ≤ byte.toNat && byte.toNat ≤ 13)

def isDigit (byte : Byte) : Bool :=
  48 ≤ byte.toNat && byte.toNat ≤ 57

def ofDigits (digits : List Byte) : Nat :=
  digits.foldl (fun number digit => 10 * number + (digit.toNat - 48)) 0

/-- The nearest number in the range of `long`. -/
def clampLong (number : Int) : Int :=
  max (-2 ^ 63) (min number (2 ^ 63 - 1))

/-- Whether a number begins with a minus, and what is behind its sign. -/
def scanSign : List Byte → Bool × List Byte
  | [] => (false, [])
  | byte :: input =>
      if byte = 45 then (true, input)
      else if byte = 43 then (false, input)
      else (false, byte :: input)

/-- A decimal number at the start of the input behind blanks, as `scanf` takes
it; `none` without a digit. -/
def scanLong (input : List Byte) : Option Int × List Byte :=
  let (negative, input) := scanSign (input.dropWhile isSpace)
  let digits := input.takeWhile isDigit
  let rest := input.dropWhile isDigit
  if digits = [] then (none, rest)
  else
    let number : Int := ofDigits digits
    (some (clampLong (if negative then -number else number)), rest)

def numeral (number : Int) : List Byte :=
  (if number < 0 then [45] else []) ++
    (Nat.toDigits 10 number.natAbs).map code

theorem isDigit_code {char : Char} (digit : char.isDigit) :
    isDigit (code char) = true ∧ (code char).toNat = char.toNat := by
  obtain ⟨low, high⟩ := Char.isDigit_iff_toNat.mp digit
  have small : char.toNat < 2 ^ 8 := Nat.lt_of_le_of_lt high (by decide)
  have same : (code char).toNat = char.toNat := by
    rw [code, BitVec.toNat_ofNat, Nat.mod_eq_of_lt small]
  rw [isDigit, same, Bool.and_eq_true, decide_eq_true_eq, decide_eq_true_eq]
  exact ⟨⟨low, high⟩, rfl⟩

theorem ofDigits_toDigits (number : Nat) :
    ofDigits ((Nat.toDigits 10 number).map code) = number := by
  have same : ofDigits ((Nat.toDigits 10 number).map code) =
      Nat.ofDigitChars 10 (Nat.toDigits 10 number) 0 := by
    rw [ofDigits, List.foldl_map, Nat.ofDigitChars_eq_foldl]
    refine List.foldl_ext _ _ 0 fun value char member => ?_
    have digit := Nat.isDigit_of_mem_toDigits (by decide) (by decide) member
    rw [(isDigit_code digit).2]
    rfl
  rw [same, Nat.ofDigitChars_ten_toDigits]

theorem isDigit_toDigits {number : Nat} {byte : Byte}
    (member : byte ∈ (Nat.toDigits 10 number).map code) :
    isDigit byte = true := by
  obtain ⟨char, inside, rfl⟩ := List.mem_map.mp member
  exact (isDigit_code
    (Nat.isDigit_of_mem_toDigits (by decide) (by decide) inside)).1

theorem plain_of_isDigit {byte : Byte} (digit : isDigit byte = true) :
    isSpace byte = false ∧ byte ≠ 45 ∧ byte ≠ 43 := by
  revert digit
  revert byte
  decide +kernel

/-- `scanf` reads back a number in front of something else. -/
theorem scanLong_numeral (number : Int) {stop : Byte}
    (other : isDigit stop = false) (rest : List Byte) :
    scanLong (numeral number ++ stop :: rest) =
      (some (clampLong number), stop :: rest) := by
  have value := ofDigits_toDigits number.natAbs
  have digits := @isDigit_toDigits number.natAbs
  have some' : (Nat.toDigits 10 number.natAbs).map code ≠ [] :=
    fun none => Nat.toDigits_ne_nil (List.map_eq_nil_iff.mp none)
  rw [numeral]
  generalize (Nat.toDigits 10 number.natAbs).map code = text
    at value digits some'
  obtain ⟨byte, text', shape⟩ := List.exists_cons_of_ne_nil some'
  obtain ⟨notSpace, notMinus, notPlus⟩ :=
    plain_of_isDigit (digits (shape ▸ List.mem_cons_self))
  have taken : (text ++ stop :: rest).takeWhile isDigit = text := by
    rw [List.takeWhile_append_of_pos fun _ member => digits member,
      List.takeWhile_cons_of_neg (by simp [other]), List.append_nil]
  have dropped : (text ++ stop :: rest).dropWhile isDigit = stop :: rest := by
    rw [List.dropWhile_append_of_pos fun _ member => digits member,
      List.dropWhile_cons_of_neg (by simp [other])]
  have signed : scanSign (((if number < 0 then [45] else []) ++ text ++
      stop :: rest).dropWhile isSpace) =
        (decide (number < 0), text ++ stop :: rest) := by
    split_ifs with negative
    · rw [decide_eq_true negative]
      rfl
    · rw [decide_eq_false negative, shape, List.nil_append, List.cons_append,
        List.dropWhile_cons_of_neg (by simp [notSpace]), scanSign,
        if_neg notMinus, if_neg notPlus]
  have absolute : (if decide (number < 0) = true then -(number.natAbs : Int)
      else number.natAbs) = number := by
    split_ifs with negative
    · have := of_decide_eq_true negative
      omega
    · have := of_decide_eq_false (Bool.eq_false_iff.mpr negative)
      omega
  rw [scanLong, signed]
  dsimp only
  rw [taken, dropped, if_neg some', value, absolute]

end CString
