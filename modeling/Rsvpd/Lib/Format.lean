import Rsvpd.Lib.CString

/-!
# Formatted texts that can be read back

A format string alternates literals and fields.  When the literal behind a
field begins with a byte that the field cannot hold, the text alone tells the
fields.
-/

namespace CString

/-- The literals of a format with fields in between. -/
def fill : List (List Byte) → List (List Byte) → List Byte
  | [], _ => []
  | literal :: _, [] => literal
  | literal :: literals, field :: fields =>
      literal ++ (field ++ fill literals fields)

/-- A field in front of another literal ends where that literal begins. -/
def Delimited : List (List Byte) → List (List Byte) → Prop
  | [], _ => True
  | _ :: _, [] => True
  | _ :: literals, field :: fields =>
      (∀ literal ∈ literals.head?, ∃ stop rest, literal = stop :: rest ∧
        stop ∉ field) ∧
      Delimited literals fields

theorem eq_of_append_cons_eq {stop : Byte} {first second rest rest' : List Byte}
    (outside : stop ∉ first) (outside' : stop ∉ second)
    (same : first ++ stop :: rest = second ++ stop :: rest') :
    first = second ∧ rest = rest' := by
  induction first generalizing second with
  | nil =>
      cases second with
      | nil => exact ⟨rfl, (List.cons.inj same).2⟩
      | cons byte second =>
          have head := (List.cons.inj same).1
          exact absurd (head ▸ List.mem_cons_self) outside'
  | cons byte first ih =>
      cases second with
      | nil =>
          have head := (List.cons.inj same).1
          exact absurd (head ▸ List.mem_cons_self) outside
      | cons byte' second =>
          obtain ⟨head, tail⟩ := List.cons.inj same
          have split := ih (fun member => outside (.tail _ member))
            (fun member => outside' (.tail _ member)) tail
          exact ⟨by rw [head, split.1], split.2⟩

theorem fill_cons (literal : List Byte) (literals fields : List (List Byte)) :
    ∃ rest, fill (literal :: literals) fields = literal ++ rest := by
  cases fields with
  | nil => exact ⟨[], (List.append_nil _).symm⟩
  | cons field fields => exact ⟨_, rfl⟩

/-- The text tells the fields. -/
theorem fill_injective {literals fields others : List (List Byte)}
    (delimited : Delimited literals fields)
    (delimited' : Delimited literals others)
    (count : fields.length = literals.length)
    (count' : others.length = literals.length)
    (same : fill literals fields = fill literals others) :
    fields = others := by
  induction literals generalizing fields others with
  | nil =>
      rw [List.length_eq_zero_iff.mp count, List.length_eq_zero_iff.mp count']
  | cons literal literals ih =>
      obtain ⟨field, fields, rfl⟩ :=
        List.exists_cons_of_length_eq_add_one count
      obtain ⟨other, others, rfl⟩ :=
        List.exists_cons_of_length_eq_add_one count'
      have behind := List.append_cancel_left same
      simp only [List.length_cons, Nat.add_right_cancel_iff] at count count'
      cases literals with
      | nil =>
          rw [List.length_eq_zero_iff.mp count,
            List.length_eq_zero_iff.mp count'] at behind ⊢
          simpa [fill] using behind
      | cons next literals =>
          obtain ⟨stop, tail, rfl, outside⟩ := delimited.1 next rfl
          obtain ⟨_, _, shape, outside'⟩ := delimited'.1 _ rfl
          cases shape
          obtain ⟨rest, filled⟩ := fill_cons (stop :: tail) literals fields
          obtain ⟨rest', filled'⟩ := fill_cons (stop :: tail) literals others
          rw [filled, filled'] at behind
          obtain ⟨rfl, tails⟩ :=
            eq_of_append_cons_eq outside outside' behind
          have further : fill ((stop :: tail) :: literals) fields =
              fill ((stop :: tail) :: literals) others := by
            rw [filled, filled']
            exact congrArg (stop :: ·) tails
          rw [ih delimited.2 delimited'.2 count count' further]

theorem mem_fill {literals fields : List (List Byte)} {byte : Byte}
    (member : byte ∈ fill literals fields) :
    (∃ literal ∈ literals, byte ∈ literal) ∨
      ∃ field ∈ fields, byte ∈ field := by
  induction literals generalizing fields with
  | nil => cases member
  | cons literal literals ih =>
      cases fields with
      | nil => exact .inl ⟨literal, List.mem_cons_self, member⟩
      | cons field fields =>
          rcases List.mem_append.mp member with here | member
          · exact .inl ⟨literal, List.mem_cons_self, here⟩
          rcases List.mem_append.mp member with here | member
          · exact .inr ⟨field, List.mem_cons_self, here⟩
          rcases ih member with ⟨other, further, inside⟩ |
              ⟨other, further, inside⟩
          · exact .inl ⟨other, .tail _ further, inside⟩
          · exact .inr ⟨other, .tail _ further, inside⟩

theorem length_fill_le (literals fields : List (List Byte)) :
    (fill literals fields).length ≤
      (literals.map List.length).sum + (fields.map List.length).sum := by
  induction literals generalizing fields with
  | nil => exact Nat.zero_le _
  | cons literal literals ih =>
      cases fields with
      | nil => simp [fill]
      | cons field fields =>
          have further := ih fields
          simp only [fill, List.length_append, List.map_cons, List.sum_cons]
          omega

/-- `snprintf` into a buffer of a size: what fits, and its end. -/
def snprintf (size : Nat) (text : List Byte) : List Byte :=
  text.take (size - 1) ++ [0]

theorem snprintf_holds {size : Nat} {text : List Byte} (noZero : 0 ∉ text)
    (short : text.length < size) : Holds (snprintf size text) text := by
  refine ⟨noZero, [], ?_⟩
  rw [snprintf, List.take_of_length_le (by omega)]

def code (char : Char) : Byte := BitVec.ofNat 8 char.toNat

theorem map_code_injective {chars others : List Char}
    (small : ∀ char ∈ chars, char.toNat < 256)
    (small' : ∀ char ∈ others, char.toNat < 256)
    (same : chars.map code = others.map code) : chars = others := by
  induction chars generalizing others with
  | nil => exact (List.map_eq_nil_iff.mp same.symm).symm
  | cons char chars ih =>
      cases others with
      | nil => cases same
      | cons other others =>
          obtain ⟨here, later⟩ := List.forall_mem_cons.mp small
          obtain ⟨here', later'⟩ := List.forall_mem_cons.mp small'
          obtain ⟨head, tail⟩ := List.cons.inj same
          have codes := congrArg BitVec.toNat head
          rw [code, code, BitVec.toNat_ofNat, BitVec.toNat_ofNat,
            Nat.mod_eq_of_lt here, Nat.mod_eq_of_lt here'] at codes
          rw [Char.toNat_inj.mp codes, ih later later' tail]

theorem ofString_injective {string other : String}
    (small : ∀ char ∈ string.toList, char.toNat < 256)
    (small' : ∀ char ∈ other.toList, char.toNat < 256)
    (same : ofString string = ofString other) : string = other :=
  String.toList_injective (map_code_injective small small' same)

namespace Text

theorem decimal_digit {number digits : Nat}
    {fits : 0 < digits ∧ number < 10 ^ digits} {byte : Byte}
    (member : byte ∈ (decimal number digits fits).bytes) :
    48 ≤ byte.toNat ∧ byte.toNat ≤ 57 := by
  obtain ⟨char, inside, rfl⟩ := List.mem_map.mp member
  have digit := Nat.isDigit_of_mem_toDigits (by decide) (by decide) inside
  obtain ⟨low, high⟩ := Char.isDigit_iff_toNat.mp digit
  have small : char.toNat < 2 ^ 8 := Nat.lt_of_le_of_lt high (by decide)
  rw [BitVec.toNat_ofNat, Nat.mod_eq_of_lt small]
  exact ⟨low, high⟩

theorem decimal_injective {number other digits digits' : Nat}
    {fits : 0 < digits ∧ number < 10 ^ digits}
    {fits' : 0 < digits' ∧ other < 10 ^ digits'}
    (same : (decimal number digits fits).bytes =
      (decimal other digits' fits').bytes) : number = other := by
  have codes (n : Nat) : ∀ char ∈ Nat.toDigits 10 n,
      char.toNat < 256 := by
    intro char member
    have digit := Nat.isDigit_of_mem_toDigits (by decide) (by decide) member
    have high := (Char.isDigit_iff_toNat.mp digit).2
    exact Nat.lt_of_le_of_lt high (by decide)
  have chars : Nat.toDigits 10 number = Nat.toDigits 10 other :=
    map_code_injective (codes number) (codes other) same
  rw [← Nat.ofDigitChars_ten_toDigits (n := number), chars,
    Nat.ofDigitChars_ten_toDigits]

theorem u8_digit {number : BitVec 8} {byte : Byte}
    (member : byte ∈ (u8 number).bytes) :
    48 ≤ byte.toNat ∧ byte.toNat ≤ 57 :=
  decimal_digit member

theorem u8_injective {number other : BitVec 8}
    (same : (u8 number).bytes = (u8 other).bytes) : number = other :=
  BitVec.eq_of_toNat_eq (decimal_injective same)

theorem i32_bytes (number : BitVec 32) :
    ∃ fits, (i32 number).bytes =
      (if number.toInt < 0 then [45] else []) ++
        (decimal number.toInt.natAbs 10 fits).bytes := by
  have fits : 0 < 10 ∧ number.toInt.natAbs < 10 ^ 10 := by
    have := BitVec.le_two_mul_toInt (x := number)
    have := BitVec.two_mul_toInt_lt (x := number)
    omega
  refine ⟨fits, ?_⟩
  unfold i32
  split_ifs <;> rfl

theorem i32_digit {number : BitVec 32} {byte : Byte}
    (member : byte ∈ (i32 number).bytes) :
    byte = 45 ∨ 48 ≤ byte.toNat ∧ byte.toNat ≤ 57 := by
  obtain ⟨fits, shape⟩ := i32_bytes number
  rw [shape, List.mem_append] at member
  rcases member with sign | digit
  · split_ifs at sign
    · exact .inl (List.mem_singleton.mp sign)
    · cases sign
  · exact .inr (decimal_digit digit)

theorem i32_injective {number other : BitVec 32}
    (same : (i32 number).bytes = (i32 other).bytes) : number = other := by
  obtain ⟨fits, shape⟩ := i32_bytes number
  obtain ⟨fits', shape'⟩ := i32_bytes other
  rw [shape, shape'] at same
  have noSign (n : Nat) (fits : 0 < 10 ∧ n < 10 ^ 10) (rest : List Byte) :
      45 :: rest ≠ (decimal n 10 fits).bytes := by
    intro equal
    have digit := decimal_digit (equal ▸ List.mem_cons_self)
    exact absurd digit.1 (by decide)
  apply BitVec.eq_of_toInt_eq
  split_ifs at same with negative negative'
  · have digits := decimal_injective (List.append_cancel_left same)
    omega
  · exact absurd same (noSign _ fits' _)
  · exact absurd same.symm (noSign _ fits _)
  · have digits := decimal_injective (List.append_cancel_left same)
    omega

end Text

end CString
