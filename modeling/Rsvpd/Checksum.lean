import Rsvpd.Lib.OnesComplement
import Rsvpd.Packet

/-!
# The checksum of the ICMP probe

`checksum` of `rsvpd.c` adds the 16-bit words of a buffer in an `unsigned int`
and folds the carries twice.  For buffers of at most 131074 bytes the sum fits
and the result is the complement of the ones-complement sum of the words.
-/

namespace Rsvpd

/-- The loop over the words on a little-endian host; a last odd byte is added
as it is. -/
def checksumLoop : List U8 → U32 → U32
  | low :: high :: rest, sum =>
      checksumLoop rest (sum + (high ++ low).setWidth 32)
  | [last], sum => sum + last.setWidth 32
  | [], sum => sum

def checksum (b : List U8) : U16 :=
  let sum := checksumLoop b 0
  let sum := (sum >>> 16) + (sum &&& 0xFFFF)
  let sum := sum + (sum >>> 16)
  (~~~sum).setWidth 16

/-- The operands of the additions in the loop. -/
def checksumLoopAdds : List U8 → U32 → List (U32 × U32)
  | low :: high :: rest, sum =>
      (sum, (high ++ low).setWidth 32) ::
        checksumLoopAdds rest (sum + (high ++ low).setWidth 32)
  | [last], sum => [(sum, last.setWidth 32)]
  | [], _ => []

/-- The operands of all additions of `checksum`. -/
def checksumAdds (b : List U8) : List (U32 × U32) :=
  let sum := checksumLoop b 0
  let folded := (sum >>> 16) + (sum &&& 0xFFFF)
  checksumLoopAdds b 0 ++
    [(sum >>> 16, sum &&& 0xFFFF), (folded, folded >>> 16)]

/-- No addition of `checksum` wraps. -/
def NeverWraps (b : List U8) : Prop :=
  ∀ operands ∈ checksumAdds b,
    operands.1.toNat + operands.2.toNat < 2 ^ 32

/-- The 16-bit words of a buffer, a last odd byte padded by zero. -/
def words : List U8 → List U16
  | low :: high :: rest => (high ++ low) :: words rest
  | [last] => [0#8 ++ last]
  | [] => []

def wordSum (b : List U8) : Nat := ((words b).map BitVec.toNat).sum

/-- `*(unsigned short *)(b + at) = value`. -/
def storeWord (b : List U8) (at' : Nat) (value : U16) : List U8 :=
  (b.set at' (value.extractLsb' 0 8)).set (at' + 1) (value.extractLsb' 8 8)

/-- A 16-bit field at an even offset holds zero. -/
structure ZeroField (b : List U8) (at' : Nat) : Prop where
  even : at' % 2 = 0
  low : b[at']? = some 0
  high : b[at' + 1]? = some 0

@[simp] theorem wordSum_nil : wordSum [] = 0 := rfl

@[simp] theorem wordSum_single (last : U8) :
    wordSum [last] = last.toNat := by
  have word : (0#8 ++ last).toNat = last.toNat := by
    rw [BitVec.toNat_append]
    simp
  simpa [wordSum, words] using word

@[simp] theorem wordSum_cons (low high : U8) (rest : List U8) :
    wordSum (low :: high :: rest) =
      (high ++ low).toNat + wordSum rest := rfl

theorem wordSum_le (b : List U8) :
    wordSum b ≤ (b.length + 1) / 2 * 65535 := by
  fun_induction words b with
  | case1 low high rest ih =>
      have word := (high ++ low).isLt
      rw [wordSum_cons, List.length_cons, List.length_cons]
      omega
  | case2 last =>
      have byte := last.isLt
      rw [wordSum_single, List.length_singleton]
      omega
  | case3 => simp

theorem checksumLoop_toNat (b : List U8) (sum : U32)
    (fits : sum.toNat + wordSum b < 2 ^ 32) :
    (checksumLoop b sum).toNat = sum.toNat + wordSum b ∧
      ∀ operands ∈ checksumLoopAdds b sum,
        operands.1.toNat + operands.2.toNat < 2 ^ 32 := by
  fun_induction checksumLoop b sum with
  | case1 low high rest sum ih =>
      have word : ((high ++ low).setWidth 32).toNat = (high ++ low).toNat :=
        BitVec.toNat_setWidth_of_le (by decide)
      rw [wordSum_cons] at fits ⊢
      have added : (sum + (high ++ low).setWidth 32).toNat =
          sum.toNat + (high ++ low).toNat := by
        rw [BitVec.toNat_add, word, Nat.mod_eq_of_lt (by omega)]
      obtain ⟨total, rest⟩ := ih (by omega)
      refine ⟨by omega, ?_⟩
      rw [checksumLoopAdds, List.forall_mem_cons]
      refine ⟨?_, rest⟩
      dsimp only
      omega
  | case2 last sum =>
      have byte : (last.setWidth 32).toNat = last.toNat :=
        BitVec.toNat_setWidth_of_le (by decide)
      rw [wordSum_single] at fits ⊢
      refine ⟨?_, ?_⟩
      · rw [BitVec.toNat_add, byte, Nat.mod_eq_of_lt fits]
      · simp only [checksumLoopAdds, List.mem_singleton, forall_eq]
        omega
  | case3 sum => exact ⟨rfl, by simp [checksumLoopAdds]⟩

theorem wordSum_lt {b : List U8} (short : b.length ≤ 131074) :
    wordSum b < 2 ^ 32 := by
  have := wordSum_le b
  omega

theorem checksumFolds (sum : U32) :
    (sum >>> 16).toNat = sum.toNat / 2 ^ 16 ∧
      (sum &&& 0xFFFF).toNat = sum.toNat % 2 ^ 16 ∧
      ((sum >>> 16) + (sum &&& 0xFFFF)).toNat =
        sum.toNat / 2 ^ 16 + sum.toNat % 2 ^ 16 := by
  have bound := sum.isLt
  have high : (sum >>> 16).toNat = sum.toNat / 2 ^ 16 := by
    rw [BitVec.toNat_ushiftRight, Nat.shiftRight_eq_div_pow]
  have low : (sum &&& 0xFFFF).toNat = sum.toNat % 2 ^ 16 := by
    rw [BitVec.toNat_and]
    exact Nat.and_two_pow_sub_one_eq_mod sum.toNat 16
  refine ⟨high, low, ?_⟩
  rw [BitVec.toNat_add, high, low, Nat.mod_eq_of_lt (by omega)]

/-- The second carry fold, cut to 16 bits. -/
theorem checksumFold_cut (folded : U32) :
    (folded + (folded >>> 16)).setWidth 16 =
      BitVec.ofNat 16 (folded.toNat + folded.toNat / 2 ^ 16) := by
  apply BitVec.eq_of_toNat_eq
  rw [BitVec.toNat_setWidth, BitVec.toNat_add, BitVec.toNat_ushiftRight,
    BitVec.toNat_ofNat, Nat.shiftRight_eq_div_pow]
  omega

section Short

variable {b : List U8} (short : b.length ≤ 131074)

include short

theorem checksumLoop_short :
    (checksumLoop b 0).toNat = wordSum b ∧
      ∀ operands ∈ checksumLoopAdds b 0,
        operands.1.toNat + operands.2.toNat < 2 ^ 32 := by
  have fits := wordSum_lt short
  have added := checksumLoop_toNat b 0 (by simpa using fits)
  simpa using added

theorem checksum_neverWraps : NeverWraps b := by
  obtain ⟨total, adds⟩ := checksumLoop_short short
  intro operands member
  rw [checksumAdds, List.mem_append, List.mem_cons, List.mem_singleton]
    at member
  obtain ⟨high, low, folded⟩ := checksumFolds (checksumLoop b 0)
  rcases member with loop | rfl | rfl
  · exact adds operands loop
  · dsimp only
    omega
  · dsimp only
    rw [BitVec.toNat_ushiftRight, Nat.shiftRight_eq_div_pow]
    omega

theorem checksum_eq : checksum b = ~~~OnesComplement.sum (words b) := by
  obtain ⟨total, _⟩ := checksumLoop_short short
  obtain ⟨_, _, once⟩ := checksumFolds (checksumLoop b 0)
  rw [total] at once
  have cut := checksumFold_cut
    ((checksumLoop b 0 >>> 16) + (checksumLoop b 0 &&& 0xFFFF))
  rw [once] at cut
  have represents := OnesComplement.Represents.foldTwice (w := 16)
    (wordSum_lt short)
  rw [← cut] at represents
  have same := represents.unique (OnesComplement.Represents.sum (words b))
  simp only [checksum]
  rw [BitVec.setWidth_not (by decide), same]

end Short

@[simp] theorem storeWord_length (b : List U8) (at' : Nat) (value : U16) :
    (storeWord b at' value).length = b.length := by
  simp [storeWord]

theorem storeWord_cons (x y : U8) (b : List U8) (at' : Nat) (value : U16) :
    storeWord (x :: y :: b) (at' + 2) value =
      x :: y :: storeWord b at' value := rfl

theorem wordSum_storeWord {b : List U8} {at' : Nat} (field : ZeroField b at')
    (value : U16) :
    wordSum (storeWord b at' value) = wordSum b + value.toNat := by
  obtain ⟨even, low, high⟩ := field
  obtain ⟨half, rfl⟩ : ∃ half, at' = 2 * half := ⟨at' / 2, by omega⟩
  clear even
  induction half generalizing b with
  | zero =>
      rcases b with _ | ⟨x, _ | ⟨y, rest⟩⟩
      · simp at low
      · simp at high
      · obtain rfl : x = 0 := by simpa using low
        obtain rfl : y = 0 := by simpa using high
        change wordSum (value.extractLsb' 0 8 :: value.extractLsb' 8 8 ::
          rest) = _
        rw [wordSum_cons, wordSum_cons, append_bytes16]
        simp [Nat.add_comm]
  | succ half ih =>
      rcases b with _ | ⟨x, _ | ⟨y, rest⟩⟩
      · simp at low
      · simp [Nat.mul_add] at low
      · have stored := ih (b := rest) low high
        change wordSum (storeWord (x :: y :: rest) (2 * half + 2) value) = _
        rw [storeWord_cons, wordSum_cons, wordSum_cons, stored,
          Nat.add_assoc]

/-- The checksum of a buffer of at most 131074 bytes is computed without a
wrap and is the complement of the ones-complement sum.  Stored in a field of
the buffer that was zero it makes the checksum of the whole buffer zero. -/
theorem checksum_verifies (b : List U8) (short : b.length ≤ 131074) :
    NeverWraps b ∧ checksum b = ~~~OnesComplement.sum (words b) ∧
      ∀ at', ZeroField b at' →
        NeverWraps (storeWord b at' (checksum b)) ∧
          checksum (storeWord b at' (checksum b)) = 0 := by
  refine ⟨checksum_neverWraps short, checksum_eq short, ?_⟩
  intro at' field
  have shortStored : (storeWord b at' (checksum b)).length ≤ 131074 := by
    rwa [storeWord_length]
  refine ⟨checksum_neverWraps shortStored, ?_⟩
  have before := OnesComplement.Represents.sum (words b)
  have after := OnesComplement.Represents.sum
    (words (storeWord b at' (checksum b)))
  have total : ((words (storeWord b at' (checksum b))).map BitVec.toNat).sum =
      ((words b).map BitVec.toNat).sum +
        (~~~OnesComplement.sum (words b)).toNat := by
    rw [← checksum_eq short]
    exact wordSum_storeWord field (checksum b)
  rw [total] at after
  rw [checksum_eq shortStored, before.compl after]
  rfl

/-- The echo request that `trace` sends, before its checksum is stored. -/
def echoRequest (icmpId icmpSeq : U16) : List U8 :=
  [8, 0, 0, 0] ++ bytes16 icmpId ++ bytes16 icmpSeq ++ List.replicate 56 0

theorem echoRequest_verifies :
    NeverWraps (echoRequest 4711 1) ∧
      checksum (storeWord (echoRequest 4711 1) 2
        (checksum (echoRequest 4711 1))) = 0 := by
  have verifies := checksum_verifies (echoRequest 4711 1) (by decide)
  have field : ZeroField (echoRequest 4711 1) 2 := ⟨rfl, rfl, rfl⟩
  exact ⟨verifies.1, (verifies.2.2 2 field).2⟩

end Rsvpd
