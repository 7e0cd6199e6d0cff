import Rsvpd.RouteWalk

/-!
# The mask of a prefix length

`is_ip_in_subnet` and `receive_resv_message` build their mask by the same
shift of an `int`.  It is defined for every prefix length that an address can
have but the one of a default route.
-/

namespace Rsvpd

/-- The amount of the shift `1 << (32 - prefix_len)`. -/
def shiftAmount (prefixLen : U8) : Int := 32 - prefixLen.toNat

/-- `1 << amount` on an `int`, modulo `2 ^ 32`; other amounts than these are
undefined in C. -/
def shiftOne (amount : Int) : Option U32 :=
  if 0 ≤ amount ∧ amount < 32 then some (1#32 <<< amount.toNat) else none

/-- `htonl(~((1 << (32 - prefix_len)) - 1))`. -/
def definedMask (prefixLen : U8) : Option U32 :=
  (shiftOne (shiftAmount prefixLen)).map fun shifted =>
    htonl (~~~(shifted - 1))

/-- What the two functions need of the mask of a prefix length. -/
structure MaskSound (prefixLen : U8) : Prop where
  /-- The shift is defined, and gives the mask of the model. -/
  amount : shiftAmount prefixLen < 32
  defined : definedMask prefixLen = some (prefixMask prefixLen)
  /-- Exactly the first bits are set. -/
  bits : ∀ index < 32, (ntohl (prefixMask prefixLen)).getLsbD index =
    decide (32 - prefixLen.toNat ≤ index)
  /-- A network without a bit in the prefix is that of a default route. -/
  defaultRoute : ∀ ip subnet, isIpInSubnet ip subnet prefixLen = 2 ↔
    Prefix.Shared prefixLen.toNat (ntohl subnet.sAddr) 0
  /-- For any other network the first bits are compared. -/
  inSubnet : ∀ ip subnet, isIpInSubnet ip subnet prefixLen = 1 ↔
    ¬Prefix.Shared prefixLen.toNat (ntohl subnet.sAddr) 0 ∧
      Prefix.Shared prefixLen.toNat (ntohl ip.sAddr) (ntohl subnet.sAddr)
  /-- The route of an ingress goes to the destination without its host bits.
  -/
  network : ∀ (pa : PathMsg) (p : ResvMsg), pa.prefixLen = prefixLen →
    p.nexthopIp = .any → ∃ net,
      addedRoute pa p = .push net prefixLen p.outLabel p.pSrcip pa.dev ∧
      ∀ index < 32, (ntohl net.sAddr).getLsbD index =
        (decide (32 - prefixLen.toNat ≤ index) &&
          (ntohl p.destIp.sAddr).getLsbD index)

section Mask

variable (prefixLen : U8)

theorem prefixMask_bits {index : Nat} (inWord : index < 32) :
    (ntohl (prefixMask prefixLen)).getLsbD index =
      decide (32 - prefixLen.toNat ≤ index) := by
  rw [prefixMask_eq, ntohl_htonl, Prefix.getLsbD_mask _ inWord]

theorem and_prefixMask_eq_zero (x : U32) :
    x &&& prefixMask prefixLen = 0 ↔
      Prefix.Shared prefixLen.toNat (ntohl x) 0 := by
  have none : 0 &&& prefixMask prefixLen = 0 := by simp
  have masked := and_prefixMask_eq_iff prefixLen x 0
  rwa [none] at masked

theorem isIpInSubnet_eq_two (ip subnet : InAddr) :
    isIpInSubnet ip subnet prefixLen = 2 ↔
      Prefix.Shared prefixLen.toNat (ntohl subnet.sAddr) 0 := by
  rw [← and_prefixMask_eq_zero]
  simp only [isIpInSubnet]
  split_ifs with zero shared
  · exact iff_of_true rfl zero
  · exact iff_of_false (by decide) zero
  · exact iff_of_false (by decide) zero

theorem isIpInSubnet_eq_one (ip subnet : InAddr) :
    isIpInSubnet ip subnet prefixLen = 1 ↔
      ¬Prefix.Shared prefixLen.toNat (ntohl subnet.sAddr) 0 ∧
        Prefix.Shared prefixLen.toNat (ntohl ip.sAddr)
          (ntohl subnet.sAddr) := by
  rw [← and_prefixMask_eq_zero, ← and_prefixMask_eq_iff]
  simp only [isIpInSubnet]
  split_ifs with zero shared
  · exact iff_of_false (by decide) fun both => both.1 zero
  · exact iff_of_true rfl ⟨zero, shared⟩
  · exact iff_of_false (by decide) fun both => shared both.2

theorem and_prefixMask_bits (x : U32) {index : Nat} (inWord : index < 32) :
    (ntohl (x &&& prefixMask prefixLen)).getLsbD index =
      (decide (32 - prefixLen.toNat ≤ index) &&
        (ntohl x).getLsbD index) := by
  have split : ntohl (x &&& prefixMask prefixLen) =
      ntohl x &&& ntohl (prefixMask prefixLen) := htonl_and _ _
  rw [split, BitVec.getLsbD_and, prefixMask_bits prefixLen inWord,
    Bool.and_comm]

theorem definedMask_eq (bound : prefixLen.toNat ≤ 32)
    (nonempty : prefixLen ≠ 0) :
    definedMask prefixLen = some (prefixMask prefixLen) := by
  have positive : prefixLen.toNat ≠ 0 := fun zero =>
    nonempty (BitVec.eq_of_toNat_eq zero)
  have amount : (shiftAmount prefixLen).toNat = 32 - prefixLen.toNat := by
    unfold shiftAmount
    omega
  have inRange : 0 ≤ shiftAmount prefixLen ∧ shiftAmount prefixLen < 32 := by
    unfold shiftAmount
    omega
  rw [definedMask, shiftOne, if_pos inRange, amount]
  rfl

/-- The mask does its work exactly for a prefix that is not empty. -/
theorem maskSound_iff (bound : prefixLen.toNat ≤ 32) :
    MaskSound prefixLen ↔ prefixLen ≠ 0 := by
  constructor
  · rintro sound rfl
    exact absurd sound.amount (by decide)
  · intro nonempty
    have positive : prefixLen.toNat ≠ 0 := fun zero =>
      nonempty (BitVec.eq_of_toNat_eq zero)
    refine ⟨?_, definedMask_eq prefixLen bound nonempty,
      fun index => prefixMask_bits prefixLen, isIpInSubnet_eq_two prefixLen,
      isIpInSubnet_eq_one prefixLen, ?_⟩
    · unfold shiftAmount
      omega
    · rintro pa p rfl ingress
      exact ⟨_, if_pos ingress, fun index =>
        and_prefixMask_bits pa.prefixLen p.destIp.sAddr⟩

end Mask

theorem maskSound_ends : MaskSound 1 ∧ MaskSound 32 :=
  ⟨(maskSound_iff 1 (by decide)).mpr (by decide),
    (maskSound_iff 32 (by decide)).mpr (by decide)⟩

/-- For a default route the shift is by 32 and has no defined result. -/
theorem defaultRoute_not_maskSound :
    shiftAmount 0 = 32 ∧ definedMask 0 = none ∧ ¬MaskSound 0 :=
  ⟨rfl, rfl, fun sound => absurd sound.amount (by decide)⟩

end Rsvpd
