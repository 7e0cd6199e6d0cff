import Rsvpd.Display
import Rsvpd.Packet

/-!
# Addresses as text

`inet_ntop` writes an address in dotted decimal and `inet_pton` reads it back.
The strings that stand for something else, `" "` and the texts of other
addresses, are told apart from it.
-/

namespace Rsvpd

open CString (Byte Text)

/-- A digit behind what was read of an octet: no leading zero, and at most
255. -/
def octetDigit (octet : Option Nat) (digit : Nat) : Option Nat :=
  match octet with
  | none => some digit
  | some value =>
      if value = 0 then none
      else if 255 < value * 10 + digit then none
      else some (value * 10 + digit)

def digit? (ch : Byte) : Option Nat :=
  if 48 ≤ ch.toNat ∧ ch.toNat ≤ 57 then some (ch.toNat - 48) else none

/-- The loop of `inet_pton`, with the octets in front of a dot and what was
read behind it. -/
def inetPtonLoop : List Byte → List Nat → Option Nat → Option (List Nat)
  | [], octets, octet =>
      let read := octets ++ octet.toList
      if read.length < 4 then none else some read
  | ch :: src, octets, octet =>
      match digit? ch with
      | some digit =>
          if octet = none ∧ 4 < octets.length + 1 then none
          else do
            let value ← octetDigit octet digit
            inetPtonLoop src octets (some value)
      | none =>
          match octet with
          | none => none
          | some value =>
              if ch ≠ 46 then none
              else if octets.length + 1 = 4 then none
              else inetPtonLoop src (octets ++ [value]) none

/-- The address whose bytes lie in memory in this order. -/
def InAddr.ofOctets : List Nat → InAddr
  | [first, second, third, fourth] =>
      ⟨BitVec.ofNat 8 fourth ++ BitVec.ofNat 8 third ++
        BitVec.ofNat 8 second ++ BitVec.ofNat 8 first⟩
  | _ => .any

/-- `inet_pton`; `none` where it returns 0 and stores nothing. -/
def inetPton (src : List Byte) : Option InAddr :=
  (inetPtonLoop src [] none).map InAddr.ofOctets

def readDigit (octet : Option Nat) (ch : Byte) : Option (Option Nat) := do
  let digit ← digit? ch
  let value ← octetDigit octet digit
  return some value

theorem readDigit_u8 (number : U8) :
    (Text.u8 number).bytes.foldlM readDigit none =
      some (some number.toNat) := by
  revert number
  decide +kernel

theorem inetPtonLoop_digits {octets : List Nat} (room : octets.length < 4)
    {octet after : Option Nat} {digits : List Byte}
    (read : digits.foldlM readDigit octet = some after) (src : List Byte) :
    inetPtonLoop (digits ++ src) octets octet =
      inetPtonLoop src octets after := by
  induction digits generalizing octet with
  | nil =>
      cases read
      rfl
  | cons ch digits ih =>
      rw [List.foldlM_cons] at read
      obtain ⟨next, step, rest⟩ := Option.bind_eq_some_iff.mp read
      rw [readDigit] at step
      obtain ⟨digit, isDigit, step⟩ := Option.bind_eq_some_iff.mp step
      obtain ⟨value, fits, step⟩ := Option.bind_eq_some_iff.mp step
      cases step
      have below : ¬(octet = none ∧ 4 < octets.length + 1) := by omega
      have further := ih rest
      simp only [List.cons_append, inetPtonLoop, isDigit, if_neg below, fits,
        Option.bind_eq_bind, Option.bind_some]
      exact further

theorem inetPtonLoop_dot {octets : List Nat} (room : octets.length < 3)
    (number : U8) (src : List Byte) :
    inetPtonLoop ((Text.u8 number).bytes ++ 46 :: src) octets none =
      inetPtonLoop src (octets ++ [number.toNat]) none := by
  have more : octets.length + 1 ≠ 4 := by omega
  have dot : digit? 46 = none := by decide
  rw [inetPtonLoop_digits (by omega) (readDigit_u8 number)]
  simp only [inetPtonLoop, dot, ne_eq, not_true_eq_false, if_false,
    if_neg more]

def InAddr.octet (address : InAddr) (i : Nat) : U8 :=
  address.sAddr.extractLsb' (8 * i) 8

theorem inetNtop_bytes (address : InAddr) :
    (inetNtop address).bytes =
      (Text.u8 (address.octet 0)).bytes ++ 46 ::
        ((Text.u8 (address.octet 1)).bytes ++ 46 ::
          ((Text.u8 (address.octet 2)).bytes ++ 46 ::
            (Text.u8 (address.octet 3)).bytes)) := by
  have unfolded : (inetNtop address).bytes =
      (((((((Text.u8 (address.octet 0)).bytes ++ [46]) ++
        (Text.u8 (address.octet 1)).bytes) ++ [46]) ++
          (Text.u8 (address.octet 2)).bytes) ++ [46]) ++
            (Text.u8 (address.octet 3)).bytes) := rfl
  rw [unfolded]
  simp only [List.append_assoc, List.cons_append, List.nil_append]

theorem inetPton_inetNtop (address : InAddr) :
    inetPton (inetNtop address).bytes = some address := by
  have last := List.append_nil (Text.u8 (address.octet 3)).bytes
  have read : inetPtonLoop (inetNtop address).bytes [] none =
      some [(address.octet 0).toNat, (address.octet 1).toNat,
        (address.octet 2).toNat, (address.octet 3).toNat] := by
    rw [inetNtop_bytes, ← last, inetPtonLoop_dot (by simp),
      inetPtonLoop_dot (by simp), inetPtonLoop_dot (by simp),
      inetPtonLoop_digits (by simp) (readDigit_u8 _)]
    rfl
  rw [inetPton, read, Option.map_some, InAddr.ofOctets]
  simp only [BitVec.ofNat_toNat, BitVec.setWidth_eq]
  exact congrArg (fun word => some (InAddr.mk word))
    (append_bytes32 address.sAddr)

theorem inetNtop_injective {address other : InAddr}
    (same : (inetNtop address).bytes = (inetNtop other).bytes) :
    address = other := by
  have read := inetPton_inetNtop address
  rw [same, inetPton_inetNtop other] at read
  exact (Option.some.inj read).symm

def octetText (value : Nat) : List Byte :=
  (Text.u8 (BitVec.ofNat 8 value)).bytes

def octetsText (octets : List Nat) (octet : Option Nat) : List Byte :=
  octets.flatMap (fun value => octetText value ++ [46]) ++
    octet.elim [] octetText

theorem octetText_digit {ch : Byte} {digit : Nat}
    (read : digit? ch = some digit) :
    digit < 256 ∧ octetText digit = [ch] := by
  have all : ∀ ch : Byte, ∀ digit ∈ digit? ch,
      digit < 256 ∧ octetText digit = [ch] := by
    decide +kernel
  exact all ch digit read

theorem octetText_octetDigit {ch : Byte} {digit value next : Nat}
    (read : digit? ch = some digit)
    (allowed : octetDigit (some value) digit = some next) :
    next < 256 ∧ octetText value ++ [ch] = octetText next := by
  have all : ∀ value < 26, ∀ ch : Byte, ∀ digit ∈ digit? ch,
      ∀ next ∈ octetDigit (some value) digit,
        next < 256 ∧ octetText value ++ [ch] = octetText next := by
    decide +kernel
  refine all value ?_ ch digit read next allowed
  rw [octetDigit] at allowed
  split_ifs at allowed
  omega

theorem inetPtonLoop_accepts {src : List Byte} {octets : List Nat}
    {octet : Option Nat} {read : List Nat} (few : octets.length < 4)
    (small : ∀ value ∈ octets ++ octet.toList, value < 256)
    (accepted : inetPtonLoop src octets octet = some read) :
    ∃ front last, read = front ++ [last] ∧ front.length = 3 ∧
      (∀ value ∈ read, value < 256) ∧
      octetsText octets octet ++ src = octetsText front (some last) := by
  induction src generalizing octets octet with
  | nil =>
      rw [inetPtonLoop] at accepted
      split_ifs at accepted with short
      cases accepted
      cases octet with
      | none =>
          rw [Option.toList_none, List.append_nil] at short
          exact absurd few short
      | some value =>
          have three : octets.length = 3 := by
            rw [Option.toList_some, List.length_append,
              List.length_singleton] at short
            omega
          exact ⟨octets, value, rfl, three, small, List.append_nil _⟩
  | cons ch src ih =>
      cases digit : digit? ch with
      | some number =>
          simp only [inetPtonLoop, digit] at accepted
          split_ifs at accepted with full
          obtain ⟨next, allowed, rest⟩ := Option.bind_eq_some_iff.mp accepted
          have text : next < 256 ∧
              octetsText octets octet ++ [ch] =
                octetsText octets (some next) := by
            cases octet with
            | none =>
                cases allowed
                obtain ⟨below, same⟩ := octetText_digit digit
                refine ⟨below, ?_⟩
                simp only [octetsText, Option.elim_none, List.append_nil,
                  Option.elim_some, same]
            | some value =>
                obtain ⟨below, same⟩ := octetText_octetDigit digit allowed
                refine ⟨below, ?_⟩
                simp only [octetsText, Option.elim_some, List.append_assoc,
                  same]
          have small' : ∀ value ∈ octets ++ (some next).toList,
              value < 256 := by
            intro value member
            rcases List.mem_append.mp member with old | new
            · exact small value (List.mem_append_left _ old)
            · rw [Option.toList_some, List.mem_singleton] at new
              exact new ▸ text.1
          obtain ⟨front, last, shape, three, bound, spelled⟩ :=
            ih few small' rest
          refine ⟨front, last, shape, three, bound, ?_⟩
          rw [← spelled, ← text.2, List.append_assoc, List.singleton_append]
      | none =>
          cases octet with
          | none => simp [inetPtonLoop, digit] at accepted
          | some value =>
              simp only [inetPtonLoop, digit] at accepted
              split_ifs at accepted with other full
              rw [not_not] at other
              have few' : (octets ++ [value]).length < 4 := by
                rw [List.length_append, List.length_singleton]
                omega
              have small' : ∀ value' ∈ (octets ++ [value]) ++
                  (none : Option Nat).toList, value' < 256 := by
                rwa [Option.toList_none, List.append_nil]
              obtain ⟨front, last, shape, three, bound, spelled⟩ :=
                ih few' small' accepted
              refine ⟨front, last, shape, three, bound, ?_⟩
              rw [← spelled]
              simp [octetsText, other]

theorem octet_append (first second third fourth : U8) :
    let address : InAddr := ⟨fourth ++ third ++ second ++ first⟩
    address.octet 0 = first ∧ address.octet 1 = second ∧
      address.octet 2 = third ∧ address.octet 3 = fourth := by
  -- Under its own width the word is an append that can be taken apart.
  have parts : let word := fourth ++ third ++ second ++ first
      word.extractLsb' 0 8 = first ∧ word.extractLsb' 8 8 = second ∧
        word.extractLsb' 16 8 = third ∧ word.extractLsb' 24 8 = fourth := by
    refine ⟨?_, ?_, ?_, ?_⟩ <;> grind
  exact parts

theorem inetPton_eq_some {src : List Byte} {address : InAddr} :
    inetPton src = some address ↔ src = (inetNtop address).bytes := by
  constructor
  · intro accepted
    obtain ⟨read, loop, rfl⟩ := Option.map_eq_some_iff.mp accepted
    obtain ⟨front, last, rfl, three, _, spelled⟩ :=
      inetPtonLoop_accepts (by decide) (by simp) loop
    obtain ⟨first, second, third, rfl⟩ := List.length_eq_three.mp three
    obtain ⟨octet0, octet1, octet2, octet3⟩ :=
      octet_append (BitVec.ofNat 8 first) (BitVec.ofNat 8 second)
        (BitVec.ofNat 8 third) (BitVec.ofNat 8 last)
    rw [inetNtop_bytes, List.cons_append, List.cons_append, List.cons_append,
      List.nil_append, InAddr.ofOctets, octet0, octet1, octet2, octet3]
    simpa [octetsText, octetText] using spelled
  · rintro rfl
    exact inetPton_inetNtop address

/-- The strings of `route_dump.c`: an address, or the string of a space for a
missing one. -/
def addressText : Option InAddr → List Byte
  | none => [32]
  | some address => (inetNtop address).bytes

theorem inetPton_addressText (address : Option InAddr) :
    inetPton (addressText address) = address := by
  cases address with
  | none => decide
  | some address => exact inetPton_inetNtop address

theorem addressText_injective {address other : Option InAddr}
    (same : addressText address = addressText other) : address = other := by
  rw [← inetPton_addressText address, same, inetPton_addressText]

theorem length_addressText_lt (address : Option InAddr) :
    (addressText address).length < 16 := by
  cases address with
  | none => decide
  | some address => exact Nat.lt_succ_of_le (inetNtop address).short

end Rsvpd
