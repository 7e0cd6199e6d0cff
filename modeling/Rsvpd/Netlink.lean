import Rsvpd.Packet
import Rsvpd.Route
import Rsvpd.Lib.Records

/-!
# A dump datagram byte by byte

The loops of `route_dump.c` over the bytes that `rtnl_recvmsg` received, with
the macros of the Linux headers.  Pointers into the buffer are offsets, an
`int` is its 32 bits, and a function gives `none` where the C reads a header
outside of the received bytes or in freed memory, or stores outside of `tb`.
-/

namespace Rsvpd.Netlink

open Framing

def received (bytes : List U8) : Buffer := fun i => bytes.getD i 0

def read {α : Type} (load : Buffer → Nat → α) (size : Nat) (bytes : List U8)
    (at' : Nat) : Option α :=
  if at' + size ≤ bytes.length then some (load (received bytes) at') else none

def nlmsgLen (bytes : List U8) (h : Nat) : Option U32 := read load32 4 bytes h
def nlmsgType (bytes : List U8) (h : Nat) : Option U16 :=
  read load16 2 bytes (h + 4)
def nlmsgFlags (bytes : List U8) (h : Nat) : Option U16 :=
  read load16 2 bytes (h + 6)
def rtaLen (bytes : List U8) (rta : Nat) : Option U16 :=
  read load16 2 bytes rta
def rtaType (bytes : List U8) (rta : Nat) : Option U16 :=
  read load16 2 bytes (rta + 2)

/-- `NLMSG_ALIGN` and `RTA_ALIGN`. -/
def align (len : U32) : U32 := (len + 3) &&& ~~~3

/-- `NLMSG_OK` and `RTA_OK`: a header of `size` bytes is left, and it states a
length that is left.  One compares the length unsigned and the other signed,
which is the same behind the first test. -/
def recordOk (stated : Option U32) (size : Nat) (len : U32) : Option Bool :=
  if (size : Int) ≤ len.toInt then do
    let length ← stated
    return decide (size ≤ length.toNat) && decide (length ≤ len)
  else some false

/-- `NLMSG_NEXT` and `RTA_NEXT`: the next position and the rest of `len`. -/
def recordNext (stated : Option U32) (position : Nat) (len : U32) :
    Option (Nat × U32) := do
  let length ← stated
  return (position + (align length).toNat, len - align length)

def whileOk {α : Type} (ok : Option Bool) (body : ok = some true → Option α)
    (done : α) : Option α :=
  match ok, body with
  | none, _ => none
  | some false, _ => some done
  | some true, body => body rfl

theorem whileOk_true {α : Type} {ok : Option Bool} (more : ok = some true)
    (body : ok = some true → Option α) (done : α) :
    whileOk ok body done = body more := by
  subst more
  rfl

theorem whileOk_false {α : Type} {ok : Option Bool} (ended : ok = some false)
    (body : ok = some true → Option α) (done : α) :
    whileOk ok body done = some done := by
  subst ended
  rfl

def nlmsgOk (bytes : List U8) (h : Nat) (len : U32) : Option Bool :=
  recordOk (nlmsgLen bytes h) 16 len

def nlmsgNext (bytes : List U8) (h : Nat) (len : U32) :
    Option (Nat × U32) :=
  recordNext (nlmsgLen bytes h) h len

def rtaOk (bytes : List U8) (rta : Nat) (len : U32) : Option Bool :=
  recordOk ((rtaLen bytes rta).map (BitVec.setWidth 32)) 4 len

def rtaNext (bytes : List U8) (rta : Nat) (len : U32) :
    Option (Nat × U32) :=
  recordNext ((rtaLen bytes rta).map (BitVec.setWidth 32)) rta len

theorem align_eq (len : U32) : align len = ((len + 3) >>> 2) <<< 2 := by
  have mask : (~~~3 : U32) = BitVec.allOnes 32 <<< 2 := by decide
  rw [align, mask]
  apply BitVec.eq_of_getLsbD_eq
  intro i inside
  rw [BitVec.getLsbD_and, BitVec.getLsbD_shiftLeft,
    BitVec.getLsbD_shiftLeft, BitVec.getLsbD_allOnes,
    BitVec.getLsbD_ushiftRight]
  by_cases low : i < 2
  · simp only [low, decide_true, Bool.not_true, Bool.and_false,
      Bool.false_and]
  · have back : 2 + (i - 2) = i := by omega
    have word : i - 2 < 32 := by omega
    simp only [low, inside, word, back, decide_true, decide_false,
      Bool.not_false, Bool.and_true, Bool.true_and]

theorem align_toNat {len : U32} (bound : len.toNat < 2 ^ 31) :
    (align len).toNat = (len.toNat + 3) / 4 * 4 := by
  rw [align_eq, BitVec.toNat_shiftLeft, BitVec.toNat_ushiftRight,
    BitVec.toNat_add, Nat.shiftLeft_eq, Nat.shiftRight_eq_div_pow]
  simp
  omega

theorem sub_align_toInt {len stated : U32}
    (within : (stated.toNat : Int) ≤ len.toInt) :
    (len - align stated).toInt = len.toInt - (align stated).toNat := by
  have word := len.isLt
  have statedWord := stated.isLt
  rw [BitVec.toInt_eq_toNat_cond] at within
  have positive : 2 * len.toNat < 2 ^ 32 := by
    split_ifs at within with small
    · exact small
    · omega
  rw [if_pos positive] at within
  have aligned : (align stated).toNat = (stated.toNat + 3) / 4 * 4 :=
    align_toNat (by omega)
  rw [BitVec.toInt_eq_toNat_cond, BitVec.toInt_eq_toNat_cond,
    BitVec.toNat_sub, aligned]
  split_ifs <;> omega

theorem recordOk_true {stated : Option U32} {size : Nat} {len : U32}
    (ok : recordOk stated size len = some true) :
    ∃ length, stated = some length ∧ size ≤ length.toNat ∧
      (length.toNat : Int) ≤ len.toInt := by
  unfold recordOk at ok
  split_ifs at ok with room
  case neg => exact absurd ok nofun
  cases stated with
  | none => exact absurd ok nofun
  | some length =>
      simp only [Option.bind_eq_bind, Option.bind_some, Option.pure_def,
        Option.some.injEq, Bool.and_eq_true, decide_eq_true_eq,
        BitVec.le_def] at ok
      obtain ⟨long, within⟩ := ok
      refine ⟨length, rfl, long, ?_⟩
      rw [BitVec.toInt_eq_toNat_cond] at room ⊢
      split_ifs at room ⊢ <;> omega

theorem recordNext_shrinks {stated : Option U32} {size position : Nat}
    {len rest : U32} {behind : Nat} (positive : 0 < size)
    (ok : recordOk stated size len = some true)
    (next : recordNext stated position len = some (behind, rest)) :
    rest.toInt.toNat < len.toInt.toNat := by
  obtain ⟨length, rfl, long, within⟩ := recordOk_true ok
  cases next
  have word := (len : U32).toInt_lt
  have aligned : (align length).toNat = (length.toNat + 3) / 4 * 4 :=
    align_toNat (by omega)
  rw [sub_align_toInt within]
  omega

/-- The table `tb`, and the attributes that the loop has visited. -/
structure Attributes where
  tb : List (Option Nat)
  visited : List Nat

def storeTb (tb : List (Option Nat)) (slot rta : Nat) :
    Option (List (Option Nat)) :=
  if slot < tb.length then some (tb.set slot (some rta)) else none

def visitRtattr (bytes : List U8) (max rta : Nat) (seen : Attributes) :
    Option Attributes := do
  let type ← rtaType bytes rta
  let tb ←
    if type.toNat ≤ max then storeTb seen.tb type.toNat rta
    else some seen.tb
  return { tb := tb, visited := seen.visited ++ [rta] }

/-- The loop of `parse_rtattr`. -/
def rtattrLoop (bytes : List U8) (max rta : Nat) (len : U32)
    (seen : Attributes) : Option Attributes :=
  whileOk (rtaOk bytes rta len)
    (fun _ =>
      (visitRtattr bytes max rta seen).bind fun seen =>
        (rtaNext bytes rta len).pbind fun behind _ =>
          rtattrLoop bytes max behind.1 behind.2 seen)
    seen
termination_by len.toInt.toNat
decreasing_by
  exact recordNext_shrinks (by decide) ‹rtaOk _ _ _ = some true› ‹_›

/-- `parse_rtattr`, for a table with room for `max + 1` pointers. -/
def parseRtattr (bytes : List U8) (max rta : Nat) (len : U32) :
    Option Attributes :=
  rtattrLoop bytes max rta len
    { tb := List.replicate (max + 1) none, visited := [] }

def rtaMax : Nat := 30

/-- A message that the walk has visited, with its attributes where
`print_route` came to parse them. -/
structure Visit where
  h : Nat
  attributes : Option Attributes

/-- The return value of `get_route_dump_response`, and what it leaves. -/
structure Dump (State : Type) where
  ret : Int
  state : State
  visits : List Visit

section Messages

-- What `print_route` makes of a message and its table, with the variables it
-- sets; `none` where that is undefined.
variable {State : Type}
  (readRoute : Nat → List (Option Nat) → State → Option (Int × State))

def printRoute (bytes : List U8) (h : Nat) (s : State) :
    Option (Option Attributes × Int × State) := do
  let nlmsgLen ← nlmsgLen bytes h
  let len := nlmsgLen - BitVec.ofNat 32 nlmsgLengthRtmsg
  if len.toInt < 0 then
    return (none, 0, s)
  else
    let attributes ← parseRtattr bytes rtaMax (h + nlmsgLengthRtmsg) len
    let outcome ← readRoute h attributes.tb s
    return (some attributes, outcome)

/-- The body of the loop in `get_route_dump_response`: the message, what the
function returns if it returns here, and the variables. -/
def visitMessage (bytes : List U8) (h : Nat) (s : State) :
    Option (Visit × Option Int × State) := do
  let flags ← nlmsgFlags bytes h
  if flags &&& nlmFDumpIntr ≠ 0 then
    return ({ h, attributes := none }, some (-1), s)
  else
    let type ← nlmsgType bytes h
    -- An `NLMSG_ERROR` frees the buffer, and nothing leaves the loop.
    let bytes := if type = nlmsgError then [] else bytes
    let (attributes, found, s) ← printRoute readRoute bytes h s
    return ({ h, attributes }, if found ≠ 0 then some 1 else none, s)

/-- The loop of `get_route_dump_response`. -/
def messageLoop (bytes : List U8) (status : Int) (h : Nat) (msglen : U32)
    (visits : List Visit) (s : State) : Option (Dump State) :=
  whileOk (nlmsgOk bytes h msglen)
    (fun _ =>
      (visitMessage readRoute bytes h s).bind fun (visit, returned, s) =>
        match returned with
        | some ret => some { ret, state := s, visits := visits ++ [visit] }
        | none =>
            (nlmsgNext bytes h msglen).pbind fun behind _ =>
              messageLoop bytes status behind.1 behind.2 (visits ++ [visit])
                s)
    { ret := status, state := s, visits }
termination_by msglen.toInt.toNat
decreasing_by
  exact recordNext_shrinks (by decide) ‹nlmsgOk _ _ _ = some true› ‹_›

/-- The `int` that `recv` returns for a datagram. -/
def recvStatus (bytes : List U8) : U32 := BitVec.ofNat 32 bytes.length

/-- What the socket gives: an error, or a datagram. -/
inductive RecvReply where
  | failed (status : U32) (negative : status.toInt < 0)
  | datagram (bytes : List U8)

def getRouteDumpResponse (reply : RecvReply) (s : State) :
    Option (Dump State) :=
  match reply with
  -- `rtnl_recvmsg` leaves `buf` unset, and it is freed.
  | .failed _ _ => none
  | .datagram bytes =>
      if (recvStatus bytes).toInt < 0 then none
      else messageLoop readRoute bytes (recvStatus bytes).toInt 0
        (recvStatus bytes) [] s

end Messages

end Rsvpd.Netlink
