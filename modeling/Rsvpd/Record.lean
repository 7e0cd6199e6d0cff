import Mathlib.Tactic.Common

/-!
# Records of the RSVP daemon

The fixed-width types of the source are bit vectors.  An `InAddr` holds
`s_addr` as a little-endian host loads it from memory, so network byte order
is explicit: `htons` and `htonl` reverse the bytes.
-/

namespace Rsvpd

abbrev U8 := BitVec 8
abbrev U16 := BitVec 16
abbrev U32 := BitVec 32

/-- `struct in_addr`. -/
structure InAddr where
  sAddr : U32
deriving DecidableEq, Inhabited

/-- The address that `inet_ntoa` prints as `0.0.0.0`. -/
def InAddr.any : InAddr := ⟨0⟩

/-- `htons` on a little-endian host. -/
def htons (x : U16) : U16 := x.extractLsb' 0 8 ++ x.extractLsb' 8 8

/-- `ntohs` is the same byte swap. -/
def ntohs (x : U16) : U16 := htons x

/-- `htonl` on a little-endian host. -/
def htonl (x : U32) : U32 :=
  x.extractLsb' 0 8 ++ x.extractLsb' 8 8 ++
    x.extractLsb' 16 8 ++ x.extractLsb' 24 8

/-- `ntohl` is the same byte swap. -/
def ntohl (x : U32) : U32 := htonl x

/-- `path_msg`.  `name` is the 32-byte array, `dev` the C string. -/
structure PathMsg where
  srcIp : InAddr
  destIp : InAddr
  nexthopIp : InAddr
  pSrcip : InAddr
  eSrcip : InAddr
  tunnelId : U16
  ifh : U32
  interval : U32
  prefixLen : U8
  setupPriority : U8
  holdPriority : U8
  flags : U8
  lspId : U16
  dev : String
  name : Vector U8 32
deriving DecidableEq, Inhabited

structure ResvMsg where
  srcIp : InAddr
  destIp : InAddr
  nexthopIp : InAddr
  pSrcip : InAddr
  eSrcip : InAddr
  tunnelId : U16
  ifh : U32
  interval : U32
  inLabel : U32
  outLabel : U32
  lspId : U16
  dev : String
  prefixLen : U8
deriving DecidableEq, Inhabited

/-- `struct session` without its `next` pointer: a session list is a `List`.
`sender` and `receiver` are dotted-quad strings, kept as addresses. -/
structure Session where
  sender : InAddr
  receiver : InAddr
  tunnelId : U16
  del : U8
  dest : U8
  lastPathTime : Int
deriving DecidableEq

/-- The comparators subtract two `uint16_t` that C promotes to `int`. -/
def compareTunnelId (first second : U16) : Int :=
  (first.toNat : Int) - (second.toNat : Int)

def comparePathInsert (a b : PathMsg) : Int :=
  compareTunnelId a.tunnelId b.tunnelId

def compareResvInsert (a b : ResvMsg) : Int :=
  compareTunnelId a.tunnelId b.tunnelId

def comparePathDel (tunnelId : U16) (b : PathMsg) : Int :=
  compareTunnelId tunnelId b.tunnelId

def compareResvDel (tunnelId : U16) (b : ResvMsg) : Int :=
  compareTunnelId tunnelId b.tunnelId

/-- What the tree functions are given for one kind of record: the comparator
of `insert_node`, the comparator of `delete_node` and `search_node`, and the
`tunnel_id` read through the cast that the `msg` flag selects. -/
class Record (α : Type) where
  tunnelId : α → U16
  compareInsert : α → α → Int
  compareDel : U16 → α → Int
  compareInsert_eq : ∀ a b,
    compareInsert a b = compareTunnelId (tunnelId a) (tunnelId b)
  compareDel_eq : ∀ target b,
    compareDel target b = compareTunnelId target (tunnelId b)

instance : Record PathMsg where
  tunnelId := PathMsg.tunnelId
  compareInsert := comparePathInsert
  compareDel := comparePathDel
  compareInsert_eq _ _ := rfl
  compareDel_eq _ _ := rfl

instance : Record ResvMsg where
  tunnelId := ResvMsg.tunnelId
  compareInsert := compareResvInsert
  compareDel := compareResvDel
  compareInsert_eq _ _ := rfl
  compareDel_eq _ _ := rfl

/-- The position of a record in its tree. -/
def Record.key {α : Type} [Record α] (record : α) : Nat :=
  (Record.tunnelId record).toNat

section Comparators

variable {α : Type} [Record α]

theorem compareInsert_neg (a b : α) :
    Record.compareInsert a b < 0 ↔ Record.key a < Record.key b := by
  rw [Record.compareInsert_eq, compareTunnelId, Record.key, Record.key]
  omega

theorem compareInsert_pos (a b : α) :
    0 < Record.compareInsert a b ↔ Record.key b < Record.key a := by
  rw [Record.compareInsert_eq, compareTunnelId, Record.key, Record.key]
  omega

theorem compareDel_neg (target : U16) (b : α) :
    Record.compareDel target b < 0 ↔ target.toNat < Record.key b := by
  rw [Record.compareDel_eq, compareTunnelId, Record.key]
  omega

theorem compareDel_pos (target : U16) (b : α) :
    0 < Record.compareDel target b ↔ Record.key b < target.toNat := by
  rw [Record.compareDel_eq, compareTunnelId, Record.key]
  omega

theorem compareDel_eq_zero (target : U16) (b : α) :
    Record.compareDel target b = 0 ↔ target.toNat = Record.key b := by
  rw [Record.compareDel_eq, compareTunnelId, Record.key]
  omega

theorem key_eq_of_compareDel {target : U16} {b : α}
    (notBelow : ¬Record.compareDel target b < 0)
    (notAbove : ¬Record.compareDel target b > 0) :
    target.toNat = Record.key b := by
  rw [← compareDel_eq_zero]
  exact Int.le_antisymm (Int.not_lt.mp notAbove) (Int.not_lt.mp notBelow)

end Comparators

theorem append_bytes16 (x : U16) :
    x.extractLsb' 8 8 ++ x.extractLsb' 0 8 = x :=
  BitVec.extractLsb'_append_extractLsb'

theorem append_bytes32 (x : U32) :
    x.extractLsb' 24 8 ++ x.extractLsb' 16 8 ++ x.extractLsb' 8 8 ++
      x.extractLsb' 0 8 = x := by
  rw [BitVec.extractLsb'_append_extractLsb'_eq_extractLsb'
      (rfl : 24 = 16 + 8),
    BitVec.extractLsb'_append_extractLsb'_eq_extractLsb'
      (rfl : 16 = 8 + 8)]
  exact BitVec.extractLsb'_append_extractLsb'

theorem htons_htons (x : U16) : htons (htons x) = x := by
  rw [htons, htons, BitVec.extractLsb'_append_eq_left,
    BitVec.extractLsb'_append_eq_right]
  exact append_bytes16 x

theorem htonl_htonl (x : U32) : htonl (htonl x) = x := by
  have restored : htonl (htonl x) =
      x.extractLsb' 24 8 ++ x.extractLsb' 16 8 ++ x.extractLsb' 8 8 ++
        x.extractLsb' 0 8 := by
    simp only [htonl, BitVec.extractLsb'_append_eq_ite]
    simp
  rw [restored, append_bytes32]

@[simp] theorem ntohl_htonl (x : U32) : ntohl (htonl x) = x := htonl_htonl x

@[simp] theorem ntohs_htons (x : U16) : ntohs (htons x) = x := htons_htons x

@[simp] theorem htons_ntohs (x : U16) : htons (ntohs x) = x := htons_htons x

end Rsvpd
