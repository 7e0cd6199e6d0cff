import Rsvpd.Lib.CString
import Rsvpd.TreeMap

/-!
# Listing a tree in a buffer

`display_tree` appends one line for each record to a buffer of a fixed size.
It measures the space left at every node and returns early where there is
none; what it leaves is the initial content with all lines, cut once at the
end of the buffer.
-/

namespace Rsvpd

open CString (Byte Text Holds)

/-- `inet_ntop` of an IPv4 address in network order. -/
def inetNtop (address : InAddr) : Text 15 :=
  Text.u8 (address.sAddr.extractLsb' 0 8) ++ Text.literal "." (by decide) ++
    Text.u8 (address.sAddr.extractLsb' 8 8) ++
    Text.literal "." (by decide) ++
    Text.u8 (address.sAddr.extractLsb' 16 8) ++
    Text.literal "." (by decide) ++
    Text.u8 (address.sAddr.extractLsb' 24 8)

/-- The line of `display_tree` for a path record.  A stored name ends within
its array. -/
def pathLine (p : PathMsg) : Text 255 :=
  (Text.literal "Tunnel ID: " (by decide) ++ Text.u16 p.tunnelId ++
    Text.literal ", Src: " (by decide) ++ inetNtop p.srcIp ++
    Text.literal ", Dst: " (by decide) ++ inetNtop p.destIp ++
    Text.literal ", NextHop: " (by decide) ++ inetNtop p.nexthopIp ++
    Text.literal ", Name: " (by decide) ++ Text.ofArray p.name.toList ++
    Text.literal "\n" (by decide)).weaken (by simp)

/-- What `display_tree` prints of a reservation record. -/
structure ResvLine where
  tunnelId : U16
  srcIp : InAddr
  destIp : InAddr
  nexthopIp : InAddr
  inLabel : U32
  outLabel : U32
deriving DecidableEq

/-- The arguments of the line for a reservation record. -/
def resvLine (r : ResvMsg) : ResvLine :=
  { tunnelId := r.tunnelId
    srcIp := r.srcIp
    destIp := r.destIp
    nexthopIp := r.nexthopIp
    inLabel := ntohl r.inLabel
    outLabel := ntohl r.outLabel }

def ResvLine.text (line : ResvLine) : Text 255 :=
  (Text.literal "Tunnel ID: " (by decide) ++ Text.u16 line.tunnelId ++
    Text.literal ", Src: " (by decide) ++ inetNtop line.srcIp ++
    Text.literal ", Dest: " (by decide) ++ inetNtop line.destIp ++
    Text.literal ", Next Hop: " (by decide) ++ inetNtop line.nexthopIp ++
    Text.literal ", In_label: " (by decide) ++ Text.i32 line.inLabel ++
    Text.literal ", Out_label: " (by decide) ++ Text.i32 line.outLabel ++
    Text.literal "\n" (by decide)).weaken (by decide)

/-- A record and the line that the `msg` flag selects for it. -/
class Listed (α : Type) extends Record α where
  line : α → Text 255

instance : Listed PathMsg where
  line := pathLine

instance : Listed ResvMsg where
  line r := (resvLine r).text

section

variable {α : Type} [Listed α]

/-- `display_tree`; the buffer is the list of its `buffer_size` bytes. -/
def displayTree : DbNode α → List Byte → Option (List Byte)
  | .null, buffer => some buffer
  | .node data left right _, buffer => do
      let buffer ← displayTree left buffer
      let currentLen ← CString.strlen buffer
      let remainingSize := buffer.length - currentLen
      if remainingSize ≤ 1 then
        return buffer
      else
        let temp := (Listed.line data).bytes.take 255
        let buffer ← CString.strncat buffer temp (remainingSize - 1)
        let buffer ← CString.store buffer (buffer.length - 1) 0
        displayTree right buffer

def lines (records : List α) : List Byte :=
  records.flatMap fun record => (Listed.line record).bytes

/-- The buffer keeps its size and holds as much of a text as fits. -/
def Fills (buffer : List Byte) (result : Option (List Byte))
    (text : List Byte) : Prop :=
  ∃ buffer', result = some buffer' ∧ buffer'.length = buffer.length ∧
    Holds buffer' (text.take (buffer.length - 1))

omit [Listed α] in
theorem take_append_take (first second : List Byte) (size : Nat) :
    (first.take size ++ second).take size = (first ++ second).take size := by
  have left : size - min size first.length = size - first.length := by omega
  rw [List.take_append, List.take_append, List.take_take, Nat.min_self,
    List.length_take, left]

theorem displayTree_fills (tree : DbNode α) {buffer text : List Byte}
    (holds : Holds buffer text) :
    Fills buffer (displayTree tree buffer) (text ++ lines tree.toList) := by
  induction tree generalizing buffer text with
  | null =>
      have := holds.length_lt
      refine ⟨buffer, rfl, rfl, ?_⟩
      rw [HeightTree.toList_null, lines, List.flatMap_nil, List.append_nil,
        List.take_of_length_le (by omega)]
      exact holds
  | node data left right height ihLeft ihRight =>
      obtain ⟨buffer1, shown1, size1, holds1⟩ := ihLeft holds
      have length1 := CString.strlen_holds holds1
      have split : text ++ lines (HeightTree.node data left right height
          ).toList = text ++ lines left.toList ++
            ((Listed.line data).bytes ++ lines right.toList) := by
        simp [lines]
      rw [split]
      generalize text ++ lines left.toList = before at *
      have within := holds1.length_lt
      simp only [displayTree, shown1, length1, Option.bind_eq_bind,
        Option.bind_some]
      by_cases full : buffer1.length -
          (before.take (buffer.length - 1)).length ≤ 1
      · -- The early return: nothing of the later lines would fit.
        rw [if_pos full]
        rw [size1, List.length_take] at full
        rw [List.length_take, size1] at within
        refine ⟨buffer1, rfl, size1, ?_⟩
        rwa [List.take_append_of_le_length (by omega)]
      · rw [if_neg full]
        have room : before.length < buffer.length - 1 := by
          rw [size1, List.length_take] at full
          omega
        rw [List.take_of_length_le (Nat.le_of_lt room)] at holds1 full ⊢
        have whole : (Listed.line data).bytes.take 255 =
            (Listed.line data).bytes :=
          List.take_of_length_le (Listed.line data).short
        rw [whole]
        obtain ⟨buffer2, shown2, size2, holds2⟩ :=
          CString.strncat_holds holds1 (Listed.line data).noZero
            (buffer1.length - before.length - 1) (by omega)
        obtain ⟨buffer3, shown3, size3, holds3⟩ :=
          CString.store_last_holds holds2
        obtain ⟨buffer4, shown4, size4, holds4⟩ := ihRight holds3
        simp only [shown2, Option.bind_some, shown3]
        refine ⟨buffer4, shown4, by omega, ?_⟩
        have size : buffer3.length = buffer.length := by omega
        have cut : before ++ (Listed.line data).bytes.take
            (buffer1.length - before.length - 1) =
              (before ++ (Listed.line data).bytes).take
                (buffer.length - 1) := by
          rw [List.take_append, List.take_of_length_le (Nat.le_of_lt room)]
          congr 2
          omega
        rw [size, cut, take_append_take, List.append_assoc] at holds4
        exact holds4

/-- `display_tree` leaves the initial content and the lines of all records in
increasing tunnel id, cut at the end of the buffer; it reads and writes only
inside the buffer. -/
theorem displayTree_lists (tree : DbNode α) (ordered : Ordered tree)
    (buffer text : List Byte) (holds : Holds buffer text) (records : List α)
    (all : records.Perm tree.toList)
    (increasing : KeyedList.Ascending Record.key records) :
    Fills buffer (displayTree tree buffer) (text ++ lines records) ∧
      ∀ record ∈ records, (Listed.line record).bytes.length < 256 := by
  have same : records = tree.toList :=
    all.eq_of_pairwise (fun first second _ _ less greater =>
      absurd less (Nat.lt_asymm greater)) increasing ordered
  rw [same]
  exact ⟨displayTree_fills tree holds,
    fun record _ => Nat.lt_succ_of_le (Listed.line record).short⟩

end

def labelled (tunnelId : U16) (inLabel outLabel : U32) : ResvMsg :=
  { (default : ResvMsg) with
    tunnelId := tunnelId, inLabel := inLabel, outLabel := outLabel }

/-- A buffer that is too small for the lines of two records. -/
theorem twoLines_cut :
    Fills (List.replicate 100 0)
      (displayTree (.node (labelled 1 16 3) .null
        (.node (labelled 2 17 16) .null .null 1) 2) (List.replicate 100 0))
      ([] ++ lines [labelled 1 16 3, labelled 2 17 16]) := by
  refine (displayTree_lists _ ?_ _ [] ⟨by simp, List.replicate 99 0, rfl⟩ _
    (List.Perm.refl _) ?_).1 <;>
  simp [Ordered, KeyedList.Ascending, Record.key, Record.tunnelId, labelled]

end Rsvpd
