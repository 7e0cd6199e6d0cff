import Rsvpd.AdvertisedLabels
import Rsvpd.Display
import Rsvpd.Teardown

/-!
# The two listings of the reservation tree

`display_tree` and `display_tree_debug` walk the tree in the same order.  The
labels of a record are in host order; the first converts them as if they were
in network order, the second prints them as they are.
-/

namespace Rsvpd

open CString (Byte Holds)

/-- What `display_tree_debug` prints of a path record. -/
structure DebugPathLine where
  tunnelId : U16
  srcIp : InAddr
  destIp : InAddr
  nexthopIp : InAddr
  pSrcip : InAddr
  eSrcip : InAddr
deriving DecidableEq

structure DebugResvLine extends DebugPathLine where
  prefixLen : U8
  inLabel : U32
  outLabel : U32
deriving DecidableEq

/-- One message of `display_tree_debug`. -/
inductive DebugEntry where
  | noNodes
  | path (line : DebugPathLine)
  | resv (line : DebugResvLine)
deriving DecidableEq

def debugPathEntry (p : PathMsg) : DebugEntry :=
  .path
    { tunnelId := p.tunnelId
      srcIp := p.srcIp
      destIp := p.destIp
      nexthopIp := p.nexthopIp
      pSrcip := p.pSrcip
      eSrcip := p.eSrcip }

def debugResvEntry (r : ResvMsg) : DebugEntry :=
  .resv
    { tunnelId := r.tunnelId
      srcIp := r.srcIp
      destIp := r.destIp
      nexthopIp := r.nexthopIp
      pSrcip := r.pSrcip
      eSrcip := r.eSrcip
      prefixLen := r.prefixLen
      inLabel := r.inLabel
      outLabel := r.outLabel }

/-- `display_tree_debug`; the `msg` flag selects the entry of a record. -/
def displayTreeDebug {α : Type} (entry : α → DebugEntry) :
    DbNode α → List DebugEntry
  | .null => [.noNodes]
  | .node data left right _ =>
      displayTreeDebug entry left ++
        entry data :: displayTreeDebug entry right

abbrev LabelTriple := U16 × U32 × U32

def ResvLine.triple (line : ResvLine) : LabelTriple :=
  (line.tunnelId, line.inLabel, line.outLabel)

def DebugEntry.triple? : DebugEntry → Option LabelTriple
  | .resv line => some (line.tunnelId, line.inLabel, line.outLabel)
  | _ => none

def KernelRoute.outLabel? : KernelRoute → Option U32
  | .push _ _ outLabel _ _ => some outLabel
  | .pop _ _ _ => none
  | .swap _ outLabel _ => some outLabel

/-- The route names no other labels than those of the record. -/
def KernelRoute.Uses (inLabel outLabel : U32) (route : KernelRoute) : Prop :=
  (∀ label, route.inLabel? = some label → label = inLabel) ∧
    ∀ label, route.outLabel? = some label → label = outLabel

/-- A route of an `ip route` command that is composed for a record: one of
`receive_resv_message` or of `update_tables`. -/
def Commanded (p : ResvMsg) (route : KernelRoute) : Prop :=
  ∃ pa, route = addedRoute pa p ∨ removal pa p = .run route ∨
    removal pa p = .logged route

def displayedLines (tree : DbNode ResvMsg) : List ResvLine :=
  tree.toList.map resvLine

/-- The listings agree with each other and with the labels in use. -/
structure ListingsAgree (tree : DbNode ResvMsg) : Prop where
  /-- A buffer with enough space takes all lines of `display_tree`. -/
  printed : ∀ buffer text, Holds buffer text →
    (text ++ (displayedLines tree).flatMap (·.text.bytes)).length <
      buffer.length →
    ∃ buffer', displayTree tree buffer = some buffer' ∧
      Holds buffer' (text ++ (displayedLines tree).flatMap (·.text.bytes))
  same : (displayedLines tree).map ResvLine.triple =
    (displayTreeDebug debugResvEntry tree).filterMap DebugEntry.triple?
  /-- The number in the RESV, read as big-endian, is the printed one. -/
  sent : ∀ p ∈ tree.toList, ∀ stack,
    ntohl (fillResvPacket stack p).labelObj.label = (resvLine p).inLabel
  commanded : ∀ p ∈ tree.toList, ∀ route, Commanded p route →
    route.Uses (resvLine p).inLabel (resvLine p).outLabel

theorem debugTriples (tree : DbNode ResvMsg) :
    (displayTreeDebug debugResvEntry tree).filterMap DebugEntry.triple? =
      tree.toList.map fun r => (r.tunnelId, r.inLabel, r.outLabel) := by
  induction tree with
  | null => rfl
  | node data left right height ihLeft ihRight =>
      simp [displayTreeDebug, ihLeft, ihRight, debugResvEntry,
        DebugEntry.triple?]

theorem displayTree_printed (tree : DbNode ResvMsg)
    {buffer text : List Byte} (holds : Holds buffer text)
    (room : (text ++ (displayedLines tree).flatMap (·.text.bytes)).length <
      buffer.length) :
    ∃ buffer', displayTree tree buffer = some buffer' ∧
      Holds buffer'
        (text ++ (displayedLines tree).flatMap (·.text.bytes)) := by
  obtain ⟨buffer', shown, _, holds'⟩ := displayTree_fills tree holds
  have same : lines tree.toList =
      (displayedLines tree).flatMap (·.text.bytes) := by
    rw [displayedLines, List.flatMap_map]
    rfl
  rw [same, List.take_of_length_le (by omega)] at holds'
  exact ⟨buffer', shown, holds'⟩

section Uses

variable (inLabel outLabel : U32) (via : InAddr)

theorem uses_push (network : InAddr) (prefixLen : U8) (dev : String) :
    (KernelRoute.push network prefixLen outLabel via dev).Uses inLabel
      outLabel :=
  ⟨fun _ => nofun,
    fun _ names => (Option.some.inj names).symm⟩

theorem uses_pop (dev : String) :
    (KernelRoute.pop inLabel via dev).Uses inLabel outLabel :=
  ⟨fun _ names => (Option.some.inj names).symm,
    fun _ => nofun⟩

theorem uses_swap :
    (KernelRoute.swap inLabel outLabel via).Uses inLabel outLabel :=
  ⟨fun _ names => (Option.some.inj names).symm,
    fun _ names => (Option.some.inj names).symm⟩

end Uses

theorem commanded_uses {p : ResvMsg} {route : KernelRoute}
    (commanded : Commanded p route) : route.Uses p.inLabel p.outLabel := by
  obtain ⟨pa, rfl | run | logged⟩ := commanded
  · unfold addedRoute
    split_ifs
    · exact uses_push ..
    · exact uses_pop ..
    · exact uses_swap ..
  · unfold removal at run
    split_ifs at run
    · cases run
      exact uses_swap ..
    · cases run
      exact uses_pop ..
  · unfold removal at logged
    split_ifs at logged
    cases logged
    exact uses_push ..

/-- The listings agree exactly when both labels of every record read the same
with their bytes reversed. -/
theorem listingsAgree_iff (tree : DbNode ResvMsg) :
    ListingsAgree tree ↔
      ∀ p ∈ tree.toList,
        ntohl p.inLabel = p.inLabel ∧ ntohl p.outLabel = p.outLabel := by
  have triples : (displayedLines tree).map ResvLine.triple =
      tree.toList.map fun r =>
        (r.tunnelId, ntohl r.inLabel, ntohl r.outLabel) := by
    rw [displayedLines, List.map_map]
    rfl
  constructor
  · intro agree p member
    have same := agree.same
    rw [triples, debugTriples, List.map_inj_left] at same
    simpa using same p member
  · intro palindromes
    refine ⟨fun buffer text => displayTree_printed tree, ?_, ?_, ?_⟩
    · rw [triples, debugTriples, List.map_inj_left]
      intro p member
      rw [(palindromes p member).1, (palindromes p member).2]
    · intro p member stack
      exact (ntohl_htonl p.inLabel).trans (palindromes p member).1.symm
    · intro p member route commanded
      rw [resvLine, (palindromes p member).1, (palindromes p member).2]
      exact commanded_uses commanded

/-- A transit record in front of the egress: the label 16 is displayed as
268435456. -/
theorem firstLabel_listings :
    ((displayedLines (.node (labelled 1 16 3) .null .null 1)).map
        ResvLine.triple = [(1, 268435456, 50331648)]) ∧
      ¬ListingsAgree (.node (labelled 1 16 3) .null .null 1) := by
  refine ⟨by decide, fun agree => ?_⟩
  have same := agree.same
  rw [debugTriples] at same
  revert same
  decide

end Rsvpd
