import Rsvpd.RouteWalk

/-!
# Which node takes itself for the egress

`dst_reached` and `path_tree_insert` read a blank next hop as the end of the
tunnel.  The next hop is the one of the route that decided the walk, and a
route can lack it for many reasons.
-/

namespace Rsvpd

/-- The node owns the address: a local route covers it. -/
def Owned (dstIp : InAddr) (table : List NlMsg) : Prop :=
  ∃ h ∈ table, h.rtmType = rtnLocal ∧ h.Covers dstIp

/-- With this answer `dst_reached` says 1, or `path_tree_insert` stores the
next hop `0.0.0.0`. -/
def ReadAsEgress (dstIp : InAddr) (answer : NexthopAnswer) : Prop :=
  dstReached answer = 1 ∨
    ∃ env buffer p, (recvSessionObj buffer).dstIp = dstIp ∧
      env.insertRoute dstIp = answer ∧ newPathMsg env buffer = some p ∧
      p.nexthopIp = .any

/-- The tunnel ends only at its destination: a node that takes itself for the
egress owns the address. -/
def EndsAtOwner (dstIp : InAddr) (table : List NlMsg)
    (answer : NexthopAnswer) : Prop :=
  ReadAsEgress dstIp answer → Owned dstIp table

/-- The route whose next hop is the answer: the first one that the walk takes,
or the last one. -/
def Decides (dstIp : InAddr) (messages : List NlMsg) (h : NlMsg) : Prop :=
  ∃ front back, messages = front ++ h :: back ∧
    (∀ earlier ∈ front, ¬earlier.Taken dstIp) ∧
    (h.Taken dstIp ∨ back = [])

/-- The dump is empty, or its deciding route is of a type that is read and has
a gateway. -/
def LeavesHop (dstIp : InAddr) (messages : List NlMsg) : Prop :=
  messages = [] ∨ ∃ h, Decides dstIp messages h ∧ h.Forwards ∧
    h.rtaGateway ≠ none

theorem dstReached_eq_one {answer : NexthopAnswer} :
    dstReached answer = 1 ↔ answer.ret ≠ 0 ∧ answer.nhip = none := by
  unfold dstReached
  split
  case isTrue routed =>
    rw [and_iff_right routed]
    cases answer.nhip <;> simp
  case isFalse failed =>
    exact iff_of_false (by decide) fun both => failed both.1

theorem ReadAsEgress.routed {dstIp : InAddr} {answer : NexthopAnswer}
    (taken : ReadAsEgress dstIp answer) : answer.ret ≠ 0 := by
  rcases taken with reached | ⟨env, buffer, p, same, answered, built, _⟩
  · exact (dstReached_eq_one.mp reached).1
  · have routed := (newPathMsg_nexthopIp built).1
    rwa [same, answered] at routed

theorem readAsEgress_iff {dstIp : InAddr} {answer : NexthopAnswer}
    (gateway : answer.nhip ≠ some .any) :
    ReadAsEgress dstIp answer ↔ answer.ret ≠ 0 ∧ answer.nhip = none := by
  rw [ReadAsEgress, dstReached_eq_one, or_iff_left_iff_imp]
  rintro ⟨env, buffer, p, same, answered, built, blank⟩
  obtain ⟨routed, nexthop⟩ := newPathMsg_nexthopIp built
  rw [same, answered] at routed nexthop
  refine ⟨routed, ?_⟩
  cases hop : answer.nhip with
  | none => rfl
  | some nhip =>
      rw [hop, Option.getD_some, blank] at nexthop
      rw [hop, ← nexthop] at gateway
      exact absurd rfl gateway

theorem Decides.mem {dstIp : InAddr} {messages : List NlMsg} {h : NlMsg}
    (decides : Decides dstIp messages h) : h ∈ messages := by
  obtain ⟨front, back, rfl, _⟩ := decides
  exact List.mem_append_cons_self

theorem exists_decides (dstIp : InAddr) {messages : List NlMsg}
    (nonempty : messages ≠ []) : ∃ h, Decides dstIp messages h := by
  by_cases taken : ∃ h ∈ messages, h.Taken dstIp
  · obtain ⟨front, h, back, shape, here, missed⟩ := exists_first_taken taken
    exact ⟨h, front, back, shape, missed, .inl here⟩
  · push Not at taken
    have shape := (List.dropLast_append_getLast nonempty).symm
    refine ⟨messages.getLast nonempty, messages.dropLast, [], shape,
      fun earlier member => ?_, .inr rfl⟩
    exact taken earlier (List.dropLast_subset messages member)

section Lookup

variable (ifIndextoname : U32 → String) (stackAddr : InAddr)
  (caller : NexthopAnswer) (g : RouteGlobals) {dstIp : InAddr}
  {messages : List NlMsg} {h : NlMsg}

theorem getNexthop_decided (formed : ∀ h ∈ messages, h.WellFormed)
    (decides : Decides dstIp messages h) :
    (getNexthop ifIndextoname stackAddr (.reply (.datagram messages)) caller
      dstIp g).1.nhip = if h.Forwards then h.rtaGateway else none := by
  obtain ⟨front, back, rfl, missed, decided⟩ := decides
  simp only [List.forall_mem_append, List.forall_mem_cons] at formed
  by_cases taken : h.Taken dstIp
  · rw [getNexthop_taken ifIndextoname stackAddr caller dstIp g formed.1
      missed formed.2.1 taken, if_pos taken.1]
    rfl
  · rw [or_iff_right taken] at decided
    rw [decided]
    exact getNexthop_missed ifIndextoname stackAddr caller dstIp g formed.1
      missed formed.2.1 taken

theorem getNexthop_readAsEgress_iff
    (formed : ∀ h ∈ messages, h.WellFormed) :
    ReadAsEgress dstIp (getNexthop ifIndextoname stackAddr
        (.reply (.datagram messages)) caller dstIp g).1 ↔
      ¬LeavesHop dstIp messages := by
  have found := getNexthop_ret ifIndextoname stackAddr
    (.reply (.datagram messages)) caller dstIp g
  simp only [NetlinkOutcome.reply.injEq, DumpReply.datagram.injEq] at found
  by_cases empty : messages = []
  · refine iff_of_false ?_ (not_not_intro (.inl empty))
    exact fun taken => taken.routed (found.mpr empty)
  · obtain ⟨h, decides⟩ := exists_decides dstIp empty
    have hop := getNexthop_decided ifIndextoname stackAddr caller g formed
      decides
    have gateway := (formed h decides.mem).gateway
    rw [readAsEgress_iff (by rw [hop]; split <;> simp [gateway]),
      and_iff_right (mt found.mp empty)]
    constructor
    · rintro blank (empty' | ⟨other, decidesOther, forwards, leaves⟩)
      · exact empty empty'
      · rw [getNexthop_decided ifIndextoname stackAddr caller g formed
          decidesOther, if_pos forwards] at blank
        exact leaves blank
    · intro leavesNone
      rw [hop]
      split
      case isTrue forwards =>
        by_contra leaves
        exact leavesNone (.inr ⟨h, decides, forwards, leaves⟩)
      case isFalse => rfl

/-- The tunnel ends only at its destination exactly when the node owns the
address or the lookup leaves a next hop.  The routes of later datagrams are in
the table but never read. -/
theorem endsAtOwner_iff (formed : ∀ h ∈ messages, h.WellFormed)
    (later : List NlMsg) :
    EndsAtOwner dstIp (messages ++ later)
        (getNexthop ifIndextoname stackAddr (.reply (.datagram messages))
          caller dstIp g).1 ↔
      Owned dstIp (messages ++ later) ∨ LeavesHop dstIp messages := by
  rw [EndsAtOwner, getNexthop_readAsEgress_iff _ _ _ _ formed]
  exact or_iff_not_imp_right.symm

end Lookup

theorem gateway_endsAtOwner :
    EndsAtOwner ⟨htonl 0x0A010101⟩ ([tenOneNetwork] ++ [])
      (sampleLookup [tenOneNetwork] ⟨htonl 0x0A010101⟩) := by
  refine (endsAtOwner_iff _ _ _ _ ?_ []).mpr (.inr (.inr ?_))
  · simpa using tenOneNetwork_wellFormed
  · exact ⟨tenOneNetwork, ⟨[], [], rfl, by simp, .inr rfl⟩, by decide,
      by decide⟩

/-- With a directly connected `10.0.0.0/8` as its only route, the node takes
itself for the egress of `10.1.1.1` on that subnet, and of `192.168.1.1` that
no route covers. -/
theorem connected_taken_for_egress :
    tenNetwork.WellFormed ∧
      ∀ dstIp ∈ [(⟨htonl 0x0A010101⟩ : InAddr), ⟨htonl 0xC0A80101⟩],
        ¬EndsAtOwner dstIp ([tenNetwork] ++ [])
          (sampleLookup [tenNetwork] dstIp) := by
  refine ⟨tenNetwork_wellFormed, fun dstIp member ends => ?_⟩
  have reached : ReadAsEgress dstIp (sampleLookup [tenNetwork] dstIp) := by
    left
    clear ends
    revert dstIp
    decide
  obtain ⟨h, listed, isLocal, _⟩ := ends reached
  rw [List.append_nil, List.mem_singleton] at listed
  rw [listed] at isLocal
  exact absurd isLocal (by decide)

end Rsvpd
