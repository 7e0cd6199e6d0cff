import Rsvpd.RouteWalk

/-!
# The route of a lookup and the longest prefix

`get_route_dump_response` returns at the first route that `print_route` takes.
That is the route of the longest prefix when no later one is longer.
-/

namespace Rsvpd

abbrev LongestMatch (dstIp : InAddr) (messages : List NlMsg) (h : NlMsg) :
    Prop :=
  Prefix.Longest (NlMsg.Covers dstIp) (fun h => h.rtmDstLen.toNat) messages h

/-- The next hop, the device and the prefix length of the answer are those of
such a route. -/
def AnswersLongest (ifIndextoname : U32 → String) (dstIp : InAddr)
    (messages : List NlMsg) (answer : NexthopAnswer) : Prop :=
  ∃ h, LongestMatch dstIp messages h ∧ answer.nhip = h.rtaGateway ∧
    answer.dev = h.device ifIndextoname ∧ answer.prefixLen = h.rtmDstLen

/-- No route behind the first covering one with a nonzero network covers the
address with a longer prefix. -/
def LongestFirst (dstIp : InAddr) (messages : List NlMsg) : Prop :=
  ∃ front h back, messages = front ++ h :: back ∧ h.Taken dstIp ∧
    (∀ earlier ∈ front, ¬earlier.Taken dstIp) ∧
    ∀ later ∈ back, later.Covers dstIp →
      later.rtmDstLen.toNat ≤ h.rtmDstLen.toNat

section Longest

variable {dstIp : InAddr} {h : NlMsg}

theorem NlMsg.WellFormed.length_lt_of_zero (formed : h.WellFormed)
    (covers : h.Covers dstIp) (nonzero : h.network ≠ .any) {other : NlMsg}
    (zero : other.network = .any) (coversOther : other.Covers dstIp) :
    other.rtmDstLen.toNat < h.rtmDstLen.toNat := by
  unfold NlMsg.Covers at covers coversOther
  rw [zero] at coversOther
  refine Prefix.Shared.length_lt coversOther covers fun blank => nonzero ?_
  have masked := (and_prefixMask_eq_iff h.rtmDstLen h.network.sAddr 0).mpr
    blank
  rw [formed.network] at masked
  exact congrArg InAddr.mk (masked.trans BitVec.zero_and)

theorem longestMatch_iff {front back : List NlMsg}
    (formed : h.WellFormed) (forwards : ∀ earlier ∈ front, earlier.Forwards)
    (missed : ∀ earlier ∈ front, ¬earlier.Taken dstIp)
    (taken : h.Taken dstIp) :
    LongestMatch dstIp (front ++ h :: back) h ↔
      ∀ later ∈ back, later.Covers dstIp →
        later.rtmDstLen.toNat ≤ h.rtmDstLen.toNat := by
  apply Prefix.longest_split_iff taken.2.1
  intro earlier member covers
  have zero : earlier.network = .any := by
    by_contra nonzero
    exact missed earlier member ⟨forwards earlier member, covers, nonzero⟩
  exact Nat.le_of_lt
    (formed.length_lt_of_zero taken.2.1 taken.2.2 zero covers)

end Longest

/-- A lookup answers with the longest prefix exactly when the first route that
it takes has no longer one behind it. -/
theorem answersLongest_iff {messages : List NlMsg} {dstIp : InAddr}
    (formed : ∀ h ∈ messages, h.WellFormed)
    (forwards : ∀ h ∈ messages, h.Forwards)
    (covered : ∃ h ∈ messages, h.Covers dstIp ∧ h.network ≠ .any)
    (ifIndextoname : U32 → String) (stackAddr : InAddr)
    (caller : NexthopAnswer) (g : RouteGlobals) :
    AnswersLongest ifIndextoname dstIp messages
        (getNexthop ifIndextoname stackAddr (.reply (.datagram messages))
          caller dstIp g).1 ↔
      LongestFirst dstIp messages := by
  constructor
  · rintro ⟨longest, best, _, _, sameLength⟩
    have taken : ∃ h ∈ messages, h.Taken dstIp := by
      obtain ⟨h, member, covers⟩ := covered
      exact ⟨h, member, forwards h member, covers⟩
    obtain ⟨front, h, back, rfl, here, missed⟩ := exists_first_taken taken
    simp only [List.forall_mem_append, List.forall_mem_cons]
      at formed forwards
    rw [getNexthop_taken ifIndextoname stackAddr caller dstIp g formed.1
      missed formed.2.1 here] at sameLength
    have same : h.rtmDstLen.toNat = longest.rtmDstLen.toNat :=
      congrArg BitVec.toNat sameLength
    have best := best.of_length_eq List.mem_append_cons_self here.2.1 same
    exact ⟨front, h, back, rfl, here, missed,
      (longestMatch_iff formed.2.1 forwards.1 missed here).mp best⟩
  · rintro ⟨front, h, back, rfl, here, missed, behind⟩
    simp only [List.forall_mem_append, List.forall_mem_cons]
      at formed forwards
    refine ⟨h, (longestMatch_iff formed.2.1 forwards.1 missed here).mpr
      behind, ?_⟩
    rw [getNexthop_taken ifIndextoname stackAddr caller dstIp g formed.1
      missed formed.2.1 here]
    exact ⟨rfl, rfl, rfl⟩

theorem longer_route_found :
    AnswersLongest (fun _ => "eth0") ⟨htonl 0x0A010101⟩
      [tenOneNetwork, tenNetwork]
      (sampleLookup [tenOneNetwork, tenNetwork] ⟨htonl 0x0A010101⟩) := by
  refine (answersLongest_iff ?_ ?_ ?_ _ _ _ _).mpr ?_
  · simp only [List.forall_mem_cons, List.not_mem_nil, false_implies,
      implies_true, and_true]
    exact ⟨tenOneNetwork_wellFormed, tenNetwork_wellFormed⟩
  · decide
  · exact ⟨tenNetwork, by simp, by decide, by decide⟩
  · exact ⟨[], tenOneNetwork, [tenNetwork], rfl, by decide, by simp,
      by decide⟩

/-- With the shorter one first, `10.1.1.1` is looked up as `10.0.0.0/8`. -/
theorem shorter_route_found :
    (∀ h ∈ [tenNetwork, tenOneNetwork], h.WellFormed ∧ h.Forwards) ∧
      ¬AnswersLongest (fun _ => "eth0") ⟨htonl 0x0A010101⟩
        [tenNetwork, tenOneNetwork]
        (sampleLookup [tenNetwork, tenOneNetwork] ⟨htonl 0x0A010101⟩) := by
  constructor
  · simp only [List.forall_mem_cons, List.not_mem_nil, false_implies,
      implies_true, and_true]
    exact ⟨⟨tenNetwork_wellFormed, by decide⟩,
      ⟨tenOneNetwork_wellFormed, by decide⟩⟩
  · rintro ⟨h, longest, _, _, sameLength⟩
    have longer := longest.greatest tenOneNetwork (by simp) (by decide)
    have found : (8 : U8) = h.rtmDstLen := by
      rw [← sameLength]
      decide
    rw [← found] at longer
    exact absurd longer (by decide)

end Rsvpd
