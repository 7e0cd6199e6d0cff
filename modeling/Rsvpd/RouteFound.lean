import Rsvpd.Handlers

/-!
# When a lookup reports a route

`get_nexthop` tests the result of `get_route_dump_response` for being nonzero.
That result is 1 for a match, but also the byte count of a dump without one
and the negative status of a failure.
-/

namespace Rsvpd

/-- The message walk meets a route that covers the destination before it meets
the mark of an interrupted dump. -/
inductive Matched (stackAddr dstIp : InAddr) : List NlMsg → Prop
  | here {h : NlMsg} {rest : List NlMsg}
      (calm : h.nlmsgFlags &&& nlmFDumpIntr = 0)
      (covers : routeCovers stackAddr dstIp h = true) :
      Matched stackAddr dstIp (h :: rest)
  | later {h : NlMsg} {rest : List NlMsg}
      (calm : h.nlmsgFlags &&& nlmFDumpIntr = 0)
      (matched : Matched stackAddr dstIp rest) :
      Matched stackAddr dstIp (h :: rest)

/-- Some route of the dump matched the destination. -/
def RouteMatched (stackAddr dstIp : InAddr) (outcome : NetlinkOutcome) :
    Prop :=
  ∃ messages, outcome = .reply (.datagram messages) ∧
    Matched stackAddr dstIp messages

def Uncovered (stackAddr dstIp : InAddr) (outcome : NetlinkOutcome) : Prop :=
  ∀ messages, outcome = .reply (.datagram messages) →
    ∀ h ∈ messages, routeCovers stackAddr dstIp h = false

section Walk

variable (ifIndextoname : U32 → String) {stackAddr : InAddr} (status : Int)
  {messages : List NlMsg} {g : RouteGlobals}

theorem dumpLoop_matched (matched : Matched stackAddr g.destIp messages) :
    (dumpLoop ifIndextoname stackAddr status messages g).1 = 1 := by
  induction messages generalizing g with
  | nil => cases matched
  | cons h rest ih =>
      rw [dumpLoop]
      simp only [printRoute_ret]
      cases matched with
      | here calm covers => simp [calm, covers]
      | later calm matched =>
          have next := ih (g := (printRoute ifIndextoname stackAddr h g).2)
            (by rwa [printRoute_destIp])
          by_cases covers : routeCovers stackAddr g.destIp h = true
          · simp [calm, covers]
          · simpa [calm, covers] using next

theorem dumpLoop_unmatched
    (unmatched : ¬Matched stackAddr g.destIp messages) :
    (dumpLoop ifIndextoname stackAddr status messages g).1 = -1 ∨
      (dumpLoop ifIndextoname stackAddr status messages g).1 = status := by
  induction messages generalizing g with
  | nil => exact .inr rfl
  | cons h rest ih =>
      rw [dumpLoop]
      split
      case isTrue => exact .inl rfl
      case isFalse calm =>
        have calm : h.nlmsgFlags &&& nlmFDumpIntr = 0 := by
          simpa using calm
        have uncovered : ¬routeCovers stackAddr g.destIp h = true :=
          fun covers => unmatched (.here calm covers)
        simp only [printRoute_ret, uncovered, Bool.false_eq_true, if_false,
          ne_eq, not_true_eq_false]
        apply ih
        rw [printRoute_destIp]
        exact fun matched => unmatched (.later calm matched)

end Walk

/-- Every message takes at least its header, so only an empty dump has a byte
count of zero. -/
theorem byteCount_eq_zero {messages : List NlMsg} :
    (messages.map NlMsg.alignedLen).sum = 0 ↔ messages = [] := by
  cases messages with
  | nil => simp
  | cons h rest =>
      have fits := h.headerFits
      simp only [List.map_cons, List.sum_cons, NlMsg.alignedLen,
        reduceCtorEq, iff_false]
      omega

theorem getRouteDumpResponse_eq_zero (ifIndextoname : U32 → String)
    (stackAddr : InAddr) (reply : DumpReply) (g : RouteGlobals) :
    (getRouteDumpResponse ifIndextoname stackAddr reply g).1 = 0 ↔
      reply = .datagram [] := by
  cases reply with
  | failed status negative =>
      have nonzero : status ≠ 0 := by omega
      simp [getRouteDumpResponse, nonzero]
  | datagram messages =>
      rw [getRouteDumpResponse, DumpReply.datagram.injEq]
      by_cases matched : Matched stackAddr g.destIp messages
      · have nonempty : messages ≠ [] := by
          rintro rfl
          cases matched
        rw [dumpLoop_matched _ _ matched]
        simp [nonempty]
      · rcases dumpLoop_unmatched ifIndextoname
          ((messages.map NlMsg.alignedLen).sum : Nat) matched with
          failed | count
        · have nonempty : messages ≠ [] := by
            rintro rfl
            cases failed
          rw [failed]
          simp [nonempty]
        · rw [count, Int.natCast_eq_zero]
          exact byteCount_eq_zero

section Lookup

variable (ifIndextoname : U32 → String) (stackAddr : InAddr)
  (outcome : NetlinkOutcome) (caller : NexthopAnswer) (dstIp : InAddr)
  (g : RouteGlobals)

theorem getNexthop_ret :
    (getNexthop ifIndextoname stackAddr outcome caller dstIp g).1.ret = 0 ↔
      outcome = .reply (.datagram []) := by
  cases outcome with
  | requestFailed => simp [getNexthop]
  | reply reply =>
      rw [NetlinkOutcome.reply.injEq,
        ← getRouteDumpResponse_eq_zero ifIndextoname stackAddr reply
          { g with destIp := dstIp }]
      simp [getNexthop]

/-- The test of the callers tells a matched route from everything else. -/
def TellsRouteFound : Prop :=
  let answer :=
    (getNexthop ifIndextoname stackAddr outcome caller dstIp g).1
  (answer.ret ≠ 0 ↔ RouteMatched stackAddr dstIp outcome) ∧
    (Uncovered stackAddr dstIp outcome →
      dstReached answer = -1 ∧
      ∀ (env : Env) (buffer : Buffer) (tree : RecordTree PathMsg),
        (recvSessionObj buffer).dstIp = dstIp →
        env.insertRoute dstIp = answer →
          pathTreeInsert env tree buffer = .null)

end Lookup

theorem Matched.covered {stackAddr dstIp : InAddr} {messages : List NlMsg}
    (matched : Matched stackAddr dstIp messages) :
    ∃ h ∈ messages, routeCovers stackAddr dstIp h = true := by
  induction matched with
  | here calm covers => exact ⟨_, List.mem_cons_self, covers⟩
  | later calm matched ih =>
      obtain ⟨h, member, covers⟩ := ih
      exact ⟨h, List.mem_cons_of_mem _ member, covers⟩

theorem pathTreeInsert_noRoute {env : Env} {buffer : Buffer}
    {tree : RecordTree PathMsg}
    (failed : (env.insertRoute (recvSessionObj buffer).dstIp).ret = 0) :
    pathTreeInsert env tree buffer = .null := by
  have noRecord : newPathMsg env buffer = none := by
    simp [newPathMsg, failed]
  simp [pathTreeInsert, noRecord]

/-- The test tells a matched route from everything else exactly for dumps
with a match and for the empty dump. -/
theorem tellsRouteFound_iff (ifIndextoname : U32 → String)
    (stackAddr : InAddr) (outcome : NetlinkOutcome) (caller : NexthopAnswer)
    (dstIp : InAddr) (g : RouteGlobals) :
    TellsRouteFound ifIndextoname stackAddr outcome caller dstIp g ↔
      RouteMatched stackAddr dstIp outcome ∨
        outcome = .reply (.datagram []) := by
  have test := getNexthop_ret ifIndextoname stackAddr outcome caller dstIp g
  constructor
  · rintro ⟨found, _⟩
    by_cases empty : outcome = .reply (.datagram [])
    · exact .inr empty
    · exact .inl (found.mp (mt test.mp empty))
  · rintro (⟨messages, rfl, matched⟩ | rfl)
    · have nonempty : messages ≠ [] := by
        rintro rfl
        cases matched
      refine ⟨iff_of_true (mt test.mp (by simpa using nonempty))
        ⟨messages, rfl, matched⟩, ?_⟩
      intro uncovered
      obtain ⟨h, member, covers⟩ := matched.covered
      rw [uncovered messages rfl h member] at covers
      cases covers
    · have failed := test.mpr rfl
      have unmatched : ¬RouteMatched stackAddr dstIp
          (.reply (.datagram [])) := by
        rintro ⟨messages, same, matched⟩
        cases same
        cases matched
      refine ⟨iff_of_false (not_not_intro failed) unmatched, fun _ => ?_⟩
      refine ⟨by rw [dstReached, if_neg (not_not_intro failed)], ?_⟩
      intro env buffer tree same answered
      apply pathTreeInsert_noRoute
      rw [same, answered]
      exact failed

def tenNetwork : NlMsg :=
  { nlmsgLen := 60
    headerFits := by decide
    nlmsgType := 24
    nlmsgFlags := 2
    rtmFamily := afInet
    rtmDstLen := 8
    rtmTable := 254
    rtmType := rtnUnicast
    rtaTable := some rtTableMain
    rtaDst := some ⟨htonl 0x0A000000⟩
    rtaGateway := none
    rtaOif := some 2
    rtaPrefsrc := none }

/-- With `10.0.0.0/8` as its only route the node takes `192.168.1.1` for
reached. -/
theorem tenNetwork_not_tellsRouteFound :
    ¬TellsRouteFound (fun _ => "eth0") .any
      (.reply (.datagram [tenNetwork]))
      { ret := 0, nhip := none, prefixLen := 0, dev := "", ifh := 0 }
      ⟨htonl 0xC0A80101⟩
      { destIp := .any, srcIp := none, nh := none, dev := "", ifh := 0,
        prefixLen := 0 } := by
  rintro ⟨found, _⟩
  obtain ⟨messages, same, matched⟩ := found.mp (by decide)
  cases same
  cases matched with
  | here calm covers => exact absurd covers (by decide)
  | later calm matched => cases matched

end Rsvpd
