import Rsvpd.Chain
import Rsvpd.Lib.Transition
import Rsvpd.Sweeps

/-!
# Records and datagrams of a chain

Every record and every datagram in flight belongs to the tunnel and names the
neighbours of its router, so PATHs travel down the chain and RESVs up.
-/

namespace Rsvpd

open Daemon

namespace Chain

variable (chain : Chain)

/-- Where a router sends its PATHs. -/
def nextAddr (i : Nat) : InAddr :=
  if i ≤ chain.transits then chain.downAddr i else .any

/-- Where a router sends its RESVs. -/
def prevAddr : Nat → InAddr
  | 0 => .any
  | i + 1 => chain.upAddr i

structure OfTunnel (obj : SessionObject) : Prop where
  tunnelId : ntohs obj.tunnelId = chain.tunnel.tunnelId
  srcIp : obj.srcIp = chain.tunnel.srcip
  dstIp : obj.dstIp = chain.tunnel.dstip

structure PathOk (i : Nat) (p : PathMsg) : Prop where
  tunnelId : p.tunnelId = chain.tunnel.tunnelId
  srcIp : p.srcIp = chain.tunnel.srcip
  destIp : p.destIp = chain.tunnel.dstip
  nexthopIp : p.nexthopIp = chain.nextAddr i
  pSrcip : p.pSrcip = chain.prevAddr i
  eSrcip : i ≤ chain.transits → p.eSrcip = chain.upAddr i

structure ResvOk (i : Nat) (r : ResvMsg) : Prop where
  tunnelId : r.tunnelId = chain.tunnel.tunnelId
  srcIp : r.srcIp = chain.tunnel.srcip
  destIp : r.destIp = chain.tunnel.dstip
  nexthopIp : r.nexthopIp = chain.prevAddr i

/-- The datagrams that a router sends: PATHs of the tunnel down its link, and
RESVs of the tunnel up. -/
inductive Carries : Nat → InAddr × Packet → Prop
  | path {i : Nat} {packet : PathPacket} (within : i ≤ chain.transits)
      (msgType : packet.path.msgType = pathMsgType)
      (session : chain.OfTunnel packet.sessionObj)
      (hop : packet.hopObj.nextHop = chain.upAddr i) :
      Carries i (chain.downAddr i, .path packet)
  | resv {i : Nat} {packet : ResvPacket} (within : i ≤ chain.transits)
      (msgType : packet.resv.msgType = resvMsgType)
      (session : chain.OfTunnel packet.sessionObj) :
      Carries (i + 1) (chain.upAddr i, .resv packet)

structure RouterOk (i : Nat) (d : Daemon) : Prop where
  path : ∀ tunnelId p, d.pathTree.find tunnelId = some p → chain.PathOk i p
  resv : ∀ tunnelId r, d.resvTree.find tunnelId = some r → chain.ResvOk i r
  /-- No PATH comes back to the ingress. -/
  pathHead : i = 0 → d.pathHead = []
  /-- No RESV goes to the egress. -/
  resvHead : i = chain.transits + 1 → d.resvHead = []

/-- A handler of a router keeps its records and sends what it may. -/
structure Keeps (i : Nat) (d d' : Daemon) : Prop where
  ok : chain.RouterOk i d'
  sent : ∃ new, d'.sent = d.sent ++ new ∧
    ∀ datagram ∈ new, chain.Carries i datagram

section Parts

variable {chain} {i : Nat} {now : Int} {env : Env} {d : Daemon}

theorem nextAddr_of_le (within : i ≤ chain.transits) :
    chain.nextAddr i = chain.downAddr i := if_pos within

theorem nextAddr_eq_any (reachable : i ≤ chain.transits + 1) :
    chain.nextAddr i = .any ↔ i = chain.transits + 1 := by
  constructor
  · intro none
    by_contra inner
    have within : i ≤ chain.transits := by omega
    rw [nextAddr_of_le within] at none
    exact chain.downAddr_ne i within none
  · intro last
    exact if_neg (by omega)

theorem pathSend_carries {p : PathMsg} (ok : chain.PathOk i p)
    (within : i ≤ chain.transits) : chain.Carries i (pathSend env p) := by
  have dest : pathSend env p =
      (chain.downAddr i, .path (fillPathPacket env.pathStack p)) := by
    rw [pathSend, ok.nexthopIp, nextAddr_of_le within]
  rw [dest]
  refine .path within rfl ⟨?_, ok.srcIp, ok.destIp⟩ (ok.eSrcip within)
  rw [← ok.tunnelId]
  exact ntohs_htons _

theorem resvSend_carries {r : ResvMsg} (ok : chain.ResvOk (i + 1) r)
    (within : i ≤ chain.transits) :
    chain.Carries (i + 1) (resvSend env r) := by
  have dest : resvSend env r =
      (chain.upAddr i, .resv (fillResvPacket env.resvStack r)) := by
    rw [resvSend, ok.nexthopIp]
    rfl
  rw [dest]
  refine .resv within rfl ⟨?_, ok.srcIp, ok.destIp⟩
  rw [← ok.tunnelId]
  exact ntohs_htons _

theorem newPathMsg_ok {packet : PathPacket} {p : PathMsg}
    (within : i ≤ chain.transits)
    (session : chain.OfTunnel packet.sessionObj)
    (hop : packet.hopObj.nextHop = chain.upAddr i)
    (built : newPathMsg (chain.env (i + 1) now env)
      (Packet.path packet).received = some p) : chain.PathOk (i + 1) p := by
  have read : recvSessionObj (Packet.path packet).received =
      packet.sessionObj := recvSessionObj_received _
  obtain ⟨tunnelId, srcIp, destIp, pSrcip⟩ := newPathMsg_fields built
  obtain ⟨_, nexthopIp⟩ := newPathMsg_nexthopIp built
  rw [read] at srcIp destIp nexthopIp
  rw [recvTunnelId, read] at tunnelId
  rw [session.dstIp] at nexthopIp
  constructor
  · rw [tunnelId, session.tunnelId]
  · rw [srcIp, session.srcIp]
  · rw [destIp, session.dstIp]
  · rw [nexthopIp]
    by_cases inner : i + 1 ≤ chain.transits
    · have answer : ((chain.env (i + 1) now env).insertRoute
          chain.tunnel.dstip).nhip = some (chain.downAddr (i + 1)) :=
        (chain.towardDst (i + 1) inner).2
      rw [answer, nextAddr_of_le inner]
      rfl
    · have last : i + 1 = chain.transits + 1 := by omega
      have answer : ((chain.env (i + 1) now env).insertRoute
          chain.tunnel.dstip).nhip = none := by
        rw [last]
        exact chain.atDst.2
      rw [answer, (nextAddr_eq_any (by omega)).mpr last]
      rfl
  · rw [pSrcip, recvHopObj_received]
    exact hop
  · intro inner
    apply newPathMsg_eSrcip built
    · rw [read, session.dstIp]
      exact (chain.towardDst (i + 1) inner).2
    · exact (chain.srcipDown (i + 1) inner).1
    · exact (chain.srcipDown (i + 1) inner).2

theorem receivePath_pathOk {packet : PathPacket}
    (within : i ≤ chain.transits)
    (session : chain.OfTunnel packet.sessionObj)
    (hop : packet.hopObj.nextHop = chain.upAddr i)
    (ok : ∀ tunnelId p, d.pathTree.find tunnelId = some p →
      chain.PathOk (i + 1) p)
    {tunnelId : U16} {p : PathMsg}
    (held : (receivePathMessage (chain.env (i + 1) now env)
      (Packet.path packet).received d).pathTree.find tunnelId = some p) :
    chain.PathOk (i + 1) p := by
  rw [receivePathMessage_pathTree] at held
  cases receivePathRecord_cases (chain.env (i + 1) now env)
      (Packet.path packet).received d with
  | found p' result found pathTree =>
      rw [pathTree] at held
      exact ok tunnelId p held
  | missing result missing noRoute pathTree =>
      rw [pathTree] at held
      exact ok tunnelId p held
  | built p' result missing built memory pathTree =>
      rw [pathTree] at held
      rcases RecordTree.find_insert_cases held with rfl | before
      · exact newPathMsg_ok within session hop built
      · exact ok tunnelId p before

theorem receivePath_resvOk {buffer : Buffer}
    (session : chain.OfTunnel (recvSessionObj buffer))
    (ok : ∀ tunnelId r, d.resvTree.find tunnelId = some r →
      chain.ResvOk (i + 1) r)
    (pathOk : ∀ tunnelId p,
      (receivePathMessage env buffer d).pathTree.find tunnelId = some p →
        chain.PathOk (i + 1) p)
    {tunnelId : U16} {r : ResvMsg}
    (held : (receivePathMessage env buffer d).resvTree.find tunnelId =
      some r) : chain.ResvOk (i + 1) r := by
  cases receivePathMessage_resvTree env buffer d with
  | kept resvTree =>
      rw [resvTree] at held
      exact ok tunnelId r held
  | created p path egress missing memory resvTree =>
      rw [resvTree] at held
      rcases RecordTree.find_insert_cases held with rfl | before
      · obtain ⟨tunnelId, srcIp, destIp, nexthopIp, _⟩ :=
          newResvMsg_fields env buffer p.pSrcip true d.labelBitmap
        constructor
        · rw [tunnelId, recvTunnelId, session.tunnelId]
        · rw [srcIp, session.srcIp]
        · rw [destIp, session.dstIp]
        · rw [nexthopIp, (pathOk _ p path).pSrcip]
      · exact ok tunnelId r before

variable (now env) in
theorem receivePath_keeps {packet : PathPacket} (reached : Int)
    (within : i ≤ chain.transits)
    (session : chain.OfTunnel packet.sessionObj)
    (hop : packet.hopObj.nextHop = chain.upAddr i)
    (ok : chain.RouterOk (i + 1) d) :
    chain.Keeps (i + 1) d (receivePathMessage (chain.env (i + 1) now env)
      (Packet.path packet).received
      (mainPathSession (chain.env (i + 1) now env)
        (Packet.path packet).received reached d)) := by
  generalize shape : mainPathSession (chain.env (i + 1) now env)
    (Packet.path packet).received reached d = noted
  have frame := mainPathSession_frame (chain.env (i + 1) now env)
    (Packet.path packet).received reached d
  rw [shape] at frame
  obtain ⟨samePath, sameResv, sameHead, _, sameSent, _⟩ := frame
  have pathOk : ∀ tunnelId p,
      (receivePathMessage (chain.env (i + 1) now env)
        (Packet.path packet).received noted).pathTree.find tunnelId =
          some p → chain.PathOk (i + 1) p := by
    intro tunnelId p held
    apply receivePath_pathOk within session hop _ held
    rw [samePath]
    exact ok.path
  have resvOk : ∀ tunnelId r,
      (receivePathMessage (chain.env (i + 1) now env)
        (Packet.path packet).received noted).resvTree.find tunnelId =
          some r → chain.ResvOk (i + 1) r := by
    intro tunnelId r held
    apply receivePath_resvOk _ _ pathOk held
    · rw [recvSessionObj_received]
      exact session
    · rw [sameResv]
      exact ok.resv
  constructor
  · constructor
    · exact pathOk
    · exact resvOk
    · exact fun first => absurd first (Nat.succ_ne_zero i)
    · intro last
      rw [(receivePathMessage_frame _ _ _).2.1, sameHead]
      exact ok.resvHead last
  · refine ⟨_, by rw [receivePathMessage_sent, sameSent], ?_⟩
    intro datagram member
    split at member
    case h_1 => cases member
    case h_2 p held =>
      split at member
      case isTrue egress =>
        obtain ⟨r, answer, same⟩ :=
          Option.map_eq_some_iff.mp (Option.mem_toList.mp member)
        rw [← same]
        exact resvSend_carries (resvOk _ r answer) within
      case isFalse inner =>
        rw [List.mem_singleton.mp member]
        have passes : i + 1 ≠ chain.transits + 1 := by
          rw [(pathOk _ p held).nexthopIp] at inner
          exact mt (nextAddr_eq_any (by omega)).mpr inner
        exact pathSend_carries (pathOk _ p held) (by omega)

theorem receiveResv_keeps {buffer : Buffer} (within : i ≤ chain.transits)
    (session : chain.OfTunnel (recvSessionObj buffer))
    (ok : chain.RouterOk i d) :
    chain.Keeps i d (receiveResvMessage env buffer d) := by
  have madeOk : ∀ pa, d.pathTree.find (recvTunnelId buffer) = some pa →
      chain.ResvOk i (resvMade env buffer d pa).1 := by
    intro pa path
    obtain ⟨tunnelId, srcIp, destIp, nexthopIp, _⟩ :=
      newResvMsg_fields env buffer pa.pSrcip false d.labelBitmap
    constructor
    · rw [resvMade_tunnelId, recvTunnelId, session.tunnelId]
    · rw [resvMade, srcIp, session.srcIp]
    · rw [resvMade, destIp, session.dstIp]
    · rw [resvMade, nexthopIp, (ok.path _ pa path).pSrcip]
  have frame := receiveResvMessage_frame env buffer d
  have pathOk : ∀ tunnelId p,
      (receiveResvMessage env buffer d).pathTree.find tunnelId = some p →
        chain.PathOk i p := by
    rw [frame.1]
    exact ok.path
  have pathHead : i = 0 → (receiveResvMessage env buffer d).pathHead = [] := by
    rw [frame.2]
    exact ok.pathHead
  have resvHead : i = chain.transits + 1 →
      (receiveResvMessage env buffer d).resvHead = [] := by
    intro last
    omega
  cases receiveResvMessage_cases env buffer d with
  | kept known resvTree labelBitmap commands sent =>
      refine ⟨⟨pathOk, ?_, pathHead, resvHead⟩, [], by simp [sent],
        List.forall_mem_nil _⟩
      rw [resvTree]
      exact ok.resv
  | noMemory pa path missing memory resvTree labelBitmap commands sent =>
      refine ⟨⟨pathOk, ?_, pathHead, resvHead⟩, [], by simp [sent],
        List.forall_mem_nil _⟩
      rw [resvTree]
      exact ok.resv
  | created pa path missing memory resvTree labelBitmap commands sent =>
      refine ⟨⟨pathOk, ?_, pathHead, resvHead⟩, _, sent, ?_⟩
      · intro tunnelId r held
        rw [resvTree] at held
        rcases RecordTree.find_insert_cases held with rfl | before
        · exact madeOk pa path
        · exact ok.resv tunnelId r before
      · intro datagram member
        split at member
        case isTrue => cases member
        case isFalse passes =>
          rw [List.mem_singleton.mp member]
          rw [(madeOk pa path).nexthopIp] at passes
          cases i with
          | zero => exact absurd rfl passes
          | succ i => exact resvSend_carries (madeOk pa path) (by omega)

theorem pathTimer_keeps (reachable : i ≤ chain.transits + 1)
    (ok : chain.RouterOk i d) :
    chain.Keeps i d (pathTimerHandler env d) := by
  by_cases last : i = chain.transits + 1
  · rw [pathTimerHandler_nil (ok.resvHead last)]
    exact ⟨ok, [], by simp, List.forall_mem_nil _⟩
  · obtain ⟨new, shape, allowed⟩ := pathTimerHandler_sent env d
    obtain ⟨samePath, sameHead, _, _⟩ := pathTimerHandler_frame env d
    constructor
    · constructor
      · rw [samePath]
        exact ok.path
      · intro tunnelId r held
        exact ok.resv tunnelId r (pathTimerHandler_findSome held).1
      · rw [sameHead]
        exact ok.pathHead
      · intro egress
        exact absurd egress last
    · refine ⟨new, shape, ?_⟩
      intro datagram member
      obtain ⟨tunnelId, p, held, rfl⟩ := allowed datagram member
      exact pathSend_carries (ok.path tunnelId p held) (by omega)

theorem resvTimer_keeps (reachable : i ≤ chain.transits + 1)
    (ok : chain.RouterOk i d) :
    chain.Keeps i d (resvTimerHandler env d) := by
  cases i with
  | zero =>
      rw [resvTimerHandler_nil (ok.pathHead rfl)]
      exact ⟨ok, [], by simp, List.forall_mem_nil _⟩
  | succ i =>
      obtain ⟨new, shape, allowed⟩ :=
        resvTimerHandler_sent env d
      constructor
      · constructor
        · intro tunnelId p held
          exact ok.path tunnelId p (resvTimerHandler_findPathSome held)
        · intro tunnelId r held
          exact ok.resv tunnelId r (resvTimerHandler_findSome held).1
        · exact fun first => absurd first (Nat.succ_ne_zero i)
        · intro last
          have sublist := eraseSessions_sublist
            ((resvVisits env d).filterMap resvTears) d.resvHead
          rw [ok.resvHead last] at sublist
          rw [resvTimerHandler_resvHead, ok.resvHead last]
          exact List.sublist_nil.mp sublist
      · refine ⟨new, shape, ?_⟩
        intro datagram member
        obtain ⟨tunnelId, r, held, rfl⟩ := allowed datagram member
        exact resvSend_carries (ok.resv tunnelId r held) (by omega)

end Parts

section Steps

variable {chain} {s s' : ChainState}

/-- Records and datagrams are those of the tunnel. -/
def AllOk (chain : Chain) (s : ChainState) : Prop :=
  s.net.All chain.RouterOk chain.Carries

theorem AllOk.handled {i : Nat} {d : Daemon} (all : chain.AllOk s)
    (keeps : chain.Keeps i (s.net.state i) d) :
    chain.AllOk (chain.handled i d s) := by
  obtain ⟨ok, new, shape, allowed⟩ := keeps
  apply Network.Config.All.become all ok
  rw [newlySent_append shape]
  exact allowed

theorem receiver_downAddr {i : Nat} (within : i ≤ chain.transits) :
    chain.receiver (chain.downAddr i) i = some (i + 1) := by
  cases i with
  | zero => exact if_pos rfl
  | succ i => exact if_pos ⟨within, rfl⟩

theorem receiver_upAddr {i : Nat} (within : i ≤ chain.transits) :
    chain.receiver (chain.upAddr i) (i + 1) = some i := by
  rw [receiver, if_neg, if_pos ⟨within, rfl⟩]
  intro ⟨inner, same⟩
  exact chain.addr_ne i inner same

/-- What an event does in a chain whose records and datagrams are those of
the tunnel. -/
inductive Stepped (chain : Chain) (s : ChainState) :
    ChainEvent → ChainState → Prop
  | wait (seconds : Nat) :
      Stepped chain s (.wait seconds) { s with time := s.time + seconds }
  | path (i index : Nat) (env : Env) (packet : PathPacket) (reached : Int)
      (within : i ≤ chain.transits)
      (inFlight : (s.net.flight i)[index]? =
        some (chain.downAddr i, .path packet))
      (session : chain.OfTunnel packet.sessionObj)
      (hop : packet.hopObj.nextHop = chain.upAddr i) :
      Stepped chain s (.deliver i index env) (chain.handled (i + 1)
        (receivePathMessage (chain.env (i + 1) s.time env)
          (Packet.path packet).received
          (mainPathSession (chain.env (i + 1) s.time env)
            (Packet.path packet).received reached (s.net.state (i + 1))))
        { s with net := s.net.remove i index })
  | resv (i index : Nat) (env : Env) (packet : ResvPacket)
      (within : i ≤ chain.transits)
      (inFlight : (s.net.flight (i + 1))[index]? =
        some (chain.upAddr i, .resv packet))
      (session : chain.OfTunnel packet.sessionObj) :
      Stepped chain s (.deliver (i + 1) index env) (chain.handled i
        (receiveResvMessage (chain.env i s.time env)
          (Packet.resv packet).received (s.net.state i))
        { s with net := s.net.remove (i + 1) index })
  | lose (sender index : Nat) (datagram : InAddr × Packet)
      (inFlight : (s.net.flight sender)[index]? = some datagram) :
      Stepped chain s (.lose sender index) { s with
        net := s.net.remove sender index
        lost :=
          if datagram.2.msgType = resvMsgType then
            Function.update s.lost sender true
          else s.lost }
  | pathTimer (i : Nat) (env : Env) (reachable : i ≤ chain.transits + 1) :
      Stepped chain s (.pathTimer i env) (chain.handled i
        (pathTimerHandler (chain.env i s.time env) (s.net.state i)) { s with
          pathDue := Function.update s.pathDue i (s.time + interval) })
  | resvTimer (i : Nat) (env : Env) (reachable : i ≤ chain.transits + 1) :
      Stepped chain s (.resvTimer i env) (chain.handled i
        (resvTimerHandler (chain.env i s.time env) (s.net.state i)) { s with
          resvDue := Function.update s.resvDue i (s.time + interval) })

theorem step_cases {event : ChainEvent} (all : chain.AllOk s)
    (taken : chain.step s event = some s') : chain.Stepped s event s' := by
  cases event with
  | wait seconds =>
      cases taken
      exact .wait seconds
  | deliver sender index env =>
      simp only [step, Option.bind_eq_bind, Option.bind_eq_some_iff,
        Option.some_inj] at taken
      obtain ⟨datagram, inFlight, router, arrives, d, received, rfl⟩ := taken
      have carries := all.message sender datagram
        (List.mem_of_getElem? inFlight)
      cases carries with
      | path within msgType session hop =>
          rw [receiver_downAddr within] at arrives
          cases arrives
          have header : (recvHeader (Packet.path _).received).msgType =
              pathMsgType := (recvHeader_received _).trans msgType
          cases mainReceive_cases _ _ _ received with
          | path isPath routed result =>
              rw [result]
              exact .path _ index env _ _ within inFlight session hop
          | resv isResv result =>
              exact absurd (header.symm.trans isResv) (by decide)
          | other notPath notResv result => exact absurd header notPath
      | resv within msgType session =>
          rw [receiver_upAddr within] at arrives
          cases arrives
          have header : (recvHeader (Packet.resv _).received).msgType =
              resvMsgType := (recvHeader_received _).trans msgType
          cases mainReceive_cases _ _ _ received with
          | path isPath routed result =>
              exact absurd (header.symm.trans isPath) (by decide)
          | resv isResv result =>
              rw [result]
              exact .resv _ index env _ within inFlight session
          | other notPath notResv result => exact absurd header notResv
  | lose sender index =>
      simp only [step, Option.bind_eq_bind, Option.bind_eq_some_iff,
        Option.some_inj] at taken
      obtain ⟨datagram, inFlight, rfl⟩ := taken
      exact .lose sender index datagram inFlight
  | pathTimer router env =>
      rw [step] at taken
      split at taken
      case isTrue reachable =>
        cases taken
        exact .pathTimer router env reachable
      case isFalse => cases taken
  | resvTimer router env =>
      rw [step] at taken
      split at taken
      case isTrue reachable =>
        cases taken
        exact .resvTimer router env reachable
      case isFalse => cases taken

theorem AllOk.remove (all : chain.AllOk s) (sender index : Nat) :
    chain.AllOk { s with net := s.net.remove sender index } :=
  Network.Config.All.remove all index

theorem AllOk.step {event : ChainEvent} (all : chain.AllOk s)
    (taken : chain.step s event = some s') : chain.AllOk s' := by
  cases step_cases all taken with
  | wait seconds => exact all
  | path i index env packet reached within inFlight session hop =>
      apply (all.remove _ index).handled
      exact receivePath_keeps _ _ _ within session hop (all.node (i + 1))
  | resv i index env packet within inFlight session =>
      apply (all.remove _ index).handled
      apply receiveResv_keeps within _ (all.node i)
      rw [recvSessionObj_received]
      exact session
  | lose sender index datagram inFlight => exact all.remove sender index
  | pathTimer i env reachable =>
      apply AllOk.handled all
      exact pathTimer_keeps reachable (all.node i)
  | resvTimer i env reachable =>
      apply AllOk.handled all
      exact resvTimer_keeps reachable (all.node i)

end Steps

section Start

variable {chain} {time : Int} {phases : Phases} {env : Env}

theorem exists_configuredPathMsg (chain : Chain) (time : Int) (env : Env) :
    ∃ p, configuredPathMsg (chain.env 0 time env) chain.tunnel = some p ∧
      chain.PathOk 0 p := by
  have routed := chain.towardDst 0 (Nat.zero_le _)
  have source := chain.srcipDown 0 (Nat.zero_le _)
  simp only [configuredPathMsg, Chain.env, if_pos routed.1, routed.2,
    if_pos source.1, source.2, Option.getD_some]
  refine ⟨_, rfl, rfl, rfl, rfl, ?_, rfl, fun _ => rfl⟩
  exact (nextAddr_of_le (Nat.zero_le _)).symm

variable (chain) in
theorem init_ok (i : Nat) : chain.RouterOk i .init := by
  constructor
  · intro tunnelId p held
    rw [init_pathTree, RecordTree.find_null] at held
    cases held
  · intro tunnelId r held
    rw [init_resvTree, RecordTree.find_null] at held
    cases held
  · exact fun _ => rfl
  · exact fun _ => rfl

variable (chain time env) in
theorem startup_keeps :
    chain.Keeps 0 .init (startup (chain.env 0 time env) chain.tunnel) := by
  obtain ⟨path, built, pathOk⟩ := exists_configuredPathMsg chain time env
  have held : ∀ tunnelId p,
      (RecordTree.null.insert (chain.env 0 time env).pathMalloc path).find
        tunnelId = some p → chain.PathOk 0 p := by
    intro tunnelId p found
    rcases RecordTree.find_insert_cases found with rfl | before
    · exact pathOk
    · rw [RecordTree.find_null] at before
      cases before
  simp only [startup, built]
  constructor
  · constructor
    · simpa using held
    · simp
    · simp
    · intro last
      cases last
  · refine ⟨_, sendPathMessage_sent .., ?_⟩
    intro datagram member
    obtain ⟨p, found, same⟩ :=
      Option.map_eq_some_iff.mp (Option.mem_toList.mp member)
    rw [← same]
    exact pathSend_carries (held _ p found) (Nat.zero_le _)

theorem start_allOk : chain.AllOk (chain.start time phases env) := by
  obtain ⟨ok, new, shape, allowed⟩ := startup_keeps chain time env
  constructor
  · intro i
    by_cases ingress : i = 0
    · subst ingress
      simpa [start] using ok
    · simpa [start, ingress] using init_ok chain i
  · intro i datagram member
    by_cases ingress : i = 0
    · subst ingress
      simp only [start, Function.update_self, shape] at member
      exact allowed datagram (by simpa using member)
    · simp [start, ingress] at member

theorem Reachable.allOk {guard : ChainState → ChainEvent → Prop}
    {s : ChainState} (run : Transition.Reachable chain.step guard
      (chain.start time phases env) s) : chain.AllOk s :=
  Transition.Reachable.invariant start_allOk
    (fun _ _ _ all _ taken => all.step taken) run

end Start

end Chain

end Rsvpd
