import Rsvpd.Runs

/-!
# The session identity of what a PATH makes the node send

A session object names a destination, a tunnel id and a source.  The tables
and the senders know a tunnel by its id alone.
-/

namespace Rsvpd

open Daemon

def SessionObject.identity (obj : SessionObject) : InAddr × U16 × InAddr :=
  (obj.dstIp, obj.tunnelId, obj.srcIp)

/-- The destination and source of the record from which a packet of this kind
is filled. -/
def heldAddresses (d : Daemon) (tunnelId : U16) :
    Packet → Option (InAddr × InAddr)
  | .path _ => (d.pathTree.find tunnelId).map fun p => (p.destIp, p.srcIp)
  | .resv _ => (d.resvTree.find tunnelId).map fun r => (r.destIp, r.srcIp)

/-- The addresses with which a packet leaves after a datagram: those of the
record held before, or else those of the datagram. -/
def sentAddresses (d : Daemon) (buffer : Buffer) (packet : Packet) :
    InAddr × InAddr :=
  (heldAddresses d (recvTunnelId buffer) packet).getD
    ((recvSessionObj buffer).dstIp, (recvSessionObj buffer).srcIp)

theorem sentAddresses_eq_iff {d : Daemon} {buffer : Buffer}
    {packet : Packet} :
    sentAddresses d buffer packet =
        ((recvSessionObj buffer).dstIp, (recvSessionObj buffer).srcIp) ↔
      ∀ addresses, heldAddresses d (recvTunnelId buffer) packet =
          some addresses →
        addresses =
          ((recvSessionObj buffer).dstIp, (recvSessionObj buffer).srcIp) := by
  rw [sentAddresses]
  cases heldAddresses d (recvTunnelId buffer) packet with
  | none => simp
  | some addresses => simp

section Handling

variable {env : Env} {buffer : Buffer} {d : Daemon}

/-- The path record after a PATH is the held one, or has the addresses of the
PATH. -/
theorem pathRecord_addresses {p : PathMsg}
    (held : (receivePathMessage env buffer d).pathTree.find
      (recvTunnelId buffer) = some p) :
    (p.destIp, p.srcIp) =
      sentAddresses d buffer (.path (fillPathPacket env.pathStack p)) := by
  rw [receivePathMessage_pathTree, receivePathRecord_find] at held
  cases receivePathRecord_cases env buffer d with
  | found p' result found pathTree =>
      cases result.symm.trans held
      simp [sentAddresses, heldAddresses, found]
  | missing result missing noRoute pathTree =>
      cases result.symm.trans held
  | built p' result missing built memory pathTree =>
      cases result.symm.trans held
      obtain ⟨_, srcIp, destIp, _⟩ := newPathMsg_fields built
      simp [sentAddresses, heldAddresses, missing, srcIp, destIp]

theorem resvRecord_addresses {r : ResvMsg}
    (held : (receivePathMessage env buffer d).resvTree.find
      (recvTunnelId buffer) = some r) :
    (r.destIp, r.srcIp) =
      sentAddresses d buffer (.resv (fillResvPacket env.resvStack r)) := by
  cases receivePathMessage_resvTree env buffer d with
  | kept resvTree =>
      rw [resvTree] at held
      simp [sentAddresses, heldAddresses, held]
  | created p path egress missing memory resvTree =>
      obtain ⟨ids, srcIp, destIp, _⟩ := newResvMsg_fields env buffer
        p.pSrcip true d.labelBitmap
      rw [resvTree] at held
      have inserted := RecordTree.find_insert_self
        (newResvMsg env buffer p.pSrcip true d.labelBitmap).1 ids missing
      cases inserted.symm.trans held
      simp [sentAddresses, heldAddresses, missing, srcIp, destIp]

variable (env buffer d) in
theorem receivePathMessage_identity :
    ∃ new, (receivePathMessage env buffer d).sent = d.sent ++ new ∧
      ∀ message ∈ new, message.2.sessionObj.identity =
        ((sentAddresses d buffer message.2).1,
          (recvSessionObj buffer).tunnelId,
          (sentAddresses d buffer message.2).2) := by
  refine ⟨_, receivePathMessage_sent env buffer d, ?_⟩
  cases path : (receivePathMessage env buffer d).pathTree.find
    (recvTunnelId buffer) with
  | none => simp
  | some p =>
      by_cases egress : p.nexthopIp = .any
      · cases resv : (receivePathMessage env buffer d).resvTree.find
          (recvTunnelId buffer) with
        | none => simp [egress]
        | some r =>
            have ids : r.tunnelId = recvTunnelId buffer :=
              RecordTree.find_tunnelId resv
            simp only [egress, if_true, Option.map_some, Option.toList_some,
              List.mem_singleton, forall_eq]
            rw [resvSend, ← resvRecord_addresses resv]
            simp [SessionObject.identity, Packet.sessionObj, fillResvPacket,
              ids, recvTunnelId]
      · have ids : p.tunnelId = recvTunnelId buffer :=
          RecordTree.find_tunnelId path
        simp only [egress, if_false, List.mem_singleton, forall_eq]
        rw [pathSend, ← pathRecord_addresses path]
        simp [SessionObject.identity, Packet.sessionObj, fillPathPacket, ids,
          recvTunnelId]

end Handling

/-- What a received PATH makes the node send carries the tunnel id of the
PATH, and its addresses too unless the node already held a record under that
tunnel id with other addresses; then it carries those. -/
theorem mainReceive_path_identity (env : Env) (buffer : Buffer)
    (d d' : Daemon) (isPath : (recvHeader buffer).msgType = pathMsgType)
    (taken : mainReceive env buffer d = some d') :
    ∃ new, d'.sent = d.sent ++ new ∧ ∀ message ∈ new,
      message.2.sessionObj.tunnelId = (recvSessionObj buffer).tunnelId ∧
      (message.2.sessionObj.dstIp, message.2.sessionObj.srcIp) =
        sentAddresses d buffer message.2 ∧
      (message.2.sessionObj.identity = (recvSessionObj buffer).identity ↔
        ∀ addresses,
          heldAddresses d (recvTunnelId buffer) message.2 = some addresses →
          addresses = ((recvSessionObj buffer).dstIp,
            (recvSessionObj buffer).srcIp)) := by
  cases mainReceive_cases env buffer d taken with
  | path _ routed result =>
      obtain ⟨new, sent, carries⟩ := receivePathMessage_identity env buffer
        (mainPathSession env buffer
          (dstReached (env.reachRoute (recvSessionObj buffer).dstIp)) d)
      rw [← result, (mainPathSession_frame _ _ _ _).2.2.2.2.1] at sent
      refine ⟨new, sent, fun message member => ?_⟩
      have same : sentAddresses (mainPathSession env buffer
          (dstReached (env.reachRoute (recvSessionObj buffer).dstIp)) d)
          buffer message.2 = sentAddresses d buffer message.2 := by
        cases message.2 <;> simp [sentAddresses, heldAddresses]
      have here := carries message member
      rw [same] at here
      obtain ⟨dstIp, ids⟩ := Prod.mk.inj here
      obtain ⟨tunnelId, srcIp⟩ := Prod.mk.inj ids
      have addresses : (message.2.sessionObj.dstIp,
          message.2.sessionObj.srcIp) = sentAddresses d buffer message.2 :=
        Prod.ext dstIp srcIp
      refine ⟨tunnelId, addresses, ?_⟩
      rw [← sentAddresses_eq_iff, ← addresses]
      simp [SessionObject.identity, tunnelId]
  | resv isResv result =>
      rw [isPath] at isResv
      exact absurd isResv (by decide)
  | other notPath notResv result => exact absurd isPath notPath

theorem samplePath_identity :
    ∃ d', mainReceive (.toward (some ⟨3⟩) 0)
        (samplePath 1 ⟨1⟩ ⟨9⟩ ⟨2⟩).received .init = some d' ∧
      d'.sent.map (fun message => message.2.sessionObj.identity) =
        [(⟨9⟩, htons 1, ⟨1⟩)] := by
  have sentOne : ((mainReceive (.toward (some ⟨3⟩) 0)
      (samplePath 1 ⟨1⟩ ⟨9⟩ ⟨2⟩).received .init).map
        fun d' => d'.sent.length) = some 1 := by
    decide +kernel
  obtain ⟨d', taken, one⟩ := Option.map_eq_some_iff.mp sentOne
  obtain ⟨new, sent, carries⟩ :=
    mainReceive_path_identity _ _ _ d' (by decide) taken
  obtain ⟨message, only⟩ := List.length_eq_one_iff.mp one
  rw [only, init_sent, List.nil_append] at sent
  have identity := (carries message (by simp [← sent])).2.2.mpr
    (by cases message.2 <;> simp [heldAddresses])
  refine ⟨d', taken, ?_⟩
  rw [only, List.map_singleton, identity, recvSessionObj_received]
  rfl

/-- A second tunnel with the same id is sent on with the data of the first. -/
theorem path_identity_mixed :
    ∃ env config d env' buffer d', Reaches (fun _ _ => True) env config d ∧
      (recvHeader buffer).msgType = pathMsgType ∧
      mainReceive env' buffer d = some d' ∧
      ∃ message, d'.sent = d.sent ++ [message] ∧
        message.2.sessionObj.identity ≠ (recvSessionObj buffer).identity := by
  have mixed : ((Transition.runEvents step
      (startup (.isolated 0) ⟨1, .any, .any⟩)
      [.datagram (.toward (some ⟨3⟩) 0)
        (samplePath 1 ⟨1⟩ ⟨9⟩ ⟨2⟩).received]).bind fun d =>
      (mainReceive (.toward (some ⟨4⟩) 1)
        (samplePath 1 ⟨5⟩ ⟨8⟩ ⟨6⟩).received d).map fun d' =>
          decide (∃ message ∈ d'.sent, d'.sent = d.sent ++ [message] ∧
            message.2.sessionObj.identity ≠
              (recvSessionObj (samplePath 1 ⟨5⟩ ⟨8⟩ ⟨6⟩).received).identity))
      = some true := by
    decide +kernel
  obtain ⟨d, run, rest⟩ := Option.bind_eq_some_iff.mp mixed
  obtain ⟨d', taken, final⟩ := Option.map_eq_some_iff.mp rest
  obtain ⟨message, _, sent, different⟩ := of_decide_eq_true final
  exact ⟨_, _, d, _, _, d', .of_runEvents (fun _ _ _ => trivial) run,
    by decide, taken, message, sent, different⟩

end Rsvpd
