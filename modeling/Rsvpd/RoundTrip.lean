import Rsvpd.Runs

/-!
# What the next router reads

The senders fill their packets at the same offsets, past the IP header, at
which the receivers overlay their objects, and each field is swapped as often
on one side as on the other, save for the interval.
-/

namespace Rsvpd

open Daemon

/-- What the receiver of a datagram holds in its buffer. -/
def received (ipHeader : List U8) (sent : InAddr × Packet) : Buffer :=
  recvBuffer (ipHeader ++ sent.2.bytes)

section Path

variable {ipHeader : List U8} (headerLen : ipHeader.length = ipHeaderLen)
  (sender : Env) (p : PathMsg)

include headerLen

theorem recvTunnelId_pathSend :
    recvTunnelId (received ipHeader (pathSend sender p)) = p.tunnelId := by
  rw [recvTunnelId, received, recvSessionObj_recvBuffer headerLen]
  exact ntohs_htons p.tunnelId

theorem newPathMsg_received {env : Env} {q : PathMsg}
    (built : newPathMsg env (received ipHeader (pathSend sender p)) =
      some q) :
    q.tunnelId = p.tunnelId ∧ q.srcIp = p.srcIp ∧ q.destIp = p.destIp ∧
      q.setupPriority = p.setupPriority ∧
      q.holdPriority = p.holdPriority ∧ q.flags = p.flags ∧
      q.pSrcip = p.eSrcip ∧ q.interval = htonl p.interval := by
  have attributes : recvSessionAttrObj
      (received ipHeader (pathSend sender p)) =
        (fillPathPacket sender.pathStack p).sessionAttrObj :=
    recvSessionAttrObj_recvBuffer headerLen _
  obtain ⟨_, _, _, _, _, rfl⟩ := newPathMsg_copies built
  rw [recvTunnelId_pathSend headerLen, attributes, received,
    recvSessionObj_recvBuffer headerLen, recvHopObj_recvBuffer headerLen,
    recvTimeObj_recvBuffer headerLen]
  exact ⟨rfl, rfl, rfl, rfl, rfl, rfl, rfl, rfl⟩

theorem exists_newPathMsg_received {env : Env}
    (routed : (env.insertRoute p.destIp).ret ≠ 0) :
    ∃ q, newPathMsg env (received ipHeader (pathSend sender p)) =
      some q := by
  apply exists_newPathMsg
  rw [received, recvSessionObj_recvBuffer headerLen]
  exact routed

end Path

section Resv

variable {ipHeader : List U8} (headerLen : ipHeader.length = ipHeaderLen)
  (sender : Env) (r : ResvMsg)

include headerLen

theorem recvTunnelId_resvSend :
    recvTunnelId (received ipHeader (resvSend sender r)) = r.tunnelId := by
  rw [recvTunnelId, received, recvSessionObj_recvBuffer headerLen]
  exact ntohs_htons r.tunnelId

theorem newResvMsg_received (env : Env) (pNhip : InAddr)
    (bitmap : LabelBitmap) :
    let q := (newResvMsg env (received ipHeader (resvSend sender r)) pNhip
      false bitmap).1
    q.tunnelId = r.tunnelId ∧ q.srcIp = r.srcIp ∧ q.destIp = r.destIp ∧
      q.outLabel = r.inLabel ∧ q.pSrcip = r.eSrcip ∧
      q.interval = htonl r.interval := by
  intro q
  have label : recvLabelObj (received ipHeader (resvSend sender r)) =
      (fillResvPacket sender.resvStack r).labelObj :=
    recvLabelObj_recvBuffer headerLen _
  have outLabel : q.outLabel = r.inLabel := by
    rw [newResvMsg_outLabel, label]
    exact ntohl_htonl r.inLabel
  obtain ⟨_, _, _, _, copied⟩ := newResvMsg_copies env
    (received ipHeader (resvSend sender r)) pNhip false bitmap
  rw [recvTunnelId_resvSend headerLen, received,
    recvSessionObj_recvBuffer headerLen, recvHopObj_recvBuffer headerLen,
    recvTimeObj_recvBuffer headerLen] at copied
  refine ⟨?_, ?_, ?_, outLabel, ?_, ?_⟩
  · exact (congrArg ResvMsg.tunnelId copied).trans rfl
  · exact (congrArg ResvMsg.srcIp copied).trans rfl
  · exact (congrArg ResvMsg.destIp copied).trans rfl
  · exact (congrArg ResvMsg.pSrcip copied).trans rfl
  · exact (congrArg ResvMsg.interval copied).trans rfl

end Resv

/-- A PATH carries a record over to the next router: whatever tree without its
tunnel the router has, it inserts a record with the same fields, and the
lookup of `receive_path_message` finds it. -/
theorem path_round_trip (sender env : Env) (p : PathMsg)
    (ipHeader : List U8) (d : Daemon)
    (headerLen : ipHeader.length = ipHeaderLen)
    (routed : (env.insertRoute p.destIp).ret ≠ 0)
    (missing : d.pathTree.find p.tunnelId = none) :
    let buffer := received ipHeader (pathSend sender p)
    ∃ q, pathTreeInsert env d.pathTree buffer =
        d.pathTree.insert env.pathMalloc q ∧
      q.tunnelId = p.tunnelId ∧ q.srcIp = p.srcIp ∧ q.destIp = p.destIp ∧
      q.setupPriority = p.setupPriority ∧
      q.holdPriority = p.holdPriority ∧ q.flags = p.flags ∧
      q.pSrcip = p.eSrcip ∧
      (env.pathMalloc = true →
        (d.pathTree.insert true q).find (recvTunnelId buffer) = some q ∧
        (receivePathRecord env buffer d).2 = some q) := by
  intro buffer
  obtain ⟨q, built⟩ :=
    exists_newPathMsg_received headerLen sender p routed
  obtain ⟨tunnelId, srcIp, destIp, setup, hold, flags, pSrcip, _⟩ :=
    newPathMsg_received headerLen sender p built
  have sameId : recvTunnelId buffer = p.tunnelId :=
    recvTunnelId_pathSend headerLen sender p
  refine ⟨q, by simp [pathTreeInsert, buffer, built], tunnelId, srcIp,
    destIp, setup, hold, flags, pSrcip, fun memory => ⟨?_, ?_⟩⟩
  · rw [sameId]
    exact RecordTree.find_insert_self q tunnelId missing
  · cases receivePathRecord_cases env buffer d with
    | found p' result found pathTree =>
        rw [sameId, missing] at found
        cases found
    | missing result _ noRoute pathTree =>
        rcases noRoute with unbuilt | noMemory
        · cases built.symm.trans unbuilt
        · rw [memory] at noMemory
          cases noMemory
    | built q' result _ built' memory pathTree =>
        cases built.symm.trans built'
        exact result

/-- A first router learns of tunnel 1 with its priority and its previous
hop. -/
theorem path_round_trip_first :
    ∃ q, (receivePathRecord (.toward (some ⟨3⟩) 0)
        (received (List.replicate ipHeaderLen 0x45) (pathSend (.isolated 0)
          { (default : PathMsg) with
            tunnelId := 1, setupPriority := 7, eSrcip := ⟨2⟩ })) .init).2 =
          some q ∧
      q.tunnelId = 1 ∧ q.setupPriority = 7 ∧ q.pSrcip = ⟨2⟩ := by
  obtain ⟨q, _, tunnelId, _, _, setup, _, _, pSrcip, found⟩ :=
    path_round_trip (.isolated 0) (.toward (some ⟨3⟩) 0)
      { (default : PathMsg) with
        tunnelId := 1, setupPriority := 7, eSrcip := ⟨2⟩ }
      (List.replicate ipHeaderLen 0x45) .init List.length_replicate
      (by decide) rfl
  exact ⟨q, (found rfl).2, tunnelId, setup, pSrcip⟩

/-- A RESV carries a record, with its label as the outgoing one, over to the
next router. -/
theorem resv_round_trip (sender env : Env) (r : ResvMsg)
    (ipHeader : List U8) (table : RecordTree ResvMsg) (pNhip : InAddr)
    (bitmap : LabelBitmap) (headerLen : ipHeader.length = ipHeaderLen)
    (missing : table.find r.tunnelId = none) :
    let buffer := received ipHeader (resvSend sender r)
    ∃ q, (resvTreeInsert env table buffer pNhip false bitmap).1 =
        table.insert env.resvMalloc q ∧
      q.tunnelId = r.tunnelId ∧ q.srcIp = r.srcIp ∧ q.destIp = r.destIp ∧
      q.outLabel = r.inLabel ∧ q.pSrcip = r.eSrcip ∧
      (env.resvMalloc = true →
        (table.insert true q).find (recvTunnelId buffer) = some q) := by
  intro buffer
  obtain ⟨tunnelId, srcIp, destIp, outLabel, pSrcip, _⟩ :=
    newResvMsg_received headerLen sender r env pNhip bitmap
  refine ⟨_, rfl, tunnelId, srcIp, destIp, outLabel, pSrcip, fun _ => ?_⟩
  have sameId : recvTunnelId buffer = r.tunnelId :=
    recvTunnelId_resvSend headerLen sender r
  rw [sameId]
  exact RecordTree.find_insert_self _ tunnelId missing

/-- A first router learns the label 16 of its downstream neighbour. -/
theorem resv_round_trip_first :
    ∃ q, ((resvTreeInsert (.isolated 0) .null
        (received (List.replicate ipHeaderLen 0x45) (resvSend (.isolated 0)
          { (default : ResvMsg) with tunnelId := 1, inLabel := 16 })) ⟨2⟩
        false .empty).1).find 1 = some q ∧ q.outLabel = 16 := by
  obtain ⟨q, inserted, _, _, _, outLabel, _, found⟩ :=
    resv_round_trip (.isolated 0) (.isolated 0)
      { (default : ResvMsg) with tunnelId := 1, inLabel := 16 }
      (List.replicate ipHeaderLen 0x45) .null ⟨2⟩ .empty
      List.length_replicate rfl
  have here := found rfl
  rw [recvTunnelId_resvSend List.length_replicate] at here
  exact ⟨q, inserted ▸ here, outLabel⟩

end Rsvpd
