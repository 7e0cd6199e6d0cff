import Rsvpd.RoundTrip

/-!
# What a datagram is read as

The receivers overlay their objects from byte 20 of a zero-filled buffer and
look neither at the length of the IP header nor at the number of bytes that
`recvfrom` returned.
-/

namespace Rsvpd

open Daemon

/-- Two buffers in which the handlers find the same objects. -/
structure SameObjects (buffer other : Buffer) : Prop where
  msgType : (recvHeader buffer).msgType = (recvHeader other).msgType
  sessionObj : recvSessionObj buffer = recvSessionObj other
  hopObj : recvHopObj buffer = recvHopObj other
  timeObj : recvTimeObj buffer = recvTimeObj other
  sessionAttrObj : recvSessionAttrObj buffer = recvSessionAttrObj other
  labelObj : recvLabelObj buffer = recvLabelObj other

namespace SameObjects

variable {buffer other : Buffer} (same : SameObjects buffer other)

theorem of_behind (behind : ∀ i, buffer (ipHeaderLen + i) =
    other (ipHeaderLen + i)) : SameObjects buffer other := by
  have session : recvSessionObj buffer = recvSessionObj other := by
    simp only [recvSessionObj, SessionObject.load, ClassObj.load, load16,
      load32, Nat.add_assoc, behind]
  have hop : recvHopObj buffer = recvHopObj other := by
    simp only [recvHopObj, HopObject.load, ClassObj.load, load16, load32,
      Nat.add_assoc, behind]
  have time : recvTimeObj buffer = recvTimeObj other := by
    simp only [recvTimeObj, TimeObject.load, ClassObj.load, load16, load32,
      Nat.add_assoc, behind]
  have attributes : recvSessionAttrObj buffer = recvSessionAttrObj other := by
    simp only [recvSessionAttrObj, SessionAttrObject.load, ClassObj.load,
      load16, Nat.add_assoc, behind]
  have label : recvLabelObj buffer = recvLabelObj other := by
    simp only [recvLabelObj, LabelObject.load, ClassObj.load, load16, load32,
      Nat.add_assoc, behind]
  exact ⟨behind 1, session, hop, time, attributes, label⟩

include same

theorem tunnelId : recvTunnelId buffer = recvTunnelId other := by
  rw [recvTunnelId, same.sessionObj, recvTunnelId]

theorem newPathMsg (env : Env) :
    newPathMsg env buffer = newPathMsg env other := by
  simp only [Rsvpd.newPathMsg, same.sessionObj, same.hopObj, same.timeObj,
    same.sessionAttrObj]

theorem newResvMsg (env : Env) (pNhip : InAddr) (pathDstReach : Bool)
    (bitmap : LabelBitmap) :
    newResvMsg env buffer pNhip pathDstReach bitmap =
      newResvMsg env other pNhip pathDstReach bitmap := by
  simp only [Rsvpd.newResvMsg, same.sessionObj, same.hopObj, same.timeObj,
    same.labelObj]

theorem resvTreeInsert (env : Env) (tree : RecordTree ResvMsg)
    (pNhip : InAddr) (pathDstReach : Bool) (bitmap : LabelBitmap) :
    resvTreeInsert env tree buffer pNhip pathDstReach bitmap =
      resvTreeInsert env tree other pNhip pathDstReach bitmap := by
  rw [Rsvpd.resvTreeInsert, same.newResvMsg, Rsvpd.resvTreeInsert]

theorem receivePathMessage (env : Env) (d : Daemon) :
    receivePathMessage env buffer d = receivePathMessage env other d := by
  have inserted (tree : RecordTree PathMsg) :
      pathTreeInsert env tree buffer = pathTreeInsert env tree other := by
    rw [pathTreeInsert, same.newPathMsg, pathTreeInsert]
  have record (d : Daemon) :
      receivePathRecord env buffer d = receivePathRecord env other d := by
    simp only [receivePathRecord, same.tunnelId, inserted]
  have egress (p : PathMsg) (d : Daemon) :
      receivePathEgress env buffer p d = receivePathEgress env other p d := by
    simp only [receivePathEgress, same.tunnelId, same.resvTreeInsert]
  simp only [Rsvpd.receivePathMessage, same.tunnelId, record, egress]

theorem receiveResvMessage (env : Env) (d : Daemon) :
    receiveResvMessage env buffer d = receiveResvMessage env other d := by
  have session (d : Daemon) :
      insert env buffer d = insert env other d := by
    simp only [insert, same.tunnelId, same.sessionObj]
  have record (pa : PathMsg) (d : Daemon) :
      receiveResvRecord env buffer pa d =
        receiveResvRecord env other pa d := by
    simp only [receiveResvRecord, same.tunnelId, same.resvTreeInsert]
  simp only [Rsvpd.receiveResvMessage, same.tunnelId, session, record]

theorem mainReceive (env : Env) (d : Daemon) :
    mainReceive env buffer d = mainReceive env other d := by
  have path : mainPath env buffer d = mainPath env other d := by
    simp only [mainPath, mainPathSession, same.tunnelId, same.sessionObj,
      same.receivePathMessage]
  simp only [Rsvpd.mainReceive, same.msgType, path, same.receiveResvMessage]

end SameObjects

theorem recvBuffer_apply (datagram : List U8) (i : Nat) :
    recvBuffer datagram i = if i < 512 then datagram.getD i 0 else 0 := by
  unfold recvBuffer
  simp only [List.getD_eq_getElem?_getD, List.getElem?_take]
  split <;> rfl

theorem recvBuffer_behind {ipHeader : List U8}
    (headerLen : ipHeader.length = ipHeaderLen) (datagram : List U8)
    (missing i : Nat) :
    recvBuffer datagram (ipHeaderLen + i) =
      recvBuffer (ipHeader ++
        (datagram.drop ipHeaderLen ++ List.replicate missing 0))
        (ipHeaderLen + i) := by
  have completed : datagram.getD (ipHeaderLen + i) 0 =
      (ipHeader ++ (datagram.drop ipHeaderLen ++
        List.replicate missing 0)).getD (ipHeaderLen + i) 0 := by
    simp only [List.getD_eq_getElem?_getD]
    rw [List.getElem?_append_right (by omega), headerLen,
      Nat.add_sub_cancel_left, List.getElem?_append, List.getElem?_drop]
    split
    case isTrue => rfl
    case isFalse outside =>
      rw [List.length_drop] at outside
      rw [List.getElem?_eq_none (by omega), List.getElem?_replicate]
      split <;> rfl
  rw [recvBuffer_apply, recvBuffer_apply, completed]

theorem recvBuffer_sameObjects {ipHeader : List U8}
    (headerLen : ipHeader.length = ipHeaderLen) (datagram : List U8)
    (missing : Nat) :
    SameObjects (recvBuffer datagram)
      (recvBuffer (ipHeader ++
        (datagram.drop ipHeaderLen ++ List.replicate missing 0))) :=
  .of_behind (recvBuffer_behind headerLen datagram missing)

/-- A datagram that ends in front of its message type is of no type. -/
theorem mainReceive_tooShort (env : Env) (d : Daemon) {datagram : List U8}
    (tooShort : datagram.length ≤ ipHeaderLen + 1) :
    mainReceive env (recvBuffer datagram) d = some d := by
  have noType : (recvHeader (recvBuffer datagram)).msgType = 0 := by
    have beyond : datagram.getD (ipHeaderLen + 1) 0 = 0 := by
      rw [List.getD_eq_getElem?_getD, List.getElem?_eq_none tooShort]
      rfl
    rw [← beyond]
    exact recvBuffer_apply datagram (ipHeaderLen + 1)
  rw [mainReceive, noType, if_neg (by decide), if_neg (by decide)]

/-- The objects that the handlers of PATH read are those of the packet. -/
structure DecodesPath (buffer : Buffer) (packet : PathPacket) : Prop where
  msgType : (recvHeader buffer).msgType = packet.path.msgType
  sessionObj : recvSessionObj buffer = packet.sessionObj
  hopObj : recvHopObj buffer = packet.hopObj
  timeObj : recvTimeObj buffer = packet.timeObj
  sessionAttrObj : recvSessionAttrObj buffer = packet.sessionAttrObj

structure DecodesResv (buffer : Buffer) (packet : ResvPacket) : Prop where
  msgType : (recvHeader buffer).msgType = packet.resv.msgType
  sessionObj : recvSessionObj buffer = packet.sessionObj
  hopObj : recvHopObj buffer = packet.hopObj
  timeObj : recvTimeObj buffer = packet.timeObj
  labelObj : recvLabelObj buffer = packet.labelObj

/-- Behind an IP header without options a packet of either sender is read as
what it is.  Any datagram is handled as its bytes from the 20th on, completed
with zeros; one that ends in front of its message type changes nothing. -/
theorem datagram_read_from_20 (env : Env) (d : Daemon)
    (ipHeader datagram : List U8)
    (headerLen : ipHeader.length = ipHeaderLen) :
    (∀ sender p, DecodesPath (received ipHeader (pathSend sender p))
      (fillPathPacket sender.pathStack p)) ∧
    (∀ sender r, DecodesResv (received ipHeader (resvSend sender r))
      (fillResvPacket sender.resvStack r)) ∧
    (∀ missing, mainReceive env (recvBuffer datagram) d =
      mainReceive env (recvBuffer (ipHeader ++
        (datagram.drop ipHeaderLen ++ List.replicate missing 0))) d) ∧
    (datagram.length ≤ ipHeaderLen + 1 →
      mainReceive env (recvBuffer datagram) d = some d) := by
  refine ⟨fun sender p => ?_, fun sender r => ?_, fun missing => ?_,
    mainReceive_tooShort env d⟩
  · exact
      { msgType := recvHeader_recvBuffer headerLen _
        sessionObj := recvSessionObj_recvBuffer headerLen _
        hopObj := recvHopObj_recvBuffer headerLen _
        timeObj := recvTimeObj_recvBuffer headerLen _
        sessionAttrObj := recvSessionAttrObj_recvBuffer headerLen _ }
  · exact
      { msgType := recvHeader_recvBuffer headerLen _
        sessionObj := recvSessionObj_recvBuffer headerLen _
        hopObj := recvHopObj_recvBuffer headerLen _
        timeObj := recvTimeObj_recvBuffer headerLen _
        labelObj := recvLabelObj_recvBuffer headerLen _ }
  · exact (recvBuffer_sameObjects headerLen datagram missing).mainReceive
      env d

/-- The header of a PATH alone is handled as a PATH of tunnel 0. -/
def pathHeaderOnly : List U8 :=
  0x45 :: (List.replicate 19 0 ++ [0x10, 1])

theorem datagram_read_from_20_headerOnly :
    mainReceive (.toward none 0) (recvBuffer pathHeaderOnly) .init =
      mainReceive (.toward none 0) (recvBuffer
        (List.replicate ipHeaderLen 0 ++
          ([0x10, 1] ++ List.replicate 102 0))) .init :=
  (datagram_read_from_20 (.toward none 0) .init (List.replicate ipHeaderLen 0)
    pathHeaderOnly List.length_replicate).2.2.1 102

/-- With options in the IP header a PATH is not read where it is, and 22
bytes with the type of a PATH create a path record. -/
theorem options_misread_and_short_handled :
    ¬DecodesPath
      (received (0x46 :: List.replicate 23 0) (pathSend (.isolated 0) default))
      (fillPathPacket default default) ∧
    pathHeaderOnly.length < ipHeaderLen + pathPacketSize ∧
    (mainReceive (.toward none 0) (recvBuffer pathHeaderOnly) .init).map
      (fun d => ((d.pathTree.find 0).isSome, d.pathHead.length)) =
        some (true, 1) := by
  refine ⟨fun decodes => ?_, by decide, by decide +kernel⟩
  exact absurd decodes.msgType (by decide)

end Rsvpd
