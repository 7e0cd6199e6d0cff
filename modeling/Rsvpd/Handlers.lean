import Rsvpd.Daemon

/-!
# What the message handlers do

One lemma for each handler and each part of the state, so that the properties
of runs never look into a handler.
-/

namespace Rsvpd

open Daemon

section Senders

variable (env : Env) (tunnelId : U16) (d : Daemon)

/-- What `send_path_message` hands to `sendto` for a record. -/
def pathSend (p : PathMsg) : InAddr × Packet :=
  (p.nexthopIp, .path (fillPathPacket env.pathStack p))

def resvSend (p : ResvMsg) : InAddr × Packet :=
  (p.nexthopIp, .resv (fillResvPacket env.resvStack p))

theorem sendPathMessage_emits :
    sendPathMessage env tunnelId d =
      d.emits (.lock .pathTree :: .unlock .pathTree ::
        ((d.pathTree.find tunnelId).map fun p =>
          Effect.send (pathSend env p).1 (pathSend env p).2).toList) := by
  unfold sendPathMessage
  simp only [unlock_pathTree, lock_pathTree]
  cases d.pathTree.find tunnelId <;>
    simp [lock, unlock, emit, emits, pathSend]

theorem sendResvMessage_emits :
    sendResvMessage env tunnelId d =
      d.emits (.lock .resvTree :: .unlock .resvTree ::
        ((d.resvTree.find tunnelId).map fun p =>
          Effect.send (resvSend env p).1 (resvSend env p).2).toList) := by
  unfold sendResvMessage
  simp only [unlock_resvTree, lock_resvTree]
  cases d.resvTree.find tunnelId <;>
    simp [lock, unlock, emit, emits, resvSend]

@[simp] theorem sendPathMessage_frame :
    (sendPathMessage env tunnelId d).pathTree = d.pathTree ∧
      (sendPathMessage env tunnelId d).resvTree = d.resvTree ∧
      (sendPathMessage env tunnelId d).pathHead = d.pathHead ∧
      (sendPathMessage env tunnelId d).resvHead = d.resvHead ∧
      (sendPathMessage env tunnelId d).labelBitmap = d.labelBitmap ∧
      (sendPathMessage env tunnelId d).commands = d.commands := by
  rw [sendPathMessage_emits]
  simp

@[simp] theorem sendResvMessage_frame :
    (sendResvMessage env tunnelId d).pathTree = d.pathTree ∧
      (sendResvMessage env tunnelId d).resvTree = d.resvTree ∧
      (sendResvMessage env tunnelId d).pathHead = d.pathHead ∧
      (sendResvMessage env tunnelId d).resvHead = d.resvHead ∧
      (sendResvMessage env tunnelId d).labelBitmap = d.labelBitmap ∧
      (sendResvMessage env tunnelId d).commands = d.commands := by
  rw [sendResvMessage_emits]
  simp

@[simp] theorem sendPathMessage_sent :
    (sendPathMessage env tunnelId d).sent = d.sent ++
      ((d.pathTree.find tunnelId).map (pathSend env)).toList := by
  rw [sendPathMessage_emits, emits_sent]
  cases d.pathTree.find tunnelId <;> rfl

@[simp] theorem sendResvMessage_sent :
    (sendResvMessage env tunnelId d).sent = d.sent ++
      ((d.resvTree.find tunnelId).map (resvSend env)).toList := by
  rw [sendResvMessage_emits, emits_sent]
  cases d.resvTree.find tunnelId <;> rfl

end Senders

section NewRecords

variable {env : Env} {buffer : Buffer}

/-- A new path record needs a route.  It takes its next hop from the answer
and copies these fields from the datagram, whatever the second lookup puts
into the others. -/
theorem newPathMsg_copies {p : PathMsg}
    (built : newPathMsg env buffer = some p) :
    (env.insertRoute (recvSessionObj buffer).dstIp).ret ≠ 0 ∧
      ∃ dev prefixLen eSrcip ifh, p =
        { dev, prefixLen, eSrcip, ifh
          tunnelId := recvTunnelId buffer
          srcIp := (recvSessionObj buffer).srcIp
          destIp := (recvSessionObj buffer).dstIp
          nexthopIp :=
            (env.insertRoute (recvSessionObj buffer).dstIp).nhip.getD .any
          pSrcip := (recvHopObj buffer).nextHop
          interval := (recvTimeObj buffer).interval
          setupPriority := (recvSessionAttrObj buffer).setupPrio
          holdPriority := (recvSessionAttrObj buffer).holdPrio
          flags := (recvSessionAttrObj buffer).flags
          lspId := 1
          name := strncpyName (recvSessionAttrObj buffer).name } := by
  unfold newPathMsg at built
  dsimp only at built
  split at built
  case isFalse => cases built
  case isTrue routed =>
    refine ⟨routed, ?_⟩
    split at built
    case h_1 answer =>
      cases built
      rw [answer]
      exact ⟨_, _, _, _, rfl⟩
    case h_2 nhip answer =>
      rw [answer]
      split at built
      all_goals
        cases built
        exact ⟨_, _, _, _, rfl⟩

theorem newPathMsg_fields {p : PathMsg}
    (built : newPathMsg env buffer = some p) :
    p.tunnelId = recvTunnelId buffer ∧
      p.srcIp = (recvSessionObj buffer).srcIp ∧
      p.destIp = (recvSessionObj buffer).dstIp ∧
      p.pSrcip = (recvHopObj buffer).nextHop := by
  obtain ⟨_, _, _, _, _, rfl⟩ := newPathMsg_copies built
  exact ⟨rfl, rfl, rfl, rfl⟩

theorem newPathMsg_nexthopIp {p : PathMsg}
    (built : newPathMsg env buffer = some p) :
    (env.insertRoute (recvSessionObj buffer).dstIp).ret ≠ 0 ∧
      p.nexthopIp =
        (env.insertRoute (recvSessionObj buffer).dstIp).nhip.getD .any := by
  obtain ⟨routed, _, _, _, _, rfl⟩ := newPathMsg_copies built
  exact ⟨routed, rfl⟩

theorem exists_newPathMsg
    (routed : (env.insertRoute (recvSessionObj buffer).dstIp).ret ≠ 0) :
    ∃ p, newPathMsg env buffer = some p := by
  simp only [newPathMsg, if_pos routed]
  split
  · exact ⟨_, rfl⟩
  · split <;> exact ⟨_, rfl⟩

theorem newPathMsg_eSrcip {p : PathMsg} {nhip srcip : InAddr}
    (built : newPathMsg env buffer = some p)
    (answer : (env.insertRoute (recvSessionObj buffer).dstIp).nhip =
      some nhip)
    (routed : (env.srcipRoute nhip).ret ≠ 0)
    (source : (env.srcipRoute nhip).srcip = some srcip) :
    p.eSrcip = srcip := by
  unfold newPathMsg at built
  simp only [answer, if_pos routed, source, Option.getD_some] at built
  split at built
  case isTrue =>
    cases built
    rfl
  case isFalse => cases built

variable (env buffer) in
theorem newResvMsg_copies (pNhip : InAddr) (pathDstReach : Bool)
    (bitmap : LabelBitmap) :
    ∃ eSrcip ifh inLabel outLabel,
      (newResvMsg env buffer pNhip pathDstReach bitmap).1 =
        { env.resvHeap with
          eSrcip, ifh, inLabel, outLabel
          tunnelId := recvTunnelId buffer
          srcIp := (recvSessionObj buffer).srcIp
          destIp := (recvSessionObj buffer).dstIp
          nexthopIp := pNhip
          pSrcip := (recvHopObj buffer).nextHop
          interval := (recvTimeObj buffer).interval } := by
  cases pathDstReach with
  | true =>
      simp only [newResvMsg, if_true]
      split <;> exact ⟨_, _, _, _, rfl⟩
  | false =>
      simp only [newResvMsg, Bool.false_eq_true, if_false]
      split
      case isTrue => exact ⟨_, _, _, _, rfl⟩
      case isFalse =>
        dsimp only
        split <;> exact ⟨_, _, _, _, rfl⟩

variable (env buffer) in
theorem newResvMsg_fields (pNhip : InAddr) (pathDstReach : Bool)
    (bitmap : LabelBitmap) :
    let p := (newResvMsg env buffer pNhip pathDstReach bitmap).1
    p.tunnelId = recvTunnelId buffer ∧
      p.srcIp = (recvSessionObj buffer).srcIp ∧
      p.destIp = (recvSessionObj buffer).dstIp ∧
      p.nexthopIp = pNhip ∧
      p.pSrcip = (recvHopObj buffer).nextHop := by
  obtain ⟨_, _, _, _, copied⟩ :=
    newResvMsg_copies env buffer pNhip pathDstReach bitmap
  rw [copied]
  exact ⟨rfl, rfl, rfl, rfl, rfl⟩

theorem find_newResvMsg {pNhip : InAddr} {pathDstReach : Bool}
    {bitmap : LabelBitmap} {table : RecordTree ResvMsg}
    (missing : table.find (recvTunnelId buffer) = none) :
    table.find (Record.tunnelId
      (newResvMsg env buffer pNhip pathDstReach bitmap).1) = none := by
  rw [← missing,
    ← (newResvMsg_fields env buffer pNhip pathDstReach bitmap).1]
  rfl

variable (env buffer) in
theorem newResvMsg_egress (pNhip : InAddr) (bitmap : LabelBitmap) :
    (newResvMsg env buffer pNhip true bitmap).1.inLabel = implicitNull ∧
      (newResvMsg env buffer pNhip true bitmap).2 = bitmap := by
  simp only [newResvMsg, if_true, and_true]
  split <;> rfl

theorem newResvMsg_ingress (bitmap : LabelBitmap) :
    (newResvMsg env buffer .any false bitmap).1.inLabel = -1 ∧
      (newResvMsg env buffer .any false bitmap).2 = bitmap := by
  simp [newResvMsg]

variable (env buffer) in
theorem newResvMsg_transit {pNhip : InAddr} (transit : pNhip ≠ .any)
    (bitmap : LabelBitmap) :
    ((newResvMsg env buffer pNhip false bitmap).1.inLabel,
      (newResvMsg env buffer pNhip false bitmap).2) =
        allocateLabel bitmap := by
  simp only [newResvMsg, Bool.false_eq_true, if_false, if_neg transit]
  split <;> rfl

theorem newResvMsg_outLabel (pNhip : InAddr) (bitmap : LabelBitmap) :
    (newResvMsg env buffer pNhip false bitmap).1.outLabel =
      ntohl (recvLabelObj buffer).label := by
  simp only [newResvMsg, Bool.false_eq_true, if_false]
  split
  case isTrue => rfl
  case isFalse =>
    dsimp only
    split <;> rfl

end NewRecords

section ReceivePath

variable (env : Env) (buffer : Buffer) (d : Daemon)

/-- What looking a path record up, or inserting it, may come to. -/
inductive PathRecord (d d' : Daemon) (node : Option PathMsg) : Prop
  | found (p : PathMsg) (result : node = some p)
      (found : d.pathTree.find (recvTunnelId buffer) = some p)
      (pathTree : d'.pathTree = d.pathTree)
  | missing (result : node = none)
      (missing : d.pathTree.find (recvTunnelId buffer) = none)
      (noRoute : newPathMsg env buffer = none ∨ env.pathMalloc = false)
      (pathTree : d'.pathTree = d.pathTree)
  | built (p : PathMsg) (result : node = some p)
      (missing : d.pathTree.find (recvTunnelId buffer) = none)
      (built : newPathMsg env buffer = some p)
      (memory : env.pathMalloc = true)
      (pathTree : d'.pathTree = d.pathTree.insert true p)

theorem receivePathRecord_cases :
    PathRecord env buffer d (receivePathRecord env buffer d).1
      (receivePathRecord env buffer d).2 := by
  unfold receivePathRecord
  simp only [unlock_pathTree, lock_pathTree]
  cases known : d.pathTree.find (recvTunnelId buffer) with
  | some p => exact .found p rfl known rfl
  | none =>
      cases built : newPathMsg env buffer with
      | none =>
          simp only [pathTreeInsert, built]
          exact .missing rfl known (.inl built) rfl
      | some p =>
          simp only [pathTreeInsert, built]
          cases memory : env.pathMalloc with
          | false =>
              simp only [RecordTree.insert_noMemory]
              split
              case isTrue => exact .missing rfl known (.inr memory) rfl
              case isFalse => exact .missing known known (.inr memory) rfl
          | true =>
              have inserted := RecordTree.find_insert_self p
                (newPathMsg_fields built).1 known
              split
              case isTrue empty =>
                rw [RecordTree.eq_insert_of_isNull empty, known] at inserted
                cases inserted
              case isFalse =>
                exact .built p inserted known built memory rfl

theorem receivePathRecord_find :
    (receivePathRecord env buffer d).1.pathTree.find (recvTunnelId buffer) =
      (receivePathRecord env buffer d).2 := by
  cases receivePathRecord_cases env buffer d with
  | found p result found pathTree => rw [pathTree, found, result]
  | missing result missing noRoute pathTree => rw [pathTree, missing, result]
  | built p result missing built memory pathTree =>
      rw [pathTree, result]
      exact RecordTree.find_insert_self p (newPathMsg_fields built).1 missing

@[simp] theorem receivePathRecord_frame :
    (receivePathRecord env buffer d).1.resvTree = d.resvTree ∧
      (receivePathRecord env buffer d).1.pathHead = d.pathHead ∧
      (receivePathRecord env buffer d).1.resvHead = d.resvHead ∧
      (receivePathRecord env buffer d).1.labelBitmap = d.labelBitmap ∧
      (receivePathRecord env buffer d).1.sent = d.sent ∧
      (receivePathRecord env buffer d).1.commands = d.commands := by
  unfold receivePathRecord
  dsimp only
  split
  · simp
  · split <;> simp

@[simp] theorem receivePathEgress_frame (p : PathMsg) :
    (receivePathEgress env buffer p d).pathTree = d.pathTree ∧
      (receivePathEgress env buffer p d).pathHead = d.pathHead ∧
      (receivePathEgress env buffer p d).resvHead = d.resvHead ∧
      (receivePathEgress env buffer p d).labelBitmap = d.labelBitmap ∧
      (receivePathEgress env buffer p d).sent = d.sent ∧
      (receivePathEgress env buffer p d).commands = d.commands := by
  unfold receivePathEgress
  dsimp only
  split
  · simp
  · have noLabel := (newResvMsg_egress env buffer p.pSrcip d.labelBitmap).2
    split <;> simp [resvTreeInsert, noLabel, sent, commands]

/-- A tree is stored unless it is `NULL`; then it was `NULL` before. -/
theorem storeResvTree_resvTree {tree : RecordTree ResvMsg}
    (same : tree.isNull = true → tree = d.resvTree) :
    (if tree.isNull then d else d.setResvTree tree).resvTree = tree := by
  split
  case isTrue empty => exact (same empty).symm
  case isFalse => rfl

theorem receivePathEgress_resvTree (p : PathMsg) :
    (receivePathEgress env buffer p d).resvTree =
      match d.resvTree.find (recvTunnelId buffer) with
      | some _ => d.resvTree
      | none => d.resvTree.insert env.resvMalloc
          (newResvMsg env buffer p.pSrcip true d.labelBitmap).1 := by
  simp only [receivePathEgress, lock_resvTree]
  cases d.resvTree.find (recvTunnelId buffer) with
  | some r => rfl
  | none =>
      rw [unlock_resvTree]
      exact storeResvTree_resvTree _ RecordTree.eq_insert_of_isNull

@[simp] theorem receivePathMessage_frame :
    (receivePathMessage env buffer d).pathHead = d.pathHead ∧
      (receivePathMessage env buffer d).resvHead = d.resvHead ∧
      (receivePathMessage env buffer d).labelBitmap = d.labelBitmap ∧
      (receivePathMessage env buffer d).commands = d.commands := by
  unfold receivePathMessage
  dsimp only
  split
  · simp
  · split <;> simp

theorem receivePathMessage_pathTree :
    (receivePathMessage env buffer d).pathTree =
      (receivePathRecord env buffer d).1.pathTree := by
  unfold receivePathMessage
  dsimp only
  split
  · rfl
  · split <;> simp

/-- A PATH leaves the reservations alone or, at the egress, adds one. -/
inductive PathReservation (d d' : Daemon) : Prop
  | kept (resvTree : d'.resvTree = d.resvTree)
  | created (p : PathMsg)
      (path : d'.pathTree.find (recvTunnelId buffer) = some p)
      (egress : p.nexthopIp = .any)
      (missing : d.resvTree.find (recvTunnelId buffer) = none)
      (memory : env.resvMalloc = true)
      (resvTree : d'.resvTree = d.resvTree.insert true
        (newResvMsg env buffer p.pSrcip true d.labelBitmap).1)

theorem receivePathMessage_resvTree :
    PathReservation env buffer d (receivePathMessage env buffer d) := by
  have held := receivePathRecord_find env buffer d
  rw [← receivePathMessage_pathTree] at held
  cases node : (receivePathRecord env buffer d).2 with
  | none => exact .kept (by simp [receivePathMessage, node])
  | some p =>
      rw [node] at held
      by_cases egress : p.nexthopIp = .any
      · have stored : (receivePathMessage env buffer d).resvTree =
            (receivePathEgress env buffer p
              (receivePathRecord env buffer d).1).resvTree := by
          simp [receivePathMessage, node, egress]
        simp only [receivePathEgress_resvTree, receivePathRecord_frame]
          at stored
        cases missing : d.resvTree.find (recvTunnelId buffer) with
        | some r =>
            rw [missing] at stored
            exact .kept stored
        | none =>
            rw [missing] at stored
            cases memory : env.resvMalloc with
            | false =>
                rw [memory, RecordTree.insert_noMemory] at stored
                exact .kept stored
            | true =>
                rw [memory] at stored
                exact .created p held egress missing memory stored
      · exact .kept (by simp [receivePathMessage, node, egress])

theorem receivePathMessage_findPathSome {tunnelId : U16} {p : PathMsg}
    (found : d.pathTree.find tunnelId = some p) :
    (receivePathMessage env buffer d).pathTree.find tunnelId = some p := by
  rw [receivePathMessage_pathTree]
  cases receivePathRecord_cases env buffer d with
  | found p' result known pathTree => rwa [pathTree]
  | missing result missing noRoute pathTree => rwa [pathTree]
  | built p' result missing built memory pathTree =>
      rw [pathTree]
      exact RecordTree.find_insert_some _ _ found

theorem receivePathMessage_findPath_of_ne {tunnelId : U16}
    (other : tunnelId ≠ recvTunnelId buffer) :
    (receivePathMessage env buffer d).pathTree.find tunnelId =
      d.pathTree.find tunnelId := by
  rw [receivePathMessage_pathTree]
  cases receivePathRecord_cases env buffer d with
  | found p' result known pathTree => rw [pathTree]
  | missing result missing noRoute pathTree => rw [pathTree]
  | built p' result missing built memory pathTree =>
      rw [pathTree, RecordTree.find_insert, if_neg]
      exact fun same => other (same.trans (newPathMsg_fields built).1)

theorem receivePathMessage_pathHeld
    (routed : (env.insertRoute (recvSessionObj buffer).dstIp).ret ≠ 0)
    (memory : env.pathMalloc = true) :
    ∃ p, (receivePathMessage env buffer d).pathTree.find
      (recvTunnelId buffer) = some p := by
  rw [receivePathMessage_pathTree, receivePathRecord_find]
  cases receivePathRecord_cases env buffer d with
  | found p result found pathTree => exact ⟨p, result⟩
  | missing result missing noRoute pathTree =>
      rcases noRoute with unbuilt | noMemory
      · obtain ⟨p, built⟩ := exists_newPathMsg routed
        rw [unbuilt] at built
        cases built
      · rw [memory] at noMemory
        cases noMemory
  | built p result missing built memory pathTree => exact ⟨p, result⟩

theorem receivePathMessage_resvHeld {p : PathMsg}
    (held : (receivePathMessage env buffer d).pathTree.find
      (recvTunnelId buffer) = some p)
    (egress : p.nexthopIp = .any) (memory : env.resvMalloc = true) :
    ∃ r, (receivePathMessage env buffer d).resvTree.find
      (recvTunnelId buffer) = some r := by
  rw [receivePathMessage_pathTree, receivePathRecord_find] at held
  have stored : (receivePathMessage env buffer d).resvTree =
      (receivePathEgress env buffer p
        (receivePathRecord env buffer d).1).resvTree := by
    simp [receivePathMessage, held, egress]
  simp only [receivePathEgress_resvTree, receivePathRecord_frame] at stored
  cases missing : d.resvTree.find (recvTunnelId buffer) with
  | some r =>
      rw [missing] at stored
      exact ⟨r, by rw [stored, missing]⟩
  | none =>
      rw [missing, memory] at stored
      rw [stored]
      exact ⟨_, RecordTree.find_insert_self _
        (newResvMsg_fields env buffer p.pSrcip true d.labelBitmap).1
        missing⟩

/-- What a PATH makes the node send: nothing, an answer from the reservation
it then holds, or a PATH from the record it then holds. -/
theorem receivePathMessage_sent :
    (receivePathMessage env buffer d).sent = d.sent ++
      match (receivePathMessage env buffer d).pathTree.find
        (recvTunnelId buffer) with
      | none => []
      | some p =>
          if p.nexthopIp = .any then
            (((receivePathMessage env buffer d).resvTree.find
              (recvTunnelId buffer)).map (resvSend env)).toList
          else [pathSend env p] := by
  have held := receivePathRecord_find env buffer d
  rw [receivePathMessage_pathTree, held]
  cases node : (receivePathRecord env buffer d).2 with
  | none => simp [receivePathMessage, node]
  | some p =>
      rw [node] at held
      by_cases egress : p.nexthopIp = .any
      · simp [receivePathMessage, node, egress]
      · simp [receivePathMessage, node, egress, held]

end ReceivePath

section ReceiveResv

variable (env : Env) (buffer : Buffer) (d : Daemon)

@[simp] theorem insert_frame :
    (insert env buffer d).pathTree = d.pathTree ∧
      (insert env buffer d).resvTree = d.resvTree ∧
      (insert env buffer d).pathHead = d.pathHead ∧
      (insert env buffer d).labelBitmap = d.labelBitmap ∧
      (insert env buffer d).sent = d.sent ∧
      (insert env buffer d).commands = d.commands := by
  unfold insert
  dsimp only
  split
  · simp
  · split <;> simp [sent, commands]

theorem insert_resvHead :
    (insert env buffer d).resvHead =
      if dstReached (env.reachRoute (recvSessionObj buffer).srcIp) = -1 then
        d.resvHead
      else
        noteSession env.now (recvTunnelId buffer)
          (recvSessionObj buffer).srcIp (recvSessionObj buffer).dstIp
          (BitVec.ofInt 8
            (dstReached (env.reachRoute (recvSessionObj buffer).srcIp)))
          d.resvHead := by
  simp only [insert, noteSession, lock_resvHead]
  split
  case isTrue => rfl
  case isFalse =>
    rcases searchSession env.now (recvTunnelId buffer) d.resvHead with
      ⟨_ | temp, list⟩ <;> rfl

/-- The record that a RESV creates at a node with this path record. -/
def resvMade (pa : PathMsg) : ResvMsg × LabelBitmap :=
  newResvMsg env buffer pa.pSrcip false d.labelBitmap

theorem resvMade_tunnelId (pa : PathMsg) :
    (resvMade env buffer d pa).1.tunnelId = recvTunnelId buffer :=
  (newResvMsg_fields _ _ _ _ _).1

theorem resvMade_nexthopIp (pa : PathMsg) :
    (resvMade env buffer d pa).1.nexthopIp = pa.pSrcip :=
  (newResvMsg_fields _ _ _ _ _).2.2.2.1

theorem resvMade_label (pa : PathMsg) :
    ((resvMade env buffer d pa).1.inLabel = -1 ∧
      (resvMade env buffer d pa).2 = d.labelBitmap) ∨
    (pa.pSrcip ≠ .any ∧
      labelMin ≤ (resvMade env buffer d pa).1.inLabel.toNat ∧
      (resvMade env buffer d pa).1.inLabel.toNat ≤ labelMax ∧
      isAllocated d.labelBitmap (resvMade env buffer d pa).1.inLabel =
        false ∧
      ∀ other, isAllocated (resvMade env buffer d pa).2 other =
        (decide (other = (resvMade env buffer d pa).1.inLabel) ||
          isAllocated d.labelBitmap other)) := by
  by_cases ingress : pa.pSrcip = .any
  · left
    rw [resvMade, ingress]
    exact newResvMsg_ingress d.labelBitmap
  · have taken := newResvMsg_transit env buffer ingress d.labelBitmap
    have allocates := allocateLabel_allocates d.labelBitmap
    generalize allocateLabel d.labelBitmap = result at taken allocates
    rw [resvMade]
    cases allocates with
    | full =>
        exact .inl (Prod.mk.inj taken)
    | fresh label bitmap' low high free _ marked =>
        obtain ⟨sameLabel, sameBitmap⟩ := Prod.mk.inj taken
        rw [sameLabel, sameBitmap]
        exact .inr ⟨ingress, low, high, free, marked⟩

theorem resvMade_marks (pa : PathMsg) {label : U32}
    (allocated : isAllocated d.labelBitmap label = true) :
    isAllocated (resvMade env buffer d pa).2 label = true := by
  rcases resvMade_label env buffer d pa with ⟨_, same⟩ | ⟨_, _, _, _, marked⟩
  · rwa [same]
  · rw [marked, allocated, Bool.or_true]

/-- What a RESV may do to the reservations, the labels and the kernel. -/
inductive ResvReservation (d d' : Daemon) : Prop
  | kept
      (known : d.pathTree.find (recvTunnelId buffer) = none ∨
        ∃ r, d.resvTree.find (recvTunnelId buffer) = some r)
      (resvTree : d'.resvTree = d.resvTree)
      (labelBitmap : d'.labelBitmap = d.labelBitmap)
      (commands : d'.commands = d.commands)
      (sent : d'.sent = d.sent)
  | noMemory (pa : PathMsg)
      (path : d.pathTree.find (recvTunnelId buffer) = some pa)
      (missing : d.resvTree.find (recvTunnelId buffer) = none)
      (memory : env.resvMalloc = false)
      (resvTree : d'.resvTree = d.resvTree)
      (labelBitmap : d'.labelBitmap = (resvMade env buffer d pa).2)
      (commands : d'.commands = d.commands)
      (sent : d'.sent = d.sent)
  | created (pa : PathMsg)
      (path : d.pathTree.find (recvTunnelId buffer) = some pa)
      (missing : d.resvTree.find (recvTunnelId buffer) = none)
      (memory : env.resvMalloc = true)
      (resvTree : d'.resvTree =
        d.resvTree.insert true (resvMade env buffer d pa).1)
      (labelBitmap : d'.labelBitmap = (resvMade env buffer d pa).2)
      (commands : d'.commands =
        d.commands ++ [.add (addedRoute pa (resvMade env buffer d pa).1)])
      (sent : d'.sent = d.sent ++
        if (resvMade env buffer d pa).1.nexthopIp = .any then []
        else [resvSend env (resvMade env buffer d pa).1])

@[simp] theorem receiveResvRecord_frame (pa : PathMsg) :
    (receiveResvRecord env buffer pa d).1.pathTree = d.pathTree ∧
      (receiveResvRecord env buffer pa d).1.pathHead = d.pathHead ∧
      (receiveResvRecord env buffer pa d).1.resvHead = d.resvHead ∧
      (receiveResvRecord env buffer pa d).1.sent = d.sent ∧
      (receiveResvRecord env buffer pa d).1.commands = d.commands := by
  unfold receiveResvRecord
  dsimp only
  split
  · simp
  · split <;> simp [resvTreeInsert, sent, commands]

theorem receiveResvRecord_known (pa : PathMsg) {r : ResvMsg}
    (known : d.resvTree.find (recvTunnelId buffer) = some r) :
    (receiveResvRecord env buffer pa d).1.resvTree = d.resvTree ∧
      (receiveResvRecord env buffer pa d).1.labelBitmap = d.labelBitmap ∧
      (receiveResvRecord env buffer pa d).2 = none := by
  simp [receiveResvRecord, known]

theorem receiveResvRecord_missing (pa : PathMsg)
    (missing : d.resvTree.find (recvTunnelId buffer) = none) :
    (receiveResvRecord env buffer pa d).1.resvTree =
        d.resvTree.insert env.resvMalloc (resvMade env buffer d pa).1 ∧
      (receiveResvRecord env buffer pa d).1.labelBitmap =
        (resvMade env buffer d pa).2 ∧
      (receiveResvRecord env buffer pa d).2 =
        if env.resvMalloc then some (resvMade env buffer d pa).1
        else none := by
  have same : newResvMsg env buffer pa.pSrcip false
      (d.lock .resvTree).labelBitmap = resvMade env buffer d pa := rfl
  have inserted := RecordTree.find_insert_self
    (resvMade env buffer d pa).1 (resvMade_tunnelId env buffer d pa) missing
  simp only [receiveResvRecord, lock_resvTree, missing, resvTreeInsert, same]
  generalize resvMade env buffer d pa = made at inserted ⊢
  split
  case isTrue empty =>
    have same := RecordTree.eq_insert_of_isNull empty
    cases memory : env.resvMalloc with
    | false =>
        rw [RecordTree.insert_noMemory]
        exact ⟨rfl, rfl, rfl⟩
    | true =>
        rw [memory] at same
        rw [same, missing] at inserted
        cases inserted
  case isFalse =>
    refine ⟨rfl, rfl, ?_⟩
    cases memory : env.resvMalloc with
    | false =>
        rw [RecordTree.insert_noMemory, missing]
        rfl
    | true =>
        rw [inserted]
        rfl

@[simp] theorem installResv_frame (tunnelId : U16) (pa : PathMsg)
    (p : ResvMsg) :
    (installResv env tunnelId pa p d).pathTree = d.pathTree ∧
      (installResv env tunnelId pa p d).resvTree = d.resvTree ∧
      (installResv env tunnelId pa p d).pathHead = d.pathHead ∧
      (installResv env tunnelId pa p d).resvHead = d.resvHead ∧
      (installResv env tunnelId pa p d).labelBitmap = d.labelBitmap ∧
      (installResv env tunnelId pa p d).commands =
        d.commands ++ [.add (addedRoute pa p)] := by
  unfold installResv
  dsimp only
  split <;> simp

theorem installResv_sent {tunnelId : U16} (pa : PathMsg) {p : ResvMsg}
    (held : d.resvTree.find tunnelId = some p) :
    (installResv env tunnelId pa p d).sent =
      d.sent ++ if p.nexthopIp = .any then [] else [resvSend env p] := by
  unfold installResv
  dsimp only
  split <;> simp [held]

/-- The state in which `receive_resv_message` looks the reservation up. -/
private def afterInsert : Daemon :=
  insert env buffer ((d.lock .pathTree).unlock .pathTree)

@[simp] private theorem afterInsert_frame :
    (afterInsert env buffer d).pathTree = d.pathTree ∧
      (afterInsert env buffer d).resvTree = d.resvTree ∧
      (afterInsert env buffer d).pathHead = d.pathHead ∧
      (afterInsert env buffer d).labelBitmap = d.labelBitmap ∧
      (afterInsert env buffer d).sent = d.sent ∧
      (afterInsert env buffer d).commands = d.commands := by
  simp [afterInsert]

private theorem receiveResvMessage_held {pa : PathMsg}
    (path : d.pathTree.find (recvTunnelId buffer) = some pa) :
    receiveResvMessage env buffer d =
      match (receiveResvRecord env buffer pa (afterInsert env buffer d)).2 with
      | none => (receiveResvRecord env buffer pa (afterInsert env buffer d)).1
      | some p => installResv env (recvTunnelId buffer) pa p
          (receiveResvRecord env buffer pa (afterInsert env buffer d)).1 := by
  simp only [receiveResvMessage, unlock_pathTree, lock_pathTree, path]
  rfl

@[simp] theorem receiveResvMessage_frame :
    (receiveResvMessage env buffer d).pathTree = d.pathTree ∧
      (receiveResvMessage env buffer d).pathHead = d.pathHead := by
  cases path : d.pathTree.find (recvTunnelId buffer) with
  | none => simp [receiveResvMessage, path]
  | some pa =>
      rw [receiveResvMessage_held env buffer d path]
      split <;> simp

theorem receiveResvMessage_resvHead :
    (receiveResvMessage env buffer d).resvHead =
      match d.pathTree.find (recvTunnelId buffer) with
      | none => d.resvHead
      | some _ => (insert env buffer d).resvHead := by
  cases path : d.pathTree.find (recvTunnelId buffer) with
  | none => simp [receiveResvMessage, path]
  | some pa =>
      rw [receiveResvMessage_held env buffer d path]
      split <;> simp [afterInsert, insert_resvHead]

theorem receiveResvMessage_cases :
    ResvReservation env buffer d (receiveResvMessage env buffer d) := by
  cases path : d.pathTree.find (recvTunnelId buffer) with
  | none =>
      have ignored : receiveResvMessage env buffer d =
          (d.lock .pathTree).unlock .pathTree := by
        simp [receiveResvMessage, path]
      rw [ignored]
      exact .kept (.inl path) (by simp) (by simp) (by simp) (by simp)
  | some pa =>
      have sameMade : resvMade env buffer (afterInsert env buffer d) pa =
          resvMade env buffer d pa := by simp [resvMade]
      rw [receiveResvMessage_held env buffer d path]
      cases missing : d.resvTree.find (recvTunnelId buffer) with
      | some r =>
          obtain ⟨resvTree, labelBitmap, node⟩ := receiveResvRecord_known env
            buffer (afterInsert env buffer d) pa (by simpa using missing)
          simp only [node]
          exact .kept (.inr ⟨r, missing⟩) (by simp [resvTree])
            (by simp [labelBitmap]) (by simp) (by simp)
      | none =>
          obtain ⟨resvTree, labelBitmap, node⟩ := receiveResvRecord_missing
            env buffer (afterInsert env buffer d) pa (by simpa using missing)
          rw [sameMade] at resvTree labelBitmap node
          simp only [afterInsert_frame] at resvTree
          cases memory : env.resvMalloc with
          | false =>
              simp only [memory, Bool.false_eq_true, if_false] at node
              rw [memory, RecordTree.insert_noMemory] at resvTree
              simp only [node]
              exact .noMemory pa path missing memory resvTree labelBitmap
                (by simp) (by simp)
          | true =>
              simp only [memory, if_true] at node
              rw [memory] at resvTree
              have held : (receiveResvRecord env buffer pa
                  (afterInsert env buffer d)).1.resvTree.find
                    (recvTunnelId buffer) =
                  some (resvMade env buffer d pa).1 := by
                rw [resvTree]
                exact RecordTree.find_insert_self _
                  (resvMade_tunnelId env buffer d pa) missing
              simp only [node]
              exact .created pa path missing memory (by simp [resvTree])
                (by simp [labelBitmap]) (by simp)
                (by rw [installResv_sent env _ pa held]; simp)

end ReceiveResv

section MainReceive

variable (env : Env) (buffer : Buffer) (reached : Int) (d : Daemon)

@[simp] theorem mainPathSession_frame :
    (mainPathSession env buffer reached d).pathTree = d.pathTree ∧
      (mainPathSession env buffer reached d).resvTree = d.resvTree ∧
      (mainPathSession env buffer reached d).resvHead = d.resvHead ∧
      (mainPathSession env buffer reached d).labelBitmap = d.labelBitmap ∧
      (mainPathSession env buffer reached d).sent = d.sent ∧
      (mainPathSession env buffer reached d).commands = d.commands := by
  unfold mainPathSession
  dsimp only
  split <;> simp [sent, commands]

theorem mainPathSession_pathHead :
    (mainPathSession env buffer reached d).pathHead =
      noteSession env.now (recvTunnelId buffer)
        (recvSessionObj buffer).srcIp (recvSessionObj buffer).dstIp
        (BitVec.ofInt 8 reached) d.pathHead := by
  simp only [mainPathSession, noteSession, lock_pathHead]
  rcases searchSession env.now (recvTunnelId buffer) d.pathHead with
    ⟨_ | temp, list⟩ <;> rfl

theorem findSession_mainPath (target : U16) :
    findSession target (receivePathMessage env buffer
        (mainPathSession env buffer reached d)).pathHead =
      if target = recvTunnelId buffer then
        some (match findSession (recvTunnelId buffer) d.pathHead with
          | some temp => { temp with lastPathTime := env.now }
          | none =>
              { sender := (recvSessionObj buffer).srcIp
                receiver := (recvSessionObj buffer).dstIp
                tunnelId := recvTunnelId buffer
                dest := BitVec.ofInt 8 reached
                del := 0
                lastPathTime := env.now })
      else findSession target d.pathHead := by
  simp only [receivePathMessage_frame, mainPathSession_pathHead]
  exact findSession_noteSession _ _ _ _ _ _ target

/-- The datagrams that the loop of `main` takes without returning. -/
inductive Received (d' : Daemon) : Prop
  | path (isPath : (recvHeader buffer).msgType = pathMsgType)
      (routed : dstReached (env.reachRoute (recvSessionObj buffer).dstIp) ≠
        -1)
      (result : d' = receivePathMessage env buffer
        (mainPathSession env buffer
          (dstReached (env.reachRoute (recvSessionObj buffer).dstIp)) d))
  | resv (isResv : (recvHeader buffer).msgType = resvMsgType)
      (result : d' = receiveResvMessage env buffer d)
  | other (notPath : (recvHeader buffer).msgType ≠ pathMsgType)
      (notResv : (recvHeader buffer).msgType ≠ resvMsgType)
      (result : d' = d)

theorem mainReceive_cases {d' : Daemon}
    (taken : mainReceive env buffer d = some d') :
    Received env buffer d d' := by
  unfold mainReceive at taken
  split at taken
  case isTrue isPath =>
    rw [mainPath] at taken
    split at taken
    case isTrue => cases taken
    case isFalse routed =>
      cases taken
      exact .path isPath routed rfl
  case isFalse notPath =>
    split at taken
    case isTrue isResv =>
      cases taken
      exact .resv isResv rfl
    case isFalse notResv =>
      cases taken
      exact .other notPath notResv rfl

end MainReceive

theorem startup_of_configured {env : Env} {config : TunnelConfig}
    {path : PathMsg} (built : configuredPathMsg env config = some path) :
    (startup env config).pathTree =
        RecordTree.null.insert env.pathMalloc path ∧
      (startup env config).resvHead = insertSession env.now config.tunnelId
        config.srcip config.dstip 1 [] := by
  simp [startup, built]

end Rsvpd
