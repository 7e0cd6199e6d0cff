import Rsvpd.Runs

/-!
# Reservations that a sweep can still expire

A sweep reaches a reservation record through a session of its tunnel id: any
session of the reservation list, or an egress session of the path list.
-/

namespace Rsvpd

open Daemon Sweep

/-- Some sweep can still expire the reservation of this tunnel id. -/
def Expirable (d : Daemon) (tunnelId : U16) : Prop :=
  (∃ temp ∈ d.resvHead, temp.tunnelId = tunnelId) ∨
    ∃ temp ∈ d.pathHead, temp.tunnelId = tunnelId ∧ temp.dest ≠ 0

def NoOrphans (d : Daemon) : Prop :=
  ∀ r ∈ d.resvTree.records, Expirable d r.tunnelId

/-- The lookup finds the destination to be the node itself. -/
def AnswersLocal (answer : NexthopAnswer) : Prop :=
  answer.ret ≠ 0 ∧ answer.nhip.getD .any = .any

/-- The node takes itself for the egress of the datagram's tunnel. -/
def TakenForEgress (env : Env) (buffer : Buffer) (d : Daemon) : Prop :=
  (∃ p, d.pathTree.find (recvTunnelId buffer) = some p ∧
    p.nexthopIp = .any) ∨
  (d.pathTree.find (recvTunnelId buffer) = none ∧ env.pathMalloc = true ∧
    AnswersLocal (env.insertRoute (recvSessionObj buffer).dstIp))

/-- The step makes no orphan: a datagram that creates a record finds or
creates a session that can expire it, and the reservation sweep does not read
past an egress session whose record no reservation session can expire. -/
def MakesNoOrphan (d : Daemon) : Event → Prop
  | .datagram env buffer =>
      d.resvTree.find (recvTunnelId buffer) = none →
      env.resvMalloc = true →
      Expirable d (recvTunnelId buffer) ∨
      ((recvHeader buffer).msgType = pathMsgType →
        TakenForEgress env buffer d →
          findSession (recvTunnelId buffer) d.pathHead = none ∧
            dstReached (env.reachRoute (recvSessionObj buffer).dstIp) = 1) ∧
      ((recvHeader buffer).msgType = resvMsgType →
        d.pathTree.find (recvTunnelId buffer) ≠ none →
          dstReached (env.reachRoute (recvSessionObj buffer).srcIp) ≠ -1)
  | .pathTimer _ => True
  | .resvTimer env => ∀ front temp next post,
      d.pathHead = front ++ temp :: next :: post →
      PassedOver (Expired env.now) (front ++ [temp]) → temp.dest ≠ 0 →
      d.resvTree.find temp.tunnelId ≠ none →
        ∃ sess ∈ d.resvHead, sess.tunnelId = temp.tunnelId

theorem NoOrphans.expirable {d : Daemon} (none : NoOrphans d)
    {tunnelId : U16} {r : ResvMsg}
    (found : d.resvTree.find tunnelId = some r) : Expirable d tunnelId := by
  have ids : r.tunnelId = tunnelId := RecordTree.find_tunnelId found
  rw [← ids]
  exact none r (RecordTree.mem_of_find found)

theorem noOrphans_of_find {d : Daemon}
    (covered : ∀ tunnelId r, d.resvTree.find tunnelId = some r →
      Expirable d tunnelId) : NoOrphans d := by
  intro r member
  exact covered _ r (RecordTree.mem_records_iff.mp member)

theorem Expirable.mono {d d' : Daemon} {tunnelId : U16}
    (covered : Expirable d tunnelId)
    (resvs : ∀ temp ∈ d.resvHead, ∃ lastPathTime,
      { temp with lastPathTime } ∈ d'.resvHead)
    (paths : ∀ temp ∈ d.pathHead, ∃ lastPathTime,
      { temp with lastPathTime } ∈ d'.pathHead) :
    Expirable d' tunnelId := by
  rcases covered with ⟨temp, member, same⟩ | ⟨temp, member, same, egress⟩
  · obtain ⟨lastPathTime, kept⟩ := resvs temp member
    exact .inl ⟨_, kept, same⟩
  · obtain ⟨lastPathTime, kept⟩ := paths temp member
    exact .inr ⟨_, kept, same, egress⟩

theorem mainPathSession_expirable {env : Env} {buffer : Buffer}
    {reached : Int} {d : Daemon} {tunnelId : U16}
    (covered : Expirable d tunnelId) :
    Expirable (mainPathSession env buffer reached d) tunnelId := by
  apply covered.mono
  · intro temp member
    exact ⟨temp.lastPathTime, by simpa using member⟩
  · intro temp member
    rw [mainPathSession_pathHead]
    exact mem_noteSession member

/-- A record with no next hop after a PATH was there, or was built from a
local answer. -/
theorem takenForEgress_of_find {env : Env} {buffer : Buffer} {reached : Int}
    {d : Daemon} {p : PathMsg}
    (held : (receivePathMessage env buffer
      (mainPathSession env buffer reached d)).pathTree.find
        (recvTunnelId buffer) = some p)
    (egress : p.nexthopIp = .any) : TakenForEgress env buffer d := by
  rw [receivePathMessage_pathTree, receivePathRecord_find] at held
  cases receivePathRecord_cases env buffer
    (mainPathSession env buffer reached d) with
  | found p' result found pathTree =>
      cases result.symm.trans held
      exact .inl ⟨p, by simpa using found, egress⟩
  | missing result missing noRoute pathTree =>
      cases result.symm.trans held
  | built p' result missing built memory pathTree =>
      cases result.symm.trans held
      obtain ⟨routed, nexthop⟩ := newPathMsg_nexthopIp built
      rw [nexthop] at egress
      exact .inr ⟨by simpa using missing, memory, routed, egress⟩

theorem mainPath_noOrphans {env : Env} {buffer : Buffer} {d : Daemon}
    (none : NoOrphans d) (allowed : MakesNoOrphan d (.datagram env buffer))
    (isPath : (recvHeader buffer).msgType = pathMsgType) :
    NoOrphans (receivePathMessage env buffer (mainPathSession env buffer
      (dstReached (env.reachRoute (recvSessionObj buffer).dstIp)) d)) := by
  generalize reaches :
    dstReached (env.reachRoute (recvSessionObj buffer).dstIp) = reached
  let d₁ := mainPathSession env buffer reached d
  have covered₂ {tunnelId : U16} (covered : Expirable d₁ tunnelId) :
      Expirable (receivePathMessage env buffer d₁) tunnelId := by
    apply covered.mono
    all_goals
      intro temp member
      exact ⟨temp.lastPathTime, by simpa using member⟩
  have old : NoOrphans d₁ := by
    apply noOrphans_of_find
    intro tunnelId r found
    rw [show d₁.resvTree = d.resvTree by simp [d₁]] at found
    exact mainPathSession_expirable (none.expirable found)
  apply noOrphans_of_find
  intro tunnelId r found
  cases receivePathMessage_resvTree env buffer d₁ with
  | kept resvTree =>
      rw [resvTree] at found
      exact covered₂ (old.expirable found)
  | created p path egress missing memory resvTree =>
      rw [resvTree, RecordTree.find_insert] at found
      split at found
      case isFalse => exact covered₂ (old.expirable found)
      case isTrue same =>
        have same : tunnelId = recvTunnelId buffer :=
          same.trans (newResvMsg_fields _ _ _ _ _).1
        subst same
        apply covered₂
        rcases allowed (by simpa [d₁] using missing) memory with
          covered | ⟨created, _⟩
        · exact mainPathSession_expirable covered
        · obtain ⟨noSession, here⟩ := created isPath
            (takenForEgress_of_find path egress)
          have noted : d₁.pathHead =
              insertSession env.now (recvTunnelId buffer)
                (recvSessionObj buffer).srcIp (recvSessionObj buffer).dstIp
                (BitVec.ofInt 8 reached) d.pathHead := by
            rw [mainPathSession_pathHead, noteSession_missing noSession]
          right
          rw [noted, insertSession]
          refine ⟨_, List.mem_cons_self, rfl, ?_⟩
          rw [← reaches, here]
          exact (by decide : BitVec.ofInt 8 1 ≠ 0)

theorem receiveResvMessage_noOrphans {env : Env} {buffer : Buffer}
    {d : Daemon} (none : NoOrphans d)
    (allowed : MakesNoOrphan d (.datagram env buffer))
    (isResv : (recvHeader buffer).msgType = resvMsgType) :
    NoOrphans (receiveResvMessage env buffer d) := by
  have covers {tunnelId : U16} (covered : Expirable d tunnelId) :
      Expirable (receiveResvMessage env buffer d) tunnelId := by
    apply covered.mono
    · intro temp member
      rw [receiveResvMessage_resvHead]
      split
      · exact ⟨temp.lastPathTime, member⟩
      · rw [insert_resvHead]
        split
        · exact ⟨temp.lastPathTime, member⟩
        · exact mem_noteSession member
    · intro temp member
      exact ⟨temp.lastPathTime, by simpa using member⟩
  apply noOrphans_of_find
  intro tunnelId r found
  cases receiveResvMessage_cases env buffer d with
  | kept known resvTree labelBitmap commands sent =>
      rw [resvTree] at found
      exact covers (none.expirable found)
  | noMemory pa path missing memory resvTree labelBitmap commands sent =>
      rw [resvTree] at found
      exact covers (none.expirable found)
  | created pa path missing memory resvTree labelBitmap commands sent =>
      rw [resvTree, RecordTree.find_insert] at found
      split at found
      case isFalse => exact covers (none.expirable found)
      case isTrue same =>
        have same : tunnelId = recvTunnelId buffer :=
          same.trans (resvMade_tunnelId env buffer d pa)
        subst same
        rcases allowed missing memory with covered | ⟨_, routed⟩
        · exact covers covered
        · have reached := routed isResv (by simp [path])
          left
          rw [receiveResvMessage_resvHead, path]
          dsimp only
          rw [insert_resvHead, if_neg reached]
          exact exists_noteSession

theorem pathTimerHandler_noOrphans (env : Env) {d : Daemon}
    (none : NoOrphans d) : NoOrphans (pathTimerHandler env d) := by
  apply noOrphans_of_find
  intro tunnelId r found
  obtain ⟨before, kept⟩ := pathTimerHandler_findSome found
  rcases none.expirable before with ⟨temp, member, same⟩ | path
  · left
    rw [pathTimerHandler_resvHead]
    rcases mem_remaining_or (Removable env.now) [] member with
      left | ⟨reads, list, deleted⟩
    · exact ⟨temp, left, same⟩
    · exact absurd ⟨temp, mem_sweep_iff_visits.mp ⟨_, deleted, rfl⟩,
        (doomed_of_delete deleted).1, same⟩ kept
  · exact .inr (by simpa using path)

theorem resvTimerHandler_noOrphans {env : Env} {d : Daemon}
    (none : NoOrphans d) (allowed : MakesNoOrphan d (.resvTimer env)) :
    NoOrphans (resvTimerHandler env d) := by
  apply noOrphans_of_find
  intro tunnelId r found
  obtain ⟨before, kept⟩ := resvTimerHandler_findSome found
  have resvKept : (∃ temp ∈ d.resvHead, temp.tunnelId = tunnelId) →
      Expirable (resvTimerHandler env d) tunnelId := by
    rintro ⟨temp, member, same⟩
    left
    rw [resvTimerHandler_resvHead]
    refine ⟨temp, mem_eraseSessions member ?_, same⟩
    rw [same]
    exact mt mem_resvTears.mp kept
  rcases none.expirable before with resv | ⟨temp, member, same, egress⟩
  · exact resvKept resv
  · rcases mem_remaining_or (Expired env.now) [] member with
      left | ⟨reads, list, deleted⟩
    · right
      rw [resvTimerHandler_pathHead]
      exact ⟨temp, left, same, egress⟩
    · rcases mem_sweep_delete .start deleted with
        ⟨rfl, _⟩ | ⟨front, post, shape, passed⟩
      · exact absurd ⟨reads, mem_sweep_iff_reads.mp ⟨_, _, deleted⟩,
          egress, same⟩ kept
      · apply resvKept
        rw [← same] at before ⊢
        exact allowed front temp reads post shape (by simpa using passed)
          egress (by simp [before])

/-- In every run whose steps make no orphan there is none. -/
theorem noOrphans_of_makesNoOrphan {env : Env} {config : TunnelConfig}
    {d : Daemon} (run : Reaches MakesNoOrphan env config d) :
    NoOrphans d := by
  apply run.invariant
  · intro r member
    simp at member
  · intro env buffer d none allowed isPath _
    exact mainPath_noOrphans none allowed isPath
  · intro env buffer d none allowed isResv
    exact receiveResvMessage_noOrphans none allowed isResv
  · intro env d none _
    exact pathTimerHandler_noOrphans env none
  · intro env d none allowed
    exact resvTimerHandler_noOrphans none allowed

/-- A PATH reaches its egress. -/
def egressEvent : Event :=
  .datagram (.toward none 0) (samplePath 1 ⟨1⟩ ⟨9⟩ ⟨2⟩).received

theorem egressEvent_noOrphans :
    ∃ d, step (startup (.isolated 0) ⟨1, .any, .any⟩) egressEvent = some d ∧
      d.resvTree.records.length = 1 ∧ NoOrphans d := by
  have allowed : MakesNoOrphan (startup (.isolated 0) ⟨1, .any, .any⟩)
      egressEvent := by
    intro _ _
    refine .inr ⟨fun _ _ => ⟨by simp, by decide⟩, fun isResv => ?_⟩
    exact absurd isResv (by decide)
  have stored : ((step (startup (.isolated 0) ⟨1, .any, .any⟩)
      egressEvent).map fun d => d.resvTree.records.length) = some 1 := by
    decide +kernel
  obtain ⟨d, taken, one⟩ := Option.map_eq_some_iff.mp stored
  exact ⟨d, taken, one,
    noOrphans_of_makesNoOrphan (.single ⟨_, allowed, taken⟩)⟩

/-- A RESV whose source no route covers leaves a record without a session. -/
theorem orphan_reachable :
    ∃ env config d, Reaches (fun _ _ => True) env config d ∧
      ¬NoOrphans d := by
  have made : ((Transition.runEvents step
      (startup (.isolated 0) ⟨1, .any, .any⟩)
      [.datagram (.toward (some ⟨3⟩) 0) (samplePath 1 ⟨1⟩ ⟨9⟩ ⟨2⟩).received,
       .datagram (.isolated 0) (sampleResv 1 ⟨1⟩ ⟨9⟩ ⟨3⟩ 3).received]).map
        fun d => (d.resvTree.records.length, d.resvHead,
          d.pathHead.map Session.dest)) = some (1, [], [0]) := by
    decide +kernel
  obtain ⟨d, run, final⟩ := Option.map_eq_some_iff.mp made
  obtain ⟨one, noResv, transit⟩ : d.resvTree.records.length = 1 ∧
      d.resvHead = [] ∧ d.pathHead.map Session.dest = [0] := by
    simpa using final
  refine ⟨_, _, d, .of_runEvents (fun _ _ _ => trivial) run, ?_⟩
  intro none
  obtain ⟨r, only⟩ := List.length_eq_one_iff.mp one
  rcases none r (by simp [only]) with ⟨temp, member, _⟩ |
    ⟨temp, member, _, egress⟩
  · rw [noResv] at member
    cases member
  · have dest := List.mem_map_of_mem (f := Session.dest) member
    rw [transit, List.mem_singleton] at dest
    exact egress dest

end Rsvpd
