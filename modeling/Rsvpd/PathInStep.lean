import Rsvpd.Runs

/-!
# The path list and the path tree

`main` notes the session of a PATH, and `path_tree_insert` its record, each
after a lookup of its own; the reservation sweep deletes both.  Only a failed
node allocation leaves a session without a record.
-/

namespace Rsvpd

open Daemon Sweep

/-- Every datagram is handled with the same route lookup. -/
def FixedRoutes (lookup : InAddr → NexthopAnswer) (_ : Daemon) : Event → Prop
  | .datagram env _ => env.reachRoute = lookup ∧ env.insertRoute = lookup
  | .pathTimer _ => True
  | .resvTimer _ => True

/-- No allocation of a path tree node fails. -/
def PathMemory (_ : Daemon) : Event → Prop
  | .datagram env _ => env.pathMalloc = true
  | .pathTimer _ => True
  | .resvTimer _ => True

/-- No tunnel id is listed twice, and every record has a session. -/
structure PathListed (d : Daemon) : Prop where
  distinct : DistinctIds d.pathHead
  listed : ∀ tunnelId, findSession tunnelId d.pathHead = none →
    d.pathTree.find tunnelId = none

/-- Moreover every session has a record, and its flag says whether the record
has a next hop. -/
structure PathInStep (d : Daemon) : Prop extends PathListed d where
  recorded : ∀ tunnelId temp, findSession tunnelId d.pathHead = some temp →
    ∃ p, d.pathTree.find tunnelId = some p ∧
      (temp.dest = 1 ↔ p.nexthopIp = .any)

variable {d : Daemon}

theorem dest_iff_nexthop {answer : NexthopAnswer} (routed : answer.ret ≠ 0)
    (gateway : answer.nhip ≠ some .any) :
    BitVec.ofInt 8 (dstReached answer) = 1 ↔ answer.nhip.getD .any = .any := by
  rw [dstReached, if_pos routed]
  cases nexthop : answer.nhip with
  | none => simp
  | some nhip =>
      rw [nexthop, ne_eq, Option.some_inj] at gateway
      simp [gateway]

section Path

variable {env : Env} {buffer : Buffer} {reached : Int}

theorem PathListed.path (listed : PathListed d) :
    PathListed (receivePathMessage env buffer
      (mainPathSession env buffer reached d)) := by
  constructor
  · exact mainPath_distinct listed.distinct
  · intro tunnelId missing
    rw [findSession_mainPath] at missing
    split at missing
    case isTrue => cases missing
    case isFalse other =>
      rw [receivePathMessage_findPath_of_ne _ _ _ other]
      simpa using listed.listed tunnelId missing

/-- With fixed routes and memory, a session without a record is never left
behind, so a record is only built together with its session. -/
theorem PathInStep.path {lookup : InAddr → NexthopAnswer}
    (gateways : ∀ ip, (lookup ip).nhip ≠ some .any) (inStep : PathInStep d)
    (fixed : FixedRoutes lookup d (.datagram env buffer))
    (memory : PathMemory d (.datagram env buffer))
    (routed : dstReached (env.reachRoute (recvSessionObj buffer).dstIp) ≠
      -1) :
    PathInStep (receivePathMessage env buffer (mainPathSession env buffer
      (dstReached (env.reachRoute (recvSessionObj buffer).dstIp)) d)) := by
  refine ⟨inStep.toPathListed.path, ?_⟩
  intro tunnelId temp found
  rw [findSession_mainPath] at found
  split at found
  case isFalse other =>
    rw [receivePathMessage_findPath_of_ne _ _ _ other]
    simpa using inStep.recorded tunnelId temp found
  case isTrue same =>
    subst same
    cases known : findSession (recvTunnelId buffer) d.pathHead with
    | some old =>
        rw [known] at found
        cases found
        obtain ⟨p, held, agrees⟩ := inStep.recorded _ old known
        refine ⟨p, ?_, agrees⟩
        apply receivePathMessage_findPathSome
        simpa using held
    | none =>
        rw [known] at found
        cases found
        obtain ⟨sameReach, sameInsert⟩ := fixed
        have answers : (lookup (recvSessionObj buffer).dstIp).ret ≠ 0 := by
          intro noRoute
          rw [sameReach, dstReached, if_neg (not_not_intro noRoute)] at routed
          exact routed rfl
        have absent := inStep.listed _ known
        rw [receivePathMessage_pathTree, receivePathRecord_find]
        cases receivePathRecord_cases env buffer (mainPathSession env buffer
          (dstReached (env.reachRoute (recvSessionObj buffer).dstIp)) d) with
        | found p result held pathTree =>
            rw [(mainPathSession_frame _ _ _ _).1, absent] at held
            cases held
        | missing result missing noRoute pathTree =>
            rcases noRoute with unbuilt | noMemory
            · rw [← sameInsert] at answers
              obtain ⟨p, built⟩ := exists_newPathMsg answers
              rw [unbuilt] at built
              cases built
            · rw [show env.pathMalloc = true from memory] at noMemory
              cases noMemory
        | built p result missing built memory pathTree =>
            refine ⟨p, result, ?_⟩
            rw [(newPathMsg_nexthopIp built).2, sameInsert, sameReach]
            exact dest_iff_nexthop answers (gateways _)

end Path

theorem PathListed.resvTimer (env : Env) (listed : PathListed d) :
    PathListed (resvTimerHandler env d) := by
  constructor
  · exact resvTimerHandler_distinct listed.distinct
  · intro tunnelId missing
    rw [resvTimerHandler_findSession env listed.distinct] at missing
    rw [resvTimerHandler_findPath]
    split
    case isTrue => rfl
    case isFalse kept =>
      rw [if_neg kept] at missing
      exact listed.listed tunnelId missing

theorem PathInStep.resvTimer (env : Env) (inStep : PathInStep d) :
    PathInStep (resvTimerHandler env d) := by
  refine ⟨inStep.toPathListed.resvTimer env, ?_⟩
  intro tunnelId temp found
  rw [resvTimerHandler_findSession env inStep.distinct] at found
  rw [resvTimerHandler_findPath]
  split
  case isTrue gone =>
    rw [if_pos gone] at found
    cases found
  case isFalse kept =>
    rw [if_neg kept] at found
    exact inStep.recorded tunnelId temp found

section Runs

variable {env : Env} {config : TunnelConfig}

theorem startup_of_noTunnel (noTunnel : configuredPathMsg env config = none) :
    startup env config = .init := by
  rw [startup, noTunnel]

theorem pathListed_of_noTunnel {guard : Daemon → Event → Prop}
    (noTunnel : configuredPathMsg env config = none)
    (run : Reaches guard env config d) : PathListed d := by
  apply run.invariant
  · rw [startup_of_noTunnel noTunnel]
    exact ⟨List.nodup_nil, fun _ _ => rfl⟩
  · intro env buffer d listed _ _ _
    exact listed.path
  · intro env buffer d listed _ _
    exact ⟨by simpa using listed.distinct, by simpa using listed.listed⟩
  · intro env d listed _
    exact ⟨by simpa using listed.distinct, by simpa using listed.listed⟩
  · intro env d listed _
    exact listed.resvTimer env

theorem pathInStep_of_fixedRoutes {lookup : InAddr → NexthopAnswer}
    (gateways : ∀ ip, (lookup ip).nhip ≠ some .any)
    (noTunnel : configuredPathMsg env config = none)
    (run : Reaches (fun d event => FixedRoutes lookup d event ∧
      PathMemory d event) env config d) : PathInStep d := by
  apply run.invariant
  · rw [startup_of_noTunnel noTunnel]
    refine ⟨⟨List.nodup_nil, fun _ _ => rfl⟩, fun _ _ found => ?_⟩
    cases found
  · intro env buffer d inStep allowed _ routed
    exact inStep.path gateways allowed.1 allowed.2 routed
  · intro env buffer d inStep _ _
    exact ⟨⟨by simpa using inStep.distinct, by simpa using inStep.listed⟩,
      by simpa using inStep.recorded⟩
  · intro env d inStep _
    exact ⟨⟨by simpa using inStep.distinct, by simpa using inStep.listed⟩,
      by simpa using inStep.recorded⟩
  · intro env d inStep _
    exact inStep.resvTimer env

end Runs

theorem PathListed.mem_tunnelIds (listed : PathListed d) {p : PathMsg}
    (member : p ∈ d.pathTree.records) :
    p.tunnelId ∈ d.pathHead.map Session.tunnelId := by
  rw [RecordTree.mem_records_iff] at member
  cases found : findSession p.tunnelId d.pathHead with
  | none =>
      rw [show d.pathTree.find (Record.tunnelId p) = none from
        listed.listed _ found] at member
      cases member
  | some temp =>
      rw [← findSession_tunnelId found]
      exact List.mem_map_of_mem (mem_of_findSession found)

theorem PathInStep.exists_record (inStep : PathInStep d) {temp : Session}
    (member : temp ∈ d.pathHead) :
    ∃ p, d.pathTree.find temp.tunnelId = some p ∧
      (temp.dest = 1 ↔ p.nexthopIp = .any) :=
  inStep.recorded _ temp
    (inStep.distinct.findSession_iff.mpr ⟨member, rfl⟩)

/-- Without a tunnel of its own the node lists no tunnel id twice and has a
session for every path record; with fixed routes and memory for the nodes it
also has a record for every session, and the flag of a session says whether
the record has a next hop. -/
theorem path_list_in_step (lookup : InAddr → NexthopAnswer) {env : Env}
    {config : TunnelConfig} (gateways : ∀ ip, (lookup ip).nhip ≠ some .any)
    (noTunnel : configuredPathMsg env config = none) :
    (∀ d, Reaches (fun _ _ => True) env config d → DistinctIds d.pathHead ∧
      ∀ p ∈ d.pathTree.records,
        p.tunnelId ∈ d.pathHead.map Session.tunnelId) ∧
    ∀ d, Reaches (fun d event => FixedRoutes lookup d event ∧
      PathMemory d event) env config d →
      DistinctIds d.pathHead ∧
      (∀ tunnelId, tunnelId ∈ d.pathHead.map Session.tunnelId ↔
        tunnelId ∈ d.pathTree.records.map PathMsg.tunnelId) ∧
      ∀ temp ∈ d.pathHead, ∀ p ∈ d.pathTree.records,
        p.tunnelId = temp.tunnelId →
          (temp.dest = 1 ↔ p.nexthopIp = .any) := by
  constructor
  · intro d run
    have listed := pathListed_of_noTunnel noTunnel run
    exact ⟨listed.distinct, fun p member => listed.mem_tunnelIds member⟩
  · intro d run
    have inStep := pathInStep_of_fixedRoutes gateways noTunnel run
    refine ⟨inStep.distinct, fun tunnelId => ⟨?_, ?_⟩, ?_⟩
    · intro member
      obtain ⟨temp, listed, rfl⟩ := List.mem_map.mp member
      obtain ⟨p, held, _⟩ := inStep.exists_record listed
      rw [← show p.tunnelId = temp.tunnelId from
        RecordTree.find_tunnelId held]
      exact List.mem_map_of_mem (RecordTree.mem_of_find held)
    · intro member
      obtain ⟨p, recorded, rfl⟩ := List.mem_map.mp member
      exact inStep.mem_tunnelIds recorded
    · intro temp listed p recorded same
      obtain ⟨held, found, agrees⟩ := inStep.exists_record listed
      rw [RecordTree.mem_records_iff] at recorded
      rw [← same, show d.pathTree.find p.tunnelId = some p from recorded]
        at found
      cases found
      exact agrees

/-- A node that learns of tunnel 1 as its egress. -/
theorem egress_in_step :
    ∃ d, Transition.runEvents step (startup (.isolated 0) ⟨1, .any, .any⟩)
        [.datagram (.toward none 0) (samplePath 1 ⟨1⟩ ⟨9⟩ ⟨2⟩).received] =
          some d ∧
      d.pathHead.map (fun temp => (temp.tunnelId, temp.dest)) = [(1, 1)] ∧
      ∃ p ∈ d.pathTree.records, p.tunnelId = 1 ∧ p.nexthopIp = .any := by
  have noted : ((Transition.runEvents step
      (startup (.isolated 0) ⟨1, .any, .any⟩)
      [.datagram (.toward none 0)
        (samplePath 1 ⟨1⟩ ⟨9⟩ ⟨2⟩).received]).map fun d =>
        d.pathHead.map fun temp => (temp.tunnelId, temp.dest)) =
      some [(1, 1)] := by
    decide +kernel
  obtain ⟨d, run, shape⟩ := Option.map_eq_some_iff.mp noted
  have noTunnel :
      configuredPathMsg (.isolated 0) ⟨1, .any, .any⟩ = none := rfl
  obtain ⟨_, sameIds, flags⟩ := (path_list_in_step
    (Env.toward none 0).reachRoute (by simp [Env.toward]) noTunnel).2 d
    (.of_runEvents (by simp [FixedRoutes, PathMemory, Env.toward,
      Env.isolated]) run)
  obtain ⟨temp, only, here⟩ := List.map_eq_singleton_iff.mp shape
  obtain ⟨tunnelId, dest⟩ := Prod.mk.inj here
  have listed : temp ∈ d.pathHead := by simp [only]
  obtain ⟨p, recorded, same⟩ := List.mem_map.mp
    ((sameIds temp.tunnelId).mp (List.mem_map_of_mem listed))
  exact ⟨d, run, shape, p, recorded, same.trans tunnelId,
    (flags temp listed p recorded same).mp dest⟩

/-- A failed node allocation leaves a session without a record. -/
theorem path_list_ahead :
    ∃ lookup env config d, (∀ ip, (lookup ip).nhip ≠ some .any) ∧
      configuredPathMsg env config = none ∧
      Reaches (FixedRoutes lookup) env config d ∧
      ¬∀ tunnelId, tunnelId ∈ d.pathHead.map Session.tunnelId ↔
        tunnelId ∈ d.pathTree.records.map PathMsg.tunnelId := by
  have ahead : ((Transition.runEvents step
      (startup (.isolated 0) ⟨1, .any, .any⟩)
      [.datagram { Env.toward none 0 with pathMalloc := false }
        (samplePath 1 ⟨1⟩ ⟨9⟩ ⟨2⟩).received]).map fun d =>
        (d.pathHead.map Session.tunnelId,
          d.pathTree.records.map PathMsg.tunnelId)) = some ([1], []) := by
    decide +kernel
  obtain ⟨d, run, shape⟩ := Option.map_eq_some_iff.mp ahead
  obtain ⟨listed, unrecorded⟩ := Prod.mk.inj shape
  refine ⟨(Env.toward none 0).reachRoute, .isolated 0, ⟨1, .any, .any⟩, d,
    by simp [Env.toward], rfl, .of_runEvents ?_ run, ?_⟩
  · simp [FixedRoutes, Env.toward]
  · rw [listed, unrecorded]
    intro same
    exact absurd ((same 1).mp (List.mem_singleton_self 1)) (by simp)

end Rsvpd
