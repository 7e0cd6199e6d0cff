import Rsvpd.Lib.Locks
import Rsvpd.Runs

/-!
# The mutexes of the shared pointers

Every handler but one takes the mutex of a pointer around each assignment and
each lookup.  `receive_path_message` releases the mutex of the path tree after
its lookup, assigns the tree without it, and releases it a second time.
-/

namespace Rsvpd

open Daemon Locks Transition

/-- What an effect does with the mutexes. -/
def Effect.lockOp : Effect → Op Mutex
  | .lock mutex => .acquire mutex
  | .unlock mutex => .release mutex
  | .assign pointer => .write pointer
  | .send _ _ => .unrelated
  | .system _ => .unrelated

/-- The effects keep the lock discipline. -/
def Orderly (effects : List Effect) : Prop :=
  Disciplined (effects.map Effect.lockOp)

/-- The trace grows by effects that keep the discipline and leave no mutex
held. -/
def CleanStep (d d' : Daemon) : Prop :=
  ∃ new, d'.trace = d.trace ++ new ∧ Clean (new.map Effect.lockOp)

namespace CleanStep

variable {d d' d'' : Daemon}

theorem of_trace (same : d'.trace = d.trace) : CleanStep d d' :=
  ⟨[], by rw [same, List.append_nil], .nil⟩

theorem refl (d : Daemon) : CleanStep d d := of_trace rfl

theorem trans (first : CleanStep d d') (second : CleanStep d' d'') :
    CleanStep d d'' := by
  obtain ⟨new, shape, clean⟩ := first
  obtain ⟨new', shape', clean'⟩ := second
  refine ⟨new ++ new', by rw [shape', shape, List.append_assoc], ?_⟩
  rw [List.map_append]
  exact clean.append clean'

theorem emit {effect : Effect} (unrelated : effect.lockOp = .unrelated) :
    CleanStep d (d.emit effect) := by
  refine ⟨[effect], rfl, ?_⟩
  rw [List.map_singleton, unrelated]
  exact .unrelated

theorem lookup (mutex : Mutex)
    (trace : d'.trace = d.trace ++ [.lock mutex, .unlock mutex]) :
    CleanStep d d' :=
  ⟨_, trace, Clean.criticalSection [] (by simp)⟩

theorem assignment (mutex : Mutex)
    (trace : d'.trace =
      d.trace ++ [.lock mutex, .assign mutex, .unlock mutex]) :
    CleanStep d d' :=
  ⟨_, trace, Clean.criticalSection [.write mutex] (by simp)⟩

theorem foldl {Step : Type} {act : Daemon → Step → Daemon}
    (steps : ∀ d step, CleanStep d (act d step)) (list : List Step)
    (d : Daemon) : CleanStep d (list.foldl act d) := by
  induction list generalizing d with
  | nil => exact refl d
  | cons step list ih => exact (steps d step).trans (ih (act d step))

end CleanStep

section Clean

variable (env : Env) (buffer : Buffer) (d : Daemon)

theorem lookup_clean (mutex : Mutex) :
    CleanStep d ((d.lock mutex).unlock mutex) :=
  .lookup mutex (by simp)

theorem sendPathMessage_clean (tunnelId : U16) :
    CleanStep d (sendPathMessage env tunnelId d) := by
  have looked := lookup_clean d .pathTree
  unfold sendPathMessage
  dsimp only
  split
  · exact looked
  · exact looked.trans (.emit rfl)

theorem sendResvMessage_clean (tunnelId : U16) :
    CleanStep d (sendResvMessage env tunnelId d) := by
  have looked := lookup_clean d .resvTree
  unfold sendResvMessage
  dsimp only
  split
  · exact looked
  · exact looked.trans (.emit rfl)

theorem deletePathNode_clean (tunnelId : U16) :
    CleanStep d (deletePathNode tunnelId d) := by
  unfold deletePathNode
  dsimp only
  split
  · exact .assignment .pathTree (by simp)
  · exact .lookup .pathTree (by simp)

theorem deleteResvNode_clean (tunnelId : U16) :
    CleanStep d (deleteResvNode tunnelId d) := by
  unfold deleteResvNode
  dsimp only
  split
  · exact .assignment .resvTree (by simp)
  · exact .lookup .resvTree (by simp)

theorem insert_clean : CleanStep d (insert env buffer d) := by
  unfold insert
  dsimp only
  split
  · exact .refl d
  · have looked : CleanStep d ({ d.lock .resvList with
        resvHead := (searchSession env.now (recvTunnelId buffer)
          (d.lock .resvList).resvHead).2 }.unlock .resvList) :=
      .lookup .resvList (by simp)
    split
    · exact looked
    · exact looked.trans
        (.assignment .resvList (by simp))

theorem mainPathSession_clean (reached : Int) :
    CleanStep d (mainPathSession env buffer reached d) := by
  have looked : CleanStep d ({ d.lock .pathList with
      pathHead := (searchSession env.now (recvTunnelId buffer)
        (d.lock .pathList).pathHead).2 }.unlock .pathList) :=
    .lookup .pathList (by simp)
  unfold mainPathSession
  dsimp only
  split
  · exact looked
  · exact looked.trans
      (.assignment .pathList (by simp))

theorem receiveResvRecord_clean (pa : PathMsg) :
    CleanStep d (receiveResvRecord env buffer pa d).1 := by
  unfold receiveResvRecord
  dsimp only
  split
  · exact .lookup .resvTree (by simp)
  · split
    · exact .lookup .resvTree (by simp)
    · exact .assignment .resvTree (by simp)

theorem installResv_clean (tunnelId : U16) (pa : PathMsg) (p : ResvMsg) :
    CleanStep d (installResv env tunnelId pa p d) := by
  have installed : CleanStep d (d.emit (.system (.add (addedRoute pa p)))) :=
    .emit rfl
  unfold installResv
  dsimp only
  split
  · exact installed
  · exact installed.trans (sendResvMessage_clean env _ tunnelId)

theorem receiveResvMessage_clean :
    CleanStep d (receiveResvMessage env buffer d) := by
  have looked := lookup_clean d .pathTree
  unfold receiveResvMessage
  dsimp only
  split
  · exact looked
  · rename_i pa _
    have recorded := (looked.trans (insert_clean env buffer _)).trans
      (receiveResvRecord_clean env buffer _ pa)
    split
    · exact recorded
    · exact recorded.trans (installResv_clean env _ _ pa _)

theorem receivePathEgress_clean (p : PathMsg) :
    CleanStep d (receivePathEgress env buffer p d) := by
  unfold receivePathEgress
  dsimp only
  split
  · exact .lookup .resvTree (by simp)
  · split
    · exact .lookup .resvTree (by simp)
    · exact .assignment .resvTree (by simp)

theorem pathVisit_clean (visit : Sweep.Visit Session) :
    CleanStep d (pathVisit env d visit) := by
  have refreshed (temp : Session) : CleanStep d (pathRefresh env temp d) := by
    have sent : CleanStep d (if temp.dest ≠ 0 ∧ temp.del = 0 then
        sendPathMessage env temp.tunnelId d else d) := by
      split
      · exact sendPathMessage_clean env d temp.tunnelId
      · exact .refl d
    unfold pathRefresh
    dsimp only
    split
    · exact sent.trans (deleteResvNode_clean _ temp.tunnelId)
    · exact sent
  cases visit with
  | keep temp => exact refreshed temp
  | delete temp reads list =>
      exact (refreshed temp).trans (.assignment .resvList (by simp [pathVisit]))

theorem resvTeardown_clean (temp : Session) :
    CleanStep d (resvTeardown temp d) := by
  unfold resvTeardown
  split
  · refine (deleteResvNode_clean d temp.tunnelId).trans ?_
    dsimp only
    split
    · exact .lookup .resvList (by simp)
    · exact .assignment .resvList (by simp)
  · exact .refl d

theorem resvVisit_clean (visit : Sweep.Visit Session) :
    CleanStep d (resvVisit env d visit) := by
  cases visit with
  | keep temp =>
      simp only [resvVisit]
      split
      · exact .refl d
      · split
        · exact sendResvMessage_clean env d temp.tunnelId
        · exact .refl d
  | delete temp reads list =>
      have removed : CleanStep d
          ((((deletePathNode temp.tunnelId d).lock .pathList).setPathHead
            list).unlock .pathList) :=
        (deletePathNode_clean d temp.tunnelId).trans
          (.assignment .pathList (by simp))
      exact removed.trans (resvTeardown_clean _ reads)

theorem pathTimerHandler_clean : CleanStep d (pathTimerHandler env d) := by
  rw [pathTimerHandler_visits]
  exact .foldl (pathVisit_clean env) _ d

theorem resvTimerHandler_clean : CleanStep d (resvTimerHandler env d) := by
  rw [resvTimerHandler_visits]
  exact .foldl (resvVisit_clean env) _ d

end Clean

/-- The handler releases the mutex of the path tree twice. -/
theorem receivePathRecord_disorderly (env : Env) (buffer : Buffer)
    (d : Daemon) :
    ∃ new, (receivePathRecord env buffer d).1.trace = d.trace ++ new ∧
      ¬Orderly new := by
  have looked : Clean [Op.acquire Mutex.pathTree, .release .pathTree] :=
    Clean.criticalSection [] (by simp)
  have released : ¬Orderly
      [.lock .pathTree, .unlock .pathTree, .unlock .pathTree] :=
    looked.not_release .pathTree
  have assigned : ¬Orderly
      [.lock .pathTree, .unlock .pathTree, .assign .pathTree,
        .unlock .pathTree] := by
    intro orderly
    have all : Disciplined ([Op.acquire Mutex.pathTree, .release .pathTree] ++
        [.write .pathTree] ++ [.release .pathTree]) := orderly
    exact looked.not_write .pathTree all.of_append
  unfold receivePathRecord
  dsimp only
  split
  · exact ⟨_, by simp, released⟩
  · split
    · exact ⟨_, by simp, released⟩
    · exact ⟨_, by simp, assigned⟩

theorem receivePathMessage_disorderly (env : Env) (buffer : Buffer)
    (d : Daemon) :
    ∃ new, (receivePathMessage env buffer d).trace = d.trace ++ new ∧
      ¬Orderly new := by
  obtain ⟨first, shape, disorderly⟩ := receivePathRecord_disorderly env
    buffer d
  have rest : CleanStep (receivePathRecord env buffer d).1
      (receivePathMessage env buffer d) := by
    unfold receivePathMessage
    dsimp only
    split
    · exact .refl _
    · split
      · exact (receivePathEgress_clean env buffer _ _).trans
          (sendResvMessage_clean env _ _)
      · exact sendPathMessage_clean env _ _
  obtain ⟨second, shape', _⟩ := rest
  refine ⟨first ++ second, by rw [shape', shape, List.append_assoc], ?_⟩
  rw [Orderly, List.map_append]
  exact fun orderly => disorderly orderly.of_append

/-- The event is a PATH datagram. -/
def IsPath : Event → Prop
  | .datagram _ buffer => (recvHeader buffer).msgType = pathMsgType
  | _ => False

theorem step_clean {d d' : Daemon} {event : Event} (notPath : ¬IsPath event)
    (taken : step d event = some d') : CleanStep d d' := by
  cases event with
  | datagram env buffer =>
      cases mainReceive_cases env buffer d taken with
      | path isPath routed result => exact absurd isPath notPath
      | resv isResv result =>
          rw [result]
          exact receiveResvMessage_clean env buffer d
      | other _ _ result =>
          rw [result]
          exact .refl d
  | pathTimer env =>
      cases taken
      exact pathTimerHandler_clean env d
  | resvTimer env =>
      cases taken
      exact resvTimerHandler_clean env d

theorem step_disorderly {d d' : Daemon} {event : Event} (isPath : IsPath event)
    (taken : step d event = some d') :
    ∃ new, d'.trace = d.trace ++ new ∧ ¬Orderly new := by
  cases event with
  | datagram env buffer =>
      cases mainReceive_cases env buffer d taken with
      | path _ routed result =>
          obtain ⟨first, shape, clean⟩ := mainPathSession_clean env buffer d
            (dstReached (env.reachRoute (recvSessionObj buffer).dstIp))
          obtain ⟨second, shape', disorderly⟩ :=
            receivePathMessage_disorderly env buffer (mainPathSession env
              buffer (dstReached (env.reachRoute
                (recvSessionObj buffer).dstIp)) d)
          refine ⟨first ++ second, ?_, ?_⟩
          · rw [result, shape', shape, List.append_assoc]
          · rw [Orderly, List.map_append, clean.disciplined_append_iff]
            exact disorderly
      | resv isResv result =>
          exact absurd (isResv.symm.trans isPath) (by decide)
      | other notPath _ result => exact absurd isPath notPath
  | pathTimer env => cases isPath
  | resvTimer env => cases isPath

/-- From any state, the effects of a sequence of events keep the lock
discipline if and only if none of the events is a PATH. -/
theorem orderly_iff_noPath {d d' : Daemon} {events : List Event}
    (run : runEvents step d events = some d') :
    ∃ new, d'.trace = d.trace ++ new ∧
      (Orderly new ↔ ∀ event ∈ events, ¬IsPath event) := by
  induction events generalizing d with
  | nil =>
      cases run
      exact ⟨[], by simp, iff_of_true Clean.nil.disciplined (by simp)⟩
  | cons event events ih =>
      obtain ⟨next, taken, rest⟩ := runEvents_cons.mp run
      obtain ⟨later, shape, orderly⟩ := ih rest
      rw [List.forall_mem_cons]
      by_cases isPath : IsPath event
      · obtain ⟨first, shape', disorderly⟩ := step_disorderly isPath taken
        refine ⟨first ++ later, by rw [shape, shape', List.append_assoc], ?_⟩
        refine iff_of_false ?_ fun both => both.1 isPath
        rw [Orderly, List.map_append]
        exact fun all => disorderly all.of_append
      · obtain ⟨first, shape', clean⟩ := step_clean isPath taken
        refine ⟨first ++ later, by rw [shape, shape', List.append_assoc], ?_⟩
        rw [Orderly, List.map_append, clean.disciplined_append_iff,
          and_iff_right isPath]
        exact orderly

/-- The ingress of tunnel 1 takes a RESV and runs both sweeps. -/
theorem resv_and_sweeps_orderly :
    ∃ d' new, runEvents step
        (startup (.toward (some ⟨3⟩) 0) ⟨1, ⟨1⟩, ⟨9⟩⟩)
        [.datagram (.toward none 0) (sampleResv 1 ⟨1⟩ ⟨9⟩ ⟨3⟩ 3).received,
          .pathTimer (.isolated 100), .resvTimer (.isolated 100)] = some d' ∧
      d'.trace = (startup (.toward (some ⟨3⟩) 0) ⟨1, ⟨1⟩, ⟨9⟩⟩).trace ++ new ∧
      Orderly new := by
  have handled : (runEvents step
      (startup (.toward (some ⟨3⟩) 0) ⟨1, ⟨1⟩, ⟨9⟩⟩)
      [.datagram (.toward none 0) (sampleResv 1 ⟨1⟩ ⟨9⟩ ⟨3⟩ 3).received,
        .pathTimer (.isolated 100), .resvTimer (.isolated 100)]).isSome := by
    decide +kernel
  obtain ⟨d', run⟩ := Option.isSome_iff_exists.mp handled
  obtain ⟨new, shape, orderly⟩ := orderly_iff_noPath run
  refine ⟨d', new, run, shape, orderly.mpr ?_⟩
  simp only [List.forall_mem_cons, List.not_mem_nil, false_implies,
    implies_true, and_true, IsPath, not_false_eq_true]
  rw [recvHeader_received]
  decide

/-- The first PATH that reaches a daemon breaks the discipline. -/
theorem first_path_disorderly :
    ∃ d', runEvents step .init [.datagram (.toward (some ⟨3⟩) 0)
        (samplePath 1 ⟨1⟩ ⟨9⟩ ⟨2⟩).received] = some d' ∧
      ¬Orderly d'.trace := by
  have handled : (step .init (.datagram (.toward (some ⟨3⟩) 0)
      (samplePath 1 ⟨1⟩ ⟨9⟩ ⟨2⟩).received)).isSome := by
    decide +kernel
  obtain ⟨d', taken⟩ := Option.isSome_iff_exists.mp handled
  have isPath : IsPath (.datagram (.toward (some ⟨3⟩) 0)
      (samplePath 1 ⟨1⟩ ⟨9⟩ ⟨2⟩).received) := recvHeader_received _
  obtain ⟨new, shape, disorderly⟩ := step_disorderly isPath taken
  refine ⟨d', runEvents_cons.mpr ⟨d', taken, rfl⟩, ?_⟩
  rw [shape]
  exact disorderly

end Rsvpd
