import Rsvpd.Runs

/-!
# Reservations behind their path records

`receive_resv_message` refuses a RESV without a path record, and a PATH
inserts a reservation only behind its own path record.  After that only
`resv_timer_handler` can take the path record away: together with the
reservation at an egress, alone at a transit router, where the reservation
has a timer of its own.
-/

namespace Rsvpd

open Sweep

section Tunnel

variable (tunnelId : U16)

/-- The tunnel has no reservation record without a path record. -/
def PathBehind (d : Daemon) : Prop :=
  d.resvTree.find tunnelId ≠ none → d.pathTree.find tunnelId ≠ none

/-- The reservation sweep deletes no path session of a reserved tunnel but one
of an egress at the head or at the tail of the list, where `temp` still reads
as that session after `delete_session`. -/
def TearsDownOwn (d : Daemon) : Event → Prop
  | .datagram _ _ => True
  | .pathTimer _ => True
  | .resvTimer env => d.resvTree.find tunnelId ≠ none →
      ∀ front temp post, d.pathHead = front ++ temp :: post →
        temp.tunnelId = tunnelId → Expired env.now temp →
        ¬PassedOver (Expired env.now) front →
          temp.dest ≠ 0 ∧
            ((∀ other ∈ front, Expired env.now other) ∨ post = [])

end Tunnel

variable {tunnelId : U16} {env : Env} {d : Daemon}

theorem receivePathMessage_pathBehind (env : Env) (buffer : Buffer)
    (behind : PathBehind tunnelId d) :
    PathBehind tunnelId (receivePathMessage env buffer d) := by
  have kept (held : d.pathTree.find tunnelId ≠ none) :
      (receivePathMessage env buffer d).pathTree.find tunnelId ≠ none := by
    obtain ⟨p, found⟩ := Option.ne_none_iff_exists'.mp held
    rw [receivePathMessage_findPathSome env buffer d found]
    exact Option.some_ne_none p
  intro reserved
  cases receivePathMessage_resvTree env buffer d with
  | kept resvTree =>
      rw [resvTree] at reserved
      exact kept (behind reserved)
  | created p path egress missing memory resvTree =>
      rw [resvTree, RecordTree.find_insert] at reserved
      split at reserved
      case isTrue same =>
        rw [same.trans (newResvMsg_fields _ _ _ _ _).1, path]
        exact Option.some_ne_none p
      case isFalse => exact kept (behind reserved)

theorem receiveResvMessage_pathBehind (env : Env) (buffer : Buffer)
    (behind : PathBehind tunnelId d) :
    PathBehind tunnelId (receiveResvMessage env buffer d) := by
  intro reserved
  rw [(receiveResvMessage_frame env buffer d).1]
  cases receiveResvMessage_cases env buffer d with
  | kept known resvTree labelBitmap commands sent =>
      rw [resvTree] at reserved
      exact behind reserved
  | noMemory pa path missing memory resvTree labelBitmap commands sent =>
      rw [resvTree] at reserved
      exact behind reserved
  | created pa path missing memory resvTree labelBitmap commands sent =>
      rw [resvTree, RecordTree.find_insert] at reserved
      split at reserved
      case isTrue same =>
        rw [same.trans (resvMade_tunnelId env buffer d pa), path]
        exact Option.some_ne_none pa
      case isFalse => exact behind reserved

theorem pathTimerHandler_pathBehind (env : Env)
    (behind : PathBehind tunnelId d) :
    PathBehind tunnelId (pathTimerHandler env d) := by
  intro reserved
  rw [(pathTimerHandler_frame env d).1]
  obtain ⟨r, found⟩ := Option.ne_none_iff_exists'.mp reserved
  apply behind
  rw [(pathTimerHandler_findSome found).1]
  exact Option.some_ne_none r

theorem resvTimerHandler_pathBehind (behind : PathBehind tunnelId d)
    (tearsDown : TearsDownOwn tunnelId d (.resvTimer env)) :
    PathBehind tunnelId (resvTimerHandler env d) := by
  intro reserved
  obtain ⟨r, found⟩ := Option.ne_none_iff_exists'.mp reserved
  obtain ⟨before, kept⟩ := resvTimerHandler_findSome found
  have held : d.resvTree.find tunnelId ≠ none := by
    rw [before]
    exact Option.some_ne_none r
  rw [resvTimerHandler_findPath, if_neg]
  · exact behind held
  · -- a visit that removes the path record tears the reservation down as well
    intro removed
    obtain ⟨temp, deleted, same⟩ := mem_pathRemoves.mp removed
    obtain ⟨⟨front, post, shape, visited⟩, expired⟩ :=
      mem_deletions_iff.mp deleted
    obtain ⟨egress, ends⟩ :=
      tearsDown held front temp post shape same expired visited
    exact kept ⟨temp, ⟨front, post, shape, .inr ⟨expired, ends⟩⟩, egress,
      same⟩

/-- In every run whose reservation sweeps delete no path session of the
tunnel as long as it is reserved, save for those of an egress that they tear
down with it, the reservation has a path record. -/
theorem pathBehind_of_tearsDownOwn {config : TunnelConfig}
    (run : Reaches (TearsDownOwn tunnelId) env config d) :
    PathBehind tunnelId d := by
  apply run.invariant
  · intro reserved
    simp at reserved
  · intro env buffer d behind _ _ _
    apply receivePathMessage_pathBehind
    simpa [PathBehind] using behind
  · intro env buffer d behind _ _
    exact receiveResvMessage_pathBehind env buffer behind
  · intro env d behind _
    exact pathTimerHandler_pathBehind env behind
  · intro env d behind tearsDown
    exact resvTimerHandler_pathBehind behind tearsDown

/-- An egress of two tunnels sweeps when the session of tunnel 1 has expired
and that of tunnel 2 has not. -/
def egressEvents : List Event :=
  [.datagram (.toward none 0) (samplePath 1 ⟨1⟩ ⟨9⟩ ⟨2⟩).received,
   .datagram (.toward none 90) (samplePath 2 ⟨1⟩ ⟨9⟩ ⟨2⟩).received]

theorem egressSweep_allowed {d : Daemon} {later old : Session}
    (shape : d.pathHead = [later, old]) (live : ¬Expired 100 later)
    (egress : old.dest ≠ 0) (tunnelId : U16) :
    TearsDownOwn tunnelId d (.resvTimer (.isolated 100)) := by
  intro _ front temp post split _ expired _
  rw [shape] at split
  cases front with
  | nil =>
      cases split
      exact absurd expired live
  | cons _ front =>
      cases front with
      | nil =>
          cases split
          exact ⟨egress, .inr rfl⟩
      | cons _ front => simp at split

/-- The sweep takes both records of tunnel 1 and leaves those of tunnel 2. -/
theorem egressEvents_pathBehind :
    ∃ d, Transition.runEvents step (startup (.isolated 0) ⟨1, .any, .any⟩)
        (egressEvents ++ [.resvTimer (.isolated 100)]) = some d ∧
      PathBehind 1 d ∧ d.resvTree.find 1 = none ∧ d.pathTree.find 1 = none ∧
      d.resvTree.find 2 ≠ none ∧ d.pathTree.find 2 ≠ none := by
  have heard : ((Transition.runEvents step
      (startup (.isolated 0) ⟨1, .any, .any⟩) egressEvents).map
        fun d => d.pathHead) =
      some [⟨⟨1⟩, ⟨9⟩, 2, 0, 1, 90⟩, ⟨⟨1⟩, ⟨9⟩, 1, 0, 1, 0⟩] := by
    decide +kernel
  have swept : ((Transition.runEvents step
      (startup (.isolated 0) ⟨1, .any, .any⟩)
      (egressEvents ++ [.resvTimer (.isolated 100)])).map fun d =>
        (d.resvTree.find 1 = none : Bool) &&
          (d.pathTree.find 1 = none : Bool) &&
          (d.resvTree.find 2 ≠ none : Bool)) = some true := by
    decide +kernel
  obtain ⟨d, run, final⟩ := Option.map_eq_some_iff.mp swept
  simp only [Bool.and_eq_true, decide_eq_true_eq] at final
  obtain ⟨before, heardRun, sweep⟩ := Transition.runEvents_append.mp run
  rw [heardRun, Option.map_some, Option.some_inj] at heard
  have reached (tunnelId : U16) : Reaches (TearsDownOwn tunnelId)
      (.isolated 0) ⟨1, .any, .any⟩ d := by
    have first : Reaches (TearsDownOwn tunnelId) (.isolated 0)
        ⟨1, .any, .any⟩ before := by
      refine .of_runEvents ?_ heardRun
      intro event member d
      simp only [egressEvents, List.mem_cons, List.not_mem_nil, or_false]
        at member
      rcases member with rfl | rfl
      all_goals exact trivial
    obtain ⟨after, taken, done⟩ := Transition.runEvents_cons.mp sweep
    cases done
    exact first.tail ⟨_, egressSweep_allowed heard (by decide) (by decide)
      tunnelId, taken⟩
  exact ⟨d, run, pathBehind_of_tearsDownOwn (reached 1), final.1.1,
    final.1.2, final.2, pathBehind_of_tearsDownOwn (reached 2) final.2⟩

/-- The path session of a transit router expires before its reservation. -/
theorem path_not_behind :
    ∃ env config d tunnelId, Reaches (fun _ _ => True) env config d ∧
      ¬PathBehind tunnelId d := by
  have outlived : ((Transition.runEvents step
      (startup (.isolated 0) ⟨1, .any, .any⟩)
      (transitEvents ++ [.resvTimer (.isolated 100)])).map
        fun d => (d.resvTree.find 1 ≠ none : Bool) &&
          (d.pathTree.find 1 = none : Bool)) = some true := by
    decide +kernel
  obtain ⟨d, run, final⟩ := Option.map_eq_some_iff.mp outlived
  simp only [Bool.and_eq_true, decide_eq_true_eq] at final
  refine ⟨_, _, d, 1, .of_runEvents (fun _ _ _ => trivial) run, ?_⟩
  intro behind
  exact behind final.1 final.2

end Rsvpd
