import Rsvpd.Runs
import Rsvpd.SessionCalls

/-!
# Runs on sessions in memory

The whole daemon with its session lists in memory: each datagram may take a
cell from `malloc`, and the sweeps give cells back.  Every run of it is a run
of the daemon on lists, and it stops only where that one does.
-/

namespace Rsvpd

open LinkedList Transition

section Functions

variable (env : Env) (buffer : Buffer) (malloc fuel : Nat)

/-- The session part of the `PATH_MSG_TYPE` case of `main`. -/
def mainPathSessionAt (reached : Int) (d : PointerDaemon) :
    Option PointerDaemon := do
  let sessionObj := recvSessionObj buffer
  let tunnelId := recvTunnelId buffer
  let d := d.run (Daemon.lock .pathList)
  let (memory, temp) ←
    searchSessionAt env.now tunnelId fuel d.memory d.pathHead
  let d := { d with memory }.run (Daemon.unlock .pathList)
  match temp with
  | some _ => return d
  | none =>
      let d := d.run (Daemon.lock .pathList)
      let (memory, head) := insertSessionAt malloc env.now tunnelId
        sessionObj.srcIp sessionObj.dstIp (BitVec.ofInt 8 reached) d.memory
        d.pathHead
      let d := { d with memory, pathHead := head }.run
        (Daemon.emit (.assign .pathList))
      return d.run (Daemon.unlock .pathList)

def insertAt (d : PointerDaemon) : Option PointerDaemon :=
  let sessionObj := recvSessionObj buffer
  let tunnelId := recvTunnelId buffer
  let reached := dstReached (env.reachRoute sessionObj.srcIp)
  if reached = -1 then some d
  else do
    let d := d.run (Daemon.lock .resvList)
    let (memory, temp) ←
      searchSessionAt env.now tunnelId fuel d.memory d.resvHead
    let d := { d with memory }.run (Daemon.unlock .resvList)
    match temp with
    | some _ => return d
    | none =>
        let d := d.run (Daemon.lock .resvList)
        let (memory, head) := insertSessionAt malloc env.now tunnelId
          sessionObj.srcIp sessionObj.dstIp (BitVec.ofInt 8 reached) d.memory
          d.resvHead
        let d := { d with memory, resvHead := head }.run
          (Daemon.emit (.assign .resvList))
        return d.run (Daemon.unlock .resvList)

/-- `receive_resv_message` behind its call of `insert`. -/
def finishResv (pa : PathMsg) (d : Daemon) : Daemon :=
  let (d, resvNode) := receiveResvRecord env buffer pa d
  match resvNode with
  | none => d
  | some p => installResv env (recvTunnelId buffer) pa p d

def receiveResvMessageAt (d : PointerDaemon) : Option PointerDaemon :=
  let d := (d.run (Daemon.lock .pathTree)).run (Daemon.unlock .pathTree)
  match d.tables.pathTree.find (recvTunnelId buffer) with
  | none => some d
  | some pa => do
      let d ← insertAt env buffer malloc fuel d
      return d.run (finishResv env buffer pa)

/-- One datagram through the loop of `main`; `none` also when `main`
returns. -/
def mainReceiveAt (d : PointerDaemon) : Option PointerDaemon :=
  if (recvHeader buffer).msgType = pathMsgType then
    let reached := dstReached (env.reachRoute (recvSessionObj buffer).dstIp)
    if reached = -1 then none
    else do
      let d ← mainPathSessionAt env buffer malloc fuel reached d
      return d.run (receivePathMessage env buffer)
  else if (recvHeader buffer).msgType = resvMsgType then
    receiveResvMessageAt env buffer malloc fuel d
  else some d

end Functions

namespace Daemon

variable (env : Env) (buffer : Buffer) (resv path : List Session)
  (d : Daemon)

@[simp] theorem receivePathRecord_withLists :
    receivePathRecord env buffer (d.withLists resv path) =
      ((receivePathRecord env buffer d).1.withLists resv path,
        (receivePathRecord env buffer d).2) := by
  have same : (((d.withLists resv path).lock .pathTree).unlock
      .pathTree).pathTree = ((d.lock .pathTree).unlock .pathTree).pathTree :=
    rfl
  unfold receivePathRecord
  simp only [same]
  split
  · rfl
  · split <;> rfl

@[simp] theorem receivePathEgress_withLists (p : PathMsg) :
    receivePathEgress env buffer p (d.withLists resv path) =
      (receivePathEgress env buffer p d).withLists resv path := by
  have same : ((d.withLists resv path).lock .resvTree).resvTree =
      (d.lock .resvTree).resvTree := rfl
  have labels : ((d.withLists resv path).lock .resvTree).labelBitmap =
      (d.lock .resvTree).labelBitmap := rfl
  unfold receivePathEgress
  simp only [same, labels]
  split
  · rfl
  · split <;> rfl

@[simp] theorem receivePathMessage_withLists :
    receivePathMessage env buffer (d.withLists resv path) =
      (receivePathMessage env buffer d).withLists resv path := by
  unfold receivePathMessage
  simp only [receivePathRecord_withLists]
  split
  · rfl
  · split <;> simp

@[simp] theorem receiveResvRecord_withLists (pa : PathMsg) :
    receiveResvRecord env buffer pa (d.withLists resv path) =
      ((receiveResvRecord env buffer pa d).1.withLists resv path,
        (receiveResvRecord env buffer pa d).2) := by
  have same : ((d.withLists resv path).lock .resvTree).resvTree =
      (d.lock .resvTree).resvTree := rfl
  have labels : ((d.withLists resv path).lock .resvTree).labelBitmap =
      (d.lock .resvTree).labelBitmap := rfl
  unfold receiveResvRecord
  simp only [same, labels]
  split
  · rfl
  · split <;> rfl

@[simp] theorem installResv_withLists (tunnelId : U16) (pa : PathMsg)
    (p : ResvMsg) :
    installResv env tunnelId pa p (d.withLists resv path) =
      (installResv env tunnelId pa p d).withLists resv path := by
  have emitted : (d.withLists resv path).emit
      (.system (.add (addedRoute pa p))) =
        (d.emit (.system (.add (addedRoute pa p)))).withLists resv path := rfl
  unfold installResv
  simp only [emitted]
  split
  · rfl
  · simp

@[simp] theorem finishResv_withLists (pa : PathMsg) :
    finishResv env buffer pa (d.withLists resv path) =
      (finishResv env buffer pa d).withLists resv path := by
  unfold finishResv
  simp only [receiveResvRecord_withLists]
  split
  · rfl
  · simp

end Daemon

/-- The daemon holds two lists, and no other cell is in use. -/
structure PointerDaemon.Owns (d : PointerDaemon) (resv path : Cells Session) :
    Prop extends d.Holds resv path where
  covered : d.memory.Covered (addresses resv ++ addresses path)

theorem PointerDaemon.Owns.run {d : PointerDaemon}
    {resv path : Cells Session} (owns : d.Owns resv path)
    (f : Daemon → Daemon) : (d.run f).Owns resv path :=
  ⟨owns.toHolds.run f, owns.covered⟩

section Events

variable {env : Env} {buffer : Buffer} {malloc fuel : Nat}
  {d : PointerDaemon} {resv path : Cells Session}
  (owns : d.Owns resv path) (fresh : ¬d.memory.Live malloc)

include owns fresh

theorem mainPathSessionAt_spec (reached : Int) (enough : path.length < fuel) :
    ∃ d' path', mainPathSessionAt env buffer malloc fuel reached d =
        some d' ∧
      d'.Owns resv path' ∧ d'.calls = d.calls ∧
      path'.length ≤ path.length + 1 ∧
      mainPathSession env buffer reached (d.view resv path) =
        d'.view resv path' := by
  obtain ⟨m', found, temp, cells, searched, onList, isSome, searches⟩ :=
    searchSessionAt_spec env.now (recvTunnelId buffer)
      owns.lists.symm.list owns.lists.symm.live enough
  have lists := owns.lists.symm.searched searches
  have covered := owns.lists.symm.searched_covered searches
    owns.covered.symm
  have head : d.pathHead = entry cells none := by
    rw [owns.pathHead, entry_congr searches.inPlace]
  rw [← owns.pathHead] at searched
  have inView : searchSession env.now (recvTunnelId buffer)
      ((d.view resv path).lock .pathList).pathHead =
        (temp, contents cells) := onList
  have inMemory : searchSessionAt env.now (recvTunnelId buffer) fuel
      (d.run (Daemon.lock .pathList)).memory
      (d.run (Daemon.lock .pathList)).pathHead = some (m', found) := searched
  simp only [mainPathSessionAt, mainPathSession, inView, inMemory,
    Option.bind_eq_bind, Option.bind_some]
  cases found with
  | some address =>
      obtain ⟨temp, rfl⟩ := Option.isSome_iff_exists.mp isSome.symm
      exact ⟨_, cells, rfl,
        ⟨⟨lists.symm, owns.resvHead, head⟩, covered.symm⟩, rfl,
        searches.length.trans_le (Nat.le_succ _), rfl⟩
  | none =>
      obtain rfl := Option.not_isSome_iff_eq_none.mp
        (Bool.eq_false_iff.mp isSome.symm)
      let new : Session :=
        { sender := (recvSessionObj buffer).srcIp
          receiver := (recvSessionObj buffer).dstIp
          tunnelId := recvTunnelId buffer
          dest := BitVec.ofInt 8 reached
          del := 0
          lastPathTime := env.now }
      have grown := lists.alloc
        (mt (owns.lists.symm.of_searched_live searches) fresh) new
      rw [← head] at grown
      exact ⟨_, (malloc, new) :: cells, rfl,
        ⟨⟨grown.symm, owns.resvHead, rfl⟩, (covered.alloc malloc _).symm⟩,
        rfl,
        Nat.succ_le_succ searches.length.le, rfl⟩

theorem insertAt_spec (enough : resv.length < fuel) :
    ∃ d' resv', insertAt env buffer malloc fuel d = some d' ∧
      d'.Owns resv' path ∧ d'.calls = d.calls ∧
      resv'.length ≤ resv.length + 1 ∧
      insert env buffer (d.view resv path) = d'.view resv' path := by
  by_cases unreachable :
      dstReached (env.reachRoute (recvSessionObj buffer).srcIp) = -1
  · refine ⟨d, resv, ?_, owns, rfl, Nat.le_succ _, ?_⟩
    · simp only [insertAt, if_pos unreachable]
    · simp only [insert, if_pos unreachable]
  obtain ⟨m', found, temp, cells, searched, onList, isSome, searches⟩ :=
    searchSessionAt_spec env.now (recvTunnelId buffer) owns.lists.list
      owns.lists.live enough
  have lists := owns.lists.searched searches
  have covered := owns.lists.searched_covered searches owns.covered
  have head : d.resvHead = entry cells none := by
    rw [owns.resvHead, entry_congr searches.inPlace]
  rw [← owns.resvHead] at searched
  have inView : searchSession env.now (recvTunnelId buffer)
      ((d.view resv path).lock .resvList).resvHead =
        (temp, contents cells) := onList
  have inMemory : searchSessionAt env.now (recvTunnelId buffer) fuel
      (d.run (Daemon.lock .resvList)).memory
      (d.run (Daemon.lock .resvList)).resvHead = some (m', found) := searched
  simp only [insertAt, insert, if_neg unreachable, inView, inMemory,
    Option.bind_eq_bind, Option.bind_some]
  cases found with
  | some address =>
      obtain ⟨temp, rfl⟩ := Option.isSome_iff_exists.mp isSome.symm
      exact ⟨_, cells, rfl, ⟨⟨lists, head, owns.pathHead⟩, covered⟩, rfl,
        searches.length.trans_le (Nat.le_succ _), rfl⟩
  | none =>
      obtain rfl := Option.not_isSome_iff_eq_none.mp
        (Bool.eq_false_iff.mp isSome.symm)
      let new : Session :=
        { sender := (recvSessionObj buffer).srcIp
          receiver := (recvSessionObj buffer).dstIp
          tunnelId := recvTunnelId buffer
          dest := BitVec.ofInt 8 (dstReached
            (env.reachRoute (recvSessionObj buffer).srcIp))
          del := 0
          lastPathTime := env.now }
      have grown := lists.alloc
        (mt (owns.lists.of_searched_live searches) fresh) new
      rw [← head] at grown
      exact ⟨_, (malloc, new) :: cells, rfl,
        ⟨⟨grown, rfl, owns.pathHead⟩, covered.alloc malloc _⟩, rfl,
        Nat.succ_le_succ searches.length.le, rfl⟩

theorem receiveResvMessageAt_spec (enough : resv.length < fuel) :
    ∃ d' resv', receiveResvMessageAt env buffer malloc fuel d = some d' ∧
      d'.Owns resv' path ∧ d'.calls = d.calls ∧
      resv'.length ≤ resv.length + 1 ∧
      receiveResvMessage env buffer (d.view resv path) =
        d'.view resv' path := by
  have opened := (owns.run (Daemon.lock .pathTree)).run
    (Daemon.unlock .pathTree)
  have inView : (((d.view resv path).lock .pathTree).unlock
      .pathTree).pathTree = ((d.run (Daemon.lock .pathTree)).run
        (Daemon.unlock .pathTree)).tables.pathTree := rfl
  simp only [receiveResvMessageAt, receiveResvMessage, inView]
  cases ((d.run (Daemon.lock .pathTree)).run
      (Daemon.unlock .pathTree)).tables.pathTree.find
        (recvTunnelId buffer) with
  | none => exact ⟨_, resv, rfl, opened, rfl, Nat.le_succ _, rfl⟩
  | some pa =>
      obtain ⟨d', resv', called, owns', calls, length, same⟩ :=
        @insertAt_spec env buffer malloc fuel _ _ _ opened fresh enough
      refine ⟨d'.run (finishResv env buffer pa), resv', ?_, owns'.run _,
        calls, length, ?_⟩
      · simp only [called, Option.bind_eq_bind, Option.bind_some]
        rfl
      · have finished : finishResv env buffer pa (d'.view resv' path) =
            (d'.run (finishResv env buffer pa)).view resv' path :=
          Daemon.finishResv_withLists ..
        rw [← finished, ← same]
        rfl

/-- A datagram in memory does what it does on lists, and ends the daemon where
it ends it there. -/
theorem mainReceiveAt_spec (enough : resv.length + path.length < fuel) :
    (mainReceiveAt env buffer malloc fuel d = none ∧
      mainReceive env buffer (d.view resv path) = none) ∨
    ∃ d' resv' path', mainReceiveAt env buffer malloc fuel d = some d' ∧
      d'.Owns resv' path' ∧ d'.calls = d.calls ∧
      resv'.length + path'.length ≤ resv.length + path.length + 1 ∧
      mainReceive env buffer (d.view resv path) =
        some (d'.view resv' path') := by
  simp only [mainReceiveAt, mainReceive, mainPath]
  split_ifs with isPath unreachable isResv
  · exact .inl ⟨rfl, rfl⟩
  · obtain ⟨d', path', called, owns', calls, length, same⟩ :=
      @mainPathSessionAt_spec env buffer malloc fuel d resv path owns fresh
        (dstReached (env.reachRoute (recvSessionObj buffer).dstIp))
        (by omega)
    refine .inr ⟨d'.run (receivePathMessage env buffer), resv, path', ?_,
      owns'.run _, calls, by omega, ?_⟩
    · simp only [called, Option.bind_eq_bind, Option.bind_some]
      rfl
    · rw [same]
      exact congrArg some (Daemon.receivePathMessage_withLists ..)
  · obtain ⟨d', resv', called, owns', calls, length, same⟩ :=
      @receiveResvMessageAt_spec env buffer malloc fuel d resv path owns
        fresh (by omega)
    exact .inr ⟨d', resv', path, called, owns', calls, by omega,
      congrArg some same⟩
  · exact .inr ⟨d, resv, path, rfl, owns, rfl, Nat.le_succ _, rfl⟩

end Events

/-- The state in which `main` enters its receive loop; `malloc` is where the
session of the configured tunnel lies. -/
def startupAt (env : Env) (config : TunnelConfig) (malloc : Nat) :
    PointerDaemon :=
  let d : PointerDaemon := ⟨⟨fun _ => none, []⟩, none, none, .init, []⟩
  match configuredPathMsg env config with
  | none => d
  | some path =>
      let d := d.run fun tables => tables.setPathTree
        (tables.pathTree.insert env.pathMalloc path)
      let (memory, head) := insertSessionAt malloc env.now config.tunnelId
        config.srcip config.dstip 1 d.memory d.resvHead
      let d := { d with memory, resvHead := head }.run
        (Daemon.emit (.assign .resvList))
      d.run (sendPathMessage env path.tunnelId)

/-- The daemon with a bound on the sessions that it has; the loops get that
much fuel. -/
structure MemoryDaemon where
  daemon : PointerDaemon
  bound : Nat

namespace MemoryDaemon

/-- One event; a datagram comes with the address that `malloc` gives if it is
asked for a session. -/
def step (s : MemoryDaemon) : Nat × Event → Option MemoryDaemon
  | (malloc, .datagram env buffer) => do
      let daemon ← mainReceiveAt env buffer malloc (s.bound + 1) s.daemon
      return ⟨daemon, s.bound + 1⟩
  | (_, .pathTimer env) => do
      let daemon ← pathTimerHandlerAt env (s.bound + 1) s.daemon
      return ⟨daemon, s.bound⟩
  | (_, .resvTimer env) => do
      let daemon ← resvTimerHandlerAt env (s.bound + 1) s.daemon
      return ⟨daemon, s.bound⟩

/-- `malloc` gives a cell that is not in use. -/
def Fresh (s : MemoryDaemon) (event : Nat × Event) : Prop :=
  ¬s.daemon.memory.Live event.1

instance (s : MemoryDaemon) : DecidablePred s.Fresh := fun _ =>
  inferInstanceAs (Decidable (¬_))

/-- The start, with room for the session of the configured tunnel. -/
def start (env : Env) (config : TunnelConfig) (malloc : Nat) :
    MemoryDaemon :=
  ⟨startupAt env config malloc, 1⟩

/-- In memory lie the two lists of the daemon and no other cell, and every
call of `delete_session` so far has deleted the session that it names. -/
structure Shows (s : MemoryDaemon) (d : Daemon) : Prop where
  lists : ∃ resv path, s.daemon.Owns resv path ∧
    s.daemon.view resv path = d ∧ resv.length + path.length ≤ s.bound
  sound : ∀ call ∈ s.daemon.calls, call.Sound

theorem start_shows (env : Env) (config : TunnelConfig) (malloc : Nat) :
    (start env config malloc).Shows (startup env config) := by
  have nothing : Apart ⟨fun _ => none, []⟩ [] [] :=
    ⟨trivial, trivial, by simp, nofun, nofun⟩
  have unused : (⟨fun _ => none, []⟩ : SessionMemory).Covered [] :=
    fun _ live => nomatch live.1
  unfold start startupAt startup
  cases configuredPathMsg env config with
  | none =>
      exact ⟨⟨[], [], ⟨⟨nothing, rfl, rfl⟩, unused⟩, rfl, Nat.zero_le _⟩,
        nofun⟩
  | some path =>
      let new : Session :=
        { sender := config.srcip, receiver := config.dstip
          tunnelId := config.tunnelId, dest := 1, del := 0
          lastPathTime := env.now }
      refine ⟨⟨[(malloc, new)], [],
        ⟨⟨nothing.alloc (fun live => nomatch unused _ live) new, rfl, rfl⟩,
          unused.alloc malloc _⟩, ?_, Nat.le_refl _⟩, nofun⟩
      exact (Daemon.sendPathMessage_withLists ..).symm

section Lengths

variable (d : PointerDaemon) (resv path : Cells Session)

theorem length_view_resvHead :
    (d.view resv path).resvHead.length = resv.length :=
  List.length_map _

theorem length_view_pathHead :
    (d.view resv path).pathHead.length = path.length :=
  List.length_map _

end Lengths

section Steps

variable {s s' : MemoryDaemon} {d : Daemon} {event : Nat × Event}

theorem Shows.swept {resv path : Cells Session} {ended : ListedDaemon}
    (shows : s.Shows d) (owns : s.daemon.Owns resv path)
    (shrinks : Shrinks s.daemon.memory ended.daemon.memory
      (addresses resv ++ addresses path) ended.cells)
    (logs : s.daemon.Logs ended.daemon)
    (shorter : ended.resv.length + ended.path.length ≤ s.bound) :
    (⟨ended.daemon, s.bound⟩ : MemoryDaemon).Shows ended.view := by
  refine ⟨⟨ended.resv, ended.path,
    ⟨ended.holds, shrinks.covered owns.covered⟩, rfl, shorter⟩, ?_⟩
  obtain ⟨calls, shape, sound⟩ := logs
  rw [shape]
  exact List.forall_mem_append.mpr ⟨shows.sound, sound⟩

theorem Shows.pathTimer (shows : s.Shows d) (malloc : Nat) (env : Env) :
    ∃ s', s.step (malloc, .pathTimer env) = some s' ∧
      s'.Shows (pathTimerHandler env d) := by
  obtain ⟨resv, path, owns, rfl, within⟩ := shows.lists
  obtain ⟨spare, bound⟩ := Nat.exists_eq_add_of_le
    (show resv.length + 1 ≤ s.bound + 1 by omega)
  obtain ⟨ended, swept, logs, same, shrinks⟩ :=
    pathTimerHandlerAt_refines env ⟨s.daemon, resv, path, owns.toHolds⟩ spare
  have view : pathTimerHandler env (s.daemon.view resv path) =
      ended.view := same
  have resvLeft := congrArg (List.length ∘ Daemon.resvHead) view
  have pathLeft := congrArg (List.length ∘ Daemon.pathHead) view
  simp only [Function.comp_apply, pathTimerHandler_resvHead,
    pathTimerHandler_frame] at resvLeft pathLeft
  have kept := Sweep.remaining_length_le (Removable env.now)
    (s.daemon.view resv path).resvHead
  have shorter : ended.resv.length + ended.path.length ≤ s.bound := by
    rw [ListedDaemon.view, length_view_resvHead] at resvLeft
    rw [ListedDaemon.view, length_view_pathHead, length_view_pathHead]
      at pathLeft
    rw [length_view_resvHead] at kept
    omega
  rw [view]
  refine ⟨_, ?_, shows.swept owns shrinks logs shorter⟩
  simp only [step, bound, swept, Option.bind_eq_bind, Option.bind_some]
  rfl

theorem Shows.resvTimer (shows : s.Shows d) (malloc : Nat) (env : Env) :
    ∃ s', s.step (malloc, .resvTimer env) = some s' ∧
      s'.Shows (resvTimerHandler env d) := by
  obtain ⟨resv, path, owns, rfl, within⟩ := shows.lists
  obtain ⟨spare, bound⟩ := Nat.exists_eq_add_of_le
    (show path.length + resv.length + 1 ≤ s.bound + 1 by omega)
  obtain ⟨ended, swept, logs, same, shrinks⟩ :=
    resvTimerHandlerAt_refines env ⟨s.daemon, resv, path, owns.toHolds⟩ spare
  have view : resvTimerHandler env (s.daemon.view resv path) =
      ended.view := same
  have resvLeft := congrArg (List.length ∘ Daemon.resvHead) view
  have pathLeft := congrArg (List.length ∘ Daemon.pathHead) view
  simp only [Function.comp_apply, resvTimerHandler_resvHead,
    resvTimerHandler_pathHead] at resvLeft pathLeft
  have pathKept := Sweep.remaining_length_le (Expired env.now)
    (s.daemon.view resv path).pathHead
  have resvKept := (eraseSessions_sublist ((resvVisits env
    (s.daemon.view resv path)).filterMap resvTears)
    (s.daemon.view resv path).resvHead).length_le
  have shorter : ended.resv.length + ended.path.length ≤ s.bound := by
    rw [ListedDaemon.view, length_view_resvHead] at resvLeft
    rw [ListedDaemon.view, length_view_pathHead] at pathLeft
    rw [length_view_resvHead] at resvKept
    rw [length_view_pathHead] at pathKept
    omega
  rw [view]
  refine ⟨_, ?_, shows.swept owns shrinks logs shorter⟩
  simp only [step, bound, swept, Option.bind_eq_bind, Option.bind_some]
  rfl

theorem Shows.step (shows : s.Shows d) (fresh : s.Fresh event) :
    (s.step event = none ∧ Rsvpd.step d event.2 = none) ∨
      ∃ s' d', s.step event = some s' ∧ Rsvpd.step d event.2 = some d' ∧
        s'.Shows d' := by
  obtain ⟨malloc, event⟩ := event
  cases event with
  | datagram env buffer =>
      obtain ⟨resv, path, owns, rfl, within⟩ := shows.lists
      rcases mainReceiveAt_spec owns fresh (Nat.lt_succ_of_le within) with
        ⟨ended, endedOnLists⟩ |
          ⟨d', resv', path', called, owns', calls, length, same⟩
      · refine .inl ⟨?_, endedOnLists⟩
        simp only [MemoryDaemon.step, ended]
        rfl
      · refine .inr ⟨⟨d', s.bound + 1⟩, d'.view resv' path', ?_, same,
          ⟨resv', path', owns', rfl, by dsimp only; omega⟩, ?_⟩
        · simp only [MemoryDaemon.step, called]
          rfl
        · rw [calls]
          exact shows.sound
  | pathTimer env =>
      obtain ⟨s', taken, after⟩ := shows.pathTimer malloc env
      exact .inr ⟨s', _, taken, rfl, after⟩
  | resvTimer env =>
      obtain ⟨s', taken, after⟩ := shows.resvTimer malloc env
      exact .inr ⟨s', _, taken, rfl, after⟩

end Steps

section Runs

variable {env : Env} {config : TunnelConfig} {malloc : Nat}
  {events : List (Nat × Event)} {s : MemoryDaemon}

/-- Guarded events lead from a daemon in memory to one that shows where the
same events lead the daemon on lists. -/
theorem Shows.run {first : MemoryDaemon} {d : Daemon}
    (shows : first.Shows d)
    (run : runEvents (guarded MemoryDaemon.step Fresh) first events =
      some s) :
    ∃ d', runEvents Rsvpd.step d (events.map Prod.snd) = some d' ∧
      s.Shows d' := by
  induction events generalizing first d with
  | nil =>
      cases run
      exact ⟨d, rfl, shows⟩
  | cons event events ih =>
      obtain ⟨next, taken, rest⟩ := runEvents_cons.mp run
      rw [guarded] at taken
      split at taken
      case isFalse => cases taken
      case isTrue fresh =>
        rcases shows.step fresh with ⟨stops, _⟩ | ⟨s', d', step, same, after⟩
        · cases stops.symm.trans taken
        · cases step.symm.trans taken
          obtain ⟨final, onLists, shows'⟩ := ih after rest
          exact ⟨final, runEvents_cons.mpr ⟨d', same, onLists⟩, shows'⟩

theorem Shows.exists_fresh {d : Daemon} (shows : s.Shows d) :
    ∃ address, ¬s.daemon.memory.Live address := by
  obtain ⟨resv, path, owns, _⟩ := shows.lists
  obtain ⟨address, unused⟩ := Infinite.exists_notMem_finset
    (addresses resv ++ addresses path).toFinset
  refine ⟨address, fun live => unused ?_⟩
  exact List.mem_toFinset.mpr (owns.covered address live)

/-- A run in memory is a run on lists, and the next event stops the one if and
only if it stops the other. -/
theorem sessions_refine
    (run : runEvents (guarded step Fresh) (start env config malloc) events =
      some s) :
    ∃ d, runEvents Rsvpd.step (startup env config) (events.map Prod.snd) =
        some d ∧
      s.Shows d ∧
      ∀ next, s.Fresh next →
        ((s.step next).isSome ↔ (Rsvpd.step d next.2).isSome) := by
  obtain ⟨d, onLists, shows⟩ := (start_shows env config malloc).run run
  refine ⟨d, onLists, shows, fun next fresh => ?_⟩
  rcases shows.step fresh with ⟨stops, same⟩ | ⟨s', d', taken, same, _⟩
  · rw [stops, same]
    rfl
  · rw [taken, same]
    rfl

/-- Every run on lists is one in memory, as long as `malloc` finds a cell. -/
theorem sessions_realized {listEvents : List Event} {d : Daemon}
    (run : runEvents Rsvpd.step (startup env config) listEvents = some d)
    (malloc : Nat) :
    ∃ events s, events.map Prod.snd = listEvents ∧
      runEvents (guarded step Fresh) (start env config malloc) events =
        some s ∧
      s.Shows d := by
  have shows := start_shows env config malloc
  generalize start env config malloc = first at shows ⊢
  generalize startup env config = firstOnLists at shows run
  induction listEvents generalizing first firstOnLists with
  | nil =>
      cases run
      exact ⟨[], first, rfl, rfl, shows⟩
  | cons event listEvents ih =>
      obtain ⟨next, onLists, rest⟩ := runEvents_cons.mp run
      obtain ⟨address, fresh⟩ := shows.exists_fresh
      have allowed : first.Fresh (address, event) := fresh
      rcases shows.step allowed with ⟨_, stops⟩ | ⟨s', d', taken, same, after⟩
      · cases stops.symm.trans onLists
      · cases same.symm.trans onLists
        obtain ⟨events, s, shape, run, shows'⟩ := ih s' next after rest
        refine ⟨(address, event) :: events, s, by rw [List.map_cons, shape],
          runEvents_cons.mpr ⟨s', ?_, run⟩, shows'⟩
        rw [guarded, if_pos allowed, taken]

/-- After every run the cells in use are those of the two lists, each in one of
them and there once, and every call of `delete_session` was sound. -/
theorem sessions_ledger
    (run : runEvents (guarded step Fresh) (start env config malloc) events =
      some s) :
    ∃ resv path, s.daemon.Holds resv path ∧
      (addresses resv ++ addresses path).Nodup ∧
      (∀ address, s.daemon.memory.Live address ↔
        address ∈ addresses resv ++ addresses path) ∧
      ∀ call ∈ s.daemon.calls, call.Sound := by
  obtain ⟨d, _, shows⟩ := (start_shows env config malloc).run run
  obtain ⟨resv, path, owns, _⟩ := shows.lists
  refine ⟨resv, path, owns.toHolds, ?_, ?_, shows.sound⟩
  · exact owns.lists.list.nodup.append owns.lists.otherList.nodup
      owns.lists.apart
  · intro address
    refine ⟨owns.covered address, fun member => ?_⟩
    rcases List.mem_append.mp member with here | there
    · exact owns.lists.isLive here
    · exact owns.lists.symm.isLive there

end Runs

/-- A tunnel is set up through this router, expires, and is set up again in a
cell that was freed. -/
def sampleEvents : List (Nat × Event) :=
  [(7, .datagram (.toward (some ⟨3⟩) 0) (samplePath 1 ⟨1⟩ ⟨9⟩ ⟨2⟩).received),
   (8, .datagram (.toward (some ⟨2⟩) 0)
     (sampleResv 1 ⟨1⟩ ⟨9⟩ ⟨3⟩ 3).received),
   (0, .pathTimer (.isolated 100)), (0, .resvTimer (.isolated 100)),
   (7, .datagram (.toward (some ⟨3⟩) 100)
     (samplePath 1 ⟨1⟩ ⟨9⟩ ⟨2⟩).received)]

theorem sampleEvents_run :
    ((runEvents (guarded step Fresh)
      (start (.isolated 0) ⟨1, .any, .any⟩ 3) sampleEvents).map fun s =>
        (s.daemon.resvHead, s.daemon.pathHead, s.daemon.calls.length)) =
      some (none, some 7, 2) := by
  decide +kernel

theorem sampleEvents_refine :
    ∃ s, runEvents (guarded step Fresh)
        (start (.isolated 0) ⟨1, .any, .any⟩ 3) sampleEvents = some s ∧
      ∃ d, runEvents Rsvpd.step (startup (.isolated 0) ⟨1, .any, .any⟩)
          (sampleEvents.map Prod.snd) = some d ∧
        s.Shows d ∧
        ∀ next, s.Fresh next →
          ((s.step next).isSome ↔ (Rsvpd.step d next.2).isSome) := by
  obtain ⟨s, run, _⟩ := Option.map_eq_some_iff.mp sampleEvents_run
  exact ⟨s, run, sessions_refine run⟩

theorem transitEvents_realized :
    ∃ d, runEvents Rsvpd.step (startup (.isolated 0) ⟨1, .any, .any⟩)
        transitEvents = some d ∧
      ∃ events s, events.map Prod.snd = transitEvents ∧
        runEvents (guarded step Fresh)
          (start (.isolated 0) ⟨1, .any, .any⟩ 3) events = some s ∧
        s.Shows d := by
  have run : (runEvents Rsvpd.step (startup (.isolated 0) ⟨1, .any, .any⟩)
      transitEvents).isSome := by decide +kernel
  obtain ⟨d, run⟩ := Option.isSome_iff_exists.mp run
  exact ⟨d, run, sessions_realized run 3⟩

/-- One cell is left in use: the session at address 7, for the second time. -/
theorem sampleEvents_ledger :
    ∃ s, runEvents (guarded step Fresh)
        (start (.isolated 0) ⟨1, .any, .any⟩ 3) sampleEvents = some s ∧
      s.daemon.calls.length = 2 ∧
      ∃ resv path, s.daemon.Holds resv path ∧
        (addresses resv ++ addresses path).Nodup ∧
        (∀ address, s.daemon.memory.Live address ↔
          address ∈ addresses resv ++ addresses path) ∧
        ∀ call ∈ s.daemon.calls, call.Sound := by
  obtain ⟨s, run, left⟩ := Option.map_eq_some_iff.mp sampleEvents_run
  exact ⟨s, run, (Prod.ext_iff.mp (Prod.ext_iff.mp left).2).2,
    sessions_ledger run⟩

end MemoryDaemon

end Rsvpd
