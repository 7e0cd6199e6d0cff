import Rsvpd.Sweeps
import Rsvpd.TimerMemory

/-!
# The handlers in memory sweep the lists

On two lists in memory the timer handlers end, leave two lists, and do to
their contents and to the other variables what the handlers on lists do.  Each
call of `delete_session` on the way deletes the session that it names.
-/

namespace Rsvpd

open LinkedList

namespace Daemon

/-- The same variables with other session lists. -/
def withLists (resv path : List Session) (d : Daemon) : Daemon :=
  { d with resvHead := resv, pathHead := path }

variable (resv path head : List Session) (d : Daemon)

@[simp] theorem lock_withLists (mutex : Mutex) :
    (d.withLists resv path).lock mutex =
      (d.lock mutex).withLists resv path := rfl

@[simp] theorem unlock_withLists (mutex : Mutex) :
    (d.withLists resv path).unlock mutex =
      (d.unlock mutex).withLists resv path := rfl

@[simp] theorem setResvHead_withLists :
    (d.withLists resv path).setResvHead head =
      (d.emit (.assign .resvList)).withLists head path := rfl

@[simp] theorem setPathHead_withLists :
    (d.withLists resv path).setPathHead head =
      (d.emit (.assign .pathList)).withLists resv head := rfl

@[simp] theorem sendPathMessage_withLists (env : Env) (tunnelId : U16) :
    sendPathMessage env tunnelId (d.withLists resv path) =
      (sendPathMessage env tunnelId d).withLists resv path := by
  have same : (((d.withLists resv path).lock .pathTree).unlock
      .pathTree).pathTree = ((d.lock .pathTree).unlock .pathTree).pathTree :=
    rfl
  unfold sendPathMessage
  simp only [same]
  split <;> rfl

@[simp] theorem sendResvMessage_withLists (env : Env) (tunnelId : U16) :
    sendResvMessage env tunnelId (d.withLists resv path) =
      (sendResvMessage env tunnelId d).withLists resv path := by
  have same : (((d.withLists resv path).lock .resvTree).unlock
      .resvTree).resvTree = ((d.lock .resvTree).unlock .resvTree).resvTree :=
    rfl
  unfold sendResvMessage
  simp only [same]
  split <;> rfl

@[simp] theorem deleteResvNode_withLists (tunnelId : U16) :
    deleteResvNode tunnelId (d.withLists resv path) =
      (deleteResvNode tunnelId d).withLists resv path := by
  have same : ((d.withLists resv path).lock .resvTree).resvTree =
      (d.lock .resvTree).resvTree := rfl
  unfold deleteResvNode
  simp only [same]
  split <;> rfl

@[simp] theorem deletePathNode_withLists (tunnelId : U16) :
    deletePathNode tunnelId (d.withLists resv path) =
      (deletePathNode tunnelId d).withLists resv path := by
  have same : ((d.withLists resv path).lock .pathTree).pathTree =
      (d.lock .pathTree).pathTree := rfl
  unfold deletePathNode
  simp only [same]
  split <;> rfl

@[simp] theorem pathRefresh_withLists (env : Env) (temp : Session) :
    pathRefresh env temp (d.withLists resv path) =
      (pathRefresh env temp d).withLists resv path := by
  unfold pathRefresh
  split_ifs <;> simp

@[simp] theorem resvVisit_keep_withLists (env : Env) (temp : Session) :
    resvVisit env (d.withLists resv path) (.keep temp) =
      (resvVisit env d (.keep temp)).withLists resv path := by
  simp only [resvVisit]
  split_ifs <;> simp

end Daemon

namespace PointerDaemon

/-- The heads lead to the two lists. -/
structure Holds (d : PointerDaemon) (resv path : Cells Session) : Prop where
  lists : Apart d.memory resv path
  resvHead : d.resvHead = entry resv none
  pathHead : d.pathHead = entry path none

/-- The daemon with its lists as lists. -/
def view (d : PointerDaemon) (resv path : Cells Session) : Daemon :=
  d.tables.withLists (contents resv) (contents path)

/-- Between the two states only sound calls were made. -/
def Logs (d d' : PointerDaemon) : Prop :=
  ∃ calls, d'.calls = d.calls ++ calls ∧ ∀ call ∈ calls, call.Sound

variable {d d' d'' : PointerDaemon}

theorem Logs.of_eq (same : d'.calls = d.calls) : d.Logs d' :=
  ⟨[], by rw [same, List.append_nil], nofun⟩

theorem Logs.trans (first : d.Logs d') (second : d'.Logs d'') :
    d.Logs d'' := by
  obtain ⟨calls, shape, sound⟩ := first
  obtain ⟨further, shape', sound'⟩ := second
  refine ⟨calls ++ further, ?_, ?_⟩
  · rw [shape', shape, List.append_assoc]
  · exact List.forall_mem_append.mpr ⟨sound, sound'⟩

@[simp] theorem run_memory (f : Daemon → Daemon) :
    (d.run f).memory = d.memory := rfl

@[simp] theorem run_tables (f : Daemon → Daemon) :
    (d.run f).tables = f d.tables := rfl

theorem Holds.run {resv path : Cells Session} (holds : d.Holds resv path)
    (f : Daemon → Daemon) : (d.run f).Holds resv path :=
  ⟨holds.lists, holds.resvHead, holds.pathHead⟩

section Deletes

variable {before after others : Cells Session} {cell : Nat × Session}
  {prev : Pointer} (behind : before ≠ [] → prev = final before)

include behind

theorem Holds.deleteResv (holds : d.Holds (before ++ cell :: after) others) :
    ∃ d', d.deleteResv (some cell.1) prev = some d' ∧
      d'.Holds (deleteCell before cell after).cells others ∧
      Deletes d.memory d'.memory (deleteCell before cell after) cell.1
        (addresses (before ++ cell :: after)) ∧
      d'.tables = d.tables.emit (.assign .resvList) ∧ d.Logs d' := by
  obtain ⟨memory, called, deletes⟩ :=
    deleteSessionAt_spec holds.lists.list holds.lists.live behind
  have step : d.deleteResv (some cell.1) prev = some { d with
      memory
      resvHead := entry (deleteCell before cell after).cells none
      tables := d.tables.emit (.assign .resvList)
      calls := d.calls ++ [⟨d.memory, d.resvHead, some cell.1, prev, memory,
        entry (deleteCell before cell after).cells none⟩] } := by
    rw [PointerDaemon.deleteResv, holds.resvHead, called]
    rfl
  refine ⟨_, step, ?_, deletes, rfl, ?_⟩
  · exact ⟨holds.lists.deleted deletes, rfl, holds.pathHead⟩
  · refine ⟨[_], rfl, ?_⟩
    rw [List.forall_mem_singleton, holds.resvHead]
    exact DeleteCall.sound_of_deletes holds.lists.list holds.lists.live
      behind deletes

theorem Holds.deletePath (holds : d.Holds others (before ++ cell :: after)) :
    ∃ d', d.deletePath (some cell.1) prev = some d' ∧
      d'.Holds others (deleteCell before cell after).cells ∧
      Deletes d.memory d'.memory (deleteCell before cell after) cell.1
        (addresses (before ++ cell :: after)) ∧
      d'.tables = d.tables.emit (.assign .pathList) ∧ d.Logs d' := by
  have lists := holds.lists.symm
  obtain ⟨memory, called, deletes⟩ :=
    deleteSessionAt_spec lists.list lists.live behind
  have step : d.deletePath (some cell.1) prev = some { d with
      memory
      pathHead := entry (deleteCell before cell after).cells none
      tables := d.tables.emit (.assign .pathList)
      calls := d.calls ++ [⟨d.memory, d.pathHead, some cell.1, prev, memory,
        entry (deleteCell before cell after).cells none⟩] } := by
    rw [PointerDaemon.deletePath, holds.pathHead, called]
    rfl
  refine ⟨_, step, ?_, deletes, rfl, ?_⟩
  · exact ⟨(lists.deleted deletes).symm, holds.resvHead, rfl⟩
  · refine ⟨[_], rfl, ?_⟩
    rw [List.forall_mem_singleton, holds.pathHead]
    exact DeleteCall.sound_of_deletes lists.list lists.live behind deletes

end Deletes

/-- After a visit of the cell at `temp` the cursor stands between `front` and
`back`, and `temp` leads to the next cell. -/
structure Moved (d d' : PointerDaemon) (temp : Nat)
    (after front back : Cells Session) : Prop where
  next : ∃ reads, d'.memory.heap temp = some ⟨reads, entry back none⟩
  behind : back ≠ [] → front ≠ [] → some temp = final front
  shorter : back.length ≤ after.length
  logs : d.Logs d'

theorem Moved.kept {before after : Cells Session} {cell : Nat × Session}
    (memory : d'.memory = d.memory)
    (calls : d'.calls = d.calls)
    (list : Segment d.memory.heap (before ++ cell :: after) none) :
    Moved d d' cell.1 after (before ++ [cell]) after :=
  { next := ⟨cell.2, by rw [memory]; exact list.read⟩
    behind := fun _ _ => (final_concat _ _).symm
    shorter := Nat.le_refl _
    logs := .of_eq calls }

theorem Moved.deleted {before after : Cells Session} {cell : Nat × Session}
    (deletes : Deletes d.memory d'.memory (deleteCell before cell after)
      cell.1 (addresses (before ++ cell :: after))) (logs : d.Logs d') :
    Moved d d' cell.1 after (deleteCell before cell after).front
      (deleteCell before cell after).back :=
  { next := ⟨_, deletes.reads⟩
    behind := fun back front =>
      (final_deleteCell before cell after front back).symm
    shorter := deleteCell_length before cell after
    logs }

end PointerDaemon

section PathSweep

variable (env : Env) {d : PointerDaemon} {before after path : Cells Session}
  {cell : Nat × Session} {prev : Pointer}

theorem pathTimerVisitAt_eq {temp : Nat} {link : Link Session}
    (read : d.memory.heap temp = some link) :
    pathTimerVisitAt env temp prev d =
      if Removable env.now link.content then
        (((d.run (pathRefresh env link.content)).run
          (Daemon.lock .resvList)).deleteResv (some temp) prev).map
            (PointerDaemon.run (Daemon.unlock .resvList))
      else some (d.run (pathRefresh env link.content)) := by
  have sent : (if link.content.dest ≠ 0 ∧ link.content.del = 0 then
      d.run (sendPathMessage env link.content.tunnelId) else d) =
        d.run fun tables =>
          if link.content.dest ≠ 0 ∧ link.content.del = 0 then
            sendPathMessage env link.content.tunnelId tables
          else tables := by
    split <;> rfl
  simp only [pathTimerVisitAt, read, sent, Option.bind_eq_bind,
    Option.bind_some, Option.pure_def]
  by_cases expired : Expired env.now link.content
  · have refresh : pathRefresh env link.content = fun tables =>
        deleteResvNode link.content.tunnelId
          (if link.content.dest ≠ 0 ∧ link.content.del = 0 then
            sendPathMessage env link.content.tunnelId tables
          else tables) := funext fun tables => if_pos expired
    by_cases gone : link.content.dest = 0 ∨ link.content.del ≠ 0
    · simp only [Removable, expired, gone, refresh, if_true, and_self]
      exact (Option.map_eq_bind ..).symm
    · simp only [Removable, expired, gone, refresh, if_true, if_false,
        and_false]
      rfl
  · have refresh : pathRefresh env link.content = fun tables =>
        if link.content.dest ≠ 0 ∧ link.content.del = 0 then
          sendPathMessage env link.content.tunnelId tables
        else tables := funext fun tables => if_neg expired
    simp only [Removable, expired, refresh, if_false, false_and]

theorem pathTimerVisitAt_spec
    (holds : d.Holds (before ++ cell :: after) path)
    (behind : before ≠ [] → prev = final before) :
    ∃ d' front back, pathTimerVisitAt env cell.1 prev d = some d' ∧
      d'.Holds (front ++ back) path ∧
      PointerDaemon.Moved d d' cell.1 after front back ∧
      Shrinks d.memory d'.memory (addresses (before ++ cell :: after))
        (addresses (front ++ back)) ∧
      pathTimerLoop env (contents before) (contents (cell :: after))
          (d.view (before ++ cell :: after) path) =
        pathTimerLoop env (contents front) (contents back)
          (d'.view (front ++ back) path) := by
  rw [pathTimerVisitAt_eq env holds.lists.list.read, contents_cons,
    pathTimerLoop_cons]
  have refreshed := holds.run (pathRefresh env cell.2)
  by_cases gone : Removable env.now cell.2
  · rw [if_pos gone, if_pos gone]
    obtain ⟨d', called, holds', deletes, tables, logs⟩ :=
      (refreshed.run (Daemon.lock .resvList)).deleteResv behind
    refine ⟨d'.run (Daemon.unlock .resvList), _, _, ?_, holds'.run _,
      .deleted deletes logs, deletes.shrinks, ?_⟩
    · rw [called, Option.map_some]
    · rw [deleteSession_contents]
      simp [pathVisit, PointerDaemon.view, tables]
  · rw [if_neg gone, if_neg gone]
    refine ⟨_, before ++ [cell], after, rfl, ?_,
      .kept rfl rfl holds.lists.list, ?_, ?_⟩
    · rwa [← List.append_cons]
    · rw [← List.append_cons]
      exact .refl _ _
    · simp [pathVisit, PointerDaemon.view]

theorem pathTimerLoopAt_spec {fuel : Nat} (before rest : Cells Session)
    (prev : Pointer) (holds : d.Holds (before ++ rest) path)
    (behind : rest ≠ [] → before ≠ [] → prev = final before)
    (enough : rest.length < fuel) :
    ∃ d' resv, pathTimerLoopAt env fuel (entry rest none) prev d = some d' ∧
      d'.Holds resv path ∧ d.Logs d' ∧
      Shrinks d.memory d'.memory (addresses (before ++ rest))
        (addresses resv) ∧
      pathTimerLoop env (contents before) (contents rest)
        (d.view (before ++ rest) path) = d'.view resv path := by
  induction fuel generalizing d before rest prev with
  | zero => exact absurd enough (Nat.not_lt_zero _)
  | succ fuel ih =>
      cases rest with
      | nil =>
          rw [List.append_nil] at holds ⊢
          refine ⟨d, before, rfl, holds, .of_eq rfl, .refl _ _, ?_⟩
          rw [contents_nil, pathTimerLoop]
      | cons cell after =>
          obtain ⟨d₁, front, back, visited, holds₁, moved, shrinks, same⟩ :=
            pathTimerVisitAt_spec env holds (behind (List.cons_ne_nil _ _))
          obtain ⟨reads, next⟩ := moved.next
          obtain ⟨d', resv, swept, holds', logs, shrinks', same'⟩ :=
            ih front back _ holds₁ moved.behind (by
              have shorter := moved.shorter
              rw [List.length_cons] at enough
              omega)
          refine ⟨d', resv, ?_, holds', moved.logs.trans logs,
            shrinks.trans shrinks', same.trans same'⟩
          rw [entry_cons, pathTimerLoopAt, visited]
          simp only [Option.bind_eq_bind, Option.bind_some, next]
          exact swept

end PathSweep

section ResvSweep

variable {d : PointerDaemon} {before after rest resv path : Cells Session}
  {cell : Nat × Session} {prev : Pointer}

theorem resvListLoopAt_spec {fuel : Nat} (tunnelId : U16)
    (before rest : Cells Session) (prev : Pointer)
    (holds : d.Holds (before ++ rest) path)
    (behind : rest ≠ [] → before ≠ [] → prev = final before)
    (enough : rest.length < fuel) :
    ∃ d' resv, resvListLoopAt tunnelId fuel (entry rest none) prev d =
        some d' ∧
      d'.Holds resv path ∧ d.Logs d' ∧
      resv.length ≤ (before ++ rest).length ∧
      Shrinks d.memory d'.memory (addresses (before ++ rest))
        (addresses resv) ∧
      (match deleteResvSession tunnelId (contents before) (contents rest) with
        | none => d.view (before ++ rest) path
        | some head => (d.view (before ++ rest) path).setResvHead head) =
          d'.view resv path := by
  induction fuel generalizing before rest prev with
  | zero => exact absurd enough (Nat.not_lt_zero _)
  | succ fuel ih =>
      cases rest with
      | nil =>
          exact ⟨d, before ++ [], rfl, holds, .of_eq rfl, Nat.le_refl _,
            .refl _ _, rfl⟩
      | cons cell after =>
          have read := holds.lists.list.read
          rw [entry_cons, resvListLoopAt, contents_cons, deleteResvSession]
          simp only [read, Option.bind_eq_bind, Option.bind_some]
          by_cases same : tunnelId = cell.2.tunnelId
          · obtain ⟨d', called, holds', deletes, tables, logs⟩ :=
              holds.deleteResv (behind (List.cons_ne_nil _ _))
            refine ⟨d', _, ?_, holds', logs,
              deleteCell_cells_length before cell after, deletes.shrinks,
              ?_⟩
            · rw [if_pos same, called]
            · simp only [if_pos same, deleteSession_contents]
              simp [PointerDaemon.view, Deletion.cells, tables]
          · rw [if_neg same, if_neg same, List.append_cons]
            rw [List.append_cons] at holds
            rw [List.length_cons] at enough
            have walked := ih (before ++ [cell]) after (some cell.1) holds
              (fun _ _ => (final_concat _ _).symm) (by omega)
            rw [contents_append, contents_cons, contents_nil] at walked
            exact walked

theorem resvTeardownAt_spec {fuel : Nat} (temp : Session)
    (holds : d.Holds resv path) (enough : resv.length < fuel) :
    ∃ d' resv', resvTeardownAt fuel temp d = some d' ∧
      d'.Holds resv' path ∧ d.Logs d' ∧ resv'.length ≤ resv.length ∧
      Shrinks d.memory d'.memory (addresses resv) (addresses resv') ∧
      resvTeardown temp (d.view resv path) = d'.view resv' path := by
  by_cases tears : temp.dest ≠ 0
  · obtain ⟨d', resv', walked, holds', logs, shorter, shrinks, same⟩ :=
      resvListLoopAt_spec temp.tunnelId [] resv none
        ((holds.run (deleteResvNode temp.tunnelId)).run
          (Daemon.lock .resvList)) (fun _ first => absurd rfl first) enough
    refine ⟨d'.run (Daemon.unlock .resvList), resv', ?_, holds'.run _, logs,
      shorter, shrinks, ?_⟩
    · rw [resvTeardownAt, if_pos tears]
      simp only [Option.bind_eq_bind, Option.pure_def]
      rw [← holds.resvHead] at walked
      exact Option.bind_eq_some_iff.mpr ⟨d', walked, rfl⟩
    · rw [resvTeardown, if_pos tears]
      have step : ((deleteResvNode temp.tunnelId (d.view resv path)).lock
          .resvList) = ((d.run (deleteResvNode temp.tunnelId)).run
            (Daemon.lock .resvList)).view resv path := by
        simp [PointerDaemon.view]
      simp only [step]
      exact congrArg (Daemon.unlock .resvList) same
  · refine ⟨d, resv, ?_, holds, .of_eq rfl, Nat.le_refl _, .refl _ _, ?_⟩
    · rw [resvTeardownAt, if_neg tears]
    · rw [resvTeardown, if_neg tears]

variable (env : Env)

theorem resvTimerVisitAt_keep {fuel temp : Nat} {link : Link Session}
    (read : d.memory.heap temp = some link)
    (live : ¬Expired env.now link.content) :
    resvTimerVisitAt env fuel temp prev d =
      some (d.run fun tables =>
        resvVisit env tables (.keep link.content)) := by
  simp only [resvTimerVisitAt, read, Option.bind_eq_bind, Option.bind_some,
    Option.pure_def, if_neg live, resvVisit]
  split_ifs <;> rfl

theorem resvTimerVisitAt_spec {fuel : Nat}
    (holds : d.Holds resv (before ++ cell :: after))
    (behind : before ≠ [] → prev = final before)
    (enough : resv.length < fuel) :
    ∃ d' resv' front back,
      resvTimerVisitAt env fuel cell.1 prev d = some d' ∧
      d'.Holds resv' (front ++ back) ∧ resv'.length ≤ resv.length ∧
      PointerDaemon.Moved d d' cell.1 after front back ∧
      Shrinks d.memory d'.memory
        (addresses resv ++ addresses (before ++ cell :: after))
        (addresses resv' ++ addresses (front ++ back)) ∧
      resvTimerLoop env (contents before) (contents (cell :: after))
          (d.view resv (before ++ cell :: after)) =
        resvTimerLoop env (contents front) (contents back)
          (d'.view resv' (front ++ back)) := by
  have list := holds.lists.otherList
  rw [contents_cons, resvTimerLoop_cons]
  by_cases expired : Expired env.now cell.2
  · rw [if_pos expired]
    obtain ⟨d₁, called, holds₁, deletes, tables, logs₁⟩ :=
      ((holds.run (deletePathNode cell.2.tunnelId)).run
        (Daemon.lock .pathList)).deletePath behind
    obtain ⟨d', resv', torn, holds', logs', shorter, shrinks, same⟩ :=
      resvTeardownAt_spec (deleteCell before cell after).reads
        (holds₁.run (Daemon.unlock .pathList)) enough
    -- `temp` is no cell of the reservation list
    have outside : cell.1 ∉ addresses resv :=
      fun here => holds.lists.apart here (by simp)
    have reads : d'.memory.heap cell.1 = _ :=
      (shrinks.frame cell.1 outside).trans deletes.reads
    refine ⟨d', resv', _, _, ?_, holds', shorter,
      { PointerDaemon.Moved.deleted deletes logs₁ with
        next := ⟨_, reads⟩
        logs := logs₁.trans logs' },
      (deletes.shrinks.behind _).trans (shrinks.before _), ?_⟩
    · simp only [resvTimerVisitAt, list.read, if_pos expired, called,
        Option.bind_eq_bind, Option.bind_some, PointerDaemon.run_memory,
        deletes.reads]
      exact torn
    · have after : d'.view resv' ((deleteCell before cell after).front ++
          (deleteCell before cell after).back) = _ := same.symm
      rw [deleteSession_contents, after]
      simp [resvVisit, PointerDaemon.view, Deletion.cells, tables]
  · rw [if_neg expired, resvTimerVisitAt_keep env list.read expired]
    refine ⟨_, resv, before ++ [cell], after, rfl, ?_, Nat.le_refl _,
      .kept rfl rfl list, ?_, ?_⟩
    · rw [← List.append_cons]
      exact holds.run _
    · rw [← List.append_cons]
      exact .refl _ _
    · simp [PointerDaemon.view]

theorem resvTimerLoopAt_spec {fuel : Nat} (before rest : Cells Session)
    (prev : Pointer) (holds : d.Holds resv (before ++ rest))
    (behind : rest ≠ [] → before ≠ [] → prev = final before)
    (enough : rest.length + resv.length < fuel) :
    ∃ d' resv' path', resvTimerLoopAt env fuel (entry rest none) prev d =
        some d' ∧
      d'.Holds resv' path' ∧ d.Logs d' ∧
      Shrinks d.memory d'.memory
        (addresses resv ++ addresses (before ++ rest))
        (addresses resv' ++ addresses path') ∧
      resvTimerLoop env (contents before) (contents rest)
        (d.view resv (before ++ rest)) = d'.view resv' path' := by
  induction fuel generalizing d resv before rest prev with
  | zero => exact absurd enough (Nat.not_lt_zero _)
  | succ fuel ih =>
      cases rest with
      | nil =>
          rw [List.append_nil] at holds ⊢
          refine ⟨d, resv, before, rfl, holds, .of_eq rfl, .refl _ _, ?_⟩
          rw [contents_nil, resvTimerLoop]
      | cons cell after =>
          rw [List.length_cons] at enough
          have room : resv.length < fuel := by omega
          obtain ⟨d₁, resv₁, front, back, visited, holds₁, shorter₁, moved,
              shrinks, same⟩ :=
            resvTimerVisitAt_spec env holds (behind (List.cons_ne_nil _ _))
              room
          obtain ⟨reads, next⟩ := moved.next
          have shorter := moved.shorter
          obtain ⟨d', resv', path', swept, holds', logs, shrinks', same'⟩ :=
            ih front back _ holds₁ moved.behind (by omega)
          refine ⟨d', resv', path', ?_, holds', moved.logs.trans logs,
            shrinks.trans shrinks', same.trans same'⟩
          rw [entry_cons, resvTimerLoopAt, visited]
          simp only [Option.bind_eq_bind, Option.bind_some, next]
          exact swept

end ResvSweep

/-- A daemon with its two lists in memory. -/
structure ListedDaemon where
  daemon : PointerDaemon
  resv : Cells Session
  path : Cells Session
  holds : daemon.Holds resv path

/-- The daemon with its lists as lists. -/
def ListedDaemon.view (start : ListedDaemon) : Daemon :=
  start.daemon.view start.resv start.path

/-- The cells of its lists. -/
def ListedDaemon.cells (start : ListedDaemon) : List Nat :=
  addresses start.resv ++ addresses start.path

theorem ListedDaemon.exists_view (d : Daemon) :
    ∃ start : ListedDaemon, start.view = d := by
  obtain ⟨heap, resv, resvContents, resvList, _, _⟩ :=
    exists_segment (fun _ => none) [] d.resvHead
  obtain ⟨after, path, pathContents, pathList, apart, kept⟩ :=
    exists_segment heap (addresses resv) d.pathHead
  have disjoint : List.Disjoint (addresses resv) (addresses path) :=
    fun _ here there => apart there here
  refine ⟨⟨⟨⟨after, []⟩, entry resv none, entry path none, d, []⟩, resv, path,
    ⟨⟨?_, pathList, disjoint, nofun, nofun⟩, rfl, rfl⟩⟩, ?_⟩
  · exact resvList.frame fun address member =>
      kept address (disjoint member)
  · rw [ListedDaemon.view, PointerDaemon.view, resvContents, pathContents]
    rfl

section Handlers

variable (env : Env) (start : ListedDaemon) (spare : Nat)

/-- In memory the path sweep does what it does on lists. -/
theorem pathTimerHandlerAt_refines :
    ∃ ended : ListedDaemon,
      pathTimerHandlerAt env (start.resv.length + 1 + spare) start.daemon =
        some ended.daemon ∧
      start.daemon.Logs ended.daemon ∧
      pathTimerHandler env start.view = ended.view ∧
      Shrinks start.daemon.memory ended.daemon.memory start.cells
        ended.cells := by
  have enough : start.resv.length < start.resv.length + 1 + spare := by
    omega
  obtain ⟨d', resv, swept, holds, logs, shrinks, same⟩ :=
    pathTimerLoopAt_spec env [] start.resv none start.holds
      (fun _ first => absurd rfl first) enough
  refine ⟨⟨d', resv, start.path, holds⟩, ?_, logs, same, shrinks.before _⟩
  rw [pathTimerHandlerAt, start.holds.resvHead]
  exact swept

/-- In memory the reservation sweep does what it does on lists. -/
theorem resvTimerHandlerAt_refines :
    ∃ ended : ListedDaemon,
      resvTimerHandlerAt env
          (start.path.length + start.resv.length + 1 + spare) start.daemon =
        some ended.daemon ∧
      start.daemon.Logs ended.daemon ∧
      resvTimerHandler env start.view = ended.view ∧
      Shrinks start.daemon.memory ended.daemon.memory start.cells
        ended.cells := by
  have enough : start.path.length + start.resv.length <
      start.path.length + start.resv.length + 1 + spare := by omega
  obtain ⟨d', resv, path, swept, holds, logs, shrinks, same⟩ :=
    resvTimerLoopAt_spec env [] start.path none start.holds
      (fun _ first => absurd rfl first) enough
  refine ⟨⟨d', resv, path, holds⟩, ?_, logs, same, shrinks⟩
  rw [resvTimerHandlerAt, start.holds.pathHead]
  exact swept

/-- On any two lists either handler ends with the lists that it computes
without addresses, and each of its calls of `delete_session` deletes the
session that it names. -/
theorem timerHandlers_delete_sound :
    (∃ ended : ListedDaemon,
      pathTimerHandlerAt env (start.resv.length + 1 + spare) start.daemon =
          some ended.daemon ∧
        start.daemon.Logs ended.daemon ∧
        pathTimerHandler env start.view = ended.view) ∧
    ∃ ended : ListedDaemon,
      resvTimerHandlerAt env
            (start.path.length + start.resv.length + 1 + spare)
            start.daemon = some ended.daemon ∧
        start.daemon.Logs ended.daemon ∧
        resvTimerHandler env start.view = ended.view := by
  obtain ⟨pathEnded, pathSwept, pathLogs, pathSame, _⟩ :=
    pathTimerHandlerAt_refines env start spare
  obtain ⟨resvEnded, resvSwept, resvLogs, resvSame, _⟩ :=
    resvTimerHandlerAt_refines env start spare
  exact ⟨⟨pathEnded, pathSwept, pathLogs, pathSame⟩,
    resvEnded, resvSwept, resvLogs, resvSame⟩

end Handlers

end Rsvpd
