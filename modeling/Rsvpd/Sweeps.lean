import Rsvpd.Handlers
import Rsvpd.Timer

/-!
# The timer handlers as sweeps

Each handler performs the visits of a sweep one after another, and each visit
changes the tables in a way that does not depend on the cursor.
-/

namespace Rsvpd

open Daemon Sweep

/-- What `path_timer_handler` does for a session before it touches the
list. -/
def pathRefresh (env : Env) (temp : Session) (d : Daemon) : Daemon :=
  let d :=
    if temp.dest ≠ 0 ∧ temp.del = 0 then sendPathMessage env temp.tunnelId d
    else d
  if Expired env.now temp then deleteResvNode temp.tunnelId d else d

/-- What `path_timer_handler` does at one visit. -/
def pathVisit (env : Env) (d : Daemon) : Visit Session → Daemon
  | .keep temp => pathRefresh env temp d
  | .delete temp _ list =>
      (((pathRefresh env temp d).lock .resvList).setResvHead list).unlock
        .resvList

/-- What `resv_timer_handler` does at one visit. -/
def resvVisit (env : Env) (d : Daemon) : Visit Session → Daemon
  | .keep temp =>
      if env.now - temp.lastPathTime < interval then d
      else if temp.dest ≠ 0 then sendResvMessage env temp.tunnelId d
      else d
  | .delete temp reads list =>
      let d := deletePathNode temp.tunnelId d
      let d := ((d.lock .pathList).setPathHead list).unlock .pathList
      resvTeardown reads d

theorem pathTimerLoop_cons (env : Env) (before after : List Session)
    (temp : Session) (d : Daemon) :
    pathTimerLoop env before (temp :: after) d =
      if Removable env.now temp then
        let deleted := deleteSession before temp after
        pathTimerLoop env deleted.1 deleted.2.2
          (pathVisit env d
            (.delete temp deleted.2.1 (deleted.1 ++ deleted.2.2)))
      else
        pathTimerLoop env (before ++ [temp]) after
          (pathVisit env d (.keep temp)) := by
  rw [pathTimerLoop]
  by_cases expired : Expired env.now temp
  · simp only [Removable, pathVisit, pathRefresh, expired, if_true,
      true_and]
  · simp only [Removable, pathVisit, pathRefresh, expired, if_false,
      false_and]

theorem resvTimerLoop_cons (env : Env) (before after : List Session)
    (temp : Session) (d : Daemon) :
    resvTimerLoop env before (temp :: after) d =
      if Expired env.now temp then
        let deleted := deleteSession before temp after
        resvTimerLoop env deleted.1 deleted.2.2
          (resvVisit env d
            (.delete temp deleted.2.1 (deleted.1 ++ deleted.2.2)))
      else
        resvTimerLoop env (before ++ [temp]) after
          (resvVisit env d (.keep temp)) := by
  rw [resvTimerLoop]
  simp only [resvVisit]
  split_ifs <;> rfl

theorem pathTimerLoop_visits (env : Env) (before rest : List Session)
    (d : Daemon) :
    pathTimerLoop env before rest d =
      (sweep (Removable env.now) before rest).foldl (pathVisit env) d := by
  apply loop_eq_foldl
  · intro before d
    rw [pathTimerLoop]
  · intro before temp after d
    rw [pathTimerLoop_cons, deleteSession_eq]

theorem resvTimerLoop_visits (env : Env) (before rest : List Session)
    (d : Daemon) :
    resvTimerLoop env before rest d =
      (sweep (Expired env.now) before rest).foldl (resvVisit env) d := by
  apply loop_eq_foldl
  · intro before d
    rw [resvTimerLoop]
  · intro before temp after d
    rw [resvTimerLoop_cons, deleteSession_eq]

section Nodes

variable (tunnelId : U16) (d : Daemon)

@[simp] theorem deletePathNode_frame :
    (deletePathNode tunnelId d).resvTree = d.resvTree ∧
      (deletePathNode tunnelId d).pathHead = d.pathHead ∧
      (deletePathNode tunnelId d).resvHead = d.resvHead ∧
      (deletePathNode tunnelId d).labelBitmap = d.labelBitmap ∧
      (deletePathNode tunnelId d).sent = d.sent ∧
      (deletePathNode tunnelId d).commands = d.commands := by
  unfold deletePathNode
  dsimp only
  split <;> simp

@[simp] theorem deletePathNode_find (target : U16) :
    (deletePathNode tunnelId d).pathTree.find target =
      if target = tunnelId then none else d.pathTree.find target := by
  unfold deletePathNode
  simp only [lock_pathTree]
  split
  case isTrue => simp [RecordTree.find_delete]
  case isFalse missing =>
    exact RecordTree.find_of_missing
      (Option.not_isSome_iff_eq_none.mp missing) target

@[simp] theorem deleteResvNode_frame :
    (deleteResvNode tunnelId d).pathTree = d.pathTree ∧
      (deleteResvNode tunnelId d).pathHead = d.pathHead ∧
      (deleteResvNode tunnelId d).resvHead = d.resvHead ∧
      (deleteResvNode tunnelId d).labelBitmap = d.labelBitmap ∧
      (deleteResvNode tunnelId d).sent = d.sent ∧
      (deleteResvNode tunnelId d).commands = d.commands := by
  unfold deleteResvNode
  dsimp only
  split <;> simp

@[simp] theorem deleteResvNode_find (target : U16) :
    (deleteResvNode tunnelId d).resvTree.find target =
      if target = tunnelId then none else d.resvTree.find target := by
  unfold deleteResvNode
  simp only [lock_resvTree]
  split
  case isTrue => simp [RecordTree.find_delete]
  case isFalse missing =>
    exact RecordTree.find_of_missing
      (Option.not_isSome_iff_eq_none.mp missing) target

end Nodes

section Visits

variable (env : Env) (temp : Session) (d : Daemon)

@[simp] theorem pathRefresh_resvHead :
    (pathRefresh env temp d).resvHead = d.resvHead := by
  unfold pathRefresh
  dsimp only
  split <;> split <;> simp

@[simp] theorem pathRefresh_frame :
    (pathRefresh env temp d).pathTree = d.pathTree ∧
      (pathRefresh env temp d).pathHead = d.pathHead ∧
      (pathRefresh env temp d).resvHead = d.resvHead ∧
      (pathRefresh env temp d).labelBitmap = d.labelBitmap ∧
      (pathRefresh env temp d).commands = d.commands := by
  unfold pathRefresh
  dsimp only
  split <;> split <;> simp

@[simp] theorem pathRefresh_find (target : U16) :
    (pathRefresh env temp d).resvTree.find target =
      if Expired env.now temp ∧ target = temp.tunnelId then none
      else d.resvTree.find target := by
  unfold pathRefresh
  dsimp only
  split <;> split <;> simp [*]

@[simp] theorem pathRefresh_sent :
    (pathRefresh env temp d).sent = d.sent ++
      if temp.dest ≠ 0 ∧ temp.del = 0 then
        ((d.pathTree.find temp.tunnelId).map (pathSend env)).toList
      else [] := by
  unfold pathRefresh
  dsimp only
  split <;> split <;> simp

@[simp] theorem resvTeardown_frame :
    (resvTeardown temp d).pathTree = d.pathTree ∧
      (resvTeardown temp d).pathHead = d.pathHead ∧
      (resvTeardown temp d).labelBitmap = d.labelBitmap ∧
      (resvTeardown temp d).sent = d.sent ∧
      (resvTeardown temp d).commands = d.commands := by
  unfold resvTeardown
  dsimp only
  split
  · split <;> simp
  · simp

@[simp] theorem resvTeardown_find (target : U16) :
    (resvTeardown temp d).resvTree.find target =
      if temp.dest ≠ 0 ∧ target = temp.tunnelId then none
      else d.resvTree.find target := by
  unfold resvTeardown
  split
  case isTrue destination =>
    dsimp only
    split <;> simp only [unlock_resvTree, setResvHead_resvTree,
      lock_resvTree, deleteResvNode_find, destination, true_and,
      ne_eq, not_false_eq_true]
  case isFalse notDestination =>
    rw [if_neg fun both => notDestination both.1]

@[simp] theorem resvTeardown_resvHead :
    (resvTeardown temp d).resvHead =
      if temp.dest ≠ 0 then
        d.resvHead.eraseP fun sess => temp.tunnelId = sess.tunnelId
      else d.resvHead := by
  have erased := deleteResvSession_eq temp.tunnelId [] d.resvHead
  simp only [List.nil_append] at erased
  unfold resvTeardown
  split
  · simp only [lock_resvHead, deleteResvNode_frame]
    rw [← erased]
    cases deleteResvSession temp.tunnelId [] d.resvHead <;> simp
  · rfl

end Visits

/-- The tunnel id whose reservation record the path sweep removes at a
visit. -/
def pathTears (now : Int) (visit : Visit Session) : Option U16 :=
  if Expired now visit.cell then some visit.cell.tunnelId else none

/-- The tunnel id whose path record the reservation sweep removes. -/
def pathRemoves : Visit Session → Option U16
  | .keep _ => none
  | .delete temp _ _ => some temp.tunnelId

/-- The tunnel id whose reservation the reservation sweep tears down. -/
def resvTears : Visit Session → Option U16
  | .keep _ => none
  | .delete _ reads _ => if reads.dest ≠ 0 then some reads.tunnelId else none

theorem resvTears_delete {temp reads : Session} {list : List Session}
    {target : U16} :
    resvTears (.delete temp reads list) = some target ↔
      reads.dest ≠ 0 ∧ target = reads.tunnelId := by
  rw [resvTears]
  split
  case isTrue destination =>
    rw [Option.some_inj, and_iff_right destination, eq_comm]
  case isFalse notDestination =>
    exact iff_of_false (Option.some_ne_none _).symm
      fun both => notDestination both.1

section Visit

variable (env : Env) (visit : Visit Session) (d : Daemon)

@[simp] theorem pathVisit_frame :
    (pathVisit env d visit).pathTree = d.pathTree ∧
      (pathVisit env d visit).pathHead = d.pathHead ∧
      (pathVisit env d visit).labelBitmap = d.labelBitmap ∧
      (pathVisit env d visit).commands = d.commands := by
  cases visit <;> simp [pathVisit]

@[simp] theorem pathVisit_resvHead :
    (pathVisit env d visit).resvHead = visit.listAfter d.resvHead := by
  cases visit <;> simp [pathVisit, Visit.listAfter]

@[simp] theorem pathVisit_find (target : U16) :
    (pathVisit env d visit).resvTree.find target =
      if pathTears env.now visit = some target then none
      else d.resvTree.find target := by
  have refreshed (temp : Session) :
      (pathRefresh env temp d).resvTree.find target =
        if pathTears env.now (.keep temp) = some target then none
        else d.resvTree.find target := by
    by_cases expired : Expired env.now temp
    · simp [pathTears, Visit.cell, expired, eq_comm]
    · simp [pathTears, Visit.cell, expired]
  cases visit with
  | keep temp => exact refreshed temp
  | delete temp reads list =>
      simp only [pathVisit, unlock_resvTree, setResvHead_resvTree,
        lock_resvTree]
      exact refreshed temp

@[simp] theorem resvVisit_frame :
    (resvVisit env d visit).labelBitmap = d.labelBitmap ∧
      (resvVisit env d visit).commands = d.commands := by
  cases visit with
  | keep temp =>
      simp only [resvVisit]
      split
      · simp
      · split <;> simp
  | delete temp reads list => simp [resvVisit]

@[simp] theorem resvVisit_pathHead :
    (resvVisit env d visit).pathHead = visit.listAfter d.pathHead := by
  cases visit with
  | keep temp =>
      simp only [resvVisit, Visit.listAfter]
      split
      · simp
      · split <;> simp
  | delete temp reads list => simp [resvVisit, Visit.listAfter]

@[simp] theorem resvVisit_findPath (target : U16) :
    (resvVisit env d visit).pathTree.find target =
      if pathRemoves visit = some target then none
      else d.pathTree.find target := by
  cases visit with
  | keep temp =>
      simp only [resvVisit, pathRemoves]
      split
      · simp
      · split <;> simp
  | delete temp reads list => simp [resvVisit, pathRemoves, eq_comm]

@[simp] theorem resvVisit_findResv (target : U16) :
    (resvVisit env d visit).resvTree.find target =
      if resvTears visit = some target then none
      else d.resvTree.find target := by
  cases visit with
  | keep temp =>
      simp only [resvVisit, resvTears]
      split
      · simp
      · split <;> simp
  | delete temp reads list =>
      simp only [resvTears_delete, resvVisit, resvTeardown_find,
        unlock_resvTree, setPathHead_resvTree, lock_resvTree,
        deletePathNode_frame]

theorem resvVisit_resvHead :
    (resvVisit env d visit).resvHead =
      match resvTears visit with
      | none => d.resvHead
      | some tunnelId =>
          d.resvHead.eraseP fun sess => tunnelId = sess.tunnelId := by
  cases visit with
  | keep temp =>
      simp only [resvVisit, resvTears]
      split
      · rfl
      · split <;> simp
  | delete temp reads list =>
      simp only [resvVisit, resvTears, resvTeardown_resvHead]
      split <;> simp

end Visit

/-- The visits of `path_timer_handler`. -/
def pathVisits (env : Env) (d : Daemon) : List (Visit Session) :=
  sweep (Removable env.now) [] d.resvHead

/-- The visits of `resv_timer_handler`. -/
def resvVisits (env : Env) (d : Daemon) : List (Visit Session) :=
  sweep (Expired env.now) [] d.pathHead

section Handlers

variable (env : Env) (d : Daemon)

theorem pathTimerHandler_visits :
    pathTimerHandler env d = (pathVisits env d).foldl (pathVisit env) d :=
  pathTimerLoop_visits env [] d.resvHead d

theorem resvTimerHandler_visits :
    resvTimerHandler env d = (resvVisits env d).foldl (resvVisit env) d :=
  resvTimerLoop_visits env [] d.pathHead d

@[simp] theorem pathTimerHandler_frame :
    (pathTimerHandler env d).pathTree = d.pathTree ∧
      (pathTimerHandler env d).pathHead = d.pathHead ∧
      (pathTimerHandler env d).labelBitmap = d.labelBitmap ∧
      (pathTimerHandler env d).commands = d.commands := by
  rw [pathTimerHandler_visits]
  refine ⟨?_, ?_, ?_, ?_⟩
  all_goals
    apply foldl_keeps
    simp

theorem pathTimerHandler_resvHead :
    (pathTimerHandler env d).resvHead =
      remaining (Removable env.now) [] d.resvHead := by
  rw [pathTimerHandler_visits]
  exact (List.foldl_hom Daemon.resvHead
    fun d visit => (pathVisit_resvHead env visit d).symm).symm

theorem pathTimerHandler_find (target : U16) :
    (pathTimerHandler env d).resvTree.find target =
      if target ∈ (pathVisits env d).filterMap (pathTears env.now) then none
      else d.resvTree.find target := by
  rw [pathTimerHandler_visits]
  exact foldl_removes (pathVisit env) (fun d => d.resvTree.find)
    (fun d visit target => pathVisit_find env visit d target) _ d target

@[simp] theorem resvTimerHandler_frame :
    (resvTimerHandler env d).labelBitmap = d.labelBitmap ∧
      (resvTimerHandler env d).commands = d.commands := by
  rw [resvTimerHandler_visits]
  constructor
  all_goals
    apply foldl_keeps
    simp

theorem resvTimerHandler_pathHead :
    (resvTimerHandler env d).pathHead =
      remaining (Expired env.now) [] d.pathHead := by
  rw [resvTimerHandler_visits]
  exact (List.foldl_hom Daemon.pathHead
    fun d visit => (resvVisit_pathHead env visit d).symm).symm

theorem resvTimerHandler_findPath (target : U16) :
    (resvTimerHandler env d).pathTree.find target =
      if target ∈ (resvVisits env d).filterMap pathRemoves then none
      else d.pathTree.find target := by
  rw [resvTimerHandler_visits]
  exact foldl_removes (resvVisit env) (fun d => d.pathTree.find)
    (fun d visit target => resvVisit_findPath env visit d target) _ d target

theorem resvTimerHandler_findResv (target : U16) :
    (resvTimerHandler env d).resvTree.find target =
      if target ∈ (resvVisits env d).filterMap resvTears then none
      else d.resvTree.find target := by
  rw [resvTimerHandler_visits]
  exact foldl_removes (resvVisit env) (fun d => d.resvTree.find)
    (fun d visit target => resvVisit_findResv env visit d target) _ d target

theorem resvTimerHandler_resvHead :
    (resvTimerHandler env d).resvHead =
      eraseSessions ((resvVisits env d).filterMap resvTears)
        d.resvHead := by
  rw [resvTimerHandler_visits]
  generalize resvVisits env d = visits
  induction visits generalizing d with
  | nil => rfl
  | cons visit visits ih =>
      rw [List.foldl_cons, ih, resvVisit_resvHead]
      cases tears : resvTears visit with
      | none => rw [List.filterMap_cons_none tears]
      | some tunnelId => rw [List.filterMap_cons_some tears]; rfl

/-- The path sweep removes the reservation record of this tunnel id. -/
def PathTornDown (tunnelId : U16) : Prop :=
  ∃ temp, Visits (Removable env.now) d.resvHead temp ∧
    Expired env.now temp ∧ temp.tunnelId = tunnelId

/-- The reservation sweep tears down the reservation of this tunnel id. -/
def ResvTornDown (tunnelId : U16) : Prop :=
  ∃ temp, Reads (Expired env.now) d.pathHead temp ∧
    temp.dest ≠ 0 ∧ temp.tunnelId = tunnelId

variable {env d}

theorem mem_pathTears {tunnelId : U16} :
    tunnelId ∈ (pathVisits env d).filterMap (pathTears env.now) ↔
      PathTornDown env d tunnelId := by
  simp only [List.mem_filterMap, pathTears, Option.ite_none_right_eq_some,
    Option.some_inj, PathTornDown, ← mem_sweep_iff_visits]
  constructor
  · rintro ⟨visit, member, expired, same⟩
    exact ⟨_, ⟨visit, member, rfl⟩, expired, same⟩
  · rintro ⟨_, ⟨visit, member, rfl⟩, expired, same⟩
    exact ⟨visit, member, expired, same⟩

theorem mem_resvTears {tunnelId : U16} :
    tunnelId ∈ (resvVisits env d).filterMap resvTears ↔
      ResvTornDown env d tunnelId := by
  simp only [List.mem_filterMap, ResvTornDown, ← mem_sweep_iff_reads]
  constructor
  · rintro ⟨visit, member, tears⟩
    cases visit with
    | keep temp => cases tears
    | delete temp reads list =>
        obtain ⟨destination, same⟩ := resvTears_delete.mp tears
        exact ⟨reads, ⟨temp, list, member⟩, destination, same.symm⟩
  · rintro ⟨reads, ⟨temp, list, member⟩, destination, same⟩
    exact ⟨_, member, resvTears_delete.mpr ⟨destination, same.symm⟩⟩

theorem mem_pathRemoves {tunnelId : U16} :
    tunnelId ∈ (resvVisits env d).filterMap pathRemoves ↔
      ∃ temp ∈ deletions (Expired env.now) [] d.pathHead,
        temp.tunnelId = tunnelId := by
  have removes (visit : Visit Session) :
      pathRemoves visit = visit.deleted?.map Session.tunnelId := by
    cases visit <;> rfl
  simp only [funext removes, ← List.map_filterMap, List.mem_map]
  rfl

variable (env) in
/-- The reservation sweep removes the same tunnels from the path list and from
the path tree. -/
theorem resvTimerHandler_findSession (distinct : DistinctIds d.pathHead)
    (target : U16) :
    findSession target (resvTimerHandler env d).pathHead =
      if target ∈ (resvVisits env d).filterMap pathRemoves then none
      else findSession target d.pathHead := by
  rw [resvTimerHandler_pathHead, distinct.findSession_remaining]
  simp only [mem_pathRemoves]

theorem pathTimerHandler_findTorn {tunnelId : U16}
    (torn : PathTornDown env d tunnelId) :
    (pathTimerHandler env d).resvTree.find tunnelId = none := by
  rw [pathTimerHandler_find, if_pos (mem_pathTears.mpr torn)]

theorem pathTimerHandler_findKept {tunnelId : U16}
    (kept : ¬PathTornDown env d tunnelId) :
    (pathTimerHandler env d).resvTree.find tunnelId =
      d.resvTree.find tunnelId := by
  rw [pathTimerHandler_find, if_neg (mt mem_pathTears.mp kept)]

theorem resvTimerHandler_findTorn {tunnelId : U16}
    (torn : ResvTornDown env d tunnelId) :
    (resvTimerHandler env d).resvTree.find tunnelId = none := by
  rw [resvTimerHandler_findResv, if_pos (mem_resvTears.mpr torn)]

theorem resvTimerHandler_findKept {tunnelId : U16}
    (kept : ¬ResvTornDown env d tunnelId) :
    (resvTimerHandler env d).resvTree.find tunnelId =
      d.resvTree.find tunnelId := by
  rw [resvTimerHandler_findResv, if_neg (mt mem_resvTears.mp kept)]

theorem pathTimerHandler_findSome {tunnelId : U16} {r : ResvMsg}
    (found : (pathTimerHandler env d).resvTree.find tunnelId = some r) :
    d.resvTree.find tunnelId = some r ∧ ¬PathTornDown env d tunnelId := by
  by_cases torn : PathTornDown env d tunnelId
  · rw [pathTimerHandler_findTorn torn] at found
    cases found
  · rw [pathTimerHandler_findKept torn] at found
    exact ⟨found, torn⟩

theorem resvTimerHandler_findSome {tunnelId : U16} {r : ResvMsg}
    (found : (resvTimerHandler env d).resvTree.find tunnelId = some r) :
    d.resvTree.find tunnelId = some r ∧ ¬ResvTornDown env d tunnelId := by
  by_cases torn : ResvTornDown env d tunnelId
  · rw [resvTimerHandler_findTorn torn] at found
    cases found
  · rw [resvTimerHandler_findKept torn] at found
    exact ⟨found, torn⟩

theorem resvTimerHandler_findPathSome {tunnelId : U16} {p : PathMsg}
    (found : (resvTimerHandler env d).pathTree.find tunnelId = some p) :
    d.pathTree.find tunnelId = some p := by
  rw [resvTimerHandler_findPath] at found
  split at found
  case isTrue => cases found
  case isFalse => exact found

theorem pathVisit_sent (visit : Visit Session) (d : Daemon) :
    (pathVisit env d visit).sent = d.sent ++
      if visit.cell.dest ≠ 0 ∧ visit.cell.del = 0 then
        ((d.pathTree.find visit.cell.tunnelId).map (pathSend env)).toList
      else [] := by
  cases visit with
  | keep temp => exact pathRefresh_sent env temp d
  | delete temp reads list =>
      simp only [pathVisit, unlock_sent, setResvHead_sent, lock_sent,
        pathRefresh_sent]
      rfl

theorem resvVisit_sent (visit : Visit Session) (d : Daemon) :
    ∃ new, (resvVisit env d visit).sent = d.sent ++ new ∧
      ∀ message ∈ new, ∃ r, (∃ temp, visit = .keep temp) ∧
        interval ≤ env.now - visit.cell.lastPathTime ∧
        visit.cell.dest ≠ 0 ∧
        d.resvTree.find visit.cell.tunnelId = some r ∧
        message = resvSend env r := by
  cases visit with
  | keep temp =>
      simp only [resvVisit]
      split
      case isTrue => exact ⟨[], by simp, by simp⟩
      case isFalse due =>
        split
        case isTrue destination =>
          refine ⟨_, sendResvMessage_sent env temp.tunnelId d, ?_⟩
          intro message member
          obtain ⟨r, found, same⟩ :=
            Option.map_eq_some_iff.mp (Option.mem_toList.mp member)
          exact ⟨r, ⟨temp, rfl⟩, not_lt.mp due, destination, found,
            same.symm⟩
        case isFalse => exact ⟨[], by simp, by simp⟩
  | delete temp reads list => exact ⟨[], by simp [resvVisit], by simp⟩

variable (env d) in
theorem pathTimerHandler_sent :
    ∃ new, (pathTimerHandler env d).sent = d.sent ++ new ∧
      ∀ message ∈ new, ∃ tunnelId p,
        d.pathTree.find tunnelId = some p ∧ message = pathSend env p := by
  rw [pathTimerHandler_visits]
  refine foldl_appends (pathVisit env) sent
    (fun d' => d'.pathTree = d.pathTree) ?_ rfl
  intro d' visit _ kept
  refine ⟨by simpa using kept, _, pathVisit_sent visit d', ?_⟩
  intro message member
  split at member
  case isTrue =>
    obtain ⟨p, found, same⟩ :=
      Option.map_eq_some_iff.mp (Option.mem_toList.mp member)
    rw [kept] at found
    exact ⟨_, p, found, same.symm⟩
  case isFalse => cases member

variable (env d) in
/-- The reservation sweep refreshes the reservation of this tunnel id. -/
def ResvRefreshed (tunnelId : U16) : Prop :=
  ∃ temp, Visits (Expired env.now) d.pathHead temp ∧
    ¬Expired env.now temp ∧ interval ≤ env.now - temp.lastPathTime ∧
    temp.dest ≠ 0 ∧ temp.tunnelId = tunnelId

variable (env d) in
theorem resvTimerHandler_refreshes :
    ∃ new, (resvTimerHandler env d).sent = d.sent ++ new ∧
      ∀ message ∈ new, ∃ tunnelId r, ResvRefreshed env d tunnelId ∧
        d.resvTree.find tunnelId = some r ∧ message = resvSend env r := by
  rw [resvTimerHandler_visits]
  refine foldl_appends (resvVisit env) sent
    (fun d' => ∀ tunnelId r, d'.resvTree.find tunnelId = some r →
      d.resvTree.find tunnelId = some r) ?_ fun _ _ found => found
  intro d' visit member kept
  constructor
  · intro tunnelId r found
    rw [resvVisit_findResv] at found
    split at found
    case isTrue => cases found
    case isFalse => exact kept tunnelId r found
  · obtain ⟨new, shape, allowed⟩ := resvVisit_sent visit d'
    refine ⟨new, shape, ?_⟩
    intro message answered
    obtain ⟨r, ⟨temp, rfl⟩, due, destination, found, same⟩ :=
      allowed message answered
    have visited := mem_sweep_iff_visits.mp ⟨_, member, rfl⟩
    have live : ¬Expired env.now temp := fits_of_mem member
    exact ⟨temp.tunnelId, r, ⟨temp, visited, live, due, destination, rfl⟩,
      kept temp.tunnelId r found, same⟩

variable (env d) in
/-- The reservation sweep sends RESVs from the records that the node holds. -/
theorem resvTimerHandler_sent :
    ∃ new, (resvTimerHandler env d).sent = d.sent ++ new ∧
      ∀ message ∈ new, ∃ tunnelId r,
        d.resvTree.find tunnelId = some r ∧ message = resvSend env r := by
  obtain ⟨new, shape, allowed⟩ := resvTimerHandler_refreshes env d
  refine ⟨new, shape, fun message member => ?_⟩
  obtain ⟨tunnelId, r, _, found, same⟩ := allowed message member
  exact ⟨tunnelId, r, found, same⟩

theorem pathTimerHandler_nil (empty : d.resvHead = []) :
    pathTimerHandler env d = d := by
  simp [pathTimerHandler_visits, pathVisits, empty]

theorem resvTimerHandler_nil (empty : d.pathHead = []) :
    resvTimerHandler env d = d := by
  simp [resvTimerHandler_visits, resvVisits, empty]

end Handlers

end Rsvpd
