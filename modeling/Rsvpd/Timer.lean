import Rsvpd.Daemon

/-!
# The timer handlers

The two sweeps of `timer_event.c`.  Each loop has a cursor: the cells in front
of `temp`, and the cells from `temp` on.  `temp` keeps being read after
`delete_session`, so the loops use what it reads as then.
-/

namespace Rsvpd

def timeout : Int := 90
def interval : Int := 30

/-- `now - temp->last_path_time > TIMEOUT`. -/
def Expired (now : Int) (sess : Session) : Prop :=
  now - sess.lastPathTime > timeout

instance (now : Int) : DecidablePred (Expired now) := fun _ =>
  inferInstanceAs (Decidable (_ > _))

/-- Remove the reservation record of a tunnel id if there is one, under the
lock. -/
def deleteResvNode (tunnelId : U16) (d : Daemon) : Daemon :=
  let d := d.lock .resvTree
  let d :=
    if (d.resvTree.find tunnelId).isSome then
      d.setResvTree (d.resvTree.delete tunnelId)
    else d
  d.unlock .resvTree

/-- Remove the path record of a tunnel id if there is one, under the lock. -/
def deletePathNode (tunnelId : U16) (d : Daemon) : Daemon :=
  let d := d.lock .pathTree
  let d :=
    if (d.pathTree.find tunnelId).isSome then
      d.setPathTree (d.pathTree.delete tunnelId)
    else d
  d.unlock .pathTree

/-- A reservation session that the path sweep removes from the list. -/
def Removable (now : Int) (sess : Session) : Prop :=
  Expired now sess ∧ (sess.dest = 0 ∨ sess.del ≠ 0)

instance (now : Int) : DecidablePred (Removable now) := fun _ =>
  inferInstanceAs (Decidable (_ ∧ _))

def pathTimerLoop (env : Env) (before rest : List Session) (d : Daemon) :
    Daemon :=
  match rest with
  | [] => d
  | temp :: after =>
      let d :=
        if temp.dest ≠ 0 ∧ temp.del = 0 then
          sendPathMessage env temp.tunnelId d
        else d
      if Expired env.now temp then
        let d := deleteResvNode temp.tunnelId d
        if temp.dest = 0 ∨ temp.del ≠ 0 then
          let deleted := deleteSession before temp after
          let d := ((d.lock .resvList).setResvHead
            (deleted.1 ++ deleted.2.2)).unlock .resvList
          pathTimerLoop env deleted.1 deleted.2.2 d
        else
          pathTimerLoop env (before ++ [temp]) after d
      else
        pathTimerLoop env (before ++ [temp]) after d
termination_by rest.length
decreasing_by
  · rw [deleteSession_eq]
    exact Nat.lt_succ_of_le (Sweep.deleteInPlace_length _ _ _)
  · simp
  · simp

def pathTimerHandler (env : Env) (d : Daemon) : Daemon :=
  pathTimerLoop env [] d.resvHead d

/-- The `if(temp->dest)` block after an expiry, for the contents that `temp`
reads as at that point. -/
def resvTeardown (temp : Session) (d : Daemon) : Daemon :=
  if temp.dest ≠ 0 then
    let d := deleteResvNode temp.tunnelId d
    let d := d.lock .resvList
    let d :=
      match deleteResvSession temp.tunnelId [] d.resvHead with
      | none => d
      | some head => d.setResvHead head
    d.unlock .resvList
  else d

def resvTimerLoop (env : Env) (before rest : List Session) (d : Daemon) :
    Daemon :=
  match rest with
  | [] => d
  | temp :: after =>
      if Expired env.now temp then
        let d := deletePathNode temp.tunnelId d
        let deleted := deleteSession before temp after
        let d := ((d.lock .pathList).setPathHead
          (deleted.1 ++ deleted.2.2)).unlock .pathList
        resvTimerLoop env deleted.1 deleted.2.2 (resvTeardown deleted.2.1 d)
      else if env.now - temp.lastPathTime < interval then
        resvTimerLoop env (before ++ [temp]) after d
      else
        let d :=
          if temp.dest ≠ 0 then sendResvMessage env temp.tunnelId d else d
        resvTimerLoop env (before ++ [temp]) after d
termination_by rest.length
decreasing_by
  · rw [deleteSession_eq]
    exact Nat.lt_succ_of_le (Sweep.deleteInPlace_length _ _ _)
  · simp
  · simp

def resvTimerHandler (env : Env) (d : Daemon) : Daemon :=
  resvTimerLoop env [] d.pathHead d

end Rsvpd
