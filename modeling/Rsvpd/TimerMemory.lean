import Rsvpd.SessionMemory
import Rsvpd.Timer

/-!
# The timer handlers on session lists in memory

The two sweeps of `timer_event.c` with `temp` and `prev` as pointers.  Each
call of `delete_session` is logged with the memory before and after it.  A
loop over a list has fuel, and gives `none` when it runs out of it or when the
C would write through a null pointer, write a freed cell or free one twice.
-/

namespace Rsvpd

open LinkedList

/-- The variables of the daemon with its session lists in memory; the lists of
`tables` stand for nothing. -/
structure PointerDaemon where
  memory : SessionMemory
  resvHead : Pointer
  pathHead : Pointer
  tables : Daemon
  calls : List DeleteCall

namespace PointerDaemon

/-- What does not touch the session lists. -/
def run (f : Daemon → Daemon) (d : PointerDaemon) : PointerDaemon :=
  { d with tables := f d.tables }

/-- `resv_head = delete_session(resv_head, sess, prev)`. -/
def deleteResv (sess prev : Pointer) (d : PointerDaemon) :
    Option PointerDaemon := do
  let (memory, head) ← deleteSessionAt d.memory d.resvHead sess prev
  return { d with
    memory
    resvHead := head
    tables := d.tables.emit (.assign .resvList)
    calls := d.calls ++ [⟨d.memory, d.resvHead, sess, prev, memory, head⟩] }

/-- `path_head = delete_session(path_head, sess, prev)`. -/
def deletePath (sess prev : Pointer) (d : PointerDaemon) :
    Option PointerDaemon := do
  let (memory, head) ← deleteSessionAt d.memory d.pathHead sess prev
  return { d with
    memory
    pathHead := head
    tables := d.tables.emit (.assign .pathList)
    calls := d.calls ++ [⟨d.memory, d.pathHead, sess, prev, memory, head⟩] }

end PointerDaemon

def pathTimerVisitAt (env : Env) (temp : Nat) (prev : Pointer)
    (d : PointerDaemon) : Option PointerDaemon := do
  let sess := (← d.memory.heap temp).content
  let d :=
    if sess.dest ≠ 0 ∧ sess.del = 0 then
      d.run (sendPathMessage env sess.tunnelId)
    else d
  if Expired env.now sess then
    let d := d.run (deleteResvNode sess.tunnelId)
    if sess.dest = 0 ∨ sess.del ≠ 0 then
      let d := d.run (Daemon.lock .resvList)
      let d ← d.deleteResv (some temp) prev
      return d.run (Daemon.unlock .resvList)
    else return d
  else return d

def pathTimerLoopAt (env : Env) :
    Nat → Pointer → Pointer → PointerDaemon → Option PointerDaemon
  | 0, _, _, _ => none
  | _ + 1, none, _, d => some d
  | fuel + 1, some temp, prev, d => do
      let d ← pathTimerVisitAt env temp prev d
      let next := (← d.memory.heap temp).next
      pathTimerLoopAt env fuel next (some temp) d

def pathTimerHandlerAt (env : Env) (fuel : Nat) (d : PointerDaemon) :
    Option PointerDaemon :=
  pathTimerLoopAt env fuel d.resvHead none d

/-- The loop over the reservation list, for the tunnel id that `temp` reads
as. -/
def resvListLoopAt (tunnelId : U16) :
    Nat → Pointer → Pointer → PointerDaemon → Option PointerDaemon
  | 0, _, _, _ => none
  | _ + 1, none, _, d => some d
  | fuel + 1, some temp1, prev1, d => do
      let cell ← d.memory.heap temp1
      if tunnelId = cell.content.tunnelId then
        d.deleteResv (some temp1) prev1
      else
        resvListLoopAt tunnelId fuel cell.next (some temp1) d

/-- The `if(temp->dest)` block after an expiry. -/
def resvTeardownAt (fuel : Nat) (temp : Session) (d : PointerDaemon) :
    Option PointerDaemon :=
  if temp.dest ≠ 0 then do
    let d := d.run (deleteResvNode temp.tunnelId)
    let d := d.run (Daemon.lock .resvList)
    let d ← resvListLoopAt temp.tunnelId fuel d.resvHead none d
    return d.run (Daemon.unlock .resvList)
  else some d

/-- The body of the loop, up to `prev = temp`. -/
def resvTimerVisitAt (env : Env) (fuel : Nat) (temp : Nat) (prev : Pointer)
    (d : PointerDaemon) : Option PointerDaemon := do
  let sess := (← d.memory.heap temp).content
  if Expired env.now sess then
    let d := d.run (deletePathNode sess.tunnelId)
    let d := d.run (Daemon.lock .pathList)
    let d ← d.deletePath (some temp) prev
    let d := d.run (Daemon.unlock .pathList)
    -- `temp` is read again, although its cell may have been freed
    let sess := (← d.memory.heap temp).content
    resvTeardownAt fuel sess d
  else if env.now - sess.lastPathTime < interval then
    return d
  else if sess.dest ≠ 0 then
    return d.run (sendResvMessage env sess.tunnelId)
  else return d

def resvTimerLoopAt (env : Env) :
    Nat → Pointer → Pointer → PointerDaemon → Option PointerDaemon
  | 0, _, _, _ => none
  | _ + 1, none, _, d => some d
  | fuel + 1, some temp, prev, d => do
      let d ← resvTimerVisitAt env fuel temp prev d
      let next := (← d.memory.heap temp).next
      resvTimerLoopAt env fuel next (some temp) d

def resvTimerHandlerAt (env : Env) (fuel : Nat) (d : PointerDaemon) :
    Option PointerDaemon :=
  resvTimerLoopAt env fuel d.pathHead none d

end Rsvpd
